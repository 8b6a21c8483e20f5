import Mathlib

/-!
# Taking the elements of a heap in order

Functions that build a heap and take its greatest element away are described by
what they promise for a strict weak order.  Taking all elements away one after
the other gives them in order.
-/

namespace OpenBsw

open List

universe u

variable {α : Type u} {less other : α → α → Bool} {list rest : List α}

/-- A strict weak order of the elements that meet a condition. -/
structure StrictWeakOn (less : α → α → Bool) (Element : α → Prop) : Prop where
  asymm : ∀ {a b}, Element a → Element b → less a b = true → less b a = false
  negTrans : ∀ {a b c}, Element a → Element b → Element c →
    less a b = false → less b c = false → less a c = false

theorem StrictWeakOn.mono {Element Fewer : α → Prop} (weak : StrictWeakOn less Element)
    (fewer : ∀ a, Fewer a → Element a) : StrictWeakOn less Fewer where
  asymm := fun first second => weak.asymm (fewer _ first) (fewer _ second)
  negTrans := fun first second third =>
    weak.negTrans (fewer _ first) (fewer _ second) (fewer _ third)

theorem StrictWeakOn.congr {Element : α → Prop} (weak : StrictWeakOn less Element)
    (same : ∀ a, Element a → ∀ b, Element b → less a b = other a b) :
    StrictWeakOn other Element where
  asymm := by
    intro a b first second
    rw [← same a first b second, ← same b second a first]
    exact weak.asymm first second
  negTrans := by
    intro a b c first second third
    rw [← same a first b second, ← same b second c third, ← same a first c third]
    exact weak.negTrans first second third

/-- No element is greater than the one at half its position. -/
def IsHeap (less : α → α → Bool) (list : List α) : Prop :=
  ∀ child, 0 < child → ∀ parent ∈ list[(child - 1) / 2]?, ∀ element ∈ list[child]?,
    less parent element = false

theorem IsHeap.congr (heap : IsHeap less list)
    (same : ∀ a ∈ list, ∀ b ∈ list, less a b = other a b) : IsHeap other list := by
  intro child positive parent isParent element isElement
  rw [← same parent (mem_of_getElem? isParent) element (mem_of_getElem? isElement)]
  exact heap child positive parent isParent element isElement

/-- What is relied on of functions that make a heap and move its greatest element to the end. -/
structure LawfulHeap (makeHeap popHeap : (α → α → Bool) → List α → List α) : Prop where
  make : ∀ {less list}, StrictWeakOn less (· ∈ list) →
    (makeHeap less list).Perm list ∧ IsHeap less (makeHeap less list)
  pop : ∀ {less list}, StrictWeakOn less (· ∈ list) → IsHeap less list → list ≠ [] →
    ∃ rest top, popHeap less list = rest ++ [top] ∧ (top :: rest).Perm list ∧
      IsHeap less rest ∧ ∀ element ∈ rest, less top element = false

/-- The elements of a heap in the order in which they are taken away. -/
theorem LawfulHeap.exists_sorted {makeHeap popHeap : (α → α → Bool) → List α → List α}
    (lawful : LawfulHeap makeHeap popHeap) (weak : StrictWeakOn less (· ∈ list))
    (heap : IsHeap less list) :
    ∃ order : List α, order.Perm list ∧ order.Pairwise fun first second =>
      less first second = false := by
  generalize size : list.length = count
  induction count generalizing list with
  | zero => exact ⟨list, .refl _, length_eq_zero_iff.mp size ▸ .nil⟩
  | succ count ih =>
    have nonempty : list ≠ [] := by
      rintro rfl
      cases size
    obtain ⟨rest, top, _, perm, heapRest, greatest⟩ := lawful.pop weak heap nonempty
    have sizeRest : rest.length = count := by
      have := perm.length_eq
      rw [length_cons] at this
      omega
    have fewer : ∀ element ∈ rest, element ∈ list := fun element member =>
      perm.subset (mem_cons_of_mem _ member)
    obtain ⟨order, permOrder, sorted⟩ := ih (weak.mono fewer) heapRest sizeRest
    refine ⟨top :: order, (permOrder.cons top).trans perm, .cons ?_ sorted⟩
    exact fun element member => greatest element (permOrder.subset member)

/-! ## Sorted lists as heaps -/

/-- No element of a heap is greater than its first one. -/
theorem IsHeap.first_greatest {top : α} (heap : IsHeap less (top :: rest))
    (weak : StrictWeakOn less (· ∈ top :: rest)) :
    ∀ element ∈ top :: rest, less top element = false := by
  intro element member
  obtain ⟨position, present⟩ := mem_iff_getElem?.mp member
  induction position using Nat.strong_induction_on generalizing element with
  | _ position ih =>
    rcases Nat.eq_zero_or_pos position with rfl | positive
    · obtain rfl : top = element := Option.some.inj present
      by_contra notFalse
      have greater := Bool.eq_true_of_not_eq_false notFalse
      rw [weak.asymm member member greater] at greater
      cases greater
    · have lower : (position - 1) / 2 < position := by omega
      have within := (List.getElem?_eq_some_iff.mp present).1
      have before := List.getElem?_eq_getElem (Nat.lt_trans lower within)
      have parentMember := mem_of_getElem? before
      exact weak.negTrans mem_cons_self parentMember member
        (ih _ lower _ parentMember before) (heap position positive _ before element present)

theorem isHeap_of_sorted (sorted : list.Pairwise fun first second => less first second = false) :
    IsHeap less list := by
  intro child positive parent isParent element isElement
  obtain ⟨parentInside, rfl⟩ := List.getElem?_eq_some_iff.mp isParent
  obtain ⟨inside, rfl⟩ := List.getElem?_eq_some_iff.mp isElement
  exact pairwise_iff_getElem.mp sorted _ _ parentInside inside (by omega)

/-- Put an element behind the greater ones. -/
def insertDown (less : α → α → Bool) (new : α) : List α → List α
  | [] => [new]
  | first :: rest =>
    if less new first then first :: insertDown less new rest else new :: first :: rest

def sortDown (less : α → α → Bool) (list : List α) : List α :=
  list.foldr (insertDown less) []

theorem insertDown_perm {new : α} : (insertDown less new list).Perm (new :: list) := by
  induction list with
  | nil => exact .refl _
  | cons first rest ih =>
    rw [insertDown]
    split
    · exact (ih.cons first).trans (.swap new first rest)
    · exact .refl _

theorem insertDown_sorted {new : α} (weak : StrictWeakOn less (· ∈ new :: list))
    (sorted : list.Pairwise fun first second => less first second = false) :
    (insertDown less new list).Pairwise fun first second => less first second = false := by
  induction list with
  | nil => exact .cons (fun _ absent => absurd absent not_mem_nil) .nil
  | cons first rest ih =>
    obtain ⟨behind, sortedRest⟩ := pairwise_cons.mp sorted
    have newMember : new ∈ new :: first :: rest := mem_cons_self
    have firstMember : first ∈ new :: first :: rest := mem_cons_of_mem _ mem_cons_self
    rw [insertDown]
    by_cases greater : less new first = true
    · rw [if_pos greater]
      refine .cons (fun element member => ?_) (ih (weak.mono fun element member => ?_) sortedRest)
      · rcases mem_cons.mp (insertDown_perm.subset member) with rfl | later
        · exact weak.asymm newMember firstMember greater
        · exact behind element later
      · rcases mem_cons.mp member with rfl | later
        · exact mem_cons_self
        · exact mem_cons_of_mem _ (mem_cons_of_mem _ later)
    · rw [if_neg greater]
      have notLess := Bool.eq_false_of_not_eq_true greater
      refine .cons (fun element member => ?_) sorted
      rcases mem_cons.mp member with rfl | later
      · exact notLess
      · exact weak.negTrans newMember firstMember
          (mem_cons_of_mem _ (mem_cons_of_mem _ later)) notLess (behind element later)

theorem sortDown_perm : (sortDown less list).Perm list := by
  induction list with
  | nil => exact .refl _
  | cons first rest ih => exact insertDown_perm.trans (ih.cons first)

theorem sortDown_sorted (weak : StrictWeakOn less (· ∈ list)) :
    (sortDown less list).Pairwise fun first second => less first second = false := by
  induction list with
  | nil => exact .nil
  | cons first rest ih =>
    refine insertDown_sorted (weak.mono fun element member => ?_)
      (ih (weak.mono fun element member => mem_cons_of_mem _ member))
    rcases mem_cons.mp member with rfl | later
    · exact mem_cons_self
    · exact mem_cons_of_mem _ (sortDown_perm.subset later)

/-- Move the first element to the end and sort the others. -/
def popSorted (less : α → α → Bool) : List α → List α
  | [] => []
  | top :: rest => sortDown less rest ++ [top]

/-- Sorting is a way to make a heap, and to mend it after its first element was taken. -/
theorem lawfulHeap_sorted : LawfulHeap (sortDown : (α → α → Bool) → List α → List α) popSorted where
  make := fun weak => ⟨sortDown_perm, isHeap_of_sorted (sortDown_sorted weak)⟩
  pop := by
    intro less list weak heap nonempty
    cases list with
    | nil => exact absurd rfl nonempty
    | cons top rest =>
      have weakRest : StrictWeakOn less (· ∈ rest) :=
        weak.mono fun element member => mem_cons_of_mem _ member
      refine ⟨sortDown less rest, top, rfl, sortDown_perm.cons top,
        isHeap_of_sorted (sortDown_sorted weakRest), fun element member => ?_⟩
      exact heap.first_greatest weak element
        (mem_cons_of_mem _ (sortDown_perm.subset member))

end OpenBsw
