import OpenBsw.Shed.Sweep

/-!
# Visiting rows in order

Ordered operations collect the rows whose compared columns are set, make a heap
of them and take one after the other away while the callback wants to go on.
A callback changes the values of a row that has already left the heap, so that
the order is the one of the values at the start.
-/

namespace OpenBsw.Shed

universe u

variable {T R : Type u} {n states dst rounds i : Nat} {generations : Nat → Nat}
  {rows : Rows T R} {f : Callback T R MoveOp} {comparators : List (Comparator R)}
  {heap : HeapFunctions} {moving : Table.Moving T R}

/-! ## Comparators -/

/-- The comparison of the heap is the lexicographic one with its arguments exchanged. -/
theorem lessThan_eq {a b : R} : Comparator.lessThan comparators a b = lexLess comparators b a := by
  induction comparators with
  | nil => rfl
  | cons comparator rest ih => rw [Comparator.lessThan, lexLess, ih]

/-- Each comparator is a strict weak order of the rows that it is set for. -/
def Lawful (comparators : List (Comparator R)) : Prop :=
  ∀ comparator ∈ comparators, StrictWeakOn comparator.less fun row => comparator.isSet row = true

theorem lexLess_weak (lawful : Lawful comparators) :
    StrictWeakOn (lexLess comparators) fun row => Comparator.allSet comparators row = true := by
  induction comparators with
  | nil => exact ⟨fun _ _ _ => rfl, fun _ _ _ _ _ => rfl⟩
  | cons comparator rest ih =>
    have here := lawful comparator List.mem_cons_self
    have later := ih fun other member => lawful other (List.mem_cons_of_mem _ member)
    have split : ∀ {row}, Comparator.allSet (comparator :: rest) row = true →
        comparator.isSet row = true ∧ Comparator.allSet rest row = true := by
      intro row set
      exact Bool.and_eq_true_iff.mp set
    constructor
    · intro a b setA setB less
      obtain ⟨hereA, restA⟩ := split setA
      obtain ⟨hereB, restB⟩ := split setB
      rw [lexLess] at less ⊢
      by_cases first : comparator.less a b = true
      · rw [here.asymm hereA hereB first, if_neg Bool.false_ne_true, if_pos first]
      · rw [if_neg first] at less
        by_cases second : comparator.less b a = true
        · rw [if_pos second] at less
          cases less
        · rw [if_neg second] at less
          rw [if_neg second, if_neg first]
          exact later.asymm restA restB less
    · intro a b c setA setB setC notFirst notSecond
      obtain ⟨hereA, restA⟩ := split setA
      obtain ⟨hereB, restB⟩ := split setB
      obtain ⟨hereC, restC⟩ := split setC
      rw [lexLess] at notFirst notSecond ⊢
      have lessAB : comparator.less a b = false := by
        by_contra less
        rw [if_pos (Bool.eq_true_of_not_eq_false less)] at notFirst
        cases notFirst
      have lessBC : comparator.less b c = false := by
        by_contra less
        rw [if_pos (Bool.eq_true_of_not_eq_false less)] at notSecond
        cases notSecond
      rw [here.negTrans hereA hereB hereC lessAB lessBC, if_neg Bool.false_ne_true]
      by_cases back : comparator.less c a = true
      · rw [if_pos back]
      · rw [if_neg back]
        have backCA := Bool.eq_false_of_not_eq_true back
        have backBA : comparator.less b a = false :=
          here.negTrans hereB hereC hereA lessBC backCA
        have backCB : comparator.less c b = false :=
          here.negTrans hereC hereA hereB backCA lessAB
        rw [lessAB, backBA, if_neg Bool.false_ne_true, if_neg Bool.false_ne_true] at notFirst
        rw [lessBC, backCB, if_neg Bool.false_ne_true, if_neg Bool.false_ne_true] at notSecond
        exact later.negTrans restA restB restC notFirst notSecond

/-! ## The loop -/

/-- The comparison of the heap for the values in the columns. -/
def pred (comparators : List (Comparator R)) (columns : Nat → R) (a b : Nat) : Bool :=
  Comparator.lessThan comparators (columns a) (columns b)

theorem pred_weak (lawful : Lawful comparators) {columns : Nat → R} {list : List Nat}
    (set : ∀ i ∈ list, Comparator.allSet comparators (columns i) = true) :
    StrictWeakOn (pred comparators columns) (· ∈ list) where
  asymm := by
    intro a b first second less
    rw [pred, lessThan_eq] at less ⊢
    exact (lexLess_weak lawful).asymm (set b second) (set a first) less
  negTrans := by
    intro a b c first second third notFirst notSecond
    rw [pred, lessThan_eq] at notFirst notSecond ⊢
    exact (lexLess_weak lawful).negTrans (set c third) (set b second) (set a first) notSecond
      notFirst

/-- The rows of a heap are visited in ascending order. -/
theorem Moves.moveWhileLoop (lawful : LawfulHeap heap.makeHeap heap.popHeap)
    (moves : Moves n states generations moving rows) (target : dst ≤ states) (used : dst ≠ FREE)
    (enough : n < rounds) {range : List Nat} {count : Nat} (size : range.length = count)
    (distinct : range.Nodup) (present : ∀ i ∈ range, i < n ∧ rows.rows i ≠ none)
    (weak : StrictWeakOn (pred comparators moving.cells.columns) (· ∈ range))
    (isHeap : IsHeap (pred comparators moving.cells.columns) range) :
    ∃ order : List Nat, order.Perm range ∧
      order.Pairwise (fun first second =>
        pred comparators moving.cells.columns first second = false) ∧
      Moves n states generations
        (Table.moveWhileLoop heap comparators rounds dst generations f count range moving)
        (rows.sweep f dst order) ∧
      SameIds rows (rows.sweep f dst order) := by
  induction count generalizing range moving rows with
  | zero =>
    obtain rfl := List.length_eq_zero_iff.mp size
    exact ⟨[], .refl _, .nil, moves, .refl⟩
  | succ count ih =>
    have nonempty : range ≠ [] := by
      rintro rfl
      cases size
    obtain ⟨rest, top, popped, perm, heapRest, greatest⟩ := lawful.pop weak isHeap nonempty
    have sizeRest : rest.length = count := by
      have := perm.length_eq
      rw [List.length_cons] at this
      omega
    have distinctAll := perm.nodup_iff.mpr distinct
    obtain ⟨topNot, distinctRest⟩ := List.nodup_cons.mp distinctAll
    have topMember : top ∈ range := perm.subset List.mem_cons_self
    have restMember : ∀ i ∈ rest, i ∈ range := fun i member =>
      perm.subset (List.mem_cons_of_mem _ member)
    obtain ⟨topInside, topPresent⟩ := present top topMember
    obtain ⟨entry, here⟩ := Option.ne_none_iff_exists'.mp topPresent
    obtain ⟨goesOn, movesThen, ids, _⟩ :=
      moves.callAndMove (f := f) here topInside target used enough
    have same : ∀ a ∈ rest, ∀ b ∈ rest, pred comparators moving.cells.columns a b =
        pred comparators
          (Table.callAndMove rounds dst generations f moving top).2.cells.columns a b := by
      intro a memberA b memberB
      rw [pred, pred, callAndMove_columns (ne_of_mem_of_not_mem memberA topNot),
        callAndMove_columns (ne_of_mem_of_not_mem memberB topNot)]
    have weakRest := weak.mono restMember
    have taken : (heap.popHeap (fun a b => Comparator.lessThan comparators
        (moving.cells.columns a) (moving.cells.columns b)) range) = rest ++ [top] := popped
    have atEnd : (rest ++ [top]).getD count 0 = top := by
      rw [← sizeRest, List.getD_eq_getElem?_getD, List.getElem?_concat_length, Option.getD_some]
    have front : (rest ++ [top]).take count = rest := List.take_left' sizeRest
    rw [Table.moveWhileLoop]
    simp only [taken, atEnd, front, goesOn]
    by_cases further : (rows.visitRow f dst top).1 = true
    · obtain ⟨order, permOrder, sorted, movesAll, idsAll⟩ := ih movesThen sizeRest distinctRest
        (fun i member => ⟨(present i (restMember i member)).1, fun absent =>
          (present i (restMember i member)).2 (ids.isNone_iff.mp absent)⟩)
        (weakRest.congr same) (heapRest.congr same)
      refine ⟨top :: order, (permOrder.cons top).trans perm, .cons ?_ ?_, ?_⟩
      · exact fun element member => greatest element (permOrder.subset member)
      · refine sorted.imp_of_mem fun memberA memberB notLess => ?_
        rw [same _ (permOrder.subset memberA) _ (permOrder.subset memberB)]
        exact notLess
      · rw [sweep_cons, if_pos further, if_pos further]
        exact ⟨movesAll, ids.trans idsAll⟩
    · -- the rows that are not visited any more follow in any order
      obtain ⟨order, permOrder, sorted⟩ := lawful.exists_sorted weakRest heapRest
      refine ⟨top :: order, (permOrder.cons top).trans perm, .cons ?_ sorted, ?_⟩
      · exact fun element member => greatest element (permOrder.subset member)
      · rw [sweep_cons, if_neg further, if_neg further]
        exact ⟨movesThen, ids⟩

end OpenBsw.Shed
