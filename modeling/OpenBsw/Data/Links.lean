import Mathlib

/-!
# Lists linked through their elements

Each element holds a reference to the next one.  A list is linked from a start
if following the references passes exactly its elements and ends.  Appending an
element and unlinking one change the reference of a single element of the list.
-/

namespace OpenBsw

open List Function

universe u

variable {ι : Type u} {next other : ι → Option ι} {start : Option ι} {list front rest : List ι}
  {element last new : ι}

/-- Following `next` from `start` passes the elements of the list and ends. -/
def Leads (next : ι → Option ι) : Option ι → List ι → Prop
  | start, [] => start = none
  | start, element :: rest => start = some element ∧ Leads next (next element) rest

namespace Leads

/-- Only the references of the elements matter. -/
theorem congr (leads : Leads next start list)
    (same : ∀ element ∈ list, other element = next element) : Leads other start list := by
  induction list generalizing start with
  | nil => exact leads
  | cons element rest ih =>
    refine ⟨leads.1, ?_⟩
    rw [same element mem_cons_self]
    exact ih leads.2 fun later member => same later (mem_cons_of_mem _ member)

/-- The list behind an element. -/
theorem behind (leads : Leads next start (front ++ element :: rest)) :
    Leads next (next element) rest := by
  induction front generalizing start with
  | nil => exact leads.2
  | cons first front ih => exact ih leads.2

theorem next_eq (leads : Leads next start (front ++ element :: rest)) :
    next element = rest.head? := by
  have behind := leads.behind
  cases rest with
  | nil => exact behind
  | cons second rest => exact behind.1

theorem start_eq (leads : Leads next start list) : start = list.head? := by
  cases list with
  | nil => exact leads
  | cons element rest => exact leads.1

/-- The elements are reached from the first one. -/
theorem reaches (leads : Leads next (some element) list) (member : last ∈ list) :
    Relation.ReflTransGen (fun first second => next first = some second) element last := by
  induction list generalizing element with
  | nil => exact absurd member not_mem_nil
  | cons head rest ih =>
    obtain ⟨here, behind⟩ := leads
    obtain rfl := Option.some.inj here
    rcases mem_cons.mp member with rfl | later
    · exact .refl
    · cases start : next element with
      | none =>
        rw [start] at behind
        cases rest with
        | nil => exact absurd later not_mem_nil
        | cons second rest => exact absurd behind.1 (by simp)
      | some second => exact .head start (ih (start ▸ behind) later)

variable [DecidableEq ι]

/-- An element that is not in the list may change its reference. -/
theorem update (leads : Leads next start list) (apart : element ∉ list) (reference : Option ι) :
    Leads (update next element reference) start list :=
  leads.congr fun other member => by
    rw [update_of_ne]
    rintro rfl
    exact apart member

/-- A new element is linked behind the last one. -/
theorem concat (leads : Leads next start (front ++ [last])) (nodup : (front ++ [last]).Nodup)
    (fresh : new ∉ front ++ [last]) :
    Leads (Function.update (Function.update next last (some new)) new none) start
      (front ++ [last] ++ [new]) := by
  induction front generalizing start with
  | nil =>
    refine ⟨leads.1, ?_, ?_⟩
    · rw [update_of_ne, update_self]
      rintro rfl
      exact fresh (mem_singleton_self _)
    · exact update_self ..
  | cons first front ih =>
    rw [cons_append, nodup_cons] at nodup
    rw [cons_append, mem_cons, not_or] at fresh
    refine ⟨leads.1, ?_⟩
    rw [update_of_ne (Ne.symm fresh.1), update_of_ne]
    · exact ih leads.2 nodup.2 fresh.2
    · rintro rfl
      exact nodup.1 (mem_append_right _ (mem_singleton_self _))

/-- An element is unlinked from the one in front of it. -/
theorem unlink (leads : Leads next start (front ++ last :: element :: rest))
    (nodup : (front ++ last :: element :: rest).Nodup) :
    Leads (Function.update next last (next element)) start (front ++ last :: rest) := by
  induction front generalizing start with
  | nil =>
    rw [nil_append, nodup_cons] at nodup
    refine ⟨leads.1, ?_⟩
    rw [update_self]
    exact leads.2.2.update (fun member => nodup.1 (mem_cons_of_mem _ member)) _
  | cons first front ih =>
    rw [cons_append, nodup_cons] at nodup
    refine ⟨leads.1, ?_⟩
    rw [update_of_ne]
    · exact ih leads.2 nodup.2
    · rintro rfl
      exact nodup.1 (mem_append_right _ mem_cons_self)

end Leads

end OpenBsw
