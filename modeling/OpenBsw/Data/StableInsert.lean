import Mathlib

/-!
# Insertion into a list ordered by a key

A new entry goes in front of the first entry with a greater key.  An ordered
list stays ordered, and among entries with the same key the new one is the
last.
-/

namespace OpenBsw.StableInsert

open List

universe u v w

variable {α : Type u} {β : Type v} {Key : Type w} [LinearOrder Key]

/-- Insert an entry behind all entries up to the first one with a greater key. -/
def insert (key : α → Key) (entry : α) : List α → List α
  | [] => [entry]
  | current :: rest =>
    if key entry < key current then entry :: current :: rest
    else current :: insert key entry rest

variable {key : α → Key} {entry : α}

theorem insert_perm (key : α → Key) (entry : α) (entries : List α) :
    (insert key entry entries).Perm (entry :: entries) := by
  induction entries with
  | nil => exact .refl _
  | cons current rest ih =>
    rw [insert]
    split
    · exact .refl _
    · exact (ih.cons current).trans (.swap entry current rest)

@[simp]
theorem mem_insert_iff {other : α} {entries : List α} :
    other ∈ insert key entry entries ↔ other = entry ∨ other ∈ entries := by
  rw [(insert_perm key entry entries).mem_iff, mem_cons]

/-- A relation that holds from the smaller keys to the new entry, and from the
new entry to the greater keys, holds along the list again. -/
theorem pairwise_insert {Rel : α → α → Prop} {entries : List α}
    (ordered : entries.Pairwise fun first second => key first ≤ key second)
    (related : entries.Pairwise Rel)
    (behind : ∀ other ∈ entries, key other ≤ key entry → Rel other entry)
    (before : ∀ other ∈ entries, key entry < key other → Rel entry other) :
    (insert key entry entries).Pairwise Rel := by
  induction entries with
  | nil => exact pairwise_singleton _ _
  | cons current rest ih =>
    rw [pairwise_cons] at ordered related
    rw [insert]
    split
    · rename_i greater
      refine pairwise_cons.mpr ⟨?_, pairwise_cons.mpr related⟩
      intro other member
      refine before other member ?_
      rcases mem_cons.mp member with rfl | inRest
      · exact greater
      · exact lt_of_lt_of_le greater (ordered.1 other inRest)
    · rename_i notGreater
      refine pairwise_cons.mpr ⟨?_, ?_⟩
      · intro other member
        rcases mem_insert_iff.mp member with rfl | inRest
        · exact behind current mem_cons_self (not_lt.mp notGreater)
        · exact related.1 other inRest
      · exact ih ordered.2 related.2
          (fun other member => behind other (mem_cons_of_mem _ member))
          (fun other member => before other (mem_cons_of_mem _ member))

/-- The new entry becomes the first one exactly when all keys are greater. -/
theorem insert_cases (entry : α) {entries : List α}
    (ordered : entries.Pairwise fun first second => key first ≤ key second) :
    ((∀ other ∈ entries, key entry < key other) ∧ insert key entry entries = entry :: entries) ∨
      ∃ current rest, entries = current :: rest ∧ key current ≤ key entry ∧
        insert key entry entries = current :: insert key entry rest := by
  cases entries with
  | nil => exact .inl ⟨by simp, rfl⟩
  | cons current rest =>
    rw [pairwise_cons] at ordered
    rw [insert]
    split
    · rename_i greater
      refine .inl ⟨?_, rfl⟩
      intro other member
      rcases mem_cons.mp member with rfl | inRest
      · exact greater
      · exact lt_of_lt_of_le greater (ordered.1 other inRest)
    · rename_i notGreater
      exact .inr ⟨current, rest, rfl, not_lt.mp notGreater, rfl⟩

/-- Insertion commutes with a map that keeps the comparisons with the entry. -/
theorem map_insert {LinearKey : Type w} [LinearOrder LinearKey] {image : α → β}
    {imageKey : β → LinearKey} {entries : List α}
    (same : ∀ other ∈ entries,
      key entry < key other ↔ imageKey (image entry) < imageKey (image other)) :
    (insert key entry entries).map image = insert imageKey (image entry) (entries.map image) := by
  induction entries with
  | nil => rfl
  | cons current rest ih =>
    have further := ih fun other member => same other (mem_cons_of_mem _ member)
    rw [insert, map_cons, insert]
    by_cases greater : key entry < key current
    · rw [if_pos greater, if_pos ((same current mem_cons_self).mp greater)]
      rfl
    · rw [if_neg greater, if_neg fun smaller =>
        greater ((same current mem_cons_self).mpr smaller), map_cons, further]

end OpenBsw.StableInsert
