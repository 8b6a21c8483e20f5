import OpenBsw.Data.BinarySearch

/-!
# Flat sets

A set is kept as a sorted list in which a value is looked up by a binary search.  The
search knows an entry by two comparisons with the value: whether the entry is before it
and whether it is behind it.  Where these compare keys of a linear order and the keys of
the entries increase, the search finds exactly the entry with the key of the value.
-/

namespace OpenBsw.FlatSet

open BinarySearch List

universe u v

variable {α : Type u} (before after : α → Bool)

/-- The first position whose entry is not before the value. -/
def lowerBound (entries : List α) : Nat :=
  partitionPoint before entries

/-- The position of an entry that is neither before nor behind the value. -/
def find (entries : List α) : Option Nat :=
  match entries[lowerBound before entries]? with
  | none => none
  | some entry =>
    if !before entry && !after entry then some (lowerBound before entries) else none

/-- The value at its position, if the entry there is behind it. -/
def insert (entries : List α) (value : α) : List α :=
  match entries[lowerBound before entries]? with
  | none => entries ++ [value]
  | some entry =>
    if after entry then entries.insertIdx (lowerBound before entries) value else entries

/-! ## Sets ordered by keys -/

variable {before after}
variable {Key : Type v} [LinearOrder Key] {key : α → Key}

/-- The keys of the entries increase. -/
def Sorted (key : α → Key) (entries : List α) : Prop :=
  entries.Pairwise fun first second => key first < key second

/-- The comparisons are those of keys. -/
structure Compares (key : α → Key) (before after : α → Bool) (sought : Key) : Prop where
  before_iff : ∀ entry, before entry = true ↔ key entry < sought
  after_iff : ∀ entry, after entry = true ↔ sought < key entry

variable {entries front back : List α} {entry value : α} {sought : Key}

theorem Sorted.of_append (sorted : Sorted key (front ++ entry :: back)) :
    (∀ other ∈ front, key other < key entry) ∧ ∀ other ∈ back, key entry < key other := by
  rw [Sorted, pairwise_append, pairwise_cons] at sorted
  exact ⟨fun other inFront => sorted.2.2 other inFront entry mem_cons_self, sorted.2.1.1⟩

/-- An entry at which a set splits can be replaced by one with the same key. -/
theorem Sorted.replace (sorted : Sorted key (front ++ entry :: back))
    (same : key value = key entry) :
    Sorted key (front ++ value :: back) := by
  have keys : (front ++ value :: back).map key = (front ++ entry :: back).map key := by
    rw [map_append, map_append, map_cons, map_cons, same]
  rw [Sorted, ← pairwise_map, ← keys, pairwise_map] at sorted
  exact sorted

theorem Sorted.erase (sorted : Sorted key (front ++ entry :: back)) :
    Sorted key (front ++ back) :=
  List.Pairwise.sublist (List.Sublist.append_left (sublist_cons_self _ _) _) sorted

theorem insertIdx_append (front back : List α) (value : α) :
    (front ++ back).insertIdx front.length value = front ++ value :: back := by
  induction front with
  | nil => exact insertIdx_zero
  | cons entry front ih =>
    rw [cons_append, length_cons, insertIdx_succ_cons, ih]
    rfl

namespace Compares

variable (compares : Compares key before after sought)

include compares

theorem lowerBound_append (less : ∀ other ∈ front, key other < sought)
    (notLess : ∀ other ∈ back, sought ≤ key other) :
    lowerBound before (front ++ back) = front.length := by
  refine partitionPoint_append ?_ ?_
  · exact fun other member => (compares.before_iff other).mpr (less other member)
  · intro other member
    rw [Bool.eq_false_iff, ne_eq, compares.before_iff, not_lt]
    exact notLess other member

/-- The entry with the key is found. -/
theorem find_mem (sorted : Sorted key (front ++ entry :: back)) (same : key entry = sought) :
    find before after (front ++ entry :: back) = some front.length := by
  obtain ⟨less, greater⟩ := sorted.of_append
  have position : lowerBound before (front ++ entry :: back) = front.length := by
    refine compares.lowerBound_append (fun other member => same ▸ less other member) ?_
    intro other member
    rcases mem_cons.mp member with rfl | behind
    · exact le_of_eq same.symm
    · exact le_of_lt (same ▸ greater other behind)
  have notBefore : before entry = false := by
    rw [Bool.eq_false_iff, ne_eq, compares.before_iff, same]
    exact lt_irrefl _
  have notAfter : after entry = false := by
    rw [Bool.eq_false_iff, ne_eq, compares.after_iff, same]
    exact lt_irrefl _
  rw [find, position, List.getElem?_append_right (Nat.le_refl _), Nat.sub_self]
  simp only [List.getElem?_cons_zero, notBefore, notAfter, Bool.not_false, Bool.and_self, if_true]

/-- A set without the key splits where it belongs. -/
theorem exists_split (sorted : Sorted key entries)
    (absent : ∀ other ∈ entries, key other ≠ sought) :
    ∃ front back, entries = front ++ back ∧ lowerBound before entries = front.length ∧
      (∀ other ∈ front, key other < sought) ∧ ∀ other ∈ back, sought < key other := by
  obtain ⟨front, middle, back, rfl, less, equal, greater⟩ :=
    BinarySearch.exists_split (sorted.imp le_of_lt) sought
  have noMiddle : middle = [] := by
    refine eq_nil_iff_forall_not_mem.mpr fun other inside => ?_
    exact absent other (by simp [inside]) (equal other inside)
  subst noMiddle
  rw [append_nil]
  exact ⟨front, back, rfl, compares.lowerBound_append less fun other member =>
    le_of_lt (greater other member), less, greater⟩

theorem find_eq_none (sorted : Sorted key entries)
    (absent : ∀ other ∈ entries, key other ≠ sought) : find before after entries = none := by
  obtain ⟨front, back, rfl, position, less, greater⟩ := compares.exists_split sorted absent
  rw [find, position, List.getElem?_append_right (Nat.le_refl _), Nat.sub_self]
  cases back with
  | nil => rfl
  | cons entry rest =>
    have behind : after entry = true :=
      (compares.after_iff entry).mpr (greater entry mem_cons_self)
    simp only [List.getElem?_cons_zero, behind, Bool.not_true, Bool.and_false,
      Bool.false_eq_true, if_false]

/-- A value with a new key comes between the smaller and the greater ones. -/
theorem insert_absent (sorted : Sorted key entries)
    (absent : ∀ other ∈ entries, key other ≠ sought) (same : key value = sought) :
    ∃ front back, entries = front ++ back ∧ lowerBound before entries = front.length ∧
      insert before after entries value = front ++ value :: back ∧
      Sorted key (front ++ value :: back) := by
  obtain ⟨front, back, rfl, position, less, greater⟩ := compares.exists_split sorted absent
  refine ⟨front, back, rfl, position, ?_, ?_⟩
  · rw [insert, position, List.getElem?_append_right (Nat.le_refl _), Nat.sub_self]
    cases back with
    | nil => rw [append_nil]; rfl
    | cons entry rest =>
      have behind : after entry = true :=
        (compares.after_iff entry).mpr (greater entry mem_cons_self)
      simp only [List.getElem?_cons_zero, behind, if_true]
      exact insertIdx_append _ _ _
  · rw [Sorted, pairwise_append] at sorted ⊢
    refine ⟨sorted.1, pairwise_cons.mpr ⟨fun other member => ?_, sorted.2.1⟩, ?_⟩
    · rw [same]
      exact greater other member
    · intro first inFront second inBack
      rcases mem_cons.mp inBack with rfl | behind
      · rw [same]
        exact less first inFront
      · exact sorted.2.2 first inFront second behind

end Compares

end OpenBsw.FlatSet
