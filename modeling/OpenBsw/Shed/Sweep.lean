import OpenBsw.Shed.Rows
import OpenBsw.Shed.Transfer
import OpenBsw.Shed.Iteration

/-!
# Visiting rows and moving them

The operations that move rows call back for one row after the other.  They do so
from within the loop of `move_if`, while an iterator over the other rows is
running, or for a list of rows collected before.  One call refines one visit of
the row.
-/

namespace OpenBsw.Shed

open Function

universe u

variable {T R : Type u} {n states dst rounds i : Nat} {generations : Nat → Nat}
  {cells : Table.Cells T R} {rows further : Rows T R} {f : Callback T R MoveOp} {entry : Entry R}

/-- The cells hold the values of the rows, and the generations those of their ids. -/
structure Shows (generations : Nat → Nat) (cells : Table.Cells T R) (rows : Rows T R) : Prop where
  columns : ∀ i, ∀ entry ∈ rows.rows i, cells.columns i = entry.value
  generations : ∀ i, ∀ entry ∈ rows.rows i, generations i = entry.generation
  env : cells.env = rows.env

/-- Visits leave the ids. -/
structure SameIds (rows further : Rows T R) : Prop where
  generations : ∀ i, (further.rows i).map Entry.generation = (rows.rows i).map Entry.generation
  issued : further.issued = rows.issued
  dropped : further.dropped = rows.dropped
  lifetimes : further.lifetimes = rows.lifetimes
  returned : further.returned = rows.returned

/-- Rows in use have a state of their own. -/
def InUse (rows : Rows T R) : Prop :=
  ∀ i, rows.stateOf i = FREE → rows.rows i = none

namespace SameIds

theorem refl : SameIds rows rows :=
  ⟨fun _ => rfl, rfl, rfl, rfl, rfl⟩

theorem trans {last : Rows T R} (first : SameIds rows further) (second : SameIds further last) :
    SameIds rows last where
  generations := fun i => (second.generations i).trans (first.generations i)
  issued := second.issued.trans first.issued
  dropped := second.dropped.trans first.dropped
  lifetimes := second.lifetimes.trans first.lifetimes
  returned := second.returned.trans first.returned

theorem isNone_iff (same : SameIds rows further) : further.rows i = none ↔ rows.rows i = none := by
  have generations := same.generations i
  rw [← Option.map_eq_none_iff (f := Entry.generation), generations, Option.map_eq_none_iff]

end SameIds

namespace Rows

theorem stateOf_some (present : rows.rows i = some entry) : rows.stateOf i = entry.state := by
  rw [stateOf, present]

theorem stateOf_none (absent : rows.rows i = none) : rows.stateOf i = FREE := by
  rw [stateOf, absent]

/-- Only the row at an index matters for its state. -/
theorem stateOf_congr {other : Rows T R} (same : other.rows i = rows.rows i) :
    other.stateOf i = rows.stateOf i := by
  rw [stateOf, stateOf, same]

theorem present_of_stateOf (used : rows.stateOf i ≠ FREE) : ∃ entry, rows.rows i = some entry := by
  cases present : rows.rows i with
  | none => exact absurd (stateOf_none present) used
  | some entry => exact ⟨entry, rfl⟩

/-- Replacing a row by one with the same id. -/
theorem sameIds_setRow {new : Entry R} (present : rows.rows i = some entry)
    (same : new.generation = entry.generation) : SameIds rows (rows.setRow i (some new)) where
  generations := by
    intro j
    change (update rows.rows i (some new) j).map _ = _
    by_cases here : j = i
    · rw [here, update_self, present, Option.map_some, Option.map_some, same]
    · rw [update_of_ne here]
  issued := rfl
  dropped := rfl
  lifetimes := rfl
  returned := rfl

theorem stateOf_setRow {new : Entry R} :
    (rows.setRow i (some new)).stateOf = update rows.stateOf i new.state := by
  funext j
  by_cases here : j = i
  · rw [here, update_self]
    exact stateOf_some (update_self ..)
  · rw [update_of_ne here]
    exact stateOf_congr (update_of_ne here ..)

theorem setState_eq {state : Nat} (present : rows.rows i = some entry) :
    rows.setState i state = rows.setRow i (some { entry with state }) := by
  rw [setState, present, Option.map_some]

/-- A callback changes the value of its row and nothing else of the rows. -/
theorem callRow_cases {A : Type} (g : Callback T R A) (skip : A)
    (present : rows.rows i = some entry) :
    rows.callRow g skip i = (skip, rows) ∨ ∃ answer value env,
      rows.callRow g skip i =
        (answer, { rows.setRow i (some { entry with value }) with env := env }) := by
  rw [callRow, present]
  dsimp only
  split
  · exact Or.inr ⟨_, _, _, rfl⟩
  · exact Or.inl rfl

theorem callRow_stateOf {A : Type} (g : Callback T R A) (skip : A)
    (present : rows.rows i = some entry) :
    (rows.callRow g skip i).2.stateOf = rows.stateOf ∧
      SameIds rows (rows.callRow g skip i).2 ∧
      ∃ value, (rows.callRow g skip i).2.rows i = some { entry with value } := by
  rcases callRow_cases g skip present with same | ⟨answer, value, env, changed⟩
  · rw [same]
    exact ⟨rfl, .refl, entry.value, present⟩
  · rw [changed]
    refine ⟨?_, ?_, value, update_self _ _ _⟩
    · have states : (rows.setRow i (some { entry with value })).stateOf = rows.stateOf := by
        rw [stateOf_setRow]
        change update rows.stateOf i entry.state = _
        rw [← stateOf_some present, update_eq_self]
      exact states
    · have ids : SameIds rows (rows.setRow i (some { entry with value })) :=
        sameIds_setRow present rfl
      exact ⟨ids.generations, rfl, rfl, rfl, rfl⟩

theorem setState_stateOf (state : Nat) (present : rows.rows i = some entry) :
    (rows.setState i state).stateOf = update rows.stateOf i state ∧
      SameIds rows (rows.setState i state) := by
  rw [setState_eq present]
  exact ⟨stateOf_setRow, sameIds_setRow present rfl⟩

end Rows

/-! ## One row -/

theorem InUse.mono (inUse : InUse rows) (same : SameIds rows further)
    (states : ∀ k, further.stateOf k = rows.stateOf k ∨ further.stateOf k ≠ FREE) :
    InUse further := by
  intro k free
  rcases states k with kept | used
  · exact same.isNone_iff.mpr (inUse k (kept ▸ free))
  · exact absurd free used

/-- A row gets another state in use. -/
theorem InUse.update (inUse : InUse rows) (same : SameIds rows further)
    (states : further.stateOf = update rows.stateOf i dst) (used : dst ≠ FREE) :
    InUse further := by
  refine inUse.mono same fun k => ?_
  rw [states]
  by_cases here : k = i
  · rw [here, update_self]
    exact Or.inr used
  · rw [update_of_ne here]
    exact Or.inl rfl

/-- A call on the cells is a call on the row. -/
theorem Shows.call (shows : Shows generations cells rows) {A : Type} (g : Callback T R A) (skip : A)
    (present : rows.rows i = some entry) :
    (Table.callIfSet skip generations g cells i).1 = (rows.callRow g skip i).1 ∧
      Shows generations (Table.callIfSet skip generations g cells i).2
        (rows.callRow g skip i).2 := by
  have column := shows.columns i entry present
  have generation := shows.generations i entry present
  rw [Table.callIfSet, Rows.callRow, present, column, generation, shows.env]
  dsimp only
  by_cases set : g.allArgsSet rows.env entry.value = true
  · rw [if_pos set, if_pos set]
    refine ⟨rfl, ?_, ?_, rfl⟩
    · intro j other member
      change update rows.rows i _ j = some other at member
      change update cells.columns i _ j = _
      by_cases here : j = i
      · rw [here, update_self] at member ⊢
        rw [← Option.some.inj member]
      · rw [update_of_ne here] at member ⊢
        exact shows.columns j other member
    · intro j other member
      change update rows.rows i _ j = some other at member
      by_cases here : j = i
      · rw [here, update_self] at member
        rw [here, ← Option.some.inj member]
        exact generation
      · rw [update_of_ne here] at member
        exact shows.generations j other member
  · rw [if_neg set, if_neg set]
    exact ⟨rfl, shows⟩

theorem Shows.callSystemFuncRet (shows : Shows generations cells rows)
    (present : rows.rows i = some entry) :
    (Table.callSystemFuncRet generations f cells i).1 = (rows.callRow f .SKIP i).1 ∧
      Shows generations (Table.callSystemFuncRet generations f cells i).2
        (rows.callRow f .SKIP i).2 :=
  shows.call f .SKIP present

/-- The state of a row is not in the cells. -/
theorem Shows.setState {state : Nat} (shows : Shows generations cells rows)
    (present : rows.rows i = some entry) : Shows generations cells (rows.setState i state) := by
  have unchanged : ∀ j, ∀ other ∈ (rows.setState i state).rows j, ∃ before ∈ rows.rows j,
      before.value = other.value ∧ before.generation = other.generation := by
    intro j other member
    rw [Rows.setState_eq present] at member
    change update rows.rows i _ j = some other at member
    by_cases here : j = i
    · rw [here, update_self] at member
      rw [here, ← Option.some.inj member]
      exact ⟨entry, present, rfl, rfl⟩
    · rw [update_of_ne here] at member
      exact ⟨other, member, rfl, rfl⟩
  refine ⟨?_, ?_, shows.env⟩
  · intro j other member
    obtain ⟨before, present, value, _⟩ := unchanged j other member
    rw [← value]
    exact shows.columns j before present
  · intro j other member
    obtain ⟨before, present, _, generation⟩ := unchanged j other member
    rw [← generation]
    exact shows.generations j before present

/-- A visitor that moves rows stands where the rows do. -/
structure Moves (n states : Nat) (generations : Nat → Nat) (moving : Table.Moving T R)
    (rows : Rows T R) : Prop where
  list : moving.ml.n = n ∧ moving.ml.buckets = states + 1
  represents : Represents moving.ml rows.stateOf
  inUse : InUse rows
  cells : Shows generations moving.cells rows
  free : moving.stuck = false

/-- One call of the visitor is one visit of the row. -/
theorem Moves.callAndMove {moving : Table.Moving T R}
    (moves : Moves n states generations moving rows) (present : rows.rows i = some entry)
    (item : i < n) (target : dst ≤ states) (used : dst ≠ FREE) (enough : n < rounds) :
    (Table.callAndMove rounds dst generations f moving i).1 = (rows.visitRow f dst i).1 ∧
      Moves n states generations (Table.callAndMove rounds dst generations f moving i).2
        (rows.visitRow f dst i).2 ∧
      SameIds rows (rows.visitRow f dst i).2 ∧
      ∀ k, k ≠ i → (rows.visitRow f dst i).2.stateOf k = rows.stateOf k := by
  obtain ⟨sizeN, sizeBuckets⟩ := moves.list
  obtain ⟨answer, shows⟩ := moves.cells.callSystemFuncRet (f := f) present
  obtain ⟨stateOf, ids, value, presentThen⟩ := Rows.callRow_stateOf f .SKIP present
  obtain ⟨statesMoved, idsMoved⟩ := Rows.setState_stateOf dst presentThen
  obtain ⟨after, moved, represented, size⟩ := moves.represents.moveIdx
    (s := i) (d := dst) (by rw [sizeN]; exact item) (by rw [sizeBuckets]; omega)
    (by rw [sizeN]; exact enough)
  rw [stateOf] at statesMoved
  have inUse : InUse (rows.callRow f .SKIP i).2 :=
    moves.inUse.mono ids fun k => Or.inl (congrFun stateOf k)
  have stays : Moves n states generations
      { moving with cells := (Table.callSystemFuncRet generations f moving.cells i).2 }
      (rows.callRow f .SKIP i).2 :=
    ⟨moves.list, stateOf ▸ moves.represents, inUse, shows, moves.free⟩
  have goes : Moves n states generations
      { moving with
        ml := after
        cells := (Table.callSystemFuncRet generations f moving.cells i).2 }
      ((rows.callRow f .SKIP i).2.setState i dst) := by
    refine ⟨⟨size.1.trans sizeN, size.2.trans sizeBuckets⟩, ?_, ?_, shows.setState presentThen,
      moves.free⟩
    · change Represents after _
      rw [statesMoved]
      exact represented
    · exact moves.inUse.update (ids.trans idsMoved) statesMoved used
  have elsewhere : ∀ k, k ≠ i →
      ((rows.callRow f .SKIP i).2.setState i dst).stateOf k = rows.stateOf k := by
    intro k other
    rw [statesMoved, update_of_ne other]
  rw [Table.callAndMove, Rows.visitRow]
  simp only [answer, moved]
  cases (rows.callRow f .SKIP i).1 with
  | SKIP => exact ⟨rfl, stays, ids, fun k _ => congrFun stateOf k⟩
  | MOVE => exact ⟨rfl, goes, ids.trans idsMoved, elsewhere⟩
  | MOVE_DONE => exact ⟨rfl, goes, ids.trans idsMoved, elsewhere⟩
  | SKIP_DONE => exact ⟨rfl, stays, ids, fun k _ => congrFun stateOf k⟩

/-- A call changes the values of its row only. -/
theorem callAndMove_columns {moving : Table.Moving T R} {k : Nat} (other : k ≠ i) :
    (Table.callAndMove rounds dst generations f moving i).2.cells.columns k =
      moving.cells.columns k := by
  have called : (Table.callSystemFuncRet generations f moving.cells i).2.columns k =
      moving.cells.columns k := by
    rw [Table.callSystemFuncRet, Table.callIfSet]
    split
    · exact update_of_ne other _ _
    · rfl
  rw [Table.callAndMove]
  split
  · split
    · rfl
    · exact called
  · exact called

/-! ## Rows of a state -/

theorem sweep_cons {rest : List Nat} :
    rows.sweep f dst (i :: rest) =
      if (rows.visitRow f dst i).1 then (rows.visitRow f dst i).2.sweep f dst rest
      else (rows.visitRow f dst i).2 :=
  rfl

/-- The callback is asked for the rows in turn, and those accepted get the state. -/
theorem Shows.sweep (shows : Shows generations cells rows) (inUse : InUse rows)
    {list : List Nat} (present : ∀ i ∈ list, rows.rows i ≠ none) (used : dst ≠ FREE) :
    Shows generations (ask (Table.callSystemFuncRet generations f) cells list).2
        (rows.sweep f dst list) ∧
      (rows.sweep f dst list).stateOf =
        transfer rows.stateOf (ask (Table.callSystemFuncRet generations f) cells list).1 dst ∧
      InUse (rows.sweep f dst list) ∧ SameIds rows (rows.sweep f dst list) := by
  induction list generalizing rows cells with
  | nil => exact ⟨shows, transfer_nil.symm, inUse, .refl⟩
  | cons i rest ih =>
    obtain ⟨entry, here⟩ := Option.ne_none_iff_exists'.mp (present i List.mem_cons_self)
    obtain ⟨answer, called⟩ := shows.callSystemFuncRet (f := f) here
    obtain ⟨stateOf, ids, value, presentThen⟩ := Rows.callRow_stateOf f .SKIP here
    obtain ⟨statesMoved, idsMoved⟩ := Rows.setState_stateOf dst presentThen
    rw [stateOf] at statesMoved
    have idsGone := ids.trans idsMoved
    have inUseCalled : InUse (rows.callRow f .SKIP i).2 :=
      inUse.mono ids fun k => Or.inl (congrFun stateOf k)
    have inUseMoved : InUse ((rows.callRow f .SKIP i).2.setState i dst) :=
      inUse.update idsGone statesMoved used
    have later : ∀ {next : Rows T R}, SameIds rows next → ∀ k ∈ rest, next.rows k ≠ none :=
      fun same k member absent =>
        present k (List.mem_cons_of_mem _ member) (same.isNone_iff.mp absent)
    rw [sweep_cons, Rows.visitRow, ask, answer]
    cases (rows.callRow f .SKIP i).1 with
    | SKIP =>
      obtain ⟨showsThen, statesThen, inUseThen, idsThen⟩ := ih called inUseCalled (later ids)
      exact ⟨showsThen, statesThen.trans (by rw [stateOf]), inUseThen, ids.trans idsThen⟩
    | MOVE =>
      obtain ⟨showsThen, statesThen, inUseThen, idsThen⟩ :=
        ih (called.setState presentThen) inUseMoved (later idsGone)
      refine ⟨showsThen, ?_, inUseThen, idsGone.trans idsThen⟩
      rw [transfer_cons, ← statesMoved]
      exact statesThen
    | MOVE_DONE =>
      refine ⟨called.setState presentThen, ?_, inUseMoved, idsGone⟩
      rw [transfer_singleton]
      exact statesMoved
    | SKIP_DONE =>
      refine ⟨called, ?_, inUseCalled, ids⟩
      rw [transfer_nil]
      exact stateOf

/-! ## Rows of other states -/

/-- The iterator visits the rows that were outside of both states at the start, although visited
rows are moved to one of them. -/
theorem Moves.notInBucketsLoop {moving : Table.Moving T R}
    (moves : Moves n states generations moving rows) (target : dst ≤ states) (used : dst ≠ FREE)
    (enough : n < rounds) {limit : Nat} (within : limit ≤ n) :
    Moves n states generations
        (MultiList.notInBucketsLoop Table.Moving.ml (Table.callAndMove rounds dst generations f)
          limit (next rows.stateOf n FREE limit) (next rows.stateOf n dst limit) moving)
        (rows.sweep f dst
          (downward (fun i => rows.stateOf i ≠ FREE ∧ rows.stateOf i ≠ dst) limit)) ∧
      SameIds rows (rows.sweep f dst
        (downward (fun i => rows.stateOf i ≠ FREE ∧ rows.stateOf i ≠ dst) limit)) := by
  induction limit generalizing moving rows with
  | zero => exact ⟨moves, .refl⟩
  | succ i ih =>
    have item : i < n := within
    have sizeN := moves.list.1
    have walkFree := moves.represents.walk (b := FREE) (sizeN.symm ▸ item)
    have walkDst := moves.represents.walk (b := dst) (sizeN.symm ▸ item)
    rw [sizeN] at walkFree walkDst
    have first := Represents.next_succ rows.stateOf FREE item
    have second := Represents.next_succ rows.stateOf dst item
    rw [MultiList.notInBucketsLoop, downward_succ]
    simp only [walkFree, walkDst]
    by_cases excluded : i = next rows.stateOf n FREE (i + 1) ∨ i = next rows.stateOf n dst (i + 1)
    · rw [if_pos excluded, if_neg]
      · exact ih moves (Nat.le_of_lt item)
      · rintro ⟨notFree, notDst⟩
        rcases excluded with isFree | isDst
        · exact notFree (first.1.mp isFree)
        · exact notDst (second.1.mp isDst)
    · have outside : rows.stateOf i ≠ FREE ∧ rows.stateOf i ≠ dst :=
        ⟨fun member => excluded (Or.inl (first.1.mpr member)),
          fun member => excluded (Or.inr (second.1.mpr member))⟩
      obtain ⟨entry, present⟩ := Rows.present_of_stateOf outside.1
      obtain ⟨goesOn, movesThen, ids, elsewhere⟩ :=
        moves.callAndMove (f := f) present item target used enough
      rw [if_neg excluded, if_pos outside, sweep_cons, goesOn]
      by_cases further : (rows.visitRow f dst i).1 = true
      · rw [if_pos further, if_pos further]
        have lower : ∀ k < i, (rows.visitRow f dst i).2.stateOf k = rows.stateOf k :=
          fun k inside => elsewhere k (Nat.ne_of_lt inside)
        have sameNext : ∀ b, next rows.stateOf n b i =
            next (rows.visitRow f dst i).2.stateOf n b i := by
          intro b
          apply next_congr
          intro k inside
          rw [lower k inside]
        have sameRest : downward (fun k => rows.stateOf k ≠ FREE ∧ rows.stateOf k ≠ dst) i =
            downward (fun k => (rows.visitRow f dst i).2.stateOf k ≠ FREE ∧
              (rows.visitRow f dst i).2.stateOf k ≠ dst) i := by
          apply downward_congr
          intro k inside
          rw [lower k inside]
        rw [sameNext, sameNext, sameRest]
        obtain ⟨movesAll, idsAll⟩ := ih movesThen (Nat.le_of_lt item)
        exact ⟨movesAll, ids.trans idsAll⟩
      · rw [if_neg further, if_neg further]
        exact ⟨movesThen, ids⟩

end OpenBsw.Shed
