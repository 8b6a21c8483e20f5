import OpenBsw.Shed.TableOperations

/-!
# Runs of table operations

Every sequence of operations on a table does on its rows what the same sequence
does on rows with ids, up to the order of rows that compare equal in an ordered
operation.  An id names a row from the insertion that returned it until the row
is dropped.
-/

namespace OpenBsw.Shed

open List Function Option

universe u

variable {T R : Type u} {n states i : Nat} {rows further : Rows T R} {entry : Entry R}

/-! ## The history of ids -/

namespace Lifetime

/-- The rows whose values live, if no living value is constructed and no other one destroyed. -/
def step (living : Nat → Bool) : Lifetime → Option (Nat → Bool)
  | .constructed row => if living row then none else some (update living row true)
  | .destroyed row => if living row then some (update living row false) else none

def living (lifetimes : List Lifetime) : Option (Nat → Bool) :=
  lifetimes.foldlM step fun _ => false

def constructedRow : Lifetime → Option Nat
  | .constructed row => some row
  | .destroyed _ => none

def destroyedRow : Lifetime → Option Nat
  | .constructed _ => none
  | .destroyed row => some row

end Lifetime

/-- What the ids given out, the ids dropped and the lifetimes say about the rows. -/
structure History (rows : Rows T R) : Prop where
  /-- An id names a row from its insertion until the row is dropped. -/
  names : ∀ id : Id, (rows.rows id.idx).map Entry.generation = some id.generation ↔
    id ∈ rows.issued ∧ id ∉ rows.dropped
  fresh : ∀ id ∈ rows.issued, id.generation ≤ rows.issued.length
  issuedOnce : rows.issued.Nodup
  droppedOnce : rows.dropped.Nodup
  droppedIssued : ∀ id ∈ rows.dropped, id ∈ rows.issued
  living : Lifetime.living rows.lifetimes = some fun i => (rows.rows i).isSome
  /-- The values of a row are constructed once for each insertion. -/
  constructed : rows.lifetimes.filterMap Lifetime.constructedRow = rows.issued.map Id.idx
  /-- They are destroyed once for each drop. -/
  destroyed : rows.lifetimes.filterMap Lifetime.destroyedRow = rows.dropped.map Id.idx

namespace History

theorem initial (env : T) : History (Rows.initial env : Rows T R) where
  names := by
    intro id
    constructor
    · intro absent
      cases absent
    · rintro ⟨absent, _⟩
      cases absent
  fresh := fun _ absent => by cases absent
  issuedOnce := .nil
  droppedOnce := .nil
  droppedIssued := fun _ absent => by cases absent
  living := rfl
  constructed := rfl
  destroyed := rfl

theorem sameIds (history : History rows) (same : SameIds rows further) : History further where
  names := by
    intro id
    rw [same.generations, same.issued, same.dropped]
    exact history.names id
  fresh := by
    rw [same.issued]
    exact history.fresh
  issuedOnce := by
    rw [same.issued]
    exact history.issuedOnce
  droppedOnce := by
    rw [same.dropped]
    exact history.droppedOnce
  droppedIssued := by
    rw [same.dropped, same.issued]
    exact history.droppedIssued
  living := by
    rw [same.lifetimes, history.living]
    congr 1
    funext i
    have generations := congrArg Option.isSome (same.generations i)
    rw [isSome_map, isSome_map] at generations
    exact generations.symm
  constructed := by
    rw [same.lifetimes, same.issued]
    exact history.constructed
  destroyed := by
    rw [same.lifetimes, same.dropped]
    exact history.destroyed

theorem giveBack (history : History rows) (value : Returned) : History (rows.giveBack value) :=
  ⟨history.names, history.fresh, history.issuedOnce, history.droppedOnce, history.droppedIssued,
    history.living, history.constructed, history.destroyed⟩

theorem dropRow (history : History rows) (present : rows.rows i = some entry) :
    History (rows.dropRow i) := by
  have named : (⟨i, entry.generation⟩ : Id) ∈ rows.issued ∧
      (⟨i, entry.generation⟩ : Id) ∉ rows.dropped :=
    (history.names ⟨i, entry.generation⟩).mp (by rw [present, map_some])
  have dropped : (rows.dropRow i).dropped = rows.dropped ++ [⟨i, entry.generation⟩] := by
    rw [Rows.dropRow, present]
    rfl
  have gone : (rows.dropRow i).rows = update rows.rows i none := rfl
  refine ⟨?_, history.fresh, history.issuedOnce, ?_, ?_, ?_, ?_, ?_⟩
  · intro id
    rw [dropped, gone, mem_append, mem_singleton]
    change _ ↔ id ∈ rows.issued ∧ _
    by_cases here : id.idx = i
    · rw [here, update_self]
      constructor
      · intro absent
        cases absent
      · rintro ⟨issued, notDropped⟩
        have still := (history.names id).mpr ⟨issued, fun before => notDropped (Or.inl before)⟩
        rw [here, present, map_some] at still
        refine absurd (Or.inr ?_) notDropped
        rw [Option.some.inj still, ← here]
    · rw [update_of_ne here, history.names id]
      constructor
      · rintro ⟨issued, notDropped⟩
        refine ⟨issued, fun either => ?_⟩
        rcases either with before | same
        · exact notDropped before
        · exact here (congrArg Id.idx same)
      · rintro ⟨issued, notDropped⟩
        exact ⟨issued, fun before => notDropped (Or.inl before)⟩
  · rw [dropped]
    exact nodup_append_comm.mp (nodup_cons.mpr ⟨named.2, history.droppedOnce⟩)
  · rw [dropped]
    intro id member
    rcases mem_append.mp member with before | now
    · exact history.droppedIssued id before
    · rw [mem_singleton.mp now]
      exact named.1
  · change Lifetime.living (rows.lifetimes ++ [.destroyed i]) = _
    rw [Lifetime.living, foldlM_append]
    have before := history.living
    rw [Lifetime.living] at before
    rw [before]
    change (Lifetime.step _ _ >>= _) = _
    rw [Lifetime.step, present, isSome_some, if_pos rfl]
    change some _ = some _
    congr 1
    funext k
    rw [gone]
    by_cases here : k = i
    · rw [here, update_self, update_self]
      rfl
    · rw [update_of_ne here, update_of_ne here]
  · change (rows.lifetimes ++ [Lifetime.destroyed i]).filterMap _ = _
    rw [filterMap_append, history.constructed]
    exact append_nil _
  · rw [dropped]
    change (rows.lifetimes ++ [Lifetime.destroyed i]).filterMap _ = _
    rw [filterMap_append, history.destroyed, map_append]
    rfl

/-- Rows are dropped one after the other. -/
theorem dropRows (history : History rows) {list : List Nat} (distinct : list.Nodup)
    (present : ∀ i ∈ list, rows.rows i ≠ none) : History (list.foldl Rows.dropRow rows) := by
  induction list generalizing rows with
  | nil => exact history
  | cons i rest ih =>
    obtain ⟨entry, here⟩ := ne_none_iff_exists'.mp (present i mem_cons_self)
    obtain ⟨notLater, distinct⟩ := nodup_cons.mp distinct
    apply ih (history.dropRow here) distinct
    intro k member
    change update rows.rows i none k ≠ none
    rw [update_of_ne (ne_of_mem_of_not_mem member notLater)]
    exact present k (mem_cons_of_mem _ member)

theorem insertRow [Inhabited R] {state : Nat} (history : History rows) (inUse : InUse rows) :
    History (rows.insertRow n state).1 := by
  cases free : below (fun i => rows.stateOf i = FREE) n with
  | none =>
    have unchanged : rows.insertRow n state = (rows, {}) := by
      rw [Rows.insertRow, free]
    rw [unchanged]
    exact history
  | some i =>
    have absent := inUse i (below_eq_some_iff.mp free).2.1
    have inserted : (rows.insertRow n state).1.rows = update rows.rows i
        (some { generation := rows.issued.length + 1, state, value := default }) := by
      rw [Rows.insertRow, free]
      rfl
    have issued : (rows.insertRow n state).1.issued =
        rows.issued ++ [⟨i, rows.issued.length + 1⟩] := by
      rw [Rows.insertRow, free]
    have dropped : (rows.insertRow n state).1.dropped = rows.dropped := by
      rw [Rows.insertRow, free]
      rfl
    have lifetimes : (rows.insertRow n state).1.lifetimes =
        rows.lifetimes ++ [.constructed i] := by
      rw [Rows.insertRow, free]
    have isNew : (⟨i, rows.issued.length + 1⟩ : Id) ∉ rows.issued := by
      intro before
      exact absurd (history.fresh _ before) (Nat.not_succ_le_self _)
    refine ⟨?_, ?_, ?_, ?_, ?_, ?_, ?_, ?_⟩
    · intro id
      rw [inserted, issued, dropped, mem_append, mem_singleton]
      by_cases here : id.idx = i
      · rw [here, update_self, map_some]
        constructor
        · intro generation
          have same : id = ⟨i, rows.issued.length + 1⟩ := by
            have number : rows.issued.length + 1 = id.generation := Option.some.inj generation
            rw [number, ← here]
          rw [same]
          exact ⟨Or.inr rfl, fun before => isNew (history.droppedIssued _ before)⟩
        · rintro ⟨before | now, notDropped⟩
          · have still := (history.names id).mpr ⟨before, notDropped⟩
            rw [here, absent] at still
            cases still
          · rw [now]
      · rw [update_of_ne here, history.names id]
        constructor
        · rintro ⟨before, notDropped⟩
          exact ⟨Or.inl before, notDropped⟩
        · rintro ⟨before | now, notDropped⟩
          · exact ⟨before, notDropped⟩
          · exact absurd (congrArg Id.idx now) here
    · rw [issued]
      intro id member
      rw [List.length_append, length_singleton]
      rcases mem_append.mp member with before | now
      · exact Nat.le_succ_of_le (history.fresh id before)
      · rw [mem_singleton.mp now]
    · rw [issued]
      exact nodup_append_comm.mp (nodup_cons.mpr ⟨isNew, history.issuedOnce⟩)
    · rw [dropped]
      exact history.droppedOnce
    · rw [dropped, issued]
      exact fun id member => mem_append_left _ (history.droppedIssued id member)
    · rw [lifetimes, inserted, Lifetime.living, foldlM_append]
      have before := history.living
      rw [Lifetime.living] at before
      rw [before]
      change (Lifetime.step _ _ >>= _) = _
      rw [Lifetime.step, absent, isSome_none, if_neg Bool.false_ne_true]
      change some _ = some _
      congr 1
      funext k
      by_cases here : k = i
      · rw [here, update_self, update_self]
        rfl
      · rw [update_of_ne here, update_of_ne here]
    · rw [lifetimes, issued, filterMap_append, history.constructed, map_append]
      rfl
    · rw [lifetimes, dropped, filterMap_append, history.destroyed]
      exact append_nil _

end History

/-! ## Runs -/

/-- A table, its environment and what the operations returned. -/
structure TableRun (T R : Type u) where
  table : Table R
  env : T
  returned : List Returned := []

namespace TableRun

variable [Inhabited R]

/-- Nothing if a loop does not end within the rounds. -/
def perform (heap : HeapFunctions) (rounds : Nat) (run : TableRun T R) :
    TableOperation T R → Option (TableRun T R)
  | .insert dst =>
    (run.table.insert rounds dst).map fun result =>
      { run with table := result.1, returned := run.returned ++ [.id result.2] }
  | .insertWith dst f =>
    (run.table.insertWith rounds dst f run.env).map fun result =>
      { table := result.1, env := result.2.2, returned := run.returned ++ [.id result.2.1] }
  | .drop id => (run.table.drop rounds id).map fun table => { run with table }
  | .dropState src =>
    (run.table.dropState rounds src).map fun result =>
      { run with table := result.1, returned := run.returned ++ [.count result.2] }
  | .withRow id f =>
    let result := run.table.withRow id f run.env
    some { run with table := result.1, env := result.2 }
  | .idOf pointer => some { run with returned := run.returned ++ [.id (run.table.idOf pointer)] }
  | .moveById dst id => (run.table.moveById rounds dst id).map fun table => { run with table }
  | .moveFrom src dst f =>
    (run.table.moveFrom rounds src dst f run.env).map fun result =>
      { run with table := result.1, env := result.2 }
  | .moveFromAny dst f =>
    (run.table.moveFromAny rounds dst f run.env).map fun result =>
      { run with table := result.1, env := result.2 }
  | .moveFromOrdered comparators src dst f =>
    (run.table.moveFromOrdered heap comparators rounds src dst f run.env).map fun result =>
      { run with table := result.1, env := result.2 }
  | .moveOrdered comparators dst f =>
    (run.table.moveOrdered heap comparators rounds dst f run.env).map fun result =>
      { run with table := result.1, env := result.2 }

def play (heap : HeapFunctions) (rounds : Nat) (run : TableRun T R) :
    List (TableOperation T R) → Option (TableRun T R)
  | [] => some run
  | operation :: rest =>
    match run.perform heap rounds operation with
    | none => none
    | some further => further.play heap rounds rest

/-- No row is accepted in a move within one state by a callback that goes on. -/
def Settles (rounds : Nat) (run : TableRun T R) : TableOperation T R → Prop
  | .moveFrom src dst f =>
    src ≠ dst ∨ ∀ rowsOfState,
      run.table.ml.inBucket (fun found i => (true, found ++ [i])) rounds src [] =
        some rowsOfState →
      acceptsAndGoesOn (Table.callSystemFuncRet run.table.generations f)
        { columns := run.table.columns, env := run.env } rowsOfState = false
  | _ => True

/-- All operations of a run settle. -/
def AllSettle (heap : HeapFunctions) (rounds : Nat) (run : TableRun T R) :
    List (TableOperation T R) → Prop
  | [] => True
  | operation :: rest =>
    run.Settles rounds operation ∧
      ∀ further, run.perform heap rounds operation = some further →
        further.AllSettle heap rounds rest

theorem allSettle_of_forall {heap : HeapFunctions} {rounds : Nat} {run : TableRun T R}
    {operations : List (TableOperation T R)}
    (settle : ∀ operation ∈ operations, ∀ run : TableRun T R, run.Settles rounds operation) :
    run.AllSettle heap rounds operations := by
  induction operations generalizing run with
  | nil => trivial
  | cons operation rest ih =>
    refine ⟨settle operation mem_cons_self run, fun further _ => ?_⟩
    exact ih fun other later => settle other (mem_cons_of_mem _ later)

end TableRun

namespace TableOperation

/-- The states are those of the table, and comparators are strict weak orders. -/
def Inside (states : Nat) : TableOperation T R → Prop
  | .insert dst => dst ≠ FREE ∧ dst ≤ states
  | .insertWith dst _ => dst ≠ FREE ∧ dst ≤ states
  | .drop _ => True
  | .dropState src => src ≠ FREE ∧ src ≤ states
  | .withRow _ _ => True
  | .idOf _ => True
  | .moveById dst _ => dst ≠ FREE ∧ dst ≤ states
  | .moveFrom src dst _ => (src ≠ FREE ∧ src ≤ states) ∧ dst ≠ FREE ∧ dst ≤ states
  | .moveFromAny dst _ => dst ≠ FREE ∧ dst ≤ states
  | .moveFromOrdered comparators src dst _ =>
    (src ≠ FREE ∧ src ≤ states) ∧ (dst ≠ FREE ∧ dst ≤ states) ∧ Lawful comparators
  | .moveOrdered comparators dst _ => (dst ≠ FREE ∧ dst ≤ states) ∧ Lawful comparators

end TableOperation

/-! ## Refinement of runs -/

/-- A run stands for rows whose ids have their history. -/
structure TableRun.Follows (n states : Nat) (run : TableRun T R) (rows : Rows T R) : Prop where
  refines : Refines n states run.table run.env rows
  history : History rows
  returned : run.returned = rows.returned

/-- What is returned to the caller is not part of the rows. -/
theorem Refines.giveBack {table : Table R} {env : T} (refines : Refines n states table env rows)
    (value : Returned) : Refines n states table env (rows.giveBack value) :=
  ⟨⟨refines.contents.size, refines.contents.inUse, refines.contents.outside,
      ⟨refines.contents.cells.columns, refines.contents.cells.generations,
        refines.contents.cells.env⟩,
      refines.contents.unused, refines.contents.generation, refines.contents.given,
      refines.contents.lifetimes⟩,
    refines.states.size, refines.states.represents⟩

theorem returned_insertRow [Inhabited R] {state : Nat} :
    (rows.insertRow n state).1.returned = rows.returned := by
  rw [Rows.insertRow]
  split
  · rfl
  · rfl

theorem returned_dropRows {list : List Nat} :
    (list.foldl Rows.dropRow rows).returned = rows.returned := by
  induction list generalizing rows with
  | nil => rfl
  | cons i rest ih => exact ih

theorem length_issued_insertRow [Inhabited R] {state : Nat} :
    (rows.insertRow n state).1.issued.length ≤ rows.issued.length + 1 := by
  rw [Rows.insertRow]
  split
  · exact Nat.le_succ _
  · exact Nat.le_of_eq List.length_append

theorem issued_dropRows {list : List Nat} :
    (list.foldl Rows.dropRow rows).issued = rows.issued := by
  induction list generalizing rows with
  | nil => rfl
  | cons i rest ih => exact ih

/-- Visits leave the ids. -/
theorem sameIds_sweep {f : Callback T R MoveOp} {dst : Nat} {order : List Nat}
    (present : ∀ i ∈ order, rows.rows i ≠ none) : SameIds rows (rows.sweep f dst order) := by
  induction order generalizing rows with
  | nil => exact .refl
  | cons i rest ih =>
    obtain ⟨entry, here⟩ := ne_none_iff_exists'.mp (present i mem_cons_self)
    obtain ⟨_, ids, _, presentThen⟩ := Rows.callRow_stateOf f .SKIP here
    have moved := ids.trans (Rows.setState_stateOf dst presentThen).2
    have visited : SameIds rows (rows.visitRow f dst i).2 := by
      rw [Rows.visitRow]
      cases (rows.callRow f .SKIP i).1 with
      | SKIP => exact ids
      | MOVE => exact moved
      | MOVE_DONE => exact moved
      | SKIP_DONE => exact ids
    rw [sweep_cons]
    split
    · refine visited.trans (ih fun k member absent => ?_)
      exact present k (mem_cons_of_mem _ member) (visited.isNone_iff.mp absent)
    · exact visited

namespace TableRun.Follows

variable {run : TableRun T R} {heap : HeapFunctions} {rounds : Nat}

/-- After an operation that leaves the ids. -/
theorem visited (follows : Follows n states run rows) {table : Table R} {env : T}
    (refines : Refines n states table env further) (ids : SameIds rows further) :
    Follows n states { run with table, env } further ∧
      further.issued.length ≤ rows.issued.length + 1 := by
  refine ⟨⟨refines, follows.history.sameIds ids, follows.returned.trans ids.returned.symm⟩, ?_⟩
  rw [ids.issued]
  exact Nat.le_succ _

/-- The ids stay if a function is called for the row of a valid id. -/
theorem sameIds_call (f : Callback T R Unit) (id : Id) :
    SameIds rows (if (rows.find id).isSome then (rows.callRow f () id.idx).2 else rows) := by
  by_cases isValid : (rows.find id).isSome = true
  · obtain ⟨entry, present⟩ := Refines.present_of_valid isValid
    rw [if_pos isValid]
    exact (Rows.callRow_stateOf f () present).2.1
  · rw [if_neg isValid]
    exact .refl

theorem sameIds_setState (state : Nat) (id : Id) :
    SameIds rows (if (rows.find id).isSome then rows.setState id.idx state else rows) := by
  by_cases isValid : (rows.find id).isSome = true
  · obtain ⟨entry, present⟩ := Refines.present_of_valid isValid
    rw [if_pos isValid]
    exact (Rows.setState_stateOf state present).2
  · rw [if_neg isValid]
    exact .refl

theorem sameIds_new [Inhabited R] (f : Callback T R Unit) (state : Nat) :
    SameIds (rows.insertRow n state).1
      (if (rows.insertRow n state).2.isValid then
        ((rows.insertRow n state).1.callRow f () (rows.insertRow n state).2.idx).2
      else (rows.insertRow n state).1) := by
  cases present : (rows.insertRow n state).1.rows (rows.insertRow n state).2.idx with
  | none =>
    have unchanged : ((rows.insertRow n state).1.callRow f () (rows.insertRow n state).2.idx).2 =
        (rows.insertRow n state).1 := by
      rw [Rows.callRow, present]
    rw [unchanged, ite_self]
    exact .refl
  | some entry =>
    split
    · exact (Rows.callRow_stateOf f () present).2.1
    · exact .refl

/-- One operation ends and does what it should. -/
theorem perform [Inhabited R] (follows : Follows n states run rows)
    (lawfulHeap : LawfulHeap heap.makeHeap heap.popHeap) {operation : TableOperation T R}
    (inside : operation.Inside states) (settles : run.Settles rounds operation)
    (few : rows.issued.length + 2 < 4294967296) (enough : n < rounds) :
    ∃ after target, run.perform heap rounds operation = some after ∧
      rows.Step n operation target ∧ Follows n states after target ∧
      target.issued.length ≤ rows.issued.length + 1 := by
  have refines := follows.refines
  have present : ∀ {src}, src ≠ FREE → ∀ i ∈ members rows.stateOf n src, rows.rows i ≠ none :=
    fun used i member => (Refines.present_of_member used member).2
  have others : ∀ {dst}, ∀ i ∈ downward
      (fun i => rows.stateOf i ≠ FREE ∧ rows.stateOf i ≠ dst) n, rows.rows i ≠ none :=
    fun i member => ne_none_iff_exists'.mpr
      (Rows.present_of_stateOf (mem_downward.mp member).2.1)
  cases operation with
  | insert dst =>
    obtain ⟨after, result, refinesThen⟩ := refines.insert inside.2 inside.1 few enough
    refine ⟨_, _, by rw [TableRun.perform, result]; rfl, rfl,
      ⟨refinesThen.giveBack _, (follows.history.insertRow refines.contents.inUse).giveBack _, ?_⟩,
      length_issued_insertRow⟩
    change run.returned ++ _ = (rows.insertRow n dst).1.returned ++ _
    rw [returned_insertRow, follows.returned]
  | insertWith dst f =>
    obtain ⟨after, envAfter, result, refinesThen⟩ :=
      refines.insertWith f inside.2 inside.1 few enough
    have ids : SameIds (rows.insertRow n dst).1 _ := sameIds_new f dst
    have historyThen := (follows.history.insertRow refines.contents.inUse).sameIds ids
    have returned := ids.returned
    have issued := ids.issued
    rw [returned_insertRow, ← follows.returned] at returned
    refine ⟨_, _, by rw [TableRun.perform, result]; rfl, rfl, ?_⟩
    dsimp only
    by_cases isValid : (rows.insertRow n dst).2.isValid = true
    · rw [if_pos isValid] at refinesThen historyThen returned issued ⊢
      refine ⟨⟨refinesThen.giveBack _, historyThen.giveBack _,
        congrArg (· ++ _) returned.symm⟩, ?_⟩
      change (Rows.callRow _ f () _).2.issued.length ≤ _
      rw [issued]
      exact length_issued_insertRow
    · rw [if_neg isValid] at refinesThen historyThen returned ⊢
      exact ⟨⟨refinesThen.giveBack _, historyThen.giveBack _, congrArg (· ++ _) returned.symm⟩,
        length_issued_insertRow⟩
  | drop id =>
    obtain ⟨after, result, refinesThen⟩ := refines.drop id enough
    refine ⟨_, _, by rw [TableRun.perform, result]; rfl, rfl, ?_⟩
    by_cases isValid : (rows.find id).isSome = true
    · obtain ⟨entry, here⟩ := Refines.present_of_valid isValid
      rw [if_pos isValid] at refinesThen ⊢
      exact ⟨⟨refinesThen, follows.history.dropRow here, follows.returned⟩, Nat.le_succ _⟩
    · rw [if_neg isValid] at refinesThen ⊢
      exact ⟨⟨refinesThen, follows.history, follows.returned⟩, Nat.le_succ _⟩
  | dropState src =>
    obtain ⟨after, result, refinesThen⟩ := refines.dropState inside.2 inside.1 enough
    refine ⟨_, _, by rw [TableRun.perform, result]; rfl, rfl,
      ⟨refinesThen.giveBack _, (follows.history.dropRows
        (downward_descending.imp fun above => Nat.ne_of_gt above) (present inside.1)).giveBack _,
        ?_⟩, ?_⟩
    · change run.returned ++ _ = (List.foldl Rows.dropRow rows _).returned ++ _
      rw [returned_dropRows, follows.returned]
    · change (List.foldl Rows.dropRow rows _).issued.length ≤ _
      rw [issued_dropRows]
      exact Nat.le_succ _
  | withRow id f =>
    exact ⟨_, _, rfl, rfl, follows.visited (refines.withRow f) (sameIds_call f id)⟩
  | idOf pointer =>
    refine ⟨_, _, rfl, rfl, ⟨refines.giveBack _, follows.history.giveBack _, ?_⟩, Nat.le_succ _⟩
    rw [refines.idOf, follows.returned]
    rfl
  | moveById dst id =>
    obtain ⟨after, result, refinesThen⟩ := refines.moveById id inside.2 inside.1 enough
    exact ⟨_, _, by rw [TableRun.perform, result]; rfl, rfl,
      follows.visited refinesThen (sameIds_setState dst id)⟩
  | moveFrom src dst f =>
    obtain ⟨⟨usedSrc, source⟩, used, target⟩ := inside
    have settled : src ≠ dst ∨ acceptsAndGoesOn
        (Table.callSystemFuncRet run.table.generations f)
        { columns := run.table.columns, env := run.env } (members rows.stateOf n src) =
          false := by
      rcases settles with different | stays
      · exact Or.inl different
      · refine Or.inr (stays _ ?_)
        obtain ⟨sizeN, sizeBuckets⟩ := refines.states.size
        rw [refines.states.represents.inBucket _ _ (by omega) (by rw [sizeN]; exact enough),
          sizeN, visit_collect, nil_append]
    obtain ⟨after, envAfter, result, refinesThen⟩ :=
      refines.moveFrom f source usedSrc target used settled enough
    exact ⟨_, _, by rw [TableRun.perform, result]; rfl, rfl,
      follows.visited refinesThen (sameIds_sweep (present usedSrc))⟩
  | moveFromAny dst f =>
    obtain ⟨after, envAfter, result, refinesThen⟩ :=
      refines.moveFromAny f inside.2 inside.1 enough
    exact ⟨_, _, by rw [TableRun.perform, result]; rfl, rfl,
      follows.visited refinesThen (sameIds_sweep others)⟩
  | moveFromOrdered comparators src dst f =>
    obtain ⟨⟨usedSrc, source⟩, ⟨used, target⟩, lawful⟩ := inside
    obtain ⟨after, envAfter, order, ascending, result, refinesThen⟩ :=
      refines.moveFromOrdered f lawfulHeap lawful source usedSrc target used enough
    exact ⟨_, _, by rw [TableRun.perform, result]; rfl, ⟨order, ascending, rfl⟩,
      follows.visited refinesThen (sameIds_sweep fun i member => present usedSrc i
        (mem_filter.mp (ascending.perm.subset member)).1)⟩
  | moveOrdered comparators dst f =>
    obtain ⟨⟨used, target⟩, lawful⟩ := inside
    obtain ⟨after, envAfter, order, ascending, result, refinesThen⟩ :=
      refines.moveOrdered f lawfulHeap lawful target used enough
    exact ⟨_, _, by rw [TableRun.perform, result]; rfl, ⟨order, ascending, rfl⟩,
      follows.visited refinesThen (sameIds_sweep fun i member => others i
        (mem_filter.mp (ascending.perm.subset member)).1)⟩

theorem play [Inhabited R] (follows : Follows n states run rows)
    (lawfulHeap : LawfulHeap heap.makeHeap heap.popHeap)
    {operations : List (TableOperation T R)}
    (inside : ∀ operation ∈ operations, operation.Inside states)
    (settle : run.AllSettle heap rounds operations)
    (few : rows.issued.length + operations.length + 1 < 4294967296) (enough : n < rounds) :
    ∃ after target, run.play heap rounds operations = some after ∧
      rows.Run n operations target ∧ Follows n states after target := by
  induction operations generalizing run rows with
  | nil => exact ⟨run, rows, rfl, rfl, follows⟩
  | cons operation rest ih =>
    rw [length_cons] at few
    obtain ⟨next, between, performed, step, followed, issued⟩ := follows.perform lawfulHeap
      (inside operation mem_cons_self) settle.1 (by omega) enough
    obtain ⟨after, target, played, further, followedAll⟩ := ih followed
      (fun other later => inside other (mem_cons_of_mem _ later))
      (settle.2 next performed) (by omega)
    refine ⟨after, target, ?_, ⟨between, step, further⟩, followedAll⟩
    rw [TableRun.play, performed]
    exact played

/-- A table that was initialised has no rows. -/
theorem initial {memory : Nat} {aligned : Bool} {items backlinks : Nat → Nat}
    {columns : Nat → R} {table : Table R}
    (made : Table.init n states memory aligned items backlinks columns = some table) (env : T) :
    Follows n states { table, env } (Rows.initial env) := by
  rw [Table.init] at made
  obtain ⟨⟨list, left⟩, madeList, rfl⟩ := map_eq_some_iff.mp made
  have follows := Shed.Follows.initial madeList (Nat.succ_pos states) env
  refine ⟨⟨⟨rfl, fun _ _ => rfl, fun _ _ => rfl, ⟨?_, ?_, rfl⟩, fun _ _ _ => rfl, rfl, ?_, rfl⟩,
    follows.size, follows.represents⟩, .initial env, rfl⟩
  · exact fun _ _ absent => by cases absent
  · exact fun _ _ absent => by cases absent
  · exact fun _ _ absent => by cases absent

end TableRun.Follows

/-- What a table shows of the rows it stands for. -/
structure Shown (n states : Nat) (run : TableRun T R) (rows : Rows T R) : Prop where
  /-- An id is valid from the insertion that returned it until its row is dropped. -/
  valid : ∀ id, run.table.valid id = true ↔ id ∈ rows.issued ∧ id ∉ rows.dropped
  /-- The valid ids are those that name a row, whose values are in the columns. -/
  row : ∀ id, run.table.valid id = true ↔ ∃ entry, rows.find id = some entry ∧
    run.table.columns id.idx = entry.value ∧ rows.stateOf id.idx = entry.state ∧
    entry.state ≠ FREE ∧ entry.state ≤ states
  /-- Each index is in the list of one state. -/
  partition : Partition run.table.ml n (states + 1) rows.stateOf
  returned : run.returned = rows.returned
  env : run.env = rows.env
  lifetimes : run.table.lifetimes = rows.lifetimes
  history : History rows

/-- An insertion fails if all rows are in use. -/
theorem insertRow_fails_iff [Inhabited R] {state : Nat} (inUse : InUse rows) :
    (rows.insertRow n state).2.isValid = false ↔ ∀ i < n, rows.rows i ≠ none := by
  cases free : below (fun i => rows.stateOf i = FREE) n with
  | none =>
    have unchanged : rows.insertRow n state = (rows, {}) := by
      rw [Rows.insertRow, free]
    rw [unchanged]
    refine ⟨fun _ i inside absent => ?_, fun _ => rfl⟩
    exact below_eq_none_iff.mp free i inside (Rows.stateOf_none absent)
  | some i =>
    obtain ⟨inside, isFree, _⟩ := below_eq_some_iff.mp free
    have given : (rows.insertRow n state).2 = ⟨i, rows.issued.length + 1⟩ := by
      rw [Rows.insertRow, free]
    rw [given]
    refine ⟨fun invalid => absurd invalid (by simp [Id.isValid]), fun full => ?_⟩
    exact absurd (inUse i isFree) (full i inside)

theorem TableRun.Follows.shown {run : TableRun T R} (follows : Follows n states run rows) :
    Shown n states run rows := by
  have contents := follows.refines.contents
  have valid : ∀ id, run.table.valid id = true ↔ ∃ entry, rows.find id = some entry := by
    intro id
    rw [contents.valid_eq, isSome_iff_exists]
  obtain ⟨sizeN, sizeBuckets⟩ := follows.refines.states.size
  have partition := follows.refines.states.represents.partition
  rw [sizeN, sizeBuckets] at partition
  refine ⟨fun id => ?_, fun id => ?_, partition, follows.returned, contents.cells.env,
    contents.lifetimes, follows.history⟩
  · rw [valid, ← follows.history.names id, map_eq_some_iff]
    constructor
    · rintro ⟨entry, found⟩
      exact ⟨entry, Contents.find_eq_some_iff.mp found⟩
    · rintro ⟨entry, found⟩
      exact ⟨entry, Contents.find_eq_some_iff.mpr found⟩
  · rw [valid]
    constructor
    · rintro ⟨entry, found⟩
      have present := (Contents.find_eq_some_iff.mp found).1
      have state := Rows.stateOf_some present
      have inside := follows.refines.states.represents.inside id.idx
        (by rw [sizeN]; exact contents.inside present)
      rw [state] at inside
      refine ⟨entry, found, contents.cells.columns _ entry present, state, fun free => ?_, by omega⟩
      rw [contents.inUse _ (state.trans free)] at present
      cases present
    · rintro ⟨entry, found, _⟩
      exact ⟨entry, found⟩

/-- Every run of fewer than 2^32 - 1 operations ends and does on the rows what it should, if no row
is accepted in a move within one state by a callback that goes on. -/
theorem table_refines [Inhabited R] {heap : HeapFunctions}
    (lawfulHeap : LawfulHeap heap.makeHeap heap.popHeap) {memory rounds : Nat} {aligned : Bool}
    {items backlinks : Nat → Nat} {columns : Nat → R} {table : Table R}
    (made : Table.init n states memory aligned items backlinks columns = some table) (env : T)
    {operations : List (TableOperation T R)}
    (inside : ∀ operation ∈ operations, operation.Inside states)
    (settle : ({ table, env } : TableRun T R).AllSettle heap rounds operations)
    (few : operations.length < 4294967295) (enough : n < rounds) :
    ∃ run rows, ({ table, env } : TableRun T R).play heap rounds operations = some run ∧
      (Rows.initial env).Run n operations rows ∧ Shown n states run rows ∧
      ∀ state, (rows.insertRow n state).2.isValid = false ↔ ∀ i < n, rows.rows i ≠ none := by
  have start :
      (Rows.initial env : Rows T R).issued.length + operations.length + 1 < 4294967296 := by
    change 0 + operations.length + 1 < 4294967296
    omega
  obtain ⟨run, rows, played, further, follows⟩ :=
    (TableRun.Follows.initial made env).play lawfulHeap inside settle start enough
  exact ⟨run, rows, played, further, follows.shown,
    fun _ => insertRow_fails_iff follows.refines.contents.inUse⟩

/-- Heap functions that keep the rows sorted. -/
def sampleHeap : HeapFunctions where
  makeHeap := sortDown
  popHeap := popSorted

/-- Rows with a number, of which 0 stands for a column that is not set. -/
def byNumber : Comparator Nat where
  isSet number := number ≠ 0
  less first second := first < second

/-- A new row gets a number. -/
def setNumber (number : Nat) : Callback (List Nat) Nat Unit where
  allArgsSet _ _ := true
  call env _ _ := ((), number, env)

/-- Rows are accepted, and their numbers noted. -/
def acceptRow : Callback (List Nat) Nat MoveOp where
  allArgsSet _ _ := true
  call env _ number := (.MOVE, number, env ++ [number])

/-- Four insertions into a table for three rows, a drop, and a move in order. -/
def sampleTableOperations : List (TableOperation (List Nat) Nat) :=
  [.insertWith 1 (setNumber 7), .insertWith 1 (setNumber 9), .insertWith 1 (setNumber 8),
    .insert 1, .drop ⟨1, 2⟩, .drop ⟨1, 2⟩, .insert 2, .idOf (some 1), .idOf (some 3),
    .moveFromOrdered [byNumber] 1 2 acceptRow, .dropState 2]

def sampleTable : Table Nat where
  n := 3
  ml := MultiList.init 3 3 (fun _ => 0) (fun _ => 0)
  generations _ := 0
  generation := 1
  columns _ := 0
  lifetimes := []

theorem table_refines_sample :
    ∃ run rows, ({ table := sampleTable, env := [] } : TableRun (List Nat) Nat).play sampleHeap 4
        sampleTableOperations = some run ∧
      (Rows.initial []).Run 3 sampleTableOperations rows ∧ Shown 3 2 run rows ∧
      run.returned = [.id ⟨2, 1⟩, .id ⟨1, 2⟩, .id ⟨0, 3⟩, .id {}, .id ⟨1, 4⟩, .id ⟨1, 4⟩, .id {},
        .count 3] ∧
      run.env = [7, 8] := by
  have made : Table.init 3 2 28 true (fun _ => 0) (fun _ => 0) (fun _ => 0) = some sampleTable :=
    rfl
  have lawfulHeap : LawfulHeap sampleHeap.makeHeap sampleHeap.popHeap := lawfulHeap_sorted
  have lawful : Lawful [byNumber] := by
    intro comparator member
    rw [mem_singleton.mp member]
    constructor
    · intro a b _ _ less
      simp only [byNumber, decide_eq_true_eq, decide_eq_false_iff_not] at less ⊢
      omega
    · intro a b c _ _ _ first second
      simp only [byNumber, decide_eq_false_iff_not] at first second ⊢
      omega
  have inside : ∀ operation ∈ sampleTableOperations, operation.Inside 2 := by
    simp [sampleTableOperations, TableOperation.Inside, FREE, lawful]
  have settle : ({ table := sampleTable, env := [] } : TableRun (List Nat) Nat).AllSettle sampleHeap
      4 sampleTableOperations := by
    apply TableRun.allSettle_of_forall
    simp [sampleTableOperations, TableRun.Settles]
  obtain ⟨run, rows, played, further, shown, _⟩ :=
    table_refines lawfulHeap made [] inside settle (by decide) (by decide)
  have computed : (({ table := sampleTable, env := [] } : TableRun (List Nat) Nat).play sampleHeap 4
      sampleTableOperations).map (fun run => (run.returned, run.env)) =
      some ([.id ⟨2, 1⟩, .id ⟨1, 2⟩, .id ⟨0, 3⟩, .id {}, .id ⟨1, 4⟩, .id ⟨1, 4⟩, .id {}, .count 3],
        [7, 8]) := by decide +kernel
  rw [played, map_some] at computed
  obtain ⟨returned, env⟩ := Prod.mk.inj (Option.some.inj computed)
  exact ⟨run, rows, played, further, shown, returned, env⟩

/-- With one row in one state and a callback that always accepts, a move from this state to itself
does not end within any number of rounds. -/
theorem not_table_refines :
    ¬ ∀ operations : List (TableOperation Unit Unit),
      (∀ operation ∈ operations, operation.Inside 1) → operations.length < 4294967295 →
      ∀ table : Table Unit,
        Table.init 1 1 16 true (fun _ => 0) (fun _ => 0) (fun _ => ()) = some table →
        ∃ rounds, ∃ run, ({ table, env := () } : TableRun Unit Unit).play sampleHeap rounds
          operations = some run := by
  intro ends
  let accept : Callback Unit Unit MoveOp :=
    { allArgsSet := fun _ _ => true, call := fun _ _ _ => (.MOVE, (), ()) }
  obtain ⟨rounds, run, played⟩ := ends [.insert 1, .moveFrom 1 1 accept]
    (by simp [TableOperation.Inside, FREE]) (by decide) _ rfl
  have represents : Represents (MultiList.init 1 2 (fun _ => 0) (fun _ => 0)) (fun _ => 0) :=
    init_represents (by decide) (by decide)
  have place : Represents.Place (MultiList.init 1 2 (fun _ => 0) (fun _ => 0)) (fun _ => 0) 0 1 2 :=
    ⟨by decide, rfl, by decide, fun k above inside => by
      have : k < 1 := inside
      omega⟩
  have inserted := represents.relink (s := 0) (d := 1) (by decide) (by decide) place
  have head : 0 < min 2 1 := by decide
  have endless : ∀ rounds generations cells, ((MultiList.init 1 2 (fun _ => 0) (fun _ => 0)).relink
      0 2).moveIf (Table.callSystemFuncRet generations accept) (rounds + 2) 1 1 cells = none := by
    intro rounds generations cells
    exact inserted.moveIfLoop_endless (by decide) rfl rfl (by decide) rfl head
      (Nat.lt_add_left rounds (by decide)) fun _ => rfl
  match rounds with
  | 0 => cases played
  | 1 => cases played
  | rounds + 2 =>
    have first : (MultiList.init 1 2 (fun _ => 0) (fun _ => 0)).moveFirst (rounds + 2) FREE 1 =
        some ((MultiList.init 1 2 (fun _ => 0) (fun _ => 0)).relink 0 2, 0) := rfl
    rw [TableRun.play, TableRun.perform, Table.insert] at played
    simp only [first, map_some, TableRun.play, TableRun.perform] at played
    rw [if_neg (by decide)] at played
    simp only [Table.moveFrom, Table.initRow, endless] at played
    cases played

end OpenBsw.Shed
