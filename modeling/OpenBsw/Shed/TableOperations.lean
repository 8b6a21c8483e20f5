import OpenBsw.Shed.OrderedSweep
import OpenBsw.Shed.Partition

/-!
# Tables refine rows with ids

Each operation of a table ends and does what it should do to the rows.  The
index list knows the states, the generations tell which ids are valid, and the
columns hold the values.
-/

namespace OpenBsw.Shed

open List Function Option

universe u

variable {T R : Type u} {n states src dst rounds i : Nat} {table : Table R} {env : T}
  {rows further : Rows T R} {entry : Entry R} {id : Id}

/-- What a table holds besides the states of its rows. -/
structure Contents (n : Nat) (table : Table R) (env : T) (rows : Rows T R) : Prop where
  size : table.n = n
  inUse : InUse rows
  outside : ∀ i, n ≤ i → rows.rows i = none
  cells : Shows table.generations { columns := table.columns, env } rows
  unused : ∀ i < n, rows.rows i = none → table.generations i = 0
  generation : table.generation = rows.issued.length + 1
  given : ∀ i, ∀ entry ∈ rows.rows i,
    0 < entry.generation ∧ entry.generation ≤ rows.issued.length
  lifetimes : table.lifetimes = rows.lifetimes

/-- The index list of a table knows the states of the rows. -/
structure States (n states : Nat) (list : MultiList) (rows : Rows T R) : Prop where
  size : list.n = n ∧ list.buckets = states + 1
  represents : Represents list rows.stateOf

/-- A table and its environment stand for rows. -/
structure Refines (n states : Nat) (table : Table R) (env : T) (rows : Rows T R) : Prop where
  contents : Contents n table env rows
  states : States n states table.ml rows

namespace Contents

/-- The index list is not part of the contents. -/
theorem withList (contents : Contents n table env rows) (list : MultiList) :
    Contents n { table with ml := list } env rows :=
  ⟨contents.size, contents.inUse, contents.outside, contents.cells, contents.unused,
    contents.generation, contents.given, contents.lifetimes⟩

theorem inside (contents : Contents n table env rows) (present : rows.rows i = some entry) :
    i < n := by
  by_contra outside
  rw [contents.outside i (Nat.le_of_not_lt outside)] at present
  cases present

/-- The ids of rows are the valid ones. -/
theorem valid_eq (contents : Contents n table env rows) :
    table.valid id = (rows.find id).isSome := by
  rw [Bool.eq_iff_iff, Table.valid, decide_eq_true_iff, Rows.find, isSome_filter]
  rw [contents.size]
  constructor
  · rintro ⟨positive, inside, generation⟩
    cases present : rows.rows id.idx with
    | none =>
      rw [contents.unused _ inside present] at generation
      exact absurd generation positive
    | some entry =>
      rw [contents.cells.generations _ entry present] at generation
      simpa using generation.symm
  · intro found
    cases present : rows.rows id.idx with
    | none =>
      rw [present] at found
      cases found
    | some entry =>
      rw [present] at found
      have same : entry.generation = id.generation := by simpa using found
      have given := (contents.given _ entry present).1
      have stored := contents.cells.generations _ entry present
      refine ⟨by omega, contents.inside present, ?_⟩
      rw [stored, same]

theorem find_eq_some_iff :
    rows.find id = some entry ↔
      rows.rows id.idx = some entry ∧ entry.generation = id.generation := by
  rw [Rows.find, filter_eq_some_iff, decide_eq_true_iff]

/-- Visits of rows change their values. -/
theorem visited (contents : Contents n table env rows) {cells : Table.Cells T R}
    (ids : SameIds rows further) (inUse : InUse further)
    (shows : Shows table.generations cells further) :
    Contents n { table with columns := cells.columns } cells.env further where
  size := contents.size
  inUse := inUse
  outside := fun i outside => ids.isNone_iff.mpr (contents.outside i outside)
  cells := shows
  unused := fun i inside absent => contents.unused i inside (ids.isNone_iff.mp absent)
  generation := by rw [ids.issued]; exact contents.generation
  given := by
    intro i entry present
    have generations := ids.generations i
    rw [present, map_some] at generations
    obtain ⟨before, wasPresent, same⟩ := map_eq_some_iff.mp generations.symm
    rw [← same, ids.issued]
    exact contents.given i before wasPresent
  lifetimes := contents.lifetimes.trans ids.lifetimes.symm

/-- A row is dropped. -/
theorem dropRow (contents : Contents n table env rows) :
    Contents n { table.resetRow i with generations := update table.generations i 0 } env
      (rows.dropRow i) where
  size := contents.size
  inUse := by
    intro k free
    change update rows.rows i none k = none
    by_cases here : k = i
    · rw [here, update_self]
    · rw [update_of_ne here]
      apply contents.inUse
      rw [← free]
      exact (Rows.stateOf_congr (update_of_ne here ..)).symm
  outside := by
    intro k outside
    change update rows.rows i none k = none
    by_cases here : k = i
    · rw [here, update_self]
    · rw [update_of_ne here]
      exact contents.outside k outside
  cells := by
    have kept : ∀ k, ∀ other ∈ update rows.rows i none k,
        k ≠ i ∧ rows.rows k = some other := by
      intro k other member
      by_cases here : k = i
      · rw [here, update_self] at member
        cases member
      · rw [update_of_ne here] at member
        exact ⟨here, member⟩
    refine ⟨fun k other member => ?_, fun k other member => ?_, contents.cells.env⟩
    · exact contents.cells.columns k other (kept k other member).2
    · obtain ⟨elsewhere, before⟩ := kept k other member
      change update table.generations i 0 k = _
      rw [update_of_ne elsewhere]
      exact contents.cells.generations k other before
  unused := by
    intro k inside absent
    change update table.generations i 0 k = 0
    change update rows.rows i none k = none at absent
    by_cases here : k = i
    · rw [here, update_self]
    · rw [update_of_ne here] at absent ⊢
      exact contents.unused k inside absent
  generation := contents.generation
  given := by
    intro k other member
    change update rows.rows i none k = some other at member
    by_cases here : k = i
    · rw [here, update_self] at member
      cases member
    · rw [update_of_ne here] at member
      exact contents.given k other member
  lifetimes := congrArg (· ++ [Lifetime.destroyed i]) contents.lifetimes

/-- Several rows are dropped. -/
theorem dropRows (contents : Contents n table env rows) (list : List Nat) :
    Contents n
      { table with
        generations := (list.foldl (fun state idx =>
          (update state.1 idx 0, state.2 ++ [Lifetime.destroyed idx]))
          (table.generations, table.lifetimes)).1
        lifetimes := (list.foldl (fun state idx =>
          (update state.1 idx 0, state.2 ++ [Lifetime.destroyed idx]))
          (table.generations, table.lifetimes)).2 } env (list.foldl Rows.dropRow rows) := by
  induction list generalizing table rows with
  | nil => exact contents
  | cons i rest ih => exact ih (contents.dropRow (i := i))

/-- A row is inserted at a free index. -/
theorem insertRow [Inhabited R] {state : Nat} (contents : Contents n table env rows)
    (free : below (fun i => rows.stateOf i = FREE) n = some i) (used : state ≠ FREE)
    (few : rows.issued.length + 2 < 4294967296) :
    Contents n
      (Table.initRow { table with
        generations := update table.generations i table.generation
        generation := Table.nextGeneration table.generation } i) env
      (rows.insertRow n state).1 := by
  obtain ⟨inside, _, _⟩ := below_eq_some_iff.mp free
  rw [Rows.insertRow, free]
  dsimp only
  refine ⟨contents.size, ?_, ?_, ⟨?_, ?_, contents.cells.env⟩, ?_, ?_, ?_, ?_⟩
  · intro k isFree
    change update rows.rows i _ k = none
    by_cases here : k = i
    · rw [here, Rows.stateOf_some (update_self ..)] at isFree
      exact absurd isFree used
    · rw [Rows.stateOf_congr (update_of_ne here ..)] at isFree
      rw [update_of_ne here]
      exact contents.inUse k isFree
  · intro k outside
    change update rows.rows i _ k = none
    rw [update_of_ne (by omega)]
    exact contents.outside k outside
  · intro k other member
    change update rows.rows i _ k = some other at member
    change update table.columns i default k = _
    by_cases here : k = i
    · rw [here, update_self] at member ⊢
      rw [← Option.some.inj member]
    · rw [update_of_ne here] at member ⊢
      exact contents.cells.columns k other member
  · intro k other member
    change update rows.rows i _ k = some other at member
    change update table.generations i table.generation k = _
    by_cases here : k = i
    · rw [here, update_self] at member ⊢
      rw [← Option.some.inj member]
      exact contents.generation
    · rw [update_of_ne here] at member ⊢
      exact contents.cells.generations k other member
  · intro k below absent
    change update rows.rows i _ k = none at absent
    change update table.generations i table.generation k = 0
    by_cases here : k = i
    · rw [here, update_self] at absent
      cases absent
    · rw [update_of_ne here] at absent ⊢
      exact contents.unused k below absent
  · change Table.nextGeneration table.generation = _
    rw [contents.generation, Table.nextGeneration, Nat.mod_eq_of_lt (by omega), if_neg (by omega),
      List.length_append, length_singleton]
  · intro k other member
    change update rows.rows i _ k = some other at member
    change 0 < _ ∧ _ ≤ (rows.issued ++ [_]).length
    rw [List.length_append, length_singleton]
    by_cases here : k = i
    · rw [here, update_self] at member
      rw [← Option.some.inj member]
      exact ⟨Nat.succ_pos _, Nat.le_refl _⟩
    · rw [update_of_ne here] at member
      have given := contents.given k other member
      omega
  · exact congrArg (· ++ [Lifetime.constructed i]) contents.lifetimes

end Contents

/-! ## States -/

theorem stateOf_dropRow : (rows.dropRow i).stateOf = update rows.stateOf i FREE := by
  funext k
  by_cases here : k = i
  · rw [here, update_self]
    exact Rows.stateOf_none (update_self ..)
  · rw [update_of_ne here]
    exact Rows.stateOf_congr (update_of_ne here ..)

theorem stateOf_dropRows {list : List Nat} :
    (list.foldl Rows.dropRow rows).stateOf = transfer rows.stateOf list FREE := by
  induction list generalizing rows with
  | nil => exact transfer_nil.symm
  | cons i rest ih =>
    rw [foldl_cons, ih, stateOf_dropRow, transfer_cons]

theorem stateOf_insertRow [Inhabited R] {state : Nat}
    (free : below (fun i => rows.stateOf i = FREE) n = some i) :
    (rows.insertRow n state).1.stateOf = update rows.stateOf i state := by
  rw [Rows.insertRow, free]
  exact Rows.stateOf_setRow

/-- A callback that accepts every item is asked for all of them. -/
theorem ask_always {S : Type u} {g : S → Nat → MoveOp × S}
    (accepts : ∀ state i, (g state i).1 = .MOVE) (state : S) (list : List Nat) :
    ask g state list = (list, list.foldl (fun state i => (g state i).2) state) := by
  induction list generalizing state with
  | nil => rfl
  | cons i rest ih => rw [ask, accepts state i, foldl_cons, ih]

/-! ## Operations on single rows -/

namespace Refines

theorem insert [Inhabited R] (refines : Refines n states table env rows) (target : dst ≤ states)
    (used : dst ≠ FREE) (few : rows.issued.length + 2 < 4294967296) (enough : n < rounds) :
    ∃ after, table.insert rounds dst = some (after, (rows.insertRow n dst).2) ∧
      Refines n states after env (rows.insertRow n dst).1 := by
  obtain ⟨sizeN, sizeBuckets⟩ := refines.states.size
  obtain ⟨after, moved, represented, size⟩ := refines.states.represents.moveFirst
    (b := FREE) (d := dst) (by rw [sizeBuckets]; exact Nat.succ_pos _) (by omega)
    (by rw [sizeN]; exact enough)
  rw [sizeN] at moved
  have sizeAfter : after.n = n ∧ after.buckets = states + 1 :=
    ⟨size.1.trans sizeN, size.2.trans sizeBuckets⟩
  change table.ml.moveFirst rounds FREE dst =
    some (after, (below (fun i => rows.stateOf i = FREE) n).getD n) at moved
  rw [Table.insert, moved, map_some]
  have first : (members rows.stateOf table.ml.n FREE).head? =
      below (fun i => rows.stateOf i = FREE) n := by
    rw [sizeN]
    rfl
  rw [first] at represented
  cases free : below (fun i => rows.stateOf i = FREE) n with
  | none =>
    rw [free, toList_none, transfer_nil] at represented
    have unchanged : rows.insertRow n dst = (rows, {}) := by
      rw [Rows.insertRow, free]
    refine ⟨{ table with ml := after }, ?_, ?_⟩
    · rw [getD_none, if_pos refines.contents.size.symm, unchanged]
    · rw [unchanged]
      exact ⟨refines.contents.withList after, sizeAfter, represented⟩
  | some i =>
    rw [free, toList_some, transfer_singleton] at represented
    have inside := (below_eq_some_iff.mp free).1
    have given : (rows.insertRow n dst).2 = ⟨i, table.generation⟩ := by
      rw [Rows.insertRow, free, refines.contents.generation]
    have notFull : i ≠ table.n := by
      rw [refines.contents.size]
      exact Nat.ne_of_lt inside
    refine ⟨_, ?_, (refines.contents.insertRow free used few).withList after, sizeAfter,
      ?_⟩
    · rw [getD_some, if_neg notFull, given]
      have newId : update table.generations i table.generation i = table.generation :=
        update_self _ _ _
      simp only [Table.initRow, Table.idAt, newId]
    · rw [stateOf_insertRow free]
      exact represented

/-- A function is called for a row. -/
theorem forOne (refines : Refines n states table env rows) (f : Callback T R Unit)
    (present : rows.rows i = some entry) :
    Refines n states (table.forOne f env i).1 (table.forOne f env i).2 (rows.callRow f () i).2 := by
  obtain ⟨stateOf, ids, _⟩ := Rows.callRow_stateOf f () present
  have shows := (refines.contents.cells.call f () present).2
  refine ⟨refines.contents.visited ids ?_ shows, refines.states.size, ?_⟩
  · exact refines.contents.inUse.mono ids fun k => Or.inl (congrFun stateOf k)
  · rw [stateOf]
    exact refines.states.represents

theorem insertWith [Inhabited R] (refines : Refines n states table env rows)
    (f : Callback T R Unit) (target : dst ≤ states) (used : dst ≠ FREE)
    (few : rows.issued.length + 2 < 4294967296) (enough : n < rounds) :
    ∃ after envAfter, table.insertWith rounds dst f env =
        some (after, (rows.insertRow n dst).2, envAfter) ∧
      Refines n states after envAfter
        (if (rows.insertRow n dst).2.isValid then
          ((rows.insertRow n dst).1.callRow f () (rows.insertRow n dst).2.idx).2
        else (rows.insertRow n dst).1) := by
  obtain ⟨after, inserted, refinesThen⟩ := refines.insert target used few enough
  rw [Table.insertWith, inserted, map_some]
  dsimp only
  by_cases isValid : (rows.insertRow n dst).2.isValid = true
  · rw [if_pos isValid, if_pos isValid]
    have present : ∃ entry,
        (rows.insertRow n dst).1.rows (rows.insertRow n dst).2.idx = some entry := by
      cases free : below (fun i => rows.stateOf i = FREE) n with
      | none =>
        have unchanged : rows.insertRow n dst = (rows, {}) := by
          rw [Rows.insertRow, free]
        rw [unchanged] at isValid
        cases isValid
      | some i =>
        rw [Rows.insertRow, free]
        exact ⟨_, update_self _ _ _⟩
    obtain ⟨entry, present⟩ := present
    exact ⟨_, _, rfl, refinesThen.forOne f present⟩
  · rw [if_neg isValid, if_neg isValid]
    exact ⟨_, _, rfl, refinesThen⟩

/-- The row of a valid id. -/
theorem present_of_valid (isValid : (rows.find id).isSome = true) :
    ∃ entry, rows.rows id.idx = some entry := by
  obtain ⟨entry, found⟩ := isSome_iff_exists.mp isValid
  exact ⟨entry, (Contents.find_eq_some_iff.mp found).1⟩

theorem drop (refines : Refines n states table env rows) (id : Id) (enough : n < rounds) :
    ∃ after, table.drop rounds id = some after ∧
      Refines n states after env
        (if (rows.find id).isSome then rows.dropRow id.idx else rows) := by
  rw [Table.drop, refines.contents.valid_eq]
  by_cases isValid : (rows.find id).isSome = true
  · obtain ⟨entry, present⟩ := present_of_valid isValid
    obtain ⟨sizeN, sizeBuckets⟩ := refines.states.size
    obtain ⟨after, moved, represented, size⟩ := refines.states.represents.moveIdx
      (s := id.idx) (d := FREE) (by rw [sizeN]; exact refines.contents.inside present)
      (by rw [sizeBuckets]; exact Nat.succ_pos _) (by rw [sizeN]; exact enough)
    change (table.resetRow id.idx).ml.moveIdx rounds id.idx FREE = some after at moved
    rw [isValid, if_neg (by decide), if_pos rfl]
    dsimp only
    rw [moved]
    refine ⟨_, rfl, (refines.contents.dropRow (i := id.idx)).withList after,
      ⟨size.1.trans sizeN, size.2.trans sizeBuckets⟩, ?_⟩
    rw [stateOf_dropRow]
    exact represented
  · rw [Bool.eq_false_of_not_eq_true isValid]
    exact ⟨_, rfl, refines⟩

theorem dropState (refines : Refines n states table env rows) (source : src ≤ states)
    (used : src ≠ FREE) (enough : n < rounds) :
    ∃ after, table.dropState rounds src =
        some (after, (members rows.stateOf n src).length) ∧
      Refines n states after env ((members rows.stateOf n src).foldl Rows.dropRow rows) := by
  obtain ⟨sizeN, sizeBuckets⟩ := refines.states.size
  obtain ⟨after, moved, represented, size⟩ := refines.states.represents.moveIf
    (fun state idx => (MoveOp.MOVE, update state.1 idx 0,
      state.2 ++ [Lifetime.destroyed idx])) (table.generations, table.lifetimes)
    (b := src) (d := FREE) (by omega)
    (by rw [sizeBuckets]; exact Nat.succ_pos _) (Or.inl used) (by rw [sizeN]; exact enough)
  rw [ask_always (fun _ _ => rfl), sizeN] at moved represented
  rw [Table.dropState, moved]
  refine ⟨_, rfl, (refines.contents.dropRows _).withList after,
    ⟨size.1.trans sizeN, size.2.trans sizeBuckets⟩, ?_⟩
  rw [stateOf_dropRows]
  exact represented

theorem withRow (refines : Refines n states table env rows) (f : Callback T R Unit) :
    Refines n states (table.withRow id f env).1 (table.withRow id f env).2
      (if (rows.find id).isSome then (rows.callRow f () id.idx).2 else rows) := by
  rw [Table.withRow, refines.contents.valid_eq]
  by_cases isValid : (rows.find id).isSome = true
  · obtain ⟨entry, present⟩ := present_of_valid isValid
    rw [if_pos isValid, if_pos isValid]
    exact refines.forOne f present
  · rw [if_neg isValid, if_neg isValid]
    exact refines

/-- A pointer to a value leads to the id of its row. -/
theorem idOf (refines : Refines n states table env rows) (pointer : Option Int) :
    table.idOf pointer = rows.idOf pointer := by
  cases pointer with
  | none => rfl
  | some position =>
    rw [Table.idOf]
    cases position with
    | negSucc m =>
      dsimp only
      rw [if_pos (Or.inl (Int.negSucc_lt_zero m))]
      rfl
    | ofNat i =>
      dsimp only
      rw [Rows.idOf, refines.contents.size, refines.contents.valid_eq]
      by_cases outside : n ≤ i
      · have beyond : (n : Int) ≤ Int.ofNat i := Int.ofNat_le.mpr outside
        rw [if_pos (Or.inr beyond), refines.contents.outside i outside]
      · have notOutside : ¬ ((Int.ofNat i : Int) < 0 ∨ (n : Int) ≤ Int.ofNat i) := by
          simp only [Int.ofNat_eq_natCast]
          omega
        rw [if_neg notOutside, Int.ofNat_eq_natCast, Int.toNat_natCast, Rows.find, Table.idAt]
        dsimp only
        cases present : rows.rows i with
        | none => rfl
        | some entry =>
          rw [refines.contents.cells.generations i entry present, filter_some]
          simp

theorem moveById (refines : Refines n states table env rows) (id : Id) (target : dst ≤ states)
    (used : dst ≠ FREE) (enough : n < rounds) :
    ∃ after, table.moveById rounds dst id = some after ∧
      Refines n states after env
        (if (rows.find id).isSome then rows.setState id.idx dst else rows) := by
  rw [Table.moveById, refines.contents.valid_eq]
  by_cases isValid : (rows.find id).isSome = true
  · obtain ⟨entry, present⟩ := present_of_valid isValid
    obtain ⟨sizeN, sizeBuckets⟩ := refines.states.size
    obtain ⟨after, moved, represented, size⟩ := refines.states.represents.moveIdx
      (s := id.idx) (d := dst) (by rw [sizeN]; exact refines.contents.inside present)
      (by omega) (by rw [sizeN]; exact enough)
    obtain ⟨stateOf, ids⟩ := Rows.setState_stateOf dst present
    rw [if_pos isValid, if_pos isValid, moved]
    refine ⟨_, rfl, ?_, ⟨size.1.trans sizeN, size.2.trans sizeBuckets⟩, ?_⟩
    · exact (refines.contents.visited ids (refines.contents.inUse.update ids stateOf used)
        (refines.contents.cells.setState present)).withList after
    · rw [stateOf]
      exact represented
  · rw [if_neg isValid, if_neg isValid]
    exact ⟨_, rfl, refines⟩

/-! ## Operations that move rows -/

/-- After a visitor moved rows. -/
theorem moved (refines : Refines n states table env rows) {moving : Table.Moving T R}
    (moves : Moves n states table.generations moving further) (ids : SameIds rows further) :
    ∃ after envAfter, table.settle moving = some (after, envAfter) ∧
      Refines n states after envAfter further := by
  rw [Table.settle, moves.free]
  exact ⟨_, _, rfl, (refines.contents.visited ids moves.inUse moves.cells).withList moving.ml,
    moves.list, moves.represents⟩

/-- Where a visitor starts. -/
theorem moves (refines : Refines n states table env rows) :
    Moves n states table.generations
      { ml := table.ml, cells := { columns := table.columns, env }, stuck := false } rows :=
  ⟨refines.states.size, refines.states.represents, refines.contents.inUse, refines.contents.cells,
    rfl⟩

theorem present_of_member (used : src ≠ FREE)
    (member : i ∈ members rows.stateOf n src) : i < n ∧ rows.rows i ≠ none := by
  obtain ⟨inside, state⟩ := mem_downward.mp member
  refine ⟨inside, fun absent => ?_⟩
  rw [Rows.stateOf_none absent] at state
  exact used state.symm

theorem moveFrom (refines : Refines n states table env rows) (f : Callback T R MoveOp)
    (source : src ≤ states) (usedSrc : src ≠ FREE) (target : dst ≤ states) (used : dst ≠ FREE)
    (settles : src ≠ dst ∨ acceptsAndGoesOn (Table.callSystemFuncRet table.generations f)
      { columns := table.columns, env } (members rows.stateOf n src) = false)
    (enough : n < rounds) :
    ∃ after envAfter, table.moveFrom rounds src dst f env = some (after, envAfter) ∧
      Refines n states after envAfter (rows.sweep f dst (members rows.stateOf n src)) := by
  obtain ⟨sizeN, sizeBuckets⟩ := refines.states.size
  obtain ⟨after, result, represented, size⟩ := refines.states.represents.moveIf
    (Table.callSystemFuncRet table.generations f) { columns := table.columns, env }
    (b := src) (d := dst) (by omega) (by omega)
    (by rw [sizeN]; exact settles) (by rw [sizeN]; exact enough)
  rw [sizeN] at result represented
  obtain ⟨shows, stateOf, inUse, ids⟩ := refines.contents.cells.sweep (f := f)
    refines.contents.inUse (fun i member => (present_of_member usedSrc member).2) used
  rw [Table.moveFrom, result]
  refine ⟨_, _, rfl, (refines.contents.visited ids inUse shows).withList after,
    ⟨size.1.trans sizeN, size.2.trans sizeBuckets⟩, ?_⟩
  rw [stateOf]
  exact represented

theorem moveFromAny (refines : Refines n states table env rows) (f : Callback T R MoveOp)
    (target : dst ≤ states) (used : dst ≠ FREE) (enough : n < rounds) :
    ∃ after envAfter, table.moveFromAny rounds dst f env = some (after, envAfter) ∧
      Refines n states after envAfter (rows.sweep f dst
        (downward (fun i => rows.stateOf i ≠ FREE ∧ rows.stateOf i ≠ dst) n)) := by
  obtain ⟨sizeN, sizeBuckets⟩ := refines.states.size
  obtain ⟨movesAll, ids⟩ := refines.moves.notInBucketsLoop (f := f) target used enough
    (Nat.le_refl n)
  have startFree := refines.states.represents.items_head (b := FREE)
    (by rw [sizeBuckets]; exact Nat.succ_pos _)
  have startDst := refines.states.represents.items_head (b := dst) (by omega)
  rw [sizeN] at startFree startDst
  rw [Table.moveFromAny, MultiList.notInBuckets]
  dsimp only
  rw [sizeN, startFree, startDst]
  exact refines.moved movesAll ids

/-! ## Operations that move rows in order -/

variable {heap : HeapFunctions} {comparators : List (Comparator R)}

/-- The rows collected are those of the candidates whose compared columns are set. -/
theorem collected {columns : Nat → R} {list found : List Nat} (inside : ∀ i ∈ list, i < 65536) :
    visit (Table.collect comparators columns) found list =
      found ++ list.filter fun i => Comparator.allSet comparators (columns i) := by
  induction list generalizing found with
  | nil => exact (append_nil _).symm
  | cons i rest ih =>
    have cast : idxType i = i := Nat.mod_eq_of_lt (inside i mem_cons_self)
    rw [visit, Table.collect]
    dsimp only
    rw [if_pos rfl, ih fun other member => inside other (mem_cons_of_mem _ member), cast,
      filter_cons]
    split
    · rw [append_assoc, singleton_append]
    · rfl

/-- The collected rows are visited in order. -/
theorem moveWhile (refines : Refines n states table env rows) (f : Callback T R MoveOp)
    (lawfulHeap : LawfulHeap heap.makeHeap heap.popHeap) (lawful : Lawful comparators)
    (target : dst ≤ states) (used : dst ≠ FREE) (enough : n < rounds) {candidates : List Nat}
    (distinct : candidates.Nodup) (present : ∀ i ∈ candidates, i < n ∧ rows.rows i ≠ none) :
    ∃ after envAfter order, rows.Ascending comparators candidates order ∧
      table.moveWhile heap comparators rounds dst f env
        (candidates.filter fun i => Comparator.allSet comparators (table.columns i)) =
          some (after, envAfter) ∧
      Refines n states after envAfter (rows.sweep f dst order) := by
  have sameSet : (candidates.filter fun i => (rows.rows i).any fun entry =>
      Comparator.allSet comparators entry.value) =
      candidates.filter fun i => Comparator.allSet comparators (table.columns i) := by
    apply filter_congr
    intro i member
    obtain ⟨entry, here⟩ := ne_none_iff_exists'.mp (present i member).2
    have column : table.columns i = entry.value := refines.contents.cells.columns i entry here
    rw [here, any_some, column]
  have scratchPresent : ∀ i ∈ candidates.filter fun i =>
      Comparator.allSet comparators (table.columns i), i < n ∧ rows.rows i ≠ none :=
    fun i member => present i (mem_filter.mp member).1
  have scratchSet : ∀ i ∈ candidates.filter fun i =>
      Comparator.allSet comparators (table.columns i),
      Comparator.allSet comparators (table.columns i) = true :=
    fun i member => (mem_filter.mp member).2
  have scratchDistinct := distinct.filter fun i =>
    Comparator.allSet comparators (table.columns i)
  generalize (candidates.filter fun i => Comparator.allSet comparators (table.columns i)) = scratch
    at sameSet scratchPresent scratchSet scratchDistinct
  rw [Table.moveWhile]
  by_cases empty : scratch.length = 0
  · rw [if_pos empty]
    obtain rfl := length_eq_zero_iff.mp empty
    refine ⟨_, _, [], ⟨?_, .nil⟩, rfl, refines⟩
    rw [sameSet]
  · rw [if_neg empty]
    obtain ⟨perm, isHeap⟩ := lawfulHeap.make (pred_weak lawful scratchSet)
    generalize made : heap.makeHeap (pred comparators table.columns) scratch = range at perm isHeap
    have weak := pred_weak lawful fun i member => scratchSet i (perm.subset member)
    obtain ⟨order, permOrder, sorted, movesAll, ids⟩ := refines.moves.moveWhileLoop (f := f)
      lawfulHeap target used enough perm.length_eq (perm.nodup_iff.mpr scratchDistinct)
      (fun i member => scratchPresent i (perm.subset member)) weak isHeap
    obtain ⟨after, envAfter, settled, refinesThen⟩ := refines.moved movesAll ids
    refine ⟨after, envAfter, order, ⟨?_, ?_⟩, ?_, refinesThen⟩
    · rw [sameSet]
      exact permOrder.trans perm
    · refine sorted.imp fun {first second} notLess entry here later there => ?_
      have columnFirst : table.columns first = entry.value :=
        refines.contents.cells.columns first entry here
      have columnSecond : table.columns second = later.value :=
        refines.contents.cells.columns second later there
      change pred comparators table.columns first second = false at notLess
      rw [pred, lessThan_eq, columnFirst, columnSecond] at notLess
      exact notLess
    · rw [← settled, ← made]
      rfl

theorem moveFromOrdered (refines : Refines n states table env rows) (f : Callback T R MoveOp)
    (lawfulHeap : LawfulHeap heap.makeHeap heap.popHeap) (lawful : Lawful comparators)
    (source : src ≤ states) (usedSrc : src ≠ FREE) (target : dst ≤ states) (used : dst ≠ FREE)
    (enough : n < rounds) :
    ∃ after envAfter order,
      rows.Ascending comparators (members rows.stateOf n src) order ∧
      table.moveFromOrdered heap comparators rounds src dst f env = some (after, envAfter) ∧
      Refines n states after envAfter (rows.sweep f dst order) := by
  obtain ⟨sizeN, sizeBuckets⟩ := refines.states.size
  have size := refines.states.represents.size
  have found := refines.states.represents.inBucket
    (Table.collect comparators table.columns) [] (b := src) (by omega)
    (by rw [sizeN]; exact enough)
  rw [collected fun i member => by have := (mem_downward.mp member).1; omega, nil_append,
    sizeN] at found
  obtain ⟨after, envAfter, order, ascending, moved, refinesThen⟩ := refines.moveWhile f lawfulHeap
    lawful target used enough (downward_descending.imp fun above => Nat.ne_of_gt above)
    fun i member => present_of_member usedSrc member
  refine ⟨after, envAfter, order, ascending, ?_, refinesThen⟩
  rw [Table.moveFromOrdered, found]
  exact moved

theorem moveOrdered (refines : Refines n states table env rows) (f : Callback T R MoveOp)
    (lawfulHeap : LawfulHeap heap.makeHeap heap.popHeap) (lawful : Lawful comparators)
    (target : dst ≤ states) (used : dst ≠ FREE) (enough : n < rounds) :
    ∃ after envAfter order,
      rows.Ascending comparators
        (downward (fun i => rows.stateOf i ≠ FREE ∧ rows.stateOf i ≠ dst) n) order ∧
      table.moveOrdered heap comparators rounds dst f env = some (after, envAfter) ∧
      Refines n states after envAfter (rows.sweep f dst order) := by
  obtain ⟨sizeN, sizeBuckets⟩ := refines.states.size
  have size := refines.states.represents.size
  have found := refines.states.represents.notInBuckets
    (Table.collect comparators table.columns) [] (b := FREE) (c := dst)
    (by rw [sizeBuckets]; exact Nat.succ_pos _) (by omega)
  rw [collected fun i member => by have := (mem_downward.mp member).1; omega, nil_append,
    sizeN] at found
  have present : ∀ i ∈ downward (fun i => rows.stateOf i ≠ FREE ∧ rows.stateOf i ≠ dst) n,
      i < n ∧ rows.rows i ≠ none := by
    intro i member
    obtain ⟨inside, notFree, _⟩ := mem_downward.mp member
    exact ⟨inside, ne_none_iff_exists'.mpr (Rows.present_of_stateOf notFree)⟩
  obtain ⟨after, envAfter, order, ascending, moved, refinesThen⟩ := refines.moveWhile f lawfulHeap
    lawful target used enough (downward_descending.imp fun above => Nat.ne_of_gt above) present
  refine ⟨after, envAfter, order, ascending, ?_, refinesThen⟩
  rw [Table.moveOrdered, found]
  exact moved

end Refines

end OpenBsw.Shed
