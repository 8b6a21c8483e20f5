import OpenBsw.Shed.MultiList

/-!
# Tables of rows with a state

A table keeps its rows in columns, the state of each row in an index list, and
for each row the generation of the id that it was inserted under.  Rows that
are not in use are in the first bucket, `FREE`.

A row holds the values of all columns.  Its default value is what the
constructors of the columns leave.  Callbacks get the values of one row and may
change them, and they may change an environment, which includes the shared
columns.
-/

namespace OpenBsw.Shed

universe u

structure Id where
  idx : Nat := 0
  generation : Nat := 0
  deriving DecidableEq, Repr

/-- `id::valid`. -/
def Id.isValid (id : Id) : Bool :=
  id.generation ≠ 0

/-- The index of the state for rows that are not in use. -/
def FREE : Nat :=
  0

/-- Constructions and destructions of the values of a row. -/
inductive Lifetime where
  | constructed (row : Nat)
  | destroyed (row : Nat)
  deriving DecidableEq, Repr

/-- A callback with the columns it selects: it is called if all of them are set. -/
structure Callback (T R : Type u) (A : Type) where
  allArgsSet : T → R → Bool
  call : T → Id → R → A × R × T

/-- A comparator of a column: whether the column is set, and the order of its values. -/
structure Comparator (R : Type u) where
  isSet : R → Bool
  less : R → R → Bool

namespace Comparator

variable {R : Type u}

/-- `type_list_recurse::all_set`. -/
def allSet (comparators : List (Comparator R)) (row : R) : Bool :=
  comparators.all fun comparator => comparator.isSet row

/-- `type_list_recurse::less_than`. -/
def lessThan : List (Comparator R) → R → R → Bool
  | [], _, _ => false
  | comparator :: rest, a, b =>
    if comparator.less b a then true
    else if comparator.less a b then false
    else lessThan rest a b

end Comparator

/-- The heap functions that ordered operations use. -/
structure HeapFunctions where
  makeHeap : (Nat → Nat → Bool) → List Nat → List Nat
  popHeap : (Nat → Nat → Bool) → List Nat → List Nat

structure Table (R : Type u) where
  n : Nat
  ml : MultiList
  generations : Nat → Nat
  generation : Nat
  columns : Nat → R
  lifetimes : List Lifetime

namespace Table

variable {T R : Type u}

/-- A table of a size for a number of states besides `FREE`.  The columns hold what the memory
held. -/
def init (size states memory : Nat) (aligned : Bool) (items backlinks : Nat → Nat)
    (columns : Nat → R) : Option (Table R) :=
  (MultiList.make size (states + 1) memory aligned items backlinks).map fun made =>
    { n := size
      ml := made.1
      generations := fun _ => 0
      generation := 1
      columns := columns
      lifetimes := [] }

/-- `state_data::operator[]`. -/
def idAt (self : Table R) (i : Nat) : Id where
  idx := i
  generation := self.generations i

def valid (self : Table R) (i : Id) : Bool :=
  i.generation ≠ 0 ∧ i.idx < self.n ∧ i.generation = self.generations i.idx

/-! ## Callbacks -/

/-- The values of the rows and the environment, which callbacks change. -/
structure Cells (T R : Type u) where
  columns : Nat → R
  env : T

/-- A function is called for the row at `i` if all columns that it selects are set. -/
def callIfSet {A : Type} (skip : A) (generations : Nat → Nat) (f : Callback T R A)
    (cells : Cells T R) (i : Nat) : A × Cells T R :=
  if f.allArgsSet cells.env (cells.columns i) then
    let result := f.call cells.env ⟨i, generations i⟩ (cells.columns i)
    (result.1, { columns := Function.update cells.columns i result.2.1, env := result.2.2 })
  else (skip, cells)

def callSystemFuncRet (generations : Nat → Nat) (f : Callback T R MoveOp) (cells : Cells T R)
    (i : Nat) : MoveOp × Cells T R :=
  callIfSet .SKIP generations f cells i

/-- `SelectColumns::for_one`. -/
def forOne (self : Table R) (f : Callback T R Unit) (env : T) (i : Nat) : Table R × T :=
  let called := (callIfSet () self.generations f { columns := self.columns, env } i).2
  ({ self with columns := called.columns }, called.env)

/-! ## Rows -/

/-- The generation after a generation: 0 is left out. -/
def nextGeneration (generation : Nat) : Nat :=
  let next := (generation + 1) % 4294967296
  if next = 0 then next + 1 else next

section Construction

variable [Inhabited R]

/-- The constructors of all columns of a row. -/
def initRow (self : Table R) (i : Nat) : Table R :=
  { self with
    columns := Function.update self.columns i default
    lifetimes := self.lifetimes ++ [.constructed i] }

def insert (self : Table R) (rounds dst : Nat) : Option (Table R × Id) :=
  (self.ml.moveFirst rounds FREE dst).map fun moved =>
    if moved.2 = self.n then ({ self with ml := moved.1 }, {})
    else
      let table := { self with
        ml := moved.1
        generations := Function.update self.generations moved.2 self.generation
        generation := nextGeneration self.generation }
      let table := table.initRow moved.2
      (table, table.idAt moved.2)

/-- `insert` with a callback for the new row. -/
def insertWith (self : Table R) (rounds dst : Nat) (f : Callback T R Unit) (env : T) :
    Option (Table R × Id × T) :=
  (self.insert rounds dst).map fun inserted =>
    if inserted.2.isValid then
      let called := inserted.1.forOne f env inserted.2.idx
      (called.1, inserted.2, called.2)
    else (inserted.1, inserted.2, env)

end Construction

/-- The destructors of all columns of a row. -/
def resetRow (self : Table R) (i : Nat) : Table R :=
  { self with lifetimes := self.lifetimes ++ [.destroyed i] }

def drop (self : Table R) (rounds : Nat) (i : Id) : Option (Table R) :=
  if !self.valid i then some self
  else
    let table := self.resetRow i.idx
    let generations := Function.update table.generations i.idx 0
    (table.ml.moveIdx rounds i.idx FREE).map fun ml => { table with ml, generations }

/-- `drop<Src>`: all rows in a state. -/
def dropState (self : Table R) (rounds src : Nat) : Option (Table R × Nat) :=
  let callback : (Nat → Nat) × List Lifetime → Nat → MoveOp × (Nat → Nat) × List Lifetime :=
    fun state idx =>
      (.MOVE, Function.update state.1 idx 0, state.2 ++ [.destroyed idx])
  (self.ml.moveIf callback rounds src FREE (self.generations, self.lifetimes)).map fun result =>
    ({ self with ml := result.1, generations := result.2.2.1, lifetimes := result.2.2.2 },
      result.2.1)

def withRow (self : Table R) (i : Id) (f : Callback T R Unit) (env : T) : Table R × T :=
  if self.valid i then self.forOne f env i.idx else (self, env)

/-- The pointer as the number of values from the begin of the column to the value it points to;
a null pointer is none. -/
def idOf (self : Table R) (pointer : Option Int) : Id :=
  match pointer with
  | none => {}
  | some position =>
    if position < 0 ∨ (self.n : Int) ≤ position then {}
    else
      let rowId := self.idAt position.toNat
      if self.valid rowId then rowId else {}

/-! ## Moving rows -/

/-- `move_to<Dst>::by_id`. -/
def moveById (self : Table R) (rounds dst : Nat) (i : Id) : Option (Table R) :=
  if self.valid i then (self.ml.moveIdx rounds i.idx dst).map fun ml => { self with ml }
  else some self

/-- `move_to<Dst>::from<Src>`. -/
def moveFrom (self : Table R) (rounds src dst : Nat) (f : Callback T R MoveOp) (env : T) :
    Option (Table R × T) :=
  (self.ml.moveIf (callSystemFuncRet self.generations f) rounds src dst
    { columns := self.columns, env }).map fun result =>
      ({ self with ml := result.1, columns := result.2.2.columns }, result.2.2.env)

/-- What a visitor that moves rows changes.  It is stuck if moving a row did not end. -/
structure Moving (T R : Type u) where
  ml : MultiList
  cells : Cells T R
  stuck : Bool

/-- Calls the callback for a row and moves the row if it says so; whether to go on. -/
def callAndMove (rounds dst : Nat) (generations : Nat → Nat) (f : Callback T R MoveOp)
    (moving : Moving T R) (i : Nat) : Bool × Moving T R :=
  let called := callSystemFuncRet generations f moving.cells i
  let goesOn := !(called.1 = .SKIP_DONE ∨ called.1 = .MOVE_DONE)
  if called.1 = .MOVE ∨ called.1 = .MOVE_DONE then
    match moving.ml.moveIdx rounds i dst with
    | none => (false, { moving with stuck := true })
    | some ml => (goesOn, { moving with ml, cells := called.2 })
  else (goesOn, { moving with cells := called.2 })

/-- The table after a visitor moved rows. -/
def settle (self : Table R) (moving : Moving T R) : Option (Table R × T) :=
  if moving.stuck then none
  else some ({ self with ml := moving.ml, columns := moving.cells.columns }, moving.cells.env)

/-- `move_to<Dst>` from any state. -/
def moveFromAny (self : Table R) (rounds dst : Nat) (f : Callback T R MoveOp) (env : T) :
    Option (Table R × T) :=
  self.settle (MultiList.notInBuckets Moving.ml (callAndMove rounds dst self.generations f) FREE dst
    { ml := self.ml, cells := { columns := self.columns, env }, stuck := false })

/-! ## Moving rows in order -/

/-- The visitor that collects the rows to be ordered in the scratch memory. -/
def collect (comparators : List (Comparator R)) (columns : Nat → R) (scratch : List Nat) (i : Nat) :
    Bool × List Nat :=
  (true, if Comparator.allSet comparators (columns i) then scratch ++ [idxType i] else scratch)

/-- The loop of `move_while_impl` over a heap with a number of rows. -/
def moveWhileLoop (heap : HeapFunctions) (comparators : List (Comparator R)) (rounds dst : Nat)
    (generations : Nat → Nat) (f : Callback T R MoveOp) :
    Nat → List Nat → Moving T R → Moving T R
  | 0, _, moving => moving
  | count + 1, range, moving =>
    let pred := fun a b =>
      Comparator.lessThan comparators (moving.cells.columns a) (moving.cells.columns b)
    let range := heap.popHeap pred range
    let visited := callAndMove rounds dst generations f moving (range.getD count 0)
    if visited.1 then
      moveWhileLoop heap comparators rounds dst generations f count (range.take count) visited.2
    else visited.2

/-- `move_while_impl` for the collected rows. -/
def moveWhile (self : Table R) (heap : HeapFunctions) (comparators : List (Comparator R))
    (rounds dst : Nat) (f : Callback T R MoveOp) (env : T) (scratch : List Nat) :
    Option (Table R × T) :=
  if scratch.length = 0 then some (self, env)
  else
    let pred := fun a b => Comparator.lessThan comparators (self.columns a) (self.columns b)
    let range := heap.makeHeap pred scratch
    self.settle (moveWhileLoop heap comparators rounds dst self.generations f scratch.length range
      { ml := self.ml, cells := { columns := self.columns, env }, stuck := false })

/-- `move_to<Dst>::from<Src>::ordered`. -/
def moveFromOrdered (self : Table R) (heap : HeapFunctions) (comparators : List (Comparator R))
    (rounds src dst : Nat) (f : Callback T R MoveOp) (env : T) : Option (Table R × T) :=
  (self.ml.inBucket (collect comparators self.columns) rounds src []).bind fun scratch =>
    self.moveWhile heap comparators rounds dst f env scratch

/-- `move_to<Dst>::ordered`. -/
def moveOrdered (self : Table R) (heap : HeapFunctions) (comparators : List (Comparator R))
    (rounds dst : Nat) (f : Callback T R MoveOp) (env : T) : Option (Table R × T) :=
  self.moveWhile heap comparators rounds dst f env
    (MultiList.notInBuckets (fun _ => self.ml) (collect comparators self.columns) FREE dst [])

end Table

end OpenBsw.Shed
