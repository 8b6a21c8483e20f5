import OpenBsw.Data.Heap
import OpenBsw.Shed.Membership
import OpenBsw.Shed.Table

/-!
# Rows with ids

What a table is for: a map from ids to rows, each with a state and a value.
The rows are kept by their index, together with the generation that completes
the id.  Every id that was given out and every id whose row was dropped is
remembered, so that an id names a row from its insertion until it is dropped.
-/

namespace OpenBsw.Shed

universe u

structure Entry (R : Type u) where
  generation : Nat
  state : Nat
  value : R

/-- What an operation returned. -/
inductive Returned where
  | id (id : Id)
  | count (count : Nat)
  deriving DecidableEq, Repr

structure Rows (T R : Type u) where
  rows : Nat → Option (Entry R)
  env : T
  /-- The ids given out, the first one first. -/
  issued : List Id
  /-- The ids whose rows were dropped. -/
  dropped : List Id
  lifetimes : List Lifetime
  returned : List Returned

/-- The lexicographic order of the comparators. -/
def lexLess {R : Type u} : List (Comparator R) → R → R → Bool
  | [], _, _ => false
  | comparator :: rest, a, b =>
    if comparator.less a b then true
    else if comparator.less b a then false
    else lexLess rest a b

namespace Rows

variable {T R : Type u}

def initial (env : T) : Rows T R where
  rows _ := none
  env := env
  issued := []
  dropped := []
  lifetimes := []
  returned := []

/-- The row that an id names. -/
def find (self : Rows T R) (id : Id) : Option (Entry R) :=
  (self.rows id.idx).filter fun entry => entry.generation = id.generation

/-- The state of the row at an index, or `FREE`. -/
def stateOf (self : Rows T R) (i : Nat) : Nat :=
  match self.rows i with
  | none => FREE
  | some entry => entry.state

def setRow (self : Rows T R) (i : Nat) (entry : Option (Entry R)) : Rows T R :=
  { self with rows := Function.update self.rows i entry }

def giveBack (self : Rows T R) (value : Returned) : Rows T R :=
  { self with returned := self.returned ++ [value] }

/-- Call a callback for a row, which changes the value of this row. -/
def callRow {A : Type} (self : Rows T R) (f : Callback T R A) (skip : A) (i : Nat) :
    A × Rows T R :=
  match self.rows i with
  | none => (skip, self)
  | some entry =>
    if f.allArgsSet self.env entry.value then
      let result := f.call self.env ⟨i, entry.generation⟩ entry.value
      (result.1, { self.setRow i (some { entry with value := result.2.1 }) with
        env := result.2.2 })
    else (skip, self)

def setState (self : Rows T R) (i state : Nat) : Rows T R :=
  self.setRow i ((self.rows i).map fun entry => { entry with state })

/-- Call a callback for a row and move the row if it says so; whether to go on. -/
def visitRow (f : Callback T R MoveOp) (dst : Nat) (self : Rows T R) (i : Nat) :
    Bool × Rows T R :=
  let called := self.callRow f .SKIP i
  match called.1 with
  | .SKIP => (true, called.2)
  | .MOVE => (true, called.2.setState i dst)
  | .MOVE_DONE => (false, called.2.setState i dst)
  | .SKIP_DONE => (false, called.2)

/-- Visit the rows in turn until the callback is done. -/
def sweep (self : Rows T R) (f : Callback T R MoveOp) (dst : Nat) (order : List Nat) : Rows T R :=
  visit (visitRow f dst) self order

/-- Drop the row at an index. -/
def dropRow (self : Rows T R) (i : Nat) : Rows T R :=
  { self.setRow i none with
    dropped := self.dropped ++ (self.rows i).toList.map fun entry => ⟨i, entry.generation⟩
    lifetimes := self.lifetimes ++ [.destroyed i] }

/-- A new row at the largest free index with the next generation. -/
def insertRow [Inhabited R] (self : Rows T R) (n state : Nat) : Rows T R × Id :=
  match below (fun i => self.stateOf i = FREE) n with
  | none => (self, {})
  | some i =>
    let id : Id := ⟨i, self.issued.length + 1⟩
    ({ self.setRow i (some { generation := id.generation, state, value := default }) with
        issued := self.issued ++ [id]
        lifetimes := self.lifetimes ++ [.constructed i] }, id)

/-- The id of the row at the index that is pointed to. -/
def idOf (self : Rows T R) : Option Int → Id
  | some (.ofNat i) =>
    match self.rows i with
    | none => {}
    | some entry => ⟨i, entry.generation⟩
  | _ => {}

/-- The rows that an ordered operation visits: those of the candidates whose compared columns are
set, in ascending order. -/
structure Ascending (content : Rows T R) (comparators : List (Comparator R))
    (candidates order : List Nat) : Prop where
  perm : order.Perm (candidates.filter fun i =>
    (content.rows i).any fun entry => Comparator.allSet comparators entry.value)
  ascending : order.Pairwise fun first second =>
    ∀ entry ∈ content.rows first, ∀ later ∈ content.rows second,
      lexLess comparators later.value entry.value = false

end Rows

/-! ## Operations -/

inductive TableOperation (T R : Type u) where
  | insert (dst : Nat)
  | insertWith (dst : Nat) (f : Callback T R Unit)
  | drop (id : Id)
  | dropState (src : Nat)
  | withRow (id : Id) (f : Callback T R Unit)
  | idOf (pointer : Option Int)
  | moveById (dst : Nat) (id : Id)
  | moveFrom (src dst : Nat) (f : Callback T R MoveOp)
  | moveFromAny (dst : Nat) (f : Callback T R MoveOp)
  | moveFromOrdered (comparators : List (Comparator R)) (src dst : Nat) (f : Callback T R MoveOp)
  | moveOrdered (comparators : List (Comparator R)) (dst : Nat) (f : Callback T R MoveOp)

namespace Rows

variable {T R : Type u} [Inhabited R]

/-- What an operation does to the rows.  Only ordered operations have a choice: the order of rows
that compare equal. -/
def Step (n : Nat) (self : Rows T R) : TableOperation T R → Rows T R → Prop
  | .insert dst, target =>
    target = (self.insertRow n dst).1.giveBack (.id (self.insertRow n dst).2)
  | .insertWith dst f, target =>
    let inserted := self.insertRow n dst
    target =
      if inserted.2.isValid then
        (inserted.1.callRow f () inserted.2.idx).2.giveBack (.id inserted.2)
      else inserted.1.giveBack (.id inserted.2)
  | .drop id, target => target = if (self.find id).isSome then self.dropRow id.idx else self
  | .dropState src, target =>
    target = ((members self.stateOf n src).foldl dropRow self).giveBack
      (.count (members self.stateOf n src).length)
  | .withRow id f, target =>
    target = if (self.find id).isSome then (self.callRow f () id.idx).2 else self
  | .idOf pointer, target => target = self.giveBack (.id (self.idOf pointer))
  | .moveById dst id, target =>
    target = if (self.find id).isSome then self.setState id.idx dst else self
  | .moveFrom src dst f, target => target = self.sweep f dst (members self.stateOf n src)
  | .moveFromAny dst f, target =>
    target = self.sweep f dst
      (downward (fun i => self.stateOf i ≠ FREE ∧ self.stateOf i ≠ dst) n)
  | .moveFromOrdered comparators src dst f, target =>
    ∃ order, self.Ascending comparators (members self.stateOf n src) order ∧
      target = self.sweep f dst order
  | .moveOrdered comparators dst f, target =>
    ∃ order, self.Ascending comparators
        (downward (fun i => self.stateOf i ≠ FREE ∧ self.stateOf i ≠ dst) n) order ∧
      target = self.sweep f dst order

/-- What a sequence of operations does to the rows. -/
def Run (n : Nat) : Rows T R → List (TableOperation T R) → Rows T R → Prop
  | self, [], target => target = self
  | self, operation :: rest, target =>
    ∃ further, self.Step n operation further ∧ further.Run n rest target

end Rows

end OpenBsw.Shed
