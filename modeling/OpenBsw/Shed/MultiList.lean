import OpenBsw.Data.Descending

/-!
# Index lists of a table

`multi_list` keeps the membership of the items `0 .. n - 1` in a number of
buckets.  The lists of all buckets are interleaved in one array: the entry of
an item is the next item of its bucket, the entries behind the items are the
heads of the buckets.  A second array of the same length leads backwards.

Loops count the rounds they may take and return nothing when these are used up.
-/

namespace OpenBsw.Shed

open Function

universe u

inductive MoveOp where
  | SKIP
  | MOVE
  | MOVE_DONE
  | SKIP_DONE
  deriving DecidableEq, Repr

/-- A value stored as `idx_type`, an unsigned number of 16 bits. -/
def idxType (value : Nat) : Nat :=
  value % 65536

/-- The difference of two values of `size_t`, which wraps. -/
def sizeSub (first second : Nat) : Nat :=
  if second ≤ first then first - second else 4294967296 + first - second

/-- The arrays `items()` and `backlinks()` have `n + buckets` entries each. -/
structure MultiList where
  n : Nat
  buckets : Nat
  items : Nat → Nat
  backlinks : Nat → Nat

namespace MultiList

def isSizeValid (n buckets : Nat) : Bool :=
  n + buckets ≤ 65535

/-- Two bytes for each entry of the two arrays, behind four bytes for the sizes. -/
def memoryFor (n buckets : Nat) : Nat :=
  4 + 2 * 2 * (n + buckets)

/-- The constructor; before it the arrays hold what the memory held. -/
def init (n buckets : Nat) (items backlinks : Nat → Nat) : MultiList :=
  let items := update items 0 (idxType n)
  let items := (List.range n).foldl
    (fun items i => update items (i + 1) (idxType i)) items
  let items := (List.range (buckets - 1)).foldl
    (fun items i => update items (n + 1 + i) (idxType (n + 1 + i))) items
  let backlinks := (List.range (n + buckets)).foldl
    (fun backlinks i => update backlinks (items i) (idxType i)) backlinks
  { n := idxType n, buckets := idxType buckets, items, backlinks }

/-- A list in a memory of a size in bytes, and the size that is left. -/
def make (n buckets memory : Nat) (aligned : Bool) (items backlinks : Nat → Nat) :
    Option (MultiList × Nat) :=
  if !isSizeValid n buckets then none
  else if memory < memoryFor n buckets then none
  else if !aligned then none
  else some (init n buckets items backlinks, memory - memoryFor n buckets)

/-! ## Moving items -/

/-- The position behind which an item belongs, from a position before it. -/
def search (self : MultiList) (s : Nat) : Nat → Nat → Option Nat
  | 0, _ => none
  | rounds + 1, dst =>
    if s < self.items dst ∧ self.items dst < self.n then search self s rounds (self.items dst)
    else some dst

/-- The six entries that are rewired. -/
def relink (self : MultiList) (s dst : Nat) : MultiList :=
  let src := self.backlinks s
  let items := update self.items src (self.items s)
  let items := update items s (items dst)
  let items := update items dst (idxType s)
  let backlinks := update self.backlinks (items src) src
  let backlinks := update backlinks (items s) (idxType s)
  let backlinks := update backlinks (items dst) (idxType dst)
  { self with items, backlinks }

def moveNode (self : MultiList) (rounds s dst : Nat) : Option (MultiList × Nat) :=
  (self.search s rounds dst).map fun dst => (self.relink s dst, dst)

/-- The loop of `move_if` with the positions it has reached and the items moved so far. -/
def moveIfLoop {T : Type u} (f : T → Nat → MoveOp × T) (searchRounds : Nat) :
    Nat → MultiList → Nat → Nat → Nat → T → Option (MultiList × Nat × T)
  | 0, _, _, _, _, _ => none
  | rounds + 1, self, src, dst, moved, state =>
    if self.items src < self.n then
      let s := self.items src
      let r := (f state s).1
      let state := (f state s).2
      if r = .MOVE ∨ r = .MOVE_DONE then
        match self.moveNode searchRounds s dst with
        | none => none
        | some (self, dst) =>
          if r = .MOVE_DONE then some (self, moved + 1, state)
          else moveIfLoop f searchRounds rounds self src dst (moved + 1) state
      else if r = .SKIP_DONE then some (self, moved, state)
      else moveIfLoop f searchRounds rounds self (self.items src) dst moved state
    else some (self, moved, state)

def moveIf {T : Type u} (self : MultiList) (f : T → Nat → MoveOp × T) (rounds src dst : Nat)
    (state : T) : Option (MultiList × Nat × T) :=
  moveIfLoop f rounds rounds self (src + self.n) (dst + self.n) 0 state

def moveIdx (self : MultiList) (rounds s dst : Nat) : Option MultiList :=
  (self.moveNode rounds s (dst + self.n)).map Prod.fst

def moveFirst (self : MultiList) (rounds src dst : Nat) : Option (MultiList × Nat) :=
  let s := self.items (src + self.n)
  if s < self.n then (self.moveNode rounds s (dst + self.n)).map fun moved => (moved.1, s)
  else some (self, self.n)

/-! ## Iterating -/

/-- The loop of `InBucket::iter`. -/
def inBucketLoop {T : Type u} (items : Nat → Nat) (f : T → Nat → Bool × T) (head : Nat) :
    Nat → Nat → T → Option T
  | 0, _, _ => none
  | rounds + 1, pos, state =>
    if pos = head then some state
    else if (f state pos).1 then inBucketLoop items f head rounds (items pos) (f state pos).2
    else some (f state pos).2

def inBucket {T : Type u} (self : MultiList) (f : T → Nat → Bool × T) (rounds bucket : Nat)
    (state : T) : Option T :=
  inBucketLoop self.items f (self.n + bucket) rounds (self.items (self.n + bucket)) state

/-- The inner loop of `NotInBucket::iter`, which skips the members of the bucket. -/
def skipMembers (self : MultiList) : Nat → Nat → Nat → Option (Nat × Nat)
  | 0, _, _ => none
  | rounds + 1, i, pos =>
    if sizeSub self.n i = pos then skipMembers self rounds (i + 1) (self.items pos)
    else some (i, pos)

/-- The loop of `NotInBucket::iter`. -/
def notInBucketLoop {T : Type u} (self : MultiList) (f : T → Nat → Bool × T) (skipRounds : Nat) :
    Nat → Nat → Nat → T → Option T
  | 0, _, _, _ => none
  | rounds + 1, i, pos, state =>
    match self.skipMembers skipRounds (i + 1) pos with
    | none => none
    | some (i, pos) =>
      if i < self.n + 1 then
        if (f state (sizeSub self.n i)).1 then
          notInBucketLoop self f skipRounds rounds i pos (f state (sizeSub self.n i)).2
        else some (f state (sizeSub self.n i)).2
      else some state

def notInBucket {T : Type u} (self : MultiList) (f : T → Nat → Bool × T) (rounds bucket : Nat)
    (state : T) : Option T :=
  notInBucketLoop self f rounds rounds 0 (self.items (self.n + bucket)) state

/-- The loop of `NotInBuckets::iter` over the indices below `i`.  It reads the entries that the
visitor left. -/
def notInBucketsLoop {T : Type u} (list : T → MultiList) (f : T → Nat → Bool × T) :
    Nat → Nat → Nat → T → T
  | 0, _, _, state => state
  | i + 1, pos0, pos1, state =>
    let next0 := if i = pos0 then (list state).items pos0 else pos0
    let next1 := if i = pos1 then (list state).items pos1 else pos1
    if i = pos0 ∨ i = pos1 then notInBucketsLoop list f i next0 next1 state
    else if (f state i).1 then notInBucketsLoop list f i next0 next1 (f state i).2
    else (f state i).2

/-- The list is part of what the visitor may change. -/
def notInBuckets {T : Type u} (list : T → MultiList) (f : T → Nat → Bool × T)
    (bucket0 bucket1 : Nat) (state : T) : T :=
  notInBucketsLoop list f (list state).n ((list state).items ((list state).n + bucket0))
    ((list state).items ((list state).n + bucket1)) state

end MultiList

end OpenBsw.Shed
