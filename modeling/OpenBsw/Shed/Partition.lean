import OpenBsw.Shed.Transfer
import OpenBsw.Shed.Iteration

/-!
# The buckets are a partition

A run of operations on an index list is compared with the same run on the
assignment of each item to its bucket.  The arrays stand for the assignment in
every state, all loops end, and the callbacks are asked for the items that the
assignment has in the buckets.
-/

namespace OpenBsw.Shed

universe u

variable {n buckets : Nat} {list : MultiList} {bucket : Nat → Nat} {T : Type u}

/-! ## The constructor -/

section Writes

variable (position value start : Nat → Nat) {count : Nat}

theorem foldl_update_other {p : Nat} (apart : ∀ i < count, position i ≠ p) :
    (List.range count).foldl (fun entries i => Function.update entries (position i) (value i))
      start p = start p := by
  induction count with
  | zero => rfl
  | succ count ih =>
    rw [List.range_succ, List.foldl_append, List.foldl_cons, List.foldl_nil,
      Function.update_of_ne (apart count (Nat.lt_succ_self _)).symm]
    exact ih fun i inside => apart i (Nat.lt_succ_of_lt inside)

/-- Entries written at different positions hold the values written. -/
theorem foldl_update_at {i : Nat} (inside : i < count)
    (apart : ∀ j < count, i < j → position j ≠ position i) :
    (List.range count).foldl (fun entries i => Function.update entries (position i) (value i))
      start (position i) = value i := by
  induction count with
  | zero => exact absurd inside (Nat.not_lt_zero _)
  | succ count ih =>
    rw [List.range_succ, List.foldl_append, List.foldl_cons, List.foldl_nil]
    rcases Nat.lt_or_eq_of_le (Nat.le_of_lt_succ inside) with earlier | rfl
    · rw [Function.update_of_ne (apart count (Nat.lt_succ_self _) earlier).symm]
      exact ih earlier fun j further => apart j (Nat.lt_succ_of_lt further)
    · rw [Function.update_self]

end Writes

/-- The entries of a new list: all items in the first bucket. -/
theorem init_items (items backlinks : Nat → Nat) (valid : n + buckets ≤ 65535) {p : Nat}
    (inside : p < n + buckets) :
    (MultiList.init n buckets items backlinks).items p =
      if p = 0 then n else if p ≤ n then p - 1 else p := by
  have small : ∀ {value}, value < 65536 → idxType value = value := Nat.mod_eq_of_lt
  rw [MultiList.init]
  by_cases later : n < p
  · obtain ⟨i, rfl⟩ := Nat.exists_eq_add_of_lt later
    rw [if_neg (by omega), if_neg (by omega), show n + i + 1 = n + 1 + i by omega]
    refine (foldl_update_at (fun i => n + 1 + i) _ _ (by omega) ?_).trans ?_
    · intro j _ above
      omega
    · exact small (by omega)
  · refine (foldl_update_other (fun i => n + 1 + i) _ _ fun i _ => by omega).trans ?_
    cases p with
    | zero =>
      rw [if_pos rfl]
      refine (foldl_update_other (fun i => i + 1) _ _ fun i _ => by omega).trans ?_
      rw [Function.update_self]
      exact small (by omega)
    | succ i =>
      rw [if_neg (by omega), if_pos (by omega), Nat.add_sub_cancel]
      refine (foldl_update_at (fun i => i + 1) _ _ (by omega) ?_).trans ?_
      · intro j _ above
        omega
      · exact small (by omega)

/-- The entries that lead back in a new list. -/
theorem init_backlinks (items backlinks : Nat → Nat) (valid : n + buckets ≤ 65535) {p : Nat}
    (inside : p < n + buckets) :
    (MultiList.init n buckets items backlinks).backlinks
      ((MultiList.init n buckets items backlinks).items p) = p := by
  refine (foldl_update_at (MultiList.init n buckets items backlinks).items _ _ inside ?_).trans ?_
  · intro j within above
    rw [init_items _ _ valid within, init_items _ _ valid inside]
    split_ifs <;> omega
  · exact Nat.mod_eq_of_lt (by omega)

theorem next_initial {limit b : Nat} :
    next (fun _ => 0) n b limit = if b = 0 then if limit = 0 then n else limit - 1 else n + b := by
  by_cases first : b = 0
  · subst first
    rw [if_pos rfl]
    cases limit with
    | zero => rfl
    | succ limit =>
      rw [if_neg (by omega), Nat.add_sub_cancel]
      apply next_of_some
      rw [below_succ, if_pos rfl]
  · rw [if_neg first]
    apply next_of_none
    exact below_eq_none_iff.mpr fun _ _ same => first same.symm

/-- A new list has all items in its first bucket. -/
theorem init_represents {items backlinks : Nat → Nat} (valid : n + buckets ≤ 65535)
    (some : 0 < buckets) :
    Represents (MultiList.init n buckets items backlinks) (fun _ => 0) := by
  have sizeN : (MultiList.init n buckets items backlinks).n = n := Nat.mod_eq_of_lt (by omega)
  have sizeB : (MultiList.init n buckets items backlinks).buckets = buckets :=
    Nat.mod_eq_of_lt (by omega)
  have entries := fun p inside =>
    init_items items backlinks (p := p) valid inside
  have leadsBack := fun p inside =>
    init_backlinks items backlinks (p := p) valid inside
  generalize MultiList.init n buckets items backlinks = list at sizeN sizeB entries leadsBack
  subst sizeN sizeB
  have source : ∀ p < list.n + list.buckets, ∃ q < list.n + list.buckets, list.items q = p := by
    intro p inside
    rcases Nat.lt_trichotomy p list.n with item | rfl | head
    · refine ⟨p + 1, by omega, ?_⟩
      rw [entries _ (by omega), if_neg (by omega), if_pos (by omega), Nat.add_sub_cancel]
    · refine ⟨0, by omega, ?_⟩
      rw [entries _ (by omega), if_pos rfl]
    · refine ⟨p, inside, ?_⟩
      rw [entries _ inside, if_neg (by omega), if_neg (by omega)]
  refine ⟨valid, fun _ _ => some, ?_, ?_, ?_, leadsBack, ?_⟩
  · intro p inside
    rw [entries p inside, bucketAt, next_initial]
    rcases Nat.lt_or_ge p list.n with item | head
    · rw [if_pos item, if_pos rfl, Nat.min_eq_left (Nat.le_of_lt item)]
      split_ifs <;> omega
    · rw [if_neg (Nat.not_lt.mpr head), Nat.min_eq_right head]
      split_ifs <;> omega
  · intro p inside
    rw [entries p inside]
    split_ifs <;> omega
  · intro p inside
    obtain ⟨q, within, rfl⟩ := source p inside
    rw [leadsBack q within]
    exact within
  · intro p inside
    obtain ⟨q, within, rfl⟩ := source p inside
    rw [leadsBack q within]

/-! ## Partitions -/

/-- The lists of the buckets hold each item once, and the iterators visit what they should. -/
structure Partition (list : MultiList) (n buckets : Nat) (bucket : Nat → Nat) : Prop where
  size : list.n = n ∧ list.buckets = buckets
  /-- Each item is in one bucket. -/
  exactlyOne : ∀ i < n, ∃! b, b < buckets ∧ i ∈ members bucket n b
  /-- The links of a bucket form a cycle through its head and its members. -/
  cycle : ∀ b < buckets,
    List.IsChain (fun p q => list.items p = q) ((n + b) :: (members bucket n b ++ [n + b]))
  descending : ∀ b < buckets, (members bucket n b).Pairwise (· > ·)
  inverse : ∀ p < n + buckets, list.backlinks (list.items p) = p ∧ list.items (list.backlinks p) = p
  inBucket : ∀ {V : Type} (f : V → Nat → Bool × V) (state : V), ∀ b < buckets, ∀ rounds > n,
    list.inBucket f rounds b state = some (visit f state (members bucket n b))
  notInBucket : ∀ {V : Type} (f : V → Nat → Bool × V) (state : V), ∀ b < buckets, ∀ rounds > n,
    list.notInBucket f rounds b state = some (visit f state (downward (fun i => bucket i ≠ b) n))
  notInBuckets : ∀ {V : Type} (f : V → Nat → Bool × V) (state : V), ∀ b < buckets,
    ∀ c < buckets, MultiList.notInBuckets (fun _ => list) f b c state =
      visit f state (downward (fun i => bucket i ≠ b ∧ bucket i ≠ c) n)

namespace Represents

/-- From a position on, the links lead through the members below it to the head. -/
theorem chain (represents : Represents list bucket) {b limit p : Nat} (within : limit ≤ list.n)
    (leads : list.items p = next bucket list.n b limit) :
    List.IsChain (fun p q => list.items p = q)
      (p :: (downward (fun i => bucket i = b) limit ++ [list.n + b])) := by
  generalize remaining : downward (fun i => bucket i = b) limit = rest
  induction rest generalizing limit p with
  | nil =>
    rw [next, below, remaining] at leads
    exact .cons_cons leads (.singleton _)
  | cons i rest ih =>
    obtain ⟨inside, member, behind, _⟩ := downward_eq_cons remaining
    rw [next, below, remaining] at leads
    refine .cons_cons leads (ih (Nat.le_of_lt (by omega)) ?_ behind.symm)
    rw [represents.items_item (by omega), member]

theorem partition (represents : Represents list bucket) :
    Partition list list.n list.buckets bucket where
  size := ⟨rfl, rfl⟩
  exactlyOne := by
    intro i item
    refine ⟨bucket i, ⟨represents.inside i item, mem_downward.mpr ⟨item, rfl⟩⟩, ?_⟩
    rintro b ⟨_, member⟩
    exact (mem_downward.mp member).2.symm
  cycle := fun b inside => represents.chain (Nat.le_refl _) (represents.items_head inside)
  descending := fun _ _ => downward_descending
  inverse := fun p inside =>
    ⟨represents.backlinks_items p inside, represents.items_backlinks p inside⟩
  inBucket := fun f state _ inside _ enough => represents.inBucket f state inside enough
  notInBucket := fun f state _ inside _ enough => represents.notInBucket f state inside enough
  notInBuckets := fun f state _ first _ second => represents.notInBuckets f state first second

end Represents

/-! ## Runs -/

/-- The callback of `move_if` does not touch the list. -/
inductive ListOperation (T : Type u) where
  | moveIf (src dst : Nat) (f : T → Nat → MoveOp × T)
  | moveIdx (s dst : Nat)
  | moveFirst (src dst : Nat)

namespace ListOperation

/-- The buckets and the index are those of the list. -/
def Inside (n buckets : Nat) : ListOperation T → Prop
  | .moveIf src dst _ => src < buckets ∧ dst < buckets
  | .moveIdx s dst => s < n ∧ dst < buckets
  | .moveFirst src dst => src < buckets ∧ dst < buckets

end ListOperation

/-- An index list, the state of the callbacks and the numbers returned so far. -/
structure ListRun (T : Type u) where
  list : MultiList
  state : T
  results : List Nat := []

namespace ListRun

/-- Nothing if a loop does not end within the rounds. -/
def perform (rounds : Nat) (run : ListRun T) : ListOperation T → Option (ListRun T)
  | .moveIf src dst f =>
    (run.list.moveIf f rounds src dst run.state).map fun result =>
      { list := result.1, state := result.2.2, results := run.results ++ [result.2.1] }
  | .moveIdx s dst => (run.list.moveIdx rounds s dst).map fun list => { run with list }
  | .moveFirst src dst =>
    (run.list.moveFirst rounds src dst).map fun result =>
      { run with list := result.1, results := run.results ++ [result.2] }

def play (rounds : Nat) (run : ListRun T) : List (ListOperation T) → Option (ListRun T)
  | [] => some run
  | operation :: rest =>
    match run.perform rounds operation with
    | none => none
    | some further => further.play rounds rest

end ListRun

/-- The bucket of each item, the state of the callbacks and the numbers returned so far. -/
structure Assignment (T : Type u) where
  bucket : Nat → Nat
  state : T
  results : List Nat := []

namespace Assignment

/-- At first all items are in the first bucket. -/
def initial (state : T) : Assignment T where
  bucket _ := 0
  state := state

/-- Each member of the source is asked for once, from the largest one down, until told to stop. -/
def perform (n : Nat) (assignment : Assignment T) : ListOperation T → Assignment T
  | .moveIf src dst f =>
    let asked := ask f assignment.state (members assignment.bucket n src)
    { bucket := transfer assignment.bucket asked.1 dst
      state := asked.2
      results := assignment.results ++ [asked.1.length] }
  | .moveIdx s dst => { assignment with bucket := Function.update assignment.bucket s dst }
  | .moveFirst src dst =>
    let first := (members assignment.bucket n src).head?
    { assignment with
      bucket := transfer assignment.bucket first.toList dst
      results := assignment.results ++ [first.getD n] }

def play (n : Nat) (assignment : Assignment T) (operations : List (ListOperation T)) :
    Assignment T :=
  operations.foldl (perform n) assignment

/-- No item is accepted within one bucket by a callback that wants to be asked further. -/
def Settles (n : Nat) (assignment : Assignment T) : ListOperation T → Prop
  | .moveIf src dst f =>
    src ≠ dst ∨ acceptsAndGoesOn f assignment.state (members assignment.bucket n src) = false
  | .moveIdx _ _ => True
  | .moveFirst _ _ => True

/-- All operations of a run settle. -/
def AllSettle (n : Nat) (assignment : Assignment T) : List (ListOperation T) → Prop
  | [] => True
  | operation :: rest =>
    assignment.Settles n operation ∧ (assignment.perform n operation).AllSettle n rest

end Assignment

/-- The run stands where the assignment does. -/
structure Follows (run : ListRun T) (n buckets : Nat) (assignment : Assignment T) : Prop where
  size : run.list.n = n ∧ run.list.buckets = buckets
  represents : Represents run.list assignment.bucket
  state : run.state = assignment.state
  results : run.results = assignment.results

/-- One operation ends and does what it does to the assignment. -/
theorem Follows.perform {run : ListRun T} {assignment : Assignment T}
    (follows : Follows run n buckets assignment) {operation : ListOperation T}
    (inside : operation.Inside n buckets) (settles : assignment.Settles n operation) {rounds : Nat}
    (enough : n < rounds) :
    ∃ further, run.perform rounds operation = some further ∧
      Follows further n buckets (assignment.perform n operation) := by
  obtain ⟨⟨rfl, rfl⟩, represents, state, results⟩ := follows
  cases operation with
  | moveIf src dst f =>
    rw [Assignment.Settles, ← state] at settles
    obtain ⟨after, result, represented, size⟩ :=
      represents.moveIf f run.state inside.1 inside.2 settles enough
    rw [ListRun.perform, result]
    refine ⟨_, rfl, size, ?_, ?_, ?_⟩
    · rw [Assignment.perform, ← state]
      exact represented
    · rw [Assignment.perform, ← state]
    · rw [Assignment.perform, ← state, ← results]
  | moveIdx s dst =>
    obtain ⟨after, result, represented, size⟩ := represents.moveIdx inside.1 inside.2 enough
    rw [ListRun.perform, result]
    exact ⟨_, rfl, size, represented, state, results⟩
  | moveFirst src dst =>
    obtain ⟨after, result, represented, size⟩ :=
      represents.moveFirst inside.1 inside.2 enough
    rw [ListRun.perform, result]
    refine ⟨_, rfl, size, represented, state, ?_⟩
    rw [Assignment.perform, ← results]

theorem Follows.play {run : ListRun T} {assignment : Assignment T}
    (follows : Follows run n buckets assignment) {operations : List (ListOperation T)}
    (inside : ∀ operation ∈ operations, operation.Inside n buckets)
    (settle : assignment.AllSettle n operations) {rounds : Nat} (enough : n < rounds) :
    ∃ further, run.play rounds operations = some further ∧
      Follows further n buckets (assignment.play n operations) := by
  induction operations generalizing run assignment with
  | nil => exact ⟨run, rfl, follows⟩
  | cons operation rest ih =>
    obtain ⟨further, performed, followed⟩ :=
      follows.perform (inside operation List.mem_cons_self) settle.1 enough
    obtain ⟨last, played, after⟩ :=
      ih followed (fun other later => inside other (List.mem_cons_of_mem _ later)) settle.2
    refine ⟨last, ?_, after⟩
    rw [ListRun.play, performed]
    exact played

/-- A list that was made is in its initial state. -/
theorem Follows.initial {memory left : Nat} {aligned : Bool} {items backlinks : Nat → Nat}
    (made : MultiList.make n buckets memory aligned items backlinks = some (list, left))
    (positive : 0 < buckets) (state : T) :
    Follows { list, state } n buckets (Assignment.initial state) := by
  rw [MultiList.make] at made
  split at made
  · cases made
  · rename_i sizeValid
    split at made
    · cases made
    · split at made
      · cases made
      · have valid : n + buckets ≤ 65535 := by
          simpa [MultiList.isSizeValid] using sizeValid
        obtain rfl := (Prod.mk.inj (Option.some.inj made)).1
        exact ⟨⟨Nat.mod_eq_of_lt (by omega), Nat.mod_eq_of_lt (by omega)⟩,
          init_represents valid positive, rfl, rfl⟩

/-- Every run of operations ends, does on the buckets of the items what it should, and leaves a
partition, if no item is accepted within one bucket by a callback that goes on. -/
theorem partition_exact {memory left rounds : Nat} {aligned : Bool} {items backlinks : Nat → Nat}
    (made : MultiList.make n buckets memory aligned items backlinks = some (list, left))
    (positive : 0 < buckets) (state : T) {operations : List (ListOperation T)}
    (inside : ∀ operation ∈ operations, operation.Inside n buckets)
    (settle : (Assignment.initial state).AllSettle n operations) (enough : n < rounds) :
    ∃ run : ListRun T, ListRun.play rounds { list, state } operations = some run ∧
      Partition run.list n buckets ((Assignment.initial state).play n operations).bucket ∧
      run.state = ((Assignment.initial state).play n operations).state ∧
      run.results = ((Assignment.initial state).play n operations).results := by
  obtain ⟨run, played, follows⟩ :=
    (Follows.initial made positive state).play inside settle enough
  have partition := follows.represents.partition
  rw [follows.size.1, follows.size.2] at partition
  exact ⟨run, played, partition, follows.state, follows.results⟩

/-- Three items in two buckets: a transfer that stops early, one within a bucket, and single
items. -/
def sampleOperations : List (ListOperation (List Nat)) :=
  [.moveIf 0 1 fun asked i => (if i = 0 then .SKIP else .MOVE, asked ++ [i]),
    .moveIf 1 1 fun asked i => (if i = 2 then .SKIP else .MOVE_DONE, asked ++ [i]),
    .moveIdx 1 0, .moveIdx 1 0, .moveFirst 1 0, .moveFirst 1 0]

theorem partition_exact_sample :
    ∃ run : ListRun (List Nat),
      ListRun.play 4 { list := MultiList.init 3 2 (fun _ => 0) (fun _ => 0), state := [] }
        sampleOperations = some run ∧
      Partition run.list 3 2 ((Assignment.initial []).play 3 sampleOperations).bucket ∧
      run.state = [2, 1, 0, 2, 1] ∧ run.results = [2, 1, 2, 3] := by
  have inside : ∀ operation ∈ sampleOperations, operation.Inside 3 2 := by
    simp [sampleOperations, ListOperation.Inside]
  have settle : (Assignment.initial []).AllSettle 3 sampleOperations := by
    refine ⟨Or.inl (by decide), Or.inr (by decide), trivial, trivial, trivial, trivial, trivial⟩
  have made : MultiList.make 3 2 24 true (fun _ => 0) (fun _ => 0) =
      some (MultiList.init 3 2 (fun _ => 0) (fun _ => 0), 0) := rfl
  exact partition_exact made (by decide) [] inside settle (by decide)

/-- With one item in one bucket and a callback that always accepts, `move_if` within the bucket does
not end within any number of rounds. -/
theorem not_partition_exact :
    ¬ ∀ operations : List (ListOperation Unit),
      (∀ operation ∈ operations, operation.Inside 1 1) →
      ∃ rounds, ∃ run : ListRun Unit, ListRun.play rounds
        { list := MultiList.init 1 1 (fun _ => 0) (fun _ => 0), state := () } operations =
          some run := by
  intro ends
  obtain ⟨rounds, run, played⟩ := ends [.moveIf 0 0 fun _ _ => (.MOVE, ())] (by
    simp [ListOperation.Inside])
  have represents : Represents (MultiList.init 1 1 (fun _ => 0) (fun _ => 0)) (fun _ => 0) :=
    init_represents (by decide) (by decide)
  have endless : MultiList.moveIf (MultiList.init 1 1 (fun _ => 0) (fun _ => 0))
      (fun _ _ => (.MOVE, ())) rounds 0 0 () = none := by
    match rounds with
    | 0 => rfl
    | 1 => rfl
    | rounds + 2 =>
      have head : 0 < min 1 1 := by decide
      exact represents.moveIfLoop_endless (by decide) rfl rfl (by decide) rfl head
        (Nat.lt_add_left rounds (by decide)) fun _ => rfl
  rw [ListRun.play, ListRun.perform, endless] at played
  cases played

end OpenBsw.Shed
