import OpenBsw.Shed.Membership

/-!
# Conditional transfers between buckets

`move_if` asks for the items of the source bucket in turn.  What it should do
is described on the bucket of each item: the callback is asked for the items
that the source had at the start, from the largest one down, until it says that
it is done, and the accepted items are in the destination afterwards.

Within one bucket an accepted item stays where it is, so that it is asked for
again.
-/

namespace OpenBsw.Shed

open Function

universe u

variable {T : Type u} {f : T → Nat → MoveOp × T} {list : MultiList} {bucket : Nat → Nat}
  {b d p dst moved searchRounds rounds : Nat} {state : T} {rest : List Nat}

/-- Ask for the items in turn until told to stop: the accepted ones, and the state then. -/
def ask (f : T → Nat → MoveOp × T) : T → List Nat → List Nat × T
  | state, [] => ([], state)
  | state, s :: rest =>
    match (f state s).1 with
    | .SKIP => ask f (f state s).2 rest
    | .MOVE => (s :: (ask f (f state s).2 rest).1, (ask f (f state s).2 rest).2)
    | .MOVE_DONE => ([s], (f state s).2)
    | .SKIP_DONE => ([], (f state s).2)

/-- The callback accepts an item and wants to be asked further. -/
def acceptsAndGoesOn (f : T → Nat → MoveOp × T) : T → List Nat → Bool
  | _, [] => false
  | state, s :: rest =>
    match (f state s).1 with
    | .SKIP => acceptsAndGoesOn f (f state s).2 rest
    | .MOVE => true
    | .MOVE_DONE => false
    | .SKIP_DONE => false

/-- The accepted items are moved to a bucket. -/
def transfer (bucket : Nat → Nat) (accepted : List Nat) (d : Nat) : Nat → Nat :=
  fun i => if i ∈ accepted then d else bucket i

@[simp]
theorem transfer_nil : transfer bucket [] d = bucket := by
  funext i
  rw [transfer, if_neg List.not_mem_nil]

theorem transfer_cons {s : Nat} {accepted : List Nat} :
    transfer bucket (s :: accepted) d = transfer (update bucket s d) accepted d := by
  funext i
  rw [transfer, transfer]
  by_cases later : i ∈ accepted
  · rw [if_pos (List.mem_cons_of_mem _ later), if_pos later]
  · rw [if_neg later]
    by_cases same : i = s
    · rw [same, if_pos List.mem_cons_self, update_self]
    · rw [if_neg (List.not_mem_cons_of_ne_of_not_mem same later), update_of_ne same]

theorem transfer_singleton {s : Nat} : transfer bucket [s] d = update bucket s d := by
  rw [transfer_cons, transfer_nil]

namespace Represents

/-- The next item of a position in a bucket. -/
theorem items_of_remaining (represents : Represents list bucket)
    (valid : p < list.n + list.buckets) (at_bucket : bucketAt bucket list.n p = b)
    (remaining : downward (fun i => bucket i = b) (min p list.n) = rest) :
    list.items p = rest.head?.getD (list.n + b) := by
  rw [represents.items p valid, at_bucket, next, below, remaining]

/-- The loop of `move_if` asks for the remaining items of the source. -/
theorem moveIfLoop (represents : Represents list bucket) (moved : Nat)
    (settles : b ≠ d ∨ acceptsAndGoesOn f state rest = false) (target : d < list.buckets)
    (valid : p < list.n + list.buckets) (at_bucket : bucketAt bucket list.n p = b)
    (remaining : downward (fun i => bucket i = b) (min p list.n) = rest)
    (validDst : dst < list.n + list.buckets) (at_dst : bucketAt bucket list.n dst = d)
    (above : ∀ s ∈ rest, s < min dst list.n) (enough : rest.length < rounds)
    (searches : list.n < searchRounds) :
    ∃ after, MultiList.moveIfLoop f searchRounds rounds list p dst moved state =
        some (after, moved + (ask f state rest).1.length, (ask f state rest).2) ∧
      Represents after (transfer bucket (ask f state rest).1 d) ∧
      after.n = list.n ∧ after.buckets = list.buckets := by
  induction rest generalizing list bucket p dst moved state rounds with
  | nil =>
    obtain ⟨rounds, rfl⟩ : ∃ fewer, rounds = fewer + 1 := ⟨rounds - 1, by omega⟩
    refine ⟨list, ?_, by simpa [ask] using represents, rfl, rfl⟩
    rw [MultiList.moveIfLoop, represents.items_of_remaining valid at_bucket remaining]
    rw [if_neg (by simp)]
    rfl
  | cons s rest ih =>
    obtain ⟨rounds, rfl⟩ : ∃ fewer, rounds = fewer + 1 := ⟨rounds - 1, by omega⟩
    have isNext := represents.items_of_remaining valid at_bucket remaining
    obtain ⟨inside, member, behind, gap⟩ := downward_eq_cons remaining
    have item : s < list.n := by omega
    have lowest : min s list.n = s := by omega
    have fewer : rest.length < rounds := by
      rw [List.length_cons] at enough
      omega
    obtain ⟨place, relinked, isPlace, after⟩ := represents.moveNode item target validDst at_dst
      (above s List.mem_cons_self) searches
    rw [MultiList.moveIfLoop, isNext, List.head?_cons, Option.getD_some, if_pos item]
    simp only [relinked]
    cases answer : (f state s).1 with
    | SKIP =>
      have asked : ask f state (s :: rest) = ask f (f state s).2 rest := by
        rw [ask, answer]
      rw [asked]
      apply ih represents
      · rcases settles with different | stays
        · exact Or.inl different
        · rw [acceptsAndGoesOn, answer] at stays
          exact Or.inr stays
      · exact target
      · exact Nat.lt_add_right _ item
      · exact (bucketAt_item item).trans member
      · rw [lowest]
        exact behind.symm
      · exact validDst
      · exact at_dst
      · exact fun other later => above other (List.mem_cons_of_mem _ later)
      · exact fewer
      · exact searches
    | MOVE =>
      have different : b ≠ d := by
        rcases settles with different | stays
        · exact different
        · rw [acceptsAndGoesOn, answer] at stays
          cases stays
      have asked : ask f state (s :: rest) =
          (s :: (ask f (f state s).2 rest).1, (ask f (f state s).2 rest).2) := by
        rw [ask, answer]
      have placeAbove := isPlace.below
      rw [asked, transfer_cons, List.length_cons, ← Nat.add_assoc, Nat.add_right_comm]
      apply ih after
      · exact Or.inl different
      · exact target
      · exact valid
      · rw [bucketAt, update_of_ne (by omega)]
        exact at_bucket
      · have leaves : ∀ k, s ≤ k → k < min p list.n → update bucket s d k ≠ b := by
          intro k high low
          rcases Nat.lt_or_eq_of_le high with further | rfl
          · rw [update_of_ne (by omega)]
            exact gap k further low
          · rw [update_self]
            exact different.symm
        have kept : ∀ k < s, update bucket s d k = b ↔ bucket k = b := by
          intro k low
          rw [update_of_ne (by omega)]
        rw [behind]
        exact (downward_skip (Nat.le_of_lt inside) leaves).trans (downward_congr kept)
      · exact isPlace.valid
      · have notPlace : place ≠ s := by omega
        change bucketAt _ list.n _ = _
        rw [bucketAt, update_of_ne notPlace]
        exact isPlace.at_bucket
      · intro other later
        rw [behind] at later
        have low := (mem_downward.mp later).1
        change other < min place list.n
        omega
      · exact fewer
      · exact searches
    | MOVE_DONE =>
      have asked : ask f state (s :: rest) = ([s], (f state s).2) := by
        rw [ask, answer]
      rw [asked, transfer_singleton]
      exact ⟨_, rfl, after, rfl, rfl⟩
    | SKIP_DONE =>
      have asked : ask f state (s :: rest) = ([], (f state s).2) := by
        rw [ask, answer]
      rw [asked, transfer_nil]
      exact ⟨_, rfl, represents, rfl, rfl⟩

/-- The items that the source had at the start are asked for once each. -/
theorem moveIf (represents : Represents list bucket) (f : T → Nat → MoveOp × T) (state : T)
    (source : b < list.buckets)
    (target : d < list.buckets)
    (settles : b ≠ d ∨ acceptsAndGoesOn f state (members bucket list.n b) = false)
    (enough : list.n < rounds) :
    ∃ after, list.moveIf f rounds b d state =
        some (after, (ask f state (members bucket list.n b)).1.length,
          (ask f state (members bucket list.n b)).2) ∧
      Represents after (transfer bucket (ask f state (members bucket list.n b)).1 d) ∧
      after.n = list.n ∧ after.buckets = list.buckets := by
  have limit : min (list.n + b) list.n = list.n := by omega
  have limitDst : min (list.n + d) list.n = list.n := by omega
  rw [MultiList.moveIf, Nat.add_comm b, Nat.add_comm d]
  obtain ⟨after, result, represented, size⟩ := represents.moveIfLoop 0 settles target
    (Nat.add_lt_add_left source _) bucketAt_head (by rw [limit]; rfl)
    (Nat.add_lt_add_left target _) bucketAt_head
    (fun s member => by rw [limitDst]; exact (mem_downward.mp member).1)
    (Nat.lt_of_le_of_lt length_members enough) enough
  rw [Nat.zero_add] at result
  exact ⟨after, result, represented, size⟩

/-- After an item was accepted within one bucket, it is asked for again. -/
theorem moveIfLoop_again (represents : Represents list bucket) {s : Nat}
    (valid : p < list.n + list.buckets) (at_bucket : bucketAt bucket list.n p = b)
    (remaining : downward (fun i => bucket i = b) (min p list.n) = s :: rest)
    (validDst : dst < list.n + list.buckets) (at_dst : bucketAt bucket list.n dst = b)
    (above : s < min dst list.n) (searches : list.n < searchRounds)
    (accepts : (f state s).1 = .MOVE) :
    MultiList.moveIfLoop f searchRounds (rounds + 1) list p dst moved state =
      MultiList.moveIfLoop f searchRounds rounds list p (list.backlinks s) (moved + 1)
        (f state s).2 := by
  have isNext := represents.items_of_remaining valid at_bucket remaining
  obtain ⟨inside, member, _, _⟩ := downward_eq_cons remaining
  have item : s < list.n := by omega
  obtain ⟨place, relinked, isPlace, _⟩ := represents.moveNode item
    (at_bucket ▸ represents.bucketAt_inside valid) validDst at_dst above searches
  have inPlace : Place list bucket s (bucket s) place := by
    rw [member]
    exact isPlace
  have leads : list.items place = s := represents.items_of_place inPlace
  rw [represents.relink_same item inPlace] at relinked
  rw [MultiList.moveIfLoop, isNext, List.head?_cons, Option.getD_some, if_pos item]
  simp only [relinked, accepts, true_or, if_true, reduceCtorEq, if_false]
  rw [← leads, represents.backlinks_items place isPlace.valid]

/-- A callback that always accepts is asked for the same item without end. -/
theorem moveIfLoop_endless (represents : Represents list bucket) {s : Nat}
    (valid : p < list.n + list.buckets) (at_bucket : bucketAt bucket list.n p = b)
    (remaining : downward (fun i => bucket i = b) (min p list.n) = s :: rest)
    (validDst : dst < list.n + list.buckets) (at_dst : bucketAt bucket list.n dst = b)
    (above : s < min dst list.n) (searches : list.n < searchRounds)
    (accepts : ∀ state, (f state s).1 = .MOVE) :
    MultiList.moveIfLoop f searchRounds rounds list p dst moved state = none := by
  induction rounds generalizing dst moved state with
  | zero => rfl
  | succ rounds ih =>
    rw [represents.moveIfLoop_again valid at_bucket remaining validDst at_dst above searches
      (accepts state)]
    obtain ⟨inside, member, _, _⟩ := downward_eq_cons remaining
    obtain ⟨srcInside, srcBucket, srcNext⟩ := represents.before (show s < list.n by omega)
    exact ih srcInside (srcBucket.trans member) (below_eq_some_iff.mp srcNext).1

theorem moveIdx (represents : Represents list bucket) {s : Nat} (item : s < list.n)
    (target : d < list.buckets) (enough : list.n < rounds) :
    ∃ after, list.moveIdx rounds s d = some after ∧
      Represents after (update bucket s d) ∧
      after.n = list.n ∧ after.buckets = list.buckets := by
  obtain ⟨dst, moved, after⟩ := represents.moveNode_head item target enough
  rw [MultiList.moveIdx, moved]
  exact ⟨_, rfl, after, rfl, rfl⟩

/-- The largest item of the source is moved, if there is one. -/
theorem moveFirst (represents : Represents list bucket) (source : b < list.buckets)
    (target : d < list.buckets) (enough : list.n < rounds) :
    ∃ after, list.moveFirst rounds b d =
        some (after, (members bucket list.n b).head?.getD list.n) ∧
      Represents after (transfer bucket (members bucket list.n b).head?.toList d) ∧
      after.n = list.n ∧ after.buckets = list.buckets := by
  have limit : min (list.n + b) list.n = list.n := by omega
  have isNext := represents.items_of_remaining (Nat.add_lt_add_left source _) bucketAt_head
    (by rw [limit]; rfl : _ = members bucket list.n b)
  rw [MultiList.moveFirst, Nat.add_comm b, isNext]
  cases split : members bucket list.n b with
  | nil =>
    refine ⟨list, ?_, by simpa using represents, rfl, rfl⟩
    simp
  | cons s rest =>
    have item := (downward_eq_cons split).1
    obtain ⟨dst, moved, after⟩ := represents.moveNode_head item target enough
    refine ⟨list.relink s dst, ?_, ?_, rfl, rfl⟩
    · simp only [List.head?_cons, Option.getD_some, item, if_true, moved, Option.map_some]
    · rw [List.head?_cons, Option.toList_some, transfer_singleton]
      exact after

end Represents

end OpenBsw.Shed
