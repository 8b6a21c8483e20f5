import OpenBsw.Data.StableInsert

/-!
# Schedules

The purpose of a timer, in time that does not wrap: every arming of a timeout
is pending until it is cancelled, or until it expires and is not cyclic.  The
pending ones are ordered by deadline, and by insertion where the deadlines are
the same.  Armings are numbered in the order they are made.
-/

namespace OpenBsw

open List

/-- One arming of a timeout.  A cyclic one first expires after its period. -/
structure Arming (Id : Type) where
  id : Id
  setAt : Nat
  delay : Nat
  period : Nat

/-- A pending timeout: its next deadline, the number of its arming and the
stamp of its last insertion. -/
structure Pending (Id : Type) where
  id : Id
  deadline : Nat
  period : Nat
  arming : Nat
  stamp : Nat

/-- The pending timeouts and the book-keeping: all armings, the armings that
expired (once per expiration) or were cancelled, and the stamp of the next
insertion. -/
structure Schedule (Id : Type) where
  pending : List (Pending Id)
  armings : List (Arming Id)
  expirations : List Nat
  cancellations : List Nat
  nextStamp : Nat

namespace Schedule

variable {Id : Type} [DecidableEq Id]

def empty : Schedule Id :=
  { pending := [], armings := [], expirations := [], cancellations := [], nextStamp := 0 }

def isPending (schedule : Schedule Id) (id : Id) : Bool :=
  schedule.pending.any fun entry => entry.id = id

/-- Arm a timeout that is not pending. -/
def arm (schedule : Schedule Id) (id : Id) (delay period now : Nat) : Schedule Id :=
  if schedule.isPending id then schedule
  else
    { schedule with
      pending := StableInsert.insert Pending.deadline
        { id, deadline := now + delay, period
          arming := schedule.armings.length, stamp := schedule.nextStamp } schedule.pending
      armings := schedule.armings ++ [{ id, setAt := now, delay, period }]
      nextStamp := schedule.nextStamp + 1 }

/-- Cancel a timeout that is pending. -/
def cancel (schedule : Schedule Id) (id : Id) : Schedule Id :=
  { schedule with
    pending := schedule.pending.eraseP fun entry => entry.id = id
    cancellations := schedule.cancellations ++
      ((schedule.pending.find? fun entry => entry.id = id).map Pending.arming).toList }

omit [DecidableEq Id] in
/-- Expire the first pending timeout if it is due; a cyclic one is pending
again, one period later. -/
def expireNext (schedule : Schedule Id) (now : Nat) : Schedule Id :=
  match schedule.pending with
  | [] => schedule
  | entry :: rest =>
    if entry.deadline ≤ now then
      { schedule with
        pending :=
          if 0 < entry.period then
            StableInsert.insert Pending.deadline
              { entry with
                deadline := entry.deadline + entry.period, stamp := schedule.nextStamp } rest
          else rest
        expirations := schedule.expirations ++ [entry.arming]
        nextStamp := schedule.nextStamp + 1 }
    else schedule

/-! ## Invariant -/

/-- The order of the pending timeouts. -/
def Before (first second : Pending Id) : Prop :=
  first.deadline < second.deadline ∨
    first.deadline = second.deadline ∧ first.stamp < second.stamp

/-- Is this the number of an arming for a single expiration? -/
def isOneShot (armings : List (Arming Id)) (number : Nat) : Bool :=
  armings[number]?.any fun arming => arming.period = 0

/-- A pending timeout is on schedule: each expiration of its arming moved the
deadline by one period, and none was early. -/
structure OnSchedule (schedule : Schedule Id) (now : Nat) (entry : Pending Id)
    (arming : Arming Id) : Prop where
  armed : schedule.armings[entry.arming]? = some arming
  id_eq : entry.id = arming.id
  period_eq : entry.period = arming.period
  deadline_eq : entry.deadline = arming.setAt + arming.delay +
    arming.period * schedule.expirations.count entry.arming
  late : 0 < schedule.expirations.count entry.arming → entry.deadline ≤ now + arming.period

/-- What holds of a schedule at a time after its last change. -/
structure Consistent (schedule : Schedule Id) (now : Nat) : Prop where
  distinct : (schedule.pending.map Pending.id).Nodup
  ordered : schedule.pending.Pairwise Before
  stamps : ∀ entry ∈ schedule.pending, entry.stamp < schedule.nextStamp
  onSchedule : ∀ entry ∈ schedule.pending, ∃ arming, OnSchedule schedule now entry arming
  armings : ∀ arming ∈ schedule.armings, arming.setAt ≤ now ∧
    (arming.period = 0 ∨ arming.period = arming.delay)
  expired_lt : ∀ number ∈ schedule.expirations, number < schedule.armings.length
  accounted : (schedule.cancellations ++
    schedule.expirations.filter (isOneShot schedule.armings) ++
    schedule.pending.map Pending.arming).Perm (List.range schedule.armings.length)

variable {schedule : Schedule Id} {now : Nat}

omit [DecidableEq Id] in
theorem consistent_empty (now : Nat) : Consistent (empty : Schedule Id) now where
  distinct := nodup_nil
  ordered := .nil
  stamps := by simp [empty]
  onSchedule := by simp [empty]
  armings := by simp [empty]
  expired_lt := by simp [empty]
  accounted := .refl _

omit [DecidableEq Id] in
theorem Consistent.mono (consistent : Consistent schedule now) {later : Nat} (le : now ≤ later) :
    Consistent schedule later :=
  { consistent with
    onSchedule := by
      intro entry member
      obtain ⟨arming, onSchedule⟩ := consistent.onSchedule entry member
      exact ⟨arming, { onSchedule with
        late := fun expired => Nat.le_trans (onSchedule.late expired) (by omega) }⟩
    armings := fun arming member =>
      ⟨Nat.le_trans (consistent.armings arming member).1 le, (consistent.armings arming member).2⟩ }

omit [DecidableEq Id] in
theorem Consistent.sorted (consistent : Consistent schedule now) :
    schedule.pending.Pairwise fun first second => first.deadline ≤ second.deadline :=
  consistent.ordered.imp fun before => by rcases before with less | ⟨equal, _⟩ <;> omega

theorem isPending_iff {id : Id} :
    schedule.isPending id = true ↔ id ∈ schedule.pending.map Pending.id := by
  simp [isPending]

omit [DecidableEq Id] in
theorem isOneShot_append {armings : List (Arming Id)} (arming : Arming Id) {number : Nat}
    (inside : number < armings.length) :
    isOneShot (armings ++ [arming]) number = isOneShot armings number := by
  rw [isOneShot, isOneShot, List.getElem?_append_left inside]

omit [DecidableEq Id] in
/-- Insertion with a fresh stamp keeps the order. -/
theorem ordered_insert {entry : Pending Id} {pending : List (Pending Id)} {nextStamp : Nat}
    (ordered : pending.Pairwise Before) (stamps : ∀ other ∈ pending, other.stamp < nextStamp)
    (fresh : entry.stamp = nextStamp) :
    (StableInsert.insert Pending.deadline entry pending).Pairwise Before := by
  refine StableInsert.pairwise_insert ?_ ordered ?_ ?_
  · exact ordered.imp fun before => by rcases before with less | ⟨equal, _⟩ <;> omega
  · intro other member le
    have older := stamps other member
    rcases Nat.lt_or_eq_of_le le with less | equal
    · exact .inl less
    · exact .inr ⟨equal, by omega⟩
  · intro other _ less
    exact .inl less

/-- Arming a timeout. -/
theorem consistent_arm (consistent : Consistent schedule now) (id : Id) (delay period : Nat)
    (cyclic : period = 0 ∨ period = delay) :
    Consistent (schedule.arm id delay period now) now := by
  rw [arm]
  split
  · exact consistent
  rename_i absent
  rw [isPending_iff] at absent
  have perm := StableInsert.insert_perm Pending.deadline
    { id, deadline := now + delay, period, arming := schedule.armings.length,
      stamp := schedule.nextStamp : Pending Id } schedule.pending
  have unexpired : schedule.expirations.count schedule.armings.length = 0 := by
    rw [count_eq_zero]
    intro member
    exact absurd (consistent.expired_lt _ member) (Nat.lt_irrefl _)
  refine ⟨?_, ?_, ?_, ?_, ?_, ?_, ?_⟩
  · rw [(perm.map Pending.id).nodup_iff]
    exact nodup_cons.mpr ⟨absent, consistent.distinct⟩
  · exact ordered_insert consistent.ordered consistent.stamps rfl
  · intro entry member
    rcases StableInsert.mem_insert_iff.mp member with rfl | old
    · exact Nat.lt_succ_self _
    · exact Nat.lt_succ_of_lt (consistent.stamps entry old)
  · intro entry member
    rcases StableInsert.mem_insert_iff.mp member with rfl | old
    · refine ⟨{ id, setAt := now, delay, period }, ?_, rfl, rfl, ?_, ?_⟩
      · exact List.getElem?_concat_length
      · simp only [unexpired, Nat.mul_zero, Nat.add_zero]
      · simp only [unexpired]
        intro impossible
        omega
    · obtain ⟨arming, onSchedule⟩ := consistent.onSchedule entry old
      have inside := (List.getElem?_eq_some_iff.mp onSchedule.armed).1
      refine ⟨arming, { onSchedule with armed := ?_ }⟩
      exact (List.getElem?_append_left inside).trans onSchedule.armed
  · intro arming member
    rcases mem_append.mp member with old | new
    · exact consistent.armings arming old
    · rw [mem_singleton.mp new]
      exact ⟨Nat.le_refl _, cyclic⟩
  · intro number member
    rw [List.length_append, length_singleton]
    exact Nat.lt_succ_of_lt (consistent.expired_lt number member)
  · have ended : schedule.expirations.filter
        (isOneShot (schedule.armings ++ [{ id, setAt := now, delay, period }])) =
        schedule.expirations.filter (isOneShot schedule.armings) :=
      filter_congr fun number member => isOneShot_append _ (consistent.expired_lt number member)
    rw [List.length_append, length_singleton, range_succ, ended]
    refine ((perm.map Pending.arming).append_left _).trans ?_
    refine (perm_middle).trans ?_
    exact ((consistent.accounted.cons _).trans (perm_append_singleton _ _).symm)

omit [DecidableEq Id] in
theorem perm_eraseP {α : Type} {predicate : α → Bool} {entries : List α} {entry : α}
    (found : entries.find? predicate = some entry) :
    entries.Perm (entry :: entries.eraseP predicate) := by
  induction entries with
  | nil => cases found
  | cons first rest ih =>
    rw [List.find?_cons] at found
    cases holds : predicate first with
    | true =>
      rw [holds] at found
      rw [eraseP_cons_of_pos holds, Option.some.inj found]
    | false =>
      rw [holds] at found
      rw [eraseP_cons_of_neg (by simp [holds])]
      exact ((ih found).cons first).trans (.swap _ _ _)

/-- Cancelling a timeout. -/
theorem consistent_cancel (consistent : Consistent schedule now) (id : Id) :
    Consistent (schedule.cancel id) now := by
  have sublist : (schedule.cancel id).pending.Sublist schedule.pending := eraseP_sublist
  refine ⟨?_, ?_, ?_, ?_, consistent.armings, consistent.expired_lt, ?_⟩
  · exact consistent.distinct.sublist (sublist.map Pending.id)
  · exact consistent.ordered.sublist sublist
  · exact fun entry member => consistent.stamps entry (sublist.mem member)
  · intro entry member
    obtain ⟨arming, onSchedule⟩ := consistent.onSchedule entry (sublist.mem member)
    exact ⟨arming, { onSchedule with }⟩
  · rw [cancel]
    cases found : schedule.pending.find? fun entry => entry.id = id with
    | none =>
      have kept : schedule.pending.eraseP (fun entry => entry.id = id) = schedule.pending :=
        eraseP_of_forall_not (by simpa using List.find?_eq_none.mp found)
      simpa [kept] using consistent.accounted
    | some entry =>
      refine List.Perm.trans ?_ consistent.accounted
      have perm := (perm_eraseP found).map Pending.arming
      simp only [Option.map_some, Option.toList_some, append_assoc]
      refine (List.Perm.append_left _ ?_)
      refine List.Perm.trans ?_ (List.Perm.append_left _ perm.symm)
      rw [map_cons, singleton_append]
      exact perm_middle.symm

omit [DecidableEq Id] in
/-- Expiring the first timeout that is due. -/
theorem consistent_expireNext (consistent : Consistent schedule now) :
    Consistent (schedule.expireNext now) now := by
  rw [expireNext]
  split
  · exact consistent
  rename_i entry rest pendingEq
  split
  swap
  · exact consistent
  rename_i due
  have member : entry ∈ schedule.pending := by simp [pendingEq]
  have inRest : ∀ other ∈ rest, other ∈ schedule.pending := by
    intro other inside
    simp [pendingEq, inside]
  obtain ⟨arming, onSchedule⟩ := consistent.onSchedule entry member
  have inside := (List.getElem?_eq_some_iff.mp onSchedule.armed).1
  have distinct := consistent.distinct
  have ordered := consistent.ordered
  have accounted := consistent.accounted
  rw [pendingEq] at distinct ordered accounted
  rw [map_cons, nodup_cons] at distinct
  rw [pairwise_cons] at ordered
  have others : ∀ other ∈ rest, entry.arming ≠ other.arming := by
    intro other inRestOther same
    obtain ⟨otherArming, otherOn⟩ := consistent.onSchedule other (inRest other inRestOther)
    have armed := otherOn.armed
    rw [← same, onSchedule.armed, Option.some.injEq] at armed
    refine distinct.1 (mem_map.mpr ⟨other, inRestOther, ?_⟩)
    rw [otherOn.id_eq, ← armed, onSchedule.id_eq]
  have oneShot : isOneShot schedule.armings entry.arming = decide (entry.period = 0) := by
    rw [isOneShot, onSchedule.armed, onSchedule.period_eq]
    rfl
  have expired_lt : ∀ number ∈ schedule.expirations ++ [entry.arming],
      number < schedule.armings.length := by
    intro number member
    rcases mem_append.mp member with old | new
    · exact consistent.expired_lt number old
    · rwa [mem_singleton.mp new]
  have restOn : ∀ (changed : Schedule Id), changed.armings = schedule.armings →
      changed.expirations = schedule.expirations ++ [entry.arming] →
      ∀ other ∈ rest, ∃ otherArming, OnSchedule changed now other otherArming := by
    intro changed armingsEq expirationsEq other inRestOther
    obtain ⟨otherArming, otherOn⟩ := consistent.onSchedule other (inRest other inRestOther)
    have counted : changed.expirations.count other.arming =
        schedule.expirations.count other.arming := by
      rw [expirationsEq, count_append, count_singleton,
        if_neg (by simpa using others other inRestOther)]
      rfl
    exact ⟨otherArming, by rw [armingsEq, otherOn.armed], otherOn.id_eq, otherOn.period_eq,
      by rw [counted, otherOn.deadline_eq], by rw [counted]; exact otherOn.late⟩
  by_cases cyclic : 0 < entry.period
  · simp only [if_pos cyclic]
    have perm := StableInsert.insert_perm Pending.deadline
      { entry with deadline := entry.deadline + entry.period, stamp := schedule.nextStamp } rest
    have restStamps : ∀ other ∈ rest, other.stamp < schedule.nextStamp :=
      fun other inRestOther => consistent.stamps other (inRest other inRestOther)
    refine ⟨?_, ordered_insert ordered.2 restStamps rfl, ?_, ?_, consistent.armings, expired_lt, ?_⟩
    · rw [(perm.map Pending.id).nodup_iff]
      exact nodup_cons.mpr distinct
    · intro other inserted
      rcases StableInsert.mem_insert_iff.mp inserted with rfl | old
      · exact Nat.lt_succ_self _
      · exact Nat.lt_succ_of_lt (restStamps other old)
    · intro other inserted
      rcases StableInsert.mem_insert_iff.mp inserted with rfl | old
      · have counted : (schedule.expirations ++ [entry.arming]).count entry.arming =
            schedule.expirations.count entry.arming + 1 := by
          rw [count_append, count_singleton_self]
        refine ⟨arming, onSchedule.armed, onSchedule.id_eq, onSchedule.period_eq, ?_, ?_⟩
        · change entry.deadline + entry.period = _
          rw [counted, Nat.mul_succ, onSchedule.deadline_eq, onSchedule.period_eq]
          omega
        · intro _
          change entry.deadline + entry.period ≤ _
          rw [onSchedule.period_eq]
          omega
      · refine restOn _ ?_ ?_ other old <;> rfl
    · have ended : (schedule.expirations ++ [entry.arming]).filter (isOneShot schedule.armings) =
          schedule.expirations.filter (isOneShot schedule.armings) := by
        rw [filter_append, filter_singleton, oneShot,
          decide_eq_false (by omega), cond_false, append_nil]
      rw [ended]
      exact ((perm.map Pending.arming).append_left _).trans accounted
  · simp only [if_neg cyclic]
    refine ⟨distinct.2, ordered.2, ?_, ?_, consistent.armings, expired_lt, ?_⟩
    · exact fun other inRestOther =>
        Nat.lt_succ_of_lt (consistent.stamps other (inRest other inRestOther))
    · refine restOn _ ?_ ?_ <;> rfl
    · have ended : (schedule.expirations ++ [entry.arming]).filter (isOneShot schedule.armings) =
          schedule.expirations.filter (isOneShot schedule.armings) ++ [entry.arming] := by
        rw [filter_append, filter_singleton, oneShot, decide_eq_true (by omega),
          cond_true]
      rw [ended, append_assoc, append_assoc]
      rw [append_assoc] at accounted
      exact accounted

end Schedule

end OpenBsw
