import OpenBsw.Timer.Core
import OpenBsw.Timer.Schedule
import OpenBsw.Transition.System

/-!
# The timer follows its schedule

The list of the timer holds the pending timeouts of a schedule with their times
taken modulo `2^32`.  As long as all deadlines lie within less than `2^31` of
the current time, the signed differences order them as the deadlines do, so
every call has the effect it has on the schedule.
-/

namespace OpenBsw

open List Option

variable {Id : Type}

/-! ## Wrapped times -/

/-- A deadline that a 32-bit time can tell apart from the current time. -/
def Near (now deadline : Nat) : Prop :=
  deadline < now + 2 ^ 31 ∧ now < deadline + 2 ^ 31

instance (now deadline : Nat) : Decidable (Near now deadline) :=
  inferInstanceAs (Decidable (_ ∧ _))

/-- The list entry of a pending timeout. -/
def Pending.wrap (entry : Pending Id) : Timeout Id :=
  { id := entry.id
    time := UInt32.ofNat entry.deadline
    cycleTime := UInt32.ofNat entry.period }

namespace Timer

theorem diff_ofNat {now deadline : Nat} (near : Near now deadline) :
    diff (UInt32.ofNat deadline) (UInt32.ofNat now) = (deadline : Int) - now := by
  have difference : diff (UInt32.ofNat deadline) (UInt32.ofNat now) =
      ((deadline : Int) - now).bmod (2 ^ 32) := by
    change (BitVec.ofNat 32 deadline - BitVec.ofNat 32 now).toInt = _
    rw [BitVec.toInt_sub, BitVec.toInt_ofNat', BitVec.toInt_ofNat', Int.bmod_sub_bmod,
      Int.sub_bmod_bmod]
  rw [difference]
  rw [Near] at near
  exact Int.bmod_eq_of_le (by omega) (by omega)

theorem insertTimeout_eq (now : UInt32) (timeout : Timeout Id) (timeouts : List (Timeout Id)) :
    insertTimeout now timeout timeouts =
      StableInsert.insert (fun other => diff other.time now) timeout timeouts := by
  induction timeouts with
  | nil => rfl
  | cons current rest ih => rw [insertTimeout, StableInsert.insert, ih]

/-- Insertion among near deadlines is insertion by deadline. -/
theorem insertTimeout_wrap {now : Nat} (entry : Pending Id) {pending : List (Pending Id)}
    (near : ∀ other ∈ pending, Near now other.deadline) (entryNear : Near now entry.deadline) :
    insertTimeout (UInt32.ofNat now) entry.wrap (pending.map Pending.wrap) =
      (StableInsert.insert Pending.deadline entry pending).map Pending.wrap := by
  rw [insertTimeout_eq]
  symm
  apply StableInsert.map_insert
  intro other member
  simp only [Pending.wrap]
  rw [diff_ofNat entryNear, diff_ofNat (near other member)]
  omega

end Timer

/-! ## Runs -/

inductive TimerCall (Id : Type)
  | set (id : Id) (delay : UInt32)
  | setCyclic (id : Id) (period : UInt32)
  | cancel (id : Id)
  | processNextTimeout

/-- A timer, the callbacks it ran, the schedule of the calls it got, and the time
of the last one, counted without a wrap. -/
structure TimerRun (Id : Type) where
  timer : Timer Id
  callbacks : List Id
  schedule : Schedule Id
  now : Nat

namespace TimerRun

variable [DecidableEq Id]

/-- One call at a time. -/
def apply (run : TimerRun Id) (now : Nat) : TimerCall Id → TimerRun Id
  | .set id delay =>
    { run with
      timer := (run.timer.set id delay (UInt32.ofNat now)).1
      schedule := run.schedule.arm id delay.toNat 0 now
      now }
  | .setCyclic id period =>
    { run with
      timer := (run.timer.setCyclic id period (UInt32.ofNat now)).1
      schedule := run.schedule.arm id period.toNat period.toNat now
      now }
  | .cancel id =>
    { run with timer := run.timer.cancel id, schedule := run.schedule.cancel id, now }
  | .processNextTimeout =>
    { timer := (run.timer.processNextTimeout (UInt32.ofNat now)).timer
      callbacks := run.callbacks ++
        (run.timer.processNextTimeout (UInt32.ofNat now)).expired.toList
      schedule := run.schedule.expireNext now
      now }

omit [DecidableEq Id] in
/-- All pending deadlines lie within less than `2^31` of a time. -/
def AllNear (run : TimerRun Id) (now : Nat) : Prop :=
  ∀ entry ∈ run.schedule.pending, Near now entry.deadline

omit [DecidableEq Id] in
instance (run : TimerRun Id) (now : Nat) : Decidable (run.AllNear now) :=
  inferInstanceAs (Decidable (∀ entry ∈ run.schedule.pending, Near now entry.deadline))

/-- The deadline a call adds, if it adds one, is near as well. -/
def AddsNear (run : TimerRun Id) : TimerCall Id → Prop
  | .set id delay | .setCyclic id delay =>
    run.schedule.isPending id = false → delay.toNat < 2 ^ 31
  | .cancel _ | .processNextTimeout => True

/-- Any calls at times that never go back, with all deadlines near. -/
def system (Id : Type) [DecidableEq Id] :
    Transition.System (TimerRun Id) (Nat × TimerCall Id) where
  Initial run := run.timer.timeoutList = [] ∧ run.callbacks = [] ∧ run.schedule = .empty
  Step source event target :=
    source.now ≤ event.1 ∧ source.AllNear event.1 ∧ source.AddsNear event.2 ∧
      target = source.apply event.1 event.2

/-- The timer holds the pending timeouts of its schedule, and ran one callback
for each expiration. -/
structure Follows (run : TimerRun Id) : Prop where
  list_eq : run.timer.timeoutList = run.schedule.pending.map Pending.wrap
  consistent : run.schedule.Consistent run.now
  periods : ∀ entry ∈ run.schedule.pending, entry.period < 2 ^ 31
  callbacks_eq : run.callbacks.map some = run.schedule.expirations.map fun number =>
    run.schedule.armings[number]?.map Arming.id

variable {run : TimerRun Id} {now : Nat}

theorem isActive_eq (follows : Follows run) (id : Id) :
    run.timer.isActive id = run.schedule.isPending id := by
  rw [Timer.isActive, follows.list_eq, List.any_map]
  rfl

/-- Adding a timeout arms it, and the result tells whether it comes first. -/
theorem addTimeout_follows (follows : Follows run) (le : run.now ≤ now)
    (allNear : run.AllNear now) (id : Id) (delay period : Nat)
    (cyclic : period = 0 ∨ period = delay)
    (near : run.schedule.isPending id = false → delay < 2 ^ 31) :
    Follows
        { run with
          timer := (run.timer.addTimeout id (UInt32.ofNat (now + delay)) (UInt32.ofNat period)
            (UInt32.ofNat now)).1
          schedule := run.schedule.arm id delay period now
          now } ∧
      ((run.timer.addTimeout id (UInt32.ofNat (now + delay)) (UInt32.ofNat period)
          (UInt32.ofNat now)).2 = true ↔
        run.schedule.isPending id = false ∧
          ∀ other ∈ run.schedule.pending, now + delay < other.deadline) := by
  have consistent := follows.consistent.mono le
  have armed := Schedule.consistent_arm consistent id delay period cyclic
  rw [Timer.addTimeout, isActive_eq follows id]
  cases pending : run.schedule.isPending id with
  | true =>
    rw [if_pos rfl]
    have kept : run.schedule.arm id delay period now = run.schedule := by
      rw [Schedule.arm, pending, if_pos rfl]
    rw [kept] at armed ⊢
    exact ⟨⟨follows.list_eq, armed, follows.periods, follows.callbacks_eq⟩, by simp⟩
  | false =>
    have entryNear : Near now (now + delay) := by
      have bound := near pending
      rw [Near]
      omega
    let entry : Pending Id :=
      { id, deadline := now + delay, period, arming := run.schedule.armings.length
        stamp := run.schedule.nextStamp }
    have inserted : Timer.insertTimeout (UInt32.ofNat now)
        { id, time := UInt32.ofNat (now + delay), cycleTime := UInt32.ofNat period }
        (run.schedule.pending.map Pending.wrap) =
        (StableInsert.insert Pending.deadline entry run.schedule.pending).map Pending.wrap :=
      Timer.insertTimeout_wrap entry allNear entryNear
    rw [if_neg (by simp), follows.list_eq, inserted]
    have armedEq : (run.schedule.arm id delay period now).pending =
        StableInsert.insert Pending.deadline entry run.schedule.pending := by
      simp only [Schedule.arm, pending, Bool.false_eq_true, if_false]
      rfl
    refine ⟨⟨?_, armed, ?_, ?_⟩, ?_⟩
    · rw [armedEq]
    · rw [armedEq]
      intro other member
      rcases StableInsert.mem_insert_iff.mp member with rfl | old
      · have bound := near pending
        change period < 2 ^ 31
        omega
      · exact follows.periods other old
    · simp only [Schedule.arm, pending, Bool.false_eq_true, if_false]
      rw [follows.callbacks_eq]
      refine map_congr_left fun number member => ?_
      rw [List.getElem?_append_left (consistent.expired_lt number member)]
    · simp only [decide_eq_true_eq, true_and]
      rcases StableInsert.insert_cases entry follows.consistent.sorted with
        ⟨first, insertEq⟩ | ⟨current, rest, pendingEq, le, insertEq⟩
      · rw [insertEq]
        exact iff_of_true rfl first
      · rw [insertEq]
        refine iff_of_false ?_ fun first => ?_
        · intro same
          have isPending : run.schedule.isPending id = true := by
            rw [Schedule.isPending, List.any_eq_true]
            exact ⟨current, by simp [pendingEq], by simpa [Pending.wrap] using same⟩
          rw [pending] at isPending
          cases isPending
        · exact absurd (first current (by simp [pendingEq])) (Nat.not_lt.mpr le)

theorem set_follows (follows : Follows run) (le : run.now ≤ now) (allNear : run.AllNear now)
    (id : Id) (delay : UInt32) (near : run.AddsNear (.set id delay)) :
    Follows (run.apply now (.set id delay)) ∧
      ((run.timer.set id delay (UInt32.ofNat now)).2 = true ↔
        run.schedule.isPending id = false ∧
          ∀ other ∈ run.schedule.pending, now + delay.toNat < other.deadline) := by
  have sum : delay + UInt32.ofNat now = UInt32.ofNat (now + delay.toNat) := by
    rw [UInt32.ofNat_add, UInt32.ofNat_toNat, UInt32.add_comm]
  have result := addTimeout_follows follows le allNear id delay.toNat 0 (.inl rfl) near
  rw [← sum] at result
  exact result

theorem setCyclic_follows (follows : Follows run) (le : run.now ≤ now) (allNear : run.AllNear now)
    (id : Id) (period : UInt32) (near : run.AddsNear (.setCyclic id period)) :
    Follows (run.apply now (.setCyclic id period)) ∧
      ((run.timer.setCyclic id period (UInt32.ofNat now)).2 = true ↔
        run.schedule.isPending id = false ∧
          ∀ other ∈ run.schedule.pending, now + period.toNat < other.deadline) := by
  have sum : period + UInt32.ofNat now = UInt32.ofNat (now + period.toNat) := by
    rw [UInt32.ofNat_add, UInt32.ofNat_toNat, UInt32.add_comm]
  have result := addTimeout_follows follows le allNear id period.toNat period.toNat
    (.inr rfl) near
  rw [← sum, UInt32.ofNat_toNat] at result
  exact result

theorem cancel_follows (follows : Follows run) (le : run.now ≤ now) (id : Id) :
    Follows (run.apply now (.cancel id)) where
  list_eq := by
    have erased : (run.schedule.pending.map Pending.wrap).eraseP (fun timeout => timeout.id = id) =
        (run.schedule.pending.eraseP fun entry => entry.id = id).map Pending.wrap := by
      rw [eraseP_map]
      rfl
    simp only [apply, Timer.cancel, isActive_eq follows id]
    cases pending : run.schedule.isPending id with
    | true =>
      rw [if_pos rfl, follows.list_eq, erased]
      rfl
    | false =>
      change _ = (run.schedule.pending.eraseP fun entry => entry.id = id).map Pending.wrap
      rw [if_neg (by simp), follows.list_eq, ← erased, eraseP_of_forall_not]
      intro timeout member
      obtain ⟨entry, inside, rfl⟩ := List.mem_map.mp member
      rw [Schedule.isPending, List.any_eq_false] at pending
      exact pending entry inside
  consistent := Schedule.consistent_cancel (follows.consistent.mono le) id
  periods entry member := follows.periods entry (mem_of_mem_eraseP member)
  callbacks_eq := follows.callbacks_eq

/-- Processing expires the first pending timeout exactly when it is due. -/
theorem processNextTimeout_follows (follows : Follows run) (le : run.now ≤ now)
    (allNear : run.AllNear now) :
    Follows (run.apply now .processNextTimeout) ∧
      (run.timer.processNextTimeout (UInt32.ofNat now)).expired =
        (run.schedule.pending.head?.filter fun entry => entry.deadline ≤ now).map Pending.id := by
  have consistent := follows.consistent.mono le
  have expired := Schedule.consistent_expireNext consistent
  have list_eq := follows.list_eq
  cases pendingEq : run.schedule.pending with
  | nil =>
    rw [pendingEq, map_nil] at list_eq
    have kept : run.schedule.expireNext now = run.schedule := by
      rw [Schedule.expireNext, pendingEq]
    rw [kept] at expired
    refine ⟨⟨?_, ?_, ?_, ?_⟩, ?_⟩
    · simp only [apply, kept, Timer.processNextTimeout, list_eq, pendingEq, map_nil]
    · simpa only [apply, kept] using expired
    · simpa only [apply, kept] using follows.periods
    · simpa only [apply, kept, Timer.processNextTimeout, list_eq, toList_none,
        append_nil] using follows.callbacks_eq
    · simp only [Timer.processNextTimeout, list_eq]
      rfl
  | cons entry rest =>
    rw [pendingEq, map_cons] at list_eq
    have member : entry ∈ run.schedule.pending := by simp [pendingEq]
    have entryNear := allNear entry member
    have small := follows.periods entry member
    have difference : Timer.diff entry.wrap.time (UInt32.ofNat now) =
        (entry.deadline : Int) - now := Timer.diff_ofNat entryNear
    have restNear : ∀ other ∈ rest, Near now other.deadline := fun other inRest =>
      allNear other (by simp [pendingEq, inRest])
    by_cases due : entry.deadline ≤ now
    · have overdue : (entry.deadline : Int) - now ≤ 0 := by omega
      simp only [apply, Timer.processNextTimeout, list_eq, difference, if_pos overdue,
        List.head?_cons, filter_some, due, decide_true, if_true, map_some]
      refine ⟨?_, rfl⟩
      have expiredEq : (run.schedule.expireNext now).pending =
          if 0 < entry.period then
            StableInsert.insert Pending.deadline
              { entry with
                deadline := entry.deadline + entry.period
                stamp := run.schedule.nextStamp } rest
          else rest := by
        simp only [Schedule.expireNext, pendingEq, if_pos due]
      have restPeriods : ∀ other ∈ rest, other.period < 2 ^ 31 := fun other inRest =>
        follows.periods other (by simp [pendingEq, inRest])
      have positive : 0 < entry.wrap.cycleTime ↔ 0 < entry.period := by
        rw [UInt32.lt_iff_toNat_lt]
        simp only [Pending.wrap, UInt32.toNat_ofNat', UInt32.toNat_zero]
        omega
      refine ⟨?_, expired, ?_, ?_⟩
      · rw [expiredEq]
        simp only [Timer.rescheduleCyclicTimeout, positive]
        split
        · have inactive : Timer.isActive { timeoutList := rest.map Pending.wrap } entry.id =
              false := by
            have distinct := follows.consistent.distinct
            rw [pendingEq, map_cons, nodup_cons] at distinct
            rw [Timer.isActive, List.any_map, List.any_eq_false]
            intro other inRest same
            exact distinct.1 (List.mem_map.mpr ⟨other, inRest, of_decide_eq_true same⟩)
          have sum : entry.wrap.cycleTime + entry.wrap.time =
              UInt32.ofNat (entry.deadline + entry.period) := by
            rw [UInt32.ofNat_add, UInt32.add_comm]
            rfl
          have laterNear : Near now (entry.deadline + entry.period) := by
            rw [Near] at entryNear ⊢
            omega
          rw [Timer.addTimeout, show entry.wrap.id = entry.id from rfl, inactive, if_neg (by simp),
            sum]
          exact Timer.insertTimeout_wrap
            { entry with
              deadline := entry.deadline + entry.period, stamp := run.schedule.nextStamp }
            restNear laterNear
        · rfl
      · rw [expiredEq]
        intro other inside
        split at inside
        · rcases StableInsert.mem_insert_iff.mp inside with rfl | old
          · exact small
          · exact restPeriods other old
        · exact restPeriods other inside
      · obtain ⟨arming, onSchedule⟩ := consistent.onSchedule entry member
        simp only [Schedule.expireNext, pendingEq, if_pos due, map_append,
          follows.callbacks_eq, toList_some, map_cons, map_nil,
          onSchedule.armed, map_some, ← onSchedule.id_eq]
        rfl
    · have kept : run.schedule.expireNext now = run.schedule := by
        simp only [Schedule.expireNext, pendingEq, if_neg due]
      rw [kept] at expired
      have early : ¬(entry.deadline : Int) - now ≤ 0 := by omega
      refine ⟨⟨?_, ?_, ?_, ?_⟩, ?_⟩
      · simp only [apply, kept, Timer.processNextTimeout, list_eq, difference, if_neg early,
          pendingEq, map_cons]
      · simpa only [apply, kept] using expired
      · simpa only [apply, kept] using follows.periods
      · simpa only [apply, kept, Timer.processNextTimeout, list_eq, difference, if_neg early,
          toList_none, append_nil] using follows.callbacks_eq
      · simp only [Timer.processNextTimeout, list_eq, difference, if_neg early, List.head?_cons,
          filter_some, due, decide_false, Bool.false_eq_true, if_false, map_none]

/-- In every run the timer follows its schedule. -/
theorem follows_of_reachable {run : TimerRun Id} (reached : (system Id).Reachable run) :
    Follows run := by
  refine Transition.System.Inductive.of_reachable ⟨?_, ?_⟩ reached
  · rintro state ⟨list_eq, callbacks, schedule⟩
    refine ⟨?_, ?_, ?_, ?_⟩
    · rw [list_eq, schedule]
      rfl
    · rw [schedule]
      exact Schedule.consistent_empty state.now
    · simp [schedule, Schedule.empty]
    · simp [callbacks, schedule, Schedule.empty]
  · rintro source ⟨now, call⟩ target follows ⟨le, allNear, addsNear, rfl⟩
    cases call with
    | set id delay => exact (set_follows follows le allNear id delay addsNear).1
    | setCyclic id period => exact (setCyclic_follows follows le allNear id period addsNear).1
    | cancel id => exact cancel_follows follows le id
    | processNextTimeout => exact (processNextTimeout_follows follows le allNear).1

/-! ## Order and expiration -/

/-- The list is sorted by the differences to the current time; timeouts with
the same deadline stand in the order of their insertion. -/
structure Sorted (run : TimerRun Id) (now : Nat) : Prop where
  list_eq : run.timer.timeoutList = run.schedule.pending.map Pending.wrap
  ordered : run.schedule.pending.Pairwise Schedule.Before
  differences : run.timer.timeoutList.Pairwise fun first second =>
    Timer.diff first.time (UInt32.ofNat now) ≤ Timer.diff second.time (UInt32.ofNat now)

/-- Processing expires the first of the timeouts that are due, if there is one. -/
structure ExpiresFirst (run : TimerRun Id) (now : Nat) : Prop where
  sound : ∀ id, (run.timer.processNextTimeout (UInt32.ofNat now)).expired = some id →
    ∃ entry ∈ run.schedule.pending, entry.id = id ∧ entry.deadline ≤ now ∧
      (∀ other ∈ run.schedule.pending, other = entry ∨ Schedule.Before entry other) ∧
      (run.apply now .processNextTimeout).schedule.expirations =
        run.schedule.expirations ++ [entry.arming]
  complete : (run.timer.processNextTimeout (UInt32.ofNat now)).expired ≠ none ↔
    ∃ entry ∈ run.schedule.pending, entry.deadline ≤ now

/-- Setting a timeout tells whether it became the next to expire, and leaves one
that is pending alone. -/
structure SetsNext (run : TimerRun Id) (now : Nat) : Prop where
  set : ∀ id delay, run.AddsNear (.set id delay) →
    ((run.timer.set id delay (UInt32.ofNat now)).2 = true ↔
      run.schedule.isPending id = false ∧
        ∀ other ∈ run.schedule.pending, now + delay.toNat < other.deadline)
  setCyclic : ∀ id period, run.AddsNear (.setCyclic id period) →
    ((run.timer.setCyclic id period (UInt32.ofNat now)).2 = true ↔
      run.schedule.isPending id = false ∧
        ∀ other ∈ run.schedule.pending, now + period.toNat < other.deadline)
  pending : ∀ id, run.schedule.isPending id = true → ∀ time : UInt32,
    run.timer.set id time (UInt32.ofNat now) = (run.timer, false) ∧
      run.timer.setCyclic id time (UInt32.ofNat now) = (run.timer, false)

/-- Every arming for a single expiration is pending, or it was cancelled, or it
expired: exactly one of them, and once. -/
def OncePerSet (run : TimerRun Id) : Prop :=
  ∀ (number : Nat) (arming : Arming Id), run.schedule.armings[number]? = some arming →
    arming.period = 0 →
    run.schedule.cancellations.count number + run.schedule.expirations.count number +
      (run.schedule.pending.map Pending.arming).count number = 1

/-- The next delta is the time to the earliest deadline, or zero when it is
over. -/
structure NextDelta (run : TimerRun Id) (now : Nat) : Prop where
  result : (run.timer.getNextDelta (UInt32.ofNat now)).1 = true ↔ run.schedule.pending ≠ []
  delta : ∀ entry ∈ run.schedule.pending,
    (∀ other ∈ run.schedule.pending, entry.deadline ≤ other.deadline) →
    (run.timer.getNextDelta (UInt32.ofNat now)).2 = UInt32.ofNat (entry.deadline - now)

omit [DecidableEq Id] in
theorem Follows.sorted (follows : Follows run) (allNear : run.AllNear now) : Sorted run now where
  list_eq := follows.list_eq
  ordered := follows.consistent.ordered
  differences := by
    rw [follows.list_eq, pairwise_map]
    refine follows.consistent.sorted.imp_of_mem fun {first second} firstIn secondIn le => ?_
    rw [Pending.wrap, Pending.wrap, Timer.diff_ofNat (allNear first firstIn),
      Timer.diff_ofNat (allNear second secondIn)]
    omega

theorem Follows.expiresFirst (follows : Follows run) (le : run.now ≤ now)
    (allNear : run.AllNear now) : ExpiresFirst run now := by
  have expired := (processNextTimeout_follows follows le allNear).2
  have ordered := follows.consistent.ordered
  constructor
  · intro id expiredId
    rw [expired] at expiredId
    cases pendingEq : run.schedule.pending with
    | nil =>
      rw [pendingEq] at expiredId
      cases expiredId
    | cons entry rest =>
      rw [pendingEq, List.head?_cons, filter_some] at expiredId
      rw [pendingEq, pairwise_cons] at ordered
      by_cases due : entry.deadline ≤ now
      · rw [if_pos (by simpa using due), map_some, Option.some.injEq] at expiredId
        refine ⟨entry, mem_cons_self, expiredId, due, ?_, ?_⟩
        · intro other member
          rcases mem_cons.mp member with same | inRest
          · exact .inl same
          · exact .inr (ordered.1 other inRest)
        · simp only [apply, Schedule.expireNext, pendingEq, if_pos due]
      · rw [if_neg (by simpa using due)] at expiredId
        cases expiredId
  · rw [expired]
    have sorted := follows.consistent.sorted
    cases pendingEq : run.schedule.pending with
    | nil => simp
    | cons entry rest =>
      rw [pendingEq, pairwise_cons] at sorted
      rw [List.head?_cons, filter_some]
      by_cases due : entry.deadline ≤ now
      · rw [if_pos (by simpa using due)]
        exact iff_of_true (by simp) ⟨entry, mem_cons_self, due⟩
      · rw [if_neg (by simpa using due)]
        refine iff_of_false (by simp) ?_
        rintro ⟨other, member, otherDue⟩
        rcases mem_cons.mp member with rfl | inRest
        · exact due otherDue
        · exact due (Nat.le_trans (sorted.1 other inRest) otherDue)

theorem Follows.setsNext (follows : Follows run) (le : run.now ≤ now)
    (allNear : run.AllNear now) : SetsNext run now where
  set id delay near := (set_follows follows le allNear id delay near).2
  setCyclic id period near := (setCyclic_follows follows le allNear id period near).2
  pending id isPending time := by
    simp only [Timer.set, Timer.setCyclic, Timer.addTimeout, isActive_eq follows id, isPending,
      if_true, and_self]

omit [DecidableEq Id] in
theorem Follows.oncePerSet (follows : Follows run) : OncePerSet run := by
  intro number arming armed single
  have inside := (List.getElem?_eq_some_iff.mp armed).1
  have oneShot : Schedule.isOneShot run.schedule.armings number = true := by
    rw [Schedule.isOneShot, armed]
    exact decide_eq_true single
  have counted := follows.consistent.accounted.count_eq number
  rw [count_append, count_append, count_filter oneShot] at counted
  rw [counted, count_eq_one_of_mem nodup_range (mem_range.mpr inside)]

omit [DecidableEq Id] in
theorem Follows.nextDelta (follows : Follows run) (allNear : run.AllNear now) :
    NextDelta run now := by
  have list_eq := follows.list_eq
  have sorted := follows.consistent.sorted
  cases pendingEq : run.schedule.pending with
  | nil =>
    rw [pendingEq, map_nil] at list_eq
    constructor <;> simp [Timer.getNextDelta, list_eq, pendingEq]
  | cons first rest =>
    rw [pendingEq, map_cons] at list_eq
    rw [pendingEq, pairwise_cons] at sorted
    have difference : Timer.diff first.wrap.time (UInt32.ofNat now) =
        (first.deadline : Int) - now := Timer.diff_ofNat (allNear first (by simp [pendingEq]))
    have delta : run.timer.getNextDelta (UInt32.ofNat now) =
        (true, UInt32.ofNat (first.deadline - now)) := by
      simp only [Timer.getNextDelta, list_eq, difference]
      by_cases elapsed : (first.deadline : Int) - now < 0
      · rw [if_pos elapsed, Nat.sub_eq_zero_of_le (by omega)]
        rfl
      · rw [if_neg elapsed]
        refine Prod.ext rfl ?_
        change UInt32.ofNat first.deadline - UInt32.ofNat now = _
        rw [UInt32.ofNat_sub (by omega)]
    constructor
    · rw [delta]
      simp [pendingEq]
    · intro entry member least
      rw [delta]
      rw [pendingEq] at member least
      have le := least first mem_cons_self
      rcases mem_cons.mp member with rfl | inRest
      · rfl
      · rw [Nat.le_antisymm le (sorted.1 entry inRest)]

/-- In every run with near deadlines the list is sorted, processing expires the
first timeout that is due, setting tells whether a timeout is the next one,
every timeout set for a single expiration expires once unless it is cancelled,
and the next delta leads to the earliest deadline. -/
theorem timer_firesWhenDue (Id : Type) [DecidableEq Id] (run : TimerRun Id)
    (reached : (system Id).Reachable run) :
    OncePerSet run ∧
      ∀ now, run.now ≤ now → run.AllNear now →
        Sorted run now ∧ ExpiresFirst run now ∧ SetsNext run now ∧ NextDelta run now := by
  have follows := follows_of_reachable reached
  exact ⟨follows.oncePerSet, fun _ le allNear => ⟨follows.sorted allNear,
    follows.expiresFirst le allNear, follows.setsNext le allNear, follows.nextDelta allNear⟩⟩

/-! ## A sample run -/

/-- A new timer shortly before the clock wraps. -/
def sampleStart : TimerRun Nat :=
  { timer := { timeoutList := [] }, callbacks := [], schedule := .empty, now := 2 ^ 32 - 5 }

/-- A cyclic timeout and a single one, processed after the wrap. -/
def sample : TimerRun Nat :=
  ((sampleStart.apply (2 ^ 32 - 5) (.setCyclic 1 10)).apply (2 ^ 32 - 5) (.set 2 20)).apply
    (2 ^ 32 + 7) .processNextTimeout

theorem reachable_apply (reached : (system Id).Reachable run) (call : TimerCall Id)
    (le : run.now ≤ now) (allNear : run.AllNear now) (addsNear : run.AddsNear call) :
    (system Id).Reachable (run.apply now call) :=
  @Transition.System.Reachable.step _ _ _ _ _ (now, call) reached ⟨le, allNear, addsNear, rfl⟩

theorem sample_reachable : (system Nat).Reachable sample := by
  have start : (system Nat).Reachable sampleStart := .initial ⟨rfl, rfl, rfl⟩
  have cyclic := reachable_apply start (.setCyclic 1 10) (Nat.le_refl _) (by decide)
    (fun _ => by decide)
  have single := reachable_apply cyclic (.set 2 20) (Nat.le_refl _) (by decide)
    (fun _ => by decide)
  exact reachable_apply single .processNextTimeout (by decide) (by decide) trivial

theorem timer_firesWhenDue_sample : sample.callbacks = [1] ∧ OncePerSet sample :=
  ⟨by decide, (timer_firesWhenDue Nat sample sample_reachable).1⟩

end TimerRun

end OpenBsw
