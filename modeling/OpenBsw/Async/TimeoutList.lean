import OpenBsw.Async.TaskContext
import OpenBsw.Timer.Deadlines

/-!
# The timeouts of a task context

The times of the timeouts are their deadlines modulo `2^32`.  While the
deadlines are near the times they are compared with, the list is sorted by
deadline, and the ticks computed from its first entry last less than a tick
longer than the time to its deadline.
-/

namespace OpenBsw.Async

variable {Runnable Timeout : Type} {config : Config}

namespace Shared

variable {shared : Shared Runnable Timeout}

/-- The list of timeouts is sorted by deadline, and their times are the deadlines
with the wrap. -/
structure Sorted (shared : Shared Runnable Timeout) : Prop where
  times : ∀ timeout, (shared.timeouts timeout).time = UInt32.ofNat (shared.deadline timeout)
  nodup : shared.timeoutList.Nodup
  sorted : shared.timeoutList.Pairwise fun first second =>
    shared.deadline first ≤ shared.deadline second

/-- A timeout as an entry of a schedule, where only its deadline and its period
matter. -/
def pending (shared : Shared Runnable Timeout) (timeout : Timeout) : Pending Timeout :=
  { id := timeout
    deadline := shared.deadline timeout
    period := (shared.timeouts timeout).cycleTime.toNat
    arming := 0
    stamp := 0 }

theorem Sorted.wrap_pending (sorted : shared.Sorted) (timeout : Timeout) :
    (shared.pending timeout).wrap =
      { id := timeout
        time := (shared.timeouts timeout).time
        cycleTime := (shared.timeouts timeout).cycleTime } := by
  rw [sorted.times, Pending.wrap, pending, UInt32.ofNat_toNat]

theorem Sorted.timeoutList_eq (sorted : shared.Sorted) :
    shared.timer.timeoutList = (shared.timeoutList.map shared.pending).map Pending.wrap := by
  rw [timer, List.map_map]
  exact List.map_congr_left fun timeout _ => (sorted.wrap_pending timeout).symm

/-! ## Insertion -/

variable [DecidableEq Timeout]

/-- Insertion keeps the list sorted, and reports whether the new timeout comes
first. -/
theorem Sorted.insertTimeout (sorted : shared.Sorted) {addition : Addition Timeout}
    (near : ∀ timeout ∈ addition.timeout :: shared.timeoutList,
      Near addition.now (shared.deadline timeout))
    {after : Shared Runnable Timeout} {first : Bool}
    (inserted : shared.insertTimeout addition = some (after, first)) :
    after.Sorted ∧ after.deadline = shared.deadline ∧
      (∀ timeout, timeout ∈ after.timeoutList ↔
        timeout = addition.timeout ∨ timeout ∈ shared.timeoutList) ∧
      (first = true ∨ ∃ other ∈ shared.timeoutList,
        shared.deadline other ≤ shared.deadline addition.timeout) := by
  unfold Shared.insertTimeout at inserted
  split at inserted
  · cases inserted
  · rename_i apart
    let entry := shared.pending addition.timeout
    let entries := shared.timeoutList.map shared.pending
    have wrapped : Timer.insertTimeout (UInt32.ofNat addition.now)
        { id := addition.timeout
          time := (shared.timeouts addition.timeout).time
          cycleTime := (shared.timeouts addition.timeout).cycleTime }
        shared.timer.timeoutList =
        (StableInsert.insert Pending.deadline entry entries).map Pending.wrap := by
      rw [sorted.timeoutList_eq, ← sorted.wrap_pending]
      refine Timer.insertTimeout_wrap entry ?_ (near _ List.mem_cons_self)
      intro other member
      obtain ⟨timeout, inside, rfl⟩ := List.mem_map.mp member
      exact near timeout (List.mem_cons_of_mem _ inside)
    have ids : ((StableInsert.insert Pending.deadline entry entries).map Pending.wrap).map
        (fun entry => entry.id) =
        StableInsert.insert shared.deadline addition.timeout shared.timeoutList := by
      rw [List.map_map]
      have moved : StableInsert.insert Pending.deadline entry entries =
          (StableInsert.insert shared.deadline addition.timeout shared.timeoutList).map
            shared.pending := by
        symm
        apply StableInsert.map_insert
        intro other _
        exact Iff.rfl
      rw [moved, List.map_map]
      exact List.map_id _
    simp only [wrapped, ids] at inserted
    cases inserted
    have perm := StableInsert.insert_perm shared.deadline addition.timeout shared.timeoutList
    refine ⟨⟨sorted.times, ?_, ?_⟩, rfl, fun timeout => StableInsert.mem_insert_iff, ?_⟩
    · exact perm.nodup_iff.mpr (List.nodup_cons.mpr ⟨apart, sorted.nodup⟩)
    · exact StableInsert.pairwise_insert sorted.sorted sorted.sorted
        (fun _ _ before => before) fun _ _ behind => Nat.le_of_lt behind
    · rcases StableInsert.insert_cases addition.timeout sorted.sorted with
        ⟨_, insertEq⟩ | ⟨current, rest, list, le, _⟩
      · left
        rw [insertEq]
        exact decide_eq_true rfl
      · right
        rw [list]
        exact ⟨current, List.mem_cons_self, le⟩

/-- Setting the times of a timeout that is not linked. -/
theorem Sorted.setTimes (sorted : shared.Sorted) {addition : Addition Timeout}
    (apart : addition.timeout ∉ shared.timeoutList)
    (wraps : addition.absoluteTimeout = UInt32.ofNat addition.deadline) :
    (shared.setTimes addition).Sorted ∧
      ∀ timeout ∈ shared.timeoutList,
        (shared.setTimes addition).deadline timeout = shared.deadline timeout := by
  have kept : ∀ timeout ∈ shared.timeoutList,
      (shared.setTimes addition).deadline timeout = shared.deadline timeout := by
    intro timeout member
    rw [Shared.setTimes]
    apply Function.update_of_ne
    rintro rfl
    exact apart member
  refine ⟨⟨?_, sorted.nodup, ?_⟩, kept⟩
  · intro timeout
    by_cases same : timeout = addition.timeout
    · subst same
      simp [Shared.setTimes, wraps]
    · simp [Shared.setTimes, Function.update_of_ne same, sorted.times]
  · refine sorted.sorted.imp_of_mem ?_
    intro first second firstInside secondInside le
    rw [kept first firstInside, kept second secondInside]
    exact le

/-! ## The ticks to wait -/

omit [DecidableEq Timeout] in
/-- The delta of the first timeout, as a number without a wrap. -/
theorem Sorted.getNextDelta (sorted : shared.Sorted) {timeout : Timeout} {rest : List Timeout}
    (list : shared.timeoutList = timeout :: rest) {now : Nat}
    (near : Near now (shared.deadline timeout)) :
    (shared.timer.getNextDelta (UInt32.ofNat now)).1 = true ∧
      (shared.timer.getNextDelta (UInt32.ofNat now)).2.toNat = shared.deadline timeout - now := by
  have difference := Timer.diff_ofNat near
  obtain ⟨small, notLate⟩ := near
  simp only [Timer.getNextDelta, timer, list, List.map_cons, sorted.times, difference]
  split
  · exact ⟨rfl, by simp only [UInt32.toNat_zero]; omega⟩
  · refine ⟨rfl, ?_⟩
    rw [UInt32.toNat_sub, UInt32.toNat_ofNat', UInt32.toNat_ofNat']
    omega

end Shared

namespace Phase

/-- The ticks last less than one tick longer than the time to the deadline. -/
theorem computeWait_lt (config : Config) (now : Nat) {result : Bool × UInt32} {rest : Nat}
    (hasDelta : result.1 = true) (delta : result.2.toNat = rest) (small : rest < 2 ^ 31) :
    (computeWait config now result).ticks.toNat * config.tickInUs.toNat <
      rest + config.tickInUs.toNat := by
  have positive := config.tick_pos
  have bounded := config.tick_le
  have sum : (result.2 + (config.tickInUs - 1)).toNat = rest + (config.tickInUs.toNat - 1) := by
    have one : (1 : UInt32) ≤ config.tickInUs := by
      rw [UInt32.le_iff_toNat_le]
      exact positive
    rw [UInt32.toNat_add, UInt32.toNat_sub_of_le _ _ one, delta, UInt32.toNat_one]
    omega
  simp only [computeWait, hasDelta, if_true]
  rw [UInt32.toNat_div, sum]
  have product := Nat.div_mul_le_self (rest + (config.tickInUs.toNat - 1)) config.tickInUs.toNat
  omega

end Phase

end OpenBsw.Async
