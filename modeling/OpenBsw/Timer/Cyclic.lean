import OpenBsw.Timer.Deadlines

/-!
# Cyclic timeouts

The next deadline of a cyclic timeout is computed from the last one.  So once
nothing is due any more, the number of its expirations is the number of whole
periods since it was set, however late they were processed.
-/

namespace OpenBsw

variable {Id : Type}

namespace Schedule

variable {schedule : Schedule Id} {now number : Nat} {arming : Arming Id}

/-- A cyclic arming that was not cancelled is pending. -/
theorem Consistent.pending_of_cyclic (consistent : Consistent schedule now)
    (armed : schedule.armings[number]? = some arming) (cyclic : 0 < arming.period)
    (kept : number ∉ schedule.cancellations) :
    ∃ entry ∈ schedule.pending, entry.arming = number := by
  have inside := (List.getElem?_eq_some_iff.mp armed).1
  have accounted := consistent.accounted.mem_iff.mpr (List.mem_range.mpr inside)
  rw [List.mem_append, List.mem_append] at accounted
  rcases accounted with (cancelled | expired) | pending
  · exact absurd cancelled kept
  · have oneShot := (List.mem_filter.mp expired).2
    rw [isOneShot, armed] at oneShot
    have single : arming.period = 0 := of_decide_eq_true oneShot
    omega
  · obtain ⟨entry, member, same⟩ := List.mem_map.mp pending
    exact ⟨entry, member, same⟩

/-- The expirations of a pending cyclic timeout that is not due are the whole
periods since it was set. -/
theorem OnSchedule.expirations_eq {entry : Pending Id}
    (onSchedule : OnSchedule schedule now entry arming) (setAt : arming.setAt ≤ now)
    (delayed : arming.period = arming.delay) (early : now < entry.deadline) :
    schedule.expirations.count entry.arming = (now - arming.setAt) / arming.period ∧
      entry.deadline =
        arming.setAt + arming.period * ((now - arming.setAt) / arming.period + 1) := by
  have deadline : entry.deadline =
      arming.setAt + arming.period * (schedule.expirations.count entry.arming + 1) := by
    rw [onSchedule.deadline_eq, Nat.mul_succ, ← delayed]
    omega
  have counted : schedule.expirations.count entry.arming =
      (now - arming.setAt) / arming.period := by
    symm
    apply Nat.div_eq_of_lt_le
    · rcases Nat.eq_zero_or_pos (schedule.expirations.count entry.arming) with none | some
      · rw [none, Nat.zero_mul]
        exact Nat.zero_le _
      · have late := onSchedule.late some
        rw [deadline, Nat.mul_succ, Nat.mul_comm] at late
        omega
    · rw [Nat.mul_comm]
      omega
  exact ⟨counted, by rw [← counted, deadline]⟩

end Schedule

namespace TimerRun

/-- An arming expired once for each period that is over, and its timeout is in
the list with the end of the current period. -/
structure Ticks (run : TimerRun Id) (now number : Nat) (arming : Arming Id) : Prop where
  callbacks_eq : run.callbacks.map some = run.schedule.expirations.map fun number =>
    run.schedule.armings[number]?.map Arming.id
  expirations_eq :
    run.schedule.expirations.count number = (now - arming.setAt) / arming.period
  next : ∃ entry ∈ run.schedule.pending, entry.arming = number ∧ entry.id = arming.id ∧
    entry.deadline = arming.setAt + arming.period * ((now - arming.setAt) / arming.period + 1) ∧
    entry.wrap ∈ run.timer.timeoutList

/-- Whenever no timeout is due any more, a cyclic timeout that was not cancelled
expired exactly once for each whole period since it was set. -/
theorem cyclic_ticks (Id : Type) [DecidableEq Id] (run : TimerRun Id)
    (reached : (system Id).Reachable run) (now : Nat) (le : run.now ≤ now)
    (allNear : run.AllNear now)
    (nothingDue : (run.timer.processNextTimeout (UInt32.ofNat now)).expired = none)
    (number : Nat) (arming : Arming Id) (armed : run.schedule.armings[number]? = some arming)
    (cyclic : 0 < arming.period) (kept : number ∉ run.schedule.cancellations) :
    Ticks run now number arming := by
  have follows := follows_of_reachable reached
  have consistent := follows.consistent.mono le
  obtain ⟨entry, member, rfl⟩ := consistent.pending_of_cyclic armed cyclic kept
  obtain ⟨found, onSchedule⟩ := consistent.onSchedule entry member
  have same : found = arming := Option.some.inj (onSchedule.armed.symm.trans armed)
  subst same
  have early : now < entry.deadline := by
    by_contra due
    refine (follows.expiresFirst le allNear).complete.mpr ⟨entry, member, ?_⟩ nothingDue
    omega
  have setting := consistent.armings found (List.mem_of_getElem? armed)
  have delayed : found.period = found.delay := by
    rcases setting.2 with single | delayed
    · omega
    · exact delayed
  obtain ⟨counted, deadline⟩ := onSchedule.expirations_eq setting.1 delayed early
  refine ⟨follows.callbacks_eq, counted, entry, member, rfl, onSchedule.id_eq, deadline, ?_⟩
  rw [follows.list_eq]
  exact List.mem_map_of_mem member

/-- The cyclic timeout of the sample expired once in the first 12 ticks. -/
theorem cyclic_ticks_sample :
    Ticks sample (2 ^ 32 + 7) 0 { id := 1, setAt := 2 ^ 32 - 5, delay := 10, period := 10 } :=
  cyclic_ticks Nat sample sample_reachable (2 ^ 32 + 7) (by decide) (by decide) (by decide) 0 _
    (by rfl) (by decide) (by decide)

end TimerRun

end OpenBsw
