import OpenBsw.Async.Execution
import OpenBsw.Async.TimeoutList

/-!
# The end of a wait

Scheduling a timeout tests whether it is linked, sets its times and inserts it
in separate steps.  When no two parties add the same timeout at once, and the
deadlines are near the times they are compared with, the list of timeouts stays
sorted, and a wait covers the earliest deadline unless the timer event is set or
about to be set.
-/

namespace OpenBsw.Async

open Function

variable {Runnable Timeout Caller : Type} {config : Config}

/-! ## Adding one at a time -/

/-- No two actors add the same item, and nobody adds one that is in the list. -/
structure Exclusive {Actor Item : Type} (adding : Actor → Option Item) (items : List Item) :
    Prop where
  apart : ∀ actor item, adding actor = some item → item ∉ items
  alone : ∀ first second item, adding first = some item → adding second = some item →
    first = second

namespace Exclusive

variable {Actor Item : Type} [DecidableEq Actor] {adding : Actor → Option Item}
  {items left : List Item} {actor : Actor} {item : Item}

omit [DecidableEq Actor] in
theorem subset (exclusive : Exclusive adding items) (fewer : left ⊆ items) :
    Exclusive adding left where
  apart actor item adds member := exclusive.apart actor item adds (fewer member)
  alone := exclusive.alone

/-- An actor stops adding. -/
theorem clear (exclusive : Exclusive adding items) (actor : Actor) :
    Exclusive (update adding actor none) items where
  apart other item adds := by
    by_cases same : other = actor
    · subst same
      simp at adds
    · exact exclusive.apart other item (by rwa [update_of_ne same] at adds)
  alone first second item firstAdds secondAdds := by
    by_cases firstSame : first = actor
    · subst firstSame
      simp at firstAdds
    · by_cases secondSame : second = actor
      · subst secondSame
        simp at secondAdds
      · rw [update_of_ne firstSame] at firstAdds
        rw [update_of_ne secondSame] at secondAdds
        exact exclusive.alone first second item firstAdds secondAdds

/-- An actor starts to add an item that is not in the list and that nobody else
adds. -/
theorem start (exclusive : Exclusive adding items) (apart : item ∉ items)
    (alone : ∀ other, adding other ≠ some item) :
    Exclusive (update adding actor (some item)) items := by
  have adds_iff : ∀ other added, update adding actor (some item) other = some added →
      other = actor ∧ added = item ∨ other ≠ actor ∧ adding other = some added := by
    intro other added adds
    by_cases same : other = actor
    · subst same
      rw [update_self] at adds
      exact .inl ⟨rfl, (Option.some.inj adds).symm⟩
    · rw [update_of_ne same] at adds
      exact .inr ⟨same, adds⟩
  constructor
  · intro other added adds
    rcases adds_iff other added adds with ⟨_, rfl⟩ | ⟨_, adds⟩
    · exact apart
    · exact exclusive.apart other added adds
  · intro first second added firstAdds secondAdds
    rcases adds_iff first added firstAdds with ⟨rfl, rfl⟩ | ⟨_, firstOld⟩
    · rcases adds_iff second _ secondAdds with ⟨same, _⟩ | ⟨_, secondAdds⟩
      · exact same.symm
      · exact absurd secondAdds (alone second)
    · rcases adds_iff second added secondAdds with ⟨_, rfl⟩ | ⟨_, secondAdds⟩
      · exact absurd firstOld (alone first)
      · exact exclusive.alone first second added firstOld secondAdds

/-- An actor inserts the item it adds. -/
theorem insert (exclusive : Exclusive adding items) (adds : adding actor = some item)
    (members : ∀ other, other ∈ left ↔ other = item ∨ other ∈ items) :
    Exclusive (update adding actor none) left where
  apart other added otherAdds member := by
    by_cases same : other = actor
    · subst same
      simp at otherAdds
    · rw [update_of_ne same] at otherAdds
      rcases (members added).mp member with rfl | old
      · exact same (exclusive.alone other actor added otherAdds adds)
      · exact exclusive.apart other added otherAdds old
  alone := (exclusive.clear actor).alone

end Exclusive

/-! ## The steps and the timer -/

namespace Shared

/-- Timeouts may have left the list, and nothing else of the timer changed. -/
structure Fewer (shared after : Shared Runnable Timeout) : Prop where
  times : ∀ timeout, (after.timeouts timeout).time = (shared.timeouts timeout).time
  deadline : after.deadline = shared.deadline
  list : after.timeoutList.Sublist shared.timeoutList
  clock : after.clock = shared.clock

variable {shared after : Shared Runnable Timeout}

theorem Fewer.refl (shared : Shared Runnable Timeout) : Fewer shared shared :=
  ⟨fun _ => rfl, rfl, .refl _, rfl⟩

theorem clock_insertTimeout [DecidableEq Timeout] {addition : Addition Timeout} {first : Bool}
    (inserted : shared.insertTimeout addition = some (after, first)) :
    after.clock = shared.clock := by
  unfold insertTimeout at inserted
  split at inserted <;> cases inserted
  rfl

theorem Sorted.fewer (sorted : shared.Sorted) (fewer : shared.Fewer after) : after.Sorted where
  times timeout := by
    rw [fewer.times, fewer.deadline]
    exact sorted.times timeout
  nodup := sorted.nodup.sublist fewer.list
  sorted := by
    rw [fewer.deadline]
    exact sorted.sorted.sublist fewer.list

end Shared

/-- The absolute time is the deadline with the wrap. -/
def Addition.Wraps (addition : Addition Timeout) : Prop :=
  addition.absoluteTimeout = UInt32.ofNat addition.deadline

namespace Call

/-- The timeout that was found not to be linked, and is about to be. -/
def adding : Call Runnable Timeout → Option Timeout
  | .setTimes addition | .insert addition => some addition.timeout
  | _ => none

def Wraps : Call Runnable Timeout → Prop
  | .isLinked addition | .setTimes addition | .insert addition => addition.Wraps
  | _ => True

/-- The addition whose timeout is about to be tested for being linked. -/
def checks : Call Runnable Timeout → Option (Addition Timeout)
  | .isLinked addition => some addition
  | _ => none

def inserts : Call Runnable Timeout → Option (Addition Timeout)
  | .insert addition => some addition
  | _ => none

theorem adding_start (request : Request Runnable Timeout) : request.start.adding = none := by
  cases request <;> rfl

theorem wraps_start (request : Request Runnable Timeout) : request.start.Wraps := by
  cases request <;> trivial

variable [DecidableEq Runnable] [DecidableEq Timeout] {shared after : Shared Runnable Timeout}

/-- What a step of a call does to the timer. -/
theorem timer_cases {call next : Call Runnable Timeout}
    (stepped : call.step shared = some (after, next)) :
    (∃ addition, call = .isLinked addition ∧ addition.timeout ∉ shared.timeoutList ∧
      after = shared ∧ next = .setTimes addition) ∨
    (∃ addition, call = .setTimes addition ∧ after = shared.setTimes addition ∧
      next = .insert addition) ∨
    (∃ addition first, call = .insert addition ∧
      shared.insertTimeout addition = some (after, first) ∧
      next = if first then .setEvent .timer else .idle) ∨
    (call.adding = none ∧ next.adding = none ∧ next.Wraps ∧ shared.Fewer after) := by
  cases call with
  | idle => cases stepped
  | isLinked addition =>
    simp only [Call.step] at stepped
    split at stepped <;> cases stepped
    · exact .inr (.inr (.inr ⟨rfl, rfl, trivial, .refl _⟩))
    · rename_i apart
      exact .inl ⟨addition, rfl, apart, rfl, rfl⟩
  | setTimes addition =>
    cases stepped
    exact .inr (.inl ⟨addition, rfl, rfl, rfl⟩)
  | insert addition =>
    obtain ⟨⟨result, first⟩, inserted, same⟩ := Option.map_eq_some_iff.mp stepped
    cases same
    exact .inr (.inr (.inl ⟨addition, first, rfl, inserted, rfl⟩))
  | enqueue runnable =>
    cases stepped
    refine .inr (.inr (.inr ⟨rfl, rfl, trivial, ?_⟩))
    unfold Shared.enqueue
    split
    · exact .refl _
    · exact ⟨fun _ => rfl, rfl, .refl _, rfl⟩
  | setRunnable runnable timeout delay cyclic =>
    cases stepped
    refine .inr (.inr (.inr ⟨rfl, rfl, trivial, ?_, rfl, .refl _, rfl⟩))
    intro other
    by_cases same : other = timeout
    · subst same
      simp [Shared.setRunnable]
    · simp [Shared.setRunnable, update_of_ne same]
  | readTime timeout delay cyclic =>
    cases stepped
    refine .inr (.inr (.inr ⟨rfl, rfl, ?_, .refl _⟩))
    simp only [Wraps, Addition.Wraps, Shared.getSystemTimeUs32Bit]
    rw [UInt32.ofNat_add, UInt32.ofNat_toNat, UInt32.add_comm]
  | erase timeout =>
    cases stepped
    exact .inr (.inr (.inr ⟨rfl, rfl, trivial, fun _ => rfl, rfl, List.erase_sublist, rfl⟩))
  | setEvent event =>
    cases stepped
    exact .inr (.inr (.inr ⟨rfl, rfl, trivial, fun _ => rfl, rfl, .refl _, rfl⟩))
  | isActive | cancel =>
    simp only [Call.step] at stepped
    split at stepped <;> cases stepped <;>
      exact .inr (.inr (.inr ⟨rfl, rfl, trivial, .refl _⟩))

end Call

namespace Phase

/-- The timeout that the dispatch loop found not to be linked, and is about to
insert again. -/
def adding : Phase Runnable Timeout → Option Timeout
  | .setTimes _ addition _ | .insert _ addition _ => some addition.timeout
  | _ => none

def Wraps : Phase Runnable Timeout → Prop
  | .isLinked _ addition _ | .setTimes _ addition _ | .insert _ addition _ => addition.Wraps
  | _ => True

def checks : Phase Runnable Timeout → Option (Addition Timeout)
  | .isLinked _ addition _ => some addition
  | _ => none

def inserts : Phase Runnable Timeout → Option (Addition Timeout)
  | .insert _ addition _ => some addition
  | _ => none

/-- The time from which a wait is about to be computed. -/
def computes : Phase Runnable Timeout → Option Nat
  | .getNextDelta now => some now
  | _ => none

/-- The wait that was computed and is not over. -/
def wait? : Phase Runnable Timeout → Option Wait
  | .notifyWait wait | .waiting wait _ => some wait
  | _ => none

/-- The time that was read is not later than the start of the wait. -/
def Timely (clock : Nat) : Phase Runnable Timeout → Prop
  | .getNextDelta now => now ≤ clock
  | .notifyWait wait => wait.now ≤ clock
  | .waiting wait start => wait.now ≤ start
  | _ => True

theorem Timely.mono {phase : Phase Runnable Timeout} {clock later : Nat}
    (timely : phase.Timely clock) (le : clock ≤ later) : phase.Timely later := by
  cases phase with
  | getNextDelta | notifyWait => exact Nat.le_trans timely le
  | waiting => exact timely
  | _ => trivial

/-- A phase in which no wait and no addition stands open. -/
structure Plain (phase : Phase Runnable Timeout) : Prop where
  adding : phase.adding = none
  wraps : phase.Wraps
  wait : phase.wait? = none

theorem plain_handleTimerEvent (eventMask : EventMask) (clock : Nat) :
    (handleTimerEvent eventMask : Phase Runnable Timeout).Plain ∧
      (handleTimerEvent eventMask : Phase Runnable Timeout).Timely clock := by
  unfold handleTimerEvent
  split <;> exact ⟨⟨rfl, trivial, rfl⟩, trivial⟩

theorem plain_handleEvents (eventMask : EventMask) (clock : Nat) :
    (handleEvents eventMask : Phase Runnable Timeout).Plain ∧
      (handleEvents eventMask : Phase Runnable Timeout).Timely clock := by
  unfold handleEvents
  split
  · exact ⟨⟨rfl, trivial, rfl⟩, trivial⟩
  · exact plain_handleTimerEvent eventMask clock

variable [DecidableEq Runnable] [DecidableEq Timeout] {shared after : Shared Runnable Timeout}

/-- What a step of the dispatch loop does to the timer. -/
theorem timer_cases {phase next : Phase Runnable Timeout} (sorted : shared.Sorted)
    (stepped : phase.step config shared = some (after, next)) :
    (∃ eventMask addition again, phase = .isLinked eventMask addition again ∧
      addition.timeout ∉ shared.timeoutList ∧ after = shared ∧
      next = .setTimes eventMask addition again) ∨
    (∃ eventMask addition again, phase = .setTimes eventMask addition again ∧
      after = shared.setTimes addition ∧ next = .insert eventMask addition again) ∨
    (∃ eventMask addition again first, phase = .insert eventMask addition again ∧
      shared.insertTimeout addition = some (after, first) ∧
      next = .expire eventMask addition.timeout again) ∨
    (∃ now, phase = .getNextDelta now ∧ after = shared ∧
      next = .notifyWait (computeWait config now
        (shared.timer.getNextDelta (UInt32.ofNat now)))) ∨
    (∃ wait, phase = .notifyWait wait ∧ after = shared ∧ next = .waiting wait shared.clock) ∨
    (phase.adding = none ∧ next.Plain ∧ next.Timely after.clock ∧ shared.Fewer after) := by
  cases phase with
  | isLinked eventMask addition again =>
    simp only [Phase.step] at stepped
    split at stepped <;> cases stepped
    · exact .inr (.inr (.inr (.inr (.inr ⟨rfl, ⟨rfl, trivial, rfl⟩, trivial, .refl _⟩))))
    · rename_i apart
      exact .inl ⟨eventMask, addition, again, rfl, apart, rfl, rfl⟩
  | setTimes eventMask addition again =>
    cases stepped
    exact .inr (.inl ⟨eventMask, addition, again, rfl, rfl, rfl⟩)
  | insert eventMask addition again =>
    obtain ⟨⟨result, first⟩, inserted, same⟩ := Option.map_eq_some_iff.mp stepped
    cases same
    exact .inr (.inr (.inl ⟨eventMask, addition, again, first, rfl, inserted, rfl⟩))
  | getNextDelta now =>
    cases stepped
    exact .inr (.inr (.inr (.inl ⟨now, rfl, rfl, rfl⟩)))
  | notifyWait wait =>
    cases stepped
    exact .inr (.inr (.inr (.inr (.inl ⟨wait, rfl, rfl, rfl⟩))))
  | dequeue eventMask =>
    refine .inr (.inr (.inr (.inr (.inr ⟨rfl, ?_⟩))))
    rcases dequeued : shared.queue.dequeue with ⟨taken, queue⟩
    simp only [Phase.step, dequeued] at stepped
    cases taken with
    | none =>
      cases stepped
      obtain ⟨plain, timely⟩ := plain_handleTimerEvent eventMask shared.clock
      exact ⟨plain, timely, fun _ => rfl, rfl, .refl _, rfl⟩
    | some runnable =>
      cases stepped
      exact ⟨⟨rfl, trivial, rfl⟩, trivial, fun _ => rfl, rfl, .refl _, rfl⟩
  | waiting wait start =>
    refine .inr (.inr (.inr (.inr (.inr ⟨rfl, ?_⟩))))
    simp only [Phase.step] at stepped
    split at stepped <;> cases stepped
    obtain ⟨plain, timely⟩ := plain_handleEvents shared.events shared.clock
    exact ⟨plain, timely, fun _ => rfl, rfl, .refl _, rfl⟩
  | processNextTimeout eventMask now =>
    refine .inr (.inr (.inr (.inr (.inr ⟨rfl, ?_⟩))))
    simp only [Phase.step] at stepped
    split at stepped
    · cases stepped
      exact ⟨⟨rfl, trivial, rfl⟩, trivial, .refl _⟩
    · rename_i timeout rest list
      split at stepped <;> cases stepped
      · refine ⟨⟨rfl, trivial, rfl⟩, trivial, fun _ => rfl, rfl, ?_, rfl⟩
        rw [list]
        exact List.sublist_cons_self timeout rest
      · exact ⟨⟨rfl, trivial, rfl⟩, trivial, .refl _⟩
  | reschedule eventMask now timeout again =>
    refine .inr (.inr (.inr (.inr (.inr ⟨rfl, ?_⟩))))
    simp only [Phase.step] at stepped
    split at stepped <;> cases stepped
    · refine ⟨⟨rfl, ?_, rfl⟩, trivial, .refl _⟩
      simp only [Wraps, Addition.Wraps]
      rw [sorted.times, UInt32.ofNat_add, UInt32.ofNat_toNat, UInt32.add_comm]
    · exact ⟨⟨rfl, trivial, rfl⟩, trivial, .refl _⟩
  | loop eventMask =>
    cases stepped
    refine .inr (.inr (.inr (.inr (.inr ⟨rfl, ?_⟩))))
    split <;> exact ⟨⟨rfl, trivial, rfl⟩, trivial, .refl _⟩
  | expiring eventMask again =>
    cases stepped
    refine .inr (.inr (.inr (.inr (.inr ⟨rfl, ?_⟩))))
    split <;> exact ⟨⟨rfl, trivial, rfl⟩, trivial, .refl _⟩
  | readTime =>
    cases stepped
    exact .inr (.inr (.inr (.inr (.inr ⟨rfl, ⟨rfl, trivial, rfl⟩, Nat.le_refl _, .refl _⟩))))
  | execute | executing | handleTimeout | expire =>
    cases stepped
    exact .inr (.inr (.inr (.inr (.inr
      ⟨rfl, ⟨rfl, trivial, rfl⟩, trivial, fun _ => rfl, rfl, .refl _, rfl⟩))))
  | stopped => cases stepped

end Phase

/-! ## Runs -/

namespace Wait

/-- The wait ends before each deadline of the list is over by a tick, counted
from the later of the deadline and the time that was read. -/
def Covers (config : Config) (wait : Wait) (shared : Shared Runnable Timeout) : Prop :=
  ∀ timeout ∈ shared.timeoutList,
    wait.now + wait.ticks.toNat * config.tickInUs.toNat <
      max (shared.deadline timeout) wait.now + config.tickInUs.toNat

variable {wait : Wait} {shared after : Shared Runnable Timeout}

theorem Covers.fewer (covers : wait.Covers config shared) (fewer : shared.Fewer after) :
    wait.Covers config after := by
  intro timeout member
  rw [fewer.deadline]
  exact covers timeout (fewer.list.subset member)

end Wait

/-- The wait that is computed covers all deadlines. -/
theorem Shared.Sorted.covers {shared : Shared Runnable Timeout} (sorted : shared.Sorted)
    {now : Nat} (near : ∀ timeout ∈ shared.timeoutList, Near now (shared.deadline timeout)) :
    (Phase.computeWait config now (shared.timer.getNextDelta (UInt32.ofNat now))).Covers
      config shared := by
  cases list : shared.timeoutList with
  | nil =>
    intro timeout member
    rw [list] at member
    cases member
  | cons first rest =>
    have firstNear := near first (by rw [list]; exact List.mem_cons_self)
    obtain ⟨hasDelta, delta⟩ := sorted.getNextDelta list firstNear
    have short := firstNear.1
    have ends := Phase.computeWait_lt config now hasDelta delta (by omega)
    intro timeout member
    have earliest : shared.deadline first ≤ shared.deadline timeout := by
      have ordered := sorted.sorted
      rw [list] at ordered member
      rcases List.mem_cons.mp member with rfl | later
      · exact Nat.le_refl _
      · exact (List.pairwise_cons.mp ordered).1 timeout later
    simp only [Phase.computeWait] at ends ⊢
    omega

namespace TaskContext

/-- What each party is about to insert: the dispatch loop, and the callers. -/
def adding (phase : Phase Runnable Timeout) (calls : Caller → Call Runnable Timeout) :
    Option Caller → Option Timeout
  | none => phase.adding
  | some caller => (calls caller).adding

variable {context target : TaskContext Runnable Timeout Caller}

section

variable [DecidableEq Caller]

theorem adding_update (phase : Phase Runnable Timeout) (calls : Caller → Call Runnable Timeout)
    (caller : Caller) (call : Call Runnable Timeout) :
    adding phase (update calls caller call) =
      update (adding phase calls) (some caller) call.adding := by
  funext actor
  cases actor with
  | none => rfl
  | some other =>
    by_cases same : other = caller
    · subst same
      simp [adding]
    · rw [update_of_ne fun equal => same (Option.some.inj equal)]
      simp only [adding, update_of_ne same]

theorem adding_phase (phase next : Phase Runnable Timeout)
    (calls : Caller → Call Runnable Timeout) :
    adding next calls = update (adding phase calls) none next.adding := by
  funext actor
  cases actor with
  | none => rfl
  | some other => rw [update_of_ne (by simp)]; rfl

end

/-- The addition that a step tests for being linked. -/
def checks (context : TaskContext Runnable Timeout Caller) :
    Action Runnable Timeout Caller → Option (Addition Timeout)
  | .proceed caller => (context.calls caller).checks
  | .dispatch => context.phase.checks
  | .call _ _ | .timeOut | .elapse _ => none

/-- The addition that a step inserts. -/
def inserts (context : TaskContext Runnable Timeout Caller) :
    Action Runnable Timeout Caller → Option (Addition Timeout)
  | .proceed caller => (context.calls caller).inserts
  | .dispatch => context.phase.inserts
  | .call _ _ | .timeOut | .elapse _ => none

/-- The time from which a step computes a wait. -/
def computes (context : TaskContext Runnable Timeout Caller) :
    Action Runnable Timeout Caller → Option Nat
  | .dispatch => context.phase.computes
  | .proceed _ | .call _ _ | .timeOut | .elapse _ => none

/-- An orderly step: a timeout that was found not to be linked is not found so
by another party before it was inserted, and the deadlines are within less than
`2^31` of the times that the timer compares them with. -/
def Orderly (context : TaskContext Runnable Timeout Caller)
    (action : Action Runnable Timeout Caller) : Prop :=
  (∀ addition ∈ context.checks action, addition.timeout ∉ context.shared.timeoutList →
    ∀ other, adding context.phase context.calls other ≠ some addition.timeout) ∧
  (∀ addition ∈ context.inserts action,
    ∀ timeout ∈ addition.timeout :: context.shared.timeoutList,
      Near addition.now (context.shared.deadline timeout)) ∧
  ∀ now ∈ context.computes action,
    ∀ timeout ∈ context.shared.timeoutList, Near now (context.shared.deadline timeout)

instance [DecidableEq Timeout] [Fintype Caller] (context : TaskContext Runnable Timeout Caller)
    (action : Action Runnable Timeout Caller) : Decidable (context.Orderly action) :=
  inferInstanceAs (Decidable (_ ∧ _ ∧ _))

/-- The list of timeouts is sorted, timeouts are added one at a time, and a
computed wait covers all deadlines unless the timer event is announced. -/
structure Timed (config : Config) (context : TaskContext Runnable Timeout Caller) : Prop where
  sorted : context.shared.Sorted
  exclusive : Exclusive (adding context.phase context.calls) context.shared.timeoutList
  wraps : ∀ caller, (context.calls caller).Wraps
  phaseWraps : context.phase.Wraps
  timely : context.phase.Timely context.shared.clock
  covers : ∀ wait, context.phase.wait? = some wait →
    context.Announced .timer ∨ wait.Covers config context.shared

variable [DecidableEq Runnable] [DecidableEq Timeout] [DecidableEq Caller]

omit [DecidableEq Runnable] [DecidableEq Timeout] in
theorem wraps_update {calls : Caller → Call Runnable Timeout}
    (wraps : ∀ caller, (calls caller).Wraps) (caller : Caller) {call : Call Runnable Timeout}
    (callWraps : call.Wraps) (other : Caller) :
    (update calls caller call other).Wraps := by
  by_cases same : other = caller
  · subst same
    rwa [update_self]
  · rw [update_of_ne same]
    exact wraps other

/-- A step that does not wait announces what was announced. -/
theorem Announced.step_of_same (announced : context.Announced .timer)
    {action : Action Runnable Timeout Caller} (stepped : context.step config action = some target)
    {wait : Wait} (waits : target.phase.wait? = some wait) : target.Announced .timer := by
  rcases announced.step stepped with still | ⟨_, _, _, _, phase⟩
  · exact still
  · rw [phase, (Phase.plain_handleEvents _ 0).1.wait] at waits
    cases waits

theorem Timed.proceed (timed : context.Timed config) {caller : Caller}
    (stepped : context.step config (.proceed caller) = some target)
    (orderly : context.Orderly (.proceed caller)) : target.Timed config := by
  have announced (event : context.Announced .timer) {wait : Wait}
    (waits : target.phase.wait? = some wait) := event.step_of_same stepped waits
  obtain ⟨⟨after, next⟩, callStepped, same⟩ := Option.map_eq_some_iff.mp stepped
  cases same
  have wraps := timed.wraps caller
  have exclusive := timed.exclusive
  have adding_eq : adding context.phase context.calls (some caller) =
    (context.calls caller).adding := rfl
  rcases Call.timer_cases callStepped with
    ⟨addition, here, apart, rfl, rfl⟩ | ⟨addition, here, rfl, rfl⟩ |
      ⟨addition, first, here, inserted, rfl⟩ | ⟨before, behind, nextWraps, fewer⟩
  · rw [here] at wraps
    have alone := orderly.1 addition (congrArg Call.checks here) apart
    refine ⟨timed.sorted, ?_, wraps_update timed.wraps caller wraps, timed.phaseWraps,
      timed.timely, fun wait waits => (timed.covers wait waits).imp_left (announced · waits)⟩
    simp only [adding_update]
    exact exclusive.start apart alone
  · rw [here] at wraps adding_eq
    have apart := exclusive.apart _ _ adding_eq
    obtain ⟨sorted, kept⟩ := timed.sorted.setTimes apart wraps
    refine ⟨sorted, ?_, wraps_update timed.wraps caller wraps, timed.phaseWraps,
      timed.timely, fun wait waits => ?_⟩
    · simp only [adding_update]
      rw [update_eq_self_iff.mpr adding_eq.symm]
      exact exclusive
    · refine (timed.covers wait waits).imp (announced · waits) fun covers timeout member => ?_
      rw [kept timeout member]
      exact covers timeout member
  · rw [here] at adding_eq
    have near := orderly.2.1 addition (congrArg Call.inserts here)
    obtain ⟨sorted, deadline, members, reported⟩ := timed.sorted.insertTimeout near inserted
    have clock : after.clock = context.shared.clock := Shared.clock_insertTimeout inserted
    refine ⟨sorted, ?_, ?_, timed.phaseWraps, ?_, fun wait waits => ?_⟩
    · have idle : (if first = true then Call.setEvent Event.timer else Call.idle :
          Call Runnable Timeout).adding = none := by
        split <;> rfl
      simp only [adding_update, idle]
      exact exclusive.insert adding_eq members
    · refine wraps_update timed.wraps caller ?_
      split <;> trivial
    · simp only [clock]
      exact timed.timely
    · rcases reported with rfl | ⟨other, inside, le⟩
      · exact .inl (.inr ⟨caller, update_self ..⟩)
      · refine (timed.covers wait waits).imp (announced · waits) fun covers timeout member => ?_
        rw [deadline]
        rcases (members timeout).mp member with rfl | old
        · have bound := covers other inside
          omega
        · exact covers timeout old
  · refine ⟨timed.sorted.fewer fewer, ?_, wraps_update timed.wraps caller nextWraps,
      timed.phaseWraps, ?_, fun wait waits =>
        (timed.covers wait waits).imp (announced · waits) (·.fewer fewer)⟩
    · simp only [adding_update, behind]
      exact (exclusive.clear _).subset fewer.list.subset
    · simp only [fewer.clock]
      exact timed.timely

theorem Timed.dispatch (timed : context.Timed config)
    (stepped : context.step config .dispatch = some target)
    (orderly : context.Orderly (.dispatch : Action Runnable Timeout Caller)) :
    target.Timed config := by
  have announced (event : context.Announced .timer) {wait : Wait}
    (waits : target.phase.wait? = some wait) := event.step_of_same stepped waits
  obtain ⟨⟨after, next⟩, phaseStepped, same⟩ := Option.map_eq_some_iff.mp stepped
  cases same
  have wraps := timed.phaseWraps
  have exclusive := timed.exclusive
  have timely := timed.timely
  rcases Phase.timer_cases timed.sorted phaseStepped with
    ⟨eventMask, addition, again, here, apart, rfl, rfl⟩ |
      ⟨eventMask, addition, again, here, rfl, rfl⟩ |
      ⟨eventMask, addition, again, first, here, inserted, rfl⟩ | ⟨now, here, rfl, rfl⟩ |
      ⟨wait, here, rfl, rfl⟩ | ⟨before, plain, later, fewer⟩
  · rw [here] at wraps
    have alone := orderly.1 addition (congrArg Phase.checks here) apart
    refine ⟨timed.sorted, ?_, timed.wraps, wraps, trivial, fun wait waits => by cases waits⟩
    rw [adding_phase context.phase]
    exact exclusive.start apart alone
  · have adds : adding context.phase context.calls none = some addition.timeout := by
      rw [here]
      rfl
    rw [here] at wraps
    have apart := exclusive.apart _ _ adds
    obtain ⟨sorted, _⟩ := timed.sorted.setTimes apart wraps
    refine ⟨sorted, ?_, timed.wraps, wraps, trivial, fun wait waits => by cases waits⟩
    rw [adding_phase context.phase, update_eq_self_iff.mpr adds.symm]
    exact exclusive
  · have adds : adding context.phase context.calls none = some addition.timeout := by
      rw [here]
      rfl
    have near := orderly.2.1 addition (congrArg Phase.inserts here)
    obtain ⟨sorted, _, members, _⟩ := timed.sorted.insertTimeout near inserted
    refine ⟨sorted, ?_, timed.wraps, trivial, trivial, fun wait waits => by cases waits⟩
    rw [adding_phase context.phase]
    exact exclusive.insert adds members
  · have near := orderly.2.2 now (congrArg Phase.computes here)
    rw [here] at timely
    refine ⟨timed.sorted, ?_, timed.wraps, trivial, timely, fun wait waits => ?_⟩
    · rw [adding_phase context.phase]
      exact exclusive.clear _
    · cases waits
      exact .inr (timed.sorted.covers near)
  · rw [here] at timely
    refine ⟨timed.sorted, ?_, timed.wraps, trivial, timely, fun other waits => ?_⟩
    · rw [adding_phase context.phase]
      exact exclusive.clear _
    · cases waits
      exact (timed.covers wait (by rw [here]; rfl)).imp_left (announced · rfl)
  · refine ⟨timed.sorted.fewer fewer, ?_, timed.wraps, plain.wraps, later, fun wait waits => ?_⟩
    · rw [adding_phase context.phase, plain.adding]
      exact (exclusive.clear _).subset fewer.list.subset
    · rw [plain.wait] at waits
      cases waits

theorem Timed.timeOut (timed : context.Timed config)
    (stepped : context.step config .timeOut = some target) : target.Timed config := by
  simp only [TaskContext.step] at stepped
  split at stepped
  · rename_i wait start here
    split at stepped <;> cases stepped
    obtain ⟨plain, timely⟩ := show (Phase.handleEvents (if wait.hasDelta then {.timer} else ∅) :
      Phase Runnable Timeout).Plain ∧ _ from Phase.plain_handleEvents _ context.shared.clock
    refine ⟨timed.sorted, ?_, timed.wraps, plain.wraps, timely, fun other waits => ?_⟩
    · rw [adding_phase context.phase, plain.adding]
      exact timed.exclusive.clear _
    · rw [plain.wait] at waits
      cases waits
  · cases stepped

theorem Timed.call (timed : context.Timed config) {caller : Caller}
    {request : Request Runnable Timeout}
    (stepped : context.step config (.call caller request) = some target) :
    target.Timed config := by
  have announced (event : context.Announced .timer) {wait : Wait}
    (waits : target.phase.wait? = some wait) := event.step_of_same stepped waits
  simp only [TaskContext.step] at stepped
  split at stepped <;> cases stepped
  refine ⟨timed.sorted, ?_, wraps_update timed.wraps caller (Call.wraps_start request),
    timed.phaseWraps, timed.timely,
    fun wait waits => (timed.covers wait waits).imp_left (announced · waits)⟩
  simp only [adding_update, Call.adding_start]
  exact timed.exclusive.clear _

theorem Timed.elapse (timed : context.Timed config) {duration : Nat}
    (stepped : context.step config (.elapse duration) = some target) : target.Timed config := by
  simp only [TaskContext.step] at stepped
  split at stepped <;> cases stepped
  exact
    { timed with
      sorted := ⟨timed.sorted.times, timed.sorted.nodup, timed.sorted.sorted⟩
      timely := timed.timely.mono (Nat.le_add_right _ _)
      covers := timed.covers }

/-- Orderly runs keep the timer in order. -/
theorem inductive_timed : ((system config Runnable Timeout Caller).restrict Orderly).Inductive
    (Timed config) := by
  constructor
  · intro context initial
    refine ⟨⟨initial.times, ?_, ?_⟩, ⟨?_, ?_⟩, ?_, ?_, ?_, ?_⟩
    · rw [initial.timeoutList]
      exact List.nodup_nil
    · rw [initial.timeoutList]
      exact .nil
    · intro actor timeout _
      rw [initial.timeoutList]
      exact List.not_mem_nil
    · intro first second timeout adds
      cases first with
      | none =>
        rw [adding, initial.phase] at adds
        cases adds
      | some caller =>
        rw [adding, initial.calls] at adds
        cases adds
    · intro caller
      rw [initial.calls]
      trivial
    · rw [initial.phase]
      trivial
    · rw [initial.phase]
      trivial
    · intro wait waits
      rw [initial.phase] at waits
      cases waits
  · rintro source action target timed ⟨stepped, orderly⟩
    cases action with
    | call caller request => exact timed.call stepped
    | proceed caller => exact timed.proceed stepped orderly
    | dispatch => exact timed.dispatch stepped orderly
    | timeOut => exact timed.timeOut stepped
    | elapse duration => exact timed.elapse stepped

omit [DecidableEq Runnable] [DecidableEq Timeout] [DecidableEq Caller] in
/-- Unless the timer event is set or about to be set, a wait ends at most one
tick after the later of the earliest deadline and the time it was computed
from, moved by the time between reading this time and starting to wait. -/
def EndsInTime (config : Config) (context : TaskContext Runnable Timeout Caller) : Prop :=
  ∀ wait start, context.phase = .waiting wait start → ¬context.Announced .timer →
    ∀ timeout ∈ context.shared.timeoutList,
      wait.ends config start ≤
        max (context.shared.deadline timeout) wait.now + config.tickInUs.toNat +
          (start - wait.now)

omit [DecidableEq Runnable] [DecidableEq Timeout] [DecidableEq Caller] in
theorem Timed.endsInTime (timed : context.Timed config) : context.EndsInTime config := by
  intro wait start here quiet timeout member
  have timely := timed.timely
  rw [here] at timely
  change wait.now ≤ start at timely
  rcases timed.covers wait (by rw [here]; rfl) with announced | covers
  · exact absurd announced quiet
  · have bound := covers timeout member
    rw [Wait.ends]
    omega

/-- In every interleaving the queue is a list without cycles, the runnables are
executed in the order they were accepted, each once, and an enqueued one will
be seen.  In the orderly interleavings no wait is too long. -/
theorem runnables_kept (config : Config) (Runnable Timeout Caller : Type) [DecidableEq Runnable]
    [DecidableEq Timeout] [DecidableEq Caller] :
    (∀ context, (system config Runnable Timeout Caller).Reachable context →
      context.InOrder ∧ context.Awake) ∧
    ∀ context, ((system config Runnable Timeout Caller).restrict Orderly).Reachable context →
      context.EndsInTime config :=
  ⟨fun _ reached => inductive_inOrder_awake.of_reachable reached,
    fun _ reached => (inductive_timed.of_reachable reached).endsInTime⟩

/-! ## Time between computing a wait and starting it -/

theorem referenceTick_pos : 0 < (1000 : UInt32).toNat := by decide

theorem referenceTick_le : (1000 : UInt32).toNat ≤ 2 ^ 31 := by decide

/-- The configuration of the reference application. -/
def referenceConfig : Config where
  tickInUs := 1000
  waitEventsTickCount := 100
  tick_pos := referenceTick_pos
  tick_le := referenceTick_le

/-- A context before its dispatch loop starts. -/
def idleContext : TaskContext Bool Unit Unit where
  shared :=
    { queue := .empty
      timeouts := fun _ => { runnable := none, time := 0, cycleTime := 0 }
      timeoutList := []
      events := ∅
      clock := 0
      accepted := []
      executed := []
      expired := []
      deadline := fun _ => 0 }
  phase := .loop ∅
  calls := fun _ => .idle

theorem initial_idleContext : Initial idleContext where
  queue := rfl
  timeoutList := rfl
  events := rfl
  accepted := rfl
  executed := rfl
  times _ := rfl
  phase := rfl
  calls _ := rfl

def enqueueCall (runnable : Bool) : List (Action Bool Unit Unit) :=
  [.call () (.execute runnable), .proceed (), .proceed ()]

/-- Two runnables are enqueued; one of them is enqueued again, first while it is in the queue and
then while it executes. -/
def executions : List (Action Bool Unit Unit) :=
  List.flatten [List.replicate 4 .dispatch, enqueueCall true, enqueueCall false, enqueueCall true,
    List.replicate 3 .dispatch, enqueueCall true, List.replicate 14 .dispatch]

/-- A timeout is scheduled in 2000 us while the task waits.  The task wakes,
computes a wait of two ticks, and starts it 1500 us later. -/
def delayedWait : List (Action Bool Unit Unit) :=
  List.flatten [List.replicate 4 .dispatch, [.call () (.schedule true () 2000 1)],
    List.replicate 7 (.proceed ()), List.replicate 6 .dispatch, [.elapse 1500, .dispatch]]

/-- A step that is orderly. -/
def orderlyStep (context : TaskContext Bool Unit Unit) (action : Action Bool Unit Unit) :
    Option (TaskContext Bool Unit Unit) :=
  if context.Orderly action then context.step referenceConfig action else none

theorem step_of_orderlyStep {source target : TaskContext Bool Unit Unit}
    {action : Action Bool Unit Unit} (stepped : orderlyStep source action = some target) :
    ((system referenceConfig Bool Unit Unit).restrict Orderly).Step source action target := by
  unfold orderlyStep at stepped
  split at stepped
  · rename_i orderly
    exact ⟨stepped, orderly⟩
  · cases stepped

/-- The task waits for two ticks since 1500 us, for a timeout with a deadline of
2000 us, and nothing is announced. -/
abbrev WaitsLate (context : TaskContext Bool Unit Unit) : Prop :=
  context.phase = .waiting { now := 0, ticks := 2, hasDelta := true } 1500 ∧
    context.shared.events = ∅ ∧ context.calls () = .idle ∧
    context.shared.timeoutList = [()] ∧ context.shared.deadline () = 2000

theorem delayedWait_ends : ∃ context,
    ((system referenceConfig Bool Unit Unit).restrict Orderly).Reachable context ∧
      context.shared.executed = [true, false, true] ∧ WaitsLate context := by
  have played : (Transition.System.play orderlyStep idleContext (executions ++ delayedWait)).any
      (fun context => decide (context.shared.executed = [true, false, true] ∧
        WaitsLate context)) = true := by decide
  obtain ⟨context, played, ends⟩ := (Option.any_eq_true _ _).mp played
  exact ⟨context, .play step_of_orderlyStep (.initial initial_idleContext) played,
    of_decide_eq_true ends⟩

/-- The run with the three executions and the delayed wait is orderly. -/
theorem runnables_kept_sample : ∃ context : TaskContext Bool Unit Unit,
    context.shared.executed = [true, false, true] ∧ WaitsLate context ∧ context.InOrder ∧
      context.Awake ∧ context.EndsInTime referenceConfig := by
  obtain ⟨context, reached, executed, waits⟩ := delayedWait_ends
  have kept := runnables_kept referenceConfig Bool Unit Unit
  obtain ⟨inOrder, awake⟩ := kept.1 context reached.of_restrict
  exact ⟨context, executed, waits, inOrder, awake, kept.2 context reached⟩

/-- A wait can end later than one tick after the earliest deadline, even in an
orderly run. -/
theorem not_endsInTime : ¬∀ context : TaskContext Bool Unit Unit,
    ((system referenceConfig Bool Unit Unit).restrict Orderly).Reachable context →
      ∀ wait start, context.phase = .waiting wait start → (∀ event, ¬context.Announced event) →
        ∀ timeout ∈ context.shared.timeoutList,
          wait.ends referenceConfig start ≤
            context.shared.deadline timeout + referenceConfig.tickInUs.toNat := by
  intro inTime
  obtain ⟨context, reached, _, phase, events, calls, list, deadline⟩ := delayedWait_ends
  have quiet (event : Event) : ¬context.Announced event := by
    rintro (member | ⟨_, about⟩)
    · rw [events] at member
      exact Finset.notMem_empty _ member
    · rw [calls] at about
      cases about
  have linked : () ∈ context.shared.timeoutList := by
    rw [list]
    exact List.mem_singleton_self _
  have ends := inTime context reached _ _ phase quiet () linked
  rw [deadline] at ends
  exact absurd ends (by decide)

end TaskContext

end OpenBsw.Async
