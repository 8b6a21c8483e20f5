import Mathlib

/-!
# Listener jobs

A frame that is written together with a listener is a job.  The transceivers
keep their jobs in a queue.  Whatever else happens, the jobs that were
confirmed and those that wait are, in this order, among those that were
accepted.
-/

namespace OpenBsw.Can

open List

universe u v

/-- The states of a transceiver. -/
inductive TransceiverState where
  | CLOSED
  | INITIALIZED
  | OPEN
  | MUTED
  deriving DecidableEq

/-- The results of the operations of a transceiver. -/
inductive ErrorCode where
  | CAN_ERR_OK
  | CAN_ERR_TX_FAIL
  | CAN_ERR_TX_HW_QUEUE_FULL
  | CAN_ERR_TX_OFFLINE
  | CAN_ERR_ILLEGAL_STATE
  | CAN_ERR_INIT_FAILED
  deriving DecidableEq

/-- A job of the queue, with the number of jobs that were accepted before it. -/
structure TxJobWithCallback (L : Type u) (F : Type v) where
  serial : Nat
  listener : L
  frame : F
  deriving DecidableEq

/-- What becomes of the jobs that a transceiver accepts. -/
structure TxJobs (L : Type u) (F : Type v) where
  txQueue : List (TxJobWithCallback L F) := []
  /-- The jobs for which `write` returned `CAN_ERR_OK`. -/
  accepted : List (TxJobWithCallback L F) := []
  /-- The jobs whose listener was called, with the frame it was called with. -/
  confirmed : List (TxJobWithCallback L F) := []
  /-- The jobs that were removed from the queue without a call. -/
  dropped : List (TxJobWithCallback L F) := []

namespace TxJobs

variable {L : Type u} {F : Type v} {jobs : TxJobs L F}

/-- The job that `write` makes of its arguments. -/
def newJob (jobs : TxJobs L F) (listener : L) (frame : F) : TxJobWithCallback L F where
  serial := jobs.accepted.length
  listener := listener
  frame := frame

/-- `emplace_back` by a `write` that succeeds. -/
def accept (jobs : TxJobs L F) (listener : L) (frame : F) : TxJobs L F :=
  { jobs with
    txQueue := jobs.txQueue ++ [jobs.newJob listener frame]
    accepted := jobs.accepted ++ [jobs.newJob listener frame] }

/-- `pop_front` and the call of the listener. -/
def confirm (jobs : TxJobs L F) : TxJobs L F :=
  { jobs with
    txQueue := jobs.txQueue.tail
    confirmed := jobs.confirmed ++ jobs.txQueue.take 1 }

def clear (jobs : TxJobs L F) : TxJobs L F :=
  { jobs with
    txQueue := []
    dropped := jobs.dropped ++ jobs.txQueue }

/-- No job is confirmed twice or before an earlier one, and none that was dropped. -/
structure Accounted (jobs : TxJobs L F) : Prop where
  ordered : (jobs.confirmed ++ jobs.txQueue).Sublist jobs.accepted
  complete : (jobs.confirmed ++ (jobs.dropped ++ jobs.txQueue)).Perm jobs.accepted
  numbered : jobs.accepted.map TxJobWithCallback.serial = List.range jobs.accepted.length

theorem Accounted.initial : Accounted ({} : TxJobs L F) :=
  ⟨List.Sublist.refl _, List.Perm.refl _, rfl⟩

theorem Accounted.accept (accounted : Accounted jobs) (listener : L) (frame : F) :
    Accounted (jobs.accept listener frame) := by
  constructor
  · change (jobs.confirmed ++ (jobs.txQueue ++ [_])).Sublist (jobs.accepted ++ [_])
    rw [← append_assoc]
    exact accounted.ordered.append (List.Sublist.refl _)
  · change (jobs.confirmed ++ (jobs.dropped ++ (jobs.txQueue ++ [_]))).Perm (jobs.accepted ++ [_])
    rw [← append_assoc jobs.dropped, ← append_assoc jobs.confirmed]
    exact accounted.complete.append_right _
  · change (jobs.accepted ++ [jobs.newJob listener frame]).map _ =
      List.range (jobs.accepted ++ [jobs.newJob listener frame]).length
    rw [map_append, List.length_append, accounted.numbered, length_singleton,
      range_succ]
    rfl

theorem Accounted.confirm (accounted : Accounted jobs) : Accounted jobs.confirm := by
  constructor
  · change ((jobs.confirmed ++ jobs.txQueue.take 1) ++ jobs.txQueue.tail).Sublist jobs.accepted
    rw [append_assoc, ← drop_one, take_append_drop]
    exact accounted.ordered
  · change ((jobs.confirmed ++ jobs.txQueue.take 1) ++
      (jobs.dropped ++ jobs.txQueue.tail)).Perm jobs.accepted
    apply List.Perm.trans _ accounted.complete
    rw [append_assoc]
    apply List.Perm.append_left
    calc
      jobs.txQueue.take 1 ++ (jobs.dropped ++ jobs.txQueue.tail)
          = (jobs.txQueue.take 1 ++ jobs.dropped) ++ jobs.txQueue.tail :=
        (append_assoc _ _ _).symm
      List.Perm _ ((jobs.dropped ++ jobs.txQueue.take 1) ++ jobs.txQueue.tail) :=
        perm_append_comm.append_right _
      _ = jobs.dropped ++ jobs.txQueue := by
        rw [append_assoc, ← drop_one, take_append_drop]
  · exact accounted.numbered

theorem Accounted.clear (accounted : Accounted jobs) : Accounted jobs.clear := by
  constructor
  · apply List.Sublist.trans _ accounted.ordered
    exact (List.Sublist.refl _).append (nil_sublist _)
  · change (jobs.confirmed ++ ((jobs.dropped ++ jobs.txQueue) ++ [])).Perm jobs.accepted
    rw [append_nil]
    exact accounted.complete
  · exact accounted.numbered

/-- The accepted jobs are different from each other. -/
theorem Accounted.nodup (accounted : Accounted jobs) : jobs.accepted.Nodup := by
  apply List.Nodup.of_map TxJobWithCallback.serial
  rw [accounted.numbered]
  exact nodup_range

theorem Accounted.confirmed_sublist (accounted : Accounted jobs) :
    jobs.confirmed.Sublist jobs.accepted :=
  (sublist_append_left _ _).trans accounted.ordered

end TxJobs

end OpenBsw.Can
