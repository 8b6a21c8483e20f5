import OpenBsw.Transition.System

/-!
# Middleware queue

A ring of elements with one cursor for each side.  The cursors run modulo twice
the capacity, so the full and the empty queue differ.  The element count is a
`uint16_t`, hence the 32-bit arithmetic on the cursors does not overflow, and
they are numbers here.

Every load and store of a cursor is a step of its own.  The copy of an element
takes two steps: between them the slot has no value.
-/

namespace OpenBsw.Middleware

/-- The counters of the senders and the receiver; the snapshots are left out. -/
structure QueueStats where
  processedMessages : UInt32 := 0
  lostMessages : UInt32 := 0
  maxLoad : UInt8 := 0
  startupLoad : UInt8 := 0

namespace QueueBase

/-- The size for two loaded cursors. -/
def size (maxSize txPos rxPos : Nat) : Nat :=
  if txPos ≥ rxPos then txPos - rxPos else txPos + 2 * maxSize - rxPos

def isFull (maxSize rxPos txPos : Nat) : Bool :=
  txPos = (rxPos + maxSize) % (2 * maxSize)

def isEmpty (txPos rxPos : Nat) : Bool :=
  txPos = rxPos

/-- The cursor after the next element. -/
def next (maxSize position : Nat) : Nat :=
  (position + 1) % (2 * maxSize)

structure WriteToken where
  slotIndex : Nat
  nextSent : Nat

def writeToken (maxSize sentVal : Nat) : WriteToken :=
  { slotIndex := sentVal % maxSize, nextSent := next maxSize sentVal }

end QueueBase

open QueueBase

/-- Where the sender with the lock is in `write`. -/
inductive WriterState (Element : Type)
  | idle
  | locked (value : Element)
  /-- `isFull` loaded `_received`, when so many elements were unread. -/
  | checking (value : Element) (rxPos unread : Nat)
  | notFull (value : Element)
  | reserving (value : Element) (sentVal : Nat)
  | reserved (value : Element) (token : WriteToken)
  | copying (value : Element) (token : WriteToken)
  | copied (value : Element) (token : WriteToken)
  | published (value : Element)
  /-- `size` loaded `_sent`. -/
  | measuring (value : Element) (txPos : Nat)

/-- Where the receiver is. -/
inductive ReaderState
  | idle
  /-- `isEmpty` loaded `_sent`. -/
  | checking (txPos : Nat)
  /-- `isEmpty` was false. -/
  | ready
  | advancing (next : Nat)
  /-- `size` loaded `_sent`. -/
  | measuring (txPos : Nat) (ready : Bool)

/-- The queue, its users, and what they saw. -/
structure QueueRun (Sender Element : Type) where
  maxSize : Nat
  sent : Nat
  received : Nat
  stats : QueueStats
  buffer : Nat → Option Element
  writer : WriterState Element
  reader : ReaderState
  /-- Senders in `size` outside the lock: the loaded cursor, and how many
  elements were published then. -/
  observers : Sender → Option (Nat × Nat)
  published : List Element
  advanced : Nat
  /-- The element number and the value of each look at the first element. -/
  seen : List (Nat × Option Element)
  /-- The writes that returned, with their results. -/
  writes : List (Element × Bool)
  /-- How many elements were unread when a failing write loaded `_received`. -/
  failures : List Nat
  /-- The sizes computed by the receiver and under the lock. -/
  sizes : List Nat
  /-- The sizes computed by senders outside the lock. -/
  sizesOutside : List Nat

inductive QueueEvent (Sender Element : Type)
  /-- A sender takes the lock in `write`. -/
  | lock (value : Element)
  /-- The next step of the sender with the lock. -/
  | write
  | loadSent (sender : Sender)
  | loadReceived (sender : Sender)
  | isEmpty
  | peek
  | advance
  | size
  /-- The second step of the receiver's operation. -/
  | read

namespace QueueRun

variable {Sender Element : Type}

/-- The next step of the sender with the lock. -/
def writeStep (run : QueueRun Sender Element) : Option (QueueRun Sender Element) :=
  match run.writer with
  | .idle => none
  | .locked value =>
    some { run with
      writer := .checking value run.received (run.published.length - run.advanced) }
  | .checking value rxPos unread =>
    if isFull run.maxSize rxPos run.sent then
      some { run with
        stats := { run.stats with lostMessages := run.stats.lostMessages + 1 }
        writer := .idle
        writes := run.writes ++ [(value, false)]
        failures := run.failures ++ [unread] }
    else some { run with writer := .notFull value }
  | .notFull value => some { run with writer := .reserving value run.sent }
  | .reserving value sentVal =>
    some { run with
      stats :=
        if run.received = 0 then
          { run.stats with startupLoad := run.stats.startupLoad + 1 }
        else run.stats
      writer := .reserved value (writeToken run.maxSize sentVal) }
  | .reserved value token =>
    some { run with
      buffer := Function.update run.buffer token.slotIndex none
      writer := .copying value token }
  | .copying value token =>
    some { run with
      buffer := Function.update run.buffer token.slotIndex (some value)
      writer := .copied value token }
  | .copied value token =>
    some { run with
      sent := token.nextSent
      published := run.published ++ [value]
      writer := .published value }
  | .published value => some { run with writer := .measuring value run.sent }
  | .measuring value txPos =>
    let currentSize := QueueBase.size run.maxSize txPos run.received
    some { run with
      stats :=
        if currentSize > run.stats.maxLoad.toNat then
          { run.stats with maxLoad := UInt8.ofNat currentSize }
        else run.stats
      writer := .idle
      writes := run.writes ++ [(value, true)]
      sizes := run.sizes ++ [currentSize] }

/-- The second step of an operation of the receiver. -/
def readStep (run : QueueRun Sender Element) : Option (QueueRun Sender Element) :=
  match run.reader with
  | .checking txPos =>
    some { run with
      reader := if QueueBase.isEmpty txPos run.received then .idle else .ready }
  | .advancing next =>
    some { run with
      received := next
      stats := { run.stats with processedMessages := run.stats.processedMessages + 1 }
      reader := .idle
      advanced := run.advanced + 1 }
  | .measuring txPos ready =>
    some { run with
      reader := if ready then .ready else .idle
      sizes := run.sizes ++ [QueueBase.size run.maxSize txPos run.received] }
  | _ => none

variable [DecidableEq Sender]

/-- The state after an event that is possible. -/
def perform (run : QueueRun Sender Element) :
    QueueEvent Sender Element → Option (QueueRun Sender Element)
  | .lock value =>
    match run.writer with
    | .idle => some { run with writer := .locked value }
    | _ => none
  | .write => run.writeStep
  | .loadSent sender =>
    some { run with
      observers := Function.update run.observers sender
        (some (run.sent, run.published.length)) }
  | .loadReceived sender =>
    match run.observers sender with
    | none => none
    | some (txPos, _) =>
      some { run with
        observers := Function.update run.observers sender none
        sizesOutside := run.sizesOutside ++ [QueueBase.size run.maxSize txPos run.received] }
  | .isEmpty =>
    match run.reader with
    | .idle => some { run with reader := .checking run.sent }
    | .ready => some { run with reader := .checking run.sent }
    | _ => none
  | .peek =>
    match run.reader with
    | .ready =>
      some { run with
        seen := run.seen ++ [(run.advanced, run.buffer (run.received % run.maxSize))] }
    | _ => none
  | .advance =>
    match run.reader with
    | .ready => some { run with reader := .advancing (next run.maxSize run.received) }
    | _ => none
  | .size =>
    match run.reader with
    | .idle => some { run with reader := .measuring run.sent false }
    | .ready => some { run with reader := .measuring run.sent true }
    | _ => none
  | .read => run.readStep

/-- A new queue; its slots hold the values they are created with. -/
def create (maxSize : Nat) (buffer : Nat → Option Element) : QueueRun Sender Element :=
  { maxSize, sent := 0, received := 0, stats := {}, buffer, writer := .idle, reader := .idle
    observers := fun _ => none, published := [], advanced := 0, seen := [], writes := []
    failures := [], sizes := [], sizesOutside := [] }

/-- Any number of senders and one receiver in any interleaving. -/
def system (Sender Element : Type) [DecidableEq Sender] :
    OpenBsw.Transition.System (QueueRun Sender Element) (QueueEvent Sender Element) where
  Initial run := ∃ maxSize buffer, 0 < maxSize ∧ run = create maxSize buffer
  Step source event target := source.perform event = some target

/-- The write is about to fail. -/
def refuses (run : QueueRun Sender Element) : Bool :=
  match run.writer with
  | .checking _ rxPos _ => isFull run.maxSize rxPos run.sent
  | _ => false

/-- When a sender outside the lock loads `_received`, the receiver has not passed what was
published at the load of `_sent`, or by whole rings and at least `maxSize` elements more; and
fewer than `2 ^ 32` writes fail. -/
def Counted (run : QueueRun Sender Element) : QueueEvent Sender Element → Prop
  | .loadReceived sender => ∀ entry ∈ run.observers sender,
      (run.advanced - entry.2) % (2 * run.maxSize) = 0 ∨
        run.maxSize ≤ (run.advanced - entry.2) % (2 * run.maxSize)
  | .write => run.refuses = true → run.failures.length + 1 < 2 ^ 32
  | _ => True

end QueueRun

end OpenBsw.Middleware
