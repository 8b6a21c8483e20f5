import OpenBsw.Data.Bytes
import OpenBsw.Transition.System

/-!
# The memory queue

`MemoryQueue` passes byte strings from one writer to one reader through an
array.  The writer owns the index `sent` and the array, the reader owns the
index `received`, and each of them loads the index of the other.  Every load
and every final store of an index is a step of its own here, and so is every
access to the header of an element, so that the two sides interleave freely.
-/

namespace OpenBsw.Io

open OpenBsw.Bytes
open OpenBsw.Transition

/-! ## Configuration and index arithmetic -/

/-- The template parameters.  `headerSize` stands for the size of `SIZE_TYPE`
and `sizeLimit` for the number of values of `size_t`, in which `2 * CAPACITY`
is computed. -/
structure MemoryQueueConfig where
  capacity : Nat
  maxElementSize : Nat
  headerSize : Nat
  sizeLimit : Nat
  headerPositive : 0 < headerSize
  fits : maxElementSize + headerSize ≤ capacity
  representable : maxElementSize < 256 ^ headerSize
  addressable : 2 * capacity < sizeLimit

namespace MemoryQueueConfig

variable (config : MemoryQueueConfig)

/-- The bytes that have to be free in one piece for an allocation. -/
def reserve : Nat :=
  config.maxElementSize + config.headerSize

theorem reserve_pos : 0 < config.reserve :=
  Nat.lt_of_lt_of_le config.headerPositive (Nat.le_add_left _ _)

theorem reserve_le_capacity : config.reserve ≤ config.capacity :=
  config.fits

theorem capacity_pos : 0 < config.capacity :=
  Nat.lt_of_lt_of_le config.reserve_pos config.reserve_le_capacity

/-- Subtraction of `size_t` values. -/
def sub (left right : Nat) : Nat :=
  (left + config.sizeLimit - right) % config.sizeLimit

def advanceIndex (index size : Nat) : Nat :=
  let index := (index + size + config.headerSize) % config.sizeLimit % (2 * config.capacity)
  let space := config.sub (2 * config.capacity) index % config.capacity
  if space < config.reserve then
    (index + space) % config.sizeLimit % (2 * config.capacity)
  else index

/-- `TxData::available` after its two loads. -/
def available (writeIndex readIndex : Nat) : Nat :=
  let usedBytes :=
    if writeIndex < readIndex then
      config.sub ((writeIndex + 2 * config.capacity) % config.sizeLimit) readIndex
    else config.sub writeIndex readIndex
  let freeBytes := config.sub config.capacity usedBytes
  if freeBytes < config.reserve then 0 else freeBytes

end MemoryQueueConfig

/-! ## The two sides -/

/-- A span into the data array.  The span returned by a failed call is empty. -/
structure Span where
  offset : Nat := 0
  size : Nat := 0
  deriving DecidableEq, Repr

/-- The bytes of the array that a span shows. -/
def Span.read (span : Span) (data : List UInt8) : List UInt8 :=
  slice data span.offset span.size

structure RxData where
  received : Nat := 0

structure TxData where
  sent : Nat := 0
  data : List UInt8
  allocated : Nat := 0
  minAvailable : Nat

/-- What the writer does next.  The constructors name the function and the
index or the header that the next step accesses.  During `commit`, `element`
records the bytes the user has left in its span. -/
inductive WriterStep where
  | idle
  | availableSent (size : Nat)
  | availableReceived (size writeIndex : Nat)
  | allocateSent (size : Nat)
  | commitSent (element : List UInt8)
  | commitHeader (writeIndex : Nat) (element : List UInt8)
  | commitStore (writeIndex : Nat) (element : List UInt8)
  deriving DecidableEq

/-- The element of a call of `commit` that is not done yet. -/
def WriterStep.element : WriterStep → Option (List UInt8)
  | commitSent element | commitHeader _ element | commitStore _ element => some element
  | _ => none

/-- The writer with the span it may write to and the elements it has
committed. -/
structure Writer where
  tx : TxData
  step : WriterStep := .idle
  span : Span := {}
  committed : List (List UInt8) := []

/-- What a call of `empty` is made for. -/
inductive EmptyCheck where
  | result
  | peek
  | release (inClear : Bool)
  | clear
  deriving DecidableEq

/-- What the reader does next, named as for the writer. -/
inductive ReaderStep where
  | idle
  | emptyReceived (check : EmptyCheck)
  | emptySent (check : EmptyCheck) (readIndex : Nat)
  | peekReceived
  | peekHeader (readIndex : Nat)
  | releaseReceived (inClear : Bool)
  | releaseHeader (inClear : Bool) (readIndex : Nat)
  | releaseStore (inClear : Bool) (readIndex : Nat) (element : List UInt8)
  deriving DecidableEq

/-- The reader with the span it may read from, the elements it has released
and, for every successful `peek`, the number of elements released before it
and the bytes it returned. -/
structure Reader where
  rx : RxData := {}
  step : ReaderStep := .idle
  span : Span := {}
  consumed : List (List UInt8) := []
  peeked : List (Nat × List UInt8) := []

/-! ## The writer's functions -/

section WriterFunctions

variable (config : MemoryQueueConfig)

/-- `allocate` up to the call of `available`. -/
def Writer.allocate (writer : Writer) (size : Nat) : Option Writer :=
  match writer.step with
  | .idle =>
    let writer := { writer with tx.allocated := 0, span := {} }
    if size > config.maxElementSize ∨ size = 0 then some writer
    else some { writer with step := .availableSent size }
  | _ => none

/-- The user writes into the span that `allocate` returned. -/
def Writer.write (writer : Writer) (position : Nat) (bytes : List UInt8) : Option Writer :=
  match writer.step with
  | .idle =>
    if position + bytes.length ≤ writer.span.size then
      some { writer with
        tx.data := overwrite writer.tx.data (writer.span.offset + position) bytes }
    else none
  | _ => none

/-- `commit` up to its load of `sent`.  The user gives the span up. -/
def Writer.commit (writer : Writer) : Option Writer :=
  match writer.step with
  | .idle =>
    if writer.tx.allocated = 0 then some writer
    else some { writer with
      step := .commitSent (writer.span.read writer.tx.data)
      span := {} }
  | _ => none

/-- The next step of the function the writer is in. -/
def Writer.continue (writer : Writer) (rx : RxData) : Option Writer :=
  match writer.step with
  | .idle => none
  | .availableSent size => some { writer with step := .availableReceived size writer.tx.sent }
  | .availableReceived size writeIndex =>
    let freeBytes := config.available writeIndex rx.received
    let writer := { writer with tx.minAvailable := min freeBytes writer.tx.minAvailable }
    if freeBytes = 0 then some { writer with step := .idle }
    else some { writer with step := .allocateSent size }
  | .allocateSent size =>
    let index := writer.tx.sent % config.capacity
    some { writer with
      tx.allocated := size
      span := { offset := index + config.headerSize, size }
      step := .idle }
  | .commitSent element =>
    some { writer with step := .commitHeader writer.tx.sent element }
  | .commitHeader writeIndex element =>
    let index := writeIndex % config.capacity
    let size := writer.tx.allocated % 256 ^ config.headerSize
    some { writer with
      tx.data := overwrite writer.tx.data index (bigEndian config.headerSize size)
      tx.allocated := 0
      step := .commitStore (config.advanceIndex writeIndex size) element }
  | .commitStore writeIndex element =>
    some { writer with
      tx.sent := writeIndex
      step := .idle
      committed := writer.committed ++ [element] }

end WriterFunctions

/-! ## The reader's functions -/

section ReaderFunctions

variable (config : MemoryQueueConfig)

/-- A call of `empty`, `peek`, `release` or `clear`, each of which starts with
the check for an empty queue.  To release elements, the user gives up the
span. -/
def Reader.call (reader : Reader) (check : EmptyCheck) : Option Reader :=
  match reader.step, check with
  | .idle, .result => some { reader with step := .emptyReceived .result }
  | .idle, .peek => some { reader with step := .emptyReceived .peek }
  | .idle, .release false =>
    some { reader with step := .emptyReceived (.release false), span := {} }
  | .idle, .clear => some { reader with step := .emptyReceived .clear, span := {} }
  | _, _ => none

/-- Where `release` returns to. -/
def ReaderStep.afterRelease (inClear : Bool) : ReaderStep :=
  if inClear then .emptyReceived .clear else .idle

/-- What follows when `empty` has found the queue empty. -/
def Reader.afterEmpty (reader : Reader) : EmptyCheck → Reader
  | .result => { reader with step := .idle }
  | .peek => { reader with step := .idle, span := {} }
  | .release inClear => { reader with step := .afterRelease inClear }
  | .clear => { reader with step := .idle }

/-- What follows when `empty` has found an element. -/
def Reader.afterNonempty (reader : Reader) : EmptyCheck → Reader
  | .result => { reader with step := .idle }
  | .peek => { reader with step := .peekReceived }
  | .release inClear => { reader with step := .releaseReceived inClear }
  | .clear => { reader with step := .emptyReceived (.release true) }

/-- The next step of the function the reader is in. -/
def Reader.continue (reader : Reader) (tx : TxData) : Option Reader :=
  match reader.step with
  | .idle => none
  | .emptyReceived check => some { reader with step := .emptySent check reader.rx.received }
  | .emptySent check readIndex =>
    if tx.sent = readIndex then some (reader.afterEmpty check)
    else some (reader.afterNonempty check)
  | .peekReceived => some { reader with step := .peekHeader reader.rx.received }
  | .peekHeader readIndex =>
    let index := readIndex % config.capacity
    let size := ofBigEndian (slice tx.data index config.headerSize)
    some { reader with
      step := .idle
      span := { offset := index + config.headerSize, size }
      peeked := reader.peeked ++
        [(reader.consumed.length, slice tx.data (index + config.headerSize) size)] }
  | .releaseReceived inClear =>
    some { reader with step := .releaseHeader inClear reader.rx.received }
  | .releaseHeader inClear readIndex =>
    let index := readIndex % config.capacity
    let size := ofBigEndian (slice tx.data index config.headerSize)
    some { reader with
      step := .releaseStore inClear (config.advanceIndex readIndex size)
        (slice tx.data (index + config.headerSize) size) }
  | .releaseStore inClear readIndex element =>
    some { reader with
      rx.received := readIndex
      step := .afterRelease inClear
      consumed := reader.consumed ++ [element] }

end ReaderFunctions

/-! ## The queue as a system -/

/-- A queue with its writer and its reader, and the bytes that the user of the writer left in
its span whenever it called `commit`. -/
structure MemoryQueue where
  writer : Writer
  reader : Reader
  published : List (List UInt8) := []

inductive MemoryQueueEvent where
  | allocate (size : Nat)
  | write (position : Nat) (bytes : List UInt8)
  | commit
  | writer
  | call (check : EmptyCheck)
  | reader

namespace MemoryQueue

variable (config : MemoryQueueConfig)

/-- A new queue.  The array is not initialized. -/
def new (data : List UInt8) : MemoryQueue where
  writer := { tx := { data, minAvailable := config.capacity } }
  reader := {}

def step (queue : MemoryQueue) : MemoryQueueEvent → Option MemoryQueue
  | .allocate size =>
    (queue.writer.allocate config size).map fun writer => { queue with writer }
  | .write position bytes =>
    (queue.writer.write position bytes).map fun writer => { queue with writer }
  | .commit => queue.writer.commit.map fun writer =>
    { queue with
      writer
      published :=
        if queue.writer.span.size = 0 then queue.published
        else queue.published ++ [queue.writer.span.read queue.writer.tx.data] }
  | .writer =>
    (queue.writer.continue config queue.reader.rx).map fun writer => { queue with writer }
  | .call check => (queue.reader.call check).map fun reader => { queue with reader }
  | .reader =>
    (queue.reader.continue config queue.writer.tx).map fun reader => { queue with reader }

/-- The state after a sequence of events, if all of them are possible. -/
def run (queue : MemoryQueue) : List MemoryQueueEvent → Option MemoryQueue
  | [] => some queue
  | event :: events => (queue.step config event).bind (·.run events)

/-- Every interleaving of the two sides on an array of any content. -/
def system : System MemoryQueue MemoryQueueEvent where
  Initial queue := ∃ data : List UInt8, data.length = config.capacity ∧ queue = new config data
  Step source event target := source.step config event = some target

theorem reachable_of_run {config : MemoryQueueConfig} {source target : MemoryQueue}
    {events : List MemoryQueueEvent} (reached : (system config).Reachable source)
    (ran : source.run config events = some target) : (system config).Reachable target := by
  induction events generalizing source with
  | nil =>
    cases ran
    exact reached
  | cons event events ih =>
    obtain ⟨next, stepped, rest⟩ := Option.bind_eq_some_iff.mp ran
    exact ih (reached.step stepped) rest

end MemoryQueue

end OpenBsw.Io
