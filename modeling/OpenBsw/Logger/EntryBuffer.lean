import OpenBsw.Data.RingMemory
import OpenBsw.Transition.System

/-!
# The ring buffer of the logger

Each entry is stored behind a byte with its length, and both may pass the end
of the buffer.  A new entry removes the oldest ones until there is room.  A
reader keeps a pointer to its next entry and the index of that entry, which
tells whether it was removed meanwhile.
-/

namespace OpenBsw.Logger

universe u

open OpenBsw.Bytes
open OpenBsw.Transition

/-- A reader of the buffer.  Indices are of an unsigned type with this many bits. -/
structure EntryRef (bits : Nat) where
  idx : BitVec bits
  readPos : Option Nat := none
  deriving DecidableEq

/-- The buffer, with offsets for pointers. -/
structure EntryBuffer (bits : Nat) where
  buffer : List UInt8
  firstEntry : Nat := 0
  write : Nat := 0
  firstEntryIndex : BitVec bits := 0
  writeEntryIndex : BitVec bits := 0
  usedSize : Nat := 0
  deriving DecidableEq

namespace EntryBuffer

variable {bits : Nat}

def size (self : EntryBuffer bits) : Nat := self.buffer.length

def movePointer (self : EntryBuffer bits) (pointer offset : Nat) : Nat :=
  RingMemory.move self.size pointer offset

/-- The byte a pointer points to. -/
def load (self : EntryBuffer bits) (pointer : Nat) : Nat :=
  (self.buffer[pointer]?.getD 0).toNat

/-- Removes the oldest entry. -/
def removeFirst (self : EntryBuffer bits) : EntryBuffer bits :=
  { self with
    firstEntryIndex := self.firstEntryIndex + 1
    firstEntry := self.movePointer self.firstEntry (self.load self.firstEntry + 1)
    usedSize := self.usedSize - (self.load self.firstEntry + 1) }

/-- The loop of `addEntry`, with a bound on the number of rounds. -/
def makeRoom (neededSize : Nat) : Nat → EntryBuffer bits → EntryBuffer bits
  | 0, self => self
  | rounds + 1, self =>
    if self.size < self.usedSize + neededSize then self.removeFirst.makeRoom neededSize rounds
    else self

/-- Copies bytes behind the write pointer and moves it. -/
def append (self : EntryBuffer bits) (block : List UInt8) : EntryBuffer bits :=
  { self with
    buffer := RingMemory.put self.buffer self.write block
    write := self.movePointer self.write block.length }

/-- The length byte and the bytes of an entry. -/
def store (self : EntryBuffer bits) (entry : List UInt8) : EntryBuffer bits :=
  let stored := (self.append [UInt8.ofNat entry.length]).append entry
  { stored with
    usedSize := self.usedSize + (entry.length + 1)
    writeEntryIndex := self.writeEntryIndex + 1 }

/-- An entry is removed in each round, so there are no more rounds than used bytes. -/
def addEntry (maxBufferSize : Nat) (self : EntryBuffer bits) (entryBuffer : List UInt8) :
    EntryBuffer bits :=
  let entry := entryBuffer.take maxBufferSize
  (self.makeRoom (entry.length + 1) (self.usedSize + 1)).store entry

/-- The reader as `getNextEntry` uses it: its own position, or the oldest entry where it has none
or was overtaken. -/
def position (self : EntryBuffer bits) (entryRef : EntryRef bits) : BitVec bits × Nat :=
  match entryRef.readPos with
  | none => (self.firstEntryIndex, self.firstEntry)
  | some readPos =>
    if (entryRef.idx - self.firstEntryIndex).toInt < 0 then
      (self.firstEntryIndex, self.firstEntry)
    else (entryRef.idx, readPos)

/-- The bytes written to a reader's own buffer, with the updated reader, or nothing. -/
def getNextEntry (self : EntryBuffer bits) (bufferSize : Nat) (entryRef : EntryRef bits) :
    Option (List UInt8 × EntryRef bits) :=
  let entryIndex := (self.position entryRef).1
  let readPos := (self.position entryRef).2
  if entryIndex = self.writeEntryIndex then none
  else
    let entrySize := self.load readPos
    let data := self.movePointer readPos 1
    some (RingMemory.get self.buffer data (min entrySize bufferSize),
      { idx := entryIndex + 1, readPos := some (self.movePointer data entrySize) })

end EntryBuffer

/-! ## The log that readers follow -/

/-- What the buffer is for: it retains the newest entries, and each reader goes through them. -/
structure EntryLog (ι : Type u) where
  /-- All entries that were added. -/
  entries : List (List UInt8) := []
  /-- The number of the oldest entries that were removed. -/
  removed : Nat := 0
  /-- The number of the entry that a reader reads next, once it has read one. -/
  next : ι → Option Nat := fun _ => none

namespace EntryLog

variable {ι : Type u}

/-- The bytes that entries take, each with its length. -/
def footprint (entries : List (List UInt8)) : Nat :=
  (entries.map fun entry => entry.length + 1).sum

def retained (log : EntryLog ι) : List (List UInt8) :=
  log.entries.drop log.removed

/-- The number of the entries to remove before one of this size is added. -/
def overflow (size neededSize : Nat) : List (List UInt8) → Nat
  | [] => 0
  | entry :: rest =>
    if size < footprint (entry :: rest) + neededSize then overflow size neededSize rest + 1
    else 0

def add (size : Nat) (log : EntryLog ι) (entry : List UInt8) : EntryLog ι :=
  { log with
    entries := log.entries ++ [entry]
    removed := log.removed + overflow size (entry.length + 1) log.retained }

/-- The entry that a reader reads next: the one behind the last one it read if that is retained,
and else the oldest one. -/
def target (log : EntryLog ι) (reader : ι) : Nat :=
  max ((log.next reader).getD 0) log.removed

/-- The next entry of a reader with its number, unless it has read the newest one. -/
def read (log : EntryLog ι) (reader : ι) : Option (Nat × List UInt8) :=
  log.entries[log.target reader]?.map fun entry => (log.target reader, entry)

def advance [DecidableEq ι] (log : EntryLog ι) (reader : ι) : EntryLog ι :=
  if log.target reader < log.entries.length then
    { log with next := Function.update log.next reader (some (log.target reader + 1)) }
  else log

/-- The entries a reader has not read. -/
def behind (log : EntryLog ι) (reader : ι) : Nat :=
  match log.next reader with
  | none => 0
  | some next => log.entries.length - next

end EntryLog

end OpenBsw.Logger
