import OpenBsw.Data.Framing
import OpenBsw.Someip.Tcp.TcpProxy
import OpenBsw.Transition.System

/-!
# Stream reassembly

The messages of a stream are frames: a header tells the length of the whole
message.  The length is formed in 32 bits, so for the largest length fields the
proxy takes a few bytes for a message.  Where these do not occur, and the
listener leaves the connection open, the proxy cuts the stream exactly at the
frames, however it is fragmented.
-/

namespace OpenBsw.Someip.TcpProxy

open Transition List Option

/-! ## Messages as frames -/

/-- The length field is among the first eight bytes. -/
theorem readLength_eq (message : List UInt8) :
    readLength message = Bytes.ofBigEndian ((message.take 8).drop 4) := by
  rw [readLength, Bytes.slice, offsetLength, drop_take]

variable {message : List UInt8} {messages done todo : List (List UInt8)} {length : Nat}
  {front back : List UInt8}

theorem getPayloadLength_append (more : List UInt8) (header : offsetPayload ≤ message.length) :
    getPayloadLength (message ++ more) = getPayloadLength message := by
  have sixteen : offsetPayload = 16 := rfl
  rw [getPayloadLength, getPayloadLength, readLength_eq, readLength_eq,
    take_append_of_le_length (by omega)]

theorem readLength_append (more : List UInt8) (header : offsetPayload ≤ message.length) :
    readLength (message ++ more) = readLength message := by
  have sixteen : offsetPayload = 16 := rfl
  rw [readLength_eq, readLength_eq, take_append_of_le_length (by omega)]

theorem getPayloadLength_take (header : offsetPayload ≤ length) :
    getPayloadLength (message.take length) = getPayloadLength message := by
  have sixteen : offsetPayload = 16 := rfl
  rw [getPayloadLength, getPayloadLength, readLength_eq, readLength_eq, take_take,
    Nat.min_eq_left (by omega)]

/-- The whole length of the message that starts a stream. -/
def messageTotal (stream : List UInt8) : Option Nat :=
  if offsetPayload ≤ stream.length then some (offsetPayload + getPayloadLength stream) else none

theorem messageTotal_eq_some {stream : List UInt8} :
    messageTotal stream = some length ↔
      offsetPayload ≤ stream.length ∧ offsetPayload + getPayloadLength stream = length := by
  rw [messageTotal]
  split <;> simp_all

def messageFraming : Framing UInt8 where
  total := messageTotal
  positive := by
    intro stream length total
    rw [messageTotal_eq_some] at total
    have sixteen : offsetPayload = 16 := rfl
    omega
  stable := by
    intro stream length more total
    rw [messageTotal_eq_some] at total ⊢
    rw [getPayloadLength_append more total.1, List.length_append]
    exact ⟨by omega, total.2⟩
  complete := by
    intro stream length total inside
    rw [messageTotal_eq_some] at total ⊢
    rw [getPayloadLength_take (by omega), length_take]
    exact ⟨by omega, total.2⟩

/-- A whole SOME/IP message. -/
abbrev IsMessage (message : List UInt8) : Prop := messageFraming.IsFrame message

theorem isMessage_iff :
    IsMessage message ↔
      offsetPayload ≤ message.length ∧
        offsetPayload + getPayloadLength message = message.length :=
  messageTotal_eq_some

instance (message : List UInt8) : Decidable (IsMessage message) :=
  decidable_of_iff _ isMessage_iff.symm

/-- No message boundary is followed by a header whose length field is so large
that the message length wraps to a few bytes.  Only messages that fit the
buffer are passed over. -/
def LengthsInRange (size : Nat) (stream : List UInt8) : Prop :=
  ∀ messages rest, stream = List.flatten messages ++ rest →
    (∀ message ∈ messages, IsMessage message ∧ message.length ≤ size) →
    offsetPayload ≤ rest.length → readLength rest ≤ Word32.modulus - lengthCorrection

theorem LengthsInRange.left {size : Nat} (inRange : LengthsInRange size (front ++ back)) :
    LengthsInRange size front := by
  intro messages rest split areMessages header
  have further := inRange messages (rest ++ back) (by rw [split, append_assoc]) areMessages
    (by rw [List.length_append]; omega)
  rwa [readLength_append back header] at further

theorem LengthsInRange.right {size : Nat} (inRange : LengthsInRange size (front ++ back))
    (whole : messageFraming.Whole front) (short : front.length ≤ size) :
    LengthsInRange size back := by
  obtain ⟨frames, rfl, areFrames⟩ := whole
  intro messages rest split areMessages header
  apply inRange (frames ++ messages) rest _ _ header
  · rw [split, flatten_append, append_assoc]
  · intro message member
    rcases mem_append.mp member with early | late
    · have fits := (sublist_flatten_of_mem early).length_le
      exact ⟨areFrames message early, by omega⟩
    · exact areMessages message late

/-! ## One pass -/

/-- The bytes that wait for the rest of their message. -/
def buffered (proxy : TcpProxy) : List UInt8 :=
  proxy.buffer.take proxy.bufferOffset

/-- The state that every step keeps: the offset is inside the buffer, whole
blocks of messages have been handed over, and what is kept is no message yet. -/
structure Ready (size : Nat) (proxy : TcpProxy) : Prop where
  length : proxy.buffer.length = size
  offset : proxy.bufferOffset ≤ size
  incomplete : messageFraming.Incomplete proxy.buffered
  whole : ∀ block ∈ proxy.received, messageFraming.Whole block

/-- A buffer of 32-bit size, with an input buffer that is at least as large. -/
structure Configured (size : Nat) (proxy : TcpProxy) : Prop where
  positive : 0 < size
  small : size < Word32.modulus
  input : size ≤ proxy.inputSize

variable {size : Nat} {proxy : TcpProxy} {listener : NetworkListener}

theorem length_buffered (inside : proxy.bufferOffset ≤ proxy.buffer.length) :
    proxy.buffered.length = proxy.bufferOffset := by
  rw [buffered, length_take, Nat.min_eq_left inside]

/-- What is parsed behind the messages that have been passed over. -/
theorem parseMessageLength_eq (inside : proxy.bufferOffset ≤ proxy.buffer.length)
    (small : proxy.bufferOffset < Word32.modulus) (split : proxy.buffered = front ++ back) :
    proxy.parseMessageLength front.length =
      some (if back.length < offsetPayload then 0
        else Word32.add offsetPayload (getPayloadLength back)) ∧
      Word32.sub proxy.bufferOffset front.length = back.length := by
  have lengths := congrArg List.length split
  rw [length_buffered inside, List.length_append] at lengths
  have difference : Word32.sub proxy.bufferOffset front.length = back.length := by
    rw [Word32.sub_eq (by omega) small]
    omega
  refine ⟨?_, difference⟩
  rw [parseMessageLength, difference]
  by_cases short : back.length < offsetPayload
  · rw [if_pos short, if_pos short]
    rfl
  · have readBack : subspan proxy.buffer front.length back.length = some back := by
      have behind : proxy.buffered.drop front.length = back := by rw [split, drop_left]
      rw [buffered, drop_take, show proxy.bufferOffset - front.length = back.length by omega]
        at behind
      rw [subspan, if_pos (by omega), Bytes.slice, behind]
    rw [if_neg short, if_neg short, readBack]
    rfl

/-- The loop passes over whole messages, up to an incomplete one. -/
theorem countValidBytes_eq (inside : proxy.bufferOffset ≤ proxy.buffer.length)
    (small : proxy.bufferOffset < Word32.modulus) (fits : proxy.bufferOffset ≤ size) (fuel : Nat)
    (front back : List UInt8) (split : proxy.buffered = front ++ back)
    (whole : messageFraming.Whole front) (inRange : LengthsInRange size back)
    (enough : back.length < fuel) :
    ∃ handed rest, proxy.countValidBytes fuel front.length = some handed.length ∧
      proxy.buffered = handed ++ rest ∧ messageFraming.Whole handed ∧
      messageFraming.Incomplete rest := by
  induction fuel generalizing front back with
  | zero => omega
  | succ fuel ih =>
    have sixteen : offsetPayload = 16 := rfl
    have eight : lengthCorrection = 8 := rfl
    obtain ⟨parsed, difference⟩ := parseMessageLength_eq inside small split
    have lengths := congrArg List.length split
    rw [length_buffered inside, List.length_append] at lengths
    rw [countValidBytes, parsed, difference]
    simp only [bind_eq_bind, bind_some]
    by_cases short : back.length < offsetPayload
    · refine ⟨front, back, ?_, split, whole, ?_⟩
      · rw [if_pos (.inl (if_pos short))]
        rfl
      · intro length total
        have known := messageTotal_eq_some.mp total
        omega
    · have header : offsetPayload ≤ back.length := by omega
      have lengthField := inRange [] back (by simp) (by simp) header
      have payload : getPayloadLength back ≤ Word32.modulus - offsetPayload := by
        rw [getPayloadLength]
        split <;> omega
      rw [if_neg short]
      by_cases ends : offsetPayload + getPayloadLength back ≤ back.length
      · have unwrapped : Word32.add offsetPayload (getPayloadLength back) =
            offsetPayload + getPayloadLength back := Word32.add_eq (by omega)
        rw [unwrapped, if_neg (by omega)]
        have total : messageFraming.total back = some (offsetPayload + getPayloadLength back) :=
          if_pos header
        have isFrame := Framing.isFrame_take total ends
        have cut : back = back.take (offsetPayload + getPayloadLength back) ++
            back.drop (offsetPayload + getPayloadLength back) :=
          (take_append_drop _ _).symm
        have cutLength : (back.take (offsetPayload + getPayloadLength back)).length =
            offsetPayload + getPayloadLength back := by
          rw [length_take, Nat.min_eq_left ends]
        have further := ih (front ++ back.take (offsetPayload + getPayloadLength back))
          (back.drop (offsetPayload + getPayloadLength back))
          (by rw [append_assoc, ← cut, split]) (whole.append isFrame.whole)
          (LengthsInRange.right (cut ▸ inRange) isFrame.whole (by rw [cutLength]; omega))
          (by rw [length_drop]; omega)
        rw [List.length_append, cutLength] at further
        exact further
      · refine ⟨front, back, ?_, split, whole, ?_⟩
        · rw [if_pos]
          · rfl
          · by_cases wraps : offsetPayload + getPayloadLength back = Word32.modulus
            · exact .inl (Word32.add_eq_zero wraps)
            · exact .inr (by rw [Word32.add_eq (by omega)]; omega)
        · intro length total
          have known := messageTotal_eq_some.mp total
          omega

/-- A block to be handed over is nothing, or appears behind the others. -/
def appended (blocks : List (List UInt8)) (handed : List UInt8) : List (List UInt8) :=
  if handed = [] then blocks else blocks ++ [handed]

theorem mem_appended {blocks : List (List UInt8)} {handed block : List UInt8}
    (member : block ∈ appended blocks handed) : block ∈ blocks ∨ block = handed := by
  rw [appended] at member
  split at member
  · exact .inl member
  · simpa using member

/-- The bytes behind the handed ones are kept, and nothing else changes. -/
structure Kept (proxy : TcpProxy) (handed : List UInt8) (next : TcpProxy) : Prop where
  stream : proxy.buffered = handed ++ next.buffered
  length : next.buffer.length = proxy.buffer.length
  offset : next.bufferOffset ≤ proxy.bufferOffset
  socket : next.socket = proxy.socket
  input : next.inputSize = proxy.inputSize

theorem Kept.refl (proxy : TcpProxy) : Kept proxy [] proxy :=
  ⟨rfl, rfl, Nat.le_refl _, rfl, rfl⟩

theorem exists_kept (proxy : TcpProxy) (inside : proxy.bufferOffset ≤ proxy.buffer.length)
    (small : proxy.bufferOffset < Word32.modulus) {handed rest : List UInt8}
    (split : proxy.buffered = handed ++ rest) :
    ∃ next, proxy.compact handed.length = some next ∧ Kept proxy handed next ∧
      next.received = proxy.received := by
  have lengths := congrArg List.length split
  rw [length_buffered inside, List.length_append] at lengths
  have difference : Word32.sub proxy.bufferOffset handed.length = rest.length := by
    rw [Word32.sub_eq (by omega) small]
    omega
  rw [compact, difference]
  by_cases empty : rest.length = 0
  · obtain rfl := eq_nil_of_length_eq_zero empty
    refine ⟨{ proxy with bufferOffset := 0 }, rfl, ⟨?_, rfl, Nat.zero_le _, rfl, rfl⟩, rfl⟩
    rw [split]
    rfl
  · have behind : proxy.buffered.drop handed.length = rest := by rw [split, drop_left]
    rw [buffered, drop_take, show proxy.bufferOffset - handed.length = rest.length by omega]
      at behind
    have taken : subspan proxy.buffer handed.length rest.length = some rest := by
      rw [subspan, if_pos (by omega), Bytes.slice, behind]
    have copied : copyTo proxy.buffer 0 rest = some (Bytes.overwrite proxy.buffer 0 rest) :=
      if_pos (by omega)
    refine ⟨{ proxy with
      buffer := Bytes.overwrite proxy.buffer 0 rest, bufferOffset := rest.length },
      ?_, ⟨?_, Bytes.length_overwrite (by omega), ?_, rfl, rfl⟩, rfl⟩
    · rw [if_pos (Nat.pos_of_ne_zero empty), taken, bind_eq_bind, bind_some, copied]
      rfl
    · have front := Bytes.take_overwrite proxy.buffer rest (Nat.zero_le _)
      rw [Nat.zero_add, take_zero, nil_append] at front
      rw [split]
      exact congrArg _ front.symm
    · dsimp only
      omega

/-- Handing over keeps the rest, if the listener leaves the connection open. -/
theorem handOver_kept (inside : proxy.bufferOffset ≤ proxy.buffer.length)
    (small : proxy.bufferOffset < Word32.modulus) (room : proxy.bufferOffset ≤ proxy.inputSize)
    (keeps : ∀ blocks, listener blocks = .keep) {handed rest : List UInt8}
    (split : proxy.buffered = handed ++ rest) :
    ∃ next, proxy.handOver listener handed.length = some next ∧ Kept proxy handed next ∧
      next.received = proxy.received ++ [handed] := by
  have lengths := congrArg List.length split
  rw [length_buffered inside, List.length_append] at lengths
  have front : proxy.buffered.take handed.length = handed := by rw [split, take_left]
  rw [buffered, take_take, Nat.min_eq_left (by omega)] at front
  have block : subspan proxy.buffer 0 handed.length = some handed := by
    rw [subspan, if_pos (by omega), Bytes.slice, drop_zero, front]
  obtain ⟨next, compacted, kept, received⟩ := exists_kept
    { proxy with received := proxy.received ++ [handed] } inside small split
  refine ⟨next, ?_, ⟨kept.stream, kept.length, kept.offset, kept.socket, kept.input⟩, received⟩
  rw [handOver, block, bind_eq_bind, bind_some, if_neg (by omega)]
  simp only [keeps, react]
  exact compacted

/-- Reading a chunk that fits appends it to the buffered bytes. -/
theorem readChunk_eq (proxy : TcpProxy) (chunk : Nat)
    (room : proxy.bufferOffset + chunk ≤ proxy.buffer.length)
    (small : proxy.buffer.length < Word32.modulus) (available : chunk ≤ proxy.socket.length) :
    ∃ buffer, proxy.readChunk chunk =
        some (true, { proxy with
          buffer, socket := proxy.socket.drop chunk, bufferOffset := proxy.bufferOffset + chunk }) ∧
      buffer.length = proxy.buffer.length ∧
      buffer.take (proxy.bufferOffset + chunk) = proxy.buffered ++ proxy.socket.take chunk := by
  have readLength : (proxy.socket.take chunk).length = chunk := by
    rw [length_take, Nat.min_eq_left available]
  refine ⟨Bytes.overwrite proxy.buffer proxy.bufferOffset (proxy.socket.take chunk), ?_,
    Bytes.length_overwrite (by omega), ?_⟩
  · have copied : copyTo proxy.buffer proxy.bufferOffset (proxy.socket.take chunk) =
        some (Bytes.overwrite proxy.buffer proxy.bufferOffset (proxy.socket.take chunk)) :=
      if_pos (by omega)
    rw [readChunk, copied, bind_eq_bind, bind_some, if_pos readLength,
      Word32.add_eq (show proxy.bufferOffset + chunk < Word32.modulus by omega)]
    rfl
  · have front := Bytes.take_overwrite proxy.buffer (proxy.socket.take chunk)
      (show proxy.bufferOffset ≤ proxy.buffer.length by omega)
    rwa [readLength] at front

/-- A socket that has fewer bytes makes the proxy drop its buffer. -/
theorem readChunk_short (proxy : TcpProxy) (chunk : Nat)
    (room : proxy.bufferOffset + chunk ≤ proxy.buffer.length)
    (missing : proxy.socket.length < chunk) :
    ∃ buffer, proxy.readChunk chunk =
        some (false, { proxy with buffer, socket := proxy.socket.drop chunk, bufferOffset := 0 }) ∧
      buffer.length = proxy.buffer.length := by
  have readLength : (proxy.socket.take chunk).length = proxy.socket.length := by
    rw [length_take, Nat.min_eq_right (by omega)]
  refine ⟨Bytes.overwrite proxy.buffer proxy.bufferOffset (proxy.socket.take chunk), ?_,
    Bytes.length_overwrite (by omega)⟩
  have copied : copyTo proxy.buffer proxy.bufferOffset (proxy.socket.take chunk) =
      some (Bytes.overwrite proxy.buffer proxy.bufferOffset (proxy.socket.take chunk)) :=
    if_pos (by omega)
  rw [readChunk, copied, bind_eq_bind, bind_some, if_neg (by omega)]
  rfl

/-- The whole messages of the buffer are handed over as one block, and the
incomplete rest is kept. -/
theorem deliver_kept (size : Nat) (proxy : TcpProxy)
    (inside : proxy.bufferOffset ≤ proxy.buffer.length)
    (small : proxy.bufferOffset < Word32.modulus) (fits : proxy.bufferOffset ≤ size)
    (room : proxy.bufferOffset ≤ proxy.inputSize) (keeps : ∀ blocks, listener blocks = .keep)
    (inRange : LengthsInRange size proxy.buffered) :
    ∃ handed next, proxy.deliver listener = some next ∧ Kept proxy handed next ∧
      messageFraming.Whole handed ∧ messageFraming.Incomplete next.buffered ∧
      next.received = appended proxy.received handed := by
  obtain ⟨handed, rest, counted, split, whole, incomplete⟩ :=
    countValidBytes_eq inside small fits (proxy.bufferOffset + 1) []
      proxy.buffered rfl Framing.whole_nil inRange
      (by rw [length_buffered inside]; omega)
  rw [length_nil] at counted
  rw [deliver, counted, bind_eq_bind, bind_some]
  by_cases nothing : handed = []
  · subst nothing
    rw [nil_append] at split
    exact ⟨[], proxy, if_neg (by simp), .refl proxy, whole, split ▸ incomplete, (if_pos rfl).symm⟩
  · obtain ⟨next, handedOver, kept, received⟩ := handOver_kept inside small room keeps split
    have restEq : next.buffered = rest := append_cancel_left (kept.stream.symm.trans split)
    refine ⟨handed, next, (if_pos (length_pos_of_ne_nil nothing)).trans handedOver, kept,
      whole, restEq ▸ incomplete, ?_⟩
    rw [received, appended, if_neg nothing]

/-- What one pass does to a proxy whose buffer has room: the bytes that it
reads follow the buffered ones, and the whole messages among them are handed
over. -/
structure Passed (proxy : TcpProxy) (chunk : Nat) (next : TcpProxy) (handed : List UInt8) :
    Prop where
  stream : proxy.buffered ++ proxy.socket.take chunk = handed ++ next.buffered
  socket : next.socket = proxy.socket.drop chunk
  whole : messageFraming.Whole handed
  short : handed.length ≤ proxy.buffer.length
  received : next.received = appended proxy.received handed
  input : next.inputSize = proxy.inputSize

theorem receiveChunk_complete {filled next : TcpProxy} (room : proxy.freeBytes ≠ 0)
    (read : proxy.readChunk (proxy.chunkOf length) = some (true, filled))
    (delivered : filled.deliver listener = some next) :
    proxy.receiveChunk listener length = some (length - proxy.chunkOf length, next) := by
  rw [receiveChunk, if_neg room, read, bind_eq_bind, bind_some]
  simp only [if_true, delivered]
  rfl

theorem receiveChunk_failed (listener : NetworkListener) {filled : TcpProxy}
    (room : proxy.freeBytes ≠ 0)
    (read : proxy.readChunk (proxy.chunkOf length) = some (false, filled)) :
    proxy.receiveChunk listener length = some (0, filled) := by
  rw [receiveChunk, if_neg room, read, bind_eq_bind, bind_some]
  rfl

/-- The free bytes of a buffer with room, and how many of them a pass fills. -/
theorem chunkOf_bounds (config : Configured size proxy) (ready : Ready size proxy)
    (length : Nat) (positive : 0 < length) :
    (proxy.freeBytes = size - proxy.bufferOffset) ∧
      (proxy.bufferOffset < size → 0 < proxy.chunkOf length) ∧ proxy.chunkOf length ≤ length ∧
      proxy.bufferOffset + proxy.chunkOf length ≤ size := by
  have offset := ready.offset
  have free : proxy.freeBytes = size - proxy.bufferOffset := by
    rw [freeBytes, ready.length, Word32.sub_eq offset config.small]
  rw [chunkOf, free]
  split <;> omega

/-- A pass over announced bytes, into a buffer with room. -/
theorem receiveChunk_passed (config : Configured size proxy) (ready : Ready size proxy)
    (keeps : ∀ blocks, listener blocks = .keep) (length : Nat) (positive : 0 < length)
    (room : proxy.bufferOffset < size) (available : proxy.chunkOf length ≤ proxy.socket.length)
    (inRange :
      LengthsInRange size (proxy.buffered ++ proxy.socket.take (proxy.chunkOf length))) :
    ∃ next handed,
      proxy.receiveChunk listener length = some (length - proxy.chunkOf length, next) ∧
      Passed proxy (proxy.chunkOf length) next handed ∧ Ready size next := by
  obtain ⟨free, -, -, fits⟩ := chunkOf_bounds config ready length positive
  have sizeEq := ready.length
  have small := config.small
  have input := config.input
  obtain ⟨buffer, read, bufferLength, stream⟩ :=
    readChunk_eq proxy (proxy.chunkOf length) (by omega) (by omega) available
  obtain ⟨filled, filledEq⟩ : ∃ filled : TcpProxy, filled =
      { proxy with
        buffer
        socket := proxy.socket.drop (proxy.chunkOf length)
        bufferOffset := proxy.bufferOffset + proxy.chunkOf length } :=
    ⟨_, rfl⟩
  rw [← filledEq] at read
  have filledLength : filled.buffer.length = size := by rw [filledEq, ← sizeEq, ← bufferLength]
  have filledOffset : filled.bufferOffset = proxy.bufferOffset + proxy.chunkOf length := by
    rw [filledEq]
  have filledInput : filled.inputSize = proxy.inputSize := by rw [filledEq]
  have filledStream :
      filled.buffered = proxy.buffered ++ proxy.socket.take (proxy.chunkOf length) := by
    rw [filledEq]
    exact stream
  obtain ⟨handed, next, delivered, kept, whole, incomplete, received⟩ :=
    deliver_kept size filled (by omega) (by omega) (by omega) (by omega)
      keeps (filledStream ▸ inRange)
  have lengths := congrArg List.length kept.stream
  rw [length_buffered (by omega), List.length_append] at lengths
  have offset := kept.offset
  refine ⟨next, handed, receiveChunk_complete (by omega) read delivered, ?_, ?_⟩
  · constructor
    · rw [← filledStream, kept.stream]
    · rw [kept.socket, filledEq]
    · exact whole
    · omega
    · rw [received, filledEq]
    · rw [kept.input, filledInput]
  · refine ⟨kept.length.trans filledLength, by omega, incomplete, ?_⟩
    intro block member
    rw [received, filledEq] at member
    rcases mem_appended member with earlier | last
    · exact ready.whole block earlier
    · rw [last]
      exact whole

/-- Every pass keeps the proxy ready, however many bytes the socket holds. -/
theorem receiveChunk_ready (config : Configured size proxy) (ready : Ready size proxy)
    (keeps : ∀ blocks, listener blocks = .keep) (positive : 0 < length)
    (inRange : LengthsInRange size (proxy.buffered ++ proxy.socket.take length)) :
    ∃ left next, proxy.receiveChunk listener length = some (left, next) ∧ left < length ∧
      Ready size next ∧ Configured size next ∧
      (left ≠ 0 → LengthsInRange size (next.buffered ++ next.socket.take left)) := by
  obtain ⟨free, advances, within, fits⟩ := chunkOf_bounds config ready length positive
  have sizeEq := ready.length
  have small := config.small
  by_cases room : proxy.bufferOffset < size
  · have split : proxy.socket.take length =
        proxy.socket.take (proxy.chunkOf length) ++
          (proxy.socket.drop (proxy.chunkOf length)).take (length - proxy.chunkOf length) := by
      rw [← take_add, Nat.add_sub_cancel' within]
    rw [split, ← append_assoc] at inRange
    have chunkPositive := advances room
    by_cases available : proxy.chunkOf length ≤ proxy.socket.length
    · obtain ⟨next, handed, received, passed, nextReady⟩ :=
        receiveChunk_passed config ready keeps length positive room available inRange.left
      refine ⟨_, next, received, by omega, nextReady,
        ⟨config.positive, small, passed.input ▸ config.input⟩, fun _ => ?_⟩
      rw [passed.stream, append_assoc] at inRange
      rw [passed.socket]
      exact inRange.right passed.whole (sizeEq ▸ passed.short)
    · -- the socket has fewer bytes than announced
      obtain ⟨buffer, read, bufferLength⟩ :=
        readChunk_short proxy (proxy.chunkOf length) (by omega) (by omega)
      have failed := receiveChunk_failed listener (by omega) read
      refine ⟨0, _, failed, positive, ?_, ?_, fun left => absurd rfl left⟩
      · exact ⟨bufferLength.trans sizeEq, Nat.zero_le _, Framing.incomplete_nil, ready.whole⟩
      · exact ⟨config.positive, small, config.input⟩
  · -- the buffer is exhausted
    refine ⟨0, { proxy with bufferOffset := 0 }, if_pos (by omega), positive, ?_, ?_,
      fun left => absurd rfl left⟩
    · exact ⟨sizeEq, Nat.zero_le _, Framing.incomplete_nil, ready.whole⟩
    · exact ⟨config.positive, small, config.input⟩

/-! ## Runs on arbitrary streams -/

theorem receiveChunks_ready {fuel length : Nat} (enough : length ≤ fuel)
    (config : Configured size proxy) (ready : Ready size proxy)
    (keeps : ∀ blocks, listener blocks = .keep)
    (inRange : LengthsInRange size (proxy.buffered ++ proxy.socket.take length)) :
    ∃ next, receiveChunks listener fuel length proxy = some next ∧
      Ready size next ∧ Configured size next := by
  induction fuel generalizing length proxy with
  | zero =>
    obtain rfl := Nat.le_zero.mp enough
    exact ⟨proxy, rfl, ready, config⟩
  | succ fuel ih =>
    cases length with
    | zero => exact ⟨proxy, rfl, ready, config⟩
    | succ length =>
      obtain ⟨left, next, received, less, nextReady, nextConfig, further⟩ :=
        receiveChunk_ready config ready keeps (Nat.zero_lt_succ length) inRange
      rw [receiveChunks, received, bind_eq_bind, bind_some]
      by_cases finished : left = 0
      · subst finished
        refine ⟨next, ?_, nextReady, nextConfig⟩
        cases fuel <;> rfl
      · exact ih (by omega) nextConfig nextReady (further finished)

/-- The listener leaves the connection open from inside `received`, and no
length field at a message boundary makes the message length wrap. -/
def Orderly (size : Nat) (proxy : TcpProxy) : TcpProxyEvent → Prop
  | .dataReceived length listener =>
    (∀ blocks, listener blocks = .keep) ∧
      LengthsInRange size (proxy.buffered ++ proxy.socket.take length)
  | _ => True

/-- A step that drops the buffer keeps the proxy ready. -/
theorem Ready.dropped {next : TcpProxy} (ready : Ready size proxy)
    (buffer : next.buffer = proxy.buffer) (offset : next.bufferOffset = 0)
    (received : next.received = proxy.received) : Ready size next := by
  refine ⟨buffer ▸ ready.length, by omega, ?_, received ▸ ready.whole⟩
  rw [buffered, offset, take_zero]
  exact Framing.incomplete_nil

theorem close_ready (ready : Ready size proxy) (config : Configured size proxy) :
    Ready size proxy.close ∧ Configured size proxy.close := by
  rw [close]
  split
  · exact ⟨ready.dropped rfl rfl rfl, config.positive, config.small, config.input⟩
  · exact ⟨ready, config⟩

/-- What an orderly event preserves. -/
theorem perform_ready {event : TcpProxyEvent}
    (good : Ready size proxy ∧ Configured size proxy) (orderly : Orderly size proxy event) :
    ∃ next, proxy.perform event = some next ∧ Ready size next ∧ Configured size next := by
  obtain ⟨ready, config⟩ := good
  have same : ∀ next : TcpProxy, next.inputSize = proxy.inputSize → Configured size next :=
    fun next input => ⟨config.positive, config.small, input ▸ config.input⟩
  cases event with
  | arrived bytes =>
    exact ⟨_, rfl, ⟨ready.length, ready.offset, ready.incomplete, ready.whole⟩, same _ rfl⟩
  | dataReceived length listener =>
    exact receiveChunks_ready (Nat.le_refl length) config ready orderly.1 orderly.2
  | connectionClosed => exact ⟨_, rfl, ready.dropped rfl rfl rfl, same _ rfl⟩
  | close => exact ⟨_, rfl, close_ready ready config⟩
  | abort => exact ⟨_, rfl, close_ready ready config⟩
  | openConnection => exact ⟨_, rfl, ready.dropped rfl rfl rfl, same _ rfl⟩

/-- A proxy whose connection has just been opened. -/
structure Fresh (size : Nat) (proxy : TcpProxy) : Prop where
  length : proxy.buffer.length = size
  offset : proxy.bufferOffset = 0
  received : proxy.received = []

theorem Fresh.buffered_eq (fresh : Fresh size proxy) : proxy.buffered = [] := by
  rw [buffered, fresh.offset, take_zero]

theorem Fresh.ready (fresh : Fresh size proxy) : Ready size proxy := by
  refine ⟨fresh.length, by rw [fresh.offset]; exact Nat.zero_le _, ?_, ?_⟩
  · rw [fresh.buffered_eq]
    exact Framing.incomplete_nil
  · rw [fresh.received]
    exact fun block member => absurd member not_mem_nil

/-! ## Streams of messages that fit the buffer -/

/-- The length fields of messages that fit are small. -/
theorem lengthsInRange_of_messages {messages : List (List UInt8)} (small : size < Word32.modulus)
    (fitting : ∀ message ∈ messages, IsMessage message ∧ message.length ≤ size)
    {front : List UInt8} (back : List UInt8) (split : messages.flatten = front ++ back) :
    LengthsInRange size front := by
  intro passed rest frontSplit areMessages header
  have sixteen : offsetPayload = 16 := rfl
  have eight : lengthCorrection = 8 := rfl
  rw [frontSplit, append_assoc] at split
  clear frontSplit
  induction passed generalizing messages with
  | nil =>
    cases messages with
    | nil =>
      have lengths := congrArg List.length split
      simp only [flatten_nil, nil_append, length_nil, List.length_append]
        at lengths
      omega
    | cons message further =>
      obtain ⟨isMessage, fits⟩ := fitting message mem_cons_self
      rw [isMessage_iff] at isMessage
      rw [flatten_cons, flatten_nil, nil_append] at split
      have same : readLength rest = readLength message := by
        rw [← readLength_append back header, ← split, readLength_append _ isMessage.1]
      have payload := isMessage.2
      rw [getPayloadLength] at payload
      rw [same]
      split at payload <;> omega
  | cons first passed ih =>
    rw [flatten_cons, append_assoc] at split
    obtain ⟨further, rfl, restSplit⟩ := (areMessages first mem_cons_self).1.first
      (fun message member => (fitting message member).1) split
    exact ih (fun message member => fitting message (mem_cons_of_mem _ member))
      restSplit fun message member => areMessages message (mem_cons_of_mem _ member)

/-- A buffer that is full holds a whole message of such a stream. -/
theorem room_of_messages {todo : List (List UInt8)} (ready : Ready size proxy)
    (fitting : ∀ message ∈ todo, IsMessage message ∧ message.length ≤ size)
    (rest : todo.flatten = proxy.buffered ++ proxy.socket) (unread : proxy.socket ≠ []) :
    proxy.bufferOffset < size := by
  cases todo with
  | nil =>
    have empty := (append_eq_nil_iff.mp rest.symm).2
    exact absurd empty unread
  | cons message further =>
    obtain ⟨isMessage, fits⟩ := fitting message mem_cons_self
    have short := ready.incomplete.lt isMessage rest
    have inside := ready.offset
    have sizeEq := ready.length
    rw [length_buffered (by omega)] at short
    omega

/-- What has been handed over and what is left of a stream of messages. -/
structure Cut (messages : List (List UInt8)) (proxy : TcpProxy) (done todo : List (List UInt8)) :
    Prop where
  messages : messages = done ++ todo
  handed : proxy.received.flatten = done.flatten
  rest : todo.flatten = proxy.buffered ++ proxy.socket

theorem flatten_appended (blocks : List (List UInt8)) (handed : List UInt8) :
    (appended blocks handed).flatten = blocks.flatten ++ handed := by
  rw [appended]
  split
  · next nothing => rw [nothing, append_nil]
  · rw [flatten_append, flatten_cons, flatten_nil, append_nil]

/-- A pass hands over the next messages of the stream. -/
theorem Cut.passed {chunk : Nat} {next : TcpProxy} {handed : List UInt8}
    (cut : Cut messages proxy done todo)
    (fitting : ∀ message ∈ messages, IsMessage message ∧ message.length ≤ size)
    (passed : Passed proxy chunk next handed) : ∃ done todo, Cut messages next done todo := by
  have split : todo.flatten = handed ++ (next.buffered ++ next.socket) := by
    rw [cut.rest, passed.socket, ← append_assoc, ← passed.stream, append_assoc,
      take_append_drop]
  have areMessages : ∀ message ∈ todo, IsMessage message := fun message member =>
    (fitting message (cut.messages ▸ mem_append_right _ member)).1
  obtain ⟨more, left, rfl, moreEq, leftEq⟩ := passed.whole.front areMessages split
  refine ⟨done ++ more, left, ?_, ?_, leftEq⟩
  · rw [cut.messages, append_assoc]
  · rw [passed.received, flatten_appended, cut.handed, flatten_append, moreEq]

/-- The announced part of a stream of messages is read completely. -/
theorem receiveChunks_cut {fuel length : Nat} (enough : length ≤ fuel)
    (config : Configured size proxy) (ready : Ready size proxy)
    (keeps : ∀ blocks, listener blocks = .keep)
    (fitting : ∀ message ∈ messages, IsMessage message ∧ message.length ≤ size)
    (cut : Cut messages proxy done todo) (available : length ≤ proxy.socket.length) :
    ∃ next done todo, receiveChunks listener fuel length proxy = some next ∧
      Ready size next ∧ Configured size next ∧ Cut messages next done todo ∧
      next.socket = proxy.socket.drop length := by
  induction fuel generalizing length proxy done todo with
  | zero =>
    obtain rfl := Nat.le_zero.mp enough
    exact ⟨proxy, done, todo, rfl, ready, config, cut, rfl⟩
  | succ fuel ih =>
    cases length with
    | zero => exact ⟨proxy, done, todo, rfl, ready, config, cut, rfl⟩
    | succ length =>
      have todoFitting : ∀ message ∈ todo, IsMessage message ∧ message.length ≤ size :=
        fun message member =>
          fitting message (cut.messages ▸ mem_append_right _ member)
      have unread : proxy.socket ≠ [] := ne_nil_of_length_pos (by omega)
      have room := room_of_messages ready todoFitting cut.rest unread
      obtain ⟨-, advances, within, -⟩ := chunkOf_bounds config ready (length + 1) (by omega)
      have chunkPositive := advances room
      have inRange : LengthsInRange size
          (proxy.buffered ++ proxy.socket.take (proxy.chunkOf (length + 1))) := by
        apply lengthsInRange_of_messages config.small todoFitting
          (proxy.socket.drop (proxy.chunkOf (length + 1)))
        rw [append_assoc, take_append_drop, cut.rest]
      obtain ⟨next, handed, received, passed, nextReady⟩ :=
        receiveChunk_passed config ready keeps (length + 1) (by omega) room (by omega) inRange
      obtain ⟨nextDone, nextTodo, nextCut⟩ := cut.passed fitting passed
      have left : length + 1 - proxy.chunkOf (length + 1) ≤ next.socket.length := by
        rw [passed.socket, length_drop]
        omega
      obtain ⟨final, finalDone, finalTodo, receivedAll, finalReady, finalConfig, finalCut,
        finalSocket⟩ := ih (by omega)
          ⟨config.positive, config.small, passed.input ▸ config.input⟩ nextReady nextCut left
      refine ⟨final, finalDone, finalTodo, ?_, finalReady, finalConfig, finalCut, ?_⟩
      · rw [receiveChunks, received, bind_eq_bind, bind_some]
        exact receivedAll
      · rw [finalSocket, passed.socket, drop_drop, Nat.add_sub_cancel' within]

/-- The notifications of a run, each with the listener that is set. -/
def notifications (fragments : List (Nat × NetworkListener)) : List TcpProxyEvent :=
  fragments.map fun fragment => .dataReceived fragment.1 fragment.2

theorem play_notifications {fragments : List (Nat × NetworkListener)}
    (config : Configured size proxy) (ready : Ready size proxy)
    (keeps : ∀ fragment ∈ fragments, ∀ blocks, fragment.2 blocks = .keep)
    (fitting : ∀ message ∈ messages, IsMessage message ∧ message.length ≤ size)
    (cut : Cut messages proxy done todo)
    (available : (fragments.map Prod.fst).sum ≤ proxy.socket.length) :
    ∃ final done todo, System.play perform proxy (notifications fragments) = some final ∧
      Ready size final ∧ Cut messages final done todo ∧
      final.socket = proxy.socket.drop (fragments.map Prod.fst).sum := by
  induction fragments generalizing proxy done todo with
  | nil => exact ⟨proxy, done, todo, rfl, ready, cut, rfl⟩
  | cons fragment rest ih =>
    rw [map_cons, sum_cons] at available ⊢
    obtain ⟨next, nextDone, nextTodo, received, nextReady, nextConfig, nextCut, socket⟩ :=
      receiveChunks_cut (Nat.le_refl fragment.1) config ready
        (keeps fragment mem_cons_self) fitting cut (by omega)
    obtain ⟨final, finalDone, finalTodo, played, finalReady, finalCut, finalSocket⟩ :=
      ih nextConfig nextReady (fun other member => keeps other (mem_cons_of_mem _ member))
        nextCut (by rw [socket, length_drop]; omega)
    refine ⟨final, finalDone, finalTodo, ?_, finalReady, finalCut, ?_⟩
    · rw [notifications, map_cons, System.play, foldlM_cons]
      exact (congrArg (· >>= _) received).trans played
    · rw [finalSocket, socket, drop_drop]

/-! ## Fragmentation independence and safety -/

/-- A stream of messages is handed over as it is cut at message boundaries,
and exactly the incomplete rest is kept. -/
def Reassembled (messages : List (List UInt8)) (notified : Nat) (final : TcpProxy) : Prop :=
  (∃ done todo, Cut messages final done todo ∧
    ∀ message ∈ todo.head?, final.buffered.length < message.length) ∧
    final.received.flatten ++ final.buffered = messages.flatten.take notified ∧
    ∀ block ∈ final.received, messageFraming.Whole block

/-- The offset is inside the buffer, and what has been handed over consists of
whole messages. -/
def Safe (size : Nat) (final : TcpProxy) : Prop :=
  final.bufferOffset ≤ size ∧ ∀ block ∈ final.received, messageFraming.Whole block

/-- Where no listener closes or aborts the connection from inside `received`,
and the input buffer can hold the reassembly buffer, every stream of fitting
messages is reassembled in every fragmentation; and every stream is received
safely as long as no length field wraps. -/
theorem dataReceived_reassembles (size : Nat) (proxy : TcpProxy) (config : Configured size proxy)
    (fresh : Fresh size proxy) :
    (∀ messages fragments, (∀ message ∈ messages, IsMessage message ∧ message.length ≤ size) →
      proxy.socket = messages.flatten →
      (∀ fragment ∈ fragments, ∀ blocks, fragment.2 blocks = .keep) →
      (fragments.map Prod.fst).sum ≤ proxy.socket.length →
      ∃ final, System.play perform proxy (notifications fragments) = some final ∧
        Reassembled messages (fragments.map Prod.fst).sum final) ∧
    ∀ events, System.Guarded perform (Orderly size) proxy events →
      ∃ final, System.play perform proxy events = some final ∧ Safe size final := by
  constructor
  · intro messages fragments fitting stream keeps available
    have start : Cut messages proxy [] messages :=
      ⟨rfl, by rw [fresh.received], by rw [fresh.buffered_eq, nil_append, stream]⟩
    obtain ⟨final, done, todo, played, ready, cut, socket⟩ :=
      play_notifications config fresh.ready keeps fitting start available
    refine ⟨final, played, ⟨done, todo, cut, ?_⟩, ?_, ready.whole⟩
    · intro message first
      cases todo with
      | nil => exact absurd first (by simp)
      | cons head further =>
        obtain rfl : head = message := by simpa using first
        have member : head ∈ messages := by
          rw [cut.messages]
          exact mem_append_right _ mem_cons_self
        exact ready.incomplete.lt (fitting head member).1 cut.rest
    · have whole : messages.flatten =
          (final.received.flatten ++ final.buffered) ++ final.socket := by
        rw [cut.messages, flatten_append, cut.handed, cut.rest, append_assoc]
      have unread := congrArg List.length socket
      rw [length_drop, stream] at unread
      rw [stream] at available
      have lengths := congrArg List.length whole
      rw [List.length_append] at lengths
      rw [whole, take_left' (by omega)]
  · intro events guarded
    obtain ⟨final, played, ready, -⟩ :=
      System.play_of_guarded (fun state => Ready size state ∧ Configured size state)
        (fun good orderly => perform_ready good orderly) ⟨fresh.ready, config⟩ guarded
    exact ⟨final, played, ready.offset, ready.whole⟩

/-- A header with a length field. -/
def sampleHeader (length : Nat) : List UInt8 :=
  [0x12, 0x34, 0x80, 0x01] ++ Bytes.bigEndian 4 length ++ [0, 1, 0, 1, 1, 1, 2, 0]

/-- An open connection with a stream at its socket. -/
def sampleProxy (stream : List UInt8) : TcpProxy :=
  { buffer := List.replicate 32 0, bufferOffset := 0, inputSize := 32, isOpen := true,
    socket := stream, received := [] }

-- The samples are evaluated.
attribute [local semireducible] Word32.modulus Word32.add Word32.sub

theorem sampleProxy_configured (stream : List UInt8) : Configured 32 (sampleProxy stream) :=
  ⟨by decide, by decide, Nat.le_refl 32⟩

theorem sampleProxy_fresh (stream : List UInt8) : Fresh 32 (sampleProxy stream) :=
  ⟨rfl, rfl, rfl⟩

/-- Two messages, one with two bytes of payload, in three fragments. -/
theorem dataReceived_reassembles_sample :
    ∃ final,
      System.play perform (sampleProxy (sampleHeader 8 ++ (sampleHeader 10 ++ [7, 9])))
        (notifications [(5, fun _ => .keep), (20, fun _ => .keep), (6, fun _ => .keep)]) =
          some final ∧
        Reassembled [sampleHeader 8, sampleHeader 10 ++ [7, 9]] 31 final :=
  (dataReceived_reassembles 32 _ (sampleProxy_configured _) (sampleProxy_fresh _)).1
    [sampleHeader 8, sampleHeader 10 ++ [7, 9]]
    [(5, fun _ => .keep), (20, fun _ => .keep), (6, fun _ => .keep)]
    (by decide) (by decide) (by simp) (by decide)

theorem le_length_of_whole {block : List UInt8} (whole : messageFraming.Whole block)
    (nonempty : block ≠ []) : offsetPayload ≤ block.length := by
  obtain ⟨frames, rfl, areFrames⟩ := whole
  cases frames with
  | nil => exact absurd rfl nonempty
  | cons frame rest =>
    have header := (isMessage_iff.mp (areFrames frame mem_cons_self)).1
    rw [flatten_cons, List.length_append]
    omega

/-- A listener that closes the connection makes the proxy leave its buffer, and
a length field of all ones makes it hand over seven bytes of a header. -/
theorem not_dataReceived_safe :
    (sampleProxy (sampleHeader 8)).perform (.dataReceived 16 fun _ => .close) = none ∧
      ∃ final, (sampleProxy (sampleHeader 0xFFFFFFFF)).perform
          (.dataReceived 16 fun _ => .keep) = some final ∧ ¬ Safe 32 final := by
  refine ⟨by decide, ?_⟩
  have handed : ((sampleProxy (sampleHeader 0xFFFFFFFF)).perform
      (.dataReceived 16 fun _ => .keep)).map (·.received) =
        some [(sampleHeader 0xFFFFFFFF).take 7] := by decide
  obtain ⟨final, performed, received⟩ := map_eq_some_iff.mp handed
  refine ⟨final, performed, fun safe => ?_⟩
  have whole := safe.2 ((sampleHeader 0xFFFFFFFF).take 7) (by rw [received]; simp)
  have long := le_length_of_whole whole (by decide)
  exact absurd long (by decide)

end OpenBsw.Someip.TcpProxy
