import OpenBsw.Doip.DoIpTcpConnection

/-!
# Reading a stream of messages

What a handler may be told about a stream of messages: the header of the next
message, the next bytes of its payload in the pieces that were asked for, and
that the rest has been discarded after the message was ended or declined.
-/

namespace OpenBsw.Doip

/-- A header together with the payload that it announces. -/
structure DoIpMessage where
  header : List UInt8
  payload : List UInt8
  headerLength : header.length = doipHeaderLength
  payloadLength : (DoIpHeader.ofBytes header).payloadLength = payload.length

def DoIpMessage.bytes (message : DoIpMessage) : List UInt8 :=
  message.header ++ message.payload

def streamOf (messages : List DoIpMessage) : List UInt8 :=
  messages.flatMap DoIpMessage.bytes

/-- How far the current message has been read. -/
inductive Phase
  | between
  /-- These bytes of the payload have not been received; a piece of them may
  have been asked for. -/
  | inside (rest : List UInt8) (pending : Nat)
  | discarding (callback : Bool)
  deriving DecidableEq, Repr

/-- The exchanges that read a stream of messages, the messages they have not
reached, and the phase they end in. -/
inductive Told (messages : List DoIpMessage) : List Exchange → List DoIpMessage → Phase → Prop
  | start : Told messages [] messages .between
  | header {log message todo} (told : Told messages log (message :: todo) .between) :
      Told messages (log ++ [.headerReceived message.header]) todo (.inside message.payload 0)
  | requested {log todo rest} (told : Told messages log todo (.inside rest 0)) {size : Nat}
      (within : size ≤ rest.length) :
      Told messages (log ++ [.requested size]) todo (.inside rest size)
  | payload {log todo piece rest} (told : Told messages log todo (.inside (piece ++ rest)
      piece.length)) (nonempty : piece ≠ []) :
      Told messages (log ++ [.payloadReceived piece]) todo (.inside rest 0)
  | declined {log todo rest} (told : Told messages log todo (.inside rest 0)) (callback : Bool) :
      Told messages (log ++ [.declined callback]) todo (.discarding callback)
  | ended {log todo rest pending} (told : Told messages log todo (.inside rest pending))
      (callback : Bool) : Told messages (log ++ [.ended callback]) todo (.discarding callback)
  | discarded {log todo} (told : Told messages log todo (.discarding true)) :
      Told messages (log ++ [.payloadDiscarded]) todo .between
  | dropped {log todo} (told : Told messages log todo (.discarding false)) :
      Told messages log todo .between

/-- The bytes of the stream that have been announced do not complete the next header, the piece
that was asked for or the rest of the payload. -/
def Phase.Waiting (todo : List DoIpMessage) (unannounced : Nat) : Phase → Prop
  | .between => (streamOf todo).length < unannounced + doipHeaderLength
  | .inside rest pending =>
    pending = 0 ∨ (rest ++ streamOf todo).length < unannounced + pending
  | .discarding _ => (streamOf todo).length < unannounced

variable {messages todo : List DoIpMessage} {log : List Exchange} {phase : Phase}

/-- Messages are reached in stream order. -/
theorem Told.suffix (told : Told messages log todo phase) : todo <:+ messages := by
  induction told with
  | start => exact List.suffix_refl messages
  | header _ ih => exact (List.suffix_cons _ _).trans ih
  | requested _ _ ih => exact ih
  | payload _ _ ih => exact ih
  | declined _ _ ih => exact ih
  | ended _ _ ih => exact ih
  | discarded _ ih => exact ih
  | dropped _ ih => exact ih

/-- Every header that the handler is told is one of the stream. -/
theorem Told.header_mem (told : Told messages log todo phase) (header : List UInt8)
    (member : .headerReceived header ∈ log) : ∃ message ∈ messages, message.header = header := by
  induction told with
  | start => exact absurd member List.not_mem_nil
  | @header log message todo told ih =>
    rcases List.mem_append.mp member with earlier | last
    · exact ih earlier
    · have reached := told.suffix.subset List.mem_cons_self
      rw [List.mem_singleton, Exchange.headerReceived.injEq] at last
      exact ⟨message, reached, last.symm⟩
  | requested _ _ ih => exact ih (by simpa using member)
  | payload _ _ ih => exact ih (by simpa using member)
  | declined _ _ ih => exact ih (by simpa using member)
  | ended _ _ ih => exact ih (by simpa using member)
  | discarded _ ih => exact ih (by simpa using member)
  | dropped _ ih => exact ih member

end OpenBsw.Doip
