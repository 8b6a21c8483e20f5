import OpenBsw.Routing.PduTransportRxAdapter

/-!
# The PDUs of a frame

The reference cuts a frame into its messages and selects the PDUs of each of
them.  The functions of the adapter are specified by it, under conditions that
keep the sums of 32 bits from wrapping.
-/

namespace OpenBsw.Routing

open OpenBsw.Bytes

/-! ## The reference -/

/-- The payload length in the header of a message. -/
def payloadLength (frame : List UInt8) : Nat :=
  ofBigEndian (slice frame 4 4)

/-- A frame starts with a whole message. -/
def Whole (frame : List UInt8) : Prop :=
  8 ≤ frame.length ∧ 8 + payloadLength frame ≤ frame.length

instance (frame : List UInt8) : Decidable (Whole frame) :=
  inferInstanceAs (Decidable (_ ∧ _))

/-- The messages of a frame, and what is left behind the last whole one. -/
def cut (frame : List UInt8) : List (List UInt8) × List UInt8 :=
  if whole : Whole frame then
    let rest := cut (frame.drop (8 + payloadLength frame))
    (frame.take (8 + payloadLength frame) :: rest.1, rest.2)
  else
    ([], frame)
termination_by frame.length
decreasing_by
  have positive := whole.1
  rw [List.length_drop]
  omega

/-- Where the PDUs of the message with an index start. -/
def firstPdu (table : RxAdapterTable) (index : Nat) : Nat :=
  (table.pduLengthsOffsets[index]?.getD 0).toNat

/-- The length of the messages with an index, zero if none is configured. -/
def messageLength (table : RxAdapterTable) (index : Nat) : Nat :=
  (table.messageLengths[index]?.getD 0).toNat

/-- The index of a message with a known id and the configured length, if one is configured. -/
def messageIndex (table : RxAdapterTable) (message : List UInt8) : Option Nat := do
  let index ← table.messageIds.findIdx? fun known => known.toNat == ofBigEndian (message.take 4)
  if messageLength table index = 0 ∨ messageLength table index = payloadLength message then
    some index
  else
    none

def pduOffset (table : RxAdapterTable) (id : Nat) : Nat :=
  (table.pduOffsets[id]?.getD 0).toNat

def pduLength (table : RxAdapterTable) (id : Nat) : Nat :=
  (table.pduLengths[id]?.getD 0).toNat

/-- A configured PDU of a message, if it fits into the payload and into the buffer. -/
def configuredPdu (table : RxAdapterTable) (maxElementSize : Nat) (message : List UInt8)
    (id : Nat) : Option (List UInt8) :=
  if pduOffset table id + pduLength table id ≤ message.length - 8 ∧
      8 + pduLength table id ≤ maxElementSize then
    some (bigEndian 4 (Word32.add table.firstId.toNat id) ++ bigEndian 4 (pduLength table id) ++
      slice (message.drop 8) (pduOffset table id) (pduLength table id))
  else none

/-- The fitting ones of `count` PDUs in table order. -/
def pdusFrom (table : RxAdapterTable) (maxElementSize : Nat) (message : List UInt8)
    (first count : Nat) : List (List UInt8) :=
  (List.range' first count).filterMap (configuredPdu table maxElementSize message)

/-- The PDUs of a message. -/
def pdusOf (table : RxAdapterTable) (maxElementSize : Nat) (message : List UInt8) :
    List (List UInt8) :=
  match messageIndex table message with
  | none => []
  | some index =>
    pdusFrom table maxElementSize message (firstPdu table index)
      (firstPdu table (index + 1) - firstPdu table index)

/-- The PDUs of a frame. -/
def pdusOfFrame (table : RxAdapterTable) (maxElementSize : Nat) (frame : List UInt8) :
    List (List UInt8) :=
  (cut frame).1.flatMap (pdusOf table maxElementSize)

/-- The columns of a table fit together. -/
structure Consistent (table : RxAdapterTable) : Prop where
  messageLengths : table.messageLengths = [] ∨
    table.messageLengths.length = table.messageIds.length
  size : table.pduLengthsOffsets.length = table.messageIds.length + 1
  sorted : table.pduLengthsOffsets.Pairwise (· ≤ ·)
  last : firstPdu table table.messageIds.length = table.pduLengths.length
  pduOffsets : table.pduOffsets.length = table.pduLengths.length

/-- No sum wraps while the frame is read: neither the size of the message that is cut off, nor
the end of a configured PDU that seems to fit. -/
structure Readable (table : RxAdapterTable) (frame : List UInt8) : Prop where
  lengths : 8 ≤ (cut frame).2.length → 8 + payloadLength (cut frame).2 < 2 ^ 32
  ranges : ∀ message ∈ (cut frame).1, ∀ index, messageIndex table message = some index →
    ∀ id, firstPdu table index ≤ id → id < firstPdu table (index + 1) →
      Word32.add (pduOffset table id) (pduLength table id) ≤ message.length - 8 →
        pduOffset table id + pduLength table id < 2 ^ 32

/-- If the frame ends with a known message, a PDU of it fits. -/
def LastFits (table : RxAdapterTable) (maxElementSize : Nat) (frame : List UInt8) : Prop :=
  (cut frame).2 = [] → ∀ message ∈ (cut frame).1.getLast?,
    messageIndex table message ≠ none → pdusOf table maxElementSize message ≠ []

/-! ## Cutting -/

variable {table : RxAdapterTable} {maxElementSize : Nat} {frame message : List UInt8}

theorem cut_of_whole (whole : Whole frame) :
    cut frame = (frame.take (8 + payloadLength frame) ::
      (cut (frame.drop (8 + payloadLength frame))).1,
        (cut (frame.drop (8 + payloadLength frame))).2) := by
  rw [cut, dif_pos whole]

theorem cut_of_not_whole (broken : ¬ Whole frame) : cut frame = ([], frame) := by
  rw [cut, dif_neg broken]

theorem cut_nil : cut [] = ([], []) :=
  cut_of_not_whole fun whole => absurd whole.1 (by decide)

theorem pdusOfFrame_nil : pdusOfFrame table maxElementSize [] = [] := by
  rw [pdusOfFrame, cut_nil]
  rfl

theorem pdusOfFrame_of_whole (whole : Whole frame) :
    pdusOfFrame table maxElementSize frame =
      pdusOf table maxElementSize (frame.take (8 + payloadLength frame)) ++
        pdusOfFrame table maxElementSize (frame.drop (8 + payloadLength frame)) := by
  rw [pdusOfFrame, cut_of_whole whole, List.flatMap_cons]
  rfl

theorem pdusOfFrame_of_not_whole (broken : ¬ Whole frame) :
    pdusOfFrame table maxElementSize frame = [] := by
  rw [pdusOfFrame, cut_of_not_whole broken]
  rfl

theorem length_message (whole : Whole frame) :
    (frame.take (8 + payloadLength frame)).length = 8 + payloadLength frame :=
  List.length_take_of_le whole.2

/-! ## Messages -/

/-- A header with the length of the payload behind it. -/
def IsMessage (message : List UInt8) : Prop :=
  message.length = 8 + payloadLength message

instance (message : List UInt8) : Decidable (IsMessage message) :=
  inferInstanceAs (Decidable (_ = _))

/-- A message whose configured ranges do not wrap. -/
structure Transportable (table : RxAdapterTable) (message : List UInt8) : Prop where
  isMessage : IsMessage message
  ranges : ∀ index, messageIndex table message = some index →
    ∀ id, firstPdu table index ≤ id → id < firstPdu table (index + 1) →
      Word32.add (pduOffset table id) (pduLength table id) ≤ message.length - 8 →
        pduOffset table id + pduLength table id < 2 ^ 32

theorem IsMessage.payloadLength_append (isMessage : IsMessage message) (rest : List UInt8) :
    payloadLength (message ++ rest) = payloadLength message := by
  rw [payloadLength, payloadLength, slice, slice, List.drop_append,
    List.take_append_of_le_length (by rw [List.length_drop, isMessage]; omega)]

/-- Messages one after another are cut apart again. -/
theorem cut_flatten {messages : List (List UInt8)}
    (areMessages : ∀ message ∈ messages, IsMessage message) :
    cut messages.flatten = (messages, []) := by
  induction messages with
  | nil => exact cut_nil
  | cons message rest ih =>
    obtain ⟨isMessage, others⟩ := List.forall_mem_cons.mp areMessages
    have payload := isMessage.payloadLength_append rest.flatten
    have whole : Whole (message ++ rest.flatten) := by
      rw [Whole, payload, List.length_append, isMessage]
      omega
    rw [List.flatten_cons, cut_of_whole whole, payload, ← isMessage, List.drop_left,
      List.take_left, ih others]

theorem pdusOfFrame_flatten {messages : List (List UInt8)}
    (areMessages : ∀ message ∈ messages, IsMessage message) :
    pdusOfFrame table maxElementSize messages.flatten =
      messages.flatMap (pdusOf table maxElementSize) := by
  rw [pdusOfFrame, cut_flatten areMessages]

theorem readable_flatten {messages : List (List UInt8)}
    (transportable : ∀ message ∈ messages, Transportable table message) :
    Readable table messages.flatten := by
  have cutEq := cut_flatten fun message member => (transportable message member).isMessage
  refine ⟨?_, ?_⟩
  · rw [cutEq]
    exact fun long => absurd long (Nat.not_succ_le_zero _)
  · rw [cutEq]
    exact fun message member => (transportable message member).ranges

/-! ## Tables -/

theorem messageIndex_lt {index : Nat} (known : messageIndex table message = some index) :
    index < table.messageIds.length := by
  rw [messageIndex, Option.bind_eq_bind, Option.bind_eq_some_iff] at known
  obtain ⟨found, some, selected⟩ := known
  rw [Option.ite_none_right_eq_some, Option.some.injEq] at selected
  rw [← selected.2]
  exact (List.findIdx?_eq_some_iff_getElem.mp some).1

/-- The entries for a known index. -/
theorem Consistent.entries (consistent : Consistent table) {index : Nat}
    (inside : index < table.messageIds.length) :
    (∃ entry, table.pduLengthsOffsets[index]? = some entry ∧ entry.toNat = firstPdu table index) ∧
    (∃ entry, table.pduLengthsOffsets[index + 1]? = some entry ∧
      entry.toNat = firstPdu table (index + 1)) := by
  have size := consistent.size
  have entry : ∀ position < table.pduLengthsOffsets.length,
      ∃ entry, table.pduLengthsOffsets[position]? = some entry ∧
        entry.toNat = firstPdu table position := by
    intro position small
    refine ⟨table.pduLengthsOffsets[position], List.getElem?_eq_getElem small, ?_⟩
    rw [firstPdu, List.getElem?_eq_getElem small, Option.getD_some]
  exact ⟨entry index (by omega), entry (index + 1) (by omega)⟩

/-- The offsets do not decrease. -/
theorem Consistent.firstPdu_le (consistent : Consistent table) {first second : Nat}
    (ordered : first ≤ second) (inside : second ≤ table.messageIds.length) :
    firstPdu table first ≤ firstPdu table second := by
  have size := consistent.size
  rcases Nat.lt_or_eq_of_le ordered with less | rfl
  · have firstInside : first < table.pduLengthsOffsets.length := by omega
    have secondInside : second < table.pduLengthsOffsets.length := by omega
    have sorted := List.pairwise_iff_getElem.mp consistent.sorted first second firstInside
      secondInside less
    rw [firstPdu, firstPdu, List.getElem?_eq_getElem firstInside,
      List.getElem?_eq_getElem secondInside, Option.getD_some, Option.getD_some]
    exact UInt32.le_iff_toNat_le.mp sorted
  · exact Nat.le_refl _

theorem firstPdu_lt (table : RxAdapterTable) (index : Nat) : firstPdu table index < 2 ^ 32 :=
  UInt32.toNat_lt _

/-- The PDUs of a known message are in the table. -/
theorem Consistent.id_lt (consistent : Consistent table) {index id : Nat}
    (inside : index < table.messageIds.length) (below : id < firstPdu table (index + 1)) :
    id < table.pduLengths.length := by
  have bound := consistent.firstPdu_le (Nat.succ_le_of_lt inside) (Nat.le_refl _)
  rw [consistent.last] at bound
  exact Nat.lt_of_lt_of_le below bound

/-- In a table without a range that wraps. -/
theorem IsMessage.transportable (isMessage : IsMessage message) (consistent : Consistent table)
    (ranges : ∀ id < table.pduLengths.length,
      pduOffset table id + pduLength table id < 2 ^ 32) :
    Transportable table message where
  isMessage := isMessage
  ranges _ known id _ below _ := ranges id (consistent.id_lt (messageIndex_lt known) below)

/-! ## Suffixes of a frame -/

/-- What is left of a frame behind some of its messages. -/
def IsRest (head rest : List UInt8) : Prop :=
  ∃ before, cut head = (before ++ (cut rest).1, (cut rest).2)

theorem IsRest.refl (head : List UInt8) : IsRest head head :=
  ⟨[], rfl⟩

theorem IsRest.drop {head rest : List UInt8} (isRest : IsRest head rest) (whole : Whole rest) :
    IsRest head (rest.drop (8 + payloadLength rest)) := by
  obtain ⟨before, cutEq⟩ := isRest
  refine ⟨before ++ [rest.take (8 + payloadLength rest)], ?_⟩
  rw [cutEq, cut_of_whole whole, List.append_assoc]
  rfl

theorem IsRest.readable {head rest : List UInt8} (isRest : IsRest head rest)
    (readable : Readable table head) : Readable table rest := by
  obtain ⟨before, cutEq⟩ := isRest
  refine ⟨?_, fun message member => ?_⟩
  · have lengths := readable.lengths
    rw [cutEq] at lengths
    exact lengths
  · refine readable.ranges message ?_
    rw [cutEq]
    exact List.mem_append_right before member

/-- The last message of a frame is the last of what is left. -/
theorem IsRest.not_lastFits {head rest : List UInt8} (isRest : IsRest head rest)
    (whole : Whole rest) (ends : rest.drop (8 + payloadLength rest) = [])
    (known : messageIndex table (rest.take (8 + payloadLength rest)) ≠ none)
    (none : pdusOf table maxElementSize (rest.take (8 + payloadLength rest)) = []) :
    ¬ LastFits table maxElementSize head := by
  obtain ⟨before, cutEq⟩ := isRest
  rw [cut_of_whole whole, ends, cut_nil] at cutEq
  intro fits
  refine fits ?_ (rest.take (8 + payloadLength rest)) ?_ known none
  · rw [cutEq]
  · rw [cutEq, List.getLast?_concat]
    rfl

end OpenBsw.Routing
