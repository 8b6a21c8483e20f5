import OpenBsw.Routing.PduReference

/-!
# What the functions of the adapter compute

Each function is specified by the reference, for consistent tables and
readable frames.
-/

namespace OpenBsw.Routing

open OpenBsw.Bytes Option
open PduTransportRxAdapter

variable {table : RxAdapterTable} {maxElementSize : Nat} {frame message : List UInt8}

theorem exists_reportedMessageId (statusCode : StatusCode) (message : List UInt8) :
    ∃ messageId, reportedMessageId statusCode message = some messageId := by
  rw [reportedMessageId]
  by_cases reads : statusCode ≠ .INVALID_MESSAGE_HEADER_SIZE ∧ 4 ≤ message.length
  · rw [if_pos reads, Span.takeNumber_eq reads.2]
    exact ⟨_, rfl⟩
  · rw [if_neg reads]
    exact ⟨_, rfl⟩

/-! ## Messages -/

/-- The sum of the header size and the length does not wrap. -/
theorem Readable.length_lt (readable : Readable table frame) (small : frame.length < 2 ^ 32)
    (header : 8 ≤ frame.length) : 8 + payloadLength frame < 2 ^ 32 := by
  by_cases whole : Whole frame
  · exact Nat.lt_of_le_of_lt whole.2 small
  · have lengths := readable.lengths
    rw [cut_of_not_whole whole] at lengths
    exact lengths header

/-- The read length is compared with the configured one. -/
theorem Consistent.configuredLength_eq (consistent : Consistent table) {index : Nat}
    (inside : index < table.messageIds.length) :
    configuredLength table index = some (messageLength table index) := by
  rw [configuredLength]
  rcases consistent.messageLengths with none | size
  · rw [messageLength, none]
    rfl
  · have indexInside : index < table.messageLengths.length := by omega
    have nonempty : table.messageLengths.isEmpty = false := by
      rw [List.isEmpty_eq_false_iff, ← List.length_pos_iff]
      omega
    rw [messageLength, nonempty, List.getElem?_eq_getElem indexInside]
    rfl

/-- A message is found where the reference finds it. -/
theorem lookup_cases (consistent : Consistent table) (header : 8 ≤ message.length) :
    (∃ index, messageIndex table message = some index ∧
      lookup table message = some (.ok index)) ∨
    (messageIndex table message = none ∧
      ∃ statusCode, lookup table message = some (.error statusCode)) := by
  have lengthBytes : (message.drop 4).take 4 = slice message 4 4 := rfl
  rw [lookup, Span.takeNumber_eq (show 4 ≤ message.length by omega), messageIndex]
  simp only [bind_eq_bind, bind_some]
  cases found : table.messageIds.findIdx? fun known =>
      known.toNat == ofBigEndian (message.take 4) with
  | none => exact .inr ⟨rfl, _, rfl⟩
  | some index =>
    have inside : index < table.messageIds.length :=
      (List.findIdx?_eq_some_iff_getElem.mp found).1
    have second : 4 ≤ (message.drop 4).length := by
      rw [List.length_drop]
      omega
    simp only [Span.takeNumber_eq second, bind_some, pure_def,
      consistent.configuredLength_eq inside, lengthBytes]
    by_cases configured :
        messageLength table index = 0 ∨ messageLength table index = payloadLength message
    · rw [if_pos configured, if_neg ?_]
      · exact .inl ⟨index, rfl, rfl⟩
      · rintro ⟨nonzero, differs⟩
        rcases configured with zero | equal
        · exact nonzero zero
        · exact differs equal.symm
    · rw [not_or] at configured
      rw [if_neg (not_or.mpr configured), if_pos ⟨configured.1, Ne.symm configured.2⟩]
      exact .inr ⟨rfl, _, rfl⟩

/-- A round starts with a broken frame, an unexpected message or a known one. -/
theorem processMessage_cases (consistent : Consistent table)
    (readable : Readable table frame) (small : frame.length < 2 ^ 32) :
    (¬ Whole frame ∧ ∃ statusCode,
      processMessage table frame = some (frame.length, .error statusCode)) ∨
    (Whole frame ∧ messageIndex table (frame.take (8 + payloadLength frame)) = none ∧
      ∃ statusCode,
        processMessage table frame = some (8 + payloadLength frame, .error statusCode)) ∨
    (Whole frame ∧ ∃ index,
      messageIndex table (frame.take (8 + payloadLength frame)) = some index ∧
        processMessage table frame = some (8 + payloadLength frame, .ok index)) := by
  rw [processMessage]
  by_cases short : frame.length < MESSAGE_HEADER_SIZE
  · rw [if_pos short]
    exact .inl ⟨fun whole => absurd whole.1 (Nat.not_le_of_lt short), _, rfl⟩
  have header : 8 ≤ frame.length := Nat.le_of_not_lt short
  have first : Span.first frame MESSAGE_HEADER_SIZE = some (frame.take 8) := Span.first_eq header
  have headerLength : (frame.take 8).length = 8 := List.length_take_of_le header
  have lengthBytes : ((frame.take 8).drop 4).take 4 = slice frame 4 4 := by
    rw [List.drop_take, List.take_take]
    rfl
  have sum : Word32.add MESSAGE_HEADER_SIZE (ofBigEndian (slice frame 4 4)) =
      8 + payloadLength frame := by
    refine Word32.add_eq ?_
    unfold Word32.modulus
    exact readable.length_lt small header
  have second : 4 ≤ ((frame.take 8).drop 4).length := by
    rw [List.length_drop]
    omega
  rw [if_neg short, first]
  simp only [bind_eq_bind, bind_some,
    Span.takeNumber_eq (show 4 ≤ (frame.take 8).length by omega),
    Span.takeNumber_eq second, lengthBytes, sum]
  by_cases whole : Whole frame
  · rw [if_neg (Nat.not_lt_of_le whole.2), Span.take_eq whole.2]
    simp only [bind_some]
    have messageHeader : 8 ≤ (frame.take (8 + payloadLength frame)).length := by
      rw [length_message whole]
      exact Nat.le_add_right ..
    rcases lookup_cases consistent messageHeader with
      ⟨index, known, found⟩ | ⟨unknown, statusCode, failed⟩
    · rw [found]
      exact .inr (.inr ⟨whole, index, known, rfl⟩)
    · rw [failed]
      exact .inr (.inl ⟨whole, unknown, statusCode, rfl⟩)
  · have large : 8 + payloadLength frame > frame.length :=
      Nat.lt_of_not_le fun fits => whole ⟨header, fits⟩
    rw [if_pos large]
    exact .inl ⟨whole, _, rfl⟩

/-! ## PDUs -/

/-- A PDU is extracted where it fits. -/
theorem extract_eq (consistent : Consistent table) (header : 8 ≤ message.length)
    (small : message.length < 2 ^ 32) {id : Nat} (inside : id < table.pduLengths.length)
    (range : Word32.add (pduOffset table id) (pduLength table id) ≤ message.length - 8 →
      pduOffset table id + pduLength table id < 2 ^ 32) :
    extract table maxElementSize message id =
      some (configuredPdu table maxElementSize message id) := by
  have offset : table.pduOffsets[id]?.map UInt32.toNat = some (pduOffset table id) := by
    rw [pduOffset, List.getElem?_eq_getElem (consistent.pduOffsets ▸ inside)]
    rfl
  have length : table.pduLengths[id]?.map UInt32.toNat = some (pduLength table id) := by
    rw [pduLength, List.getElem?_eq_getElem inside]
    rfl
  obtain ⟨offsetEntry, offsetFound, offsetEq⟩ := map_eq_some_iff.mp offset
  obtain ⟨lengthEntry, lengthFound, lengthEq⟩ := map_eq_some_iff.mp length
  have payload : Span.subspan message MESSAGE_HEADER_SIZE = some (message.drop 8) :=
    Span.subspan_eq header
  have payloadLength : (message.drop 8).length = message.length - 8 := List.length_drop
  rw [extract, payload]
  simp only [bind_eq_bind, bind_some, offsetFound, lengthFound, offsetEq, lengthEq,
    payloadLength]
  by_cases fits : Word32.add (pduOffset table id) (pduLength table id) ≤ message.length - 8
  · have sum : Word32.add (pduOffset table id) (pduLength table id) =
        pduOffset table id + pduLength table id := by
      refine Word32.add_eq ?_
      unfold Word32.modulus
      exact range fits
    rw [if_neg (Nat.not_lt_of_le fits)]
    rw [sum] at fits
    have rest : pduLength table id ≤ ((message.drop 8).drop (pduOffset table id)).length := by
      rw [List.length_drop, payloadLength]
      omega
    have size : (((message.drop 8).drop (pduOffset table id)).take (pduLength table id)).length =
        pduLength table id := List.length_take_of_le rest
    have total : Word32.add MESSAGE_HEADER_SIZE (pduLength table id) =
        8 + pduLength table id := by
      refine Word32.add_eq ?_
      unfold Word32.modulus
      simp only [MESSAGE_HEADER_SIZE]
      omega
    simp only [Span.take_eq rest, bind_some, size, total]
    rw [configuredPdu]
    by_cases room : 8 + pduLength table id ≤ maxElementSize
    · rw [if_neg (Nat.not_lt_of_le room), if_pos ⟨fits, room⟩]
      rfl
    · rw [if_pos (Nat.lt_of_not_le room), if_neg fun both => room both.2]
      rfl
  · rw [if_pos (Nat.lt_of_not_le fits), configuredPdu, if_neg]
    · rfl
    · rintro ⟨inPayload, _⟩
      refine fits ?_
      rw [Word32.add_eq]
      · exact inPayload
      · unfold Word32.modulus
        omega

theorem pdusFrom_succ (first count : Nat) :
    pdusFrom table maxElementSize message first (count + 1) =
      (configuredPdu table maxElementSize message first).toList ++
        pdusFrom table maxElementSize message (first + 1) count := by
  rw [pdusFrom, List.range'_succ, List.filterMap_cons]
  cases configuredPdu table maxElementSize message first <;> rfl

/-- The loop over the PDUs stops behind the first that fits. -/
theorem extractFrom_cases {offset : Nat} (count index : Nat)
    (small : offset + (index + count) < 2 ^ 32)
    (extracts : ∀ id, offset + index ≤ id → id < offset + (index + count) →
      extract table maxElementSize message id =
        some (configuredPdu table maxElementSize message id)) :
    (extractFrom table maxElementSize message offset count index = some (index + count, none) ∧
      pdusFrom table maxElementSize message (offset + index) count = []) ∨
    ∃ used rest pdu, used + rest = count ∧ 0 < used ∧
      extractFrom table maxElementSize message offset count index = some (index + used, some pdu) ∧
      (∃ id, configuredPdu table maxElementSize message id = some pdu) ∧
      pdusFrom table maxElementSize message (offset + index) count =
        pdu :: pdusFrom table maxElementSize message (offset + (index + used)) rest := by
  induction count generalizing index with
  | zero => exact .inl ⟨rfl, rfl⟩
  | succ count ih =>
    have sum : Word32.add offset index = offset + index := by
      refine Word32.add_eq ?_
      unfold Word32.modulus
      omega
    have here := extracts (offset + index) (Nat.le_refl _) (by omega)
    rw [extractFrom, sum, here, pdusFrom_succ, bind_eq_bind, bind_some]
    cases configured : configuredPdu table maxElementSize message (offset + index) with
    | some pdu =>
      exact .inr ⟨1, count, pdu, Nat.add_comm .., Nat.one_pos, rfl, ⟨_, configured⟩, rfl⟩
    | none =>
      rcases ih (index + 1) (by omega) (fun id lower upper =>
        extracts id (by omega) (by omega)) with
        ⟨ended, none⟩ | ⟨used, rest, pdu, parts, _, found, fits, pdus⟩
      · refine .inl ⟨?_, none⟩
        rw [Nat.add_comm count 1, ← Nat.add_assoc]
        exact ended
      · refine .inr ⟨used + 1, rest, pdu, by omega, Nat.succ_pos _, ?_, fits, ?_⟩
        · rw [Nat.add_comm used 1, ← Nat.add_assoc]
          exact found
        · rw [Nat.add_comm used 1, ← Nat.add_assoc index]
          exact pdus

/-- A PDU has a header, so that it is not empty. -/
theorem ne_nil_of_configuredPdu {id : Nat} {pdu : List UInt8}
    (configured : configuredPdu table maxElementSize message id = some pdu) : pdu ≠ [] := by
  rw [configuredPdu, ite_none_right_eq_some, Option.some.injEq] at configured
  intro empty
  have length := congrArg List.length (configured.2.trans empty)
  rw [List.length_append, List.length_append, length_bigEndian, length_bigEndian,
    List.length_nil] at length
  omega

end OpenBsw.Routing
