import OpenBsw.Data.Bytes

/-!
# Positive responses

A `PositiveResponse` is a window of the message buffer with a write position.  What does not
fit into the rest of the window is refused as a whole and marks the response as overflown;
what is appended later may fit again.
-/

namespace OpenBsw.Uds

open Bytes

/-- The window begins at `data` and has `maximumLength` bytes, of which `length` are
written. -/
structure PositiveResponse where
  data : Nat := 0
  maximumLength : Nat := 0
  length : Nat := 0
  isOverflow : Bool := false
  deriving DecidableEq, Repr

namespace PositiveResponse

def init (data maximumLength : Nat) : PositiveResponse := { data, maximumLength }

def getAvailableDataLength (response : PositiveResponse) : Nat :=
  response.maximumLength - response.length

/-- Append bytes in the message buffer. -/
def appendData (written : List UInt8 × PositiveResponse) (bytes : List UInt8) :
    List UInt8 × PositiveResponse :=
  let (buffer, response) := written
  if response.getAvailableDataLength < bytes.length then
    (buffer, { response with isOverflow := true })
  else
    (overwrite buffer (response.data + response.length) bytes,
      { response with length := response.length + bytes.length })

/-- The append calls of a job. -/
inductive Append
  | appendUint8 (data : UInt8)
  | appendUint16 (data : UInt16)
  | appendUint24 (data : UInt32)
  | appendUint32 (data : UInt32)
  | appendData (data : List UInt8)
  deriving DecidableEq, Repr

def Append.bytes : Append → List UInt8
  | .appendUint8 data => [data]
  | .appendUint16 data => bigEndian 2 data.toNat
  | .appendUint24 data => (bigEndian 4 data.toNat).drop 1
  | .appendUint32 data => bigEndian 4 data.toNat
  | .appendData data => data

def append (written : List UInt8 × PositiveResponse) (call : Append) :
    List UInt8 × PositiveResponse :=
  appendData written call.bytes

/-- What is taken of the chunks with so much room: each of them as a whole or not at all. -/
def taken : Nat → List (List UInt8) → List UInt8
  | _, [] => []
  | room, chunk :: rest =>
    if room < chunk.length then taken room rest
    else chunk ++ taken (room - chunk.length) rest

/-- Chunks that fit all together are taken all. -/
theorem taken_of_fits {room : Nat} {chunks : List (List UInt8)}
    (fits : chunks.flatten.length ≤ room) : taken room chunks = chunks.flatten := by
  induction chunks generalizing room with
  | nil => rfl
  | cons chunk rest ih =>
    rw [List.flatten_cons, List.length_append] at fits
    rw [taken, if_neg (by omega), ih (by omega), List.flatten_cons]

/-! ## Appending chunk by chunk -/

/-- The window lies in the buffer and holds these bytes in its written part. -/
structure Holds (written : List UInt8 × PositiveResponse) (bytes : List UInt8) : Prop where
  inside : written.2.data + written.2.maximumLength ≤ written.1.length
  length : written.2.length = bytes.length
  fits : bytes.length ≤ written.2.maximumLength
  bytes : slice written.1 written.2.data bytes.length = bytes

/-- The window is the same and outside of it the buffer is as before. -/
structure Within (before after : List UInt8 × PositiveResponse) : Prop where
  data : after.2.data = before.2.data
  maximumLength : after.2.maximumLength = before.2.maximumLength
  length : after.1.length = before.1.length
  outside : ∀ i, i < before.2.data ∨ before.2.data + before.2.maximumLength ≤ i →
    after.1[i]? = before.1[i]?

theorem Within.refl (written : List UInt8 × PositiveResponse) : Within written written :=
  ⟨rfl, rfl, rfl, fun _ _ => rfl⟩

theorem Within.trans {first second third : List UInt8 × PositiveResponse}
    (before : Within first second) (after : Within second third) : Within first third where
  data := after.data.trans before.data
  maximumLength := after.maximumLength.trans before.maximumLength
  length := after.length.trans before.length
  outside := by
    intro i away
    rw [after.outside i (by rw [before.data, before.maximumLength]; exact away),
      before.outside i away]

/-- A chunk is taken where it fits and marks the overflow where it does not. -/
theorem appendData_spec {written : List UInt8 × PositiveResponse} {bytes : List UInt8}
    (holds : Holds written bytes) (chunk : List UInt8) :
    Within written (appendData written chunk) ∧
      Holds (appendData written chunk)
        (bytes ++ taken (written.2.maximumLength - bytes.length) [chunk]) ∧
      ((appendData written chunk).2.isOverflow = true ↔ written.2.isOverflow = true ∨
        written.2.maximumLength - bytes.length < chunk.length) := by
  obtain ⟨inside, length, fits, window⟩ := holds
  obtain ⟨buffer, response⟩ := written
  simp only at inside length fits window
  by_cases short : response.getAvailableDataLength < chunk.length
  · have room : response.maximumLength - bytes.length < chunk.length := by
      rw [← length]
      exact short
    rw [appendData, if_pos short, taken, if_pos room, taken, List.append_nil]
    refine ⟨⟨rfl, rfl, rfl, fun _ _ => rfl⟩, ⟨inside, length, fits, window⟩, ?_⟩
    simp only [room, or_true]
  · have room : ¬response.maximumLength - bytes.length < chunk.length := by
      rw [← length]
      exact short
    rw [appendData, if_neg short, taken, if_neg room, taken, List.append_nil]
    have blockFits : response.data + response.length + chunk.length ≤ buffer.length := by
      omega
    refine ⟨⟨rfl, rfl, length_overwrite blockFits, ?_⟩, ⟨?_, ?_, ?_, ?_⟩, ?_⟩
    · intro i away
      simp only at away
      rw [getElem?_overwrite blockFits, if_neg (by omega)]
    · simp only [length_overwrite blockFits]
      exact inside
    · simp only [List.length_append, length]
    · simp only [List.length_append]
      omega
    · apply List.ext_getElem?
      intro i
      simp only [List.length_append]
      rw [getElem?_slice, getElem?_overwrite blockFits]
      by_cases front : i < bytes.length
      · have old := congrArg (fun block => block[i]?) window
        simp only [getElem?_slice, if_pos front] at old
        rw [if_pos (by omega), if_neg (by omega), old, List.getElem?_append_left front]
      · by_cases back : i < bytes.length + chunk.length
        · rw [if_pos back, if_pos (by omega), List.getElem?_append_right (by omega)]
          congr 1
          omega
        · rw [if_neg back, List.getElem?_eq_none]
          rw [List.length_append]
          omega
    · simp only [room, or_false]

/-- All chunks of a job. -/
theorem foldl_appendData_spec (chunks : List (List UInt8))
    {written : List UInt8 × PositiveResponse} {bytes : List UInt8} (holds : Holds written bytes) :
    Within written (chunks.foldl appendData written) ∧
      Holds (chunks.foldl appendData written)
        (bytes ++ taken (written.2.maximumLength - bytes.length) chunks) ∧
      ((chunks.foldl appendData written).2.isOverflow = true ↔ written.2.isOverflow = true ∨
        written.2.maximumLength - bytes.length < chunks.flatten.length) := by
  induction chunks generalizing written bytes with
  | nil =>
    refine ⟨Within.refl written, ?_, ?_⟩
    · simpa [taken] using holds
    · simp
  | cons chunk rest ih =>
    obtain ⟨within, after, overflow⟩ := appendData_spec holds chunk
    obtain ⟨restWithin, restHolds, restOverflow⟩ := ih after
    rw [within.maximumLength] at restHolds restOverflow
    rw [List.foldl_cons, List.flatten_cons, List.length_append]
    by_cases short : written.2.maximumLength - bytes.length < chunk.length
    · have refused : taken (written.2.maximumLength - bytes.length) [chunk] = [] := by
        rw [taken, if_pos short, taken]
      rw [refused, List.append_nil] at restHolds restOverflow
      refine ⟨within.trans restWithin, ?_, ?_⟩
      · rw [taken, if_pos short]
        exact restHolds
      · rw [restOverflow, overflow]
        constructor
        · intro _
          right
          omega
        · intro _
          exact .inl (.inr short)
    · have all : taken (written.2.maximumLength - bytes.length) [chunk] = chunk := by
        rw [taken, if_neg short, taken, List.append_nil]
      rw [all, List.length_append, ← Nat.sub_sub] at restHolds restOverflow
      refine ⟨within.trans restWithin, ?_, ?_⟩
      · rw [taken, if_neg short, ← List.append_assoc]
        exact restHolds
      · rw [restOverflow, overflow]
        constructor
        · rintro ((before | tooLong) | tooLong)
          · exact .inl before
          · exact (short tooLong).elim
          · right
            omega
        · rintro (before | tooLong)
          · exact .inl (.inl before)
          · right
            omega

end PositiveResponse

end OpenBsw.Uds
