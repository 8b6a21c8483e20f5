import OpenBsw.Can.FlexCANDevice
import OpenBsw.Data.Slots
import OpenBsw.Transition.System

/-!
# The order of the transmitted frames

The search for a buffer runs in steps between which the controller may send
frames.  The mark `fLastMessageBuffer` is lowered only to buffers above which
all are free, so that a buffer above the mark is free, and the buffer that is
chosen has no busy buffer with the identifier at or above it.
-/

namespace OpenBsw.Can

open OpenBsw.Data
open OpenBsw.Transition

/-! ## The system -/

inductive TransmitPhase where
  | idle
  /-- The search, before a round at the buffer. -/
  | searching (frame : CANFrame) (bufIdx : Nat) (search : FlexCANDevice.BufferSearch)
  /-- The frame is to be written into the buffer. -/
  | chosen (frame : CANFrame) (bufIdx : Nat)
  deriving DecidableEq

structure TransmitState where
  device : FlexCANDevice
  phase : TransmitPhase := .idle
  /-- The frames in the order in which they were written. -/
  written : List BusFrame := []
  /-- The frames in the order in which the controller has sent them. -/
  sent : List BusFrame := []

inductive TransmitEvent where
  | getTransmitBuffer (frame : CANFrame)
  /-- A round of the search, or its end. -/
  | search
  | transmit
  /-- The controller sends the frame of a buffer. -/
  | sent (bufIdx : Nat)

namespace FlexCANDevice

/-- A buffer of the application that holds a frame. -/
def Busy (config : Config) (device : FlexCANDevice) (bufIdx : Nat) : Prop :=
  (FIRST_TRANSMIT_BUFFER ≤ bufIdx ∧ bufIdx < config.endOfBuffers) ∧
    (device.messageBuffer bufIdx).CODE ≠ CODE_INACTIVE
  deriving Decidable

def busIdAt (device : FlexCANDevice) (bufIdx : Nat) : BusId :=
  (device.messageBuffer bufIdx).busFrame.busId

/-- Among the pending frames of an identifier, the controller sends the one in the lowest
buffer. -/
def IsNext (config : Config) (device : FlexCANDevice) (bufIdx : Nat) : Prop :=
  device.Busy config bufIdx ∧ ∀ lower < bufIdx, device.Busy config lower →
    device.busIdAt lower ≠ device.busIdAt bufIdx

/-- The pending frame of an identifier in a buffer. -/
def pendingAt (config : Config) (device : FlexCANDevice) (busId : BusId) (bufIdx : Nat) :
    Option BusFrame :=
  if device.Busy config bufIdx ∧ device.busIdAt bufIdx = busId then
    some (device.messageBuffer bufIdx).busFrame
  else none

/-- The pending frames of an identifier, from the lowest buffer to the highest. -/
def pending (config : Config) (device : FlexCANDevice) (busId : BusId) : List BusFrame :=
  Slots.contents (device.pendingAt config busId) FIRST_TRANSMIT_BUFFER config.numTxBufsApp

end FlexCANDevice

namespace TransmitState

open FlexCANDevice

/-- The search has chosen a buffer. -/
def choose (state : TransmitState) (frame : CANFrame) (result : Nat × FlexCANDevice) :
    TransmitState :=
  { state with device := result.2, phase := .chosen frame result.1 }

/-- One round of the search, or its end. -/
def searchStep (config : Config) (state : TransmitState) (frame : CANFrame) (bufIdx : Nat)
    (search : BufferSearch) : TransmitState :=
  if bufIdx < FIRST_TRANSMIT_BUFFER then
    state.choose frame (state.device.finish config search.free)
  else
    match state.device.visit frame bufIdx search with
    | none => state.choose frame (state.device.finish config search.free)
    | some (search, device) =>
      { state with device := device, phase := .searching frame (bufIdx - 1) search }

/-- The frame is written, where `transmit` accepts the buffer. -/
def write (config : Config) (state : TransmitState) (frame : CANFrame) (bufIdx : Nat) :
    TransmitState :=
  match state.device.transmit config frame bufIdx with
  | (.CAN_ERR_OK, device) =>
    { state with device := device, phase := .idle, written := state.written ++ [frame.busFrame] }
  | (_, device) => { state with device := device, phase := .idle }

/-- The controller sends the frame of a buffer. -/
def send (state : TransmitState) (bufIdx : Nat) : TransmitState :=
  { state with device := state.device.sent bufIdx,
               sent := state.sent ++ [(state.device.messageBuffer bufIdx).busFrame] }

inductive Step (config : Config) : TransmitState → TransmitEvent → TransmitState → Prop
  | getTransmitBuffer {state : TransmitState} {frame : CANFrame} (idle : state.phase = .idle)
      (inRange : CanId.InRange frame.id) :
      Step config state (.getTransmitBuffer frame)
        { state with phase := .searching frame state.device.fLastMessageBuffer {} }
  | search {state : TransmitState} {frame : CANFrame} {bufIdx : Nat} {search : BufferSearch}
      (searching : state.phase = .searching frame bufIdx search) :
      Step config state .search (state.searchStep config frame bufIdx search)
  | transmit {state : TransmitState} {frame : CANFrame} {bufIdx : Nat}
      (chosen : state.phase = .chosen frame bufIdx) :
      Step config state .transmit (state.write config frame bufIdx)
  | sent {state : TransmitState} {bufIdx : Nat} (next : state.device.IsNext config bufIdx) :
      Step config state (.sent bufIdx) (state.send bufIdx)

/-- The state after `init` and `start`: all buffers of the application are inactive. -/
structure Initial (config : Config) (state : TransmitState) : Prop where
  inactive : ∀ bufIdx, ¬ state.device.Busy config bufIdx
  mark : state.device.fLastMessageBuffer = FIRST_TRANSMIT_BUFFER
  idle : state.phase = .idle
  written : state.written = []
  sent : state.sent = []

end TransmitState

/-- Frames are written one after the other, and the controller may send at any time. -/
def transmitSystem (config : FlexCANDevice.Config) : System TransmitState TransmitEvent where
  Initial := TransmitState.Initial config
  Step := TransmitState.Step config

namespace TransmitState

open FlexCANDevice

/-- The chosen buffer is free, and no busy buffer at or above it holds the identifier. -/
structure Chosen (config : Config) (device : FlexCANDevice) (frame : CANFrame) (bufIdx : Nat) :
    Prop where
  lower : FIRST_TRANSMIT_BUFFER ≤ bufIdx
  upper : bufIdx < config.endOfBuffers
  mark : bufIdx ≤ device.fLastMessageBuffer
  inactive : (device.messageBuffer bufIdx).CODE = CODE_INACTIVE
  above : ∀ index, bufIdx ≤ index → device.Busy config index →
    device.busIdAt index ≠ frame.busFrame.busId

/-- No busy buffer is above the mark, a chosen buffer is free and above all buffers of the
identifier, and the frames of an identifier are sent in the order in which they were written. -/
structure InOrder (config : Config) (state : TransmitState) : Prop where
  mark : ∀ index, state.device.Busy config index → index ≤ state.device.fLastMessageBuffer
  chosen : ∀ frame bufIdx, state.phase = .chosen frame bufIdx →
    bufIdx ≠ TRANSMIT_BUFFER_UNAVAILABLE → Chosen config state.device frame bufIdx
  order : ∀ busId, state.written.filter (·.busId = busId) =
    state.sent.filter (·.busId = busId) ++ state.device.pending config busId

end TransmitState

/-! ## Sending and writing -/

variable {frame : CANFrame} {bufIdx : Nat} {search : BufferSearch}

namespace FlexCANDevice

variable {config : Config} {device : FlexCANDevice} {frame : CANFrame} {bufIdx index : Nat}

theorem messageBuffer_sent_self (device : FlexCANDevice) (bufIdx : Nat) :
    (device.sent bufIdx).messageBuffer bufIdx =
      { device.messageBuffer bufIdx with CODE := CODE_INACTIVE } :=
  Function.update_self ..

theorem messageBuffer_sent (different : index ≠ bufIdx) :
    (device.sent bufIdx).messageBuffer index = device.messageBuffer index :=
  Function.update_of_ne different ..

/-- Sending changes no identifier. -/
@[simp]
theorem busFrame_sent (device : FlexCANDevice) (bufIdx index : Nat) :
    ((device.sent bufIdx).messageBuffer index).busFrame =
      (device.messageBuffer index).busFrame := by
  by_cases same : index = bufIdx
  · rw [same, messageBuffer_sent_self]
    rfl
  · rw [messageBuffer_sent same]

@[simp]
theorem busIdAt_sent (device : FlexCANDevice) (bufIdx index : Nat) :
    (device.sent bufIdx).busIdAt index = device.busIdAt index := by
  simp only [busIdAt, busFrame_sent]

theorem busy_sent_iff :
    (device.sent bufIdx).Busy config index ↔ device.Busy config index ∧ index ≠ bufIdx := by
  by_cases same : index = bufIdx
  · simp [Busy, same, messageBuffer_sent_self]
  · simp [Busy, same, messageBuffer_sent same]

theorem inactive_sent (inactive : (device.messageBuffer index).CODE = CODE_INACTIVE) :
    ((device.sent bufIdx).messageBuffer index).CODE = CODE_INACTIVE := by
  by_cases same : index = bufIdx
  · rw [same, messageBuffer_sent_self]
  · rw [messageBuffer_sent same, inactive]

/-- The frame that is sent was the first pending one of its identifier. -/
theorem pending_sent (next : device.IsNext config bufIdx) :
    device.pending config (device.busIdAt bufIdx) =
      (device.messageBuffer bufIdx).busFrame ::
        (device.sent bufIdx).pending config (device.busIdAt bufIdx) := by
  rcases next with ⟨busy, lowest⟩
  apply Slots.contents_take busy.1.1 busy.1.2
  · intro lower _ below
    rw [pendingAt, if_neg]
    rintro ⟨lowerBusy, same⟩
    exact lowest lower below lowerBusy same
  · intro index different
    simp [pendingAt, busy_sent_iff, different]
  · rw [pendingAt, if_pos ⟨busy, rfl⟩]
  · rw [pendingAt, if_neg]
    rintro ⟨stillBusy, _⟩
    exact (busy_sent_iff.mp stillBusy).2 rfl

theorem pending_sent_of_ne {busId : BusId} (different : device.busIdAt bufIdx ≠ busId) :
    (device.sent bufIdx).pending config busId = device.pending config busId := by
  apply Slots.contents_congr
  intro index _ _
  by_cases same : index = bufIdx
  · simp [pendingAt, same, different]
  · simp [pendingAt, busy_sent_iff, same]

/-- A chosen buffer is accepted. -/
theorem transmit_eq_ok (chosen : TransmitState.Chosen config device frame bufIdx) :
    device.transmit config frame bufIdx =
      (.CAN_ERR_OK, device.setBuffer bufIdx ((device.messageBuffer bufIdx).write frame)) := by
  rw [transmit, if_pos ⟨.inl ⟨chosen.lower, chosen.upper⟩, chosen.inactive⟩]

/-- No buffer is unavailable and inside the configuration. -/
theorem transmit_unavailable (config : Config) (device : FlexCANDevice) (frame : CANFrame) :
    device.transmit config frame TRANSMIT_BUFFER_UNAVAILABLE = (.CAN_ERR_TX_FAIL, device) := by
  rw [transmit, if_neg]
  rintro ⟨inside | callback, _⟩
  · have accepted := config.accepted
    simp only [Config.endOfBuffers, FIRST_TRANSMIT_BUFFER, TRANSMIT_BUFFER_UNAVAILABLE] at inside
    omega
  · exact absurd callback (by decide)

section Written

variable {buffer : MessageBuffer}

theorem messageBuffer_setBuffer (different : index ≠ bufIdx) :
    (device.setBuffer bufIdx buffer).messageBuffer index = device.messageBuffer index :=
  Function.update_of_ne different ..

theorem messageBuffer_setBuffer_self (device : FlexCANDevice) (bufIdx : Nat)
    (buffer : MessageBuffer) : (device.setBuffer bufIdx buffer).messageBuffer bufIdx = buffer :=
  Function.update_self ..

theorem busy_setBuffer_iff (different : index ≠ bufIdx) :
    (device.setBuffer bufIdx buffer).Busy config index ↔ device.Busy config index := by
  simp only [Busy, messageBuffer_setBuffer different]

theorem busIdAt_setBuffer (different : index ≠ bufIdx) :
    (device.setBuffer bufIdx buffer).busIdAt index = device.busIdAt index := by
  simp only [busIdAt, messageBuffer_setBuffer different]

end Written

/-- The frame that is written becomes the last pending one of its identifier. -/
theorem pending_write (chosen : TransmitState.Chosen config device frame bufIdx)
    (inRange : CanId.InRange frame.id) :
    (device.setBuffer bufIdx ((device.messageBuffer bufIdx).write frame)).pending config
        frame.busFrame.busId =
      device.pending config frame.busFrame.busId ++ [frame.busFrame] := by
  apply Slots.contents_put chosen.lower chosen.upper
  · intro index above _
    rw [pendingAt, if_neg]
    rintro ⟨busy, same⟩
    exact chosen.above index above busy same
  · intro index different
    simp only [pendingAt, busy_setBuffer_iff different, busIdAt_setBuffer different,
      messageBuffer_setBuffer different]
  · have frameAt := MessageBuffer.busFrame_write (device.messageBuffer bufIdx) inRange
    rw [pendingAt, if_pos]
    · rw [messageBuffer_setBuffer_self, frameAt]
    · constructor
      · refine ⟨⟨chosen.lower, chosen.upper⟩, ?_⟩
        rw [messageBuffer_setBuffer_self, MessageBuffer.CODE_write]
        decide
      · rw [busIdAt, messageBuffer_setBuffer_self, frameAt]

theorem pending_write_of_ne (chosen : TransmitState.Chosen config device frame bufIdx)
    (inRange : CanId.InRange frame.id) {busId : BusId}
    (different : frame.busFrame.busId ≠ busId) :
    (device.setBuffer bufIdx ((device.messageBuffer bufIdx).write frame)).pending config busId =
      device.pending config busId := by
  apply Slots.contents_congr
  intro index _ _
  by_cases same : index = bufIdx
  · have free : ¬ device.Busy config bufIdx := fun busy => busy.2 chosen.inactive
    have frameAt := MessageBuffer.busFrame_write (device.messageBuffer bufIdx) inRange
    simp [pendingAt, same, free, busIdAt, messageBuffer_setBuffer_self, frameAt, different]
  · simp only [pendingAt, busy_setBuffer_iff same, busIdAt_setBuffer same,
      messageBuffer_setBuffer same]

/-! ## The search -/

/-- The mark is inside the configuration, and all buffers above it are free. -/
structure Marked (config : Config) (device : FlexCANDevice) : Prop where
  lower : FIRST_TRANSMIT_BUFFER ≤ device.fLastMessageBuffer
  upper : device.fLastMessageBuffer < config.endOfBuffers
  above : ∀ index, device.Busy config index → index ≤ device.fLastMessageBuffer

/-- What the search knows before its round at a buffer. -/
structure Searched (config : Config) (device : FlexCANDevice) (frame : CANFrame) (bufIdx : Nat)
    (search : BufferSearch) : Prop where
  mark : bufIdx ≤ device.fLastMessageBuffer
  free : search.free = TRANSMIT_BUFFER_UNAVAILABLE ∨
    (bufIdx < search.free ∧ FIRST_TRANSMIT_BUFFER ≤ search.free ∧
      search.free ≤ device.fLastMessageBuffer) ∧
    (device.messageBuffer search.free).CODE = CODE_INACTIVE
  different : ∀ index, bufIdx < index → device.Busy config index →
    device.busIdAt index ≠ frame.busFrame.busId
  clear : search.busyBufferFound = false → ∀ index, bufIdx < index → ¬ device.Busy config index

/-- Busy buffers hold identifiers as they are compared. -/
def Exact (config : Config) (device : FlexCANDevice) : Prop :=
  ∀ index, device.Busy config index →
    (device.messageBuffer index).bufId = (device.busIdAt index).id

theorem holdsId_iff (exact : (device.messageBuffer index).bufId = (device.busIdAt index).id) :
    (device.messageBuffer index).holdsId frame ↔
      device.busIdAt index = frame.busFrame.busId := by
  rw [MessageBuffer.holdsId, exact]
  simp [busIdAt, MessageBuffer.busFrame, CANFrame.busFrame, and_comm]

theorem searched_start (marked : Marked config device) (frame : CANFrame) :
    Searched config device frame device.fLastMessageBuffer {} where
  mark := le_rfl
  free := .inl rfl
  different index above busy := absurd (marked.above index busy) (by omega)
  clear _ index above busy := absurd (marked.above index busy) (by omega)

theorem messageBuffer_visit {search rest : BufferSearch} {left : FlexCANDevice}
    (visited : device.visit frame bufIdx search = some (rest, left)) :
    left.messageBuffer = device.messageBuffer := by
  simp only [visit] at visited
  split at visited
  · obtain ⟨_, rfl⟩ := Prod.mk.inj (Option.some.inj visited)
    split <;> rfl
  · split at visited
    · cases visited
    · obtain ⟨_, rfl⟩ := Prod.mk.inj (Option.some.inj visited)
      rfl

/-- A round that finds a free buffer lowers the mark only where all buffers above are free. -/
theorem Searched.visit_inactive {search : BufferSearch} (marked : Marked config device)
    (searched : Searched config device frame bufIdx search)
    (lower : FIRST_TRANSMIT_BUFFER ≤ bufIdx)
    (inactive : (device.messageBuffer bufIdx).CODE = CODE_INACTIVE) :
    let left := if search.busyBufferFound then device
      else { device with fLastMessageBuffer := bufIdx }
    Marked config left ∧
      Searched config left frame (bufIdx - 1) { search with free := bufIdx } := by
  have known := searched.mark
  have inside := marked.upper
  have bounds : bufIdx - 1 < bufIdx := by
    have positive : 0 < FIRST_TRANSMIT_BUFFER := by decide
    omega
  have notHere : ¬ device.Busy config bufIdx := fun busy => busy.2 inactive
  have different : ∀ index, bufIdx - 1 < index → device.Busy config index →
      device.busIdAt index ≠ frame.busFrame.busId := by
    intro index above busy
    have higher : index ≠ bufIdx := fun same => notHere (same ▸ busy)
    exact searched.different index (by omega) busy
  have clear : search.busyBufferFound = false → ∀ index, bufIdx - 1 < index →
      ¬ device.Busy config index := by
    intro none index above busy
    have higher : index ≠ bufIdx := fun same => notHere (same ▸ busy)
    exact searched.clear none index (by omega) busy
  cases found : search.busyBufferFound with
  | true =>
    refine ⟨marked, (Nat.sub_le ..).trans known, .inr ⟨⟨bounds, lower, known⟩, inactive⟩,
      different, ?_⟩
    intro none
    cases none
  | false =>
    refine ⟨⟨lower, lt_of_le_of_lt known inside, ?_⟩, ?_⟩
    · intro index busy
      exact Nat.le_of_not_lt fun above => searched.clear found index above busy
    · exact ⟨Nat.sub_le .., .inr ⟨⟨bounds, lower, le_rfl⟩, inactive⟩, different,
        fun _ => clear found⟩

/-- A round of the search keeps what is known. -/
theorem Searched.visit {search rest : BufferSearch} {left : FlexCANDevice}
    (marked : Marked config device) (exact : Exact config device)
    (searched : Searched config device frame bufIdx search)
    (lower : FIRST_TRANSMIT_BUFFER ≤ bufIdx)
    (visited : device.visit frame bufIdx search = some (rest, left)) :
    Marked config left ∧ Searched config left frame (bufIdx - 1) rest := by
  have known := searched.mark
  simp only [FlexCANDevice.visit] at visited
  split at visited
  next inactive =>
    cases visited
    exact searched.visit_inactive marked lower inactive
  next active =>
    split at visited
    next holds => cases visited
    next other =>
      cases visited
      refine ⟨marked, by omega, ?_, ?_, fun none => absurd none (by simp)⟩
      · rcases searched.free with unavailable | ⟨⟨above, rest⟩, inactive⟩
        · exact .inl unavailable
        · exact .inr ⟨⟨lt_of_le_of_lt (Nat.sub_le ..) above, rest⟩, inactive⟩
      · intro index above busy same
        by_cases here : index = bufIdx
        · subst here
          exact other ((holdsId_iff (exact index busy)).mpr same)
        · exact searched.different index (by omega) busy same

/-- The end of the search chooses a buffer above all buffers with the identifier. -/
theorem Searched.finish (marked : Marked config device)
    (searched : Searched config device frame bufIdx search) :
    Marked config (device.finish config search.free).2 ∧
      ((device.finish config search.free).1 ≠ TRANSMIT_BUFFER_UNAVAILABLE →
        TransmitState.Chosen config (device.finish config search.free).2 frame
          (device.finish config search.free).1) := by
  have lower := marked.lower
  have notAbove : ∀ index, device.fLastMessageBuffer < index → ¬ device.Busy config index :=
    fun index above busy => absurd (marked.above index busy) (by omega)
  simp only [FlexCANDevice.finish]
  split
  next extended =>
    have inside : device.fLastMessageBuffer + 1 < config.endOfBuffers := by omega
    constructor
    · refine ⟨Nat.le_succ_of_le lower, inside, ?_⟩
      intro index busy
      exact Nat.le_succ_of_le (marked.above index busy)
    · intro _
      refine ⟨Nat.le_succ_of_le lower, inside, le_rfl, ?_, ?_⟩
      · by_contra active
        exact notAbove _ (Nat.lt_succ_self _) ⟨⟨Nat.le_succ_of_le lower, inside⟩, active⟩
      · intro index above busy
        exact absurd busy (notAbove index above)
  next kept =>
    refine ⟨marked, ?_⟩
    intro available
    rcases searched.free with unavailable | ⟨⟨above, first, last⟩, inactive⟩
    · exact absurd unavailable available
    · refine ⟨first, lt_of_le_of_lt last marked.upper, last, inactive, ?_⟩
      intro index higher busy
      exact searched.different index (by omega) busy

theorem messageBuffer_finish (config : Config) (device : FlexCANDevice) (free : Nat) :
    (device.finish config free).2.messageBuffer = device.messageBuffer := by
  simp only [finish]
  split <;> rfl

end FlexCANDevice

namespace TransmitState

open FlexCANDevice

variable {config : Config} {state : TransmitState}

/-! ## The invariant -/

structure Invariant (config : Config) (state : TransmitState) : Prop where
  marked : Marked config state.device
  exact : Exact config state.device
  searching : ∀ frame bufIdx search, state.phase = .searching frame bufIdx search →
    CanId.InRange frame.id ∧ Searched config state.device frame bufIdx search
  chosen : ∀ frame bufIdx, state.phase = .chosen frame bufIdx → CanId.InRange frame.id ∧
    (bufIdx ≠ TRANSMIT_BUFFER_UNAVAILABLE → Chosen config state.device frame bufIdx)
  order : ∀ busId, state.written.filter (·.busId = busId) =
    state.sent.filter (·.busId = busId) ++ state.device.pending config busId

theorem Invariant.inOrder (invariant : Invariant config state) : InOrder config state where
  mark := invariant.marked.above
  chosen frame bufIdx chosen := (invariant.chosen frame bufIdx chosen).2
  order := invariant.order

theorem invariant_initial (positive : 0 < config.numTxBufsApp)
    (initial : Initial config state) : Invariant config state where
  marked := by
    refine ⟨initial.mark.ge, ?_, fun index busy => absurd busy (initial.inactive index)⟩
    rw [initial.mark, Config.endOfBuffers]
    omega
  exact index busy := absurd busy (initial.inactive index)
  searching frame bufIdx search searching := by simp [initial.idle] at searching
  chosen frame bufIdx chosen := by simp [initial.idle] at chosen
  order busId := by
    have nothing : state.device.pending config busId = [] := by
      apply Slots.contents_eq_nil
      intro index _ _
      rw [pendingAt, if_neg (fun busy => initial.inactive index busy.1)]
    rw [initial.written, initial.sent, nothing]
    rfl

/-- The steps of the search change the mark only. -/
theorem Invariant.choose {result : Nat × FlexCANDevice} (invariant : Invariant config state)
    (inRange : CanId.InRange frame.id)
    (same : result.2.messageBuffer = state.device.messageBuffer) (marked : Marked config result.2)
    (chosen : result.1 ≠ TRANSMIT_BUFFER_UNAVAILABLE → Chosen config result.2 frame result.1) :
    Invariant config (state.choose frame result) := by
  rcases result with ⟨bufIdx, device⟩
  obtain ⟨messageBuffer, mark⟩ := device
  obtain rfl : messageBuffer = state.device.messageBuffer := same
  refine ⟨marked, invariant.exact, fun _ _ _ searching => ?_, fun other index equal => ?_,
    invariant.order⟩
  · cases searching
  · obtain ⟨rfl, rfl⟩ := TransmitPhase.chosen.inj equal
    exact ⟨inRange, chosen⟩

theorem Invariant.searchStep (invariant : Invariant config state)
    (phase : state.phase = .searching frame bufIdx search) :
    Invariant config (state.searchStep config frame bufIdx search) := by
  rcases invariant.searching frame bufIdx search phase with ⟨inRange, searched⟩
  have finished := searched.finish invariant.marked
  have ends : Invariant config
      (state.choose frame (state.device.finish config search.free)) :=
    invariant.choose inRange (messageBuffer_finish ..) finished.1 finished.2
  simp only [TransmitState.searchStep]
  split
  next => exact ends
  next lower =>
    split
    next => exact ends
    next rest left visited =>
      have same := messageBuffer_visit visited
      rcases searched.visit invariant.marked invariant.exact (by omega) visited with
        ⟨marked, searched⟩
      obtain ⟨messageBuffer, mark⟩ := left
      obtain rfl : messageBuffer = state.device.messageBuffer := same
      refine ⟨marked, invariant.exact, fun other index rest equal => ?_,
        fun _ _ chosen => ?_, invariant.order⟩
      · obtain ⟨rfl, rfl, rfl⟩ := TransmitPhase.searching.inj equal
        exact ⟨inRange, searched⟩
      · cases chosen

theorem write_unavailable (config : Config) (state : TransmitState) (frame : CANFrame) :
    state.write config frame TRANSMIT_BUFFER_UNAVAILABLE = { state with phase := .idle } := by
  rw [TransmitState.write, transmit_unavailable]

theorem write_chosen (chosen : Chosen config state.device frame bufIdx) :
    state.write config frame bufIdx =
      { state with
          device := state.device.setBuffer bufIdx ((state.device.messageBuffer bufIdx).write frame),
          phase := .idle,
          written := state.written ++ [frame.busFrame] } := by
  rw [TransmitState.write, transmit_eq_ok chosen]

theorem exact_write {device : FlexCANDevice} (exact : Exact config device)
    (inRange : CanId.InRange frame.id) :
    Exact config (device.setBuffer bufIdx ((device.messageBuffer bufIdx).write frame)) := by
  intro index busy
  by_cases same : index = bufIdx
  · rw [same, busIdAt, messageBuffer_setBuffer_self, MessageBuffer.busFrame_write _ inRange,
      MessageBuffer.bufId_write _ inRange]
    rfl
  · rw [messageBuffer_setBuffer same, busIdAt_setBuffer same]
    exact exact index ((busy_setBuffer_iff same).mp busy)

/-- A frame is written into a buffer that is not above the mark. -/
theorem marked_write {device : FlexCANDevice} {buffer : MessageBuffer}
    (marked : Marked config device) (below : bufIdx ≤ device.fLastMessageBuffer) :
    Marked config (device.setBuffer bufIdx buffer) where
  lower := marked.lower
  upper := marked.upper
  above index busy := by
    by_cases same : index = bufIdx
    · exact same.le.trans below
    · exact marked.above index ((busy_setBuffer_iff same).mp busy)

theorem Invariant.write (invariant : Invariant config state)
    (phase : state.phase = .chosen frame bufIdx) :
    Invariant config (state.write config frame bufIdx) := by
  rcases invariant.chosen frame bufIdx phase with ⟨inRange, chosen⟩
  by_cases unavailable : bufIdx = TRANSMIT_BUFFER_UNAVAILABLE
  · rw [unavailable, write_unavailable]
    refine ⟨invariant.marked, invariant.exact, ?_, ?_, invariant.order⟩
    · intro _ _ _ searching
      cases searching
    · intro _ _ chosen
      cases chosen
  · have free := chosen unavailable
    rw [write_chosen free]
    refine ⟨marked_write invariant.marked free.mark, exact_write invariant.exact inRange,
      ?_, ?_, ?_⟩
    · intro _ _ _ searching
      cases searching
    · intro _ _ chosen
      cases chosen
    · intro busId
      by_cases same : frame.busFrame.busId = busId
      · subst same
        simp [pending_write free inRange, invariant.order]
      · simp [pending_write_of_ne free inRange same, invariant.order, same]

theorem Chosen.sent {device : FlexCANDevice} (chosen : Chosen config device frame bufIdx)
    (index : Nat) : Chosen config (device.sent index) frame bufIdx where
  lower := chosen.lower
  upper := chosen.upper
  mark := chosen.mark
  inactive := inactive_sent chosen.inactive
  above higher reached busy := by
    rw [busIdAt_sent]
    exact chosen.above higher reached (busy_sent_iff.mp busy).1

theorem Searched.sent {device : FlexCANDevice}
    (searched : Searched config device frame bufIdx search) (index : Nat) :
    Searched config (device.sent index) frame bufIdx search where
  mark := searched.mark
  free := searched.free.imp_right fun ⟨bounds, inactive⟩ => ⟨bounds, inactive_sent inactive⟩
  different higher above busy := by
    rw [busIdAt_sent]
    exact searched.different higher above (busy_sent_iff.mp busy).1
  clear none higher above busy := searched.clear none higher above (busy_sent_iff.mp busy).1

theorem Invariant.send (invariant : Invariant config state)
    (next : state.device.IsNext config bufIdx) : Invariant config (state.send bufIdx) where
  marked := by
    refine ⟨invariant.marked.lower, invariant.marked.upper, ?_⟩
    intro index busy
    exact invariant.marked.above index (busy_sent_iff.mp busy).1
  exact index busy := by
    rcases busy_sent_iff.mp busy with ⟨busy, different⟩
    rw [TransmitState.send, messageBuffer_sent different, busIdAt_sent]
    exact invariant.exact index busy
  searching frame index search phase := by
    rcases invariant.searching frame index search phase with ⟨inRange, searched⟩
    exact ⟨inRange, Searched.sent searched bufIdx⟩
  chosen frame index phase := by
    rcases invariant.chosen frame index phase with ⟨inRange, chosen⟩
    exact ⟨inRange, fun available => (chosen available).sent bufIdx⟩
  order busId := by
    have before := invariant.order busId
    by_cases same : state.device.busIdAt bufIdx = busId
    · subst same
      rw [pending_sent next] at before
      simpa [TransmitState.send, busIdAt] using before
    · have other : (state.device.messageBuffer bufIdx).busFrame.busId ≠ busId := same
      rw [← pending_sent_of_ne same] at before
      simp [TransmitState.send, before, other]

theorem invariant_inductive (positive : 0 < config.numTxBufsApp) :
    (transmitSystem config).Inductive (Invariant config) where
  initial := invariant_initial positive
  step := by
    intro source event target invariant stepped
    cases stepped with
    | getTransmitBuffer idle inRange =>
      refine ⟨invariant.marked, invariant.exact, ?_, ?_, invariant.order⟩
      · intro other index search equal
        obtain ⟨rfl, rfl, rfl⟩ := TransmitPhase.searching.inj equal
        exact ⟨inRange, searched_start invariant.marked _⟩
      · intro _ _ chosen
        cases chosen
    | search searching => exact invariant.searchStep searching
    | transmit chosen => exact invariant.write chosen
    | sent next => exact invariant.send next

/-! ## Runs -/

/-- The search is one in which nothing happens between its steps. -/
theorem reachable_searchFrom (reached : (transmitSystem config).Reachable state)
    (phase : state.phase = .searching frame bufIdx search) :
    (transmitSystem config).Reachable
      (state.choose frame (state.device.searchFrom config frame bufIdx search)) := by
  induction bufIdx generalizing state search with
  | zero => exact reached.step (.search phase)
  | succ below ih =>
    have next : (transmitSystem config).Reachable
        (state.searchStep config frame (below + 1) search) := reached.step (.search phase)
    rw [searchStep] at next
    rw [searchFrom]
    by_cases ended : below + 1 < FIRST_TRANSMIT_BUFFER
    · rw [if_pos ended] at next ⊢
      exact next
    · rw [if_neg ended] at next ⊢
      rcases visited : state.device.visit frame (below + 1) search with - | ⟨rest, left⟩
      · rw [visited] at next
        exact next
      · rw [visited] at next
        exact ih next rfl

/-- A call of `getTransmitBuffer` during which the controller sends nothing. -/
theorem reachable_getTransmitBuffer (reached : (transmitSystem config).Reachable state)
    (idle : state.phase = .idle) (inRange : CanId.InRange frame.id) :
    (transmitSystem config).Reachable
      (state.choose frame (state.device.getTransmitBuffer config frame false)) := by
  have searching : (transmitSystem config).Reachable
      { state with phase := .searching frame state.device.fLastMessageBuffer {} } :=
    reached.step (.getTransmitBuffer idle inRange)
  have chosen := reachable_searchFrom searching rfl
  exact chosen

def emptyBuffer : MessageBuffer where
  CODE := CODE_INACTIVE
  IDE := false
  SRR := false
  DLC := 0
  ID := {}
  DATA := (0, 0)

/-- All buffers are inactive. -/
def started : TransmitState where
  device := { messageBuffer := fun _ => emptyBuffer }

theorem initial_started (config : Config) : Initial config started where
  inactive _ busy := busy.2 rfl
  mark := rfl
  idle := rfl
  written := rfl
  sent := rfl

def sampleFrame : CANFrame where
  id := 0x123
  payload := List.replicate 8 0
  payloadLength := 8

/-- Without buffers of the application the first one is chosen all the same. -/
theorem not_inOrder (config : Config) (none : config.numTxBufsApp = 0) :
    ∃ state, (transmitSystem config).Reachable state ∧ ¬ InOrder config state := by
  have reached : (transmitSystem config).Reachable
      (started.choose sampleFrame (started.device.getTransmitBuffer config sampleFrame false)) :=
    reachable_getTransmitBuffer (.initial (initial_started config)) rfl (by decide)
  refine ⟨_, reached, ?_⟩
  intro inOrder
  have result : (started.device.getTransmitBuffer config sampleFrame false).1 =
      FIRST_TRANSMIT_BUFFER := rfl
  have chosen := inOrder.chosen sampleFrame _ rfl (by rw [result]; decide)
  have upper := chosen.upper
  rw [result, Config.endOfBuffers, none] at upper
  exact absurd upper (Nat.lt_irrefl _)

/-- The frames of an identifier are sent in order if and only if the application has a
buffer. -/
theorem frames_inOrder (config : Config) :
    (∀ state, (transmitSystem config).Reachable state → InOrder config state) ↔
      0 < config.numTxBufsApp := by
  constructor
  · intro inOrder
    by_contra zero
    rcases not_inOrder config (by omega) with ⟨state, reached, bad⟩
    exact bad (inOrder state reached)
  · intro positive state reached
    exact ((invariant_inductive positive).of_reachable reached).inOrder

theorem not_frames_inOrder :
    ¬ ∀ (config : Config) (state : TransmitState),
      (transmitSystem config).Reachable state → InOrder config state := by
  intro inOrder
  rcases not_inOrder ⟨0, by decide⟩ rfl with ⟨state, reached, bad⟩
  exact bad (inOrder _ state reached)

end TransmitState

end OpenBsw.Can
