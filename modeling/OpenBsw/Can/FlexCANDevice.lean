import OpenBsw.Can.CanId
import OpenBsw.Can.TxJobs
import OpenBsw.Data.Bytes

/-!
# The transmit message buffers of `FlexCANDevice`

The controller has no transmit queue: a frame is written into a free message
buffer, and among frames of one identifier the controller sends the one in the
lowest buffer.  `getTransmitBuffer` therefore looks for a free buffer above
all buffers that hold the identifier.
-/

namespace OpenBsw.Can

open OpenBsw.Bytes

structure CANFrame where
  id : Nat
  payload : List UInt8
  payloadLength : Nat
  deriving DecidableEq

/-! ## The device -/

/-- The identifier register, by its bit fields. -/
structure IdRegister where
  ID_EXT : Nat := 0
  ID_STD : Nat := 0
  PRIO : Nat := 0
  deriving DecidableEq

namespace IdRegister

/-- The fields of a register value. -/
def ofR (value : Nat) : IdRegister where
  ID_EXT := value % 2 ^ 18
  ID_STD := value / 2 ^ 18 % 2 ^ 11
  PRIO := value / 2 ^ 29 % 2 ^ 3

def R (register : IdRegister) : Nat :=
  register.ID_EXT + register.ID_STD * 2 ^ 18 + register.PRIO * 2 ^ 29

theorem R_ofR {value : Nat} (small : value ≤ CanId.MAX_RAW_EXTENDED_ID) :
    (ofR value).R = value := by
  simp only [CanId.MAX_RAW_EXTENDED_ID] at small
  simp only [ofR, R]
  omega

end IdRegister

structure MessageBuffer where
  CODE : Nat
  IDE : Bool
  SRR : Bool
  DLC : Nat
  ID : IdRegister
  DATA : Nat × Nat
  deriving DecidableEq

def CODE_INACTIVE : Nat := 8

def CODE_TRANSMIT : Nat := 12

def FIRST_TRANSMIT_BUFFER : Nat := 16

def CALLBACK_TRANSMIT_BUFFER : Nat := 31

def TRANSMIT_BUFFER_UNAVAILABLE : Nat := 255

structure FlexCANDevice where
  /-- `RAMn` holds 32 buffers.  Where `numTxBufsApp` is 17 or more the driver reaches behind them;
  these buffers work like the others here. -/
  messageBuffer : Nat → MessageBuffer
  fLastMessageBuffer : Nat := FIRST_TRANSMIT_BUFFER

namespace FlexCANDevice

structure Config where
  numTxBufsApp : Nat
  /-- The assertion of the constructor. -/
  accepted : numTxBufsApp ≤ 31

/-- The end of the buffers that the application transmits from. -/
def Config.endOfBuffers (config : Config) : Nat :=
  FIRST_TRANSMIT_BUFFER + config.numTxBufsApp

end FlexCANDevice

/-- The identifier in a buffer, as the search compares it. -/
def MessageBuffer.bufId (buffer : MessageBuffer) : Nat :=
  if buffer.IDE then buffer.ID.R else buffer.ID.ID_STD

def MessageBuffer.holdsId (buffer : MessageBuffer) (frame : CANFrame) : Bool :=
  buffer.bufId == CanId.rawId frame.id && buffer.IDE == CanId.isExtended frame.id

/-- The two words of a payload. -/
def dataWords (payload : List UInt8) : Nat × Nat :=
  (ofBigEndian (payload.take 4), ofBigEndian ((payload.drop 4).take 4))

/-- The buffer after a frame has been written into it. -/
def MessageBuffer.write (buffer : MessageBuffer) (frame : CANFrame) : MessageBuffer :=
  if CanId.isExtended frame.id then
    { CODE := CODE_TRANSMIT, IDE := true, SRR := true, DLC := frame.payloadLength % 2 ^ 4,
      ID := .ofR (CanId.rawId frame.id), DATA := dataWords frame.payload }
  else
    { CODE := CODE_TRANSMIT, IDE := false, SRR := buffer.SRR,
      DLC := frame.payloadLength % 2 ^ 4,
      ID := { buffer.ID with ID_STD := CanId.rawId frame.id % 2 ^ 11 },
      DATA := dataWords frame.payload }

namespace FlexCANDevice

/-- The locals of the search, `free` and `busyBufferFound`. -/
structure BufferSearch where
  free : Nat := TRANSMIT_BUFFER_UNAVAILABLE
  busyBufferFound : Bool := false
  deriving DecidableEq

/-- One round of the search, without a result at a busy buffer with the identifier. -/
def visit (device : FlexCANDevice) (frame : CANFrame) (bufIdx : Nat) (search : BufferSearch) :
    Option (BufferSearch × FlexCANDevice) :=
  if (device.messageBuffer bufIdx).CODE = CODE_INACTIVE then
    some ({ search with free := bufIdx },
      if search.busyBufferFound then device else { device with fLastMessageBuffer := bufIdx })
  else if (device.messageBuffer bufIdx).holdsId frame then none
  else some ({ search with busyBufferFound := true }, device)

/-- The end of the search: without a free buffer, the next one is used, if there is one. -/
def finish (config : Config) (device : FlexCANDevice) (free : Nat) : Nat × FlexCANDevice :=
  if free = TRANSMIT_BUFFER_UNAVAILABLE ∧
      device.fLastMessageBuffer < config.endOfBuffers - 1 then
    (device.fLastMessageBuffer + 1,
      { device with fLastMessageBuffer := device.fLastMessageBuffer + 1 })
  else (free, device)

/-- The search from a buffer downwards. -/
def searchFrom (config : Config) (frame : CANFrame) (device : FlexCANDevice) :
    Nat → BufferSearch → Nat × FlexCANDevice
  | 0, search => device.finish config search.free
  | below + 1, search =>
    if below + 1 < FIRST_TRANSMIT_BUFFER then device.finish config search.free
    else
      match device.visit frame (below + 1) search with
      | none => device.finish config search.free
      | some (search, device) => searchFrom config frame device below search

def getTransmitBuffer (config : Config) (device : FlexCANDevice) (frame : CANFrame)
    (callbackRequested : Bool) : Nat × FlexCANDevice :=
  if callbackRequested then
    if (device.messageBuffer CALLBACK_TRANSMIT_BUFFER).CODE = CODE_INACTIVE then
      (CALLBACK_TRANSMIT_BUFFER, device)
    else (TRANSMIT_BUFFER_UNAVAILABLE, device)
  else device.searchFrom config frame device.fLastMessageBuffer {}

def setBuffer (device : FlexCANDevice) (bufIdx : Nat) (buffer : MessageBuffer) : FlexCANDevice :=
  { device with messageBuffer := Function.update device.messageBuffer bufIdx buffer }

def transmit (config : Config) (device : FlexCANDevice) (frame : CANFrame) (bufIdx : Nat) :
    ErrorCode × FlexCANDevice :=
  if (FIRST_TRANSMIT_BUFFER ≤ bufIdx ∧ bufIdx < config.endOfBuffers ∨
        CALLBACK_TRANSMIT_BUFFER = bufIdx) ∧
      (device.messageBuffer bufIdx).CODE = CODE_INACTIVE then
    (.CAN_ERR_OK, device.setBuffer bufIdx ((device.messageBuffer bufIdx).write frame))
  else (.CAN_ERR_TX_FAIL, device)

/-- The controller has sent the frame of a buffer. -/
def sent (device : FlexCANDevice) (bufIdx : Nat) : FlexCANDevice :=
  device.setBuffer bufIdx { device.messageBuffer bufIdx with CODE := CODE_INACTIVE }

end FlexCANDevice

/-! ## Frames on the bus -/

/-- Identifiers are compared on the bus with their format. -/
structure BusId where
  extended : Bool
  id : Nat
  deriving DecidableEq

structure BusFrame where
  busId : BusId
  dlc : Nat
  data : Nat × Nat
  deriving DecidableEq

/-- The frame that the controller sends from a buffer: an identifier has 29 bits or 11. -/
def MessageBuffer.busFrame (buffer : MessageBuffer) : BusFrame where
  busId := ⟨buffer.IDE, if buffer.IDE then buffer.ID.R % 2 ^ 29 else buffer.ID.ID_STD⟩
  dlc := buffer.DLC
  data := buffer.DATA

def CANFrame.busFrame (frame : CANFrame) : BusFrame where
  busId := ⟨CanId.isExtended frame.id, CanId.rawId frame.id⟩
  dlc := frame.payloadLength % 2 ^ 4
  data := dataWords frame.payload

theorem MessageBuffer.busFrame_write (buffer : MessageBuffer) {frame : CANFrame}
    (inRange : CanId.InRange frame.id) : (buffer.write frame).busFrame = frame.busFrame := by
  rw [CanId.InRange] at inRange
  by_cases extended : CanId.isExtended frame.id
  · rw [if_pos extended] at inRange
    have whole : CanId.rawId frame.id < 2 ^ 29 := Nat.lt_succ_of_le inRange
    simpa [busFrame, CANFrame.busFrame, write, extended, IdRegister.R_ofR inRange] using whole
  · rw [if_neg extended, CanId.MAX_RAW_BASE_ID] at inRange
    have whole : CanId.rawId frame.id < 2 ^ 11 := Nat.lt_succ_of_le inRange
    simpa [busFrame, CANFrame.busFrame, write, extended] using whole

theorem MessageBuffer.bufId_write (buffer : MessageBuffer) {frame : CANFrame}
    (inRange : CanId.InRange frame.id) :
    (buffer.write frame).bufId = CanId.rawId frame.id := by
  rw [CanId.InRange] at inRange
  by_cases extended : CanId.isExtended frame.id
  · rw [if_pos extended] at inRange
    simp [bufId, write, extended, IdRegister.R_ofR inRange]
  · rw [if_neg extended, CanId.MAX_RAW_BASE_ID] at inRange
    have whole : CanId.rawId frame.id < 2 ^ 11 := Nat.lt_succ_of_le inRange
    simpa [bufId, write, extended] using whole

theorem MessageBuffer.CODE_write (buffer : MessageBuffer) (frame : CANFrame) :
    (buffer.write frame).CODE = CODE_TRANSMIT := by
  unfold write
  split <;> rfl

end OpenBsw.Can
