import OpenBsw.Data.Bytes

/-!
# The DoCAN frame codec

Payloads of single, first, consecutive and flow control frames as
`DoCanFrameCodec` encodes and decodes them, for a configuration with padding
and an address-extension offset.  The frame size type is the 8-bit type of all
presets; the message size and frame index types are those of the data link
layer.

A failed codec function delivers no data, so a function that fills output
references on success returns them in `Except.ok` here.
-/

namespace OpenBsw.Docan

open OpenBsw.Bytes

/-! ## Types of the data link layer -/

/-- The unsigned integer types a data link layer is instantiated with.  A
message size needs at least a byte and at most 32 bits. -/
structure DataLinkLayer where
  messageSizeBits : Nat
  frameIndexBits : Nat
  byte_le_messageSize : 8 ≤ messageSizeBits := by decide
  messageSize_le_word : messageSizeBits ≤ 32 := by decide

namespace DataLinkLayer

/-- The layer of all addressing modes with their default parameters. -/
def standard : DataLinkLayer where
  messageSizeBits := 16
  frameIndexBits := 16

/-- Conversion to the message size type. -/
def messageSize (layer : DataLinkLayer) (value : Nat) : Nat :=
  value % 2 ^ layer.messageSizeBits

/-- Conversion to the frame index type. -/
def frameIndex (layer : DataLinkLayer) (value : Nat) : Nat :=
  value % 2 ^ layer.frameIndexBits

/-- `numeric_limits<MessageSizeType>::max()` -/
def messageSizeMax (layer : DataLinkLayer) : Nat :=
  2 ^ layer.messageSizeBits - 1

/-- `numeric_limits<FrameIndexType>::max()` -/
def frameIndexMax (layer : DataLinkLayer) : Nat :=
  2 ^ layer.frameIndexBits - 1

end DataLinkLayer

/-- Conversion to the frame size type `uint8_t`. -/
def frameSize (value : Nat) : Nat :=
  value % 256

/-- The failures of `CodecResult`; its `OK` is `Except.ok`. -/
inductive CodecResult where
  | invalidFrameSize
  | invalidMessageSize
  | invalidFrameIndex
  | invalidFrameType
  deriving DecidableEq, Repr

inductive FrameType where
  | single
  | first
  | consecutive
  | flowControl
  deriving DecidableEq, Repr

namespace FrameType

def code : FrameType → UInt8
  | single => 0
  | first => 1
  | consecutive => 2
  | flowControl => 3

/-- The enumerator of a frame type nibble, if there is one. -/
def ofCode (nibble : UInt8) : Option FrameType :=
  if nibble = 0 then some single
  else if nibble = 1 then some first
  else if nibble = 2 then some consecutive
  else if nibble = 3 then some flowControl
  else none

end FrameType

/-- A flow status; a received nibble need not be one of the enumerators. -/
inductive FlowStatus where
  | cts
  | wait
  | ovflw
  | other (code : UInt8)
  deriving DecidableEq, Repr

namespace FlowStatus

def code : FlowStatus → UInt8
  | cts => 0
  | wait => 1
  | ovflw => 2
  | other code => code

/-- `static_cast<FlowStatus>` -/
def ofCode (code : UInt8) : FlowStatus :=
  if code = 0 then cts
  else if code = 1 then wait
  else if code = 2 then ovflw
  else other code

@[simp]
theorem code_ofCode (byte : UInt8) : (ofCode byte).code = byte := by
  unfold ofCode
  split
  · simp_all [code]
  split
  · simp_all [code]
  split <;> simp_all [code]

end FlowStatus

/-! ## Configuration -/

/-- Smallest and largest size of a kind of frame. -/
structure SizeConfig where
  min : Nat
  max : Nat
  max_lt : max < 256 := by decide
  deriving DecidableEq

/-- Sizing and padding of frames.  The two inequalities are the assertions
`fitsIntoLongSingleFrame` and `getEncodedFrameCount` make. -/
structure FrameCodecConfig where
  singleFrameSize : SizeConfig
  firstFrameSize : SizeConfig
  consecutiveFrameSize : SizeConfig
  flowControlFrameSize : SizeConfig
  filler : UInt8
  offset : Nat
  singleFrame_large : offset + 2 ≤ singleFrameSize.max := by decide
  consecutiveFrame_large : offset + 2 ≤ consecutiveFrameSize.max := by decide
  deriving DecidableEq

namespace FrameCodecConfig

def paddedClassic : FrameCodecConfig where
  singleFrameSize := { min := 8, max := 8 }
  firstFrameSize := { min := 8, max := 8 }
  consecutiveFrameSize := { min := 8, max := 8 }
  flowControlFrameSize := { min := 8, max := 8 }
  filler := 0xCC
  offset := 0

def paddedFd : FrameCodecConfig where
  singleFrameSize := { min := 8, max := 64 }
  firstFrameSize := { min := 64, max := 64 }
  consecutiveFrameSize := { min := 8, max := 64 }
  flowControlFrameSize := { min := 8, max := 64 }
  filler := 0xCC
  offset := 0

def optimizedClassic : FrameCodecConfig where
  singleFrameSize := { min := 0, max := 8 }
  firstFrameSize := { min := 8, max := 8 }
  consecutiveFrameSize := { min := 0, max := 8 }
  flowControlFrameSize := { min := 0, max := 8 }
  filler := 0xCC
  offset := 0

def optimizedFd : FrameCodecConfig where
  singleFrameSize := { min := 0, max := 64 }
  firstFrameSize := { min := 64, max := 64 }
  consecutiveFrameSize := { min := 0, max := 64 }
  flowControlFrameSize := { min := 0, max := 64 }
  filler := 0xCC
  offset := 0

/-! The extended addressing presets reserve the first byte for the address
extension. -/

def eaPaddedClassic : FrameCodecConfig :=
  { paddedClassic with
    offset := 1, singleFrame_large := by decide, consecutiveFrame_large := by decide }

def eaPaddedFd : FrameCodecConfig :=
  { paddedFd with
    offset := 1, singleFrame_large := by decide, consecutiveFrame_large := by decide }

def eaOptimizedClassic : FrameCodecConfig :=
  { optimizedClassic with
    offset := 1, singleFrame_large := by decide, consecutiveFrame_large := by decide }

def eaOptimizedFd : FrameCodecConfig :=
  { optimizedFd with
    offset := 1, singleFrame_large := by decide, consecutiveFrame_large := by decide }

/-- All presets of `DoCanFrameCodecConfigPresets`. -/
def presets : List FrameCodecConfig :=
  [paddedClassic, paddedFd, optimizedClassic, optimizedFd,
    eaPaddedClassic, eaPaddedFd, eaOptimizedClassic, eaOptimizedFd]

/-- The largest payload of a frame under the configuration. -/
def maxFrameSize (config : FrameCodecConfig) : Nat :=
  config.consecutiveFrameSize.max

end FrameCodecConfig

/-- The two implementations of `IDoCanFrameSizeMapper`. -/
inductive FrameSizeMapper where
  | default
  | fd
  deriving DecidableEq, Repr

namespace FrameSizeMapper

/-- The table of `DoCanFdFrameSizeMapper`: the next payload size a CAN FD data
length code can express. -/
def sizes : List Nat :=
  [0, 1, 2, 3, 4, 5, 6, 7, 8, 12, 12, 12, 12, 16, 16, 16, 16,
    20, 20, 20, 20, 24, 24, 24, 24, 32, 32, 32, 32, 32, 32, 32, 32, 48,
    48, 48, 48, 48, 48, 48, 48, 48, 48, 48, 48, 48, 48, 48, 48, 64, 64,
    64, 64, 64, 64, 64, 64, 64, 64, 64, 64, 64, 64, 64, 64]

def mapFrameSize : FrameSizeMapper → Nat → Option Nat
  | default, size => some size
  | fd, size => if 64 < size then none else some (sizes.getD size 0)

end FrameSizeMapper

/-! ## Sizes -/

def extendedSfDlEdgeSize : Nat := 8

def escapedSeqMessageSize : Nat := 4095

section Codec

variable (layer : DataLinkLayer) (config : FrameCodecConfig) (mapper : FrameSizeMapper)

def checkFrameSize (payload : List UInt8) (minPayloadSize : Nat) (size : SizeConfig) : Bool :=
  decide (config.offset + minPayloadSize ≤ payload.length) &&
    decide (size.min ≤ payload.length) && decide (payload.length ≤ size.max)

/-- The source subtracts the header from the edge; both sides are moved here
so that no subtraction can truncate. -/
def fitsIntoShortSingleFrame (messageSize : Nat) : Bool :=
  decide (messageSize + (config.offset + 1) ≤
    min extendedSfDlEdgeSize config.singleFrameSize.max)

def fitsIntoLongSingleFrame (messageSize : Nat) : Bool :=
  decide (messageSize + (config.offset + 2) ≤ config.singleFrameSize.max)

/-- Number of frames and data size of a consecutive frame for a message. -/
def getEncodedFrameCount (messageSize : Nat) : Except CodecResult (Nat × Nat) :=
  if messageSize = 0 then .error .invalidMessageSize
  else if fitsIntoShortSingleFrame config messageSize ||
      fitsIntoLongSingleFrame config messageSize then .ok (1, 0)
  else
    let consecutiveFrameDataSize :=
      frameSize (config.consecutiveFrameSize.max - (config.offset + 1))
    let count := messageSize / consecutiveFrameDataSize
    if layer.frameIndexMax ≤ count then .error .invalidMessageSize
    else .ok (layer.frameIndex (count + 1), consecutiveFrameDataSize)

/-! ## Encoding -/

/-- First byte of a payload: frame type in the high, `nibble` in the low half. -/
def typeByte (frameType : FrameType) (nibble : UInt8) : UInt8 :=
  (frameType.code <<< 4) ||| (nibble &&& 0x0F)

/-- `payload[offset] |= frameType << 4` on a header that is already written. -/
def markType (frameType : FrameType) : List UInt8 → List UInt8
  | [] => []
  | byte :: rest => (byte ||| (frameType.code <<< 4)) :: rest

/-- What the branches of `encodeDataFrame` decide: the bytes before the data,
the number of data bytes taken, and the minimum size to pad to.  The data
starts right behind the header. -/
structure FrameLayout where
  header : List UInt8
  consumedDataSize : Nat
  minFrameSize : Nat

def frameLayout (pendingMessageSize frameIndex consecutiveFrameDataSize : Nat) :
    Option FrameLayout :=
  if frameIndex = 0 then
    if fitsIntoShortSingleFrame config pendingMessageSize then
      some
        { header := [typeByte .single (UInt8.ofNat pendingMessageSize)]
          consumedDataSize := frameSize pendingMessageSize
          minFrameSize := config.singleFrameSize.min }
    else if fitsIntoLongSingleFrame config pendingMessageSize then
      some
        { header := [FrameType.single.code <<< 4, UInt8.ofNat pendingMessageSize]
          consumedDataSize := frameSize pendingMessageSize
          minFrameSize := config.singleFrameSize.min }
    else if 0 < consecutiveFrameDataSize then
      if pendingMessageSize ≤ escapedSeqMessageSize then
        some
          { header := markType .first (bigEndian 2 (pendingMessageSize &&& 0xFFF))
            consumedDataSize := consecutiveFrameDataSize - 1
            minFrameSize := config.firstFrameSize.min }
      else
        -- the escape sequence costs four more bytes; `uint8_t` wraps below zero
        some
          { header := markType .first ([0, 0] ++ bigEndian 4 pendingMessageSize)
            consumedDataSize := frameSize (consecutiveFrameDataSize - 1 + 256 - 4)
            minFrameSize := config.firstFrameSize.min }
    else none
  else if 0 < consecutiveFrameDataSize then
    let consumedDataSize := frameSize (min consecutiveFrameDataSize pendingMessageSize)
    some
      { header := [typeByte .consecutive (UInt8.ofNat frameIndex)]
        consumedDataSize
        minFrameSize := max consumedDataSize config.consecutiveFrameSize.min }
  else none

/-- Pad the payload to the mapped size and cut the buffer there. -/
def adjustFrame (payload : List UInt8) (payloadSize minFrameSize : Nat) :
    Except CodecResult (List UInt8) :=
  match mapper.mapFrameSize (max payloadSize minFrameSize) with
  | none => .error .invalidFrameSize
  | some paddedFrameSize =>
    if payloadSize < paddedFrameSize then
      if payload.length < paddedFrameSize then .error .invalidFrameSize
      else
        .ok ((overwrite payload payloadSize
          (List.replicate (paddedFrameSize - payloadSize) config.filler)).take paddedFrameSize)
    else .ok (payload.take paddedFrameSize)

/-- The payload of a data frame and the number of data bytes it took. -/
def encodeDataFrame (payload data : List UInt8) (frameIndex consecutiveFrameDataSize : Nat) :
    Except CodecResult (List UInt8 × Nat) :=
  if data.length = 0 ∨ layer.messageSizeMax < data.length then .error .invalidFrameIndex
  else
    match frameLayout config data.length frameIndex consecutiveFrameDataSize with
    | none => .error .invalidFrameIndex
    | some layout =>
      let destOffset := frameSize (config.offset + layout.header.length)
      let payloadSize := frameSize (destOffset + layout.consumedDataSize)
      if payload.length < payloadSize then .error .invalidFrameSize
      else do
        let written := overwrite payload config.offset layout.header
        let copied := overwrite written destOffset (data.take layout.consumedDataSize)
        let frame ← adjustFrame config mapper copied payloadSize layout.minFrameSize
        pure (frame, layout.consumedDataSize)

def encodeFlowControlFrame (payload : List UInt8) (flowStatus : FlowStatus)
    (blockSize encodedMinSeparationTime : UInt8) : Except CodecResult (List UInt8) :=
  if payload.length < config.offset + 3 then .error .invalidFrameSize
  else
    let written := overwrite payload config.offset
      [typeByte .flowControl flowStatus.code, blockSize, encodedMinSeparationTime]
    adjustFrame config mapper written (frameSize (config.offset + 3))
      config.flowControlFrameSize.min

/-! ## Decoding -/

/-- `payload[position]`, which the size checks keep inside the payload. -/
def byteAt (payload : List UInt8) (position : Nat) : UInt8 :=
  payload.getD position 0

/-- The frame type of a payload; `none` for a nibble without enumerator. -/
def decodeFrameType (payload : List UInt8) : Except CodecResult (Option FrameType) :=
  if payload.length ≤ config.offset then .error .invalidFrameSize
  else .ok (FrameType.ofCode ((byteAt payload config.offset >>> 4) &&& 0x0F))

/-- Message size and data of a single frame. -/
def decodeSingleFrame (payload : List UInt8) : Except CodecResult (Nat × List UInt8) :=
  let offset := config.offset
  if checkFrameSize config payload 2 config.singleFrameSize then
    let messageSize := (byteAt payload offset &&& 0x0F).toNat
    let isExtendedSfDlExpected := extendedSfDlEdgeSize < payload.length
    if messageSize = 0 ∧ isExtendedSfDlExpected then
      let messageSize := (byteAt payload (offset + 1)).toNat
      let checkPayloadSize := layer.messageSize (messageSize + offset + 2)
      if checkPayloadSize ≤ layer.messageSize config.singleFrameSize.max ∧
          checkPayloadSize ≤ payload.length then
        .ok (messageSize, slice payload (offset + 2) messageSize)
      else .error .invalidMessageSize
    else if 0 < messageSize ∧ ¬isExtendedSfDlExpected then
      let checkPayloadSize := layer.messageSize (messageSize + offset + 1)
      if checkPayloadSize ≤ payload.length then
        .ok (messageSize, slice payload (offset + 1) messageSize)
      else .error .invalidMessageSize
    else .error .invalidMessageSize
  else .error .invalidFrameSize

/-- What a first frame announces, with the data it carries. -/
structure FirstFrame where
  messageSize : Nat
  frameCount : Nat
  consecutiveFrameDataSize : Nat
  data : List UInt8
  deriving DecidableEq

/-- Message size and start of the data behind the header of a first frame. -/
def decodeFirstFrameSize (payload : List UInt8) : Except CodecResult (Nat × Nat) :=
  let offset := config.offset
  let messageSize := layer.messageSize (ofBigEndian (slice payload offset 2) &&& 0xFFF)
  if messageSize = 0 then
    if checkFrameSize config payload 6 config.firstFrameSize then
      let escapedMessageSize := ofBigEndian (slice payload (offset + 2) 4)
      if escapedMessageSize ≤ escapedSeqMessageSize ∨ layer.messageSizeMax < escapedMessageSize then
        .error .invalidMessageSize
      else .ok (layer.messageSize escapedMessageSize, 6)
    else .error .invalidFrameSize
  else .ok (messageSize, 2)

def decodeFirstFrame (payload : List UInt8) : Except CodecResult FirstFrame :=
  let offset := config.offset
  if checkFrameSize config payload 3 config.firstFrameSize then do
    let consecutiveFrameDataSize := frameSize (payload.length - (offset + 1))
    let (messageSize, dataStart) ← decodeFirstFrameSize layer config payload
    let count := messageSize / consecutiveFrameDataSize
    if layer.frameIndexMax ≤ count then .error .invalidMessageSize
    else
      let frameCount := layer.frameIndex (count + 1)
      if 1 < frameCount ∧ ¬fitsIntoShortSingleFrame config messageSize ∧
          ¬fitsIntoLongSingleFrame config messageSize then
        .ok
          { messageSize, frameCount, consecutiveFrameDataSize
            data := slice payload (offset + dataStart) (consecutiveFrameDataSize + 1 - dataStart) }
      else .error .invalidMessageSize
  else .error .invalidFrameSize

/-- Sequence number and data of a consecutive frame; padding counts as data. -/
def decodeConsecutiveFrame (payload : List UInt8) : Except CodecResult (UInt8 × List UInt8) :=
  let offset := config.offset
  if checkFrameSize config payload 2 config.consecutiveFrameSize then
    .ok (byteAt payload offset &&& 0x0F,
      slice payload (offset + 1) (payload.length - (offset + 1)))
  else .error .invalidFrameSize

/-- Flow status, block size and encoded minimum separation time. -/
def decodeFlowControlFrame (payload : List UInt8) :
    Except CodecResult (FlowStatus × UInt8 × UInt8) :=
  let offset := config.offset
  if checkFrameSize config payload 3 config.flowControlFrameSize then
    .ok (FlowStatus.ofCode (byteAt payload offset &&& 0x0F),
      byteAt payload (offset + 1), byteAt payload (offset + 2))
  else .error .invalidFrameSize

end Codec

/-! ## Dispatching decoded frames -/

/-- The two data link addresses of a connection. -/
structure DataLinkAddressPair (Address : Type) where
  receptionAddress : Address
  transmissionAddress : Address
  deriving DecidableEq

/-- The transport addresses of the two ends of a connection. -/
structure TransportAddressPair where
  sourceId : Nat
  targetId : Nat
  deriving DecidableEq

/-- A `DoCanConnection`: the codec configuration of a peer and its addresses. -/
structure Connection (Address : Type) where
  config : FrameCodecConfig
  dataLinkAddressPair : DataLinkAddressPair Address
  transportAddressPair : TransportAddressPair
  deriving DecidableEq

/-- The calls of the frame receiver interface. -/
inductive FrameEvent (Address : Type) where
  | firstDataFrameReceived (connection : Connection Address)
      (messageSize frameCount consecutiveFrameDataSize : Nat) (data : List UInt8)
  | consecutiveDataFrameReceived (receptionAddress : Address)
      (sequenceNumber : UInt8) (data : List UInt8)
  | flowControlFrameReceived (receptionAddress : Address) (flowStatus : FlowStatus)
      (blockSize encodedMinSeparationTime : UInt8)
  deriving DecidableEq

/-- Decode a received payload into the call made on the frame receiver. -/
def decodeFrame {Address : Type} (layer : DataLinkLayer) (connection : Connection Address)
    (payload : List UInt8) : Except CodecResult (FrameEvent Address) := do
  let receptionAddress := connection.dataLinkAddressPair.receptionAddress
  match ← decodeFrameType connection.config payload with
  | some .single =>
    let (messageSize, data) ← decodeSingleFrame layer connection.config payload
    pure (.firstDataFrameReceived connection messageSize 1 0 data)
  | some .first =>
    let first ← decodeFirstFrame layer connection.config payload
    pure (.firstDataFrameReceived connection first.messageSize first.frameCount
      first.consecutiveFrameDataSize first.data)
  | some .consecutive =>
    let (sequenceNumber, data) ← decodeConsecutiveFrame connection.config payload
    pure (.consecutiveDataFrameReceived receptionAddress sequenceNumber data)
  | some .flowControl =>
    let (flowStatus, blockSize, encodedMinSeparationTime) ←
      decodeFlowControlFrame connection.config payload
    pure (.flowControlFrameReceived receptionAddress flowStatus blockSize
      encodedMinSeparationTime)
  | none => .error .invalidFrameType

end OpenBsw.Docan
