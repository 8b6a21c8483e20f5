import OpenBsw.Someip.Sd.SdEndpoint

/-!
# The parser of service discovery options

An entry references two runs of options, each by an index and a count.  The parser walks
over the options with a pointer and with an offset: what is left is computed from the
offset, and bytes are read at the pointer.  Pointers are positions in the array of options
here, and a read outside of the array has no result.
-/

namespace OpenBsw.Someip

open OpenBsw.Bytes

/-! ## Options of a message -/

/-- A field of four bytes counts fewer than 2^32 bytes. -/
theorem length_slice_lt (payload : List UInt8) (start field : Nat) :
    (slice payload start (ofBigEndian (slice payload field 4))).length < 2 ^ 32 := by
  have number := ofBigEndian_lt (slice payload field 4)
  have width : (slice payload field 4).length ≤ 4 := List.length_take_le ..
  have power : 256 ^ (slice payload field 4).length ≤ 256 ^ 4 :=
    Nat.pow_le_pow_right (by decide) width
  have short : (slice payload start (ofBigEndian (slice payload field 4))).length ≤
      ofBigEndian (slice payload field 4) := List.length_take_le ..
  omega

structure SdOptions where
  optionsData : List UInt8
  /-- The length field of the options has 32 bits. -/
  fits : optionsData.length < 2 ^ 32
  options1Index : UInt8 := 0xFF
  options2Index : UInt8 := 0xFF
  options1Num : UInt8 := 0xFF
  options2Num : UInt8 := 0xFF

namespace SdOptions

/-- The options behind the entries, if the payload is long enough. -/
def init (payload : List UInt8) (entriesLength : Nat) : Option SdOptions :=
  let optionsLengthOffset := 8 + entriesLength
  if payload.length < optionsLengthOffset + 4 then none
  else
    let optionsLength := ofBigEndian (slice payload optionsLengthOffset 4)
    if payload.length < optionsLengthOffset + 4 + optionsLength then none
    else
      some {
        optionsData := slice payload (optionsLengthOffset + 4) optionsLength
        fits := length_slice_lt payload _ _ }

/-- The runs that an entry references. -/
def readIndexValues (options : SdOptions) (entry : List UInt8) : SdOptions :=
  { options with
    options1Index := entry.getD 1 0
    options2Index := entry.getD 2 0
    options1Num := entry.getD 3 0 >>> 4
    options2Num := entry.getD 3 0 &&& 0x0F }

end SdOptions

namespace SdOptionParser

inductive OptionCategory
  | IpEndpointOption
  | IpMulticastOption
  deriving DecidableEq, Repr

def OPTION_TYPE_IP4_ENDPOINT : UInt8 := 0x04
def OPTION_TYPE_IP4_MULTICAST : UInt8 := 0x14
def OPTION_TYPE_IP6_ENDPOINT : UInt8 := 0x06
def OPTION_TYPE_IP6_MULTICAST : UInt8 := 0x16

def SD_L4_PROTO_TCP : UInt8 := 0x06
def SD_L4_PROTO_UDP : UInt8 := 0x11

def SD_OPTION_LENGTH_FIELD_LENGTH : Nat := 2
def SD_OPTION_TYPE_OFFSET : Nat := 2
def SD_OPTION_ADDRESS_OFFSET : Nat := 4
def SD_IP4_OPTION_LENGTH : Nat := 12
def SD_IP6_OPTION_LENGTH : Nat := 24

def isOptionCategory (category : OptionCategory) (type : UInt8) : Bool :=
  match category with
  | .IpEndpointOption => type = OPTION_TYPE_IP4_ENDPOINT || type = OPTION_TYPE_IP6_ENDPOINT
  | .IpMulticastOption => type = OPTION_TYPE_IP4_MULTICAST || type = OPTION_TYPE_IP6_MULTICAST

def isIp4OptionType (type : UInt8) : Bool :=
  type = OPTION_TYPE_IP4_ENDPOINT || type = OPTION_TYPE_IP4_MULTICAST

def isIp6OptionType (type : UInt8) : Bool :=
  type = OPTION_TYPE_IP6_ENDPOINT || type = OPTION_TYPE_IP6_MULTICAST

/-- The bytes at a pointer. -/
def readBytes (data : List UInt8) (pointer size : Nat) : Option (List UInt8) :=
  if pointer + size ≤ data.length then some (slice data pointer size) else none

/-- Move an offset of type `uint16_t`. -/
def advance (offset bytes : Nat) : Nat :=
  (offset + bytes) % 2 ^ 16

/-- `offset` is of type `uint16_t`. -/
def parseIpOptionType (ip6 : Bool) (buffer : List UInt8) (offset : Nat) (type : UInt8) :
    Option (SdEndpoint ip6) :=
  let offset := advance offset SD_OPTION_ADDRESS_OFFSET
  if isIp4OptionType type then do
    let ipAddr ← readBytes buffer offset IPAddress.IP4LENGTH
    let offset := advance (advance offset IPAddress.IP4LENGTH) 1
    let proto ← buffer[offset]?
    let port ← readBytes buffer (advance offset 1) 2
    pure { address := .make_ip4 ip6 ipAddr, port := ofBigEndian port, proto }
  else if ip6 = true ∧ isIp6OptionType type = true then do
    let ipAddr ← readBytes buffer offset IPAddress.IP6LENGTH
    let offset := advance (advance offset IPAddress.IP6LENGTH) 1
    let proto ← buffer[offset]?
    let port ← readBytes buffer (advance offset 1) 2
    pure { address := .make_ip6 ip6 ipAddr, port := ofBigEndian port, proto }
  else pure (SdEndpoint.INVALID_ENDPOINT ip6)

/-! ## Walking over options -/

/-- The variables of a walk; `visited` lists the values that the pointer and the offset have
had together. -/
structure Walk where
  option : Nat := 0
  optionCounter : UInt8 := 0
  offset : Nat := 0
  visited : List (Nat × Nat) := []
  deriving DecidableEq, Repr

/-- The walk behind an option of which the length is known.  The offset does not exceed
the number of bytes, so it does not wrap. -/
def Walk.next (walk : Walk) (optionLength : Nat) : Walk where
  option := walk.option + (optionLength + 3) % 2 ^ 8
  optionCounter := walk.optionCounter + 1
  offset := walk.offset + (optionLength + 3)
  visited := (walk.option + (optionLength + 3) % 2 ^ 8, walk.offset + (optionLength + 3)) ::
    walk.visited

/-- The length at the pointer, if that many bytes are left behind the offset. -/
def optionLengthAt (data : List UInt8) (walk : Walk) : Option (Option Nat) :=
  if data.length - walk.offset < SD_OPTION_LENGTH_FIELD_LENGTH then some none
  else do
    let optionLength := ofBigEndian (← readBytes data walk.option 2)
    if data.length - walk.offset < optionLength + SD_OPTION_LENGTH_FIELD_LENGTH + 1 then
      pure none
    else pure (some optionLength)

/-- The loop with the rounds that are left until the counter has reached the target. -/
def goToOption (data : List UInt8) : Nat → Walk → Option (Bool × Walk)
  | 0, walk => some (true, walk)
  | left + 1, walk => do
    match ← optionLengthAt data walk with
    | none => pure (false, walk)
    | some optionLength => goToOption data left (walk.next optionLength)

/-- What a search has found. -/
structure Found where
  foundOption : Option Nat := none
  foundOptionType : UInt8 := 0
  numUdpOptions : UInt8 := 0
  numTcpOptions : UInt8 := 0
  deriving DecidableEq, Repr

namespace Found

/-- Remember the first option that was found. -/
def useFirst (found : Found) (option : Nat) (optionType : UInt8) : Found :=
  if found.numUdpOptions.toNat + found.numTcpOptions.toNat = 1 then
    { found with foundOption := some option, foundOptionType := optionType }
  else found

/-- Count an option by its protocol, if that is known. -/
def count (found : Found) (option : Nat) (optionType proto : UInt8) : Option Found :=
  if proto = SD_L4_PROTO_UDP then
    some ({ found with numUdpOptions := found.numUdpOptions + 1 }.useFirst option optionType)
  else if proto = SD_L4_PROTO_TCP then
    some ({ found with numTcpOptions := found.numTcpOptions + 1 }.useFirst option optionType)
  else none

end Found

/-- The length of an option and the offset of its protocol. -/
def payload (optionType : UInt8) : Option (Nat × Nat) :=
  if isIp4OptionType optionType then
    some (SD_IP4_OPTION_LENGTH, SD_OPTION_ADDRESS_OFFSET + IPAddress.IP4LENGTH + 1)
  else if isIp6OptionType optionType then
    some (SD_IP6_OPTION_LENGTH, SD_OPTION_ADDRESS_OFFSET + IPAddress.IP6LENGTH + 1)
  else none

/-- The loop over the options of a run, with the rounds that are left. -/
def searchOptions (optionCategory : OptionCategory) (data : List UInt8) :
    Nat → Walk → Found → Option (Bool × Walk × Found)
  | 0, walk, found => some (true, walk, found)
  | left + 1, walk, found => do
    match ← optionLengthAt data walk with
    | none => pure (false, walk, found)
    | some optionLength =>
      let optionType ← data[walk.option + SD_OPTION_TYPE_OFFSET]?
      if !isOptionCategory optionCategory optionType then
        searchOptions optionCategory data left (walk.next optionLength) found
      else
        match payload optionType with
        | none => pure (false, walk, found)
        | some (payloadLength, protoOffset) =>
          if optionLength + 3 ≠ payloadLength then pure (false, walk, found)
          else
            let proto ← data[walk.option + protoOffset]?
            match found.count walk.option optionType proto with
            | none => pure (false, walk, found)
            | some found =>
              searchOptions optionCategory data left (walk.next optionLength) found

/-- Go to the first option of a run and look at its options. -/
def parseRun (optionCategory : OptionCategory) (data : List UInt8) (index num : UInt8)
    (found : Found) : Option (Bool × Walk × Found) := do
  let walk ← goToOption data index.toNat {}
  if walk.1 then searchOptions optionCategory data num.toNat walk.2 found
  else pure (false, walk.2, found)

/-- What `parseIpOption` returns, and what its walks have visited. -/
structure Result (ip6 : Bool) where
  endpoint : SdEndpoint ip6
  numUdpOptions : UInt8
  numTcpOptions : UInt8
  visited : List (Nat × Nat)
  deriving DecidableEq, Repr

/-- The counters start with the values of the caller. -/
def parseIpOption (ip6 : Bool) (optionCategory : OptionCategory) (options : SdOptions)
    (numUdpOptions numTcpOptions : UInt8) : Option (Result ip6) := do
  let buffer := options.optionsData
  let (good, walk1, found) ← parseRun optionCategory buffer options.options1Index
    options.options1Num { numUdpOptions, numTcpOptions }
  if !good then
    pure ⟨.INVALID_ENDPOINT ip6, found.numUdpOptions, found.numTcpOptions, walk1.visited⟩
  else
    let (good, walk2, found) ← parseRun optionCategory buffer options.options2Index
      options.options2Num found
    let visited := walk2.visited ++ walk1.visited
    match good, found.foundOption with
    | true, some foundOption =>
      let endpoint ← parseIpOptionType ip6 buffer (foundOption % 2 ^ 16) found.foundOptionType
      pure ⟨endpoint, found.numUdpOptions, found.numTcpOptions, visited⟩
    | _, _ => pure ⟨.INVALID_ENDPOINT ip6, found.numUdpOptions, found.numTcpOptions, visited⟩

def parseIpEndpointOption (ip6 : Bool) (options : SdOptions)
    (numUdpOptions numTcpOptions : UInt8) : Option (Result ip6) :=
  parseIpOption ip6 .IpEndpointOption options numUdpOptions numTcpOptions

def parseIpMulticastOption (ip6 : Bool) (options : SdOptions)
    (numUdpOptions numTcpOptions : UInt8) : Option (Result ip6) :=
  parseIpOption ip6 .IpMulticastOption options numUdpOptions numTcpOptions

end SdOptionParser

end OpenBsw.Someip
