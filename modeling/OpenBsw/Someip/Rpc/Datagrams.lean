import OpenBsw.Someip.Rpc.RpcReceiver

/-!
# Messages that share a datagram

A datagram of whole messages is worked off message by message, until one is
dropped as an error message: there `received` returns, and the messages behind
it are lost.  They are handled as if each one had a datagram of its own if and
only if nothing would have been done for a message that is lost.
-/

namespace OpenBsw.Someip

open OpenBsw.Bytes List Option

/-! ## Reading inside of a span -/

namespace SomeIpMessage

variable {span rest part : List UInt8} {offset count width value : Nat}

theorem subspan_eq_some (inside : offset + count ≤ span.length) :
    subspan span offset count = some (slice span offset count) := if_pos inside

theorem length_of_subspan (found : subspan span offset count = some part) :
    part.length = count := by
  rw [subspan] at found
  split at found
  next inside =>
    cases found
    exact length_slice inside
  next => cases found

theorem subspan_append (found : subspan span offset count = some part) (rest : List UInt8) :
    subspan (span ++ rest) offset count = some part := by
  rw [subspan] at found
  split at found
  next inside =>
    cases found
    rw [subspan_eq_some (by rw [List.length_append]; omega), slice, slice,
      drop_append_of_le_length (by omega),
      take_append_of_le_length (by rw [length_drop]; omega)]
  next => cases found

theorem readNumber_append (found : readNumber span offset width = some value)
    (rest : List UInt8) : readNumber (span ++ rest) offset width = some value := by
  rcases map_eq_some_iff.mp found with ⟨part, here, rfl⟩
  rw [readNumber, subspan_append here]
  rfl

theorem readHeader_append {header : SomeIpHeader} (found : readHeader span = some header)
    (rest : List UInt8) : readHeader (span ++ rest) = some header := by
  simp only [readHeader, bind_eq_bind, bind_eq_some_iff] at found ⊢
  obtain ⟨messageId, atMessageId, clientId, atClientId, sessionId, atSessionId, version,
    atVersion, interface, atInterface, messageType, atMessageType, returnCode, atReturnCode,
    same⟩ := found
  exact ⟨messageId, readNumber_append atMessageId rest, clientId,
    readNumber_append atClientId rest, sessionId, readNumber_append atSessionId rest, version,
    readNumber_append atVersion rest, interface, readNumber_append atInterface rest, messageType,
    readNumber_append atMessageType rest, returnCode, readNumber_append atReturnCode rest, same⟩

theorem readPayloadLength_append {payloadLength : Nat}
    (found : readPayloadLength span = some payloadLength) (rest : List UInt8) :
    readPayloadLength (span ++ rest) = some payloadLength := by
  rcases map_eq_some_iff.mp found with ⟨length, here, rfl⟩
  rw [readPayloadLength, readNumber_append here]
  rfl

theorem readNumber_isSome (span : List UInt8) (offset width : Nat)
    (inside : offset + width ≤ span.length) :
    ∃ value, readNumber span offset width = some value :=
  ⟨_, by rw [readNumber, subspan_eq_some inside]; rfl⟩

/-- A header is inside of every span that is as long as one. -/
theorem readHeader_isSome (span : List UInt8) (inside : OFFSET_PAYLOAD ≤ span.length) :
    ∃ header, readHeader span = some header := by
  rw [OFFSET_PAYLOAD] at inside
  have within : ∀ offset width, offset + width ≤ 16 →
      ∃ value, readNumber span offset width = some value :=
    fun offset width bounded => readNumber_isSome span offset width (bounded.trans inside)
  obtain ⟨messageId, atMessageId⟩ := within OFFSET_MESSAGE_ID 4 (by decide)
  obtain ⟨clientId, atClientId⟩ := within OFFSET_REQUEST_ID 2 (by decide)
  obtain ⟨sessionId, atSessionId⟩ := within OFFSET_SESSION_ID 2 (by decide)
  obtain ⟨version, atVersion⟩ := within OFFSET_PROTOCOL_VERSION 1 (by decide)
  obtain ⟨interface, atInterface⟩ := within OFFSET_INTERFACE_VERSION 1 (by decide)
  obtain ⟨messageType, atMessageType⟩ := within OFFSET_MESSAGE_TYPE 1 (by decide)
  obtain ⟨returnCode, atReturnCode⟩ := within OFFSET_RETURN_CODE 1 (by decide)
  simp [readHeader, atMessageId, atClientId, atSessionId, atVersion, atInterface, atMessageType,
    atReturnCode]

theorem readPayloadLength_isSome (span : List UInt8)
    (inside : OFFSET_PAYLOAD ≤ span.length) :
    ∃ payloadLength, readPayloadLength span = some payloadLength := by
  rw [OFFSET_PAYLOAD] at inside
  obtain ⟨length, here⟩ := readNumber_isSome span OFFSET_LENGTH 4 (by rw [OFFSET_LENGTH]; omega)
  exact ⟨_, by rw [readPayloadLength, here]; rfl⟩

theorem readMessage_isSome {header : SomeIpHeader} {payloadLength : Nat}
    (atHeader : readHeader span = some header)
    (atLength : readPayloadLength span = some payloadLength)
    (inside : OFFSET_PAYLOAD + payloadLength ≤ span.length) :
    ∃ message, readMessage span = some message := by
  refine ⟨{ header := header, payload := slice span OFFSET_PAYLOAD payloadLength }, ?_⟩
  simp [readMessage, atHeader, atLength, subspan_eq_some inside]

/-- A block of bytes that is one message with a consistent length field. -/
def IsBlock (block : List UInt8) (message : SomeIpMessage) : Prop :=
  readMessage block = some message ∧ block.length = OFFSET_PAYLOAD + message.getPayloadLength
  deriving Decidable

/-- The front of a span that begins with a block. -/
theorem IsBlock.read {block : List UInt8} {message : SomeIpMessage}
    (isBlock : IsBlock block message) (rest : List UInt8) :
    readHeader (block ++ rest) = some message.header ∧
      readPayloadLength (block ++ rest) = some message.getPayloadLength ∧
      readMessage (block ++ rest) = some message := by
  rcases isBlock with ⟨found, _⟩
  simp only [readMessage, bind_eq_bind, bind_eq_some_iff] at found
  obtain ⟨header, atHeader, payloadLength, atLength, payload, atPayload, same⟩ := found
  cases same
  have length : payload.length = payloadLength := length_of_subspan atPayload
  have headerAt := readHeader_append atHeader rest
  have lengthAt := readPayloadLength_append atLength rest
  have payloadAt := subspan_append atPayload rest
  refine ⟨headerAt, by rw [lengthAt, getPayloadLength, length], ?_⟩
  simp [readMessage, headerAt, lengthAt, payloadAt]

end SomeIpMessage

namespace RpcReceiver

open SomeIpMessage

variable {World : Type} {receiver : RpcReceiver World} {run : RpcRun World}

/-! ## Reads of the loop -/

theorem receivedFrom_isSome (receiver : RpcReceiver World) {input : List UInt8} {length : Nat}
    (inside : length ≤ input.length) (offset : Nat) (run : RpcRun World) :
    (receiver.receivedFrom input length offset run).isSome := by
  induction left : length - offset using Nat.strong_induction_on generalizing offset run with
  | _ left ih =>
    subst left
    rw [receivedFrom]
    by_cases more : offset < length
    · rw [if_pos more]
      by_cases short : length - offset < OFFSET_PAYLOAD
      · simp only [short, if_true, isSome_some]
      · have within : offset + (length - offset) ≤ input.length := by omega
        have size := length_slice within
        have whole : OFFSET_PAYLOAD ≤ (slice input offset (length - offset)).length := by
          rw [size]
          omega
        obtain ⟨header, atHeader⟩ := readHeader_isSome _ whole
        obtain ⟨payloadLength, atLength⟩ := readPayloadLength_isSome _ whole
        simp only [short, if_false, subspan_eq_some within, atHeader, atLength,
          bind_eq_bind, bind_some]
        by_cases fits : payloadLength ≤ length - offset - OFFSET_PAYLOAD
        · obtain ⟨message, atMessage⟩ := readMessage_isSome atHeader atLength
            (by rw [size]; omega)
          simp only [fits, if_true, atMessage, bind_some]
          rcases receiver.processMessage run message with ⟨returns | _, next⟩
          · exact ih _ (by rw [OFFSET_PAYLOAD]; omega) _ _ rfl
          · rfl
        · rw [if_neg fits]
          split <;> rfl
    · rw [if_neg more]
      rfl

/-! ## Blocks -/

/-- The messages, up to the one at which `received` returns. -/
def processAll (receiver : RpcReceiver World) : RpcRun World → List SomeIpMessage → RpcRun World
  | run, [] => run
  | run, message :: rest =>
    match receiver.processMessage run message with
    | (true, run) => run
    | (false, run) => receiver.processAll run rest

/-- The loop works off whole messages. -/
theorem receivedFrom_blocks (receiver : RpcReceiver World) {blocks : List (List UInt8)}
    {messages : List SomeIpMessage} (areBlocks : List.Forall₂ IsBlock blocks messages)
    (front rest : List UInt8) (run : RpcRun World) :
    receiver.receivedFrom (front ++ (blocks.flatten ++ rest))
        (front.length + blocks.flatten.length) front.length run =
      some (receiver.processAll run messages) := by
  induction areBlocks generalizing front run with
  | nil =>
    rw [receivedFrom, if_neg (by simp)]
    rfl
  | @cons block message blocks messages isBlock areBlocks ih =>
    have size := isBlock.2
    have positive : 0 < OFFSET_PAYLOAD := by decide
    have length : (block :: blocks).flatten.length =
        OFFSET_PAYLOAD + message.getPayloadLength + blocks.flatten.length := by
      rw [flatten_cons, List.length_append, size]
    have within : front.length + (front.length + (block :: blocks).flatten.length -
        front.length) ≤ (front ++ ((block :: blocks).flatten ++ rest)).length := by
      simp only [List.length_append]
      omega
    have part : slice (front ++ ((block :: blocks).flatten ++ rest)) front.length
        (front.length + (block :: blocks).flatten.length - front.length) =
          block ++ blocks.flatten := by
      rw [slice, drop_left, Nat.add_sub_cancel_left, take_left, flatten_cons]
    rcases isBlock.read blocks.flatten with ⟨atHeader, atLength, atMessage⟩
    rw [receivedFrom, if_pos (by omega)]
    have long : ¬ front.length + (block :: blocks).flatten.length - front.length <
        OFFSET_PAYLOAD := by omega
    have fits : message.getPayloadLength ≤
        front.length + (block :: blocks).flatten.length - front.length - OFFSET_PAYLOAD := by
      omega
    simp only [long, if_false, subspan_eq_some within, part, atHeader, atLength,
      bind_eq_bind, bind_some, fits, if_true, atMessage, processAll]
    rcases receiver.processMessage run message with ⟨returns | _, next⟩
    · have behind := ih (front ++ block) next
      have offset : front.length + (message.getPayloadLength + OFFSET_PAYLOAD) =
          (front ++ block).length := by
        rw [List.length_append, size]
        omega
      have end_eq : front.length + (block :: blocks).flatten.length =
          (front ++ block).length + blocks.flatten.length := by
        rw [List.length_append, length, size]
        omega
      rw [offset, end_eq]
      simpa only [flatten_cons, append_assoc] using behind
    · rfl

/-- Each block is received as a datagram of its own. -/
def receivedApart (receiver : RpcReceiver World) (blocks : List (List UInt8))
    (run : RpcRun World) : Option (RpcRun World) :=
  blocks.foldlM (fun run block => receiver.received block block.length run) run

theorem received_block (receiver : RpcReceiver World) {block : List UInt8}
    {message : SomeIpMessage} (isBlock : IsBlock block message) (run : RpcRun World) :
    receiver.received block block.length run =
      some (receiver.processMessage run message).2 := by
  have alone := receiver.receivedFrom_blocks (.cons isBlock .nil) [] [] run
  simp only [flatten_cons, flatten_nil, append_nil, nil_append,
    length_nil, Nat.zero_add] at alone
  rw [received, alone, processAll]
  rcases receiver.processMessage run message with ⟨returns | _, next⟩ <;> rfl

theorem receivedApart_eq (receiver : RpcReceiver World) {blocks : List (List UInt8)}
    {messages : List SomeIpMessage} (areBlocks : List.Forall₂ IsBlock blocks messages)
    (run : RpcRun World) :
    receiver.receivedApart blocks run =
      some (messages.foldl (fun run message => (receiver.processMessage run message).2) run) := by
  induction areBlocks generalizing run with
  | nil => rfl
  | cons isBlock areBlocks ih =>
    rw [receivedApart, foldlM_cons, received_block receiver isBlock, foldl_cons]
    exact ih _

/-! ## Calls -/

variable {message : SomeIpMessage} {messages : List SomeIpMessage}

theorem length_sendError (receiver : RpcReceiver World) (run : RpcRun World)
    (header : SomeIpHeader) (returnCode : UInt8) :
    run.calls.length < (receiver.sendError run header returnCode).calls.length := by
  rw [sendError]
  split <;> simp

theorem length_askHandlers (receiver : RpcReceiver World) (run : RpcRun World)
    (message : SomeIpMessage) :
    run.calls.length < (receiver.askHandlers run message).2.calls.length := by
  simp only [askHandlers, askPriorityRpcHandler, askRpcHandler]
  by_cases priority : receiver.hasPriorityRpcHandler run.world
  · simp only [priority, if_true]
    split <;> simp
  · simp [priority]

theorem length_handleMessage (receiver : RpcReceiver World) (run : RpcRun World)
    (message : SomeIpMessage) :
    run.calls.length < (receiver.handleMessage run message).calls.length := by
  have asked := receiver.length_askHandlers run message
  simp only [handleMessage]
  split
  · split
    · exact asked.trans (receiver.length_sendError ..)
    · exact asked
  · exact asked

theorem length_receivedTpMessage (receiver : RpcReceiver World) (run : RpcRun World)
    (message : SomeIpMessage) :
    run.calls.length ≤ (receiver.receivedTpMessage run message).calls.length := by
  rw [receivedTpMessage]
  split
  · exact le_rfl
  · exact (receiver.length_handleMessage run message).le

theorem length_runTp (receiver : RpcReceiver World) (reception : TpReception World)
    (calls : List RpcCall) : calls.length ≤ (receiver.runTp reception calls).calls.length := by
  induction reception generalizing calls with
  | returned => exact le_rfl
  | receivedTpMessage message world next ih =>
    rw [runTp]
    exact (receiver.length_receivedTpMessage ⟨world, calls⟩ message).trans (ih _ _)

theorem length_receiveTpMessage (receiver : RpcReceiver World) (run : RpcRun World)
    (message : SomeIpMessage) :
    run.calls.length < (receiver.receiveTpMessage run message).calls.length := by
  have called := receiver.length_runTp (receiver.tpTransceiver run.world message)
    (run.calls ++ [.receiveTpMessage message])
  rw [List.length_append] at called
  exact Nat.lt_of_succ_le called

/-- `received` returns at error messages. -/
theorem processMessage_fst (receiver : RpcReceiver World) (run : RpcRun World)
    (message : SomeIpMessage) :
    (receiver.processMessage run message).1 = message.header.isError := by
  simp only [processMessage]
  split
  next error => exact error.symm
  next noError =>
    rw [Bool.not_eq_true] at noError
    split
    · exact noError.symm
    · split
      · exact noError.symm
      · split <;> exact noError.symm

theorem processMessage_of_silent (silent : message.header.isSilent) (run : RpcRun World) :
    (receiver.processMessage run message).2 = run := by
  simp only [SomeIpHeader.isSilent] at silent
  simp only [processMessage]
  by_cases error : message.header.isError
  · rw [if_pos error]
  · rw [if_neg error]
    by_cases version : message.header.protocolVersion ≠ SomeIpHeader.PROTOCOL_VERSION
    · have unanswered : message.header.isAnswered = false := by simpa [error, version] using silent
      simp [version, unanswered]
    · have magic : message.header.isMagicCookie := by simpa [error, version] using silent
      simp [version, magic]

theorem length_processMessage (receiver : RpcReceiver World)
    (loud : message.header.isSilent = false) (run : RpcRun World) :
    run.calls.length < (receiver.processMessage run message).2.calls.length := by
  simp only [SomeIpHeader.isSilent, Bool.or_eq_false_iff] at loud
  rcases loud with ⟨error, loud⟩
  simp only [processMessage, error, Bool.false_eq_true, if_false]
  by_cases version : message.header.protocolVersion ≠ SomeIpHeader.PROTOCOL_VERSION
  · have answered : message.header.isAnswered := by simpa [version] using loud
    simp only [version, answered, if_true, ne_eq, not_false_eq_true]
    exact receiver.length_sendError ..
  · have magic : message.header.isMagicCookie = false := by simpa [version] using loud
    simp only [version, magic, if_false, Bool.false_eq_true]
    split
    · exact receiver.length_receiveTpMessage ..
    · exact receiver.length_handleMessage ..

theorem length_processMessage_le (receiver : RpcReceiver World) (run : RpcRun World)
    (message : SomeIpMessage) :
    run.calls.length ≤ (receiver.processMessage run message).2.calls.length := by
  cases silent : message.header.isSilent with
  | true => rw [processMessage_of_silent silent]
  | false => exact (receiver.length_processMessage silent run).le

/-- The messages one after the other, without a return. -/
def processEach (receiver : RpcReceiver World) (run : RpcRun World)
    (messages : List SomeIpMessage) : RpcRun World :=
  messages.foldl (fun run message => (receiver.processMessage run message).2) run

theorem length_processEach (receiver : RpcReceiver World) (run : RpcRun World)
    (messages : List SomeIpMessage) :
    run.calls.length ≤ (receiver.processEach run messages).calls.length := by
  induction messages generalizing run with
  | nil => exact le_rfl
  | cons message rest ih => exact (receiver.length_processMessage_le run message).trans (ih _)

/-- Messages change nothing if and only if nothing is called for any of them. -/
theorem processEach_calls_iff (receiver : RpcReceiver World) (run : RpcRun World)
    (messages : List SomeIpMessage) :
    (receiver.processEach run messages).calls = run.calls ↔
      ∀ message ∈ messages, message.header.isSilent := by
  induction messages generalizing run with
  | nil => simp [processEach]
  | cons message rest ih =>
    have following : receiver.processEach run (message :: rest) =
        receiver.processEach (receiver.processMessage run message).2 rest := rfl
    rw [following, forall_mem_cons]
    cases silent : message.header.isSilent with
    | true =>
      rw [processMessage_of_silent silent, ih]
      simp
    | false =>
      have grown := receiver.length_processMessage silent run
      have kept := receiver.length_processEach (receiver.processMessage run message).2 rest
      constructor
      · intro same
        rw [same] at kept
        omega
      · intro impossible
        exact absurd impossible.1 (by simp)

/-- Every message behind a dropped error message is one that nothing is called for. -/
def DropsSilent (messages : List SomeIpMessage) : Prop :=
  messages.Pairwise fun dropped lost => dropped.header.isError → lost.header.isSilent
  deriving Decidable

theorem processAll_calls_iff (receiver : RpcReceiver World) (run : RpcRun World)
    (messages : List SomeIpMessage) :
    (receiver.processAll run messages).calls = (receiver.processEach run messages).calls ↔
      DropsSilent messages := by
  induction messages generalizing run with
  | nil => simp [processAll, processEach, DropsSilent]
  | cons message rest ih =>
    have following : receiver.processEach run (message :: rest) =
        receiver.processEach (receiver.processMessage run message).2 rest := rfl
    have returns := receiver.processMessage_fst run message
    rw [following, DropsSilent, pairwise_cons, processAll]
    rcases processed : receiver.processMessage run message with ⟨returned, next⟩
    rw [processed] at returns
    subst returns
    cases error : message.header.isError with
    | true =>
      simp only [forall_const]
      rw [eq_comm, processEach_calls_iff]
      constructor
      · intro silent
        refine ⟨silent, pairwise_iff_forall_sublist.mpr ?_⟩
        intro dropped lost sublist _
        exact silent lost (sublist.subset (by simp))
      · exact And.left
    | false =>
      simpa [DropsSilent] using ih next

/-! ## Datagrams -/

/-- The messages of a datagram are handled as if each one had a datagram of its own, if and
only if nothing is called for the messages that are lost. -/
theorem received_calls_iff (receiver : RpcReceiver World) {blocks : List (List UInt8)}
    (areBlocks : List.Forall₂ IsBlock blocks messages) (rest : List UInt8)
    (run : RpcRun World) :
    (receiver.received (blocks.flatten ++ rest) blocks.flatten.length run).map RpcRun.calls =
        (receiver.receivedApart blocks run).map RpcRun.calls ↔
      DropsSilent messages := by
  have together := receiver.receivedFrom_blocks areBlocks [] rest run
  simp only [nil_append, length_nil, Nat.zero_add] at together
  rw [received, together, receivedApart_eq receiver areBlocks]
  simp only [map_some, Option.some.injEq]
  exact receiver.processAll_calls_iff run messages

theorem received_independently (receiver : RpcReceiver World) :
    (∀ (input : List UInt8) (length : Nat) (run : RpcRun World), length ≤ input.length →
      (receiver.received input length run).isSome) ∧
    ∀ (blocks : List (List UInt8)) (messages : List SomeIpMessage) (rest : List UInt8)
      (run : RpcRun World), List.Forall₂ IsBlock blocks messages →
      ((receiver.received (blocks.flatten ++ rest) blocks.flatten.length run).map
          RpcRun.calls = (receiver.receivedApart blocks run).map RpcRun.calls ↔
        DropsSilent messages) := by
  constructor
  · intro input length run inside
    exact receiver.receivedFrom_isSome inside 0 run
  · intro blocks messages rest run areBlocks
    exact receiver.received_calls_iff areBlocks rest run

/-! ## Samples -/

/-- All messages are accepted by the handler. -/
def sampleReceiver : RpcReceiver Unit where
  getProto _ := ITpTransceiver.SD_L4_PROTO_UDP
  hasPriorityRpcHandler _ := false
  priorityRpcHandler world _ := (.RPC_HANDLER_NOT_RESPONSIBLE, world)
  rpcHandler world _ := (.RPC_HANDLER_OK, world)
  tpTransceiver world _ := .returned world
  send world _ := world
  diagnosticListener := none

/-- A request without a payload, with a return code. -/
def sampleBlock (returnCode : UInt8) : List UInt8 :=
  [0x12, 0x34, 0, 1, 0, 0, 0, 8, 0, 1, 0, 1, 1, 1, 0, returnCode]

def sampleMessage (returnCode : UInt8) : SomeIpMessage where
  header :=
    { messageId := 0x12340001, clientId := 1, sessionId := 1, protocolVersion := 1,
      interfaceVersion := 1, rawMessageType := 0, returnCode := returnCode }
  payload := []

theorem received_independently_sample :
    List.Forall₂ IsBlock [sampleBlock 0, sampleBlock 0] [sampleMessage 0, sampleMessage 0] ∧
      (sampleReceiver.received [sampleBlock 0, sampleBlock 0].flatten 32 ⟨(), []⟩).isSome ∧
      (sampleReceiver.received [sampleBlock 0, sampleBlock 0].flatten 32 ⟨(), []⟩).map
          RpcRun.calls =
        (sampleReceiver.receivedApart [sampleBlock 0, sampleBlock 0] ⟨(), []⟩).map
          RpcRun.calls := by
  have areBlocks : List.Forall₂ IsBlock [sampleBlock 0, sampleBlock 0]
      [sampleMessage 0, sampleMessage 0] := .cons (by decide) (.cons (by decide) .nil)
  refine ⟨areBlocks, (received_independently sampleReceiver).1 _ 32 _ (by decide), ?_⟩
  exact ((received_independently sampleReceiver).2 _ _ [] ⟨(), []⟩ areBlocks).mpr (by decide)

/-- A request behind an error message is lost. -/
theorem not_received_independently :
    ¬ ∀ (receiver : RpcReceiver Unit) (blocks : List (List UInt8))
      (messages : List SomeIpMessage) (run : RpcRun Unit),
      List.Forall₂ IsBlock blocks messages →
      (receiver.received blocks.flatten blocks.flatten.length run).map RpcRun.calls =
        (receiver.receivedApart blocks run).map RpcRun.calls := by
  intro independent
  have areBlocks : List.Forall₂ IsBlock [sampleBlock 1, sampleBlock 0]
      [sampleMessage 1, sampleMessage 0] := .cons (by decide) (.cons (by decide) .nil)
  have same := independent sampleReceiver _ _ ⟨(), []⟩ areBlocks
  have silent := (sampleReceiver.received_calls_iff areBlocks [] ⟨(), []⟩).mp
    (by rw [append_nil]; exact same)
  exact absurd silent (by decide)

end RpcReceiver

end OpenBsw.Someip
