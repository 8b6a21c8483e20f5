import OpenBsw.Doip.MessageReader
import OpenBsw.Transition.System

/-!
# Reception of messages

The connection follows its stream: what it holds of the current buffer and what
the socket still holds are the rest of the stream behind the exchanges so far.
Three requests break this.  A declined header without payload leaves an empty
buffer to be discarded, which never happens; a message ended later, at its end,
leaves waiting data unread; and a message ended inside a piece discards too
much.
-/

namespace OpenBsw.Doip.DoIpTcpConnection

open Transition List

/-! ## Positions in the stream -/

/-- The connection is in a phase, with some messages in front of it. -/
def At (connection : DoIpTcpConnection) (todo : List DoIpMessage) : Phase → Prop
  | .between =>
    connection.readState = .header ∧ connection.currentReadBuffer = doipHeaderLength ∧
      connection.receivedBufferLength = connection.readBytes.length ∧
      connection.readBytes.length < doipHeaderLength ∧
      connection.readBytes ++ connection.socket = streamOf todo
  | .inside rest pending =>
    connection.readState = .payload ∧ connection.currentReadBuffer = pending ∧
      connection.readPayloadLength = rest.length ∧ pending ≤ rest.length ∧
      if pending = 0 then connection.socket = rest ++ streamOf todo
      else connection.receivedBufferLength = connection.readBytes.length ∧
        connection.readBytes.length < pending ∧
        connection.readBytes ++ connection.socket = rest ++ streamOf todo
  | .discarding callback =>
    connection.readState = .discard ∧ connection.payloadDiscardedCallback = callback ∧
      connection.receivedBufferLength < connection.currentReadBuffer ∧
      ∃ dropped, connection.socket = dropped ++ streamOf todo ∧
        connection.receivedBufferLength + dropped.length = connection.currentReadBuffer

/-- The connection has told its handler of the stream up to where it is. -/
structure Reading (messages : List DoIpMessage) (connection : DoIpTcpConnection) : Prop where
  active : connection.active = true
  told : ∃ todo phase, Told messages connection.log todo phase ∧ connection.At todo phase

/-- No available byte would complete the current buffer. -/
def Prompt (connection : DoIpTcpConnection) : Prop :=
  0 < connection.currentReadBuffer →
    connection.receivedBufferLength + connection.availableReadDataLength <
      connection.currentReadBuffer

variable {messages todo : List DoIpMessage} {connection : DoIpTcpConnection}

theorem At.received_lt {phase : Phase} (at_ : connection.At todo phase)
    (positive : 0 < connection.currentReadBuffer) :
    connection.receivedBufferLength < connection.currentReadBuffer := by
  cases phase with
  | between =>
    obtain ⟨-, sizeEq, received, short, -⟩ := at_
    omega
  | inside rest pending =>
    obtain ⟨-, sizeEq, -, -, behind⟩ := at_
    rw [if_neg (by omega)] at behind
    omega
  | discarding callback => exact at_.2.2.1

/-- Where the available bytes are those that have been announced, none of them waits. -/
theorem At.waiting {phase : Phase} (at_ : connection.At todo phase) (prompt : Prompt connection)
    {unannounced : Nat}
    (announced : connection.availableReadDataLength + unannounced = connection.socket.length) :
    phase.Waiting todo unannounced := by
  rw [Prompt] at prompt
  cases phase with
  | between =>
    obtain ⟨-, sizeEq, received, -, stream⟩ := at_
    have length := congrArg List.length stream
    have eight : doipHeaderLength = 8 := rfl
    rw [List.length_append] at length
    rw [Phase.Waiting]
    omega
  | inside rest pending =>
    obtain ⟨-, sizeEq, -, -, behind⟩ := at_
    rw [Phase.Waiting, or_iff_not_imp_left]
    intro asked
    rw [if_neg asked] at behind
    obtain ⟨received, -, stream⟩ := behind
    have length := congrArg List.length stream
    rw [List.length_append] at length
    omega
  | discarding callback =>
    obtain ⟨-, -, short, dropped, stream, lengthEq⟩ := at_
    have length := congrArg List.length stream
    rw [List.length_append] at length
    rw [Phase.Waiting]
    omega

/-! ## Requests -/

/-- A request for a message that is being received.  It is ended only where no
byte of a piece has been received. -/
theorem serve_reading {tryReceive : DoIpTcpConnection → DoIpTcpConnection} {rest : List UInt8}
    {pending : Nat} (active : connection.active = true)
    (told : Told messages connection.log todo (.inside rest pending))
    (at_ : connection.At todo (.inside rest pending))
    (received : ∀ next, Reading messages next → Reading messages (tryReceive next))
    {request : Request} (unread : ∀ callback, request = .endReceiveMessage callback →
      connection.socket = rest ++ streamOf todo) :
    Reading messages (connection.serve tryReceive request) := by
  have same : Reading messages connection := ⟨active, _, _, told, at_⟩
  obtain ⟨state, bufferEq, restEq, -, behind⟩ := at_
  cases request with
  | none => exact same
  | receivePayload size =>
    rw [serve, receivePayload]
    split
    · next accepted =>
        obtain ⟨-, empty, within⟩ := accepted
        obtain rfl : pending = 0 := by omega
        rw [if_pos rfl] at behind
        rw [restEq] at within
        apply received
        refine ⟨active, todo, .inside rest size, told.requested within, state, rfl, restEq,
          within, ?_⟩
        split
        · exact behind
        · next positive => exact ⟨rfl, Nat.pos_of_ne_zero positive, behind⟩
    · exact same
  | endReceiveMessage callback =>
    have behind := unread callback rfl
    rw [serve, endReceiveMessage, if_pos state]
    by_cases left : 0 < connection.readPayloadLength
    · rw [if_pos left]
      apply received
      exact ⟨active, todo, .discarding callback, told.ended callback, rfl, rfl, left, rest,
        behind, by rw [← restEq]; exact Nat.zero_add _⟩
    · rw [if_neg left]
      obtain rfl : rest = [] := eq_nil_of_length_eq_zero (by omega)
      cases callback with
      | false =>
        exact ⟨active, todo, .between, (told.ended false).dropped, rfl, rfl, rfl,
          Nat.succ_pos 7, behind⟩
      | true =>
        exact ⟨active, todo, .between, (told.ended true).discarded, rfl, rfl, rfl,
          Nat.succ_pos 7, behind⟩

/-- A request from inside a callback, where no piece is asked for. -/
theorem serveInCallback_reading (todo : List DoIpMessage) (rest : List UInt8)
    (active : connection.active = true)
    (told : Told messages connection.log todo (.inside rest 0))
    (at_ : connection.At todo (.inside rest 0)) (request : Request) :
    Reading messages (connection.serveInCallback request) := by
  have behind := at_.2.2.2.2
  rw [if_pos rfl] at behind
  exact serve_reading active told at_ (fun _ reading => reading) fun _ _ => behind

/-! ## Completed buffers -/

/-- From some exchanges on, a handler declines no message of the stream without payload. -/
def Responsible (messages : List DoIpMessage) (past : List Exchange)
    (handler : ConnectionHandler) : Prop :=
  ∀ log message todo, past <+: log → Told messages log (message :: todo) .between →
    message.payload = [] → ∀ callback,
      handler.headerReceived (log ++ [.headerReceived message.header])
        (DoIpHeader.ofBytes message.header) ≠ .discarded callback

variable {handler : ConnectionHandler} {past : List Exchange}

/-- The first bytes of a stream are the header of its first message. -/
theorem exists_message {header more : List UInt8} (stream : header ++ more = streamOf todo)
    (complete : header.length = doipHeaderLength) :
    ∃ message rest, todo = message :: rest ∧ message.header = header ∧
      more = message.payload ++ streamOf rest := by
  cases todo with
  | nil =>
    obtain ⟨rfl, -⟩ := append_eq_nil_iff.mp stream
    exact absurd complete (by decide)
  | cons message rest =>
    rw [streamOf, flatMap_cons, DoIpMessage.bytes, append_assoc] at stream
    obtain ⟨headerEq, moreEq⟩ :=
      append_inj stream (complete.trans message.headerLength.symm)
    exact ⟨message, rest, rfl, headerEq.symm, moreEq⟩

theorem headerComplete_reading (responsible : Responsible messages past handler)
    (later : past <+: connection.log) (active : connection.active = true)
    (told : Told messages connection.log todo .between)
    (complete : connection.readBytes.length = doipHeaderLength)
    (stream : connection.readBytes ++ connection.socket = streamOf todo) :
    Reading messages (connection.headerComplete handler) := by
  obtain ⟨message, rest, rfl, headerEq, behind⟩ := exists_message stream complete
  have lengthEq : (DoIpHeader.ofBytes connection.readBytes).payloadLength =
      message.payload.length := by
    rw [← headerEq, message.payloadLength]
  have toldHeader := told.header
  rw [headerEq] at toldHeader
  rw [headerComplete]
  dsimp only
  split
  · next request _ =>
      refine serveInCallback_reading rest message.payload ?_ ?_ ?_ request
      · exact active
      · exact toldHeader
      · exact ⟨rfl, rfl, lengthEq, Nat.zero_le _, by rw [if_pos rfl]; exact behind⟩
  · next callback answer =>
      have nonempty : message.payload ≠ [] := by
        intro empty
        rw [← headerEq] at answer
        exact responsible _ _ _ later told empty callback answer
      refine ⟨active, rest, .discarding callback, toldHeader.declined callback, rfl, rfl,
        ?_, message.payload, behind, ?_⟩
      · exact (length_pos_of_ne_nil nonempty).trans_eq lengthEq.symm
      · exact (Nat.zero_add _).trans lengthEq.symm

theorem payloadComplete_reading (rest : List UInt8) (active : connection.active = true)
    (told : Told messages connection.log todo (.inside rest connection.currentReadBuffer))
    (state : connection.readState = .payload) (positive : 0 < connection.currentReadBuffer)
    (restEq : connection.readPayloadLength = rest.length)
    (complete : connection.readBytes.length = connection.currentReadBuffer)
    (within : connection.currentReadBuffer ≤ rest.length)
    (stream : connection.readBytes ++ connection.socket = rest ++ streamOf todo) :
    Reading messages (connection.payloadComplete handler) := by
  obtain ⟨piece, left, rfl, pieceLength⟩ :
      ∃ piece left, rest = piece ++ left ∧ piece.length = connection.currentReadBuffer :=
    ⟨rest.take connection.currentReadBuffer, rest.drop connection.currentReadBuffer,
      (take_append_drop _ _).symm, by rw [length_take, Nat.min_eq_left within]⟩
  rw [append_assoc] at stream
  obtain ⟨rfl, behind⟩ := append_inj stream (complete.trans pieceLength.symm)
  rw [← complete] at told
  have nonempty : connection.readBytes ≠ [] := ne_nil_of_length_pos (by omega)
  refine serveInCallback_reading todo left ?_ ?_ ?_ _
  · exact active
  · exact told.payload nonempty
  · refine ⟨state, rfl, ?_, Nat.zero_le _, by rw [if_pos rfl]; exact behind⟩
    change connection.readPayloadLength - connection.currentReadBuffer = left.length
    rw [restEq, List.length_append]
    omega

theorem discardComplete_reading (todo : List DoIpMessage) (active : connection.active = true)
    (told : Told messages connection.log todo
      (.discarding connection.payloadDiscardedCallback))
    (stream : connection.socket = streamOf todo) :
    Reading messages connection.discardComplete := by
  rw [discardComplete]
  cases callback : connection.payloadDiscardedCallback with
  | false =>
    rw [callback] at told
    exact ⟨active, todo, .between, told.dropped, rfl, rfl, rfl, Nat.succ_pos 7, stream⟩
  | true =>
    rw [callback] at told
    exact ⟨active, todo, .between, told.discarded, rfl, rfl, rfl, Nat.succ_pos 7, stream⟩

/-! ## Reading -/

/-- The bytes that are read do not depend on how many bytes are available. -/
theorem Reading.announce (reading : Reading messages connection) (available : Nat) :
    Reading messages { connection with availableReadDataLength := available } := by
  obtain ⟨active, todo, phase, told, at_⟩ := reading
  refine ⟨active, todo, phase, told, ?_⟩
  cases phase <;> exact at_

/-- Bytes that have been read from the socket are taken on. -/
theorem processNextReadChunk_reading (responsible : Responsible messages past handler)
    (later : past <+: connection.log) (reading : Reading messages connection)
    {count : Nat} {bytesRead : List UInt8}
    (read : connection.socket.take count = bytesRead) (length : bytesRead.length = count)
    (fits : connection.receivedBufferLength + count ≤ connection.currentReadBuffer)
    (positive : 0 < connection.currentReadBuffer) :
    Reading messages ({ connection with socket := connection.socket.drop count
      }.processNextReadChunk handler bytesRead) := by
  obtain ⟨active, todo, phase, told, at_⟩ := reading
  have split : connection.socket = bytesRead ++ connection.socket.drop count := by
    rw [← read, take_append_drop]
  rw [processNextReadChunk]
  apply Reading.announce
  cases phase with
  | between =>
    obtain ⟨state, sizeEq, received, short, stream⟩ := at_
    rw [split, ← append_assoc] at stream
    simp only [state, reduceCtorEq, if_false]
    split
    · next complete =>
        refine headerComplete_reading responsible ?_ ?_ ?_ ?_ stream
        · exact later
        · exact active
        · exact told
        · dsimp only
          rw [List.length_append]
          omega
    · next partly =>
        refine ⟨active, todo, .between, told, rfl, sizeEq, ?_, ?_, stream⟩
        · dsimp only
          rw [List.length_append]
          omega
        · dsimp only
          rw [List.length_append]
          omega
  | inside rest pending =>
    obtain ⟨state, sizeEq, restEq, within, behind⟩ := at_
    rw [if_neg (by omega)] at behind
    obtain ⟨received, short, stream⟩ := behind
    rw [split, ← append_assoc] at stream
    simp only [state, reduceCtorEq, if_false]
    split
    · next complete =>
        refine payloadComplete_reading rest ?_ ?_ rfl positive restEq ?_ ?_ stream
        · exact active
        · dsimp only
          rw [sizeEq]
          exact told
        · dsimp only
          rw [List.length_append]
          omega
        · dsimp only
          omega
    · next partly =>
        refine ⟨active, todo, .inside rest pending, told, rfl, sizeEq, restEq, within, ?_⟩
        rw [if_neg (by omega)]
        refine ⟨?_, ?_, stream⟩
        · dsimp only
          rw [List.length_append]
          omega
        · dsimp only
          rw [List.length_append]
          omega
  | discarding callback =>
    obtain ⟨state, callbackEq, short, dropped, stream, lengthEq⟩ := at_
    have left : connection.socket.drop count = dropped.drop count ++ streamOf todo := by
      rw [stream, drop_append_of_le_length (by omega)]
    simp only [state, if_true]
    split
    · next complete =>
        refine discardComplete_reading todo ?_ ?_ ?_
        · exact active
        · dsimp only
          rw [callbackEq]
          exact told
        · rw [left, drop_of_length_le (by omega), nil_append]
    · next partly =>
        refine ⟨active, todo, .discarding callback, told, rfl, callbackEq, ?_, dropped.drop count,
          left, ?_⟩
        · dsimp only
          omega
        · dsimp only
          rw [length_drop]
          omega

/-! ## The read loop -/

/-- Callbacks touch neither the socket nor the count of available bytes, and what has passed
stays. -/
def Untouched (connection next : DoIpTcpConnection) : Prop :=
  next.socket = connection.socket ∧
    next.availableReadDataLength = connection.availableReadDataLength ∧
    connection.log <+: next.log

theorem Untouched.after {between next : DoIpTcpConnection}
    (second : Untouched between next) (first : Untouched connection between) :
    Untouched connection next :=
  ⟨second.1.trans first.1, second.2.1.trans first.2.1, first.2.2.trans second.2.2⟩

theorem callDiscarded_untouched (connection : DoIpTcpConnection) (callback : Bool) :
    Untouched connection (connection.callDiscarded callback) := by
  cases callback with
  | false => exact ⟨rfl, rfl, prefix_rfl⟩
  | true => exact ⟨rfl, rfl, prefix_append ..⟩

theorem serveInCallback_untouched (connection : DoIpTcpConnection) (request : Request) :
    Untouched connection (connection.serveInCallback request) := by
  cases request with
  | none => exact ⟨rfl, rfl, prefix_rfl⟩
  | receivePayload size =>
    rw [serveInCallback, serve, receivePayload]
    split
    · exact ⟨rfl, rfl, prefix_append ..⟩
    · exact ⟨rfl, rfl, prefix_rfl⟩
  | endReceiveMessage callback =>
    rw [serveInCallback, serve, endReceiveMessage]
    split
    · split
      · exact ⟨rfl, rfl, prefix_append ..⟩
      · exact (callDiscarded_untouched _ callback).after ⟨rfl, rfl, prefix_append ..⟩
    · exact callDiscarded_untouched connection callback

theorem headerComplete_untouched (handler : ConnectionHandler) (connection : DoIpTcpConnection) :
    Untouched connection (connection.headerComplete handler) := by
  rw [headerComplete]
  dsimp only
  split
  · exact (serveInCallback_untouched _ _).after ⟨rfl, rfl, prefix_append ..⟩
  · exact ⟨rfl, rfl, (prefix_append ..).trans (prefix_append ..)⟩

theorem processNextReadChunk_bytes (handler : ConnectionHandler) (connection : DoIpTcpConnection)
    (bytesRead : List UInt8) :
    (connection.processNextReadChunk handler bytesRead).socket = connection.socket ∧
      (connection.processNextReadChunk handler bytesRead).availableReadDataLength =
        connection.availableReadDataLength - bytesRead.length ∧
      connection.log <+: (connection.processNextReadChunk handler bytesRead).log := by
  have untouched : ∀ next : DoIpTcpConnection, Untouched connection next →
      { next with availableReadDataLength :=
          next.availableReadDataLength - bytesRead.length }.socket = connection.socket ∧
        { next with availableReadDataLength :=
          next.availableReadDataLength - bytesRead.length }.availableReadDataLength =
            connection.availableReadDataLength - bytesRead.length ∧
        connection.log <+: next.log :=
    fun next same => ⟨same.1, by rw [← same.2.1], same.2.2⟩
  rw [processNextReadChunk]
  apply untouched
  dsimp only
  split
  · split
    · exact headerComplete_untouched handler _
    · exact (serveInCallback_untouched _ _).after ⟨rfl, rfl, prefix_append ..⟩
    · exact callDiscarded_untouched _ _
  · exact ⟨rfl, rfl, prefix_rfl⟩

/-- The connection follows its stream, and the available bytes are those that have been
announced. -/
structure Following (messages : List DoIpMessage) (unannounced : Nat)
    (connection : DoIpTcpConnection) : Prop where
  reading : Reading messages connection
  announced : connection.availableReadDataLength + unannounced = connection.socket.length

variable {unannounced : Nat}

theorem receiveLoop_following (responsible : Responsible messages past handler) {fuel : Nat}
    (enough : connection.availableReadDataLength ≤ fuel) (later : past <+: connection.log)
    (following : Following messages unannounced connection) :
    Following messages unannounced (connection.receiveLoop handler fuel) ∧
      Prompt (connection.receiveLoop handler fuel) := by
  induction fuel generalizing connection with
  | zero =>
    obtain ⟨active, todo, phase, told, at_⟩ := following.reading
    refine ⟨following, fun positive => ?_⟩
    have short := at_.received_lt positive
    rw [receiveLoop]
    omega
  | succ fuel ih =>
    rw [receiveLoop]
    obtain ⟨active, todo, phase, told, at_⟩ := following.reading
    by_cases reads : connection.active ∧ 0 < connection.currentReadBuffer ∧
        0 < connection.availableReadDataLength
    · have short := at_.received_lt reads.2.1
      have announced := following.announced
      obtain ⟨count, countEq⟩ : ∃ count, count = min connection.availableReadDataLength
          (connection.currentReadBuffer - connection.receivedBufferLength) := ⟨_, rfl⟩
      have length : (connection.socket.take count).length = count := by
        rw [length_take]
        omega
      rw [if_pos reads]
      simp only [← countEq, if_pos length]
      obtain ⟨socket, left, further⟩ := processNextReadChunk_bytes handler
        { connection with socket := connection.socket.drop count } (connection.socket.take count)
      dsimp only at socket left further
      rw [length] at left
      apply ih
      · rw [left]
        omega
      · exact later.trans further
      · refine ⟨processNextReadChunk_reading responsible later following.reading rfl length
          (by omega) reads.2.1, ?_⟩
        rw [socket, left, length_drop]
        omega
    · rw [if_neg reads]
      refine ⟨following, fun positive => ?_⟩
      have short := at_.received_lt positive
      have nothing : ¬ 0 < connection.availableReadDataLength :=
        fun waiting => reads ⟨active, positive, waiting⟩
      omega

theorem tryReceive_following (responsible : Responsible messages past handler)
    (later : past <+: connection.log) (following : Following messages unannounced connection) :
    Following messages unannounced (connection.tryReceive handler) ∧
      Prompt (connection.tryReceive handler) :=
  receiveLoop_following responsible (Nat.le_refl _) later following

/-! ## Events -/

/-- Handlers decline no header without payload.  The stack announces bytes that
it has.  A message is ended later only while it is being received, before the
first byte of a piece has been received, and at its end only where no further
header is waiting. -/
def Served (messages : List DoIpMessage) (run : ConnectionRun) (event : HandledEvent) : Prop :=
  Responsible messages run.connection.log event.2 ∧
    match event.1 with
    | .dataReceived length => length ≤ run.connection.socket.length
    | .requested (.endReceiveMessage _) =>
      run.connection.readState = .payload ∧
        (0 < run.connection.currentReadBuffer → run.connection.receivedBufferLength = 0) ∧
        (run.connection.readPayloadLength = 0 →
          run.connection.socket.length < run.unannounced + doipHeaderLength)
    | .requested _ => True

/-- A request at a later time is the request inside a callback, and then the
bytes that wait are read, unless nothing is done or the payload is over. -/
theorem serve_eq (tryReceive : DoIpTcpConnection → DoIpTcpConnection)
    (connection : DoIpTcpConnection) (request : Request) :
    connection.serve tryReceive request = connection ∨
      connection.serve tryReceive request = tryReceive (connection.serveInCallback request) ∨
      connection.serve tryReceive request = connection.serveInCallback request ∧
        ∃ callback, request = .endReceiveMessage callback ∧
          (connection.readState = .payload → connection.readPayloadLength = 0) := by
  cases request with
  | none => exact .inl rfl
  | receivePayload size =>
    rw [serveInCallback, serve, serve, receivePayload, receivePayload]
    by_cases accepted : connection.readState = .payload ∧ connection.currentReadBuffer = 0 ∧
        size ≤ connection.readPayloadLength
    · rw [if_pos accepted, if_pos accepted]
      exact .inr (.inl rfl)
    · rw [if_neg accepted]
      exact .inl rfl
  | endReceiveMessage callback =>
    rw [serveInCallback, serve, serve, endReceiveMessage, endReceiveMessage]
    by_cases state : connection.readState = .payload
    · rw [if_pos state, if_pos state]
      by_cases left : 0 < connection.readPayloadLength
      · rw [if_pos left, if_pos left]
        exact .inr (.inl rfl)
      · rw [if_neg left, if_neg left]
        exact .inr (.inr ⟨rfl, callback, rfl, fun _ => by omega⟩)
    · rw [if_neg state, if_neg state]
      exact .inr (.inr ⟨rfl, callback, rfl, fun same => absurd same state⟩)

/-- A message that is ended at its end leaves a connection that waits for a
header. -/
theorem endReceiveMessage_prompt {callback : Bool} (state : connection.readState = .payload)
    (finished : connection.readPayloadLength = 0)
    (few : connection.availableReadDataLength < doipHeaderLength) :
    Prompt (connection.serveInCallback (.endReceiveMessage callback)) := by
  have eight : doipHeaderLength = 8 := rfl
  rw [serveInCallback, serve, endReceiveMessage, if_pos state, if_neg (by omega)]
  cases callback with
  | false => exact fun _ => (Nat.zero_add _).trans_lt few
  | true => exact fun _ => (Nat.zero_add _).trans_lt few

theorem serveInCallback_following {request : Request}
    (following : Following messages unannounced connection)
    (unread : ∀ callback, request = .endReceiveMessage callback →
      connection.readState = .payload ∧
        (0 < connection.currentReadBuffer → connection.receivedBufferLength = 0)) :
    Following messages unannounced (connection.serveInCallback request) := by
  obtain ⟨socket, available, -⟩ := serveInCallback_untouched connection request
  refine ⟨?_, by rw [socket, available]; exact following.announced⟩
  obtain ⟨active, todo, phase, told, at_⟩ := following.reading
  by_cases inside : connection.readState = .payload
  · cases phase with
    | between => exact absurd (at_.1.symm.trans inside) (by decide)
    | discarding callback => exact absurd (at_.1.symm.trans inside) (by decide)
    | inside rest pending =>
      refine serve_reading active told at_ (fun _ reading => reading) ?_
      intro callback ends
      have nothing := (unread callback ends).2
      obtain ⟨-, sizeEq, -, -, behind⟩ := at_
      split at behind
      · exact behind
      · next positive =>
          obtain ⟨received, -, stream⟩ := behind
          have empty : connection.readBytes = [] :=
            eq_nil_of_length_eq_zero (by rw [← received]; exact nothing (by omega))
          rwa [empty, nil_append] at stream
  · have same : connection.serveInCallback request = connection := by
      cases request with
      | none => rfl
      | receivePayload size => exact if_neg fun accepted => inside accepted.1
      | endReceiveMessage callback => exact absurd (unread callback rfl).1 inside
    rw [same]
    exact ⟨active, todo, phase, told, at_⟩

/-- What holds between the events of a run. -/
def Good (messages : List DoIpMessage) (run : ConnectionRun) : Prop :=
  Following messages run.unannounced run.connection ∧ Prompt run.connection

theorem perform_good {run : ConnectionRun} {event : HandledEvent} (good : Good messages run)
    (served : Served messages run event) :
    ∃ next, run.perform event = some next ∧ Good messages next := by
  obtain ⟨kind, handler⟩ := event
  obtain ⟨responsible, allowed⟩ := served
  obtain ⟨following, prompt⟩ := good
  cases kind with
  | dataReceived length =>
    exact ⟨_, rfl, tryReceive_following responsible prefix_rfl
      ⟨following.reading.announce length, Nat.add_sub_of_le allowed⟩⟩
  | requested request =>
    refine ⟨_, rfl, ?_⟩
    have unread : ∀ callback, request = .endReceiveMessage callback →
        run.connection.readState = .payload ∧
          (0 < run.connection.currentReadBuffer →
            run.connection.receivedBufferLength = 0) := by
      rintro callback rfl
      exact ⟨allowed.1, allowed.2.1⟩
    have inner := serveInCallback_following following unread
    have later := (serveInCallback_untouched run.connection request).2.2
    rcases serve_eq (·.tryReceive handler) run.connection request with
      same | received | ⟨ended, rest⟩
    · exact ⟨by rwa [same], by rwa [same]⟩
    · rw [Good]
      dsimp only
      rw [received]
      exact tryReceive_following responsible later inner
    · obtain ⟨callback, rfl, empty⟩ := rest
      have finished := empty allowed.1
      have few := allowed.2.2 finished
      rw [← following.announced] at few
      rw [Good]
      dsimp only
      rw [ended]
      exact ⟨inner, endReceiveMessage_prompt allowed.1 finished (by omega)⟩

theorem init_good (messages : List DoIpMessage) :
    Good messages (.init (streamOf messages)) :=
  ⟨⟨⟨rfl, messages, .between, .start, rfl, rfl, rfl, Nat.succ_pos 7, rfl⟩, Nat.zero_add _⟩,
    fun _ => Nat.succ_pos 7⟩

/-- The handler has been told of the stream up to where the connection is, and nothing that has
been announced waits to be read. -/
structure Received (messages : List DoIpMessage) (run : ConnectionRun) : Prop where
  active : run.connection.active = true
  told : ∃ todo phase, Told messages run.connection.log todo phase ∧
    run.connection.At todo phase ∧ phase.Waiting todo run.unannounced

/-- A message of the type that asks for the state of an entity. -/
def sampleMessage (payload : List UInt8) (short : payload.length < 256 ^ 4) : DoIpMessage where
  header := [0x02, 0xFD, 0x40, 0x01] ++ Bytes.bigEndian 4 payload.length
  payload := payload
  headerLength := by rw [List.length_append, Bytes.length_bigEndian]; rfl
  payloadLength := by
    have field : Bytes.slice ([0x02, 0xFD, 0x40, 0x01] ++ Bytes.bigEndian 4 payload.length) 4 4 =
        Bytes.bigEndian 4 payload.length :=
      Bytes.slice_back rfl (Bytes.length_bigEndian 4 _)
    exact (congrArg Bytes.ofBigEndian field).trans (Bytes.ofBigEndian_bigEndian short)

/-- Takes two bytes of a payload and makes no request then. -/
def sampleHandler : ConnectionHandler where
  headerReceived _ _ := .handled (.receivePayload 2)
  payloadReceived _ _ := .none

/-- The server's handler without message handlers, which declines what it does not know. -/
def sampleServer : ConnectionHandler :=
  (DoIpServerConnectionHandler.mk 2 []).connectionHandler

end OpenBsw.Doip.DoIpTcpConnection
