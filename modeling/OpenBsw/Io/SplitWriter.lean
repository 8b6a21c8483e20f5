import OpenBsw.Io.Destination

/-!
# Split writer

A message is written to the slot of the first destination with room, and copied
to the other ones when it is committed.
-/

namespace OpenBsw.Io

open OpenBsw.Bytes List Function
open OpenBsw.Transition

structure SplitWriter (N : Nat) where
  destinations : Fin N → Destination
  /-- The size of the buffer, which starts at the start of the slot. -/
  buffer : Nat := 0
  /-- The destination of the buffer, if there is one. -/
  bufNum : Option (Fin N) := none
  drops : Fin N → Nat := fun _ => 0
  sent : Fin N → Nat := fun _ => 0

namespace SplitWriter

variable {N : Nat}

/-- The loop of `allocate`. -/
def allocateFrom (size : Nat) : List (Fin N) → SplitWriter N → Nat × SplitWriter N
  | [], writer => (0, writer)
  | i :: rest, writer =>
    let tmp := (writer.destinations i).allocate size
    let writer := { writer with destinations := update writer.destinations i tmp.2 }
    if tmp.1 = size then (size, { writer with buffer := size, bufNum := some i })
    else allocateFrom size rest writer

/-- The size of the returned slice, and the writer. -/
def allocate (writer : SplitWriter N) (size : Nat) : Nat × SplitWriter N :=
  match writer.bufNum with
  | some _ => (writer.buffer, writer)
  | none => allocateFrom size (List.finRange N) writer

/-- The bytes of the buffer. -/
def message (writer : SplitWriter N) : List UInt8 :=
  match writer.bufNum with
  | some bufNum => (writer.destinations bufNum).slot.take writer.buffer
  | none => []

/-- The body of the loop of `commit`. -/
def commitOne (bufNum : Fin N) (next : Fin N → NextSlot) (writer : SplitWriter N) (i : Fin N) :
    SplitWriter N :=
  if i = bufNum then writer
  else
    let tmp := (writer.destinations i).allocate writer.buffer
    if tmp.1 < writer.buffer then
      { writer with
        destinations := update writer.destinations i tmp.2
        drops := update writer.drops i (writer.drops i + 1) }
    else
      { writer with
        destinations :=
          update writer.destinations i ((tmp.2.write 0 writer.message).commit (next i))
        sent := update writer.sent i (writer.sent i + 1) }

def commit (writer : SplitWriter N) (next : Fin N → NextSlot) : SplitWriter N :=
  match writer.bufNum with
  | none => writer
  | some bufNum =>
    let written := (List.finRange N).foldl (commitOne bufNum next) writer
    { written with
      destinations := update written.destinations bufNum
        ((written.destinations bufNum).commit (next bufNum))
      sent := update written.sent bufNum (written.sent bufNum + 1)
      bufNum := none }

end SplitWriter

/-- A writer and its history. -/
structure SplitRun (N : Nat) where
  writer : SplitWriter N
  /-- The size of the last allocation, if it returned bytes and was not committed. -/
  pending : Option Nat := none
  /-- The requested and the returned sizes. -/
  allocations : List (Nat × Nat) := []
  /-- The messages of the effective commits, and which destinations had room. -/
  messages : List (List UInt8 × (Fin N → Bool)) := []

inductive SplitEvent (N : Nat) where
  | allocate (size : Nat)
  | write (position : Nat) (bytes : List UInt8)
  | commit (next : Fin N → NextSlot)
  /-- The reader of a destination makes room. -/
  | release (i : Fin N)

namespace SplitRun

variable {N : Nat}

/-- The bytes of the last allocation. -/
def message (run : SplitRun N) (size : Nat) : List UInt8 :=
  run.writer.message.take size

/-- The state after an event that is possible. -/
def perform (run : SplitRun N) : SplitEvent N → Option (SplitRun N)
  | .allocate size =>
    let result := run.writer.allocate size
    some { run with
      writer := result.2
      pending := if result.1 = 0 then none else some size
      allocations := run.allocations ++ [(size, result.1)] }
  | .write position bytes =>
    match run.writer.bufNum with
    | none => none
    | some bufNum =>
      if position + bytes.length ≤ run.writer.buffer then
        some { run with
          writer.destinations := update run.writer.destinations bufNum
            ((run.writer.destinations bufNum).write position bytes) }
      else none
  | .commit next =>
    if ∀ i, (next i).slot.length = (run.writer.destinations i).maxSize then
      some { run with
        writer := run.writer.commit next
        pending := none
        messages :=
          match run.pending with
          | none => run.messages
          | some size =>
            run.messages ++
              [(run.message size, fun i => (run.writer.destinations i).room)] }
    else none
  | .release i =>
    some { run with
      writer.destinations := update run.writer.destinations i
        (run.writer.destinations i).release }

/-- A new writer on at least one destination, with equal element sizes. -/
def system (N : Nat) : System (SplitRun N) (SplitEvent N) where
  Initial run := 0 < N ∧ ∃ maxSize destinations, run =
      { writer := { destinations } } ∧
    ∀ i, (destinations i).maxSize = maxSize ∧ (destinations i).slot.length = maxSize ∧
      (destinations i).elements = []
  Step source event target := source.perform event = some target

/-- Only slices with bytes are asked for, and while there is a buffer only its size. -/
def SameSize (run : SplitRun N) : SplitEvent N → Prop
  | .allocate size => 0 < size ∧ (run.writer.bufNum ≠ none → run.writer.buffer = size)
  | _ => True

end SplitRun

/-! ## Loops -/

namespace SplitWriter

variable {N : Nat} {writer : SplitWriter N}

/-- What `allocate` finds: a buffer of the requested size in a destination with
room, or nothing where none of the destinations has room for it. -/
structure Found (source : SplitWriter N) (size : Nat) (places : List (Fin N))
    (result : Nat × SplitWriter N) : Prop where
  destinations : ∀ i, ∃ allocated, result.2.destinations i =
    { source.destinations i with allocated }
  counters : result.2.drops = source.drops ∧ result.2.sent = source.sent
  outcome : (result.1 = 0 ∧ result.2.bufNum = none ∧ ∀ i ∈ places,
      (source.destinations i).room = true → (source.destinations i).maxSize < size) ∨
    (result.1 = size ∧ result.2.buffer = size ∧ ∃ bufNum,
      result.2.bufNum = some bufNum ∧ (result.2.destinations bufNum).allocated = size ∧
        (result.2.destinations bufNum).room = true ∧
        size ≤ (result.2.destinations bufNum).maxSize)

theorem found_allocateFrom {size : Nat} (positive : 0 < size) {places : List (Fin N)}
    (noBuffer : writer.bufNum = none) :
    Found writer size places (allocateFrom size places writer) := by
  induction places generalizing writer with
  | nil =>
    exact ⟨fun i => ⟨_, rfl⟩, ⟨rfl, rfl⟩, .inl ⟨rfl, noBuffer, fun _ none => by cases none⟩⟩
  | cons place rest ih =>
    have changed : ∀ allocated i, ∃ allocated', update writer.destinations place
        { writer.destinations place with allocated } i =
          { writer.destinations i with allocated := allocated' } := by
      intro allocated i
      by_cases here : i = place
      · subst here
        exact ⟨allocated, update_self _ _ _⟩
      · exact ⟨_, update_of_ne here _ _⟩
    rw [allocateFrom]
    rcases (writer.destinations place).allocate_cases size with
      failed | ⟨_, small, room, success⟩
    · simp only [failed, if_neg (Nat.ne_of_lt positive)]
      have further := @ih
        { writer with
          destinations := update writer.destinations place
            { writer.destinations place with allocated := 0 } } noBuffer
      refine ⟨fun i => ?_, further.counters, further.outcome.imp_left ?_⟩
      · obtain ⟨first, firstEq⟩ := further.destinations i
        obtain ⟨second, secondEq⟩ := changed 0 i
        exact ⟨first, firstEq.trans
          (congrArg (fun destination => { destination with allocated := first }) secondEq)⟩
      · rintro ⟨zero, none, noRoom⟩
        refine ⟨zero, none, fun i member room => ?_⟩
        rcases mem_cons.mp member with rfl | later
        · by_contra small
          have success := Destination.allocate_of_room positive (Nat.le_of_not_lt small) room
          rw [failed] at success
          have sizes := congrArg Prod.fst success
          exact Nat.ne_of_lt positive sizes
        · obtain ⟨allocated, equal⟩ := changed 0 i
          have large := noRoom i later
          simp only [equal] at large
          exact large room
    · simp only [success, if_true]
      refine ⟨changed size, ⟨rfl, rfl⟩, .inr ⟨rfl, rfl, place, rfl, ?_⟩⟩
      dsimp only
      rw [update_self]
      exact ⟨rfl, room, small⟩

/-- A destination after a message was offered to it. -/
def offered (destination : Destination) (message : List UInt8) (next : NextSlot) : Destination :=
  if destination.room then
    { destination with
      slot := next.slot
      allocated := 0
      room := next.room
      elements := destination.elements ++ [message] }
  else { destination with allocated := 0 }

/-- The message is offered to some of the destinations, but not to that of the
buffer. -/
def offer (writer : SplitWriter N) (bufNum : Fin N) (message : List UInt8)
    (next : Fin N → NextSlot) (places : List (Fin N)) : SplitWriter N :=
  { writer with
    destinations := fun i =>
      if i ∈ places ∧ i ≠ bufNum then offered (writer.destinations i) message (next i)
      else writer.destinations i
    drops := fun i =>
      if (i ∈ places ∧ i ≠ bufNum) ∧ (writer.destinations i).room = false then writer.drops i + 1
      else writer.drops i
    sent := fun i =>
      if (i ∈ places ∧ i ≠ bufNum) ∧ (writer.destinations i).room = true then writer.sent i + 1
      else writer.sent i }

/-- The buffer holds bytes, and fits into every slot. -/
structure Ready (writer : SplitWriter N) (bufNum : Fin N) : Prop where
  bufNum_eq : writer.bufNum = some bufNum
  positive : 0 < writer.buffer
  small : ∀ i, writer.buffer ≤ (writer.destinations i).maxSize
  slotLength : ∀ i, (writer.destinations i).slot.length = (writer.destinations i).maxSize

theorem Ready.message_length {bufNum : Fin N} (ready : Ready writer bufNum) :
    writer.message.length = writer.buffer := by
  have small := ready.small bufNum
  have slotLength := ready.slotLength bufNum
  rw [message, ready.bufNum_eq]
  dsimp only
  rw [length_take]
  omega

theorem Ready.commitOne_eq {bufNum : Fin N} (ready : Ready writer bufNum)
    (next : Fin N → NextSlot) (i : Fin N) :
    commitOne bufNum next writer i = writer.offer bufNum writer.message next [i] := by
  rw [commitOne]
  by_cases here : i = bufNum
  · subst here
    rw [if_pos rfl, offer]
    simp
  rw [if_neg here]
  have only : ∀ j, (j ∈ [i] ∧ j ≠ bufNum) ↔ j = i := by
    intro j
    rw [mem_singleton]
    constructor
    · exact fun both => both.1
    · rintro rfl
      exact ⟨rfl, here⟩
  cases room : (writer.destinations i).room with
  | false =>
    have failed : (writer.destinations i).allocate writer.buffer =
        (0, { writer.destinations i with allocated := 0 }) :=
      if_pos (.inr (.inr room))
    simp only [failed, if_pos ready.positive, offer, only]
    congr 1
    · funext j
      by_cases same : j = i
      · subst same
        rw [update_self, if_pos rfl, offered, if_neg (by rw [room]; decide), room]
      · rw [update_of_ne same, if_neg same]
    · funext j
      by_cases same : j = i
      · subst same
        rw [update_self, if_pos ⟨rfl, room⟩]
      · rw [update_of_ne same, if_neg fun both => same both.1]
    · funext j
      rw [if_neg]
      rintro ⟨rfl, isRoom⟩
      rw [room] at isRoom
      cases isRoom
  | true =>
    have success := Destination.allocate_of_room ready.positive (ready.small i) room
    have published : (overwrite (writer.destinations i).slot 0 writer.message).take
        writer.buffer = writer.message := by
      have small := ready.small i
      have slotLength := ready.slotLength i
      have written := take_overwrite (writer.destinations i).slot writer.message (Nat.zero_le _)
      rw [Nat.zero_add, ready.message_length, take_zero, nil_append] at written
      exact written
    simp only [success, if_neg (Nat.lt_irrefl _), offer, only, Destination.write]
    rw [Destination.commit_of_pos ready.positive]
    dsimp only
    rw [published]
    congr 1
    · funext j
      by_cases same : j = i
      · subst same
        rw [update_self, if_pos rfl, offered, if_pos room]
      · rw [update_of_ne same, if_neg same]
    · funext j
      rw [if_neg]
      rintro ⟨rfl, noRoom⟩
      rw [room] at noRoom
      cases noRoom
    · funext j
      by_cases same : j = i
      · subst same
        rw [update_self, if_pos ⟨rfl, room⟩]
      · rw [update_of_ne same, if_neg fun both => same both.1]

theorem offer_bufNum (bufNum : Fin N) (message : List UInt8) (next : Fin N → NextSlot)
    (places : List (Fin N)) :
    (writer.offer bufNum message next places).destinations bufNum =
      writer.destinations bufNum :=
  if_neg fun both => both.2 rfl

theorem offered_maxSize (destination : Destination) (message : List UInt8) (next : NextSlot) :
    (offered destination message next).maxSize = destination.maxSize := by
  rw [offered]
  split <;> rfl

theorem Ready.offer {bufNum : Fin N} (ready : Ready writer bufNum) (message : List UInt8)
    {next : Fin N → NextSlot}
    (nextLength : ∀ i, (next i).slot.length = (writer.destinations i).maxSize)
    (places : List (Fin N)) :
    Ready (writer.offer bufNum message next places) bufNum ∧
      (writer.offer bufNum message next places).message = writer.message ∧
      ∀ i, ((writer.offer bufNum message next places).destinations i).maxSize =
        (writer.destinations i).maxSize := by
  have maxEq : ∀ i, ((writer.offer bufNum message next places).destinations i).maxSize =
      (writer.destinations i).maxSize := by
    intro i
    rw [SplitWriter.offer]
    dsimp only
    split
    · exact offered_maxSize _ _ _
    · rfl
  refine ⟨⟨ready.bufNum_eq, ready.positive, ?_, ?_⟩, ?_, maxEq⟩
  · intro i
    rw [maxEq]
    exact ready.small i
  · intro i
    rw [maxEq, SplitWriter.offer]
    dsimp only
    split
    · rw [offered]
      split
      · exact nextLength i
      · exact ready.slotLength i
    · exact ready.slotLength i
  · have bufNumEq : (writer.offer bufNum message next places).bufNum = some bufNum :=
      ready.bufNum_eq
    rw [SplitWriter.message, SplitWriter.message, ready.bufNum_eq, bufNumEq]
    dsimp only
    rw [offer_bufNum]
    rfl

theorem offer_offer {bufNum place : Fin N} {rest : List (Fin N)} (fresh : place ∉ rest)
    (message : List UInt8) (next : Fin N → NextSlot) :
    (writer.offer bufNum message next [place]).offer bufNum message next rest =
      writer.offer bufNum message next (place :: rest) := by
  have old : ∀ i ≠ place, ¬(i ∈ [place] ∧ i ≠ bufNum) := fun i different both =>
    different (mem_singleton.mp both.1)
  have later : ∀ i ≠ place, (i ∈ place :: rest ∧ i ≠ bufNum ↔ i ∈ rest ∧ i ≠ bufNum) := by
    intro i different
    rw [mem_cons, or_iff_right different]
  have first : place ∈ place :: rest ∧ place ≠ bufNum ↔ place ∈ [place] ∧ place ≠ bufNum := by
    simp
  have notLater : ¬(place ∈ rest ∧ place ≠ bufNum) := fun both => fresh both.1
  rw [offer, offer, offer]
  congr 1
  · funext i
    by_cases same : i = place
    · subst same
      simp only [if_neg notLater, first]
    · simp only [later i same, if_neg (old i same)]
  · funext i
    by_cases same : i = place
    · subst same
      simp only [notLater, false_and, if_false, first]
    · simp only [later i same, old i same, false_and, if_false]
  · funext i
    by_cases same : i = place
    · subst same
      simp only [notLater, false_and, if_false, first]
    · simp only [later i same, old i same, false_and, if_false]

/-- The loop of `commit` offers the message to all other destinations. -/
theorem Ready.foldl_commitOne {bufNum : Fin N} (ready : Ready writer bufNum)
    {next : Fin N → NextSlot}
    (nextLength : ∀ i, (next i).slot.length = (writer.destinations i).maxSize)
    {places : List (Fin N)} (distinct : places.Nodup) :
    places.foldl (commitOne bufNum next) writer =
      writer.offer bufNum writer.message next places := by
  induction places generalizing writer with
  | nil =>
    rw [foldl_nil, SplitWriter.offer]
    simp
  | cons place rest ih =>
    obtain ⟨fresh, distinct⟩ := nodup_cons.mp distinct
    obtain ⟨ready', messageEq, maxEq⟩ := ready.offer writer.message nextLength [place]
    rw [foldl_cons, ready.commitOne_eq next place, ih ready' (fun i => by
      rw [maxEq]
      exact nextLength i) distinct, messageEq]
    exact offer_offer fresh _ _

/-- An effective commit offers the message to every destination; that of the
buffer has room. -/
theorem Ready.commit_eq {bufNum : Fin N} (ready : Ready writer bufNum) {next : Fin N → NextSlot}
    (nextLength : ∀ i, (next i).slot.length = (writer.destinations i).maxSize)
    (room : (writer.destinations bufNum).room = true)
    (allocated : (writer.destinations bufNum).allocated = writer.buffer) :
    writer.commit next =
      { writer with
        destinations := fun i => offered (writer.destinations i) writer.message (next i)
        drops := fun i =>
          if (writer.destinations i).room = false then writer.drops i + 1 else writer.drops i
        sent := fun i =>
          if (writer.destinations i).room = true then writer.sent i + 1 else writer.sent i
        bufNum := none } := by
  have positive : 0 < (writer.destinations bufNum).allocated := by
    rw [allocated]
    exact ready.positive
  have messageEq : writer.message = (writer.destinations bufNum).slot.take writer.buffer := by
    rw [message, ready.bufNum_eq]
  have everywhere : ∀ i : Fin N, i ∈ List.finRange N := mem_finRange
  rw [commit, ready.bufNum_eq]
  dsimp only
  rw [ready.foldl_commitOne nextLength (nodup_finRange N), offer_bufNum,
    Destination.commit_of_pos positive, allocated, ← messageEq, SplitWriter.offer]
  simp only [everywhere, true_and]
  congr 1
  · funext i
    by_cases same : i = bufNum
    · subst same
      rw [update_self, offered, if_pos room]
    · rw [update_of_ne same, if_pos same]
  · funext i
    by_cases same : i = bufNum
    · subst same
      rw [if_neg fun both => both.1 rfl, room, if_neg (by decide)]
    · simp only [same, ne_eq, not_false_eq_true, true_and]
  · funext i
    by_cases same : i = bufNum
    · subst same
      rw [update_self, if_neg fun both => both.1 rfl, if_pos room]
    · rw [update_of_ne same]
      simp only [same, ne_eq, not_false_eq_true, true_and]

end SplitWriter

/-! ## Replication -/

namespace SplitRun

variable {N : Nat} {run : SplitRun N}

/-- The buffer of the writer, and the counters and elements of its history. -/
structure Replicating (run : SplitRun N) : Prop where
  slotLength : ∀ i, (run.writer.destinations i).slot.length =
    (run.writer.destinations i).maxSize
  equalSize : ∀ i j, (run.writer.destinations i).maxSize = (run.writer.destinations j).maxSize
  empty : run.writer.bufNum = none → run.pending = none
  held : ∀ bufNum, run.writer.bufNum = some bufNum →
    0 < run.writer.buffer ∧ run.pending = some run.writer.buffer ∧
      (run.writer.destinations bufNum).allocated = run.writer.buffer ∧
      (run.writer.destinations bufNum).room = true ∧
      run.writer.buffer ≤ (run.writer.destinations bufNum).maxSize
  elements : ∀ i, (run.writer.destinations i).elements =
    (run.messages.filter fun entry => entry.2 i).map Prod.fst
  sent : ∀ i, run.writer.sent i = run.messages.countP fun entry => entry.2 i
  drops : ∀ i, run.writer.drops i = run.messages.countP fun entry => !entry.2 i
  allocations : ∀ entry ∈ run.allocations, entry.2 = entry.1 ∨ entry.2 = 0

theorem Replicating.allocate (replicating : Replicating run) {size : Nat}
    (sameSize : SameSize run (.allocate size)) {target : SplitRun N}
    (performed : run.perform (.allocate size) = some target) : Replicating target := by
  cases performed
  have recorded : ∀ returned, returned = size ∨ returned = 0 →
      ∀ entry ∈ run.allocations ++ [(size, returned)], entry.2 = entry.1 ∨ entry.2 = 0 := by
    intro returned exact entry member
    rcases mem_append.mp member with old | new
    · exact replicating.allocations entry old
    · rw [mem_singleton.mp new]
      exact exact
  cases state : run.writer.bufNum with
  | some bufNum =>
    have returned : run.writer.allocate size = (run.writer.buffer, run.writer) := by
      rw [SplitWriter.allocate, state]
    simp only [returned]
    have asked := sameSize.2 (by rw [state]; exact Option.some_ne_none _)
    refine { replicating with
      empty := ?_, held := ?_, allocations := recorded _ (.inl asked) }
    · intro none
      rw [state] at none
      cases none
    · intro other otherEq
      obtain ⟨positive, -, rest⟩ := replicating.held other otherEq
      rw [if_neg (by omega), asked]
      exact ⟨sameSize.1, rfl, asked ▸ rest⟩
  | none =>
    have found := @SplitWriter.found_allocateFrom _ run.writer _ sameSize.1 (List.finRange N)
      state
    have returned : run.writer.allocate size =
        SplitWriter.allocateFrom size (List.finRange N) run.writer := by
      rw [SplitWriter.allocate, state]
    simp only [returned]
    generalize SplitWriter.allocateFrom size (List.finRange N) run.writer = result at found ⊢
    obtain ⟨destinations, ⟨dropsEq, sentEq⟩, outcome⟩ := found
    have kept : ∀ i, (result.2.destinations i).slot = (run.writer.destinations i).slot ∧
        (result.2.destinations i).maxSize = (run.writer.destinations i).maxSize ∧
        (result.2.destinations i).elements = (run.writer.destinations i).elements := by
      intro i
      obtain ⟨allocated, equal⟩ := destinations i
      rw [equal]
      exact ⟨rfl, rfl, rfl⟩
    have histories : (∀ i, (result.2.destinations i).slot.length =
          (result.2.destinations i).maxSize) ∧
        (∀ i j, (result.2.destinations i).maxSize = (result.2.destinations j).maxSize) ∧
        (∀ i, (result.2.destinations i).elements =
          (run.messages.filter fun entry => entry.2 i).map Prod.fst) ∧
        (∀ i, result.2.sent i = run.messages.countP fun entry => entry.2 i) ∧
        ∀ i, result.2.drops i = run.messages.countP fun entry => !entry.2 i := by
      refine ⟨fun i => ?_, fun i j => ?_, fun i => ?_, fun i => ?_, fun i => ?_⟩
      · rw [(kept i).1, (kept i).2.1]
        exact replicating.slotLength i
      · rw [(kept i).2.1, (kept j).2.1]
        exact replicating.equalSize i j
      · rw [(kept i).2.2]
        exact replicating.elements i
      · rw [sentEq]
        exact replicating.sent i
      · rw [dropsEq]
        exact replicating.drops i
    obtain ⟨slotLength, equalSize, elements, sent, drops⟩ := histories
    rcases outcome with ⟨zero, nothing, _⟩ | ⟨resultEq, bufferEq, bufNum, bufNumEq, holds⟩
    · refine ⟨slotLength, equalSize, ?_, ?_, elements, sent, drops, recorded _ (.inr zero)⟩
      · exact fun _ => if_pos zero
      · intro other otherEq
        cases nothing.symm.trans otherEq
    · refine ⟨slotLength, equalSize, ?_, ?_, elements, sent, drops,
        recorded _ (.inl resultEq)⟩
      · intro none
        cases bufNumEq.symm.trans none
      · intro other otherEq
        obtain rfl : bufNum = other := Option.some.inj (bufNumEq.symm.trans otherEq)
        obtain ⟨allocated, room, small⟩ := holds
        have positive := sameSize.1
        dsimp only
        rw [if_neg (by omega), bufferEq]
        exact ⟨positive, rfl, allocated, room, small⟩

/-- An effective commit makes one entry of the history, any other changes nothing. -/
theorem Replicating.commit (replicating : Replicating run) {next : Fin N → NextSlot}
    {target : SplitRun N} (performed : run.perform (.commit next) = some target) :
    Replicating target := by
  obtain ⟨nextLength, performed⟩ := Option.ite_none_right_eq_some.mp performed
  cases performed
  cases state : run.writer.bufNum with
  | none =>
    have unchanged : run.writer.commit next = run.writer := by
      rw [SplitWriter.commit, state]
    have nothing := replicating.empty state
    simp only [unchanged, nothing]
    refine { replicating with empty := fun _ => rfl, held := ?_ }
    intro bufNum bufNumEq
    cases state.symm.trans bufNumEq
  | some bufNum =>
    obtain ⟨positive, pendingEq, allocated, room, small⟩ := replicating.held bufNum state
    have ready : SplitWriter.Ready run.writer bufNum :=
      ⟨state, positive, fun i => by
        rw [replicating.equalSize i bufNum]
        exact small, replicating.slotLength⟩
    have messageEq : run.message run.writer.buffer = run.writer.message := by
      rw [message, take_of_length_le (Nat.le_of_eq ready.message_length)]
    simp only [ready.commit_eq nextLength room allocated, pendingEq, messageEq]
    refine ⟨?_, ?_, fun _ => rfl, ?_, ?_, ?_, ?_, replicating.allocations⟩
    · intro i
      dsimp only
      rw [SplitWriter.offered]
      split
      · exact nextLength i
      · exact replicating.slotLength i
    · intro i j
      dsimp only
      rw [SplitWriter.offered_maxSize, SplitWriter.offered_maxSize]
      exact replicating.equalSize i j
    · intro other impossible
      cases impossible
    · intro i
      dsimp only
      rw [filter_append, map_append, ← replicating.elements i, SplitWriter.offered]
      cases has : (run.writer.destinations i).room <;> simp [has]
    · intro i
      dsimp only
      rw [countP_append, ← replicating.sent i]
      cases has : (run.writer.destinations i).room <;> simp [has]
    · intro i
      dsimp only
      rw [countP_append, ← replicating.drops i]
      cases has : (run.writer.destinations i).room <;> simp [has]

/-- A change of one destination that keeps what the history is about. -/
theorem Replicating.update (replicating : Replicating run) (place : Fin N)
    {destination : Destination}
    (slotLength : destination.slot.length = destination.maxSize)
    (maxSize : destination.maxSize = (run.writer.destinations place).maxSize)
    (allocated : destination.allocated = (run.writer.destinations place).allocated)
    (room : (run.writer.destinations place).room = true → destination.room = true)
    (elements : destination.elements = (run.writer.destinations place).elements) :
    Replicating { run with
      writer.destinations := Function.update run.writer.destinations place destination } := by
  have maxEq : ∀ i, (Function.update run.writer.destinations place destination i).maxSize =
      (run.writer.destinations i).maxSize := by
    intro i
    by_cases here : i = place
    · subst here
      rw [update_self, maxSize]
    · rw [update_of_ne here]
  refine { replicating with slotLength := ?_, equalSize := ?_, held := ?_, elements := ?_ }
  · intro i
    dsimp only
    by_cases here : i = place
    · subst here
      rw [update_self]
      exact slotLength
    · rw [update_of_ne here]
      exact replicating.slotLength i
  · intro i j
    dsimp only
    rw [maxEq, maxEq]
    exact replicating.equalSize i j
  · intro bufNum bufNumEq
    obtain ⟨positive, pendingEq, wasAllocated, wasRoom, small⟩ := replicating.held bufNum bufNumEq
    dsimp only
    rw [maxEq]
    refine ⟨positive, pendingEq, ?_, ?_, small⟩
    · by_cases here : bufNum = place
      · subst here
        rw [update_self, allocated]
        exact wasAllocated
      · rw [update_of_ne here]
        exact wasAllocated
    · by_cases here : bufNum = place
      · subst here
        rw [update_self]
        exact room wasRoom
      · rw [update_of_ne here]
        exact wasRoom
  · intro i
    dsimp only
    by_cases here : i = place
    · subst here
      rw [update_self, elements]
      exact replicating.elements i
    · rw [update_of_ne here]
      exact replicating.elements i

theorem Replicating.write (replicating : Replicating run) {position : Nat} {bytes : List UInt8}
    {target : SplitRun N} (performed : run.perform (.write position bytes) = some target) :
    Replicating target := by
  simp only [perform] at performed
  split at performed
  · cases performed
  · rename_i bufNum state
    obtain ⟨inside, performed⟩ := Option.ite_none_right_eq_some.mp performed
    cases performed
    obtain ⟨_, _, _, _, small⟩ := replicating.held bufNum state
    have slotLength := replicating.slotLength bufNum
    have written : (overwrite (run.writer.destinations bufNum).slot position bytes).length =
        (run.writer.destinations bufNum).slot.length := length_overwrite (by omega)
    exact replicating.update bufNum (written.trans slotLength) rfl rfl id rfl

/-- What the writer promises about its messages. -/
structure Replicates (run : SplitRun N) : Prop where
  allocations : ∀ entry ∈ run.allocations, entry.2 = entry.1 ∨ entry.2 = 0
  /-- Where a destination has room for it, a slice of the requested size is returned. -/
  succeeds : ∀ size, SameSize run (.allocate size) →
    (∃ i, (run.writer.destinations i).room = true ∧ size ≤ (run.writer.destinations i).maxSize) →
      (run.writer.allocate size).1 = size
  /-- Every destination that had room got the message of the commit. -/
  elements : ∀ i, (run.writer.destinations i).elements =
    (run.messages.filter fun entry => entry.2 i).map Prod.fst
  sent : ∀ i, run.writer.sent i = run.messages.countP fun entry => entry.2 i
  drops : ∀ i, run.writer.drops i = run.messages.countP fun entry => !entry.2 i
  total : ∀ i, run.writer.sent i + run.writer.drops i = run.messages.length
  idle : run.pending = none → ∀ next, run.writer.commit next = run.writer

theorem allocate_of_room {size : Nat}
    (sameSize : SameSize run (.allocate size))
    (room : ∃ i, (run.writer.destinations i).room = true ∧
      size ≤ (run.writer.destinations i).maxSize) :
    (run.writer.allocate size).1 = size := by
  rw [SplitWriter.allocate]
  cases state : run.writer.bufNum with
  | some bufNum => exact sameSize.2 (by rw [state]; exact Option.some_ne_none _)
  | none =>
    rcases (SplitWriter.found_allocateFrom sameSize.1 state).outcome with
      ⟨_, _, noRoom⟩ | ⟨returned, _⟩
    · obtain ⟨i, hasRoom, small⟩ := room
      exact absurd (noRoom i (mem_finRange i) hasRoom) (by omega)
    · exact returned

theorem replicating_of_reachable (reached : ((system N).restrict SameSize).Reachable run) :
    Replicating run := by
  induction reached with
  | initial start =>
    obtain ⟨-, maxSize, destinations, rfl, same⟩ := start
    refine
      { slotLength := fun i => (same i).2.1.trans (same i).1.symm
        equalSize := fun i j => (same i).1.trans (same j).1.symm
        empty := fun _ => rfl
        held := fun _ impossible => by cases impossible
        elements := fun i => (same i).2.2
        sent := fun _ => rfl
        drops := fun _ => rfl
        allocations := fun _ member => absurd member not_mem_nil }
  | @step source target event _ stepped replicating =>
    obtain ⟨performed, sameSize⟩ := stepped
    cases event with
    | allocate size => exact replicating.allocate sameSize performed
    | write position bytes => exact replicating.write performed
    | commit next => exact replicating.commit performed
    | release i =>
      cases performed
      exact replicating.update i (replicating.slotLength i) rfl rfl (fun _ => rfl) rfl

/-- In every run in which only slices with bytes are asked for, and only the size of a
held buffer is asked for again, every message is replicated. -/
theorem splitWriter_replicates (N : Nat) (run : SplitRun N)
    (reached : ((system N).restrict SameSize).Reachable run) : Replicates run := by
  have replicating := replicating_of_reachable reached
  refine ⟨replicating.allocations, fun _ => allocate_of_room, replicating.elements,
    replicating.sent, replicating.drops, fun i => ?_, fun idle next => ?_⟩
  · rw [replicating.sent, replicating.drops, length_eq_countP_add_countP fun entry => entry.2 i]
    congr 1
    refine countP_congr fun entry _ => ?_
    cases entry.2 i <;> decide
  · cases state : run.writer.bufNum with
    | none => rw [SplitWriter.commit, state]
    | some bufNum => cases idle.symm.trans (replicating.held bufNum state).2.1

/-! ## Samples -/

def sampleStart : SplitRun 2 :=
  { writer :=
      { destinations := fun i =>
          { maxSize := 4, slot := [0, 0, 0, 0], allocated := 0, room := i = 0
            elements := [] } } }

theorem sampleStart_initial : (system 2).Initial sampleStart :=
  ⟨by decide, 4, _, rfl, fun _ => ⟨rfl, rfl, rfl⟩⟩

instance (run : SplitRun N) : (event : SplitEvent N) → Decidable (SameSize run event)
  | .allocate _ => inferInstanceAs (Decidable (_ ∧ _))
  | .write _ _ | .commit _ | .release _ => inferInstanceAs (Decidable True)

/-- The second destination has no room for the first of two messages. -/
theorem splitWriter_replicates_sample :
    ∃ run : SplitRun 2, (run.writer.destinations 0).elements = [[7, 8], [9]] ∧
      (run.writer.destinations 1).elements = [[9]] ∧ run.writer.drops 1 = 1 ∧
      Replicates run := by
  have played : ∃ run, System.play (System.performIf perform SameSize) sampleStart
      [.allocate 2, .write 0 [7, 8], .allocate 2, .commit fun _ => ⟨[0, 0, 0, 0], true⟩,
        .release 1, .allocate 1, .write 0 [9], .commit fun _ => ⟨[0, 0, 0, 0], false⟩] =
        some run ∧
      (run.writer.destinations 0).elements = [[7, 8], [9]] ∧
      (run.writer.destinations 1).elements = [[9]] ∧ run.writer.drops 1 = 1 :=
    ⟨_, rfl, rfl, rfl, rfl⟩
  obtain ⟨run, played, first, second, drops⟩ := played
  have start : ((system 2).restrict SameSize).Reachable sampleStart := .initial sampleStart_initial
  exact ⟨run, first, second, drops,
    splitWriter_replicates 2 run (start.play_performIf id played)⟩

/-- Asked for two bytes while it holds three, the writer returns three. -/
theorem not_replicates_otherSize :
    ∃ run : SplitRun 2, (system 2).Reachable run ∧ ¬Replicates run := by
  have played : ∃ run, System.play perform sampleStart [.allocate 3, .allocate 2] = some run ∧
      run.allocations = [(3, 3), (2, 3)] := ⟨_, rfl, rfl⟩
  obtain ⟨run, played, allocations⟩ := played
  have start : (system 2).Reachable sampleStart := .initial sampleStart_initial
  refine ⟨run, start.play (fun done => done) played, fun replicates => ?_⟩
  have wrong := replicates.allocations (2, 3) (by rw [allocations]; decide)
  revert wrong
  decide

end SplitRun

end OpenBsw.Io
