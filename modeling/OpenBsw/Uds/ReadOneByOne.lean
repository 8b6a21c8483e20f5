import OpenBsw.Uds.MultipleReadDataByIdentifier

/-!
# Several identifiers against one by one

The request for several identifiers is compared with reading the same identifiers one by one.
Two things can come between them: the identifiers are stored by a copy inside one message,
which repeats the first of them where source and target overlap, and the declared length of
a response is tested against a maximum that is not the size of its window.
-/

namespace OpenBsw.Uds

open Bytes DiagReturnCode List

/-! ## The request -/

/-- A request for at least two identifiers, within the limit, in a message with room behind
the request; and the jobs that are asked. -/
structure MultipleRequest where
  identifiers : List DataIdentifier
  several : 2 ≤ identifiers.length
  behind : List UInt8
  bounded : 1 + 2 * identifiers.length + behind.length < 0x10000
  didLimit : Nat
  limited : didLimit = 0 ∨ identifiers.length ≤ didLimit
  jobs : Nat → DataIdentifier → DidJob

namespace MultipleRequest

open NestedDiagRequest

def message (request : MultipleRequest) : List UInt8 :=
  READ_DATA_BY_IDENTIFIER :: (storedBytes request.identifiers ++ request.behind)

/-- `process` of `MultipleReadDataByIdentifier` for the bytes behind the service.  There is no
nested request for a single identifier and for one too many. -/
def process (request : MultipleRequest) : Option Reading :=
  let requestLength := 2 * request.identifiers.length
  if requestLength = 2 then none
  else if 0 < request.didLimit ∧ request.didLimit < requestLength / 2 then none
  else
    triggerNextNestedRequest request.jobs (requestLength + 1)
      { nested := init request.message requestLength }

/-- Bytes of the response behind the service. -/
def size (request : MultipleRequest) : Nat := request.message.length - 1

/-- Reading the identifiers of the request one by one. -/
def oneByOne (request : MultipleRequest) : ReadResult :=
  readAll request.size (fun index identifier space =>
    (request.jobs index identifier).served fitsSpace space) 0 [] false request.identifiers

/-- The request executes the jobs of the identifiers that are read one by one, and ends with
the same response. -/
def ReadsOneByOne (request : MultipleRequest) : Prop :=
  ∃ reading, request.process = some reading ∧
    reading.executed = request.oneByOne.reads.map (fun read => read.2.1) ∧
    endNestedRequest reading.nested = request.oneByOne.response

/-- Each job gets the response length it can ask for. -/
def LengthsAgree (request : MultipleRequest) : Prop :=
  ∀ reading, request.process = some reading → ∀ lengths ∈ reading.lengths, lengths.1 = lengths.2

/-- What the copy leaves in a stored byte: the bytes behind the request are the distance. -/
def storedByte (request : MultipleRequest) (i : Nat) : UInt8 :=
  (storedBytes request.identifiers).getD
    (if request.behind.length = 0 then i else i % request.behind.length) 0

def storedIdentifiers (request : MultipleRequest) : List DataIdentifier :=
  (List.range request.identifiers.length).map fun i =>
    (request.storedByte (2 * i), request.storedByte (2 * i + 1))

/-- The identifier has been stored as it was requested. -/
def Intact (request : MultipleRequest) (read : Nat × DataIdentifier × Nat) : Prop :=
  request.storedIdentifiers[read.1]? = some read.2.1

end MultipleRequest

/-- A declared length is accepted against the maximum but not against the space, or the other
way round, and the job would not answer that its response is too long anyway. -/
def DidJob.Deceived (space : Nat) : DidJob → Prop
  | .returned _ => False
  | .executed responseLength appended reply =>
    DidJob.accepted fitsMaximum space responseLength ≠
      DidJob.accepted fitsSpace space responseLength ∧
    DidJob.replied appended space reply ≠ .stop ISO_RESPONSE_TOO_LONG

/-- The job comes as far as taking its response. -/
def DidJob.TakesResponse (space : Nat) : DidJob → Prop
  | .executed responseLength (some _) _ =>
    DidJob.accepted fitsMaximum space responseLength = true
  | _ => False

theorem DidJob.served_eq_iff (space : Nat) (job : DidJob) :
    job.served fitsMaximum space = job.served fitsSpace space ↔ ¬job.Deceived space := by
  cases job with
  | returned code => simp [served, Deceived]
  | executed responseLength appended reply =>
    simp only [served, Deceived]
    cases first : accepted fitsMaximum space responseLength <;>
      cases second : accepted fitsSpace space responseLength <;> simp [eq_comm]

/-- Where the tests disagree, one of the outcomes is that the response is too long. -/
theorem DidJob.served_cases (space : Nat) (job : DidJob) :
    job.served fitsMaximum space = job.served fitsSpace space ∨
      (job.served fitsSpace space = .stop ISO_RESPONSE_TOO_LONG) ≠
        (job.served fitsMaximum space = .stop ISO_RESPONSE_TOO_LONG) := by
  by_cases deceived : job.Deceived space
  · right
    cases job with
    | returned code => exact deceived.elim
    | executed responseLength appended reply =>
      obtain ⟨differ, reply⟩ := deceived
      simp only [served]
      revert differ
      cases accepted fitsMaximum space responseLength <;>
        cases accepted fitsSpace space responseLength <;> simp [reply]
  · exact .inl ((served_eq_iff space job).mpr deceived)

/-! ## Two readings -/

/-- The response is not that of a response too long once all identifiers are read. -/
theorem readAll_nil_response (size : Nat) (serve : Nat → DataIdentifier → Nat → Served)
    (index : Nat) (answers : List UInt8) (answered : Bool) :
    (readAll size serve index answers answered []).response ≠
      negativeResponseTo ISO_RESPONSE_TOO_LONG := by
  rw [readAll]
  cases answered with
  | true =>
    simp only [if_true, negativeResponseTo, ne_eq, List.cons.injEq, not_and]
    intro service
    exact absurd service (by decide)
  | false =>
    simp only [Bool.false_eq_true, if_false, negativeResponseTo, ne_eq, List.cons.injEq,
      and_true, true_and]
    decide

/-- As long as identifiers remain, another one is read. -/
theorem reads_ne_nil (size : Nat) (serve : Nat → DataIdentifier → Nat → Served) (index : Nat)
    (answers : List UInt8) (answered : Bool) (identifier : DataIdentifier)
    (rest : List DataIdentifier) :
    ∃ further, (readAll size serve index answers answered (identifier :: rest)).reads =
      (index, identifier, dataSpace size answers rest.length) :: further := by
  rw [readAll]
  split
  · exact ⟨_, rfl⟩
  · exact ⟨_, rfl⟩
  · exact ⟨_, rfl⟩

variable (request : MultipleRequest) {size : Nat} {serve : Nat → DataIdentifier → Nat → Served}
  {index : Nat} {answers : List UInt8} {answered : Bool} {rest : List DataIdentifier}

/-- A reading that goes on behind an identifier differs from one that stops there because the
response is too long. -/
theorem continues_ne_stops
    (executed : (readAll size serve index answers answered rest).reads.map
      (fun read => read.2.1) = [])
    (response : (readAll size serve index answers answered rest).response =
      negativeResponseTo ISO_RESPONSE_TOO_LONG) : False := by
  cases rest with
  | nil => exact readAll_nil_response _ _ _ _ _ response
  | cons identifier rest =>
    obtain ⟨further, reads⟩ := reads_ne_nil size serve index answers answered identifier rest
    rw [reads] at executed
    contradiction

def Served.answersWith (identifier : DataIdentifier) (answers : List UInt8) : Served → List UInt8
  | .answer data => answers ++ identifier.bytes ++ data
  | _ => answers

def Served.answeredWith (answered : Bool) : Served → Bool
  | .answer _ => true
  | _ => answered

/-- What does not stop the reading goes on behind the identifier. -/
theorem readAll_continue {identifier : DataIdentifier} (served : Served)
    (same : serve index identifier (dataSpace size answers rest.length) = served)
    (continues : ∀ code, served ≠ .stop code) :
    readAll size serve index answers answered (identifier :: rest) =
      (readAll size serve (index + 1) (served.answersWith identifier answers)
        (served.answeredWith answered) rest).behind
        (index, identifier, dataSpace size answers rest.length) := by
  rw [readAll, same]
  cases served with
  | next => rfl
  | answer data => rfl
  | stop code => exact (continues code rfl).elim

theorem readAll_stop {identifier : DataIdentifier} {code : UInt8}
    (same : serve index identifier (dataSpace size answers rest.length) = .stop code) :
    readAll size serve index answers answered (identifier :: rest) =
      ⟨[(index, identifier, dataSpace size answers rest.length)], negativeResponseTo code⟩ := by
  rw [readAll, same]

/-- The indices of the reads count on. -/
theorem index_le_of_mem {identifiers : List DataIdentifier} {read : Nat × DataIdentifier × Nat}
    (member : read ∈ (readAll size serve index answers answered identifiers).reads) :
    index ≤ read.1 := by
  induction identifiers generalizing index answers answered with
  | nil => cases member
  | cons identifier rest ih =>
    by_cases stops : ∃ code,
        serve index identifier (dataSpace size answers rest.length) = .stop code
    · obtain ⟨code, stopped⟩ := stops
      rw [readAll_stop stopped, mem_singleton] at member
      rw [member]
    · push Not at stops
      rw [readAll_continue _ rfl stops] at member
      rcases mem_cons.mp member with here | later
      · rw [here]
      · have := ih later
        omega

section Agreement

variable {size : Nat} {serve other : Nat → DataIdentifier → Nat → Served}

/-- A read of one reading sees its identifier in the stored ones, and both serve it alike. -/
def SameRead (serve other : Nat → DataIdentifier → Nat → Served) (stored : List DataIdentifier)
    (index : Nat) (read : Nat × DataIdentifier × Nat) : Prop :=
  stored[read.1 - index]? = some read.2.1 ∧
    other read.1 read.2.1 read.2.2 = serve read.1 read.2.1 read.2.2

theorem sameRead_cons {stored : List DataIdentifier} {copy : DataIdentifier}
    {read : Nat × DataIdentifier × Nat} (later : index + 1 ≤ read.1) :
    SameRead serve other (copy :: stored) index read ↔
      SameRead serve other stored (index + 1) read := by
  have shifted : read.1 - index = read.1 - (index + 1) + 1 := by omega
  rw [SameRead, SameRead, shifted, List.getElem?_cons_succ]

/-- Readings that see the same identifiers and serve them alike are the same. -/
theorem readAll_eq_of_sameRead {identifiers stored : List DataIdentifier}
    (length : stored.length = identifiers.length)
    (same : ∀ read ∈ (readAll size serve index answers answered identifiers).reads,
      SameRead serve other stored index read) :
    readAll size other index answers answered stored =
      readAll size serve index answers answered identifiers := by
  induction identifiers generalizing stored index answers answered with
  | nil =>
    obtain rfl := length_eq_zero_iff.mp length
    rfl
  | cons identifier rest ih =>
    cases stored with
    | nil => simp at length
    | cons copy copies =>
      obtain ⟨further, reads⟩ :=
        reads_ne_nil size serve index answers answered identifier rest
      obtain ⟨seen, alike⟩ := same (index, identifier, dataSpace size answers rest.length)
        (by rw [reads]; exact mem_cons_self)
      simp only [Nat.sub_self, List.getElem?_cons_zero, Option.some.injEq] at seen alike
      have lengths : copies.length = rest.length := by simpa using length
      subst seen
      rw [← lengths] at alike
      by_cases stops : ∃ code,
          serve index copy (dataSpace size answers rest.length) = .stop code
      · obtain ⟨code, stopped⟩ := stops
        have otherStopped :
            other index copy (dataSpace size answers copies.length) = .stop code := by
          rw [alike, lengths]
          exact stopped
        rw [readAll_stop stopped, readAll_stop otherStopped, lengths]
      · push Not at stops
        rw [readAll_continue _ rfl stops] at same ⊢
        rw [readAll_continue (serve index copy (dataSpace size answers rest.length))
          (by rw [alike, lengths]) stops, lengths]
        rw [ih lengths]
        intro read member
        apply (sameRead_cons (index_le_of_mem member)).mp
        exact same read (mem_cons_of_mem _ member)

/-- Readings that execute the same identifiers and respond alike see the same identifiers and
serve them alike, where they can differ only in that a response is too long. -/
theorem sameRead_of_readAll
    (exclusive : ∀ index identifier space,
      other index identifier space = serve index identifier space ∨
        (serve index identifier space = .stop ISO_RESPONSE_TOO_LONG) ≠
          (other index identifier space = .stop ISO_RESPONSE_TOO_LONG))
    {identifiers stored : List DataIdentifier} (length : stored.length = identifiers.length)
    (executed : (readAll size other index answers answered stored).reads.map
        (fun read => read.2.1) =
      (readAll size serve index answers answered identifiers).reads.map fun read => read.2.1)
    (response : (readAll size other index answers answered stored).response =
      (readAll size serve index answers answered identifiers).response) :
    ∀ read ∈ (readAll size serve index answers answered identifiers).reads,
      SameRead serve other stored index read := by
  induction identifiers generalizing stored index answers answered with
  | nil =>
    intro read member
    cases member
  | cons identifier rest ih =>
    cases stored with
    | nil => simp at length
    | cons copy copies =>
      have lengths : copies.length = rest.length := by simpa using length
      obtain ⟨further, reads⟩ :=
        reads_ne_nil size serve index answers answered identifier rest
      obtain ⟨otherFurther, otherReads⟩ :=
        reads_ne_nil size other index answers answered copy copies
      have seen : copy = identifier := by
        rw [reads, otherReads, map_cons, map_cons] at executed
        exact (List.cons.inj executed).1
      subst seen
      have here (alike : other index copy (dataSpace size answers rest.length) =
          serve index copy (dataSpace size answers rest.length)) :
          SameRead serve other (copy :: copies) index
            (index, copy, dataSpace size answers rest.length) := by
        rw [SameRead]
        simp only [Nat.sub_self, List.getElem?_cons_zero, true_and]
        exact alike
      rcases exclusive index copy (dataSpace size answers rest.length) with alike | differ
      · by_cases stops : ∃ code,
            serve index copy (dataSpace size answers rest.length) = .stop code
        · obtain ⟨code, stopped⟩ := stops
          rw [readAll_stop stopped]
          intro read member
          rw [mem_singleton.mp member]
          exact here alike
        · push Not at stops
          rw [readAll_continue _ rfl stops] at executed response ⊢
          rw [readAll_continue
            (serve index copy (dataSpace size answers rest.length))
            (by rw [lengths]; exact alike) stops] at executed response
          intro read member
          rcases mem_cons.mp member with first | later
          · rw [first]
            exact here alike
          · apply (sameRead_cons (index_le_of_mem later)).mpr
            exact ih lengths (List.cons.inj executed).2 response read later
      · -- one of the readings stops here because the response is too long
        exfalso
        by_cases tooLong : serve index copy (dataSpace size answers rest.length) =
            .stop ISO_RESPONSE_TOO_LONG
        · have otherLonger : other index copy (dataSpace size answers copies.length) ≠
              .stop ISO_RESPONSE_TOO_LONG := by
            rw [lengths]
            intro same
            exact differ (propext ⟨fun _ => same, fun _ => tooLong⟩)
          rw [readAll_stop tooLong] at executed response
          by_cases stops : ∃ code,
              other index copy (dataSpace size answers copies.length) = .stop code
          · obtain ⟨code, stopped⟩ := stops
            rw [readAll_stop stopped] at response
            simp only [negativeResponseTo, List.cons.injEq, and_true, true_and] at response
            rw [response] at stopped
            exact otherLonger stopped
          · push Not at stops
            rw [readAll_continue _ rfl stops] at executed response
            exact continues_ne_stops (List.cons.inj executed).2 response
        · have otherTooLong : other index copy (dataSpace size answers copies.length) =
              .stop ISO_RESPONSE_TOO_LONG := by
            rw [lengths]
            by_contra otherLonger
            exact differ (propext ⟨fun same => (tooLong same).elim,
              fun same => (otherLonger same).elim⟩)
          rw [readAll_stop otherTooLong] at executed response
          by_cases stops : ∃ code,
              serve index copy (dataSpace size answers rest.length) = .stop code
          · obtain ⟨code, stopped⟩ := stops
            rw [readAll_stop stopped] at response
            simp only [negativeResponseTo, List.cons.injEq, and_true, true_and] at response
            rw [← response] at stopped
            exact tooLong stopped
          · push Not at stops
            rw [readAll_continue _ rfl stops] at executed response
            exact continues_ne_stops (List.cons.inj executed).2.symm response.symm

end Agreement

/-! ## The stored identifiers -/

theorem getElem?_storedBytes (identifiers : List DataIdentifier) (i : Nat) :
    (storedBytes identifiers)[2 * i]? = identifiers[i]?.map Prod.fst ∧
      (storedBytes identifiers)[2 * i + 1]? = identifiers[i]?.map Prod.snd := by
  induction identifiers generalizing i with
  | nil => simp [storedBytes]
  | cons identifier rest ih =>
    have whole : storedBytes (identifier :: rest) =
        identifier.1 :: identifier.2 :: storedBytes rest := rfl
    rw [whole]
    cases i with
    | zero => exact ⟨rfl, rfl⟩
    | succ i => exact ih i

namespace MultipleRequest

open NestedDiagRequest

theorem length_message :
    request.message.length = 1 + 2 * request.identifiers.length + request.behind.length := by
  simp only [message, length_cons, List.length_append, length_storedBytes]
  omega

@[simp]
theorem length_storedIdentifiers :
    request.storedIdentifiers.length = request.identifiers.length := by
  simp only [storedIdentifiers, length_map, length_range]

theorem getElem?_message {i : Nat} (inside : i < 2 * request.identifiers.length) :
    request.message[1 + i]? = some ((storedBytes request.identifiers).getD i 0) := by
  have bound : i < (storedBytes request.identifiers).length := by
    rw [length_storedBytes]
    exact inside
  rw [message, Nat.add_comm, List.getElem?_cons_succ, List.getElem?_append_left bound,
    getD_eq_getElem?_getD, List.getElem?_eq_getElem bound]
  rfl

/-- The copy stores each byte of the identifiers, from the start again where it overlaps. -/
theorem getElem?_init {i : Nat} (inside : i < 2 * request.identifiers.length) :
    (init request.message (2 * request.identifiers.length)).message[
      request.message.length - 2 * request.identifiers.length + i]? =
      some (request.storedByte i) := by
  have length := request.length_message
  have target : request.message.length - 2 * request.identifiers.length =
      1 + request.behind.length := by
    omega
  simp only [init, if_pos (show 0 < 2 * request.identifiers.length by omega), target, copyInside,
    prefixLength, storedByte]
  by_cases none : request.behind.length = 0
  · rw [if_pos (by omega), if_pos none, none, Nat.add_zero]
    exact request.getElem?_message inside
  · have distance : 1 + request.behind.length - 1 = request.behind.length := by omega
    rw [if_neg (by omega), if_neg none,
      getElem?_copyForward request.message (by omega) (by omega) inside, distance]
    apply request.getElem?_message
    have small := Nat.mod_le i request.behind.length
    omega

/-- At the start the message represents the stored identifiers. -/
theorem represents_init :
    NestedDiagRequest.Represents request.size
      (init request.message (2 * request.identifiers.length)) []
      false request.storedIdentifiers := by
  have length := request.length_message
  have size : request.size + 1 = request.message.length := by
    rw [MultipleRequest.size]
    omega
  have messageLength : (init request.message (2 * request.identifiers.length)).message.length =
      request.message.length := by
    simp only [init, copyInside]
    split
    · split
      · rfl
      · exact length_copyForward _ _ _ _
    · rfl
  constructor
  · rw [messageLength, size]
  · rfl
  · rfl
  · rfl
  · rfl
  · rw [length_storedIdentifiers]
    rfl
  · rw [length_storedIdentifiers, length_nil]
    omega
  · exact take_zero
  · rw [length_storedIdentifiers, size]
    apply ext_getElem?
    intro i
    rw [getElem?_slice]
    by_cases inside : i < 2 * request.identifiers.length
    · rw [if_pos inside, request.getElem?_init inside]
      obtain ⟨even, odd⟩ := getElem?_storedBytes request.storedIdentifiers (i / 2)
      have present : request.storedIdentifiers[i / 2]? =
          some (request.storedByte (2 * (i / 2)), request.storedByte (2 * (i / 2) + 1)) := by
        rw [storedIdentifiers, List.getElem?_map, List.getElem?_range (by omega)]
        rfl
      rw [present] at even odd
      rcases Nat.mod_two_eq_zero_or_one i with isEven | isOdd
      · have double : 2 * (i / 2) = i := by omega
        rw [double] at even
        exact even.symm
      · have double : 2 * (i / 2) + 1 = i := by omega
        rw [double] at odd
        exact odd.symm
    · rw [if_neg inside, List.getElem?_eq_none]
      rw [length_storedBytes, length_storedIdentifiers]
      omega

/-! ## The comparison -/

/-- The request reads its stored identifiers. -/
theorem process_spec (request : MultipleRequest) :
    ∃ final, request.process = some final ∧
      let result := readAll request.size (fun index identifier space =>
        (request.jobs index identifier).served fitsMaximum space) 0 [] false
        request.storedIdentifiers
      final.executed = result.reads.map (fun read => read.2.1) ∧
      endNestedRequest final.nested = result.response ∧
      final.lengths =
        result.reads.flatMap fun read => (request.jobs read.1 read.2.1).recorded read.2.2 := by
  have several := request.several
  have limited := request.limited
  have bounded := request.bounded
  have length := request.length_message
  have small : request.size < 0xFFFF := by
    rw [size]
    omega
  have started : request.process = triggerNextNestedRequest request.jobs
      (2 * request.identifiers.length + 1)
      { nested := init request.message (2 * request.identifiers.length) } := by
    simp only [process]
    rw [if_neg (by omega), if_neg (by omega)]
  have enough : request.storedIdentifiers.length < 2 * request.identifiers.length + 1 := by
    rw [length_storedIdentifiers]
    omega
  have start (reading : Reading)
      (nested : reading.nested = init request.message (2 * request.identifiers.length)) :=
    triggerNextNestedRequest_spec request.jobs small (nested ▸ request.represents_init) enough
  obtain ⟨final, returned, executed, response, lengths⟩ :=
    start { nested := init request.message (2 * request.identifiers.length) } rfl
  refine ⟨final, started.trans returned, executed, response, lengths⟩

/-- Reading the identifiers of one request is reading them one by one exactly where each of
them was stored as it was requested and no job is deceived about its length. -/
theorem readsOneByOne_iff :
    request.ReadsOneByOne ↔ ∀ read ∈ request.oneByOne.reads,
      request.Intact read ∧ ¬(request.jobs read.1 read.2.1).Deceived read.2.2 := by
  obtain ⟨final, returned, executed, response, _⟩ := request.process_spec
  have sameRead (read : Nat × DataIdentifier × Nat) :
      request.Intact read ∧ ¬(request.jobs read.1 read.2.1).Deceived read.2.2 ↔
        SameRead (fun index identifier space =>
          (request.jobs index identifier).served fitsSpace space)
          (fun index identifier space =>
            (request.jobs index identifier).served fitsMaximum space)
          request.storedIdentifiers 0 read := by
    rw [SameRead, Intact, Nat.sub_zero, ← DidJob.served_eq_iff]
  constructor
  · rintro ⟨reading, result, oneExecuted, oneResponse⟩ read member
    obtain rfl := Option.some.inj (returned.symm.trans result)
    rw [sameRead]
    apply sameRead_of_readAll _ request.length_storedIdentifiers _ _ read member
    · intro index identifier space
      exact DidJob.served_cases space _
    · rw [← executed, oneExecuted]
      rfl
    · rw [← response, oneResponse]
      rfl
  · intro same
    have equal := readAll_eq_of_sameRead request.length_storedIdentifiers
      (fun read member => (sameRead read).mp (same read member))
    refine ⟨final, returned, ?_, ?_⟩
    · rw [executed, equal]
      rfl
    · rw [response, equal]
      rfl

/-- A window never has the size of the maximum length. -/
theorem recorded_agree_iff (job : DidJob) (space : Nat) :
    (∀ lengths ∈ job.recorded space, lengths.1 = lengths.2) ↔ ¬job.TakesResponse space := by
  cases job with
  | returned code => simp [DidJob.recorded, DidJob.TakesResponse]
  | executed responseLength appended reply =>
    cases appended with
    | none => simp [DidJob.recorded, DidJob.TakesResponse]
    | some appended =>
      simp only [DidJob.recorded, DidJob.TakesResponse]
      cases DidJob.accepted fitsMaximum space responseLength with
      | false => simp
      | true =>
        simp only [if_true, mem_singleton, forall_eq, not_true_eq_false, iff_false]
        omega

/-- Reading several identifiers with one request is reading them one by one, exactly where
each was stored intact and no job is deceived about its length; that moreover each job gets
the length it can ask for holds exactly where none of them takes its response. -/
theorem multipleRead_exact (request : MultipleRequest) :
    (request.ReadsOneByOne ↔ ∀ read ∈ request.oneByOne.reads,
      request.Intact read ∧ ¬(request.jobs read.1 read.2.1).Deceived read.2.2) ∧
    (request.ReadsOneByOne ∧ request.LengthsAgree ↔ ∀ read ∈ request.oneByOne.reads,
      request.Intact read ∧ ¬(request.jobs read.1 read.2.1).Deceived read.2.2 ∧
        ¬(request.jobs read.1 read.2.1).TakesResponse read.2.2) := by
  refine ⟨request.readsOneByOne_iff, ?_⟩
  obtain ⟨final, returned, _, _, lengths⟩ := request.process_spec
  -- where the readings are the same, the lengths are those of reading one by one
  have recorded (same : ∀ read ∈ request.oneByOne.reads,
      request.Intact read ∧ ¬(request.jobs read.1 read.2.1).Deceived read.2.2) :
      final.lengths = request.oneByOne.reads.flatMap fun read =>
        (request.jobs read.1 read.2.1).recorded read.2.2 := by
    rw [lengths, readAll_eq_of_sameRead request.length_storedIdentifiers]
    · rfl
    · intro read member
      obtain ⟨intact, undeceived⟩ := same read member
      exact ⟨intact, (DidJob.served_eq_iff _ _).mpr undeceived⟩
  constructor
  · rintro ⟨reads, agree⟩ read member
    have same := request.readsOneByOne_iff.mp reads
    refine ⟨(same read member).1, (same read member).2, ?_⟩
    rw [← recorded_agree_iff]
    intro pair pairMember
    apply agree final returned pair
    rw [recorded same, mem_flatMap]
    exact ⟨read, member, pairMember⟩
  · intro conditions
    have same : ∀ read ∈ request.oneByOne.reads,
        request.Intact read ∧ ¬(request.jobs read.1 read.2.1).Deceived read.2.2 :=
      fun read member => ⟨(conditions read member).1, (conditions read member).2.1⟩
    refine ⟨request.readsOneByOne_iff.mpr same, ?_⟩
    intro reading result pair pairMember
    obtain rfl := Option.some.inj (returned.symm.trans result)
    rw [recorded same, mem_flatMap] at pairMember
    obtain ⟨read, member, recordedMember⟩ := pairMember
    exact (recorded_agree_iff _ _).mpr (conditions read member).2.2 pair recordedMember

/-! ## Two requests -/

/-- Three identifiers in a message with one byte behind the request. -/
def tightRequest : MultipleRequest where
  identifiers := [(0xF1, 0x86), (0xF1, 0x87), (0xF1, 0x88)]
  several := by decide
  behind := [0]
  bounded := by decide
  didLimit := 0
  limited := by decide
  jobs _ _ := .returned ⟨ISO_REQUEST_OUT_OF_RANGE, by decide⟩

/-- Two identifiers in a message with room for the answers, one byte for each. -/
def roomyRequest : MultipleRequest where
  identifiers := [(0xF1, 0x86), (0xF1, 0x87)]
  several := by decide
  behind := List.replicate 8 0
  bounded := by decide
  didLimit := 0
  limited := by decide
  jobs _ _ := .executed none (some [.appendUint8 0x01]) .positive

/-- The tight request executes the job of another identifier; in the roomy one the jobs get
more room than they can ask for. -/
theorem not_multipleRead_exact :
    ¬tightRequest.ReadsOneByOne ∧ ¬roomyRequest.LengthsAgree := by
  constructor
  · rintro ⟨reading, returned, executed, _⟩
    have code : tightRequest.process.map (fun reading => reading.executed) =
        some [(0xF1, 0xF1), (0xF1, 0xF1), (0xF1, 0xF1)] := by decide
    have oneByOne : tightRequest.oneByOne.reads.map (fun read => read.2.1) =
        [(0xF1, 0x86), (0xF1, 0x87), (0xF1, 0x88)] := by decide
    rw [returned, Option.map_some, executed, oneByOne] at code
    revert code
    decide
  · intro agree
    have lengths : roomyRequest.process.map (fun reading => reading.lengths) =
        some [(7, 8), (6, 7)] := by decide
    obtain ⟨reading, returned, equal⟩ := Option.map_eq_some_iff.mp lengths
    have pair := agree reading returned (7, 8) (by rw [equal]; exact mem_cons_self)
    contradiction

end MultipleRequest

end OpenBsw.Uds
