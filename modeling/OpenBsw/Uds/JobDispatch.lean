import OpenBsw.Uds.DiagCodes
import OpenBsw.Uds.JobRegistration

/-!
# Dispatching a request

A request goes down the tree: a job asks its children in the order of their
registration, until one of them is responsible.  Where no two siblings can be
responsible for the same request, this order does not matter.
-/

namespace OpenBsw.Uds

open List

universe u v

open DiagReturnCode

/-! ## Executing jobs -/

/-- The virtual functions and the configuration of the jobs, and what they call.  The state is
everything outside the tree: the connection, the session manager, the jobs' own data. -/
structure JobBehaviour (ι : Type u) (σ : Type v) where
  verify : ι → σ → List UInt8 → UInt8
  /-- The allowed sessions match the active one. -/
  isAllowed : ι → σ → Bool
  isAuthenticated : ι → σ → Bool
  notAuthenticatedReturnCode : ι → UInt8
  verifySupplierIndication : σ → List UInt8 → UInt8
  acceptedJob : ι → σ → List UInt8 → σ
  addIdentifier : σ → σ
  maximumResponseLength : σ → Nat
  suppressPositiveResponse : σ → σ
  /-- A job that does not override `process` asks its children. -/
  process : ι → Option (σ → List UInt8 → σ × UInt8)
  requestPayloadLength : ι → Nat
  responseLength : ι → Nat
  defaultDiagReturnCode : ι → UInt8
  suppressPositiveResponseBitEnabled : ι → Bool
  serviceId : σ → UInt8
  targetAddress : σ → Nat
  isSessionTimeoutActive : σ → Bool
  terminate : σ → σ

/-- The state and the bytes of the request, which lose the suppress positive response bit. -/
structure Dispatch (σ : Type v) where
  state : σ
  memory : List UInt8

/-- The bytes at a pointer into the request. -/
def Dispatch.bytes {σ : Type v} (dispatch : Dispatch σ) (request requestLength : Nat) :
    List UInt8 :=
  (dispatch.memory.drop request).take requestLength

namespace AbstractDiagJob

def VARIABLE_REQUEST_LENGTH : Nat := 0xFF
def VARIABLE_RESPONSE_LENGTH : Nat := 0xFF
def SUPPRESS_POSITIVE_RESPONSE_MASK : UInt8 := 0x80

/-- The bytes of a request that a job checks itself. -/
def ownLength (job : JobRequest) : Nat :=
  job.requestLength - job.prefixLength

end AbstractDiagJob

namespace DiagJobRoot

def TESTER_PRESENT : UInt8 := 0x3E

end DiagJobRoot

namespace JobBehaviour

open AbstractDiagJob

variable {ι : Type u} {σ : Type v} (behaviour : JobBehaviour ι σ) (requests : ι → JobRequest)

def acceptJob (this : ι) (dispatch : Dispatch σ) (request requestLength : Nat) : Dispatch σ :=
  if 0 < (requests this).requestLength then
    { dispatch with
      state := behaviour.acceptedJob this dispatch.state (dispatch.bytes request requestLength) }
  else dispatch

def checkSuppressPositiveResponseBit (this : ι) (dispatch : Dispatch σ) (request : Nat) :
    Dispatch σ :=
  if behaviour.suppressPositiveResponseBitEnabled this = true ∧
      0 < dispatch.memory.getD request 0 &&& SUPPRESS_POSITIVE_RESPONSE_MASK then
    { state := behaviour.suppressPositiveResponse dispatch.state
      memory := dispatch.memory.set request (dispatch.memory.getD request 0 &&& 0x7F) }
  else dispatch

/-- The part of `execute` between `verify` and `process`.  An error is an early return. -/
def accept (this : ι) (dispatch : Dispatch σ) (request requestLength : Nat) :
    Except (Dispatch σ × UInt8) (Dispatch σ) :=
  let job := requests this
  let early := behaviour.acceptJob requests this dispatch request requestLength
  let indication := behaviour.verifySupplierIndication dispatch.state
    (dispatch.bytes (request - job.prefixLength) ((requestLength + job.prefixLength) % 2 ^ 16))
  let identified := { dispatch with
    state := behaviour.addIdentifier^[ownLength job] dispatch.state }
  if behaviour.isAllowed this dispatch.state = false then
    .error (early, ISO_REQUEST_OUT_OF_RANGE)
  else if behaviour.isAuthenticated this dispatch.state = false then
    .error (early, behaviour.notAuthenticatedReturnCode this)
  else if indication ≠ OK then
    .error (early, indication)
  else if behaviour.requestPayloadLength this ≠ VARIABLE_REQUEST_LENGTH ∧
      (requestLength + 2 ^ 16 - ownLength job) % 2 ^ 16 ≠ behaviour.requestPayloadLength this then
    .error (early, ISO_INVALID_FORMAT)
  else if behaviour.responseLength this ≠ VARIABLE_RESPONSE_LENGTH ∧
      behaviour.maximumResponseLength identified.state < behaviour.responseLength this then
    .error (behaviour.acceptJob requests this identified request requestLength,
      ISO_RESPONSE_TOO_LONG)
  else
    .ok (behaviour.acceptJob requests this
      (behaviour.checkSuppressPositiveResponseBit this identified (request + ownLength job))
      (request + ownLength job) ((requestLength + 2 ^ 16 - ownLength job) % 2 ^ 16))

/-- The part of `execute` for a job that is responsible, but refuses the request. -/
def reject (this : ι) (dispatch : Dispatch σ) (request requestLength : Nat) (status : UInt8) :
    Dispatch σ × UInt8 :=
  let job := requests this
  let indication := behaviour.verifySupplierIndication dispatch.state
    (dispatch.bytes (request - job.prefixLength) ((requestLength + job.prefixLength) % 2 ^ 16))
  ({ dispatch with
      state := behaviour.acceptedJob this dispatch.state (dispatch.bytes request requestLength) },
    if status ≠ ISO_SERVICE_NOT_SUPPORTED ∧
        status ≠ ISO_SERVICE_NOT_SUPPORTED_IN_ACTIVE_SESSION ∧
        status ≠ ISO_SECURITY_ACCESS_DENIED ∧ indication ≠ OK then indication
    else status)

/-- The loop over the children in `AbstractDiagJob::process`. -/
def processChildren (tree : JobTree ι)
    (execute : Dispatch σ → ι → Option (Dispatch σ × UInt8)) :
    Nat → Dispatch σ → Option ι → Option (Dispatch σ × UInt8)
  | 0, _, _ => none
  | _ + 1, dispatch, none => some (dispatch, NOT_RESPONSIBLE)
  | fuel + 1, dispatch, some current =>
    (execute dispatch current).bind fun executed =>
      if executed.2 = NOT_RESPONSIBLE then
        processChildren tree execute fuel executed.1 (tree.nextJob current)
      else some executed

/-- A job for which no child is responsible has a default code. -/
def orDefault (this : ι) (processed : Dispatch σ × UInt8) : Dispatch σ × UInt8 :=
  (processed.1,
    if processed.2 = NOT_RESPONSIBLE then behaviour.defaultDiagReturnCode this else processed.2)

/-- The virtual function `process`: the override of a job, or `AbstractDiagJob::process`. -/
def processJob (tree : JobTree ι) (width : Nat)
    (execute : Dispatch σ → ι → Nat → Nat → Option (Dispatch σ × UInt8))
    (dispatch : Dispatch σ) (this : ι) (request requestLength : Nat) :
    Option (Dispatch σ × UInt8) :=
  match behaviour.process this with
  | some process =>
    let (state, code) := process dispatch.state (dispatch.bytes request requestLength)
    some ({ dispatch with state }, code)
  | none =>
    (processChildren tree (fun dispatch current => execute dispatch current request requestLength)
      width dispatch (tree.firstChild this)).map (behaviour.orDefault this)

/-- Calls are nested at most `depth` levels deep, and loops pass less than `width` jobs. -/
def execute (tree : JobTree ι) (width : Nat) :
    Nat → Dispatch σ → ι → Nat → Nat → Option (Dispatch σ × UInt8)
  | 0, _, _, _, _ => none
  | depth + 1, dispatch, this, request, requestLength =>
    let status := behaviour.verify this dispatch.state (dispatch.bytes request requestLength)
    if status = OK then
      match behaviour.accept requests this dispatch request requestLength with
      | .error early => some early
      | .ok accepted =>
        behaviour.processJob tree width (execute tree width depth) accepted this
          (request + ownLength (requests this))
          ((requestLength + 2 ^ 16 - ownLength (requests this)) % 2 ^ 16)
    else if status ≠ NOT_RESPONSIBLE then
      some (behaviour.reject requests this dispatch request requestLength status)
    else
      some (dispatch, status)

/-- `DiagJobRoot::execute`. -/
def executeRoot (tree : JobTree ι) (root : ι) (width depth : Nat) (dispatch : Dispatch σ)
    (requestLength : Nat) : Option (Dispatch σ × UInt8) :=
  let terminated := { dispatch with state := behaviour.terminate dispatch.state }
  if behaviour.serviceId dispatch.state = 0x7F then
    some (terminated, OK)
  else if TransportConfiguration.isFunctionalAddress (behaviour.targetAddress dispatch.state) ∧
      behaviour.serviceId dispatch.state = DiagJobRoot.TESTER_PRESENT ∧
      behaviour.isSessionTimeoutActive dispatch.state = false ∧ 1 < requestLength ∧
      0 < dispatch.memory.getD 1 0 &&& SUPPRESS_POSITIVE_RESPONSE_MASK then
    some (terminated, OK)
  else if requestLength < 1 then
    some ({ dispatch with
      state := behaviour.acceptedJob root dispatch.state (dispatch.bytes 0 requestLength) },
      ISO_GENERAL_REJECT)
  else if behaviour.isAllowed root dispatch.state = false then
    some (behaviour.acceptJob requests root dispatch 0 requestLength, ISO_REQUEST_OUT_OF_RANGE)
  else
    behaviour.processJob tree width (behaviour.execute requests tree width depth) dispatch root 0
      requestLength

end JobBehaviour

/-! ## What a job does to the request -/

section

open JobBehaviour AbstractDiagJob

variable {ι : Type u} {σ : Type v} {behaviour : JobBehaviour ι σ} {requests : ι → JobRequest}
  {tree : JobTree ι} {dispatch target : Dispatch σ} {this current : ι} {code : UInt8}
  {width depth request requestLength : Nat}

/-- The bytes in front of a position are the same. -/
def SameBefore (position : Nat) (dispatch target : Dispatch σ) : Prop :=
  target.memory.take position = dispatch.memory.take position

theorem SameBefore.trans {position : Nat} {between : Dispatch σ}
    (first : SameBefore position dispatch between) (second : SameBefore position between target) :
    SameBefore position dispatch target :=
  Eq.trans second first

theorem SameBefore.of_le {near far : Nat} (same : SameBefore far dispatch target)
    (less : near ≤ far) : SameBefore near dispatch target := by
  have shorter := congrArg (List.take near) same
  rw [take_take, take_take, Nat.min_eq_left less] at shorter
  exact shorter

theorem SameBefore.bytes {position : Nat} (same : SameBefore position dispatch target)
    {length : Nat} (inside : request + length ≤ position) :
    (target.bytes request requestLength).take length =
      (dispatch.bytes request requestLength).take length := by
  have shorter := congrArg (List.drop request) (same.of_le inside)
  rw [drop_take, drop_take, Nat.add_sub_cancel_left] at shorter
  rw [Dispatch.bytes, Dispatch.bytes, take_take, take_take, Nat.min_comm,
    ← take_take, ← take_take, shorter]

@[simp] theorem acceptJob_memory : (behaviour.acceptJob requests this dispatch request
    requestLength).memory = dispatch.memory := by
  rw [acceptJob]
  split_ifs <;> rfl

/-- Clearing the bit behind the bytes of a job does not touch them. -/
theorem checkSuppressPositiveResponseBit_same :
    SameBefore request dispatch
      (behaviour.checkSuppressPositiveResponseBit this dispatch request) := by
  rw [checkSuppressPositiveResponseBit]
  split_ifs
  · exact take_set_of_le (Nat.le_refl _)
  · rfl

/-- An early return does not touch the request. -/
theorem accept_error {early : Dispatch σ × UInt8}
    (accepted : behaviour.accept requests this dispatch request requestLength = .error early) :
    early.1.memory = dispatch.memory := by
  rw [accept] at accepted
  split_ifs at accepted <;> injection accepted with same <;> rw [← same, acceptJob_memory]

/-- The bytes that a job has checked stay as they are. -/
theorem accept_ok
    (accepted : behaviour.accept requests this dispatch request requestLength = .ok target) :
    SameBefore (request + ownLength (requests this)) dispatch target := by
  rw [accept] at accepted
  split_ifs at accepted
  injection accepted with same
  rw [← same, SameBefore, acceptJob_memory]
  exact checkSuppressPositiveResponseBit_same

/-- The loop over the children keeps what each of them keeps. -/
theorem processChildren_same {position : Nat}
    {execute : Dispatch σ → ι → Option (Dispatch σ × UInt8)}
    (each : ∀ {source kid executed}, execute source kid = some executed →
      SameBefore position source executed.1) {executed : Dispatch σ × UInt8} {start : Option ι}
    (processed : processChildren tree execute width dispatch start = some executed) :
    SameBefore position dispatch executed.1 := by
  induction width generalizing dispatch start with
  | zero => cases processed
  | succ width ih =>
    cases start with
    | none =>
      cases processed
      rfl
    | some current =>
      obtain ⟨first, called, further⟩ := Option.bind_eq_some_iff.mp processed
      have here := each called
      split_ifs at further
      · exact here.trans (ih further)
      · cases further
        exact here

/-- Executing a job leaves the bytes alone that were checked on the way to it and by itself. -/
theorem execute_same {executed : Dispatch σ × UInt8}
    (called : behaviour.execute requests tree width depth dispatch this request requestLength =
      some executed) :
    SameBefore (request + ownLength (requests this)) dispatch executed.1 := by
  induction depth generalizing dispatch this request requestLength executed with
  | zero => cases called
  | succ depth ih =>
    rw [execute] at called
    split_ifs at called
    · cases accepted : behaviour.accept requests this dispatch request requestLength with
      | error early =>
        rw [accepted] at called
        cases called
        exact congrArg (List.take _) (accept_error accepted)
      | ok target =>
        rw [accepted] at called
        have here := accept_ok accepted
        change processJob behaviour tree width _ target this _ _ = some executed at called
        rw [processJob] at called
        cases override : behaviour.process this with
        | some process =>
          rw [override] at called
          cases called
          exact here
        | none =>
          rw [override] at called
          obtain ⟨processed, children, rfl⟩ := Option.map_eq_some_iff.mp called
          have kept : SameBefore (request + ownLength (requests this)) target processed.1 :=
            processChildren_same
              (fun executed => (ih executed).of_le (Nat.le_add_right _ _)) children
          exact here.trans kept
    · cases called
      rfl
    · cases called
      rfl

/-! ## The responsible job -/

/-- The request goes on with the bytes of the job after its prefix. -/
def Continues (requests : ι → JobRequest) (job : ι) (bytes : List UInt8) : Prop :=
  (requests job).whole.drop (requests job).prefixLength <+: bytes

/-- The jobs check their own bytes, whatever else their `verify` does. -/
def Verifying (behaviour : JobBehaviour ι σ) (requests : ι → JobRequest) : Prop :=
  ∀ job state bytes, behaviour.verify job state bytes = NOT_RESPONSIBLE ↔
    ¬ Continues requests job bytes

/-- No request is for two of the jobs with the same parent. -/
def Disjoint (requests : ι → JobRequest) (present : List ι) : Prop :=
  ∀ first ∈ present, ∀ second ∈ present, first ≠ second →
    (requests first).prefixLength = (requests second).prefixLength →
    ¬ (requests first).whole <+: (requests second).whole

/-- A job that is not responsible does nothing. -/
theorem execute_of_not_continues (verifying : Verifying behaviour requests)
    (other : ¬ Continues requests this (dispatch.bytes request requestLength)) :
    behaviour.execute requests tree width (depth + 1) dispatch this request requestLength =
      some (dispatch, NOT_RESPONSIBLE) := by
  have status := (verifying this dispatch.state _).mpr other
  rw [execute]
  simp only [status]
  rfl

/-- A job stays responsible while its bytes stay as they are. -/
theorem Continues.of_same (formed : (requests this).WellFormed)
    (continues : Continues requests this (dispatch.bytes request requestLength))
    (same : SameBefore (request + ownLength (requests this)) dispatch target) :
    Continues requests this (target.bytes request requestLength) := by
  have size : ((requests this).whole.drop (requests this).prefixLength).length =
      ownLength (requests this) := by
    rw [length_drop, formed.length_whole]
    rfl
  rw [Continues, prefix_iff_eq_take, size] at continues ⊢
  rw [continues]
  exact (same.bytes (Nat.le_refl _)).symm

/-- The loop over children that are not responsible. -/
theorem processChildren_refused {execute : Dispatch σ → ι → Option (Dispatch σ × UInt8)}
    {children : List ι} {start : Option ι} (leads : Leads tree.nextJob start children)
    (enough : children.length < width)
    (refused : ∀ kid ∈ children, execute dispatch kid = some (dispatch, NOT_RESPONSIBLE)) :
    processChildren tree execute width dispatch start = some (dispatch, NOT_RESPONSIBLE) := by
  induction children generalizing start width with
  | nil =>
    obtain ⟨width, rfl⟩ : ∃ smaller, width = smaller + 1 := ⟨width - 1, by omega⟩
    obtain rfl : start = none := leads
    rfl
  | cons kid children ih =>
    rw [length_cons] at enough
    obtain ⟨width, rfl⟩ : ∃ smaller, width = smaller + 1 := ⟨width - 1, by omega⟩
    obtain ⟨rfl, behind⟩ := leads
    rw [processChildren, refused kid mem_cons_self]
    exact ih behind (by omega) fun later member => refused later (mem_cons_of_mem _ member)

end

/-! ## The order of the children -/

section

open JobBehaviour AbstractDiagJob

variable {ι : Type u} [DecidableEq ι] {σ : Type v} {behaviour : JobBehaviour ι σ}
  {requests : ι → JobRequest} {root : ι} {tree : JobTree ι} {dispatch target : Dispatch σ}
  {this parent first second : ι} {width request requestLength : Nat}
  {present : List ι}

/-- At most one child of a job is responsible. -/
theorem Application.unique_kid (application : Application requests root)
    (disjoint : Disjoint requests present)
    (firstKid : first ∈ kids requests root present parent)
    (secondKid : second ∈ kids requests root present parent) {bytes : List UInt8}
    (firstContinues : Continues requests first bytes)
    (secondContinues : Continues requests second bytes) : first = second := by
  obtain ⟨firstMember, firstChild⟩ := mem_kids.mp firstKid
  obtain ⟨secondMember, secondChild⟩ := mem_kids.mp secondKid
  have length := (application.requestLength_parent firstChild).symm.trans
    (application.requestLength_parent secondChild)
  have taken := (application.childOf_iff.mp firstChild).2.symm.trans
    (application.childOf_iff.mp secondChild).2
  by_contra different
  rcases prefix_or_prefix_of_prefix firstContinues secondContinues with before | before
  · refine disjoint first firstMember second secondMember different length ?_
    rw [← take_append_drop (requests first).prefixLength (requests first).whole,
      ← take_append_drop (requests second).prefixLength (requests second).whole, taken]
    exact (prefix_append_right_inj _).mpr before
  · refine disjoint second secondMember first firstMember (Ne.symm different) length.symm ?_
    rw [← take_append_drop (requests first).prefixLength (requests first).whole,
      ← take_append_drop (requests second).prefixLength (requests second).whole, taken]
    exact (prefix_append_right_inj _).mpr before

/-- The loop is the execution of the only responsible child, wherever it is. -/
theorem processChildren_responsible {execute : Dispatch σ → ι → Option (Dispatch σ × UInt8)}
    {children : List ι} {start : Option ι} {kid : ι} {executed : Dispatch σ × UInt8}
    (leads : Leads tree.nextJob start children) (nodup : children.Nodup)
    (enough : children.length < width)
    (member : kid ∈ children) (called : execute dispatch kid = some executed)
    (others : ∀ other ∈ children, other ≠ kid →
      execute dispatch other = some (dispatch, NOT_RESPONSIBLE) ∧
      execute executed.1 other = some (executed.1, NOT_RESPONSIBLE)) :
    processChildren tree execute width dispatch start = some executed := by
  induction children generalizing start width with
  | nil => exact absurd member not_mem_nil
  | cons head children ih =>
    rw [length_cons] at enough
    rw [nodup_cons] at nodup
    obtain ⟨width, rfl⟩ : ∃ smaller, width = smaller + 1 := ⟨width - 1, by omega⟩
    obtain ⟨rfl, behind⟩ := leads
    rw [processChildren]
    by_cases isHead : head = kid
    · subst isHead
      rw [called]
      change (if executed.2 = NOT_RESPONSIBLE then _ else some executed) = _
      split_ifs with none
      · rw [processChildren_refused behind (by omega) fun other later => ?_, ← none]
        refine (others other (mem_cons_of_mem _ later) ?_).2
        rintro rfl
        exact nodup.1 later
      · rfl
    · rw [(others head mem_cons_self isHead).1]
      exact ih behind nodup.2 (by omega) ((mem_cons.mp member).resolve_left (Ne.symm isHead))
        fun other later => others other (mem_cons_of_mem _ later)

/-- The children of a job process a request in the same way in every order. -/
theorem processChildren_perm (dispatch : Dispatch σ) (application : Application requests root)
    (verifying : Verifying behaviour requests) {present other : List ι}
    {tree otherTree : JobTree ι} (represents : Represents requests root tree present)
    (otherRepresents : Represents requests root otherTree other) (perm : present.Perm other)
    (disjoint : Disjoint requests present) (member : this ∈ root :: present)
    (enough : present.length < width) {depth : Nat}
    (each : ∀ kid ∈ kids requests root present this, 0 < depth ∧
      ∀ dispatch : Dispatch σ, ∃ executed,
      behaviour.execute requests tree width depth dispatch kid request requestLength =
        some executed ∧
      behaviour.execute requests otherTree width depth dispatch kid request requestLength =
        some executed) :
    ∃ executed,
      processChildren tree (fun dispatch current =>
        behaviour.execute requests tree width depth dispatch current request requestLength)
        width dispatch (tree.firstChild this) = some executed ∧
      processChildren otherTree (fun dispatch current =>
        behaviour.execute requests otherTree width depth dispatch current request requestLength)
        width dispatch (otherTree.firstChild this) = some executed := by
  have kidsPerm : (kids requests root present this).Perm (kids requests root other this) :=
    perm.filter _
  have leads := represents.linked this member
  have otherLeads := otherRepresents.linked this ((perm.cons root).mem_iff.mp member)
  have nodup : (kids requests root present this).Nodup :=
    (nodup_cons.mp represents.nodup).2.filter _
  have size := length_kids_le requests root present this
  have otherSize := kidsPerm.length_eq
  by_cases found : ∃ kid ∈ kids requests root present this,
      Continues requests kid (dispatch.bytes request requestLength)
  · obtain ⟨kid, isKid, continues⟩ := found
    obtain ⟨positive, both⟩ := each kid isKid
    obtain ⟨executed, called, otherCalled⟩ := both dispatch
    obtain ⟨depth, rfl⟩ : ∃ smaller, depth = smaller + 1 := ⟨depth - 1, by omega⟩
    -- no other child is responsible, neither before nor after the execution
    have continuesAfter := continues.of_same (application.formed kid) (execute_same called)
    have alone : ∀ sibling ∈ kids requests root present this, sibling ≠ kid →
        ¬ Continues requests sibling (dispatch.bytes request requestLength) ∧
        ¬ Continues requests sibling (executed.1.bytes request requestLength) :=
      fun sibling isSibling different =>
        ⟨fun also => different (application.unique_kid disjoint isSibling isKid also continues),
          fun also =>
            different (application.unique_kid disjoint isSibling isKid also continuesAfter)⟩
    refine ⟨executed, ?_, ?_⟩
    · refine processChildren_responsible leads nodup (by omega) isKid called
        fun sibling isSibling different => ?_
      obtain ⟨before, after⟩ := alone sibling isSibling different
      exact ⟨execute_of_not_continues verifying before, execute_of_not_continues verifying after⟩
    · refine processChildren_responsible otherLeads (kidsPerm.nodup_iff.mp nodup) (by omega)
        (kidsPerm.mem_iff.mp isKid) otherCalled fun sibling isSibling different => ?_
      obtain ⟨before, after⟩ := alone sibling (kidsPerm.mem_iff.mpr isSibling) different
      exact ⟨execute_of_not_continues verifying before, execute_of_not_continues verifying after⟩
  · have refused : ∀ someTree, ∀ kid ∈ kids requests root present this,
        behaviour.execute requests someTree width depth dispatch kid request requestLength =
          some (dispatch, NOT_RESPONSIBLE) := by
      intro someTree kid isKid
      have positive := (each kid isKid).1
      obtain ⟨depth, rfl⟩ : ∃ smaller, depth = smaller + 1 := ⟨depth - 1, by omega⟩
      exact execute_of_not_continues verifying fun continues => found ⟨kid, isKid, continues⟩
    exact ⟨_, processChildren_refused leads (by omega) (refused tree),
      processChildren_refused otherLeads (by omega) fun kid isKid =>
        refused otherTree kid (kidsPerm.mem_iff.mpr isKid)⟩

/-- A job processes a request in the same way for every order of its descendants. -/
theorem processJob_perm (application : Application requests root)
    (verifying : Verifying behaviour requests) {present other : List ι}
    {tree otherTree : JobTree ι} (represents : Represents requests root tree present)
    (otherRepresents : Represents requests root otherTree other) (perm : present.Perm other)
    (disjoint : Disjoint requests present) (member : this ∈ root :: present)
    (enough : present.length < width) {depth : Nat}
    (each : ∀ kid ∈ kids requests root present this, 0 < depth ∧
      ∀ dispatch : Dispatch σ, ∃ executed,
      behaviour.execute requests tree width depth dispatch kid request requestLength =
        some executed ∧
      behaviour.execute requests otherTree width depth dispatch kid request requestLength =
        some executed) :
    ∃ executed,
      behaviour.processJob tree width (behaviour.execute requests tree width depth) dispatch this
        request requestLength = some executed ∧
      behaviour.processJob otherTree width (behaviour.execute requests otherTree width depth)
        dispatch this request requestLength = some executed := by
  rw [processJob, processJob]
  cases override : behaviour.process this with
  | some process => exact ⟨_, rfl, rfl⟩
  | none =>
    have children := processChildren_perm dispatch application verifying represents
      otherRepresents perm disjoint member enough each
    obtain ⟨executed, first, second⟩ := children
    exact ⟨behaviour.orDefault this executed, congrArg (Option.map _) first,
      congrArg (Option.map _) second⟩

/-- A present job executes a request in the same way for every order of registration. -/
theorem execute_perm (application : Application requests root)
    (verifying : Verifying behaviour requests) {present other : List ι}
    {tree otherTree : JobTree ι} (represents : Represents requests root tree present)
    (otherRepresents : Represents requests root otherTree other) (perm : present.Perm other)
    (disjoint : Disjoint requests present) (enough : present.length < width) {depth : Nat}
    (deep : depthBelow requests root this ≤ depth) (member : this ∈ root :: present) :
    ∃ executed,
      behaviour.execute requests tree width depth dispatch this request requestLength =
        some executed ∧
      behaviour.execute requests otherTree width depth dispatch this request requestLength =
        some executed := by
  have bound := application.level_le this
  induction depth generalizing dispatch this request requestLength with
  | zero =>
    rw [depthBelow] at deep
    omega
  | succ depth ih =>
    rw [execute, execute]
    split_ifs
    · cases accepted : behaviour.accept requests this dispatch request requestLength with
      | error early => exact ⟨early, rfl, rfl⟩
      | ok target =>
        refine processJob_perm application verifying represents otherRepresents perm disjoint
          member enough fun kid isKid => ?_
        obtain ⟨inTree, child⟩ := mem_kids.mp isKid
        have less := application.depthBelow_lt child (represents.ne_root inTree)
        have kidBound := application.level_le kid
        have kidDepth : depthBelow requests root kid ≤ depth := by omega
        refine ⟨?_, fun dispatch =>
          ih kidDepth (mem_cons_of_mem _ inTree) kidBound⟩
        rw [depthBelow] at kidDepth
        omega
    · exact ⟨_, rfl, rfl⟩
    · exact ⟨_, rfl, rfl⟩

/-- The root executes a request in the same way for every order of registration. -/
theorem executeRoot_perm (application : Application requests root)
    (verifying : Verifying behaviour requests) {present other : List ι}
    {tree otherTree : JobTree ι} (represents : Represents requests root tree present)
    (otherRepresents : Represents requests root otherTree other) (perm : present.Perm other)
    (disjoint : Disjoint requests present) (enough : present.length < width) {depth : Nat}
    (deep : 256 ≤ depth) :
    ∃ executed,
      behaviour.executeRoot requests tree root width depth dispatch requestLength =
        some executed ∧
      behaviour.executeRoot requests otherTree root width depth dispatch requestLength =
        some executed := by
  rw [executeRoot, executeRoot]
  split_ifs
  · exact ⟨_, rfl, rfl⟩
  · exact ⟨_, rfl, rfl⟩
  · exact ⟨_, rfl, rfl⟩
  · exact ⟨_, rfl, rfl⟩
  · refine processJob_perm application verifying represents otherRepresents perm disjoint
      mem_cons_self enough fun kid isKid => ?_
    obtain ⟨inTree, child⟩ := mem_kids.mp isKid
    have less := application.depthBelow_lt child (represents.ne_root inTree)
    have most : depthBelow requests root root ≤ 257 := Nat.sub_le ..
    exact ⟨by omega, fun dispatch => execute_perm application verifying represents otherRepresents
      perm disjoint enough (by omega) (mem_cons_of_mem _ inTree)⟩

end

end OpenBsw.Uds
