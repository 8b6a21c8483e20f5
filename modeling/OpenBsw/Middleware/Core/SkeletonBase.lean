import OpenBsw.Middleware.Core.DatabaseRuns

/-!
# Initialisation of skeletons

A skeleton is registered over several cluster connections, each with a database
of its own.  The databases share the skeleton, and with it the instance id that
their containers are sorted by.  `_connections` names the connections only
after all of them have taken the skeleton.

A database that takes a skeleton holds it and takes it again; one that refuses
it keeps its containers.  So the loop over the connections ends with all of them
exactly if none refuses the skeleton, and leaves the skeleton with the
connections before a refusal.
-/

namespace OpenBsw.Middleware

open DbManipulator

/-- `IInstanceDatabase`, as far as skeletons use it; `none` is a null pointer. -/
structure InstanceDatabase (Connection : Type) where
  instanceIdsRange : List UInt16
  skeletonConnectionsRange : List (Option Connection)

/-- `HRESULT` of an initialisation. -/
inductive InitResult
  | InstanceNotFound
  | result (ret : HRESULT)
  deriving DecidableEq, Repr

/-- The databases behind the connections, the transceivers, and the connections
that the skeleton has. -/
structure SkeletonState (Connection Id : Type) where
  containers : Connection → List (TransceiverContainer Id)
  transceivers : Id → Transceiver
  connections : List (Option Connection)

namespace SkeletonState

variable {Connection Id : Type} [DecidableEq Connection] [DecidableEq Id]

def database (state : SkeletonState Connection Id) (connection : Connection) : Database Id where
  containers := state.containers connection
  transceivers := state.transceivers

def setDatabase (state : SkeletonState Connection Id) (connection : Connection)
    (database : Database Id) : SkeletonState Connection Id :=
  { state with
    containers := Function.update state.containers connection database.containers
    transceivers := database.transceivers }

def isInitialized (state : SkeletonState Connection Id) : Bool :=
  !state.connections.isEmpty

/-- The loop of `unsubscribe`. -/
def unsubscribeFrom (skeleton : Id) :
    List (Option Connection) → SkeletonState Connection Id → SkeletonState Connection Id
  | [], state => state
  | none :: rest, state => unsubscribeFrom skeleton rest state
  | some connection :: rest, state =>
    unsubscribeFrom skeleton rest
      (state.setDatabase connection
        (DbManipulator.unsubscribe (state.database connection) skeleton
          (state.transceivers skeleton).serviceId))

def unsubscribe (state : SkeletonState Connection Id) (skeleton : Id) :
    SkeletonState Connection Id :=
  { unsubscribeFrom skeleton state.connections state with connections := [] }

/-- The loop over the connections: the last result, whether all of them took the
skeleton, and the state at its end. -/
def subscribeAll (skeleton : Id) (instanceId : UInt16) :
    List (Option Connection) → HRESULT → SkeletonState Connection Id →
      HRESULT × Bool × SkeletonState Connection Id
  | [], ret, state => (ret, true, state)
  | none :: rest, ret, state => subscribeAll skeleton instanceId rest ret state
  | some connection :: rest, _, state =>
    let subscribed := subscribeSkeleton (state.database connection) skeleton instanceId
    let next := state.setDatabase connection subscribed.2
    if subscribed.1 = .Ok ∨ subscribed.1 = .InstanceAlreadyRegistered then
      subscribeAll skeleton instanceId rest subscribed.1 next
    else (subscribed.1, false, next)

omit [DecidableEq Connection] in
/-- The first database with the instance and with connections. -/
def findInstance (instanceId : UInt16) (dbRange : List (InstanceDatabase Connection)) :
    Option (InstanceDatabase Connection) :=
  dbRange.find? fun database =>
    let position := BinarySearch.partitionPoint (fun other => decide (other < instanceId))
      database.instanceIdsRange
    database.instanceIdsRange[position]? = some instanceId &&
      !database.skeletonConnectionsRange.isEmpty

def initFromInstancesDatabase (state : SkeletonState Connection Id) (skeleton : Id)
    (instanceId : UInt16) (dbRange : List (InstanceDatabase Connection)) :
    InitResult × SkeletonState Connection Id :=
  let withdrawn := state.unsubscribe skeleton
  match findInstance instanceId dbRange with
  | some database =>
    let (ret, isRegistered, next) := subscribeAll skeleton instanceId
      database.skeletonConnectionsRange .TransceiverInitializationFailed withdrawn
    if isRegistered then
      (.result ret, { next with connections := database.skeletonConnectionsRange })
    else
      -- No connection is stored yet, so this unsubscribes from none.
      let unsubscribed := next.unsubscribe skeleton
      (.result .TransceiverInitializationFailed,
        { unsubscribed with
          transceivers := setInstanceId unsubscribed.transceivers skeleton
            INVALID_INSTANCE_ID })
  | none => (.InstanceNotFound, withdrawn)

end SkeletonState

/-! ## Subscriptions -/

open DatabaseRun (Holds)

namespace DbManipulator

variable {Id : Type}

theorem getTransceiversByServiceId_some {containers : List (TransceiverContainer Id)}
    {serviceId : UInt16} {index : Nat} {entry : TransceiverContainer Id}
    (found : getTransceiversByServiceId containers serviceId = some (index, entry)) :
    ∃ inside : index < containers.length, containers[index] = entry ∧
      entry.serviceId = serviceId := by
  simp only [getTransceiversByServiceId] at found
  split at found
  · rename_i other entryEq
    split at found
    · rename_i same
      cases found
      obtain ⟨inside, at_index⟩ := List.getElem?_eq_some_iff.mp entryEq
      exact ⟨inside, at_index, same⟩
    · cases found
  · cases found

/-- The container of a service is found again after it has changed. -/
theorem getTransceiversByServiceId_set {containers : List (TransceiverContainer Id)}
    {serviceId : UInt16} {index : Nat} {entry changed : TransceiverContainer Id}
    (found : getTransceiversByServiceId containers serviceId = some (index, entry))
    (same : changed.serviceId = entry.serviceId) :
    getTransceiversByServiceId (containers.set index changed) serviceId =
      some (index, changed) := by
  obtain ⟨inside, rfl, service⟩ := getTransceiversByServiceId_some found
  have position : BinarySearch.partitionPoint
      (fun other : TransceiverContainer Id => decide (other.serviceId < serviceId)) containers =
        index := by
    simp only [getTransceiversByServiceId] at found
    split at found
    · split at found
      · cases found
        rfl
      · cases found
    · cases found
  have kept : BinarySearch.partitionPoint
      (fun other : TransceiverContainer Id => decide (other.serviceId < serviceId))
      (containers.set index changed) = index :=
    (BinarySearch.partitionPoint_set inside (by simp only [same])).trans position
  simp only [getTransceiversByServiceId, kept, List.getElem?_set_self inside, same,
    service, if_true]

variable [DecidableEq Id]

/-- A subscription of the skeleton succeeds. -/
def accepts (database : Database Id) (skeleton : Id) (instanceId : UInt16) : Bool :=
  match getTransceiversByServiceId database.containers
    (database.transceivers skeleton).serviceId with
  | none => false
  | some (_, entry) =>
    (findTransceiver database.transceivers skeleton entry.container).isSome ||
      !isSkeletonWithServiceInstanceIdRegistered database.transceivers entry.container
          instanceId && entry.container.length ≠ entry.capacity

/-- A subscription is refused, and the skeleton loses its instance id, or the
skeleton takes the last place of its container, which is sorted then. -/
theorem subscribeSkeleton_cases (database : Database Id) (skeleton : Id) (instanceId : UInt16) :
    (accepts database skeleton instanceId = false ∧
        ¬((subscribeSkeleton database skeleton instanceId).1 = .Ok ∨
          (subscribeSkeleton database skeleton instanceId).1 = .InstanceAlreadyRegistered) ∧
        (subscribeSkeleton database skeleton instanceId).2 =
          { database with
            transceivers := setInstanceId database.transceivers skeleton INVALID_INSTANCE_ID }) ∨
      (accepts database skeleton instanceId = true ∧
        ((subscribeSkeleton database skeleton instanceId).1 = .Ok ∨
          (subscribeSkeleton database skeleton instanceId).1 = .InstanceAlreadyRegistered) ∧
        ∃ index entry rest,
          getTransceiversByServiceId database.containers
            (database.transceivers skeleton).serviceId = some (index, entry) ∧
          (subscribeSkeleton database skeleton instanceId).2 =
            { containers := database.containers.set index
                { entry with
                  container := sort (setInstanceId database.transceivers skeleton instanceId)
                    (rest ++ [skeleton]) }
              transceivers := setInstanceId database.transceivers skeleton instanceId } ∧
          rest.Sublist entry.container) := by
  cases found : getTransceiversByServiceId database.containers
      (database.transceivers skeleton).serviceId with
  | none =>
    left
    simp [accepts, subscribeSkeleton, found]
  | some place =>
    obtain ⟨index, entry⟩ := place
    cases searched : findTransceiver database.transceivers skeleton entry.container with
    | some position =>
      right
      refine ⟨by simp [accepts, found, searched], by simp [subscribeSkeleton, found, searched],
        index, entry, entry.container.eraseIdx position, rfl, ?_,
        List.eraseIdx_sublist _ _⟩
      simp [subscribeSkeleton, found, searched, reinsert]
    | none =>
      cases registered : isSkeletonWithServiceInstanceIdRegistered database.transceivers
          entry.container instanceId with
      | true =>
        left
        simp [accepts, subscribeSkeleton, found, searched, registered]
      | false =>
        by_cases full : entry.container.length = entry.capacity
        · left
          simp [accepts, subscribeSkeleton, found, searched, registered, full]
        · right
          refine ⟨by simp [accepts, found, searched, registered, full],
            by simp [subscribeSkeleton, found, searched, registered, full],
            index, entry, entry.container, rfl, ?_, List.Sublist.refl _⟩
          simp [subscribeSkeleton, found, searched, registered, full]

omit [DecidableEq Id] in
theorem holds_set {containers : List (TransceiverContainer Id)}
    {transceivers : Id → Transceiver} {index : Nat} {entry : TransceiverContainer Id}
    {skeleton : Id} (inside : index < containers.length) (holds : skeleton ∈ entry.container) :
    Holds ⟨containers.set index entry, transceivers⟩ skeleton :=
  ⟨entry, List.mem_set inside entry, holds⟩

/-- A database that took the skeleton holds it, and takes it again. -/
theorem subscribeSkeleton_accepted {database : Database Id} {skeleton : Id} {instanceId : UInt16}
    (accepted : accepts database skeleton instanceId = true) :
    ((subscribeSkeleton database skeleton instanceId).1 = .Ok ∨
        (subscribeSkeleton database skeleton instanceId).1 = .InstanceAlreadyRegistered) ∧
      (subscribeSkeleton database skeleton instanceId).2.transceivers =
        setInstanceId database.transceivers skeleton instanceId ∧
      Holds (subscribeSkeleton database skeleton instanceId).2 skeleton ∧
      accepts (subscribeSkeleton database skeleton instanceId).2 skeleton instanceId = true := by
  rcases subscribeSkeleton_cases database skeleton instanceId with
    ⟨refused, _⟩ | ⟨_, success, index, entry, rest, found, result, _⟩
  · rw [refused] at accepted
    cases accepted
  · obtain ⟨inside, _, _⟩ := getTransceiversByServiceId_some found
    obtain ⟨transceivers, transceiversEq⟩ : ∃ transceivers,
        transceivers = setInstanceId database.transceivers skeleton instanceId := ⟨_, rfl⟩
    obtain ⟨changed, changedEq⟩ : ∃ changed : TransceiverContainer Id,
        changed = { entry with container := sort transceivers (rest ++ [skeleton]) } := ⟨_, rfl⟩
    rw [← transceiversEq, ← changedEq] at result
    have last : skeleton ∈ changed.container := by
      rw [changedEq, (sort_perm _ _).mem_iff]
      simp
    have service : (transceivers skeleton).serviceId =
        (database.transceivers skeleton).serviceId := by
      simp [transceiversEq, setInstanceId, Transceiver.setInstanceId]
    have foundAgain : getTransceiversByServiceId (database.containers.set index changed)
        (transceivers skeleton).serviceId = some (index, changed) := by
      rw [service]
      exact getTransceiversByServiceId_set found (by rw [changedEq])
    have again : (findTransceiver transceivers skeleton changed.container).isSome := by
      refine findTransceiver_isSome ?_ last
      rw [changedEq]
      exact inOrder_sort transceivers (rest ++ [skeleton])
    rw [result, ← transceiversEq]
    exact ⟨success, rfl, holds_set inside last,
      by simp only [accepts, foundAgain, again, Bool.true_or]⟩

theorem subscribeSkeleton_refused {database : Database Id} {skeleton : Id} {instanceId : UInt16}
    (refused : accepts database skeleton instanceId = false) :
    ¬((subscribeSkeleton database skeleton instanceId).1 = .Ok ∨
        (subscribeSkeleton database skeleton instanceId).1 = .InstanceAlreadyRegistered) ∧
      (subscribeSkeleton database skeleton instanceId).2 =
        { database with
          transceivers := setInstanceId database.transceivers skeleton INVALID_INSTANCE_ID } := by
  rcases subscribeSkeleton_cases database skeleton instanceId with
    ⟨_, failed, result⟩ | ⟨accepted, _⟩
  · exact ⟨failed, result⟩
  · rw [refused] at accepted
    cases accepted

end DbManipulator

namespace SkeletonState

variable {Connection Id : Type} [DecidableEq Connection] [DecidableEq Id]
  {skeleton : Id} {instanceId : UInt16}

omit [DecidableEq Id] in
@[simp]
theorem setDatabase_transceivers (state : SkeletonState Connection Id) (connection : Connection)
    (database : Database Id) :
    (state.setDatabase connection database).transceivers = database.transceivers :=
  rfl

omit [DecidableEq Id] in
theorem setDatabase_database_self (state : SkeletonState Connection Id) (connection : Connection)
    (database : Database Id) : (state.setDatabase connection database).database connection =
      database := by
  simp [setDatabase, SkeletonState.database]

omit [DecidableEq Id] in
theorem setDatabase_containers_ne (state : SkeletonState Connection Id)
    {connection other : Connection} (different : other ≠ connection) (database : Database Id) :
    (state.setDatabase connection database).containers other = state.containers other := by
  simp [setDatabase, Function.update_of_ne different]

omit [DecidableEq Id] [DecidableEq Connection] in
/-- Whether a database holds the skeleton depends on its containers only. -/
theorem holds_congr {state other : SkeletonState Connection Id} {connection : Connection}
    (same : other.containers connection = state.containers connection) :
    Holds (other.database connection) skeleton ↔ Holds (state.database connection) skeleton := by
  simp only [Holds, database, same]

/-- A subscription takes the skeleton out of no database. -/
theorem holds_setDatabase {state : SkeletonState Connection Id} (connection : Connection)
    {held : Connection} (holds : Holds (state.database held) skeleton) :
    Holds ((state.setDatabase connection
      (subscribeSkeleton (state.database connection) skeleton instanceId).2).database held)
        skeleton := by
  by_cases same : held = connection
  · subst same
    rw [setDatabase_database_self]
    cases accepted : accepts (state.database held) skeleton instanceId with
    | true => exact (subscribeSkeleton_accepted accepted).2.2.1
    | false =>
      rw [(subscribeSkeleton_refused accepted).2]
      exact holds
  · rw [holds_congr (setDatabase_containers_ne state same _)]
    exact holds

theorem subscribeAll_keeps {held : Connection} (listed : List (Option Connection))
    (ret : HRESULT) {state : SkeletonState Connection Id}
    (holds : Holds (state.database held) skeleton) :
    Holds ((subscribeAll skeleton instanceId listed ret state).2.2.database held) skeleton := by
  induction listed generalizing ret state with
  | nil => exact holds
  | cons head rest ih =>
    cases head with
    | none => exact ih ret holds
    | some connection =>
      simp only [subscribeAll]
      split
      · exact ih _ (holds_setDatabase connection holds)
      · exact holds_setDatabase connection holds

/-- The loop ends with all connections only if each of them holds the skeleton. -/
theorem subscribeAll_holds {listed : List (Option Connection)} {ret : HRESULT}
    {state : SkeletonState Connection Id}
    (all : (subscribeAll skeleton instanceId listed ret state).2.1 = true)
    {connection : Connection} (member : some connection ∈ listed) :
    Holds ((subscribeAll skeleton instanceId listed ret state).2.2.database connection)
      skeleton := by
  induction listed generalizing ret state with
  | nil => cases member
  | cons head rest ih =>
    cases head with
    | none =>
      rcases List.mem_cons.mp member with same | inRest
      · cases same
      · exact ih all inRest
    | some first =>
      simp only [subscribeAll] at all ⊢
      split at all
      · rename_i success
        rw [if_pos success]
        rcases List.mem_cons.mp member with same | inRest
        · cases same
          apply subscribeAll_keeps
          rw [setDatabase_database_self]
          cases accepted : accepts (state.database connection) skeleton instanceId with
          | true => exact (subscribeSkeleton_accepted accepted).2.2.1
          | false => exact absurd success (subscribeSkeleton_refused accepted).1
        · exact ih all inRest
      · cases all

/-- Once the skeleton has the instance id, what a connection answers does not depend on the
connections before it. -/
theorem subscribeAll_iff {listed : List (Option Connection)} {ret : HRESULT}
    {state : SkeletonState Connection Id}
    (named : setInstanceId state.transceivers skeleton instanceId = state.transceivers) :
    (subscribeAll skeleton instanceId listed ret state).2.1 = true ↔
      ∀ connection, some connection ∈ listed →
        accepts (state.database connection) skeleton instanceId = true := by
  induction listed generalizing ret state with
  | nil => simp [subscribeAll]
  | cons head rest ih =>
    cases head with
    | none =>
      simp only [subscribeAll, ih named, List.mem_cons]
      simp
    | some connection =>
      cases accepted : accepts (state.database connection) skeleton instanceId with
      | false =>
        have failed := (subscribeSkeleton_refused accepted).1
        simp only [subscribeAll, if_neg failed]
        constructor
        · intro impossible
          cases impossible
        · intro all
          rw [all connection List.mem_cons_self] at accepted
          cases accepted
      | true =>
        obtain ⟨success, transceivers, _, again⟩ := subscribeSkeleton_accepted accepted
        have next : (subscribeSkeleton (state.database connection) skeleton
            instanceId).2.transceivers = state.transceivers := by
          rw [transceivers]
          exact named
        simp only [subscribeAll, if_pos success]
        rw [ih (by rw [setDatabase_transceivers, next, named])]
        constructor
        · intro all other member
          by_cases same : other = connection
          · rw [same, accepted]
          · have inRest : some other ∈ rest := by
              rcases List.mem_cons.mp member with equal | inRest
              · exact absurd (Option.some.inj equal) same
              · exact inRest
            have answer := all other inRest
            rw [database, setDatabase_containers_ne _ same, setDatabase_transceivers,
              next] at answer
            exact answer
        · intro all other member
          by_cases same : other = connection
          · rw [same, setDatabase_database_self]
            exact again
          · rw [database, setDatabase_containers_ne _ same, setDatabase_transceivers, next]
            exact all other (List.mem_cons_of_mem _ member)

/-! ## The loop over the connections -/

/-- No connection refuses the skeleton: the first one searches for its old instance id, the
others for the new one. -/
def AllAccept (state : SkeletonState Connection Id) (skeleton : Id) (instanceId : UInt16) :
    List Connection → Prop
  | [] => True
  | first :: others =>
    accepts (state.database first) skeleton instanceId = true ∧
      ∀ connection ∈ others, connection ≠ first →
        accepts
          { state.database connection with
            transceivers := setInstanceId state.transceivers skeleton instanceId }
          skeleton instanceId = true

omit [DecidableEq Connection] in
def FirstRefuses (state : SkeletonState Connection Id) (skeleton : Id) (instanceId : UInt16) :
    List Connection → Prop
  | [] => False
  | first :: _ => accepts (state.database first) skeleton instanceId = false

theorem setInstanceId_idem (transceivers : Id → Transceiver) :
    setInstanceId (setInstanceId transceivers skeleton instanceId) skeleton instanceId =
      setInstanceId transceivers skeleton instanceId := by
  simp [setInstanceId, Transceiver.setInstanceId]

theorem subscribeAll_all_iff {listed : List (Option Connection)} (ret : HRESULT)
    {state : SkeletonState Connection Id} :
    (subscribeAll skeleton instanceId listed ret state).2.1 = true ↔
      AllAccept state skeleton instanceId listed.reduceOption := by
  induction listed with
  | nil => simp [subscribeAll, AllAccept]
  | cons head rest ih =>
    cases head with
    | none => exact ih
    | some first =>
      rw [List.reduceOption_cons_of_some, AllAccept]
      cases accepted : accepts (state.database first) skeleton instanceId with
      | false =>
        simp only [subscribeAll, if_neg (subscribeSkeleton_refused accepted).1,
          Bool.false_eq_true, false_and]
      | true =>
        obtain ⟨success, transceivers, _, again⟩ := subscribeSkeleton_accepted accepted
        have named : setInstanceId (state.setDatabase first
            (subscribeSkeleton (state.database first) skeleton instanceId).2).transceivers
              skeleton instanceId =
            (state.setDatabase first
              (subscribeSkeleton (state.database first) skeleton
                instanceId).2).transceivers := by
          rw [setDatabase_transceivers, transceivers]
          exact setInstanceId_idem _
        simp only [subscribeAll, if_pos success, subscribeAll_iff named, true_and,
          List.reduceOption_mem_iff]
        constructor
        · intro all connection member different
          have answer := all connection member
          rw [database, setDatabase_containers_ne _ different, setDatabase_transceivers,
            transceivers] at answer
          exact answer
        · intro all connection member
          by_cases same : connection = first
          · rw [same, setDatabase_database_self]
            exact again
          · rw [database, setDatabase_containers_ne _ same, setDatabase_transceivers,
              transceivers]
            exact all connection member same

/-- If the first connection refuses the skeleton, then only its instance id has changed. -/
theorem subscribeAll_firstRefuses {listed : List (Option Connection)} (ret : HRESULT)
    {state : SkeletonState Connection Id}
    (refuses : FirstRefuses state skeleton instanceId listed.reduceOption) :
    (subscribeAll skeleton instanceId listed ret state).2.1 = false ∧
      (subscribeAll skeleton instanceId listed ret state).2.2.containers = state.containers ∧
      (subscribeAll skeleton instanceId listed ret state).2.2.transceivers =
        setInstanceId state.transceivers skeleton INVALID_INSTANCE_ID := by
  induction listed with
  | nil => cases refuses
  | cons head rest ih =>
    cases head with
    | none => exact ih refuses
    | some first =>
      obtain ⟨failed, result⟩ := subscribeSkeleton_refused refuses
      simp only [subscribeAll, if_neg failed, result]
      refine ⟨trivial, ?_, rfl⟩
      exact Function.update_eq_self first state.containers

/-- A later refusal leaves the skeleton with the connections before it. -/
theorem subscribeAll_divided {listed : List (Option Connection)} {ret : HRESULT}
    {state : SkeletonState Connection Id}
    (failed : (subscribeAll skeleton instanceId listed ret state).2.1 = false)
    (later : ¬FirstRefuses state skeleton instanceId listed.reduceOption) :
    ∃ connection,
      Holds ((subscribeAll skeleton instanceId listed ret state).2.2.database connection)
        skeleton := by
  induction listed with
  | nil => cases failed
  | cons head rest ih =>
    cases head with
    | none => exact ih failed later
    | some first =>
      rw [List.reduceOption_cons_of_some, FirstRefuses, Bool.not_eq_false] at later
      obtain ⟨success, _, holds, _⟩ := subscribeSkeleton_accepted later
      refine ⟨first, ?_⟩
      simp only [subscribeAll, if_pos success]
      apply subscribeAll_keeps
      rw [setDatabase_database_self]
      exact holds

theorem subscribeAll_connections (listed : List (Option Connection)) (ret : HRESULT)
    (state : SkeletonState Connection Id) :
    (subscribeAll skeleton instanceId listed ret state).2.2.connections = state.connections := by
  induction listed generalizing ret state with
  | nil => rfl
  | cons head rest ih =>
    cases head with
    | none => exact ih ret state
    | some connection =>
      simp only [subscribeAll]
      split
      · exact ih _ _
      · rfl

end SkeletonState

end OpenBsw.Middleware
