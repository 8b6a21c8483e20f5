import OpenBsw.Middleware.Core.SkeletonBase

/-!
# All or nothing

A failed initialisation leaves the skeleton with the connections that took it
before the failure.  So it is all or nothing exactly when no connection refuses
the skeleton, or when nothing precedes the failure.  The connections are asked
after the skeleton has been taken out of the databases it was registered in.
-/

namespace OpenBsw.Middleware

open DbManipulator List
open DatabaseRun (Holds)

namespace SkeletonState

variable {Connection Id : Type} [DecidableEq Connection] [DecidableEq Id]
  {skeleton : Id} {instanceId : UInt16}

/-! ## Unsubscribed connections -/

omit [DecidableEq Connection] [DecidableEq Id] in
/-- No database holds the skeleton. -/
def Absent (state : SkeletonState Connection Id) (skeleton : Id) : Prop :=
  ∀ connection, ¬Holds (state.database connection) skeleton

omit [DecidableEq Connection] [DecidableEq Id] in
/-- Transceivers have left some containers, and only the skeleton's ids have changed. -/
structure Left (skeleton : Id) (state next : SkeletonState Connection Id) : Prop where
  containers : ∀ connection, List.Forall₂
    (fun entry old : TransceiverContainer Id => entry.container.Sublist old.container)
    (next.containers connection) (state.containers connection)
  transceivers : ∀ other, other ≠ skeleton → next.transceivers other = state.transceivers other

omit [DecidableEq Connection] [DecidableEq Id] in
theorem Left.refl (state : SkeletonState Connection Id) : Left skeleton state state where
  containers _ := forall₂_same.mpr fun _ _ => List.Sublist.refl _
  transceivers _ _ := rfl

omit [DecidableEq Connection] [DecidableEq Id] in
theorem Left.trans {state middle next : SkeletonState Connection Id}
    (first : Left skeleton state middle) (second : Left skeleton middle next) :
    Left skeleton state next where
  containers connection := by
    have firstPart := first.containers connection
    have secondPart := second.containers connection
    rw [forall₂_iff_get] at firstPart secondPart ⊢
    obtain ⟨firstLength, firstEach⟩ := firstPart
    obtain ⟨secondLength, secondEach⟩ := secondPart
    refine ⟨secondLength.trans firstLength, ?_⟩
    intro index inside outside
    exact (secondEach index inside (by omega)).trans (firstEach index (by omega) outside)
  transceivers other different :=
    (second.transceivers other different).trans (first.transceivers other different)

omit [DecidableEq Id] [DecidableEq Connection] in
theorem forall₂_set {containers : List (TransceiverContainer Id)} {index : Nat}
    {entry changed : TransceiverContainer Id} (inside : index < containers.length)
    (same : containers[index] = entry) (sublist : changed.container.Sublist entry.container) :
    List.Forall₂
      (fun entry old : TransceiverContainer Id => entry.container.Sublist old.container)
      (containers.set index changed) containers := by
  rw [forall₂_iff_get]
  refine ⟨length_set, ?_⟩
  intro position _ _
  rw [get_eq_getElem, get_eq_getElem, getElem_set]
  split
  · rename_i here
    subst here
    rw [same]
    exact sublist
  · exact List.Sublist.refl _

theorem left_unsubscribeOne (state : SkeletonState Connection Id) (connection : Connection) :
    Left skeleton state (state.setDatabase connection
      (DbManipulator.unsubscribe (state.database connection) skeleton
        (state.transceivers skeleton).serviceId)) := by
  simp only [DbManipulator.unsubscribe]
  split
  · simp only [setDatabase, database, Function.update_eq_self]
    exact Left.refl state
  · rename_i index entry found
    obtain ⟨inside, same, _⟩ := getTransceiversByServiceId_some found
    split
    · constructor
      · intro other
        by_cases here : other = connection
        · subst here
          simp only [setDatabase, Function.update_self]
          exact forall₂_set inside same (eraseIdx_sublist _ _)
        · rw [setDatabase_containers_ne _ here]
          exact forall₂_same.mpr fun _ _ => List.Sublist.refl _
      · intro other different
        exact DatabaseRun.setAddressId_of_ne different
    · simp only [setDatabase, database, Function.update_eq_self]
      exact Left.refl state

theorem left_unsubscribeFrom (listed : List (Option Connection))
    (state : SkeletonState Connection Id) :
    Left skeleton state (unsubscribeFrom skeleton listed state) := by
  induction listed generalizing state with
  | nil => exact Left.refl state
  | cons head rest ih =>
    cases head with
    | none => exact ih state
    | some connection => exact (left_unsubscribeOne state connection).trans (ih _)

omit [DecidableEq Connection] [DecidableEq Id] in
/-- The containers of all databases are sorted. -/
def AllInOrder (state : SkeletonState Connection Id) : Prop :=
  ∀ connection, ∀ entry ∈ state.containers connection,
    InOrder state.transceivers entry.container

omit [DecidableEq Connection] [DecidableEq Id] in
/-- What is left is sorted if the skeleton, whose ids may have changed, is gone. -/
theorem Left.allInOrder {state next : SkeletonState Connection Id}
    (left : Left skeleton state next) (absent : next.Absent skeleton)
    (ordered : state.AllInOrder) : next.AllInOrder := by
  intro connection entry member
  obtain ⟨index, inside, rfl⟩ := getElem_of_mem member
  obtain ⟨length, each⟩ := forall₂_iff_get.mp (left.containers connection)
  have outside : index < (state.containers connection).length := by omega
  have sublist := each index inside outside
  rw [get_eq_getElem, get_eq_getElem] at sublist
  have before : InOrder state.transceivers ((next.containers connection)[index]).container :=
    (ordered connection _ (getElem_mem outside)).sublist sublist
  refine List.Pairwise.imp_of_mem ?_ before
  intro first second firstIn secondIn le
  have kept : ∀ other ∈ ((next.containers connection)[index]).container,
      next.transceivers other = state.transceivers other := by
    intro other otherIn
    refine left.transceivers other ?_
    rintro rfl
    exact absent connection ⟨_, member, otherIn⟩
  rw [DatabaseRun.keyOf_congr (kept first firstIn), DatabaseRun.keyOf_congr (kept second secondIn)]
  exact le

variable {state : SkeletonState Connection Id} {dbRange : List (InstanceDatabase Connection)}
  {database : InstanceDatabase Connection} {connection : Connection}

/-! ## All or nothing -/

/-- The skeleton is registered over every connection and initialised, or the initialisation
fails, no database holds the skeleton, and the databases are still sorted. -/
def AllOrNothing (state : SkeletonState Connection Id) (skeleton : Id) (instanceId : UInt16)
    (dbRange : List (InstanceDatabase Connection)) : Prop :=
  let outcome := state.initFromInstancesDatabase skeleton instanceId dbRange
  (outcome.2.isInitialized = true ∧
      ∀ database, findInstance instanceId dbRange = some database →
        ∀ connection, some connection ∈ database.skeletonConnectionsRange →
          Holds (outcome.2.database connection) skeleton) ∨
    (outcome.1 ≠ .result .Ok ∧ outcome.2.isInitialized = false ∧ outcome.2.Absent skeleton ∧
      (state.AllInOrder → outcome.2.AllInOrder))

omit [DecidableEq Connection] [DecidableEq Id] in
/-- The database holds the skeleton where it belongs, in a sorted container. -/
structure RegisteredIn (database : Database Id) (skeleton : Id) : Prop where
  ordered : database.containers.Pairwise fun first second => first.serviceId < second.serviceId
  sorted : ∀ entry ∈ database.containers, skeleton ∈ entry.container →
    Sorted database.transceivers entry.container
  services : ∀ entry ∈ database.containers, skeleton ∈ entry.container →
    entry.serviceId = (database.transceivers skeleton).serviceId
  holds : Holds database skeleton

/-- The skeleton is registered over the connections it has.  It may be in other databases, too. -/
structure Registered (state : SkeletonState Connection Id) (skeleton : Id) : Prop where
  isSkeleton : (state.transceivers skeleton).isSkeleton = true
  held : ∀ connection, some connection ∈ state.connections →
    RegisteredIn (state.database connection) skeleton

/-- A container behind some unsubscriptions: the first one takes out the skeleton, and each
further one the transceiver that has got to its place. -/
def takenOutOf (skeleton : Id) (count : Nat) (entry : TransceiverContainer Id) :
    TransceiverContainer Id :=
  { entry with
    container := entry.container.take (entry.container.idxOf skeleton) ++
      entry.container.drop (entry.container.idxOf skeleton + count) }

def takenOut (skeleton : Id) (count : Nat) (containers : List (TransceiverContainer Id)) :
    List (TransceiverContainer Id) :=
  containers.map (takenOutOf skeleton count)

/-- The state with the skeleton taken out of the databases of its connections. -/
def withdrawn (state : SkeletonState Connection Id) (skeleton : Id) :
    SkeletonState Connection Id where
  containers connection :=
    takenOut skeleton (state.connections.count (some connection)) (state.containers connection)
  transceivers := state.transceivers
  connections := []

/-- Every database that holds the skeleton belongs to one of its connections. -/
def Confined (state : SkeletonState Connection Id) (skeleton : Id) : Prop :=
  ∀ connection, Holds (state.database connection) skeleton → some connection ∈ state.connections

/-- With the skeleton taken out of the databases of its connections, none of the new ones
refuses it; or the first one does or there is none, and no other database holds it. -/
def Undivided (state : SkeletonState Connection Id) (skeleton : Id) (instanceId : UInt16)
    (dbRange : List (InstanceDatabase Connection)) : Prop :=
  match findInstance instanceId dbRange with
  | none => state.Confined skeleton
  | some database =>
    AllAccept (state.withdrawn skeleton) skeleton instanceId
        database.skeletonConnectionsRange.reduceOption ∨
      (state.Confined skeleton ∧
        FirstRefuses (state.withdrawn skeleton) skeleton instanceId
          database.skeletonConnectionsRange.reduceOption)

omit [DecidableEq Connection] in
theorem takenOut_of_absent {containers : List (TransceiverContainer Id)}
    (absent : ∀ entry ∈ containers, skeleton ∉ entry.container) (count : Nat) :
    takenOut skeleton count containers = containers := by
  refine (map_congr_left fun entry member => ?_).trans containers.map_id
  rw [takenOutOf, idxOf_of_notMem (absent entry member), take_length,
    drop_eq_nil_of_le (Nat.le_add_right _ _), append_nil, id]

omit [DecidableEq Connection] in
theorem takenOut_zero (containers : List (TransceiverContainer Id)) :
    takenOut skeleton 0 containers = containers := by
  refine (map_congr_left fun entry _ => ?_).trans containers.map_id
  rw [takenOutOf, Nat.add_zero, take_append_drop, id]

omit [DecidableEq Connection] in
theorem takenOutOf_eq {entry : TransceiverContainer Id} {front back : List Id}
    (containerEq : entry.container = front ++ skeleton :: back) (notBefore : skeleton ∉ front)
    (count : Nat) :
    takenOutOf skeleton count entry =
      { entry with container := front ++ (skeleton :: back).drop count } := by
  have place : entry.container.idxOf skeleton = front.length := by
    rw [containerEq, idxOf_append_of_notMem notBefore, idxOf_cons_self, Nat.add_zero]
  rw [takenOutOf, place, containerEq, take_left, drop_length_add_append]

omit [DecidableEq Connection] in
/-- The end of the empty range is taken for a match. -/
theorem unsubscribe_of_split {before after : List (TransceiverContainer Id)}
    {entry : TransceiverContainer Id} {transceivers : Id → Transceiver} {serviceId : UInt16}
    {front middle back : List Id}
    (found : getTransceiversByServiceId (before ++ entry :: after) serviceId =
      some (before.length, entry))
    (isSkeleton : (transceivers skeleton).isSkeleton = true)
    (containerEq : entry.container = front ++ middle ++ back)
    (less : ∀ other ∈ front, keyOf transceivers other < keyOf transceivers skeleton)
    (place : middle = [] ∨ middle = [skeleton])
    (greater : ∀ other ∈ back, keyOf transceivers skeleton < keyOf transceivers other) :
    DbManipulator.unsubscribe { containers := before ++ entry :: after, transceivers } skeleton
        serviceId =
      { containers := before ++
          { entry with container := front ++ (middle ++ back).drop 1 } :: after
        transceivers } := by
  have range : equalRange transceivers entry.container (transceivers skeleton).ids =
      (front.length, front.length + middle.length) := by
    rw [containerEq]
    refine equalRange_append less ?_ greater
    rcases place with rfl | rfl <;> simp [keyOf]
  have slice : (entry.container.take (front.length + middle.length)).drop front.length =
      middle := by
    rw [containerEq, append_assoc, take_length_add_append, drop_left, take_left]
  have first : (middle.findIdx fun other => (transceivers other).getAddressId =
      (transceivers skeleton).getAddressId) = 0 := by
    rcases place with rfl | rfl <;> simp
  have unchanged : setAddressId transceivers skeleton INVALID_ADDRESS_ID = transceivers := by
    simp only [setAddressId, Transceiver.setAddressId, if_pos isSkeleton,
      Function.update_eq_self]
  rw [append_assoc] at containerEq
  have erased : entry.container.eraseIdx front.length = front ++ (middle ++ back).drop 1 := by
    rw [containerEq, eraseIdx_append_of_length_le (Nat.le_refl _), Nat.sub_self, drop_one,
      eraseIdx_zero]
  simp only [DbManipulator.unsubscribe, found, range, slice, first, Nat.add_zero, erased, unchanged]
  split
  · rw [set_append_right _ _ (Nat.le_refl _), Nat.sub_self, set_cons_zero]
  · rename_i atEnd
    have nothing : middle ++ back = [] := by
      rw [containerEq, length_append] at atEnd
      exact eq_nil_of_length_eq_zero (by omega)
    rw [nothing, drop_nil, append_nil]
    rw [nothing, append_nil] at containerEq
    rw [← containerEq]

omit [DecidableEq Connection] in
/-- One more unsubscription from a database that held the skeleton. -/
theorem unsubscribe_takenOut {database : Database Id}
    (isSkeleton : (database.transceivers skeleton).isSkeleton = true)
    (registered : RegisteredIn database skeleton) (count : Nat) :
    DbManipulator.unsubscribe
        { database with containers := takenOut skeleton count database.containers } skeleton
        (database.transceivers skeleton).serviceId =
      { database with containers := takenOut skeleton (count + 1) database.containers } := by
  obtain ⟨containers, transceivers⟩ := database
  obtain ⟨ordered, sorted, services, holder, holderIn, inside⟩ := registered
  have service := services holder holderIn inside
  have orderedNow : (takenOut skeleton count containers).Pairwise
      fun first second => first.serviceId < second.serviceId := pairwise_map.mpr ordered
  rcases getTransceiversByServiceId_cases orderedNow (transceivers skeleton).serviceId with
    ⟨_, absent⟩ | ⟨before, entry, after, parts, entryService, found⟩
  · exact absurd service (absent (takenOutOf skeleton count holder) (mem_map_of_mem holderIn))
  obtain ⟨earlier, further, rfl, rfl, rest⟩ := map_eq_append_iff.mp parts
  obtain ⟨old, later, rfl, rfl, rfl⟩ := map_eq_cons_iff.mp rest
  rw [parts] at found
  rw [pairwise_append, pairwise_cons] at ordered
  obtain ⟨_, ⟨behind, _⟩, front⟩ := ordered
  -- the services of the other containers are different ones
  have others : ∀ other ∈ earlier ++ later, skeleton ∉ other.container := by
    intro other member held
    have same : other.serviceId = old.serviceId := by
      refine (services other ?_ held).trans entryService.symm
      simp only [mem_append, mem_cons] at member ⊢
      tauto
    rcases mem_append.mp member with before | after
    · have less := front other before old mem_cons_self
      rw [same] at less
      exact UInt16.lt_irrefl _ less
    · have less := behind other after
      rw [same] at less
      exact UInt16.lt_irrefl _ less
  have oldHolds : skeleton ∈ old.container := by
    by_contra outside
    simp only [mem_append, mem_cons] at holderIn
    rcases holderIn with before | rfl | after
    · exact others holder (by simp [before]) inside
    · exact outside inside
    · exact others holder (by simp [after]) inside
  obtain ⟨front, back, containerEq, less, greater⟩ :=
    (sorted old (by simp) oldHolds).split oldHolds
  have notBefore : skeleton ∉ front := fun member => Nat.lt_irrefl _ (less skeleton member)
  have kept (list : List (TransceiverContainer Id)) (part : list ⊆ earlier ++ later) (n : Nat) :
      list.map (takenOutOf skeleton n) = list :=
    takenOut_of_absent (fun other member => others other (part member)) n
  have place : ∃ middle rest, (skeleton :: back).drop count = middle ++ rest ∧
      (middle = [] ∨ middle = [skeleton]) ∧
        ∀ other ∈ rest, keyOf transceivers skeleton < keyOf transceivers other := by
    cases count with
    | zero => exact ⟨[skeleton], back, rfl, .inr rfl, greater⟩
    | succ count =>
      exact ⟨[], back.drop count, rfl, .inl rfl,
        fun other member => greater other (mem_of_mem_drop member)⟩
  obtain ⟨middle, rest, dropEq, isPlace, above⟩ := place
  have next : (middle ++ rest).drop 1 = (skeleton :: back).drop (count + 1) := by
    rw [← dropEq, drop_drop]
  have now := takenOutOf_eq containerEq notBefore count
  rw [dropEq, ← append_assoc] at now
  simp only [takenOut, map_append, map_cons]
  rw [unsubscribe_of_split found isSkeleton (by rw [now]) less isPlace above, next, now,
    takenOutOf_eq containerEq notBefore, kept earlier (subset_append_left _ _),
    kept later (subset_append_right _ _), kept earlier (subset_append_left _ _),
    kept later (subset_append_right _ _)]

/-- The containers behind further unsubscriptions. -/
theorem unsubscribeFrom_eq (listed : List (Option Connection))
    (state : SkeletonState Connection Id)
    (isSkeleton : (state.transceivers skeleton).isSkeleton = true)
    (held : ∀ connection, some connection ∈ listed →
      RegisteredIn (state.database connection) skeleton) (counts : Connection → Nat) :
    unsubscribeFrom skeleton listed
        { state with
          containers := fun connection =>
            takenOut skeleton (counts connection) (state.containers connection) } =
      { state with
        containers := fun connection =>
          takenOut skeleton (counts connection + listed.count (some connection))
            (state.containers connection) } := by
  induction listed generalizing counts with
  | nil => rfl
  | cons head rest ih =>
    have further := ih fun connection member => held connection (mem_cons_of_mem _ member)
    cases head with
    | none =>
      rw [unsubscribeFrom, further]
      simp only [count_cons, beq_iff_eq, reduceCtorEq, if_false, Nat.add_zero]
    | some connection =>
      have removed : DbManipulator.unsubscribe
          { state.database connection with
            containers := takenOut skeleton (counts connection) (state.containers connection) }
          skeleton (state.transceivers skeleton).serviceId = _ :=
        unsubscribe_takenOut isSkeleton (held connection mem_cons_self) (counts connection)
      have stored : setDatabase
          { state with
            containers := fun connection =>
              takenOut skeleton (counts connection) (state.containers connection) } connection
          { state.database connection with
            containers :=
              takenOut skeleton (counts connection + 1) (state.containers connection) } =
          { state with
            containers := fun other =>
              takenOut skeleton (Function.update counts connection (counts connection + 1) other)
                (state.containers other) } := by
        simp only [setDatabase, database]
        congr 1
        funext other
        by_cases same : other = connection
        · subst same
          simp only [Function.update_self]
        · simp only [Function.update_of_ne same]
      rw [unsubscribeFrom]
      refine (congrArg (unsubscribeFrom skeleton rest) ((congrArg _ removed).trans stored)).trans ?_
      rw [further]
      congr 1
      funext other
      by_cases same : other = connection
      · subst same
        rw [Function.update_self, count_cons_self]
        congr 1
        omega
      · rw [Function.update_of_ne same, count_cons_of_ne]
        exact fun equal => same (Option.some.inj equal).symm

theorem unsubscribe_eq (registered : state.Registered skeleton) :
    state.unsubscribe skeleton = state.withdrawn skeleton := by
  have unsubscribed := unsubscribeFrom_eq state.connections state registered.isSkeleton
    registered.held fun _ => 0
  simp only [takenOut_zero, Nat.zero_add] at unsubscribed
  rw [unsubscribe, unsubscribed]
  rfl

/-- Without its connections a skeleton is gone exactly where no other database held it. -/
theorem absent_unsubscribe_iff (registered : state.Registered skeleton) :
    (state.unsubscribe skeleton).Absent skeleton ↔ state.Confined skeleton := by
  rw [unsubscribe_eq registered]
  refine forall_congr' fun connection => ?_
  by_cases listed : some connection ∈ state.connections
  · refine iff_of_true ?_ fun _ => listed
    rintro ⟨entry, member, inside⟩
    simp only [database, withdrawn, takenOut, mem_map] at member
    obtain ⟨old, oldIn, rfl⟩ := member
    by_cases oldHolds : skeleton ∈ old.container
    · obtain ⟨front, back, containerEq, less, greater⟩ :=
        ((registered.held connection listed).sorted old oldIn oldHolds).split oldHolds
      have notBefore : skeleton ∉ front := fun member => Nat.lt_irrefl _ (less skeleton member)
      obtain ⟨further, countEq⟩ :=
        Nat.exists_eq_succ_of_ne_zero (Nat.ne_of_gt (count_pos_iff.mpr listed))
      rw [takenOutOf_eq containerEq notBefore, countEq, drop_succ_cons] at inside
      rcases mem_append.mp inside with before | behind
      · exact notBefore before
      · exact Nat.lt_irrefl _ (greater skeleton (mem_of_mem_drop behind))
    · rcases mem_append.mp inside with before | behind
      · exact oldHolds (mem_of_mem_take before)
      · exact oldHolds (mem_of_mem_drop behind)
  · simp only [Holds, database, withdrawn, count_eq_zero_of_not_mem listed, takenOut_zero]
    exact ⟨fun absent held => absurd held absent, fun confined held => listed (confined held)⟩

theorem left_unsubscribe (state : SkeletonState Connection Id) :
    Left skeleton state (state.unsubscribe skeleton) where
  containers := (left_unsubscribeFrom state.connections state).containers
  transceivers := (left_unsubscribeFrom state.connections state).transceivers

omit [DecidableEq Connection] [DecidableEq Id] in
theorem findInstance_connections {instanceId : UInt16}
    (found : findInstance instanceId dbRange = some database) :
    database.skeletonConnectionsRange.isEmpty = false := by
  have test := List.find?_some found
  simp only [Bool.and_eq_true, Bool.not_eq_true'] at test
  exact test.2

/-- The database of the instance is found and all its connections take the skeleton. -/
theorem init_registered (found : findInstance instanceId dbRange = some database)
    (all : AllAccept (state.unsubscribe skeleton) skeleton instanceId
      database.skeletonConnectionsRange.reduceOption) :
    (state.initFromInstancesDatabase skeleton instanceId dbRange).2 =
      { (subscribeAll skeleton instanceId database.skeletonConnectionsRange
          .TransceiverInitializationFailed (state.unsubscribe skeleton)).2.2 with
        connections := database.skeletonConnectionsRange } := by
  have loop := (subscribeAll_all_iff .TransceiverInitializationFailed).mpr all
  simp only [initFromInstancesDatabase, found, loop, if_true]

/-- What the unsubscription makes of a state in which no connection was kept. -/
def abandoned (skeleton : Id) (state : SkeletonState Connection Id) :
    SkeletonState Connection Id :=
  { state with
    transceivers := setInstanceId state.transceivers skeleton INVALID_INSTANCE_ID
    connections := [] }

/-- A connection refuses the skeleton, and the unsubscription finds no connection to undo. -/
theorem init_failed (found : findInstance instanceId dbRange = some database)
    (refused : ¬AllAccept (state.unsubscribe skeleton) skeleton instanceId
      database.skeletonConnectionsRange.reduceOption) :
    (subscribeAll skeleton instanceId database.skeletonConnectionsRange
        .TransceiverInitializationFailed (state.unsubscribe skeleton)).2.1 = false ∧
      state.initFromInstancesDatabase skeleton instanceId dbRange =
        (.result .TransceiverInitializationFailed,
          abandoned skeleton (subscribeAll skeleton instanceId database.skeletonConnectionsRange
            .TransceiverInitializationFailed (state.unsubscribe skeleton)).2.2) := by
  have loop : (subscribeAll skeleton instanceId database.skeletonConnectionsRange
      .TransceiverInitializationFailed (state.unsubscribe skeleton)).2.1 = false :=
    Bool.eq_false_iff.mpr fun all => refused ((subscribeAll_all_iff _).mp all)
  have none : (subscribeAll skeleton instanceId database.skeletonConnectionsRange
      .TransceiverInitializationFailed (state.unsubscribe skeleton)).2.2.connections = [] :=
    subscribeAll_connections _ _ _
  refine ⟨loop, ?_⟩
  simp only [initFromInstancesDatabase, found, loop, Bool.false_eq_true, if_false]
  rw [unsubscribe, none]
  rfl

/-- When the first connection refuses the skeleton, nothing is left of the loop. -/
theorem abandoned_of_firstRefuses {listed : List (Option Connection)} (result : HRESULT)
    (refuses : FirstRefuses (state.unsubscribe skeleton) skeleton instanceId listed.reduceOption)
    (absent : (state.unsubscribe skeleton).Absent skeleton) :
    (abandoned skeleton
        (subscribeAll skeleton instanceId listed result (state.unsubscribe skeleton)).2.2).Absent
      skeleton ∧
      Left skeleton state (abandoned skeleton
        (subscribeAll skeleton instanceId listed result (state.unsubscribe skeleton)).2.2) := by
  obtain ⟨_, containers, transceivers⟩ := subscribeAll_firstRefuses result refuses
  constructor
  · intro connection held
    refine absent connection ((holds_congr ?_).mp held)
    exact congrFun containers connection
  · refine (left_unsubscribe state).trans ⟨?_, ?_⟩
    · intro connection
      simp only [abandoned, containers]
      exact forall₂_same.mpr fun _ _ => List.Sublist.refl _
    · intro other different
      simp only [abandoned, transceivers]
      rw [DatabaseRun.setInstanceId_of_ne different, DatabaseRun.setInstanceId_of_ne different]

/-- The initialisation is all or nothing exactly if it is undivided. -/
theorem allOrNothing_iff (registered : state.Registered skeleton) (instanceId : UInt16)
    (dbRange : List (InstanceDatabase Connection)) :
    state.AllOrNothing skeleton instanceId dbRange ↔
      state.Undivided skeleton instanceId dbRange := by
  rw [AllOrNothing, Undivided, ← absent_unsubscribe_iff registered,
    ← unsubscribe_eq registered]
  cases found : findInstance instanceId dbRange with
  | none =>
    simp only [initFromInstancesDatabase, found]
    constructor
    · rintro (⟨initialized, _⟩ | ⟨_, _, absent, _⟩)
      · cases initialized
      · exact absent
    · intro absent
      exact .inr ⟨by simp, rfl, absent, (left_unsubscribe state).allInOrder absent⟩
  | some database =>
    by_cases all : AllAccept (state.unsubscribe skeleton) skeleton instanceId
        database.skeletonConnectionsRange.reduceOption
    · refine iff_of_true (.inl ?_) (.inl all)
      rw [init_registered found all]
      constructor
      · simp only [isInitialized, findInstance_connections found, Bool.not_false]
      · intro other same connection member
        cases same
        exact subscribeAll_holds ((subscribeAll_all_iff _).mpr all) member
    · obtain ⟨loop, outcome⟩ := init_failed found all
      rw [outcome]
      constructor
      · rintro (⟨initialized, _⟩ | ⟨_, _, absent, _⟩)
        · cases initialized
        · by_cases refuses : FirstRefuses (state.unsubscribe skeleton) skeleton instanceId
              database.skeletonConnectionsRange.reduceOption
          · refine .inr ⟨?_, refuses⟩
            intro connection held
            refine absent connection ((holds_congr ?_).mpr held)
            exact congrFun (subscribeAll_firstRefuses _ refuses).2.1 connection
          · obtain ⟨connection, holds⟩ := subscribeAll_divided loop refuses
            exact absurd holds (absent connection)
      · rintro (accepted | ⟨absent, refuses⟩)
        · exact absurd accepted all
        · obtain ⟨gone, left⟩ :=
            abandoned_of_firstRefuses .TransceiverInitializationFailed refuses absent
          exact .inr ⟨by simp, rfl, gone, left.allInOrder gone⟩

/-- A skeleton that is registered over the first of two connections. -/
def registeredState : SkeletonState Nat Nat where
  containers connection := if connection = 0 then [⟨[0, 2], 2, 16, 0⟩] else [⟨[1], 2, 16, 0⟩]
  transceivers id :=
    { isSkeleton := true
      serviceId := 16
      instanceId := if id = 0 then 7 else if id = 1 then 3 else 9 }
  connections := [none, some 0]

/-- It is registered over both under another instance id. -/
theorem allOrNothing_iff_registeredState :
    registeredState.AllOrNothing 0 5 [⟨[5], [some 0, none, some 1]⟩] := by
  refine (allOrNothing_iff ⟨rfl, ?_⟩ 5 _).mpr (.inl ?_)
  · intro connection member
    obtain rfl : connection = 0 := by simpa [registeredState] using member
    exact ⟨by decide, by unfold Sorted; decide, by decide, ⟨_, mem_singleton_self _, by decide⟩⟩
  · exact ⟨by decide, by decide⟩

/-- Two databases: with room next to a skeleton, and full. -/
def sampleState : SkeletonState Nat Nat where
  containers connection := if connection = 0 then [⟨[2], 2, 16, 0⟩] else [⟨[1], 1, 16, 0⟩]
  transceivers id :=
    { isSkeleton := true
      serviceId := 16
      instanceId := if id = 1 then 3 else if id = 2 then 9 else INVALID_INSTANCE_ID }
  connections := []

def sampleRange : List (InstanceDatabase Nat) :=
  [⟨[7], [some 0, none, some 1]⟩]

/-- The second connection refuses the skeleton and the first one keeps it, under an id that does
not belong there. -/
theorem not_allOrNothing :
    ¬sampleState.AllOrNothing 0 7 sampleRange ∧
      ¬(sampleState.initFromInstancesDatabase 0 7 sampleRange).2.AllInOrder := by
  constructor
  · rintro (⟨initialized, _⟩ | ⟨_, _, absent, _⟩)
    · exact absurd initialized (by decide)
    · exact absent 0 ⟨⟨[0, 2], 2, 16, 0⟩, by decide, by decide⟩
  · intro ordered
    have unordered := ordered 0 ⟨[0, 2], 2, 16, 0⟩ (by decide)
    rw [InOrder] at unordered
    exact absurd unordered (by decide)

end SkeletonState

end OpenBsw.Middleware
