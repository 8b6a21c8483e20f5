import OpenBsw.Middleware.Core.SortedContainers
import OpenBsw.Transition.System

/-!
# Histories of the transceiver database

A ledger records which transceivers are registered: a successful subscription
enters a transceiver, unsubscribing it from its service strikes it out.  The
database agrees with the ledger in every history whose calls never find another
transceiver under the ids of the one they are made for.
-/

namespace OpenBsw.Middleware

open DbManipulator List

inductive DatabaseCall (Id : Type)
  | subscribe (transceiver : Id) (instanceId : UInt16)
  | unsubscribe (transceiver : Id) (serviceId : UInt16)

def DatabaseCall.transceiver {Id : Type} : DatabaseCall Id → Id
  | .subscribe transceiver _ | .unsubscribe transceiver _ => transceiver

structure DatabaseRun (Id : Type) where
  database : Database Id
  registered : List Id

namespace DatabaseRun

variable {Id : Type} [DecidableEq Id]

/-- `subscribe`, overloaded for proxies and skeletons. -/
def subscribe (database : Database Id) (transceiver : Id) (instanceId : UInt16) :
    HRESULT × Database Id :=
  if (database.transceivers transceiver).isSkeleton then
    subscribeSkeleton database transceiver instanceId
  else subscribeProxy database transceiver instanceId

def apply (run : DatabaseRun Id) : DatabaseCall Id → DatabaseRun Id
  | .subscribe transceiver instanceId =>
    let result := subscribe run.database transceiver instanceId
    { database := result.2
      registered :=
        if result.1 = .Ok ∨ result.1 = .InstanceAlreadyRegistered then
          transceiver :: run.registered
        else run.registered }
  | .unsubscribe transceiver serviceId =>
    { database := unsubscribe run.database transceiver serviceId
      registered :=
        if (run.database.transceivers transceiver).serviceId = serviceId then
          run.registered.filter fun other => other ≠ transceiver
        else run.registered }

/-- Empty containers sorted by their service ids, and new transceivers. -/
structure Initial (run : DatabaseRun Id) : Prop where
  ordered : run.database.containers.Pairwise fun first second => first.serviceId < second.serviceId
  empty : ∀ entry ∈ run.database.containers, entry.container = []
  fresh : ∀ transceiver, (run.database.transceivers transceiver).instanceId = INVALID_INSTANCE_ID ∧
    (run.database.transceivers transceiver).addressId = INVALID_ADDRESS_ID
  unregistered : run.registered = []

def system (Id : Type) [DecidableEq Id] : Transition.System (DatabaseRun Id) (DatabaseCall Id) where
  Initial := Initial
  Step source call target := target = source.apply call

/-! ## Condition -/

omit [DecidableEq Id] in
/-- A transceiver of the instance has the number as its address id. -/
def UsesAddress (transceivers : Id → Transceiver) (entry : TransceiverContainer Id)
    (instanceId : UInt16) (number : Nat) : Prop :=
  ∃ other ∈ entry.container, (transceivers other).instanceId = instanceId ∧
    (transceivers other).getAddressId.toNat = number

omit [DecidableEq Id] in
/-- The first number from the counter on that no transceiver of the instance
uses leaves, in eight bits, a valid address id that is not used either. -/
def AddressLeft (transceivers : Id → Transceiver) (entry : TransceiverContainer Id)
    (instanceId : UInt16) : Prop :=
  ∃ number, entry.actualAddress.toNat ≤ number ∧
    (∀ smaller, entry.actualAddress.toNat ≤ smaller → smaller < number →
      UsesAddress transceivers entry instanceId smaller) ∧
    ¬UsesAddress transceivers entry instanceId number ∧
    ¬UsesAddress transceivers entry instanceId (number % 256) ∧
    number % 256 ≠ 255

omit [DecidableEq Id] in
/-- The call meets no other transceiver under the ids it searches or assigns. -/
def Undisturbed (run : DatabaseRun Id) : DatabaseCall Id → Prop
  | .subscribe transceiver instanceId =>
    ∀ entry ∈ run.database.containers,
      entry.serviceId = (run.database.transceivers transceiver).serviceId →
      (transceiver ∈ entry.container → ∀ other ∈ entry.container, other ≠ transceiver →
        (run.database.transceivers other).ids ≠
          (instanceId, (run.database.transceivers transceiver).getAddressId)) ∧
      (transceiver ∉ entry.container →
        (∀ other ∈ entry.container, (run.database.transceivers other).ids ≠
          (run.database.transceivers transceiver).ids) ∧
        ((run.database.transceivers transceiver).isSkeleton = false →
          entry.container.length ≠ entry.capacity →
          AddressLeft run.database.transceivers entry instanceId))
  | .unsubscribe transceiver serviceId =>
    ∀ entry ∈ run.database.containers, entry.serviceId = serviceId →
      transceiver ∉ entry.container →
      ∀ other ∈ entry.container,
        transceiverComparator (run.database.transceivers other).ids
          (run.database.transceivers transceiver).ids = true

/-! ## Invariant -/

omit [DecidableEq Id] in
/-- The containers are in order, and valid address ids are what proxies have. -/
structure Good (database : Database Id) : Prop where
  ordered : database.containers.Pairwise fun first second => first.serviceId < second.serviceId
  sorted : ∀ entry ∈ database.containers, Sorted database.transceivers entry.container
  services : ∀ entry ∈ database.containers, ∀ transceiver ∈ entry.container,
    (database.transceivers transceiver).serviceId = entry.serviceId
  addresses : ∀ entry ∈ database.containers, ∀ transceiver ∈ entry.container,
    (database.transceivers transceiver).isSkeleton = false →
      (database.transceivers transceiver).addressId ≠ INVALID_ADDRESS_ID

omit [DecidableEq Id] in
/-- The transceiver is in a container. -/
def Holds (database : Database Id) (transceiver : Id) : Prop :=
  ∃ entry ∈ database.containers, transceiver ∈ entry.container

/-- The database agrees with the ledger. -/
structure Agrees (run : DatabaseRun Id) : Prop where
  good : Good run.database
  registered_iff : ∀ transceiver, transceiver ∈ run.registered ↔ Holds run.database transceiver

variable {transceivers changed : Id → Transceiver} {transceiver : Id}
  {before after : List (TransceiverContainer Id)} {entry : TransceiverContainer Id}

variable {database : Database Id} {other : Id} {front back : List Id} {registered : List Id}

omit [DecidableEq Id] in
theorem keyOf_congr (same : changed other = transceivers other) :
    keyOf changed other = keyOf transceivers other := by
  rw [keyOf, keyOf, same]

omit [DecidableEq Id] in
theorem sorted_congr {container : List Id} (sorted : Sorted transceivers container)
    (same : ∀ other ∈ container, changed other = transceivers other) :
    Sorted changed container := by
  refine List.Pairwise.imp_of_mem ?_ sorted
  intro first second firstIn secondIn less
  rw [keyOf_congr (same first firstIn), keyOf_congr (same second secondIn)]
  exact less

omit [DecidableEq Id] in
/-- The containers of other services do not hold the transceiver. -/
theorem Good.absent (good : Good { containers := before ++ entry :: after, transceivers })
    (service : (transceivers transceiver).serviceId = entry.serviceId) :
    ∀ other ∈ before ++ after, transceiver ∉ other.container := by
  intro other member inside
  have pairs := good.ordered
  simp only [pairwise_append, pairwise_cons] at pairs
  rcases mem_append.mp member with inBefore | inAfter
  · have less := pairs.2.2 other inBefore entry mem_cons_self
    rw [← service, good.services other (by simp [inBefore]) transceiver inside] at less
    exact UInt16.lt_irrefl _ less
  · have less := pairs.2.1.1 other inAfter
    rw [← service, good.services other (by simp [inAfter]) transceiver inside] at less
    exact UInt16.lt_irrefl _ less

omit [DecidableEq Id] in
/-- One container changes, and with it the ids of one transceiver that no other
container holds. -/
theorem Good.replace (good : Good { containers := before ++ entry :: after, transceivers })
    (same : ∀ other, other ≠ transceiver → changed other = transceivers other)
    (absent : ∀ other ∈ before ++ after, transceiver ∉ other.container)
    {target : TransceiverContainer Id} (serviceId : target.serviceId = entry.serviceId)
    (sorted : Sorted changed target.container)
    (services : ∀ other ∈ target.container, (changed other).serviceId = entry.serviceId)
    (addresses : ∀ other ∈ target.container, (changed other).isSkeleton = false →
      (changed other).addressId ≠ INVALID_ADDRESS_ID) :
    Good { containers := before ++ target :: after, transceivers := changed } := by
  have kept : ∀ other ∈ before ++ after, ∀ inside ∈ other.container,
      changed inside = transceivers inside := by
    intro other member inside insideIn
    refine same inside ?_
    rintro rfl
    exact absent other member insideIn
  have others : ∀ other ∈ before ++ target :: after, other = target ∨
      other ∈ before ++ after ∧ other ∈ before ++ entry :: after := by
    intro other member
    simp only [mem_append, mem_cons] at member ⊢
    tauto
  refine ⟨?_, ?_, ?_, ?_⟩
  · have pairs := good.ordered
    simp only [pairwise_append, pairwise_cons, forall_mem_cons] at pairs ⊢
    rw [serviceId]
    exact pairs
  · intro other member
    rcases others other member with rfl | ⟨outside, old⟩
    · exact sorted
    · exact sorted_congr (good.sorted other old) (kept other outside)
  · intro other member inside insideIn
    rcases others other member with rfl | ⟨outside, old⟩
    · rw [serviceId]
      exact services inside insideIn
    · change (changed inside).serviceId = _
      rw [kept other outside inside insideIn]
      exact good.services other old inside insideIn
  · intro other member inside insideIn
    rcases others other member with rfl | ⟨outside, old⟩
    · exact addresses inside insideIn
    · change (changed inside).isSkeleton = false → (changed inside).addressId ≠ _
      rw [kept other outside inside insideIn]
      exact good.addresses other old inside insideIn

omit [DecidableEq Id] in
/-- Ids of a transceiver that is in no container may change. -/
theorem Good.touch (good : Good database) (absent : ¬Holds database transceiver)
    (same : ∀ other, other ≠ transceiver → changed other = database.transceivers other) :
    Good { database with transceivers := changed } := by
  have kept : ∀ entry ∈ database.containers, ∀ inside ∈ entry.container,
      changed inside = database.transceivers inside := by
    intro entry member inside insideIn
    refine same inside ?_
    rintro rfl
    exact absent ⟨entry, member, insideIn⟩
  refine ⟨good.ordered, ?_, ?_, ?_⟩
  · exact fun entry member => sorted_congr (good.sorted entry member) (kept entry member)
  · intro entry member inside insideIn
    change (changed inside).serviceId = _
    rw [kept entry member inside insideIn]
    exact good.services entry member inside insideIn
  · intro entry member inside insideIn
    change (changed inside).isSkeleton = false → (changed inside).addressId ≠ _
    rw [kept entry member inside insideIn]
    exact good.addresses entry member inside insideIn

omit [DecidableEq Id] in
theorem holds_iff :
    Holds { containers := before ++ entry :: after, transceivers } other ↔
      (∃ outside ∈ before ++ after, other ∈ outside.container) ∨ other ∈ entry.container := by
  simp only [Holds, mem_append, mem_cons, or_and_right, exists_or, exists_eq_left]
  rw [or_left_comm, or_comm (a := other ∈ entry.container)]

omit [DecidableEq Id] in
/-- A transceiver enters its container under ids that no other one has. -/
theorem Good.enter (good : Good { containers := before ++ entry :: after, transceivers })
    (service : (transceivers transceiver).serviceId = entry.serviceId)
    (same : ∀ other, other ≠ transceiver → changed other = transceivers other)
    (sameService : (changed transceiver).serviceId = (transceivers transceiver).serviceId)
    {rest : List Id} (sublist : rest.Sublist entry.container) (absent : transceiver ∉ rest)
    (keeps : ∀ other ∈ entry.container, other = transceiver ∨ other ∈ rest)
    (unused : ∀ other ∈ rest, (transceivers other).ids ≠ (changed transceiver).ids)
    (address : (changed transceiver).isSkeleton = false →
      (changed transceiver).addressId ≠ INVALID_ADDRESS_ID) (actualAddress : UInt16) :
    Good
        { containers := before ++
            { entry with container := sort changed (rest ++ [transceiver]), actualAddress } :: after
          transceivers := changed } ∧
      ∀ other, Holds
          { containers := before ++
              { entry with container := sort changed (rest ++ [transceiver]), actualAddress } ::
                after
            transceivers := changed } other ↔
        other = transceiver ∨
          Holds { containers := before ++ entry :: after, transceivers } other := by
  have outside := good.absent service
  have entryIn : entry ∈ before ++ entry :: after := by simp
  have keptRest : ∀ other ∈ rest, changed other = transceivers other := by
    intro other member
    refine same other ?_
    rintro rfl
    exact absent member
  have mem_iff : ∀ other, other ∈ sort changed (rest ++ [transceiver]) ↔
      other ∈ rest ∨ other = transceiver := by
    intro other
    rw [(sort_perm _ _).mem_iff, mem_append, mem_singleton]
  constructor
  · refine good.replace same outside rfl ?_ ?_ ?_
    · refine sorted_sort ?_
      have sortedRest : Sorted changed rest :=
        sorted_congr ((good.sorted entry entryIn).sublist sublist) keptRest
      rw [map_append, nodup_append]
      refine ⟨pairwise_map.mpr (sortedRest.imp fun less => Nat.ne_of_lt less), by simp, ?_⟩
      intro key inRest other last
      obtain ⟨member, memberIn, rfl⟩ := mem_map.mp inRest
      rw [map_singleton, mem_singleton] at last
      rw [last]
      intro equal
      rw [keyOf_congr (keptRest member memberIn)] at equal
      exact unused member memberIn (pairKey_inj.mp equal)
    · intro other member
      rcases (mem_iff other).mp member with inRest | rfl
      · rw [keptRest other inRest]
        exact good.services entry entryIn other (sublist.mem inRest)
      · rw [sameService, service]
    · intro other member
      rcases (mem_iff other).mp member with inRest | rfl
      · rw [keptRest other inRest]
        exact good.addresses entry entryIn other (sublist.mem inRest)
      · exact address
  · intro other
    have inEntry : other ∈ rest ∨ other = transceiver ↔
        other = transceiver ∨ other ∈ entry.container := by
      constructor
      · rintro (inRest | rfl)
        · exact .inr (sublist.mem inRest)
        · exact .inl rfl
      · rintro (rfl | inside)
        · exact .inr rfl
        · exact (keeps other inside).symm
    rw [holds_iff, holds_iff, mem_iff, inEntry]
    exact or_left_comm

omit [DecidableEq Id] in
/-- A transceiver leaves its container. -/
theorem Good.leave (good : Good { containers := before ++ entry :: after, transceivers })
    (changed : Id → Transceiver)
    (same : ∀ other, other ≠ transceiver → changed other = transceivers other)
    (containerEq : entry.container = front ++ transceiver :: back) :
    Good
        { containers := before ++ { entry with container := front ++ back } :: after
          transceivers := changed } ∧
      ∀ other, Holds
          { containers := before ++ { entry with container := front ++ back } :: after
            transceivers := changed } other ↔
        other ≠ transceiver ∧
          Holds { containers := before ++ entry :: after, transceivers } other := by
  have entryIn : entry ∈ before ++ entry :: after := by simp
  have inside : transceiver ∈ entry.container := by simp [containerEq]
  have outside := good.absent (good.services entry entryIn transceiver inside)
  have sublist : (front ++ back).Sublist entry.container := by
    rw [containerEq]
    exact (sublist_cons_self _ _).append_left front
  have absent : transceiver ∉ front ++ back := by
    have nodup := (good.sorted entry entryIn).nodup
    rw [containerEq, nodup_middle, nodup_cons] at nodup
    exact nodup.1
  have kept : ∀ other ∈ front ++ back, changed other = transceivers other := by
    intro other member
    refine same other ?_
    rintro rfl
    exact absent member
  constructor
  · refine good.replace same outside rfl ?_ ?_ ?_
    · exact sorted_congr ((good.sorted entry entryIn).sublist sublist) kept
    · intro other member
      rw [kept other member]
      exact good.services entry entryIn other (sublist.mem member)
    · intro other member
      rw [kept other member]
      exact good.addresses entry entryIn other (sublist.mem member)
  · intro other
    rw [holds_iff, holds_iff]
    constructor
    · rintro (⟨target, member, otherIn⟩ | otherIn)
      · refine ⟨?_, .inl ⟨target, member, otherIn⟩⟩
        rintro rfl
        exact outside target member otherIn
      · refine ⟨?_, .inr (sublist.mem otherIn)⟩
        rintro rfl
        exact absent otherIn
    · rintro ⟨different, elsewhere | otherIn⟩
      · exact .inl elsewhere
      · right
        rw [containerEq, mem_append, mem_cons] at otherIn
        simpa [different] using otherIn

/-! ## Address ids -/

omit [DecidableEq Id] in
/-- The loop stops at the first number that is not used. -/
theorem drawAddress_eq {used : List UInt8} {rounds number : Nat} {actualAddress : UInt16}
    (lower : actualAddress.toNat ≤ number)
    (inUse : ∀ smaller, actualAddress.toNat ≤ smaller → smaller < number →
      ∃ address ∈ used, address.toNat = smaller)
    (free : ¬∃ address ∈ used, address.toNat = number)
    (enough : number - actualAddress.toNat < rounds) :
    (drawAddress used rounds actualAddress).toNat = number := by
  have tested : ∀ actual : UInt16, (used.any fun addressId => addressId.toUInt16 = actual) = true ↔
      ∃ address ∈ used, address.toNat = actual.toNat := by
    intro actual
    simp only [any_eq_true, decide_eq_true_eq, ← UInt16.toNat_inj, UInt8.toNat_toUInt16]
  induction rounds generalizing actualAddress with
  | zero => omega
  | succ rounds ih =>
    rw [drawAddress]
    by_cases stops : actualAddress.toNat = number
    · rw [if_neg (by rw [tested, stops]; exact free)]
      exact stops
    · obtain ⟨address, member, same⟩ := inUse actualAddress.toNat (Nat.le_refl _) (by omega)
      have bound := address.toNat_lt
      have next : (actualAddress + 1).toNat = actualAddress.toNat + 1 := by
        rw [UInt16.toNat_add]
        exact Nat.mod_eq_of_lt (by rw [UInt16.toNat_one]; omega)
      rw [if_pos ((tested actualAddress).mpr ⟨address, member, same⟩)]
      refine ih ?_ ?_ ?_
      · omega
      · intro smaller above below
        exact inUse smaller (by omega) below
      · omega

omit [DecidableEq Id] in
/-- A new proxy gets an address id that no other transceiver of the instance
has. -/
theorem AddressLeft.drawn {instanceId : UInt16}
    (left : AddressLeft transceivers entry instanceId)
    (sorted : Sorted transceivers entry.container) {address : UInt16}
    (addressEq : address = drawAddress
      ((getTransceiversByServiceIdAndServiceInstanceId transceivers entry instanceId).map
        fun other => (transceivers other).getAddressId) 65536 entry.actualAddress) :
    address.toUInt8 ≠ INVALID_ADDRESS_ID ∧
      ∀ other ∈ entry.container, (transceivers other).ids ≠ (instanceId, address.toUInt8) := by
  obtain ⟨number, lower, inUse, free, unused, valid⟩ := left
  have used_iff : ∀ value, (∃ address ∈
      (getTransceiversByServiceIdAndServiceInstanceId transceivers entry instanceId).map
        (fun other => (transceivers other).getAddressId), address.toNat = value) ↔
      UsesAddress transceivers entry instanceId value := by
    intro value
    simp only [mem_map, mem_getTransceivers_iff sorted, UsesAddress]
    constructor
    · rintro ⟨_, ⟨other, ⟨member, instance_eq⟩, rfl⟩, same⟩
      exact ⟨other, member, instance_eq, same⟩
    · rintro ⟨other, member, instance_eq, same⟩
      exact ⟨_, ⟨other, ⟨member, instance_eq⟩, rfl⟩, same⟩
  have enough : number - entry.actualAddress.toNat < 65536 := by
    by_cases first : entry.actualAddress.toNat = number
    · omega
    · obtain ⟨other, _, _, same⟩ := inUse (number - 1) (by omega) (by omega)
      have bound := (transceivers other).getAddressId.toNat_lt
      omega
  have drawn : address.toNat = number := by
    rw [addressEq]
    refine drawAddress_eq lower ?_ ?_ enough
    · exact fun smaller above below => (used_iff smaller).mpr (inUse smaller above below)
    · rw [used_iff]
      exact free
  have narrowed : address.toUInt8.toNat = number % 256 := by
    rw [UInt16.toNat_toUInt8, drawn]
  constructor
  · intro invalid
    rw [invalid] at narrowed
    exact valid narrowed.symm
  · intro other member same
    rw [Transceiver.ids, Prod.mk.injEq] at same
    exact unused ⟨other, member, same.1, by rw [same.2, narrowed]⟩

/-! ## Effects of the calls -/

omit [DecidableEq Id] in
/-- What a call does to the transceivers in the containers. -/
structure Effect (target : Database Id) (Held : Id → Prop) : Prop where
  good : Good target
  holds_iff : ∀ transceiver, Holds target transceiver ↔ Held transceiver

theorem setInstanceId_of_ne {instanceId : UInt16} (different : other ≠ transceiver) :
    setInstanceId transceivers transceiver instanceId other = transceivers other :=
  Function.update_of_ne different _ _

theorem setInstanceId_self (transceivers : Id → Transceiver) (transceiver : Id)
    (instanceId : UInt16) :
    setInstanceId transceivers transceiver instanceId transceiver =
      (transceivers transceiver).setInstanceId instanceId :=
  Function.update_self _ _ _

theorem setAddressId_of_ne {addressId : UInt8} (different : other ≠ transceiver) :
    setAddressId transceivers transceiver addressId other = transceivers other :=
  Function.update_of_ne different _ _

theorem setAddressId_self (transceivers : Id → Transceiver) (transceiver : Id)
    (addressId : UInt8) :
    setAddressId transceivers transceiver addressId transceiver =
      (transceivers transceiver).setAddressId addressId :=
  Function.update_self _ _ _

/-- A subscription that fails for a transceiver in no container changes only its
own instance id. -/
theorem Good.fail (good : Good database) (absent : ¬Holds database transceiver) :
    Effect
      { database with
        transceivers := setInstanceId database.transceivers transceiver INVALID_INSTANCE_ID }
      (Holds database) :=
  ⟨good.touch absent fun _ different => setInstanceId_of_ne different, fun _ => .rfl⟩

omit [DecidableEq Id] in
/-- A transceiver can only be in the container of its service. -/
theorem Good.not_holds (good : Good database)
    (absent : ∀ entry ∈ database.containers,
      entry.serviceId = (database.transceivers transceiver).serviceId →
        transceiver ∉ entry.container) : ¬Holds database transceiver := by
  rintro ⟨entry, member, inside⟩
  exact absent entry member (good.services entry member transceiver inside).symm inside

omit [DecidableEq Id] in
theorem eraseIdx_middle :
    (front ++ transceiver :: back).eraseIdx front.length = front ++ back := by
  rw [eraseIdx_append_of_length_le (Nat.le_refl _), Nat.sub_self]
  rfl

/-- Registering a transceiver again changes its instance id. -/
theorem Good.reinsert (good : Good { containers := before ++ entry :: after, transceivers })
    (containerEq : entry.container = front ++ transceiver :: back) {instanceId : UInt16}
    (free : ∀ other ∈ entry.container, other ≠ transceiver →
      (transceivers other).ids ≠ (instanceId, (transceivers transceiver).getAddressId)) :
    Effect
      (DbManipulator.reinsert { containers := before ++ entry :: after, transceivers }
        before.length entry front.length transceiver instanceId)
      fun other => other = transceiver ∨
        Holds { containers := before ++ entry :: after, transceivers } other := by
  have entryIn : entry ∈ before ++ entry :: after := by simp
  have inside : transceiver ∈ entry.container := by simp [containerEq]
  have absent : transceiver ∉ front ++ back := by
    have nodup := (good.sorted entry entryIn).nodup
    rw [containerEq, nodup_middle, nodup_cons] at nodup
    exact nodup.1
  have sublist : (front ++ back).Sublist entry.container := by
    rw [containerEq]
    exact (sublist_cons_self _ _).append_left front
  have self := setInstanceId_self transceivers transceiver instanceId
  have entered := good.enter (good.services entry entryIn transceiver inside)
    (fun other different => setInstanceId_of_ne different) (by rw [self]; rfl) sublist absent
    (by
      intro other otherIn
      rw [containerEq, mem_append, mem_cons] at otherIn
      rw [mem_append]
      tauto)
    (by
      intro other otherIn
      rw [self]
      refine free other (sublist.mem otherIn) ?_
      rintro rfl
      exact absent otherIn)
    (by
      rw [self]
      exact good.addresses entry entryIn transceiver inside) entry.actualAddress
  rw [DbManipulator.reinsert, containerEq, eraseIdx_middle]
  simp only [set_append_right _ _ (Nat.le_refl _), Nat.sub_self, set_cons_zero]
  exact ⟨entered.1, entered.2⟩

omit [DecidableEq Id] in
/-- A transceiver that was not registered is put into the container. -/
theorem Good.append (good : Good { containers := before ++ entry :: after, transceivers })
    (service : (transceivers transceiver).serviceId = entry.serviceId)
    (absent : transceiver ∉ entry.container) (changed : Id → Transceiver)
    (same : ∀ other, other ≠ transceiver → changed other = transceivers other)
    (sameService : (changed transceiver).serviceId = (transceivers transceiver).serviceId)
    (unused : ∀ other ∈ entry.container, (transceivers other).ids ≠ (changed transceiver).ids)
    (address : (changed transceiver).isSkeleton = false →
      (changed transceiver).addressId ≠ INVALID_ADDRESS_ID) (actualAddress : UInt16) :
    Effect
      { containers := (before ++ entry :: after).set before.length
          { entry with
            container := sort changed (entry.container ++ [transceiver]), actualAddress }
        transceivers := changed }
      fun other => other = transceiver ∨
        Holds { containers := before ++ entry :: after, transceivers } other := by
  have entered := good.enter service same sameService (.refl _) absent
    (fun _ inside => .inr inside) unused address actualAddress
  simp only [set_append_right _ _ (Nat.le_refl _), Nat.sub_self, set_cons_zero]
  exact ⟨entered.1, entered.2⟩

theorem subscribeProxy_effect (good : Good database) {proxy : Id}
    (isProxy : (database.transceivers proxy).isSkeleton = false) (instanceId : UInt16)
    (undisturbed : Undisturbed { database, registered } (.subscribe proxy instanceId)) :
    Effect (subscribeProxy database proxy instanceId).2 fun other =>
      ((subscribeProxy database proxy instanceId).1 = .Ok ∧ other = proxy) ∨
        Holds database other := by
  obtain ⟨containers, transceivers⟩ := database
  change (transceivers proxy).isSkeleton = false at isProxy
  rcases getTransceiversByServiceId_cases good.ordered (transceivers proxy).serviceId with
    ⟨found, absent⟩ | ⟨before, entry, after, rfl, service, found⟩
  · have failed := good.fail (good.not_holds fun entry member same =>
      absurd same (absent entry member))
    simp only [subscribeProxy, found, reduceCtorEq, if_false, false_and, false_or]
    exact failed
  · have entryIn : entry ∈ before ++ entry :: after := by simp
    have sorted := good.sorted entry entryIn
    obtain ⟨again, first⟩ := undisturbed entry entryIn service
    by_cases inside : proxy ∈ entry.container
    · obtain ⟨front, back, containerEq, less, greater⟩ := sorted.split inside
      have position : findTransceiver transceivers proxy entry.container = some front.length := by
        rw [containerEq]
        exact findTransceiver_of_mem less greater
      have effect := good.reinsert containerEq (again inside)
      simp only [subscribeProxy, found, position, if_true, true_and]
      exact effect
    · obtain ⟨unused, left⟩ := first inside
      have position : findTransceiver transceivers proxy entry.container = none :=
        findTransceiver_eq_none unused
      have notHeld : ¬Holds { containers := before ++ entry :: after, transceivers } proxy := by
        rw [holds_iff]
        rintro (⟨other, member, otherIn⟩ | entryHolds)
        · exact good.absent service.symm other member otherIn
        · exact inside entryHolds
      by_cases full : entry.container.length = entry.capacity
      · have failed := good.fail notHeld
        simp only [subscribeProxy, found, position, full, if_true, reduceCtorEq, if_false,
          false_and, false_or]
        exact failed
      · obtain ⟨address, addressEq⟩ : ∃ address, address = drawAddress
            ((getTransceiversByServiceIdAndServiceInstanceId transceivers entry instanceId).map
              fun other => (transceivers other).getAddressId) 65536 entry.actualAddress := ⟨_, rfl⟩
        obtain ⟨valid, free⟩ := (left isProxy full).drawn sorted addressEq
        have self : setInstanceId (setAddressId transceivers proxy address.toUInt8) proxy instanceId
            proxy =
            { transceivers proxy with instanceId, addressId := address.toUInt8 } := by
          rw [setInstanceId_self, setAddressId_self, Transceiver.setAddressId,
            if_neg (by simp [isProxy])]
          rfl
        have ids : (setInstanceId (setAddressId transceivers proxy address.toUInt8) proxy instanceId
            proxy).ids = (instanceId, address.toUInt8) := by
          rw [self, Transceiver.ids, Transceiver.getAddressId, if_neg (by simp [isProxy])]
        have effect := good.append service.symm inside
          (setInstanceId (setAddressId transceivers proxy address.toUInt8) proxy instanceId)
          (fun other different =>
            (setInstanceId_of_ne different).trans (setAddressId_of_ne different))
          (by rw [self]) (by rw [ids]; exact free) (by rw [self]; exact fun _ => valid)
          (address + 1)
        simp only [subscribeProxy, found, position, full, if_false, ← addressEq, if_true, true_and]
        exact effect

theorem subscribeSkeleton_effect (good : Good database) {skeleton : Id}
    (isSkeleton : (database.transceivers skeleton).isSkeleton = true) (instanceId : UInt16)
    (undisturbed : Undisturbed { database, registered } (.subscribe skeleton instanceId)) :
    Effect (subscribeSkeleton database skeleton instanceId).2 fun other =>
      (((subscribeSkeleton database skeleton instanceId).1 = .Ok ∨
        (subscribeSkeleton database skeleton instanceId).1 = .InstanceAlreadyRegistered) ∧
          other = skeleton) ∨ Holds database other := by
  obtain ⟨containers, transceivers⟩ := database
  change (transceivers skeleton).isSkeleton = true at isSkeleton
  rcases getTransceiversByServiceId_cases good.ordered (transceivers skeleton).serviceId with
    ⟨found, absent⟩ | ⟨before, entry, after, rfl, service, found⟩
  · have failed := good.fail (good.not_holds fun entry member same =>
      absurd same (absent entry member))
    simp only [subscribeSkeleton, found, reduceCtorEq, or_self, if_false, false_and, false_or]
    exact failed
  · have entryIn : entry ∈ before ++ entry :: after := by simp
    have sorted := good.sorted entry entryIn
    obtain ⟨again, first⟩ := undisturbed entry entryIn service
    by_cases inside : skeleton ∈ entry.container
    · obtain ⟨front, back, containerEq, less, greater⟩ := sorted.split inside
      have position : findTransceiver transceivers skeleton entry.container =
          some front.length := by
        rw [containerEq]
        exact findTransceiver_of_mem less greater
      have effect := good.reinsert containerEq (again inside)
      simp only [subscribeSkeleton, found, position, reduceCtorEq, false_or, if_true, true_and]
      exact effect
    · obtain ⟨unused, -⟩ := first inside
      have position : findTransceiver transceivers skeleton entry.container = none :=
        findTransceiver_eq_none unused
      have notHeld : ¬Holds { containers := before ++ entry :: after, transceivers } skeleton := by
        rw [holds_iff]
        rintro (⟨other, member, otherIn⟩ | entryHolds)
        · exact good.absent service.symm other member otherIn
        · exact inside entryHolds
      have failed := good.fail notHeld
      have taken := isSkeletonWithServiceInstanceIdRegistered_iff sorted instanceId
      cases other : isSkeletonWithServiceInstanceIdRegistered transceivers entry.container
        instanceId with
      | true =>
        simp only [subscribeSkeleton, found, position, other, if_true, reduceCtorEq, or_self,
          if_false, false_and, false_or]
        exact failed
      | false =>
        by_cases full : entry.container.length = entry.capacity
        · simp only [subscribeSkeleton, found, position, other, Bool.false_eq_true, full, if_true,
            reduceCtorEq, or_self, if_false, false_and, false_or]
          exact failed
        · have self := setInstanceId_self transceivers skeleton instanceId
          have ids : (setInstanceId transceivers skeleton instanceId skeleton).ids =
              (instanceId, INVALID_ADDRESS_ID) := by
            have kind : ((transceivers skeleton).setInstanceId instanceId).isSkeleton = true :=
              isSkeleton
            rw [self, Transceiver.ids, Transceiver.getAddressId, if_pos kind]
            rfl
          have effect := good.append service.symm inside
            (setInstanceId transceivers skeleton instanceId)
            (fun _ different => setInstanceId_of_ne different) (by rw [self]; rfl)
            (by
              intro member memberIn same
              rw [ids] at same
              rw [taken.mpr ⟨member, memberIn, same⟩] at other
              cases other)
            (by
              rw [self, Transceiver.setInstanceId, isSkeleton]
              simp) entry.actualAddress
          simp only [subscribeSkeleton, found, position, other, Bool.false_eq_true, full, if_false,
            true_or, if_true, true_and]
          exact effect

/-- Only skeletons are told that they were registered already. -/
theorem subscribeProxy_ne (database : Database Id) (proxy : Id) (instanceId : UInt16) :
    (subscribeProxy database proxy instanceId).1 ≠ .InstanceAlreadyRegistered := by
  rw [subscribeProxy]
  split <;> [skip; split <;> [skip; split]] <;> simp

theorem subscribe_effect (good : Good database) (transceiver : Id) (instanceId : UInt16)
    (undisturbed : Undisturbed { database, registered } (.subscribe transceiver instanceId)) :
    Effect (subscribe database transceiver instanceId).2 fun other =>
      (((subscribe database transceiver instanceId).1 = .Ok ∨
        (subscribe database transceiver instanceId).1 = .InstanceAlreadyRegistered) ∧
          other = transceiver) ∨ Holds database other := by
  rw [subscribe]
  cases kind : (database.transceivers transceiver).isSkeleton with
  | true =>
    rw [if_pos rfl]
    exact subscribeSkeleton_effect good kind instanceId undisturbed
  | false =>
    have effect := subscribeProxy_effect good kind instanceId undisturbed
    have notAgain := subscribeProxy_ne database transceiver instanceId
    rw [if_neg (by simp)]
    simpa only [notAgain, or_false] using effect

/-- A transceiver that the container of its service holds is taken out of it. -/
theorem unsubscribe_of_mem {serviceId : UInt16}
    (found : getTransceiversByServiceId (before ++ entry :: after) serviceId =
      some (before.length, entry))
    (containerEq : entry.container = front ++ transceiver :: back)
    (less : ∀ other ∈ front, keyOf transceivers other < keyOf transceivers transceiver)
    (greater : ∀ other ∈ back, keyOf transceivers transceiver < keyOf transceivers other) :
    unsubscribe { containers := before ++ entry :: after, transceivers } transceiver serviceId =
      { containers := before ++ { entry with container := front ++ back } :: after
        transceivers := setAddressId transceivers transceiver INVALID_ADDRESS_ID } := by
  have range : equalRange transceivers entry.container (transceivers transceiver).ids =
      (front.length, front.length + 1) := by
    rw [containerEq, show front ++ transceiver :: back = front ++ [transceiver] ++ back by simp]
    exact equalRange_append less (by simp [keyOf]) greater
  have slice : (entry.container.take (front.length + 1)).drop front.length = [transceiver] := by
    rw [containerEq]
    simp [List.take_append]
  have notEnd : front.length ≠ entry.container.length := by
    rw [containerEq]
    simp
  have erased : entry.container.eraseIdx front.length = front ++ back := by
    rw [containerEq, eraseIdx_middle]
  simp only [unsubscribe, found, range, slice, findIdx_cons, decide_true, cond_true,
    Nat.add_zero, ne_eq, notEnd, not_false_eq_true, if_true, erased,
    set_append_right _ _ (Nat.le_refl _), Nat.sub_self, set_cons_zero]

/-- Unsubscribing a registered transceiver removes it, and nothing happens for
one that is not registered. -/
theorem unsubscribe_effect (good : Good database) (transceiver : Id) (serviceId : UInt16)
    (undisturbed : Undisturbed { database, registered } (.unsubscribe transceiver serviceId)) :
    Effect (unsubscribe database transceiver serviceId) fun other =>
      ((database.transceivers transceiver).serviceId = serviceId → other ≠ transceiver) ∧
        Holds database other := by
  obtain ⟨containers, transceivers⟩ := database
  rcases getTransceiversByServiceId_cases good.ordered serviceId with
    ⟨found, absent⟩ | ⟨before, entry, after, rfl, service, found⟩
  · have kept : unsubscribe { containers, transceivers } transceiver serviceId =
        { containers, transceivers } := by
      simp only [unsubscribe, found]
    rw [kept]
    refine ⟨good, fun other => ?_⟩
    refine (and_iff_right_of_imp ?_).symm
    rintro held same rfl
    refine good.not_holds ?_ held
    exact fun entry member otherService => absurd (otherService.trans same) (absent entry member)
  · have entryIn : entry ∈ before ++ entry :: after := by simp
    have sorted := good.sorted entry entryIn
    by_cases inside : transceiver ∈ entry.container
    · obtain ⟨front, back, containerEq, less, greater⟩ := sorted.split inside
      have effect := good.leave (setAddressId transceivers transceiver INVALID_ADDRESS_ID)
        (fun _ different => setAddressId_of_ne different) containerEq
      have here : (transceivers transceiver).serviceId = serviceId :=
        (good.services entry entryIn transceiver inside).trans service
      simp only [unsubscribe_of_mem found containerEq less greater, here, forall_const]
      exact ⟨effect.1, effect.2⟩
    · have behind := undisturbed entry entryIn service inside
      have range : equalRange transceivers entry.container (transceivers transceiver).ids =
          (entry.container.length, entry.container.length) := by
        have result : equalRange transceivers (entry.container ++ [] ++ [])
            (transceivers transceiver).ids =
            (entry.container.length, entry.container.length + ([] : List Id).length) :=
          equalRange_append
            (fun other member => transceiverComparator_iff.mp (behind other member)) (by simp)
            (by simp)
        simpa using result
      have kept : unsubscribe { containers := before ++ entry :: after, transceivers } transceiver
          serviceId = { containers := before ++ entry :: after, transceivers } := by
        simp only [unsubscribe, found, range, drop_length, take_length, findIdx_nil,
          Nat.add_zero, ne_eq, not_true_eq_false, if_false]
      rw [kept]
      refine ⟨good, fun other => ?_⟩
      refine (and_iff_right_of_imp ?_).symm
      rintro held same rfl
      rw [holds_iff] at held
      rcases held with ⟨outside, member, otherIn⟩ | entryHolds
      · exact good.absent (same.trans service.symm) outside member otherIn
      · exact inside entryHolds

end DatabaseRun

end OpenBsw.Middleware
