import OpenBsw.Middleware.Core.DatabaseRuns

/-!
# Exactness of the transceiver database

In undisturbed histories the database holds exactly the registered
transceivers, in order and under ids of their own, and its lookups find exactly
them.  Otherwise a call for one transceiver can remove another.
-/

namespace OpenBsw.Middleware

open DbManipulator List

namespace DatabaseRun

variable {Id : Type}

/-! ## Lookups -/

theorem mem_entry_iff {transceivers : Id → Transceiver}
    {before after : List (TransceiverContainer Id)} {entry : TransceiverContainer Id}
    (good : Good { containers := before ++ entry :: after, transceivers }) {transceiver : Id} :
    transceiver ∈ entry.container ↔
      Holds { containers := before ++ entry :: after, transceivers } transceiver ∧
        (transceivers transceiver).serviceId = entry.serviceId := by
  constructor
  · intro inside
    exact ⟨holds_iff.mpr (.inr inside), good.services entry (by simp) transceiver inside⟩
  · rintro ⟨held, service⟩
    rcases holds_iff.mp held with ⟨outside, member, inside⟩ | inside
    · exact absurd inside (good.absent service outside member)
    · exact inside

/-- The entry at the lower bound of some ids is the one that has them, if there
is one. -/
theorem lowerBound_spec {transceivers : Id → Transceiver} {container : List Id}
    (sorted : Sorted transceivers container) {ids : UInt16 × UInt8} {transceiver : Id} :
    (container[lowerBound transceivers container ids]? = some transceiver ∧
        ¬transceiverComparator ids (transceivers transceiver).ids = true) ↔
      transceiver ∈ container ∧ (transceivers transceiver).ids = ids := by
  obtain ⟨front, middle, back, containerEq, less, equal, greater⟩ :=
    BinarySearch.exists_split (sorted.imp Nat.le_of_lt) (pairKey ids)
  have position : lowerBound transceivers container ids = front.length := by
    rw [containerEq, append_assoc]
    refine lowerBound_append less ?_
    intro other member
    rcases mem_append.mp member with inMiddle | inBack
    · exact Nat.le_of_eq (equal other inMiddle).symm
    · exact Nat.le_of_lt (greater other inBack)
  have here : container[front.length]? = (middle ++ back).head? := by
    rw [containerEq, append_assoc, List.getElem?_append_right (Nat.le_refl _), Nat.sub_self,
      List.head?_eq_getElem?]
  rw [position, here, transceiverComparator_iff]
  constructor
  · rintro ⟨found, notGreater⟩
    cases middle with
    | nil =>
      have inBack : transceiver ∈ back := mem_of_head? found
      exact absurd (greater transceiver inBack) notGreater
    | cons first rest =>
      obtain rfl : first = transceiver := Option.some.inj found
      exact ⟨by simp [containerEq], pairKey_inj.mp (equal first mem_cons_self)⟩
  · rintro ⟨member, rfl⟩
    refine ⟨?_, Nat.lt_irrefl _⟩
    have inMiddle : transceiver ∈ middle := by
      rw [containerEq, mem_append, mem_append] at member
      rcases member with (inFront | inMiddle) | inBack
      · exact absurd (less transceiver inFront) (Nat.lt_irrefl _)
      · exact inMiddle
      · exact absurd (greater transceiver inBack) (Nat.lt_irrefl _)
    cases middle with
    | nil => cases inMiddle
    | cons first rest =>
      have firstIn : first ∈ container := by simp [containerEq]
      have same := sorted.eq_of_keyOf_eq firstIn member (equal first mem_cons_self)
      rw [same]
      rfl

/-- A lookup returns exactly the transceiver with the ids. -/
theorem Good.getTransceiver_iff {database : Database Id} (good : Good database)
    {serviceId instanceId : UInt16} {addressId : UInt8} {transceiver : Id} :
    getTransceiver database serviceId instanceId addressId.toUInt16 = some transceiver ↔
      Holds database transceiver ∧
        (database.transceivers transceiver).serviceId = serviceId ∧
        (database.transceivers transceiver).ids = (instanceId, addressId) := by
  obtain ⟨containers, transceivers⟩ := database
  have narrowed : addressId.toUInt16.toUInt8 = addressId := by simp
  rcases getTransceiversByServiceId_cases good.ordered serviceId with
    ⟨found, absent⟩ | ⟨before, entry, after, rfl, rfl, found⟩
  · simp only [getTransceiver, found, reduceCtorEq, false_iff]
    rintro ⟨⟨entry, member, inside⟩, service, -⟩
    exact absent entry member ((good.services entry member transceiver inside).symm.trans service)
  · have spec := @lowerBound_spec Id transceivers entry.container (good.sorted entry (by simp))
      (instanceId, addressId) transceiver
    rw [← and_assoc, ← mem_entry_iff good, ← spec]
    simp only [getTransceiver, found, narrowed]
    cases entry.container[lowerBound transceivers entry.container (instanceId, addressId)]? with
    | none => simp
    | some other =>
      simp only [Option.some.injEq]
      split
      · rename_i greater
        simp only [reduceCtorEq, false_iff, not_and, not_not]
        rintro rfl
        exact greater
      · rename_i notGreater
        simp only [Option.some.injEq]
        exact ⟨fun same => ⟨same, same ▸ notGreater⟩, And.left⟩

/-- The skeleton of an instance is found if it is registered. -/
theorem Good.getSkeleton_iff {database : Database Id} (good : Good database)
    {serviceId instanceId : UInt16} {transceiver : Id} :
    getSkeletonByServiceIdAndServiceInstanceId database serviceId instanceId = some transceiver ↔
      Holds database transceiver ∧
        (database.transceivers transceiver).serviceId = serviceId ∧
        (database.transceivers transceiver).isSkeleton = true ∧
        (database.transceivers transceiver).instanceId = instanceId := by
  obtain ⟨containers, transceivers⟩ := database
  rcases getTransceiversByServiceId_cases good.ordered serviceId with
    ⟨found, absent⟩ | ⟨before, entry, after, rfl, rfl, found⟩
  · simp only [getSkeletonByServiceIdAndServiceInstanceId, found, reduceCtorEq, false_iff]
    rintro ⟨⟨entry, member, inside⟩, service, -⟩
    exact absent entry member ((good.services entry member transceiver inside).symm.trans service)
  · have entryIn : entry ∈ before ++ entry :: after := by simp
    have sorted := good.sorted entry entryIn
    have skeleton_iff : transceiver ∈ entry.container →
        ((transceivers transceiver).ids = (instanceId, INVALID_ADDRESS_ID) ↔
          (transceivers transceiver).isSkeleton = true ∧
            (transceivers transceiver).instanceId = instanceId) := by
      intro inside
      have address := good.addresses entry entryIn transceiver inside
      change (transceivers transceiver).isSkeleton = false →
        (transceivers transceiver).addressId ≠ INVALID_ADDRESS_ID at address
      rw [Transceiver.ids, Prod.mk.injEq, Transceiver.getAddressId]
      cases kind : (transceivers transceiver).isSkeleton with
      | true => simp
      | false => simp [address kind]
    rw [← and_assoc, ← mem_entry_iff good]
    obtain ⟨front, middle, back, containerEq, less, equal, greater⟩ :=
      BinarySearch.exists_split (sorted.imp Nat.le_of_lt)
        (pairKey (instanceId, INVALID_ADDRESS_ID))
    have range : equalRange transceivers entry.container (instanceId, INVALID_ADDRESS_ID) =
        (front.length, front.length + middle.length) := by
      rw [containerEq]
      exact equalRange_append less equal greater
    have inMiddle : transceiver ∈ entry.container →
        (transceivers transceiver).ids = (instanceId, INVALID_ADDRESS_ID) →
        transceiver ∈ middle := by
      intro inside ids
      have key : keyOf transceivers transceiver = pairKey (instanceId, INVALID_ADDRESS_ID) := by
        rw [keyOf, ids]
      rw [containerEq, mem_append, mem_append] at inside
      rcases inside with (inFront | member) | inBack
      · exact absurd key (Nat.ne_of_lt (less transceiver inFront))
      · exact member
      · exact absurd key (Nat.ne_of_gt (greater transceiver inBack))
    simp only [getSkeletonByServiceIdAndServiceInstanceId, found, range]
    cases middle with
    | nil =>
      simp only [length_nil, Nat.add_zero, ne_eq, not_true_eq_false, if_false, reduceCtorEq,
        false_iff]
      rintro ⟨inside, kind⟩
      cases inMiddle inside ((skeleton_iff inside).mpr kind)
    | cons first rest =>
      have firstIn : first ∈ entry.container := by simp [containerEq]
      have firstIds : (transceivers first).ids = (instanceId, INVALID_ADDRESS_ID) :=
        pairKey_inj.mp (equal first mem_cons_self)
      have here : entry.container[front.length]? = some first := by
        rw [containerEq, append_assoc, List.getElem?_append_right (Nat.le_refl _),
          Nat.sub_self]
        rfl
      have nonempty : front.length ≠ front.length + (first :: rest).length := by simp
      rw [if_pos nonempty, here, Option.some.injEq]
      constructor
      · rintro rfl
        exact ⟨firstIn, (skeleton_iff firstIn).mp firstIds⟩
      · rintro ⟨inside, kind⟩
        refine sorted.eq_of_keyOf_eq firstIn inside ?_
        rw [keyOf, keyOf, firstIds, (skeleton_iff inside).mpr kind]

/-! ## Histories -/

variable [DecidableEq Id]

omit [DecidableEq Id] in
theorem agrees_initial {run : DatabaseRun Id} (initial : Initial run) : Agrees run := by
  have absent : ∀ entry ∈ run.database.containers, ∀ transceiver,
      transceiver ∉ entry.container := by
    intro entry member transceiver
    rw [initial.empty entry member]
    exact not_mem_nil
  refine ⟨⟨initial.ordered, ?_, ?_, ?_⟩, ?_⟩
  · intro entry member
    rw [initial.empty entry member]
    exact .nil
  · exact fun entry member transceiver inside => absurd inside (absent entry member transceiver)
  · exact fun entry member transceiver inside => absurd inside (absent entry member transceiver)
  · intro transceiver
    rw [initial.unregistered]
    refine iff_of_false not_mem_nil ?_
    rintro ⟨entry, member, inside⟩
    exact absent entry member transceiver inside

theorem agrees_apply {run : DatabaseRun Id} (agrees : Agrees run) {call : DatabaseCall Id}
    (undisturbed : run.Undisturbed call) : Agrees (run.apply call) := by
  obtain ⟨database, registered⟩ := run
  cases call with
  | subscribe transceiver instanceId =>
    have effect := subscribe_effect agrees.good transceiver instanceId undisturbed
    refine ⟨effect.good, fun other => ?_⟩
    rw [apply]
    refine Iff.trans ?_ (effect.holds_iff other).symm
    have registered_iff := agrees.registered_iff other
    change other ∈ (if _ then transceiver :: registered else registered) ↔ _
    split
    · rename_i success
      rw [mem_cons, registered_iff]
      exact or_congr_left (and_iff_right success).symm
    · rename_i failure
      rw [registered_iff]
      exact (or_iff_right fun success => failure success.1).symm
  | unsubscribe transceiver serviceId =>
    have effect := unsubscribe_effect agrees.good transceiver serviceId undisturbed
    refine ⟨effect.good, fun other => ?_⟩
    refine Iff.trans ?_ (effect.holds_iff other).symm
    have registered_iff := agrees.registered_iff other
    change other ∈ (if _ then registered.filter _ else registered) ↔ _
    split
    · rename_i same
      rw [mem_filter, registered_iff, decide_eq_true_eq, and_comm]
      exact and_congr_left fun _ =>
        ⟨fun different _ => different, fun different => different same⟩
    · rename_i different
      rw [registered_iff]
      exact (and_iff_right fun same => absurd same different).symm

/-- In an undisturbed history the database agrees with the ledger. -/
theorem agrees_of_reachable {run : DatabaseRun Id}
    (reached : ((system Id).restrict Undisturbed).Reachable run) : Agrees run := by
  refine Transition.System.Inductive.of_reachable ⟨agrees_initial, ?_⟩ reached
  rintro source call target agrees ⟨rfl, undisturbed⟩
  exact agrees_apply agrees undisturbed

/-- A call changes no ids but those of its transceiver. -/
theorem transceivers_apply (run : DatabaseRun Id) (call : DatabaseCall Id) {other : Id}
    (different : other ≠ call.transceiver) :
    (run.apply call).database.transceivers other = run.database.transceivers other := by
  cases call with
  | subscribe transceiver instanceId =>
    change other ≠ transceiver at different
    simp only [apply, subscribe, subscribeProxy, subscribeSkeleton, DbManipulator.reinsert]
    split_ifs <;> (try split) <;> (try split) <;> (try split_ifs) <;>
      simp [setInstanceId_of_ne different, setAddressId_of_ne different]
  | unsubscribe transceiver serviceId =>
    change other ≠ transceiver at different
    simp only [apply, unsubscribe]
    split
    · rfl
    · split_ifs
      · exact setAddressId_of_ne different
      · rfl

/-- What the database promises about the registered transceivers. -/
structure Exact (run : DatabaseRun Id) : Prop where
  sorted : ∀ entry ∈ run.database.containers, entry.container.Pairwise fun first second =>
    transceiverComparator (run.database.transceivers first).ids
      (run.database.transceivers second).ids = true
  proxies : ∀ entry ∈ run.database.containers, ∀ first ∈ entry.container,
    ∀ second ∈ entry.container, first ≠ second →
    (run.database.transceivers first).instanceId = (run.database.transceivers second).instanceId →
    (run.database.transceivers first).getAddressId ≠
      (run.database.transceivers second).getAddressId
  skeletons : ∀ entry ∈ run.database.containers, ∀ first ∈ entry.container,
    ∀ second ∈ entry.container, (run.database.transceivers first).isSkeleton = true →
    (run.database.transceivers second).isSkeleton = true →
    (run.database.transceivers first).instanceId = (run.database.transceivers second).instanceId →
    first = second
  registered : ∀ transceiver, transceiver ∈ run.registered ↔
    ∃ entry ∈ run.database.containers, transceiver ∈ entry.container
  services : ∀ entry ∈ run.database.containers, ∀ transceiver ∈ entry.container,
    (run.database.transceivers transceiver).serviceId = entry.serviceId
  keeps : ∀ call other, other ≠ DatabaseCall.transceiver call →
    (run.apply call).database.transceivers other = run.database.transceivers other
  getTransceiver_iff : ∀ serviceId instanceId (addressId : UInt8) transceiver,
    getTransceiver run.database serviceId instanceId addressId.toUInt16 = some transceiver ↔
      transceiver ∈ run.registered ∧
        (run.database.transceivers transceiver).serviceId = serviceId ∧
        (run.database.transceivers transceiver).ids = (instanceId, addressId)
  getSkeleton_iff : ∀ serviceId instanceId transceiver,
    getSkeletonByServiceIdAndServiceInstanceId run.database serviceId instanceId =
        some transceiver ↔
      transceiver ∈ run.registered ∧
        (run.database.transceivers transceiver).serviceId = serviceId ∧
        (run.database.transceivers transceiver).isSkeleton = true ∧
        (run.database.transceivers transceiver).instanceId = instanceId

/-- In every undisturbed history the database is exact. -/
theorem database_exact (Id : Type) [DecidableEq Id] (run : DatabaseRun Id)
    (reached : ((system Id).restrict Undisturbed).Reachable run) : Exact run := by
  have agrees := agrees_of_reachable reached
  have good := agrees.good
  refine ⟨?_, ?_, ?_, agrees.registered_iff, good.services,
    fun call other => transceivers_apply run call, ?_, ?_⟩
  · exact fun entry member => (good.sorted entry member).imp transceiverComparator_iff.mpr
  · intro entry member first firstIn second secondIn different sameInstance sameAddress
    refine different ((good.sorted entry member).eq_of_keyOf_eq firstIn secondIn ?_)
    rw [keyOf, keyOf, Transceiver.ids, Transceiver.ids, sameInstance, sameAddress]
  · intro entry member first firstIn second secondIn firstKind secondKind sameInstance
    refine (good.sorted entry member).eq_of_keyOf_eq firstIn secondIn ?_
    rw [keyOf, keyOf, Transceiver.ids, Transceiver.ids, sameInstance, Transceiver.getAddressId,
      Transceiver.getAddressId, if_pos firstKind, if_pos secondKind]
  · intro serviceId instanceId addressId transceiver
    rw [agrees.registered_iff]
    exact good.getTransceiver_iff
  · intro serviceId instanceId transceiver
    rw [agrees.registered_iff]
    exact good.getSkeleton_iff

/-! ## Samples -/

/-- One service with room for four transceivers; the third one is a skeleton. -/
def sampleStart : DatabaseRun Nat :=
  { database :=
      { containers := [{ container := [], capacity := 4, serviceId := 7, actualAddress := 0 }]
        transceivers := fun number => { isSkeleton := number = 2, serviceId := 7 } }
    registered := [] }

instance (transceivers : Nat → Transceiver) (entry : TransceiverContainer Nat)
    (instanceId : UInt16) (number : Nat) :
    Decidable (UsesAddress transceivers entry instanceId number) :=
  inferInstanceAs (Decidable (∃ other ∈ entry.container, _ ∧ _))

/-- A new transceiver whose ids nobody has, and for which the counter shows a free address. -/
theorem undisturbed_new {run : DatabaseRun Nat} {transceiver : Nat} {instanceId : UInt16}
    (new : ∀ entry ∈ run.database.containers, transceiver ∉ entry.container ∧
      (∀ other ∈ entry.container, (run.database.transceivers other).ids ≠
        (run.database.transceivers transceiver).ids) ∧
      entry.actualAddress.toNat < 255 ∧
      ¬UsesAddress run.database.transceivers entry instanceId entry.actualAddress.toNat) :
    Undisturbed run (.subscribe transceiver instanceId) := by
  intro entry member _
  obtain ⟨outside, others, small, free⟩ := new entry member
  have unwrapped : entry.actualAddress.toNat % 256 = entry.actualAddress.toNat :=
    Nat.mod_eq_of_lt (by omega)
  refine ⟨fun inside => absurd inside outside, fun _ => ⟨others, fun _ _ => ?_⟩⟩
  refine ⟨entry.actualAddress.toNat, Nat.le_refl _, fun smaller above below => by omega, free, ?_⟩
  rw [unwrapped]
  exact ⟨free, Nat.ne_of_lt small⟩

theorem reachable_apply {run : DatabaseRun Nat} {call : DatabaseCall Nat}
    (reached : ((system Nat).restrict Undisturbed).Reachable run)
    (undisturbed : Undisturbed run call) :
    ((system Nat).restrict Undisturbed).Reachable (run.apply call) :=
  .step reached (show ((system Nat).restrict Undisturbed).Step run call _ from
    ⟨rfl, undisturbed⟩)

/-- A proxy and a skeleton of the same instance, and another proxy, after the first one has left
again. -/
def sampleRun : DatabaseRun Nat :=
  (((sampleStart.apply (.subscribe 0 1)).apply (.subscribe 2 1)).apply
    (.unsubscribe 0 7)).apply (.subscribe 1 1)

theorem database_exact_sample :
    sampleRun.registered = [1, 2] ∧
      sampleRun.database.containers.map (fun entry => entry.container) = [[1, 2]] ∧
      Exact sampleRun := by
  have start : ((system Nat).restrict Undisturbed).Reachable sampleStart := by
    refine .initial ⟨?_, ?_, ?_, rfl⟩
    · exact pairwise_singleton _ _
    · intro entry member
      rw [mem_singleton.mp member]
    · exact fun _ => ⟨rfl, rfl⟩
  have proxy := reachable_apply start
    (undisturbed_new (by decide) : Undisturbed _ (.subscribe 0 1))
  have skeleton := reachable_apply proxy
    (undisturbed_new (by decide) : Undisturbed _ (.subscribe 2 1))
  have left := reachable_apply skeleton
    (by rw [Undisturbed]; decide : Undisturbed _ (.unsubscribe 0 7))
  have other := reachable_apply left
    (undisturbed_new (by decide) : Undisturbed _ (.subscribe 1 1))
  exact ⟨by decide, by decide, database_exact Nat sampleRun other⟩

/-- Unsubscribing a proxy twice removes the next transceiver in the container. -/
theorem not_exact_unsubscribedTwice :
    let run := (((sampleStart.apply (.subscribe 0 1)).apply (.subscribe 1 2)).apply
      (.unsubscribe 0 7)).apply (.unsubscribe 0 7)
    1 ∈ run.registered ∧ ∀ entry ∈ run.database.containers, 1 ∉ entry.container := by
  decide

end DatabaseRun

end OpenBsw.Middleware
