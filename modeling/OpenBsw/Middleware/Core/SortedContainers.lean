import OpenBsw.Middleware.Core.DbManipulator

/-!
# Sorted containers

On a container with increasing keys every search of the database finds exactly
the entry with the key it looks for.  The pair of ids is compared as one
number.
-/

namespace OpenBsw.Middleware

open List

/-- A pair of ids as one number. -/
def pairKey (ids : UInt16 × UInt8) : Nat :=
  ids.1.toNat * 256 + ids.2.toNat

theorem pairKey_inj {ids other : UInt16 × UInt8} : pairKey ids = pairKey other ↔ ids = other := by
  constructor
  · intro same
    rw [pairKey, pairKey] at same
    have bound := ids.2.toNat_lt
    have otherBound := other.2.toNat_lt
    refine Prod.ext (UInt16.toNat_inj.mp ?_) (UInt8.toNat_inj.mp ?_)
    · omega
    · omega
  · rintro rfl
    rfl

namespace DbManipulator

theorem transceiverComparator_iff {lhs rhs : UInt16 × UInt8} :
    transceiverComparator lhs rhs = true ↔ pairKey lhs < pairKey rhs := by
  have bound := lhs.2.toNat_lt
  have otherBound := rhs.2.toNat_lt
  simp only [transceiverComparator, decide_eq_true_eq, UInt16.lt_iff_toNat_lt,
    UInt8.lt_iff_toNat_lt, pairKey]
  omega

theorem transceiverComparator_eq_false_iff {lhs rhs : UInt16 × UInt8} :
    transceiverComparator lhs rhs = false ↔ pairKey rhs ≤ pairKey lhs := by
  rw [Bool.eq_false_iff, ne_eq, transceiverComparator_iff, Nat.not_lt]

variable {Id : Type} {transceivers : Id → Transceiver} {container : List Id}

/-- The key of a transceiver. -/
def keyOf (transceivers : Id → Transceiver) (transceiver : Id) : Nat :=
  pairKey (transceivers transceiver).ids

/-- The keys increase along a container. -/
def Sorted (transceivers : Id → Transceiver) (container : List Id) : Prop :=
  container.Pairwise fun first second => keyOf transceivers first < keyOf transceivers second

theorem Sorted.nodup (sorted : Sorted transceivers container) : container.Nodup :=
  sorted.imp fun {first second} less same => by
    rw [same] at less
    exact Nat.lt_irrefl _ less

theorem Sorted.eq_of_keyOf_eq (sorted : Sorted transceivers container) {first second : Id}
    (firstIn : first ∈ container) (secondIn : second ∈ container)
    (same : keyOf transceivers first = keyOf transceivers second) : first = second := by
  have distinct : (container.map (keyOf transceivers)).Nodup :=
    pairwise_map.mpr (sorted.imp fun less => Nat.ne_of_lt less)
  exact inj_on_of_nodup_map distinct firstIn secondIn same

theorem sort_perm (transceivers : Id → Transceiver) (container : List Id) :
    (sort transceivers container).Perm container :=
  perm_insertionSort _ _

/-- The keys do not decrease along a container, which is what the searches need. -/
def InOrder (transceivers : Id → Transceiver) (container : List Id) : Prop :=
  container.Pairwise fun first second => keyOf transceivers first ≤ keyOf transceivers second

theorem inOrder_sort (transceivers : Id → Transceiver) (container : List Id) :
    InOrder transceivers (sort transceivers container) := by
  have total : Std.Total fun lhs rhs =>
      transceiverComparator (transceivers rhs).ids (transceivers lhs).ids = false := by
    constructor
    intro first second
    rw [transceiverComparator_eq_false_iff, transceiverComparator_eq_false_iff]
    exact Nat.le_total _ _
  have trans : IsTrans Id fun lhs rhs =>
      transceiverComparator (transceivers rhs).ids (transceivers lhs).ids = false := by
    constructor
    intro first second third
    rw [transceiverComparator_eq_false_iff, transceiverComparator_eq_false_iff,
      transceiverComparator_eq_false_iff]
    exact Nat.le_trans
  refine (pairwise_insertionSort _ container).imp fun {first second} le => ?_
  exact transceiverComparator_eq_false_iff.mp le

theorem sorted_sort (distinct : (container.map (keyOf transceivers)).Nodup) :
    Sorted transceivers (sort transceivers container) := by
  have different : (sort transceivers container).Pairwise fun first second =>
      keyOf transceivers first ≠ keyOf transceivers second := by
    refine pairwise_map.mp ?_
    exact (((sort_perm transceivers container).map _).nodup_iff).mpr distinct
  exact (inOrder_sort transceivers container).imp₂
    (fun _ _ le ne => Nat.lt_of_le_of_ne le ne) different

/-! ## Searches -/

theorem lowerBound_append {front back : List Id} {ids : UInt16 × UInt8}
    (less : ∀ other ∈ front, keyOf transceivers other < pairKey ids)
    (notLess : ∀ other ∈ back, pairKey ids ≤ keyOf transceivers other) :
    lowerBound transceivers (front ++ back) ids = front.length := by
  refine BinarySearch.partitionPoint_append ?_ ?_
  · exact fun other member => transceiverComparator_iff.mpr (less other member)
  · exact fun other member => transceiverComparator_eq_false_iff.mpr (notLess other member)

theorem equalRange_append {front middle back : List Id} {ids : UInt16 × UInt8}
    (less : ∀ other ∈ front, keyOf transceivers other < pairKey ids)
    (equal : ∀ other ∈ middle, keyOf transceivers other = pairKey ids)
    (greater : ∀ other ∈ back, pairKey ids < keyOf transceivers other) :
    equalRange transceivers (front ++ middle ++ back) ids =
      (front.length, front.length + middle.length) := by
  refine BinarySearch.equalRange_append ?_ ?_ ?_
  · intro other member
    exact ⟨transceiverComparator_iff.mpr (less other member),
      transceiverComparator_eq_false_iff.mpr (Nat.le_of_lt (less other member))⟩
  · intro other member
    have same := equal other member
    exact ⟨transceiverComparator_eq_false_iff.mpr (Nat.le_of_eq same.symm),
      transceiverComparator_eq_false_iff.mpr (Nat.le_of_eq same)⟩
  · intro other member
    exact ⟨transceiverComparator_eq_false_iff.mpr (Nat.le_of_lt (greater other member)),
      transceiverComparator_iff.mpr (greater other member)⟩

/-- A container splits around a transceiver it holds. -/
theorem Sorted.split (sorted : Sorted transceivers container) {transceiver : Id}
    (member : transceiver ∈ container) :
    ∃ front back, container = front ++ transceiver :: back ∧
      (∀ other ∈ front, keyOf transceivers other < keyOf transceivers transceiver) ∧
      ∀ other ∈ back, keyOf transceivers transceiver < keyOf transceivers other :=
  BinarySearch.exists_split_of_mem sorted member

theorem findTransceiver_of_mem {front back : List Id} {transceiver : Id}
    (less : ∀ other ∈ front, keyOf transceivers other < keyOf transceivers transceiver)
    (greater : ∀ other ∈ back, keyOf transceivers transceiver < keyOf transceivers other) :
    findTransceiver transceivers transceiver (front ++ transceiver :: back) =
      some front.length := by
  have position : lowerBound transceivers (front ++ transceiver :: back)
      (transceivers transceiver).ids = front.length := by
    refine lowerBound_append less ?_
    intro other member
    rcases mem_cons.mp member with rfl | behind
    · exact Nat.le_refl _
    · exact Nat.le_of_lt (greater other behind)
  simp [findTransceiver, position]

/-- In an ordered container a transceiver, or one with its ids, is found. -/
theorem findTransceiver_isSome (ordered : InOrder transceivers container) {transceiver : Id}
    (inside : transceiver ∈ container) :
    (findTransceiver transceivers transceiver container).isSome := by
  obtain ⟨front, middle, back, rfl, less, equal, greater⟩ :=
    BinarySearch.exists_split ordered (keyOf transceivers transceiver)
  have inMiddle : transceiver ∈ middle := by
    rw [mem_append, mem_append] at inside
    rcases inside with (inFront | inMiddle) | inBack
    · exact absurd (less _ inFront) (Nat.lt_irrefl _)
    · exact inMiddle
    · exact absurd (greater _ inBack) (Nat.lt_irrefl _)
  cases middle with
  | nil => cases inMiddle
  | cons found rest =>
    have position : lowerBound transceivers (front ++ found :: (rest ++ back))
        (transceivers transceiver).ids = front.length := by
      refine lowerBound_append less ?_
      intro other member
      rw [← cons_append, mem_append] at member
      rcases member with inMiddle | inBack
      · exact Nat.le_of_eq (equal other inMiddle).symm
      · exact Nat.le_of_lt (greater other inBack)
    have same : (transceivers found).ids = (transceivers transceiver).ids :=
      pairKey_inj.mp (equal found mem_cons_self)
    simp [findTransceiver, position, same]

theorem findTransceiver_eq_none {transceiver : Id}
    (absent : ∀ other ∈ container, (transceivers other).ids ≠ (transceivers transceiver).ids) :
    findTransceiver transceivers transceiver container = none := by
  rw [findTransceiver]
  split
  · rename_i found foundEq
    rw [if_neg (absent found (mem_of_getElem? foundEq))]
  · rfl

theorem isSkeletonWithServiceInstanceIdRegistered_iff (sorted : Sorted transceivers container)
    (instanceId : UInt16) :
    isSkeletonWithServiceInstanceIdRegistered transceivers container instanceId = true ↔
      ∃ other ∈ container, (transceivers other).ids = (instanceId, INVALID_ADDRESS_ID) := by
  obtain ⟨front, middle, back, rfl, less, equal, greater⟩ :=
    BinarySearch.exists_split (sorted.imp Nat.le_of_lt) (pairKey (instanceId, INVALID_ADDRESS_ID))
  simp only [isSkeletonWithServiceInstanceIdRegistered, equalRange_append less equal greater,
    decide_eq_true_eq]
  constructor
  · intro nonempty
    cases middle with
    | nil => simp at nonempty
    | cons other rest =>
      exact ⟨other, by simp, pairKey_inj.mp (equal other mem_cons_self)⟩
  · rintro ⟨other, member, same⟩ empty
    have key : keyOf transceivers other = pairKey (instanceId, INVALID_ADDRESS_ID) := by
      rw [keyOf, same]
    rw [mem_append, mem_append] at member
    rcases member with (inFront | inMiddle) | inBack
    · exact absurd key (Nat.ne_of_lt (less other inFront))
    · rw [length_eq_zero_iff.mp (by omega : middle.length = 0)] at inMiddle
      cases inMiddle
    · exact absurd key (Nat.ne_of_gt (greater other inBack))

/-- The transceivers of one instance. -/
theorem mem_getTransceivers_iff {entry : TransceiverContainer Id}
    (sorted : Sorted transceivers entry.container) {instanceId : UInt16} {other : Id} :
    other ∈ getTransceiversByServiceIdAndServiceInstanceId transceivers entry instanceId ↔
      other ∈ entry.container ∧ (transceivers other).instanceId = instanceId := by
  have ordered : entry.container.Pairwise fun first second =>
      (transceivers first).instanceId.toNat ≤ (transceivers second).instanceId.toNat := by
    refine sorted.imp fun {first second} less => ?_
    have bound := (transceivers second).getAddressId.toNat_lt
    simp only [keyOf, pairKey, Transceiver.ids] at less
    omega
  obtain ⟨front, middle, back, containerEq, less, equal, greater⟩ :=
    BinarySearch.exists_split ordered instanceId.toNat
  have range : BinarySearch.equalRange (fun other => (transceivers other).instanceId < instanceId)
      (fun other => instanceId < (transceivers other).instanceId) (front ++ middle ++ back) =
      (front.length, front.length + middle.length) := by
    refine BinarySearch.equalRange_append ?_ ?_ ?_
    · intro entry member
      have smaller := UInt16.lt_iff_toNat_lt.mpr (less entry member)
      exact ⟨decide_eq_true smaller, decide_eq_false (UInt16.lt_asymm smaller)⟩
    · intro entry member
      rw [UInt16.toNat_inj.mp (equal entry member)]
      simp
    · intro entry member
      have larger := UInt16.lt_iff_toNat_lt.mpr (greater entry member)
      exact ⟨decide_eq_false (UInt16.lt_asymm larger), decide_eq_true larger⟩
  have taken : ((front ++ middle ++ back).take (front.length + middle.length)).drop front.length =
      middle := by
    rw [← List.length_append, take_left', drop_left']
    · rfl
    · rfl
  simp only [getTransceiversByServiceIdAndServiceInstanceId, containerEq, range, taken,
    mem_append]
  constructor
  · intro inMiddle
    exact ⟨.inl (.inr inMiddle), UInt16.toNat_inj.mp (equal other inMiddle)⟩
  · rintro ⟨(inFront | inMiddle) | inBack, rfl⟩
    · exact absurd (less other inFront) (Nat.lt_irrefl _)
    · exact inMiddle
    · exact absurd (greater other inBack) (Nat.lt_irrefl _)

/-! ## Containers of a service -/

/-- Either no container has the service id, or the one that has it is found. -/
theorem getTransceiversByServiceId_cases {containers : List (TransceiverContainer Id)}
    (ordered : containers.Pairwise fun first second => first.serviceId < second.serviceId)
    (serviceId : UInt16) :
    (getTransceiversByServiceId containers serviceId = none ∧
        ∀ entry ∈ containers, entry.serviceId ≠ serviceId) ∨
      ∃ before entry after, containers = before ++ entry :: after ∧ entry.serviceId = serviceId ∧
        getTransceiversByServiceId containers serviceId = some (before.length, entry) := by
  by_cases present : ∃ entry ∈ containers, entry.serviceId = serviceId
  · obtain ⟨entry, member, rfl⟩ := present
    have increasing : containers.Pairwise fun first second =>
        first.serviceId.toNat < second.serviceId.toNat :=
      ordered.imp UInt16.lt_iff_toNat_lt.mp
    obtain ⟨before, after, rfl, less, greater⟩ :=
      BinarySearch.exists_split_of_mem increasing member
    refine .inr ⟨before, entry, after, rfl, rfl, ?_⟩
    have position : BinarySearch.partitionPoint
        (fun other : TransceiverContainer Id => other.serviceId < entry.serviceId)
        (before ++ entry :: after) = before.length := by
      refine BinarySearch.partitionPoint_append ?_ ?_
      · exact fun other inside => decide_eq_true (UInt16.lt_iff_toNat_lt.mpr (less other inside))
      · intro other inside
        rcases mem_cons.mp inside with rfl | behind
        · simp
        · exact decide_eq_false
            (UInt16.lt_asymm (UInt16.lt_iff_toNat_lt.mpr (greater other behind)))
    simp [getTransceiversByServiceId, position]
  · have absent : ∀ entry ∈ containers, entry.serviceId ≠ serviceId := by
      intro entry member same
      exact present ⟨entry, member, same⟩
    refine .inl ⟨?_, absent⟩
    rw [getTransceiversByServiceId]
    split
    · rename_i found foundEq
      rw [if_neg (absent found (mem_of_getElem? foundEq))]
    · rfl

end DbManipulator

end OpenBsw.Middleware
