import OpenBsw.Data.BinarySearch

/-!
# Transceiver database

Each service has a container of pointers to transceivers, sorted by the pairs
of instance and address id that the transceivers hold themselves.  Entries are
located by binary search with these keys.

Pointers are values of any type; what they point to is a function on it.
`etl::sort` leaves the order of equal keys open; the model keeps it.
-/

namespace OpenBsw.Middleware

def INVALID_INSTANCE_ID : UInt16 := 65535

def INVALID_ADDRESS_ID : UInt8 := 255

/-- The results of the database. -/
inductive HRESULT
  | InstanceAlreadyRegistered
  | TransceiverInitializationFailed
  | ServiceNotFound
  | SkeletonWithThisServiceIdAlreadyRegistered
  | Ok
  deriving DecidableEq, Repr

/-- A proxy or a skeleton. -/
structure Transceiver where
  isSkeleton : Bool
  serviceId : UInt16
  instanceId : UInt16 := INVALID_INSTANCE_ID
  addressId : UInt8 := INVALID_ADDRESS_ID
  deriving DecidableEq, Repr

namespace Transceiver

/-- Skeletons do not use address ids. -/
def getAddressId (transceiver : Transceiver) : UInt8 :=
  if transceiver.isSkeleton then INVALID_ADDRESS_ID else transceiver.addressId

def setInstanceId (transceiver : Transceiver) (instanceId : UInt16) : Transceiver :=
  { transceiver with instanceId }

def setAddressId (transceiver : Transceiver) (addressId : UInt8) : Transceiver :=
  if transceiver.isSkeleton then transceiver else { transceiver with addressId }

/-- The pair the containers are sorted by. -/
def ids (transceiver : Transceiver) : UInt16 × UInt8 :=
  (transceiver.instanceId, transceiver.getAddressId)

end Transceiver

structure TransceiverContainer (Id : Type) where
  container : List Id
  capacity : Nat
  serviceId : UInt16
  actualAddress : UInt16
  deriving DecidableEq, Repr

/-- The containers, and the transceivers behind the pointers. -/
structure Database (Id : Type) where
  containers : List (TransceiverContainer Id)
  transceivers : Id → Transceiver

namespace DbManipulator

/-- `TransceiverComparator`: the comparison of two pairs. -/
def transceiverComparator (lhs rhs : UInt16 × UInt8) : Bool :=
  lhs.1 < rhs.1 ∨ (¬rhs.1 < lhs.1 ∧ lhs.2 < rhs.2)

variable {Id : Type}

/-- The position of a container and the container, or `none` for the end. -/
def getTransceiversByServiceId (containers : List (TransceiverContainer Id))
    (serviceId : UInt16) : Option (Nat × TransceiverContainer Id) :=
  let position := BinarySearch.partitionPoint (fun entry => entry.serviceId < serviceId) containers
  match containers[position]? with
  | some entry => if entry.serviceId = serviceId then some (position, entry) else none
  | none => none

/-- The transceivers of one instance. -/
def getTransceiversByServiceIdAndServiceInstanceId (transceivers : Id → Transceiver)
    (entry : TransceiverContainer Id) (instanceId : UInt16) : List Id :=
  let range := BinarySearch.equalRange (fun other => (transceivers other).instanceId < instanceId)
    (fun other => instanceId < (transceivers other).instanceId) entry.container
  (entry.container.take range.2).drop range.1

/-- The positions of the transceivers with some ids. -/
def equalRange (transceivers : Id → Transceiver) (container : List Id) (ids : UInt16 × UInt8) :
    Nat × Nat :=
  BinarySearch.equalRange (fun other => transceiverComparator (transceivers other).ids ids)
    (fun other => transceiverComparator ids (transceivers other).ids) container

def lowerBound (transceivers : Id → Transceiver) (container : List Id) (ids : UInt16 × UInt8) :
    Nat :=
  BinarySearch.partitionPoint (fun other => transceiverComparator (transceivers other).ids ids)
    container

/-- The position of the transceiver, or `none` for the end. -/
def findTransceiver (transceivers : Id → Transceiver) (transceiver : Id) (container : List Id) :
    Option Nat :=
  let position := lowerBound transceivers container (transceivers transceiver).ids
  match container[position]? with
  | some found =>
    if (transceivers found).ids = (transceivers transceiver).ids then some position else none
  | none => none

def isSkeletonWithServiceInstanceIdRegistered (transceivers : Id → Transceiver)
    (container : List Id) (instanceId : UInt16) : Bool :=
  let range := equalRange transceivers container (instanceId, INVALID_ADDRESS_ID)
  range.1 ≠ range.2

def getSkeletonByServiceIdAndServiceInstanceId (database : Database Id)
    (serviceId instanceId : UInt16) : Option Id :=
  match getTransceiversByServiceId database.containers serviceId with
  | some (_, entry) =>
    let range := equalRange database.transceivers entry.container
      (instanceId, INVALID_ADDRESS_ID)
    if range.1 ≠ range.2 then entry.container[range.1]? else none
  | none => none

/-- The address id is narrowed to the eight bits of the dummy transceiver. -/
def getTransceiver (database : Database Id) (serviceId instanceId addressId : UInt16) :
    Option Id :=
  match getTransceiversByServiceId database.containers serviceId with
  | some (_, entry) =>
    let ids := (instanceId, addressId.toUInt8)
    match entry.container[lowerBound database.transceivers entry.container ids]? with
    | some found =>
      if transceiverComparator ids (database.transceivers found).ids then none else some found
    | none => none
  | none => none

/-- The loop that draws an address id: count on while a transceiver of the
instance has the number as its address id. -/
def drawAddress (used : List UInt8) : Nat → UInt16 → UInt16
  | 0, actualAddress => actualAddress
  | rounds + 1, actualAddress =>
    if used.any fun addressId => addressId.toUInt16 = actualAddress then
      drawAddress used rounds (actualAddress + 1)
    else actualAddress

/-- `etl::sort` with the comparator. -/
def sort (transceivers : Id → Transceiver) (container : List Id) : List Id :=
  container.insertionSort fun lhs rhs =>
    transceiverComparator (transceivers rhs).ids (transceivers lhs).ids = false

variable [DecidableEq Id]

def setInstanceId (transceivers : Id → Transceiver) (transceiver : Id) (instanceId : UInt16) :
    Id → Transceiver :=
  Function.update transceivers transceiver ((transceivers transceiver).setInstanceId instanceId)

def setAddressId (transceivers : Id → Transceiver) (transceiver : Id) (addressId : UInt8) :
    Id → Transceiver :=
  Function.update transceivers transceiver ((transceivers transceiver).setAddressId addressId)

/-- Take the entry at a position out and put the transceiver in, with its new
instance id. -/
def reinsert (database : Database Id) (index : Nat) (entry : TransceiverContainer Id)
    (position : Nat) (transceiver : Id) (instanceId : UInt16) : Database Id :=
  let transceivers := setInstanceId database.transceivers transceiver instanceId
  { containers := database.containers.set index
      { entry with
        container := sort transceivers (entry.container.eraseIdx position ++ [transceiver]) }
    transceivers }

/-- `subscribe` for a proxy. -/
def subscribeProxy (database : Database Id) (proxy : Id) (instanceId : UInt16) :
    HRESULT × Database Id :=
  let result : HRESULT × Database Id :=
    match getTransceiversByServiceId database.containers
        (database.transceivers proxy).serviceId with
    | none => (.ServiceNotFound, database)
    | some (index, entry) =>
      match findTransceiver database.transceivers proxy entry.container with
      | some position => (.Ok, reinsert database index entry position proxy instanceId)
      | none =>
        if entry.container.length = entry.capacity then
          (.TransceiverInitializationFailed, database)
        else
          let range := getTransceiversByServiceIdAndServiceInstanceId database.transceivers
            entry instanceId
          let address := drawAddress
            (range.map fun other => (database.transceivers other).getAddressId)
            65536 entry.actualAddress
          let transceivers := setInstanceId
            (setAddressId database.transceivers proxy address.toUInt8) proxy instanceId
          (.Ok,
            { containers := database.containers.set index
                { entry with
                  container := sort transceivers (entry.container ++ [proxy])
                  actualAddress := address + 1 }
              transceivers })
  if result.1 = .Ok then result
  else (result.1, { result.2 with
    transceivers := setInstanceId result.2.transceivers proxy INVALID_INSTANCE_ID })

/-- `subscribe` for a skeleton. -/
def subscribeSkeleton (database : Database Id) (skeleton : Id) (instanceId : UInt16) :
    HRESULT × Database Id :=
  let result : HRESULT × Database Id :=
    match getTransceiversByServiceId database.containers
      (database.transceivers skeleton).serviceId with
    | none => (.ServiceNotFound, database)
    | some (index, entry) =>
      match findTransceiver database.transceivers skeleton entry.container with
      | some position =>
        (.InstanceAlreadyRegistered, reinsert database index entry position skeleton instanceId)
      | none =>
        if isSkeletonWithServiceInstanceIdRegistered database.transceivers entry.container
          instanceId then (.SkeletonWithThisServiceIdAlreadyRegistered, database)
        else if entry.container.length = entry.capacity then
          (.TransceiverInitializationFailed, database)
        else
          let transceivers := setInstanceId database.transceivers skeleton instanceId
          (.Ok,
            { containers := database.containers.set index
                { entry with container := sort transceivers (entry.container ++ [skeleton]) }
              transceivers })
  if result.1 = .Ok ∨ result.1 = .InstanceAlreadyRegistered then result
  else (result.1, { result.2 with
    transceivers := setInstanceId result.2.transceivers skeleton INVALID_INSTANCE_ID })

def unsubscribe (database : Database Id) (transceiver : Id) (serviceId : UInt16) : Database Id :=
  match getTransceiversByServiceId database.containers serviceId with
  | none => database
  | some (index, entry) =>
    let range := equalRange database.transceivers entry.container
      (database.transceivers transceiver).ids
    let matching := range.1 +
      ((entry.container.take range.2).drop range.1).findIdx fun other =>
        (database.transceivers other).getAddressId =
          (database.transceivers transceiver).getAddressId
    -- The end of the range is compared with the end of the container.
    if matching ≠ entry.container.length then
      { containers := database.containers.set index
          { entry with container := entry.container.eraseIdx matching }
        transceivers := setAddressId database.transceivers transceiver INVALID_ADDRESS_ID }
    else database

end DbManipulator

end OpenBsw.Middleware
