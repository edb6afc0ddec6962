/-
# Client.PacketRouting — the packets of a data manager and their storages

A `DataManager` gets the packets of all its devices in one stream, singly or in data
frames, and pushes each into the storage that has the key of the packet's device.  The
user callbacks that run after a push are left out: they get a copy of the packet.

Under the keys of devices the storages are a family of `Theory.KeyedStores`
(`run_routed`), so a manager answers for a device as a storage of its own would
(`answers_per_device`).  What is said there of different keys is all there is: ids with
one key share a storage and a stream (`apart_iff`).
-/
import OmmoSdk.Client.DataManager
import OmmoSdk.Storage.PacketOrigin
import OmmoSdk.Theory.KeyedStores

namespace OmmoSdk.Client

open OmmoSdk.Theory
open OmmoSdk.Sdk
open OmmoSdk.Storage

set_option autoImplicit false

namespace DataManager

/-! ## Packets and queries -/

/-- The body of `UpdateDeviceData`, and of the loop of `UpdateDataFrame`. -/
def updateDeviceData (m : DataManager) (packet : Proto.TrackingDeviceData) :
    Except Fault DataManager :=
  let deviceHash := hash packet.siuUuid packet.portId
  match m.deviceDataMap.lookup deviceHash with
  | some storage => do
      let (_, storage) ← storage.pushData packet
      return { m with deviceDataMap := m.deviceDataMap.insert deviceHash storage }
  | none => .ok m

def updateDataFrame (m : DataManager) (packet : Proto.DataFrame) : Except Fault DataManager :=
  packet.deviceData.foldlM updateDeviceData m

def getDeviceStorageList (m : DataManager) : List DeviceID :=
  (inKeyOrder m.deviceDataMap).map fun ele => ele.2.device.id

/-- The body of the queries: ask the storage of the device, if there is one. -/
def askStorage (m : DataManager) (deviceId : DeviceID)
    (query : DeviceDataStorage → Except Fault (DataResponse TrackingDeviceData)) :
    Except Fault (DataResponse TrackingDeviceData) :=
  match m.deviceDataMap.lookup deviceId.hash with
  | some storage => query storage
  | none => .ok PacketBuffers.emptyResponse

def getLatestData (m : DataManager) (deviceId : DeviceID) :
    Except Fault (DataResponse TrackingDeviceData) :=
  m.askStorage deviceId fun storage => storage.getLatestData

/-- `GetLatestData` with a count. -/
def getLatestDataCount (m : DataManager) (deviceId : DeviceID) (count : Int32) :
    Except Fault (DataResponse TrackingDeviceData) :=
  m.askStorage deviceId fun storage => storage.getLatestDataCount count.toUInt32

def getDataSinceIndex (m : DataManager) (deviceId : DeviceID) (startIdx : Int32) :
    Except Fault (DataResponse TrackingDeviceData) :=
  m.askStorage deviceId fun storage => storage.getDataSinceIndex startIdx.toUInt32

/-! ## Runs of operations -/

inductive Operation where
  | addDeviceStorage (device : DeviceDescriptor) (bufferSize : Int32 := 500)
  | removeDeviceStorage (deviceId : DeviceID)
  | addDataStream (deviceId : DeviceID) (callData : CallId)
  | removeDataStream (deviceId : DeviceID)
  | updateDeviceData (packet : Proto.TrackingDeviceData)
  | updateDataFrame (packet : Proto.DataFrame)

def Operation.apply (m : DataManager) : Operation → Except Fault DataManager
  | .addDeviceStorage device bufferSize => .ok (m.addDeviceStorage device bufferSize)
  | .removeDeviceStorage deviceId => .ok (m.removeDeviceStorage deviceId)
  | .addDataStream deviceId callData => .ok (m.addDataStream deviceId callData).2
  | .removeDataStream deviceId => .ok (m.removeDataStream deviceId).2
  | .updateDeviceData packet => m.updateDeviceData packet
  | .updateDataFrame packet => m.updateDataFrame packet

def runOperations (m : DataManager) (operations : List Operation) : Except Fault DataManager :=
  operations.foldlM Operation.apply m

/-- The device that a packet is of. -/
def packetId (packet : Proto.TrackingDeviceData) : DeviceID := ⟨packet.siuUuid, packet.portId⟩

/-- The devices an operation names. -/
def Operation.ids : Operation → List DeviceID
  | .addDeviceStorage device _ => [device.id]
  | .removeDeviceStorage deviceId => [deviceId]
  | .addDataStream deviceId _ => [deviceId]
  | .removeDataStream deviceId => [deviceId]
  | .updateDeviceData packet => [packetId packet]
  | .updateDataFrame packet => packet.deviceData.map packetId

/-! ## The storages as a keyed family -/

/-- The storages under the keys of the devices. -/
def storages : KeyedStores DeviceID UInt64 DeviceDataStorage Proto.TrackingDeviceData Fault where
  key := DeviceID.hash
  address := packetId
  push storage packet := (storage.pushData packet).map Prod.snd

/-- What an operation does to the storages, one packet at a time. -/
def Operation.routed :
    Operation → List (KeyedStores.Operation DeviceID DeviceDataStorage Proto.TrackingDeviceData)
  | .addDeviceStorage device bufferSize =>
      [.create device.id (DeviceDataStorage.init device bufferSize.toUInt32)]
  | .removeDeviceStorage deviceId => [.remove deviceId]
  | .addDataStream _ _ => []
  | .removeDataStream _ => []
  | .updateDeviceData packet => [.feed packet]
  | .updateDataFrame packet => packet.deviceData.map .feed

section Routing

variable {m m' : DataManager} {operation : Operation} {operations : List Operation}

theorem updateDeviceData_routed (m : DataManager) (packet : Proto.TrackingDeviceData) :
    (m.updateDeviceData packet).map (·.deviceDataMap) =
      storages.apply m.deviceDataMap (.feed packet) := by
  simp only [updateDeviceData, KeyedStores.apply, storages, packetId, DeviceID.hash]
  cases m.deviceDataMap.lookup (hash packet.siuUuid packet.portId) with
  | none => rfl
  | some storage =>
      simp only
      cases storage.pushData packet with
      | error fault => rfl
      | ok outcome => rfl

theorem run_single (map : DeviceMap DeviceDataStorage)
    (operation : KeyedStores.Operation DeviceID DeviceDataStorage Proto.TrackingDeviceData) :
    storages.run [operation] map = storages.apply map operation := by
  rw [KeyedStores.run, List.foldlM_cons]
  cases storages.apply map operation <;> rfl

theorem foldlM_routed (packets : List Proto.TrackingDeviceData) (m : DataManager) :
    (packets.foldlM updateDeviceData m).map (·.deviceDataMap) =
      storages.run (packets.map .feed) m.deviceDataMap := by
  induction packets generalizing m with
  | nil => rfl
  | cons packet rest ih =>
      have first := updateDeviceData_routed m packet
      rw [List.foldlM_cons, List.map_cons, KeyedStores.run, List.foldlM_cons, ← first]
      cases m.updateDeviceData packet with
      | error fault => rfl
      | ok next => exact ih next

theorem apply_routed (m : DataManager) (operation : Operation) :
    (operation.apply m).map (·.deviceDataMap) = storages.run operation.routed m.deviceDataMap := by
  cases operation with
  | addDeviceStorage device bufferSize =>
      rw [Operation.routed, run_single]
      by_cases present : device.hash ∈ m.deviceDataMap <;>
        simp [Operation.apply, addDeviceStorage, KeyedStores.apply, storages, Except.map, present]
  | removeDeviceStorage deviceId =>
      rw [Operation.routed, run_single]
      by_cases present : deviceId.hash ∈ m.deviceDataMap <;>
        simp [Operation.apply, removeDeviceStorage, KeyedStores.apply, storages, Except.map, present]
  | addDataStream deviceId callData | removeDataStream deviceId =>
      simp [Operation.apply, Operation.routed, Except.map, KeyedStores.run, pure, Except.pure]
  | updateDeviceData packet =>
      rw [Operation.routed, run_single]
      exact updateDeviceData_routed m packet
  | updateDataFrame packet => exact foldlM_routed packet.deviceData m

/-- **A data manager routes its packets** as the keyed family does. -/
theorem run_routed (operations : List Operation) (m : DataManager) :
    (m.runOperations operations).map (·.deviceDataMap) =
      storages.run (operations.flatMap Operation.routed) m.deviceDataMap := by
  induction operations generalizing m with
  | nil => rfl
  | cons operation rest ih =>
      have first := apply_routed m operation
      rw [runOperations, List.foldlM_cons, List.flatMap_cons, KeyedStores.run_append, ← first]
      cases operation.apply m with
      | error fault => rfl
      | ok next => exact ih next

theorem ids_routed {routed : KeyedStores.Operation DeviceID DeviceDataStorage Proto.TrackingDeviceData}
    (member : routed ∈ operation.routed) : storages.id routed ∈ operation.ids := by
  cases operation with
  | updateDataFrame packet =>
      obtain ⟨entry, inside, rfl⟩ := List.mem_map.mp member
      exact List.mem_map_of_mem inside
  | _ => simp_all [Operation.routed, Operation.ids, KeyedStores.id, storages]

end Routing

/-! ## One storage for each device -/

/-- The storage that was made last for a device and not removed, and the packets of the
device since. -/
def carried (deviceId : DeviceID) (operations : List Operation) :
    Option (DeviceDataStorage × List Proto.TrackingDeviceData) :=
  (operations.flatMap Operation.routed).foldl (storages.history deviceId) none

/-- The manager answers for a device as a storage does that was given the packets, or, with no
storage, that there is no data. -/
def AnswersAs (m : DataManager) (deviceId : DeviceID) :
    Option (DeviceDataStorage × List Proto.TrackingDeviceData) → Prop
  | some (storage, packets) =>
      ∃ results last, storage.pushAll packets = .ok (results, last) ∧
        m.getLatestData deviceId = last.getLatestData ∧
        (∀ count, m.getLatestDataCount deviceId count = last.getLatestDataCount count.toUInt32) ∧
        ∀ startIdx, m.getDataSinceIndex deviceId startIdx = last.getDataSinceIndex startIdx.toUInt32
  | none =>
      m.getLatestData deviceId = .ok PacketBuffers.emptyResponse ∧
        (∀ count, m.getLatestDataCount deviceId count = .ok PacketBuffers.emptyResponse) ∧
        ∀ startIdx, m.getDataSinceIndex deviceId startIdx = .ok PacketBuffers.emptyResponse

/-- The operation names devices with ports of eight bits. -/
def Operation.Narrow (operation : Operation) : Prop :=
  ∀ deviceId ∈ operation.ids, deviceId.portId.toNat < 256

/-- The operation meets no undefined behaviour: its packets can be converted, and a new storage
has buffers of a possible size. -/
def Operation.Sound : Operation → Prop
  | .addDeviceStorage _ bufferSize => 1 ≤ bufferSize.toUInt32.toNat ∧ bufferSize.toUInt32.toNat < 2 ^ 31
  | .updateDeviceData packet => packet.PosesAligned
  | .updateDataFrame packet => ∀ entry ∈ packet.deviceData, entry.PosesAligned
  | _ => True

section Splitting

variable {m m' : DataManager} {operations : List Operation} {deviceId : DeviceID}

theorem map_of_run (ran : m.runOperations operations = .ok m') :
    storages.run (operations.flatMap Operation.routed) m.deviceDataMap = .ok m'.deviceDataMap := by
  rw [← run_routed, ran]
  rfl

theorem feedAll_eq (storage : DeviceDataStorage) (packets : List Proto.TrackingDeviceData) :
    storages.feedAll storage packets = (storage.pushAll packets).map Prod.snd := by
  induction packets generalizing storage with
  | nil => rfl
  | cons packet rest ih =>
      simp only [KeyedStores.feedAll, List.foldlM_cons, DeviceDataStorage.pushAll, storages]
      cases storage.pushData packet with
      | error fault => rfl
      | ok outcome =>
          have later := ih outcome.2
          simp only [KeyedStores.feedAll, storages] at later
          simp only [Except.map, bind, Except.bind] at later ⊢
          rw [later]
          cases outcome.2.pushAll rest <;> rfl

theorem narrow_routed (narrow : ∀ operation ∈ operations, operation.Narrow)
    {routed : KeyedStores.Operation DeviceID DeviceDataStorage Proto.TrackingDeviceData}
    (member : routed ∈ operations.flatMap Operation.routed) :
    (storages.id routed).portId.toNat < 256 := by
  obtain ⟨operation, inside, here⟩ := List.mem_flatMap.mp member
  exact narrow operation inside _ (ids_routed here)

theorem answersAs_of_holds {seen : Option (DeviceDataStorage × List Proto.TrackingDeviceData)}
    (holds : storages.Holds m.deviceDataMap deviceId seen) : m.AnswersAs deviceId seen := by
  cases seen with
  | none =>
      have absent : m.deviceDataMap.lookup deviceId.hash = none := holds
      simp [AnswersAs, getLatestData, getLatestDataCount, getDataSinceIndex, askStorage, absent]
  | some past =>
      obtain ⟨last, fed, found⟩ := holds
      have found' : m.deviceDataMap.lookup deviceId.hash = some last := found
      rw [feedAll_eq] at fed
      cases pushed : past.1.pushAll past.2 with
      | error fault =>
          rw [pushed] at fed
          cases fed
      | ok outcome =>
          rw [pushed] at fed
          cases fed
          refine ⟨outcome.1, outcome.2, pushed, ?_⟩
          simp [getLatestData, getLatestDataCount, getDataSinceIndex, askStorage, found']

theorem created_routed {store : DeviceDataStorage}
    (member : .create deviceId store ∈ operations.flatMap Operation.routed) :
    ∃ device bufferSize, .addDeviceStorage device bufferSize ∈ operations ∧ device.id = deviceId ∧
      DeviceDataStorage.init device bufferSize.toUInt32 = store := by
  obtain ⟨operation, inside, here⟩ := List.mem_flatMap.mp member
  cases operation with
  | addDeviceStorage device bufferSize =>
      simp only [Operation.routed, List.mem_singleton, KeyedStores.Operation.create.injEq] at here
      exact ⟨device, bufferSize, inside, here.1.symm, here.2.symm⟩
  | _ => simp [Operation.routed] at here

theorem fed_sound (sound : ∀ operation ∈ operations, operation.Sound) {packet : Proto.TrackingDeviceData}
    (member : .feed packet ∈ operations.flatMap Operation.routed) : packet.PosesAligned := by
  obtain ⟨operation, inside, here⟩ := List.mem_flatMap.mp member
  have fine := sound operation inside
  cases operation with
  | updateDeviceData packet' =>
      simp only [Operation.routed, List.mem_singleton, KeyedStores.Operation.feed.injEq] at here
      subst here
      exact fine
  | updateDataFrame frame =>
      obtain ⟨entry, listed, same⟩ := List.mem_map.mp here
      cases same
      exact fine _ listed
  | _ => simp [Operation.routed] at here

theorem pushData_device {storage next : DeviceDataStorage} {packet : Proto.TrackingDeviceData}
    (pushed : storages.push storage packet = .ok next) : next.device = storage.device := by
  simp only [storages, DeviceDataStorage.pushData] at pushed
  split at pushed
  · cases pushed
    rfl
  · cases converted : protoToTrackingDeviceData packet with
    | error fault => simp [converted, bind, Except.bind, Except.map] at pushed
    | ok data =>
        cases stored : storage.buffers.push (fun _ => 0) data with
        | error fault => simp [converted, stored, bind, Except.bind, Except.map] at pushed
        | ok buffers =>
            simp only [converted, stored, bind, Except.bind, Except.map, pure, Except.pure] at pushed
            cases pushed
            rfl

/-- A message that can be converted meets no undefined behaviour. -/
theorem push_ok {N : Nat} {pos : 0 < N} {storage : DeviceDataStorage} {h : List TrackingDeviceData}
    {packet : Proto.TrackingDeviceData} (represents : PacketBuffers.Represents pos storage.buffers h)
    (small : N < 2 ^ 31) (aligned : packet.PosesAligned) :
    ∃ next, storages.push storage packet = .ok next ∧
      ∃ h', PacketBuffers.Represents pos next.buffers h' := by
  cases own : DeviceDataStorage.carries storage.device packet with
  | false =>
      refine ⟨storage, ?_, h, represents⟩
      simp only [storages, DeviceDataStorage.pushData_other storage packet own, Except.map]
  | true =>
      obtain ⟨data, converted⟩ := protoToTrackingDeviceData_ok packet aligned
      obtain ⟨after, pushed, kept⟩ := PacketBuffers.push_represents represents small (fun _ => 0) data
      refine ⟨{ storage with buffers := after }, ?_, _, kept⟩
      simp only [storages, DeviceDataStorage.pushData_own storage packet own, converted, pushed, bind,
        Except.bind, pure, Except.pure, Except.map]

/-- Every storage is filed under the key of its device. -/
theorem filed_of_run (start : m.deviceDataMap = ∅) (narrow : ∀ operation ∈ operations, operation.Narrow)
    (ran : m.runOperations operations = .ok m') :
    ∀ key storage, m'.deviceDataMap.lookup key = some storage →
      storage.device.hash = key ∧ storage.device.portId.toNat < 256 := by
  refine KeyedStores.run_invariant
    (fun key storage => storage.device.hash = key ∧ storage.device.portId.toNat < 256)
    ?_ ?_ ?_ (map_of_run ran)
  · intro deviceId store member
    obtain ⟨device, bufferSize, -, rfl, rfl⟩ := created_routed member
    have port : device.id.portId.toNat < 256 := narrow_routed narrow member
    simp only [DeviceDataStorage.init, copyDeviceDescriptor_eq]
    exact ⟨rfl, port⟩
  · intro packet member storage next filed pushed
    rw [pushData_device pushed]
    exact filed
  · intro key storage found
    rw [start] at found
    cases found

/-- With keys of their own, the devices of the storages are listed by increasing keys. -/
theorem keys_getDeviceStorageList
    (filed : ∀ key storage, m.deviceDataMap.lookup key = some storage →
      storage.device.hash = key ∧ storage.device.portId.toNat < 256) :
    (m.getDeviceStorageList.map DeviceID.hash).Pairwise (· < ·) := by
  have keys : m.getDeviceStorageList.map DeviceID.hash =
      (inKeyOrder m.deviceDataMap).map Sigma.fst := by
    rw [getDeviceStorageList, List.map_map]
    exact List.map_congr_left fun ele member => (filed _ _ (mem_inKeyOrder.mp member)).1
  rw [keys]
  exact keys_inKeyOrder m.deviceDataMap

/-- Each of them is listed once, and no other device is. -/
theorem getDeviceStorageList_spec
    (filed : ∀ key storage, m.deviceDataMap.lookup key = some storage →
      storage.device.hash = key ∧ storage.device.portId.toNat < 256) :
    m.getDeviceStorageList.Nodup ∧ ∀ deviceId, deviceId ∈ m.getDeviceStorageList ↔
      deviceId.portId.toNat < 256 ∧ m.deviceDataMap.lookup deviceId.hash ≠ none := by
  constructor
  · refine List.Nodup.of_map DeviceID.hash ((keys_getDeviceStorageList filed).imp ?_)
    exact fun less => UInt64.ne_of_lt less
  · intro deviceId
    rw [getDeviceStorageList, List.mem_map]
    constructor
    · rintro ⟨ele, member, rfl⟩
      have found := mem_inKeyOrder.mp member
      obtain ⟨key, port⟩ := filed _ _ found
      refine ⟨port, ?_⟩
      rw [DeviceDescriptor.hash_id, key, found]
      simp
    · rintro ⟨port, present⟩
      obtain ⟨storage, found⟩ := Option.ne_none_iff_exists'.mp present
      obtain ⟨key, narrow⟩ := filed _ _ found
      refine ⟨⟨deviceId.hash, storage⟩, mem_inKeyOrder.mpr found, ?_⟩
      exact hash_injective narrow port key

/-- **A data manager splits its packets**: for every sequence of operations on devices with
ports of eight bits, it answers for each device as a storage of its own that was given the
packets of that device since the storage was made, and lists exactly the devices that have
one, each once.  Only undefined behaviour of a push keeps it from this. -/
theorem answers_per_device (request : DataRequest) (streamType : DataStreamType)
    (operations : List Operation) (narrow : ∀ operation ∈ operations, operation.Narrow) :
    (∀ m, (init request streamType).runOperations operations = .ok m →
      (∀ deviceId : DeviceID, deviceId.portId.toNat < 256 →
        m.AnswersAs deviceId (carried deviceId operations)) ∧
      m.getDeviceStorageList.Nodup ∧
      ∀ deviceId, deviceId ∈ m.getDeviceStorageList ↔
        deviceId.portId.toNat < 256 ∧ carried deviceId operations ≠ none) ∧
    ((∀ operation ∈ operations, operation.Sound) →
      ∃ m, (init request streamType).runOperations operations = .ok m) := by
  have split : ∀ m, (init request streamType).runOperations operations = .ok m →
      ∀ deviceId : DeviceID, deviceId.portId.toNat < 256 →
        storages.Holds m.deviceDataMap deviceId (carried deviceId operations) := by
    intro m ran deviceId port
    have start : storages.Holds (init request streamType).deviceDataMap deviceId none := rfl
    refine KeyedStores.run_lookup ?_ start (map_of_run ran)
    intro routed member same
    exact hash_injective (narrow_routed narrow member) port same
  constructor
  · intro m ran
    obtain ⟨once, listed⟩ := getDeviceStorageList_spec (filed_of_run rfl narrow ran)
    refine ⟨fun deviceId port => answersAs_of_holds (split m ran deviceId port), once, ?_⟩
    intro deviceId
    rw [listed]
    refine and_congr_right fun port => ?_
    have holds := split m ran deviceId port
    cases seen : carried deviceId operations with
    | none =>
        rw [seen] at holds
        simpa using (show m.deviceDataMap.lookup deviceId.hash = none from holds)
    | some past =>
        rw [seen] at holds
        obtain ⟨last, -, found⟩ := holds
        have found' : m.deviceDataMap.lookup deviceId.hash = some last := found
        simp [found']
  · intro sound
    have ends : ∃ map, storages.run (operations.flatMap Operation.routed) ∅ = .ok map := by
      refine KeyedStores.run_total
        (fun storage => ∃ N, ∃ pos : 0 < N, N < 2 ^ 31 ∧ ∃ h,
          PacketBuffers.Represents pos storage.buffers h) ?_ ?_ ?_
      · intro deviceId store member
        obtain ⟨device, bufferSize, inside, -, rfl⟩ := created_routed member
        obtain ⟨pos, small⟩ := sound _ inside
        refine ⟨_, pos, small, [], ?_⟩
        have fresh := PacketBuffers.init_represents (δ := TrackingDeviceData) pos small
        rw [UInt32.ofNat_toNat] at fresh
        exact fresh
      · rintro packet member storage ⟨N, pos, small, h, represents⟩
        obtain ⟨next, pushed, h', kept⟩ := push_ok represents small (fed_sound sound member)
        exact ⟨next, pushed, N, pos, small, h', kept⟩
      · intro key storage found
        cases found
    obtain ⟨map, ends⟩ := ends
    have routed := run_routed operations (init request streamType)
    cases ran : (init request streamType).runOperations operations with
    | error fault =>
        rw [ran] at routed
        have same : storages.run (operations.flatMap Operation.routed) ∅ = .error fault := routed.symm
        rw [ends] at same
        cases same
    | ok m => exact ⟨m, rfl⟩

/-- A frame with an entry of a stranger, and a storage that is taken away and made again: only
the packet that came after it was made is there. -/
theorem answers_per_device_made_again :
    ∃ m, (init {} .dataFrame).runOperations
          [.addDeviceStorage ⟨7, 1, 0, 0, [], [], 0, false⟩ 2,
            .updateDataFrame ⟨[{ siuUuid := 7, portId := 1 }, { siuUuid := 9, portId := 9 }]⟩,
            .removeDeviceStorage ⟨7, 1⟩, .addDeviceStorage ⟨7, 1, 0, 0, [], [], 0, false⟩ 2,
            .updateDeviceData { siuUuid := 7, portId := 1, timestamp := 5 }] = .ok m ∧
      m.AnswersAs ⟨7, 1⟩ (some (DeviceDataStorage.init ⟨7, 1, 0, 0, [], [], 0, false⟩ 2,
        [{ siuUuid := 7, portId := 1, timestamp := 5 }])) ∧
      m.AnswersAs ⟨9, 9⟩ none := by
  obtain ⟨answers, fine⟩ := answers_per_device {} .dataFrame
    [.addDeviceStorage ⟨7, 1, 0, 0, [], [], 0, false⟩ 2,
      .updateDataFrame ⟨[{ siuUuid := 7, portId := 1 }, { siuUuid := 9, portId := 9 }]⟩,
      .removeDeviceStorage ⟨7, 1⟩, .addDeviceStorage ⟨7, 1, 0, 0, [], [], 0, false⟩ 2,
      .updateDeviceData { siuUuid := 7, portId := 1, timestamp := 5 }]
    (by simp [Operation.Narrow, Operation.ids, packetId, DeviceDescriptor.id])
  obtain ⟨m, ran⟩ := fine (by simp [Operation.Sound, Proto.TrackingDeviceData.PosesAligned]; decide)
  exact ⟨m, ran, (answers m ran).1 ⟨7, 1⟩ (by decide), (answers m ran).1 ⟨9, 9⟩ (by decide)⟩

end Splitting

/-! ## Devices side by side -/

/-- The same answers for a device. -/
structure SameAnswers (deviceId : DeviceID) (m m' : DataManager) : Prop where
  isStorageAvailable : m'.isStorageAvailable deviceId = m.isStorageAvailable deviceId
  dataStreamExists : m'.dataStreamExists deviceId = m.dataStreamExists deviceId
  getLatestData : m'.getLatestData deviceId = m.getLatestData deviceId
  getLatestDataCount : ∀ count, m'.getLatestDataCount deviceId count = m.getLatestDataCount deviceId count
  getDataSinceIndex :
    ∀ startIdx, m'.getDataSinceIndex deviceId startIdx = m.getDataSinceIndex deviceId startIdx

/-- Operations on one device never change what is answered for the other. -/
def Isolated (a b : DeviceID) : Prop :=
  ∀ (m m' : DataManager) (operations : List Operation),
    (∀ operation ∈ operations, ∀ deviceId ∈ operation.ids, deviceId = a) →
      m.runOperations operations = .ok m' → SameAnswers b m m'

/-- The size of a new storage: the code asks for 500 packets everywhere. -/
def Operation.Sized : Operation → Prop
  | .addDeviceStorage _ bufferSize => 1 ≤ bufferSize.toUInt32.toNat ∧ bufferSize.toUInt32.toNat ≤ 2 ^ 30
  | _ => True

open PacketBuffers in
/-- While only devices of `inUse` are named, all packets that are answered for the device are
of the device. -/
def CarriesOwn (inUse : Set DeviceID) (deviceId : DeviceID) : Prop :=
  ∀ (request : DataRequest) (streamType : DataStreamType) (operations : List Operation) (m : DataManager),
    (∀ operation ∈ operations, operation.Sized ∧ ∀ named ∈ operation.ids, named ∈ inUse) →
      (init request streamType).runOperations operations = .ok m →
        AnswersFrom (DeviceDataStorage.IsOf deviceId) (m.getLatestData deviceId) ∧
        (∀ count, AnswersFrom (DeviceDataStorage.IsOf deviceId) (m.getLatestDataCount deviceId count)) ∧
        ∀ startIdx, AnswersFrom (DeviceDataStorage.IsOf deviceId) (m.getDataSinceIndex deviceId startIdx)

section Apart

variable {m m' : DataManager} {operation : Operation} {operations : List Operation} {a b : DeviceID}
  {inUse : Set DeviceID}

theorem updateDeviceData_streams {packet : Proto.TrackingDeviceData}
    (ran : m.updateDeviceData packet = .ok m') : m'.deviceDataStreams = m.deviceDataStreams := by
  cases found : m.deviceDataMap.lookup (hash packet.siuUuid packet.portId) with
  | none =>
      simp only [updateDeviceData, found] at ran
      cases ran
      rfl
  | some storage =>
      cases pushed : storage.pushData packet with
      | error fault => simp [updateDeviceData, found, pushed, bind, Except.bind] at ran
      | ok outcome =>
          simp only [updateDeviceData, found, pushed, bind, Except.bind, pure, Except.pure] at ran
          cases ran
          rfl

theorem updateDataFrame_streams {packets : List Proto.TrackingDeviceData}
    (ran : packets.foldlM updateDeviceData m = .ok m') : m'.deviceDataStreams = m.deviceDataStreams := by
  induction packets generalizing m with
  | nil =>
      cases ran
      rfl
  | cons packet rest ih =>
      rw [List.foldlM_cons] at ran
      cases first : m.updateDeviceData packet with
      | error fault => simp [first, bind, Except.bind] at ran
      | ok next =>
          simp only [first, bind, Except.bind] at ran
          rw [ih ran, updateDeviceData_streams first]

theorem apply_streams (only : ∀ deviceId ∈ operation.ids, deviceId = a) (apart : a.hash ≠ b.hash)
    (ran : operation.apply m = .ok m') :
    m'.deviceDataStreams.lookup b.hash = m.deviceDataStreams.lookup b.hash := by
  cases operation with
  | addDataStream deviceId callData =>
      obtain rfl : deviceId = a := only _ List.mem_cons_self
      cases ran
      unfold addDataStream
      split
      · rfl
      · exact AList.lookup_insert_ne apart.symm
  | removeDataStream deviceId =>
      obtain rfl : deviceId = a := only _ List.mem_cons_self
      cases ran
      unfold removeDataStream
      split
      · exact AList.lookup_erase_ne apart.symm
      · rfl
  | updateDeviceData packet => rw [updateDeviceData_streams ran]
  | updateDataFrame packet => rw [updateDataFrame_streams ran]
  | addDeviceStorage device bufferSize | removeDeviceStorage deviceId =>
      cases ran
      simp only [addDeviceStorage, removeDeviceStorage]
      split <;> rfl

theorem run_streams (only : ∀ operation ∈ operations, ∀ deviceId ∈ operation.ids, deviceId = a)
    (apart : a.hash ≠ b.hash) (ran : m.runOperations operations = .ok m') :
    m'.deviceDataStreams.lookup b.hash = m.deviceDataStreams.lookup b.hash := by
  induction operations generalizing m with
  | nil =>
      cases ran
      rfl
  | cons operation rest ih =>
      rw [runOperations, List.foldlM_cons] at ran
      cases first : operation.apply m with
      | error fault => simp [first, bind, Except.bind] at ran
      | ok next =>
          simp only [first, bind, Except.bind] at ran
          obtain ⟨here, others⟩ := List.forall_mem_cons.mp only
          exact (ih others ran).trans (apply_streams here apart first)

theorem sameAnswers_of_lookups (storage : m'.deviceDataMap.lookup b.hash = m.deviceDataMap.lookup b.hash)
    (stream : m'.deviceDataStreams.lookup b.hash = m.deviceDataStreams.lookup b.hash) :
    SameAnswers b m m' where
  isStorageAvailable := by
    simp only [DataManager.isStorageAvailable, ← AList.lookup_isSome, storage]
  dataStreamExists := by
    simp only [DataManager.dataStreamExists, ← AList.lookup_isSome, stream]
  getLatestData := by simp only [DataManager.getLatestData, askStorage, storage]
  getLatestDataCount count := by simp only [DataManager.getLatestDataCount, askStorage, storage]
  getDataSinceIndex startIdx := by simp only [DataManager.getDataSinceIndex, askStorage, storage]

/-- Devices with different keys are isolated. -/
theorem isolated_of_apart (apart : a.hash ≠ b.hash) : Isolated a b := by
  intro m m' operations only ran
  refine sameAnswers_of_lookups ?_ (run_streams only apart ran)
  change m'.deviceDataMap.lookup (storages.key b) = m.deviceDataMap.lookup (storages.key b)
  refine KeyedStores.run_other ?_ (map_of_run ran)
  intro routed member
  obtain ⟨operation, inside, here⟩ := List.mem_flatMap.mp member
  rw [only operation inside _ (ids_routed here)]
  exact apart.symm

theorem isStorageAvailable_add (device : DeviceDescriptor) :
    (m.addDeviceStorage device).isStorageAvailable device.id = true := by
  rw [DataManager.isStorageAvailable, decide_eq_true_eq, addDeviceStorage]
  split
  · assumption
  · exact (AList.mem_insert _).mpr (.inl rfl)

/-- One that shares the key of the other is not. -/
theorem not_isolated_of_shared (shared : a.hash = b.hash) : ¬ Isolated a b := by
  intro isolated
  let device : DeviceDescriptor := ⟨a.siuUuid, a.portId, 0, 0, [], [], 0, false⟩
  have answers := isolated (init {} .dataFrame) _ [.addDeviceStorage device]
    (by simp [Operation.ids, device, DeviceDescriptor.id]) rfl
  have before : (init {} .dataFrame).isStorageAvailable b = false := rfl
  have added := isStorageAvailable_add (m := init {} .dataFrame) device
  have same : device.id.hash = b.hash := shared
  rw [DataManager.isStorageAvailable, same] at added
  have after : ((init {} .dataFrame).addDeviceStorage device).isStorageAvailable b = false :=
    answers.isStorageAvailable.trans before
  rw [DataManager.isStorageAvailable, added] at after
  cases after

theorem pushData_of_push {storage next : DeviceDataStorage} {packet : Proto.TrackingDeviceData}
    (pushed : storages.push storage packet = .ok next) :
    ∃ accepted, storage.pushData packet = .ok (accepted, next) := by
  have pushed' : (storage.pushData packet).map Prod.snd = .ok next := pushed
  cases ran : storage.pushData packet with
  | error fault => simp [ran, Except.map] at pushed'
  | ok outcome =>
      simp only [ran, Except.map, Except.ok.injEq] at pushed'
      exact ⟨outcome.1, by rw [← pushed']⟩

/-- A storage is filed under the key of its device, which is in use, and has only packets
of it. -/
def OwnStorage (inUse : Set DeviceID) (key : UInt64) (storage : DeviceDataStorage) : Prop :=
  storage.device.hash = key ∧ storage.device.id ∈ inUse ∧ storage.OwnPackets

theorem ownStorage_of_run (start : m.deviceDataMap = ∅)
    (named : ∀ operation ∈ operations, operation.Sized ∧ ∀ named ∈ operation.ids, named ∈ inUse)
    (ran : m.runOperations operations = .ok m') :
    ∀ key storage, m'.deviceDataMap.lookup key = some storage → OwnStorage inUse key storage := by
  refine KeyedStores.run_invariant (OwnStorage inUse) ?_ ?_ ?_ (map_of_run ran)
  · intro deviceId store member
    obtain ⟨device, bufferSize, inside, rfl, rfl⟩ := created_routed member
    obtain ⟨sized, ids⟩ := named _ inside
    refine ⟨?_, ?_, DeviceDataStorage.init_ownPackets device sized.1 sized.2⟩
    · rw [DeviceDataStorage.init, copyDeviceDescriptor_eq]
      rfl
    · rw [DeviceDataStorage.init, copyDeviceDescriptor_eq]
      exact ids _ List.mem_cons_self
  · rintro packet - storage next ⟨filed, used, own⟩ pushed
    obtain ⟨accepted, pushed'⟩ := pushData_of_push pushed
    rw [OwnStorage, pushData_device pushed]
    exact ⟨filed, used, DeviceDataStorage.pushData_ownPackets own pushed'⟩
  · intro key storage found
    rw [start] at found
    cases found

theorem carriesOwn_of_injective (injective : Set.InjOn DeviceID.hash inUse) (used : b ∈ inUse) :
    CarriesOwn inUse b := by
  intro request streamType operations m named ran
  have all := ownStorage_of_run rfl named ran
  simp only [getLatestData, getLatestDataCount, getDataSinceIndex, askStorage]
  cases found : m.deviceDataMap.lookup b.hash with
  | none =>
      exact ⟨PacketBuffers.answersFrom_empty, fun _ => PacketBuffers.answersFrom_empty,
        fun _ => PacketBuffers.answersFrom_empty⟩
  | some storage =>
      obtain ⟨filed, member, own⟩ := all _ _ found
      obtain rfl : storage.device.id = b := injective member used filed
      exact ⟨DeviceDataStorage.getLatestData_own own,
        fun count => DeviceDataStorage.getLatestDataCount_own own count.toUInt32,
        fun startIdx => DeviceDataStorage.getDataSinceIndex_own own startIdx.toUInt32⟩

/-- **Devices side by side.**  The devices in use are isolated from each other, and get their own
packets only, exactly when no two of them have one key. -/
theorem apart_iff (inUse : Set DeviceID) :
    ((∀ a ∈ inUse, ∀ b ∈ inUse, a ≠ b → Isolated a b) ∧ ∀ b ∈ inUse, CarriesOwn inUse b) ↔
      Set.InjOn DeviceID.hash inUse := by
  constructor
  · rintro ⟨isolated, -⟩ a usedA b usedB shared
    by_contra distinct
    exact not_isolated_of_shared shared (isolated a usedA b usedB distinct)
  · intro injective
    refine ⟨?_, fun b used => carriesOwn_of_injective injective used⟩
    intro a usedA b usedB distinct
    exact isolated_of_apart fun shared => distinct (injective usedA usedB shared)

/-- Two devices with one key: adding a storage for the first makes one for the second, and the
packet of the first is answered for the second. -/
theorem shared_key :
    (⟨1, 0⟩ : DeviceID) ≠ ⟨0, 256⟩ ∧
      (init {} .dataFrame).isStorageAvailable ⟨0, 256⟩ = false ∧
      ∃ m, (init {} .dataFrame).runOperations
          [.addDeviceStorage ⟨1, 0, 0, 0, [], [], 0, false⟩ 2,
            .updateDeviceData { siuUuid := 1, portId := 0 }] = .ok m ∧
        m.isStorageAvailable ⟨0, 256⟩ = true ∧
        ∃ p, m.getLatestData ⟨0, 256⟩ = .ok ⟨.success, [some p], 1⟩ ∧
          p.data.siuUuid = 1 ∧ p.data.portId = 0 := by
  refine ⟨by decide, by decide, _, rfl, by decide, _, rfl, rfl, rfl⟩

end Apart

end DataManager

end OmmoSdk.Client
