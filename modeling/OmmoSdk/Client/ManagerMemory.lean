/-
# Client.ManagerMemory — `DataManager` with its memory, and its user callbacks

A manager owns a copy of its request and the storages of its devices.  It makes and destroys
storages while packets come in, it answers for them, and it shows each packet to the callback
that a user has registered, as a converted copy which is destroyed when the callback returns.
`Client.PacketRouting` leaves the callbacks out; here they are put on top of it
(`CallingManager`), and the whole runs once more in `ArrayM`.

The manager is an object among its users' answers and lists (`ManagerSession`).  Every run of it
reads like the plain run and owns the arrays that are in memory (`OwnedManager.operations_refine`).
Its destructor is the default one: it takes the storages along and leaves the devices of the
request behind (`OwnedManager.lifetime_leaves_request`).

What a manager does with calls is in `Client.DataManager` and owns nothing.
-/
import OmmoSdk.Client.PacketRouting
import OmmoSdk.Storage.StoreCustody
import OmmoSdk.Theory.OwningMaps

namespace OmmoSdk.Client

open OmmoSdk.Theory
open OmmoSdk.Sdk hiding DataRequest DeviceDescriptor TrackingDeviceData copyDataRequest
  protoToTrackingDeviceData protoToDataFrame
open OmmoSdk.Storage hiding DeviceDataStorage

set_option autoImplicit false

/-! ## User callbacks -/

/-- A data manager and whether its two callbacks are set. -/
structure CallingManager extends DataManager where
  deviceDataUserCallback : Bool := false
  dataFrameUserCallback : Bool := false

/-- What a callback is given. -/
inductive Shown where
  | deviceData (data : Sdk.TrackingDeviceData)
  | dataFrame (frame : DataFrame)

/-- A manager, the answers and lists its users hold, and what was shown to the callbacks. -/
structure ManagerSession (μ ρ ι : Type) where
  manager : μ
  answers : List ρ := []
  lists : List ι := []
  shown : List Shown := []

inductive ManagerOperation where
  | addDeviceStorage (device : Owned.DeviceDescriptor) (bufferSize : Int32 := 500)
  | removeDeviceStorage (deviceId : DeviceID)
  | updateDeviceData (packet : Proto.TrackingDeviceData)
  | updateDataFrame (packet : Proto.DataFrame)
  | registerTrackingDeviceDataCallback
  | resetTrackingDeviceDataCallback
  | registerDataFrameCallback
  | resetDataFrameCallback
  | getLatestData (deviceId : DeviceID)
  | getLatestDataCount (deviceId : DeviceID) (count : Int32)
  | getDataSinceIndex (deviceId : DeviceID) (startIdx : Int32)
  | getDeviceStorageList
  | destroyDataResponse (i : Nat)
  | destroyDeviceIDList (i : Nat)

namespace CallingManager

def updateDeviceData (m : CallingManager) (packet : Proto.TrackingDeviceData) :
    Except Fault (CallingManager × List Shown) := do
  let manager ← m.toDataManager.updateDeviceData packet
  let m := { m with toDataManager := manager }
  if m.deviceDataUserCallback then
    let data ← Sdk.protoToTrackingDeviceData packet
    return (m, [.deviceData data])
  else return (m, [])

def updateDataFrame (m : CallingManager) (packet : Proto.DataFrame) :
    Except Fault (CallingManager × List Shown) := do
  let manager ← m.toDataManager.updateDataFrame packet
  let m := { m with toDataManager := manager }
  if m.dataFrameUserCallback then
    let frame ← Sdk.protoToDataFrame packet
    return (m, [.dataFrame frame])
  else return (m, [])

/-- The callback of a stream that the request does not have is refused. -/
def registerTrackingDeviceDataCallback (m : CallingManager) : CallingManager :=
  if m.streamType ≠ .deviceData then m else { m with deviceDataUserCallback := true }

def registerDataFrameCallback (m : CallingManager) : CallingManager :=
  if m.streamType ≠ .dataFrame then m else { m with dataFrameUserCallback := true }

end CallingManager

abbrev PlainManager :=
  ManagerSession CallingManager (DataResponse Sdk.TrackingDeviceData) (List DeviceID)

namespace PlainManager

/-- The manager changes otherwise than by a packet. -/
def turn (s : PlainManager) (change : DataManager → DataManager) : PlainManager :=
  { s with manager := { s.manager with toDataManager := change s.manager.toDataManager } }

def take (s : PlainManager) (answer : DataResponse Sdk.TrackingDeviceData) : PlainManager :=
  { s with answers := s.answers ++ [answer] }

/-- The operations where nothing owns anything. -/
def step (s : PlainManager) : ManagerOperation → Except Fault PlainManager
  | .addDeviceStorage device bufferSize =>
      return s.turn fun m => m.addDeviceStorage device.contents bufferSize
  | .removeDeviceStorage deviceId => return s.turn fun m => m.removeDeviceStorage deviceId
  | .updateDeviceData packet => do
      let (manager, shown) ← s.manager.updateDeviceData packet
      return { s with manager, shown := s.shown ++ shown }
  | .updateDataFrame packet => do
      let (manager, shown) ← s.manager.updateDataFrame packet
      return { s with manager, shown := s.shown ++ shown }
  | .registerTrackingDeviceDataCallback =>
      return { s with manager := s.manager.registerTrackingDeviceDataCallback }
  | .resetTrackingDeviceDataCallback =>
      return { s with manager := { s.manager with deviceDataUserCallback := false } }
  | .registerDataFrameCallback =>
      return { s with manager := s.manager.registerDataFrameCallback }
  | .resetDataFrameCallback =>
      return { s with manager := { s.manager with dataFrameUserCallback := false } }
  | .getLatestData deviceId => do return s.take (← s.manager.getLatestData deviceId)
  | .getLatestDataCount deviceId count => do
      return s.take (← s.manager.getLatestDataCount deviceId count)
  | .getDataSinceIndex deviceId startIdx => do
      return s.take (← s.manager.getDataSinceIndex deviceId startIdx)
  | .getDeviceStorageList =>
      return { s with lists := s.lists ++ [s.manager.getDeviceStorageList] }
  | .destroyDataResponse i => return { s with answers := s.answers.eraseIdx i }
  | .destroyDeviceIDList i => return { s with lists := s.lists.eraseIdx i }

/-- A new manager, and what is done with it. -/
def run (request : Sdk.DataRequest) (streamType : DataStreamType)
    (operations : List ManagerOperation) : Except Fault PlainManager :=
  operations.foldlM step { manager := { DataManager.init request streamType with } }

end PlainManager

/-! ## The manager in memory -/

namespace Owned

open OmmoSdk.Sdk.Owned hiding DataFrame
open OmmoSdk.Storage.Owned

structure DataManager where
  streamType : DataStreamType
  request : DataRequest
  deviceDataMap : DeviceMap DeviceDataStorage := ∅
  deviceDataUserCallback : Bool := false
  dataFrameUserCallback : Bool := false

namespace DataManager

/-- The constructor makes a deep copy of the request. -/
def create (request : DataRequest) (streamType : DataStreamType) : ArrayM DataManager := do
  let request ← copyDataRequest request
  return { streamType, request }

def addDeviceStorage (m : DataManager) (device : DeviceDescriptor) (bufferSize : Int32 := 500) :
    ArrayM DataManager :=
  if device.contents.hash ∈ m.deviceDataMap then return m
  else do
    let storage ← DeviceDataStorage.create device bufferSize.toUInt32
    return { m with deviceDataMap := m.deviceDataMap.insert device.contents.hash storage }

/-- `erase` destroys the storage. -/
def removeDeviceStorage (m : DataManager) (deviceId : DeviceID) : ArrayM DataManager :=
  match m.deviceDataMap.lookup deviceId.hash with
  | some storage => do
      storage.destroy
      return { m with deviceDataMap := m.deviceDataMap.erase deviceId.hash }
  | none => return m

/-- A packet goes to the storage of its device. -/
def pushPacket (m : DataManager) (packet : Proto.TrackingDeviceData) : ArrayM DataManager :=
  let deviceHash := hash packet.siuUuid packet.portId
  match m.deviceDataMap.lookup deviceHash with
  | some storage => do
      let (_, storage) ← storage.pushData packet
      return { m with deviceDataMap := m.deviceDataMap.insert deviceHash storage }
  | none => return m

/-- The callback gets a copy that is destroyed after it. -/
def updateDeviceData (m : DataManager) (packet : Proto.TrackingDeviceData) :
    ArrayM (DataManager × List Shown) := do
  let m ← m.pushPacket packet
  if m.deviceDataUserCallback then
    let cbPacket ← protoToTrackingDeviceData packet
    destroyTrackingDeviceData (some cbPacket)
    return (m, [.deviceData cbPacket.contents])
  else return (m, [])

def updateDataFrame (m : DataManager) (packet : Proto.DataFrame) :
    ArrayM (DataManager × List Shown) := do
  let m ← packet.deviceData.foldlM pushPacket m
  if m.dataFrameUserCallback then
    let cbPacket ← protoToDataFrame packet
    destroyDataFrame (some cbPacket)
    return (m, [.dataFrame cbPacket.contents])
  else return (m, [])

def registerTrackingDeviceDataCallback (m : DataManager) : DataManager :=
  if m.streamType ≠ .deviceData then m else { m with deviceDataUserCallback := true }

def registerDataFrameCallback (m : DataManager) : DataManager :=
  if m.streamType ≠ .dataFrame then m else { m with dataFrameUserCallback := true }

/-- The body of the queries: an empty answer, or that of the storage in its place. -/
def askStorage (m : DataManager) (deviceId : DeviceID)
    (query : DeviceDataStorage → ArrayM (Response TrackingDeviceData)) :
    ArrayM (Response TrackingDeviceData) :=
  match m.deviceDataMap.lookup deviceId.hash with
  | some storage => query storage
  | none => return {}

def getLatestData (m : DataManager) (deviceId : DeviceID) : ArrayM (Response TrackingDeviceData) :=
  m.askStorage deviceId fun storage => storage.getLatestData

/-- `GetLatestData` with a count. -/
def getLatestDataCount (m : DataManager) (deviceId : DeviceID) (count : Int32) :
    ArrayM (Response TrackingDeviceData) :=
  m.askStorage deviceId fun storage => storage.getLatestDataCount count.toUInt32

def getDataSinceIndex (m : DataManager) (deviceId : DeviceID) (startIdx : Int32) :
    ArrayM (Response TrackingDeviceData) :=
  m.askStorage deviceId fun storage => storage.getDataSinceIndex startIdx.toUInt32

/-- The array is as long as the count of the list, and an `int` counts the storages. -/
def getDeviceStorageList (m : DataManager) : ArrayM (Counted DeviceID) := do
  let elements := inKeyOrder m.deviceDataMap
  let deviceCount := UInt32.ofNat elements.length
  let id ← createArray
  let devices ← forIndex intMax elements.length fun i => do
    let ele ← readElement elements i
    if i < deviceCount.toNat then return (⟨ele.2.device.siuUuid, ele.2.device.portId⟩ : DeviceID)
    else throw (.access .outOfBounds)
  return ⟨deviceCount, .array id devices⟩

/-- The default destructor.  It destroys the storages in the map; `request_` has none. -/
def destroy (m : DataManager) : ArrayM Unit := do
  let _ ← m.deviceDataMap.entries.mapM fun ele => ele.2.destroy
  return

end DataManager

def destroyDeviceIDList : Option (Counted DeviceID) → ArrayM Unit
  | none => return
  | some list => deleteArray list.pointer.id?

abbrev OwnedManager :=
  ManagerSession DataManager (Response TrackingDeviceData) (Counted DeviceID)

namespace OwnedManager

def take (s : OwnedManager) (answer : Response TrackingDeviceData) : OwnedManager :=
  { s with answers := s.answers ++ [answer] }

def step (s : OwnedManager) : ManagerOperation → ArrayM OwnedManager
  | .addDeviceStorage device bufferSize => do
      let manager ← s.manager.addDeviceStorage device bufferSize
      return { s with manager }
  | .removeDeviceStorage deviceId => do
      let manager ← s.manager.removeDeviceStorage deviceId
      return { s with manager }
  | .updateDeviceData packet => do
      let (manager, shown) ← s.manager.updateDeviceData packet
      return { s with manager, shown := s.shown ++ shown }
  | .updateDataFrame packet => do
      let (manager, shown) ← s.manager.updateDataFrame packet
      return { s with manager, shown := s.shown ++ shown }
  | .registerTrackingDeviceDataCallback =>
      return { s with manager := s.manager.registerTrackingDeviceDataCallback }
  | .resetTrackingDeviceDataCallback =>
      return { s with manager := { s.manager with deviceDataUserCallback := false } }
  | .registerDataFrameCallback =>
      return { s with manager := s.manager.registerDataFrameCallback }
  | .resetDataFrameCallback =>
      return { s with manager := { s.manager with dataFrameUserCallback := false } }
  | .getLatestData deviceId => do return s.take (← s.manager.getLatestData deviceId)
  | .getLatestDataCount deviceId count => do
      return s.take (← s.manager.getLatestDataCount deviceId count)
  | .getDataSinceIndex deviceId startIdx => do
      return s.take (← s.manager.getDataSinceIndex deviceId startIdx)
  | .getDeviceStorageList => do
      let list ← s.manager.getDeviceStorageList
      return { s with lists := s.lists ++ [list] }
  | .destroyDataResponse i => do
      destroyDataResponse s.answers[i]?
      return { s with answers := s.answers.eraseIdx i }
  | .destroyDeviceIDList i => do
      destroyDeviceIDList s.lists[i]?
      return { s with lists := s.lists.eraseIdx i }

def run (request : DataRequest) (streamType : DataStreamType)
    (operations : List ManagerOperation) : ArrayM OwnedManager := do
  let manager ← DataManager.create request streamType
  operations.foldlM step { manager }

/-- The manager goes, and then what its users still hold. -/
def close (s : OwnedManager) : ArrayM Unit := do
  s.manager.destroy
  let _ ← s.answers.mapM fun answer => destroyDataResponse (some answer)
  let _ ← s.lists.mapM fun list => destroyDeviceIDList (some list)
  return

end OwnedManager

/-! ## What a user reads, and what is owned -/

namespace DataManager

def contents (m : DataManager) : CallingManager where
  streamType := m.streamType
  request := m.request.contents
  deviceDataMap := mapValues DeviceDataStorage.contents m.deviceDataMap
  deviceDataStreams := ∅
  dataframeStream := none
  deviceDataUserCallback := m.deviceDataUserCallback
  dataFrameUserCallback := m.dataFrameUserCallback

def storesOwned (m : DataManager) : Multiset ArrayId :=
  sumValues DeviceDataStorage.owned m.deviceDataMap

def owned (m : DataManager) : Multiset ArrayId := m.storesOwned + m.request.owned

end DataManager

namespace OwnedManager

def contents (s : OwnedManager) : PlainManager where
  manager := s.manager.contents
  answers := s.answers.map (Response.contents TrackingDeviceData.contents)
  lists := s.lists.map Counted.elements
  shown := s.shown

/-- The arrays of the answers and lists. -/
def held (s : OwnedManager) : Multiset ArrayId :=
  (s.answers.map responseOwned).sum +
    (s.lists.map fun list => (list.ids : Multiset ArrayId)).sum

def owned (s : OwnedManager) : Multiset ArrayId := s.manager.owned + s.held

end OwnedManager

/-! ## One manager -/

/-- The storage has buffers of a possible size, and answers. -/
def Stored (storage : DeviceDataStorage) : Prop :=
  ∃ (N : Nat) (pos : 0 < N), N ≤ 2 ^ 30 ∧ WellKept pos storage.buffers

namespace DataManager

/-- What every operation keeps, with at most `n` storages. -/
structure Kept (n : Nat) (request : DataRequest) (m : DataManager) : Prop where
  stored : ∀ key storage, m.deviceDataMap.lookup key = some storage → Stored storage
  few : m.deviceDataMap.entries.length ≤ n
  request : m.request = request

section Kept

variable {n : Nat} {request : DataRequest} {m : DataManager} {deviceId : DeviceID}
  {kept : Multiset ArrayId} {storage : DeviceDataStorage}

theorem Kept.of_mem (held : m.Kept n request) {ele : Σ _ : UInt64, DeviceDataStorage}
    (member : ele ∈ m.deviceDataMap.entries) : Stored ele.2 :=
  held.stored ele.1 ele.2 (AList.mem_lookup_iff.mpr member)

theorem Kept.insert (held : m.Kept n request) (key : UInt64) (there : Stored storage) :
    Kept (n + 1) request { m with deviceDataMap := m.deviceDataMap.insert key storage } where
  stored other storage' found := by
    by_cases same : other = key
    · rw [same, AList.lookup_insert] at found
      cases found
      exact there
    · rw [AList.lookup_insert_ne same] at found
      exact held.stored other storage' found
  few := by
    show (m.deviceDataMap.insert key storage).entries.length ≤ n + 1
    rw [AList.entries_insert, List.length_cons]
    have fewer := (List.kerase_sublist key m.deviceDataMap.entries).length_le
    have few := held.few
    omega
  request := held.request

/-- A storage in the place of one that was there. -/
theorem Kept.replace (held : m.Kept n request) {key : UInt64} {old : DeviceDataStorage}
    (found : m.deviceDataMap.lookup key = some old) (there : Stored storage) :
    Kept n request { m with deviceDataMap := m.deviceDataMap.insert key storage } where
  stored := (held.insert key there).stored
  few := by
    show (m.deviceDataMap.insert key storage).entries.length ≤ n
    rw [AList.entries_insert, List.length_cons, length_kerase found]
    exact held.few
  request := held.request

theorem Kept.erase (held : m.Kept n request) (key : UInt64) :
    Kept n request { m with deviceDataMap := m.deviceDataMap.erase key } where
  stored other storage' found := by
    by_cases same : other = key
    · rw [same, AList.lookup_erase] at found
      cases found
    · rw [AList.lookup_erase_ne same] at found
      exact held.stored other storage' found
  few := (List.kerase_sublist key m.deviceDataMap.entries).length_le.trans held.few
  request := held.request

theorem Kept.more (held : m.Kept n request) : m.Kept (n + 1) request :=
  { held with few := Nat.le_succ_of_le held.few }

theorem storesOwned_lookup {key : UInt64} (found : m.deviceDataMap.lookup key = some storage) :
    m.owned = storage.owned +
      (sumValues DeviceDataStorage.owned (m.deviceDataMap.erase key) + m.request.owned) := by
  rw [owned, storesOwned, sumValues_lookup found, add_assoc]

end Kept

section Operations

variable {n : Nat} {request : DataRequest} {m : DataManager} {kept : Multiset ArrayId}

/-- The manager reads like `plain` after a turn, with the callbacks that were set. -/
def Turned (m : DataManager) (turn : Except Fault Client.DataManager) (m' : DataManager) : Prop :=
  ∃ plain, turn = .ok plain ∧ m'.contents = { m.contents with toDataManager := plain }

theorem mem_contents {key : UInt64} : key ∈ m.contents.deviceDataMap ↔ key ∈ m.deviceDataMap :=
  mem_mapValues

theorem lookup_contents (key : UInt64) : m.contents.deviceDataMap.lookup key =
    (m.deviceDataMap.lookup key).map DeviceDataStorage.contents := lookup_mapValues

theorem ids_of_elements {α : Type} {xs : Counted α} (some : xs.elements ≠ []) :
    xs.ids.length = 1 := by
  obtain ⟨count, pointer⟩ := xs
  cases pointer with
  | null => exact absurd rfl some
  | array id elements => rfl

/-- The copy of a request owns an array only if there are devices to copy. -/
theorem copyDataRequest_owns {source : DataRequest} (counted : source.WellCounted)
    (short : source.requestedDevices.elements.length ≤ intMax) :
    Allocates (copyDataRequest source) DataRequest.owned fun copy =>
      copy.contents = Sdk.copyDataRequest source.contents ∧
        copy.owned.length = if source.requestedDevices.count = 0 then 0 else 1 := by
  by_cases empty : source.requestedDevices.count = 0
  · intro h
    obtain ⟨copy, run, created, copied⟩ := copyDataRequest_allocates counted short h
    refine ⟨copy, run, created, copied.1, ?_⟩
    have made : copyDataRequest source =
        pure { source with requestedDevices := ⟨source.requestedDevices.count, .null⟩ } := by
      rw [copyDataRequest, if_pos empty]
      rfl
    rw [made] at run
    have none : copy.owned = [] :=
      congrArg (fun result => result.1.owned) (Except.ok.inj run).symm
    rw [if_pos empty, none]
    rfl
  · refine (copyDataRequest_allocates counted short).conseq fun copy copied => ⟨copied.1, ?_⟩
    have same : copy.requestedDevices.elements = source.requestedDevices.elements := by
      have read := copied.1
      rw [Sdk.copyDataRequest_eq] at read
      exact congrArg Sdk.DataRequest.requestedDevices read
    rw [if_neg empty]
    refine ids_of_elements fun none => empty ?_
    rw [same] at none
    have zero : source.requestedDevices.elements.length = source.requestedDevices.count.toNat :=
      counted
    rw [none] at zero
    exact UInt32.toNat_inj.mp zero.symm

theorem create_exchanges (counted : request.WellCounted)
    (short : request.requestedDevices.elements.length ≤ intMax) (streamType : DataStreamType) :
    Exchanges (create request streamType) 0 owned fun m =>
      m.contents = { Client.DataManager.init request.contents streamType with } ∧
        m.Kept 0 m.request ∧
        m.request.owned.length = if request.requestedDevices.count = 0 then 0 else 1 := by
  refine .map (.ofAllocates (copyDataRequest_owns counted short)) (fun copy _ => ?_)
    fun copy copied => ⟨?_, ⟨?_, Nat.le_refl 0, rfl⟩, copied.2⟩
  · show 0 + (copy.owned : Multiset ArrayId) = copy.owned + 0
    rw [zero_add, add_zero]
  · rw [Client.DataManager.init, ← copied.1]
    rfl
  · intro key storage found
    cases found

theorem addDeviceStorage_exchanges (held : m.Kept n request) {device : DeviceDescriptor}
    {bufferSize : Int32} (counted : device.WellCounted) (short : ShortDescriptor device.contents)
    (pos : 1 ≤ bufferSize.toUInt32.toNat) (small : bufferSize.toUInt32.toNat ≤ 2 ^ 30) :
    Exchanges (m.addDeviceStorage device bufferSize) m.owned owned fun m' =>
      m.Turned (.ok (m.contents.addDeviceStorage device.contents bufferSize)) m' ∧
        m'.Kept (n + 1) request := by
  by_cases present : device.contents.hash ∈ m.deviceDataMap
  · rw [addDeviceStorage, if_pos present]
    refine .pure rfl ⟨⟨_, rfl, ?_⟩, held.more⟩
    rw [Client.DataManager.addDeviceStorage, if_pos (mem_contents.mpr present)]
  · rw [addDeviceStorage, if_neg present]
    have creates := Storage.Owned.create_exchanges counted short pos small
    rw [UInt32.ofNat_toNat] at creates
    rw [← zero_add m.owned]
    refine .bind (creates.frame m.owned) fun storage created => .pure ?_ ⟨⟨_, rfl, ?_⟩,
      held.insert _ ⟨_, pos, small, created.2⟩⟩
    · rw [owned, storesOwned, sumValues_insert, erase_of_notMem present, add_assoc]
      rfl
    · rw [Client.DataManager.addDeviceStorage, if_neg (fun there => present (mem_contents.mp there)),
        ← created.1]
      show CallingManager.mk _ _ _ = _
      rw [mapValues_insert]
      rfl

theorem removeDeviceStorage_exchanges (held : m.Kept n request) (deviceId : DeviceID) :
    Exchanges (m.removeDeviceStorage deviceId) m.owned owned fun m' =>
      m.Turned (.ok (m.contents.removeDeviceStorage deviceId)) m' ∧ m'.Kept n request := by
  rw [removeDeviceStorage]
  cases found : m.deviceDataMap.lookup deviceId.hash with
  | none =>
      have absent := AList.lookup_eq_none.mp found
      refine .pure rfl ⟨⟨_, rfl, ?_⟩, held⟩
      rw [Client.DataManager.removeDeviceStorage, if_neg (fun there => absent (mem_contents.mp there))]
  | some storage =>
      obtain ⟨N, pos, small, ⟨h, represents⟩, -⟩ := held.stored _ _ found
      have present : deviceId.hash ∈ m.deviceDataMap :=
        AList.lookup_isSome.mp (by rw [found]; rfl)
      rw [storesOwned_lookup found]
      refine .bind (destroy_exchanges represents.layout.of_map small) fun _ _ =>
        .pure rfl ⟨⟨_, rfl, ?_⟩, held.erase _⟩
      rw [Client.DataManager.removeDeviceStorage, if_pos (mem_contents.mpr present)]
      show CallingManager.mk _ _ _ = _
      rw [mapValues_erase]
      rfl

theorem pushPacket_exchanges (held : m.Kept n request) {packet : Proto.TrackingDeviceData}
    (fits : Fits packet) :
    Exchanges (m.pushPacket packet) m.owned owned fun m' =>
      m.Turned (m.contents.toDataManager.updateDeviceData packet) m' ∧ m'.Kept n request := by
  rw [pushPacket, Client.DataManager.updateDeviceData]
  simp only [lookup_contents]
  cases found : m.deviceDataMap.lookup (hash packet.siuUuid packet.portId) with
  | none => exact .pure rfl ⟨⟨_, rfl, rfl⟩, held⟩
  | some storage =>
      obtain ⟨N, pos, small, wellKept⟩ := held.stored _ _ found
      obtain ⟨accepted, plain, pushed, exchanges⟩ :=
        push_exchanges wellKept (show N < 2 ^ 31 by omega) fun _ => fits
      rw [storesOwned_lookup found]
      simp only [Option.map_some, pushed]
      refine .bind (exchanges.frame _) fun result spec => .pure ?_ ⟨⟨_, rfl, ?_⟩,
        held.replace found ⟨N, pos, small, spec.2⟩⟩
      · rw [owned, storesOwned, sumValues_insert, add_assoc]
      · show CallingManager.mk _ _ _ = _
        rw [mapValues_insert, spec.1]
        rfl

/-- The manager after the packets `done`. -/
def Fed (m : DataManager) (n : Nat) (request : DataRequest) (done : List Proto.TrackingDeviceData)
    (m' : DataManager) : Prop :=
  m.Turned (done.foldlM Client.DataManager.updateDeviceData m.contents.toDataManager) m' ∧
    m'.Kept n request

theorem pushPackets_exchanges (held : m.Kept n request) {packets : List Proto.TrackingDeviceData}
    (fits : ∀ packet ∈ packets, Fits packet) :
    Exchanges (packets.foldlM pushPacket m) m.owned owned (m.Fed n request packets) := by
  have start : m.Fed n request [] m := ⟨⟨_, rfl, rfl⟩, held⟩
  refine Exchanges.foldlM (fun packet member done m' _ fed => ?_) start
  obtain ⟨⟨plain, ran, same⟩, held'⟩ := fed
  refine (pushPacket_exchanges held' (fits packet member)).conseq fun m'' spec => ⟨?_, spec.2⟩
  obtain ⟨⟨next, pushed, same'⟩, -⟩ := spec
  have opened : m'.contents.toDataManager = plain := congrArg CallingManager.toDataManager same
  rw [opened] at pushed
  refine ⟨next, ?_, ?_⟩
  · rw [List.foldlM_append, ran]
    show (List.foldlM Client.DataManager.updateDeviceData plain [packet]) = _
    rw [List.foldlM_cons, pushed]
    rfl
  · rw [same', same]

/-- The copy for the callback comes and goes. -/
theorem updateDeviceData_exchanges (held : m.Kept n request) {packet : Proto.TrackingDeviceData}
    (fits : Fits packet) :
    Exchanges (m.updateDeviceData packet) m.owned (fun result => result.1.owned) fun result =>
      m.contents.updateDeviceData packet = .ok (result.1.contents, result.2) ∧
        result.1.Kept n request := by
  refine .bind (pushPacket_exchanges held fits) fun m' spec => ?_
  obtain ⟨⟨plain, pushed, same⟩, held'⟩ := spec
  have callback : m'.deviceDataUserCallback = m.deviceDataUserCallback :=
    congrArg CallingManager.deviceDataUserCallback same
  rw [CallingManager.updateDeviceData, pushed, callback]
  by_cases called : m.deviceDataUserCallback = true
  · obtain ⟨data, conversion⟩ := fits_conversion fits
    have allocates := protoToTrackingDeviceData_allocates fits.2 conversion
    rw [if_pos called]
    refine .bind (.ofAllocates allocates) fun cbPacket converted => ?_
    have releases := Releases.map (f := fun _ => ())
      (destroyTrackingDeviceDataMembers_releases cbPacket)
    refine .bind (.ofReleases releases) fun _ _ => .pure rfl ⟨?_, held'⟩
    show (if m.deviceDataUserCallback = true then _ else _) = _
    rw [if_pos called, conversion, ← converted.1]
    exact congrArg (fun c => Except.ok (c, _)) same.symm
  · rw [if_neg called]
    refine .pure rfl ⟨?_, held'⟩
    show (if m.deviceDataUserCallback = true then _ else _) = _
    rw [if_neg called]
    exact congrArg (fun c => Except.ok (c, _)) same.symm

theorem updateDataFrame_exchanges (held : m.Kept n request) {packet : Proto.DataFrame}
    (fits : ∀ data ∈ packet.deviceData, Fits data) (sized : packet.deviceData.length ≤ intMax) :
    Exchanges (m.updateDataFrame packet) m.owned (fun result => result.1.owned) fun result =>
      m.contents.updateDataFrame packet = .ok (result.1.contents, result.2) ∧
        result.1.Kept n request := by
  refine .bind (pushPackets_exchanges held fits) fun m' spec => ?_
  obtain ⟨⟨plain, pushed, same⟩, held'⟩ := spec
  have callback : m'.dataFrameUserCallback = m.dataFrameUserCallback :=
    congrArg CallingManager.dataFrameUserCallback same
  have updated : m.contents.toDataManager.updateDataFrame packet = .ok plain := pushed
  rw [CallingManager.updateDataFrame, updated, callback]
  by_cases called : m.dataFrameUserCallback = true
  · obtain ⟨frame, conversion⟩ :=
      (protoToDataFrame_ok_iff packet).mpr fun data member => (fits data member).1
    have allocates := protoToDataFrame_allocates
      ⟨sized, fun data member => (fits data member).2⟩ conversion
    rw [if_pos called]
    refine .bind (.ofAllocates allocates) fun cbPacket converted => ?_
    have releases := destroyEach_releases converted.2.1 destroyTrackingDeviceDataMembers_releases
    -- the array of the packets goes last
    have same' : (cbPacket.owned : Multiset ArrayId) =
        ((cbPacket.deviceData.elements.flatMap TrackingDeviceData.owned ++ cbPacket.deviceData.ids :
          List ArrayId) : Multiset ArrayId) := Multiset.coe_eq_coe.mpr List.perm_append_comm
    rw [same']
    refine .bind (.ofReleases releases) fun _ _ => .pure rfl ⟨?_, held'⟩
    show (if m.dataFrameUserCallback = true then _ else _) = _
    rw [if_pos called, conversion, ← converted.1]
    exact congrArg (fun c => Except.ok (c, _)) same.symm
  · rw [if_neg called]
    refine .pure rfl ⟨?_, held'⟩
    show (if m.dataFrameUserCallback = true then _ else _) = _
    rw [if_neg called]
    exact congrArg (fun c => Except.ok (c, _)) same.symm

theorem registerTrackingDeviceDataCallback_reads (m : DataManager) :
    m.registerTrackingDeviceDataCallback.deviceDataMap = m.deviceDataMap ∧
      m.registerTrackingDeviceDataCallback.request = m.request ∧
      m.registerTrackingDeviceDataCallback.contents =
        m.contents.registerTrackingDeviceDataCallback := by
  rw [registerTrackingDeviceDataCallback, CallingManager.registerTrackingDeviceDataCallback]
  by_cases other : m.streamType ≠ .deviceData
  · rw [if_pos other, if_pos (show m.contents.streamType ≠ .deviceData from other)]
    exact ⟨rfl, rfl, rfl⟩
  · rw [if_neg other, if_neg (show ¬ m.contents.streamType ≠ .deviceData from other)]
    exact ⟨rfl, rfl, rfl⟩

theorem registerDataFrameCallback_reads (m : DataManager) :
    m.registerDataFrameCallback.deviceDataMap = m.deviceDataMap ∧
      m.registerDataFrameCallback.request = m.request ∧
      m.registerDataFrameCallback.contents = m.contents.registerDataFrameCallback := by
  rw [registerDataFrameCallback, CallingManager.registerDataFrameCallback]
  by_cases other : m.streamType ≠ .dataFrame
  · rw [if_pos other, if_pos (show m.contents.streamType ≠ .dataFrame from other)]
    exact ⟨rfl, rfl, rfl⟩
  · rw [if_neg other, if_neg (show ¬ m.contents.streamType ≠ .dataFrame from other)]
    exact ⟨rfl, rfl, rfl⟩

theorem askStorage_exchanges (held : m.Kept n request) (deviceId : DeviceID)
    {query : DeviceDataStorage → ArrayM (Response TrackingDeviceData)}
    {plain : Storage.DeviceDataStorage → Except Fault (DataResponse Sdk.TrackingDeviceData)}
    (answers : ∀ storage, Stored storage → Exchanges (query storage) kept
      (fun response => responseOwned response + kept) fun response =>
        plain storage.contents = .ok (response.contents TrackingDeviceData.contents) ∧
          response.Complete) :
    Exchanges (m.askStorage deviceId query) kept (fun response => responseOwned response + kept)
      fun response => m.contents.askStorage deviceId plain =
          .ok (response.contents TrackingDeviceData.contents) ∧ response.Complete := by
  rw [askStorage, Client.DataManager.askStorage]
  simp only [lookup_contents]
  cases found : m.deviceDataMap.lookup deviceId.hash with
  | none => exact .pure (zero_add _) ⟨rfl, by simp [Response.Complete, ArrayPtr.elements]⟩
  | some storage => exact answers storage (held.stored _ _ found)

theorem inKeyOrder_contents (m : DataManager) : inKeyOrder m.contents.deviceDataMap =
    (inKeyOrder m.deviceDataMap).map fun entry => ⟨entry.1, entry.2.contents⟩ := by
  let s : (Σ _ : UInt64, Storage.DeviceDataStorage) → (Σ _ : UInt64, Storage.DeviceDataStorage) →
    Prop := fun a b => a.1 ≤ b.1
  exact (List.map_insertionSort _ s _ _ fun _ _ _ _ => Iff.rfl).symm

theorem getDeviceStorageList_exchanges (held : m.Kept n request) (few : n ≤ intMax) :
    Exchanges m.getDeviceStorageList kept
      (fun list => (list.ids : Multiset ArrayId) + kept) fun list =>
        list.elements = m.contents.getDeviceStorageList := by
  have reached : (inKeyOrder m.deviceDataMap).length ≤ intMax :=
    (perm_inKeyOrder m.deviceDataMap).length_eq ▸ held.few.trans few
  have size : (UInt32.ofNat (inKeyOrder m.deviceDataMap).length).toNat =
      (inKeyOrder m.deviceDataMap).length := toNat_size reached
  have loop : (forIndex intMax (inKeyOrder m.deviceDataMap).length fun i => do
        let ele ← readElement (inKeyOrder m.deviceDataMap) i
        if i < (inKeyOrder m.deviceDataMap).length then
          return (⟨ele.2.device.siuUuid, ele.2.device.portId⟩ : DeviceID)
        else throw (.access .outOfBounds)) = pure m.contents.getDeviceStorageList := by
    have rounds := forIndex_readElement reached fun ele : Σ _ : UInt64, DeviceDataStorage =>
      (pure ⟨ele.2.device.siuUuid, ele.2.device.portId⟩ : ArrayM DeviceID)
    rw [List.mapM_pure] at rounds
    have listed : m.contents.getDeviceStorageList = (inKeyOrder m.deviceDataMap).map fun ele =>
        ⟨ele.2.device.siuUuid, ele.2.device.portId⟩ := by
      rw [Client.DataManager.getDeviceStorageList, inKeyOrder_contents, List.map_map]
      rfl
    rw [listed, ← rounds]
    refine mapM_congr_of_mem fun i member => ?_
    simp only [if_pos (List.mem_range.mp member)]
  rw [getDeviceStorageList]
  simp only [size, loop, pure_bind]
  refine .bind (.ofAllocates .createArray) fun id _ => ?_
  exact .pure rfl rfl

/-- The storages go; the devices of the request stay. -/
theorem destroy_exchanges (held : m.Kept n request) :
    Exchanges m.destroy (m.owned + kept) (fun _ => (request.owned : Multiset ArrayId) + kept)
      fun _ => True := by
  have each : ∀ ele ∈ m.deviceDataMap.entries,
      Exchanges ele.2.destroy ele.2.owned (fun _ => 0) fun _ => True := by
    intro ele member
    obtain ⟨N, pos, small, ⟨h, represents⟩, -⟩ := held.of_mem member
    rw [← add_zero ele.2.owned]
    exact Storage.Owned.destroy_exchanges represents.layout.of_map small
  have rounds := (Exchanges.mapM each).frame ((request.owned : Multiset ArrayId) + kept)
  rw [owned, held.request, add_assoc]
  refine .map rounds (fun units _ => ?_) fun _ _ => trivial
  rw [List.map_const', List.sum_replicate, smul_zero, zero_add]

end Operations

end DataManager

/-! ## Whole runs -/

/-- The messages can be converted, and a new storage has buffers of a possible size. -/
def Possible : ManagerOperation → Prop
  | .addDeviceStorage device bufferSize =>
      device.WellCounted ∧ ShortDescriptor device.contents ∧
        1 ≤ bufferSize.toUInt32.toNat ∧ bufferSize.toUInt32.toNat ≤ 2 ^ 30
  | .updateDeviceData packet => Fits packet
  | .updateDataFrame packet =>
      packet.deviceData.length ≤ intMax ∧ ∀ data ∈ packet.deviceData, Fits data
  | _ => True

namespace OwnedManager

section Runs

variable {given : Sdk.DataRequest} {streamType : DataStreamType} {request : DataRequest}
  {done : List ManagerOperation} {s s' : OwnedManager} {operation : ManagerOperation}

/-- The manager and its users after the operations `done`; `request` is the copied one. -/
structure After (given : Sdk.DataRequest) (streamType : DataStreamType) (request : DataRequest)
    (done : List ManagerOperation) (s : OwnedManager) : Prop where
  plain : PlainManager.run given streamType done = .ok s.contents
  kept : s.manager.Kept done.length request
  complete : ∀ answer ∈ s.answers, answer.Complete

theorem After.next (after : After given streamType request done s)
    (stepped : PlainManager.step s.contents operation = .ok s'.contents)
    (kept : s'.manager.Kept (done.length + 1) request)
    (complete : ∀ answer ∈ s'.answers, answer.Complete) :
    After given streamType request (done ++ [operation]) s' where
  plain := by
    have before := after.plain
    rw [PlainManager.run] at before ⊢
    rw [List.foldlM_append, before]
    show (List.foldlM PlainManager.step s.contents [operation]) = _
    rw [List.foldlM_cons]
    show (PlainManager.step s.contents operation >>= fun s' => pure s') = _
    rw [stepped]
    rfl
  kept := by
    rw [List.length_append]
    exact kept
  complete := complete

/-- The storages change, and nothing is taken or given back by the users. -/
theorem After.turn {turn : ArrayM DataManager} {plain : Client.DataManager → Client.DataManager}
    (after : After given streamType request done s)
    (exchanges : Exchanges turn s.manager.owned DataManager.owned fun m' =>
      s.manager.Turned (.ok (plain s.manager.contents.toDataManager)) m' ∧
        m'.Kept (done.length + 1) request)
    (owned : s.step operation = do
      let manager ← turn
      return { s with manager })
    (stepped : PlainManager.step s.contents operation = .ok (s.contents.turn plain)) :
    Exchanges (s.step operation) s.owned OwnedManager.owned
      (After given streamType request (done ++ [operation])) := by
  rw [owned]
  refine .bind (exchanges.frame s.held) fun manager spec =>
    .pure rfl (after.next ?_ spec.2 after.complete)
  obtain ⟨⟨next, turned, same⟩, -⟩ := spec
  rw [stepped]
  show _ = Except.ok (ManagerSession.mk manager.contents _ _ _)
  rw [same, ← Except.ok.inj turned]
  rfl

/-- A packet, and what was shown of it. -/
theorem After.update {update : ArrayM (DataManager × List Shown)}
    {plain : Except Fault (CallingManager × List Shown)}
    (after : After given streamType request done s)
    (exchanges : Exchanges update s.manager.owned (fun result => result.1.owned) fun result =>
      plain = .ok (result.1.contents, result.2) ∧ result.1.Kept done.length request)
    (owned : s.step operation = do
      let (manager, shown) ← update
      return { s with manager, shown := s.shown ++ shown })
    (stepped : PlainManager.step s.contents operation = do
      let (manager, shown) ← plain
      return { s.contents with manager, shown := s.contents.shown ++ shown }) :
    Exchanges (s.step operation) s.owned OwnedManager.owned
      (After given streamType request (done ++ [operation])) := by
  rw [owned]
  refine .bind (exchanges.frame s.held) fun result spec =>
    .pure rfl (after.next ?_ spec.2.more after.complete)
  rw [stepped, spec.1]
  rfl

/-- A callback is set or reset. -/
theorem After.setCallback {manager : DataManager} (after : After given streamType request done s)
    (map : manager.deviceDataMap = s.manager.deviceDataMap)
    (same : manager.request = s.manager.request)
    (owned : s.step operation = pure { s with manager })
    (stepped : PlainManager.step s.contents operation =
      .ok { s.contents with manager := manager.contents }) :
    Exchanges (s.step operation) s.owned OwnedManager.owned
      (After given streamType request (done ++ [operation])) := by
  have kept : manager.Kept (done.length + 1) request := by
    obtain ⟨stored, few, there⟩ := after.kept.more
    rw [← map] at stored few
    exact ⟨stored, few, same.trans there⟩
  rw [owned]
  refine .pure ?_ (after.next stepped kept after.complete)
  show manager.owned + s.held = s.owned
  rw [OwnedManager.owned, DataManager.owned, DataManager.owned, DataManager.storesOwned,
    DataManager.storesOwned, map, same]

/-- A query adds its answer to those that are held. -/
theorem After.query {query : ArrayM (Response TrackingDeviceData)}
    {answered : Except Fault (DataResponse Sdk.TrackingDeviceData)}
    (after : After given streamType request done s)
    (exchanges : ∀ kept, Exchanges query kept (fun response => responseOwned response + kept)
      fun response => answered = .ok (response.contents TrackingDeviceData.contents) ∧
        response.Complete)
    (owned : s.step operation = do return s.take (← query))
    (stepped : PlainManager.step s.contents operation = do return s.contents.take (← answered)) :
    Exchanges (s.step operation) s.owned OwnedManager.owned
      (After given streamType request (done ++ [operation])) := by
  rw [owned]
  refine .bind (exchanges s.owned) fun answer spec =>
    .pure ?_ (after.next ?_ after.kept.more ?_)
  · simp only [OwnedManager.owned, take, held, List.map_append, List.sum_append,
      List.map_singleton, List.sum_singleton]
    abel
  · rw [stepped, spec.1]
    simp only [contents, take, PlainManager.take, List.map_append, List.map_singleton]
    rfl
  · intro other member
    rcases List.mem_append.mp member with old | new
    · exact after.complete other old
    · rw [List.mem_singleton.mp new]
      exact spec.2

theorem After.getDeviceStorageList (after : After given streamType request done s)
    (few : done.length ≤ intMax) :
    Exchanges (s.step .getDeviceStorageList) s.owned OwnedManager.owned
      (After given streamType request (done ++ [.getDeviceStorageList])) := by
  refine .bind (DataManager.getDeviceStorageList_exchanges after.kept few) fun list listed =>
    .pure ?_ (after.next ?_ after.kept.more after.complete)
  · simp only [owned, held, List.map_append, List.sum_append, List.map_singleton,
      List.sum_singleton]
    abel
  · rw [PlainManager.step]
    simp only [contents, List.map_append, List.map_singleton, listed]
    rfl

theorem After.destroyDataResponse (after : After given streamType request done s) (i : Nat) :
    Exchanges (s.step (.destroyDataResponse i)) s.owned OwnedManager.owned
      (After given streamType request (done ++ [.destroyDataResponse i])) := by
  have kept : After given streamType request (done ++ [.destroyDataResponse i])
      { s with answers := s.answers.eraseIdx i } := by
    refine after.next ?_ after.kept.more fun answer member =>
      after.complete answer (List.mem_of_mem_eraseIdx member)
    rw [PlainManager.step, contents, contents, List.eraseIdx_map]
    rfl
  rw [step]
  cases found : s.answers[i]? with
  | none =>
      have outside := List.getElem?_eq_none_iff.mp found
      refine .pure ?_ kept
      rw [owned, held, List.eraseIdx_of_length_le outside]
      rfl
  | some answer =>
      have split : s.owned = responseOwned answer + (s.manager.owned +
          (((s.answers.eraseIdx i).map responseOwned).sum +
            (s.lists.map fun list => (list.ids : Multiset ArrayId)).sum)) := by
        rw [owned, held, sum_map_eraseIdx responseOwned found]
        abel
      rw [split]
      exact .bind (destroyDataResponse_exchanges (after.complete answer (List.mem_of_getElem? found)))
        fun _ _ => .pure rfl kept

theorem destroyDeviceIDList_exchanges (list : Counted DeviceID) {kept : Multiset ArrayId} :
    Exchanges (destroyDeviceIDList (some list)) ((list.ids : Multiset ArrayId) + kept)
      (fun _ => kept) fun _ => True :=
  .ofReleases (.deleteArray list.pointer.id?)

theorem After.destroyDeviceIDList (after : After given streamType request done s) (i : Nat) :
    Exchanges (s.step (.destroyDeviceIDList i)) s.owned OwnedManager.owned
      (After given streamType request (done ++ [.destroyDeviceIDList i])) := by
  have kept : After given streamType request (done ++ [.destroyDeviceIDList i])
      { s with lists := s.lists.eraseIdx i } := by
    refine after.next ?_ after.kept.more after.complete
    rw [PlainManager.step, contents, contents, List.eraseIdx_map]
    rfl
  rw [step]
  cases found : s.lists[i]? with
  | none =>
      have outside := List.getElem?_eq_none_iff.mp found
      refine .pure ?_ kept
      rw [owned, held, List.eraseIdx_of_length_le outside]
      rfl
  | some list =>
      have split : s.owned = (list.ids : Multiset ArrayId) + (s.manager.owned +
          ((s.answers.map responseOwned).sum +
            ((s.lists.eraseIdx i).map fun list => (list.ids : Multiset ArrayId)).sum)) := by
        rw [owned, held, sum_map_eraseIdx (fun list : Counted DeviceID => _) found]
        abel
      rw [split]
      exact .bind (destroyDeviceIDList_exchanges list) fun _ _ => .pure rfl kept

theorem After.step (after : After given streamType request done s) (few : done.length ≤ intMax)
    (possible : Possible operation) :
    Exchanges (s.step operation) s.owned OwnedManager.owned
      (After given streamType request (done ++ [operation])) := by
  cases operation with
  | addDeviceStorage device bufferSize =>
      obtain ⟨counted, short, pos, small⟩ := possible
      exact after.turn
        (DataManager.addDeviceStorage_exchanges after.kept counted short pos small) rfl rfl
  | removeDeviceStorage deviceId =>
      have exchanges := DataManager.removeDeviceStorage_exchanges after.kept deviceId
      exact after.turn (exchanges.conseq fun _ spec => ⟨spec.1, spec.2.more⟩) rfl rfl
  | updateDeviceData packet =>
      exact after.update (DataManager.updateDeviceData_exchanges after.kept possible) rfl rfl
  | updateDataFrame packet =>
      exact after.update (DataManager.updateDataFrame_exchanges after.kept possible.2 possible.1)
        rfl rfl
  | registerTrackingDeviceDataCallback =>
      obtain ⟨map, same, read⟩ := s.manager.registerTrackingDeviceDataCallback_reads
      refine after.setCallback map same rfl ?_
      rw [read]
      rfl
  | resetTrackingDeviceDataCallback => refine after.setCallback ?_ ?_ rfl rfl <;> rfl
  | registerDataFrameCallback =>
      obtain ⟨map, same, read⟩ := s.manager.registerDataFrameCallback_reads
      refine after.setCallback map same rfl ?_
      rw [read]
      rfl
  | resetDataFrameCallback => refine after.setCallback ?_ ?_ rfl rfl <;> rfl
  | getLatestData deviceId =>
      refine after.query (fun _ => DataManager.askStorage_exchanges after.kept deviceId ?_) rfl rfl
      rintro storage ⟨N, pos, small, wellKept⟩
      exact getLatestData_exchanges wellKept small
  | getLatestDataCount deviceId count =>
      refine after.query (fun _ => DataManager.askStorage_exchanges after.kept deviceId ?_) rfl rfl
      rintro storage ⟨N, pos, small, wellKept⟩
      exact getLatestDataCount_exchanges wellKept small count.toUInt32
  | getDataSinceIndex deviceId startIdx =>
      refine after.query (fun _ => DataManager.askStorage_exchanges after.kept deviceId ?_) rfl rfl
      rintro storage ⟨N, pos, small, wellKept⟩
      exact getDataSinceIndex_exchanges wellKept small startIdx.toUInt32
  | getDeviceStorageList => exact after.getDeviceStorageList few
  | destroyDataResponse i => exact after.destroyDataResponse i
  | destroyDeviceIDList i => exact after.destroyDeviceIDList i

theorem close_exchanges (after : After given streamType request done s) :
    Exchanges s.close s.owned (fun _ => (request.owned : Multiset ArrayId)) fun _ => True := by
  refine .bind (DataManager.destroy_exchanges after.kept) fun _ _ => ?_
  have answers : ∀ answer ∈ s.answers, Exchanges (Storage.Owned.destroyDataResponse (some answer))
      (responseOwned answer) (fun _ => 0) fun _ => True := by
    intro answer member
    rw [← add_zero (responseOwned answer)]
    exact destroyDataResponse_exchanges (after.complete answer member)
  have lists : ∀ list ∈ s.lists, Exchanges (Owned.destroyDeviceIDList (some list))
      (list.ids : Multiset ArrayId) (fun _ => 0) fun _ => True := by
    intro list _
    rw [← add_zero (list.ids : Multiset ArrayId)]
    exact destroyDeviceIDList_exchanges list
  rw [held, add_left_comm]
  refine .bind ((Exchanges.mapM answers).frame _) fun units _ => ?_
  rw [List.map_const', List.sum_replicate, smul_zero, zero_add, add_comm]
  refine .map ((Exchanges.mapM lists).frame _) (fun units _ => ?_) fun _ _ => trivial
  rw [List.map_const', List.sum_replicate, smul_zero, zero_add]

end Runs

theorem run_exchanges (request : DataRequest) (streamType : DataStreamType)
    (operations : List ManagerOperation) (counted : request.WellCounted)
    (short : request.requestedDevices.elements.length ≤ intMax)
    (few : operations.length ≤ intMax) (possible : ∀ operation ∈ operations, Possible operation) :
    Exchanges (run request streamType operations) 0 owned fun s => ∃ copy : DataRequest,
      After request.contents streamType copy operations s ∧
        copy.owned.length = if request.requestedDevices.count = 0 then 0 else 1 := by
  refine .bind (DataManager.create_exchanges counted short streamType) fun manager created => ?_
  obtain ⟨same, kept, copied⟩ := created
  have start : After request.contents streamType manager.request [] { manager } := by
    refine ⟨?_, kept, fun _ member => by cases member⟩
    rw [contents, same]
    rfl
  have sole : owned { manager } = manager.owned := add_zero _
  rw [← sole]
  refine (Exchanges.foldlM (fun operation member done s fewer after => ?_) start).conseq
    fun s after => ⟨manager.request, after, copied⟩
  rw [List.length_nil, Nat.zero_add] at fewer
  exact after.step (fewer.le.trans few) (possible operation member)

/-- **A data manager with its memory refines the plain one, over whole runs.**  Storages are made
and removed, packets and frames come in, callbacks are set and reset, and users ask and destroy
what they got, in any order: the run ends without a fault; what the callbacks were shown, the
answers and lists that are held and the manager itself read as in the plain run; and the arrays
that the run has left in memory are those of the manager, of the answers and of the lists, none
shared. -/
theorem operations_refine (request : DataRequest) (streamType : DataStreamType)
    (operations : List ManagerOperation) (counted : request.WellCounted)
    (short : request.requestedDevices.elements.length ≤ intMax)
    (few : operations.length ≤ intMax) (possible : ∀ operation ∈ operations, Possible operation)
    (h : Arrays) :
    ∃ s after, (run request streamType operations).run h = .ok (s, after) ∧
      PlainManager.run request.contents streamType operations = .ok s.contents ∧
      after.live.val = s.owned + h.live.val ∧ Arrays.Evolved h after := by
  obtain ⟨s, after, run, live, evolved, copy, held, -⟩ :=
    run_exchanges request streamType operations counted short few possible h h.live.val
      (zero_add _).symm
  exact ⟨s, after, run, held.plain, live, evolved⟩

/-- A user asks for the one device there is, looks at it once and registers a callback. -/
def oneRequest : DataRequest where
  dataFieldMask := 0
  reportInterval := 0
  bufferDepth := 0
  requestedFusionMode := 0
  includeRawSensorData := false
  requestedDevices := ⟨1, .array 0 [⟨7, 1⟩]⟩

def oneDevice : List ManagerOperation :=
  [.addDeviceStorage OwnedSession.buttonDevice 1, .updateDeviceData (OwnedSession.buttonMessage 1),
    .getLatestData ⟨7, 1⟩, .registerTrackingDeviceDataCallback,
    .updateDeviceData (OwnedSession.buttonMessage 2), .getDeviceStorageList,
    .removeDeviceStorage ⟨7, 1⟩]

theorem possible_oneDevice : ∀ operation ∈ oneDevice, Possible operation := by
  intro operation member
  simp only [oneDevice, List.mem_cons, List.not_mem_nil, or_false] at member
  rcases member with rfl | rfl | rfl | rfl | rfl | rfl | rfl
  · exact ⟨⟨rfl, rfl⟩, ⟨by decide, by decide⟩, by decide, by decide⟩
  · exact OwnedSession.fits_buttonMessage 1
  · trivial
  · trivial
  · exact OwnedSession.fits_buttonMessage 2
  · trivial
  · trivial

theorem operations_refine_oneDevice :
    ∃ s after, (run oneRequest .deviceData oneDevice).run .empty = .ok (s, after) ∧
      (s.contents.answers.map fun answer => answer.packets.map (Option.map (·.data.buttons))) =
        [[some [1]]] ∧
      s.lists.map Counted.elements = [[⟨7, 1⟩]] ∧ s.shown.length = 1 ∧
      after.live.val = s.owned := by
  obtain ⟨s, after, run, plain, live, -⟩ := operations_refine oneRequest .deviceData oneDevice rfl
    (by decide) (by decide) possible_oneDevice .empty
  have seen : (PlainManager.run oneRequest.contents .deviceData oneDevice).toOption.map
      (fun session => (session.answers.map fun answer =>
        answer.packets.map (Option.map (·.data.buttons)), session.lists, session.shown.length)) =
      some ([[some [1]]], [[⟨7, 1⟩]], 1) := by
    decide +kernel
  rw [plain] at seen
  have all := Option.some.inj seen
  exact ⟨s, after, run, congrArg Prod.fst all, congrArg (·.2.1) all, congrArg (·.2.2) all,
    live.trans (add_zero _)⟩

/-- **The devices of a request are never deleted.**  A manager is created, used in any way and
destroyed, and then the answers and lists that are still held are: what is left in memory is one
array if the request named devices, and none otherwise. -/
theorem lifetime_leaves_request (request : DataRequest) (streamType : DataStreamType)
    (operations : List ManagerOperation) (counted : request.WellCounted)
    (short : request.requestedDevices.elements.length ≤ intMax)
    (few : operations.length ≤ intMax) (possible : ∀ operation ∈ operations, Possible operation)
    (h : Arrays) :
    ∃ after left, (run request streamType operations >>= close).run h = .ok ((), after) ∧
      after.live.val = left + h.live.val ∧ Arrays.Evolved h after ∧
      left.card = (if request.requestedDevices.count = 0 then 0 else 1) ∧
      (Arrays.Balanced h after ↔ request.requestedDevices.count = 0) := by
  obtain ⟨s, between, ran, live, evolved, copy, held, length⟩ :=
    run_exchanges request streamType operations counted short few possible h h.live.val
      (zero_add _).symm
  obtain ⟨⟨⟩, after, closed, left, evolved', -⟩ := close_exchanges held between h.live.val live
  replace left : after.live.val = (copy.owned : Multiset ArrayId) + h.live.val := left
  have whole := evolved.trans evolved'
  refine ⟨after, copy.owned, ?_, left, whole, length, ?_⟩
  · rw [run_bind ran, closed]
  constructor
  · intro balanced
    by_contra named
    rw [balanced.live] at left
    have none := (Multiset.coe_eq_zero _).mp (right_eq_add.mp left)
    rw [if_neg named, none] at length
    cases length
  · intro unnamed
    rw [if_pos unnamed, List.length_eq_zero_iff] at length
    rw [length] at left
    exact whole.balanced (Finset.val_inj.mp (left.trans (zero_add _)))

theorem lifetime_leaves_request_oneDevice :
    ∃ after left, (run oneRequest .deviceData oneDevice >>= close).run .empty = .ok ((), after) ∧
      after.live.val = left ∧ left.card = 1 ∧ ¬ Arrays.Balanced .empty after := by
  obtain ⟨after, left, run, live, -, card, balanced⟩ := lifetime_leaves_request oneRequest
    .deviceData oneDevice rfl (by decide) (by decide) possible_oneDevice .empty
  exact ⟨after, left, run, live.trans (add_zero _), card, fun b => absurd (balanced.mp b) (by decide)⟩

end OwnedManager

end Owned

end OmmoSdk.Client
