/-
# Client.RegistryRuns — the request registry over whole runs

A run is a sequence of device events, requests and closes, executed one at a time.
`coherent_of_runs` holds of every run.  `registry_invariant` is about the runs whose
events are of devices with ports of eight bits, which are the devices with a key of
their own: after each operation the connected devices are those of the last events, and
each manager on the list has the storages and the live calls its request asks for.
-/
import OmmoSdk.Client.Registry

namespace OmmoSdk.Client.ClientManager

open OmmoSdk.Theory
open OmmoSdk.Sdk
open OmmoSdk.Storage

set_option autoImplicit false

inductive Operation where
  | deviceEvent (event : Proto.TrackingDeviceEvent)
  | requestDeviceData (request : DataRequest)
  | requestDataFrame (request : DataRequest)
  | closeRequest (manager : ManagerId)

def Operation.apply (order : IterationOrder DeviceDescriptor) (w : ClientManager) :
    Operation → ClientManager
  | .deviceEvent event => deviceEventProcessor order w event
  | .requestDeviceData request => (ClientManager.requestDeviceData order w request).1
  | .requestDataFrame request => (ClientManager.requestDataFrame order w request).1
  | .closeRequest manager => ClientManager.closeRequest w manager

/-- `run` executed from the start, its operations one at a time.  An operation meets the
connected devices in an order of its own. -/
inductive Runs : List Operation → ClientManager → Prop
  | start : Runs [] init
  | next {run : List Operation} {w : ClientManager} (before : Runs run w)
      (operation : Operation) (order : IterationOrder DeviceDescriptor) :
      Runs (run ++ [operation]) (operation.apply order w)

def Operation.event : Operation → Option TrackingDeviceEvent
  | .deviceEvent event => some (protoToTrackingDeviceEvent event)
  | _ => none

/-- A device event is of a device with a port of eight bits. -/
def Operation.Narrow : Operation → Prop
  | .deviceEvent event => event.device.portId.toNat < 256
  | _ => True

/-- The last event of a device. -/
def lastEvent (run : List Operation) (deviceId : DeviceID) : Option TrackingDeviceEvent :=
  ((run.filterMap Operation.event).filter fun event => event.device.id = deviceId).getLast?

/-- The descriptor of the last event of a device, if it was connected then. -/
def lastConnected (run : List Operation) (deviceId : DeviceID) : Option DeviceDescriptor :=
  (lastEvent run deviceId).bind fun event => if event.connected then some event.device else none

/-! ## What should hold after each operation -/

/-- `connected_devices_` holds the devices whose last event was connected. -/
structure ConnectedBy (run : List Operation) (w : ClientManager) : Prop where
  lookup : ∀ deviceId : DeviceID, deviceId.portId.toNat < 256 →
    w.connectedDevices.lookup deviceId.hash = lastConnected run deviceId
  keys : ∀ key device, w.connectedDevices.lookup key = some device →
    device.hash = key ∧ device.portId.toNat < 256

/-- A device data manager has a storage, an entry and one live call, the stored one, for
each device it should serve, and none for any other. -/
structure DeviceDataServed (w : ClientManager) (m : ManagerId) (manager : DataManager) : Prop where
  storages : ∀ key, key ∈ manager.deviceDataMap ↔ Wanted w.connectedDevices manager key
  streams : ∀ key, key ∈ manager.deviceDataStreams ↔ Wanted w.connectedDevices manager key
  calls : ∀ key callData, LiveCall w.calls (.device m key) callData ↔
    manager.deviceDataStreams.lookup key = some callData

/-- A data frame manager has a storage for each device it should serve and one live call,
the stored one, which tracks these devices. -/
structure DataFrameServed (w : ClientManager) (m : ManagerId) (manager : DataManager) : Prop where
  storages : ∀ key, key ∈ manager.deviceDataMap ↔ Wanted w.connectedDevices manager key
  stream : ∃ callData request, manager.dataframeStream = some callData ∧
    w.calls[callData]? = some { stream := .dataFrame m request } ∧
    ∀ key, (∃ device ∈ request.trackingDevices, hash device.siuUuid device.portId = key) ↔
      Wanted w.connectedDevices manager key
  calls : ∀ callData, LiveCall w.calls (.frame m) callData ↔
    manager.dataframeStream = some callData

/-- Manager `m` has what its request and the connected devices call for. -/
def ManagerServed (w : ClientManager) (m : ManagerId) : Prop :=
  ∃ manager, w.dataManagers[m]? = some manager ∧
    match manager.streamType with
    | .deviceData => DeviceDataServed w m manager
    | .dataFrame => DataFrameServed w m manager

/-! ## One operation -/

section Step

variable {run : List Operation} {w : ClientManager}

theorem coherent_init : Coherent init where
  registered slot callData := by
    constructor
    · intro live
      cases live.lt
    · intro pointer
      cases slot <;> cases pointer
  keyed key device found := by cases found
  listed m member := by cases member
  distinct := List.nodup_nil

theorem upToDate_init : UpToDate init where
  narrow key device found := by cases found
  served m member := by cases member

theorem coherent_apply (order : IterationOrder DeviceDescriptor) (coherent : Coherent w)
    (operation : Operation) : Coherent (operation.apply order w) := by
  cases operation with
  | deviceEvent event => exact coherent_deviceEventProcessor coherent event
  | requestDeviceData request => exact requestDeviceData_coherent coherent request
  | requestDataFrame request => exact requestDataFrame_coherent coherent request
  | closeRequest manager => exact coherent_closeRequest coherent manager

theorem upToDate_apply (order : IterationOrder DeviceDescriptor) (coherent : Coherent w)
    (upToDate : UpToDate w) (operation : Operation) (narrow : operation.Narrow) :
    UpToDate (operation.apply order w) := by
  cases operation with
  | deviceEvent event => exact upToDate_deviceEventProcessor coherent upToDate event narrow
  | requestDeviceData request => exact requestDeviceData_upToDate coherent upToDate request
  | requestDataFrame request => exact requestDataFrame_upToDate coherent upToDate request
  | closeRequest manager => exact upToDate_closeRequest coherent upToDate manager

/-- Only a device event changes the connected devices. -/
theorem connectedDevices_apply (order : IterationOrder DeviceDescriptor) (coherent : Coherent w)
    (operation : Operation) :
    (operation.apply order w).connectedDevices =
      match operation.event with
      | some event => (w.recordDevice event.device event.connected).connectedDevices
      | none => w.connectedDevices := by
  cases operation with
  | deviceEvent event =>
      have registered : (w.recordDevice (protoToDeviceDescriptor event.device)
          event.connected).handles.Registered := by
        obtain ⟨connected, recorded⟩ :=
          recordDevice_frame w (protoToDeviceDescriptor event.device) event.connected
        rw [recorded]
        exact coherent.registered
      exact (updateAll_frame order _ event.connected _ registered).2.1
  | requestDeviceData request =>
      exact (openDeviceDataStream_frame order w.dataManagers.length
        (coherent_emplaceManager coherent request .deviceData).registered).2.connected
  | requestDataFrame request =>
      have elsewhere : Elsewhere w.dataManagers.length (w.emplaceManager request .dataFrame).1
          (ClientManager.requestDataFrame order w request).1 := elsewhere_openDataFrame
      exact elsewhere.connected
  | closeRequest manager =>
      obtain ⟨w', -, elsewhere, erased | ⟨same, -⟩⟩ := closeRequest_frame manager coherent.registered
      · exact (congrArg connectedDevices erased).trans elsewhere.connected
      · exact (congrArg connectedDevices same).trans elsewhere.connected

theorem lastConnected_append (operation : Operation) (deviceId : DeviceID) :
    lastConnected (run ++ [operation]) deviceId =
      match operation.event with
      | some event =>
          if event.device.id = deviceId then
            if event.connected then some event.device else none
          else lastConnected run deviceId
      | none => lastConnected run deviceId := by
  unfold lastConnected lastEvent
  rw [List.filterMap_append, List.filter_append]
  cases found : operation.event with
  | none => simp [found]
  | some event => by_cases same : event.device.id = deviceId <;> simp [found, same]

theorem Operation.Narrow.port {operation : Operation} {event : TrackingDeviceEvent}
    (narrow : operation.Narrow) (found : operation.event = some event) :
    event.device.portId.toNat < 256 := by
  cases operation with
  | deviceEvent event =>
      cases found
      exact narrow
  | requestDeviceData request => cases found
  | requestDataFrame request => cases found
  | closeRequest manager => cases found

theorem connectedBy_apply (order : IterationOrder DeviceDescriptor) (coherent : Coherent w)
    (connectedBy : ConnectedBy run w) (operation : Operation) (narrow : operation.Narrow) :
    ConnectedBy (run ++ [operation]) (operation.apply order w) := by
  have changed := connectedDevices_apply order coherent operation
  cases happened : operation.event with
  | none =>
      simp only [happened] at changed
      constructor
      · intro deviceId port
        simp only [changed, lastConnected_append, happened]
        exact connectedBy.lookup deviceId port
      · intro key device found
        rw [changed] at found
        exact connectedBy.keys key device found
  | some event =>
      have current := narrow.port happened
      simp only [happened] at changed
      constructor
      · intro deviceId port
        simp only [changed, lastConnected_append, happened]
        rw [lookup_recordDevice, connectedBy.lookup deviceId port]
        by_cases same : event.device.id = deviceId
        · rw [if_pos same, ← same, if_pos (DeviceDescriptor.hash_id _)]
        · rw [if_neg same, if_neg]
          intro sameKey
          exact same (hash_injective current port sameKey.symm)
      · intro key device found
        rw [changed] at found
        exact ⟨keyed_recordDevice _ _ coherent.keyed key device found,
          narrow_recordDevice _ _ (fun key device found => (connectedBy.keys key device found).2)
            current key device found⟩

/-- The registry discipline turns what a manager stores into what is live. -/
theorem managerServed_of_served {m : ManagerId} (registered : w.handles.Registered)
    (served : Served w m) : ManagerServed w m := by
  obtain ⟨manager, serving⟩ := served
  have held := serving.held
  refine ⟨manager, held, ?_⟩
  cases streamType : manager.streamType with
  | deviceData =>
      refine ⟨serving.storages, serving.devices streamType, ?_⟩
      intro key callData
      rw [← stored_device held]
      exact liveCall_iff.trans (registered _ _)
  | dataFrame =>
      refine ⟨serving.storages, serving.frame streamType, ?_⟩
      intro callData
      rw [← show w.stored (.frame m) = manager.dataframeStream by simp [stored, held]]
      exact liveCall_iff.trans (registered _ _)

end Step

/-! ## Runs -/

section Runs

variable {run : List Operation} {w : ClientManager}

/-- Whatever the ports of the devices are. -/
theorem coherent_of_runs (runs : Runs run w) : Coherent w := by
  induction runs with
  | start => exact coherent_init
  | next before operation order ih => exact coherent_apply order ih operation

theorem upToDate_of_runs (runs : Runs run w) (narrow : ∀ operation ∈ run, operation.Narrow) :
    UpToDate w ∧ ConnectedBy run w := by
  induction runs with
  | start =>
      refine ⟨upToDate_init, ⟨fun deviceId port => rfl, ?_⟩⟩
      intro key device found
      cases found
  | next before operation order ih =>
      obtain ⟨upToDate, connectedBy⟩ := ih fun earlier member => narrow earlier (by simp [member])
      have coherent := coherent_of_runs before
      have current := narrow operation (by simp)
      exact ⟨upToDate_apply order coherent upToDate operation current,
        connectedBy_apply order coherent connectedBy operation current⟩

/-- **The registry invariant.**  After every operation of a run over devices with ports of
eight bits, whatever was requested, repeated or closed before. -/
theorem registry_invariant (runs : Runs run w) (narrow : ∀ operation ∈ run, operation.Narrow) :
    ConnectedBy run w ∧ ∀ m ∈ w.dataManagerList, ManagerServed w m := by
  obtain ⟨upToDate, connectedBy⟩ := upToDate_of_runs runs narrow
  exact ⟨connectedBy, fun m member =>
    managerServed_of_served (coherent_of_runs runs).registered (upToDate.served m member)⟩

/-- Two requests for all devices, and then a device. -/
theorem registry_invariant_plugged :
    ∃ w, Runs [.requestDeviceData default, .requestDataFrame default,
        .deviceEvent { device := { siuUuid := 1, portId := 2 }, connected := true }] w ∧
      w.dataManagerList = [0, 1] ∧ w.connectedDevices.lookup 258 ≠ none ∧
      ManagerServed w 0 ∧ ManagerServed w 1 := by
  have runs := ((Runs.start.next (.requestDeviceData default) (.stored _)).next
    (.requestDataFrame default) (.stored _)).next
    (.deviceEvent { device := { siuUuid := 1, portId := 2 }, connected := true }) (.stored _)
  obtain ⟨connectedBy, served⟩ := registry_invariant runs (by simp [Operation.Narrow])
  refine ⟨_, runs, rfl, ?_, served 0 List.mem_cons_self, served 1 (List.mem_cons_of_mem _ List.mem_cons_self)⟩
  rw [show (258 : UInt64) = (⟨1, 2⟩ : DeviceID).hash from rfl, connectedBy.lookup ⟨1, 2⟩ (by decide)]
  decide

end Runs

end OmmoSdk.Client.ClientManager
