/-
# Client.ClientManager — device events, data requests and their streams

The state of a `ClientManager` together with the objects it shares with its users:
the data managers, storages and wireless managers behind `shared_ptr`s and the call
data objects behind raw pointers.  A pointer to such an object is its position in the
list of all that were made, so objects that were taken off a list of the client stay
reachable for whoever still holds them.

The functions are those of the source, run from start to end with no other thread in
between.  They are built from the locked sections (`cancelDataStream`,
`addDataStream`, …), which are also what the interleaved model of `Client.Threads`
steps through.

`stored` is the pointer a slot holds.  The last section says what each locked section
does to the pointers and the calls.
-/
import OmmoSdk.Client.DataManager
import OmmoSdk.Storage.BaseStationData

namespace OmmoSdk.Client

open OmmoSdk.Theory
open OmmoSdk.Sdk
open OmmoSdk.Storage

set_option autoImplicit false

/-- `WirelessManager::impl`.  Its constructor leaves `cdata` uninitialised; nothing reads
it before `SetCallData` or `ClearAssociation` has written it. -/
structure WirelessManager where
  cdata : Option CallId
  deriving DecidableEq, Repr

inductive ChannelState where
  | idle
  | connecting
  | ready
  | transientFailure
  | shutdown
  deriving DecidableEq, Repr

structure ClientManager where
  connectedDevices : DeviceMap DeviceDescriptor
  dataManagers : List DataManager
  dataManagerList : List ManagerId
  baseStationStorages : List BaseStationDataStorage
  baseStationDataStorageList : List StorageId
  wirelessManagers : List WirelessManager
  wirelessManagerWrapperList : List WirelessId
  calls : List CallData
  deviceEventStreamPtr : Option CallId
  /-- `none` for the `-1` of the start -/
  previousChannelState : Option ChannelState
  /-- the manager in whose clean-up the completion queue thread hangs, in the runs of
  `Client.ChannelMonitor` -/
  hungIn : Option ManagerId := none

namespace ClientManager

def init : ClientManager where
  connectedDevices := ∅
  dataManagers := []
  dataManagerList := []
  baseStationStorages := []
  baseStationDataStorageList := []
  wirelessManagers := []
  wirelessManagerWrapperList := []
  calls := []
  deviceEventStreamPtr := none
  previousChannelState := none

/-! ## Locked sections of a data manager, reached through its pointer -/

def onManager (w : ClientManager) (m : ManagerId) (f : DataManager → DataManager) :
    ClientManager :=
  { w with dataManagers := w.dataManagers.modify m f }

def onCalls (w : ClientManager) (m : ManagerId)
    (f : DataManager → List CallData → List CallData) : ClientManager :=
  match w.dataManagers[m]? with
  | some manager => { w with calls := f manager w.calls }
  | none => w

def addDeviceStorage (w : ClientManager) (m : ManagerId) (device : DeviceDescriptor) :
    ClientManager :=
  w.onManager m fun manager => manager.addDeviceStorage device

def removeDeviceStorage (w : ClientManager) (m : ManagerId) (deviceId : DeviceID) :
    ClientManager :=
  w.onManager m fun manager => manager.removeDeviceStorage deviceId

def isStorageAvailable (w : ClientManager) (m : ManagerId) (deviceId : DeviceID) : Bool :=
  (w.dataManagers[m]?).any fun manager => manager.isStorageAvailable deviceId

def addDataStream (w : ClientManager) (m : ManagerId) (deviceId : DeviceID) (callData : CallId) :
    ClientManager :=
  w.onManager m fun manager => (manager.addDataStream deviceId callData).2

def removeDataStream (w : ClientManager) (m : ManagerId) (deviceId : DeviceID) : ClientManager :=
  w.onManager m fun manager => (manager.removeDataStream deviceId).2

def dataStreamExists (w : ClientManager) (m : ManagerId) (deviceId : DeviceID) : Bool :=
  (w.dataManagers[m]?).any fun manager => manager.dataStreamExists deviceId

def cancelDataStream (w : ClientManager) (m : ManagerId) (deviceId : DeviceID) : ClientManager :=
  w.onCalls m fun manager calls => (manager.cancelDataStream deviceId calls).2

def cancelAllDataStreams (w : ClientManager) (m : ManagerId) : ClientManager :=
  w.onCalls m fun manager calls => manager.cancelAllDataStreams calls

def clearDataStreams (w : ClientManager) (m : ManagerId) : ClientManager :=
  w.onManager m fun manager => manager.clearDataStreams

def cancelDataFrameStream (w : ClientManager) (m : ManagerId) : ClientManager :=
  w.onCalls m fun manager calls => (manager.cancelDataFrameStream calls).2

def removeDataFrameStream (w : ClientManager) (m : ManagerId) : ClientManager :=
  w.onManager m fun manager => manager.removeDataFrameStream

def setDataFrameStream (w : ClientManager) (m : ManagerId) (callData : CallId) : ClientManager :=
  w.onManager m fun manager => manager.setDataFrameStream callData

/-! ## Opening calls -/

def openTrackingDeviceDataStream (w : ClientManager)
    (request : Proto.TrackingDeviceDataStreamRequest) (association : ManagerId) :
    ClientManager × CallId :=
  ({ w with calls := openCall w.calls (.deviceData association request) }, w.calls.length)

def openDataFrameStream (w : ClientManager) (request : Proto.DataFrameStreamRequest)
    (association : ManagerId) : ClientManager × CallId :=
  ({ w with calls := openCall w.calls (.dataFrame association request) }, w.calls.length)

/-- The request for the stream of one device. -/
def deviceStreamRequest (dataRequest : DataRequest) (device : DeviceDescriptor) :
    Proto.TrackingDeviceDataStreamRequest where
  siuUuid := device.siuUuid
  portId := device.portId
  fieldMask := dataRequest.dataFieldMask
  includeRawSensorData := dataRequest.includeRawSensorData
  reportInterval := dataRequest.reportInterval
  bufferDepth := dataRequest.bufferDepth
  requestedFusionMode := deviceFusionModeToProto dataRequest.requestedFusionMode

/-- The entry of one device in the request for a data frame stream. -/
def frameDevice (dataRequest : DataRequest) (device : DeviceDescriptor) :
    Proto.DataFrameTrackingDevice where
  siuUuid := device.siuUuid
  portId := device.portId
  fieldMask := dataRequest.dataFieldMask
  includeRawSensorData := dataRequest.includeRawSensorData
  requestedFusionMode := deviceFusionModeToProto dataRequest.requestedFusionMode

def frameRequest (dataRequest : DataRequest) (devices : List DeviceDescriptor) :
    Proto.DataFrameStreamRequest where
  trackingDevices := devices.map (frameDevice dataRequest)
  reportInterval := dataRequest.reportInterval
  bufferDepth := dataRequest.bufferDepth

/-! ## Streams of a request -/

def updateDeviceDataStream (w : ClientManager) (m : ManagerId) (device : DeviceDescriptor)
    (deviceConnected : Bool) : ClientManager :=
  match w.dataManagers[m]? with
  | none => w
  | some manager =>
      if ¬ manager.isDeviceDataRequested device.id then w
      else if ¬ deviceConnected then
        ((w.cancelDataStream m device.id).removeDataStream m device.id).removeDeviceStorage m device.id
      else
        let w := if ¬ w.isStorageAvailable m device.id then w.addDeviceStorage m device else w
        if ¬ w.dataStreamExists m device.id then
          let (w, callData) :=
            w.openTrackingDeviceDataStream (deviceStreamRequest manager.request device) m
          w.addDataStream m device.id callData
        else w

def openDeviceDataStream (order : IterationOrder DeviceDescriptor) (w : ClientManager)
    (m : ManagerId) : ClientManager :=
  match w.dataManagers[m]? with
  | none => w
  | some manager =>
      if manager.streamType ≠ .deviceData then w
      else
        (order.visit w.connectedDevices).foldl
          (fun w device => w.updateDeviceDataStream m device.2 true) w

/-- The loop of `OpenDataFrame`: the devices that go into the request, each with a storage. -/
def prepareFrameDevices (manager : DataManager) (m : ManagerId) (w : ClientManager) :
    List (Σ _ : UInt64, DeviceDescriptor) → ClientManager × List DeviceDescriptor
  | [] => (w, [])
  | item :: rest =>
      if manager.isDeviceDataRequested item.2.id then
        let w := if ¬ w.isStorageAvailable m item.2.id then w.addDeviceStorage m item.2 else w
        let (w, devices) := prepareFrameDevices manager m w rest
        (w, item.2 :: devices)
      else prepareFrameDevices manager m w rest

def openDataFrame (order : IterationOrder DeviceDescriptor) (w : ClientManager) (m : ManagerId) :
    ClientManager :=
  match w.dataManagers[m]? with
  | none => w
  | some manager =>
      if manager.streamType ≠ .dataFrame then w
      else
        let (w, devices) := prepareFrameDevices manager m w (order.visit w.connectedDevices)
        let (w, callData) := w.openDataFrameStream (frameRequest manager.request devices) m
        w.setDataFrameStream m callData

def updateDataFrameStream (order : IterationOrder DeviceDescriptor) (w : ClientManager)
    (m : ManagerId) (device : DeviceDescriptor) (deviceConnected : Bool) : ClientManager :=
  match w.dataManagers[m]? with
  | none => w
  | some manager =>
      if ¬ manager.isDeviceDataRequested device.id then w
      else
        let w := if ¬ deviceConnected then w.removeDeviceStorage m device.id else w
        openDataFrame order ((w.cancelDataFrameStream m).removeDataFrameStream m) m

/-! ## Device events -/

/-- The section of `DeviceEventProcessor` under `connected_devices_mtx_`. -/
def recordDevice (w : ClientManager) (device : DeviceDescriptor) (deviceConnected : Bool) :
    ClientManager :=
  if device.hash ∈ w.connectedDevices then
    if deviceConnected then
      { w with connectedDevices := w.connectedDevices.insert device.hash device }
    else
      { w with connectedDevices := w.connectedDevices.erase device.hash }
  else if deviceConnected then
    { w with connectedDevices := w.connectedDevices.insert device.hash device }
  else w

/-- One round of the loop over `data_manager_list_`. -/
def updateStreams (order : IterationOrder DeviceDescriptor) (device : DeviceDescriptor)
    (deviceConnected : Bool) (w : ClientManager) (m : ManagerId) : ClientManager :=
  match w.dataManagers[m]? with
  | none => w
  | some manager =>
      match manager.streamType with
      | .deviceData => w.updateDeviceDataStream m device deviceConnected
      | .dataFrame => updateDataFrameStream order w m device deviceConnected

def deviceEventProcessor (order : IterationOrder DeviceDescriptor) (w : ClientManager)
    (deviceEvent : Proto.TrackingDeviceEvent) : ClientManager :=
  let event := protoToTrackingDeviceEvent deviceEvent
  let w := w.recordDevice event.device deviceEvent.connected
  w.dataManagerList.foldl (updateStreams order event.device deviceEvent.connected) w

/-! ## Requests -/

/-- `make_shared<DataManager>` and its entry in the list. -/
def emplaceManager (w : ClientManager) (request : DataRequest) (streamType : DataStreamType) :
    ClientManager × ManagerId :=
  ({ w with
      dataManagers := w.dataManagers ++ [DataManager.init request streamType]
      dataManagerList := w.dataManagerList ++ [w.dataManagers.length] },
    w.dataManagers.length)

def requestDeviceData (order : IterationOrder DeviceDescriptor) (w : ClientManager)
    (request : DataRequest) : ClientManager × ManagerId :=
  let (w, m) := w.emplaceManager request .deviceData
  (openDeviceDataStream order w m, m)

def requestDataFrame (order : IterationOrder DeviceDescriptor) (w : ClientManager)
    (request : DataRequest) : ClientManager × ManagerId :=
  let (w, m) := w.emplaceManager request .dataFrame
  (openDataFrame order w m, m)

def eraseManager (w : ClientManager) (m : ManagerId) : ClientManager :=
  { w with dataManagerList := w.dataManagerList.erase m }

/-- A null pointer is no manager. -/
def closeRequest (w : ClientManager) (m : ManagerId) : ClientManager :=
  match w.dataManagers[m]? with
  | none => w
  | some manager =>
      match manager.streamType with
      | .deviceData => ((w.cancelAllDataStreams m).clearDataStreams m).eraseManager m
      | .dataFrame => ((w.cancelDataFrameStream m).removeDataFrameStream m).eraseManager m

/-! ## Base station, wireless and event streams -/

/-- `make_shared<BaseStationDataStorage>`. -/
def makeBaseStationDataStorage (w : ClientManager) : ClientManager :=
  { w with baseStationStorages := w.baseStationStorages ++ [BaseStationDataStorage.init 500] }

def openBaseStationDataStream (w : ClientManager) (s : StorageId) : ClientManager × CallId :=
  ({ w with calls := openCall w.calls (.baseStation s) }, w.calls.length)

def setDataStream (w : ClientManager) (s : StorageId) (callData : CallId) : ClientManager :=
  { w with
    baseStationStorages := w.baseStationStorages.modify s fun storage => storage.setDataStream callData }

/-- `DataStreamExists` of a storage. -/
def baseStationStreamExists (w : ClientManager) (s : StorageId) : Bool :=
  (w.baseStationStorages[s]?).any fun storage => storage.dataStreamExists

def pushBaseStationDataStorage (w : ClientManager) (s : StorageId) : ClientManager :=
  { w with baseStationDataStorageList := w.baseStationDataStorageList ++ [s] }

/-- `make_shared<WirelessManager>`. -/
def makeWirelessManager (w : ClientManager) : ClientManager :=
  { w with wirelessManagers := w.wirelessManagers ++ [{ cdata := none }] }

def openWirelessManagementStream (w : ClientManager) (i : WirelessId) : ClientManager × CallId :=
  ({ w with calls := openCall w.calls (.wireless i) }, w.calls.length)

def setCallData (w : ClientManager) (i : WirelessId) (callData : Option CallId) : ClientManager :=
  { w with wirelessManagers := w.wirelessManagers.modify i fun _ => { cdata := callData } }

/-- A listener is active from its start until the call is cancelled. -/
def isStreamActive (w : ClientManager) (i : WirelessId) : Bool :=
  ((w.wirelessManagers[i]?).bind fun manager => manager.cdata).any fun callData =>
    (w.calls[callData]?).any fun call => !call.cancelled

def pushWirelessManager (w : ClientManager) (i : WirelessId) : ClientManager :=
  { w with wirelessManagerWrapperList := w.wirelessManagerWrapperList ++ [i] }

def openTrackingDevicesEventStream (w : ClientManager) : ClientManager × CallId :=
  ({ w with calls := openCall w.calls .deviceEvents }, w.calls.length)

/-! ## The end of a call -/

/-- `ClearAssociation` of whoever the call was opened for, `none` if it does not return.  The
loop of `RemoveStream` leaves in its first round or never (`clearAssociation_eq_none`). -/
def clearAssociation (order : IterationOrder CallId) (w : ClientManager) (callData : CallId) :
    Stream → Option ClientManager
  | .deviceData m _ | .dataFrame m _ =>
      match w.dataManagers[m]? with
      | none => some w
      | some manager =>
          (manager.clearAssociation order 1 callData).map fun cleared =>
            { w with dataManagers := w.dataManagers.set m cleared.2 }
  | .baseStation s =>
      some { w with
        baseStationStorages := w.baseStationStorages.modify s fun storage =>
          (storage.clearAssociation callData).2 }
  -- The wrapper does not look at which call it was.
  | .wireless i => some (w.setCallData i none)
  | .deviceEvents => some w

/-- `delete` of a call data object: from here on it does not exist, whether or not the
destructor comes to its end. -/
def deleteCallData (order : IterationOrder CallId) (w : ClientManager) (callData : CallId) :
    ClientManager :=
  match w.calls[callData]? with
  | none => w
  | some call =>
      let w := { w with calls := deleteCall w.calls callData }
      (w.clearAssociation order callData call.stream).getD w

/-- The manager in whose clean-up the destructor hangs. -/
def hangsIn (order : IterationOrder CallId) (w : ClientManager) (callData : CallId) :
    Option ManagerId :=
  (w.calls[callData]?).bind fun call =>
    if w.clearAssociation order callData call.stream = none then call.stream.slot.manager else none

/-! ## The pointers -/

/-- The pointer that a slot holds. -/
def stored (w : ClientManager) : Slot → Option CallId
  | .device m key => (w.dataManagers[m]?).bind fun manager => manager.deviceDataStreams.lookup key
  | .frame m => (w.dataManagers[m]?).bind fun manager => manager.dataframeStream
  | .baseStation s => (w.baseStationStorages[s]?).bind fun storage => storage.baseStationStream
  | .wireless i => (w.wirelessManagers[i]?).bind fun manager => manager.cdata
  | .deviceEvents => w.deviceEventStreamPtr

/-- The calls and the pointers to them. -/
def handles (w : ClientManager) : Handles Slot := callHandles w.calls w.stored

section Sections

variable (w : ClientManager) (m : ManagerId) (deviceId : DeviceID) (callData : CallId)

@[simp] theorem handles_resources_length : w.handles.resources.length = w.calls.length := by
  simp [handles, callHandles]

@[simp] theorem handles_stored : w.handles.stored = w.stored := rfl

/-- A pointer to no manager. -/
theorem onManager_absent {f : DataManager → DataManager} (absent : w.dataManagers[m]? = none) :
    w.onManager m f = w := by
  rw [onManager, List.modify_eq_self (List.getElem?_eq_none_iff.mp absent)]

@[simp] theorem dataManagers_onCalls (f : DataManager → List CallData → List CallData) :
    (w.onCalls m f).dataManagers = w.dataManagers := by
  unfold onCalls
  split <;> rfl

@[simp] theorem stored_onCalls (f : DataManager → List CallData → List CallData) :
    (w.onCalls m f).stored = w.stored := by
  unfold onCalls
  split <;> rfl

/-- A section that touches neither the streams of its manager nor the calls. -/
theorem handles_onManager {f : DataManager → DataManager}
    (streams : ∀ manager, (f manager).deviceDataStreams = manager.deviceDataStreams)
    (frame : ∀ manager, (f manager).dataframeStream = manager.dataframeStream) :
    (w.onManager m f).handles = w.handles := by
  refine Handles.ext rfl ?_
  funext slot
  cases slot with
  | device m' key =>
      simp only [handles, callHandles, stored, onManager, List.getElem?_modify]
      cases w.dataManagers[m']? with
      | none => rfl
      | some manager => by_cases here : m = m' <;> simp [here, streams]
  | frame m' =>
      simp only [handles, callHandles, stored, onManager, List.getElem?_modify]
      cases w.dataManagers[m']? with
      | none => rfl
      | some manager => by_cases here : m = m' <;> simp [here, frame]
  | baseStation s => rfl
  | wireless i => rfl
  | deviceEvents => rfl

@[simp] theorem handles_addDeviceStorage (device : DeviceDescriptor) :
    (w.addDeviceStorage m device).handles = w.handles :=
  handles_onManager w m (fun manager => manager.addDeviceStorage_streams device 500)
    fun manager => manager.addDeviceStorage_frame device 500

@[simp] theorem handles_removeDeviceStorage :
    (w.removeDeviceStorage m deviceId).handles = w.handles :=
  handles_onManager w m (fun manager => manager.removeDeviceStorage_streams deviceId)
    fun manager => manager.removeDeviceStorage_frame deviceId

@[simp] theorem handles_cancelDataStream :
    (w.cancelDataStream m deviceId).handles = w.handles.cancel (.device m deviceId.hash) := by
  simp only [cancelDataStream, onCalls, Handles.cancel, handles_stored, stored]
  cases found : w.dataManagers[m]? with
  | none => rfl
  | some manager =>
      simp only [Option.bind_some, DataManager.cancelDataStream]
      cases manager.deviceDataStreams.lookup deviceId.hash with
      | none => rfl
      | some c => exact callHandles_cancelCall

@[simp] theorem handles_cancelDataFrameStream :
    (w.cancelDataFrameStream m).handles = w.handles.cancel (.frame m) := by
  simp only [cancelDataFrameStream, onCalls, Handles.cancel, handles_stored, stored]
  cases found : w.dataManagers[m]? with
  | none => rfl
  | some manager =>
      simp only [Option.bind_some, DataManager.cancelDataFrameStream]
      cases manager.dataframeStream with
      | none => rfl
      | some c => exact callHandles_cancelCall

/-- A section that changes the streams of its manager, seen slot by slot. -/
theorem stored_onManager (f : DataManager → DataManager) (slot : Slot) :
    (w.onManager m f).stored slot =
      match slot with
      | .device m' key => (w.dataManagers[m']?).bind fun manager =>
          (if m = m' then f manager else manager).deviceDataStreams.lookup key
      | .frame m' => (w.dataManagers[m']?).bind fun manager =>
          (if m = m' then f manager else manager).dataframeStream
      | slot => w.stored slot := by
  cases slot with
  | device m' key =>
      simp only [stored, onManager, List.getElem?_modify]
      cases w.dataManagers[m']? <;> rfl
  | frame m' =>
      simp only [stored, onManager, List.getElem?_modify]
      cases w.dataManagers[m']? <;> rfl
  | baseStation s => rfl
  | wireless i => rfl
  | deviceEvents => rfl

@[simp] theorem handles_removeDataStream :
    (w.removeDataStream m deviceId).handles = w.handles.remove (.device m deviceId.hash) := by
  refine Handles.ext rfl ?_
  funext slot
  rw [Handles.remove_stored, handles_stored, handles_stored, removeDataStream, stored_onManager]
  cases slot with
  | device m' key =>
      by_cases here : m = m'
      · subst here
        by_cases same : key = deviceId.hash <;> cases found : w.dataManagers[m]? <;>
          simp [stored, found, same]
      · simp [here, Ne.symm here, stored]
  | frame m' => by_cases here : m = m' <;> simp [here, stored]
  | baseStation s => simp
  | wireless i => simp
  | deviceEvents => simp

theorem handles_addDataStream_refused (existing : w.stored (.device m deviceId.hash) ≠ none) :
    (w.addDataStream m deviceId callData).handles = w.handles := by
  refine Handles.ext rfl ?_
  funext slot
  rw [handles_stored, handles_stored, addDataStream, stored_onManager]
  cases slot with
  | device m' key =>
      by_cases here : m = m'
      · subst here
        cases found : w.dataManagers[m]? with
        | none => simp [stored, found]
        | some manager =>
            simp only [stored, found, Option.bind_some] at existing
            have occupied : ¬ (key = deviceId.hash ∧ manager.deviceDataStreams.lookup key = none) := by
              rintro ⟨rfl, none⟩
              exact existing none
            simp [stored, found, DataManager.addDataStream_lookup, occupied]
      · simp [here, stored]
  | frame m' => by_cases here : m = m' <;> simp [here, stored]
  | baseStation s => rfl
  | wireless i => rfl
  | deviceEvents => rfl

theorem handles_addDataStream {manager : DataManager} (held : w.dataManagers[m]? = some manager)
    (empty : w.stored (.device m deviceId.hash) = none) :
    (w.addDataStream m deviceId callData).handles =
      w.handles.store (.device m deviceId.hash) callData := by
  refine Handles.ext rfl ?_
  funext slot
  rw [Handles.store_stored, handles_stored, handles_stored, addDataStream, stored_onManager]
  simp only [stored, held, Option.bind_some] at empty
  cases slot with
  | device m' key =>
      by_cases here : m = m'
      · subst here
        by_cases same : key = deviceId.hash
        · subst same
          simp [held, DataManager.addDataStream_lookup, empty]
        · simp [held, DataManager.addDataStream_lookup, stored, same]
      · simp [here, Ne.symm here, stored]
  | frame m' => by_cases here : m = m' <;> simp [here, stored]
  | baseStation s => simp
  | wireless i => simp
  | deviceEvents => simp

@[simp] theorem handles_removeDataFrameStream :
    (w.removeDataFrameStream m).handles = w.handles.remove (.frame m) := by
  refine Handles.ext rfl ?_
  funext slot
  rw [Handles.remove_stored, handles_stored, handles_stored, removeDataFrameStream, stored_onManager]
  cases slot with
  | device m' key =>
      by_cases here : m = m' <;> simp [here, stored, DataManager.removeDataFrameStream]
  | frame m' =>
      by_cases here : m = m'
      · subst here
        cases w.dataManagers[m]? <;> simp [DataManager.removeDataFrameStream]
      · simp [here, Ne.symm here, stored]
  | baseStation s => simp
  | wireless i => simp
  | deviceEvents => simp

theorem handles_setDataFrameStream {manager : DataManager}
    (held : w.dataManagers[m]? = some manager) :
    (w.setDataFrameStream m callData).handles = w.handles.store (.frame m) callData := by
  refine Handles.ext rfl ?_
  funext slot
  rw [Handles.store_stored, handles_stored, handles_stored, setDataFrameStream, stored_onManager]
  cases slot with
  | device m' key =>
      by_cases here : m = m' <;> simp [here, stored, DataManager.setDataFrameStream]
  | frame m' =>
      by_cases here : m = m'
      · subst here
        simp [held, DataManager.setDataFrameStream]
      · simp [here, Ne.symm here, stored]
  | baseStation s => simp
  | wireless i => simp
  | deviceEvents => simp

@[simp] theorem handles_openTrackingDeviceDataStream
    (request : Proto.TrackingDeviceDataStreamRequest) :
    (w.openTrackingDeviceDataStream request m).1.handles =
      w.handles.openFor (.device m (hash request.siuUuid request.portId)) :=
  callHandles_openCall _

@[simp] theorem handles_openDataFrameStream (request : Proto.DataFrameStreamRequest) :
    (w.openDataFrameStream request m).1.handles = w.handles.openFor (.frame m) :=
  callHandles_openCall _

/-! The other streams -/

variable (s : StorageId) (i : WirelessId)

@[simp] theorem handles_makeBaseStationDataStorage :
    w.makeBaseStationDataStorage.handles = w.handles := by
  refine Handles.ext rfl ?_
  funext slot
  cases slot with
  | baseStation s =>
      simp only [handles_stored, stored, makeBaseStationDataStorage, List.getElem?_append]
      split
      · rfl
      · rename_i outside
        rw [List.getElem?_eq_none (l := w.baseStationStorages) (by omega)]
        cases s - w.baseStationStorages.length <;> rfl
  | device m key => rfl
  | frame m => rfl
  | wireless i => rfl
  | deviceEvents => rfl

@[simp] theorem handles_makeWirelessManager : w.makeWirelessManager.handles = w.handles := by
  refine Handles.ext rfl ?_
  funext slot
  cases slot with
  | wireless i =>
      simp only [handles_stored, stored, makeWirelessManager, List.getElem?_append]
      split
      · rfl
      · rename_i outside
        rw [List.getElem?_eq_none (l := w.wirelessManagers) (by omega)]
        cases i - w.wirelessManagers.length <;> rfl
  | device m key => rfl
  | frame m => rfl
  | baseStation s => rfl
  | deviceEvents => rfl

@[simp] theorem handles_openBaseStationDataStream :
    (w.openBaseStationDataStream s).1.handles = w.handles.openFor (.baseStation s) :=
  callHandles_openCall _

@[simp] theorem handles_openWirelessManagementStream :
    (w.openWirelessManagementStream i).1.handles = w.handles.openFor (.wireless i) :=
  callHandles_openCall _

@[simp] theorem handles_openTrackingDevicesEventStream :
    w.openTrackingDevicesEventStream.1.handles = w.handles.openFor .deviceEvents :=
  callHandles_openCall _

theorem stored_setDataStream {slot : Slot} {c : CallId}
    (pointer : (w.setDataStream s callData).stored slot = some c) :
    w.stored slot = some c ∨ some (Slot.baseStation s, callData) = some (slot, c) := by
  cases slot with
  | baseStation s' =>
      simp only [stored, setDataStream, List.getElem?_modify] at pointer ⊢
      by_cases here : s = s'
      · cases found : w.baseStationStorages[s']? with
        | none => simp [found] at pointer
        | some storage =>
            simp only [found, here, if_true, BaseStationDataStorage.setDataStream] at pointer
            exact .inr (by rw [here, Option.some.inj pointer])
      · exact .inl (by simpa [here] using pointer)
  | device m key => exact .inl pointer
  | frame m => exact .inl pointer
  | wireless i => exact .inl pointer
  | deviceEvents => exact .inl pointer

theorem stored_setCallData {new : Option CallId} {slot : Slot} {c : CallId}
    (pointer : (w.setCallData i new).stored slot = some c) :
    w.stored slot = some c ∨ slot = .wireless i ∧ new = some c := by
  cases slot with
  | wireless i' =>
      simp only [stored, setCallData, List.getElem?_modify] at pointer ⊢
      by_cases here : i = i'
      · cases found : w.wirelessManagers[i']? with
        | none => simp [found] at pointer
        | some manager =>
            simp only [found, here, if_true] at pointer
            exact .inr ⟨by rw [here], pointer⟩
      · exact .inl (by simpa [here] using pointer)
  | device m key => exact .inl pointer
  | frame m => exact .inl pointer
  | baseStation s => exact .inl pointer
  | deviceEvents => exact .inl pointer

end Sections

end ClientManager

end OmmoSdk.Client
