/-
# Client.Threads — the client as threads over its locked sections

User threads that make and close requests, the channel monitor and the completion queue
thread, as programs over `Theory.Threads`.  An instruction is either one section that
the source runs under a mutex (`addDataStream`, `recordDevice`, …), the opening of a
call, or a function of the source that is about to be entered and reads only what no
one changes.  The mutexes the source holds over several sections are `Mutex`es; the
short ones of a section are part of its step.

`run` is what an instruction does to the client and `next` what is left to do
afterwards.  `Client.Sequential` shows that a thread that runs alone does what the
functions of `Client.ClientManager` do.
-/
import OmmoSdk.Client.ClientManager
import OmmoSdk.Theory.Threads

namespace OmmoSdk.Client

open OmmoSdk.Theory
open OmmoSdk.Sdk
open OmmoSdk.Storage

set_option autoImplicit false

inductive Mutex where
  | connectedDevices
  | dataManagerList
  | baseStationDataStorageList
  | wirelessManagerList
  /-- `data_stream_map_mtx_`, held for ever by a clean-up that hangs -/
  | dataStreamMap (manager : ManagerId)
  deriving DecidableEq, Repr

/-- The orders in which the loops of a step meet the entries of a map. -/
structure Orders where
  devices : IterationOrder DeviceDescriptor
  streams : IterationOrder CallId

def Orders.stored : Orders := ⟨.stored _, .stored _⟩

inductive Instr where
  | lock (mutex : Mutex)
  | unlock (mutex : Mutex)
  -- Requests
  | requestDeviceData (request : DataRequest)
  | requestDataFrame (request : DataRequest)
  | emplaceManager (request : DataRequest) (streamType : DataStreamType)
  | closeRequest (manager : ManagerId)
  | cancelAllDataStreams (manager : ManagerId)
  | clearDataStreams (manager : ManagerId)
  | eraseManager (manager : ManagerId)
  -- Streams of single devices
  | openDeviceDataStream (manager : ManagerId)
  | forConnectedDevices (manager : ManagerId)
  | updateDeviceDataStream (manager : ManagerId) (device : DeviceDescriptor) (deviceConnected : Bool)
  | isStorageAvailable (manager : ManagerId) (device : DeviceDescriptor)
  | addDeviceStorage (manager : ManagerId) (device : DeviceDescriptor)
  | removeDeviceStorage (manager : ManagerId) (deviceId : DeviceID)
  | dataStreamExists (manager : ManagerId) (device : DeviceDescriptor)
  | openTrackingDeviceDataStream (manager : ManagerId) (device : DeviceDescriptor)
  | addDataStream (manager : ManagerId) (deviceId : DeviceID) (callData : CallId)
  /-- the first of the three sections for a device that has gone -/
  | cancelDataStream (manager : ManagerId) (deviceId : DeviceID)
  | removeDataStream (manager : ManagerId) (deviceId : DeviceID)
  -- Data frame streams
  | openDataFrame (manager : ManagerId)
  | forFrameDevices (manager : ManagerId)
  | prepareFrameDevices (manager : ManagerId) (items : List (Σ _ : UInt64, DeviceDescriptor))
      (devices : List DeviceDescriptor)
  | openDataFrameStream (manager : ManagerId) (devices : List DeviceDescriptor)
  | setDataFrameStream (manager : ManagerId) (callData : CallId)
  | updateDataFrameStream (manager : ManagerId) (device : DeviceDescriptor) (deviceConnected : Bool)
  /-- the first section of the replacement of a stream, or of its closing -/
  | cancelDataFrameStream (manager : ManagerId) (reopen : Bool)
  | removeDataFrameStream (manager : ManagerId) (reopen : Bool)
  -- Device events
  | deviceEventProcessor (event : Proto.TrackingDeviceEvent)
  | recordDevice (device : DeviceDescriptor) (deviceConnected : Bool)
  | forDataManagers (device : DeviceDescriptor) (deviceConnected : Bool)
  | updateStreams (manager : ManagerId) (device : DeviceDescriptor) (deviceConnected : Bool)
  -- Base station and wireless streams
  | requestBaseStationData
  | openBaseStationDataStream (storage : StorageId)
  | setDataStream (storage : StorageId) (callData : CallId)
  | pushBaseStationDataStorage (storage : StorageId)
  | createWirelessManager
  | openWirelessManagementStream (wrapper : WirelessId)
  | setCallData (wrapper : WirelessId) (callData : CallId)
  | pushWirelessManager (wrapper : WirelessId)
  -- The channel monitor, with the states it is going to see before it is stopped
  | channelMonitor (states : List ChannelState)
  | openTrackingDevicesEventStream
  | storeEventStream (callData : CallId)
  | cancelEventStream (callData : CallId)
  | clearEventStream
  | forBaseStationStorages
  | reopenBaseStationStream (storage : StorageId)
  | forWirelessManagers
  | reopenWirelessStream (wrapper : WirelessId)
  | clearConnectedDevices
  | saveChannelState (state : ChannelState)
  -- The completion queue
  /-- a failed completion of the call: `delete` -/
  | deleteCallData (callData : CallId)
  /-- the destructor in a loop it does not leave -/
  | hang

namespace Instr

/-! ## What an instruction does -/

def run (orders : Orders) (w : ClientManager) : Instr → ClientManager
  | emplaceManager request streamType => (w.emplaceManager request streamType).1
  | cancelAllDataStreams m => w.cancelAllDataStreams m
  | clearDataStreams m => w.clearDataStreams m
  | eraseManager m => w.eraseManager m
  | addDeviceStorage m device => w.addDeviceStorage m device
  | removeDeviceStorage m deviceId => w.removeDeviceStorage m deviceId
  | openTrackingDeviceDataStream m device =>
      match w.dataManagers[m]? with
      | none => w
      | some manager =>
          (w.openTrackingDeviceDataStream (ClientManager.deviceStreamRequest manager.request device) m).1
  | addDataStream m deviceId callData => w.addDataStream m deviceId callData
  | cancelDataStream m deviceId => w.cancelDataStream m deviceId
  | removeDataStream m deviceId => w.removeDataStream m deviceId
  | openDataFrameStream m devices =>
      match w.dataManagers[m]? with
      | none => w
      | some manager =>
          (w.openDataFrameStream (ClientManager.frameRequest manager.request devices) m).1
  | setDataFrameStream m callData => w.setDataFrameStream m callData
  | cancelDataFrameStream m _ => w.cancelDataFrameStream m
  | removeDataFrameStream m _ => w.removeDataFrameStream m
  | recordDevice device deviceConnected => w.recordDevice device deviceConnected
  | requestBaseStationData => w.makeBaseStationDataStorage
  | openBaseStationDataStream s => (w.openBaseStationDataStream s).1
  | setDataStream s callData => w.setDataStream s callData
  | pushBaseStationDataStorage s => w.pushBaseStationDataStorage s
  | createWirelessManager => w.makeWirelessManager
  | openWirelessManagementStream i => (w.openWirelessManagementStream i).1
  | setCallData i callData => w.setCallData i (some callData)
  | pushWirelessManager i => w.pushWirelessManager i
  | openTrackingDevicesEventStream => w.openTrackingDevicesEventStream.1
  | storeEventStream callData => { w with deviceEventStreamPtr := some callData }
  | cancelEventStream callData => { w with calls := cancelCall w.calls callData }
  | clearEventStream => { w with deviceEventStreamPtr := none }
  | clearConnectedDevices => { w with connectedDevices := ∅ }
  | saveChannelState state => { w with previousChannelState := some state }
  | deleteCallData callData => ClientManager.deleteCallData orders.streams w callData
  | _ => w

/-- The end of `ChannelMonitor`, and its branch for a channel that is not ready. -/
def stopEventStream (w : ClientManager) : List Instr :=
  match w.deviceEventStreamPtr with
  | some callData => [cancelEventStream callData, clearEventStream]
  | none => []

/-- The branches of `ChannelMonitor` for a state that differs from the previous one. -/
def onChannelState (w : ClientManager) : ChannelState → List Instr
  | .ready =>
      [openTrackingDevicesEventStream,
        lock .baseStationDataStorageList, forBaseStationStorages,
        lock .wirelessManagerList, forWirelessManagers]
  | _ =>
      stopEventStream w ++
        if w.previousChannelState = some .ready then
          [lock .connectedDevices, clearConnectedDevices, unlock .connectedDevices]
        else []

def next (orders : Orders) (w : ClientManager) : Instr → List Instr
  | requestDeviceData request => [lock .dataManagerList, emplaceManager request .deviceData]
  | requestDataFrame request => [lock .dataManagerList, emplaceManager request .dataFrame]
  | emplaceManager _ .deviceData =>
      [unlock .dataManagerList, openDeviceDataStream w.dataManagers.length]
  | emplaceManager _ .dataFrame => [unlock .dataManagerList, openDataFrame w.dataManagers.length]
  | closeRequest m =>
      match w.dataManagers[m]? with
      | none => []
      | some manager =>
          match manager.streamType with
          | .deviceData =>
              [cancelAllDataStreams m, clearDataStreams m,
                lock .dataManagerList, eraseManager m, unlock .dataManagerList]
          | .dataFrame => [cancelDataFrameStream m false]
  | openDeviceDataStream m =>
      match w.dataManagers[m]? with
      | none => []
      | some manager =>
          if manager.streamType ≠ .deviceData then []
          else [lock .connectedDevices, forConnectedDevices m]
  | forConnectedDevices m =>
      (orders.devices.visit w.connectedDevices).map
        (fun device => updateDeviceDataStream m device.2 true) ++ [unlock .connectedDevices]
  | updateDeviceDataStream m device deviceConnected =>
      match w.dataManagers[m]? with
      | none => []
      | some manager =>
          if ¬ manager.isDeviceDataRequested device.id then []
          else if ¬ deviceConnected then [cancelDataStream m device.id]
          else [isStorageAvailable m device, dataStreamExists m device]
  | isStorageAvailable m device =>
      if ¬ w.isStorageAvailable m device.id then [addDeviceStorage m device] else []
  | dataStreamExists m device =>
      if ¬ w.dataStreamExists m device.id then [openTrackingDeviceDataStream m device] else []
  | openTrackingDeviceDataStream m device =>
      if w.dataManagers[m]?.isSome then [addDataStream m device.id w.calls.length] else []
  | cancelDataStream m deviceId => [removeDataStream m deviceId]
  | removeDataStream m deviceId => [removeDeviceStorage m deviceId]
  | openDataFrame m =>
      match w.dataManagers[m]? with
      | none => []
      | some manager =>
          if manager.streamType ≠ .dataFrame then []
          else [lock .connectedDevices, forFrameDevices m]
  | forFrameDevices m => [prepareFrameDevices m (orders.devices.visit w.connectedDevices) []]
  | prepareFrameDevices m [] devices => [unlock .connectedDevices, openDataFrameStream m devices]
  | prepareFrameDevices m (item :: rest) devices =>
      if (w.dataManagers[m]?).any fun manager => manager.isDeviceDataRequested item.2.id then
        [isStorageAvailable m item.2, prepareFrameDevices m rest (devices ++ [item.2])]
      else [prepareFrameDevices m rest devices]
  | openDataFrameStream m _ =>
      if w.dataManagers[m]?.isSome then [setDataFrameStream m w.calls.length] else []
  | updateDataFrameStream m device deviceConnected =>
      match w.dataManagers[m]? with
      | none => []
      | some manager =>
          if ¬ manager.isDeviceDataRequested device.id then []
          else
            (if ¬ deviceConnected then [removeDeviceStorage m device.id] else []) ++
              [cancelDataFrameStream m true]
  | cancelDataFrameStream m reopen => [removeDataFrameStream m reopen]
  | removeDataFrameStream m true => [openDataFrame m]
  | removeDataFrameStream m false =>
      [lock .dataManagerList, eraseManager m, unlock .dataManagerList]
  | deviceEventProcessor deviceEvent =>
      let event := protoToTrackingDeviceEvent deviceEvent
      [lock .connectedDevices, recordDevice event.device deviceEvent.connected,
        unlock .connectedDevices,
        lock .dataManagerList, forDataManagers event.device deviceEvent.connected]
  | forDataManagers device deviceConnected =>
      w.dataManagerList.map (fun m => updateStreams m device deviceConnected) ++
        [unlock .dataManagerList]
  | updateStreams m device deviceConnected =>
      match w.dataManagers[m]? with
      | none => []
      | some manager =>
          match manager.streamType with
          | .deviceData => [updateDeviceDataStream m device deviceConnected]
          | .dataFrame => [updateDataFrameStream m device deviceConnected]
  | requestBaseStationData =>
      [openBaseStationDataStream w.baseStationStorages.length,
        lock .baseStationDataStorageList, pushBaseStationDataStorage w.baseStationStorages.length,
        unlock .baseStationDataStorageList]
  | openBaseStationDataStream s => [setDataStream s w.calls.length]
  | createWirelessManager =>
      [openWirelessManagementStream w.wirelessManagers.length,
        lock .wirelessManagerList, pushWirelessManager w.wirelessManagers.length,
        unlock .wirelessManagerList]
  | openWirelessManagementStream i => [setCallData i w.calls.length]
  | channelMonitor [] => stopEventStream w
  | channelMonitor (state :: states) =>
      if w.previousChannelState ≠ some state then
        onChannelState w state ++ [saveChannelState state, channelMonitor states]
      else [channelMonitor states]
  | openTrackingDevicesEventStream => [storeEventStream w.calls.length]
  | forBaseStationStorages =>
      w.baseStationDataStorageList.map reopenBaseStationStream ++ [unlock .baseStationDataStorageList]
  | reopenBaseStationStream s =>
      if ¬ w.baseStationStreamExists s then [openBaseStationDataStream s] else []
  | forWirelessManagers =>
      w.wirelessManagerWrapperList.map reopenWirelessStream ++ [unlock .wirelessManagerList]
  | reopenWirelessStream i =>
      if ¬ w.isStreamActive i then [openWirelessManagementStream i] else []
  | deleteCallData callData =>
      if (w.hangsIn orders.streams callData).isSome then [hang] else []
  | _ => []

/-- The pointer that is going to be stored: its call was opened by the same thread. -/
def stores : Instr → Option (Slot × CallId)
  | addDataStream m deviceId callData => some (.device m deviceId.hash, callData)
  | setDataFrameStream m callData => some (.frame m, callData)
  | setDataStream s callData => some (.baseStation s, callData)
  | setCallData i callData => some (.wireless i, callData)
  | storeEventStream callData => some (.deviceEvents, callData)
  | _ => none

/-! ## When it can be executed -/

/-- A call that exists can fail at any time, and only then is it deleted. -/
def enabled (w : ClientManager) : Instr → Bool
  | deleteCallData callData => (w.calls[callData]?).any fun call => !call.deleted
  | hang => false
  | _ => true

/-- The mutexes of the section itself, as far as someone may hold them for ever. -/
def needs (w : ClientManager) : Instr → List Mutex
  | cancelAllDataStreams m => [.dataStreamMap m]
  | clearDataStreams m => [.dataStreamMap m]
  | dataStreamExists m _ => [.dataStreamMap m]
  | addDataStream m _ _ => [.dataStreamMap m]
  | cancelDataStream m _ => [.dataStreamMap m]
  | removeDataStream m _ => [.dataStreamMap m]
  | deleteCallData callData =>
      match (w.calls[callData]?).bind fun call => call.stream.slot.manager with
      | some m => [.dataStreamMap m]
      | none => []
  | _ => []

def locks (orders : Orders) (w : ClientManager) : Instr → Option Mutex
  | lock mutex => some mutex
  | deleteCallData callData => (w.hangsIn orders.streams callData).map Mutex.dataStreamMap
  | _ => none

def unlocks : Instr → Option Mutex
  | unlock mutex => some mutex
  | _ => none

end Instr

/-- The client as a system of threads. -/
def clientSemantics : Semantics ClientManager Instr Mutex Orders where
  enabled := Instr.enabled
  needs := Instr.needs
  locks := Instr.locks
  unlocks := Instr.unlocks
  run := Instr.run
  next := Instr.next

abbrev ClientThreads := Threads ClientManager Instr Mutex

/-- A step of the thread `label.1`. -/
abbrev ClientThreads.step (s : ClientThreads) (label : Nat × Orders) : Option ClientThreads :=
  Threads.step clientSemantics s label

/-! ## The threads of a client -/

/-- What a user asks of the client. -/
inductive UserCall where
  | requestDeviceData (request : DataRequest)
  | requestDataFrame (request : DataRequest)
  | requestBaseStationData
  | createWirelessManager
  | closeRequest (manager : ManagerId)

def UserCall.program : UserCall → Instr
  | .requestDeviceData request => .requestDeviceData request
  | .requestDataFrame request => .requestDataFrame request
  | .requestBaseStationData => .requestBaseStationData
  | .createWirelessManager => .createWirelessManager
  | .closeRequest manager => .closeRequest manager

/-- What the completion queue returns: a device event, or a failed completion of a call. -/
inductive Completion where
  | deviceEvent (event : Proto.TrackingDeviceEvent)
  | failed (callData : CallId)

def Completion.program : Completion → Instr
  | .deviceEvent event => .deviceEventProcessor event
  | .failed callData => .deleteCallData callData

/-- A client that is started: the completion queue thread, the monitor and the users. -/
def clientThreads (queue : List Completion) (states : List ChannelState)
    (users : List (List UserCall)) : ClientThreads where
  shared := ClientManager.init
  held := []
  programs := queue.map Completion.program :: [.channelMonitor states] ::
    users.map (List.map UserCall.program)

end OmmoSdk.Client
