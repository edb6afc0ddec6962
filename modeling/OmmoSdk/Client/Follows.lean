/-
# Client.Follows — the ways in which one instruction leaves another to do

`Instr.next` is what an instruction leaves to do, as a list.  `Instr.Follows` says of each
instruction in these lists how it came there, with what the section had found out, and
`follows_of_next` is the one place where the lists are gone through.  A fact about all that
an instruction can be followed by is then one case for each way.
-/
import OmmoSdk.Client.Threads

namespace OmmoSdk.Client.Instr

open OmmoSdk.Theory
open OmmoSdk.Sdk
open OmmoSdk.Storage

set_option autoImplicit false

/-- The instructions that another one leaves to do, each with what was found out for it. -/
inductive Follows (orders : Orders) (w : ClientManager) : Instr → Instr → Prop
  | lock (instr : Instr) (mutex : Mutex) : Follows orders w instr (lock mutex)
  | unlock (instr : Instr) (mutex : Mutex) : Follows orders w instr (unlock mutex)
  -- Requests
  | deviceDataManager (request : DataRequest) :
      Follows orders w (requestDeviceData request) (emplaceManager request .deviceData)
  | dataFrameManager (request : DataRequest) :
      Follows orders w (requestDataFrame request) (emplaceManager request .dataFrame)
  | deviceDataStreams (request : DataRequest) :
      Follows orders w (emplaceManager request .deviceData) (openDeviceDataStream w.dataManagers.length)
  | dataFrameStream (request : DataRequest) :
      Follows orders w (emplaceManager request .dataFrame) (openDataFrame w.dataManagers.length)
  | closedStreams {m : ManagerId} {manager : DataManager} (held : w.dataManagers[m]? = some manager)
      (isDevice : manager.streamType = .deviceData) :
      Follows orders w (closeRequest m) (cancelAllDataStreams m)
  | closedPointers {m : ManagerId} {manager : DataManager} (held : w.dataManagers[m]? = some manager)
      (isDevice : manager.streamType = .deviceData) : Follows orders w (closeRequest m) (clearDataStreams m)
  | closedManager {m : ManagerId} {manager : DataManager} (held : w.dataManagers[m]? = some manager)
      (isDevice : manager.streamType = .deviceData) : Follows orders w (closeRequest m) (eraseManager m)
  | closedFrame {m : ManagerId} {manager : DataManager} (held : w.dataManagers[m]? = some manager)
      (isFrame : manager.streamType = .dataFrame) :
      Follows orders w (closeRequest m) (cancelDataFrameStream m false)
  -- Streams of single devices
  | connectedDevices {m : ManagerId} {manager : DataManager} (held : w.dataManagers[m]? = some manager)
      (isDevice : manager.streamType = .deviceData) :
      Follows orders w (openDeviceDataStream m) (forConnectedDevices m)
  | connectedDevice {m : ManagerId} {item : Σ _ : UInt64, DeviceDescriptor}
      (visited : item ∈ orders.devices.visit w.connectedDevices) :
      Follows orders w (forConnectedDevices m) (updateDeviceDataStream m item.2 true)
  | goneDevice {m : ManagerId} {device : DeviceDescriptor} {manager : DataManager}
      (held : w.dataManagers[m]? = some manager)
      (requested : manager.isDeviceDataRequested device.id = true) :
      Follows orders w (updateDeviceDataStream m device false) (cancelDataStream m device.id)
  | deviceStorage {m : ManagerId} {device : DeviceDescriptor} {manager : DataManager}
      (held : w.dataManagers[m]? = some manager)
      (requested : manager.isDeviceDataRequested device.id = true) :
      Follows orders w (updateDeviceDataStream m device true) (isStorageAvailable m device)
  | deviceStream {m : ManagerId} {device : DeviceDescriptor} {manager : DataManager}
      (held : w.dataManagers[m]? = some manager)
      (requested : manager.isDeviceDataRequested device.id = true) :
      Follows orders w (updateDeviceDataStream m device true) (dataStreamExists m device)
  | newStorage {m : ManagerId} {device : DeviceDescriptor}
      (absent : w.isStorageAvailable m device.id = false) :
      Follows orders w (isStorageAvailable m device) (addDeviceStorage m device)
  | newStream {m : ManagerId} {device : DeviceDescriptor}
      (absent : w.dataStreamExists m device.id = false) :
      Follows orders w (dataStreamExists m device) (openTrackingDeviceDataStream m device)
  | storedStream {m : ManagerId} {device : DeviceDescriptor} (made : w.dataManagers[m]?.isSome = true) :
      Follows orders w (openTrackingDeviceDataStream m device) (addDataStream m device.id w.calls.length)
  | goneStream (m : ManagerId) (deviceId : DeviceID) :
      Follows orders w (cancelDataStream m deviceId) (removeDataStream m deviceId)
  | goneStorage (m : ManagerId) (deviceId : DeviceID) :
      Follows orders w (removeDataStream m deviceId) (removeDeviceStorage m deviceId)
  -- Data frame streams
  | frameDevices {m : ManagerId} {manager : DataManager} (held : w.dataManagers[m]? = some manager)
      (isFrame : manager.streamType = .dataFrame) :
      Follows orders w (openDataFrame m) (forFrameDevices m)
  | frameItems (m : ManagerId) : Follows orders w (forFrameDevices m)
      (prepareFrameDevices m (orders.devices.visit w.connectedDevices) [])
  | frameStream (m : ManagerId) (devices : List DeviceDescriptor) :
      Follows orders w (prepareFrameDevices m [] devices) (openDataFrameStream m devices)
  | frameStorage {m : ManagerId} {item : Σ _ : UInt64, DeviceDescriptor}
      {rest : List (Σ _ : UInt64, DeviceDescriptor)} {devices : List DeviceDescriptor} {manager : DataManager}
      (held : w.dataManagers[m]? = some manager)
      (requested : manager.isDeviceDataRequested item.2.id = true) :
      Follows orders w (prepareFrameDevices m (item :: rest) devices) (isStorageAvailable m item.2)
  | preparedDevice {m : ManagerId} {item : Σ _ : UInt64, DeviceDescriptor}
      {rest : List (Σ _ : UInt64, DeviceDescriptor)} {devices : List DeviceDescriptor} {manager : DataManager}
      (held : w.dataManagers[m]? = some manager)
      (requested : manager.isDeviceDataRequested item.2.id = true) :
      Follows orders w (prepareFrameDevices m (item :: rest) devices)
        (prepareFrameDevices m rest (devices ++ [item.2]))
  | skippedDevice (m : ManagerId) (item : Σ _ : UInt64, DeviceDescriptor)
      (rest : List (Σ _ : UInt64, DeviceDescriptor)) (devices : List DeviceDescriptor) :
      Follows orders w (prepareFrameDevices m (item :: rest) devices) (prepareFrameDevices m rest devices)
  | storedFrame {m : ManagerId} {devices : List DeviceDescriptor}
      (made : w.dataManagers[m]?.isSome = true) :
      Follows orders w (openDataFrameStream m devices) (setDataFrameStream m w.calls.length)
  | goneFrameDevice {m : ManagerId} {device : DeviceDescriptor} {manager : DataManager}
      (held : w.dataManagers[m]? = some manager)
      (requested : manager.isDeviceDataRequested device.id = true) :
      Follows orders w (updateDataFrameStream m device false) (removeDeviceStorage m device.id)
  | replacedFrame {m : ManagerId} {device : DeviceDescriptor} {deviceConnected : Bool} {manager : DataManager}
      (held : w.dataManagers[m]? = some manager)
      (requested : manager.isDeviceDataRequested device.id = true) :
      Follows orders w (updateDataFrameStream m device deviceConnected) (cancelDataFrameStream m true)
  | goneFrame (m : ManagerId) (reopen : Bool) :
      Follows orders w (cancelDataFrameStream m reopen) (removeDataFrameStream m reopen)
  | reopenedFrame (m : ManagerId) : Follows orders w (removeDataFrameStream m true) (openDataFrame m)
  | erasedFrame (m : ManagerId) : Follows orders w (removeDataFrameStream m false) (eraseManager m)
  -- Device events
  | recorded (event : Proto.TrackingDeviceEvent) : Follows orders w (deviceEventProcessor event)
      (recordDevice (protoToTrackingDeviceEvent event).device event.connected)
  | reported (event : Proto.TrackingDeviceEvent) : Follows orders w (deviceEventProcessor event)
      (forDataManagers (protoToTrackingDeviceEvent event).device event.connected)
  | listedManager {m : ManagerId} {device : DeviceDescriptor} {deviceConnected : Bool}
      (listed : m ∈ w.dataManagerList) :
      Follows orders w (forDataManagers device deviceConnected) (updateStreams m device deviceConnected)
  | updatedDevice {m : ManagerId} {device : DeviceDescriptor} {deviceConnected : Bool} {manager : DataManager}
      (held : w.dataManagers[m]? = some manager) (isDevice : manager.streamType = .deviceData) :
      Follows orders w (updateStreams m device deviceConnected)
        (updateDeviceDataStream m device deviceConnected)
  | updatedFrame {m : ManagerId} {device : DeviceDescriptor} {deviceConnected : Bool} {manager : DataManager}
      (held : w.dataManagers[m]? = some manager) (isFrame : manager.streamType = .dataFrame) :
      Follows orders w (updateStreams m device deviceConnected)
        (updateDataFrameStream m device deviceConnected)
  -- Base station and wireless streams
  | baseStationStream : Follows orders w requestBaseStationData
      (openBaseStationDataStream w.baseStationStorages.length)
  | listedStorage : Follows orders w requestBaseStationData
      (pushBaseStationDataStorage w.baseStationStorages.length)
  | storedBaseStation (s : StorageId) :
      Follows orders w (openBaseStationDataStream s) (setDataStream s w.calls.length)
  | wirelessStream : Follows orders w createWirelessManager
      (openWirelessManagementStream w.wirelessManagers.length)
  | listedWireless : Follows orders w createWirelessManager (pushWirelessManager w.wirelessManagers.length)
  | storedWireless (i : WirelessId) :
      Follows orders w (openWirelessManagementStream i) (setCallData i w.calls.length)
  -- The channel monitor
  | cancelledEvents {states : List ChannelState} {callData : CallId}
      (stored : w.deviceEventStreamPtr = some callData) :
      Follows orders w (channelMonitor states) (cancelEventStream callData)
  | clearedEvents {states : List ChannelState} {callData : CallId}
      (stored : w.deviceEventStreamPtr = some callData) :
      Follows orders w (channelMonitor states) clearEventStream
  | newEvents {states : List ChannelState} (changed : w.previousChannelState ≠ some .ready) :
      Follows orders w (channelMonitor (.ready :: states)) openTrackingDevicesEventStream
  | baseStations {states : List ChannelState} (changed : w.previousChannelState ≠ some .ready) :
      Follows orders w (channelMonitor (.ready :: states)) forBaseStationStorages
  | wirelessManagers {states : List ChannelState} (changed : w.previousChannelState ≠ some .ready) :
      Follows orders w (channelMonitor (.ready :: states)) forWirelessManagers
  | noDevices {state : ChannelState} {states : List ChannelState}
      (was : w.previousChannelState = some .ready) :
      Follows orders w (channelMonitor (state :: states)) clearConnectedDevices
  | savedState {state : ChannelState} {states : List ChannelState}
      (changed : w.previousChannelState ≠ some state) :
      Follows orders w (channelMonitor (state :: states)) (saveChannelState state)
  | nextState (state : ChannelState) (states : List ChannelState) :
      Follows orders w (channelMonitor (state :: states)) (channelMonitor states)
  | storedEvents : Follows orders w openTrackingDevicesEventStream (storeEventStream w.calls.length)
  | visitedStorage {s : StorageId} (listed : s ∈ w.baseStationDataStorageList) :
      Follows orders w forBaseStationStorages (reopenBaseStationStream s)
  | reopenedStorage {s : StorageId} (ended : w.baseStationStreamExists s = false) :
      Follows orders w (reopenBaseStationStream s) (openBaseStationDataStream s)
  | visitedWireless {i : WirelessId} (listed : i ∈ w.wirelessManagerWrapperList) :
      Follows orders w forWirelessManagers (reopenWirelessStream i)
  | reopenedWireless {i : WirelessId} (ended : w.isStreamActive i = false) :
      Follows orders w (reopenWirelessStream i) (openWirelessManagementStream i)
  -- The completion queue
  | hung {callData : CallId} (hangs : (w.hangsIn orders.streams callData).isSome = true) :
      Follows orders w (deleteCallData callData) hang

variable {orders : Orders} {w : ClientManager} {instr i : Instr}

/-- An instruction on a manager leaves something to do only if the manager is there. -/
theorem mem_of_held {m : ManagerId} {program : DataManager → List Instr}
    (member : i ∈ (match w.dataManagers[m]? with | none => [] | some manager => program manager)) :
    ∃ manager, w.dataManagers[m]? = some manager ∧ i ∈ program manager := by
  cases held : w.dataManagers[m]? with
  | none =>
      rw [held] at member
      cases member
  | some manager =>
      rw [held] at member
      exact ⟨manager, rfl, member⟩

theorem follows_closeRequest {m : ManagerId} (member : i ∈ (closeRequest m).next orders w) :
    Follows orders w (closeRequest m) i := by
  obtain ⟨manager, held, member⟩ := mem_of_held member
  split at member
  · rename_i isDevice
    simp only [List.mem_cons, List.not_mem_nil, or_false] at member
    rcases member with rfl | rfl | rfl | rfl | rfl
    · exact .closedStreams held isDevice
    · exact .closedPointers held isDevice
    · exact .lock _ _
    · exact .closedManager held isDevice
    · exact .unlock _ _
  · rename_i isFrame
    cases List.mem_singleton.mp member
    exact .closedFrame held isFrame

theorem follows_openDeviceDataStream {m : ManagerId} (member : i ∈ (openDeviceDataStream m).next orders w) :
    Follows orders w (openDeviceDataStream m) i := by
  obtain ⟨manager, held, member⟩ := mem_of_held member
  obtain ⟨isDevice, member⟩ := List.mem_ite_nil_left.mp member
  rcases List.mem_pair.mp member with rfl | rfl
  · exact .lock _ _
  · exact .connectedDevices held (not_not.mp isDevice)

theorem follows_updateDeviceDataStream {m : ManagerId} {device : DeviceDescriptor} {deviceConnected : Bool}
    (member : i ∈ (updateDeviceDataStream m device deviceConnected).next orders w) :
    Follows orders w (updateDeviceDataStream m device deviceConnected) i := by
  obtain ⟨manager, held, member⟩ := mem_of_held member
  obtain ⟨requested, member⟩ := List.mem_ite_nil_left.mp member
  rw [not_not] at requested
  cases deviceConnected with
  | false =>
      cases List.mem_singleton.mp member
      exact .goneDevice held requested
  | true =>
      rcases List.mem_pair.mp member with rfl | rfl
      · exact .deviceStorage held requested
      · exact .deviceStream held requested

theorem follows_openDataFrame {m : ManagerId} (member : i ∈ (openDataFrame m).next orders w) :
    Follows orders w (openDataFrame m) i := by
  obtain ⟨manager, held, member⟩ := mem_of_held member
  obtain ⟨isFrame, member⟩ := List.mem_ite_nil_left.mp member
  rcases List.mem_pair.mp member with rfl | rfl
  · exact .lock _ _
  · exact .frameDevices held (not_not.mp isFrame)

theorem follows_prepareFrameDevices {m : ManagerId} {items : List (Σ _ : UInt64, DeviceDescriptor)}
    {devices : List DeviceDescriptor}
    (member : i ∈ (prepareFrameDevices m items devices).next orders w) :
    Follows orders w (prepareFrameDevices m items devices) i := by
  cases items with
  | nil =>
      rcases List.mem_pair.mp member with rfl | rfl
      · exact .unlock _ _
      · exact .frameStream m devices
  | cons item rest =>
      change i ∈ ite _ _ _ at member
      split at member
      · rename_i wanted
        obtain ⟨manager, held, requested⟩ := (Option.any_eq_true _ _).mp wanted
        rcases List.mem_pair.mp member with rfl | rfl
        · exact .frameStorage held requested
        · exact .preparedDevice held requested
      · cases List.mem_singleton.mp member
        exact .skippedDevice m item rest devices

theorem follows_updateDataFrameStream {m : ManagerId} {device : DeviceDescriptor} {deviceConnected : Bool}
    (member : i ∈ (updateDataFrameStream m device deviceConnected).next orders w) :
    Follows orders w (updateDataFrameStream m device deviceConnected) i := by
  obtain ⟨manager, held, member⟩ := mem_of_held member
  obtain ⟨requested, member⟩ := List.mem_ite_nil_left.mp member
  rw [not_not] at requested
  rcases List.mem_append.mp member with gone | replaced
  · cases deviceConnected with
    | false =>
        cases List.mem_singleton.mp gone
        exact .goneFrameDevice held requested
    | true => cases gone
  · cases List.mem_singleton.mp replaced
    exact .replacedFrame held requested

theorem follows_updateStreams {m : ManagerId} {device : DeviceDescriptor} {deviceConnected : Bool}
    (member : i ∈ (updateStreams m device deviceConnected).next orders w) :
    Follows orders w (updateStreams m device deviceConnected) i := by
  obtain ⟨manager, held, member⟩ := mem_of_held member
  split at member
  · rename_i isDevice
    cases List.mem_singleton.mp member
    exact .updatedDevice held isDevice
  · rename_i isFrame
    cases List.mem_singleton.mp member
    exact .updatedFrame held isFrame

theorem follows_stopEventStream {states : List ChannelState} (member : i ∈ stopEventStream w) :
    Follows orders w (channelMonitor states) i := by
  unfold stopEventStream at member
  split at member
  · rename_i callData stored
    rcases List.mem_pair.mp member with rfl | rfl
    · exact .cancelledEvents stored
    · exact .clearedEvents stored
  · cases member

theorem follows_onChannelState {state : ChannelState} {states : List ChannelState}
    (changed : w.previousChannelState ≠ some state) (member : i ∈ onChannelState w state) :
    Follows orders w (channelMonitor (state :: states)) i := by
  unfold onChannelState at member
  split at member
  · simp only [List.mem_cons, List.not_mem_nil, or_false] at member
    rcases member with rfl | rfl | rfl | rfl | rfl
    · exact .newEvents changed
    · exact .lock _ _
    · exact .baseStations changed
    · exact .lock _ _
    · exact .wirelessManagers changed
  · rcases List.mem_append.mp member with stop | clear
    · exact follows_stopEventStream stop
    · split at clear
      · rename_i was
        simp only [List.mem_cons, List.not_mem_nil, or_false] at clear
        rcases clear with rfl | rfl | rfl
        · exact .lock _ _
        · exact .noDevices was
        · exact .unlock _ _
      · cases clear

theorem follows_channelMonitor {states : List ChannelState}
    (member : i ∈ (channelMonitor states).next orders w) : Follows orders w (channelMonitor states) i := by
  cases states with
  | nil => exact follows_stopEventStream member
  | cons state states =>
      change i ∈ ite _ _ _ at member
      split at member
      · rename_i changed
        rcases List.mem_append.mp member with first | rest
        · exact follows_onChannelState changed first
        · rcases List.mem_pair.mp rest with rfl | rfl
          · exact .savedState changed
          · exact .nextState state states
      · cases List.mem_singleton.mp member
        exact .nextState state states

/-- **What an instruction is followed by.** -/
theorem follows_of_next (member : i ∈ instr.next orders w) : Follows orders w instr i := by
  cases instr with
  | requestDeviceData request | requestDataFrame request =>
      rcases List.mem_pair.mp member with rfl | rfl <;> constructor
  | emplaceManager request streamType =>
      cases streamType <;> rcases List.mem_pair.mp member with rfl | rfl <;> constructor
  | closeRequest m => exact follows_closeRequest member
  | openDeviceDataStream m => exact follows_openDeviceDataStream member
  | forConnectedDevices m =>
      rcases List.mem_append.mp member with update | unlocked
      · obtain ⟨item, visited, rfl⟩ := List.mem_map.mp update
        exact .connectedDevice visited
      · cases List.mem_singleton.mp unlocked
        exact .unlock _ _
  | updateDeviceDataStream m device deviceConnected => exact follows_updateDeviceDataStream member
  | isStorageAvailable m device =>
      obtain ⟨absent, member⟩ := List.mem_ite_nil_right.mp member
      cases List.mem_singleton.mp member
      exact .newStorage (Bool.eq_false_iff.mpr absent)
  | dataStreamExists m device =>
      obtain ⟨absent, member⟩ := List.mem_ite_nil_right.mp member
      cases List.mem_singleton.mp member
      exact .newStream (Bool.eq_false_iff.mpr absent)
  | openTrackingDeviceDataStream m device =>
      obtain ⟨made, member⟩ := List.mem_ite_nil_right.mp member
      cases List.mem_singleton.mp member
      exact .storedStream made
  | cancelDataStream m deviceId | removeDataStream m deviceId | cancelDataFrameStream m reopen
  | openBaseStationDataStream s | openWirelessManagementStream i | openTrackingDevicesEventStream
  | forFrameDevices m =>
      cases List.mem_singleton.mp member
      constructor
  | openDataFrame m => exact follows_openDataFrame member
  | prepareFrameDevices m items devices => exact follows_prepareFrameDevices member
  | openDataFrameStream m devices =>
      obtain ⟨made, member⟩ := List.mem_ite_nil_right.mp member
      cases List.mem_singleton.mp member
      exact .storedFrame made
  | updateDataFrameStream m device deviceConnected => exact follows_updateDataFrameStream member
  | removeDataFrameStream m reopen =>
      cases reopen with
      | true =>
          cases List.mem_singleton.mp member
          exact .reopenedFrame m
      | false =>
          change i ∈ [_, _, _] at member
          simp only [List.mem_cons, List.not_mem_nil, or_false] at member
          rcases member with rfl | rfl | rfl
          · exact .lock _ _
          · exact .erasedFrame m
          · exact .unlock _ _
  | deviceEventProcessor event =>
      change i ∈ [_, _, _, _, _] at member
      simp only [List.mem_cons, List.not_mem_nil, or_false] at member
      rcases member with rfl | rfl | rfl | rfl | rfl
      · exact .lock _ _
      · exact .recorded event
      · exact .unlock _ _
      · exact .lock _ _
      · exact .reported event
  | forDataManagers device deviceConnected =>
      rcases List.mem_append.mp member with update | unlocked
      · obtain ⟨m, listed, rfl⟩ := List.mem_map.mp update
        exact .listedManager listed
      · cases List.mem_singleton.mp unlocked
        exact .unlock _ _
  | updateStreams m device deviceConnected => exact follows_updateStreams member
  | requestBaseStationData | createWirelessManager =>
      change i ∈ [_, _, _, _] at member
      simp only [List.mem_cons, List.not_mem_nil, or_false] at member
      rcases member with rfl | rfl | rfl | rfl <;> constructor
  | channelMonitor states => exact follows_channelMonitor member
  | forBaseStationStorages =>
      rcases List.mem_append.mp member with visited | unlocked
      · obtain ⟨s, listed, rfl⟩ := List.mem_map.mp visited
        exact .visitedStorage listed
      · cases List.mem_singleton.mp unlocked
        exact .unlock _ _
  | reopenBaseStationStream s =>
      obtain ⟨ended, member⟩ := List.mem_ite_nil_right.mp member
      cases List.mem_singleton.mp member
      exact .reopenedStorage (Bool.eq_false_iff.mpr ended)
  | forWirelessManagers =>
      rcases List.mem_append.mp member with visited | unlocked
      · obtain ⟨j, listed, rfl⟩ := List.mem_map.mp visited
        exact .visitedWireless listed
      · cases List.mem_singleton.mp unlocked
        exact .unlock _ _
  | reopenWirelessStream j =>
      obtain ⟨ended, member⟩ := List.mem_ite_nil_right.mp member
      cases List.mem_singleton.mp member
      exact .reopenedWireless (Bool.eq_false_iff.mpr ended)
  | deleteCallData callData =>
      obtain ⟨hangs, member⟩ := List.mem_ite_nil_right.mp member
      cases List.mem_singleton.mp member
      exact .hung hangs
  | _ => cases member

end OmmoSdk.Client.Instr
