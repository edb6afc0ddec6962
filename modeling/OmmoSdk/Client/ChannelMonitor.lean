/-
# Client.ChannelMonitor — the rounds of the monitor, and what is left of a lost channel

A round of `ChannelMonitor` that sees the channel ready opens the event stream and the
streams of base station storages and wireless managers that have none.  A round that sees
it lost takes all devices for disconnected at once, where `DeviceEventProcessor` is told of
one device at a time and takes its storages from the managers.

`RequestsFollow` is what a lost channel should leave of the requests, and what the managers
may list at any time.  `requests_follow_iff` says for which runs it holds after every step.
-/
import OmmoSdk.Client.ClientContext
import OmmoSdk.Client.PacketRouting
import OmmoSdk.Client.Sequential
import OmmoSdk.Client.StorageDuties
import OmmoSdk.Client.WirelessManager

namespace OmmoSdk.Client

open OmmoSdk.Theory
open OmmoSdk.Sdk
open OmmoSdk.Storage

set_option autoImplicit false

namespace ClientManager

/-! ## One round -/

def startEventStream (w : ClientManager) : ClientManager :=
  let (w, callData) := w.openTrackingDevicesEventStream
  { w with deviceEventStreamPtr := some callData }

def stopEventStream (w : ClientManager) : ClientManager :=
  match w.deviceEventStreamPtr with
  | some callData => { w with calls := cancelCall w.calls callData, deviceEventStreamPtr := none }
  | none => w

def reopenBaseStationStream (w : ClientManager) (s : StorageId) : ClientManager :=
  if ¬ w.baseStationStreamExists s then
    let (w, callData) := w.openBaseStationDataStream s
    w.setDataStream s callData
  else w

def reopenWirelessStream (w : ClientManager) (i : WirelessId) : ClientManager :=
  if ¬ w.isStreamActive i then w.attachWirelessStream i else w

/-- The branch for a channel that is ready. -/
def channelReady (w : ClientManager) : ClientManager :=
  let w := w.startEventStream
  let w := w.baseStationDataStorageList.foldl reopenBaseStationStream w
  w.wirelessManagerWrapperList.foldl reopenWirelessStream w

/-- The branch for one that is not. -/
def channelNotReady (w : ClientManager) : ClientManager :=
  let stopped := w.stopEventStream
  if w.previousChannelState = some .ready then { stopped with connectedDevices := ∅ } else stopped

/-- A round of `ChannelMonitor` that polls `state`. -/
def observeChannel (w : ClientManager) (state : ChannelState) : ClientManager :=
  if w.previousChannelState ≠ some state then
    { (if state = .ready then w.channelReady else w.channelNotReady) with
      previousChannelState := some state }
  else w

end ClientManager

/-! ## The monitor alone -/

section Alone

variable {orders : Orders} {held : List Mutex} {w : ClientManager}

theorem does_stopEventStream : Does orders held w (Instr.stopEventStream w) w.stopEventStream := by
  unfold Instr.stopEventStream ClientManager.stopEventStream
  cases w.deviceEventStreamPtr with
  | none => exact .nil
  | some callData =>
      refine executes_then (executes_call rfl rfl rfl rfl .nil) ?_
      exact executes_call rfl rfl rfl rfl .nil

theorem does_reopenBaseStationStream (w : ClientManager) (s : StorageId) :
    Does orders held w [.reopenBaseStationStream s] (w.reopenBaseStationStream s) := by
  apply executes_call rfl rfl rfl rfl
  simp only [Instr.run, Instr.next, ClientManager.reopenBaseStationStream]
  split
  · apply executes_call rfl rfl rfl rfl
    exact executes_call rfl rfl rfl rfl .nil
  · exact .nil

theorem does_reopenWirelessStream (w : ClientManager) (i : WirelessId) :
    Does orders held w [.reopenWirelessStream i] (w.reopenWirelessStream i) := by
  apply executes_call rfl rfl rfl rfl
  simp only [Instr.run, Instr.next, ClientManager.reopenWirelessStream]
  split
  · apply executes_call rfl rfl rfl rfl
    exact executes_call rfl rfl rfl rfl .nil
  · exact .nil

theorem does_channelReady (w : ClientManager) :
    Does orders [] w (Instr.onChannelState w .ready) w.channelReady := by
  have opened : Does orders [] w [.openTrackingDevicesEventStream] w.startEventStream := by
    apply executes_call rfl rfl rfl rfl
    exact executes_call rfl rfl rfl rfl .nil
  refine executes_then opened ?_
  refine executes_then (executes_lock (by simp)) ?_
  have stations : Threads.Executes clientSemantics orders w.startEventStream
      [.baseStationDataStorageList] [.forBaseStationStorages]
      (w.startEventStream.baseStationDataStorageList.foldl ClientManager.reopenBaseStationStream
        w.startEventStream) [] := by
    apply executes_call rfl rfl rfl rfl
    exact (does_each does_reopenBaseStationStream _ _).append executes_unlock
  refine executes_then stations ?_
  refine executes_then (executes_lock (by simp)) ?_
  apply executes_call rfl rfl rfl rfl
  exact (does_each does_reopenWirelessStream _ _).append executes_unlock

theorem does_channelNotReady {state : ChannelState} (lost : state ≠ .ready) (w : ClientManager) :
    Does orders [] w (Instr.onChannelState w state) w.channelNotReady := by
  have branch : Instr.onChannelState w state = Instr.stopEventStream w ++
      if w.previousChannelState = some .ready then
        [.lock .connectedDevices, .clearConnectedDevices, .unlock .connectedDevices]
      else [] := by
    cases state with
    | ready => exact absurd rfl lost
    | _ => rfl
  rw [branch]
  refine does_stopEventStream.append ?_
  rw [ClientManager.channelNotReady]
  split
  · refine executes_then (executes_lock (by simp)) ?_
    refine executes_then (executes_call rfl rfl rfl rfl .nil) ?_
    exact executes_unlock
  · exact .nil

/-- **The monitor alone does what its round does**, and goes on with the states that are left. -/
theorem reached_observeChannel (w : ClientManager) (state : ChannelState) (states : List ChannelState) :
    Reached ClientThreads.step (fun _ label => label = (0, orders))
      ⟨w, [], [[.channelMonitor (state :: states)]]⟩
      ⟨w.observeChannel state, [], [[.channelMonitor states]]⟩ := by
  have stepped : ClientThreads.step ⟨w, [], [[.channelMonitor (state :: states)]]⟩ (0, orders) =
      some ⟨w, [], [(Instr.channelMonitor (state :: states)).next orders w]⟩ := by
    simp [Threads.step, Threads.free, Threads.heldAfter, clientSemantics, Instr.enabled, Instr.needs,
      Instr.locks, Instr.unlocks, Instr.run]
  refine (Reached.next .start (by rfl) stepped).trans ?_
  simp only [Instr.next, ClientManager.observeChannel]
  split
  · have branch : Does orders [] w (Instr.onChannelState w state)
        (if state = .ready then w.channelReady else w.channelNotReady) := by
      split
      · rename_i ready
        subst ready
        exact does_channelReady w
      · rename_i lost
        exact does_channelNotReady lost w
    have saved : ∀ w : ClientManager, Does orders [] w [.saveChannelState state]
        { w with previousChannelState := some state } := fun w => executes_call rfl rfl rfl rfl .nil
    have run := branch.append (saved _) [.channelMonitor states]
    rw [List.append_assoc] at run
    exact run
  · exact .start

end Alone

namespace ClientManager

/-! ## Runs with a channel -/

/-- What happens to a client, one thing at a time. -/
inductive Happening where
  | registry (operation : Operation)
  | requestBaseStationData
  | closeBaseStationDataRequest (storage : StorageId)
  | createWirelessManager
  | cancelStream (wrapper : WirelessId)
  /-- the completion queue returns a call as failed, and it is deleted -/
  | failed (callData : CallId)
  | observeChannel (state : ChannelState)

/-- A close that hangs comes to no end.  A clean-up that hangs leaves the client to its users and the
monitor. -/
def perform (w : ClientManager) (label : Happening × Orders) : Option ClientManager :=
  match label.1 with
  | .registry operation => some (operation.apply label.2.devices w)
  | .requestBaseStationData => some w.requestBaseStationData.1
  | .closeBaseStationDataRequest s => w.closeBaseStationDataRequest 1 (some s)
  | .createWirelessManager => some w.createWirelessManager.1
  | .cancelStream i => some (w.cancelStream i)
  | .failed callData =>
      if w.undeleted callData then
        some { deleteCallData label.2.streams w callData with
          hungIn := w.hangsIn label.2.streams callData }
      else none
  | .observeChannel state => some (w.observeChannel state)

/-- What the completion queue thread does not come to while it hangs, and what waits for the
`data_stream_map_mtx_` that it holds then. -/
def blocked (w : ClientManager) : Happening → Bool
  | .registry (.deviceEvent _) | .failed _ => w.hungIn.isSome
  | .registry (.closeRequest m) => w.hungIn = some m
  | _ => false

def happen (w : ClientManager) (label : Happening × Orders) : Option ClientManager :=
  if w.blocked label.1 then none else w.perform label

def Happening.Narrow : Happening → Prop
  | .registry operation => operation.Narrow
  | _ => True

/-- The monitor observes a change from ready to not ready. -/
def Loses (w : ClientManager) (happening : Happening) : Prop :=
  ∃ state, happening = .observeChannel state ∧ w.previousChannelState = some .ready ∧ state ≠ .ready

/-! ## What a lost channel should leave -/

def HoldsStorage (w : ClientManager) (m : ManagerId) (key : UInt64) : Prop :=
  ∃ manager, w.dataManagers[m]? = some manager ∧ key ∈ manager.deviceDataMap

def NoStorages (w : ClientManager) : Prop :=
  ∀ m ∈ w.dataManagerList, ∀ key, ¬ w.HoldsStorage m key

/-- The devices connected, the managers on the list, and their storages are the same. -/
structure SameRequestState (w w' : ClientManager) : Prop where
  connected : w.connectedDevices = w'.connectedDevices
  list : w.dataManagerList = w'.dataManagerList
  storages : ∀ m ∈ w.dataManagerList, ∀ key, w.HoldsStorage m key ↔ w'.HoldsStorage m key

/-- Each event with the order in which its data frame requests meet the devices. -/
abbrev OrderedEvents := List (Proto.TrackingDeviceEvent × IterationOrder DeviceDescriptor)

def handleEvents (w : ClientManager) (events : OrderedEvents) : ClientManager :=
  events.foldl (fun w event => deviceEventProcessor event.2 w event.1) w

/-- Disconnect events, for every connected device one at least. -/
structure DisconnectsAll (w : ClientManager) (events : OrderedEvents) : Prop where
  gone : ∀ event ∈ events, event.1.connected = false ∧ event.1.device.portId.toNat < 256
  each : ∀ key device, w.connectedDevices.lookup key = some device →
    ∃ event ∈ events, (protoToDeviceDescriptor event.1.device).id = device.id

/-- **The requests follow the channel.**  Its loss is a disconnect event for every connected
device, and no manager lists a device that is not connected. -/
structure RequestsFollow (w : ClientManager) (happening : Happening) (w' : ClientManager) : Prop where
  lost : Loses w happening → w'.connectedDevices = ∅ ∧ NoStorages w' ∧
    ∀ events, DisconnectsAll w events → SameRequestState w' (w.handleEvents events)
  listed : ∀ m ∈ w'.dataManagerList, ∀ manager, w'.dataManagers[m]? = some manager →
    ∀ deviceId ∈ manager.getDeviceStorageList, deviceId.hash ∈ w'.connectedDevices

/-- At a loss of the channel no connected device is one that a manager on the list requested. -/
def LosesNothing (w : ClientManager) (happening : Happening) : Prop :=
  Loses w happening → ∀ m ∈ w.dataManagerList, ∀ manager, w.dataManagers[m]? = some manager →
    ∀ key, ¬ Wanted w.connectedDevices manager key

/-! ## What other happenings leave alone -/

/-- The devices connected are the same, the managers on the list were on it, and no manager
gets or loses a storage. -/
structure RequestsKept (w w' : ClientManager) : Prop where
  connected : w'.connectedDevices = w.connectedDevices
  list : ∀ m ∈ w'.dataManagerList, m ∈ w.dataManagerList
  count : w'.dataManagers.length = w.dataManagers.length
  managers : ∀ (m : ManagerId) (manager' : DataManager), w'.dataManagers[m]? = some manager' →
    ∃ manager, w.dataManagers[m]? = some manager ∧ manager'.header = manager.header ∧
      manager'.deviceDataMap = manager.deviceDataMap

/-- Every storage of every manager, under its key, is one of `P`. -/
def AllStorages (P : UInt64 → DeviceDataStorage → Prop) (w : ClientManager) : Prop :=
  ∀ (m : ManagerId) (manager : DataManager), w.dataManagers[m]? = some manager →
    ∀ key storage, manager.deviceDataMap.lookup key = some storage → P key storage

/-- Each storage is filed under the key of its device. -/
def Filed (w : ClientManager) : Prop :=
  ∀ (m : ManagerId) (manager : DataManager), w.dataManagers[m]? = some manager →
    ∀ key storage, manager.deviceDataMap.lookup key = some storage → storage.device.hash = key

section Kept

variable {w w' w'' : ClientManager} {m : ManagerId}

theorem RequestsKept.refl (w : ClientManager) : RequestsKept w w :=
  ⟨rfl, fun _ member => member, rfl, fun _ manager held => ⟨manager, held, rfl, rfl⟩⟩

theorem RequestsKept.of_eq (connected : w'.connectedDevices = w.connectedDevices)
    (list : w'.dataManagerList = w.dataManagerList) (managers : w'.dataManagers = w.dataManagers) :
    RequestsKept w w' := by
  refine ⟨connected, fun m member => list ▸ member, by rw [managers], fun m manager held => ?_⟩
  exact ⟨manager, managers ▸ held, rfl, rfl⟩

theorem RequestsKept.trans (first : RequestsKept w w') (second : RequestsKept w' w'') :
    RequestsKept w w'' := by
  refine ⟨second.connected.trans first.connected, fun m member => first.list m (second.list m member),
    second.count.trans first.count, fun m manager held => ?_⟩
  obtain ⟨before, held', header, storages⟩ := second.managers m manager held
  obtain ⟨old, held'', header', storages'⟩ := first.managers m before held'
  exact ⟨old, held'', header.trans header', storages.trans storages'⟩

theorem RequestsKept.onManager {f : DataManager → DataManager}
    (header : ∀ manager, (f manager).header = manager.header)
    (storages : ∀ manager, (f manager).deviceDataMap = manager.deviceDataMap) :
    RequestsKept w (w.onManager m f) := by
  refine ⟨rfl, fun _ member => member, by simp [ClientManager.onManager], fun m' manager' held => ?_⟩
  simp only [ClientManager.onManager, List.getElem?_modify] at held
  obtain ⟨manager, held', rfl⟩ := Option.map_eq_some_iff.mp held
  refine ⟨manager, held', ?_, ?_⟩ <;> split <;> simp [header, storages]

theorem RequestsKept.onCalls (f : DataManager → List CallData → List CallData) :
    RequestsKept w (w.onCalls m f) := by
  unfold ClientManager.onCalls
  split <;> exact .of_eq rfl rfl rfl

theorem RequestsKept.eraseManager : RequestsKept w (w.eraseManager m) :=
  ⟨rfl, fun _ member => List.mem_of_mem_erase member, rfl, fun _ manager held => ⟨manager, held, rfl, rfl⟩⟩

theorem kept_closeRequest : RequestsKept w (w.closeRequest m) := by
  unfold closeRequest
  split
  · exact .refl w
  · split
    · refine ((RequestsKept.onCalls _).trans (.onManager ?_ ?_)).trans .eraseManager <;>
        exact fun _ => rfl
    · refine ((RequestsKept.onCalls _).trans (.onManager ?_ ?_)).trans .eraseManager <;>
        exact fun _ => rfl

theorem kept_deleteCallData (order : IterationOrder CallId) (callData : CallId) :
    RequestsKept w (deleteCallData order w callData) := by
  unfold deleteCallData
  cases w.calls[callData]? with
  | none => exact .refl w
  | some call =>
      simp only
      cases call.stream with
      | deviceData m request | dataFrame m request =>
          simp only [clearAssociation]
          split
          · exact .of_eq rfl rfl rfl
          · rename_i manager held
            cases cleared : manager.clearAssociation order 1 callData with
            | none => exact .of_eq rfl rfl rfl
            | some result =>
                have same : result.2.header = manager.header ∧
                    result.2.deviceDataMap = manager.deviceDataMap := by
                  rcases DataManager.removesOnly_of_clears cleared with
                    ⟨-, rfl⟩ | ⟨-, ⟨key, -, rfl⟩ | ⟨-, rfl⟩⟩ <;> exact ⟨rfl, rfl⟩
                refine ⟨rfl, fun _ member => member, by simp, fun m' manager' held' => ?_⟩
                simp only [Option.map_some, Option.getD_some, List.getElem?_set] at held'
                split at held'
                · rename_i here
                  subst here
                  split at held'
                  · cases held'
                    exact ⟨manager, held, same⟩
                  · cases held'
                · exact ⟨manager', held', rfl, rfl⟩
      | baseStation s | wireless i | deviceEvents => exact .of_eq rfl rfl rfl

theorem kept_closeBaseStationDataRequest {storage : Option StorageId}
    (closed : w.closeBaseStationDataRequest 1 storage = some w') : RequestsKept w w' := by
  obtain ⟨list, rfl | ⟨callData, rfl⟩⟩ := closed_cases closed <;> exact .of_eq rfl rfl rfl

theorem kept_cancelStream (i : WirelessId) : RequestsKept w (w.cancelStream i) := by
  unfold cancelStream
  split <;> exact .of_eq rfl rfl rfl

theorem kept_stopEventStream : RequestsKept w w.stopEventStream := by
  unfold stopEventStream
  split <;> exact .of_eq rfl rfl rfl

theorem kept_foldl {α : Type} {f : ClientManager → α → ClientManager}
    (each : ∀ w item, RequestsKept w (f w item)) (items : List α) (w : ClientManager) :
    RequestsKept w (items.foldl f w) :=
  List.foldlRecOn items f (.refl w) fun w' kept item _ => kept.trans (each w' item)

theorem kept_channelReady (w : ClientManager) : RequestsKept w w.channelReady := by
  have opened : RequestsKept w w.startEventStream := .of_eq rfl rfl rfl
  refine (opened.trans (kept_foldl ?_ _ _)).trans (kept_foldl ?_ _ _)
  · intro w s
    unfold reopenBaseStationStream
    split <;> exact .of_eq rfl rfl rfl
  · intro w i
    unfold reopenWirelessStream
    split <;> exact .of_eq rfl rfl rfl

theorem storagesFit_kept (fits : StoragesFit w) (kept : RequestsKept w w') : StoragesFit w' where
  keyed := by rw [kept.connected]; exact fits.keyed
  narrow := by rw [kept.connected]; exact fits.narrow
  listed m member := by rw [kept.count]; exact fits.listed m (kept.list m member)
  storages m member manager' held key := by
    obtain ⟨manager, held, header, storages⟩ := kept.managers m manager' held
    rw [storages, kept.connected, fits.storages m (kept.list m member) manager held key, Wanted, Wanted,
      DataManager.isDeviceDataRequested_congr header]

theorem allStorages_kept {P : UInt64 → DeviceDataStorage → Prop} (all : AllStorages P w)
    (kept : RequestsKept w w') : AllStorages P w' := by
  intro m manager' held key storage found
  obtain ⟨manager, held, -, storages⟩ := kept.managers m manager' held
  rw [storages] at found
  exact all m manager held key storage found

theorem filed_kept (filed : Filed w) (kept : RequestsKept w w') : Filed w' :=
  allStorages_kept filed kept

end Kept

/-! ## Events and requests -/

section Registry

variable {orders : Orders} {w w' : ClientManager} {instr : Instr} {m : ManagerId}

section AllStorages

variable {P : UInt64 → DeviceDataStorage → Prop}

theorem allStorages_onManager {f : DataManager → DataManager} (all : AllStorages P w)
    (kept : ∀ manager, (∀ key storage, manager.deviceDataMap.lookup key = some storage → P key storage) →
      ∀ key storage, (f manager).deviceDataMap.lookup key = some storage → P key storage) :
    AllStorages P (w.onManager m f) := by
  intro m' manager' held
  simp only [onManager, List.getElem?_modify] at held
  obtain ⟨manager, held', rfl⟩ := Option.map_eq_some_iff.mp held
  split
  · exact kept manager (all m' manager held')
  · exact all m' manager held'

theorem allStorages_addDeviceStorage (all : AllStorages P w) (device : DeviceDescriptor)
    (made : P device.hash (DeviceDataStorage.init device 500)) :
    AllStorages P (w.addDeviceStorage m device) := by
  refine allStorages_onManager all fun manager own key storage found => ?_
  unfold DataManager.addDeviceStorage at found
  split at found
  · exact own key storage found
  · by_cases same : key = device.hash
    · subst same
      rw [AList.lookup_insert] at found
      cases found
      exact made
    · rw [AList.lookup_insert_ne same] at found
      exact own key storage found

theorem allStorages_removeDeviceStorage (all : AllStorages P w) (deviceId : DeviceID) :
    AllStorages P (w.removeDeviceStorage m deviceId) := by
  refine allStorages_onManager all fun manager own key storage found => ?_
  unfold DataManager.removeDeviceStorage at found
  split at found
  · by_cases same : key = deviceId.hash
    · subst same
      simp at found
    · rw [AList.lookup_erase_ne same] at found
      exact own key storage found
  · exact own key storage found

/-- What the instructions of events and requests keep, if it holds of a new storage. -/
theorem allStorages_run (made : ∀ device : DeviceDescriptor, P device.hash (DeviceDataStorage.init device 500))
    (registry : instr.registry = true) (all : AllStorages P w) : AllStorages P (instr.run orders w) := by
  cases instr with
  | addDeviceStorage m device => exact allStorages_addDeviceStorage all device (made device)
  | removeDeviceStorage m deviceId => exact allStorages_removeDeviceStorage all deviceId
  | emplaceManager request kind =>
      intro m manager held
      have appended : (w.dataManagers ++ [DataManager.init request kind])[m]? = some manager := held
      rw [List.getElem?_append] at appended
      split at appended
      · exact all m manager appended
      · rw [List.getElem?_singleton] at appended
        split at appended
        · cases appended
          intro key storage found
          cases found
        · cases appended
  | addDataStream m deviceId callData =>
      refine allStorages_onManager all fun manager own key storage found => own key storage ?_
      rwa [DataManager.addDataStream_map] at found
  | removeDataStream m deviceId =>
      refine allStorages_onManager all fun manager own key storage found => own key storage ?_
      rwa [DataManager.removeDataStream_map] at found
  | setDataFrameStream m callData => exact allStorages_onManager all fun manager own => own
  | removeDataFrameStream m reopen => exact allStorages_onManager all fun manager own => own
  | cancelDataStream m deviceId | cancelDataFrameStream m reopen =>
      show AllStorages P (w.onCalls m _)
      exact allStorages_kept all (.onCalls _)
  | recordDevice device deviceConnected =>
      obtain ⟨connected, recorded⟩ := recordDevice_frame w device deviceConnected
      rw [Instr.run, recorded]
      exact all
  | openTrackingDeviceDataStream m device | openDataFrameStream m devices =>
      simp only [Instr.run]
      split <;> exact all
  | _ => first | exact all | cases registry

end AllStorages

theorem filed_run (registry : instr.registry = true) (filed : Filed w) : Filed (instr.run orders w) :=
  allStorages_run (P := fun key storage => storage.device.hash = key)
    (fun device => by rw [DeviceDataStorage.init, copyDeviceDescriptor_eq]) registry filed

/-- What every instruction of events and requests keeps, an event or a request keeps that is
handled while nothing else is done. -/
theorem invariant_alone {inv : ClientManager → Prop} {program : Instr}
    (kept : ∀ {w : ClientManager} {instr : Instr} {orders : Orders}, instr.registry = true → inv w →
      inv (instr.run orders w))
    (does : Does orders [] w [program] w') (registry : program.registry = true) (holds : inv w) :
    inv w' := by
  have reached := does []
  rw [List.append_nil] at reached
  have every := reached.meets (fun _ => True) trivial (fun _ _ _ _ _ _ => trivial)
    fun s label _ => (show Threads.Under (fun _ _ _ (_ : Orders) => True) s label from
      fun _ _ _ => trivial)
  refine (Threads.invariant_of_kept clientSemantics
    (fun w pending => inv w ∧ ∀ i ∈ pending, i.registry = true) ?_ ⟨holds, ?_⟩ ?_ every).1
  · rintro w pending pending' perm ⟨holds, registry⟩
    exact ⟨holds, fun i member => registry i (perm.mem_iff.mpr member)⟩
  · intro i member
    rw [show i = program from List.mem_singleton.mp member]
    exact registry
  · rintro w instr others orders ⟨holds, registry⟩ - -
    obtain ⟨here, later⟩ := List.forall_mem_cons.mp registry
    refine ⟨kept here holds, fun i member => ?_⟩
    rcases List.mem_append.mp member with fresh | old
    · exact registry_next orders here i fresh
    · exact later i old

/-- An event or a request, handled while nothing else is done. -/
theorem kept_alone {program : Instr} (does : Does orders [] w [program] w') (start : AtStart [program])
    (queue : QueueAt [program]) (walks : Threads.walk (connectedTurns 0) .outside [program] = some .outside)
    (fits : StoragesFit w) (filed : Filed w) : StoragesFit w' ∧ Filed w' := by
  have reached := does []
  rw [List.append_nil] at reached
  have ordered : Ordered ⟨w, [], [[program]]⟩ := by
    constructor
    · refine ⟨none, (fun t holder => by cases holder), fun t current found => ?_⟩
      rw [if_neg (by simp)]
      cases t with
      | zero =>
          cases found
          exact walks
      | succ t => cases found
    · intro current found
      cases found
      exact queue
  have finished : Threads.Finished (⟨w', [], [[]]⟩ : ClientThreads) := by
    intro program member
    exact List.mem_singleton.mp member
  constructor
  · exact storagesFit_of_reached ordered start fits reached finished
  · exact invariant_alone filed_run does
      ((reported_start fits start).registry program (by simp)) filed

theorem kept_operation (order : IterationOrder DeviceDescriptor) (operation : Operation)
    (narrow : operation.Narrow) (fits : StoragesFit w) (filed : Filed w) :
    StoragesFit (operation.apply order w) ∧ Filed (operation.apply order w) := by
  let orders : Orders := ⟨order, .stored _⟩
  cases operation with
  | deviceEvent event =>
      have does : Does orders [] w _ _ := does_deviceEventProcessor event
      refine kept_alone does ?_ ?_ rfl fits filed
      · intro i member
        rw [List.mem_singleton.mp member]
        exact .inl ⟨event, narrow, rfl⟩
      · exact ⟨[], [event], rfl, .inr fun i member => by cases member⟩
  | requestDeviceData request =>
      have does : Does orders [] w _ _ := does_requestDeviceData request
      refine kept_alone does ?_ ?_ rfl fits filed
      · intro i member
        rw [List.mem_singleton.mp member]
        exact .inr ⟨request, .deviceData, rfl⟩
      · refine ⟨[.requestDeviceData request], [], rfl, .inr fun i member => ?_⟩
        rw [List.mem_singleton.mp member]
        rfl
  | requestDataFrame request =>
      have does : Does orders [] w _ _ := does_requestDataFrame request
      refine kept_alone does ?_ ?_ rfl fits filed
      · intro i member
        rw [List.mem_singleton.mp member]
        exact .inr ⟨request, .dataFrame, rfl⟩
      · refine ⟨[.requestDataFrame request], [], rfl, .inr fun i member => ?_⟩
        rw [List.mem_singleton.mp member]
        rfl
  | closeRequest m => exact ⟨storagesFit_kept fits kept_closeRequest, filed_kept filed kept_closeRequest⟩

end Registry

/-! ## One disconnect event after the other -/

section Disconnects

variable {order : IterationOrder DeviceDescriptor} {w w' : ClientManager} {m : ManagerId}
  {events : OrderedEvents}

/-- The two lists that a manager's update leaves alone. -/
def SameLists (w w' : ClientManager) : Prop :=
  w'.connectedDevices = w.connectedDevices ∧ w'.dataManagerList = w.dataManagerList

theorem SameLists.trans {w'' : ClientManager} (first : SameLists w w') (second : SameLists w' w'') :
    SameLists w w'' :=
  ⟨second.1.trans first.1, second.2.trans first.2⟩

theorem sameLists_onCalls (f : DataManager → List CallData → List CallData) :
    SameLists w (w.onCalls m f) := by
  unfold onCalls
  split <;> exact ⟨rfl, rfl⟩

theorem sameLists_openDataFrame : SameLists w (openDataFrame order w m) :=
  ⟨elsewhere_openDataFrame.connected, elsewhere_openDataFrame.list⟩

theorem sameLists_updateDeviceDataStream (device : DeviceDescriptor) (deviceConnected : Bool) :
    SameLists w (w.updateDeviceDataStream m device deviceConnected) := by
  cases held : w.dataManagers[m]? with
  | none =>
      rw [updateDeviceDataStream, held]
      exact ⟨rfl, rfl⟩
  | some manager =>
      cases requested : manager.isDeviceDataRequested device.id with
      | false => simp [updateDeviceDataStream, held, requested, SameLists]
      | true =>
          cases deviceConnected with
          | false =>
              simp only [updateDeviceDataStream, held, requested, not_true_eq_false, if_false,
                Bool.false_eq_true, not_false_eq_true, if_true]
              exact (sameLists_onCalls _).trans ⟨rfl, rfl⟩
          | true =>
              rw [updateDeviceDataStream_connected held requested]
              have stored : SameLists w (w.ensureStorage m device) :=
                ⟨elsewhere_ensureStorage.connected, elsewhere_ensureStorage.list⟩
              split
              · exact stored
              · exact stored.trans ⟨rfl, rfl⟩

theorem sameLists_updateStreams (device : DeviceDescriptor) (deviceConnected : Bool) :
    SameLists w (updateStreams order device deviceConnected w m) := by
  cases held : w.dataManagers[m]? with
  | none =>
      rw [updateStreams, held]
      exact ⟨rfl, rfl⟩
  | some manager =>
      cases streamType : manager.streamType with
      | deviceData =>
          simp only [updateStreams, held, streamType]
          exact sameLists_updateDeviceDataStream device deviceConnected
      | dataFrame =>
          simp only [updateStreams, held, streamType]
          cases requested : manager.isDeviceDataRequested device.id with
          | false =>
              rw [updateDataFrameStream_other held requested]
              exact ⟨rfl, rfl⟩
          | true =>
              rw [updateDataFrameStream_requested held requested]
              have dropped : SameLists w (w.dropStorage m device deviceConnected) :=
                ⟨elsewhere_dropStorage.connected, elsewhere_dropStorage.list⟩
              exact ((dropped.trans (sameLists_onCalls _)).trans ⟨rfl, rfl⟩).trans sameLists_openDataFrame

/-- An event changes the connected devices by its record, and never the list of managers. -/
theorem lists_deviceEventProcessor (event : Proto.TrackingDeviceEvent) :
    (deviceEventProcessor order w event).connectedDevices =
        (w.recordDevice (protoToDeviceDescriptor event.device) event.connected).connectedDevices ∧
      (deviceEventProcessor order w event).dataManagerList = w.dataManagerList := by
  have loop : ∀ (list : List ManagerId) (w : ClientManager), SameLists w
      (list.foldl (updateStreams order (protoToDeviceDescriptor event.device) event.connected) w) := by
    intro list
    induction list with
    | nil => exact fun w => ⟨rfl, rfl⟩
    | cons m rest ih => exact fun w => (sameLists_updateStreams _ _).trans (ih _)
  obtain ⟨connected, list⟩ := loop w.dataManagerList
    (w.recordDevice (protoToDeviceDescriptor event.device) event.connected)
  obtain ⟨devices, recorded⟩ :=
    recordDevice_frame w (protoToDeviceDescriptor event.device) event.connected
  have listed : (w.recordDevice (protoToDeviceDescriptor event.device) event.connected).dataManagerList =
      w.dataManagerList := by rw [recorded]
  have program : deviceEventProcessor order w event = w.dataManagerList.foldl
      (updateStreams order (protoToDeviceDescriptor event.device) event.connected)
      (w.recordDevice (protoToDeviceDescriptor event.device) event.connected) := by
    rw [← listed]
    rfl
  rw [program]
  exact ⟨connected, list.trans listed⟩

theorem empty_of_lookup {β : Type} {map : DeviceMap β} (none : ∀ key, map.lookup key = none) : map = ∅ := by
  apply AList.ext
  refine List.eq_nil_iff_forall_not_mem.mpr fun entry member => ?_
  have found : map.lookup entry.1 = some entry.2 := AList.mem_lookup_iff.mpr member
  rw [none] at found
  cases found

/-- The devices of disconnect events are not connected afterwards. -/
theorem lookup_handleEvents (events : OrderedEvents) : ∀ w : ClientManager,
    (∀ event ∈ events, event.1.connected = false) → ∀ key,
      (∃ event ∈ events, (protoToDeviceDescriptor event.1.device).hash = key) ∨
        w.connectedDevices.lookup key = none →
      (w.handleEvents events).connectedDevices.lookup key = none := by
  induction events with
  | nil =>
      intro w _ key unplugged
      exact unplugged.resolve_left (by simp)
  | cons event rest ih =>
      intro w gone key unplugged
      obtain ⟨here, later⟩ := List.forall_mem_cons.mp gone
      refine ih _ later key ?_
      rw [(lists_deviceEventProcessor event.1).1, here, lookup_recordDevice]
      by_cases own : key = (protoToDeviceDescriptor event.1.device).hash
      · exact .inr (by simp [own])
      · rw [if_neg own]
        rcases unplugged with ⟨event', member, same⟩ | absent
        · rcases List.mem_cons.mp member with rfl | member
          · exact absurd same.symm own
          · exact .inl ⟨event', member, same⟩
        · exact .inr absent

/-- **A disconnect event for each connected device** leaves none connected, and no storage to
any manager on the list. -/
theorem handleEvents_disconnects (fits : StoragesFit w) (filed : Filed w)
    (disconnects : DisconnectsAll w events) :
    StoragesFit (w.handleEvents events) ∧ (w.handleEvents events).connectedDevices = ∅ ∧
      (w.handleEvents events).dataManagerList = w.dataManagerList := by
  have each : ∀ (events : OrderedEvents) (w : ClientManager), StoragesFit w → Filed w →
      (∀ event ∈ events, event.1.device.portId.toNat < 256) →
      StoragesFit (w.handleEvents events) ∧ (w.handleEvents events).dataManagerList = w.dataManagerList := by
    intro events
    induction events with
    | nil => exact fun w fits _ _ => ⟨fits, rfl⟩
    | cons event rest ih =>
        intro w fits filed narrow
        obtain ⟨port, later⟩ := List.forall_mem_cons.mp narrow
        obtain ⟨fits', filed'⟩ := kept_operation event.2 (.deviceEvent event.1) port fits filed
        obtain ⟨last, list⟩ := ih _ fits' filed' later
        exact ⟨last, list.trans (lists_deviceEventProcessor event.1).2⟩
  obtain ⟨last, list⟩ := each events w fits filed fun event member => (disconnects.gone event member).2
  refine ⟨last, empty_of_lookup fun key => ?_, list⟩
  apply lookup_handleEvents events w fun event member => (disconnects.gone event member).1
  cases found : w.connectedDevices.lookup key with
  | none => exact .inr rfl
  | some device =>
      obtain ⟨event, member, same⟩ := disconnects.each key device found
      refine .inl ⟨event, member, ?_⟩
      rw [← DeviceDescriptor.hash_id, same, DeviceDescriptor.hash_id, fits.keyed key device found]

end Disconnects

/-! ## One happening -/

section Step

variable {w w' : ClientManager} {label : Happening × Orders}

theorem performed (happened : w.happen label = some w') :
    w.blocked label.1 = false ∧ w.perform label = some w' := by
  unfold happen at happened
  split at happened
  · cases happened
  · rename_i free
    exact ⟨Bool.eq_false_iff.mpr free, happened⟩

theorem noStorages_of_empty (fits : StoragesFit w) (empty : w.connectedDevices = ∅) : NoStorages w := by
  rintro m listed key ⟨manager, held, member⟩
  obtain ⟨device, found, -⟩ := (fits.storages m listed manager held key).mp member
  rw [empty] at found
  cases found

/-- A round that sees the channel lost forgets the connected devices, and that is all it does
to the requests. -/
theorem observeChannel_lost {state : ChannelState} (before : w.previousChannelState = some .ready)
    (lost : state ≠ .ready) :
    (w.observeChannel state).connectedDevices = ∅ ∧
      (w.observeChannel state).dataManagers = w.dataManagers ∧
      (w.observeChannel state).dataManagerList = w.dataManagerList := by
  have changed : some ChannelState.ready ≠ some state := fun same => lost (Option.some.inj same).symm
  simp only [observeChannel, before, channelNotReady, ne_eq, changed, not_false_eq_true, if_true, lost,
    if_false, stopEventStream, true_and]
  split <;> exact ⟨rfl, rfl⟩

theorem kept_observeChannel {state : ChannelState}
    (stays : ¬ (w.previousChannelState = some .ready ∧ state ≠ .ready)) :
    RequestsKept w (w.observeChannel state) := by
  unfold observeChannel
  split
  · split
    · exact (kept_channelReady w).trans (.of_eq rfl rfl rfl)
    · rename_i lost
      have unready : w.previousChannelState ≠ some .ready := fun ready => stays ⟨ready, lost⟩
      rw [channelNotReady, if_neg unready]
      exact kept_stopEventStream.trans (.of_eq rfl rfl rfl)
  · exact .refl w

/-- Whatever happens, unless it is a loss of the channel. -/
theorem kept_happen (fits : StoragesFit w) (filed : Filed w) (narrow : label.1.Narrow)
    (stays : ¬ Loses w label.1) (happened : w.happen label = some w') : StoragesFit w' ∧ Filed w' := by
  have frame : ∀ {w'}, RequestsKept w w' → StoragesFit w' ∧ Filed w' := fun kept =>
    ⟨storagesFit_kept fits kept, filed_kept filed kept⟩
  obtain ⟨happening, orders⟩ := label
  replace happened := (performed happened).2
  cases happening with
  | registry operation =>
      cases happened
      exact kept_operation orders.devices operation narrow fits filed
  | requestBaseStationData =>
      cases happened
      exact frame (.of_eq rfl rfl rfl)
  | closeBaseStationDataRequest s =>
      have closed : w.closeBaseStationDataRequest 1 (some s) = some w' := happened
      exact frame (kept_closeBaseStationDataRequest closed)
  | createWirelessManager =>
      cases happened
      exact frame (.of_eq rfl rfl rfl)
  | cancelStream i =>
      cases happened
      exact frame (kept_cancelStream i)
  | failed callData =>
      simp only [perform] at happened
      split at happened
      · cases happened
        exact frame ((kept_deleteCallData _ callData).trans (.of_eq rfl rfl rfl))
      · cases happened
  | observeChannel state =>
      cases happened
      exact frame (kept_observeChannel fun lost => stays ⟨state, rfl, lost.1, lost.2⟩)

theorem noStorages_iff (fits : StoragesFit w) : NoStorages w ↔
    ∀ m ∈ w.dataManagerList, ∀ manager, w.dataManagers[m]? = some manager →
      ∀ key, ¬ Wanted w.connectedDevices manager key := by
  constructor
  · intro none m listed manager held key wanted
    exact none m listed key ⟨manager, held, (fits.storages m listed manager held key).mpr wanted⟩
  · rintro unwanted m listed key ⟨manager, held, member⟩
    exact unwanted m listed manager held key ((fits.storages m listed manager held key).mp member)

/-- What a manager lists is connected. -/
theorem listed_connected (fits : StoragesFit w) (filed : Filed w) :
    ∀ m ∈ w.dataManagerList, ∀ manager, w.dataManagers[m]? = some manager →
      ∀ deviceId ∈ manager.getDeviceStorageList, deviceId.hash ∈ w.connectedDevices := by
  intro m listed manager held deviceId member
  obtain ⟨entry, stored, rfl⟩ := List.mem_map.mp member
  have found : manager.deviceDataMap.lookup entry.1 = some entry.2 := mem_inKeyOrder.mp stored
  have own := filed m manager held _ _ found
  obtain ⟨device, connected, -⟩ := (fits.storages m listed manager held entry.1).mp
    (AList.lookup_isSome.mp (by rw [found]; rfl))
  rw [DeviceDescriptor.hash_id, own]
  exact AList.lookup_isSome.mp (by rw [connected]; rfl)

/-- After a loss that finds no storage, the fit is that of no device at all. -/
theorem kept_lost (fits : StoragesFit w) (filed : Filed w) (connected : w'.connectedDevices = ∅)
    (managers : w'.dataManagers = w.dataManagers) (list : w'.dataManagerList = w.dataManagerList)
    (none : NoStorages w) : StoragesFit w' ∧ Filed w' := by
  constructor
  · constructor
    · intro key device found
      rw [connected] at found
      cases found
    · intro key device found
      rw [connected] at found
      cases found
    · rw [managers, list]
      exact fits.listed
    · intro m listed manager held key
      rw [list] at listed
      rw [managers] at held
      constructor
      · exact fun member => absurd ⟨manager, held, member⟩ (none m listed key)
      · rintro ⟨device, found, -⟩
        rw [connected] at found
        cases found
  · unfold Filed
    rw [managers]
    exact filed

/-- **One happening.**  The requests follow the channel exactly if its loss disconnects no
device that a manager requested. -/
theorem requestsFollow_step_iff (fits : StoragesFit w) (filed : Filed w) (narrow : label.1.Narrow)
    (happened : w.happen label = some w') :
    RequestsFollow w label.1 w' ↔ LosesNothing w label.1 := by
  by_cases lost : Loses w label.1
  · obtain ⟨state, observed, before, gone⟩ := lost
    have after : w' = w.observeChannel state := by
      have done := (performed happened).2
      rw [perform, observed] at done
      exact (Option.some.inj done).symm
    obtain ⟨connected, managers, list⟩ := observeChannel_lost before gone
    rw [← after] at connected managers list
    have same : NoStorages w' ↔ NoStorages w := by simp only [NoStorages, HoldsStorage, managers, list]
    have loses : LosesNothing w label.1 ↔ NoStorages w := by
      rw [noStorages_iff fits]
      exact ⟨fun nothing => nothing ⟨state, observed, before, gone⟩, fun nothing _ => nothing⟩
    rw [loses]
    constructor
    · intro follow
      exact same.mp (follow.lost ⟨state, observed, before, gone⟩).2.1
    · intro none
      obtain ⟨fits', filed'⟩ := kept_lost fits filed connected managers list none
      refine ⟨fun _ => ⟨connected, same.mpr none, fun events disconnects => ?_⟩, listed_connected fits' filed'⟩
      obtain ⟨last, empty, kept⟩ := handleEvents_disconnects fits filed disconnects
      refine ⟨connected.trans empty.symm, list.trans kept.symm, fun m listed key => ?_⟩
      refine iff_of_false (same.mpr none m listed key) ?_
      rw [list, ← kept] at listed
      exact noStorages_of_empty last empty m listed key
  · obtain ⟨fits', filed'⟩ := kept_happen fits filed narrow lost happened
    refine iff_of_true ⟨fun loses => absurd loses lost, listed_connected fits' filed'⟩ ?_
    exact fun loses => absurd loses lost

/-- What holds after a happening that the requests follow. -/
theorem kept_of_follow (fits : StoragesFit w) (filed : Filed w) (narrow : label.1.Narrow)
    (happened : w.happen label = some w') (follow : RequestsFollow w label.1 w') :
    StoragesFit w' ∧ Filed w' := by
  by_cases lost : Loses w label.1
  · have empty := (follow.lost lost).1
    have nothing := (requestsFollow_step_iff fits filed narrow happened).mp follow lost
    obtain ⟨state, observed, before, gone⟩ := lost
    have after : w' = w.observeChannel state := by
      have done := (performed happened).2
      rw [perform, observed] at done
      exact (Option.some.inj done).symm
    obtain ⟨-, managers, list⟩ := observeChannel_lost before gone
    rw [← after] at managers list
    exact kept_lost fits filed empty managers list ((noStorages_iff fits).mpr nothing)
  · exact kept_happen fits filed narrow lost happened

end Step

/-! ## Runs -/

theorem storagesFit_init : StoragesFit init where
  keyed key device found := by cases found
  narrow key device found := by cases found
  listed m member := by cases member
  storages m member := by cases member

theorem filed_init : Filed init := by
  intro m manager held
  cases held

/-- **When the loss of the channel disconnects every device.**  For every run of events,
requests, closes, ended calls and polls of the channel, over devices with ports of eight bits:
after each step the requests follow the channel, if and only if no connected device is one that
a manager on the list requested whenever the channel is lost. -/
theorem requests_follow_iff (happenings : List (Happening × Orders))
    (narrow : ∀ label ∈ happenings, label.1.Narrow) :
    EveryStep happen (fun w label w' => RequestsFollow w label.1 w') happenings init ↔
      EveryStep happen (fun w label _ => LosesNothing w label.1) happenings init := by
  refine everyStep_iff (fun w => StoragesFit w ∧ Filed w) happenings ?_ ?_ ⟨storagesFit_init, filed_init⟩
  · rintro w label w' member ⟨fits, filed⟩ happened
    exact requestsFollow_step_iff fits filed (narrow label member) happened
  · rintro w label w' member ⟨fits, filed⟩ happened follow
    exact kept_of_follow fits filed (narrow label member) happened follow

/-- A device that nobody requested is connected when the channel is lost. -/
theorem requests_follow_unrequested :
    EveryStep happen (fun w label w' => RequestsFollow w label.1 w')
      [(.observeChannel .ready, .stored),
        (.registry (.deviceEvent { device := { siuUuid := 1, portId := 2 }, connected := true }), .stored),
        (.registry (.requestDeviceData { requestedDevices := [⟨3, 4⟩] }), .stored),
        (.observeChannel .transientFailure, .stored)] init := by
  refine (requests_follow_iff _ (by simp [Happening.Narrow, Operation.Narrow])).mpr ?_
  have quiet : ∀ {w : ClientManager} {happening : Happening},
      (∀ state, happening ≠ .observeChannel state) → LosesNothing w happening := by
    rintro w happening other ⟨state, rfl, -⟩
    exact absurd rfl (other state)
  rintro _ ⟨⟩
  refine ⟨fun loses => ?_, ?_⟩
  · obtain ⟨state, -, before, -⟩ := loses
    cases before
  rintro _ ⟨⟩
  refine ⟨quiet (by simp), ?_⟩
  rintro _ ⟨⟩
  refine ⟨quiet (by simp), ?_⟩
  rintro _ ⟨⟩
  refine ⟨fun _ m listed manager held key wanted => ?_, trivial⟩
  obtain ⟨device, found, requested⟩ := wanted
  have first : m = 0 := List.mem_singleton.mp listed
  subst first
  cases held
  have entry := AList.mem_lookup_iff.mp found
  have only : (⟨key, device⟩ : Σ _ : UInt64, DeviceDescriptor) = ⟨258, { siuUuid := 1, portId := 2 }⟩ :=
    List.mem_singleton.mp entry
  cases only
  exact absurd requested (by decide)

/-- A device is requested and connected, and then the channel is lost. -/
theorem storage_outlives_channel :
    ¬ ∀ happenings : List (Happening × Orders), (∀ label ∈ happenings, label.1.Narrow) →
      EveryStep happen (fun w label w' => RequestsFollow w label.1 w') happenings init := by
  intro claimed
  have every := claimed ([(.observeChannel .ready, .stored),
      (.registry (.requestDeviceData default), .stored),
      (.registry (.deviceEvent { device := { siuUuid := 1, portId := 2 }, connected := true }), .stored)] ++
    [(.observeChannel .transientFailure, .stored)]) (by simp [Happening.Narrow, Operation.Narrow])
  have none := ((every.last rfl rfl).lost ⟨_, rfl, rfl, by decide⟩).2.1
  exact none 0 (by decide) 258 ⟨_, rfl, by decide⟩

end ClientManager

end OmmoSdk.Client
