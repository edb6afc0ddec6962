/-
# Client.DataContext — all the requests of a client context, and its latest-N queries

A client context keeps its data requests under tags, each with the data manager that the
client manager made for it, and takes the tags of its base station requests from the same
source.  The number of packets of a latest-N query is an `int32_t` at the context and
at the data manager, and a `uint32_t` at the storage.

`Histories` says that every storage, of a device or of a base station request, holds a
history of packets.  It is kept by everything that happens to a context
(`histories_of_reached`), so the queries answer from a history wherever they are asked.
-/
import OmmoSdk.Client.ChannelMonitor

namespace OmmoSdk.Client

open OmmoSdk.Theory
open OmmoSdk.Sdk
open OmmoSdk.Storage

set_option autoImplicit false

namespace ClientManager

/-! ## Messages of the device streams -/

/-- A function of a data manager that is bound to its pointer. -/
def callManager (w : ClientManager) (m : ManagerId) (f : DataManager → Except Fault DataManager) :
    Except Fault ClientManager :=
  match w.dataManagers[m]? with
  | some manager => do
      let manager ← f manager
      return { w with dataManagers := w.dataManagers.set m manager }
  | none => .ok w

/-- The listener of a device data call is given a message of its stream. -/
def receiveTrackingDeviceData (w : ClientManager) (callData : CallId)
    (packet : Proto.TrackingDeviceData) : Except Fault ClientManager :=
  match w.calls[callData]? with
  | some ⟨.deviceData m _, false, false⟩ => w.callManager m fun manager => manager.updateDeviceData packet
  | _ => .ok w

/-- The listener of a data frame call is given a message of its stream. -/
def receiveDataFrame (w : ClientManager) (callData : CallId) (packet : Proto.DataFrame) :
    Except Fault ClientManager :=
  match w.calls[callData]? with
  | some ⟨.dataFrame m _, false, false⟩ => w.callManager m fun manager => manager.updateDataFrame packet
  | _ => .ok w

end ClientManager

/-- A client context. -/
structure DataContext extends ClientContext where
  dataManagers : AList (fun _ : UInt32 => ManagerId)

namespace DataContext

def init : DataContext := { ClientContext.init with dataManagers := ∅ }

/-- The end of both request functions, under the mutex of the map. -/
def register (c : DataContext) (w : ClientManager) (manager : ManagerId) : DataContext × UInt32 :=
  let currentTag := c.dataManagersTagSource
  ({ c with
      clientManager := w
      dataManagersTagSource := c.dataManagersTagSource + 1
      dataManagers := c.dataManagers.insert currentTag manager },
    currentTag)

def requestDeviceData (order : IterationOrder DeviceDescriptor) (c : DataContext)
    (request : DataRequest) : DataContext × UInt32 :=
  let (w, manager) := ClientManager.requestDeviceData order c.clientManager request
  c.register w manager

def requestDataFrame (order : IterationOrder DeviceDescriptor) (c : DataContext)
    (request : DataRequest) : DataContext × UInt32 :=
  let (w, manager) := ClientManager.requestDataFrame order c.clientManager request
  c.register w manager

def closeRequest (c : DataContext) (requestTag : UInt32) : DataContext :=
  match c.dataManagers.lookup requestTag with
  | some manager =>
      { c with
        clientManager := c.clientManager.closeRequest manager
        dataManagers := c.dataManagers.erase requestTag }
  | none => c

/-- The data manager of an open tag. -/
def manager (c : DataContext) (requestTag : UInt32) : Option DataManager :=
  (c.dataManagers.lookup requestTag).bind fun m => c.clientManager.dataManagers[m]?

/-- `GetLatestData` with a number of packets. -/
def getLatestData (c : DataContext) (requestTag : UInt32) (deviceId : DeviceID)
    (numPackets : Int32) : Except Fault (DataResponse TrackingDeviceData) :=
  match c.manager requestTag with
  | some manager => manager.getLatestDataCount deviceId numPackets
  | none => .ok PacketBuffers.emptyResponse

inductive Operation where
  | requestDeviceData (request : DataRequest)
  | requestDataFrame (request : DataRequest)
  | closeRequest (requestTag : UInt32)
  | baseStation (operation : ClientContext.Operation)
  /-- what happens to the client manager besides: device events, ended calls, the channel -/
  | client (happening : ClientManager.Happening)
  | receiveTrackingDeviceData (callData : CallId) (packet : Proto.TrackingDeviceData)
  | receiveDataFrame (callData : CallId) (packet : Proto.DataFrame)

/-- The context with the client manager after a message, if its conversion is defined. -/
def received (c : DataContext) : Except Fault ClientManager → Option DataContext
  | .ok w => some { c with clientManager := w }
  | .error _ => none

def perform (c : DataContext) (label : Operation × Orders) : Option DataContext :=
  match label.1 with
  | .requestDeviceData request => some (c.requestDeviceData label.2.devices request).1
  | .requestDataFrame request => some (c.requestDataFrame label.2.devices request).1
  | .closeRequest requestTag => some (c.closeRequest requestTag)
  | .baseStation operation =>
      (c.toClientContext.step operation).map fun after => { c with toClientContext := after }
  | .client happening =>
      (c.clientManager.happen (happening, label.2)).map fun w => { c with clientManager := w }
  | .receiveTrackingDeviceData callData packet =>
      c.received (c.clientManager.receiveTrackingDeviceData callData packet)
  | .receiveDataFrame callData packet =>
      c.received (c.clientManager.receiveDataFrame callData packet)

/-- A completion queue thread that hangs hands out no messages, and the close of the request whose
mutex it holds waits for it. -/
def blocked (c : DataContext) : Operation → Bool
  | .baseStation (.receive _ _) | .receiveTrackingDeviceData _ _ | .receiveDataFrame _ _ =>
      c.clientManager.hungIn.isSome
  | .closeRequest requestTag => match c.dataManagers.lookup requestTag with
      | some manager => c.clientManager.hungIn = some manager
      | none => false
  | _ => false

def step (c : DataContext) (label : Operation × Orders) : Option DataContext :=
  if c.blocked label.1 then none else c.perform label

theorem performed {c c' : DataContext} {label : Operation × Orders} (stepped : c.step label = some c') :
    c.blocked label.1 = false ∧ c.perform label = some c' := by
  unfold step at stepped
  split at stepped
  · cases stepped
  · rename_i free
    exact ⟨Bool.eq_false_iff.mpr free, stepped⟩

/-! ## The histories of the storages -/

/-- The buffers of a client, all of one size, hold a history of packets. -/
def Recorded {δ : Type} (buffers : PacketBuffers δ) : Prop :=
  ∃ h, PacketBuffers.Represents (Nat.succ_pos 499) buffers h

/-- Every storage of the client holds a history. -/
structure Histories (w : ClientManager) : Prop where
  devices : ClientManager.AllStorages (fun _ storage => Recorded storage.buffers) w
  stations : ClientContext.Stocked w

section Keeping

variable {w w' : ClientManager} {orders : Orders} {instr : Instr} {m : ManagerId}

theorem recorded_new (device : DeviceDescriptor) :
    Recorded (DeviceDataStorage.init device 500).buffers :=
  ⟨[], PacketBuffers.init_represents (N := 500) (by decide) (by decide)⟩

/-- A step that leaves the storages of the devices and the packets of the base stations. -/
theorem Histories.keep (histories : Histories w) (kept : ClientManager.RequestsKept w w')
    (stations : ∀ (s : StorageId) (storage' : BaseStationDataStorage),
      w'.baseStationStorages[s]? = some storage' →
      ∃ storage, w.baseStationStorages[s]? = some storage ∧ storage'.buffers = storage.buffers) :
    Histories w' := by
  refine ⟨ClientManager.allStorages_kept histories.devices kept, fun s storage' found => ?_⟩
  obtain ⟨storage, before, same⟩ := stations s storage' found
  rw [same]
  exact histories.stations s storage before

theorem Histories.same (histories : Histories w) (kept : ClientManager.RequestsKept w w')
    (stations : w'.baseStationStorages = w.baseStationStorages) : Histories w' :=
  histories.keep kept fun _ storage found => ⟨storage, stations ▸ found, rfl⟩

theorem stations_onCalls (f : DataManager → List CallData → List CallData) :
    (w.onCalls m f).baseStationStorages = w.baseStationStorages := by
  unfold ClientManager.onCalls
  split <;> rfl

/-- Events and requests are about devices. -/
theorem stations_run (registry : instr.registry = true) :
    (instr.run orders w).baseStationStorages = w.baseStationStorages := by
  cases instr with
  | cancelDataStream m deviceId | cancelDataFrameStream m reopen => exact stations_onCalls _
  | recordDevice device deviceConnected =>
      obtain ⟨connected, recorded⟩ := ClientManager.recordDevice_frame w device deviceConnected
      rw [Instr.run, recorded]
  | openTrackingDeviceDataStream m device | openDataFrameStream m devices =>
      simp only [Instr.run]
      split <;> rfl
  | _ => first | rfl | cases registry

theorem histories_run (registry : instr.registry = true) (histories : Histories w) :
    Histories (instr.run orders w) := by
  refine ⟨ClientManager.allStorages_run recorded_new registry histories.devices, ?_⟩
  intro s storage found
  rw [stations_run registry] at found
  exact histories.stations s storage found

theorem stations_closeRequest : (w.closeRequest m).baseStationStorages = w.baseStationStorages := by
  unfold ClientManager.closeRequest
  split
  · rfl
  · split
    · exact stations_onCalls _
    · exact stations_onCalls _

theorem histories_operation (order : IterationOrder DeviceDescriptor)
    (operation : ClientManager.Operation) (histories : Histories w) :
    Histories (operation.apply order w) := by
  let orders : Orders := ⟨order, .stored _⟩
  cases operation with
  | deviceEvent event =>
      have does : Does orders [] w _ _ := does_deviceEventProcessor event
      exact ClientManager.invariant_alone histories_run does rfl histories
  | requestDeviceData request =>
      have does : Does orders [] w _ _ := does_requestDeviceData request
      exact ClientManager.invariant_alone histories_run does rfl histories
  | requestDataFrame request =>
      have does : Does orders [] w _ _ := does_requestDataFrame request
      exact ClientManager.invariant_alone histories_run does rfl histories
  | closeRequest m => exact histories.same ClientManager.kept_closeRequest stations_closeRequest

/-! ## Whatever happens to the client manager -/

theorem histories_requestBaseStationData (histories : Histories w) :
    Histories w.requestBaseStationData.1 :=
  ⟨ClientManager.allStorages_kept histories.devices (.of_eq rfl rfl rfl),
    (ClientContext.requestBaseStationData_frame histories.stations).1⟩

theorem stations_closeBaseStationDataRequest {storage : Option StorageId}
    (closed : w.closeBaseStationDataRequest 1 storage = some w') :
    w'.baseStationStorages = w.baseStationStorages := by
  obtain ⟨list, rfl | ⟨callData, rfl⟩⟩ := ClientManager.closed_cases closed <;> rfl

theorem histories_closeBaseStationDataRequest {storage : Option StorageId} (histories : Histories w)
    (closed : w.closeBaseStationDataRequest 1 storage = some w') : Histories w' :=
  histories.same (ClientManager.kept_closeBaseStationDataRequest closed)
    (stations_closeBaseStationDataRequest closed)

/-- The destructor of a call may clear the pointer of a storage. -/
theorem stations_deleteCallData (order : IterationOrder CallId) (callData : CallId) (s : StorageId)
    (storage' : BaseStationDataStorage)
    (found : (ClientManager.deleteCallData order w callData).baseStationStorages[s]? =
      some storage') :
    ∃ storage, w.baseStationStorages[s]? = some storage ∧ storage'.buffers = storage.buffers := by
  unfold ClientManager.deleteCallData at found
  cases current : w.calls[callData]? with
  | none =>
      rw [current] at found
      exact ⟨storage', found, rfl⟩
  | some call =>
      simp only [current] at found
      cases stream : call.stream with
      | deviceData m request | dataFrame m request =>
          simp only [stream, ClientManager.clearAssociation] at found
          split at found
          · exact ⟨storage', found, rfl⟩
          · rename_i manager held
            cases cleared : manager.clearAssociation order 1 callData with
            | none =>
                rw [cleared] at found
                exact ⟨storage', found, rfl⟩
            | some result =>
                rw [cleared] at found
                exact ⟨storage', found, rfl⟩
      | baseStation s' =>
          simp only [stream, ClientManager.clearAssociation, Option.getD_some,
            List.getElem?_modify] at found
          obtain ⟨storage, before, rfl⟩ := Option.map_eq_some_iff.mp found
          refine ⟨storage, before, ?_⟩
          split
          · simp only [BaseStationDataStorage.clearAssociation]
            split <;> rfl
          · rfl
      | wireless i | deviceEvents =>
          rw [stream] at found
          exact ⟨storage', found, rfl⟩

theorem Histories.foldl {α : Type} {f : ClientManager → α → ClientManager}
    (each : ∀ w item, Histories w → Histories (f w item)) (items : List α)
    (histories : Histories w) : Histories (items.foldl f w) :=
  List.foldlRecOn items f histories fun w histories item _ => each w item histories

theorem histories_observeChannel (state : ChannelState) (histories : Histories w) :
    Histories (w.observeChannel state) := by
  have stopped : Histories w.stopEventStream := by
    refine histories.same ClientManager.kept_stopEventStream ?_
    unfold ClientManager.stopEventStream
    split <;> rfl
  unfold ClientManager.observeChannel
  split
  · split
    · -- The streams are opened again, those of the base stations with their pointers.
      have opened : Histories w.startEventStream := histories.same (.of_eq rfl rfl rfl) rfl
      have ready : Histories w.channelReady := by
        refine Histories.foldl ?_ _ (Histories.foldl ?_ _ opened)
        · intro w i histories
          unfold ClientManager.reopenWirelessStream
          split
          · exact histories.same (.of_eq rfl rfl rfl) rfl
          · exact histories
        · intro w s histories
          unfold ClientManager.reopenBaseStationStream
          split
          · exact ⟨ClientManager.allStorages_kept histories.devices (.of_eq rfl rfl rfl),
              ClientContext.Stocked.setDataStream (w := (w.openBaseStationDataStream s).1)
                histories.stations⟩
          · exact histories
      exact ⟨ready.devices, ready.stations⟩
    · unfold ClientManager.channelNotReady
      simp only
      split
      · exact ⟨stopped.devices, stopped.stations⟩
      · exact ⟨stopped.devices, stopped.stations⟩
  · exact histories

theorem histories_happen {label : ClientManager.Happening × Orders} (histories : Histories w)
    (happened : w.happen label = some w') : Histories w' := by
  obtain ⟨happening, orders⟩ := label
  replace happened := (ClientManager.performed happened).2
  cases happening with
  | registry operation =>
      cases happened
      exact histories_operation orders.devices operation histories
  | requestBaseStationData =>
      cases happened
      exact histories_requestBaseStationData histories
  | closeBaseStationDataRequest s =>
      have closed : w.closeBaseStationDataRequest 1 (some s) = some w' := happened
      exact histories_closeBaseStationDataRequest histories closed
  | createWirelessManager =>
      cases happened
      exact histories.same (.of_eq rfl rfl rfl) rfl
  | cancelStream i =>
      cases happened
      refine histories.same (ClientManager.kept_cancelStream i) ?_
      unfold ClientManager.cancelStream
      split <;> rfl
  | failed callData =>
      simp only [ClientManager.perform] at happened
      split at happened
      · cases happened
        exact histories.keep ((ClientManager.kept_deleteCallData _ callData).trans (.of_eq rfl rfl rfl))
          (stations_deleteCallData _ callData)
      · cases happened
  | observeChannel state =>
      cases happened
      exact histories_observeChannel state histories

/-! ## Messages -/

/-- Every storage of a data manager holds a history. -/
def AllRecorded (manager : DataManager) : Prop :=
  ∀ key storage, manager.deviceDataMap.lookup key = some storage → Recorded storage.buffers

/-- A message for a device is pushed into its storage, or into none. -/
theorem recorded_updateDeviceData {manager manager' : DataManager}
    {packet : Proto.TrackingDeviceData} (recorded : AllRecorded manager)
    (updated : manager.updateDeviceData packet = .ok manager') : AllRecorded manager' := by
  unfold DataManager.updateDeviceData at updated
  simp only at updated
  cases found : manager.deviceDataMap.lookup (hash packet.siuUuid packet.portId) with
  | none =>
      rw [found] at updated
      cases updated
      exact recorded
  | some storage =>
      obtain ⟨h, represents⟩ := recorded _ storage found
      rw [found] at updated
      cases pushed : storage.pushData packet with
      | error fault => simp [pushed, bind, Except.bind] at updated
      | ok outcome =>
          simp only [pushed, bind, Except.bind, pure, Except.pure] at updated
          cases updated
          obtain ⟨-, -, converted, -, after⟩ :=
            DeviceDataStorage.pushData_represents represents (by decide) pushed
          intro key storage' looked
          by_cases same : key = hash packet.siuUuid packet.portId
          · subst same
            rw [AList.lookup_insert] at looked
            cases looked
            exact ⟨_, after⟩
          · rw [AList.lookup_insert_ne same] at looked
            exact recorded key storage' looked

theorem recorded_updateDataFrame (packets : List Proto.TrackingDeviceData) :
    ∀ {manager manager' : DataManager}, AllRecorded manager →
      packets.foldlM DataManager.updateDeviceData manager = .ok manager' →
      AllRecorded manager' := by
  induction packets with
  | nil =>
      intro manager manager' recorded updated
      cases updated
      exact recorded
  | cons packet rest ih =>
      intro manager manager' recorded updated
      rw [List.foldlM_cons] at updated
      cases first : manager.updateDeviceData packet with
      | error fault => simp [first, bind, Except.bind] at updated
      | ok next =>
          simp only [first, bind, Except.bind] at updated
          exact ih (recorded_updateDeviceData recorded first) updated

theorem histories_callManager {f : DataManager → Except Fault DataManager}
    (keeps : ∀ manager manager', AllRecorded manager → f manager = .ok manager' →
      AllRecorded manager')
    (histories : Histories w) (called : w.callManager m f = .ok w') : Histories w' := by
  unfold ClientManager.callManager at called
  cases held : w.dataManagers[m]? with
  | none =>
      rw [held] at called
      cases called
      exact histories
  | some manager =>
      rw [held] at called
      cases done : f manager with
      | error fault => simp [done, bind, Except.bind] at called
      | ok manager' =>
          simp only [done, bind, Except.bind, pure, Except.pure] at called
          cases called
          refine ⟨fun m' other placed => ?_, histories.stations⟩
          rw [List.getElem?_set] at placed
          split at placed
          · split at placed
            · cases placed
              exact keeps manager _ (histories.devices m manager held) done
            · cases placed
          · exact histories.devices m' other placed

theorem histories_receiveTrackingDeviceData {callData : CallId} {packet : Proto.TrackingDeviceData}
    (histories : Histories w) (received : w.receiveTrackingDeviceData callData packet = .ok w') :
    Histories w' := by
  unfold ClientManager.receiveTrackingDeviceData at received
  split at received
  · exact histories_callManager (fun _ _ => recorded_updateDeviceData) histories received
  · cases received
    exact histories

theorem histories_receiveDataFrame {callData : CallId} {packet : Proto.DataFrame}
    (histories : Histories w) (received : w.receiveDataFrame callData packet = .ok w') :
    Histories w' := by
  unfold ClientManager.receiveDataFrame at received
  split at received
  · exact histories_callManager (fun _ _ => recorded_updateDataFrame packet.deviceData) histories
      received
  · cases received
    exact histories

theorem histories_receiveBaseStationData {callData : CallId} {packet : Proto.BaseStationData}
    (histories : Histories w) (received : w.receiveBaseStationData callData packet = .ok w') :
    Histories w' := by
  have managers : w'.dataManagers = w.dataManagers := by
    unfold ClientManager.receiveBaseStationData at received
    split at received
    · split at received
      · rename_i storage found
        cases pushed : storage.pushData packet with
        | error fault => simp [pushed, bind, Except.bind] at received
        | ok outcome =>
            simp only [pushed, bind, Except.bind, pure, Except.pure] at received
            cases received
            rfl
      · cases received
        rfl
    · cases received
      rfl
  refine ⟨fun m manager held => ?_, (ClientContext.receive_kept histories.stations received).1⟩
  rw [managers] at held
  exact histories.devices m manager held

end Keeping

/-! ## Runs of a context -/

section Runs

variable {c c' : DataContext} {label : Operation × Orders}

theorem histories_init : Histories init.clientManager := by
  constructor
  · intro m manager held
    cases held
  · intro s storage found
    cases found

theorem histories_baseStation {context context' : ClientContext}
    {operation : ClientContext.Operation} (histories : Histories context.clientManager)
    (stepped : context.step operation = some context') : Histories context'.clientManager := by
  cases operation with
  | requestBaseStationData =>
      cases stepped
      simp only [ClientContext.requestBaseStationData]
      split
      · exact histories_requestBaseStationData histories
      · exact histories
  | closeBaseStationDataRequest requestTag =>
      simp only [ClientContext.step, ClientContext.closeBaseStationDataRequest] at stepped
      split at stepped
      · obtain ⟨w, closed, rfl⟩ := Option.map_eq_some_iff.mp stepped
        exact histories_closeBaseStationDataRequest histories closed
      · cases stepped
        exact histories
  | receive callData packet =>
      simp only [ClientContext.step] at stepped
      split at stepped
      · rename_i received
        cases stepped
        exact histories_receiveBaseStationData histories received
      · cases stepped

/-- **One step.** -/
theorem histories_step (histories : Histories c.clientManager) (stepped : c.step label = some c') :
    Histories c'.clientManager := by
  obtain ⟨operation, orders⟩ := label
  replace stepped := (performed stepped).2
  cases operation with
  | requestDeviceData request =>
      cases stepped
      exact histories_operation orders.devices (.requestDeviceData request) histories
  | requestDataFrame request =>
      cases stepped
      exact histories_operation orders.devices (.requestDataFrame request) histories
  | closeRequest requestTag =>
      cases stepped
      simp only [closeRequest]
      split
      · exact histories.same ClientManager.kept_closeRequest stations_closeRequest
      · exact histories
  | baseStation operation =>
      obtain ⟨after, moved, rfl⟩ := Option.map_eq_some_iff.mp stepped
      exact histories_baseStation histories moved
  | client happening =>
      obtain ⟨w, happened, rfl⟩ := Option.map_eq_some_iff.mp stepped
      exact histories_happen histories happened
  | receiveTrackingDeviceData callData packet =>
      simp only [perform, received] at stepped
      split at stepped
      · rename_i done
        cases stepped
        exact histories_receiveTrackingDeviceData histories done
      · cases stepped
  | receiveDataFrame callData packet =>
      simp only [perform, received] at stepped
      split at stepped
      · rename_i done
        cases stepped
        exact histories_receiveDataFrame histories done
      · cases stepped

/-- **Every storage holds a history**, in every context reached. -/
theorem histories_of_reached (reached : Reached step (fun _ _ => True) init c) :
    Histories c.clientManager :=
  reached.invariant (fun c => Histories c.clientManager) histories_init
    fun _ _ _ histories _ stepped => histories_step histories stepped

/-! ## The latest-N queries -/

/-- The open tag has a storage for the device, and there is a packet in it. -/
def HasPackets (c : DataContext) (requestTag : UInt32) (deviceId : DeviceID) : Prop :=
  ∃ manager storage, c.manager requestTag = some manager ∧
    manager.deviceDataMap.lookup deviceId.hash = some storage ∧ storage.buffers.HoldsPackets

/-- The tag is open, and there is a packet in the storage of the base stations. -/
def HasBaseStationPackets (c : DataContext) (requestTag : UInt32) : Prop :=
  requestTag ∈ c.baseStationRequestList ∧ ∃ s storage, c.baseStationDataStorage = some s ∧
    c.clientManager.baseStationStorages[s]? = some storage ∧ storage.buffers.HoldsPackets

open PacketBuffers

/-- The count of a query that reaches a storage with a history. -/
theorem Recorded.atMost_iff {δ : Type} {buffers : PacketBuffers δ} {copy : Packet δ → Packet δ}
    (recorded : Recorded buffers) (copies : ∀ p, copy p = p) (numPackets : Int32) :
    AtMost numPackets (buffers.getLatestCount copy numPackets.toUInt32) ↔
      0 ≤ numPackets ∨ ¬ buffers.HoldsPackets := by
  obtain ⟨h, represents⟩ := recorded
  exact PacketBuffers.atMost_iff represents.live copies
    (Represents.generations_small _ h (by decide)) numPackets

theorem getLatestData_atMost_iff (histories : Histories c.clientManager) (requestTag : UInt32)
    (deviceId : DeviceID) (numPackets : Int32) :
    AtMost numPackets (c.getLatestData requestTag deviceId numPackets) ↔
      0 ≤ numPackets ∨ ¬ c.HasPackets requestTag deviceId := by
  unfold getLatestData
  cases opened : c.manager requestTag with
  | none =>
      refine iff_of_true (atMost_empty numPackets) (.inr ?_)
      rintro ⟨manager, storage, held, -⟩
      rw [opened] at held
      cases held
  | some manager =>
      simp only [DataManager.getLatestDataCount, DataManager.askStorage]
      cases found : manager.deviceDataMap.lookup deviceId.hash with
      | none =>
          refine iff_of_true (atMost_empty numPackets) (.inr ?_)
          rintro ⟨manager', storage, held, stored, -⟩
          rw [opened] at held
          cases held
          rw [found] at stored
          cases stored
      | some storage =>
          obtain ⟨m, -, placed⟩ := Option.bind_eq_some_iff.mp opened
          have recorded : Recorded storage.buffers :=
            histories.devices m manager placed deviceId.hash storage found
          have same : c.HasPackets requestTag deviceId ↔ storage.buffers.HoldsPackets := by
            constructor
            · rintro ⟨manager', storage', held, stored, packets⟩
              rw [opened] at held
              cases held
              rw [found] at stored
              cases stored
              exact packets
            · exact fun packets => ⟨manager, storage, opened, found, packets⟩
          rw [same]
          exact recorded.atMost_iff copyDevicePacket_eq numPackets

theorem getLatestBaseStationData_atMost_iff (histories : Histories c.clientManager)
    (requestTag : UInt32) (numPackets : Int32) :
    AtMost numPackets (c.getLatestBaseStationData requestTag numPackets) ↔
      0 ≤ numPackets ∨ ¬ c.HasBaseStationPackets requestTag := by
  unfold ClientContext.getLatestBaseStationData
  cases made : c.baseStationDataStorage.bind fun s => c.clientManager.baseStationStorages[s]? with
  | none =>
      refine iff_of_true (atMost_empty numPackets) (.inr ?_)
      rintro ⟨-, s, storage, pointer, found, -⟩
      rw [pointer, Option.bind_some, found] at made
      cases made
  | some storage =>
      obtain ⟨s, pointer, found⟩ := Option.bind_eq_some_iff.mp made
      simp only
      split
      · rename_i opened
        have same : c.HasBaseStationPackets requestTag ↔ storage.buffers.HoldsPackets := by
          constructor
          · rintro ⟨-, s', storage', pointer', found', packets⟩
            rw [pointer'] at pointer
            cases pointer
            rw [found] at found'
            cases found'
            exact packets
          · exact fun packets => ⟨opened, s, storage, pointer, found, packets⟩
        rw [same]
        exact Recorded.atMost_iff (histories.stations s storage found) (fun _ => rfl) numPackets
      · rename_i closed
        exact iff_of_true (atMost_empty numPackets) (.inr fun has => closed has.1)

/-- **When the latest-N queries keep to their number.**  In every context reached, for every
tag, device and number: the answer has at most that many packets, and "no data" for a number
that is not positive, if and only if the number is not negative or no packet is stored. -/
theorem latest_atMost_iff (reached : Reached step (fun _ _ => True) init c) (requestTag : UInt32)
    (deviceId : DeviceID) (numPackets : Int32) :
    (AtMost numPackets (c.getLatestData requestTag deviceId numPackets) ↔
        0 ≤ numPackets ∨ ¬ c.HasPackets requestTag deviceId) ∧
      (AtMost numPackets (c.getLatestBaseStationData requestTag numPackets) ↔
        0 ≤ numPackets ∨ ¬ c.HasBaseStationPackets requestTag) := by
  have histories := histories_of_reached reached
  exact ⟨getLatestData_atMost_iff histories requestTag deviceId numPackets,
    getLatestBaseStationData_atMost_iff histories requestTag numPackets⟩

/-- The number of packets in an answer. -/
def answered {δ : Type} (answer : Except Fault (DataResponse δ)) : Option Nat :=
  match answer with
  | .ok response => some response.packets.length
  | .error _ => none

/-- A device and a base station send one packet each. -/
def onePacketEach : List (Operation × Orders) :=
  [(.client (.registry (.deviceEvent { device := { siuUuid := 1, portId := 2 }, connected := true })),
      .stored),
    (.requestDeviceData {}, .stored),
    (.receiveTrackingDeviceData 0 { siuUuid := 1, portId := 2 }, .stored),
    (.baseStation .requestBaseStationData, .stored),
    (.baseStation (.receive 1 {}), .stored)]

/-- Five packets are asked for, and one comes. -/
theorem latest_atMost_iff_five :
    ∃ c, Reached step (fun _ _ => True) init c ∧
      answered (c.getLatestData 1 ⟨1, 2⟩ 5) = some 1 ∧
      (AtMost 5 (c.getLatestData 1 ⟨1, 2⟩ 5) ↔ 0 ≤ (5 : Int32) ∨ ¬ c.HasPackets 1 ⟨1, 2⟩) ∧
      (AtMost 5 (c.getLatestBaseStationData 2 5) ↔ 0 ≤ (5 : Int32) ∨ ¬ c.HasBaseStationPackets 2) := by
  have executed : (script step onePacketEach init).any (fun c =>
      answered (c.getLatestData 1 ⟨1, 2⟩ 5) = some 1) = true := by decide +kernel
  obtain ⟨c, executed, one⟩ := (Option.any_eq_true _ _).mp executed
  have reached := Reached.of_any _ executed
  exact ⟨c, reached, of_decide_eq_true one, (latest_atMost_iff reached 1 ⟨1, 2⟩ 5).1,
    (latest_atMost_iff reached 2 ⟨1, 2⟩ 5).2⟩

/-- For the number -1 both queries answer with the packet that is there. -/
theorem latest_negative :
    ¬ ∀ c, Reached step (fun _ _ => True) init c → ∀ requestTag deviceId numPackets,
      AtMost numPackets (c.getLatestData requestTag deviceId numPackets) ∧
        AtMost numPackets (c.getLatestBaseStationData requestTag numPackets) := by
  intro claimed
  have executed : (script step onePacketEach init).any (fun c =>
      answered (c.getLatestData 1 ⟨1, 2⟩ (-1)) = some 1 &&
        answered (c.getLatestBaseStationData 2 (-1)) = some 1) = true := by decide +kernel
  obtain ⟨c, executed, both⟩ := (Option.any_eq_true _ _).mp executed
  obtain ⟨one, -⟩ := Bool.and_eq_true_iff.mp both
  obtain ⟨response, answer, few, -⟩ := (claimed c (.of_any _ executed) 1 ⟨1, 2⟩ (-1)).1
  have count : response.packets.length = 1 := by simpa [answered, answer] using one
  rw [count] at few
  exact absurd few (by decide)

end Runs

end DataContext

end OmmoSdk.Client
