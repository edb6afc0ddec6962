/-
# Client.Registry — what device events, requests and closes do to the request registry

`Registered` (over the handles of the client) and `Serving` are the invariants of the
operations, executed one at a time: the live calls are exactly the stored ones, and each
manager on the list has what its request and the connected devices call for.  The runs of
the operations are in `Client.RegistryRuns`.

Each operation is described by what it does to one manager (`serving_updateDeviceDataStream`,
`serving_openDataFrame`, …) and what it leaves alone (`Elsewhere`).  The loops over the
managers and over the connected devices carry the two through by induction.
-/
import OmmoSdk.Client.ClientManager

namespace OmmoSdk.Client

open OmmoSdk.Theory
open OmmoSdk.Sdk
open OmmoSdk.Storage

set_option autoImplicit false

namespace ClientManager

/-! ## What a manager should have -/

/-- The devices a manager should serve, by key. -/
def Wanted (connected : DeviceMap DeviceDescriptor) (manager : DataManager) (key : UInt64) : Prop :=
  ∃ device, connected.lookup key = some device ∧ manager.isDeviceDataRequested device.id = true

/-- Manager `m` has a storage and a stream for exactly the given devices. -/
structure Serving (w : ClientManager) (m : ManagerId) (manager : DataManager)
    (wanted : UInt64 → Prop) : Prop where
  held : w.dataManagers[m]? = some manager
  storages : ∀ key, key ∈ manager.deviceDataMap ↔ wanted key
  devices : manager.streamType = .deviceData →
    ∀ key, key ∈ manager.deviceDataStreams ↔ wanted key
  frame : manager.streamType = .dataFrame →
    ∃ callData request, manager.dataframeStream = some callData ∧
      w.calls[callData]? = some { stream := .dataFrame m request } ∧
      ∀ key, (∃ device ∈ request.trackingDevices, hash device.siuUuid device.portId = key) ↔
        wanted key

/-- Nothing but manager `m` and its calls changes from `w` to `w'`. -/
structure Elsewhere (m : ManagerId) (w w' : ClientManager) : Prop where
  managers : ∀ m', m' ≠ m → w'.dataManagers[m']? = w.dataManagers[m']?
  count : w'.dataManagers.length = w.dataManagers.length
  calls : ∀ m', m' ≠ m → ∀ (callData : CallId) request,
    w.calls[callData]? = some { stream := .dataFrame m' request } →
    w'.calls[callData]? = some { stream := .dataFrame m' request }
  connected : w'.connectedDevices = w.connectedDevices
  list : w'.dataManagerList = w.dataManagerList

section Frames

variable {w w' w'' : ClientManager} {m m' : ManagerId} {manager : DataManager}
  {wanted wanted' : UInt64 → Prop}

theorem Elsewhere.refl (m : ManagerId) (w : ClientManager) : Elsewhere m w w :=
  ⟨fun _ _ => rfl, rfl, fun _ _ _ _ found => found, rfl, rfl⟩

theorem Elsewhere.trans (first : Elsewhere m w w') (second : Elsewhere m w' w'') :
    Elsewhere m w w'' where
  managers m' other := (second.managers m' other).trans (first.managers m' other)
  count := second.count.trans first.count
  calls m' other callData request found :=
    second.calls m' other callData request (first.calls m' other callData request found)
  connected := second.connected.trans first.connected
  list := second.list.trans first.list

theorem Serving.congr (serving : Serving w m manager wanted)
    (same : ∀ key, wanted key ↔ wanted' key) : Serving w m manager wanted' := by
  obtain rfl : wanted = wanted' := funext fun key => propext (same key)
  exact serving

/-- A manager is served on as before while another one is updated. -/
theorem Serving.elsewhere (serving : Serving w m' manager wanted) (other : m' ≠ m)
    (elsewhere : Elsewhere m w w') : Serving w' m' manager wanted where
  held := by rw [elsewhere.managers m' other]; exact serving.held
  storages := serving.storages
  devices := serving.devices
  frame isFrame := by
    obtain ⟨callData, request, pointer, found, covers⟩ := serving.frame isFrame
    exact ⟨callData, request, pointer, elsewhere.calls m' other callData request found, covers⟩

theorem elsewhere_onManager (f : DataManager → DataManager) : Elsewhere m w (w.onManager m f) where
  managers m' other := by simp [onManager, Ne.symm other]
  count := by simp [onManager]
  calls _ _ _ _ found := found
  connected := rfl
  list := rfl

theorem elsewhere_openCall {stream : Stream} :
    Elsewhere m w { w with calls := openCall w.calls stream } where
  managers _ _ := rfl
  count := rfl
  calls m' other callData request found := by
    have inside := (List.getElem?_eq_some_iff.mp found).1
    simp only [openCall, List.getElem?_append_left inside]
    exact found
  connected := rfl
  list := rfl

/-- Cancelling through pointers of manager `m` does not touch another manager's call. -/
theorem elsewhere_cancel (registered : w.handles.Registered) {calls : List CallData}
    (kept : ∀ callData, (∀ slot, slot.manager = some m → w.stored slot ≠ some callData) →
      calls[callData]? = w.calls[callData]?) :
    Elsewhere m w { w with calls := calls } where
  managers _ _ := rfl
  count := rfl
  calls m' other callData request found := by
    refine (kept callData ?_).trans found
    intro slot owned pointer
    have live : w.handles.Live (.frame m') callData := liveCall_iff.mp ⟨_, found, rfl⟩
    rw [((registered slot callData).mpr pointer).slot_unique live] at owned
    exact other (Option.some.inj owned)
  connected := rfl
  list := rfl

theorem elsewhere_onCalls (registered : w.handles.Registered)
    {f : DataManager → List CallData → List CallData}
    (kept : ∀ manager, w.dataManagers[m]? = some manager → ∀ callData,
      (∀ slot, slot.manager = some m → w.stored slot ≠ some callData) →
      (f manager w.calls)[callData]? = w.calls[callData]?) :
    Elsewhere m w (w.onCalls m f) := by
  unfold onCalls
  cases held : w.dataManagers[m]? with
  | none => exact .refl m w
  | some manager => exact elsewhere_cancel registered (kept manager held)

theorem elsewhere_cancelDataStream (registered : w.handles.Registered) (deviceId : DeviceID) :
    Elsewhere m w (w.cancelDataStream m deviceId) := by
  apply elsewhere_onCalls registered
  intro manager held callData unowned
  have pointer := unowned (.device m deviceId.hash) rfl
  simp only [stored, held, Option.bind_some] at pointer
  unfold DataManager.cancelDataStream
  split
  · rename_i c found
    rw [found] at pointer
    exact getElem?_cancelCall fun same => pointer (congrArg some same.symm)
  · rfl

theorem elsewhere_cancelDataFrameStream (registered : w.handles.Registered) :
    Elsewhere m w (w.cancelDataFrameStream m) := by
  apply elsewhere_onCalls registered
  intro manager held callData unowned
  have pointer := unowned (.frame m) rfl
  simp only [stored, held, Option.bind_some] at pointer
  unfold DataManager.cancelDataFrameStream
  split
  · rename_i c found
    rw [found] at pointer
    exact getElem?_cancelCall fun same => pointer (congrArg some same.symm)
  · rfl

end Frames

/-! ## The streams of one device -/

section DeviceStreams

variable {w : ClientManager} {m : ManagerId} {manager : DataManager} {wanted : UInt64 → Prop}
  {device : DeviceDescriptor} {deviceConnected : Bool}

theorem held_onManager (held : w.dataManagers[m]? = some manager) (f : DataManager → DataManager) :
    (w.onManager m f).dataManagers[m]? = some (f manager) := by
  simp [onManager, held]

theorem dataStreamExists_iff {deviceId : DeviceID} (held : w.dataManagers[m]? = some manager) :
    w.dataStreamExists m deviceId = true ↔ deviceId.hash ∈ manager.deviceDataStreams := by
  simp [dataStreamExists, held, DataManager.dataStreamExists]

theorem stored_device (held : w.dataManagers[m]? = some manager) (key : UInt64) :
    w.stored (.device m key) = manager.deviceDataStreams.lookup key := by
  simp [stored, held]

/-- A storage is made where there is none. -/
def ensureStorage (w : ClientManager) (m : ManagerId) (device : DeviceDescriptor) : ClientManager :=
  if ¬ w.isStorageAvailable m device.id then w.addDeviceStorage m device else w

@[simp] theorem handles_ensureStorage (w : ClientManager) (m : ManagerId) (device : DeviceDescriptor) :
    (w.ensureStorage m device).handles = w.handles := by
  unfold ensureStorage
  split
  · exact handles_addDeviceStorage w m device
  · rfl

theorem elsewhere_ensureStorage : Elsewhere m w (w.ensureStorage m device) := by
  unfold ensureStorage
  split
  · exact elsewhere_onManager _
  · exact .refl m w

theorem ensureStorage_held (device : DeviceDescriptor) (held : w.dataManagers[m]? = some manager) :
    ∃ manager', (w.ensureStorage m device).dataManagers[m]? = some manager' ∧
      manager'.header = manager.header ∧ manager'.deviceDataStreams = manager.deviceDataStreams ∧
      manager'.dataframeStream = manager.dataframeStream ∧
      ∀ key, key ∈ manager'.deviceDataMap ↔ key = device.hash ∨ key ∈ manager.deviceDataMap := by
  unfold ensureStorage
  split
  · exact ⟨_, held_onManager held _, by simp, by simp, by simp, by simp⟩
  · rename_i available
    refine ⟨manager, held, rfl, rfl, rfl, fun key => ⟨.inr, fun h => h.elim ?_ id⟩⟩
    intro same
    subst same
    simp only [isStorageAvailable, held, Option.any_some, Bool.not_eq_true, Bool.not_eq_false] at available
    exact of_decide_eq_true available

@[simp] theorem calls_ensureStorage (w : ClientManager) (m : ManagerId) (device : DeviceDescriptor) :
    (w.ensureStorage m device).calls = w.calls := by
  unfold ensureStorage
  split <;> rfl

/-- The update for a connected device, its storage made first. -/
theorem updateDeviceDataStream_connected (held : w.dataManagers[m]? = some manager)
    (requested : manager.isDeviceDataRequested device.id = true) :
    w.updateDeviceDataStream m device true =
      if (w.ensureStorage m device).dataStreamExists m device.id then w.ensureStorage m device
      else
        ((w.ensureStorage m device).openTrackingDeviceDataStream
            (deviceStreamRequest manager.request device) m).1.addDataStream m device.id
          w.calls.length := by
  rw [updateDeviceDataStream, held]
  simp only [requested, not_true_eq_false, if_false, ite_not]
  rw [← calls_ensureStorage w m device]
  simp only [ensureStorage, ite_not]
  rfl

theorem registered_updateDeviceDataStream (registered : w.handles.Registered) :
    (w.updateDeviceDataStream m device deviceConnected).handles.Registered := by
  cases held : w.dataManagers[m]? with
  | none => simpa [updateDeviceDataStream, held] using registered
  | some manager =>
      cases requested : manager.isDeviceDataRequested device.id with
      | false => simpa [updateDeviceDataStream, held, requested] using registered
      | true =>
          cases deviceConnected with
          | false =>
              simp only [updateDeviceDataStream, held, requested, not_true_eq_false, if_false,
                Bool.false_eq_true, not_false_eq_true, if_true, handles_removeDeviceStorage,
                handles_removeDataStream, handles_cancelDataStream]
              exact registered.detach _
          | true =>
              obtain ⟨manager', held', -, streams, -⟩ := ensureStorage_held device held
              rw [updateDeviceDataStream_connected held requested]
              split
              · simpa using registered
              · rename_i missing
                rw [dataStreamExists_iff held', ← AList.lookup_eq_none, ← stored_device held'] at missing
                have opened := handles_addDataStream ((w.ensureStorage m device).openTrackingDeviceDataStream
                  (deviceStreamRequest manager.request device) m).1 m device.id w.calls.length held' missing
                rw [opened, handles_openTrackingDeviceDataStream, handles_ensureStorage,
                  ← handles_resources_length]
                rw [← handles_stored, handles_ensureStorage] at missing
                exact registered.attach missing

theorem elsewhere_updateDeviceDataStream (registered : w.handles.Registered) :
    Elsewhere m w (w.updateDeviceDataStream m device deviceConnected) := by
  cases held : w.dataManagers[m]? with
  | none => simp [updateDeviceDataStream, held, Elsewhere.refl]
  | some manager =>
      cases requested : manager.isDeviceDataRequested device.id with
      | false => simp [updateDeviceDataStream, held, requested, Elsewhere.refl]
      | true =>
          cases deviceConnected with
          | false =>
              simp only [updateDeviceDataStream, held, requested, not_true_eq_false, if_false,
                Bool.false_eq_true, not_false_eq_true, if_true]
              exact ((elsewhere_cancelDataStream registered _).trans
                (elsewhere_onManager _)).trans (elsewhere_onManager _)
          | true =>
              rw [updateDeviceDataStream_connected held requested]
              split
              · exact elsewhere_ensureStorage
              · exact (elsewhere_ensureStorage.trans elsewhere_openCall).trans (elsewhere_onManager _)

/-- The devices wanted after an event of a device, given whether it was requested. -/
def wantedAfter (device : DeviceDescriptor) (requested deviceConnected : Bool)
    (wanted : UInt64 → Prop) (key : UInt64) : Prop :=
  if deviceConnected then wanted key ∨ requested ∧ key = device.hash
  else wanted key ∧ ¬ (requested ∧ key = device.hash)

theorem streamType_ne_dataFrame {manager' : DataManager} (isDevice : manager.streamType = .deviceData)
    (same : manager'.header = manager.header) : manager'.streamType ≠ .dataFrame := by
  rw [show manager'.streamType = manager.streamType from congrArg Prod.fst same, isDevice]
  decide

theorem serving_disconnected (device : DeviceDescriptor) (serving : Serving w m manager wanted)
    (isDevice : manager.streamType = .deviceData)
    (requested : manager.isDeviceDataRequested device.id = true) :
    ∃ manager', manager'.header = manager.header ∧
      Serving (w.updateDeviceDataStream m device false) m manager'
        (wantedAfter device true false wanted) := by
  have held := serving.held
  simp only [updateDeviceDataStream, held, requested, not_true_eq_false, if_false,
    Bool.false_eq_true, not_false_eq_true, if_true]
  have cancelled : (w.cancelDataStream m device.id).dataManagers[m]? = some manager := by
    simp [cancelDataStream, onCalls, held]
  have removed := held_onManager cancelled fun manager => (manager.removeDataStream device.id).2
  have dropped := held_onManager removed fun manager => manager.removeDeviceStorage device.id
  refine ⟨_, by simp, dropped, ?_, ?_,
    fun isFrame => absurd isFrame (streamType_ne_dataFrame isDevice (by simp))⟩
  · intro key
    simp [wantedAfter, serving.storages key, and_comm]
  · intro _ key
    simp only [DataManager.removeDeviceStorage_streams]
    rw [← AList.lookup_isSome, DataManager.removeDataStream_lookup]
    have before := serving.devices isDevice key
    rw [← AList.lookup_isSome] at before
    by_cases same : key = device.hash
    · simp [wantedAfter, same]
    · simpa [wantedAfter, same] using before

theorem serving_connected (device : DeviceDescriptor) (serving : Serving w m manager wanted)
    (isDevice : manager.streamType = .deviceData)
    (requested : manager.isDeviceDataRequested device.id = true) :
    ∃ manager', manager'.header = manager.header ∧
      Serving (w.updateDeviceDataStream m device true) m manager'
        (wantedAfter device true true wanted) := by
  obtain ⟨manager', held', header, streams, frame, storages⟩ := ensureStorage_held device serving.held
  rw [updateDeviceDataStream_connected serving.held requested]
  split
  · rename_i present
    rw [dataStreamExists_iff held', streams] at present
    refine ⟨manager', header, held', ?_, ?_,
      fun isFrame => absurd isFrame (streamType_ne_dataFrame isDevice header)⟩
    · intro key
      rw [storages, serving.storages key]
      simp [wantedAfter, or_comm]
    · intro _ key
      rw [streams, serving.devices isDevice key]
      have := (serving.devices isDevice device.hash).mp present
      constructor
      · exact .inl
      · rintro (old | ⟨-, rfl⟩)
        · exact old
        · exact this
  · rename_i missing
    rw [dataStreamExists_iff held', streams] at missing
    have added := held_onManager (w := (w.ensureStorage m device).openTrackingDeviceDataStream
      (deviceStreamRequest manager.request device) m |>.1) held' fun manager =>
        (manager.addDataStream device.id w.calls.length).2
    refine ⟨_, by simpa using header, added, ?_, ?_,
      fun isFrame => absurd isFrame (streamType_ne_dataFrame isDevice (by simpa using header))⟩
    · intro key
      rw [DataManager.addDataStream_map, storages, serving.storages key]
      simp [wantedAfter, or_comm]
    · intro _ key
      rw [← AList.lookup_isSome, DataManager.addDataStream_lookup, streams]
      have before := serving.devices isDevice key
      rw [← AList.lookup_isSome] at before
      rw [DeviceDescriptor.hash_id] at missing
      by_cases same : key = device.hash
      · subst same
        simp [wantedAfter, AList.lookup_eq_none.mpr missing]
      · simpa [wantedAfter, same] using before

/-- **One device of a device data request.**  Whatever the event, the manager serves
the devices it should serve afterwards. -/
theorem serving_updateDeviceDataStream (device : DeviceDescriptor) (deviceConnected : Bool)
    (serving : Serving w m manager wanted)
    (isDevice : manager.streamType = .deviceData) :
    ∃ manager', manager'.header = manager.header ∧
      Serving (w.updateDeviceDataStream m device deviceConnected) m manager'
        (wantedAfter device (manager.isDeviceDataRequested device.id) deviceConnected wanted) := by
  cases requested : manager.isDeviceDataRequested device.id with
  | false =>
      refine ⟨manager, rfl, ?_⟩
      simp only [updateDeviceDataStream, serving.held, requested, Bool.false_eq_true,
        not_false_eq_true, if_true]
      apply serving.congr
      intro key
      cases deviceConnected <;> simp [wantedAfter]
  | true =>
      cases deviceConnected with
      | false => exact serving_disconnected device serving isDevice requested
      | true => exact serving_connected device serving isDevice requested

end DeviceStreams

/-! ## The stream of a data frame request -/

/-- Every connected device is under its own key. -/
def Keyed (connected : DeviceMap DeviceDescriptor) : Prop :=
  ∀ key device, connected.lookup key = some device → device.hash = key

theorem mem_visit {connected : DeviceMap DeviceDescriptor} (order : IterationOrder DeviceDescriptor)
    {item : Σ _ : UInt64, DeviceDescriptor} :
    item ∈ order.visit connected ↔ connected.lookup item.1 = some item.2 := by
  rw [(order.perm connected).mem_iff]
  exact AList.mem_lookup_iff.symm

/-- The wanted devices are those the loop over the connected devices picks. -/
theorem wanted_iff_visit {connected : DeviceMap DeviceDescriptor} (keyed : Keyed connected)
    (order : IterationOrder DeviceDescriptor) (manager : DataManager) (key : UInt64) :
    (∃ item ∈ order.visit connected,
      manager.isDeviceDataRequested item.2.id = true ∧ key = item.2.hash) ↔
      Wanted connected manager key := by
  constructor
  · rintro ⟨item, member, requested, rfl⟩
    have found := (mem_visit order).mp member
    exact ⟨item.2, by rw [keyed item.1 item.2 found]; exact found, requested⟩
  · rintro ⟨device, found, requested⟩
    exact ⟨⟨key, device⟩, (mem_visit order).mpr found, requested, (keyed key device found).symm⟩

section FrameStream

variable {w : ClientManager} {m : ManagerId} {manager : DataManager} {wanted : UInt64 → Prop}
  {device : DeviceDescriptor} {deviceConnected : Bool} {order : IterationOrder DeviceDescriptor}

theorem prepareFrameDevices_cons (manager : DataManager) (m : ManagerId) (w : ClientManager)
    (item : Σ _ : UInt64, DeviceDescriptor) (rest : List (Σ _ : UInt64, DeviceDescriptor)) :
    prepareFrameDevices manager m w (item :: rest) =
      if manager.isDeviceDataRequested item.2.id then
        ((prepareFrameDevices manager m (w.ensureStorage m item.2) rest).1,
          item.2 :: (prepareFrameDevices manager m (w.ensureStorage m item.2) rest).2)
      else prepareFrameDevices manager m w rest := rfl

/-- The loop that prepares the request makes storages and nothing else. -/
theorem prepareFrameDevices_frame (manager : DataManager) (m : ManagerId)
    (items : List (Σ _ : UInt64, DeviceDescriptor)) : ∀ w : ClientManager,
      (prepareFrameDevices manager m w items).1.handles = w.handles ∧
      (prepareFrameDevices manager m w items).1.calls = w.calls ∧
      Elsewhere m w (prepareFrameDevices manager m w items).1 := by
  induction items with
  | nil => exact fun w => ⟨rfl, rfl, .refl m w⟩
  | cons item rest ih =>
      intro w
      rw [prepareFrameDevices_cons]
      split
      · obtain ⟨handles, calls, elsewhere⟩ := ih (w.ensureStorage m item.2)
        exact ⟨by rw [handles, handles_ensureStorage], by rw [calls, calls_ensureStorage],
          elsewhere_ensureStorage.trans elsewhere⟩
      · exact ih w

/-- It makes them for the requested devices it meets, which are those of the request. -/
theorem prepareFrameDevices_spec (manager : DataManager) (m : ManagerId)
    (items : List (Σ _ : UInt64, DeviceDescriptor)) :
    ∀ {w : ClientManager} {current : DataManager}, w.dataManagers[m]? = some current →
      (∀ key, (∃ device ∈ (prepareFrameDevices manager m w items).2, key = device.hash) ↔
        ∃ item ∈ items, manager.isDeviceDataRequested item.2.id = true ∧ key = item.2.hash) ∧
      ∃ manager', (prepareFrameDevices manager m w items).1.dataManagers[m]? = some manager' ∧
        manager'.header = current.header ∧
        ∀ key, key ∈ manager'.deviceDataMap ↔ key ∈ current.deviceDataMap ∨
          ∃ item ∈ items, manager.isDeviceDataRequested item.2.id = true ∧ key = item.2.hash := by
  induction items with
  | nil =>
      intro w current held
      exact ⟨fun key => by simp [prepareFrameDevices], current, held, rfl, fun key => by simp⟩
  | cons item rest ih =>
      intro w current held
      rw [prepareFrameDevices_cons]
      cases requested : manager.isDeviceDataRequested item.2.id with
      | false =>
          obtain ⟨picked, manager', held', header, storages⟩ := ih held
          simp only [Bool.false_eq_true, if_false]
          refine ⟨?_, manager', held', header, ?_⟩
          · intro key
            rw [picked]
            simp [requested]
          · intro key
            rw [storages]
            simp [requested]
      | true =>
          obtain ⟨current', heldNow, header, -, -, storage⟩ := ensureStorage_held item.2 held
          obtain ⟨picked, manager', held', header', storages⟩ := ih heldNow
          simp only [if_true]
          refine ⟨?_, manager', held', header'.trans header, ?_⟩
          · intro key
            have := picked key
            simp only [List.mem_cons, exists_eq_or_imp, requested, true_and, this]
          · intro key
            rw [storages, storage]
            simp only [List.mem_cons, exists_eq_or_imp, requested, true_and]
            tauto

theorem openDataFrame_eq (held : w.dataManagers[m]? = some manager)
    (isFrame : manager.streamType = .dataFrame) :
    openDataFrame order w m =
      ((prepareFrameDevices manager m w (order.visit w.connectedDevices)).1.openDataFrameStream
        (frameRequest manager.request
          (prepareFrameDevices manager m w (order.visit w.connectedDevices)).2) m).1.setDataFrameStream
        m (prepareFrameDevices manager m w (order.visit w.connectedDevices)).1.calls.length := by
  rw [openDataFrame, held]
  simp only [isFrame, ne_eq, not_true_eq_false, if_false]
  rfl

theorem openDataFrame_other (held : w.dataManagers[m]? = some manager)
    (notFrame : manager.streamType ≠ .dataFrame) : openDataFrame order w m = w := by
  rw [openDataFrame, held]
  simp [notFrame]

/-- Opening the stream of a data frame request keeps the discipline if there is none yet. -/
theorem registered_openDataFrame (registered : w.handles.Registered)
    (empty : w.stored (.frame m) = none) : (openDataFrame order w m).handles.Registered := by
  cases held : w.dataManagers[m]? with
  | none => simpa [openDataFrame, held] using registered
  | some manager =>
      by_cases isFrame : manager.streamType = .dataFrame
      · obtain ⟨handles, -, -⟩ := prepareFrameDevices_frame manager m
          (order.visit w.connectedDevices) w
        obtain ⟨-, manager', held', -⟩ := prepareFrameDevices_spec manager m
          (order.visit w.connectedDevices) held
        rw [openDataFrame_eq held isFrame]
        generalize prepareFrameDevices manager m w (order.visit w.connectedDevices) = prepared at *
        have set := handles_setDataFrameStream (prepared.1.openDataFrameStream
          (frameRequest manager.request prepared.2) m).1 m prepared.1.calls.length held'
        rw [set, handles_openDataFrameStream, ← handles_resources_length, handles]
        exact registered.attach empty
      · rw [openDataFrame_other held isFrame]
        exact registered

theorem elsewhere_openDataFrame : Elsewhere m w (openDataFrame order w m) := by
  cases held : w.dataManagers[m]? with
  | none => simp [openDataFrame, held, Elsewhere.refl]
  | some manager =>
      by_cases isFrame : manager.streamType = .dataFrame
      · obtain ⟨-, -, elsewhere⟩ := prepareFrameDevices_frame manager m
          (order.visit w.connectedDevices) w
        rw [openDataFrame_eq held isFrame]
        exact (elsewhere.trans elsewhere_openCall).trans (elsewhere_onManager _)
      · rw [openDataFrame_other held isFrame]
        exact .refl m w

/-- **The stream of a data frame request.**  If the manager has no storage too many, it
serves the connected devices it should serve. -/
theorem serving_openDataFrame (order : IterationOrder DeviceDescriptor)
    (held : w.dataManagers[m]? = some manager)
    (isFrame : manager.streamType = .dataFrame) (keyed : Keyed w.connectedDevices)
    (within : ∀ key, key ∈ manager.deviceDataMap → Wanted w.connectedDevices manager key) :
    ∃ manager', manager'.header = manager.header ∧
      Serving (openDataFrame order w m) m manager' (Wanted w.connectedDevices manager) := by
  obtain ⟨-, calls, -⟩ := prepareFrameDevices_frame manager m
    (order.visit w.connectedDevices) w
  obtain ⟨picked, manager', held', header, storages⟩ := prepareFrameDevices_spec manager m
    (order.visit w.connectedDevices) held
  rw [openDataFrame_eq held isFrame]
  generalize prepareFrameDevices manager m w (order.visit w.connectedDevices) = prepared at *
  have streamType : manager'.streamType = .dataFrame :=
    (congrArg Prod.fst header).trans isFrame
  have set := held_onManager (w := (prepared.1.openDataFrameStream
    (frameRequest manager.request prepared.2) m).1) held' fun manager =>
      manager.setDataFrameStream prepared.1.calls.length
  refine ⟨manager'.setDataFrameStream prepared.1.calls.length, header, set, ?_,
    ?_, ?_⟩
  · intro key
    apply (storages key).trans
    rw [wanted_iff_visit keyed order manager key]
    exact ⟨fun h => h.elim (within key) id, .inr⟩
  · intro isDevice
    exact absurd (streamType.symm.trans isDevice) (by decide)
  · intro _
    refine ⟨_, frameRequest manager.request prepared.2, rfl, ?_, ?_⟩
    · simp [setDataFrameStream, onManager, openDataFrameStream, openCall]
    · intro key
      rw [← wanted_iff_visit keyed order manager key, ← picked key]
      simp [frameRequest, frameDevice, DeviceDescriptor.hash, eq_comm]

/-- A storage is dropped where the device has gone. -/
def dropStorage (w : ClientManager) (m : ManagerId) (device : DeviceDescriptor)
    (deviceConnected : Bool) : ClientManager :=
  if ¬ deviceConnected then w.removeDeviceStorage m device.id else w

theorem updateDataFrameStream_requested (held : w.dataManagers[m]? = some manager)
    (requested : manager.isDeviceDataRequested device.id = true) :
    updateDataFrameStream order w m device deviceConnected =
      openDataFrame order
        (((w.dropStorage m device deviceConnected).cancelDataFrameStream m).removeDataFrameStream m) m := by
  rw [updateDataFrameStream, held]
  simp only [requested, not_true_eq_false, if_false]
  rfl

theorem updateDataFrameStream_other (held : w.dataManagers[m]? = some manager)
    (unrequested : manager.isDeviceDataRequested device.id = false) :
    updateDataFrameStream order w m device deviceConnected = w := by
  rw [updateDataFrameStream, held]
  simp [unrequested]

@[simp] theorem handles_dropStorage :
    (w.dropStorage m device deviceConnected).handles = w.handles := by
  unfold dropStorage
  split
  · exact handles_removeDeviceStorage w m device.id
  · rfl

theorem elsewhere_dropStorage : Elsewhere m w (w.dropStorage m device deviceConnected) := by
  unfold dropStorage
  split
  · exact elsewhere_onManager _
  · exact .refl m w

theorem dropStorage_held (held : w.dataManagers[m]? = some manager) (device : DeviceDescriptor)
    (deviceConnected : Bool) :
    ∃ manager', (w.dropStorage m device deviceConnected).dataManagers[m]? = some manager' ∧
      manager'.header = manager.header ∧
      ∀ key, key ∈ manager'.deviceDataMap ↔
        key ∈ manager.deviceDataMap ∧ (deviceConnected = false → key ≠ device.hash) := by
  cases deviceConnected with
  | false =>
      refine ⟨_, held_onManager held fun manager => manager.removeDeviceStorage device.id, by simp,
        ?_⟩
      intro key
      simp [and_comm]
  | true => exact ⟨manager, by simpa [dropStorage] using held, rfl, fun key => by simp⟩

theorem registered_updateDataFrameStream (registered : w.handles.Registered) :
    (updateDataFrameStream order w m device deviceConnected).handles.Registered := by
  cases held : w.dataManagers[m]? with
  | none => simpa [updateDataFrameStream, held] using registered
  | some manager =>
      cases requested : manager.isDeviceDataRequested device.id with
      | false => rw [updateDataFrameStream_other held requested]; exact registered
      | true =>
          rw [updateDataFrameStream_requested held requested]
          refine registered_openDataFrame ?_ ?_
          · rw [handles_removeDataFrameStream, handles_cancelDataFrameStream, handles_dropStorage]
            exact registered.detach _
          · rw [← handles_stored, handles_removeDataFrameStream]
            simp

theorem elsewhere_updateDataFrameStream (registered : w.handles.Registered) :
    Elsewhere m w (updateDataFrameStream order w m device deviceConnected) := by
  cases held : w.dataManagers[m]? with
  | none => simp [updateDataFrameStream, held, Elsewhere.refl]
  | some manager =>
      cases requested : manager.isDeviceDataRequested device.id with
      | false => rw [updateDataFrameStream_other held requested]; exact .refl m w
      | true =>
          rw [updateDataFrameStream_requested held requested]
          have dropped : (w.dropStorage m device deviceConnected).handles.Registered := by
            rw [handles_dropStorage]; exact registered
          exact ((elsewhere_dropStorage.trans (elsewhere_cancelDataFrameStream dropped)).trans
            (elsewhere_onManager _)).trans elsewhere_openDataFrame

/-- **One device of a data frame request.**  If what is connected follows the event, the
manager serves the devices it should serve afterwards. -/
theorem serving_updateDataFrameStream (order : IterationOrder DeviceDescriptor)
    (serving : Serving w m manager wanted)
    (isFrame : manager.streamType = .dataFrame) (keyed : Keyed w.connectedDevices)
    (follows : ∀ key, Wanted w.connectedDevices manager key ↔
      wantedAfter device (manager.isDeviceDataRequested device.id) deviceConnected wanted key) :
    ∃ manager', manager'.header = manager.header ∧
      Serving (updateDataFrameStream order w m device deviceConnected) m manager'
        (Wanted w.connectedDevices manager) := by
  have held := serving.held
  cases requested : manager.isDeviceDataRequested device.id with
  | false =>
      rw [updateDataFrameStream_other held requested]
      refine ⟨manager, rfl, serving.congr ?_⟩
      intro key
      rw [follows key, requested]
      cases deviceConnected <;> simp [wantedAfter]
  | true =>
      rw [updateDataFrameStream_requested held requested]
      obtain ⟨dropped, held', header, storages⟩ := dropStorage_held held device deviceConnected
      have cancelled : ((w.dropStorage m device deviceConnected).cancelDataFrameStream m).dataManagers[m]? =
          some dropped := by
        simp [cancelDataFrameStream, onCalls, held']
      have removed : (((w.dropStorage m device deviceConnected).cancelDataFrameStream
          m).removeDataFrameStream m).dataManagers[m]? = some dropped.removeDataFrameStream :=
        held_onManager cancelled DataManager.removeDataFrameStream
      have connected : (((w.dropStorage m device deviceConnected).cancelDataFrameStream
          m).removeDataFrameStream m).connectedDevices = w.connectedDevices := by
        have first : (w.dropStorage m device deviceConnected).connectedDevices = w.connectedDevices :=
          elsewhere_dropStorage.connected
        simpa [cancelDataFrameStream, onCalls, held', removeDataFrameStream, onManager] using first
      have header' : dropped.removeDataFrameStream.header = manager.header := header
      generalize ((w.dropStorage m device deviceConnected).cancelDataFrameStream
        m).removeDataFrameStream m = inner at *
      have same : ∀ key, Wanted inner.connectedDevices dropped.removeDataFrameStream key ↔
          Wanted w.connectedDevices manager key := by
        intro key
        simp only [Wanted, connected, DataManager.isDeviceDataRequested_congr header']
      have within : ∀ key, key ∈ dropped.removeDataFrameStream.deviceDataMap →
          Wanted inner.connectedDevices dropped.removeDataFrameStream key := by
        intro key member
        obtain ⟨old, gone⟩ := (storages key).mp member
        rw [same, follows, requested]
        cases deviceConnected with
        | false => exact ⟨(serving.storages key).mp old, fun h => gone rfl h.2⟩
        | true => exact .inl ((serving.storages key).mp old)
      obtain ⟨manager', kept, served⟩ := serving_openDataFrame order removed
        ((congrArg Prod.fst header).trans isFrame) (by rw [connected]; exact keyed) within
      exact ⟨manager', kept.trans header', served.congr same⟩

end FrameStream

/-! ## The loops -/

section Loops

variable {w : ClientManager} {m : ManagerId} {manager : DataManager} {wanted : UInt64 → Prop}
  {device : DeviceDescriptor} {deviceConnected : Bool} {order : IterationOrder DeviceDescriptor}

/-- A loop of updates of manager `m`, one for each of the given devices. -/
theorem updateEach_frame (items : List (Σ _ : UInt64, DeviceDescriptor)) :
    ∀ {w : ClientManager}, w.handles.Registered →
      (items.foldl (fun w device => w.updateDeviceDataStream m device.2 true) w).handles.Registered ∧
      Elsewhere m w (items.foldl (fun w device => w.updateDeviceDataStream m device.2 true) w) := by
  induction items with
  | nil => exact fun registered => ⟨registered, .refl m _⟩
  | cons item rest ih =>
      intro w registered
      obtain ⟨kept, elsewhere⟩ := ih (registered_updateDeviceDataStream registered)
      exact ⟨kept, (elsewhere_updateDeviceDataStream registered).trans elsewhere⟩

theorem serving_updateEach (items : List (Σ _ : UInt64, DeviceDescriptor)) :
    ∀ {w : ClientManager} {manager : DataManager} {wanted : UInt64 → Prop},
      Serving w m manager wanted → manager.streamType = .deviceData →
      ∃ manager', manager'.header = manager.header ∧
        Serving (items.foldl (fun w device => w.updateDeviceDataStream m device.2 true) w) m manager'
          (fun key => wanted key ∨ ∃ item ∈ items,
            manager.isDeviceDataRequested item.2.id = true ∧ key = item.2.hash) := by
  induction items with
  | nil => exact fun serving _ => ⟨_, rfl, serving.congr fun key => by simp⟩
  | cons item rest ih =>
      intro w manager wanted serving isDevice
      obtain ⟨next, header, served⟩ :=
        serving_updateDeviceDataStream item.2 true serving isDevice
      obtain ⟨manager', header', served'⟩ := ih served ((congrArg Prod.fst header).trans isDevice)
      refine ⟨manager', header'.trans header, served'.congr ?_⟩
      intro key
      simp only [wantedAfter, if_true, List.mem_cons, exists_eq_or_imp,
        DataManager.isDeviceDataRequested_congr header]
      tauto

theorem openDeviceDataStream_eq (held : w.dataManagers[m]? = some manager)
    (isDevice : manager.streamType = .deviceData) :
    openDeviceDataStream order w m = (order.visit w.connectedDevices).foldl
      (fun w device => w.updateDeviceDataStream m device.2 true) w := by
  simp [openDeviceDataStream, held, isDevice]

/-- One manager of the loop of `DeviceEventProcessor`. -/
theorem updateStreams_frame (order : IterationOrder DeviceDescriptor) (device : DeviceDescriptor)
    (deviceConnected : Bool) (m : ManagerId) (registered : w.handles.Registered) :
    (updateStreams order device deviceConnected w m).handles.Registered ∧
      Elsewhere m w (updateStreams order device deviceConnected w m) := by
  unfold updateStreams
  split
  · exact ⟨registered, .refl m w⟩
  · split
    · exact ⟨registered_updateDeviceDataStream registered,
        elsewhere_updateDeviceDataStream registered⟩
    · exact ⟨registered_updateDataFrameStream registered,
        elsewhere_updateDataFrameStream registered⟩

/-- Manager `m` serves the connected devices it should serve. -/
def Served (w : ClientManager) (m : ManagerId) : Prop :=
  ∃ manager, Serving w m manager (Wanted w.connectedDevices manager)

/-- Manager `m` serves what it should have served before the event. -/
def Behind (device : DeviceDescriptor) (deviceConnected : Bool) (w : ClientManager)
    (m : ManagerId) : Prop :=
  ∃ manager wanted, Serving w m manager wanted ∧
    ∀ key, Wanted w.connectedDevices manager key ↔
      wantedAfter device (manager.isDeviceDataRequested device.id) deviceConnected wanted key

theorem served_updateStreams (order : IterationOrder DeviceDescriptor)
    (registered : w.handles.Registered) (keyed : Keyed w.connectedDevices)
    (behind : Behind device deviceConnected w m) :
    Served (updateStreams order device deviceConnected w m) m := by
  obtain ⟨manager, wanted, serving, follows⟩ := behind
  have connected := (updateStreams_frame order device deviceConnected m registered).2.connected
  rw [Served, connected]
  have held := serving.held
  cases streamType : manager.streamType with
  | deviceData =>
      obtain ⟨manager', header, served⟩ := serving_updateDeviceDataStream device
        deviceConnected serving streamType
      refine ⟨manager', ?_⟩
      rw [show updateStreams order device deviceConnected w m =
        w.updateDeviceDataStream m device deviceConnected by simp [updateStreams, held, streamType]]
      apply served.congr
      intro key
      rw [← follows key]
      simp only [Wanted, DataManager.isDeviceDataRequested_congr header]
  | dataFrame =>
      obtain ⟨manager', header, served⟩ := serving_updateDataFrameStream order serving
        streamType keyed follows
      refine ⟨manager', ?_⟩
      rw [show updateStreams order device deviceConnected w m =
        updateDataFrameStream order w m device deviceConnected by
          simp [updateStreams, held, streamType]]
      apply served.congr
      intro key
      simp only [Wanted, DataManager.isDeviceDataRequested_congr header]

theorem Served.elsewhere {w' : ClientManager} {m' : ManagerId} (served : Served w m')
    (other : m' ≠ m) (elsewhere : Elsewhere m w w') : Served w' m' := by
  obtain ⟨manager, serving⟩ := served
  refine ⟨manager, ?_⟩
  rw [elsewhere.connected]
  exact serving.elsewhere other elsewhere

theorem Behind.elsewhere {w' : ClientManager} {m' : ManagerId}
    (behind : Behind device deviceConnected w m') (other : m' ≠ m)
    (elsewhere : Elsewhere m w w') : Behind device deviceConnected w' m' := by
  obtain ⟨manager, wanted, serving, follows⟩ := behind
  refine ⟨manager, wanted, serving.elsewhere other elsewhere, ?_⟩
  rw [elsewhere.connected]
  exact follows

/-- What the loop of `DeviceEventProcessor` keeps, whatever the managers serve. -/
theorem updateAll_frame (order : IterationOrder DeviceDescriptor) (device : DeviceDescriptor)
    (deviceConnected : Bool) (list : List ManagerId) : ∀ {w : ClientManager}, w.handles.Registered →
    (list.foldl (updateStreams order device deviceConnected) w).handles.Registered ∧
      (list.foldl (updateStreams order device deviceConnected) w).connectedDevices =
        w.connectedDevices ∧
      (list.foldl (updateStreams order device deviceConnected) w).dataManagerList =
        w.dataManagerList ∧
      (list.foldl (updateStreams order device deviceConnected) w).dataManagers.length =
        w.dataManagers.length := by
  induction list with
  | nil => exact fun registered => ⟨registered, rfl, rfl, rfl⟩
  | cons m rest ih =>
      intro w registered
      obtain ⟨kept, elsewhere⟩ := updateStreams_frame order device deviceConnected m registered
      obtain ⟨last, connected, managers, count⟩ := ih kept
      exact ⟨last, connected.trans elsewhere.connected, managers.trans elsewhere.list,
        count.trans elsewhere.count⟩

/-- **The loop over the managers.**  It brings every manager of the list up to date: those
before the current one are served, those after it are still behind. -/
theorem served_updateAll (order : IterationOrder DeviceDescriptor) (device : DeviceDescriptor)
    (deviceConnected : Bool) (list : List ManagerId) : ∀ {w : ClientManager}, w.handles.Registered →
    Keyed w.connectedDevices → list.Nodup → (∀ m ∈ list, Behind device deviceConnected w m) →
      (∀ m, Served w m → m ∉ list →
        Served (list.foldl (updateStreams order device deviceConnected) w) m) ∧
      ∀ m ∈ list, Served (list.foldl (updateStreams order device deviceConnected) w) m := by
  induction list with
  | nil => exact fun _ _ _ _ => ⟨fun m served _ => served, fun m member => by cases member⟩
  | cons m rest ih =>
      intro w registered keyed distinct behind
      obtain ⟨absent, distinct⟩ := List.nodup_cons.mp distinct
      obtain ⟨kept, elsewhere⟩ := updateStreams_frame order device deviceConnected m registered
      have current := served_updateStreams order registered keyed (behind m (by simp))
      obtain ⟨others, served⟩ := ih kept (by rw [elsewhere.connected]; exact keyed) distinct
        fun m' member => (behind m' (by simp [member])).elsewhere
          (by rintro rfl; exact absent member) elsewhere
      constructor
      · intro m' before outside
        simp only [List.mem_cons, not_or] at outside
        exact others m' (before.elsewhere outside.1 elsewhere) outside.2
      · intro m' member
        rcases List.mem_cons.mp member with rfl | later
        · exact others _ current absent
        · exact served m' later

end Loops

/-! ## One operation -/

/-- The state in which every live call is stored and the list names managers, once each. -/
structure Coherent (w : ClientManager) : Prop where
  registered : w.handles.Registered
  keyed : Keyed w.connectedDevices
  listed : ∀ m ∈ w.dataManagerList, m < w.dataManagers.length
  distinct : w.dataManagerList.Nodup

/-- Every manager on the list serves what it should, the connected devices having keys of
their own. -/
structure UpToDate (w : ClientManager) : Prop where
  narrow : ∀ key device, w.connectedDevices.lookup key = some device → device.portId.toNat < 256
  served : ∀ m ∈ w.dataManagerList, Served w m

section Operations

variable {w : ClientManager} {m : ManagerId} {manager : DataManager} {device : DeviceDescriptor}
  {deviceConnected : Bool} {order : IterationOrder DeviceDescriptor}

theorem lookup_recordDevice (w : ClientManager) (device : DeviceDescriptor) (deviceConnected : Bool)
    (key : UInt64) :
    (w.recordDevice device deviceConnected).connectedDevices.lookup key =
      if key = device.hash then (if deviceConnected then some device else none)
      else w.connectedDevices.lookup key := by
  unfold recordDevice
  by_cases same : key = device.hash
  · subst same
    by_cases present : device.hash ∈ w.connectedDevices
    · cases deviceConnected <;> simp [present]
    · cases deviceConnected <;> simp [present, AList.lookup_eq_none]
  · split
    · split <;> simp [same]
    · split <;> simp [same]

/-- Recording a device changes the connected devices only. -/
theorem recordDevice_frame (w : ClientManager) (device : DeviceDescriptor) (deviceConnected : Bool) :
    ∃ connected, w.recordDevice device deviceConnected = { w with connectedDevices := connected } := by
  unfold recordDevice
  split
  · split <;> exact ⟨_, rfl⟩
  · split <;> exact ⟨_, rfl⟩

theorem keyed_recordDevice (device : DeviceDescriptor) (deviceConnected : Bool)
    (keyed : Keyed w.connectedDevices) :
    Keyed (w.recordDevice device deviceConnected).connectedDevices := by
  intro key stored found
  rw [lookup_recordDevice] at found
  split at found
  · rename_i same
    split at found
    · cases found
      exact same.symm
    · cases found
  · exact keyed key stored found

theorem narrow_recordDevice (device : DeviceDescriptor) (deviceConnected : Bool)
    (narrow : ∀ key device, w.connectedDevices.lookup key = some device → device.portId.toNat < 256)
    (port : device.portId.toNat < 256) : ∀ key stored,
      (w.recordDevice device deviceConnected).connectedDevices.lookup key = some stored →
        stored.portId.toNat < 256 := by
  intro key stored found
  rw [lookup_recordDevice] at found
  split at found
  · split at found
    · cases found
      exact port
    · cases found
  · exact narrow key stored found

/-- The devices wanted of a manager follow the event, since devices with keys of their own
can only be confused with themselves. -/
theorem wanted_recordDevice (device : DeviceDescriptor) (deviceConnected : Bool)
    (keyed : Keyed w.connectedDevices)
    (narrow : ∀ key device, w.connectedDevices.lookup key = some device → device.portId.toNat < 256)
    (port : device.portId.toNat < 256) (manager : DataManager) (key : UInt64) :
    Wanted (w.recordDevice device deviceConnected).connectedDevices manager key ↔
      wantedAfter device (manager.isDeviceDataRequested device.id) deviceConnected
        (Wanted w.connectedDevices manager) key := by
  have itself : Wanted w.connectedDevices manager device.hash →
      manager.isDeviceDataRequested device.id = true := by
    rintro ⟨old, found, requested⟩
    have same : old.id = device.id :=
      hash_injective (narrow _ old found) port (keyed _ old found)
    rwa [← same]
  simp only [Wanted, lookup_recordDevice, wantedAfter]
  by_cases same : key = device.hash
  · subst same
    cases deviceConnected with
    | false => simpa using fun old found requested => itself ⟨old, found, requested⟩
    | true => simpa using fun old found requested => itself ⟨old, found, requested⟩
  · cases deviceConnected <;> simp [same]

theorem coherent_deviceEventProcessor (coherent : Coherent w) (event : Proto.TrackingDeviceEvent) :
    Coherent (deviceEventProcessor order w event) := by
  have keyed := keyed_recordDevice (protoToDeviceDescriptor event.device) event.connected coherent.keyed
  obtain ⟨connected, recorded⟩ :=
    recordDevice_frame w (protoToDeviceDescriptor event.device) event.connected
  have registered : (w.recordDevice (protoToDeviceDescriptor event.device)
      event.connected).handles.Registered := by
    rw [recorded]; exact coherent.registered
  obtain ⟨kept, same, list, count⟩ := updateAll_frame order
    (protoToDeviceDescriptor event.device) event.connected
    (w.recordDevice (protoToDeviceDescriptor event.device) event.connected).dataManagerList registered
  refine ⟨kept, ?_, ?_, ?_⟩
  · rw [deviceEventProcessor, protoToTrackingDeviceEvent, same]
    exact keyed
  · rw [deviceEventProcessor, protoToTrackingDeviceEvent, list, count, recorded]
    exact coherent.listed
  · rw [deviceEventProcessor, protoToTrackingDeviceEvent, list, recorded]
    exact coherent.distinct

theorem upToDate_deviceEventProcessor (coherent : Coherent w) (upToDate : UpToDate w)
    (event : Proto.TrackingDeviceEvent) (port : event.device.portId.toNat < 256) :
    UpToDate (deviceEventProcessor order w event) := by
  have keyed := keyed_recordDevice (protoToDeviceDescriptor event.device) event.connected coherent.keyed
  have wanted := wanted_recordDevice (protoToDeviceDescriptor event.device) event.connected
    coherent.keyed upToDate.narrow port
  have narrow := narrow_recordDevice (protoToDeviceDescriptor event.device) event.connected
    upToDate.narrow port
  obtain ⟨connected, recorded⟩ :=
    recordDevice_frame w (protoToDeviceDescriptor event.device) event.connected
  rw [deviceEventProcessor, protoToTrackingDeviceEvent]
  rw [recorded] at keyed wanted narrow ⊢
  have registered : ({ w with connectedDevices := connected } : ClientManager).handles.Registered :=
    coherent.registered
  obtain ⟨-, same, list, -⟩ := updateAll_frame order (protoToDeviceDescriptor event.device)
    event.connected w.dataManagerList registered
  obtain ⟨-, served⟩ := served_updateAll order (protoToDeviceDescriptor event.device)
    event.connected w.dataManagerList registered keyed coherent.distinct fun m member => by
      obtain ⟨manager, serving⟩ := upToDate.served m member
      exact ⟨manager, _, ⟨serving.held, serving.storages, serving.devices, serving.frame⟩,
        wanted manager⟩
  constructor
  · rw [same]
    exact narrow
  · intro m member
    rw [list] at member
    exact served m member

/-! ## Requests -/

@[simp] theorem handles_emplaceManager (w : ClientManager) (request : DataRequest)
    (streamType : DataStreamType) : (w.emplaceManager request streamType).1.handles = w.handles := by
  refine Handles.ext rfl ?_
  funext slot
  have past : ∀ m', (w.dataManagers ++ [DataManager.init request streamType])[m']? =
      if m' = w.dataManagers.length then some (DataManager.init request streamType)
      else w.dataManagers[m']? := by
    intro m'
    rcases Nat.lt_trichotomy m' w.dataManagers.length with inside | rfl | outside
    · rw [List.getElem?_append_left inside, if_neg (Nat.ne_of_lt inside)]
    · simp
    · rw [if_neg (Nat.ne_of_gt outside), List.getElem?_eq_none (by simp; omega),
        List.getElem?_eq_none (by omega)]
  cases slot with
  | device m' key =>
      simp only [handles_stored, stored, emplaceManager, past]
      split
      · rename_i new
        simp [new, DataManager.init]
      · rfl
  | frame m' =>
      simp only [handles_stored, stored, emplaceManager, past]
      split
      · rename_i new
        simp [new, DataManager.init]
      · rfl
  | baseStation s => rfl
  | wireless i => rfl
  | deviceEvents => rfl

/-- A new manager stands behind the old ones. -/
theorem emplaceManager_held (w : ClientManager) (request : DataRequest)
    (streamType : DataStreamType) :
    (w.emplaceManager request streamType).1.dataManagers[w.dataManagers.length]? =
      some (DataManager.init request streamType) := by
  simp [emplaceManager]

theorem coherent_emplaceManager (coherent : Coherent w) (request : DataRequest)
    (streamType : DataStreamType) : Coherent (w.emplaceManager request streamType).1 where
  registered := by rw [handles_emplaceManager]; exact coherent.registered
  keyed := coherent.keyed
  listed m member := by
    simp only [emplaceManager, List.mem_append, List.mem_singleton, List.length_append,
      List.length_singleton] at member ⊢
    rcases member with old | rfl
    · exact Nat.lt_succ_of_lt (coherent.listed m old)
    · exact Nat.lt_succ_self _
  distinct := by
    apply List.Nodup.append coherent.distinct (List.nodup_singleton _)
    rw [List.disjoint_singleton]
    exact fun member => absurd (coherent.listed _ member) (Nat.lt_irrefl _)

/-- The managers of before are served as they were. -/
theorem served_emplaceManager (coherent : Coherent w) (request : DataRequest)
    (streamType : DataStreamType) (member : m ∈ w.dataManagerList) (served : Served w m) :
    Served (w.emplaceManager request streamType).1 m := by
  obtain ⟨manager, serving⟩ := served
  refine ⟨manager, ⟨?_, serving.storages, serving.devices, serving.frame⟩⟩
  rw [emplaceManager, List.getElem?_append_left (coherent.listed m member)]
  exact serving.held

/-- A frame for one manager keeps a coherent state, given that the discipline is kept. -/
theorem Coherent.elsewhere {w' : ClientManager} (coherent : Coherent w)
    (registered : w'.handles.Registered) (elsewhere : Elsewhere m w w') : Coherent w' where
  registered := registered
  keyed := by rw [elsewhere.connected]; exact coherent.keyed
  listed := by rw [elsewhere.list, elsewhere.count]; exact coherent.listed
  distinct := by rw [elsewhere.list]; exact coherent.distinct

theorem openDeviceDataStream_frame (order : IterationOrder DeviceDescriptor) (m : ManagerId)
    (registered : w.handles.Registered) :
    (openDeviceDataStream order w m).handles.Registered ∧
      Elsewhere m w (openDeviceDataStream order w m) := by
  unfold openDeviceDataStream
  split
  · exact ⟨registered, .refl m w⟩
  · split
    · exact ⟨registered, .refl m w⟩
    · exact updateEach_frame _ registered

theorem requestDeviceData_fst (w : ClientManager) (request : DataRequest) :
    (requestDeviceData order w request).1 =
      openDeviceDataStream order (w.emplaceManager request .deviceData).1 w.dataManagers.length := rfl

theorem requestDataFrame_fst (w : ClientManager) (request : DataRequest) :
    (requestDataFrame order w request).1 =
      openDataFrame order (w.emplaceManager request .dataFrame).1 w.dataManagers.length := rfl

theorem requestDeviceData_coherent (coherent : Coherent w) (request : DataRequest) :
    Coherent (requestDeviceData order w request).1 := by
  have fresh := coherent_emplaceManager coherent request .deviceData
  obtain ⟨registered, elsewhere⟩ :=
    openDeviceDataStream_frame order w.dataManagers.length fresh.registered
  exact fresh.elsewhere registered elsewhere

/-- **A device data request.**  The new manager serves the connected devices it asked for. -/
theorem requestDeviceData_upToDate (coherent : Coherent w) (upToDate : UpToDate w)
    (request : DataRequest) : UpToDate (requestDeviceData order w request).1 := by
  have fresh := coherent_emplaceManager coherent request .deviceData
  obtain ⟨registered, elsewhere⟩ :=
    openDeviceDataStream_frame order w.dataManagers.length fresh.registered
  have held := emplaceManager_held w request .deviceData
  rw [requestDeviceData_fst]
  refine ⟨?_, fun m member => ?_⟩
  · rw [elsewhere.connected]
    exact upToDate.narrow
  rw [elsewhere.list] at member
  by_cases new : m = w.dataManagers.length
  · subst new
    have empty : Serving (w.emplaceManager request .deviceData).1 w.dataManagers.length
        (DataManager.init request .deviceData) fun _ => False :=
      ⟨held, fun key => by simp [DataManager.init], fun _ key => by simp [DataManager.init],
        fun isFrame => by cases isFrame⟩
    obtain ⟨manager', header, served⟩ := serving_updateEach
      (order.visit (w.emplaceManager request .deviceData).1.connectedDevices) empty rfl
    refine ⟨manager', ?_⟩
    rw [elsewhere.connected]
    rw [← openDeviceDataStream_eq held rfl] at served
    apply served.congr
    intro key
    rw [false_or, wanted_iff_visit fresh.keyed order]
    simp only [Wanted, DataManager.isDeviceDataRequested_congr header]
  · have old : m ∈ w.dataManagerList := by
      simpa [emplaceManager, new] using member
    exact (served_emplaceManager coherent request .deviceData old
      (upToDate.served m old)).elsewhere new elsewhere

theorem requestDataFrame_coherent (coherent : Coherent w) (request : DataRequest) :
    Coherent (requestDataFrame order w request).1 := by
  have fresh := coherent_emplaceManager coherent request .dataFrame
  refine fresh.elsewhere (m := w.dataManagers.length)
    (registered_openDataFrame fresh.registered ?_) elsewhere_openDataFrame
  simp [stored, DataManager.init]

/-- **A data frame request.** -/
theorem requestDataFrame_upToDate (coherent : Coherent w) (upToDate : UpToDate w)
    (request : DataRequest) : UpToDate (requestDataFrame order w request).1 := by
  have fresh := coherent_emplaceManager coherent request .dataFrame
  have elsewhere : Elsewhere w.dataManagers.length (w.emplaceManager request .dataFrame).1
      (openDataFrame order (w.emplaceManager request .dataFrame).1 w.dataManagers.length) :=
    elsewhere_openDataFrame
  have held := emplaceManager_held w request .dataFrame
  rw [requestDataFrame_fst]
  refine ⟨?_, fun m member => ?_⟩
  · rw [elsewhere.connected]
    exact upToDate.narrow
  rw [elsewhere.list] at member
  by_cases new : m = w.dataManagers.length
  · subst new
    obtain ⟨manager', header, served⟩ := serving_openDataFrame order held rfl fresh.keyed
      fun key member => absurd member (by simp [DataManager.init])
    refine ⟨manager', ?_⟩
    rw [elsewhere.connected]
    apply served.congr
    intro key
    simp only [Wanted, DataManager.isDeviceDataRequested_congr header]
  · have old : m ∈ w.dataManagerList := by
      simpa [emplaceManager, new] using member
    exact (served_emplaceManager coherent request .dataFrame old
      (upToDate.served m old)).elsewhere new elsewhere

/-! ## Closing a request -/

theorem live_cancelEach (entries : List (Σ _ : UInt64, CallId)) (stored : Slot → Option CallId) :
    ∀ (calls : List CallData) (slot : Slot) (callData : CallId),
      (callHandles (entries.foldl (fun calls entry => cancelCall calls entry.2) calls)
          stored).Live slot callData ↔
        (callHandles calls stored).Live slot callData ∧ ∀ entry ∈ entries, entry.2 ≠ callData := by
  induction entries with
  | nil => intro calls slot callData; simp
  | cons entry rest ih =>
      intro calls slot callData
      rw [List.foldl_cons, ih, callHandles_cancelCall, Handles.live_cancelResource, and_assoc,
        List.forall_mem_cons, ne_comm]

theorem getElem?_cancelEach (entries : List (Σ _ : UInt64, CallId)) (callData : CallId) :
    ∀ calls : List CallData, (∀ entry ∈ entries, entry.2 ≠ callData) →
      (entries.foldl (fun calls entry => cancelCall calls entry.2) calls)[callData]? =
        calls[callData]? := by
  induction entries with
  | nil => exact fun _ _ => rfl
  | cons entry rest ih =>
      intro calls others
      rw [List.foldl_cons, ih _ fun entry member => others entry (by simp [member])]
      exact getElem?_cancelCall fun same => others entry (by simp) same.symm

/-- The entries of the stream map are the pointers of the manager's device slots. -/
theorem entry_iff_stored (held : w.dataManagers[m]? = some manager) (callData : CallId) :
    (∀ entry ∈ manager.deviceDataStreams.entries, entry.2 ≠ callData) ↔
      ∀ key, w.stored (.device m key) ≠ some callData := by
  simp only [stored_device held]
  constructor
  · intro others key found
    exact others ⟨key, callData⟩ (AList.mem_lookup_iff.mp found) rfl
  · rintro others ⟨key, c⟩ member rfl
    exact others key (AList.mem_lookup_iff.mpr member)

theorem registered_closeDevices (registered : w.handles.Registered)
    (held : w.dataManagers[m]? = some manager) :
    ((w.cancelAllDataStreams m).clearDataStreams m).handles.Registered := by
  classical
  have cancelled : (w.cancelAllDataStreams m).dataManagers[m]? = some manager := by
    simp [cancelAllDataStreams, onCalls, held]
  refine registered.detachAll (fun slot => ∃ key, slot = .device m key) ?_
    ?_
  · intro slot callData
    have := live_cancelEach manager.deviceDataStreams.entries w.stored w.calls slot callData
    rw [entry_iff_stored held] at this
    simp only [handles_stored, forall_exists_index, forall_eq_apply_imp_iff]
    rw [show w.handles = callHandles w.calls w.stored from rfl, ← this]
    simp only [cancelAllDataStreams, onCalls, held, DataManager.cancelAllDataStreams]
    exact .rfl
  · intro slot
    rw [handles_stored, handles_stored, clearDataStreams, stored_onManager]
    simp only [cancelAllDataStreams, dataManagers_onCalls, stored_onCalls]
    cases slot with
    | device m' key =>
        by_cases here : m = m'
        · subst here
          simp [held, DataManager.clearDataStreams]
        · simp [here, Ne.symm here, stored]
    | frame m' => by_cases here : m = m' <;> simp [here, stored, DataManager.clearDataStreams]
    | baseStation s => simp
    | wireless i => simp
    | deviceEvents => simp

theorem elsewhere_closeDevices (registered : w.handles.Registered)
    (held : w.dataManagers[m]? = some manager) :
    Elsewhere m w ((w.cancelAllDataStreams m).clearDataStreams m) := by
  refine (elsewhere_onCalls registered ?_).trans
    (elsewhere_onManager _)
  intro current held' callData unowned
  obtain rfl : manager = current := Option.some.inj (held.symm.trans held')
  refine getElem?_cancelEach _ callData w.calls ((entry_iff_stored held callData).mpr fun key => ?_)
  exact unowned (.device m key) rfl

/-- What `CloseRequest` does before it takes the manager off the list. -/
theorem closeRequest_frame (m : ManagerId) (registered : w.handles.Registered) :
    ∃ w' : ClientManager, w'.handles.Registered ∧ Elsewhere m w w' ∧
      (w.closeRequest m = w'.eraseManager m ∨ w.closeRequest m = w' ∧ w.dataManagers.length ≤ m) := by
  unfold closeRequest
  split
  · rename_i absent
    exact ⟨w, registered, .refl m w, .inr ⟨rfl, List.getElem?_eq_none_iff.mp absent⟩⟩
  · rename_i manager held
    split
    · exact ⟨_, registered_closeDevices registered held, elsewhere_closeDevices registered held,
        .inl rfl⟩
    · refine ⟨(w.cancelDataFrameStream m).removeDataFrameStream m, ?_,
        (elsewhere_cancelDataFrameStream registered).trans (elsewhere_onManager _), .inl rfl⟩
      rw [handles_removeDataFrameStream, handles_cancelDataFrameStream]
      exact registered.detach _

theorem coherent_closeRequest (coherent : Coherent w) (m : ManagerId) :
    Coherent (w.closeRequest m) := by
  obtain ⟨w', registered, elsewhere, erased | ⟨same, -⟩⟩ := closeRequest_frame m coherent.registered
  · have closed := coherent.elsewhere registered elsewhere
    rw [erased]
    exact ⟨closed.registered, closed.keyed, fun m' member => closed.listed m' (List.mem_of_mem_erase member),
      closed.distinct.erase m⟩
  · rw [same]
    exact coherent.elsewhere registered elsewhere

/-- **Closing a request.**  The managers that stay on the list are served as they were. -/
theorem upToDate_closeRequest (coherent : Coherent w) (upToDate : UpToDate w) (m : ManagerId) :
    UpToDate (w.closeRequest m) := by
  obtain ⟨w', registered, elsewhere, erased | ⟨same, outside⟩⟩ :=
    closeRequest_frame m coherent.registered
  · rw [erased]
    constructor
    · exact fun key device found => upToDate.narrow key device (by rw [← elsewhere.connected]; exact found)
    · intro m' member
      obtain ⟨other, old⟩ := coherent.distinct.mem_erase_iff.mp (by rw [← elsewhere.list]; exact member)
      obtain ⟨manager, serving⟩ := (upToDate.served m' old).elsewhere other elsewhere
      exact ⟨manager, serving.held, serving.storages, serving.devices, serving.frame⟩
  · rw [same]
    refine ⟨by rw [elsewhere.connected]; exact upToDate.narrow, fun m' member => ?_⟩
    rw [elsewhere.list] at member
    refine (upToDate.served m' member).elsewhere ?_ elsewhere
    exact Nat.ne_of_lt (Nat.lt_of_lt_of_le (coherent.listed m' member) outside)

end Operations

end ClientManager

end OmmoSdk.Client
