/-
# Client.StorageKeys — which storages the managers hold

`Alters` says of a step which keys the managers hold storages under afterwards, for all managers
at once: a data manager makes or drops one storage with an update of a device, a data frame
manager with every reopening of its stream.  A device event comes to the same for both
(`alters_updateAll`), provided that the manager had all that it was due.

`Equipped` is that proviso as an invariant, and what else the loops rely on.
-/
import OmmoSdk.Client.ContextDelivery
import OmmoSdk.Client.Reconnect

namespace OmmoSdk.Client

open OmmoSdk.Theory
open OmmoSdk.Sdk
open OmmoSdk.Storage

set_option autoImplicit false

namespace DataManager

/-! ## Messages leave the devices -/

/-- Two states of a manager with the same request and storages for the same devices. -/
structure SameDevices (m m' : DataManager) : Prop where
  header : m'.header = m.header
  devices : ∀ key, (m'.deviceDataMap.lookup key).map DeviceDataStorage.device =
    (m.deviceDataMap.lookup key).map DeviceDataStorage.device

variable {m m' m'' : DataManager}

theorem SameDevices.refl (m : DataManager) : SameDevices m m := ⟨rfl, fun _ => rfl⟩

theorem SameDevices.trans (first : SameDevices m m') (second : SameDevices m' m'') :
    SameDevices m m'' :=
  ⟨second.header.trans first.header, fun key => (second.devices key).trans (first.devices key)⟩

theorem sameDevices_updateDeviceData {packet : Proto.TrackingDeviceData}
    (updated : m.updateDeviceData packet = .ok m') : SameDevices m m' := by
  obtain ⟨-, rfl⟩ | ⟨storage, outcome, found, pushed, rfl⟩ := updateDeviceData_cases updated
  · exact .refl m'
  · have routed : storages.push storage packet = .ok outcome.2 :=
      congrArg (Except.map Prod.snd) pushed
    refine ⟨rfl, fun key => ?_⟩
    show ((m.deviceDataMap.insert _ outcome.2).lookup key).map _ = _
    by_cases own : key = (packetId packet).hash
    · subst own
      rw [AList.lookup_insert, found, Option.map_some, Option.map_some, pushData_device routed]
    · rw [AList.lookup_insert_ne own]

theorem sameDevices_updateDataFrame (packets : List Proto.TrackingDeviceData) :
    ∀ {m m' : DataManager}, packets.foldlM updateDeviceData m = .ok m' → SameDevices m m' := by
  induction packets with
  | nil =>
      intro m m' updated
      cases updated
      exact .refl m
  | cons packet rest ih =>
      intro m m' updated
      rw [List.foldlM_cons] at updated
      cases first : m.updateDeviceData packet with
      | error fault => simp [first, bind, Except.bind] at updated
      | ok next =>
          simp only [first, bind, Except.bind] at updated
          exact (sameDevices_updateDeviceData first).trans (ih updated)

end DataManager

namespace ClientManager

/-! ## What becomes of the storages, exactly -/

/-- The request of manager `m` names the device, or all devices. -/
def Asks (w : ClientManager) (m : ManagerId) (deviceId : DeviceID) : Prop :=
  ∃ manager, w.dataManagers[m]? = some manager ∧ manager.isDeviceDataRequested deviceId = true

/-- A connected device that manager `m` asks for has the key. -/
def Due (w : ClientManager) (m : ManagerId) (key : UInt64) : Prop :=
  ∃ device, w.connectedDevices.lookup key = some device ∧ w.Asks m device.id

/-- A storage is filed under the key of its device, which has a port of eight bits. -/
def Proper (key : UInt64) (storage : DeviceDataStorage) : Prop :=
  storage.device.hash = key ∧ storage.device.portId.toNat < 256

/-- A step after which the managers hold storages under the keys `holds`.  The requests stay, and
what is made is proper. -/
structure Alters (w w' : ClientManager) (holds : ManagerId → UInt64 → Prop) : Prop where
  connected : w'.connectedDevices = w.connectedDevices
  list : w'.dataManagerList = w.dataManagerList
  headers : ∀ m : ManagerId, (w'.dataManagers[m]?).map DataManager.header =
    (w.dataManagers[m]?).map DataManager.header
  storages : ∀ m key storage, w'.storageAt m key = some storage →
    w.storageAt m key = some storage ∨ Proper key storage
  holds : ∀ m key, w'.HoldsStorage m key ↔ holds m key

section Altering

variable {w w' w'' : ClientManager} {m : ManagerId} {manager : DataManager}
  {device : DeviceDescriptor} {deviceConnected : Bool} {order : IterationOrder DeviceDescriptor}
  {holds holds' : ManagerId → UInt64 → Prop}

theorem holdsStorage_iff {key : UInt64} :
    w.HoldsStorage m key ↔ ∃ storage, w.storageAt m key = some storage := by
  constructor
  · rintro ⟨manager, held, member⟩
    obtain ⟨storage, found⟩ := Option.isSome_iff_exists.mp (AList.lookup_isSome.mpr member)
    exact ⟨storage, by rw [storageAt, held, Option.bind_some, found]⟩
  · rintro ⟨storage, found⟩
    obtain ⟨manager, held, there⟩ := Option.bind_eq_some_iff.mp found
    exact ⟨manager, held, AList.lookup_isSome.mp (by rw [there]; rfl)⟩

theorem asks_congr (headers : ∀ m : ManagerId, (w'.dataManagers[m]?).map DataManager.header =
    (w.dataManagers[m]?).map DataManager.header) (m : ManagerId) (deviceId : DeviceID) :
    w'.Asks m deviceId ↔ w.Asks m deviceId := by
  have same := headers m
  constructor
  · rintro ⟨manager', held', asked⟩
    rw [held', Option.map_some] at same
    obtain ⟨manager, held, header⟩ := Option.map_eq_some_iff.mp same.symm
    exact ⟨manager, held, by rw [DataManager.isDeviceDataRequested_congr header, asked]⟩
  · rintro ⟨manager, held, asked⟩
    rw [held, Option.map_some] at same
    obtain ⟨manager', held', header⟩ := Option.map_eq_some_iff.mp same
    exact ⟨manager', held', by rw [DataManager.isDeviceDataRequested_congr header, asked]⟩

theorem Alters.asks (alters : Alters w w' holds) (m : ManagerId) (deviceId : DeviceID) :
    w'.Asks m deviceId ↔ w.Asks m deviceId := asks_congr alters.headers m deviceId

theorem Alters.due (alters : Alters w w' holds) (m : ManagerId) (key : UInt64) :
    w'.Due m key ↔ w.Due m key := by
  simp only [Due, alters.connected, alters.asks]

theorem Alters.congr (alters : Alters w w' holds) (same : ∀ m key, holds m key ↔ holds' m key) :
    Alters w w' holds' :=
  { alters with holds := fun m key => (alters.holds m key).trans (same m key) }

theorem Alters.trans (first : Alters w w' holds) (second : Alters w' w'' holds') :
    Alters w w'' holds' where
  connected := second.connected.trans first.connected
  list := second.list.trans first.list
  headers m := (second.headers m).trans (first.headers m)
  storages m key storage found := by
    rcases second.storages m key storage found with before | proper
    · exact first.storages m key storage before
    · exact .inr proper
  holds := second.holds

/-- A step that leaves the requests alone. -/
theorem Alters.kept (kept : RequestsKept w w') (list : w'.dataManagerList = w.dataManagerList) :
    Alters w w' w.HoldsStorage where
  connected := kept.connected
  list := list
  headers m := by
    cases held : w'.dataManagers[m]? with
    | none =>
        have outside := List.getElem?_eq_none_iff.mp held
        rw [List.getElem?_eq_none (by rw [← kept.count]; exact outside)]
    | some manager' =>
        obtain ⟨manager, before, header, -⟩ := kept.managers m manager' held
        rw [before, Option.map_some, Option.map_some, header]
  storages m key storage found := .inl (storageAt_kept kept m key ▸ found)
  holds m key := by rw [holdsStorage_iff, holdsStorage_iff, storageAt_kept kept]

theorem Alters.refl (w : ClientManager) : Alters w w w.HoldsStorage := .kept (.refl w) rfl

theorem Alters.onCalls (f : DataManager → List CallData → List CallData) :
    Alters w (w.onCalls m f) w.HoldsStorage := by
  refine .kept (.onCalls f) ?_
  unfold ClientManager.onCalls
  split <;> rfl

/-- A section that leaves the header and the storages of its manager. -/
theorem Alters.onManager {f : DataManager → DataManager}
    (header : ∀ manager, (f manager).header = manager.header)
    (storages : ∀ manager, (f manager).deviceDataMap = manager.deviceDataMap) :
    Alters w (w.onManager m f) w.HoldsStorage := .kept (.onManager header storages) rfl

theorem headers_onManager {f : DataManager → DataManager}
    (header : ∀ manager, (f manager).header = manager.header) (m' : ManagerId) :
    ((w.onManager m f).dataManagers[m']?).map DataManager.header =
      (w.dataManagers[m']?).map DataManager.header := by
  simp only [ClientManager.onManager, List.getElem?_modify]
  cases w.dataManagers[m']? with
  | none => rfl
  | some manager =>
      show some (DataManager.header (if m = m' then f manager else manager)) = _
      split
      · rw [header]
        rfl
      · rfl

theorem alters_addDeviceStorage (held : w.dataManagers[m]? = some manager)
    (port : device.portId.toNat < 256) :
    Alters w (w.addDeviceStorage m device) fun m' key =>
      w.HoldsStorage m' key ∨ m' = m ∧ key = device.hash where
  connected := rfl
  list := rfl
  headers := headers_onManager fun manager => manager.header_addDeviceStorage device 500
  storages m' key storage found := by
    rw [addDeviceStorage, storageAt_onManager] at found
    obtain ⟨manager', held', found⟩ := Option.bind_eq_some_iff.mp found
    rw [storageAt, held', Option.bind_some]
    split at found
    · unfold DataManager.addDeviceStorage at found
      split at found
      · exact .inl found
      · by_cases same : key = device.hash
        · rw [same, AList.lookup_insert] at found
          cases found
          refine .inr ⟨?_, port⟩
          rw [same, DeviceDataStorage.init, copyDeviceDescriptor_eq]
        · exact .inl (by rwa [AList.lookup_insert_ne same] at found)
    · exact .inl found
  holds m' key := by
    simp only [HoldsStorage, addDeviceStorage, ClientManager.onManager, List.getElem?_modify]
    by_cases here : m = m'
    · subst here
      simp [held, or_comm]
    · simp [here, Ne.symm here]

theorem alters_removeDeviceStorage (deviceId : DeviceID) :
    Alters w (w.removeDeviceStorage m deviceId) fun m' key =>
      w.HoldsStorage m' key ∧ ¬ (m' = m ∧ key = deviceId.hash) where
  connected := rfl
  list := rfl
  headers := headers_onManager fun manager => manager.header_removeDeviceStorage deviceId
  storages m' key storage found := by
    rw [removeDeviceStorage, storageAt_onManager] at found
    obtain ⟨manager', held', found⟩ := Option.bind_eq_some_iff.mp found
    rw [storageAt, held', Option.bind_some]
    split at found
    · unfold DataManager.removeDeviceStorage at found
      split at found
      · by_cases same : key = deviceId.hash
        · rw [same, AList.lookup_erase] at found
          cases found
        · exact .inl (by rwa [AList.lookup_erase_ne same] at found)
      · exact .inl found
    · exact .inl found
  holds m' key := by
    simp only [HoldsStorage, removeDeviceStorage, ClientManager.onManager, List.getElem?_modify]
    by_cases here : m = m'
    · subst here
      cases w.dataManagers[m]? <;> simp [and_comm]
    · simp [here, Ne.symm here]

theorem alters_ensureStorage (held : w.dataManagers[m]? = some manager)
    (port : device.portId.toNat < 256) :
    Alters w (w.ensureStorage m device) fun m' key =>
      w.HoldsStorage m' key ∨ m' = m ∧ key = device.hash := by
  unfold ensureStorage
  split
  · exact alters_addDeviceStorage held port
  · rename_i available
    refine (Alters.refl w).congr fun m' key => ⟨.inl, ?_⟩
    rintro (there | ⟨rfl, rfl⟩)
    · exact there
    · have there : manager.isStorageAvailable device.id = true := by
        simpa [isStorageAvailable, held] using available
      exact ⟨manager, held, of_decide_eq_true there⟩

/-- The storages after an event, where the managers of a list are told of it. -/
def Told (w : ClientManager) (list : List ManagerId) (device : DeviceDescriptor)
    (deviceConnected : Bool) (m : ManagerId) (key : UInt64) : Prop :=
  if deviceConnected then
    w.HoldsStorage m key ∨ m ∈ list ∧ w.Asks m device.id ∧ key = device.hash
  else w.HoldsStorage m key ∧ ¬ (m ∈ list ∧ w.Asks m device.id ∧ key = device.hash)

/-- Managers that do not ask for the device. -/
theorem told_unasked {list : List ManagerId} {key : UInt64}
    (unasked : ∀ m ∈ list, ¬ w.Asks m device.id) (m' : ManagerId) :
    w.Told list device deviceConnected m' key ↔ w.HoldsStorage m' key := by
  unfold Told
  split
  · exact ⟨fun told => told.elim id fun asked => absurd asked.2.1 (unasked m' asked.1), .inl⟩
  · exact ⟨And.left, fun holds => ⟨holds, fun asked => unasked m' asked.1 asked.2.1⟩⟩

theorem told_asked {key : UInt64} (asked : w.Asks m device.id) (m' : ManagerId) :
    w.Told [m] device deviceConnected m' key ↔
      if deviceConnected then w.HoldsStorage m' key ∨ m' = m ∧ key = device.hash
      else w.HoldsStorage m' key ∧ ¬ (m' = m ∧ key = device.hash) := by
  have same : (m' ∈ [m] ∧ w.Asks m' device.id ∧ key = device.hash) ↔
      m' = m ∧ key = device.hash := by
    rw [List.mem_singleton]
    constructor
    · exact fun both => ⟨both.1, both.2.2⟩
    · rintro ⟨rfl, same⟩
      exact ⟨rfl, asked, same⟩
  unfold Told
  rw [same]

theorem alters_updateDeviceDataStream (deviceConnected : Bool) (port : device.portId.toNat < 256) :
    Alters w (w.updateDeviceDataStream m device deviceConnected)
      (w.Told [m] device deviceConnected) := by
  cases held : w.dataManagers[m]? with
  | none =>
      have unasked : ∀ m' ∈ [m], ¬ w.Asks m' device.id := by
        rintro m' only ⟨manager, held', -⟩
        rw [List.mem_singleton.mp only, held] at held'
        cases held'
      rw [show w.updateDeviceDataStream m device deviceConnected = w by
        simp [updateDeviceDataStream, held]]
      exact (Alters.refl w).congr fun m' key => (told_unasked unasked m').symm
  | some manager =>
      cases requested : manager.isDeviceDataRequested device.id with
      | false =>
          have unasked : ∀ m' ∈ [m], ¬ w.Asks m' device.id := by
            rintro m' only ⟨manager', held', asked⟩
            rw [List.mem_singleton.mp only, held] at held'
            cases held'
            rw [requested] at asked
            cases asked
          rw [show w.updateDeviceDataStream m device deviceConnected = w by
            simp [updateDeviceDataStream, held, requested]]
          exact (Alters.refl w).congr fun m' key => (told_unasked unasked m').symm
      | true =>
          refine Alters.congr ?_ fun m' key => (told_asked ⟨manager, held, requested⟩ m').symm
          cases deviceConnected with
          | false =>
              simp only [updateDeviceDataStream, held, requested, not_true_eq_false, if_false,
                Bool.false_eq_true, not_false_eq_true, if_true]
              have cancelled : Alters w (w.cancelDataStream m device.id) w.HoldsStorage := .onCalls _
              have removed := cancelled.trans (Alters.onManager (m := m)
                (fun manager => manager.header_removeDataStream device.id)
                fun manager => manager.removeDataStream_map device.id)
              exact (removed.trans (alters_removeDeviceStorage device.id)).congr fun m' key => by
                rw [removed.holds, cancelled.holds]
                rfl
          | true =>
              have made := alters_ensureStorage (m := m) held port
              rw [updateDeviceDataStream_connected held requested]
              simp only [if_true]
              split
              · exact made
              · have call : Alters (w.ensureStorage m device)
                    ((w.ensureStorage m device).openTrackingDeviceDataStream
                      (deviceStreamRequest manager.request device) m).1
                    (w.ensureStorage m device).HoldsStorage := .kept (.of_eq rfl rfl rfl) rfl
                have opened := made.trans call
                have added := opened.trans (Alters.onManager (m := m)
                  (fun manager => manager.header_addDataStream device.id w.calls.length)
                  fun manager => manager.addDataStream_map device.id w.calls.length)
                exact added.congr fun m' key => (opened.holds m' key).trans (made.holds m' key)

/-- The connected devices have ports of eight bits and are filed under their keys. -/
structure Plugged (connected : DeviceMap DeviceDescriptor) : Prop where
  keyed : Keyed connected
  narrow : ∀ key device, connected.lookup key = some device → device.portId.toNat < 256

/-- The loops over the connected devices meet those that are due. -/
theorem due_iff_visit (plugged : Plugged w.connectedDevices)
    (order : IterationOrder DeviceDescriptor) (m : ManagerId) (key : UInt64) :
    (∃ item ∈ order.visit w.connectedDevices, w.Asks m item.2.id ∧ key = item.2.hash) ↔
      w.Due m key := by
  constructor
  · rintro ⟨item, member, asked, rfl⟩
    have found := (mem_visit order).mp member
    refine ⟨item.2, ?_, asked⟩
    rw [plugged.keyed item.1 item.2 found]
    exact found
  · rintro ⟨device, found, asked⟩
    exact ⟨⟨key, device⟩, (mem_visit order).mpr found, asked,
      (plugged.keyed key device found).symm⟩

theorem alters_updateEach (items : List (Σ _ : UInt64, DeviceDescriptor)) :
    ∀ {w : ClientManager}, (∀ item ∈ items, item.2.portId.toNat < 256) →
      Alters w (items.foldl (fun w device => w.updateDeviceDataStream m device.2 true) w)
        fun m' key => w.HoldsStorage m' key ∨
          m' = m ∧ ∃ item ∈ items, w.Asks m item.2.id ∧ key = item.2.hash := by
  induction items with
  | nil =>
      intro w _
      exact (Alters.refl w).congr fun m' key => by simp
  | cons item rest ih =>
      intro w ports
      have first := alters_updateDeviceDataStream (w := w) (m := m) true
        (ports item List.mem_cons_self)
      refine (first.trans (ih fun other member => ports other (List.mem_cons_of_mem _ member))).congr
        fun m' key => ?_
      simp only [first.holds, first.asks, Told, if_true, List.mem_cons, List.not_mem_nil, or_false]
      constructor
      · rintro ((there | ⟨rfl, asked, same⟩) | ⟨rfl, other, member, asked, same⟩)
        · exact .inl there
        · exact .inr ⟨rfl, item, .inl rfl, asked, same⟩
        · exact .inr ⟨rfl, other, .inr member, asked, same⟩
      · rintro (there | ⟨rfl, other, rfl | member, asked, same⟩)
        · exact .inl (.inl there)
        · exact .inl (.inr ⟨rfl, asked, same⟩)
        · exact .inr ⟨rfl, other, member, asked, same⟩

theorem alters_openDeviceDataStream (order : IterationOrder DeviceDescriptor)
    (plugged : Plugged w.connectedDevices) (held : w.dataManagers[m]? = some manager)
    (isDevice : manager.streamType = .deviceData) :
    Alters w (openDeviceDataStream order w m) fun m' key =>
      w.HoldsStorage m' key ∨ m' = m ∧ w.Due m key := by
  rw [openDeviceDataStream_eq held isDevice]
  refine (alters_updateEach (order.visit w.connectedDevices) fun item member => ?_).congr
    fun m' key => by rw [due_iff_visit plugged order]
  exact plugged.narrow item.1 item.2 ((mem_visit order).mp member)

theorem alters_prepareFrameDevices (manager : DataManager) (m : ManagerId)
    (items : List (Σ _ : UInt64, DeviceDescriptor)) :
    ∀ {w : ClientManager} {current : DataManager}, w.dataManagers[m]? = some current →
      current.header = manager.header → (∀ item ∈ items, item.2.portId.toNat < 256) →
      Alters w (prepareFrameDevices manager m w items).1 fun m' key => w.HoldsStorage m' key ∨
        m' = m ∧ ∃ item ∈ items, w.Asks m item.2.id ∧ key = item.2.hash := by
  induction items with
  | nil =>
      intro w current held same _
      exact (Alters.refl w).congr fun m' key => by simp
  | cons item rest ih =>
      intro w current held same ports
      have restPorts : ∀ other ∈ rest, other.2.portId.toNat < 256 :=
        fun other member => ports other (List.mem_cons_of_mem _ member)
      have asks : w.Asks m item.2.id ↔ manager.isDeviceDataRequested item.2.id = true := by
        rw [← DataManager.isDeviceDataRequested_congr same]
        constructor
        · rintro ⟨other, held', asked⟩
          rw [held] at held'
          cases held'
          exact asked
        · exact fun asked => ⟨current, held, asked⟩
      rw [prepareFrameDevices_cons]
      cases requested : manager.isDeviceDataRequested item.2.id with
      | false =>
          simp only [Bool.false_eq_true, if_false]
          refine (ih held same restPorts).congr fun m' key => ?_
          simp only [List.mem_cons]
          constructor
          · rintro (there | ⟨rfl, other, member, asked, same⟩)
            · exact .inl there
            · exact .inr ⟨rfl, other, .inr member, asked, same⟩
          · rintro (there | ⟨rfl, other, rfl | member, asked, same⟩)
            · exact .inl there
            · rw [asks, requested] at asked
              cases asked
            · exact .inr ⟨rfl, other, member, asked, same⟩
      | true =>
          simp only [if_true]
          have first := alters_ensureStorage (m := m) held (ports item List.mem_cons_self)
          obtain ⟨next, held', header, -⟩ := ensureStorage_held item.2 held
          refine (first.trans (ih held' (header.trans same) restPorts)).congr fun m' key => ?_
          simp only [first.holds, first.asks, List.mem_cons]
          constructor
          · rintro ((there | ⟨rfl, same⟩) | ⟨rfl, other, member, asked, same⟩)
            · exact .inl there
            · exact .inr ⟨rfl, item, .inl rfl, asks.mpr requested, same⟩
            · exact .inr ⟨rfl, other, .inr member, asked, same⟩
          · rintro (there | ⟨rfl, other, rfl | member, asked, same⟩)
            · exact .inl (.inl there)
            · exact .inl (.inr ⟨rfl, same⟩)
            · exact .inr ⟨rfl, other, member, asked, same⟩

theorem alters_openDataFrame (order : IterationOrder DeviceDescriptor)
    (plugged : Plugged w.connectedDevices) (held : w.dataManagers[m]? = some manager)
    (isFrame : manager.streamType = .dataFrame) :
    Alters w (openDataFrame order w m) fun m' key =>
      w.HoldsStorage m' key ∨ m' = m ∧ w.Due m key := by
  rw [openDataFrame_eq held isFrame]
  have prepared := alters_prepareFrameDevices manager m (order.visit w.connectedDevices) held rfl
    fun item member => plugged.narrow item.1 item.2 ((mem_visit order).mp member)
  generalize prepareFrameDevices manager m w (order.visit w.connectedDevices) = result at *
  have call : Alters result.1
      (result.1.openDataFrameStream (frameRequest manager.request result.2) m).1
      result.1.HoldsStorage := .kept (.of_eq rfl rfl rfl) rfl
  have opened := prepared.trans call
  have pointer := opened.trans (Alters.onManager (m := m)
    (f := fun manager => manager.setDataFrameStream result.1.calls.length)
    (fun _ => rfl) fun _ => rfl)
  refine pointer.congr fun m' key => ?_
  rw [opened.holds, prepared.holds, due_iff_visit plugged order]

/-- An event has been recorded, and up to it the managers of a list have what they are due. -/
structure Recorded (w : ClientManager) (list : List ManagerId) (device : DeviceDescriptor)
    (deviceConnected : Bool) : Prop where
  plugged : Plugged w.connectedDevices
  port : device.portId.toNat < 256
  known : w.connectedDevices.lookup device.hash = if deviceConnected then some device else none
  cover : ∀ m ∈ list, ∀ key, key ≠ device.hash → w.Due m key → w.HoldsStorage m key

/-- The other managers of the list are told next. -/
theorem Recorded.told {list : List ManagerId} {others : List ManagerId}
    (recorded : Recorded w others device deviceConnected)
    (alters : Alters w w' (w.Told list device deviceConnected)) :
    Recorded w' others device deviceConnected where
  plugged := by rw [alters.connected]; exact recorded.plugged
  port := recorded.port
  known := by rw [alters.connected]; exact recorded.known
  cover m member key other due := by
    have there := recorded.cover m member key other ((alters.due m key).mp due)
    rw [alters.holds, Told]
    split
    · exact .inl there
    · exact ⟨there, fun asked => other asked.2.2⟩

/-- What a manager is due after the event is what it is told. -/
theorem Recorded.due_told (recorded : Recorded w [m] device deviceConnected) {key : UInt64}
    (due : w.Due m key) : w.Told [m] device deviceConnected m key := by
  have member : m ∈ [m] := List.mem_cons_self
  by_cases other : key = device.hash
  · subst other
    obtain ⟨stored, found, asked⟩ := due
    rw [recorded.known] at found
    cases deviceConnected with
    | false => cases found
    | true =>
        cases found
        exact .inr ⟨member, asked, rfl⟩
  · have there := recorded.cover m member key other due
    unfold Told
    split
    · exact .inl there
    · exact ⟨there, fun asked => other asked.2.2⟩

/-- A data frame manager drops the storage of a device that has gone, and makes what it is due. -/
theorem alters_updateDataFrameStream (recorded : Recorded w [m] device deviceConnected)
    (held : w.dataManagers[m]? = some manager) (isFrame : manager.streamType = .dataFrame) :
    Alters w (updateDataFrameStream order w m device deviceConnected)
      (w.Told [m] device deviceConnected) := by
  cases requested : manager.isDeviceDataRequested device.id with
  | false =>
      have unasked : ∀ m' ∈ [m], ¬ w.Asks m' device.id := by
        rintro m' only ⟨manager', held', asked⟩
        rw [List.mem_singleton.mp only, held] at held'
        cases held'
        rw [requested] at asked
        cases asked
      rw [updateDataFrameStream_other held requested]
      exact (Alters.refl w).congr fun m' key => (told_unasked unasked m').symm
  | true =>
      have asked : w.Asks m device.id := ⟨manager, held, requested⟩
      rw [updateDataFrameStream_requested held requested]
      have dropped : Alters w (w.dropStorage m device deviceConnected) fun m' key =>
          w.HoldsStorage m' key ∧
            ¬ (deviceConnected = false ∧ m' = m ∧ key = device.hash) := by
        unfold dropStorage
        cases deviceConnected with
        | false =>
            exact (alters_removeDeviceStorage device.id).congr fun m' key => by
              simp [DeviceDescriptor.id, DeviceID.hash, DeviceDescriptor.hash]
        | true => exact (Alters.refl w).congr fun m' key => by simp
      generalize w.dropStorage m device deviceConnected = gone at dropped ⊢
      have cancelled : Alters gone (gone.cancelDataFrameStream m) gone.HoldsStorage := .onCalls _
      have pointer : Alters (gone.cancelDataFrameStream m)
          ((gone.cancelDataFrameStream m).removeDataFrameStream m)
          (gone.cancelDataFrameStream m).HoldsStorage := .onManager (fun _ => rfl) fun _ => rfl
      have closed := (dropped.trans cancelled).trans pointer
      obtain ⟨manager', held', header⟩ :=
        Option.map_eq_some_iff.mp ((closed.headers m).trans (by rw [held]; rfl))
      have opened := closed.trans (alters_openDataFrame order
        (by rw [closed.connected]; exact recorded.plugged) held'
        ((congrArg Prod.fst header).trans isFrame))
      refine opened.congr fun m' key => ?_
      rw [closed.holds, cancelled.holds, dropped.holds, closed.due, told_asked asked]
      have due : m' = m ∧ w.Due m key → if deviceConnected then
          w.HoldsStorage m' key ∨ m' = m ∧ key = device.hash
          else w.HoldsStorage m' key ∧ ¬ (m' = m ∧ key = device.hash) := by
        rintro ⟨rfl, owed⟩
        exact (told_asked asked m').mp (recorded.due_told owed)
      cases deviceConnected with
      | false =>
          simp only [Bool.false_eq_true, if_false, true_and] at due ⊢
          constructor
          · rintro (there | owed)
            · exact there
            · exact due owed
          · exact .inl
      | true =>
          simp only [if_true, Bool.true_eq_false, false_and, not_false_eq_true, and_true] at due ⊢
          constructor
          · rintro (there | owed)
            · exact .inl there
            · exact due owed
          · rintro (there | ⟨rfl, rfl⟩)
            · exact .inl there
            · exact .inr ⟨rfl, device, by rw [recorded.known, if_pos rfl], asked⟩

theorem alters_updateStreams (order : IterationOrder DeviceDescriptor)
    (recorded : Recorded w [m] device deviceConnected) :
    Alters w (updateStreams order device deviceConnected w m) (w.Told [m] device deviceConnected) := by
  unfold updateStreams
  cases held : w.dataManagers[m]? with
  | none =>
      have unasked : ∀ m' ∈ [m], ¬ w.Asks m' device.id := by
        rintro m' only ⟨manager, held', -⟩
        rw [List.mem_singleton.mp only, held] at held'
        cases held'
      exact (Alters.refl w).congr fun m' key => (told_unasked unasked m').symm
  | some manager =>
      cases kind : manager.streamType with
      | deviceData =>
          simp only [kind]
          exact alters_updateDeviceDataStream deviceConnected recorded.port
      | dataFrame =>
          simp only [kind]
          exact alters_updateDataFrameStream recorded held kind

/-- The loop over `data_manager_list_`. -/
theorem alters_updateAll (order : IterationOrder DeviceDescriptor) (list : List ManagerId) :
    ∀ {w : ClientManager}, Recorded w list device deviceConnected →
      Alters w (list.foldl (updateStreams order device deviceConnected) w)
        (w.Told list device deviceConnected) := by
  induction list with
  | nil =>
      intro w _
      exact (Alters.refl w).congr fun m' key => (told_unasked (by simp) m').symm
  | cons m rest ih =>
      intro w recorded
      have here : Recorded w [m] device deviceConnected := { recorded with
        cover := fun m' only =>
          recorded.cover m' (List.mem_singleton.mp only ▸ List.mem_cons_self) }
      have others : Recorded w rest device deviceConnected := { recorded with
        cover := fun m' member => recorded.cover m' (List.mem_cons_of_mem _ member) }
      have first := alters_updateStreams order here
      have later := ih (others.told first)
      refine (first.trans later).congr fun m' key => ?_
      unfold Told
      rw [first.holds, first.asks]
      unfold Told
      cases deviceConnected with
      | false =>
          simp only [Bool.false_eq_true, if_false, List.mem_cons, List.not_mem_nil, or_false]
          tauto
      | true =>
          simp only [if_true, List.mem_cons, List.not_mem_nil, or_false]
          tauto

end Altering

/-! ## What every connected device is owed -/

/-- The devices and storages are filed properly, and the managers of the list hold storages for
the connected devices they ask for. -/
structure Equipped (w : ClientManager) : Prop where
  plugged : Plugged w.connectedDevices
  proper : ∀ m key storage, w.storageAt m key = some storage → Proper key storage
  covered : ∀ m ∈ w.dataManagerList, ∀ key, w.Due m key → w.HoldsStorage m key

section Equipping

variable {w w' : ClientManager} {m : ManagerId} {device : DeviceDescriptor} {deviceConnected : Bool}
  {order : IterationOrder DeviceDescriptor} {request : DataRequest} {kind : DataStreamType}

theorem equipped_init : Equipped ClientManager.init where
  plugged := by
    constructor
    · rintro key device found
      cases found
    · rintro key device found
      cases found
  proper := by
    rintro m key storage found
    cases found
  covered := by
    rintro m member
    cases member

theorem asks_recordDevice (m : ManagerId) (deviceId : DeviceID) :
    (w.recordDevice device deviceConnected).Asks m deviceId ↔ w.Asks m deviceId := by
  obtain ⟨connected, same⟩ := recordDevice_frame w device deviceConnected
  rw [same]
  rfl

theorem holdsStorage_recordDevice (m : ManagerId) (key : UInt64) :
    (w.recordDevice device deviceConnected).HoldsStorage m key ↔ w.HoldsStorage m key := by
  obtain ⟨connected, same⟩ := recordDevice_frame w device deviceConnected
  rw [same]
  rfl

theorem Equipped.recorded (equipped : Equipped w) (device : DeviceDescriptor)
    (deviceConnected : Bool) (port : device.portId.toNat < 256) :
    Recorded (w.recordDevice device deviceConnected) w.dataManagerList device deviceConnected where
  plugged := ⟨keyed_recordDevice device deviceConnected equipped.plugged.keyed,
    narrow_recordDevice device deviceConnected equipped.plugged.narrow port⟩
  port := port
  known := by rw [lookup_recordDevice, if_pos rfl]
  cover m member key other due := by
    rw [holdsStorage_recordDevice]
    obtain ⟨stored, found, asked⟩ := due
    rw [lookup_recordDevice, if_neg other] at found
    exact equipped.covered m member key ⟨stored, found, (asks_recordDevice m stored.id).mp asked⟩

/-- **A device event**: the managers of the list are told of it. -/
theorem alters_deviceEventProcessor (order : IterationOrder DeviceDescriptor)
    (equipped : Equipped w) (event : Proto.TrackingDeviceEvent) (port : event.device.portId.toNat < 256) :
    Alters (w.recordDevice (protoToDeviceDescriptor event.device) event.connected)
      (deviceEventProcessor order w event)
      (w.Told w.dataManagerList (protoToDeviceDescriptor event.device) event.connected) := by
  have recorded := equipped.recorded
    (protoToDeviceDescriptor event.device) event.connected port
  have told := alters_updateAll order _ recorded
  have same : (w.recordDevice (protoToDeviceDescriptor event.device)
      event.connected).dataManagerList = w.dataManagerList := by
    obtain ⟨connected, same⟩ :=
      recordDevice_frame w (protoToDeviceDescriptor event.device) event.connected
    rw [same]
  rw [← same] at told
  refine told.congr fun m key => ?_
  rw [same]
  simp only [Told, holdsStorage_recordDevice, asks_recordDevice]

theorem storageAt_recordDevice (m : ManagerId) (key : UInt64) :
    (w.recordDevice device deviceConnected).storageAt m key = w.storageAt m key := by
  obtain ⟨connected, same⟩ := recordDevice_frame w device deviceConnected
  rw [same]
  rfl

theorem equipped_deviceEventProcessor (equipped : Equipped w) (event : Proto.TrackingDeviceEvent)
    (port : event.device.portId.toNat < 256) : Equipped (deviceEventProcessor order w event) := by
  have recorded := equipped.recorded
    (protoToDeviceDescriptor event.device) event.connected port
  have alters := alters_deviceEventProcessor order equipped event port
  refine ⟨alters.connected ▸ recorded.plugged, fun m key storage found => ?_,
    fun m member key due => ?_⟩
  · rcases alters.storages m key storage found with before | proper
    · rw [storageAt_recordDevice] at before
      exact equipped.proper m key storage before
    · exact proper
  · rw [(lists_deviceEventProcessor event).2] at member
    have due := (alters.due m key).mp due
    have alone : Recorded (w.recordDevice (protoToDeviceDescriptor event.device) event.connected)
        [m] (protoToDeviceDescriptor event.device) event.connected := { recorded with
      cover := fun m' only => recorded.cover m' (List.mem_singleton.mp only ▸ member) }
    have told := alone.due_told due
    rw [alters.holds]
    simp only [Told, holdsStorage_recordDevice, asks_recordDevice, List.mem_singleton,
      true_and] at told ⊢
    simpa only [member, true_and] using told

/-! ### Requests -/

/-- Both request functions. -/
def requested (order : IterationOrder DeviceDescriptor) (w : ClientManager) (request : DataRequest) :
    DataStreamType → ClientManager
  | .deviceData => (requestDeviceData order w request).1
  | .dataFrame => (requestDataFrame order w request).1

theorem held_emplaceManager :
    (w.emplaceManager request kind).1.dataManagers[w.dataManagers.length]? =
      some (.init request kind) := List.getElem?_concat_length

theorem older_emplaceManager (other : m ≠ w.dataManagers.length) :
    (w.emplaceManager request kind).1.dataManagers[m]? = w.dataManagers[m]? := by
  show (w.dataManagers ++ [DataManager.init request kind])[m]? = w.dataManagers[m]?
  rcases Nat.lt_or_gt_of_ne other with older | newer
  · exact List.getElem?_append_left older
  · rw [List.getElem?_append_right (Nat.le_of_lt newer), List.getElem?_eq_none (Nat.le_of_lt newer)]
    exact List.getElem?_eq_none (by simp only [List.length_singleton]; omega)

theorem holdsStorage_emplaceManager (m : ManagerId) (key : UInt64) :
    (w.emplaceManager request kind).1.HoldsStorage m key ↔ w.HoldsStorage m key := by
  by_cases new : m = w.dataManagers.length
  · subst new
    constructor
    · rintro ⟨manager, held, member⟩
      rw [held_emplaceManager] at held
      cases held
      cases member
    · rintro ⟨manager, held, -⟩
      rw [List.getElem?_eq_none (Nat.le_refl _)] at held
      cases held
  · simp only [HoldsStorage, older_emplaceManager new]

theorem asks_emplaceManager (deviceId : DeviceID) :
    (w.emplaceManager request kind).1.Asks w.dataManagers.length deviceId ↔
      (DataManager.init request kind).isDeviceDataRequested deviceId = true := by
  constructor
  · rintro ⟨manager, held, asked⟩
    rw [held_emplaceManager] at held
    cases held
    exact asked
  · exact fun asked => ⟨_, held_emplaceManager, asked⟩

/-- **A request**: its manager is given what it is due. -/
theorem alters_requested (order : IterationOrder DeviceDescriptor) (request : DataRequest)
    (kind : DataStreamType) (plugged : Plugged w.connectedDevices) :
    Alters (w.emplaceManager request kind).1 (requested order w request kind) fun m key =>
      w.HoldsStorage m key ∨ m = w.dataManagers.length ∧
        (w.emplaceManager request kind).1.Due w.dataManagers.length key := by
  have made : Alters (w.emplaceManager request kind).1 (requested order w request kind) fun m key =>
      (w.emplaceManager request kind).1.HoldsStorage m key ∨ m = w.dataManagers.length ∧
        (w.emplaceManager request kind).1.Due w.dataManagers.length key := by
    cases kind with
    | deviceData =>
        exact alters_openDeviceDataStream order (w := (w.emplaceManager request _).1)
          plugged held_emplaceManager rfl
    | dataFrame =>
        exact alters_openDataFrame order (w := (w.emplaceManager request _).1)
          plugged held_emplaceManager rfl
  exact made.congr fun m key => by rw [holdsStorage_emplaceManager]

theorem equipped_requested (equipped : Equipped w) : Equipped (requested order w request kind) := by
  have alters := alters_requested order request kind equipped.plugged
  refine ⟨alters.connected ▸ equipped.plugged, fun m key storage found => ?_,
    fun m member key due => ?_⟩
  · rcases alters.storages m key storage found with before | proper
    · by_cases new : m = w.dataManagers.length
      · subst new
        rw [storageAt, held_emplaceManager] at before
        cases before
      · rw [storageAt, older_emplaceManager new] at before
        exact equipped.proper m key storage before
    · exact proper
  · have due := (alters.due m key).mp due
    rw [alters.holds]
    by_cases new : m = w.dataManagers.length
    · exact .inr ⟨new, new ▸ due⟩
    · refine .inl (equipped.covered m ?_ key ?_)
      · rw [alters.list] at member
        exact (List.mem_append.mp member).resolve_right fun last => new (List.mem_singleton.mp last)
      · obtain ⟨device, found, manager, held, asked⟩ := due
        rw [older_emplaceManager new] at held
        exact ⟨device, found, manager, held, asked⟩

/-! ### What leaves the requests alone -/

theorem Equipped.kept (equipped : Equipped w) (kept : RequestsKept w w') : Equipped w' := by
  have back : ∀ m key, w'.Due m key → w.Due m key := by
    rintro m key ⟨device, found, manager', held', asked⟩
    obtain ⟨manager, held, header, -⟩ := kept.managers m manager' held'
    rw [DataManager.isDeviceDataRequested_congr header] at asked
    exact ⟨device, kept.connected ▸ found, manager, held, asked⟩
  refine ⟨kept.connected ▸ equipped.plugged, fun m key storage found => ?_,
    fun m member key due => ?_⟩
  · exact equipped.proper m key storage (storageAt_kept kept m key ▸ found)
  · rw [holdsStorage_iff, storageAt_kept kept, ← holdsStorage_iff]
    exact equipped.covered m (kept.list m member) key (back m key due)

/-- The loss of the channel: no device is connected, and the managers are as they were. -/
theorem Equipped.lost (equipped : Equipped w) (connected : w'.connectedDevices = ∅)
    (managers : w'.dataManagers = w.dataManagers) : Equipped w' := by
  refine ⟨⟨fun key device found => ?_, fun key device found => ?_⟩, fun m key storage found => ?_,
    fun m _ key due => ?_⟩
  · rw [connected] at found
    cases found
  · rw [connected] at found
    cases found
  · rw [storageAt, managers] at found
    exact equipped.proper m key storage found
  · obtain ⟨device, found, -⟩ := due
    rw [connected] at found
    cases found

/-- What happens beside the requests: they and the devices of their storages stay, and what was
last seen of the channel. -/
structure Still (w w' : ClientManager) : Prop where
  alters : Alters w w' w.HoldsStorage
  channel : w'.previousChannelState = w.previousChannelState

theorem Still.refl (w : ClientManager) : Still w w := ⟨.refl w, rfl⟩

theorem Still.kept (kept : RequestsKept w w') (list : w'.dataManagerList = w.dataManagerList)
    (channel : w'.previousChannelState = w.previousChannelState) : Still w w' :=
  ⟨.kept kept list, channel⟩

theorem Equipped.still (equipped : Equipped w) (still : Still w w') : Equipped w' := by
  have alters := still.alters
  refine ⟨alters.connected ▸ equipped.plugged, fun m key storage found => ?_,
    fun m member key due => ?_⟩
  · rcases alters.storages m key storage found with before | proper
    · exact equipped.proper m key storage before
    · exact proper
  · rw [alters.holds]
    exact equipped.covered m (alters.list ▸ member) key ((alters.due m key).mp due)

theorem still_callManager {f : DataManager → Except Fault DataManager} (equipped : Equipped w)
    (same : ∀ manager manager', f manager = .ok manager' → manager.SameDevices manager')
    (called : w.callManager m f = .ok w') : Still w w' := by
  unfold callManager at called
  cases held : w.dataManagers[m]? with
  | none =>
      rw [held] at called
      cases called
      exact .refl w
  | some manager =>
      rw [held] at called
      cases done : f manager with
      | error fault => simp [done, bind, Except.bind] at called
      | ok manager' =>
          simp only [done, bind, Except.bind, pure, Except.pure] at called
          cases called
          obtain ⟨header, devices⟩ := same manager manager' done
          have inside := (List.getElem?_eq_some_iff.mp held).1
          have here : (w.dataManagers.set m manager')[m]? = some manager' :=
            List.getElem?_set_self inside
          have other : ∀ m', m ≠ m' → (w.dataManagers.set m manager')[m']? = w.dataManagers[m']? :=
            fun m' apart => List.getElem?_set_ne apart
          refine ⟨⟨rfl, rfl, fun m' => ?_, fun m' key storage' found => ?_,
            fun m' key => ?_⟩, rfl⟩
          · by_cases apart : m = m'
            · subst apart
              rw [here, held, Option.map_some, Option.map_some, header]
            · rw [other m' apart]
          · by_cases apart : m = m'
            · subst apart
              rw [storageAt, here, Option.bind_some] at found
              have device := devices key
              rw [found, Option.map_some] at device
              obtain ⟨storage, before, filed⟩ := Option.map_eq_some_iff.mp device.symm
              have proper := equipped.proper m key storage
                (by rw [storageAt, held, Option.bind_some, before])
              rw [Proper, filed] at proper
              exact .inr proper
            · rw [storageAt, other m' apart] at found
              exact .inl found
          · by_cases apart : m = m'
            · subst apart
              have keys : key ∈ manager'.deviceDataMap ↔ key ∈ manager.deviceDataMap := by
                rw [← AList.lookup_isSome, ← AList.lookup_isSome, ← Option.isSome_map, devices key,
                  Option.isSome_map]
              simp only [HoldsStorage, here, held, Option.some.injEq, exists_eq_left', keys]
            · simp only [HoldsStorage, other m' apart]

theorem still_receiveTrackingDeviceData {callData : CallId} {packet : Proto.TrackingDeviceData}
    (equipped : Equipped w) (received : w.receiveTrackingDeviceData callData packet = .ok w') :
    Still w w' := by
  unfold receiveTrackingDeviceData at received
  split at received
  · exact still_callManager equipped
      (fun _ _ => DataManager.sameDevices_updateDeviceData) received
  · cases received
    exact .refl w

theorem still_receiveDataFrame {callData : CallId} {packet : Proto.DataFrame}
    (equipped : Equipped w) (received : w.receiveDataFrame callData packet = .ok w') :
    Still w w' := by
  unfold receiveDataFrame at received
  split at received
  · exact still_callManager equipped
      (fun _ _ => DataManager.sameDevices_updateDataFrame packet.deviceData) received
  · cases received
    exact .refl w

theorem still_receiveBaseStationData {callData : CallId} {packet : Proto.BaseStationData}
    (received : w.receiveBaseStationData callData packet = .ok w') : Still w w' := by
  unfold receiveBaseStationData at received
  split at received
  · split at received
    · rename_i storage found
      cases pushed : storage.pushData packet with
      | error fault => simp [pushed, bind, Except.bind] at received
      | ok outcome =>
          simp only [pushed, bind, Except.bind, pure, Except.pure] at received
          cases received
          exact .kept (.of_eq rfl rfl rfl) rfl rfl
    · cases received
      exact .refl w
  · cases received
    exact .refl w

theorem still_closeBaseStationDataRequest {storage : Option StorageId}
    (closed : w.closeBaseStationDataRequest 1 storage = some w') : Still w w' := by
  have kept := kept_closeBaseStationDataRequest closed
  obtain ⟨list, rfl | ⟨callData, rfl⟩⟩ := closed_cases closed <;> exact .kept kept rfl rfl

theorem still_failed (order : IterationOrder CallId) (callData : CallId) (hung : Option ManagerId) :
    Still w { deleteCallData order w callData with hungIn := hung } := by
  have records := sameRecords_deleteCallData order w callData
  exact .kept ((kept_deleteCallData order callData).trans (.of_eq rfl rfl rfl)) records.list
    records.channel

/-- A round of the monitor that does not find the channel lost. -/
theorem alters_observeChannel (state : ChannelState)
    (stays : ¬ (w.previousChannelState = some .ready ∧ state ≠ .ready)) :
    Alters w (w.observeChannel state) w.HoldsStorage := by
  refine .kept (kept_observeChannel stays) ?_
  have ready : w.channelReady.dataManagerList = w.dataManagerList := by
    have loop : ∀ {α : Type} {f : ClientManager → α → ClientManager}
        (_ : ∀ w item, (f w item).dataManagerList = w.dataManagerList) (items : List α)
        (w : ClientManager), (items.foldl f w).dataManagerList = w.dataManagerList := by
      intro α f each items w
      exact List.foldlRecOn (motive := fun after => after.dataManagerList = w.dataManagerList)
        items f rfl fun after same item _ => (each after item).trans same
    refine (loop ?_ _ _).trans (loop ?_ _ _)
    · intro w i
      unfold reopenWirelessStream
      split <;> rfl
    · intro w s
      unfold reopenBaseStationStream
      split <;> rfl
  have stopped : w.stopEventStream.dataManagerList = w.dataManagerList := by
    unfold stopEventStream
    split <;> rfl
  unfold observeChannel
  split
  · split
    · exact ready
    · unfold channelNotReady
      simp only
      split
      · exact stopped
      · exact stopped
  · rfl

theorem channel_observeChannel (state : ChannelState) :
    (w.observeChannel state).previousChannelState = some state := by
  unfold observeChannel
  split
  · rfl
  · rename_i same
    exact not_not.mp same

/-- The registry keeps what was last seen of the channel. -/
theorem channel_registry {orders : Orders} {s : Option ChannelState} {program : Instr}
    (does : Does orders [] w [program] w') (registry : program.registry = true)
    (before : w.previousChannelState = s) : w'.previousChannelState = s := by
  let inv : ClientManager → Prop := fun w => w.previousChannelState = s
  have kept : ∀ {w : ClientManager} {instr : Instr} {orders : Orders}, instr.registry = true →
      inv w → inv (instr.run orders w) := by
    intro w instr orders registry before
    have quiet : instr.polls = false := by
      cases instr <;> first | rfl | cases registry
    exact (channel_run orders w quiet).trans before
  have before : inv w := before
  exact invariant_alone kept does registry before

theorem channel_deviceEventProcessor (event : Proto.TrackingDeviceEvent) :
    (deviceEventProcessor order w event).previousChannelState = w.previousChannelState := by
  let orders : Orders := ⟨order, .stored _⟩
  have does : Does orders [] w _ _ := does_deviceEventProcessor event
  exact channel_registry does rfl rfl

theorem channel_requested :
    (requested order w request kind).previousChannelState = w.previousChannelState := by
  let orders : Orders := ⟨order, .stored _⟩
  cases kind with
  | deviceData =>
      have does : Does orders [] w _ _ := does_requestDeviceData request
      exact channel_registry does rfl rfl
  | dataFrame =>
      have does : Does orders [] w _ _ := does_requestDataFrame request
      exact channel_registry does rfl rfl

end Equipping

end ClientManager

end OmmoSdk.Client
