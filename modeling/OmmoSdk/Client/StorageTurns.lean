/-
# Client.StorageTurns — what becomes of the storages of the data managers

A storage is made and dropped in the middle of device events and requests, one manager
after the other and by several functions.  `Turns` is what all of them do to the storages:
under the keys that are gone they only drop, under the other keys they only make new ones.
A device event drops for a device that is not among the connected ones any more, and makes
for the connected ones only, so that none is dropped and made again in one step.

`Renewed` is what remains to be said of a whole step, and holds of everything that happens
to a client manager (`renewed_happen`): a storage that is there afterwards is the one that
was there before, or a new one where there was none.
-/
import OmmoSdk.Client.DataContext

namespace OmmoSdk.Client

open OmmoSdk.Theory
open OmmoSdk.Sdk
open OmmoSdk.Storage

set_option autoImplicit false

namespace ClientManager

/-! ## What becomes of the storages -/

/-- The storage that a data manager has under a key. -/
def storageAt (w : ClientManager) (m : ManagerId) (key : UInt64) : Option DeviceDataStorage :=
  (w.dataManagers[m]?).bind fun manager => manager.deviceDataMap.lookup key

/-- A storage stays, or is made where there was none. -/
def Grows (before after : Option DeviceDataStorage) : Prop :=
  after = before ∨ before = none ∧ ∃ device, after = some (DeviceDataStorage.init device 500)

/-- A storage stays, or is dropped. -/
def Shrinks (before after : Option DeviceDataStorage) : Prop := after = before ∨ after = none

/-- The storages under the keys that are `gone` are dropped if anything, and under the other keys
made if anything. -/
structure Turns (gone : UInt64 → Prop) (w w' : ClientManager) : Prop where
  connected : w'.connectedDevices = w.connectedDevices
  grows : ∀ m key, ¬ gone key → Grows (w.storageAt m key) (w'.storageAt m key)
  shrinks : ∀ m key, gone key → Shrinks (w.storageAt m key) (w'.storageAt m key)

theorem Grows.trans {first second third : Option DeviceDataStorage} (before : Grows first second)
    (after : Grows second third) : Grows first third := by
  rcases after with rfl | ⟨rfl, made⟩
  · exact before
  · rcases before with same | ⟨missing, device, made'⟩
    · exact .inr ⟨same.symm, made⟩
    · cases made'

theorem Shrinks.trans {first second third : Option DeviceDataStorage} (before : Shrinks first second)
    (after : Shrinks second third) : Shrinks first third := by
  rcases after with rfl | dropped
  · exact before
  · exact .inr dropped

section Turning

variable {gone : UInt64 → Prop} {w w' w'' : ClientManager} {m : ManagerId} {device : DeviceDescriptor}
  {deviceConnected : Bool} {order : IterationOrder DeviceDescriptor}

theorem Turns.refl (gone : UInt64 → Prop) (w : ClientManager) : Turns gone w w :=
  ⟨rfl, fun _ _ _ => .inl rfl, fun _ _ _ => .inl rfl⟩

theorem Turns.trans (first : Turns gone w w') (second : Turns gone w' w'') : Turns gone w w'' where
  connected := second.connected.trans first.connected
  grows m key stays := (first.grows m key stays).trans (second.grows m key stays)
  shrinks m key went := (first.shrinks m key went).trans (second.shrinks m key went)

/-- A step that leaves every storage. -/
theorem Turns.same (connected : w'.connectedDevices = w.connectedDevices)
    (storages : ∀ m key, w'.storageAt m key = w.storageAt m key) : Turns gone w w' :=
  ⟨connected, fun m key _ => .inl (storages m key), fun m key _ => .inl (storages m key)⟩

theorem Turns.foldl {α : Type} {f : ClientManager → α → ClientManager} (items : List α) :
    ∀ {w : ClientManager}, (∀ w' item, Turns gone w w' → item ∈ items → Turns gone w' (f w' item)) →
      Turns gone w (items.foldl f w) := by
  induction items with
  | nil => exact fun _ => .refl gone _
  | cons item rest ih =>
      intro w each
      have first := each w item (.refl gone w) List.mem_cons_self
      refine first.trans (ih fun w' other turned member => ?_)
      exact each w' other (first.trans turned) (List.mem_cons_of_mem _ member)

theorem storageAt_onManager (f : DataManager → DataManager) (m' : ManagerId) (key : UInt64) :
    (w.onManager m f).storageAt m' key = (w.dataManagers[m']?).bind fun manager =>
      (if m = m' then f manager else manager).deviceDataMap.lookup key := by
  simp only [storageAt, onManager, List.getElem?_modify]
  cases w.dataManagers[m']? <;> rfl

/-- A section that is not about the storages. -/
theorem Turns.onManager {f : DataManager → DataManager}
    (storages : ∀ manager, (f manager).deviceDataMap = manager.deviceDataMap) :
    Turns gone w (w.onManager m f) := by
  refine .same rfl fun m' key => ?_
  rw [storageAt_onManager, storageAt]
  cases w.dataManagers[m']? with
  | none => rfl
  | some manager =>
      show (if m = m' then f manager else manager).deviceDataMap.lookup key = _
      split
      · rw [storages]
        rfl
      · rfl

theorem storageAt_kept (kept : RequestsKept w w') (m : ManagerId) (key : UInt64) :
    w'.storageAt m key = w.storageAt m key := by
  unfold storageAt
  cases held : w'.dataManagers[m]? with
  | none =>
      have outside := List.getElem?_eq_none_iff.mp held
      rw [List.getElem?_eq_none (by rw [← kept.count]; exact outside)]
  | some manager' =>
      obtain ⟨manager, before, -, same⟩ := kept.managers m manager' held
      rw [before, Option.bind_some, Option.bind_some, same]

theorem Turns.kept (kept : RequestsKept w w') : Turns gone w w' :=
  .same kept.connected (storageAt_kept kept)

/-- None of the connected devices is gone. -/
def AllStay (gone : UInt64 → Prop) (connected : DeviceMap DeviceDescriptor) : Prop :=
  ∀ key device, connected.lookup key = some device → ¬ gone device.hash

theorem AllStay.visit {connected : DeviceMap DeviceDescriptor} (stay : AllStay gone connected)
    (order : IterationOrder DeviceDescriptor) : ∀ item ∈ order.visit connected, ¬ gone item.2.hash :=
  fun item member => stay item.1 item.2 ((mem_visit order).mp member)

end Turning

/-! ## Whatever happens to the client manager -/

/-- A storage that is there after a step was there before or is a new one in a place that was
empty, of a device or of the base stations. -/
structure Renewed (w w' : ClientManager) : Prop where
  keyed : Keyed w.connectedDevices → Keyed w'.connectedDevices
  devices : ∀ m key storage', w'.storageAt m key = some storage' →
    w.storageAt m key = some storage' ∨
      w.storageAt m key = none ∧ ∃ device, storage' = DeviceDataStorage.init device 500
  stations : ∀ (s : StorageId) (storage' : BaseStationDataStorage),
    w'.baseStationStorages[s]? = some storage' →
    (∃ storage, w.baseStationStorages[s]? = some storage ∧ storage'.buffers = storage.buffers) ∨
      w.baseStationStorages[s]? = none ∧ storage'.buffers = PacketBuffers.init 500

/-- The packets of the base stations stay, whatever becomes of their streams. -/
def StationsKept (w w' : ClientManager) : Prop :=
  ∀ (s : StorageId) (storage' : BaseStationDataStorage), w'.baseStationStorages[s]? = some storage' →
    ∃ storage, w.baseStationStorages[s]? = some storage ∧ storage'.buffers = storage.buffers

section Renewing

variable {gone : UInt64 → Prop} {w w' w'' : ClientManager} {m : ManagerId}

theorem StationsKept.of_eq (stations : w'.baseStationStorages = w.baseStationStorages) :
    StationsKept w w' :=
  fun _ storage found => ⟨storage, stations ▸ found, rfl⟩

theorem StationsKept.trans (first : StationsKept w w') (second : StationsKept w' w'') :
    StationsKept w w'' := by
  intro s storage'' found
  obtain ⟨storage', there, same⟩ := second s storage'' found
  obtain ⟨storage, before, same'⟩ := first s storage' there
  exact ⟨storage, before, same.trans same'⟩

theorem StationsKept.foldl {α : Type} {f : ClientManager → α → ClientManager}
    (each : ∀ w item, StationsKept w (f w item)) (items : List α) :
    StationsKept w (items.foldl f w) :=
  List.foldlRecOn items f (.of_eq rfl) fun w' kept item _ => kept.trans (each w' item)

theorem Renewed.refl (w : ClientManager) : Renewed w w :=
  ⟨id, fun _ _ _ found => .inl found, fun _ storage found => .inl ⟨storage, found, rfl⟩⟩

theorem Turns.renewed (turns : Turns gone w w')
    (stations : w'.baseStationStorages = w.baseStationStorages) : Renewed w w' := by
  refine ⟨fun keyed => by rwa [turns.connected], fun m key storage' found => ?_,
    fun s storage' found => .inl ⟨storage', stations ▸ found, rfl⟩⟩
  by_cases went : gone key
  · rcases turns.shrinks m key went with same | dropped
    · exact .inl (same ▸ found)
    · rw [dropped] at found
      cases found
  · rcases turns.grows m key went with same | ⟨missing, device, made⟩
    · exact .inl (same ▸ found)
    · rw [made] at found
      exact .inr ⟨missing, device, (Option.some.inj found).symm⟩

/-- A step that leaves the requests, and the packets of the base stations. -/
theorem Renewed.kept (kept : RequestsKept w w') (stations : StationsKept w w') : Renewed w w' :=
  ⟨fun keyed => by rwa [kept.connected], fun m key _ found => .inl (storageAt_kept kept m key ▸ found),
    fun s storage' found => .inl (stations s storage' found)⟩

theorem Renewed.same (kept : RequestsKept w w')
    (stations : w'.baseStationStorages = w.baseStationStorages) : Renewed w w' :=
  .kept kept (.of_eq stations)

end Renewing

end ClientManager

end OmmoSdk.Client
