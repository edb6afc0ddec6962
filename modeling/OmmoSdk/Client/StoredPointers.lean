/-
# Client.StoredPointers — the stored pointers and the ends of the calls

A call can fail as soon as it is opened.  Its destructor then looks for the pointer to
it, and if the opening thread has not stored it yet there is nothing to clear: the
pointer that is stored afterwards is to a deleted object.  The other way to a stale
pointer is a clean-up that hangs before it comes to the pointer.

`EndsStored` excludes the two, on the one instruction that deletes a call.  Without it
every stored pointer, and every pointer a thread is about to store, is to a call that was
opened for its slot (`Owned`); under it the call is also not deleted (`Fresh`).
-/
import OmmoSdk.Client.Follows
import OmmoSdk.Client.Registry

namespace OmmoSdk.Client

open OmmoSdk.Theory
open OmmoSdk.Sdk
open OmmoSdk.Storage

set_option autoImplicit false

/-- **A call does not end between its opening and its storing**, and if it is stored as the
stream of a device, its clean-up finds it.  The event stream has no clean-up. -/
def Instr.EndsStored (w : ClientManager) (pending : Set Instr) (instr : Instr) (orders : Orders) :
    Prop :=
  match instr with
  | .deleteCallData callData =>
      (∀ other ∈ pending, ∀ slot, slot ≠ .deviceEvents → other.stores ≠ some (slot, callData)) ∧
        ∀ (m : ManagerId) (manager : DataManager), w.dataManagers[m]? = some manager →
          (∃ key, manager.deviceDataStreams.lookup key = some callData) →
            manager.FoundFirst orders.streams callData
  | _ => True

/-- It is the first of the two steps of an opening. -/
def Instr.opensCall : Instr → Bool
  | openTrackingDeviceDataStream _ _ | openDataFrameStream _ _ => true
  | openBaseStationDataStream _ | openWirelessManagementStream _ => true
  | openTrackingDevicesEventStream => true
  | _ => false

/-- The pointers that are stored, and those that are going to be, are all good. -/
structure Pointing (good : Handles Slot → Slot → CallId → Prop) (w : ClientManager)
    (pending : List Instr) : Prop where
  stored : ∀ slot c, w.stored slot = some c → good w.handles slot c
  stores : ∀ instr ∈ pending, ∀ slot c, instr.stores = some (slot, c) → good w.handles slot c

theorem Pointing.perm {good : Handles Slot → Slot → CallId → Prop} {w : ClientManager}
    {pending pending' : List Instr} (perm : pending.Perm pending')
    (pointing : Pointing good w pending) : Pointing good w pending' :=
  ⟨pointing.stored, fun instr member => pointing.stores instr (perm.mem_iff.mpr member)⟩

/-- Each pointer is to a call that was opened for its slot. -/
abbrev Owned : ClientManager → List Instr → Prop := Pointing Handles.OpenedFor

/-- Each pointer but that of the monitor is to a call that is not deleted. -/
abbrev Fresh : ClientManager → List Instr → Prop :=
  Pointing fun handles slot c => slot ≠ .deviceEvents → handles.Undeleted slot c

/-! ## Instructions that delete nothing -/

section Growth

variable (orders : Orders) {w : ClientManager} {m : ManagerId} {instr : Instr} {slot : Slot}
  {c : CallId}

theorem grows_of_handles {w' : ClientManager} (new : Option (Slot × CallId))
    (same : w'.handles = w.handles) : w.handles.Grows new w'.handles := by
  rw [same]
  exact .refl new _

theorem grows_cancelAllDataStreams (new : Option (Slot × CallId)) :
    w.handles.Grows new (w.cancelAllDataStreams m).handles := by
  have each : ∀ (entries : List (Σ _ : UInt64, CallId)) (calls : List CallData),
      (callHandles calls w.stored).Grows new (callHandles
        (entries.foldl (fun calls entry => cancelCall calls entry.2) calls) w.stored) := by
    intro entries
    induction entries with
    | nil => exact fun calls => .refl new _
    | cons entry rest ih =>
        intro calls
        have first := Handles.grows_cancelResource new (callHandles calls w.stored) entry.2
        rw [← callHandles_cancelCall] at first
        have later := ih (cancelCall calls entry.2)
        exact first.trans later
  unfold ClientManager.cancelAllDataStreams ClientManager.onCalls
  cases w.dataManagers[m]? with
  | none => exact .refl new _
  | some manager => exact each manager.deviceDataStreams.entries w.calls

theorem grows_clearDataStreams (new : Option (Slot × CallId)) :
    w.handles.Grows new (w.clearDataStreams m).handles := by
  refine Handles.grows_of_stored rfl fun k i pointer => .inl ?_
  rw [ClientManager.handles_stored, ClientManager.clearDataStreams,
    ClientManager.stored_onManager] at pointer
  cases k with
  | device m' key =>
      by_cases here : m = m'
      · subst here
        cases found : w.dataManagers[m]? <;> simp [found, DataManager.clearDataStreams] at pointer
      · simpa [here, ClientManager.stored] using pointer
  | frame m' =>
      by_cases here : m = m'
      · simpa [here, ClientManager.stored, DataManager.clearDataStreams] using pointer
      · simpa [here, ClientManager.stored] using pointer
  | baseStation s => exact pointer
  | wireless i => exact pointer
  | deviceEvents => exact pointer

theorem grows_addDataStream {deviceId : DeviceID} :
    w.handles.Grows (some (.device m deviceId.hash, c)) (w.addDataStream m deviceId c).handles := by
  cases held : w.dataManagers[m]? with
  | none =>
      rw [ClientManager.addDataStream, ClientManager.onManager_absent w m held]
      exact .refl _ _
  | some manager =>
      by_cases empty : w.stored (.device m deviceId.hash) = none
      · rw [w.handles_addDataStream m deviceId c held empty]
        exact Handles.grows_store _ _ _
      · exact grows_of_handles _ (w.handles_addDataStream_refused m deviceId c empty)

theorem grows_setDataFrameStream :
    w.handles.Grows (some (.frame m, c)) (w.setDataFrameStream m c).handles := by
  cases held : w.dataManagers[m]? with
  | none =>
      rw [ClientManager.setDataFrameStream, ClientManager.onManager_absent w m held]
      exact .refl _ _
  | some manager =>
      rw [w.handles_setDataFrameStream m c held]
      exact Handles.grows_store _ _ _

/-- **What an instruction adds.**  No instruction but the deletion of a call deletes one, and
the only new pointer is the one that the instruction stores. -/
theorem grows_run (notDeletion : ∀ c, instr ≠ .deleteCallData c) :
    w.handles.Grows instr.stores (instr.run orders w).handles := by
  cases instr with
  | deleteCallData c => exact absurd rfl (notDeletion c)
  | emplaceManager request made => exact grows_of_handles _ (w.handles_emplaceManager request made)
  | cancelAllDataStreams m => exact grows_cancelAllDataStreams _
  | clearDataStreams m => exact grows_clearDataStreams _
  | addDeviceStorage m device => exact grows_of_handles _ (w.handles_addDeviceStorage m device)
  | removeDeviceStorage m deviceId =>
      exact grows_of_handles _ (w.handles_removeDeviceStorage m deviceId)
  | openTrackingDeviceDataStream m device =>
      simp only [Instr.run]
      split
      · exact .refl _ _
      · rw [ClientManager.handles_openTrackingDeviceDataStream]
        exact Handles.grows_openFor _ _ _
  | addDataStream m deviceId c => exact grows_addDataStream
  | cancelDataStream m deviceId =>
      simp only [Instr.run, ClientManager.handles_cancelDataStream]
      exact Handles.grows_cancel _ _ _
  | removeDataStream m deviceId =>
      simp only [Instr.run, ClientManager.handles_removeDataStream]
      exact Handles.grows_remove _ _ _
  | openDataFrameStream m devices =>
      simp only [Instr.run]
      split
      · exact .refl _ _
      · rw [ClientManager.handles_openDataFrameStream]
        exact Handles.grows_openFor _ _ _
  | setDataFrameStream m c => exact grows_setDataFrameStream
  | cancelDataFrameStream m reopen =>
      simp only [Instr.run, ClientManager.handles_cancelDataFrameStream]
      exact Handles.grows_cancel _ _ _
  | removeDataFrameStream m reopen =>
      simp only [Instr.run, ClientManager.handles_removeDataFrameStream]
      exact Handles.grows_remove _ _ _
  | recordDevice device deviceConnected =>
      obtain ⟨connected, recorded⟩ := ClientManager.recordDevice_frame w device deviceConnected
      simp only [Instr.run, recorded]
      exact .refl _ _
  | requestBaseStationData => exact grows_of_handles _ w.handles_makeBaseStationDataStorage
  | openBaseStationDataStream s =>
      simp only [Instr.run, ClientManager.handles_openBaseStationDataStream]
      exact Handles.grows_openFor _ _ _
  | setDataStream s c =>
      exact Handles.grows_of_stored rfl fun k i pointer => w.stored_setDataStream c s pointer
  | createWirelessManager => exact grows_of_handles _ w.handles_makeWirelessManager
  | openWirelessManagementStream i =>
      simp only [Instr.run, ClientManager.handles_openWirelessManagementStream]
      exact Handles.grows_openFor _ _ _
  | setCallData i c =>
      refine Handles.grows_of_stored rfl fun k j pointer =>
        (w.stored_setCallData i pointer).imp_right ?_
      rintro ⟨rfl, same⟩
      cases same
      rfl
  | openTrackingDevicesEventStream =>
      simp only [Instr.run, ClientManager.handles_openTrackingDevicesEventStream]
      exact Handles.grows_openFor _ _ _
  | storeEventStream c =>
      refine Handles.grows_of_stored rfl ?_
      intro k i pointer
      cases k with
      | deviceEvents => exact .inr (by cases pointer; rfl)
      | _ => exact .inl pointer
  | cancelEventStream c =>
      have cancelled := Handles.grows_cancelResource (Instr.cancelEventStream c).stores
        (callHandles w.calls w.stored) c
      rw [← callHandles_cancelCall] at cancelled
      exact cancelled
  | clearEventStream =>
      refine Handles.grows_of_stored rfl fun k i pointer => .inl ?_
      cases k with
      | deviceEvents => cases pointer
      | _ => exact pointer
  | _ => exact .refl _ _

/-- Only the opening of a call is followed by the storing of a pointer. -/
theorem stores_of_next (closed : instr.opensCall = false) :
    ∀ i ∈ instr.next orders w, i.stores = none := by
  intro i member
  cases Instr.follows_of_next member <;> first | rfl | cases closed

/-- The call that was opened last. -/
theorem undeleted_opened {w' : ClientManager} (opened : w'.handles = w.handles.openFor slot) :
    w'.handles.Undeleted slot w.calls.length := by
  rw [opened, ← w.handles_resources_length]
  exact Handles.undeleted_opened _ _

/-- A pointer that is going to be stored is to the call that was just opened for its slot. -/
theorem undeleted_of_next :
    ∀ i ∈ instr.next orders w, i.stores = some (slot, c) →
      (instr.run orders w).handles.Undeleted slot c := by
  intro i member stores
  cases Instr.follows_of_next member with
  | storedStream made =>
      cases stores
      obtain ⟨manager, found⟩ := Option.isSome_iff_exists.mp made
      apply undeleted_opened
      simp only [Instr.run, found]
      exact ClientManager.handles_openTrackingDeviceDataStream _ _ _
  | storedFrame made =>
      cases stores
      obtain ⟨manager, found⟩ := Option.isSome_iff_exists.mp made
      apply undeleted_opened
      simp only [Instr.run, found]
      exact ClientManager.handles_openDataFrameStream _ _ _
  | storedBaseStation s =>
      cases stores
      exact undeleted_opened (w.handles_openBaseStationDataStream s)
  | storedWireless i =>
      cases stores
      exact undeleted_opened (w.handles_openWirelessManagementStream i)
  | storedEvents =>
      cases stores
      exact undeleted_opened w.handles_openTrackingDevicesEventStream
  | _ => cases stores

end Growth

/-! ## The deletion of a call -/

section Deletion

variable {order : IterationOrder CallId} {orders : Orders} {w w' : ClientManager} {stream : Stream}
  {slot : Slot} {c c' : CallId}

/-- The pointers of a manager that is replaced, seen slot by slot. -/
theorem stored_set {manager new : DataManager} {m : ManagerId}
    (held : w.dataManagers[m]? = some manager) (slot : Slot) :
    ({ w with dataManagers := w.dataManagers.set m new } : ClientManager).stored slot =
      match slot with
      | .device m' key => if m = m' then new.deviceDataStreams.lookup key else w.stored (.device m' key)
      | .frame m' => if m = m' then new.dataframeStream else w.stored (.frame m')
      | slot => w.stored slot := by
  rw [List.set_eq_modify]
  refine (w.stored_onManager m (fun _ => new) slot).trans ?_
  cases slot with
  | device m' key => by_cases here : m = m' <;> simp_all [ClientManager.stored]
  | frame m' => by_cases here : m = m' <;> simp_all [ClientManager.stored]
  | baseStation s => rfl
  | wireless i => rfl
  | deviceEvents => rfl

/-- The clean-up of a manager stores nothing, and leaves a pointer to the ended call only if the
manager had two of them. -/
theorem stored_clearManager {manager : DataManager} {result : Bool × DataManager} {m : ManagerId}
    (held : w.dataManagers[m]? = some manager)
    (clears : manager.clearAssociation order 1 c = some result)
    (pointer : ({ w with dataManagers := w.dataManagers.set m result.2 } :
      ClientManager).stored slot = some c') :
    w.stored slot = some c' ∧ (c' = c → slot.manager = some m →
      ∃ other, other ≠ slot ∧ other ≠ .deviceEvents ∧ w.stored other = some c) := by
  have only := DataManager.removesOnly_of_clears clears
  rw [stored_set held] at pointer
  cases slot with
  | device m' key =>
      by_cases here : m = m'
      · subst here
        obtain ⟨before, twice⟩ := only.of_lookup (by simpa using pointer)
        refine ⟨by simp [ClientManager.stored, held, before], ?_⟩
        intro same _
        rcases twice same with frame | ⟨key', other, again⟩
        · exact ⟨.frame m, by simp, by simp, by simp [ClientManager.stored, held, frame]⟩
        · exact ⟨.device m key', by simpa using other, by simp,
            by simp [ClientManager.stored, held, again]⟩
      · exact ⟨by simpa [here] using pointer, fun _ at_m => absurd (Option.some.inj at_m).symm here⟩
  | frame m' =>
      by_cases here : m = m'
      · subst here
        obtain ⟨before, different⟩ := only.of_frame (by simpa using pointer)
        exact ⟨by simp [ClientManager.stored, held, before], fun same => absurd same different⟩
      · exact ⟨by simpa [here] using pointer, fun _ at_m => absurd (Option.some.inj at_m).symm here⟩
  | baseStation s => exact ⟨pointer, fun _ at_m => by cases at_m⟩
  | wireless i => exact ⟨pointer, fun _ at_m => by cases at_m⟩
  | deviceEvents => exact ⟨pointer, fun _ at_m => by cases at_m⟩

/-- The clean-up of a storage removes the pointer if it is to the ended call. -/
theorem stored_clearStorage {s : StorageId}
    (pointer : ({ w with
      baseStationStorages := w.baseStationStorages.modify s fun storage =>
        (storage.clearAssociation c).2 } : ClientManager).stored slot = some c') :
    w.stored slot = some c' ∧ (c' = c → slot ≠ .baseStation s) := by
  cases slot with
  | baseStation s' =>
      simp only [ClientManager.stored, List.getElem?_modify] at pointer ⊢
      cases found : w.baseStationStorages[s']? with
      | none => simp [found] at pointer
      | some storage =>
          by_cases here : s = s'
          · by_cases held : storage.baseStationStream = some c
            · simp [found, here, BaseStationDataStorage.clearAssociation, held] at pointer
            · simp [found, here, BaseStationDataStorage.clearAssociation, held] at pointer
              exact ⟨by simpa using pointer, fun same => absurd (same ▸ pointer) held⟩
          · exact ⟨by simpa [found, here] using pointer, fun _ same => here (Slot.baseStation.inj same).symm⟩
  | _ => exact ⟨pointer, fun _ same => by cases same⟩

/-- The clean-up of a wireless manager removes its pointer, whichever call it is to. -/
theorem stored_clearWireless {i : WirelessId}
    (pointer : (w.setCallData i none).stored slot = some c') :
    w.stored slot = some c' ∧ slot ≠ .wireless i := by
  constructor
  · rcases w.stored_setCallData i pointer with before | ⟨-, new⟩
    · exact before
    · cases new
  · rintro rfl
    simp only [ClientManager.stored, ClientManager.setCallData, List.getElem?_modify] at pointer
    cases found : w.wirelessManagers[i]? <;> simp [found] at pointer

/-- **The pointers after a clean-up.**  None is new, and one to the ended call remains only
where the call was not opened for, or if it was stored twice. -/
theorem stored_clearAssociation (clears : w.clearAssociation order c stream = some w')
    (pointer : w'.stored slot = some c') :
    w.stored slot = some c' ∧ (c' = c → stream.slot = slot → slot ≠ .deviceEvents →
      ∃ other, other ≠ slot ∧ other ≠ .deviceEvents ∧ w.stored other = some c) := by
  cases stream with
  | deviceData m request | dataFrame m request =>
      cases held : w.dataManagers[m]? with
      | none =>
          simp only [ClientManager.clearAssociation, held] at clears
          cases clears
          refine ⟨pointer, ?_⟩
          intro _ same _
          subst same
          simp [Stream.slot, ClientManager.stored, held] at pointer
      | some manager =>
          simp only [ClientManager.clearAssociation, held] at clears
          obtain ⟨result, run, rfl⟩ := Option.map_eq_some_iff.mp clears
          obtain ⟨before, twice⟩ := stored_clearManager held run pointer
          exact ⟨before, fun ended same _ => twice ended (by rw [← same]; rfl)⟩
  | baseStation s =>
      cases clears
      obtain ⟨before, elsewhere⟩ := stored_clearStorage pointer
      exact ⟨before, fun ended same _ => absurd same.symm (elsewhere ended)⟩
  | wireless i =>
      cases clears
      obtain ⟨before, elsewhere⟩ := stored_clearWireless pointer
      exact ⟨before, fun _ same _ => absurd same.symm elsewhere⟩
  | deviceEvents =>
      cases clears
      exact ⟨pointer, fun _ same other => absurd same.symm other⟩

theorem calls_clearAssociation (clears : w.clearAssociation order c stream = some w') :
    w'.calls = w.calls := by
  cases stream with
  | deviceData m request | dataFrame m request =>
      simp only [ClientManager.clearAssociation] at clears
      split at clears
      · cases clears
        rfl
      · obtain ⟨result, -, rfl⟩ := Option.map_eq_some_iff.mp clears
        rfl
  | baseStation s => cases clears; rfl
  | wireless i => cases clears; rfl
  | deviceEvents => cases clears; rfl

/-- Only the clean-up of a manager hangs. -/
theorem not_foundFirst_of_hangs (hangs : w.clearAssociation order c stream = none) :
    ∃ m manager, stream.slot.manager = some m ∧ w.dataManagers[m]? = some manager ∧
      ¬ manager.FoundFirst order c := by
  cases stream with
  | deviceData m request | dataFrame m request =>
      simp only [ClientManager.clearAssociation] at hangs
      split at hangs
      · cases hangs
      · rename_i manager held
        refine ⟨m, manager, rfl, held, ?_⟩
        intro found
        obtain ⟨result, run, -⟩ := DataManager.clearAssociation_of_foundFirst found
        rw [run] at hangs
        cases hangs
  | baseStation s => cases hangs
  | wireless i => cases hangs
  | deviceEvents => cases hangs

/-- Where a call that ends is stored, its clean-up finds it. -/
theorem foundFirst_of_endsStored {pending : Set Instr} {m : ManagerId} {manager : DataManager}
    (ends : (Instr.deleteCallData c).EndsStored w pending orders) (pointer : w.stored slot = some c)
    (at_m : slot.manager = some m) (held : w.dataManagers[m]? = some manager) :
    manager.FoundFirst orders.streams c := by
  cases slot with
  | device m' key =>
      cases at_m
      simp only [ClientManager.stored, held, Option.bind_some] at pointer
      exact ends.2 m manager held ⟨key, pointer⟩
  | frame m' =>
      cases at_m
      simp only [ClientManager.stored, held, Option.bind_some] at pointer
      exact .inl pointer
  | _ => cases at_m

/-- The end of a call stores nothing. -/
theorem stored_of_deleteCallData
    (pointer : (ClientManager.deleteCallData order w c).stored slot = some c') :
    w.stored slot = some c' := by
  unfold ClientManager.deleteCallData at pointer
  cases found : w.calls[c]? with
  | none =>
      rw [found] at pointer
      exact pointer
  | some call =>
      simp only [found] at pointer
      cases clears : ClientManager.clearAssociation order { w with calls := deleteCall w.calls c } c
          call.stream with
      | none =>
          rw [clears] at pointer
          exact pointer
      | some w' =>
          rw [clears] at pointer
          exact (stored_clearAssociation clears pointer).1

/-- **The end of a call.**  No pointer to it is left. -/
theorem stored_deleteCallData {pending : List Instr} {call : CallData} (fresh : Fresh w pending)
    (ends : (Instr.deleteCallData c).EndsStored w { i | i ∈ pending } orders)
    (found : w.calls[c]? = some call) (data : slot ≠ .deviceEvents) :
    (ClientManager.deleteCallData orders.streams w c).stored slot ≠ some c := by
  intro pointer
  -- A slot with a pointer to the call is the one it was opened for.
  have own : ∀ slot, slot ≠ .deviceEvents → w.stored slot = some c → call.stream.slot = slot := by
    intro slot data pointer
    obtain ⟨r, resource, here, -⟩ := fresh.stored slot c pointer data
    simp only [ClientManager.handles, callHandles, List.getElem?_map, found] at resource
    cases resource
    exact here
  have before := stored_of_deleteCallData pointer
  have here := own slot data before
  simp only [ClientManager.deleteCallData, found] at pointer
  cases clears : ClientManager.clearAssociation orders.streams
      { w with calls := deleteCall w.calls c } c call.stream with
  | some w' =>
      rw [clears] at pointer
      obtain ⟨other, different, data', again⟩ :=
        (stored_clearAssociation clears pointer).2 rfl here data
      exact different ((own other data' again).symm.trans here)
  | none =>
      obtain ⟨m, manager, at_m, held, hangs⟩ := not_foundFirst_of_hangs clears
      rw [here] at at_m
      exact hangs (foundFirst_of_endsStored ends before at_m held)

theorem calls_deleteCallData (order : IterationOrder CallId) (w : ClientManager) (c : CallId) :
    (ClientManager.deleteCallData order w c).calls = deleteCall w.calls c := by
  unfold ClientManager.deleteCallData
  cases found : w.calls[c]? with
  | none => rw [deleteCall, List.modify_eq_self (List.getElem?_eq_none_iff.mp found)]
  | some call =>
      cases clears : ClientManager.clearAssociation order
          { w with calls := deleteCall w.calls c } c call.stream with
      | none => simp [clears]
      | some w' => simp [clears, calls_clearAssociation clears]

theorem undeleted_deleteCallData (old : w.handles.Undeleted slot c') (other : c' ≠ c) :
    (ClientManager.deleteCallData order w c).handles.Undeleted slot c' := by
  have kept := Handles.undeleted_delete old other
  rw [ClientManager.handles, ← callHandles_deleteCall, ← calls_deleteCallData order] at kept
  exact kept

theorem openedFor_deleteCallData (old : w.handles.OpenedFor slot c') :
    (ClientManager.deleteCallData order w c).handles.OpenedFor slot c' := by
  have kept := Handles.openedFor_delete old (i := c)
  rw [ClientManager.handles, ← callHandles_deleteCall, ← calls_deleteCallData order] at kept
  exact kept

end Deletion

/-! ## One instruction -/

section Steps

variable {good : Handles Slot → Slot → CallId → Prop} {orders : Orders} {w : ClientManager}
  {instr : Instr} {others : List Instr} {c : CallId}

/-- An instruction that deletes no call. -/
theorem Pointing.step (pointing : Pointing good w (instr :: others))
    (notDeletion : ∀ c, instr ≠ .deleteCallData c)
    (opened : ∀ s slot c, Handles.Undeleted s slot c → good s slot c)
    (grown : ∀ new s t slot c, Handles.Grows new s t → good s slot c → good t slot c) :
    Pointing good (instr.run orders w) (instr.next orders w ++ others) := by
  have grows := grows_run orders (w := w) notDeletion
  constructor
  · intro slot c pointer
    apply grown _ _ _ _ _ grows
    rcases grows.stored slot c pointer with before | new
    · exact pointing.stored slot c before
    · exact pointing.stores instr List.mem_cons_self slot c new
  · intro i member slot c stores
    rcases List.mem_append.mp member with new | old
    · exact opened _ _ _ (undeleted_of_next orders i new stores)
    · exact grown _ _ _ _ _ grows (pointing.stores i (List.mem_cons_of_mem _ old) slot c stores)

/-- The end of a call. -/
theorem Pointing.deleteCallData (pointing : Pointing good w (.deleteCallData c :: others))
    (kept : ∀ slot c', good w.handles slot c' →
      ((ClientManager.deleteCallData orders.streams w c).stored slot = some c' ∨
        ∃ i ∈ others, i.stores = some (slot, c')) →
      good (ClientManager.deleteCallData orders.streams w c).handles slot c') :
    Pointing good ((Instr.deleteCallData c).run orders w)
      ((Instr.deleteCallData c).next orders w ++ others) := by
  constructor
  · intro slot c' pointer
    exact kept slot c' (pointing.stored slot c' (stored_of_deleteCallData pointer)) (.inl pointer)
  · intro i member slot c' stores
    rcases List.mem_append.mp member with new | old
    · rw [stores_of_next orders rfl i new] at stores
      cases stores
    · exact kept slot c' (pointing.stores i (List.mem_cons_of_mem _ old) slot c' stores)
        (.inr ⟨i, old, stores⟩)

theorem owned_step (owned : Owned w (instr :: others)) :
    Owned (instr.run orders w) (instr.next orders w ++ others) := by
  by_cases deletion : ∃ c, instr = .deleteCallData c
  · obtain ⟨c, rfl⟩ := deletion
    exact owned.deleteCallData fun slot c' old _ => openedFor_deleteCallData old
  · exact owned.step (fun c same => deletion ⟨c, same⟩) (fun s slot c => Handles.Undeleted.openedFor)
      fun new s t slot c => Handles.Grows.openedFor

theorem fresh_step (fresh : Fresh w (instr :: others)) (enabled : instr.enabled w = true)
    (ends : instr.EndsStored w { i | i ∈ instr :: others } orders) :
    Fresh (instr.run orders w) (instr.next orders w ++ others) := by
  by_cases deletion : ∃ c, instr = .deleteCallData c
  · obtain ⟨c, rfl⟩ := deletion
    obtain ⟨call, found, -⟩ := (Option.any_eq_true _ _).mp enabled
    apply fresh.deleteCallData
    intro slot c' old points data
    apply undeleted_deleteCallData (old data)
    rintro rfl
    rcases points with stored | ⟨i, member, stores⟩
    · exact stored_deleteCallData fresh ends found data stored
    · exact ends.1 i (List.mem_cons_of_mem _ member) slot data stores
  · exact fresh.step (fun c same => deletion ⟨c, same⟩) (fun s slot c old _ => old)
      fun new s t slot c grows old data => grows.undeleted (old data)

end Steps

/-! ## Clients -/

section Clients

variable {queue : List Completion} {states : List ChannelState} {users : List (List UserCall)}
  {s : ClientThreads}

theorem stores_start (i : Instr) (member : i ∈ (clientThreads queue states users).programs.flatten) :
    i.stores = none := by
  simp only [clientThreads, List.flatten_cons, List.mem_append, List.mem_map, List.mem_singleton,
    List.mem_flatten] at member
  rcases member with ⟨completion, -, rfl⟩ | rfl | ⟨program, ⟨calls, -, rfl⟩, inside⟩
  · cases completion <;> rfl
  · rfl
  · obtain ⟨call, -, rfl⟩ := List.mem_map.mp inside
    cases call <;> rfl

/-- At the start there is no pointer. -/
theorem pointing_start {good : Handles Slot → Slot → CallId → Prop} :
    Pointing good ClientManager.init (clientThreads queue states users).programs.flatten := by
  constructor
  · intro slot c pointer
    cases slot <;> cases pointer
  · intro i member slot c stores
    rw [stores_start i member] at stores
    cases stores

/-- **A stored pointer is to a call that was opened for its slot**, in every state of every run. -/
theorem owned_of_reached {condition : ClientManager → Set Instr → Instr → Orders → Prop}
    (reached : Reached ClientThreads.step (Threads.Under condition) (clientThreads queue states users) s) :
    Owned s.shared s.programs.flatten :=
  Threads.invariant_of_kept clientSemantics Owned (fun _ _ _ perm owned => owned.perm perm)
    pointing_start (fun _ _ _ _ owned _ _ => owned_step owned) reached

/-- **A stored pointer is to a call that is not deleted**: in every state of every run of a
client with any users, any states of the channel and any completions, if no call ends
between its opening and its storing and each clean-up finds the call it is for. -/
theorem stored_undeleted
    (reached : Reached ClientThreads.step
      (Threads.Under fun w pending instr orders => instr.EndsStored w pending orders)
      (clientThreads queue states users) s)
    (slot : Slot) (data : slot ≠ .deviceEvents) (c : CallId) (pointer : s.shared.stored slot = some c) :
    ∃ call, s.shared.calls[c]? = some call ∧ call.deleted = false := by
  have fresh : Fresh s.shared s.programs.flatten :=
    Threads.invariant_of_kept clientSemantics Fresh (fun _ _ _ perm fresh => fresh.perm perm)
      pointing_start (fun _ _ _ _ fresh enabled ends => fresh_step fresh enabled ends) reached
  obtain ⟨r, resource, -, kept⟩ := fresh.stored slot c pointer data
  obtain ⟨call, found, rfl⟩ := Option.map_eq_some_iff.mp ((List.getElem?_map ..).symm.trans resource)
  exact ⟨call, found, kept⟩

/-- If the next instruction deletes a call, no thread is about to store it and no device has
it as its stream. -/
def endsApart (s : ClientThreads) (label : Nat × Orders) : Bool :=
  match s.programs[label.1]? with
  | some (.deleteCallData c :: _) =>
      (s.programs.flatten.all fun i => i.stores.map Prod.snd ≠ some c) &&
        s.shared.dataManagers.all fun manager => manager.deviceDataStreams.entries.all (·.2 ≠ c)
  | _ => true

theorem under_of_endsApart (s : ClientThreads) (label : Nat × Orders) (holds : endsApart s label = true) :
    Threads.Under (fun w pending instr orders => instr.EndsStored w pending orders) s label := by
  intro instr rest current
  rw [endsApart, current] at holds
  cases instr with
  | deleteCallData c =>
      simp only [Bool.and_eq_true, List.all_eq_true, decide_eq_true_eq] at holds
      refine ⟨fun other member slot _ stores => holds.1 other member (by rw [stores]; rfl), ?_⟩
      rintro m manager held ⟨key, stored⟩
      exact absurd rfl
        (holds.2 manager (List.mem_of_getElem? held) ⟨key, c⟩ (AList.mem_lookup_iff.mp stored))
  | _ => trivial

/-- Base station data is requested twice, and then the first stream ends. -/
theorem stored_undeleted_second :
    ∃ s, Reached ClientThreads.step
        (Threads.Under fun w pending instr orders => instr.EndsStored w pending orders)
        (clientThreads [.failed 0] [] [[.requestBaseStationData, .requestBaseStationData]]) s ∧
      s.shared.stored (.baseStation 0) = none ∧ s.shared.stored (.baseStation 1) = some 1 ∧
        ∃ call, s.shared.calls[1]? = some call ∧ call.deleted = false := by
  have executed : (script (guarded endsApart ClientThreads.step)
      ((List.replicate 12 2 ++ [0]).map fun i => (i, Orders.stored))
      (clientThreads [.failed 0] [] [[.requestBaseStationData, .requestBaseStationData]])).any
      (fun s => s.shared.stored (.baseStation 0) = none && s.shared.stored (.baseStation 1) = some 1) =
        true := by decide
  obtain ⟨s, executed, last⟩ := (Option.any_eq_true _ _).mp executed
  rw [Bool.and_eq_true, decide_eq_true_eq, decide_eq_true_eq] at last
  have reached := Reached.of_script endsApart under_of_endsApart _ executed
  exact ⟨s, reached, last.1, last.2, stored_undeleted reached (.baseStation 1) (by decide) 1 last.2⟩

/-- The server goes away after the stream of base station data is opened and before it is
stored. -/
theorem stored_after_deletion :
    ¬ ∀ queue states users s,
      Reached ClientThreads.step (fun _ _ => True) (clientThreads queue states users) s →
      (∀ i ∈ s.pending, i.stores = none) → ∀ slot, slot ≠ .deviceEvents → ∀ c,
        s.shared.stored slot = some c → ∃ call, s.shared.calls[c]? = some call ∧ call.deleted = false := by
  intro claimed
  have executed : (script ClientThreads.step
      ([2, 2, 0, 2, 2, 2, 2].map fun i => (i, Orders.stored))
      (clientThreads [.failed 0] [] [[.requestBaseStationData]])).any (fun s =>
        (s.programs.flatten.all fun i => i.stores = none) &&
          s.shared.stored (.baseStation 0) = some 0 &&
            s.shared.calls[0]?.all fun call => call.deleted) = true := by decide
  obtain ⟨s, executed, last⟩ := (Option.any_eq_true _ _).mp executed
  simp only [Bool.and_eq_true, List.all_eq_true, decide_eq_true_eq] at last
  obtain ⟨call, found, kept⟩ :=
    claimed _ _ _ s (.of_any _ executed) last.1.1 (.baseStation 0) (by decide) 0 last.1.2
  have deleted := last.2
  rw [found, Option.all_some, kept] at deleted
  cases deleted

end Clients

end OmmoSdk.Client
