/-
# Client.CallLists — what a section does to the calls

No section takes a call away, revives one, or makes one live that was not: it opens at
most one call, and `Instr.opened` tells for which slot.  So a slot gets a live call only
from the instructions that are about it, and loses one only to those that cancel
(`Instr.mayCancel`) and to the deletion of the call.
-/
import OmmoSdk.Client.StoredPointers

namespace OmmoSdk.Client

open OmmoSdk.Theory
open OmmoSdk.Sdk

set_option autoImplicit false

/-- The slot that the instruction opens a call for. -/
def Instr.opened : Instr → Option Slot
  | openTrackingDeviceDataStream m device => some (.device m device.hash)
  | openDataFrameStream m _ => some (.frame m)
  | openBaseStationDataStream s => some (.baseStation s)
  | openWirelessManagementStream i => some (.wireless i)
  | openTrackingDevicesEventStream => some .deviceEvents
  | _ => none

/-- Every call is still there, and cancelled if it was; a live one is new only for `opened`. -/
structure CallsGrow (opened : Option Slot) (calls calls' : List CallData) : Prop where
  kept : ∀ (c : CallId) (call : CallData), calls[c]? = some call →
    ∃ call', calls'[c]? = some call' ∧ (call.cancelled = true → call'.cancelled = true)
  fresh : ∀ slot c, LiveCall calls' slot c → LiveCall calls slot c ∨ opened = some slot

section Grow

variable {opened : Option Slot} {calls calls' calls'' : List CallData} {w : ClientManager} {m : ManagerId}

theorem CallsGrow.refl (opened : Option Slot) (calls : List CallData) : CallsGrow opened calls calls :=
  ⟨fun _ call found => ⟨call, found, id⟩, fun _ _ => .inl⟩

theorem CallsGrow.trans (first : CallsGrow opened calls calls') (second : CallsGrow opened calls' calls'') :
    CallsGrow opened calls calls'' := by
  constructor
  · intro c call found
    obtain ⟨call', found', kept⟩ := first.kept c call found
    obtain ⟨call'', found'', kept'⟩ := second.kept c call' found'
    exact ⟨call'', found'', fun cancelled => kept' (kept cancelled)⟩
  · intro slot c live
    rcases second.fresh slot c live with before | new
    · exact first.fresh slot c before
    · exact .inr new

theorem CallsGrow.length_le (grow : CallsGrow opened calls calls') : calls.length ≤ calls'.length := by
  by_contra longer
  obtain ⟨call', found, -⟩ := grow.kept calls'.length _ (List.getElem?_eq_getElem (by omega))
  exact absurd (List.getElem?_eq_some_iff.mp found).1 (Nat.lt_irrefl _)

/-- Flags of a call are set. -/
theorem callsGrow_modify {f : CallData → CallData} (c : CallId)
    (stream : ∀ call : CallData, (f call).stream = call.stream)
    (cancelled : ∀ call : CallData, call.cancelled = true → (f call).cancelled = true)
    (deleted : ∀ call : CallData, call.deleted = true → (f call).deleted = true) :
    CallsGrow opened calls (calls.modify c f) := by
  constructor
  · intro d call found
    refine ⟨if c = d then f call else call, by simp [List.getElem?_modify, found], ?_⟩
    split
    · exact cancelled call
    · exact id
  · rintro slot d ⟨s, found, here⟩
    refine .inl ⟨s, ?_, here⟩
    rw [List.getElem?_modify] at found
    obtain ⟨call, before, set⟩ := Option.map_eq_some_iff.mp found
    rw [before]
    by_cases same : c = d
    · rw [if_pos same] at set
      obtain ⟨stream', cancelled', deleted'⟩ := call
      have first : stream' = s := (stream _).symm.trans (congrArg CallData.stream set)
      have second : ¬ cancelled' = true := fun was => by
        have now := cancelled ⟨stream', cancelled', deleted'⟩ was
        rw [set] at now
        cases now
      have third : ¬ deleted' = true := fun was => by
        have now := deleted ⟨stream', cancelled', deleted'⟩ was
        rw [set] at now
        cases now
      rw [Bool.not_eq_true] at second third
      rw [first, second, third]
    · rw [if_neg same] at set
      exact congrArg some set

theorem callsGrow_cancel (c : CallId) : CallsGrow opened calls (cancelCall calls c) :=
  callsGrow_modify c (fun _ => rfl) (fun _ _ => rfl) fun _ deleted => deleted

theorem callsGrow_open {stream : Stream} {slot : Slot} (here : stream.slot = slot) :
    CallsGrow (some slot) calls (openCall calls stream) := by
  constructor
  · intro c call found
    refine ⟨call, ?_, id⟩
    rw [openCall, List.getElem?_append_left (List.getElem?_eq_some_iff.mp found).1]
    exact found
  · rintro slot' c ⟨s, found, own⟩
    by_cases old : c < calls.length
    · rw [openCall, List.getElem?_append_left old] at found
      exact .inl ⟨s, found, own⟩
    · rw [openCall, List.getElem?_append_right (Nat.le_of_not_lt old)] at found
      have new := (List.getElem?_eq_some_iff.mp found).2
      rw [List.getElem_singleton, CallData.mk.injEq] at new
      exact .inr (by rw [← here, new.1, own])

theorem callsGrow_onCalls {f : DataManager → List CallData → List CallData}
    (grow : ∀ manager calls, CallsGrow opened calls (f manager calls)) :
    CallsGrow opened w.calls (w.onCalls m f).calls := by
  unfold ClientManager.onCalls
  split
  · exact grow _ _
  · exact .refl _ _

theorem callsGrow_cancelAll (manager : DataManager) (calls : List CallData) :
    CallsGrow opened calls (manager.cancelAllDataStreams calls) := by
  unfold DataManager.cancelAllDataStreams
  induction manager.deviceDataStreams.entries generalizing calls with
  | nil => exact .refl _ _
  | cons entry rest ih => exact (callsGrow_cancel entry.2).trans (ih _)

theorem callsGrow_cancelFrame (m : ManagerId) :
    CallsGrow opened w.calls (w.cancelDataFrameStream m).calls := by
  refine callsGrow_onCalls fun manager calls => ?_
  unfold DataManager.cancelDataFrameStream
  split
  · exact callsGrow_cancel _
  · exact .refl _ _

theorem callsGrow_deleteCallData (order : IterationOrder CallId) (c : CallId) :
    CallsGrow opened w.calls (ClientManager.deleteCallData order w c).calls := by
  rw [calls_deleteCallData]
  exact callsGrow_modify c (fun _ => rfl) (fun _ cancelled => cancelled) fun _ _ => rfl

/-- **What a section does to the calls.** -/
theorem callsGrow_run (orders : Orders) (instr : Instr) :
    CallsGrow instr.opened w.calls (instr.run orders w).calls := by
  cases instr with
  | cancelAllDataStreams m => exact callsGrow_onCalls callsGrow_cancelAll
  | cancelDataStream m deviceId =>
      refine callsGrow_onCalls fun manager calls => ?_
      unfold DataManager.cancelDataStream
      split
      · exact callsGrow_cancel _
      · exact .refl _ _
  | cancelDataFrameStream m reopen => exact callsGrow_cancelFrame m
  | openTrackingDeviceDataStream m device | openDataFrameStream m devices =>
      simp only [Instr.run]
      split
      · exact .refl _ _
      · exact callsGrow_open rfl
  | openBaseStationDataStream s | openWirelessManagementStream i | openTrackingDevicesEventStream =>
      exact callsGrow_open rfl
  | cancelEventStream c => exact callsGrow_cancel c
  | deleteCallData c => exact callsGrow_deleteCallData _ c
  | recordDevice device deviceConnected =>
      obtain ⟨connected, recorded⟩ := ClientManager.recordDevice_frame w device deviceConnected
      rw [Instr.run, recorded]
      exact .refl _ _
  | _ => exact .refl _ _

end Grow

/-! ## The streams of the calls -/

section Streams

variable {calls : List CallData} {w : ClientManager} {m : ManagerId} {instr : Instr} {slot : Slot} {c : CallId}

theorem streams_modify {f : CallData → CallData} (c : CallId) (stream : ∀ call : CallData, (f call).stream = call.stream) :
    (calls.modify c f).map CallData.stream = calls.map CallData.stream := by
  refine List.ext_getElem? fun d => ?_
  simp only [List.getElem?_map, List.getElem?_modify]
  cases calls[d]? with
  | none => rfl
  | some call => by_cases here : c = d <;> simp [here, stream]

theorem streams_onCalls {f : DataManager → List CallData → List CallData}
    (streams : ∀ manager calls, (f manager calls).map CallData.stream = calls.map CallData.stream) :
    (w.onCalls m f).calls.map CallData.stream = w.calls.map CallData.stream := by
  unfold ClientManager.onCalls
  split
  · exact streams _ _
  · rfl

theorem streams_cancelAll (manager : DataManager) (calls : List CallData) :
    (manager.cancelAllDataStreams calls).map CallData.stream = calls.map CallData.stream := by
  unfold DataManager.cancelAllDataStreams
  induction manager.deviceDataStreams.entries generalizing calls with
  | nil => rfl
  | cons entry rest ih => exact (ih _).trans (streams_modify entry.2 fun _ => rfl)

/-- A section opens one call, or the calls are for the same streams as before. -/
theorem streams_run (orders : Orders) (w : ClientManager) (instr : Instr) :
    (instr.run orders w).calls.map CallData.stream = w.calls.map CallData.stream ∨
      ∃ stream, instr.opened = some stream.slot ∧ (instr.run orders w).calls = openCall w.calls stream := by
  cases instr with
  | cancelAllDataStreams m => exact .inl (streams_onCalls streams_cancelAll)
  | cancelDataStream m deviceId =>
      refine .inl (streams_onCalls fun manager calls => ?_)
      unfold DataManager.cancelDataStream
      split
      · exact streams_modify _ fun _ => rfl
      · rfl
  | cancelDataFrameStream m reopen =>
      refine .inl (streams_onCalls fun manager calls => ?_)
      unfold DataManager.cancelDataFrameStream
      split
      · exact streams_modify _ fun _ => rfl
      · rfl
  | openTrackingDeviceDataStream m device | openDataFrameStream m devices =>
      simp only [Instr.run]
      split
      · exact .inl rfl
      · exact .inr ⟨_, rfl, rfl⟩
  | openBaseStationDataStream s | openWirelessManagementStream i | openTrackingDevicesEventStream =>
      exact .inr ⟨_, rfl, rfl⟩
  | cancelEventStream c => exact .inl (streams_modify c fun _ => rfl)
  | deleteCallData c =>
      rw [Instr.run, calls_deleteCallData]
      exact .inl (streams_modify c fun _ => rfl)
  | recordDevice device deviceConnected =>
      obtain ⟨connected, recorded⟩ := ClientManager.recordDevice_frame w device deviceConnected
      rw [Instr.run, recorded]
      exact .inl rfl
  | _ => exact .inl rfl

theorem openedFor_iff : w.handles.OpenedFor slot c ↔ ((w.calls.map CallData.stream)[c]?).map Stream.slot = some slot := by
  rw [Handles.OpenedFor, ClientManager.handles, callHandles, List.getElem?_map, List.getElem?_map]
  cases w.calls[c]? <;> simp [CallData.resource]

/-- A call that is new after a section is live. -/
theorem openedFor_run {orders : Orders} (opened : (instr.run orders w).handles.OpenedFor slot c) :
    w.handles.OpenedFor slot c ∨ (instr.run orders w).handles.Live slot c := by
  rcases streams_run orders w instr with same | ⟨stream, -, calls⟩
  · rw [openedFor_iff, same] at opened
    exact .inl (openedFor_iff.mpr opened)
  · rw [openedFor_iff, calls] at opened
    by_cases old : c < w.calls.length
    · rw [openCall, List.map_append, List.getElem?_append_left (by simpa using old)] at opened
      exact .inl (openedFor_iff.mpr opened)
    · rw [openCall, List.map_append, List.getElem?_append_right (by simpa using old), List.length_map] at opened
      obtain ⟨stream', found, here⟩ := Option.map_eq_some_iff.mp opened
      rw [List.map_singleton, List.getElem?_singleton] at found
      split at found
      · rename_i last
        cases found
        refine .inr (liveCall_iff.mp ⟨stream, ?_, here⟩)
        rw [calls, openCall, List.getElem?_append_right (Nat.le_of_not_lt old), last]
        rfl
      · cases found

end Streams

/-! ## What stays live -/

/-- The section may cancel a call of the slot. -/
def Instr.mayCancel (slot : Slot) : Instr → Prop
  | cancelAllDataStreams m => ∃ key, slot = .device m key
  | cancelDataStream m deviceId => slot = .device m deviceId.hash
  | cancelDataFrameStream m _ => slot = .frame m
  | cancelEventStream _ => slot = .deviceEvents
  | _ => False

section Live

variable {orders : Orders} {w w' : ClientManager} {m : ManagerId} {instr : Instr} {pending : List Instr}
  {slot : Slot} {c : CallId}

theorem live_of_handles (same : w'.handles = w.handles) (live : w.handles.Live slot c) :
    w'.handles.Live slot c := by
  rw [same]
  exact live

theorem live_of_opened {opened : Slot} (same : w'.handles = w.handles.openFor opened)
    (live : w.handles.Live slot c) : w'.handles.Live slot c := by
  rw [same]
  exact Handles.live_openFor.mpr (.inl live)

theorem live_of_cancelled {other : Slot} (owned : Owned w pending) (same : w'.handles = w.handles.cancel other)
    (apart : slot ≠ other) (live : w.handles.Live slot c) : w'.handles.Live slot c := by
  rw [same]
  exact (Handles.Touches.cancelled.live_other apart (owned.stored other)).mpr live

theorem live_cancelAllDataStreams (owned : Owned w pending) (apart : ∀ key, slot ≠ .device m key)
    (live : w.handles.Live slot c) : (w.cancelAllDataStreams m).handles.Live slot c := by
  unfold ClientManager.cancelAllDataStreams ClientManager.onCalls
  cases held : w.dataManagers[m]? with
  | none => exact live
  | some manager =>
      refine (ClientManager.live_cancelEach _ _ _ _ _).mpr ⟨live, ?_⟩
      apply (ClientManager.entry_iff_stored held c).mpr
      intro key pointer
      exact apart key (live.undeleted.openedFor.unique (owned.stored _ _ pointer))

theorem live_deleteCallData {order : IterationOrder CallId} {c' : CallId} (other : c ≠ c')
    (live : w.handles.Live slot c) : (ClientManager.deleteCallData order w c').handles.Live slot c := by
  have kept := Handles.live_delete.mpr ⟨live, other⟩
  rw [ClientManager.handles, ← callHandles_deleteCall, ← calls_deleteCallData order] at kept
  exact kept

/-- **A live call goes on**, unless the section is one that may cancel calls of its slot, or the
deletion of the call. -/
theorem live_run (owned : Owned w pending)
    (events : ∀ d, instr = .cancelEventStream d → w.handles.OpenedFor .deviceEvents d)
    (apart : ¬ instr.mayCancel slot) (other : instr ≠ .deleteCallData c) (live : w.handles.Live slot c) :
    (instr.run orders w).handles.Live slot c := by
  cases instr with
  | emplaceManager request made => exact live_of_handles (w.handles_emplaceManager request made) live
  | cancelAllDataStreams m => exact live_cancelAllDataStreams owned (not_exists.mp apart) live
  | addDeviceStorage m device => exact live_of_handles (w.handles_addDeviceStorage m device) live
  | removeDeviceStorage m deviceId =>
      exact live_of_handles (w.handles_removeDeviceStorage m deviceId) live
  | openTrackingDeviceDataStream m device =>
      simp only [Instr.run]
      split
      · exact live
      · exact live_of_opened (w.handles_openTrackingDeviceDataStream m _) live
  | cancelDataStream m deviceId => exact live_of_cancelled owned (w.handles_cancelDataStream m deviceId) apart live
  | openDataFrameStream m devices =>
      simp only [Instr.run]
      split
      · exact live
      · exact live_of_opened (w.handles_openDataFrameStream m _) live
  | cancelDataFrameStream m reopen => exact live_of_cancelled owned (w.handles_cancelDataFrameStream m) apart live
  | recordDevice device deviceConnected =>
      obtain ⟨connected, recorded⟩ := ClientManager.recordDevice_frame w device deviceConnected
      simp only [Instr.run, recorded]
      exact live
  | openBaseStationDataStream s => exact live_of_opened (w.handles_openBaseStationDataStream s) live
  | openWirelessManagementStream i => exact live_of_opened (w.handles_openWirelessManagementStream i) live
  | openTrackingDevicesEventStream => exact live_of_opened w.handles_openTrackingDevicesEventStream live
  | cancelEventStream d =>
      have cancelled : c ≠ d := by
        rintro rfl
        exact apart (live.undeleted.openedFor.unique (events c rfl))
      have kept := Handles.live_cancelResource.mpr ⟨live, cancelled⟩
      rw [ClientManager.handles, ← callHandles_cancelCall] at kept
      exact kept
  | deleteCallData c' => exact live_deleteCallData (fun same => other (by rw [same])) live
  -- The others do nothing to the calls.
  | _ => exact live

end Live

end OmmoSdk.Client
