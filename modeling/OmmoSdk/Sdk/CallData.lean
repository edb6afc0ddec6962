/-
# Sdk.CallData — the call data objects and the places that point at them

Every stream the client opens is a call data object, created with `new`, started in
its constructor and deleted by the completion queue thread.  The objects ever
created are a list, and a pointer to one is its position in it.  The list only
grows: a deleted object keeps its position, so that a pointer to it can be told from
a pointer to a new one.

A `Slot` is a place that holds such a pointer.  The slot of a call is where its
opener stores it, and its owner is who `ClearAssociation` is called on.
-/
import OmmoSdk.Sdk.Protobuf
import OmmoSdk.Sdk.Utils
import OmmoSdk.Theory.Handles

namespace OmmoSdk.Sdk

open OmmoSdk.Theory

set_option autoImplicit false

/-- A pointer to a call data object. -/
abbrev CallId := Nat
/-- A `shared_ptr<DataManager>`: its position among all that were made. -/
abbrev ManagerId := Nat
/-- A `shared_ptr<BaseStationDataStorage>`. -/
abbrev StorageId := Nat
/-- A `shared_ptr<WirelessManagerWrapper>`, or the manager it wraps. -/
abbrev WirelessId := Nat

/-- What a call was opened for: the request and the association it was given. -/
inductive Stream where
  | deviceData (manager : ManagerId) (request : Proto.TrackingDeviceDataStreamRequest)
  | dataFrame (manager : ManagerId) (request : Proto.DataFrameStreamRequest)
  | baseStation (storage : StorageId)
  | wireless (wrapper : WirelessId)
  /-- the event stream, the only one without an association -/
  | deviceEvents
  deriving DecidableEq, Repr

inductive Slot where
  | device (manager : ManagerId) (hash : UInt64)
  | frame (manager : ManagerId)
  | baseStation (storage : StorageId)
  | wireless (wrapper : WirelessId)
  | deviceEvents
  deriving DecidableEq, Repr

def Stream.slot : Stream → Slot
  | .deviceData manager request => .device manager (hash request.siuUuid request.portId)
  | .dataFrame manager _ => .frame manager
  | .baseStation storage => .baseStation storage
  | .wireless wrapper => .wireless wrapper
  | .deviceEvents => .deviceEvents

/-- The data manager that holds the slot. -/
def Slot.manager : Slot → Option ManagerId
  | .device manager _ => some manager
  | .frame manager => some manager
  | _ => none

/-- `cancelled`: `CancelCall` was called.  `deleted`: its destructor was called. -/
structure CallData where
  stream : Stream
  cancelled : Bool := false
  deleted : Bool := false
  deriving DecidableEq, Repr

/-- The call data object is opened by `new`: its position is the next one. -/
def openCall (calls : List CallData) (stream : Stream) : List CallData :=
  calls ++ [{ stream := stream }]

def cancelCall (calls : List CallData) (callData : CallId) : List CallData :=
  calls.modify callData fun call => { call with cancelled := true }

def deleteCall (calls : List CallData) (callData : CallId) : List CallData :=
  calls.modify callData fun call => { call with deleted := true }

theorem getElem?_cancelCall {calls : List CallData} {callData other : CallId}
    (ne : other ≠ callData) : (cancelCall calls callData)[other]? = calls[other]? := by
  simp [cancelCall, Ne.symm ne]

/-- The call was opened for the slot and neither cancelled nor deleted since. -/
def LiveCall (calls : List CallData) (slot : Slot) (callData : CallId) : Prop :=
  ∃ stream, calls[callData]? = some { stream := stream } ∧ stream.slot = slot

/-- The calls that push a packet which the service sends on the streams of a slot. -/
def liveCalls (calls : List CallData) (slot : Slot) : Nat :=
  calls.countP fun call => call.stream.slot = slot && !call.cancelled && !call.deleted

/-- If there is one live call at most, a packet is pushed once at most. -/
theorem liveCalls_le_one {calls : List CallData} {slot : Slot}
    (unique : ∀ c c', LiveCall calls slot c → LiveCall calls slot c' → c = c') :
    liveCalls calls slot ≤ 1 := by
  induction calls with
  | nil => simp [liveCalls]
  | cons call rest ih =>
      have later : ∀ c, LiveCall rest slot c → LiveCall (call :: rest) slot (c + 1) :=
        fun c live => live
      rw [liveCalls, List.countP_cons]
      split
      · rename_i first
        simp only [Bool.and_eq_true, Bool.not_eq_true', decide_eq_true_eq] at first
        have live : LiveCall (call :: rest) slot 0 := by
          obtain ⟨stream, cancelled, deleted⟩ := call
          obtain ⟨⟨here, rfl⟩, rfl⟩ := first
          exact ⟨stream, rfl, here⟩
        have none : rest.countP (fun call => call.stream.slot = slot && !call.cancelled && !call.deleted) =
            0 := by
          rw [List.countP_eq_zero]
          intro other member second
          obtain ⟨c, inside, found⟩ := List.getElem_of_mem member
          simp only [Bool.and_eq_true, Bool.not_eq_true', decide_eq_true_eq] at second
          have twin : LiveCall rest slot c := by
            obtain ⟨stream, cancelled, deleted⟩ := other
            obtain ⟨⟨here, rfl⟩, rfl⟩ := second
            exact ⟨stream, by rw [List.getElem?_eq_getElem inside, found], here⟩
          exact absurd (unique 0 (c + 1) live (later c twin)) (by simp)
        omega
      · exact ih fun c c' live live' =>
          Nat.succ.inj (unique (c + 1) (c' + 1) (later c live) (later c' live'))

/-- What matters about a call to those who only hold its pointer. -/
def CallData.resource (call : CallData) : Resource Slot where
  slot := call.stream.slot
  cancelled := call.cancelled
  deleted := call.deleted

@[simp] theorem resources_openCall (calls : List CallData) (stream : Stream) :
    (openCall calls stream).map CallData.resource =
      calls.map CallData.resource ++ [{ slot := stream.slot }] := by
  simp [openCall, CallData.resource]

/-- The calls and the pointers to them, as handles. -/
def callHandles (calls : List CallData) (stored : Slot → Option CallId) : Handles Slot where
  resources := calls.map CallData.resource
  stored := stored

section Handles

variable {calls : List CallData} {stored : Slot → Option CallId} {slot : Slot} {callData : CallId}

theorem liveCall_iff : LiveCall calls slot callData ↔ (callHandles calls stored).Live slot callData := by
  unfold LiveCall Handles.Live callHandles
  rw [List.getElem?_map]
  constructor
  · rintro ⟨stream, found, rfl⟩
    simp [found, CallData.resource]
  · intro live
    obtain ⟨⟨stream, cancelled, deleted⟩, found, same⟩ := Option.map_eq_some_iff.mp live
    simp only [CallData.resource, Resource.mk.injEq] at same
    obtain ⟨rfl, rfl, rfl⟩ := same
    exact ⟨stream, found, rfl⟩

theorem callHandles_openCall (stream : Stream) :
    callHandles (openCall calls stream) stored = (callHandles calls stored).openFor stream.slot := by
  simp [callHandles, Handles.openFor]

theorem map_modify_resource {f : CallData → CallData} {g : Resource Slot → Resource Slot}
    (same : ∀ call, (f call).resource = g call.resource) :
    (calls.modify callData f).map CallData.resource =
      (calls.map CallData.resource).modify callData g := by
  refine List.ext_getElem? ?_
  intro i
  simp only [List.getElem?_map, List.getElem?_modify]
  cases calls[i]? with
  | none => rfl
  | some call => by_cases here : callData = i <;> simp [here, same]

theorem callHandles_cancelCall :
    callHandles (cancelCall calls callData) stored =
      (callHandles calls stored).cancelResource callData := by
  simp only [callHandles, Handles.cancelResource, cancelCall]
  rw [map_modify_resource (g := fun r => { r with cancelled := true }) fun _ => rfl]

theorem callHandles_deleteCall :
    callHandles (deleteCall calls callData) stored = (callHandles calls stored).delete callData := by
  simp only [callHandles, Handles.delete, deleteCall]
  rw [map_modify_resource (g := fun r => { r with deleted := true }) fun _ => rfl]

end Handles

end OmmoSdk.Sdk
