/-
# Client.WirelessManager — the call of a wireless manager and its replacement

A wireless manager points at the call that was stored last with `SetCallData`.  A call
that was replaced is deleted later than its replacement is stored, and its destructor
clears the pointer of the manager without a look at which call it is: the clean-up of
a data manager and that of a base station storage compare the pointer first.

`WirelessState` is a client with a record of the calls stored last.  `Attached` is what
the pointers should be, and `attached_iff` says for which runs they are.
-/
import OmmoSdk.Client.ClientManager
import OmmoSdk.Theory.Reach

namespace OmmoSdk.Client

open OmmoSdk.Theory
open OmmoSdk.Sdk

set_option autoImplicit false

namespace ClientManager

/-- Opening a call for a manager and storing it, as `CreateWirelessManager` and the
monitor do. -/
def attachWirelessStream (w : ClientManager) (i : WirelessId) : ClientManager :=
  let (w, callData) := w.openWirelessManagementStream i
  w.setCallData i (some callData)

def createWirelessManager (w : ClientManager) : ClientManager × WirelessId :=
  let i := w.wirelessManagers.length
  ((w.makeWirelessManager.attachWirelessStream i).pushWirelessManager i, i)

/-- `CancelStream` of a wireless manager. -/
def cancelStream (w : ClientManager) (i : WirelessId) : ClientManager :=
  match (w.wirelessManagers[i]?).bind fun manager => manager.cdata with
  | some callData => { w with calls := cancelCall w.calls callData }
  | none => w

def undeleted (w : ClientManager) (callData : CallId) : Bool :=
  (w.calls[callData]?).any fun call => !call.deleted

end ClientManager

/-- `latest` is the call that was stored last for each manager. -/
structure WirelessState where
  client : ClientManager
  latest : WirelessId → Option CallId

inductive WirelessOperation where
  | createWirelessManager
  /-- a call opened and stored for a manager that is there -/
  | openStream (wrapper : WirelessId)
  | cancelStream (wrapper : WirelessId)
  /-- the completion queue thread deletes a call -/
  | deleteCallData (callData : CallId)

namespace WirelessState

def init : WirelessState := ⟨.init, fun _ => none⟩

def step (s : WirelessState) : WirelessOperation → Option WirelessState
  | .createWirelessManager =>
      some {
        client := s.client.createWirelessManager.1
        latest := Function.update s.latest s.client.wirelessManagers.length
          (some s.client.calls.length) }
  | .openStream i =>
      if i < s.client.wirelessManagers.length then
        some {
          client := s.client.attachWirelessStream i
          latest := Function.update s.latest i (some s.client.calls.length) }
      else none
  | .cancelStream i => some { s with client := s.client.cancelStream i }
  | .deleteCallData c =>
      if s.client.undeleted c then
        some { s with client := ClientManager.deleteCallData (.stored CallId) s.client c }
      else none

/-- **What the pointers should be**: the call stored last, as long as it is not deleted. -/
def Attached (s : WirelessState) : Prop :=
  ∀ i, s.client.stored (.wireless i) = (s.latest i).filter s.client.undeleted

/-- The call that is deleted is the one its manager points at, or the manager points at none. -/
def DetachesOwn (s : WirelessState) : WirelessOperation → Prop
  | .deleteCallData c =>
      ∀ i call, s.client.calls[c]? = some call → call.stream = .wireless i →
        s.client.stored (.wireless i) = none ∨ s.client.stored (.wireless i) = some c
  | _ => True

/-- What every run keeps: the calls are wireless calls, and those stored last are calls of
their managers. -/
structure Fits (s : WirelessState) : Prop where
  calls : ∀ (c : CallId) (call : CallData), s.client.calls[c]? = some call →
    ∃ i, i < s.client.wirelessManagers.length ∧ call.stream = .wireless i
  latest : ∀ i c, s.latest i = some c → s.client.handles.OpenedFor (.wireless i) c
  managers : ∀ i, s.client.wirelessManagers.length ≤ i → s.latest i = none

/-! ## Pointers and calls after each operation -/

section Sections

variable (w : ClientManager) (i j : WirelessId) (c d : CallId)

@[simp] theorem length_makeWirelessManager :
    w.makeWirelessManager.wirelessManagers.length = w.wirelessManagers.length + 1 := by
  simp [ClientManager.makeWirelessManager]

@[simp] theorem length_setCallData (callData : Option CallId) :
    (w.setCallData i callData).wirelessManagers.length = w.wirelessManagers.length := by
  simp [ClientManager.setCallData]

theorem stored_wireless_set (callData : Option CallId) (inside : i < w.wirelessManagers.length) :
    (w.setCallData i callData).stored (.wireless j) =
      if j = i then callData else w.stored (.wireless j) := by
  simp only [ClientManager.stored, ClientManager.setCallData, List.getElem?_modify]
  by_cases same : j = i
  · subst same
    rw [List.getElem?_eq_getElem inside]
    simp
  · simp [same, Ne.symm same]

theorem stored_wireless_make :
    w.makeWirelessManager.stored (.wireless j) = w.stored (.wireless j) :=
  congrFun (congrArg Handles.stored (ClientManager.handles_makeWirelessManager w)) (.wireless j)

theorem undeleted_open (stream : Stream) :
    ({ w with calls := openCall w.calls stream } : ClientManager).undeleted d =
      (w.undeleted d || d = w.calls.length) := by
  simp only [ClientManager.undeleted, openCall, List.getElem?_append]
  split
  · rename_i inside
    simp [Nat.ne_of_lt inside]
  · rename_i outside
    rw [List.getElem?_eq_none (l := w.calls) (by omega)]
    by_cases same : d = w.calls.length
    · simp [same]
    · obtain ⟨beyond, past⟩ : ∃ beyond, d - w.calls.length = beyond + 1 :=
        Nat.exists_eq_succ_of_ne_zero
          (Nat.sub_ne_zero_of_lt (Nat.lt_of_le_of_ne (Nat.le_of_not_lt outside) (Ne.symm same)))
      simp [same, past]

theorem undeleted_cancel :
    ({ w with calls := cancelCall w.calls c } : ClientManager).undeleted d = w.undeleted d := by
  simp only [ClientManager.undeleted, cancelCall, List.getElem?_modify]
  cases w.calls[d]? with
  | none => rfl
  | some call => by_cases same : c = d <;> simp [same]

theorem undeleted_delete :
    ({ w with calls := deleteCall w.calls c } : ClientManager).undeleted d =
      (w.undeleted d && d ≠ c) := by
  simp only [ClientManager.undeleted, deleteCall, List.getElem?_modify]
  cases w.calls[d]? with
  | none => rfl
  | some call => by_cases same : c = d <;> simp [same, eq_comm]

/-- The wrapper clears the pointer whatever call it is given. -/
theorem deleteCallData_wireless {call : CallData} (found : w.calls[c]? = some call)
    (stream : call.stream = .wireless i) (order : IterationOrder CallId) :
    ClientManager.deleteCallData order w c =
      ({ w with calls := deleteCall w.calls c } : ClientManager).setCallData i none := by
  simp [ClientManager.deleteCallData, found, ClientManager.clearAssociation, stream]

end Sections

/-! ## One operation -/

section Step

variable {s s' : WirelessState} {w : ClientManager} {latest : WirelessId → Option CallId}
  {i : WirelessId}

theorem filter_congr {α : Type} {x : Option α} {p q : α → Bool} (same : ∀ a, x = some a → p a = q a) :
    x.filter p = x.filter q := by
  cases x with
  | none => rfl
  | some a => simp [Option.filter, same a rfl]

theorem Fits.lt (fits : Fits s) {c : CallId} (stored : s.latest i = some c) :
    c < s.client.calls.length := by
  obtain ⟨r, found, -⟩ := fits.latest i c stored
  rw [← ClientManager.handles_resources_length]
  exact (List.getElem?_eq_some_iff.mp found).1

theorem Fits.attach (fits : Fits ⟨w, latest⟩) (inside : i < w.wirelessManagers.length) :
    Fits ⟨w.attachWirelessStream i, Function.update latest i (some w.calls.length)⟩ := by
  have opened : (w.openWirelessManagementStream i).1.handles = w.handles.openFor (.wireless i) :=
    w.handles_openWirelessManagementStream i
  have made : (w.attachWirelessStream i).wirelessManagers.length = w.wirelessManagers.length := by
    simp [ClientManager.attachWirelessStream, ClientManager.openWirelessManagementStream]
  constructor
  · intro c call found
    rw [made]
    have appended : (openCall w.calls (.wireless i))[c]? = some call := found
    rw [openCall, List.getElem?_append] at appended
    split at appended
    · exact fits.calls c call appended
    · rw [List.getElem?_singleton] at appended
      split at appended
      · cases appended
        exact ⟨i, inside, rfl⟩
      · cases appended
  · intro j c stored
    change (w.openWirelessManagementStream i).1.handles.OpenedFor (.wireless j) c
    rw [opened]
    simp only [Function.update_apply] at stored
    split at stored
    · rename_i here
      subst here
      cases stored
      rw [← ClientManager.handles_resources_length]
      exact (Handles.undeleted_opened _ _).openedFor
    · exact (Handles.grows_openFor none _ _).openedFor (fits.latest j c stored)
  · intro j outside
    rw [made] at outside
    have other : j ≠ i := (Nat.lt_of_lt_of_le inside outside).ne'
    exact (Function.update_of_ne other _ _).trans (fits.managers j outside)

/-- A new call is attached, and the others stay as they are. -/
theorem Attached.attach (fits : Fits ⟨w, latest⟩) (inside : i < w.wirelessManagers.length)
    (attached : Attached ⟨w, latest⟩) :
    Attached ⟨w.attachWirelessStream i, Function.update latest i (some w.calls.length)⟩ := by
  intro j
  have undeleted : (w.attachWirelessStream i).undeleted =
      fun d => w.undeleted d || decide (d = w.calls.length) :=
    funext fun d => undeleted_open w d (.wireless i)
  have pointer : (w.attachWirelessStream i).stored (.wireless j) =
      if j = i then some w.calls.length else w.stored (.wireless j) :=
    stored_wireless_set _ i j _ inside
  rw [pointer, undeleted]
  by_cases same : j = i
  · simp [same, Option.filter]
  · rw [if_neg same, attached j]
    simp only [Function.update_of_ne same]
    refine filter_congr fun d stored => ?_
    have old : d < w.calls.length := fits.lt stored
    simp [Nat.ne_of_lt old]

theorem Fits.make (fits : Fits ⟨w, latest⟩) : Fits ⟨w.makeWirelessManager, latest⟩ := by
  refine ⟨?_, ?_, ?_⟩
  · intro c call found
    obtain ⟨i, inside, stream⟩ := fits.calls c call found
    exact ⟨i, by rw [length_makeWirelessManager]; exact Nat.lt_succ_of_lt inside, stream⟩
  · intro j c stored
    rw [ClientManager.handles_makeWirelessManager]
    exact fits.latest j c stored
  · intro j outside
    rw [length_makeWirelessManager] at outside
    exact fits.managers j (Nat.le_of_succ_le outside)

theorem Attached.make (attached : Attached ⟨w, latest⟩) : Attached ⟨w.makeWirelessManager, latest⟩ := by
  intro j
  rw [stored_wireless_make]
  exact attached j

/-- A flag of a call is set, and nothing else is changed. -/
theorem Fits.calls_modify (fits : Fits ⟨w, latest⟩) {f : CallData → CallData} {c : CallId}
    (stream : ∀ call, (f call).stream = call.stream) :
    Fits ⟨{ w with calls := w.calls.modify c f }, latest⟩ := by
  constructor
  · intro d call found
    simp only [List.getElem?_modify] at found
    obtain ⟨before, there, rfl⟩ := Option.map_eq_some_iff.mp found
    obtain ⟨i, inside, wireless⟩ := fits.calls d before there
    refine ⟨i, inside, ?_⟩
    split
    · rw [stream, wireless]
    · exact wireless
  · intro j d stored
    obtain ⟨r, found, slot⟩ := fits.latest j d stored
    obtain ⟨call, there, rfl⟩ := Option.map_eq_some_iff.mp
      (show (w.calls[d]?).map CallData.resource = some r by rw [← List.getElem?_map]; exact found)
    refine ⟨(if c = d then f call else call).resource, ?_, ?_⟩
    · change ((w.calls.modify c f).map CallData.resource)[d]? = _
      rw [List.getElem?_map, List.getElem?_modify, there]
      split <;> rfl
    · have same : (if c = d then f call else call).stream = call.stream := by
        split
        · exact stream call
        · rfl
      simpa [CallData.resource, same] using slot
  · exact fits.managers

theorem Fits.setCallData (fits : Fits ⟨w, latest⟩) (callData : Option CallId) :
    Fits ⟨w.setCallData i callData, latest⟩ := by
  constructor
  · intro c call found
    rw [length_setCallData]
    exact fits.calls c call found
  · exact fits.latest
  · intro j outside
    rw [length_setCallData] at outside
    exact fits.managers j outside

/-- **Deleting a call leaves the pointers right** exactly if it is the one that is pointed at,
or none is. -/
theorem attached_delete_iff {w' : ClientManager} {c : CallId} (fits : Fits ⟨w, latest⟩)
    (attached : Attached ⟨w, latest⟩) (opened : w.handles.OpenedFor (.wireless i) c)
    (cleared : ∀ j, w'.stored (.wireless j) = if j = i then none else w.stored (.wireless j))
    (undeleted : ∀ d, w'.undeleted d = (w.undeleted d && d ≠ c)) :
    Attached ⟨w', latest⟩ ↔
      w.stored (.wireless i) = none ∨ w.stored (.wireless i) = some c := by
  have pointer : w.stored (.wireless i) = (latest i).filter w.undeleted := attached i
  have others : ∀ j, j ≠ i → w'.stored (.wireless j) = (latest j).filter w'.undeleted := by
    intro j same
    rw [cleared, if_neg same]
    refine (attached j).trans (filter_congr fun d stored => ?_)
    have other : d ≠ c := by
      rintro rfl
      exact same (Slot.wireless.inj ((fits.latest j d stored).unique opened))
    simp [undeleted, other]
  have own : Attached ⟨w', latest⟩ ↔ (latest i).filter w'.undeleted = none := by
    constructor
    · intro after
      exact (after i).symm.trans ((cleared i).trans (if_pos rfl))
    · intro none j
      by_cases same : j = i
      · subst same
        exact ((cleared j).trans (if_pos rfl)).trans none.symm
      · exact others j same
  rw [own, pointer]
  cases latest i with
  | none => simp
  | some d =>
      simp only [Option.filter, undeleted]
      by_cases there : w.undeleted d <;> by_cases same : d = c <;> simp [there, same]

theorem Attached.cancelStream (attached : Attached ⟨w, latest⟩) :
    Attached ⟨w.cancelStream i, latest⟩ := by
  unfold ClientManager.cancelStream
  split
  · rename_i c _
    intro j
    refine (attached j).trans (filter_congr fun d _ => ?_)
    exact (undeleted_cancel w c d).symm
  · exact attached

theorem Fits.cancelStream (fits : Fits ⟨w, latest⟩) : Fits ⟨w.cancelStream i, latest⟩ := by
  unfold ClientManager.cancelStream
  split
  · exact fits.calls_modify (f := fun call => { call with cancelled := true }) fun _ => rfl
  · exact fits

theorem undeleted_iff {c : CallId} :
    w.undeleted c = true ↔ ∃ call, w.calls[c]? = some call ∧ call.deleted = false := by
  simp [ClientManager.undeleted, Option.any_eq_true]

/-- What every operation keeps, whether or not it leaves the pointers right. -/
theorem Fits.step {operation : WirelessOperation} (fits : Fits s)
    (stepped : s.step operation = some s') : Fits s' := by
  cases operation with
  | createWirelessManager =>
      cases stepped
      have attached := fits.make.attach (i := s.client.wirelessManagers.length)
        (by rw [length_makeWirelessManager]; exact Nat.lt_succ_self _)
      exact ⟨attached.calls, attached.latest, attached.managers⟩
  | openStream i =>
      simp only [WirelessState.step] at stepped
      split at stepped
      · rename_i inside
        cases stepped
        exact fits.attach inside
      · cases stepped
  | cancelStream i =>
      cases stepped
      exact fits.cancelStream
  | deleteCallData c =>
      simp only [WirelessState.step] at stepped
      split at stepped
      · rename_i there
        cases stepped
        obtain ⟨call, found, -⟩ := undeleted_iff.mp there
        obtain ⟨i, inside, stream⟩ := fits.calls c call found
        rw [deleteCallData_wireless s.client i c found stream]
        exact (fits.calls_modify (f := fun call => { call with deleted := true })
          fun _ => rfl).setCallData none
      · cases stepped

/-- **One operation leaves the pointers right** exactly if it detaches no other call. -/
theorem attached_step_iff {operation : WirelessOperation} (fits : Fits s) (attached : Attached s)
    (stepped : s.step operation = some s') : Attached s' ↔ DetachesOwn s operation := by
  cases operation with
  | createWirelessManager =>
      cases stepped
      have made : s.client.wirelessManagers.length < s.client.makeWirelessManager.wirelessManagers.length := by
        rw [length_makeWirelessManager]
        exact Nat.lt_succ_self _
      exact iff_of_true (attached.make.attach fits.make made) trivial
  | openStream i =>
      simp only [WirelessState.step] at stepped
      split at stepped
      · rename_i inside
        cases stepped
        exact iff_of_true (attached.attach fits inside) trivial
      · cases stepped
  | cancelStream i =>
      cases stepped
      exact iff_of_true attached.cancelStream trivial
  | deleteCallData c =>
      simp only [WirelessState.step] at stepped
      split at stepped
      · rename_i there
        cases stepped
        obtain ⟨call, found, -⟩ := undeleted_iff.mp there
        obtain ⟨i, inside, stream⟩ := fits.calls c call found
        have opened : s.client.handles.OpenedFor (.wireless i) c := by
          refine ⟨call.resource, ?_, congrArg Stream.slot stream⟩
          rw [ClientManager.handles, callHandles, List.getElem?_map, found]
          rfl
        have exact : Attached ⟨({ s.client with calls := deleteCall s.client.calls c } :
              ClientManager).setCallData i none, s.latest⟩ ↔
            s.client.stored (.wireless i) = none ∨ s.client.stored (.wireless i) = some c :=
          attached_delete_iff fits attached opened (fun j => stored_wireless_set _ i j none inside)
            (undeleted_delete s.client c)
        rw [deleteCallData_wireless s.client i c found stream, exact]
        constructor
        · intro timely j other again wireless
          rw [found] at again
          cases again
          rw [stream] at wireless
          cases wireless
          exact timely
        · exact fun own => own i call found stream
      · cases stepped

end Step

/-! ## Runs -/

theorem attached_init : Attached init := fun _ => rfl

theorem fits_init : Fits init := by
  constructor
  · intro c call found
    cases found
  · intro i c stored
    cases stored
  · exact fun _ _ => rfl

/-- **When the end of an old call detaches no newer one.**  For every run of operations on any
number of managers: after each of them every manager points at the call stored last, as long
as that is not deleted, if and only if each deletion is of the call that is pointed at, or
finds the pointer cleared. -/
theorem attached_iff (operations : List WirelessOperation) :
    EveryStep step (fun _ _ s' => Attached s') operations init ↔
      EveryStep step (fun s operation _ => DetachesOwn s operation) operations init := by
  refine everyStep_iff (fun s => Fits s ∧ Attached s) operations ?_ ?_ ⟨fits_init, attached_init⟩
  · rintro s operation s' - ⟨fits, attached⟩ stepped
    exact attached_step_iff fits attached stepped
  · rintro s operation s' - ⟨fits, -⟩ stepped attached
    exact ⟨fits.step stepped, attached⟩

/-- The user cancels the stream, the monitor opens a new one, and then the old call ends. -/
theorem old_call_detaches_new :
    ¬ ∀ operations, EveryStep step (fun _ _ s' => Attached s') operations init := by
  intro claimed
  have every := claimed ([.createWirelessManager, .cancelStream 0, .openStream 0] ++
    [.deleteCallData 0])
  have wrong := every.last rfl rfl 0
  cases wrong

end WirelessState

end OmmoSdk.Client
