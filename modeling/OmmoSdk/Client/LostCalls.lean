/-
# Client.LostCalls — the calls of a channel that is lost

When the channel is lost, every call that is open fails, and the completion queue deletes
them one by one.  Until a call is deleted its owner keeps the pointer to it, and until then
no one can tell it from the pointer to a call that goes on.

The calls are told apart here by their number: `n` of them were open at the loss or before.
`LostCalls` says that these, and no others, still wait to be deleted, and what that leaves of the
pointers.  `Lasting` says that the calls opened since then go on, except for those of a
manager that is being closed.
-/
import OmmoSdk.Client.ChannelMonitor
import OmmoSdk.Client.EventStream

namespace OmmoSdk.Client

open OmmoSdk.Theory
open OmmoSdk.Sdk

set_option autoImplicit false

/-! ## The records beside the calls -/

/-- The lists of a client, the connected devices and the state of the channel are the same. -/
structure SameRecords (w w' : ClientManager) : Prop where
  list : w'.dataManagerList = w.dataManagerList
  stations : w'.baseStationDataStorageList = w.baseStationDataStorageList
  wrappers : w'.wirelessManagerWrapperList = w.wirelessManagerWrapperList
  connected : w'.connectedDevices = w.connectedDevices
  channel : w'.previousChannelState = w.previousChannelState

/-- The sections that write one of them. -/
def Instr.records : Instr → Bool
  | emplaceManager _ _ | eraseManager _ => true
  | pushBaseStationDataStorage _ | pushWirelessManager _ => true
  | recordDevice _ _ | clearConnectedDevices | saveChannelState _ => true
  | _ => false

section Records

variable {orders : Orders} {w w' : ClientManager} {instr : Instr} {m : ManagerId}

theorem SameRecords.refl (w : ClientManager) : SameRecords w w := ⟨rfl, rfl, rfl, rfl, rfl⟩

theorem sameRecords_onCalls {f : DataManager → List CallData → List CallData} :
    SameRecords w (w.onCalls m f) := by
  unfold ClientManager.onCalls
  split <;> exact ⟨rfl, rfl, rfl, rfl, rfl⟩

theorem sameRecords_clearAssociation {order : IterationOrder CallId} {c : CallId} {stream : Stream}
    (clears : w.clearAssociation order c stream = some w') : SameRecords w w' := by
  cases stream with
  | deviceData m request | dataFrame m request =>
      simp only [ClientManager.clearAssociation] at clears
      split at clears
      · cases clears
        exact .refl w
      · obtain ⟨result, -, rfl⟩ := Option.map_eq_some_iff.mp clears
        exact ⟨rfl, rfl, rfl, rfl, rfl⟩
  | baseStation _ | wireless _ | deviceEvents =>
      cases clears
      exact ⟨rfl, rfl, rfl, rfl, rfl⟩

theorem sameRecords_deleteCallData (order : IterationOrder CallId) (w : ClientManager) (c : CallId) :
    SameRecords w (ClientManager.deleteCallData order w c) := by
  unfold ClientManager.deleteCallData
  split
  · exact .refl w
  · rename_i call found
    cases clears : ({ w with calls := deleteCall w.calls c } : ClientManager).clearAssociation order c
        call.stream with
    | none =>
        simp only [clears, Option.getD_none]
        exact ⟨rfl, rfl, rfl, rfl, rfl⟩
    | some w' =>
        simp only [clears, Option.getD_some]
        obtain ⟨list, stations, wrappers, connected, channel⟩ := sameRecords_clearAssociation clears
        exact ⟨list, stations, wrappers, connected, channel⟩

theorem sameRecords_run (orders : Orders) (w : ClientManager) (quiet : instr.records = false) :
    SameRecords w (instr.run orders w) := by
  cases instr with
  | cancelAllDataStreams m => exact sameRecords_onCalls
  | cancelDataStream m deviceId =>
      show SameRecords w (w.cancelDataStream m deviceId)
      exact sameRecords_onCalls
  | cancelDataFrameStream m reopen =>
      show SameRecords w (w.cancelDataFrameStream m)
      exact sameRecords_onCalls
  | deleteCallData c => exact sameRecords_deleteCallData _ w c
  | openTrackingDeviceDataStream m device | openDataFrameStream m devices =>
      simp only [Instr.run]
      split <;> exact ⟨rfl, rfl, rfl, rfl, rfl⟩
  | _ => first | (cases quiet; done) | exact ⟨rfl, rfl, rfl, rfl, rfl⟩

end Records

/-- The managers on the list are there once each, and were made. -/
structure Enlisted (w : ClientManager) : Prop where
  distinct : w.dataManagerList.Nodup
  made : ∀ m ∈ w.dataManagerList, m < w.headers.length

section Enlisted

variable {orders : Orders} {w w' : ClientManager} {instr : Instr} {m : ManagerId}

theorem length_headers (w : ClientManager) : w.headers.length = w.dataManagers.length := List.length_map _

theorem length_headers_run (orders : Orders) (w : ClientManager) (instr : Instr) :
    w.headers.length ≤ (instr.run orders w).headers.length := by
  rw [headers_run, List.length_append]
  omega

theorem list_emplaceManager (request : DataRequest) (streamType : DataStreamType) :
    ((Instr.emplaceManager request streamType).run orders w).dataManagerList =
      w.dataManagerList ++ [w.headers.length] := by
  rw [length_headers]
  rfl

theorem Enlisted.of_list (enlisted : Enlisted w) (list : w'.dataManagerList = w.dataManagerList)
    (longer : w.headers.length ≤ w'.headers.length) : Enlisted w' := by
  refine ⟨list ▸ enlisted.distinct, fun m member => ?_⟩
  exact Nat.lt_of_lt_of_le (enlisted.made m (list ▸ member)) longer

theorem Enlisted.run (orders : Orders) (enlisted : Enlisted w) : Enlisted (instr.run orders w) := by
  have longer := length_headers_run orders w instr
  cases quiet : instr.records with
  | false => exact enlisted.of_list (sameRecords_run orders w quiet).list longer
  | true =>
      cases instr with
      | emplaceManager request streamType =>
          have new : ((Instr.emplaceManager request streamType).run orders w).headers.length =
              w.headers.length + 1 := by rw [headers_run, List.length_append]; rfl
          constructor
          · rw [list_emplaceManager]
            refine enlisted.distinct.append (List.nodup_singleton _) ?_
            rintro m member same
            cases List.mem_singleton.mp same
            exact Nat.lt_irrefl _ (enlisted.made _ member)
          · intro m member
            rw [list_emplaceManager, List.mem_append, List.mem_singleton] at member
            rw [new]
            rcases member with old | rfl
            · exact Nat.lt_succ_of_lt (enlisted.made m old)
            · exact Nat.lt_succ_self _
      | eraseManager m =>
          exact ⟨enlisted.distinct.erase m, fun m' member => enlisted.made m' (List.mem_of_mem_erase member)⟩
      | recordDevice device deviceConnected =>
          obtain ⟨connected, recorded⟩ := ClientManager.recordDevice_frame w device deviceConnected
          rw [Instr.run, recorded]
          exact ⟨enlisted.distinct, enlisted.made⟩
      | _ => first | (cases quiet; done) | exact ⟨enlisted.distinct, enlisted.made⟩

/-- A manager that is taken off the list, or is not on it, is not made a second time. -/
theorem absent_run (orders : Orders) (made : m < w.headers.length) (absent : m ∉ w.dataManagerList) :
    m ∉ (instr.run orders w).dataManagerList := by
  cases quiet : instr.records with
  | false =>
      rw [(sameRecords_run orders w quiet).list]
      exact absent
  | true =>
      cases instr with
      | emplaceManager request streamType =>
          rw [list_emplaceManager, List.mem_append, List.mem_singleton]
          rintro (old | rfl)
          · exact absent old
          · exact Nat.lt_irrefl _ made
      | eraseManager m' => exact fun member => absent (List.mem_of_mem_erase member)
      | recordDevice device deviceConnected =>
          obtain ⟨connected, recorded⟩ := ClientManager.recordDevice_frame w device deviceConnected
          rw [Instr.run, recorded]
          exact absent
      | _ => first | (cases quiet; done) | exact absent

end Enlisted

/-! ## The pointers of a client at rest -/

/-- The call that the instruction deletes. -/
def Instr.deletes : Instr → Option CallId
  | deleteCallData c => some c
  | _ => none

/-- What every history of a client leaves of its pointers and lists. -/
structure Standing (w : ClientManager) (pending : List Instr) : Prop where
  owned : Owned w pending
  fresh : Fresh w pending
  enlisted : Enlisted w

section Standing

variable {orders : Orders} {w w' : ClientManager} {instr program : Instr} {pending pending' others rest : List Instr}
  {c : CallId}

theorem Pointing.mono {good : Handles Slot → Slot → CallId → Prop} (pointing : Pointing good w pending)
    (fewer : ∀ i ∈ pending', i ∈ pending) : Pointing good w pending' :=
  ⟨pointing.stored, fun i member => pointing.stores i (fewer i member)⟩

theorem Standing.mono (standing : Standing w pending) (fewer : ∀ i ∈ pending', i ∈ pending) :
    Standing w pending' :=
  ⟨standing.owned.mono fewer, standing.fresh.mono fewer, standing.enlisted⟩

theorem Standing.step (standing : Standing w (instr :: others)) (enabled : instr.enabled w = true)
    (ends : instr.EndsStored w { i | i ∈ instr :: others } orders) :
    Standing (instr.run orders w) (instr.next orders w ++ others) where
  owned := owned_step standing.owned
  fresh := fresh_step standing.fresh enabled ends
  enlisted := standing.enlisted.run orders

/-- No pointer is new. -/
theorem Standing.of_grows (standing : Standing w []) (grows : w.handles.Grows none w'.handles)
    (list : w'.dataManagerList = w.dataManagerList) (headers : w'.headers = w.headers) : Standing w' [] where
  owned := by
    refine ⟨fun slot c pointer => ?_, fun i member => by cases member⟩
    rcases grows.stored slot c pointer with before | new
    · exact grows.openedFor (standing.owned.stored slot c before)
    · cases new
  fresh := by
    refine ⟨fun slot c pointer data => ?_, fun i member => by cases member⟩
    rcases grows.stored slot c pointer with before | new
    · exact grows.undeleted (standing.fresh.stored slot c before data)
    · cases new
  enlisted := standing.enlisted.of_list list (by rw [headers])

/-- Calls are deleted by the completion queue only. -/
theorem deletes_of_next : ∀ i ∈ instr.next orders w, i.deletes = none := by
  intro i member
  cases Instr.follows_of_next member <;> rfl

/-- What is done while nothing else is done, and deletes no call. -/
theorem Standing.alone (standing : Standing w []) (stores : program.stores = none)
    (deletes : program.deletes = none)
    (run : Reached ClientThreads.step (fun _ label => label = (0, orders))
      ⟨w, [], [[program]]⟩ ⟨w', [], [rest]⟩) : Standing w' [] := by
  have every := run.meets (fun _ => True) trivial (fun _ _ _ _ _ _ => trivial)
    fun s label _ => (show Threads.Under (fun _ _ _ (_ : Orders) => True) s label from fun _ _ _ => trivial)
  have both := Threads.invariant_of_kept clientSemantics
    (fun w pending => Standing w pending ∧ ∀ i ∈ pending, i.deletes = none) ?_ ⟨?_, ?_⟩ ?_ every
  · exact both.1.mono fun i member => by cases member
  · rintro w pending pending' perm ⟨standing, none⟩
    exact ⟨standing.mono fun i member => perm.mem_iff.mpr member,
      fun i member => none i (perm.mem_iff.mpr member)⟩
  · refine ⟨⟨standing.owned.stored, ?_⟩, ⟨standing.fresh.stored, ?_⟩, standing.enlisted⟩ <;>
      · intro i member slot c new
        cases List.mem_singleton.mp member
        rw [stores] at new
        cases new
  · intro i member
    cases List.mem_singleton.mp member
    exact deletes
  · rintro w instr others orders ⟨standing, none⟩ enabled -
    obtain ⟨here, later⟩ := List.forall_mem_cons.mp none
    have ends : instr.EndsStored w { i | i ∈ instr :: others } orders := by
      cases instr with
      | deleteCallData c => cases here
      | _ => trivial
    refine ⟨standing.step enabled ends, fun i member => ?_⟩
    rcases List.mem_append.mp member with fresh | old
    · exact deletes_of_next i fresh
    · exact later i old

/-- A clean-up that returns has found its call where that is stored. -/
theorem endsStored_of_returns (fresh : Fresh w pending)
    (apart : ∀ other ∈ pending, ∀ slot, slot ≠ .deviceEvents → other.stores ≠ some (slot, c))
    (returns : w.hangsIn orders.streams c = none) :
    (Instr.deleteCallData c).EndsStored w { i | i ∈ pending } orders := by
  refine ⟨apart, ?_⟩
  rintro m manager held ⟨key, stored⟩
  have pointer : w.stored (.device m key) = some c := by
    simp only [ClientManager.stored, held, Option.bind_some]
    exact stored
  obtain ⟨r, resource, slot, -⟩ := fresh.stored _ _ pointer (by simp)
  obtain ⟨call, found, rfl⟩ := Option.map_eq_some_iff.mp ((List.getElem?_map ..).symm.trans resource)
  have own : call.stream.slot = .device m key := slot
  cases stream : call.stream with
  | deviceData m' request =>
      rw [stream] at own
      cases own
      cases clears : manager.clearAssociation orders.streams 1 c with
      | some result => exact DataManager.foundFirst_of_clearsTo ⟨1, clears⟩
      | none =>
          simp [ClientManager.hangsIn, found, stream, ClientManager.clearAssociation, held, clears,
            Stream.slot, Slot.manager] at returns
  | _ =>
      rw [stream] at own
      cases own

end Standing

/-! ## Clients with a history -/

section History

variable {orders : Orders} {w w' : ClientManager} {label : ClientManager.Happening × Orders}

theorem does_requestBaseStationData (w : ClientManager) :
    Does orders [] w [.requestBaseStationData] w.requestBaseStationData.1 := by
  apply executes_call rfl rfl rfl rfl
  refine executes_then (executes_call rfl rfl rfl rfl (executes_call rfl rfl rfl rfl .nil)) ?_
  refine executes_then (executes_lock (by simp)) ?_
  exact executes_then (executes_call rfl rfl rfl rfl .nil) executes_unlock

theorem does_createWirelessManager (w : ClientManager) :
    Does orders [] w [.createWirelessManager] w.createWirelessManager.1 := by
  apply executes_call rfl rfl rfl rfl
  refine executes_then (executes_call rfl rfl rfl rfl (executes_call rfl rfl rfl rfl .nil)) ?_
  refine executes_then (executes_lock (by simp)) ?_
  exact executes_then (executes_call rfl rfl rfl rfl .nil) executes_unlock

theorem grows_cancelCall (w : ClientManager) (c : CallId) :
    w.handles.Grows none (callHandles (cancelCall w.calls c) w.stored) := by
  rw [callHandles_cancelCall]
  exact Handles.grows_cancelResource none _ c

theorem Standing.cancelStream (standing : Standing w []) (i : WirelessId) : Standing (w.cancelStream i) [] := by
  unfold ClientManager.cancelStream
  split
  · exact standing.of_grows (grows_cancelCall w _) rfl rfl
  · exact standing

theorem Standing.closeBaseStationDataRequest {s : StorageId} (standing : Standing w [])
    (closed : w.closeBaseStationDataRequest 1 (some s) = some w') : Standing w' [] := by
  obtain ⟨list, rfl | ⟨callData, rfl⟩⟩ := ClientManager.closed_cases closed
  · exact standing.of_grows (.refl none _) rfl rfl
  · exact standing.of_grows (grows_cancelCall w _) rfl rfl

theorem Standing.failed {c : CallId} (standing : Standing w []) (undeleted : w.undeleted c)
    (returns : w.hangsIn orders.streams c = none) :
    Standing (ClientManager.deleteCallData orders.streams w c) [] := by
  have started : Standing w [.deleteCallData c] := by
    refine ⟨⟨standing.owned.stored, ?_⟩, ⟨standing.fresh.stored, ?_⟩, standing.enlisted⟩ <;>
      · intro i member slot d stores
        cases List.mem_singleton.mp member
        cases stores
  have ends : (Instr.deleteCallData c).EndsStored w { i | i ∈ [Instr.deleteCallData c] } orders := by
    refine endsStored_of_returns started.fresh ?_ returns
    intro other member slot _ stores
    cases List.mem_singleton.mp member
    cases stores
  exact (started.step undeleted ends).mono fun i member => by cases member

/-- **One happening**, unless it is a clean-up that hangs. -/
theorem Standing.happen (standing : Standing w []) (happened : w.happen label = some w')
    (free : w'.hungIn = none) : Standing w' [] := by
  replace happened := (ClientManager.performed happened).2
  obtain ⟨happening, orders⟩ := label
  cases happening with
  | registry operation =>
      cases happened
      have alone : Does orders [] w [operation.program] _ := does_operation operation
      exact standing.alone (by cases operation <;> rfl) (by cases operation <;> rfl) (alone [])
  | requestBaseStationData =>
      cases happened
      have alone : Does orders [] w [.requestBaseStationData] _ := does_requestBaseStationData w
      exact standing.alone rfl rfl (alone [])
  | closeBaseStationDataRequest s => exact standing.closeBaseStationDataRequest happened
  | createWirelessManager =>
      cases happened
      have alone : Does orders [] w [.createWirelessManager] _ := does_createWirelessManager w
      exact standing.alone rfl rfl (alone [])
  | cancelStream i =>
      cases happened
      exact standing.cancelStream i
  | failed c =>
      simp only [ClientManager.perform] at happened
      split at happened
      · rename_i undeleted
        cases happened
        exact (standing.failed undeleted free).of_grows (.refl none _) rfl rfl
      · cases happened
  | observeChannel state =>
      cases happened
      have alone : Reached ClientThreads.step (fun _ label => label = (0, orders)) _ _ :=
        reached_observeChannel w state []
      exact standing.alone rfl rfl alone

end History

/-! ## The calls of before the loss -/

/-- **What is known of the calls** when the first `n` of them fail: each of these that is not
deleted has its failed completion still to come, and every pointer to another call is new. -/
structure LostCalls (n : Nat) (w : ClientManager) (pending : List Instr) : Prop where
  standing : Standing w pending
  count : n ≤ w.calls.length
  stores : ∀ i ∈ pending, ∀ slot c, i.stores = some (slot, c) → n ≤ c
  ended : ∀ i ∈ pending, ∀ c, i.deletes = some c → c < n
  waiting : ∀ slot c, c < n → w.handles.Undeleted slot c → .deleteCallData c ∈ pending
  events : ∀ c, .cancelEventStream c ∈ pending → w.handles.OpenedFor .deviceEvents c

/-- A call was opened for the slot since the loss. -/
def Reopened (n : Nat) (w : ClientManager) (slot : Slot) : Prop :=
  ∃ c, n ≤ c ∧ w.handles.OpenedFor slot c

section Lost

variable {n : Nat} {orders : Orders} {w w' : ClientManager} {instr : Instr} {pending pending' others : List Instr}
  {slot : Slot} {c : CallId}

theorem LostCalls.perm (perm : pending.Perm pending') (lost : LostCalls n w pending) :
    LostCalls n w pending' := by
  have same : ∀ i, i ∈ pending' ↔ i ∈ pending := fun i => perm.symm.mem_iff
  refine ⟨lost.standing.mono fun i => (same i).mp, lost.count, ?_, ?_, ?_, ?_⟩
  · simpa only [same] using lost.stores
  · simpa only [same] using lost.ended
  · simpa only [same] using lost.waiting
  · simpa only [same] using lost.events

theorem openedFor_kept (orders : Orders) (instr : Instr) (opened : w.handles.OpenedFor slot c) :
    (instr.run orders w).handles.OpenedFor slot c := by
  by_cases deletion : ∃ d, instr = .deleteCallData d
  · obtain ⟨d, rfl⟩ := deletion
    exact openedFor_deleteCallData opened
  · exact (grows_run orders fun d same => deletion ⟨d, same⟩).openedFor opened

theorem Reopened.run (orders : Orders) (instr : Instr) (reopened : Reopened n w slot) :
    Reopened n (instr.run orders w) slot := by
  obtain ⟨c, new, opened⟩ := reopened
  exact ⟨c, new, openedFor_kept orders instr opened⟩

/-- No section brings a deleted call back. -/
theorem undeleted_before (inside : c < w.calls.length) (after : (instr.run orders w).handles.Undeleted slot c) :
    w.handles.Undeleted slot c ∧ instr ≠ .deleteCallData c := by
  have resource : ∃ r, w.handles.resources[c]? = some r := by
    rw [← w.handles_resources_length] at inside
    exact ⟨_, List.getElem?_eq_getElem inside⟩
  obtain ⟨r, before⟩ := resource
  obtain ⟨r', found, here, alive⟩ := after
  by_cases deletion : ∃ d, instr = .deleteCallData d
  · obtain ⟨d, rfl⟩ := deletion
    have deleted : ((Instr.deleteCallData d).run orders w).handles.resources =
        (w.handles.delete d).resources := by
      rw [ClientManager.handles, ClientManager.handles, ← callHandles_deleteCall, Instr.run,
        calls_deleteCallData]
      rfl
    rw [deleted, Handles.delete, List.getElem?_modify, before] at found
    cases found
    by_cases same : d = c
    · simp only [if_pos same] at alive
      cases alive
    · simp only [if_neg same] at here alive
      exact ⟨⟨r, before, here, alive⟩, fun equal => same (Instr.deleteCallData.inj equal)⟩
  · obtain ⟨r'', found', slot', deleted⟩ :=
      (grows_run orders fun d same => deletion ⟨d, same⟩).kept c r before
    rw [found] at found'
    cases found'
    exact ⟨⟨r, before, slot'.symm.trans here, deleted.symm.trans alive⟩, fun same => deletion ⟨c, same⟩⟩

/-- The monitor cancels the event stream that it has stored. -/
theorem cancelEventStream_of_next (member : .cancelEventStream c ∈ instr.next orders w) :
    w.deviceEventStreamPtr = some c ∧ instr.run orders w = w := by
  cases Instr.follows_of_next member with
  | cancelledEvents stored => exact ⟨stored, rfl⟩

/-- A pointer that is going to be stored is to the call that was just opened. -/
theorem stores_opened {i : Instr} (member : i ∈ instr.next orders w) (stores : i.stores = some (slot, c)) :
    c = w.calls.length := by
  cases Instr.follows_of_next member <;> cases stores <;> rfl

/-- **One section**, of whichever thread, unless it is a clean-up that hangs. -/
theorem LostCalls.step (lost : LostCalls n w (instr :: others)) (enabled : instr.enabled w = true)
    (returns : .hang ∉ instr.next orders w) :
    LostCalls n (instr.run orders w) (instr.next orders w ++ others) where
  standing := by
    refine lost.standing.step enabled ?_
    cases instr with
    | deleteCallData c =>
        have ended := lost.ended _ List.mem_cons_self c rfl
        refine endsStored_of_returns lost.standing.fresh ?_ ?_
        · intro other member slot _ stores
          exact absurd (lost.stores other member slot c stores) (Nat.not_le_of_lt ended)
        · cases hangs : w.hangsIn orders.streams c with
          | none => rfl
          | some m => exact absurd (by simp [Instr.next, hangs]) returns
    | _ => trivial
  count := Nat.le_trans lost.count (callsGrow_run orders instr).length_le
  stores i member slot c stores := by
    rcases List.mem_append.mp member with new | old
    · rw [stores_opened new stores]
      exact lost.count
    · exact lost.stores i (List.mem_cons_of_mem _ old) slot c stores
  ended i member c deletes := by
    rcases List.mem_append.mp member with new | old
    · rw [deletes_of_next i new] at deletes
      cases deletes
    · exact lost.ended i (List.mem_cons_of_mem _ old) c deletes
  waiting slot c earlier undeleted := by
    have inside : c < w.calls.length := Nat.lt_of_lt_of_le earlier lost.count
    obtain ⟨before, other⟩ := undeleted_before inside undeleted
    refine List.mem_append_right _ ?_
    rcases List.mem_cons.mp (lost.waiting slot c earlier before) with here | later
    · exact absurd here.symm other
    · exact later
  events c member := by
    rcases List.mem_append.mp member with new | old
    · obtain ⟨stored, same⟩ := cancelEventStream_of_next new
      rw [same]
      exact lost.standing.owned.stored .deviceEvents c stored
    · exact openedFor_kept orders instr (lost.events c (List.mem_cons_of_mem _ old))

/-- **A pointer that lasts is new**: the call that it is to is not deleted, so if its failed completion
is not to come either, it was opened since the loss. -/
theorem LostCalls.reopened (lost : LostCalls n w pending) (data : slot ≠ .deviceEvents)
    (stored : w.stored slot = some c) (lasting : .deleteCallData c ∉ pending) : Reopened n w slot := by
  have undeleted := lost.standing.fresh.stored slot c stored data
  refine ⟨c, ?_, undeleted.openedFor⟩
  by_contra earlier
  exact lasting (lost.waiting slot c (Nat.lt_of_not_le earlier) undeleted)

end Lost

/-! ## The calls since the loss -/

/-- The manager is off the list, or a thread is about to take it off. -/
def Leaving (w : ClientManager) (pending : List Instr) (m : ManagerId) : Prop :=
  m < w.headers.length ∧ (m ∉ w.dataManagerList ∨ .eraseManager m ∈ pending)

/-- Calls for devices, base stations and wireless managers that are opened since the loss go on, as
long as their manager stays. -/
def Lasting (n : Nat) (w : ClientManager) (pending : List Instr) : Prop :=
  ∀ slot c, n ≤ c → w.handles.OpenedFor slot c → slot ≠ .deviceEvents → (∀ m, slot ≠ .frame m) →
    w.handles.Live slot c ∨ ∃ m, slot.manager = some m ∧ Leaving w pending m

/-- It does not lead to the stream of a device being closed by an event. -/
def Instr.connects : Instr → Bool
  | deviceEventProcessor event => event.connected
  | recordDevice _ deviceConnected | forDataManagers _ deviceConnected => deviceConnected
  | updateStreams _ _ deviceConnected | updateDeviceDataStream _ _ deviceConnected => deviceConnected
  | updateDataFrameStream _ _ deviceConnected => deviceConnected
  | cancelDataStream _ _ => false
  | _ => true

section Lasting

variable {n : Nat} {orders : Orders} {w w' : ClientManager} {instr : Instr} {pending pending' others : List Instr}
  {m : ManagerId} {slot : Slot} {c : CallId}

theorem connects_of_next (connects : instr.connects = true) : ∀ i ∈ instr.next orders w, i.connects = true := by
  intro i member
  cases Instr.follows_of_next member <;> first | rfl | exact connects

theorem Leaving.step (leaving : Leaving w (instr :: others) m) (enlisted : Enlisted w) :
    Leaving (instr.run orders w) (instr.next orders w ++ others) m := by
  obtain ⟨made, leaves⟩ := leaving
  refine ⟨Nat.lt_of_lt_of_le made (length_headers_run orders w instr), ?_⟩
  rcases leaves with absent | pending
  · exact .inl (absent_run orders made absent)
  · rcases List.mem_cons.mp pending with here | later
    · subst here
      exact .inl (enlisted.distinct.not_mem_erase)
    · exact .inr (List.mem_append_right _ later)

/-- **One section.**  A close takes its manager off the list after it has cancelled the streams. -/
theorem Lasting.step (lasting : Lasting n w (instr :: others)) (lost : LostCalls n w (instr :: others))
    (connects : instr.connects = true)
    (closes : ∀ m, instr = .cancelAllDataStreams m → .eraseManager m ∈ others) :
    Lasting n (instr.run orders w) (instr.next orders w ++ others) := by
  intro slot c new opened data frame
  rcases openedFor_run opened with old | live
  · rcases lasting slot c new old data frame with live | ⟨m, own, leaving⟩
    · by_cases cancelled : instr.mayCancel slot
      · cases instr with
        | cancelAllDataStreams m =>
            obtain ⟨key, rfl⟩ := cancelled
            by_cases made : m < w.headers.length
            · refine .inr ⟨m, rfl, ?_, .inr (List.mem_append_right _ (closes m rfl))⟩
              exact Nat.lt_of_lt_of_le made (length_headers_run orders w _)
            · rw [length_headers] at made
              have none : w.dataManagers[m]? = none := List.getElem?_eq_none (Nat.le_of_not_lt made)
              have same : (Instr.cancelAllDataStreams m).run orders w = w := by
                show w.onCalls m _ = w
                rw [ClientManager.onCalls, none]
              rw [same]
              exact .inl live
        | cancelDataStream m deviceId => cases connects
        | cancelDataFrameStream m reopen => exact absurd cancelled (frame m)
        | cancelEventStream d => exact absurd cancelled data
        | _ => cases cancelled
      · refine .inl (live_run lost.standing.owned ?_ cancelled ?_ live)
        · rintro d rfl
          exact lost.events d List.mem_cons_self
        · rintro rfl
          exact absurd (lost.ended _ List.mem_cons_self c rfl) (Nat.not_lt_of_le new)
    · exact .inr ⟨m, own, leaving.step lost.standing.enlisted⟩
  · exact .inl live

end Lasting

end OmmoSdk.Client
