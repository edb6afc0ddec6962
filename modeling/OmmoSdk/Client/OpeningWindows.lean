/-
# Client.OpeningWindows — one stream for each device, while threads interleave

From the moment a thread has seen that a slot has no stream until it has stored the call
it opens for it, the slot is in its window.  `opens` reads the window off the pending
instructions.  The existence check, the opening and the storing are sections of their
own, so two threads can be in the window of one slot, and then the call of one of them
is never stored.

`OneOpener` is the condition that keeps them apart, on the three instructions that start
or close a window.  Under it `Fits` is an invariant: what is live and what is stored for
a slot is told by the pending instructions of that slot alone.
-/
import OmmoSdk.Client.Follows
import OmmoSdk.Client.RegistryRuns

namespace OmmoSdk.Client

open OmmoSdk.Theory
open OmmoSdk.Sdk
open OmmoSdk.Storage

set_option autoImplicit false

namespace Instr

/-- The slot whose window the instruction is in. -/
def opens : Instr → Option Slot
  | openTrackingDeviceDataStream m device => some (.device m device.hash)
  | addDataStream m deviceId _ => some (.device m deviceId.hash)
  | removeDataFrameStream m true => some (.frame m)
  | openDataFrame m => some (.frame m)
  | forFrameDevices m => some (.frame m)
  | prepareFrameDevices m _ _ => some (.frame m)
  | openDataFrameStream m _ => some (.frame m)
  | setDataFrameStream m _ => some (.frame m)
  | _ => none

/-- The slot whose pointer is going to be removed, its call being cancelled already. -/
def removes : Instr → Option Slot
  | removeDataStream m deviceId => some (.device m deviceId.hash)
  | _ => none

/-- The manager that an instruction is about, and the kind of manager it is for. -/
def uses : Instr → Option (ManagerId × DataStreamType)
  | openDeviceDataStream m => some (m, .deviceData)
  | forConnectedDevices m => some (m, .deviceData)
  | updateDeviceDataStream m _ _ => some (m, .deviceData)
  | dataStreamExists m _ => some (m, .deviceData)
  | openTrackingDeviceDataStream m _ => some (m, .deviceData)
  | addDataStream m _ _ => some (m, .deviceData)
  | cancelDataStream m _ => some (m, .deviceData)
  | removeDataStream m _ => some (m, .deviceData)
  | updateDataFrameStream m _ _ => some (m, .dataFrame)
  | cancelDataFrameStream m _ => some (m, .dataFrame)
  | removeDataFrameStream m _ => some (m, .dataFrame)
  | openDataFrame m => some (m, .dataFrame)
  | forFrameDevices m => some (m, .dataFrame)
  | prepareFrameDevices m _ _ => some (m, .dataFrame)
  | openDataFrameStream m _ => some (m, .dataFrame)
  | setDataFrameStream m _ => some (m, .dataFrame)
  | _ => none

/-- The instructions of data requests and device events. -/
def registry : Instr → Bool
  | lock _ | unlock _ => true
  | requestDeviceData _ | requestDataFrame _ | emplaceManager _ _ => true
  | openDeviceDataStream _ | forConnectedDevices _ | updateDeviceDataStream _ _ _ => true
  | isStorageAvailable _ _ | addDeviceStorage _ _ | removeDeviceStorage _ _ => true
  | dataStreamExists _ _ | openTrackingDeviceDataStream _ _ | addDataStream _ _ _ => true
  | cancelDataStream _ _ | removeDataStream _ _ => true
  | openDataFrame _ | forFrameDevices _ | prepareFrameDevices _ _ _ => true
  | openDataFrameStream _ _ | setDataFrameStream _ _ | updateDataFrameStream _ _ _ => true
  | cancelDataFrameStream _ reopen | removeDataFrameStream _ reopen => reopen
  | deviceEventProcessor _ | recordDevice _ _ | forDataManagers _ _ | updateStreams _ _ _ => true
  | _ => false

/-- **No thread enters a window in which another one is**, and none stores into a slot
that another one is about to empty. -/
def OneOpener (w : ClientManager) (pending : Set Instr) (instr : Instr) : Prop :=
  match instr with
  | dataStreamExists m device =>
      w.dataStreamExists m device.id = false →
        ∀ other ∈ pending, other.opens ≠ some (.device m device.hash)
  | addDataStream m deviceId _ =>
      ∀ other ∈ pending, other.removes ≠ some (.device m deviceId.hash)
  | cancelDataFrameStream m _ => ∀ other ∈ pending, other.opens ≠ some (.frame m)
  | _ => True

end Instr

/-! ## The invariant -/

/-- What is live and what is stored for one slot. -/
structure SlotFits (w : ClientManager) (pending : List Instr) (k : Slot) : Prop where
  /-- a call that is opened and not stored is the only live one -/
  opened : ∀ instr ∈ pending, ∀ c, instr.stores = some (k, c) → ∀ c', w.handles.Live k c' ↔ c' = c
  unopened : ∀ instr ∈ pending, instr.opens = some k → instr.stores = none → ∀ c, ¬ w.handles.Live k c
  /-- only the window of a device is entered with the slot empty -/
  vacant : ∀ instr ∈ pending, instr.opens = some k → ∀ m key, k = .device m key → w.stored k = none
  /-- outside the window the live call is the stored one -/
  settled : (∀ instr ∈ pending, instr.opens ≠ some k) → ∀ c,
    (w.handles.Live k c → w.stored k = some c) ∧
      (w.stored k = some c → w.handles.Live k c ∨ ∃ instr ∈ pending, instr.removes = some k)
  removing : (∀ instr ∈ pending, instr.opens ≠ some k) →
    (∃ instr ∈ pending, instr.removes = some k) → ∀ c, ¬ w.handles.Live k c
  own : ∀ c, w.stored k = some c → w.handles.Undeleted k c

/-- Manager `m` was made, for requests of the given type. -/
def Holds (w : ClientManager) (m : ManagerId) (streamType : DataStreamType) : Prop :=
  ∃ manager, w.dataManagers[m]? = some manager ∧ manager.streamType = streamType

structure Fits (w : ClientManager) (pending : List Instr) : Prop where
  registry : ∀ instr ∈ pending, instr.registry = true
  typed : ∀ instr ∈ pending, ∀ m streamType, instr.uses = some (m, streamType) → Holds w m streamType
  once : (pending.filterMap Instr.opens).Nodup
  slots : ∀ k : Slot, k.manager.isSome → SlotFits w pending k

section Frames

variable {w w' : ClientManager} {pending pending' : List Instr} {k : Slot}

theorem Fits.perm (perm : pending.Perm pending') (fits : Fits w pending) : Fits w pending' := by
  have same : ∀ instr, instr ∈ pending' ↔ instr ∈ pending := fun instr => perm.symm.mem_iff
  refine ⟨?_, ?_, (perm.filterMap _).nodup_iff.mp fits.once, ?_⟩
  · simpa only [same] using fits.registry
  · simpa only [same] using fits.typed
  · intro k data
    have slot := fits.slots k data
    constructor
    · simpa only [same] using slot.opened
    · simpa only [same] using slot.unopened
    · simpa only [same] using slot.vacant
    · simpa only [same] using slot.settled
    · simpa only [same] using slot.removing
    · exact slot.own

/-- A step that has nothing to do with the slot. -/
theorem SlotFits.congr (fits : SlotFits w pending k)
    (live : ∀ c, w'.handles.Live k c ↔ w.handles.Live k c) (stored : w'.stored k = w.stored k)
    (undeleted : ∀ c, w.handles.Undeleted k c → w'.handles.Undeleted k c)
    (opens : ∀ instr, instr.opens = some k → (instr ∈ pending' ↔ instr ∈ pending))
    (removes : ∀ instr, instr.removes = some k → (instr ∈ pending' ↔ instr ∈ pending))
    (stores : ∀ instr c, instr.stores = some (k, c) → (instr ∈ pending' ↔ instr ∈ pending)) :
    SlotFits w' pending' k := by
  have closed : (∀ instr ∈ pending', instr.opens ≠ some k) → ∀ instr ∈ pending, instr.opens ≠ some k :=
    fun none instr member inside => none instr ((opens instr inside).mpr member) inside
  constructor
  · intro instr member c holds c'
    rw [live]
    exact fits.opened instr ((stores instr c holds).mp member) c holds c'
  · intro instr member inside unopened c
    rw [live]
    exact fits.unopened instr ((opens instr inside).mp member) inside unopened c
  · intro instr member inside
    rw [stored]
    exact fits.vacant instr ((opens instr inside).mp member) inside
  · intro none c
    rw [live, stored]
    obtain ⟨toStored, toLive⟩ := fits.settled (closed none) c
    refine ⟨toStored, fun pointer => (toLive pointer).imp_right ?_⟩
    rintro ⟨instr, member, removing⟩
    exact ⟨instr, (removes instr removing).mpr member, removing⟩
  · rintro none ⟨instr, member, removing⟩ c
    rw [live]
    exact fits.removing (closed none) ⟨instr, (removes instr removing).mp member, removing⟩ c
  · intro c pointer
    rw [stored] at pointer
    exact undeleted c (fits.own c pointer)

/-- Only calls for streams in their window are stored. -/
theorem opens_of_stores {instr : Instr} {c : CallId} (registry : instr.registry = true)
    (stores : instr.stores = some (k, c)) : instr.opens = some k := by
  cases instr <;> cases stores
  · rfl
  · rfl
  · cases registry
  · cases registry
  · cases registry

/-- The instruction has nothing to do with any slot but `k`. -/
def OnlyAbout (k : Slot) (instr : Instr) : Prop :=
  ∀ j, j ≠ k → instr.opens ≠ some j ∧ instr.removes ≠ some j ∧ ∀ c, instr.stores ≠ some (j, c)

/-- **One instruction.**  It is enough to look at the slot it is about. -/
theorem Fits.step_at {instr : Instr} {new others : List Instr} (fits : Fits w (instr :: others))
    (data : k.manager.isSome) (touches : w.handles.Touches k w'.handles)
    (before : OnlyAbout k instr) (after : ∀ i ∈ new, OnlyAbout k i)
    (registry : ∀ i ∈ new, i.registry = true)
    (typed : ∀ i ∈ new ++ others, ∀ m streamType, i.uses = some (m, streamType) →
      Holds w' m streamType)
    (once : ((new ++ others).filterMap Instr.opens).Nodup)
    (here : SlotFits w' (new ++ others) k) : Fits w' (new ++ others) := by
  refine ⟨?_, typed, once, ?_⟩
  · intro i member
    rcases List.mem_append.mp member with fresh | old
    · exact registry i fresh
    · exact fits.registry i (List.mem_cons_of_mem _ old)
  · intro j dataJ
    by_cases same : j = k
    · subst same
      exact here
    · have own := (fits.slots k data).own
      have elsewhere : ∀ i : Instr, (∀ x ∈ instr :: new, x = i → False) →
          (i ∈ new ++ others ↔ i ∈ instr :: others) := by
        intro i absent
        have notInstr : i ≠ instr := fun h => absent instr List.mem_cons_self h.symm
        have notNew : i ∉ new := fun member => absent i (List.mem_cons_of_mem _ member) rfl
        simp [notInstr, notNew]
      have about : ∀ x ∈ instr :: new, OnlyAbout k x := List.forall_mem_cons.mpr ⟨before, after⟩
      refine (fits.slots j dataJ).congr (fun c => touches.live_other same fun i pointer => (own i pointer).openedFor)
        (touches.stored_other same) (fun c => touches.undeleted) (fun i holds => elsewhere i ?_)
        (fun i holds => elsewhere i ?_) fun i c holds => elsewhere i ?_
      · rintro x member rfl
        exact (about x member j same).1 holds
      · rintro x member rfl
        exact (about x member j same).2.1 holds
      · rintro x member rfl
        exact (about x member j same).2.2 c holds

/-- The instruction has nothing to do with any slot. -/
def Neutral (instr : Instr) : Prop :=
  instr.opens = none ∧ instr.removes = none ∧ instr.stores = none

theorem Neutral.onlyAbout {instr : Instr} (neutral : Neutral instr) (k : Slot) : OnlyAbout k instr := by
  intro j _
  rw [neutral.1, neutral.2.1, neutral.2.2]
  simp

theorem filterMap_neutral {new others : List Instr} (neutral : ∀ i ∈ new, Neutral i) :
    (new ++ others).filterMap Instr.opens = others.filterMap Instr.opens := by
  rw [List.filterMap_append, List.filterMap_eq_nil_iff.mpr fun i member => (neutral i member).1,
    List.nil_append]

/-- An instruction that has nothing to do with the streams. -/
theorem Fits.step_neutral {instr : Instr} {new others : List Instr}
    (fits : Fits w (instr :: others)) (handles : w'.handles = w.handles)
    (before : Neutral instr) (after : ∀ i ∈ new, Neutral i)
    (registry : ∀ i ∈ new, i.registry = true)
    (typed : ∀ i ∈ new ++ others, ∀ m streamType, i.uses = some (m, streamType) →
      ∃ manager, w'.dataManagers[m]? = some manager ∧ manager.streamType = streamType) :
    Fits w' (new ++ others) := by
  have about : ∀ x ∈ instr :: new, Neutral x := List.forall_mem_cons.mpr ⟨before, after⟩
  have elsewhere : ∀ i : Instr, ¬ Neutral i → (i ∈ new ++ others ↔ i ∈ instr :: others) := by
    intro i touching
    have notInstr : i ≠ instr := fun h => touching (h ▸ before)
    have notNew : i ∉ new := fun member => touching (after i member)
    simp [notInstr, notNew]
  refine ⟨?_, typed, ?_, ?_⟩
  · intro i member
    rcases List.mem_append.mp member with fresh | old
    · exact registry i fresh
    · exact fits.registry i (List.mem_cons_of_mem _ old)
  · rw [filterMap_neutral after]
    have once := fits.once
    rwa [List.filterMap_cons_none before.1] at once
  · intro k data
    refine (fits.slots k data).congr (fun c => by rw [handles])
      (by rw [← ClientManager.handles_stored, handles]; rfl) (fun c => by rw [handles]; exact id)
      (fun i holds => elsewhere i fun neutral => ?_) (fun i holds => elsewhere i fun neutral => ?_)
      fun i c holds => elsewhere i fun neutral => ?_
    · exact Option.some_ne_none k (holds.symm.trans neutral.1)
    · exact Option.some_ne_none k (holds.symm.trans neutral.2.1)
    · exact Option.some_ne_none (k, c) (holds.symm.trans neutral.2.2)

/-! ## The slot itself -/

/-- A slot in its window, with no call opened for it yet. -/
theorem SlotFits.of_unopened {instr : Instr} (inside : instr.opens = some k) (member : instr ∈ pending)
    (unopened : ∀ i ∈ pending, i.opens = some k → i.stores = none)
    (registry : ∀ i ∈ pending, i.registry = true)
    (live : ∀ c, ¬ w.handles.Live k c) (vacant : ∀ m key, k = .device m key → w.stored k = none)
    (own : ∀ c, w.stored k = some c → w.handles.Undeleted k c) : SlotFits w pending k where
  opened i old c stores := by
    have none := unopened i old (opens_of_stores (registry i old) stores)
    rw [stores] at none
    cases none
  unopened _ _ _ _ := live
  vacant _ _ _ := vacant
  settled outside := absurd inside (outside instr member)
  removing outside := absurd inside (outside instr member)
  own := own

/-- A slot in its window, with a call that is not stored yet. -/
theorem SlotFits.of_opened {instr : Instr} {c : CallId} (stores : instr.stores = some (k, c))
    (member : instr ∈ pending) (only : ∀ i ∈ pending, i.opens = some k → i = instr)
    (registry : ∀ i ∈ pending, i.registry = true) (live : ∀ c', w.handles.Live k c' ↔ c' = c)
    (vacant : ∀ m key, k = .device m key → w.stored k = none)
    (own : ∀ c, w.stored k = some c → w.handles.Undeleted k c) : SlotFits w pending k where
  opened i old c' stores' := by
    rw [only i old (opens_of_stores (registry i old) stores'), stores] at stores'
    cases stores'
    exact live
  unopened i old inside none := by
    rw [only i old inside, stores] at none
    cases none
  vacant _ _ _ := vacant
  settled outside := absurd (opens_of_stores (registry instr member) stores) (outside instr member)
  removing outside := absurd (opens_of_stores (registry instr member) stores) (outside instr member)
  own := own

/-- A slot outside its window, with nothing to be removed. -/
theorem SlotFits.of_settled (outside : ∀ i ∈ pending, i.opens ≠ some k)
    (untouched : ∀ i ∈ pending, i.removes ≠ some k) (registry : ∀ i ∈ pending, i.registry = true)
    (live : ∀ c, w.handles.Live k c ↔ w.stored k = some c) : SlotFits w pending k where
  opened i member c stores :=
    absurd (opens_of_stores (registry i member) stores) (outside i member)
  unopened i member inside := absurd inside (outside i member)
  vacant i member inside := absurd inside (outside i member)
  settled _ c := ⟨(live c).mp, fun pointer => .inl ((live c).mpr pointer)⟩
  removing _ := by
    rintro ⟨i, member, removes⟩
    exact absurd removes (untouched i member)
  own c pointer := ((live c).mpr pointer).undeleted

end Frames

/-! ## The managers of the instructions -/

/-- What the managers were made with, in the order they were made. -/
def ClientManager.headers (w : ClientManager) : List (DataStreamType × DataRequest) :=
  w.dataManagers.map DataManager.header

def Instr.made : Instr → List (DataStreamType × DataRequest)
  | emplaceManager request streamType => [(DataManager.init request streamType).header]
  | _ => []

section Managers

variable {orders : Orders} {w : ClientManager} {m : ManagerId} {manager : DataManager}
  {streamType : DataStreamType}

theorem headers_onManager {f : DataManager → DataManager}
    (header : ∀ manager, (f manager).header = manager.header) : (w.onManager m f).headers = w.headers := by
  refine List.ext_getElem? fun m' => ?_
  simp only [ClientManager.headers, ClientManager.onManager, List.getElem?_map, List.getElem?_modify]
  cases w.dataManagers[m']? with
  | none => rfl
  | some manager => by_cases here : m = m' <;> simp [here, header]

theorem headers_onCalls {f : DataManager → List CallData → List CallData} :
    (w.onCalls m f).headers = w.headers := by
  rw [ClientManager.headers, ClientManager.dataManagers_onCalls, ClientManager.headers]

theorem headers_clearAssociation {order : IterationOrder CallId} {c : CallId} {stream : Stream}
    {w' : ClientManager} (clears : w.clearAssociation order c stream = some w') : w'.headers = w.headers := by
  cases stream with
  | deviceData m request | dataFrame m request =>
      simp only [ClientManager.clearAssociation] at clears
      split at clears
      · cases clears
        rfl
      · rename_i manager found
        obtain ⟨result, run, rfl⟩ := Option.map_eq_some_iff.mp clears
        have header := (DataManager.removesOnly_of_clears run).header
        show (w.dataManagers.set m result.2).map DataManager.header = w.headers
        obtain ⟨inside, rfl⟩ := List.getElem?_eq_some_iff.mp found
        rw [List.map_set, header, ClientManager.headers]
        conv_lhs => rw [← List.getElem_map DataManager.header (h := by simpa using inside)]
        exact List.set_getElem_self _
  | baseStation _ | wireless _ | deviceEvents =>
      cases clears
      rfl

theorem headers_deleteCallData {order : IterationOrder CallId} {c : CallId} :
    (ClientManager.deleteCallData order w c).headers = w.headers := by
  unfold ClientManager.deleteCallData
  split
  · rfl
  · rename_i call found
    cases clears : ({ w with calls := deleteCall w.calls c } : ClientManager).clearAssociation order c
        call.stream with
    | none =>
        simp only [clears, Option.getD_none]
        rfl
    | some w' =>
        simp only [clears, Option.getD_some]
        have marked := headers_clearAssociation clears
        exact marked

/-- **A manager stays what it was made for.** -/
theorem headers_run (orders : Orders) (w : ClientManager) (instr : Instr) :
    (instr.run orders w).headers = w.headers ++ instr.made := by
  have same : ∀ {w' : ClientManager}, w'.headers = w.headers → w'.headers = w.headers ++ [] :=
    fun headers => headers.trans (List.append_nil _).symm
  cases instr with
  | emplaceManager request streamType => exact List.map_append
  | cancelAllDataStreams m | cancelDataStream m deviceId | cancelDataFrameStream m reopen =>
      exact same headers_onCalls
  | clearDataStreams m | setDataFrameStream m c | removeDataFrameStream m reopen =>
      exact same (headers_onManager fun _ => rfl)
  | deleteCallData c => exact same headers_deleteCallData
  | addDeviceStorage m device =>
      exact same (headers_onManager fun manager => manager.header_addDeviceStorage device 500)
  | removeDeviceStorage m deviceId =>
      exact same (headers_onManager fun manager => manager.header_removeDeviceStorage deviceId)
  | addDataStream m deviceId c =>
      exact same (headers_onManager fun manager => manager.header_addDataStream deviceId c)
  | removeDataStream m deviceId =>
      exact same (headers_onManager fun manager => manager.header_removeDataStream deviceId)
  | openTrackingDeviceDataStream m device | openDataFrameStream m devices =>
      refine same ?_
      simp only [Instr.run]
      split <;> rfl
  | recordDevice device deviceConnected =>
      obtain ⟨connected, recorded⟩ := ClientManager.recordDevice_frame w device deviceConnected
      rw [Instr.run, recorded]
      exact same rfl
  | _ => exact same rfl

theorem holds_iff : Holds w m streamType ↔ ∃ request, w.headers[m]? = some (streamType, request) := by
  simp only [Holds, ClientManager.headers, List.getElem?_map, Option.map_eq_some_iff]
  constructor
  · rintro ⟨manager, held, rfl⟩
    exact ⟨manager.request, manager, held, rfl⟩
  · rintro ⟨request, manager, held, header⟩
    exact ⟨manager, held, congrArg Prod.fst header⟩

theorem holds_run {instr : Instr} (holds : Holds w m streamType) :
    Holds (instr.run orders w) m streamType := by
  obtain ⟨request, header⟩ := holds_iff.mp holds
  refine holds_iff.mpr ⟨request, ?_⟩
  rw [headers_run, List.getElem?_append_left (List.getElem?_eq_some_iff.mp header).1]
  exact header

/-- The instructions that follow are about the same manager, or about one that they found. -/
theorem holds_next {instr : Instr}
    (typed : ∀ m streamType, instr.uses = some (m, streamType) → Holds w m streamType) :
    ∀ i ∈ instr.next orders w, ∀ m streamType, i.uses = some (m, streamType) →
      Holds (instr.run orders w) m streamType := by
  intro i member m streamType uses
  have inherited : i.uses = none ∨ i.uses = instr.uses → Holds (instr.run orders w) m streamType := by
    rintro (none | same)
    · rw [none] at uses
      cases uses
    · exact holds_run (typed m streamType (same.symm.trans uses))
  cases Instr.follows_of_next member with
  | deviceDataStreams request | dataFrameStream request =>
      cases uses
      exact ⟨_, ClientManager.emplaceManager_held w request _, rfl⟩
  | updatedDevice held isDevice =>
      cases uses
      exact ⟨_, held, isDevice⟩
  | updatedFrame held isFrame | closedFrame held isFrame =>
      cases uses
      exact ⟨_, held, isFrame⟩
  | _ => first | exact inherited (.inl rfl) | exact inherited (.inr rfl)

theorem registry_next (orders : Orders) {instr : Instr} (registry : instr.registry = true) :
    ∀ i ∈ instr.next orders w, i.registry = true := by
  intro i member
  cases Instr.follows_of_next member <;> first | rfl | exact registry

end Managers

/-! ## One instruction -/

section Steps

variable (orders : Orders) {w w' : ClientManager} {k : Slot} {instr : Instr}
  {new others : List Instr}

theorem Fits.typed_step (fits : Fits w (instr :: others)) :
    ∀ i ∈ instr.next orders w ++ others, ∀ m streamType, i.uses = some (m, streamType) →
      Holds (instr.run orders w) m streamType := by
  intro i member m streamType uses
  rcases List.mem_append.mp member with fresh | old
  · exact holds_next (fits.typed instr List.mem_cons_self) i fresh m streamType uses
  · exact holds_run (fits.typed i (List.mem_cons_of_mem _ old) m streamType uses)

/-- The instruction in a window is the only one in it. -/
theorem Fits.outside (fits : Fits w (instr :: others)) (inside : instr.opens = some k) :
    ∀ i ∈ others, i.opens ≠ some k := by
  intro i member other
  have once := fits.once
  rw [List.filterMap_cons_some inside, List.nodup_cons] at once
  exact once.1 (List.mem_filterMap.mpr ⟨i, member, other⟩)

theorem Fits.once_others (fits : Fits w (instr :: others)) :
    (others.filterMap Instr.opens).Nodup :=
  fits.once.sublist ((List.sublist_cons_self instr others).filterMap _)

theorem Fits.registry_append (fits : Fits w (instr :: others))
    (registry : ∀ i ∈ new, i.registry = true) : ∀ i ∈ new ++ others, i.registry = true := by
  intro i member
  rcases List.mem_append.mp member with fresh | old
  · exact registry i fresh
  · exact fits.registry i (List.mem_cons_of_mem _ old)

/-- The instructions of a window: some that have nothing to do with it, and one in it. -/
theorem onlyAbout_window {first : Instr} (after : ∀ i ∈ new, Neutral i) (about : OnlyAbout k first) :
    ∀ i ∈ new ++ [first], OnlyAbout k i := by
  intro i member
  rcases List.mem_append.mp member with neutral | last
  · exact (after i neutral).onlyAbout k
  · rw [List.mem_singleton.mp last]
    exact about

theorem only_window {first : Instr} (outside : ∀ i ∈ others, i.opens ≠ some k)
    (after : ∀ i ∈ new, Neutral i) :
    ∀ i ∈ new ++ [first] ++ others, i.opens = some k → i = first := by
  intro i member opens
  simp only [List.mem_append, List.mem_singleton] at member
  rcases member with (neutral | rfl) | old
  · exact absurd ((after i neutral).1.symm.trans opens) (by simp)
  · rfl
  · exact absurd opens (outside i old)

theorem once_window {first : Instr} (outside : ∀ i ∈ others, i.opens ≠ some k)
    (after : ∀ i ∈ new, Neutral i) (inside : first.opens = some k)
    (once : (others.filterMap Instr.opens).Nodup) :
    ((new ++ [first] ++ others).filterMap Instr.opens).Nodup := by
  rw [List.append_assoc, filterMap_neutral after, List.singleton_append,
    List.filterMap_cons_some inside, List.nodup_cons]
  refine ⟨?_, once⟩
  intro member
  obtain ⟨i, old, opens⟩ := List.mem_filterMap.mp member
  exact outside i old opens

/-- A step into the window of a slot, or in it before the call is opened. -/
theorem Fits.to_unopened {first : Instr} (fits : Fits w (instr :: others))
    (data : k.manager.isSome) (touches : w.handles.Touches k w'.handles)
    (before : OnlyAbout k instr) (outside : ∀ i ∈ others, i.opens ≠ some k)
    (after : ∀ i ∈ new, Neutral i) (about : OnlyAbout k first) (inside : first.opens = some k)
    (unopened : first.stores = none) (registry : ∀ i ∈ new ++ [first], i.registry = true)
    (typed : ∀ i ∈ new ++ [first] ++ others, ∀ m streamType, i.uses = some (m, streamType) →
      Holds w' m streamType)
    (live : ∀ c, ¬ w'.handles.Live k c) (kept : ∀ c, w'.stored k = some c → w.stored k = some c)
    (vacant : ∀ m key, k = .device m key → w'.stored k = none) :
    Fits w' (new ++ [first] ++ others) := by
  refine fits.step_at data touches before (onlyAbout_window after about) registry typed
    (once_window outside after inside fits.once_others) ?_
  refine .of_unopened inside (by simp) ?_ (fits.registry_append registry)
    live vacant fun c pointer => touches.undeleted ((fits.slots k data).own c (kept c pointer))
  intro i member opens
  rw [only_window outside after i member opens]
  exact unopened

/-- The call is opened. -/
theorem Fits.to_opened {first : Instr} {c : CallId} (fits : Fits w (instr :: others))
    (data : k.manager.isSome) (touches : w.handles.Touches k w'.handles)
    (before : OnlyAbout k instr) (outside : ∀ i ∈ others, i.opens ≠ some k)
    (about : OnlyAbout k first) (stores : first.stores = some (k, c))
    (registry : first.registry = true)
    (typed : ∀ i ∈ [first] ++ others, ∀ m streamType, i.uses = some (m, streamType) →
      Holds w' m streamType)
    (live : ∀ c', w'.handles.Live k c' ↔ c' = c)
    (kept : ∀ c, w'.stored k = some c → w.stored k = some c)
    (vacant : ∀ m key, k = .device m key → w'.stored k = none) :
    Fits w' ([first] ++ others) := by
  have after : ∀ i ∈ ([] : List Instr), Neutral i := fun i member => by cases member
  have inside := opens_of_stores registry stores
  have registered : ∀ i ∈ [first], i.registry = true := by simpa using registry
  refine fits.step_at data touches before (onlyAbout_window after about) registered typed
    (once_window outside after inside fits.once_others) ?_
  exact .of_opened stores (by simp) (only_window outside after) (fits.registry_append registered) live
    vacant fun c pointer => touches.undeleted ((fits.slots k data).own c (kept c pointer))

/-- The call is stored: the window is closed. -/
theorem Fits.to_settled (fits : Fits w (instr :: others)) (data : k.manager.isSome)
    (touches : w.handles.Touches k w'.handles) (before : OnlyAbout k instr)
    (outside : ∀ i ∈ others, i.opens ≠ some k) (untouched : ∀ i ∈ others, i.removes ≠ some k)
    (typed : ∀ i ∈ [] ++ others, ∀ m streamType, i.uses = some (m, streamType) →
      Holds w' m streamType)
    (live : ∀ c, w'.handles.Live k c ↔ w'.stored k = some c) : Fits w' ([] ++ others) := by
  have nothing : ∀ {p : Instr → Prop}, ∀ i ∈ ([] : List Instr), p i := fun i member => by cases member
  exact fits.step_at data touches before nothing nothing typed fits.once_others
    (.of_settled outside untouched (fits.registry_append nothing) live)

/-- A step on the way from the start of a window to the opening of its call. -/
theorem Fits.pass {first : Instr} (fits : Fits w (instr :: others)) (data : k.manager.isSome)
    (touches : w.handles.Touches k w'.handles)
    (live : ∀ c, w'.handles.Live k c ↔ w.handles.Live k c)
    (kept : ∀ c, w'.stored k = some c → w.stored k = some c) (before : OnlyAbout k instr)
    (within : instr.opens = some k) (notYet : instr.stores = none) (after : ∀ i ∈ new, Neutral i)
    (about : OnlyAbout k first) (inside : first.opens = some k) (unopened : first.stores = none)
    (registry : ∀ i ∈ new ++ [first], i.registry = true)
    (typed : ∀ i ∈ new ++ [first] ++ others, ∀ m streamType, i.uses = some (m, streamType) →
      Holds w' m streamType) :
    Fits w' (new ++ [first] ++ others) := by
  have slot := fits.slots k data
  refine fits.to_unopened data touches before (fits.outside within) after about inside unopened
    registry typed ?_ kept ?_
  · intro c
    rw [live]
    exact slot.unopened instr List.mem_cons_self within notYet c
  · intro m key device
    have vacant := slot.vacant instr List.mem_cons_self within m key device
    rw [Option.eq_none_iff_forall_ne_some]
    intro c pointer
    rw [kept c pointer] at vacant
    cases vacant

theorem onlyAbout_of (instr : Instr) (opens : instr.opens = none ∨ instr.opens = some k)
    (removes : instr.removes = none ∨ instr.removes = some k)
    (stores : ∀ j c, instr.stores = some (j, c) → j = k) : OnlyAbout k instr := by
  intro j other
  refine ⟨?_, ?_, fun c stored => other (stores j c stored)⟩
  · rcases opens with none | here
    · simp [none]
    · simp [here, Ne.symm other]
  · rcases removes with none | here
    · simp [none]
    · simp [here, Ne.symm other]

/-! ### The window of a data frame stream -/

section Frame

variable {m : ManagerId}

/-- The instructions of a frame window before its call is opened. -/
theorem onlyAbout_frame (instr : Instr) (opens : instr.opens = none ∨ instr.opens = some (.frame m))
    (removes : instr.removes = none) (stores : instr.stores = none) : OnlyAbout (.frame m) instr :=
  onlyAbout_of instr opens (.inl removes) fun j c stored => by rw [stores] at stored; cases stored

theorem neutral_lock (mutex : Mutex) : ∀ i ∈ [Instr.lock mutex], Neutral i := by
  intro i member
  rw [List.mem_singleton.mp member]
  exact ⟨rfl, rfl, rfl⟩

theorem neutral_unlock (mutex : Mutex) : ∀ i ∈ [Instr.unlock mutex], Neutral i := by
  intro i member
  rw [List.mem_singleton.mp member]
  exact ⟨rfl, rfl, rfl⟩

theorem neutral_nil : ∀ i ∈ ([] : List Instr), Neutral i := fun i member => by cases member

theorem fits_openDataFrame (fits : Fits w (.openDataFrame m :: others)) :
    Fits ((Instr.openDataFrame m).run orders w) ((Instr.openDataFrame m).next orders w ++ others) := by
  have typed := fits.typed_step orders
  have registry := registry_next orders (fits.registry _ List.mem_cons_self) (w := w)
  obtain ⟨manager, held, isFrame⟩ := fits.typed _ List.mem_cons_self m .dataFrame rfl
  have shape : (Instr.openDataFrame m).next orders w =
      [.lock .connectedDevices] ++ [.forFrameDevices m] := by
    simp [Instr.next, held, isFrame]
  rw [shape] at typed registry ⊢
  exact fits.pass (k := .frame m) rfl .same (fun c => .rfl) (fun c => id)
    (onlyAbout_frame _ (.inr rfl) rfl rfl) rfl rfl (neutral_lock _)
    (onlyAbout_frame _ (.inr rfl) rfl rfl) rfl rfl registry typed

theorem fits_forFrameDevices (fits : Fits w (.forFrameDevices m :: others)) :
    Fits ((Instr.forFrameDevices m).run orders w)
      ((Instr.forFrameDevices m).next orders w ++ others) := by
  have typed := fits.typed_step orders
  have registry := registry_next orders (fits.registry _ List.mem_cons_self) (w := w)
  exact fits.pass (k := .frame m) rfl .same (fun c => .rfl) (fun c => id)
    (onlyAbout_frame _ (.inr rfl) rfl rfl) rfl rfl neutral_nil
    (onlyAbout_frame _ (.inr rfl) rfl rfl) rfl rfl registry typed

theorem fits_prepareFrameDevices {items : List (Σ _ : UInt64, DeviceDescriptor)}
    {devices : List DeviceDescriptor} (fits : Fits w (.prepareFrameDevices m items devices :: others)) :
    Fits ((Instr.prepareFrameDevices m items devices).run orders w)
      ((Instr.prepareFrameDevices m items devices).next orders w ++ others) := by
  have typed := fits.typed_step orders
  have registry := registry_next orders (fits.registry _ List.mem_cons_self) (w := w)
  cases items with
  | nil =>
      exact fits.pass (k := .frame m) rfl .same (fun c => .rfl) (fun c => id)
        (onlyAbout_frame _ (.inr rfl) rfl rfl) rfl rfl (neutral_unlock _)
        (onlyAbout_frame _ (.inr rfl) rfl rfl) rfl rfl registry typed
  | cons item rest =>
      simp only [Instr.next] at typed registry ⊢
      split at typed
      · rename_i requested
        rw [if_pos requested] at registry ⊢
        have neutral : ∀ i ∈ [Instr.isStorageAvailable m item.2], Neutral i := by
          intro i member
          rw [List.mem_singleton.mp member]
          exact ⟨rfl, rfl, rfl⟩
        exact fits.pass (k := .frame m) rfl .same (fun c => .rfl) (fun c => id)
          (onlyAbout_frame _ (.inr rfl) rfl rfl) rfl rfl neutral
          (onlyAbout_frame _ (.inr rfl) rfl rfl) rfl rfl registry typed
      · rename_i unrequested
        rw [if_neg unrequested] at registry ⊢
        exact fits.pass (k := .frame m) rfl .same (fun c => .rfl) (fun c => id)
          (onlyAbout_frame _ (.inr rfl) rfl rfl) rfl rfl neutral_nil
          (onlyAbout_frame _ (.inr rfl) rfl rfl) rfl rfl registry typed

/-- The pointer of the cancelled call is forgotten. -/
theorem fits_removeDataFrameStream (fits : Fits w (.removeDataFrameStream m true :: others)) :
    Fits ((Instr.removeDataFrameStream m true).run orders w)
      ((Instr.removeDataFrameStream m true).next orders w ++ others) := by
  have typed := fits.typed_step orders
  have registry := registry_next orders (fits.registry _ List.mem_cons_self) (w := w)
  have handles : ((Instr.removeDataFrameStream m true).run orders w).handles =
      w.handles.remove (.frame m) := w.handles_removeDataFrameStream m
  refine fits.pass (k := .frame m) rfl (by rw [handles]; exact .removed) (fun c => ?_) (fun c stored => ?_)
    (onlyAbout_frame _ (.inr rfl) rfl rfl) rfl rfl neutral_nil
    (onlyAbout_frame _ (.inr rfl) rfl rfl) rfl rfl registry typed
  · rw [handles]
    exact Handles.live_remove
  · rw [← ClientManager.handles_stored, handles] at stored
    simp at stored

/-- The window of a replacement is entered by cancelling the call before. -/
theorem fits_cancelDataFrameStream (fits : Fits w (.cancelDataFrameStream m true :: others))
    (alone : ∀ i ∈ others, i.opens ≠ some (.frame m)) :
    Fits ((Instr.cancelDataFrameStream m true).run orders w)
      ((Instr.cancelDataFrameStream m true).next orders w ++ others) := by
  have typed := fits.typed_step orders
  have registry := registry_next orders (fits.registry _ List.mem_cons_self) (w := w)
  have handles : ((Instr.cancelDataFrameStream m true).run orders w).handles =
      w.handles.cancel (.frame m) := w.handles_cancelDataFrameStream m
  have stored : ((Instr.cancelDataFrameStream m true).run orders w).stored = w.stored :=
    ClientManager.stored_onCalls w m _
  have outside : ∀ i ∈ Instr.cancelDataFrameStream m true :: others, i.opens ≠ some (.frame m) :=
    List.forall_mem_cons.mpr ⟨by simp [Instr.opens], alone⟩
  refine fits.to_unopened (k := .frame m) rfl (by rw [handles]; exact .cancelled)
    (onlyAbout_frame _ (.inl rfl) rfl rfl) alone neutral_nil (onlyAbout_frame _ (.inr rfl) rfl rfl)
    rfl rfl registry typed (fun c live => ?_) (fun c pointer => ?_) fun m key device => by cases device
  · rw [handles, Handles.live_cancel] at live
    exact live.2 (((fits.slots (.frame m) rfl).settled outside c).1 live.1)
  · rwa [stored] at pointer

/-- A window on a frame slot belongs to a manager that was made. -/
theorem made_of_opens (fits : Fits w (instr :: others)) {i : Instr} (member : i ∈ instr :: others)
    (opens : i.opens = some (.frame m)) : m < w.dataManagers.length := by
  have uses : i.uses = some (m, .dataFrame) := by
    cases i with
    | removeDataFrameStream m' reopen =>
        cases reopen with
        | false => cases opens
        | true =>
            cases opens
            rfl
    | _ => cases opens <;> rfl
  obtain ⟨manager, held, -⟩ := fits.typed i member m .dataFrame uses
  exact (List.getElem?_eq_some_iff.mp held).1

/-- The window of a request for data frames is entered with the manager, which no other
thread knows yet. -/
theorem fits_emplaceManager {request : DataRequest}
    (fits : Fits w (.emplaceManager request .dataFrame :: others)) :
    Fits ((Instr.emplaceManager request .dataFrame).run orders w)
      ((Instr.emplaceManager request .dataFrame).next orders w ++ others) := by
  have typed := fits.typed_step orders
  have registry := registry_next orders (fits.registry _ List.mem_cons_self) (w := w)
  have handles : ((Instr.emplaceManager request .dataFrame).run orders w).handles = w.handles :=
    w.handles_emplaceManager request .dataFrame
  have outside : ∀ i ∈ Instr.emplaceManager request .dataFrame :: others,
      i.opens ≠ some (.frame w.dataManagers.length) :=
    fun i member opens => absurd (made_of_opens fits member opens) (Nat.lt_irrefl _)
  have empty : w.stored (.frame w.dataManagers.length) = none := by simp [ClientManager.stored]
  refine fits.to_unopened (k := .frame w.dataManagers.length) rfl (by rw [handles]; exact .same)
    (onlyAbout_frame _ (.inl rfl) rfl rfl) (fun i old => outside i (List.mem_cons_of_mem _ old))
    (neutral_unlock _) (onlyAbout_frame _ (.inr rfl) rfl rfl) rfl rfl registry typed
    (fun c live => ?_) (fun c pointer => ?_) fun m key device => by cases device
  · rw [handles] at live
    have pointer := ((fits.slots (.frame w.dataManagers.length) rfl).settled outside c).1 live
    rw [empty] at pointer
    cases pointer
  · rwa [← ClientManager.handles_stored, handles] at pointer

theorem fits_openDataFrameStream {devices : List DeviceDescriptor}
    (fits : Fits w (.openDataFrameStream m devices :: others)) :
    Fits ((Instr.openDataFrameStream m devices).run orders w)
      ((Instr.openDataFrameStream m devices).next orders w ++ others) := by
  have typed := fits.typed_step orders
  obtain ⟨manager, held, -⟩ := fits.typed _ List.mem_cons_self m .dataFrame rfl
  have handles : ((Instr.openDataFrameStream m devices).run orders w).handles =
      w.handles.openFor (.frame m) := by
    simp only [Instr.run, held]
    exact w.handles_openDataFrameStream m _
  have shape : (Instr.openDataFrameStream m devices).next orders w =
      [.setDataFrameStream m w.calls.length] := by simp [Instr.next, held]
  rw [shape] at typed ⊢
  refine fits.to_opened (k := .frame m) rfl (by rw [handles]; exact .opened)
    (onlyAbout_frame _ (.inr rfl) rfl rfl) (fits.outside rfl)
    (onlyAbout_of _ (.inr rfl) (.inl rfl) fun j c stored => by cases stored; rfl) rfl rfl typed
    (fun c => ?_) (fun c pointer => ?_) fun m key device => by cases device
  · rw [handles, Handles.live_openFor, ClientManager.handles_resources_length]
    have none := (fits.slots (.frame m) rfl).unopened _ List.mem_cons_self rfl rfl c
    exact ⟨fun h => (h.resolve_left none).2, fun same => .inr ⟨rfl, same⟩⟩
  · rwa [← ClientManager.handles_stored, handles] at pointer

theorem fits_setDataFrameStream {c : CallId} (fits : Fits w (.setDataFrameStream m c :: others)) :
    Fits ((Instr.setDataFrameStream m c).run orders w)
      ((Instr.setDataFrameStream m c).next orders w ++ others) := by
  have typed := fits.typed_step orders
  obtain ⟨manager, held, -⟩ := fits.typed _ List.mem_cons_self m .dataFrame rfl
  have handles : ((Instr.setDataFrameStream m c).run orders w).handles =
      w.handles.store (.frame m) c := w.handles_setDataFrameStream m c held
  refine fits.to_settled (k := .frame m) rfl (by rw [handles]; exact .stored c)
    (onlyAbout_of _ (.inr rfl) (.inl rfl) fun j c stored => by cases stored; rfl) (fits.outside rfl)
    (fun i member removes => ?_) typed fun c' => ?_
  · cases i <;> cases removes
  · rw [← ClientManager.handles_stored, handles, Handles.live_store,
      (fits.slots (.frame m) rfl).opened _ List.mem_cons_self c rfl c', Handles.store_stored]
    simp [eq_comm]

end Frame

/-! ### The window of a device -/

section Device

variable {m : ManagerId} {device : DeviceDescriptor} {deviceId : DeviceID}

/-- The window of a device is entered by not finding a stream. -/
theorem fits_dataStreamExists (fits : Fits w (.dataStreamExists m device :: others))
    (alone : w.dataStreamExists m device.id = false →
      ∀ i ∈ others, i.opens ≠ some (.device m device.hash)) :
    Fits ((Instr.dataStreamExists m device).run orders w)
      ((Instr.dataStreamExists m device).next orders w ++ others) := by
  have typed := fits.typed_step orders
  have registry := registry_next orders (fits.registry _ List.mem_cons_self) (w := w)
  cases found : w.dataStreamExists m device.id with
  | true =>
      have shape : (Instr.dataStreamExists m device).next orders w = [] := by
        simp [Instr.next, found]
      rw [shape] at typed registry ⊢
      exact fits.step_neutral rfl ⟨rfl, rfl, rfl⟩ neutral_nil registry typed
  | false =>
      have shape : (Instr.dataStreamExists m device).next orders w =
          [] ++ [.openTrackingDeviceDataStream m device] := by simp [Instr.next, found]
      rw [shape] at typed registry ⊢
      obtain ⟨manager, held, -⟩ := fits.typed _ List.mem_cons_self m .deviceData rfl
      have empty : w.stored (.device m device.hash) = none := by
        rw [ClientManager.stored_device held, AList.lookup_eq_none, ← DeviceDescriptor.hash_id,
          ← ClientManager.dataStreamExists_iff held, found]
        decide
      have outside : ∀ i ∈ Instr.dataStreamExists m device :: others,
          i.opens ≠ some (.device m device.hash) :=
        List.forall_mem_cons.mpr ⟨by simp [Instr.opens], alone found⟩
      refine fits.to_unopened (k := .device m device.hash) rfl .same
        (onlyAbout_of _ (.inl rfl) (.inl rfl) fun j c stored => by cases stored) (alone found)
        neutral_nil (onlyAbout_of _ (.inr rfl) (.inl rfl) fun j c stored => by cases stored) rfl rfl
        registry typed ?_ (fun c pointer => pointer) ?_
      · intro c live
        have pointer := ((fits.slots (.device m device.hash) rfl).settled outside c).1 live
        rw [empty] at pointer
        cases pointer
      · intro m' key same
        exact empty

theorem fits_openTrackingDeviceDataStream
    (fits : Fits w (.openTrackingDeviceDataStream m device :: others)) :
    Fits ((Instr.openTrackingDeviceDataStream m device).run orders w)
      ((Instr.openTrackingDeviceDataStream m device).next orders w ++ others) := by
  have typed := fits.typed_step orders
  obtain ⟨manager, held, -⟩ := fits.typed _ List.mem_cons_self m .deviceData rfl
  have handles : ((Instr.openTrackingDeviceDataStream m device).run orders w).handles =
      w.handles.openFor (.device m device.hash) := by
    simp only [Instr.run, held]
    exact w.handles_openTrackingDeviceDataStream m _
  have shape : (Instr.openTrackingDeviceDataStream m device).next orders w =
      [.addDataStream m device.id w.calls.length] := by simp [Instr.next, held]
  rw [shape] at typed ⊢
  have slot := fits.slots (.device m device.hash) rfl
  refine fits.to_opened (k := .device m device.hash) rfl (by rw [handles]; exact .opened)
    (onlyAbout_of _ (.inr rfl) (.inl rfl) fun j c stored => by cases stored) (fits.outside rfl)
    (onlyAbout_of _ (.inr rfl) (.inl rfl) fun j c stored => by cases stored; rfl) rfl rfl typed
    (fun c => ?_) (fun c pointer => ?_) fun m' key same => ?_
  · rw [handles, Handles.live_openFor, ClientManager.handles_resources_length]
    have none := slot.unopened _ List.mem_cons_self rfl rfl c
    exact ⟨fun h => (h.resolve_left none).2, fun same => .inr ⟨rfl, same⟩⟩
  · rwa [← ClientManager.handles_stored, handles] at pointer
  · rw [← ClientManager.handles_stored, handles]
    exact slot.vacant _ List.mem_cons_self rfl m' key same

/-- The window is closed by storing the call, if no one is about to remove it. -/
theorem fits_addDataStream {c : CallId} (fits : Fits w (.addDataStream m deviceId c :: others))
    (alone : ∀ i ∈ others, i.removes ≠ some (.device m deviceId.hash)) :
    Fits ((Instr.addDataStream m deviceId c).run orders w)
      ((Instr.addDataStream m deviceId c).next orders w ++ others) := by
  have typed := fits.typed_step orders
  obtain ⟨manager, held, -⟩ := fits.typed _ List.mem_cons_self m .deviceData rfl
  have slot := fits.slots (.device m deviceId.hash) rfl
  have handles : ((Instr.addDataStream m deviceId c).run orders w).handles =
      w.handles.store (.device m deviceId.hash) c :=
    w.handles_addDataStream m deviceId c held (slot.vacant _ List.mem_cons_self rfl m _ rfl)
  refine fits.to_settled (k := .device m deviceId.hash) rfl (by rw [handles]; exact .stored c)
    (onlyAbout_of _ (.inr rfl) (.inl rfl) fun j c stored => by cases stored; rfl) (fits.outside rfl)
    alone typed fun c' => ?_
  rw [← ClientManager.handles_stored, handles, Handles.live_store,
    slot.opened _ List.mem_cons_self c rfl c', Handles.store_stored]
  simp [eq_comm]

/-- While another thread is in the window, there is no pointer to cancel or to remove. -/
theorem slotFits_of_claimed {i first : Instr} (slot : SlotFits w (instr :: others) k)
    (claimed : i ∈ others) (inside : i.opens = some k) (after : first.opens = none)
    (empty : w'.stored k = none) (live : ∀ c, w'.handles.Live k c ↔ w.handles.Live k c)
    (last : first.registry = true) : SlotFits w' ([first] ++ others) k where
  opened x member c stores c' := by
    rw [live]
    rcases List.mem_cons.mp member with rfl | old
    · rw [opens_of_stores last stores] at after
      cases after
    · exact slot.opened x (List.mem_cons_of_mem _ old) c stores c'
  unopened x member opens notYet c := by
    rw [live]
    rcases List.mem_cons.mp member with rfl | old
    · rw [opens] at after
      cases after
    · exact slot.unopened x (List.mem_cons_of_mem _ old) opens notYet c
  vacant _ _ _ _ _ _ := empty
  settled outside := absurd inside (outside i (List.mem_cons_of_mem _ claimed))
  removing outside := absurd inside (outside i (List.mem_cons_of_mem _ claimed))
  own c pointer := by
    rw [empty] at pointer
    cases pointer

/-- Outside the window, and cancelled. -/
theorem slotFits_of_cancelled {pending : List Instr} (registry : ∀ i ∈ pending, i.registry = true)
    (outside : ∀ i ∈ pending, i.opens ≠ some k) (live : ∀ c, ¬ w.handles.Live k c)
    (removed : ∀ c, w.stored k = some c → ∃ i ∈ pending, i.removes = some k)
    (own : ∀ c, w.stored k = some c → w.handles.Undeleted k c) : SlotFits w pending k where
  opened i member _ stores := absurd (opens_of_stores (registry i member) stores) (outside i member)
  unopened i member inside := absurd inside (outside i member)
  vacant i member inside := absurd inside (outside i member)
  settled _ _ := ⟨fun here => absurd here (live _), fun pointer => .inr (removed _ pointer)⟩
  removing _ _ := live
  own := own

theorem fits_cancelDataStream (fits : Fits w (.cancelDataStream m deviceId :: others)) :
    Fits ((Instr.cancelDataStream m deviceId).run orders w)
      ((Instr.cancelDataStream m deviceId).next orders w ++ others) := by
  have typed := fits.typed_step orders
  have registry := registry_next orders (fits.registry _ List.mem_cons_self) (w := w)
  have slot := fits.slots (.device m deviceId.hash) rfl
  have handles : ((Instr.cancelDataStream m deviceId).run orders w).handles =
      w.handles.cancel (.device m deviceId.hash) := w.handles_cancelDataStream m deviceId
  have stored : ((Instr.cancelDataStream m deviceId).run orders w).stored = w.stored :=
    ClientManager.stored_onCalls w m _
  have touches : w.handles.Touches (.device m deviceId.hash)
      ((Instr.cancelDataStream m deviceId).run orders w).handles := by rw [handles]; exact .cancelled
  refine fits.step_at (k := .device m deviceId.hash) rfl touches
    (onlyAbout_of _ (.inl rfl) (.inl rfl) fun j c stored => by cases stored) ?_ registry typed
    fits.once_others ?_
  · intro i member
    rw [List.mem_singleton.mp member]
    exact onlyAbout_of _ (.inl rfl) (.inr rfl) fun j c stored => by cases stored
  by_cases claimed : ∃ i ∈ others, i.opens = some (.device m deviceId.hash)
  · obtain ⟨i, old, inside⟩ := claimed
    have empty := slot.vacant i (List.mem_cons_of_mem _ old) inside m _ rfl
    refine slotFits_of_claimed slot old inside rfl (by rw [stored]; exact empty)
      (fun c => ?_) rfl
    rw [handles, Handles.live_cancel]
    simp [empty]
  · have outside : ∀ i ∈ Instr.cancelDataStream m deviceId :: others,
        i.opens ≠ some (.device m deviceId.hash) :=
      List.forall_mem_cons.mpr ⟨by simp [Instr.opens], fun i old inside => claimed ⟨i, old, inside⟩⟩
    refine slotFits_of_cancelled (fits.registry_append registry) ?_ ?_
      (fun c _ => ⟨.removeDataStream m deviceId, List.mem_cons_self, rfl⟩) ?_
    · exact List.forall_mem_cons.mpr ⟨by simp [Instr.opens], (List.forall_mem_cons.mp outside).2⟩
    · intro c live
      rw [handles, Handles.live_cancel] at live
      exact live.2 ((slot.settled outside c).1 live.1)
    · intro c pointer
      rw [stored] at pointer
      exact touches.undeleted (slot.own c pointer)

theorem fits_removeDataStream (fits : Fits w (.removeDataStream m deviceId :: others)) :
    Fits ((Instr.removeDataStream m deviceId).run orders w)
      ((Instr.removeDataStream m deviceId).next orders w ++ others) := by
  have typed := fits.typed_step orders
  have registry := registry_next orders (fits.registry _ List.mem_cons_self) (w := w)
  have slot := fits.slots (.device m deviceId.hash) rfl
  have handles : ((Instr.removeDataStream m deviceId).run orders w).handles =
      w.handles.remove (.device m deviceId.hash) := w.handles_removeDataStream m deviceId
  have empty : ((Instr.removeDataStream m deviceId).run orders w).stored (.device m deviceId.hash) =
      none := by
    rw [← ClientManager.handles_stored, handles]
    simp
  refine fits.step_at (k := .device m deviceId.hash) rfl (by rw [handles]; exact .removed)
    (onlyAbout_of _ (.inl rfl) (.inr rfl) fun j c stored => by cases stored) ?_ registry typed
    fits.once_others ?_
  · intro i member
    rw [List.mem_singleton.mp member]
    exact Neutral.onlyAbout ⟨rfl, rfl, rfl⟩ _
  by_cases claimed : ∃ i ∈ others, i.opens = some (.device m deviceId.hash)
  · obtain ⟨i, old, inside⟩ := claimed
    refine slotFits_of_claimed slot old inside rfl empty ?_ rfl
    intro c
    rw [handles, Handles.live_remove]
  · have outside : ∀ i ∈ Instr.removeDataStream m deviceId :: others,
        i.opens ≠ some (.device m deviceId.hash) :=
      List.forall_mem_cons.mpr ⟨by simp [Instr.opens], fun i old inside => claimed ⟨i, old, inside⟩⟩
    refine slotFits_of_cancelled (fits.registry_append registry) ?_ ?_
      ?_ ?_
    · exact List.forall_mem_cons.mpr ⟨by simp [Instr.opens], (List.forall_mem_cons.mp outside).2⟩
    · intro c live
      rw [handles, Handles.live_remove] at live
      exact slot.removing outside ⟨_, List.mem_cons_self, rfl⟩ c live
    · intro c pointer
      rw [empty] at pointer
      cases pointer
    · intro c pointer
      rw [empty] at pointer
      cases pointer

end Device

theorem fits_neutral (fits : Fits w (instr :: others))
    (handles : (instr.run orders w).handles = w.handles) (before : Neutral instr)
    (after : ∀ i ∈ instr.next orders w, Neutral i) :
    Fits (instr.run orders w) (instr.next orders w ++ others) :=
  fits.step_neutral handles before after
    (registry_next orders (fits.registry instr List.mem_cons_self)) (fits.typed_step orders)

/-- **One instruction of a data request or of a device event.** -/
theorem fits_step (fits : Fits w (instr :: others))
    (alone : instr.OneOpener w { i | i ∈ instr :: others }) :
    Fits (instr.run orders w) (instr.next orders w ++ others) := by
  have registry := fits.registry instr List.mem_cons_self
  cases instr with
  | dataStreamExists m device =>
      exact fits_dataStreamExists orders fits fun absent i old =>
        alone absent i (List.mem_cons_of_mem _ old)
  | openTrackingDeviceDataStream m device => exact fits_openTrackingDeviceDataStream orders fits
  | addDataStream m deviceId c =>
      exact fits_addDataStream orders fits fun i old => alone i (List.mem_cons_of_mem _ old)
  | cancelDataStream m deviceId => exact fits_cancelDataStream orders fits
  | removeDataStream m deviceId => exact fits_removeDataStream orders fits
  | openDataFrame m => exact fits_openDataFrame orders fits
  | forFrameDevices m => exact fits_forFrameDevices orders fits
  | prepareFrameDevices m items devices => exact fits_prepareFrameDevices orders fits
  | openDataFrameStream m devices => exact fits_openDataFrameStream orders fits
  | setDataFrameStream m c => exact fits_setDataFrameStream orders fits
  | cancelDataFrameStream m reopen =>
      cases registry
      exact fits_cancelDataFrameStream orders fits fun i old => alone i (List.mem_cons_of_mem _ old)
  | removeDataFrameStream m reopen =>
      cases registry
      exact fits_removeDataFrameStream orders fits
  | emplaceManager request made =>
      cases made with
      | deviceData =>
          refine fits_neutral orders fits (w.handles_emplaceManager request .deviceData)
            ⟨rfl, rfl, rfl⟩ fun i member => ?_
          cases Instr.follows_of_next member <;> exact ⟨rfl, rfl, rfl⟩
      | dataFrame => exact fits_emplaceManager orders fits
  | addDeviceStorage m device =>
      exact fits_neutral orders fits (w.handles_addDeviceStorage m device) ⟨rfl, rfl, rfl⟩ neutral_nil
  | removeDeviceStorage m deviceId =>
      exact fits_neutral orders fits (w.handles_removeDeviceStorage m deviceId) ⟨rfl, rfl, rfl⟩
        neutral_nil
  | recordDevice device deviceConnected =>
      obtain ⟨connected, recorded⟩ := ClientManager.recordDevice_frame w device deviceConnected
      exact fits_neutral orders fits (by simp only [Instr.run, recorded]; rfl) ⟨rfl, rfl, rfl⟩
        neutral_nil
  | _ =>
      -- The others do nothing themselves, and start no window.
      first
      | cases registry; done
      | refine fits_neutral orders fits rfl ⟨rfl, rfl, rfl⟩ fun i member => ?_
        cases Instr.follows_of_next member <;> exact ⟨rfl, rfl, rfl⟩

end Steps

/-! ## A request and the device events -/

/-- `RequestDeviceData` or `RequestDataFrame`. -/
def requestProgram (request : DataRequest) : DataStreamType → Instr
  | .deviceData => .requestDeviceData request
  | .dataFrame => .requestDataFrame request

/-- A user who makes one request, and the completion queue thread with its events. -/
def racingThreads (w : ClientManager) (request : DataRequest) (streamType : DataStreamType)
    (events : List Proto.TrackingDeviceEvent) : ClientThreads where
  shared := w
  held := []
  programs := [[requestProgram request streamType], events.map Instr.deviceEventProcessor]

section Races

variable {w : ClientManager} {request : DataRequest} {streamType : DataStreamType}
  {events : List Proto.TrackingDeviceEvent} {s : ClientThreads}

theorem fits_of_neutral (coherent : ClientManager.Coherent w) {pending : List Instr}
    (start : ∀ i ∈ pending, Neutral i ∧ i.registry = true ∧ i.uses = none) : Fits w pending := by
  refine ⟨fun i member => (start i member).2.1, ?_, ?_, ?_⟩
  · intro i member m made uses
    rw [(start i member).2.2] at uses
    cases uses
  · rw [List.filterMap_eq_nil_iff.mpr fun i member => (start i member).1.1]
    exact List.nodup_nil
  · intro k _
    refine .of_settled ?_ ?_
      (fun i member => (start i member).2.1) (coherent.registered k)
    · intro i member opens
      exact Option.some_ne_none k (opens.symm.trans (start i member).1.1)
    · intro i member removes
      exact Option.some_ne_none k (removes.symm.trans (start i member).1.2.1)

theorem fits_start (coherent : ClientManager.Coherent w) :
    Fits w (racingThreads w request streamType events).programs.flatten := by
  refine fits_of_neutral coherent fun i member => ?_
  simp only [racingThreads, List.flatten_cons, List.flatten_nil, List.append_nil, List.mem_append,
    List.mem_singleton, List.mem_map] at member
  rcases member with rfl | ⟨event, -, rfl⟩
  · cases streamType <;> exact ⟨⟨rfl, rfl, rfl⟩, rfl, rfl⟩
  · exact ⟨⟨rfl, rfl, rfl⟩, rfl, rfl⟩

theorem fits_of_reached (coherent : ClientManager.Coherent w)
    (reached : Reached ClientThreads.step
      (Threads.Under fun w pending instr _ => instr.OneOpener w pending)
      (racingThreads w request streamType events) s) : Fits s.shared s.programs.flatten :=
  Threads.invariant_of_kept clientSemantics Fits (fun _ _ _ perm fits => fits.perm perm) (fits_start coherent)
    (fun _ _ _ orders fits _ alone => fits_step orders fits alone) reached

/-- **No duplicate stream.**  From any state that requests, events and closes lead to: if no
thread enters the window of a slot in which the other one is, then once both threads are
done the live call of a slot is the stored one, so that a packet is pushed once at most. -/
theorem no_duplicate_stream {run : List ClientManager.Operation} (runs : ClientManager.Runs run w)
    (reached : Reached ClientThreads.step
      (Threads.Under fun w pending instr _ => instr.OneOpener w pending)
      (racingThreads w request streamType events) s)
    (finished : s.Finished) (slot : Slot) (data : slot.manager.isSome) :
    (∀ c, LiveCall s.shared.calls slot c ↔ s.shared.stored slot = some c) ∧
      liveCalls s.shared.calls slot ≤ 1 := by
  have fits := fits_of_reached (ClientManager.coherent_of_runs runs) reached
  rw [Threads.flatten_of_finished finished] at fits
  have only : ∀ c, LiveCall s.shared.calls slot c ↔ s.shared.stored slot = some c := by
    intro c
    obtain ⟨toStored, toLive⟩ := (fits.slots slot data).settled (fun i member => by cases member) c
    refine liveCall_iff.trans ⟨toStored, fun pointer => (toLive pointer).resolve_right ?_⟩
    rintro ⟨i, member, -⟩
    cases member
  refine ⟨only, liveCalls_le_one ?_⟩
  intro c c' live live'
  exact Option.some.inj (((only c).mp live).symm.trans ((only c').mp live'))

/-- The instruction does not enter a window. -/
def stays (s : ClientThreads) (label : Nat × Orders) : Bool :=
  match s.programs[label.1]? with
  | some (.dataStreamExists _ _ :: _) => false
  | some (.addDataStream _ _ _ :: _) => false
  | some (.cancelDataFrameStream _ _ :: _) => false
  | _ => true

theorem under_of_stays (s : ClientThreads) (label : Nat × Orders) (holds : stays s label = true) :
    Threads.Under (fun w pending instr (_ : Orders) => instr.OneOpener w pending) s label := by
  intro instr rest current
  rw [stays, current] at holds
  cases instr <;> trivial

theorem finished_of_isEmpty (empty : s.programs.all (·.isEmpty) = true) : s.Finished :=
  fun program member => List.isEmpty_iff.mp (List.all_eq_true.mp empty program member)

/-- A device is plugged in, and then data frames are requested. -/
theorem no_duplicate_stream_frame :
    ∃ s, Reached ClientThreads.step
        (Threads.Under fun w pending instr _ => instr.OneOpener w pending)
        (racingThreads ClientManager.init default .dataFrame
          [{ device := { siuUuid := 1, portId := 2 }, connected := true }]) s ∧
      s.shared.stored (.frame 0) = some 0 ∧
      (∀ c, LiveCall s.shared.calls (.frame 0) c ↔ s.shared.stored (.frame 0) = some c) ∧
        liveCalls s.shared.calls (.frame 0) ≤ 1 := by
  have executed : (script (guarded stays ClientThreads.step)
      ((List.replicate 7 1 ++ List.replicate 14 0).map fun i => (i, Orders.stored))
      (racingThreads ClientManager.init default .dataFrame
        [{ device := { siuUuid := 1, portId := 2 }, connected := true }])).any (fun s =>
          s.programs.all (·.isEmpty) && s.shared.stored (.frame 0) = some 0) = true := by decide
  obtain ⟨s, executed, last⟩ := (Option.any_eq_true _ _).mp executed
  rw [Bool.and_eq_true, decide_eq_true_eq] at last
  have reached := Reached.of_script stays under_of_stays _ executed
  exact ⟨s, reached, last.2,
    no_duplicate_stream .start reached (finished_of_isEmpty last.1) (.frame 0) rfl⟩

/-- A request and an event for a connected device: both see no stream for it before either
has stored its call. -/
theorem duplicate_stream :
    ¬ ∀ run w, ClientManager.Runs run w → ∀ request streamType events s,
      Reached ClientThreads.step (fun _ _ => True) (racingThreads w request streamType events) s →
      s.Finished → ∀ slot : Slot, slot.manager.isSome →
        (∀ c, LiveCall s.shared.calls slot c ↔ s.shared.stored slot = some c) ∧
          liveCalls s.shared.calls slot ≤ 1 := by
  intro claimed
  have executed : (script ClientThreads.step
      ((List.replicate 7 1 ++ List.replicate 4 0 ++ List.replicate 11 1 ++ List.replicate 9 0 ++
        List.replicate 3 1).map fun i => (i, Orders.stored))
      (racingThreads ClientManager.init default .deviceData
        (List.replicate 2 { device := { siuUuid := 1, portId := 2 }, connected := true }))).any
      (fun s => s.programs.all (·.isEmpty) && liveCalls s.shared.calls (.device 0 258) = 2) = true := by
    decide
  obtain ⟨s, executed, last⟩ := (Option.any_eq_true _ _).mp executed
  rw [Bool.and_eq_true, decide_eq_true_eq] at last
  have once := (claimed [] _ .start _ _ _ s (.of_any _ executed) (finished_of_isEmpty last.1)
    (.device 0 258) rfl).2
  rw [last.2] at once
  exact absurd once (by decide)

end Races

end OmmoSdk.Client
