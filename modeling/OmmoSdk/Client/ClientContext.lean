/-
# Client.ClientContext — base station requests under tags

A client context serves all its base station requests from one storage with one
stream.  Each request is a tag; the storage is made for the first one, and its stream
is cancelled and taken off the list of the client manager when the last one is closed.
The pointer to the storage is kept then, so that a later request takes the storage for
one that is served.

`Served` is what the open tags are promised.  `served_iff` says for which runs it holds
after every operation.
-/
import OmmoSdk.Client.ClientManager
import OmmoSdk.Theory.Loop
import OmmoSdk.Theory.Reach

namespace OmmoSdk.Client

open OmmoSdk.Theory
open OmmoSdk.Sdk
open OmmoSdk.Storage

set_option autoImplicit false

namespace ClientManager

def requestBaseStationData (w : ClientManager) : ClientManager × StorageId :=
  let s := w.baseStationStorages.length
  let (w, callData) := w.makeBaseStationDataStorage.openBaseStationDataStream s
  ((w.setDataStream s callData).pushBaseStationDataStorage s, s)

/-- `CancelDataStream` of a storage. -/
def cancelBaseStationStream (w : ClientManager) (s : StorageId) : ClientManager :=
  match (w.baseStationStorages[s]?).bind fun storage => storage.baseStationStream with
  | some callData => { w with calls := cancelCall w.calls callData }
  | none => w

/-- One round of the loop over `base_station_data_storage_list_`, the iterator standing
before `rest`.  The loop has no step of its own: another storage is looked at again. -/
def closeRound (w : ClientManager) (storage : StorageId) :
    List StorageId → List StorageId ⊕ ClientManager
  | [] => .inr w
  | it :: rest =>
      if it = storage then
        let w := w.cancelBaseStationStream it
        .inr { w with baseStationDataStorageList := w.baseStationDataStorageList.erase it }
      else .inl (it :: rest)

/-- `CloseBaseStationDataRequest`, with its loop given up after `fuel` rounds. -/
def closeBaseStationDataRequest (fuel : Nat) (w : ClientManager) (storage : Option StorageId) :
    Option ClientManager :=
  match storage with
  | none => some w
  | some storage => Loop.run (w.closeRound storage) fuel w.baseStationDataStorageList

/-- A close that comes to its end in its first round cancels one call at most, and shortens the
list. -/
theorem closed_cases {w w' : ClientManager} {storage : Option StorageId}
    (closed : w.closeBaseStationDataRequest 1 storage = some w') :
    ∃ list, w' = { w with baseStationDataStorageList := list } ∨
      ∃ callData, w' =
        { w with calls := cancelCall w.calls callData, baseStationDataStorageList := list } := by
  cases storage with
  | none =>
      cases closed
      exact ⟨_, .inl rfl⟩
  | some s =>
      simp only [closeBaseStationDataRequest, Loop.run] at closed
      cases listed : w.baseStationDataStorageList with
      | nil =>
          rw [listed] at closed
          cases closed
          exact ⟨_, .inl rfl⟩
      | cons it rest =>
          rw [listed, closeRound] at closed
          by_cases same : it = s
          · rw [if_pos same] at closed
            cases closed
            simp only [cancelBaseStationStream]
            split
            · exact ⟨_, .inr ⟨_, rfl⟩⟩
            · exact ⟨_, .inl rfl⟩
          · rw [if_neg same] at closed
            cases closed

/-- The listener of a base station call is given a message of its stream. -/
def receiveBaseStationData (w : ClientManager) (callData : CallId) (packet : Proto.BaseStationData) :
    Except Fault ClientManager :=
  match w.calls[callData]? with
  | some ⟨.baseStation s, false, false⟩ =>
      match w.baseStationStorages[s]? with
      | some storage => do
          let (_, storage) ← storage.pushData packet
          return { w with baseStationStorages := w.baseStationStorages.set s storage }
      | none => .ok w
  | _ => .ok w

end ClientManager

/-- The part of a client context that serves base station requests. -/
structure ClientContext where
  clientManager : ClientManager
  dataManagersTagSource : UInt32
  baseStationDataStorage : Option StorageId
  baseStationRequestList : Finset UInt32

namespace ClientContext

def init : ClientContext := ⟨.init, 1, none, ∅⟩

def requestBaseStationData (c : ClientContext) : ClientContext × UInt32 :=
  let c :=
    if c.baseStationDataStorage = none then
      let (w, storage) := c.clientManager.requestBaseStationData
      { c with clientManager := w, baseStationDataStorage := some storage }
    else c
  let currentTag := c.dataManagersTagSource
  ({ c with
      dataManagersTagSource := c.dataManagersTagSource + 1
      baseStationRequestList := insert currentTag c.baseStationRequestList },
    currentTag)

/-- `none` if the loop of the client manager is given up. -/
def closeBaseStationDataRequest (fuel : Nat) (c : ClientContext) (requestTag : UInt32) :
    Option ClientContext :=
  let c := { c with baseStationRequestList := c.baseStationRequestList.erase requestTag }
  if c.baseStationRequestList = ∅ then
    (c.clientManager.closeBaseStationDataRequest fuel c.baseStationDataStorage).map fun w =>
      { c with clientManager := w }
  else some c

/-- `GetLatestBaseStationData` with a number of packets. -/
def getLatestBaseStationData (c : ClientContext) (requestTag : UInt32) (numPackets : Int32) :
    Except Fault (DataResponse BaseStationData) :=
  match c.baseStationDataStorage.bind fun s => c.clientManager.baseStationStorages[s]? with
  | some storage =>
      if requestTag ∈ c.baseStationRequestList then
        storage.getLatestDataCount numPackets.toUInt32
      else .ok PacketBuffers.emptyResponse
  | none => .ok PacketBuffers.emptyResponse

inductive Operation where
  | requestBaseStationData
  | closeBaseStationDataRequest (requestTag : UInt32)
  /-- a message on the stream of a call -/
  | receive (callData : CallId) (packet : Proto.BaseStationData)

def step (c : ClientContext) : Operation → Option ClientContext
  | .requestBaseStationData => some c.requestBaseStationData.1
  | .closeBaseStationDataRequest requestTag => c.closeBaseStationDataRequest 1 requestTag
  | .receive callData packet =>
      match c.clientManager.receiveBaseStationData callData packet with
      | .ok w => some { c with clientManager := w }
      | .error _ => none

/-- The next message of the call is the newest packet of every open tag, however many are
asked for. -/
def Reaches (c : ClientContext) (callData : CallId) : Prop :=
  ∀ packet, ∃ c' idx, c.step (.receive callData packet) = some c' ∧
    ∀ requestTag ∈ c.baseStationRequestList, ∀ numPackets, numPackets ≠ 0 →
      ∃ response, c'.getLatestBaseStationData requestTag numPackets = .ok response ∧
        response.packets.getLast? = some (some ⟨idx, protoToBaseStationData packet⟩)

/-- **What the open tags are promised**, and that nothing is left when there are none. -/
structure Served (c : ClientContext) : Prop where
  opened : c.baseStationRequestList.Nonempty →
    ∃ s, c.baseStationDataStorage = some s ∧ s ∈ c.clientManager.baseStationDataStorageList ∧
      ∃ callData, c.clientManager.stored (.baseStation s) = some callData ∧
        LiveCall c.clientManager.calls (.baseStation s) callData ∧ c.Reaches callData
  closed : c.baseStationRequestList = ∅ →
    ∀ s callData, ¬ LiveCall c.clientManager.calls (.baseStation s) callData

/-- A request is made for the first time, or while another one is open. -/
def Timely (c : ClientContext) : Operation → Prop
  | .requestBaseStationData =>
      c.baseStationDataStorage = none ∨ c.baseStationRequestList.Nonempty
  | _ => True

/-! ## The storages -/

/-- Every storage holds a history of packets. -/
def Stocked (w : ClientManager) : Prop :=
  ∀ (s : StorageId) (storage : BaseStationDataStorage), w.baseStationStorages[s]? = some storage →
    ∃ h, PacketBuffers.Represents (N := 500) (by decide) storage.buffers h

section Storages

variable {w w' : ClientManager} {s : StorageId} {callData : CallId} {storage : BaseStationDataStorage}

theorem latestResponse_getLast {δ : Type} (older : List (Packet δ)) (newest : Packet δ) {count : UInt32}
    (some : count ≠ 0) :
    (PacketBuffers.latestResponse (older ++ [newest]) count).packets.getLast? = .some (.some newest) := by
  have positive : 0 < count.toNat := Nat.pos_of_ne_zero fun zero => some (UInt32.toNat_inj.mp zero)
  unfold PacketBuffers.latestResponse
  rw [if_neg (by simp [some])]
  split
  · rw [List.drop_append_of_le_length (by simp; omega)]
    simp
  · simp

/-- The newest packet of a history is the last one of every answer. -/
theorem latest_of_represents {N : Nat} {pos : 0 < N} {h : List BaseStationData} {data : BaseStationData}
    (represents : PacketBuffers.Represents pos storage.buffers (h ++ [data])) (small : N ≤ 2 ^ 30)
    {count : UInt32} (some : count ≠ 0) :
    ∃ response, storage.getLatestDataCount count = .ok response ∧
      response.packets.getLast? = .some (.some ⟨UInt32.ofNat h.length, data⟩) := by
  refine ⟨_, represents.getLatestCount small (fun _ => rfl) count, ?_⟩
  have start := Generations.windowStart_add_size (N := N) (h ++ [data]).length
  have kept : Generations.windowStart N (h ++ [data]).length ≤ (PacketBuffers.stamped h).length := by
    rw [PacketBuffers.length_stamped]
    simp only [List.length_append, List.length_singleton, Generations.windowSize] at start ⊢
    split at start <;> omega
  rw [PacketBuffers.stamped_snoc, List.drop_append_of_le_length kept]
  exact latestResponse_getLast _ _ some

theorem Stocked.make (stocked : Stocked w) : Stocked w.makeBaseStationDataStorage := by
  intro s storage found
  simp only [ClientManager.makeBaseStationDataStorage, List.getElem?_append] at found
  split at found
  · exact stocked s storage found
  · rw [List.getElem?_singleton] at found
    split at found
    · cases found
      exact ⟨[], PacketBuffers.init_represents (N := 500) (by decide) (by decide)⟩
    · cases found

theorem Stocked.setDataStream (stocked : Stocked w) : Stocked (w.setDataStream s callData) := by
  intro s' storage found
  simp only [ClientManager.setDataStream, List.getElem?_modify] at found
  obtain ⟨before, there, rfl⟩ := Option.map_eq_some_iff.mp found
  obtain ⟨h, represents⟩ := stocked s' before there
  refine ⟨h, ?_⟩
  split <;> exact represents

/-- A message on the stream of a live call is pushed into its storage. -/
theorem receive_live (stocked : Stocked w) (live : LiveCall w.calls (.baseStation s) callData)
    (found : w.baseStationStorages[s]? = some storage) (packet : Proto.BaseStationData) :
    ∃ after h, w.receiveBaseStationData callData packet =
        .ok { w with baseStationStorages := w.baseStationStorages.set s after } ∧
      after.baseStationStream = storage.baseStationStream ∧
      PacketBuffers.Represents (N := 500) (by decide) after.buffers (h ++ [protoToBaseStationData packet]) := by
  obtain ⟨stream, call, slot⟩ := live
  have own : stream = .baseStation s := by
    cases stream <;> cases slot
    rfl
  subst own
  obtain ⟨h, represents⟩ := stocked s storage found
  obtain ⟨buffers, pushed, kept⟩ :=
    PacketBuffers.push_represents represents (by decide) id (protoToBaseStationData packet)
  refine ⟨{ storage with buffers := buffers }, h, ?_, rfl, kept⟩
  simp [ClientManager.receiveBaseStationData, call, found, BaseStationDataStorage.pushData, pushed,
    bind, Except.bind, pure, Except.pure]

/-- A message changes the packets of a storage and nothing else. -/
theorem receive_kept {packet : Proto.BaseStationData} (stocked : Stocked w)
    (received : w.receiveBaseStationData callData packet = .ok w') :
    Stocked w' ∧ w'.handles = w.handles ∧
      w'.baseStationDataStorageList = w.baseStationDataStorageList ∧
      w'.baseStationStorages.length = w.baseStationStorages.length := by
  by_cases listening : ∃ s storage, LiveCall w.calls (.baseStation s) callData ∧
      w.baseStationStorages[s]? = some storage
  · obtain ⟨s, storage, live, found⟩ := listening
    obtain ⟨after, h, result, stream, represents⟩ := receive_live stocked live found packet
    rw [received] at result
    cases result
    refine ⟨?_, ?_, rfl, by simp⟩
    · intro s' storage' found'
      rw [List.getElem?_set] at found'
      split at found'
      · split at found'
        · cases found'
          exact ⟨_, represents⟩
        · cases found'
      · exact stocked s' storage' found'
    · refine Handles.ext rfl ?_
      funext slot
      cases slot with
      | baseStation s' =>
          simp only [ClientManager.handles_stored, ClientManager.stored, List.getElem?_set]
          split
          · rename_i same
            subst same
            rw [if_pos (List.getElem?_eq_some_iff.mp found).1, found]
            exact stream
          · rfl
      | device m key => rfl
      | frame m => rfl
      | wireless i => rfl
      | deviceEvents => rfl
  · have same : w.receiveBaseStationData callData packet = .ok w := by
      unfold ClientManager.receiveBaseStationData
      split
      · rename_i s call
        split
        · rename_i storage found
          exact absurd ⟨s, storage, ⟨_, call, rfl⟩, found⟩ listening
        · rfl
      · rfl
    rw [received] at same
    cases same
    exact ⟨stocked, rfl, rfl, rfl⟩

end Storages

/-! ## The phases of the shared storage -/

/-- No base station stream is open. -/
def Quiet (w : ClientManager) : Prop := ∀ s callData, ¬ w.handles.Live (.baseStation s) callData

/-- Where a context is that has kept its promises. -/
inductive Phase (c : ClientContext) : Prop
  | unrequested (pointer : c.baseStationDataStorage = none) (tags : c.baseStationRequestList = ∅)
      (listed : c.clientManager.baseStationDataStorageList = []) (quiet : Quiet c.clientManager)
  | requested (s : StorageId) (callData : CallId) (pointer : c.baseStationDataStorage = some s)
      (tags : c.baseStationRequestList.Nonempty)
      (listed : c.clientManager.baseStationDataStorageList = [s])
      (stored : c.clientManager.stored (.baseStation s) = some callData)
      (live : ∀ s' callData', c.clientManager.handles.Live (.baseStation s') callData' ↔
        s' = s ∧ callData' = callData)
  | closed (s : StorageId) (pointer : c.baseStationDataStorage = some s)
      (tags : c.baseStationRequestList = ∅)
      (listed : c.clientManager.baseStationDataStorageList = []) (quiet : Quiet c.clientManager)

section Phases

variable {c c' : ClientContext} {w : ClientManager} {s : StorageId} {callData : CallId}

theorem made_of_stored (stored : w.stored (.baseStation s) = some callData) :
    ∃ storage, w.baseStationStorages[s]? = some storage := by
  obtain ⟨storage, found, -⟩ := Option.bind_eq_some_iff.mp stored
  exact ⟨storage, found⟩

theorem reaches (stocked : Stocked c.clientManager) (pointer : c.baseStationDataStorage = some s)
    (stored : c.clientManager.stored (.baseStation s) = some callData)
    (live : LiveCall c.clientManager.calls (.baseStation s) callData) : c.Reaches callData := by
  intro packet
  obtain ⟨storage, found⟩ := made_of_stored stored
  obtain ⟨after, h, received, -, represents⟩ := receive_live stocked live found packet
  refine ⟨_, UInt32.ofNat h.length, by simp only [step, received]; rfl, ?_⟩
  intro requestTag opened numPackets some
  have inside := (List.getElem?_eq_some_iff.mp found).1
  have positive : numPackets.toUInt32 ≠ 0 := by
    intro zero
    cases numPackets
    cases zero
    exact some rfl
  obtain ⟨response, answered, newest⟩ := latest_of_represents represents (by decide) positive
  refine ⟨response, ?_, newest⟩
  simp [getLatestBaseStationData, pointer, inside, opened, answered]

theorem served_of_phase (stocked : Stocked c.clientManager) (phase : c.Phase) : c.Served := by
  cases phase with
  | unrequested pointer tags listed quiet | closed s pointer tags listed quiet =>
      refine ⟨fun opened => absurd tags opened.ne_empty, ?_⟩
      exact fun _ s callData live => quiet s callData (liveCall_iff.mp live)
  | requested s callData pointer tags listed stored live =>
      refine ⟨fun _ => ⟨s, pointer, by rw [listed]; exact List.mem_singleton_self s, ?_⟩,
        fun none => absurd none tags.ne_empty⟩
      have own : LiveCall c.clientManager.calls (.baseStation s) callData :=
        liveCall_iff.mpr ((live s callData).mpr ⟨rfl, rfl⟩)
      exact ⟨callData, stored, own, reaches stocked pointer stored own⟩

/-- A new storage with a stream of its own. -/
theorem requestBaseStationData_frame (stocked : Stocked w) :
    Stocked w.requestBaseStationData.1 ∧
      w.requestBaseStationData.1.baseStationDataStorageList =
        w.baseStationDataStorageList ++ [w.baseStationStorages.length] ∧
      w.requestBaseStationData.1.stored (.baseStation w.baseStationStorages.length) =
        some w.calls.length ∧
      ∀ k i, w.requestBaseStationData.1.handles.Live k i ↔
        w.handles.Live k i ∨ k = .baseStation w.baseStationStorages.length ∧ i = w.calls.length := by
  refine ⟨?_, rfl, ?_, ?_⟩
  · exact stocked.make.setDataStream
  · simp [ClientManager.requestBaseStationData, ClientManager.stored,
      ClientManager.pushBaseStationDataStorage, ClientManager.setDataStream,
      ClientManager.openBaseStationDataStream, ClientManager.makeBaseStationDataStorage,
      BaseStationDataStorage.setDataStream]
  · intro k i
    have opened := ClientManager.handles_openBaseStationDataStream w.makeBaseStationDataStorage
      w.baseStationStorages.length
    have live : (w.handles.openFor (.baseStation w.baseStationStorages.length)).Live k i ↔
        w.handles.Live k i ∨
          k = .baseStation w.baseStationStorages.length ∧ i = w.handles.resources.length :=
      Handles.live_openFor
    rw [ClientManager.handles_makeBaseStationDataStorage] at opened
    rw [← opened, ClientManager.handles_resources_length] at live
    exact live

/-- The loop finds the only storage of the list at once. -/
theorem closeBaseStationDataRequest_single (stocked : Stocked w)
    (listed : w.baseStationDataStorageList = [s]) (stored : w.stored (.baseStation s) = some callData) :
    ∃ w', w.closeBaseStationDataRequest 1 (some s) = some w' ∧ Stocked w' ∧
      w'.baseStationDataStorageList = [] ∧ w'.handles = w.handles.cancelResource callData := by
  have pointer : ((w.baseStationStorages[s]?).bind fun storage => storage.baseStationStream) =
      some callData := stored
  refine ⟨{ w with calls := cancelCall w.calls callData, baseStationDataStorageList := [] },
    ?_, stocked, rfl, callHandles_cancelCall⟩
  simp [ClientManager.closeBaseStationDataRequest, listed, Loop.run, ClientManager.closeRound,
    ClientManager.cancelBaseStationStream, pointer]

theorem closeBaseStationDataRequest_absent (listed : w.baseStationDataStorageList = [])
    (storage : Option StorageId) : w.closeBaseStationDataRequest 1 storage = some w := by
  cases storage with
  | none => rfl
  | some s => simp [ClientManager.closeBaseStationDataRequest, listed, Loop.run, ClientManager.closeRound]

theorem phase_request (stocked : Stocked c.clientManager) (phase : c.Phase)
    (timely : c.Timely .requestBaseStationData) :
    Stocked c.requestBaseStationData.1.clientManager ∧ c.requestBaseStationData.1.Phase := by
  cases phase with
  | unrequested pointer tags listed quiet =>
      obtain ⟨stocked', listed', stored, live⟩ := requestBaseStationData_frame stocked
      simp only [requestBaseStationData, if_pos pointer]
      refine ⟨stocked', .requested c.clientManager.baseStationStorages.length
        c.clientManager.calls.length rfl (Finset.insert_nonempty _ _)
        (by rw [listed', listed, List.nil_append]) stored ?_⟩
      intro s' callData'
      rw [live]
      simp [quiet s' callData']
  | requested s callData pointer tags listed stored live =>
      simp only [requestBaseStationData, if_neg (show ¬ c.baseStationDataStorage = none by simp [pointer])]
      exact ⟨stocked, .requested s callData pointer (Finset.insert_nonempty _ _) listed stored live⟩
  | closed s pointer tags listed quiet =>
      rcases timely with none | opened
      · rw [pointer] at none
        cases none
      · exact absurd tags opened.ne_empty

/-- A request after the last tag was closed takes the old storage, which is not on the list. -/
theorem not_served_of_late (phase : c.Phase) (late : ¬ c.Timely .requestBaseStationData) :
    ¬ c.requestBaseStationData.1.Served := by
  intro served
  cases phase with
  | unrequested pointer tags listed quiet => exact late (.inl pointer)
  | requested s callData pointer tags listed stored live => exact late (.inr tags)
  | closed s pointer tags listed quiet =>
      simp only [requestBaseStationData, if_neg (show ¬ c.baseStationDataStorage = none by simp [pointer])]
        at served
      obtain ⟨s', -, member, -⟩ := served.opened (Finset.insert_nonempty _ _)
      rw [listed] at member
      cases member

theorem phase_close {requestTag : UInt32} (stocked : Stocked c.clientManager) (phase : c.Phase)
    (stepped : c.closeBaseStationDataRequest 1 requestTag = some c') :
    Stocked c'.clientManager ∧ c'.Phase := by
  unfold closeBaseStationDataRequest at stepped
  cases phase with
  | unrequested pointer tags listed quiet =>
      simp only [tags, Finset.erase_empty, if_true, closeBaseStationDataRequest_absent listed,
        Option.map_some, Option.some.injEq] at stepped
      subst stepped
      exact ⟨stocked, .unrequested pointer rfl listed quiet⟩
  | closed s pointer tags listed quiet =>
      simp only [tags, Finset.erase_empty, if_true, closeBaseStationDataRequest_absent listed,
        Option.map_some, Option.some.injEq] at stepped
      subst stepped
      exact ⟨stocked, .closed s pointer rfl listed quiet⟩
  | requested s callData pointer tags listed stored live =>
      simp only at stepped
      split at stepped
      · rename_i last
        obtain ⟨w', done, stocked', unlisted, cancelled⟩ :=
          closeBaseStationDataRequest_single stocked listed stored
        rw [pointer, done] at stepped
        simp only [Option.map_some, Option.some.injEq] at stepped
        subst stepped
        refine ⟨stocked', .closed s rfl last unlisted ?_⟩
        intro s' callData' alive
        rw [cancelled, Handles.live_cancelResource, live] at alive
        exact alive.2 alive.1.2
      · rename_i others
        cases stepped
        exact ⟨stocked, .requested s callData pointer (Finset.nonempty_iff_ne_empty.mpr others) listed
          stored live⟩

theorem phase_receive {packet : Proto.BaseStationData} (stocked : Stocked c.clientManager)
    (phase : c.Phase) (received : c.clientManager.receiveBaseStationData callData packet = .ok w) :
    Stocked w ∧ ({ c with clientManager := w } : ClientContext).Phase := by
  obtain ⟨stocked', same, list, -⟩ := receive_kept stocked received
  refine ⟨stocked', ?_⟩
  cases phase with
  | unrequested pointer tags listed quiet =>
      exact .unrequested pointer tags (list.trans listed) fun s i live => quiet s i (same ▸ live)
  | closed s pointer tags listed quiet =>
      exact .closed s pointer tags (list.trans listed) fun s i live => quiet s i (same ▸ live)
  | requested s i pointer tags listed stored live =>
      refine .requested s i pointer tags (list.trans listed) ?_ fun s' i' => ?_
      · exact (congrFun (congrArg Handles.stored same) (.baseStation s)).trans stored
      · rw [← live, ← same]

/-- **One operation.** -/
theorem phase_step {operation : Operation} (stocked : Stocked c.clientManager) (phase : c.Phase)
    (timely : c.Timely operation) (stepped : c.step operation = some c') :
    Stocked c'.clientManager ∧ c'.Phase := by
  cases operation with
  | requestBaseStationData =>
      cases stepped
      exact phase_request stocked phase timely
  | closeBaseStationDataRequest requestTag => exact phase_close stocked phase stepped
  | receive callData packet =>
      simp only [step] at stepped
      split at stepped
      · rename_i received
        cases stepped
        exact phase_receive stocked phase received
      · cases stepped

/-- An operation that keeps the promises is timely, and the other way round. -/
theorem served_step_iff {operation : Operation} (stocked : Stocked c.clientManager) (phase : c.Phase)
    (stepped : c.step operation = some c') : c'.Served ↔ c.Timely operation := by
  constructor
  · intro served
    cases operation with
    | requestBaseStationData =>
        cases stepped
        by_contra late
        exact not_served_of_late phase late served
    | closeBaseStationDataRequest requestTag => trivial
    | receive callData packet => trivial
  · intro timely
    obtain ⟨stocked', phase'⟩ := phase_step stocked phase timely stepped
    exact served_of_phase stocked' phase'

theorem phase_init : Stocked init.clientManager ∧ init.Phase := by
  constructor
  · intro s storage found
    cases found
  · refine .unrequested rfl rfl rfl ?_
    intro s callData live
    cases live.lt

/-- **When the open tags are served.**  For every run of requests, closes of any tags, and
messages: after each operation the open tags have a listed storage with a live stream, and no
stream is left when no tag is open, if and only if no request is made after the last open
tag was closed. -/
theorem served_iff (operations : List Operation) :
    EveryStep step (fun _ _ c' => Served c') operations init ↔
      EveryStep step (fun c operation _ => Timely c operation) operations init := by
  refine everyStep_iff (fun c => Stocked c.clientManager ∧ c.Phase) operations ?_ ?_ phase_init
  · rintro c operation c' - ⟨stocked, phase⟩ stepped
    exact served_step_iff stocked phase stepped
  · rintro c operation c' - ⟨stocked, phase⟩ stepped served
    exact phase_step stocked phase ((served_step_iff stocked phase stepped).mp served) stepped

/-- One request, its close, and a second request. -/
theorem request_after_close :
    ¬ ∀ operations, EveryStep step (fun _ _ c' => Served c') operations init := by
  intro claimed
  have every := claimed ([.requestBaseStationData, .closeBaseStationDataRequest 1] ++
    [.requestBaseStationData])
  have served := every.last rfl rfl
  obtain ⟨s, -, member, -⟩ := served.opened ⟨2, by decide⟩
  cases member

end Phases

end ClientContext

end OmmoSdk.Client
