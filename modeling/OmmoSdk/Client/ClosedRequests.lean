/-
# Client.ClosedRequests — a closed request stays closed

`CloseRequest` cancels the streams of a manager, forgets them and takes the manager off the
list, each in a section of its own.  A device event holds the list while it goes over the
managers, so when a manager is taken off the list the event is done with it, and later
events do not meet it.  Before that an event may open a stream that the close has passed by.

`OpensApart` excludes this, on the sections that cancel and on those that open a stream.
Under it a close has three phases (`Phase`): until the streams are cancelled each live one is
stored, from then on there is none, and when the manager is off the list no section of an
event is about it any more.
-/
import OmmoSdk.Client.CallLists
import OmmoSdk.Client.LockTurns
import OmmoSdk.Client.OpeningWindows
import OmmoSdk.Client.Sequential

namespace OmmoSdk.Client

open OmmoSdk.Theory
open OmmoSdk.Sdk

set_option autoImplicit false

/-! ## The managers of the calls -/

/-- The manager that holds the slot, and the kind of manager that has such a slot. -/
def ownerOf : Slot → Option (ManagerId × DataStreamType)
  | .device m _ => some (m, .deviceData)
  | .frame m => some (m, .dataFrame)
  | _ => none

theorem ownerOf_of_manager {slot : Slot} {m : ManagerId} (own : slot.manager = some m) :
    ∃ streamType, ownerOf slot = some (m, streamType) := by
  cases slot <;> cases own <;> exact ⟨_, rfl⟩

/-- A live data call is one of a manager of its kind. -/
def CallsTyped (w : ClientManager) : Prop :=
  ∀ slot c, LiveCall w.calls slot c → ∀ m streamType, ownerOf slot = some (m, streamType) →
    Holds w m streamType

section Typed

variable {orders : Orders} {w w' : ClientManager} {instr : Instr} {m : ManagerId} {slot : Slot}
  {streamType : DataStreamType}

theorem uses_of_opened (opened : instr.opened = some slot) (own : ownerOf slot = some (m, streamType)) :
    instr.uses = some (m, streamType) := by
  cases instr <;> cases opened <;> cases own <;> rfl

theorem callsTyped_run (typed : CallsTyped w)
    (uses : ∀ m streamType, instr.uses = some (m, streamType) → Holds w m streamType) :
    CallsTyped (instr.run orders w) := by
  intro slot c live m streamType own
  rcases (callsGrow_run orders instr).fresh slot c live with before | opened
  · exact holds_run (typed slot c before m streamType own)
  · exact holds_run (uses m streamType (uses_of_opened opened own))

/-- What every thread keeps, whatever the others do. -/
theorem callsTyped_reached {allowed : ClientThreads → Nat × Orders → Prop} {start s : ClientThreads}
    (typed : CallsTyped start.shared)
    (uses : ∀ program ∈ start.programs, ∀ i ∈ program, i.uses = none)
    (reached : Reached ClientThreads.step allowed start s) : CallsTyped s.shared := by
  have both := reached.invariant (fun s => CallsTyped s.shared ∧
    ∀ program ∈ s.programs, ∀ i ∈ program, ∀ m streamType, i.uses = some (m, streamType) →
      Holds s.shared m streamType) ⟨typed, fun program member i inside m streamType used => by
        rw [uses program member i inside] at used
        cases used⟩ ?_
  · exact both.1
  · rintro s s' label ⟨typed, uses⟩ - stepped
    obtain ⟨instr, rest, current, -, shared, programs⟩ := Threads.step_cases stepped
    have here := uses _ (List.mem_of_getElem? current)
    rw [shared, programs]
    refine ⟨callsTyped_run typed (here instr List.mem_cons_self), fun program member => ?_⟩
    rcases List.mem_or_eq_of_mem_set member with old | rfl
    · exact fun i inside m streamType used => holds_run (uses program old i inside m streamType used)
    · intro i inside m streamType used
      rcases List.mem_append.mp inside with fresh | old
      · exact holds_next (here instr List.mem_cons_self) i fresh m streamType used
      · exact holds_run (here i (List.mem_cons_of_mem _ old) m streamType used)

/-- **After every run of whole operations** the calls have managers of their kind. -/
theorem callsTyped_of_runs {run : List ClientManager.Operation} (runs : ClientManager.Runs run w) :
    CallsTyped w := by
  induction runs with
  | start =>
      rintro slot c ⟨stream, found, -⟩
      cases found
  | @next run w before operation order ih =>
      have alone : Does ⟨order, .stored _⟩ [] w [operation.program] (operation.apply order w) :=
        does_operation operation
      refine callsTyped_reached ih ?_ (alone [])
      intro program member i inside
      cases List.mem_singleton.mp member
      cases List.mem_singleton.mp inside
      cases operation <;> rfl

end Typed

/-! ## The completion queue thread -/

namespace Instr

/-- It leads into the window of a stream, is in it, or is the closing of one by an event. -/
def carries : Instr → Bool
  | updateDeviceDataStream _ _ _ | dataStreamExists _ _ | openTrackingDeviceDataStream _ _ => true
  | addDataStream _ _ _ | cancelDataStream _ _ | removeDataStream _ _ => true
  | updateDataFrameStream _ _ _ | openDataFrame _ | forFrameDevices _ => true
  | prepareFrameDevices _ _ _ | openDataFrameStream _ _ | setDataFrameStream _ _ => true
  | cancelDataFrameStream _ reopen | removeDataFrameStream _ reopen => reopen
  | _ => false

/-- It is part of the update of one manager. -/
def updating : Instr → Bool
  | isStorageAvailable _ _ | addDeviceStorage _ _ | removeDeviceStorage _ _ => true
  | lock _ | unlock _ => true
  | instr => instr.carries

/-- What an event has still to do outside such an update, and the events that are to come. -/
def between : Instr → Bool
  | deviceEventProcessor _ | recordDevice _ _ | forDataManagers _ _ | updateStreams _ _ _ => true
  | lock _ | unlock _ => true
  | _ => false

def ofEvent (instr : Instr) : Bool := instr.updating || instr.between

/-- The manager that the instruction may open a stream of, or lead to one that does. -/
def updates : Instr → Option ManagerId
  | updateStreams m _ _ | updateDeviceDataStream m _ _ | dataStreamExists m _ => some m
  | openTrackingDeviceDataStream m _ | updateDataFrameStream m _ _ | openDataFrame m => some m
  | forFrameDevices m | prepareFrameDevices m _ _ | openDataFrameStream m _ => some m
  | cancelDataFrameStream m true | removeDataFrameStream m true => some m
  | _ => none

end Instr

/-- The thread is in the update of one manager, with at most one instruction for its streams. -/
def OneUpdate (program : List Instr) : Prop :=
  ∃ update rest, program = update ++ rest ∧ (∀ i ∈ update, i.updating = true) ∧
    update.countP Instr.carries ≤ 1 ∧ ∀ i ∈ rest, i.between = true

section Queue

variable {orders : Orders} {w : ClientManager} {instr : Instr} {rest : List Instr} {m : ManagerId}

theorem carries_of_between {i : Instr} (between : i.between = true) : i.carries = false := by
  cases i <;> first | rfl | cases between

/-- What replaces an instruction of an update is for the same stream. -/
theorem updating_next (orders : Orders) (w : ClientManager) (updating : instr.updating = true) :
    (∀ i ∈ instr.next orders w, i.updating = true) ∧
      (instr.next orders w).countP Instr.carries ≤ [instr].countP Instr.carries := by
  cases instr with
  | prepareFrameDevices m items devices =>
      cases items with
      | nil => simp [Instr.next, Instr.updating, Instr.carries]
      | cons item rest =>
          simp only [Instr.next]
          split <;> simp [Instr.updating, Instr.carries]
  | cancelDataFrameStream m reopen | removeDataFrameStream m reopen =>
      cases updating
      simp [Instr.next, Instr.updating, Instr.carries]
  | updateDataFrameStream m device deviceConnected =>
      cases deviceConnected <;> grind [Instr.next, Instr.updating, Instr.carries]
  | _ => first | (cases updating; done) | grind [Instr.next, Instr.updating, Instr.carries]

/-- Between two updates, the next one may begin. -/
theorem between_next (between : instr.between = true) :
    (∀ i ∈ instr.next orders w, i.between = true) ∨
      ∃ i, instr.next orders w = [i] ∧ i.updating = true := by
  cases instr with
  | updateStreams m device deviceConnected =>
      simp only [Instr.next]
      split
      · exact .inl (by simp)
      · split
        · exact .inr ⟨_, rfl, rfl⟩
        · exact .inr ⟨_, rfl, rfl⟩
  | _ =>
      first
      | cases between; done
      | refine .inl fun i member => ?_
        cases Instr.follows_of_next member <;> rfl

theorem oneUpdate_step (one : OneUpdate (instr :: rest)) : OneUpdate (instr.next orders w ++ rest) := by
  obtain ⟨update, later, program, inside, once, outside⟩ := one
  cases update with
  | nil =>
      rw [List.nil_append] at program
      subst program
      obtain ⟨here, behind⟩ := List.forall_mem_cons.mp outside
      rcases between_next here with stays | ⟨i, next, begins⟩
      · refine ⟨[], _, rfl, by simp, by simp, fun i member => ?_⟩
        exact (List.mem_append.mp member).elim (stays i) (behind i)
      · rw [next]
        exact ⟨[i], rest, rfl, by simpa using begins, List.countP_le_length, behind⟩
  | cons first update =>
      rw [List.cons_append, List.cons.injEq] at program
      obtain ⟨rfl, rfl⟩ := program
      obtain ⟨here, behind⟩ := List.forall_mem_cons.mp inside
      obtain ⟨stays, fewer⟩ := updating_next orders w here
      refine ⟨instr.next orders w ++ update, later, (List.append_assoc _ _ _).symm, fun i member => ?_, ?_,
        outside⟩
      · exact (List.mem_append.mp member).elim (stays i) (behind i)
      · rw [List.countP_append]
        rw [← List.singleton_append, List.countP_append] at once
        omega

/-- No other instruction of the thread is for a stream. -/
theorem OneUpdate.alone (one : OneUpdate (instr :: rest)) (carries : instr.carries = true) :
    ∀ i ∈ rest, i.carries = false := by
  obtain ⟨update, later, program, inside, once, outside⟩ := one
  cases update with
  | nil =>
      rw [List.nil_append] at program
      subst program
      rw [carries_of_between (outside instr List.mem_cons_self)] at carries
      cases carries
  | cons first update =>
      rw [List.cons_append, List.cons.injEq] at program
      obtain ⟨rfl, rfl⟩ := program
      rw [List.countP_cons_of_pos carries] at once
      have none : update.countP Instr.carries = 0 := by omega
      intro i member
      rcases List.mem_append.mp member with near | far
      · simpa using List.countP_eq_zero.mp none i near
      · exact carries_of_between (outside i far)

theorem carries_of_window {i : Instr} (idle : i.carries = false) (registry : i.registry = true) :
    i.opens = none ∧ i.removes = none := by
  cases i with
  | removeDataFrameStream m reopen =>
      cases registry
      cases idle
  | _ => first | exact ⟨rfl, rfl⟩ | cases idle

/-- So it never meets a window that it opened itself. -/
theorem OneUpdate.oneOpener (one : OneUpdate (instr :: rest))
    (registry : ∀ i ∈ instr :: rest, i.registry = true) :
    instr.OneOpener w { i | i ∈ instr :: rest } := by
  have idle : instr.carries = true → ∀ i ∈ rest, i.opens = none ∧ i.removes = none :=
    fun carries i member =>
      carries_of_window (one.alone carries i member) (registry i (List.mem_cons_of_mem _ member))
  cases instr with
  | dataStreamExists m device =>
      intro _ other member
      rcases List.mem_cons.mp member with rfl | old
      · simp [Instr.opens]
      · simp [(idle rfl other old).1]
  | addDataStream m deviceId c =>
      intro other member
      rcases List.mem_cons.mp member with rfl | old
      · simp [Instr.removes]
      · simp [(idle rfl other old).2]
  | cancelDataFrameStream m reopen =>
      have reopens : reopen = true := registry _ List.mem_cons_self
      intro other member
      rcases List.mem_cons.mp member with rfl | old
      · simp [Instr.opens]
      · simp [(idle reopens other old).1]
  | _ => trivial

theorem OneUpdate.ofEvent {program : List Instr} (one : OneUpdate program) :
    ∀ i ∈ program, i.ofEvent = true := by
  obtain ⟨update, later, rfl, inside, -, outside⟩ := one
  intro i member
  rw [Instr.ofEvent, Bool.or_eq_true]
  exact (List.mem_append.mp member).imp (inside i) (outside i)

theorem list_onCalls {f : DataManager → List CallData → List CallData} :
    (w.onCalls m f).dataManagerList = w.dataManagerList := by
  unfold ClientManager.onCalls
  split <;> rfl

/-- No section of an event changes the list. -/
theorem list_run (event : instr.ofEvent = true) :
    (instr.run orders w).dataManagerList = w.dataManagerList := by
  cases instr with
  | openTrackingDeviceDataStream m device | openDataFrameStream m devices =>
      simp only [Instr.run]
      split <;> rfl
  | cancelDataStream m deviceId | cancelDataFrameStream m reopen => exact list_onCalls
  | recordDevice device deviceConnected =>
      obtain ⟨connected, recorded⟩ := ClientManager.recordDevice_frame w device deviceConnected
      simp only [Instr.run, recorded]
  | _ => first | rfl | cases event

theorem updates_of_opened {slot : Slot} (opened : instr.opened = some slot) (own : slot.manager = some m) :
    instr.updates = some m := by
  cases instr <;> cases opened <;> cases own <;> rfl

theorem within_of_updates (updates : instr.updates = some m) : instr.listTurn false = .within := by
  cases instr with
  | cancelDataFrameStream m reopen | removeDataFrameStream m reopen =>
      cases reopen
      · cases updates
      · rfl
  | _ => first | rfl | cases updates

/-- The managers that an event goes on with are on the list. -/
theorem updates_next {i : Instr} (event : instr.ofEvent = true) (member : i ∈ instr.next orders w)
    (updates : i.updates = some m) : instr.updates = some m ∨ m ∈ w.dataManagerList := by
  cases Instr.follows_of_next member with
  | listedManager listed =>
      cases updates
      exact .inr listed
  | goneFrame m' reopen =>
      cases reopen with
      | false => cases event
      | true => exact .inl updates
  | _ => first | exact .inl updates | cases updates; done | cases event

end Queue

/-! ## The close -/

/-- The manager that is being closed: its streams are cancelled, and it is on the list yet. -/
def Instr.closing : Instr → Option ManagerId
  | clearDataStreams m | removeDataFrameStream m false | eraseManager m => some m
  | _ => none

/-- **No event opens a stream of a request while that is closed**: when its streams are cancelled
none of them is opened and not stored yet, and none is opened from then on until the manager is
off the list. -/
def Instr.OpensApart (pending : Set Instr) (instr : Instr) : Prop :=
  match instr with
  | cancelAllDataStreams m | cancelDataFrameStream m false =>
      ∀ other ∈ pending, ∀ slot c, other.stores = some (slot, c) → slot.manager ≠ some m
  | openTrackingDeviceDataStream m _ | openDataFrameStream m _ =>
      ∀ other ∈ pending, other.closing ≠ some m
  | _ => True

/-- A user who closes a request, and the completion queue thread with its events. -/
def closingThreads (w : ClientManager) (m : ManagerId) (events : List Proto.TrackingDeviceEvent) :
    ClientThreads where
  shared := w
  held := []
  programs := [[.closeRequest m], events.map Instr.deviceEventProcessor]

/-- No call of the manager is live. -/
def NoCallOf (m : ManagerId) (w : ClientManager) : Prop :=
  ∀ slot c, slot.manager = some m → ¬ LiveCall w.calls slot c

/-- The sections of a close from the cancelling of the streams on. -/
def closeSections (m : ManagerId) : DataStreamType → List Instr
  | .deviceData =>
      [.cancelAllDataStreams m, .clearDataStreams m,
        .lock .dataManagerList, .eraseManager m, .unlock .dataManagerList]
  | .dataFrame => [.cancelDataFrameStream m false]

/-- What is left of a close whose streams are cancelled. -/
def Cancelled (m : ManagerId) (program : List Instr) : Prop :=
  program = (closeSections m .deviceData).drop 1 ∨ program = [.removeDataFrameStream m false] ∨
    program = (closeSections m .deviceData).drop 2 ∨ program = (closeSections m .deviceData).drop 3

/-- **Where the close is**, and what is then known of the calls of the manager. -/
inductive Phase (m : ManagerId) (w : ClientManager) : List Instr → List Instr → Prop
  | opened (streamType : DataStreamType) {program queue : List Instr} (holds : Holds w m streamType)
      (at_ : program = [.closeRequest m] ∨ program = closeSections m streamType) (typed : CallsTyped w)
      (fits : Fits w queue) : Phase m w program queue
  | cancelled {program queue : List Instr} (at_ : Cancelled m program) (none : NoCallOf m w) :
      Phase m w program queue
  | erased {program queue : List Instr} (at_ : program = [.unlock .dataManagerList] ∨ program = [])
      (none : NoCallOf m w) (absent : m ∉ w.dataManagerList)
      (past : ∀ i ∈ queue, i.updates ≠ some m) : Phase m w program queue

/-- What every run of a close and of events keeps that opens apart. -/
structure Closes (m : ManagerId) (s : ClientThreads) : Prop where
  exclusive : Threads.Exclusive .dataManagerList (fun t => Instr.listTurn (t = 0)) s
  distinct : s.shared.dataManagerList.Nodup
  threads : ∃ program queue, s.programs = [program, queue] ∧ OneUpdate queue ∧
    Phase m s.shared program queue

section Close

variable {orders : Orders} {w : ClientManager} {m : ManagerId} {instr : Instr} {rest queue : List Instr}
  {program : List Instr} {manager : DataManager}

/-- A section that opens no stream of the manager. -/
theorem noCallOf_run (none : NoCallOf m w)
    (opened : ∀ slot, slot.manager = some m → instr.opened ≠ some slot) : NoCallOf m (instr.run orders w) := by
  intro slot c own live
  rcases (callsGrow_run orders instr).fresh slot c live with before | opens
  · exact none slot c own before
  · exact opened slot own opens

/-- The live calls of a request whose opened calls are all stored are the stored ones. -/
theorem stored_of_live {slot : Slot} {c : CallId} (fits : Fits w queue) (own : slot.manager = some m)
    (apart : ∀ i ∈ queue, ∀ slot c, i.stores = some (slot, c) → slot.manager ≠ some m)
    (live : w.handles.Live slot c) : w.stored slot = some c := by
  have slotFits := fits.slots slot (by rw [own]; rfl)
  by_cases open_ : ∃ i ∈ queue, i.opens = some slot
  · obtain ⟨i, member, opens⟩ := open_
    cases stores : i.stores with
    | none => exact absurd live (slotFits.unopened i member opens stores c)
    | some stored =>
        obtain ⟨slot', c'⟩ := stored
        have same : slot' = slot := by
          have both := (opens_of_stores (fits.registry i member) stores).symm.trans opens
          exact Option.some.inj both
        exact absurd (same ▸ own) (apart i member slot' c' stores)
  · exact (slotFits.settled (fun i member opens => open_ ⟨i, member, opens⟩) c).1 live

theorem ownerOf_same {slot : Slot} {c : CallId} {streamType : DataStreamType} (typed : CallsTyped w)
    (holds : Holds w m streamType) (own : slot.manager = some m) (live : LiveCall w.calls slot c) :
    ownerOf slot = some (m, streamType) := by
  obtain ⟨streamType', owner⟩ := ownerOf_of_manager own
  obtain ⟨manager, held, type⟩ := holds
  obtain ⟨manager', held', type'⟩ := typed slot c live m streamType' owner
  rw [held] at held'
  cases held'
  rw [owner, ← type, type']

/-- **The cancelling of the streams** ends every call of the manager. -/
theorem noCallOf_cancelled {streamType : DataStreamType} (typed : CallsTyped w)
    (holds : Holds w m streamType) (fits : Fits w queue)
    (apart : ∀ i ∈ queue, ∀ slot c, i.stores = some (slot, c) → slot.manager ≠ some m) :
    NoCallOf m (match streamType with
      | .deviceData => w.cancelAllDataStreams m
      | .dataFrame => w.cancelDataFrameStream m) := by
  intro slot c own live
  have before : LiveCall w.calls slot c := by
    cases streamType with
    | deviceData =>
        exact ((callsGrow_run .stored (.cancelAllDataStreams m)).fresh slot c live).resolve_right (by simp [Instr.opened])
    | dataFrame =>
        exact ((callsGrow_run .stored (.cancelDataFrameStream m false)).fresh slot c live).resolve_right
          (by simp [Instr.opened])
  have owner := ownerOf_same typed holds own before
  have pointer := stored_of_live fits own apart (liveCall_iff.mp before)
  cases streamType with
  | deviceData =>
      obtain ⟨manager, held, isDevice⟩ := holds
      cases slot with
      | device m' key =>
          obtain rfl : m = m' := (Option.some.inj own).symm
          have cancelled := (ClientManager.live_cancelEach manager.deviceDataStreams.entries w.stored w.calls
            (.device m key) c).mp
          have lives : (callHandles (w.cancelAllDataStreams m).calls w.stored).Live (.device m key) c :=
            liveCall_iff.mp live
          simp only [ClientManager.cancelAllDataStreams, ClientManager.onCalls, held,
            DataManager.cancelAllDataStreams] at lives
          exact (ClientManager.entry_iff_stored held c).mp (cancelled lives).2 key pointer
      | _ => cases owner
  | dataFrame =>
      cases slot with
      | frame m' =>
          cases owner
          have lives : (w.cancelDataFrameStream m).handles.Live (.frame m) c := liveCall_iff.mp live
          rw [ClientManager.handles_cancelDataFrameStream, Handles.live_cancel] at lives
          exact lives.2 pointer
      | _ => cases owner

theorem closing_of_cancelled (at_ : Cancelled m program) : ∃ i ∈ program, i.closing = some m := by
  rcases at_ with rfl | rfl | rfl | rfl
  · exact ⟨.clearDataStreams m, by simp [closeSections], rfl⟩
  · exact ⟨.removeDataFrameStream m false, by simp, rfl⟩
  · exact ⟨.eraseManager m, by simp [closeSections], rfl⟩
  · exact ⟨.eraseManager m, by simp [closeSections], rfl⟩

/-- A section that opens a stream of the manager does so apart from its close. -/
theorem not_closing_of_opened {pending : Set Instr} {slot : Slot} (apart : instr.OpensApart pending)
    (opened : instr.opened = some slot) (own : slot.manager = some m) :
    ∀ other ∈ pending, other.closing ≠ some m := by
  cases instr <;> cases opened <;> cases own <;> exact apart

/-- The manager has left the list: events go past it. -/
theorem erased_queue (orders : Orders) (one : OneUpdate (instr :: rest)) (none : NoCallOf m w)
    (absent : m ∉ w.dataManagerList)
    (past : ∀ i ∈ instr :: rest, i.updates ≠ some m) :
    NoCallOf m (instr.run orders w) ∧ m ∉ (instr.run orders w).dataManagerList ∧
      ∀ i ∈ instr.next orders w ++ rest, i.updates ≠ some m := by
  have event := one.ofEvent instr List.mem_cons_self
  refine ⟨noCallOf_run none fun slot own opened => ?_, by rw [list_run event]; exact absent, fun i member => ?_⟩
  · exact past instr List.mem_cons_self (updates_of_opened opened own)
  · rcases List.mem_append.mp member with fresh | old
    · intro updates
      rcases updates_next event fresh updates with here | listed
      · exact past instr List.mem_cons_self here
      · exact absent listed
    · exact past i (List.mem_cons_of_mem _ old)

/-- **A section of an event**, at each place of the close. -/
theorem phase_queue (orders : Orders) {pending : Set Instr} (one : OneUpdate (instr :: rest))
    (phase : Phase m w program (instr :: rest)) (apart : instr.OpensApart pending)
    (closer : ∀ i ∈ program, i ∈ pending) :
    Phase m (instr.run orders w) program (instr.next orders w ++ rest) := by
  cases phase with
  | opened streamType holds at_ typed fits =>
      have alone := one.oneOpener fits.registry (w := w)
      exact .opened streamType (holds_run holds) at_
        (callsTyped_run typed (fits.typed instr List.mem_cons_self)) (fits_step orders fits alone)
  | cancelled at_ none =>
      refine .cancelled at_ (noCallOf_run none fun slot own opened => ?_)
      obtain ⟨i, member, closing⟩ := closing_of_cancelled at_
      exact not_closing_of_opened apart opened own i (closer i member) closing
  | erased at_ none absent past =>
      obtain ⟨none', absent', past'⟩ := erased_queue orders one none absent past
      exact .erased at_ none' absent' past'

/-- **A section of the close.** -/
theorem phase_close (orders : Orders) {pending : Set Instr} (phase : Phase m w (instr :: rest) queue)
    (apart : instr.OpensApart pending) (events : ∀ i ∈ queue, i ∈ pending)
    (distinct : w.dataManagerList.Nodup)
    (outside : instr = .eraseManager m → ∀ i ∈ queue, i.updates ≠ some m) :
    Phase m (instr.run orders w) (instr.next orders w ++ rest) queue := by
  cases phase with
  | opened streamType holds at_ typed fits =>
      rcases at_ with begins | cancelling
      · cases begins
        have next : (Instr.closeRequest m).next orders w ++ [] = closeSections m streamType := by
          obtain ⟨manager, held, type⟩ := holds
          rw [List.append_nil, Instr.next, held]
          cases streamType <;> simp only [type] <;> rfl
        rw [next]
        exact .opened streamType holds (.inr rfl) typed fits
      · have stored : ∀ m', instr = .cancelAllDataStreams m' ∨ instr = .cancelDataFrameStream m' false →
            ∀ i ∈ queue, ∀ slot c, i.stores = some (slot, c) → slot.manager ≠ some m' := by
          rintro m' (rfl | rfl) i member slot c stores
          · exact apart i (events i member) slot c stores
          · exact apart i (events i member) slot c stores
        cases streamType with
        | deviceData =>
            cases cancelling
            exact .cancelled (.inl rfl) (noCallOf_cancelled typed holds fits (stored m (.inl rfl)))
        | dataFrame =>
            cases cancelling
            exact .cancelled (.inr (.inl rfl)) (noCallOf_cancelled typed holds fits (stored m (.inr rfl)))
  | cancelled at_ none =>
      rcases at_ with program | program | program | program <;> cases program
      · exact .cancelled (.inr (.inr (.inl rfl))) (noCallOf_run none (by simp [Instr.opened]))
      · exact .cancelled (.inr (.inr (.inl rfl))) (noCallOf_run none (by simp [Instr.opened]))
      · exact .cancelled (.inr (.inr (.inr rfl))) none
      · refine .erased (.inl rfl) none (fun member => ?_) (outside rfl)
        exact absurd rfl (distinct.mem_erase_iff.mp member).1
  | erased at_ none absent past =>
      rcases at_ with program | program <;> cases program
      exact .erased (.inr rfl) none absent past

/-- A close takes a manager off the list and adds none. -/
theorem sublist_close (phase : Phase m w (instr :: rest) queue) :
    ((instr.run orders w).dataManagerList).Sublist w.dataManagerList := by
  cases phase with
  | opened streamType holds at_ =>
      rcases at_ with begins | cancelling
      · cases begins
        exact .refl _
      · have same : (instr.run orders w).dataManagerList = w.dataManagerList := by
          cases streamType <;> cases cancelling <;> exact list_onCalls
        exact same ▸ .refl _
  | cancelled at_ =>
      rcases at_ with program | program | program | program <;> cases program
      · exact .refl _
      · exact .refl _
      · exact .refl _
      · exact List.erase_sublist
  | erased at_ =>
      rcases at_ with program | program <;> cases program
      exact .refl _

/-- **One step** of the close or of an event. -/
theorem closes_step {s s' : ClientThreads} {label : Nat × Orders} (closes : Closes m s)
    (apart : Threads.Under (fun _ pending instr (_ : Orders) => instr.OpensApart pending) s label)
    (stepped : ClientThreads.step s label = some s') : Closes m s' := by
  obtain ⟨exclusive, distinct, program, queue, programs, one, phase⟩ := closes
  obtain ⟨instr, rest, current, -, shared, programs'⟩ := Threads.step_cases stepped
  have met : instr.OpensApart { i | i ∈ program ++ queue } := by
    have here := apart instr rest current
    simpa [Threads.pending, programs] using here
  have shared' : s'.shared = instr.run label.2 s.shared := shared
  have exclusive' := exclusive.step (fun t => discipline_list (t = 0)) stepped
  obtain ⟨t, orders⟩ := label
  rw [programs] at current programs'
  rcases t with _ | _ | t
  · cases current
    have outside : instr = .eraseManager m → ∀ i ∈ queue, i.updates ≠ some m := by
      rintro rfl i member updates
      have away := exclusive.others_outside (t := 0) (by rw [programs]; rfl) rfl 1 (by decide) queue
        (by rw [programs]; rfl)
      exact (Threads.ne_within_of_outside away i member).1 (within_of_updates updates)
    have next := phase_close orders phase met (fun i member => List.mem_append_right _ member) distinct outside
    refine ⟨exclusive', ?_, _, queue, programs', one, shared' ▸ next⟩
    rw [shared']
    exact distinct.sublist (sublist_close phase)
  · cases current
    have next := phase_queue orders one phase met fun i member => List.mem_append_left _ member
    refine ⟨exclusive', ?_, program, _, programs', oneUpdate_step one, shared' ▸ next⟩
    rw [shared', list_run (one.ofEvent instr List.mem_cons_self)]
    exact distinct
  · cases current

theorem closes_start {run : List ClientManager.Operation} (runs : ClientManager.Runs run w)
    (made : m < w.dataManagers.length) (events : List Proto.TrackingDeviceEvent) :
    Closes m (closingThreads w m events) := by
  have coherent := ClientManager.coherent_of_runs runs
  have start : ∀ i ∈ events.map Instr.deviceEventProcessor, Neutral i ∧ i.registry = true ∧ i.uses = none := by
    intro i member
    obtain ⟨event, -, rfl⟩ := List.mem_map.mp member
    exact ⟨⟨rfl, rfl, rfl⟩, rfl, rfl⟩
  refine ⟨⟨none, by simp, fun t program found => ?_⟩, coherent.distinct, _, _, rfl, ?_, ?_⟩
  · rcases t with _ | _ | t <;> cases found
    · rfl
    · exact Threads.walk_map (fun event => rfl) events
  · refine ⟨[], _, rfl, by simp, by simp, fun i member => ?_⟩
    obtain ⟨event, -, rfl⟩ := List.mem_map.mp member
    rfl
  · exact .opened _ ⟨_, List.getElem?_eq_getElem made, rfl⟩ (.inl rfl) (callsTyped_of_runs runs)
      (fits_of_neutral coherent start)

/-- Once a close has returned, nothing that an event does opens a stream. -/
theorem noCallOf_after {s s' : ClientThreads} (one : OneUpdate queue) (programs : s.programs = [[], queue])
    (none : NoCallOf m s.shared) (absent : m ∉ s.shared.dataManagerList)
    (past : ∀ i ∈ queue, i.updates ≠ some m)
    (after : Reached ClientThreads.step (fun _ _ => True) s s') : NoCallOf m s'.shared := by
  have kept := after.invariant (fun s => ∃ queue, s.programs = [[], queue] ∧ OneUpdate queue ∧
    NoCallOf m s.shared ∧ m ∉ s.shared.dataManagerList ∧ ∀ i ∈ queue, i.updates ≠ some m)
    ⟨queue, programs, one, none, absent, past⟩ ?_
  · obtain ⟨-, -, -, none', -⟩ := kept
    exact none'
  · rintro s s' ⟨t, orders⟩ ⟨queue, programs, one, none, absent, past⟩ - stepped
    obtain ⟨instr, rest, current, -, shared, programs'⟩ := Threads.step_cases stepped
    rw [programs] at current programs'
    rcases t with _ | _ | t <;> cases current
    have shared' : s'.shared = instr.run orders s.shared := shared
    obtain ⟨none', absent', past'⟩ := erased_queue orders one none absent past
    rw [shared']
    exact ⟨_, programs', oneUpdate_step one, none', absent', past'⟩

/-- **A closed request stays closed.**  From any state that requests, events and closes lead to:
if no event opens a stream of the request while it is closed, then from the return of the
close on no call of it is live, whatever events are still under way or come later. -/
theorem stays_closed {run : List ClientManager.Operation} {events : List Proto.TrackingDeviceEvent}
    {s s' : ClientThreads} (runs : ClientManager.Runs run w) (made : m < w.dataManagers.length)
    (reached : Reached ClientThreads.step
      (Threads.Under fun _ pending instr _ => instr.OpensApart pending) (closingThreads w m events) s)
    (returned : s.programs[0]? = some [])
    (after : Reached ClientThreads.step (fun _ _ => True) s s') :
    ∀ slot c, slot.manager = some m → ¬ LiveCall s'.shared.calls slot c := by
  have closes : Closes m s := reached.invariant (Closes m) (closes_start runs made events)
    fun _ _ _ closes apart stepped => closes_step closes apart stepped
  obtain ⟨program, queue, programs, one, phase⟩ := closes.threads
  rw [programs] at returned
  cases returned
  cases phase with
  | opened streamType holds at_ =>
      rcases at_ with begins | cancelling
      · cases begins
      · cases streamType <;> cases cancelling
  | cancelled at_ =>
      rcases at_ with program | program | program | program <;> cases program
  | erased at_ none absent past => exact noCallOf_after one programs none absent past after

/-- The section is a close that meets no opened call, or an opening with no close under way. -/
def opensApart (s : ClientThreads) (label : Nat × Orders) : Bool :=
  match s.programs[label.1]? with
  | some (.cancelAllDataStreams _ :: _) | some (.cancelDataFrameStream _ _ :: _) =>
      s.programs.flatten.all fun i => i.stores.isNone
  | some (.openTrackingDeviceDataStream _ _ :: _) | some (.openDataFrameStream _ _ :: _) =>
      s.programs.flatten.all fun i => i.closing.isNone
  | _ => true

theorem under_of_opensApart (s : ClientThreads) (label : Nat × Orders) (holds : opensApart s label = true) :
    Threads.Under (fun _ pending instr (_ : Orders) => instr.OpensApart pending) s label := by
  intro instr rest current
  have stored : (s.programs.flatten.all fun i => i.stores.isNone) = true →
      ∀ m, ∀ other ∈ s.pending, ∀ slot c, other.stores = some (slot, c) → slot.manager ≠ some m := by
    intro all m other member slot c stores
    have none := List.all_eq_true.mp all other member
    rw [stores] at none
    cases none
  have closed : (s.programs.flatten.all fun i => i.closing.isNone) = true →
      ∀ m, ∀ other ∈ s.pending, other.closing ≠ some m := by
    intro all m other member closing
    have none := List.all_eq_true.mp all other member
    rw [closing] at none
    cases none
  rw [opensApart, current] at holds
  cases instr with
  | cancelAllDataStreams m => exact stored holds m
  | cancelDataFrameStream m reopen =>
      cases reopen
      · exact stored holds m
      · trivial
  | openTrackingDeviceDataStream m device => exact closed holds m
  | openDataFrameStream m devices => exact closed holds m
  | _ => trivial

/-- A client with a request for all devices. -/
def requested : ClientManager :=
  (ClientManager.Operation.requestDeviceData default).apply (.stored _) .init

theorem runs_requested : ClientManager.Runs [.requestDeviceData default] requested :=
  .next .start _ _

/-- A device is plugged in and its stream opened, the request is closed, and the device is plugged in
again. -/
theorem stays_closed_device :
    ∃ s, Reached ClientThreads.step (Threads.Under fun _ pending instr _ => instr.OpensApart pending)
        (closingThreads requested 0 (List.replicate 2 { device := { siuUuid := 1, portId := 2 }, connected := true })) s ∧
      s.programs[0]? = some [] ∧ s.shared.calls.length = 1 ∧
      ∀ slot c, slot.manager = some 0 → ¬ LiveCall s.shared.calls slot c := by
  have executed : (script (guarded opensApart ClientThreads.step)
      ((List.replicate 14 1 ++ List.replicate 6 0 ++ List.replicate 7 1).map fun i => (i, Orders.stored))
      (closingThreads requested 0 (List.replicate 2 { device := { siuUuid := 1, portId := 2 }, connected := true }))).any
      (fun s => (s.programs[0]?).any List.isEmpty && s.shared.calls.length = 1) = true := by decide
  obtain ⟨s, executed, last⟩ := (Option.any_eq_true _ _).mp executed
  rw [Bool.and_eq_true, decide_eq_true_eq] at last
  obtain ⟨program, found, empty⟩ := (Option.any_eq_true _ _).mp last.1
  have returned : s.programs[0]? = some [] := by rw [found, List.isEmpty_iff.mp empty]
  have reached := Reached.of_script opensApart under_of_opensApart _ executed
  exact ⟨s, reached, returned, last.2, stays_closed runs_requested (by decide) reached returned .start⟩

/-- An event has opened the stream of a device, and stores it when the close has gone past. -/
theorem call_outlives_close :
    ¬ ∀ run w, ClientManager.Runs run w → ∀ m < w.dataManagers.length, ∀ events s,
      Reached ClientThreads.step (fun _ _ => True) (closingThreads w m events) s → s.Finished →
        ∀ slot c, slot.manager = some m → ¬ LiveCall s.shared.calls slot c := by
  intro claimed
  have executed : (script ClientThreads.step
      ((List.replicate 12 1 ++ List.replicate 3 0 ++ List.replicate 2 1 ++ List.replicate 3 0).map
        fun i => (i, Orders.stored))
      (closingThreads requested 0 [{ device := { siuUuid := 1, portId := 2 }, connected := true }])).any
      (fun s => s.programs.all (·.isEmpty) && liveCalls s.shared.calls (.device 0 258) = 1) = true := by decide
  obtain ⟨s, executed, last⟩ := (Option.any_eq_true _ _).mp executed
  rw [Bool.and_eq_true, decide_eq_true_eq] at last
  have closed := claimed _ _ runs_requested 0 (by decide) _ s (.of_any _ executed) (finished_of_isEmpty last.1)
    (.device 0 258)
  have none : liveCalls s.shared.calls (.device 0 258) = 0 := by
    refine List.countP_eq_zero.mpr fun call member live => ?_
    obtain ⟨c, inside, found⟩ := List.getElem_of_mem member
    obtain ⟨stream, cancelled, deleted⟩ := call
    simp only [Bool.and_eq_true, Bool.not_eq_true', decide_eq_true_eq] at live
    obtain ⟨⟨here, rfl⟩, rfl⟩ := live
    exact closed c rfl ⟨stream, by rw [List.getElem?_eq_getElem inside, found], here⟩
  rw [last.2] at none
  cases none

end Close

end OmmoSdk.Client
