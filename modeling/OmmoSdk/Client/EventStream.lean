/-
# Client.EventStream — the channel monitor and its event stream

The monitor keeps a plain pointer to the event stream it has opened, and cancels the
call through it when the channel is not ready any more or the monitor is stopped.  The
stream has no association, so nothing clears that pointer when the call fails and the
completion queue thread deletes it.

`EndsCancelled` is the condition under which the monitor does not meet a deleted call:
the event stream ends only after it was cancelled.  `Monitoring` says where the monitor
is, and what the event stream is there.
-/
import OmmoSdk.Client.CallLists

namespace OmmoSdk.Client

open OmmoSdk.Theory
open OmmoSdk.Sdk

set_option autoImplicit false

namespace Instr

/-- **An event stream does not end before the monitor has cancelled it.** -/
def EndsCancelled (w : ClientManager) (instr : Instr) : Prop :=
  match instr with
  | deleteCallData callData =>
      ∀ call, w.calls[callData]? = some call → call.stream = .deviceEvents → call.cancelled = true
  | _ => True

/-- The instructions of the monitor that have to do with its event stream. -/
def monitors : Instr → Bool
  | channelMonitor _ | openTrackingDevicesEventStream => true
  | storeEventStream _ | cancelEventStream _ | clearEventStream => true
  | _ => false

end Instr

/-- Nothing is left to do with the event stream, except to poll the channel further. -/
def Polls : List Instr → Prop
  | [] => True
  | .channelMonitor _ :: rest => rest = []
  | instr :: rest => instr.monitors = false ∧ Polls rest

/-- What the monitor has still to do, and the event stream it does it with. -/
inductive Monitoring (w : ClientManager) : List Instr → Prop
  | polling {program : List Instr} (polls : Polls program)
      (pointer : ∀ c, w.deviceEventStreamPtr = some c → w.handles.Live .deviceEvents c) :
      Monitoring w program
  | opening {program : List Instr} (polls : Polls program) :
      Monitoring w (.openTrackingDevicesEventStream :: program)
  | storing {c : CallId} {program : List Instr} (polls : Polls program)
      (live : w.handles.Live .deviceEvents c) : Monitoring w (.storeEventStream c :: program)
  | stopping {c : CallId} {program : List Instr} (polls : Polls program)
      (live : w.handles.Live .deviceEvents c) :
      Monitoring w (.cancelEventStream c :: .clearEventStream :: program)
  | clearing {program : List Instr} (polls : Polls program) :
      Monitoring w (.clearEventStream :: program)

/-! ## Instructions of the others -/

section Others

variable {orders : Orders} {w w' : ClientManager} {instr : Instr} {program pending : List Instr}
  {c : CallId}

theorem polls_cons (quiet : instr.monitors = false) : Polls (instr :: program) ↔ Polls program := by
  cases instr <;> simp_all [Polls, Instr.monitors]

theorem polls_append {first : List Instr} (quiet : ∀ i ∈ first, i.monitors = false)
    (polls : Polls program) : Polls (first ++ program) := by
  induction first with
  | nil => exact polls
  | cons instr rest ih =>
      obtain ⟨here, later⟩ := List.forall_mem_cons.mp quiet
      exact (polls_cons here).mpr (ih later)

theorem monitors_next (quiet : instr.monitors = false) :
    ∀ i ∈ instr.next orders w, i.monitors = false := by
  intro i member
  cases Instr.follows_of_next member <;> first | rfl | cases quiet

/-- What the others do leaves the monitor where it is. -/
theorem Monitoring.frame (monitoring : Monitoring w program)
    (pointer : w'.deviceEventStreamPtr = w.deviceEventStreamPtr)
    (live : ∀ c, w.handles.Live .deviceEvents c → w'.handles.Live .deviceEvents c) :
    Monitoring w' program := by
  cases monitoring with
  | polling polls holds => exact .polling polls fun c here => live c (holds c (pointer ▸ here))
  | opening polls => exact .opening polls
  | storing polls here => exact .storing polls (live _ here)
  | stopping polls here => exact .stopping polls (live _ here)
  | clearing polls => exact .clearing polls

theorem pointer_deleteCallData (order : IterationOrder CallId) (w : ClientManager) (c : CallId) :
    (ClientManager.deleteCallData order w c).deviceEventStreamPtr = w.deviceEventStreamPtr := by
  unfold ClientManager.deleteCallData
  cases w.calls[c]? with
  | none => rfl
  | some call =>
      simp only
      cases call.stream with
      | deviceData m request | dataFrame m request =>
          simp only [ClientManager.clearAssociation]
          split
          · rfl
          · rename_i manager held
            cases manager.clearAssociation order 1 c <;> rfl
      | _ => rfl

theorem pointer_run (quiet : instr.monitors = false) :
    (instr.run orders w).deviceEventStreamPtr = w.deviceEventStreamPtr := by
  cases instr with
  | deleteCallData c => exact pointer_deleteCallData _ _ _
  | recordDevice device deviceConnected =>
      obtain ⟨connected, recorded⟩ := ClientManager.recordDevice_frame w device deviceConnected
      simp only [Instr.run, recorded]
  | openTrackingDeviceDataStream m device | openDataFrameStream m devices =>
      simp only [Instr.run]
      split <;> rfl
  | cancelAllDataStreams m | cancelDataStream m deviceId | cancelDataFrameStream m reopen =>
      exact congrFun (w.stored_onCalls m _) .deviceEvents
  | channelMonitor _ | openTrackingDevicesEventStream | storeEventStream _ | cancelEventStream _
  | clearEventStream => cases quiet
  | _ => rfl

/-- **The event stream goes on**, whatever the others do, until it is cancelled. -/
theorem eventStream_run (owned : Owned w pending) (quiet : instr.monitors = false)
    (ends : instr.EndsCancelled w) (live : w.handles.Live .deviceEvents c) :
    (instr.run orders w).handles.Live .deviceEvents c := by
  refine live_run owned ?_ ?_ ?_ live
  · rintro d rfl
    cases quiet
  · cases instr <;> simp_all [Instr.mayCancel, Instr.monitors]
  · -- Under the condition it is another call that ends.
    rintro rfl
    obtain ⟨stream, found, slot⟩ := liveCall_iff.mpr live
    have events : stream = .deviceEvents := by
      cases stream <;> cases slot
      rfl
    have cancelled := ends _ found events
    cases cancelled

end Others

/-! ## The monitor -/

section Monitor

variable {orders : Orders} {w : ClientManager} {instr : Instr} {program pending : List Instr}
  {states : List ChannelState} {c : CallId}

theorem monitoring_stopEventStream (polls : Polls program)
    (pointer : ∀ c, w.deviceEventStreamPtr = some c → w.handles.Live .deviceEvents c) :
    Monitoring w (Instr.stopEventStream w ++ program) := by
  unfold Instr.stopEventStream
  cases stored : w.deviceEventStreamPtr with
  | none => exact .polling polls pointer
  | some c => exact .stopping polls (pointer c stored)

/-- One round of the loop over the states of the channel. -/
theorem monitoring_channelMonitor
    (pointer : ∀ c, w.deviceEventStreamPtr = some c → w.handles.Live .deviceEvents c) :
    Monitoring w ((Instr.channelMonitor states).next orders w) := by
  cases states with
  | nil =>
      have stop : Monitoring w (Instr.stopEventStream w ++ []) :=
        monitoring_stopEventStream trivial pointer
      rw [List.append_nil] at stop
      exact stop
  | cons state states =>
      simp only [Instr.next]
      split
      · cases state with
        | ready => exact .opening (by simp [Polls, Instr.monitors])
        | _ =>
            simp only [Instr.onChannelState, List.append_assoc]
            refine monitoring_stopEventStream ?_ pointer
            split <;> simp [Polls, Instr.monitors]
      · exact .polling rfl pointer

/-- **One instruction of the monitor.** -/
theorem monitoring_step (owned : Owned w pending) (ends : instr.EndsCancelled w)
    (monitoring : Monitoring w (instr :: program)) :
    Monitoring (instr.run orders w) (instr.next orders w ++ program) := by
  cases monitoring with
  | polling polls pointer =>
      cases quiet : instr.monitors with
      | false =>
          refine .polling (polls_append (monitors_next quiet) ((polls_cons quiet).mp polls)) ?_
          intro c stored
          rw [pointer_run quiet] at stored
          exact eventStream_run owned quiet ends (pointer c stored)
      | true =>
          cases instr with
          | channelMonitor states =>
              cases polls
              rw [List.append_nil]
              exact monitoring_channelMonitor pointer
          | _ => first | cases quiet; done | cases polls.1
  | opening polls =>
      refine .storing polls ?_
      have opened : w.openTrackingDevicesEventStream.1.handles = w.handles.openFor .deviceEvents :=
        w.handles_openTrackingDevicesEventStream
      rw [Instr.run, opened, Handles.live_openFor, w.handles_resources_length]
      exact .inr ⟨rfl, rfl⟩
  | storing polls live =>
      refine .polling polls ?_
      intro c stored
      cases stored
      exact live
  | stopping polls live => exact .clearing polls
  | clearing polls => exact .polling polls fun c stored => by cases stored

end Monitor

/-! ## Clients -/

section Clients

variable {queue : List Completion} {states : List ChannelState} {users : List (List UserCall)}
  {s s' : ClientThreads}

/-- The monitor is the second thread, and the others leave the event stream alone. -/
structure Monitored (s : ClientThreads) : Prop where
  monitor : ∀ program, s.programs[1]? = some program → Monitoring s.shared program
  others : ∀ i program, i ≠ 1 → s.programs[i]? = some program →
    ∀ instr ∈ program, instr.monitors = false

theorem monitored_start : Monitored (clientThreads queue states users) := by
  constructor
  · intro program current
    cases current
    exact .polling rfl fun c stored => by cases stored
  · intro i program other current instr member
    match i, other, current with
    | 0, _, current =>
        cases current
        obtain ⟨completion, -, rfl⟩ := List.mem_map.mp member
        cases completion <;> rfl
    | i + 2, _, current =>
        obtain ⟨calls, -, rfl⟩ := List.mem_map.mp (List.mem_of_getElem? current)
        obtain ⟨call, -, rfl⟩ := List.mem_map.mp member
        cases call <;> rfl

theorem monitored_step {label : Nat × Orders} (owned : Owned s.shared s.programs.flatten)
    (monitored : Monitored s)
    (under : Threads.Under (fun w _ instr _ => instr.EndsCancelled w) s label)
    (stepped : ClientThreads.step s label = some s') : Monitored s' := by
  obtain ⟨instr, rest, current, -, shared, programs⟩ := Threads.step_cases stepped
  have ends := under instr rest current
  constructor
  · intro program placed
    rw [shared]
    rw [programs, List.getElem?_set] at placed
    split at placed
    · rename_i monitor
      rw [monitor] at current
      split at placed
      · cases placed
        exact monitoring_step owned ends (monitored.monitor _ current)
      · cases placed
    · rename_i other
      have quiet := monitored.others _ _ other current instr List.mem_cons_self
      exact (monitored.monitor program placed).frame (pointer_run quiet)
        fun c live => eventStream_run owned quiet ends live
  · intro i program other placed instr' member
    rw [programs, List.getElem?_set] at placed
    split at placed
    · rename_i here
      rw [here] at current
      split at placed
      · cases placed
        have quiet := monitored.others i _ other current
        rcases List.mem_append.mp member with new | old
        · exact monitors_next (quiet instr List.mem_cons_self) instr' new
        · exact quiet instr' (List.mem_cons_of_mem _ old)
      · cases placed
    · exact monitored.others i program other placed instr' member

theorem monitored_of_reached
    (reached : Reached ClientThreads.step
      (Threads.Under fun w _ instr _ => instr.EndsCancelled w) (clientThreads queue states users) s) :
    Monitored s := by
  induction reached with
  | start => exact monitored_start
  | next before under stepped ih => exact monitored_step (owned_of_reached before) ih under stepped

/-- **The monitor cancels no deleted event stream**: in every run of a client with any states
of the channel, any completions and any users, if the event stream ends only after the
monitor has cancelled it, then the call that the monitor is about to cancel is there. -/
theorem cancelled_undeleted
    (reached : Reached ClientThreads.step
      (Threads.Under fun w _ instr _ => instr.EndsCancelled w) (clientThreads queue states users) s)
    (i : Nat) (c : CallId) (rest : List Instr)
    (cancels : s.programs[i]? = some (.cancelEventStream c :: rest)) :
    ∃ call, s.shared.calls[c]? = some call ∧ call.deleted = false := by
  have monitored := monitored_of_reached reached
  by_cases monitor : i = 1
  · subst monitor
    cases monitored.monitor _ cancels with
    | polling polls pointer => cases polls.1
    | stopping polls live =>
        obtain ⟨stream, found, -⟩ := liveCall_iff.mpr live
        exact ⟨_, found, rfl⟩
  · have quiet := monitored.others i _ monitor cancels _ List.mem_cons_self
    cases quiet

/-- Thread `i` is about to cancel the event stream `c`. -/
def cancels (s : ClientThreads) (i : Nat) (c : CallId) : Bool :=
  match s.programs[i]? with
  | some (.cancelEventStream c' :: _) => c' = c
  | _ => false

theorem cancels_iff {i : Nat} {c : CallId} :
    cancels s i c = true ↔ ∃ rest, s.programs[i]? = some (.cancelEventStream c :: rest) := by
  unfold cancels
  split
  · rename_i c' rest current
    simp [current]
  · rename_i other
    simp only [Bool.false_eq_true, false_iff, not_exists]
    exact fun rest current => other c rest current

/-- The next instruction deletes no event stream, or one that is cancelled. -/
def endsCancelled (s : ClientThreads) (label : Nat × Orders) : Bool :=
  match s.programs[label.1]? with
  | some (.deleteCallData c :: _) =>
      (s.shared.calls[c]?).all fun call => call.stream ≠ .deviceEvents || call.cancelled
  | _ => true

theorem under_of_endsCancelled (s : ClientThreads) (label : Nat × Orders)
    (holds : endsCancelled s label = true) :
    Threads.Under (fun w _ instr (_ : Orders) => instr.EndsCancelled w) s label := by
  intro instr rest current
  rw [endsCancelled, current] at holds
  cases instr with
  | deleteCallData c =>
      intro call found events
      simpa [found, events] using holds
  | _ => trivial

/-- The channel is lost and comes back, the first event stream ends, and the monitor is
stopped. -/
theorem cancelled_undeleted_second :
    ∃ s rest, Reached ClientThreads.step
        (Threads.Under fun w _ instr _ => instr.EndsCancelled w)
        (clientThreads [.failed 0] [.ready, .transientFailure, .ready] []) s ∧
      (s.shared.calls[0]?.any fun call => call.deleted) = true ∧
      s.programs[1]? = some (.cancelEventStream 1 :: rest) ∧
        ∃ call, s.shared.calls[1]? = some call ∧ call.deleted = false := by
  have executed : (script (guarded endsCancelled ClientThreads.step)
      ((List.replicate 17 1 ++ 0 :: List.replicate 11 1).map fun i => (i, Orders.stored))
      (clientThreads [.failed 0] [.ready, .transientFailure, .ready] [])).any (fun s =>
        (s.shared.calls[0]?.any fun call => call.deleted) && cancels s 1 1) = true := by decide
  obtain ⟨s, executed, last⟩ := (Option.any_eq_true _ _).mp executed
  obtain ⟨deleted, last⟩ := Bool.and_eq_true_iff.mp last
  obtain ⟨rest, current⟩ := cancels_iff.mp last
  have reached := Reached.of_script endsCancelled under_of_endsCancelled _ executed
  exact ⟨s, rest, reached, deleted, current, cancelled_undeleted reached 1 1 rest current⟩

/-- The event stream fails while the channel is ready, and the monitor is stopped. -/
theorem cancelled_after_deletion :
    ¬ ∀ queue states users s,
      Reached ClientThreads.step (fun _ _ => True) (clientThreads queue states users) s →
      ∀ (i : Nat) (c : CallId) (rest : List Instr),
        s.programs[i]? = some (.cancelEventStream c :: rest) →
        ∃ call, s.shared.calls[c]? = some call ∧ call.deleted = false := by
  intro claimed
  have executed : (script ClientThreads.step
      ((List.replicate 3 1 ++ 0 :: List.replicate 8 1).map fun i => (i, Orders.stored))
      (clientThreads [.failed 0] [.ready] [])).any (fun s =>
        (s.shared.calls[0]?.all fun call => call.deleted) && cancels s 1 0) = true := by decide
  obtain ⟨s, executed, last⟩ := (Option.any_eq_true _ _).mp executed
  obtain ⟨deleted, last⟩ := Bool.and_eq_true_iff.mp last
  obtain ⟨rest, current⟩ := cancels_iff.mp last
  obtain ⟨call, found, kept⟩ := claimed _ _ _ s (.of_any _ executed) 1 0 rest current
  rw [found, Option.all_some, kept] at deleted
  cases deleted

end Clients

end OmmoSdk.Client
