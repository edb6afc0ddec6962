/-
# Client.CallEnds — the calls at the return of Shutdown

Every call has a token.  It is the operation under way that is no write, then for a while in
the hands of the queue thread, and at last it is the deletion of the call.  No step loses or
doubles it (`Accounted`), so when the queue returns nothing any more and the queue thread is
at its end, all calls are deleted, each once.

Two branches of the code break this.  The queue thread leaves its loop when it finds
`stop_handling_cq_`, whatever is under way, and a call whose operation fails is stopped and
deleted even if another of its operations is under way.  `calls_end` is about the runs that
take neither.
-/
import OmmoSdk.Client.CallLists
import OmmoSdk.Client.Shutdown

namespace OmmoSdk.Client

open OmmoSdk.Theory
open OmmoSdk.Sdk

set_option autoImplicit false

theorem callsGrow_closeBaseStationDataRequest {opened : Option Slot} {w w' : ClientManager} {s : StorageId}
    (closed : w.closeBaseStationDataRequest 1 (some s) = some w') : CallsGrow opened w.calls w'.calls := by
  obtain ⟨list, rfl | ⟨callData, rfl⟩⟩ := ClientManager.closed_cases closed
  · exact .refl _ _
  · exact callsGrow_cancel _

/-! ## The token of a call -/

/-- The token that comes into the hands of the queue thread with what is returned. -/
def Returned.token (r : Returned) : List CallId := if r.op = .write then [] else [r.callData]

namespace RunningClient

/-- The operations of the call under way that are no writes. -/
def reading (x : RunningClient) (c : CallId) : Nat :=
  x.outstanding.countP fun o => o.1 = c && o.2 ≠ .write

/-- The call was cancelled, or the server has ended it. -/
def Ended (x : RunningClient) (c : CallId) : Prop := x.isCancelled c = true ∨ c ∈ x.endedByServer

/-- Each call has one token; a call that is stopped has nothing under way and was ended. -/
structure Accounted (x : RunningClient) (hands : List CallId) : Prop where
  tokens : ∀ c < x.client.calls.length, x.reading c + hands.count c + x.deletions.count c = 1
  known : ∀ o ∈ x.outstanding, o.1 < x.client.calls.length
  held : ∀ c ∈ hands, c < x.client.calls.length
  deleted : ∀ c ∈ x.deletions, c ∈ x.stopped
  stopped : ∀ c ∈ x.stopped, c < x.client.calls.length ∧ (∀ op, (c, op) ∉ x.outstanding) ∧ x.Ended c

section Accounted

variable {x : RunningClient} {hands : List CallId} {w : ClientManager} {c : CallId}
  {op : StreamOperation} {opened : Option Slot}

theorem mem_range_calls (before after c : Nat) :
    c ∈ List.range' before (after - before) ↔ before ≤ c ∧ c < after := by
  rw [List.mem_range'_1]
  omega

theorem mem_started {before after : List CallData} {o : CallId × StreamOperation} :
    o ∈ started before after ↔ o.2 = .startCall ∧ before.length ≤ o.1 ∧ o.1 < after.length := by
  simp only [started, List.mem_map, mem_range_calls]
  constructor
  · rintro ⟨c, inside, rfl⟩
    exact ⟨rfl, inside⟩
  · rintro ⟨first, inside⟩
    exact ⟨o.1, inside, by rw [← first]⟩

/-- A new call has its first operation under way. -/
theorem reading_started (before after : List CallData) (c : CallId) :
    (started before after).countP (fun o => o.1 = c && o.2 ≠ .write) =
      if before.length ≤ c ∧ c < after.length then 1 else 0 := by
  rw [started, List.countP_map]
  have same : ((fun o : CallId × StreamOperation => decide (o.1 = c) && decide (o.2 ≠ .write)) ∘
      fun callData => (callData, StreamOperation.startCall)) = fun callData => callData == c := by
    funext d
    simp [BEq.beq]
  rw [same]
  change List.count c _ = _
  rw [List.Nodup.count List.nodup_range']
  exact if_congr (mem_range_calls _ _ _) rfl rfl

theorem isCancelled_grow (grow : CallsGrow opened x.client.calls w.calls) (cancelled : x.isCancelled c = true) :
    (x.onClient w).isCancelled c = true := by
  obtain ⟨call, found, was⟩ := (Option.any_eq_true _ _).mp cancelled
  obtain ⟨call', found', kept⟩ := grow.kept c call found
  exact (Option.any_eq_true _ _).mpr ⟨call', found', kept was⟩

theorem reading_of_fresh (accounted : x.Accounted hands) (fresh : x.client.calls.length ≤ c) :
    x.reading c = 0 ∧ hands.count c = 0 ∧ x.deletions.count c = 0 := by
  refine ⟨?_, List.count_eq_zero.mpr fun member => ?_, List.count_eq_zero.mpr fun member => ?_⟩
  · refine List.countP_eq_zero.mpr fun o member counted => ?_
    have known := accounted.known o member
    simp only [Bool.and_eq_true, decide_eq_true_eq] at counted
    exact absurd (counted.1 ▸ known) (Nat.not_lt_of_le fresh)
  · exact absurd (accounted.held c member) (Nat.not_lt_of_le fresh)
  · exact absurd (accounted.stopped c (accounted.deleted c member)).1 (Nat.not_lt_of_le fresh)

/-- **What a section does**: the calls it opens get a token each. -/
theorem Accounted.onClient (accounted : x.Accounted hands) (grow : CallsGrow opened x.client.calls w.calls) :
    (x.onClient w).Accounted hands where
  tokens c inside := by
    have new : c < w.calls.length := inside
    have total : (x.onClient w).reading c = x.reading c +
        if x.client.calls.length ≤ c ∧ c < w.calls.length then 1 else 0 := by
      rw [← reading_started]
      exact List.countP_append
    rw [total]
    by_cases old : c < x.client.calls.length
    · rw [if_neg fun fresh => absurd old (Nat.not_lt_of_le fresh.1), Nat.add_zero]
      exact accounted.tokens c old
    · obtain ⟨reading, held, deleted⟩ := reading_of_fresh accounted (Nat.le_of_not_lt old)
      rw [if_pos ⟨Nat.le_of_not_lt old, new⟩, reading, held]
      exact congrArg (1 + ·) deleted
  known o member := by
    rcases List.mem_append.mp member with old | new
    · exact Nat.lt_of_lt_of_le (accounted.known o old) grow.length_le
    · exact (mem_started.mp new).2.2
  held c member := Nat.lt_of_lt_of_le (accounted.held c member) grow.length_le
  deleted := accounted.deleted
  stopped c member := by
    obtain ⟨inside, quiet, ended⟩ := accounted.stopped c member
    refine ⟨Nat.lt_of_lt_of_le inside grow.length_le, fun op under => ?_, ?_⟩
    · rcases List.mem_append.mp under with old | new
      · exact quiet op old
      · exact absurd (mem_started.mp new).2.1 (by simpa using inside)
    · exact ended.imp_left (isCancelled_grow grow)

/-- A write is started on a call that is not stopped. -/
theorem Accounted.write (accounted : x.Accounted hands) (takes : x.takesWrite c = true) :
    (x.write c).Accounted hands := by
  simp only [takesWrite, Bool.and_eq_true, decide_eq_true_eq] at takes
  obtain ⟨⟨inside, running⟩, -⟩ := takes
  refine ⟨fun d lt => ?_, fun o member => ?_, accounted.held, accounted.deleted, fun d member => ?_⟩
  · rw [← accounted.tokens d lt]
    simp [reading, RunningClient.write, List.countP_append]
  · rcases List.mem_append.mp member with old | new
    · exact accounted.known o old
    · rw [List.mem_singleton.mp new]
      exact inside
  · obtain ⟨lt, quiet, ended⟩ := accounted.stopped d member
    refine ⟨lt, fun op under => ?_, ended⟩
    rcases List.mem_append.mp under with old | new
    · exact quiet op old
    · cases List.mem_singleton.mp new
      exact running member

/-- The queue returns an operation. -/
theorem reading_erase (under : (c, op) ∈ x.outstanding) (d : CallId) :
    (x.outstanding.erase (c, op)).countP (fun o => o.1 = d && o.2 ≠ .write) +
      (if c = d ∧ op ≠ .write then 1 else 0) = x.reading d := by
  have perm := (List.perm_cons_erase under).countP_eq fun o => o.1 = d && o.2 ≠ .write
  rw [reading, perm, List.countP_cons]
  simp

theorem inside_of_under (accounted : x.Accounted hands) (under : (c, op) ∈ x.outstanding) :
    c < x.client.calls.length ∧ c ∉ x.stopped :=
  ⟨accounted.known _ under, fun member => (accounted.stopped c member).2.1 op under⟩

/-- The token of the call goes into the hands of the queue thread, if it is no write. -/
theorem Accounted.next {r : Returned} (accounted : x.Accounted [])
    (under : (r.callData, r.op) ∈ x.outstanding) : (x.without r.callData r.op).Accounted r.token := by
  have fewer : ∀ o ∈ (x.without r.callData r.op).outstanding, o ∈ x.outstanding :=
    fun o => List.mem_of_mem_erase
  refine ⟨fun d lt => ?_, fun o member => accounted.known o (fewer o member), fun d member => ?_,
    accounted.deleted, fun d member => ?_⟩
  · rw [← accounted.tokens d lt, ← reading_erase under d]
    by_cases write : r.op = .write
    · simp [reading, without, Returned.token, write]
    · by_cases same : r.callData = d <;> simp [reading, without, Returned.token, write, same]
  · unfold Returned.token at member
    split at member
    · cases member
    · rw [List.mem_singleton.mp member]
      exact (inside_of_under accounted under).1
  · obtain ⟨lt, quiet, ended⟩ := accounted.stopped d member
    exact ⟨lt, fun op under => quiet op (fewer _ under), ended⟩

/-- **A call is stopped with nothing under way**: its token is in the hands of the queue thread,
and the operation that failed is no write. -/
theorem held_of_quiet (accounted : x.Accounted hands) (inside : c < x.client.calls.length)
    (running : c ∉ x.stopped) (quiet : ∀ op, (c, op) ∉ x.outstanding) : c ∈ hands := by
  have token := accounted.tokens c inside
  have reading : x.reading c = 0 := by
    refine List.countP_eq_zero.mpr fun o member counted => ?_
    obtain ⟨d, op⟩ := o
    simp only [Bool.and_eq_true, decide_eq_true_eq] at counted
    obtain ⟨rfl, -⟩ := counted
    exact quiet op member
  have deletions : x.deletions.count c = 0 :=
    List.count_eq_zero.mpr fun member => running (accounted.deleted c member)
  rw [reading, deletions] at token
  exact List.count_pos_iff.mp (by omega)

theorem Accounted.stop (accounted : x.Accounted hands) (inside : c < x.client.calls.length)
    (quiet : ∀ op, (c, op) ∉ x.outstanding) :
    Accounted { x with
      stopped := c :: x.stopped
      endedByServer := if x.isCancelled c then x.endedByServer else c :: x.endedByServer } hands := by
  refine ⟨accounted.tokens, accounted.known, accounted.held, fun d member => ?_, fun d member => ?_⟩
  · exact List.mem_cons_of_mem _ (accounted.deleted d member)
  · rcases List.mem_cons.mp member with rfl | old
    · refine ⟨inside, quiet, ?_⟩
      by_cases cancelled : x.isCancelled d = true
      · exact .inl cancelled
      · refine .inr ?_
        rw [if_neg cancelled]
        exact List.mem_cons_self
    · obtain ⟨lt, none, ended⟩ := accounted.stopped d old
      refine ⟨lt, none, ended.imp_right fun server => ?_⟩
      split
      · exact server
      · exact List.mem_cons_of_mem _ server

theorem Accounted.startRead (accounted : x.Accounted [c]) (running : c ∉ x.stopped) :
    Accounted { x with outstanding := x.outstanding ++ [(c, .read)] } [] := by
  refine ⟨fun d lt => ?_, fun o member => ?_, by simp, accounted.deleted, fun d member => ?_⟩
  · rw [← accounted.tokens d lt]
    by_cases same : c = d <;> simp [reading, List.countP_append, same]
  · rcases List.mem_append.mp member with old | new
    · exact accounted.known o old
    · rw [List.mem_singleton.mp new]
      exact accounted.held c List.mem_cons_self
  · obtain ⟨lt, quiet, ended⟩ := accounted.stopped d member
    refine ⟨lt, fun op under => ?_, ended⟩
    rcases List.mem_append.mp under with old | new
    · exact quiet op old
    · cases List.mem_singleton.mp new
      exact running member

theorem length_deleteCallData (order : IterationOrder CallId) (w : ClientManager) (c : CallId) :
    (ClientManager.deleteCallData order w c).calls.length = w.calls.length := by
  rw [calls_deleteCallData, deleteCall, List.length_modify]

/-- The token becomes the deletion. -/
theorem Accounted.delete (accounted : x.Accounted [c]) (ended : c ∈ x.stopped)
    (order : IterationOrder CallId) :
    Accounted { x with
      client := ClientManager.deleteCallData order x.client c
      deletions := c :: x.deletions } [] := by
  have same := length_deleteCallData order x.client c
  refine ⟨fun d lt => ?_, fun o member => ?_, by simp, fun d member => ?_, fun d member => ?_⟩
  · rw [same] at lt
    rw [← accounted.tokens d lt]
    by_cases own : c = d
    · subst own
      simp only [reading, List.count_cons_self, List.count_nil]
      omega
    · simp [reading, own]
  · rw [same]
    exact accounted.known o member
  · rcases List.mem_cons.mp member with rfl | old
    · exact ended
    · exact accounted.deleted d old
  · obtain ⟨lt, quiet, cause⟩ := accounted.stopped d member
    refine ⟨by rw [same]; exact lt, quiet, cause.imp_left fun cancelled => ?_⟩
    have grow : CallsGrow none x.client.calls _ := callsGrow_deleteCallData order c
    exact isCancelled_grow grow cancelled

end Accounted

end RunningClient

/-! ## The queue thread -/

/-- Where the queue thread is, and the call it has in its hands. -/
inductive ProcessorAt (x : RunningClient) : List Task → List CallId → Prop
  | checking (returns : List Returned) : ProcessorAt x [.completionQueueProcessor returns] []
  | waiting (returns : List Returned) : ProcessorAt x [.next returns] []
  | succeeded (r : Returned) (returns : List Returned) (running : r.callData ∉ x.stopped) :
      ProcessorAt x [.proceed r, .completionQueueProcessor returns] r.token
  | failed (r : Returned) (returns : List Returned) (inside : r.callData < x.client.calls.length)
      (running : r.callData ∉ x.stopped) :
      ProcessorAt x [.stop r.callData, .proceed r, .completionQueueProcessor returns] r.token
  | stopped (r : Returned) (returns : List Returned) (ended : r.callData ∈ x.stopped) :
      ProcessorAt x [.proceed r, .completionQueueProcessor returns] [r.callData]
  | serving (round : List Instr) (c : CallId) (returns : List Returned) (running : c ∉ x.stopped) :
      ProcessorAt x (round.map .client ++ [.startRead c, .completionQueueProcessor returns]) [c]
  | deleting (c : CallId) (returns : List Returned) (ended : c ∈ x.stopped) :
      ProcessorAt x [.deleteCallData c, .completionQueueProcessor returns] [c]
  | hanging (returns : List Returned) :
      ProcessorAt x [.client .hang, .completionQueueProcessor returns] []
  | ending : ProcessorAt x [.endProcessor] []
  | ended : ProcessorAt x [] []

/-- Users do nothing any more when `Shutdown` has begun. -/
def UsersBefore (s : RunningThreads) (label : Nat × Orders) : Prop :=
  3 ≤ label.1 → s.programs[2]? = some [.shutdown]

/-- **The queue is drained**: the queue thread does not find its flag set while an operation is
under way, and no call is stopped while another operation of it is. -/
structure Drains (s : RunningThreads) (label : Nat × Orders) : Prop where
  checked : ∀ returns rest, s.programs[label.1]? = some (.completionQueueProcessor returns :: rest) →
    s.shared.stopHandlingCq = true → s.shared.outstanding = []
  alone : ∀ c rest, s.programs[label.1]? = some (.stop c :: rest) →
    ∀ op, (c, op) ∉ s.shared.outstanding

/-- What every run keeps whose steps drain the queue. -/
structure Accounting (s : RunningThreads) : Prop where
  shaped : ∀ t program, s.programs[t]? = some program → Shaped t program
  processor : ∃ program hands, s.programs[0]? = some program ∧ ProcessorAt s.shared program hands ∧
    s.shared.Accounted hands
  begun : s.shared.stopChannelMonitor = true → s.programs[2]? ≠ some [.shutdown]
  stopping : ∀ program, s.programs[1]? = some program → .endMonitor ∈ program →
    s.shared.stopChannelMonitor = true
  monitored : s.shared.monitorEnded = true →
    s.programs[1]? = some [] ∧ s.shared.stopChannelMonitor = true
  passed : ∀ program, s.programs[2]? = some program → Closing program → .joinChannelMonitor ∉ program →
    s.shared.monitorEnded = true
  joined : s.shared.stopHandlingCq = true ∨ s.shared.queueShutdown = true → s.shared.monitorEnded = true
  leaving : ∀ program, s.programs[0]? = some program → .endProcessor ∈ program →
    s.shared.outstanding = [] ∧ s.shared.monitorEnded = true
  drained : s.shared.processorEnded = true →
    s.programs[0]? = some [] ∧ s.shared.outstanding = [] ∧ s.shared.monitorEnded = true
  awaited : ∀ program, s.programs[2]? = some program → Closing program → .joinProcessor ∉ program →
    s.shared.processorEnded = true

namespace Task

/-- The tasks of the queue thread. -/
def queues : Task → Bool
  | next _ | stop _ | proceed _ | startRead _ | deleteCallData _ => true
  | _ => false

/-- The calls and what is known of them are the same. -/
structure Alike (x y : RunningClient) : Prop where
  client : y.client = x.client
  outstanding : y.outstanding = x.outstanding
  stopped : y.stopped = x.stopped
  server : y.endedByServer = x.endedByServer
  deletions : y.deletions = x.deletions

section Run

variable {orders : Orders} {x y : RunningClient} {task : Task} {hands : List CallId}

theorem Alike.accounted (alike : Alike x y) (accounted : x.Accounted hands) : y.Accounted hands := by
  obtain ⟨client, outstanding, stopped, server, deletions⟩ := alike
  refine ⟨?_, ?_, ?_, ?_, ?_⟩
  · simpa only [RunningClient.reading, client, outstanding, deletions] using accounted.tokens
  · simpa only [client, outstanding] using accounted.known
  · simpa only [client] using accounted.held
  · simpa only [stopped, deletions] using accounted.deleted
  · simpa only [RunningClient.Ended, RunningClient.isCancelled, client, outstanding, stopped, server]
      using accounted.stopped

/-- **What the other threads do**: a section of the client, a write, or a flag. -/
theorem run_cases (orders : Orders) (x : RunningClient) (others : task.queues = false) :
    (∃ opened w, CallsGrow opened x.client.calls w.calls ∧ task.run orders x = x.onClient w) ∨
      (∃ c, x.takesWrite c = true ∧ task.run orders x = x.write c) ∨ Alike x (task.run orders x) := by
  have same : Alike x x := ⟨rfl, rfl, rfl, rfl, rfl⟩
  cases task with
  | client instr => exact .inl ⟨instr.opened, _, callsGrow_run orders instr, rfl⟩
  | closeBaseStationDataRequest s =>
      refine .inl ⟨none, _, ?_, rfl⟩
      cases closed : x.client.closeBaseStationDataRequest 1 (some s) with
      | none => exact .refl _ _
      | some w => exact callsGrow_closeBaseStationDataRequest closed
  | cancelStream i =>
      refine .inl ⟨none, _, ?_, rfl⟩
      unfold ClientManager.cancelStream
      split
      · exact callsGrow_cancel _
      · exact .refl _ _
  | sendWirelessManagementRequest i =>
      refine .inr ?_
      simp only [Task.run]
      split
      · exact .inr same
      · split
        · rename_i takes
          exact .inl ⟨_, takes, rfl⟩
        · exact .inr same
  | cancelDataFrameStream m => exact .inl ⟨none, _, callsGrow_cancelFrame m, rfl⟩
  | removeDataFrameStream m =>
      exact .inl ⟨none, x.client.removeDataFrameStream m, .refl _ _, rfl⟩
  | cancelDataStream s =>
      refine .inl ⟨none, _, ?_, rfl⟩
      unfold ClientManager.cancelBaseStationStream
      split
      · exact callsGrow_cancel _
      · exact .refl _ _
  | removeDataStream s =>
      refine .inl ⟨none, { x.client with baseStationStorages := _ }, ?_, rfl⟩
      exact .refl _ _
  | clearDataManagerList =>
      exact .inl ⟨none, { x.client with dataManagerList := [] }, .refl _ _, rfl⟩
  | next _ | stop _ | proceed _ | startRead _ | deleteCallData _ => cases others
  | endMonitor | endProcessor | stopChannelMonitor | shutdownQueue | stopHandlingCq =>
      exact .inr (.inr ⟨rfl, rfl, rfl, rfl, rfl⟩)
  | _ => exact .inr (.inr same)

/-- What they keep. -/
theorem accounted_run (others : task.queues = false) (accounted : x.Accounted hands) :
    (task.run orders x).Accounted hands := by
  rcases run_cases orders x others with ⟨opened, w, grow, run⟩ | ⟨c, takes, run⟩ | alike
  · exact run ▸ accounted.onClient grow
  · exact run ▸ accounted.write takes
  · exact alike.accounted accounted

theorem stopped_run (others : task.queues = false) : (task.run orders x).stopped = x.stopped := by
  rcases run_cases orders x others with ⟨opened, w, -, run⟩ | ⟨c, -, run⟩ | alike
  · rw [run]
    rfl
  · rw [run]
    rfl
  · exact alike.stopped

theorem calls_run (others : task.queues = false) :
    x.client.calls.length ≤ (task.run orders x).client.calls.length := by
  rcases run_cases orders x others with ⟨opened, w, grow, run⟩ | ⟨c, -, run⟩ | alike
  · rw [run]
    exact grow.length_le
  · rw [run]
    exact le_refl _
  · rw [alike.client]

/-- What sets the flags. -/
theorem flags_run (orders : Orders) (x : RunningClient) (task : Task) :
    ((task.run orders x).stopChannelMonitor = true ↔
        x.stopChannelMonitor = true ∨ task = .stopChannelMonitor) ∧
      ((task.run orders x).stopHandlingCq = true ↔ x.stopHandlingCq = true ∨ task = .stopHandlingCq) ∧
      ((task.run orders x).queueShutdown = true ↔ x.queueShutdown = true ∨ task = .shutdownQueue) ∧
      ((task.run orders x).monitorEnded = true ↔ x.monitorEnded = true ∨ task = .endMonitor) ∧
      ((task.run orders x).processorEnded = true ↔ x.processorEnded = true ∨ task = .endProcessor) := by
  cases task with
  | sendWirelessManagementRequest i =>
      simp only [Task.run]
      split
      · simp
      · split <;> simp [RunningClient.write]
  | next returns => cases returns <;> simp [Task.run, RunningClient.without]
  | proceed r =>
      simp only [Task.run]
      split <;> simp
  | _ => simp [Task.run, RunningClient.onClient]

theorem outstanding_onClient {w : ClientManager} (same : w.calls.length = x.client.calls.length) :
    (x.onClient w).outstanding = x.outstanding := by
  simp [RunningClient.onClient, RunningClient.started, same]

theorem length_onCalls {w : ClientManager} {m : ManagerId} {f : DataManager → List CallData → List CallData}
    (same : ∀ manager calls, (f manager calls).length = calls.length) :
    (w.onCalls m f).calls.length = w.calls.length := by
  unfold ClientManager.onCalls
  split
  · exact same _ _
  · rfl

theorem length_cancelAll (manager : DataManager) (calls : List CallData) :
    (manager.cancelAllDataStreams calls).length = calls.length := by
  unfold DataManager.cancelAllDataStreams
  induction manager.deviceDataStreams.entries generalizing calls with
  | nil => rfl
  | cons entry rest ih => exact (ih _).trans (List.length_modify ..)

/-- `Shutdown` cancels calls and opens none. -/
theorem outstanding_closing {rest : List Task} (orders : Orders) (x : RunningClient)
    (closing : Closing (task :: rest)) :
    (task.run orders x).outstanding = x.outstanding ∧ task.queues = false := by
  rcases closing_section closing with ⟨closes, -⟩ | suffix
  · cases task with
    | client instr =>
        cases instr with
        | cancelAllDataStreams m => exact ⟨outstanding_onClient (length_onCalls length_cancelAll), rfl⟩
        | clearDataStreams m => exact ⟨outstanding_onClient rfl, rfl⟩
        | _ => cases closes
    | cancelDataFrameStream m =>
        refine ⟨outstanding_onClient (length_onCalls fun manager calls => ?_), rfl⟩
        unfold DataManager.cancelDataFrameStream
        split
        · exact List.length_modify ..
        · rfl
    | cancelDataStream s =>
        refine ⟨outstanding_onClient ?_, rfl⟩
        unfold ClientManager.cancelBaseStationStream
        split
        · exact List.length_modify ..
        · rfl
    | removeDataFrameStream m | removeDataStream s => exact ⟨outstanding_onClient rfl, rfl⟩
    | stopManager m => exact ⟨rfl, rfl⟩
    | _ => cases closes
  · have section_ : task ∈ shutdownSections := suffix.subset List.mem_cons_self
    simp only [shutdownSections, List.mem_cons, List.not_mem_nil, or_false] at section_
    rcases section_ with rfl | rfl | rfl | rfl | rfl | rfl | rfl | rfl | rfl | rfl | rfl | rfl
    all_goals exact ⟨by first | rfl | exact outstanding_onClient rfl, rfl⟩

end Run

end Task

/-! ## One step -/

section Step

variable {s s' : RunningThreads} {label : Nat × Orders} {task : Task} {rest : List Task}

theorem ProcessorAt.frame {x x' : RunningClient} {program : List Task} {hands : List CallId}
    (at_ : ProcessorAt x program hands) (stopped : x'.stopped = x.stopped)
    (grow : x.client.calls.length ≤ x'.client.calls.length) : ProcessorAt x' program hands := by
  cases at_ with
  | checking returns => exact .checking returns
  | waiting returns => exact .waiting returns
  | succeeded r returns running => exact .succeeded r returns (stopped ▸ running)
  | failed r returns inside running =>
      exact .failed r returns (Nat.lt_of_lt_of_le inside grow) (stopped ▸ running)
  | stopped r returns ended => exact .stopped r returns (stopped ▸ ended)
  | serving round c returns running => exact .serving round c returns (stopped ▸ running)
  | deleting c returns ended => exact .deleting c returns (stopped ▸ ended)
  | hanging returns => exact .hanging returns
  | ending => exact .ending
  | ended => exact .ended

theorem closing_ne {program : List Task} (closing : Closing program) : program ≠ [.shutdown] := by
  rintro rfl
  rcases closing_section closing with ⟨closes, -⟩ | suffix
  · cases closes
  · simp [Task.shutdownSections, List.suffix_cons_iff] at suffix

/-- Another thread than that of the queue leaves the tokens where they are. -/
theorem processor_other (accounting : Accounting s) (stepped : RunningThreads.step s label = some s')
    (other : label.1 ≠ 0) (current : s.programs[label.1]? = some (task :: rest))
    (others : task.queues = false) : ∃ program hands, s'.programs[0]? = some program ∧
      ProcessorAt s'.shared program hands ∧ s'.shared.Accounted hands := by
  obtain ⟨program, hands, found, at_, accounted⟩ := accounting.processor
  obtain ⟨task', rest', current', -, shared, -⟩ := Threads.step_cases stepped
  rw [current] at current'
  cases current'
  refine ⟨program, hands, (Threads.step_other stepped other.symm).trans found, ?_, ?_⟩
  · rw [shared]
    exact at_.frame (Task.stopped_run others) (Task.calls_run others)
  · rw [shared]
    exact Task.accounted_run others accounted

/-- Where the monitor is. -/
theorem monitor_task (at_ : MonitorAt (task :: rest)) :
    task.monitors = true ∨ task = lockStorages ∨ (∃ states, task = .channelMonitor states ∧ rest = []) ∨
      (∃ state states, task = .getState state states ∧ rest = []) ∨ task = .endMonitor ∧ rest = [] := by
  obtain ⟨round, tail, program, inside, ends⟩ := at_
  cases round with
  | cons first round =>
      rw [List.cons_append, List.cons.injEq] at program
      obtain ⟨rfl, -⟩ := program
      exact (inside task List.mem_cons_self).imp_right .inl
  | nil =>
      rw [List.nil_append] at program
      subst program
      unfold Task.monitorTail at ends
      split at ends
      · rename_i states same
        cases same
        exact .inr (.inr (.inl ⟨states, rfl, rfl⟩))
      · rename_i state states same
        cases same
        exact .inr (.inr (.inr (.inl ⟨state, states, rfl, rfl⟩)))
      · rename_i same
        cases same
        exact .inr (.inr (.inr (.inr ⟨rfl, rfl⟩)))
      · rename_i same
        cases same
      · cases ends

/-- The monitor sets no flag but its own, and comes to its end when it is stopped. -/
theorem monitor_flags {x : RunningClient} (orders : Orders) (at_ : MonitorAt (task :: rest))
    (enabled : task.enabled x = true) :
    task.queues = false ∧ task ≠ .stopChannelMonitor ∧ task ≠ .stopHandlingCq ∧ task ≠ .shutdownQueue ∧
      task ≠ .endProcessor ∧ (task = .endMonitor → rest = []) ∧
      (.endMonitor ∈ task.following orders x → x.stopChannelMonitor = true) := by
  rcases monitor_task at_ with
    monitors | rfl | ⟨states, rfl, rfl⟩ | ⟨state, states, rfl, rfl⟩ | ⟨rfl, rfl⟩
  · have following : .endMonitor ∉ task.following orders x := fun member => by
      cases Task.monitors_following monitors _ member
    cases task with
    | client instr => exact ⟨rfl, by simp, by simp, by simp, by simp, by simp, fun member => absurd member following⟩
    | _ => cases monitors
  · exact ⟨rfl, by simp [lockStorages], by simp [lockStorages], by simp [lockStorages], by simp [lockStorages],
      by simp [lockStorages], fun member => by cases member⟩
  · refine ⟨rfl, by simp, by simp, by simp, by simp, by simp, fun member => ?_⟩
    cases states with
    | nil => exact enabled
    | cons state states =>
        by_contra running
        rw [Bool.not_eq_true] at running
        simp only [Task.following, running, Bool.false_eq_true, if_false] at member
        cases List.mem_singleton.mp member
  · refine ⟨rfl, by simp, by simp, by simp, by simp, by simp, fun member => ?_⟩
    simp only [Task.following] at member
    split at member
    · rcases List.mem_append.mp member with round | last
      · obtain ⟨instr, -, other⟩ := List.mem_map.mp round
        cases other
      · cases List.mem_singleton.mp last
    · cases List.mem_singleton.mp member
  · exact ⟨rfl, by simp, by simp, by simp, by simp, fun _ => rfl, fun member => by cases member⟩

theorem accounting_monitor (accounting : Accounting s) (stepped : RunningThreads.step s label = some s')
    (monitor : label.1 = 1) : Accounting s' := by
  obtain ⟨task, rest, current, enabled, shared, -⟩ := Threads.step_cases stepped
  have own := Threads.step_own stepped current
  rw [monitor] at current own
  have running : s.shared.monitorEnded ≠ true := fun ended => by
    have none := (accounting.monitored ended).1
    rw [current] at none
    cases none
  have at_ : MonitorAt (task :: rest) := accounting.shaped 1 _ current
  have enabled' : task.enabled s.shared = true := enabled
  obtain ⟨others, noStop, noHandling, noQueue, noProcessor, last, stops⟩ :=
    monitor_flags label.2 at_ enabled'
  obtain ⟨stop, handling, queue, ended, processor⟩ := Task.flags_run label.2 s.shared task
  have sharedRun : s'.shared = task.run label.2 s.shared := shared
  rw [← sharedRun] at stop handling queue ended processor
  have first : s'.programs[0]? = s.programs[0]? := Threads.step_other stepped (by rw [monitor]; decide)
  have third : s'.programs[2]? = s.programs[2]? := Threads.step_other stepped (by rw [monitor]; decide)
  have stopping : ∀ program, s'.programs[1]? = some program → .endMonitor ∈ program →
      s.shared.stopChannelMonitor = true := by
    intro program found member
    rw [own] at found
    cases found
    rcases List.mem_append.mp member with fresh | old
    · exact stops fresh
    · exact accounting.stopping _ current (List.mem_cons_of_mem _ old)
  exact {
    shaped := shaped_step accounting.shaped stepped
    processor := processor_other accounting stepped (by rw [monitor]; decide) (monitor ▸ current) others
    begun := fun stopped => by
      rw [third]
      exact accounting.begun ((stop.mp stopped).resolve_right noStop)
    stopping := fun program found member => stop.mpr (.inl (stopping program found member))
    monitored := fun finished => by
      have here : task = .endMonitor := (ended.mp finished).resolve_left running
      subst here
      obtain rfl := last rfl
      exact ⟨own, stop.mpr (.inl (accounting.stopping _ current List.mem_cons_self))⟩
    passed := fun program found closing passed => by
      rw [third] at found
      exact absurd (accounting.passed program found closing passed) running
    joined := fun flags => by
      refine absurd (accounting.joined (flags.imp ?_ ?_)) running
      · exact fun set => (handling.mp set).resolve_right noHandling
      · exact fun set => (queue.mp set).resolve_right noQueue
    leaving := fun program found member => by
      rw [first] at found
      exact absurd (accounting.leaving program found member).2 running
    drained := fun finished =>
      absurd (accounting.drained ((processor.mp finished).resolve_right noProcessor)).2.2 running
    awaited := fun program found closing waited => by
      rw [third] at found
      exact absurd (accounting.drained (accounting.awaited program found closing waited)).2.2 running }

/-- A user acts before `Shutdown` has begun. -/
theorem accounting_user (accounting : Accounting s) (stepped : RunningThreads.step s label = some s')
    (user : 3 ≤ label.1) (before : s.programs[2]? = some [.shutdown]) : Accounting s' := by
  obtain ⟨task, rest, current, -, shared, -⟩ := Threads.step_cases stepped
  have polling : s.shared.stopChannelMonitor ≠ true := fun set => accounting.begun set before
  have running : s.shared.monitorEnded ≠ true := fun ended => polling (accounting.monitored ended).2
  have uses : task.uses = true := by
    obtain ⟨t, index⟩ := Nat.exists_eq_add_of_le' user
    have shaped := accounting.shaped label.1 _ current
    rw [index] at shaped
    exact shaped task List.mem_cons_self
  have plain : task.queues = false ∧ task ≠ .stopChannelMonitor ∧ task ≠ .stopHandlingCq ∧
      task ≠ .shutdownQueue ∧ task ≠ .endMonitor ∧ task ≠ .endProcessor := by
    cases task with
    | client _ | closeBaseStationDataRequest _ | cancelStream _ | sendWirelessManagementRequest _ =>
        exact ⟨rfl, by simp, by simp, by simp, by simp, by simp⟩
    | _ => cases uses
  obtain ⟨others, noStop, noHandling, noQueue, noMonitor, noProcessor⟩ := plain
  obtain ⟨stop, handling, queue, ended, processor⟩ := Task.flags_run label.2 s.shared task
  have sharedRun : s'.shared = task.run label.2 s.shared := shared
  rw [← sharedRun] at stop handling queue ended processor
  have same : ∀ t, t < 3 → s'.programs[t]? = s.programs[t]? := fun t low =>
    Threads.step_other stepped (by omega)
  have stays : s'.shared.monitorEnded ≠ true := fun finished =>
    running ((ended.mp finished).resolve_right noMonitor)
  exact {
    shaped := shaped_step accounting.shaped stepped
    processor := processor_other accounting stepped (by omega) current others
    begun := fun stopped => absurd ((stop.mp stopped).resolve_right noStop) polling
    stopping := fun program found member => by
      rw [same 1 (by decide)] at found
      exact absurd (accounting.stopping program found member) polling
    monitored := fun finished => absurd finished stays
    passed := fun program found closing _ => by
      rw [same 2 (by decide), before] at found
      cases found
      exact absurd rfl (closing_ne closing)
    joined := fun flags => by
      refine absurd (accounting.joined (flags.imp ?_ ?_)) running
      · exact fun set => (handling.mp set).resolve_right noHandling
      · exact fun set => (queue.mp set).resolve_right noQueue
    leaving := fun program found member => by
      rw [same 0 (by decide)] at found
      exact absurd (accounting.leaving program found member).2 running
    drained := fun finished =>
      absurd (accounting.drained ((processor.mp finished).resolve_right noProcessor)).2.2 running
    awaited := fun program found closing _ => by
      rw [same 2 (by decide), before] at found
      cases found
      exact absurd rfl (closing_ne closing) }

theorem proceed_alike (orders : Orders) (x : RunningClient) (r : Returned) :
    Task.Alike x (Task.run orders x (.proceed r)) := by
  rw [Task.run]
  split <;> exact ⟨rfl, rfl, rfl, rfl, rfl⟩

/-- What the queue thread does with an operation that succeeded. -/
theorem processor_proceed {x : RunningClient} {r : Returned} (orders : Orders) (returns : List Returned)
    (accounted : x.Accounted r.token) (running : r.callData ∉ x.stopped) :
    ∃ hands, ProcessorAt (Task.run orders x (.proceed r))
      (Task.following orders x (.proceed r) ++ [.completionQueueProcessor returns]) hands ∧
      (Task.run orders x (.proceed r)).Accounted hands := by
  have alike := proceed_alike orders x r
  have accounted' := alike.accounted accounted
  have running' : r.callData ∉ (Task.run orders x (.proceed r)).stopped := by rwa [alike.stopped]
  obtain ⟨c, op, ok, event⟩ := r
  rw [Task.following, if_neg running]
  cases op with
  | startCall => exact ⟨[c], .serving [] c returns running', accounted'⟩
  | read =>
      refine ⟨[c], ?_, accounted'⟩
      show ProcessorAt _ ((if x.isDeviceEvents c && !x.isCancelled c then
        [Task.client (.deviceEventProcessor event)] else []) ++ [.startRead c] ++
          [.completionQueueProcessor returns]) [c]
      split
      · exact .serving [.deviceEventProcessor event] c returns running'
      · exact .serving [] c returns running'
  | write => exact ⟨[], .checking returns, accounted'⟩

/-- **A step of the queue thread** moves one token, and it comes to its end only with nothing
under way. -/
theorem processor_step {x : RunningClient} {hands : List CallId} (orders : Orders)
    (at_ : ProcessorAt x (task :: rest) hands) (accounted : x.Accounted hands)
    (enabled : task.enabled x = true)
    (checked : ∀ returns, task = .completionQueueProcessor returns → x.stopHandlingCq = true →
      x.outstanding = [])
    (alone : ∀ c, task = .stop c → ∀ op, (c, op) ∉ x.outstanding) :
    (∃ hands', ProcessorAt (task.run orders x) (task.following orders x ++ rest) hands' ∧
      (task.run orders x).Accounted hands') ∧
    (.endProcessor ∈ task.following orders x ++ rest →
      (task.run orders x).outstanding = [] ∧ (x.stopHandlingCq = true ∨ x.queueShutdown = true)) := by
  obtain ⟨program, same⟩ : ∃ program, program = task :: rest := ⟨_, rfl⟩
  rw [← same] at at_
  cases at_ with
  | checking returns =>
      cases same
      by_cases stop : x.stopHandlingCq = true
      · have left : Task.following orders x (.completionQueueProcessor returns) = [.endProcessor] := if_pos stop
        rw [left]
        exact ⟨⟨[], .ending, accounted⟩, fun _ => ⟨checked returns rfl stop, .inl stop⟩⟩
      · have stays : Task.following orders x (.completionQueueProcessor returns) = [.next returns] := if_neg stop
        rw [stays]
        exact ⟨⟨[], .waiting returns, accounted⟩, fun member => by cases List.mem_singleton.mp member⟩
  | waiting returns =>
      cases same
      cases returns with
      | nil =>
          have none : x.queueShutdown = true ∧ x.outstanding = [] := by simpa [Task.enabled] using enabled
          exact ⟨⟨[], .ending, accounted⟩, fun _ => ⟨none.2, .inr none.1⟩⟩
      | cons r returns =>
          have under : (r.callData, r.op) ∈ x.outstanding := by simpa [Task.enabled] using enabled
          have returned := accounted.next under
          obtain ⟨inside, running⟩ := RunningClient.inside_of_under accounted under
          by_cases ok : r.ok = true
          · have following : Task.following orders x (.next (r :: returns)) ++ [] =
                [.proceed r, .completionQueueProcessor returns] := by
              rw [List.append_nil, Task.following, if_pos ok]
              rfl
            rw [following]
            exact ⟨⟨_, .succeeded r returns running, returned⟩, fun member => by simp at member⟩
          · have following : Task.following orders x (.next (r :: returns)) ++ [] =
                [.stop r.callData, .proceed r, .completionQueueProcessor returns] := by
              rw [List.append_nil, Task.following, if_neg ok]
              rfl
            rw [following]
            exact ⟨⟨_, .failed r returns inside running, returned⟩, fun member => by simp at member⟩
  | succeeded r returns running =>
      cases same
      refine ⟨processor_proceed orders returns accounted running, fun member => ?_⟩
      rw [Task.following, if_neg running] at member
      rcases List.mem_append.mp member with fresh | last
      · split at fresh
        · cases List.mem_singleton.mp fresh
        · split at fresh <;> simp at fresh
        · cases fresh
      · cases List.mem_singleton.mp last
  | failed r returns inside running =>
      cases same
      have quiet := alone r.callData rfl
      have held : r.token = [r.callData] := by
        have member := RunningClient.held_of_quiet accounted inside running quiet
        unfold Returned.token at member ⊢
        split
        · rename_i write
          rw [if_pos write] at member
          cases member
        · rfl
      refine ⟨⟨[r.callData], .stopped r returns List.mem_cons_self, ?_⟩, fun member => ?_⟩
      · exact (held ▸ accounted).stop inside quiet
      · simp [Task.following] at member
  | stopped r returns ended =>
      cases same
      have following : Task.following orders x (.proceed r) ++ [.completionQueueProcessor returns] =
          [.deleteCallData r.callData, .completionQueueProcessor returns] := by
        rw [Task.following, if_pos ended]
        rfl
      have alike := proceed_alike orders x r
      rw [following]
      refine ⟨⟨[r.callData], .deleting _ returns ?_, alike.accounted accounted⟩, fun member => by simp at member⟩
      rwa [alike.stopped]
  | serving round c returns running =>
      cases round with
      | nil =>
          cases same
          exact ⟨⟨[], .checking returns, accounted.startRead running⟩,
            fun member => by cases List.mem_singleton.mp member⟩
      | cons instr round =>
          rw [List.map_cons, List.cons_append, List.cons.injEq] at same
          obtain ⟨rfl, rfl⟩ := same
          have program : Task.following orders x (.client instr) ++
              (round.map .client ++ [.startRead c, .completionQueueProcessor returns]) =
              (instr.next orders x.client ++ round).map .client ++
                [.startRead c, .completionQueueProcessor returns] := by
            rw [List.map_append, List.append_assoc]
            rfl
          rw [program]
          refine ⟨⟨[c], .serving _ c returns running, Task.accounted_run rfl accounted⟩, fun member => ?_⟩
          simp at member
  | deleting c returns ended =>
      cases same
      have deleted : (Task.run orders x (.deleteCallData c)).Accounted [] :=
        accounted.delete ended orders.streams
      by_cases hangs : (x.client.hangsIn orders.streams c).isSome = true
      · have following : Task.following orders x (.deleteCallData c) = [.client .hang] := by
          rw [Task.following, Instr.next, if_pos hangs]
          rfl
        rw [following]
        exact ⟨⟨[], .hanging returns, deleted⟩, fun member => by simp at member⟩
      · have following : Task.following orders x (.deleteCallData c) = [] := by
          rw [Task.following, Instr.next, if_neg hangs]
          rfl
        rw [following]
        exact ⟨⟨[], .checking returns, deleted⟩, fun member => by cases List.mem_singleton.mp member⟩
  | hanging returns =>
      cases same
      cases enabled
  | ending =>
      cases same
      exact ⟨⟨[], .ended, Task.accounted_run rfl accounted⟩, fun member => by cases member⟩
  | ended => cases same

/-- The queue thread sets no flag but its own. -/
theorem processor_flags {x : RunningClient} {hands : List CallId} (at_ : ProcessorAt x (task :: rest) hands) :
    task ≠ .stopChannelMonitor ∧ task ≠ .stopHandlingCq ∧ task ≠ .shutdownQueue ∧ task ≠ .endMonitor ∧
      (task = .endProcessor → rest = []) := by
  obtain ⟨program, same⟩ : ∃ program, program = task :: rest := ⟨_, rfl⟩
  rw [← same] at at_
  cases at_ with
  | serving round c returns running =>
      cases round <;> cases same <;> simp
  | ended => cases same
  | _ => cases same; simp

theorem accounting_queue (accounting : Accounting s) (allowed : Drains s label)
    (stepped : RunningThreads.step s label = some s') (queue : label.1 = 0) : Accounting s' := by
  obtain ⟨task, rest, current, enabled, shared, -⟩ := Threads.step_cases stepped
  obtain ⟨program, hands, found, at_, accounted⟩ := accounting.processor
  have here : s.programs[0]? = some (task :: rest) := queue ▸ current
  rw [here] at found
  cases found
  have sharedRun : s'.shared = task.run label.2 s.shared := shared
  obtain ⟨noStop, noHandling, noQueue, noMonitor, last⟩ := processor_flags at_
  obtain ⟨stop, handling, queued, ended, processor⟩ := Task.flags_run label.2 s.shared task
  rw [← sharedRun] at stop handling queued ended processor
  have enabled' : task.enabled s.shared = true := enabled
  obtain ⟨⟨hands', after, tokens⟩, leaves⟩ := processor_step label.2 at_ accounted enabled'
    (fun returns same => allowed.checked returns rest (same ▸ current))
    (fun c same => allowed.alone c rest (same ▸ current))
  rw [← sharedRun] at after tokens leaves
  have own : s'.programs[0]? = some (task.following label.2 s.shared ++ rest) :=
    queue ▸ Threads.step_own stepped current
  have other : ∀ t, t ≠ 0 → s'.programs[t]? = s.programs[t]? := fun t ne =>
    Threads.step_other stepped (queue ▸ ne)
  have kept : s.shared.monitorEnded = true → s'.shared.monitorEnded = true :=
    fun finished => ended.mpr (.inl finished)
  exact {
    shaped := shaped_step accounting.shaped stepped
    processor := ⟨_, hands', own, after, tokens⟩
    begun := fun stopped => by
      rw [other 2 (by decide)]
      exact accounting.begun ((stop.mp stopped).resolve_right noStop)
    stopping := fun program found member => by
      rw [other 1 (by decide)] at found
      exact stop.mpr (.inl (accounting.stopping program found member))
    monitored := fun finished => by
      obtain ⟨empty, stopped⟩ := accounting.monitored ((ended.mp finished).resolve_right noMonitor)
      exact ⟨by rw [other 1 (by decide)]; exact empty, stop.mpr (.inl stopped)⟩
    passed := fun program found closing passed => by
      rw [other 2 (by decide)] at found
      exact kept (accounting.passed program found closing passed)
    joined := fun flags => by
      refine kept (accounting.joined (flags.imp ?_ ?_))
      · exact fun set => (handling.mp set).resolve_right noHandling
      · exact fun set => (queued.mp set).resolve_right noQueue
    leaving := fun program found member => by
      rw [own] at found
      cases found
      obtain ⟨none, flags⟩ := leaves member
      exact ⟨none, kept (accounting.joined flags)⟩
    drained := fun finished => by
      rcases processor.mp finished with before | rfl
      · have empty := (accounting.drained before).1
        rw [here] at empty
        cases empty
      · obtain ⟨none, monitor⟩ := accounting.leaving _ here List.mem_cons_self
        obtain rfl := last rfl
        exact ⟨own, by rw [sharedRun]; exact none, kept monitor⟩
    awaited := fun program found closing waited => by
      rw [other 2 (by decide)] at found
      exact processor.mpr (.inl (accounting.awaited program found closing waited)) }

/-- `Shutdown` has passed a join that is not ahead of it. -/
theorem passed_step {orders : Orders} {x : RunningClient} {join : Task} (at_ : ShutdownAt (task :: rest))
    (member : join ∈ Task.shutdownSections) (passed : join ∉ task.following orders x ++ rest) :
    task = join ∨ Closing (task :: rest) ∧ join ∉ task :: rest := by
  rcases at_ with begin | closing
  · cases begin
    exact absurd (List.mem_append_left _ member) passed
  · by_cases here : task = join
    · exact .inl here
    · refine .inr ⟨closing, fun ahead => ?_⟩
      rcases List.mem_cons.mp ahead with own | later
      · exact here own.symm
      · exact passed (List.mem_append_right _ later)

/-- The queue is shut down after the join of the monitor. -/
theorem joined_before (closing : Closing (task :: rest))
    (queue : task = .shutdownQueue ∨ task = .stopHandlingCq) : .joinChannelMonitor ∉ task :: rest := by
  rcases closing_section closing with ⟨closes, -⟩ | suffix
  · rcases queue with rfl | rfl <;> cases closes
  · rcases queue with rfl | rfl
    all_goals
      simp only [Task.shutdownSections, List.suffix_cons_iff, List.cons.injEq, List.suffix_nil,
        reduceCtorEq, false_and, false_or, or_false, true_and] at suffix
      subst suffix
      simp

theorem accounting_shutdown (accounting : Accounting s) (stepped : RunningThreads.step s label = some s')
    (closes : label.1 = 2) : Accounting s' := by
  obtain ⟨task, rest, current, enabled, shared, -⟩ := Threads.step_cases stepped
  have here : s.programs[2]? = some (task :: rest) := closes ▸ current
  have at_ : ShutdownAt (task :: rest) := accounting.shaped 2 _ here
  have enabled' : task.enabled s.shared = true := enabled
  have sharedRun : s'.shared = task.run label.2 s.shared := shared
  obtain ⟨stop, handling, queued, ended, processor⟩ := Task.flags_run label.2 s.shared task
  rw [← sharedRun] at stop handling queued ended processor
  have plain : s'.shared.outstanding = s.shared.outstanding ∧ task.queues = false ∧
      task ≠ .endMonitor ∧ task ≠ .endProcessor := by
    rw [sharedRun]
    rcases at_ with begin | closing
    · cases begin
      exact ⟨rfl, rfl, by simp, by simp⟩
    · obtain ⟨outstanding, others⟩ := Task.outstanding_closing label.2 s.shared closing
      refine ⟨outstanding, others, ?_, ?_⟩
      all_goals
        rintro rfl
        rcases closing_section closing with ⟨closes, -⟩ | suffix
        · cases closes
        · simpa [Task.shutdownSections] using suffix.subset List.mem_cons_self
  obtain ⟨outstanding, others, noMonitor, noProcessor⟩ := plain
  have own : s'.programs[2]? = some (task.following label.2 s.shared ++ rest) :=
    closes ▸ Threads.step_own stepped current
  have other : ∀ t, t ≠ 2 → s'.programs[t]? = s.programs[t]? := fun t ne =>
    Threads.step_other stepped (closes ▸ ne)
  have kept : s.shared.monitorEnded = true → s'.shared.monitorEnded = true :=
    fun finished => ended.mpr (.inl finished)
  -- no flag of the queue is set before the section of Shutdown that sets it
  have setBy : ∀ {flag : Task}, task = flag → flag = .shutdownQueue ∨ flag = .stopHandlingCq →
      s.shared.monitorEnded = true := by
    rintro flag rfl queue
    rcases at_ with begin | closing
    · cases begin
      simp at queue
    · exact accounting.passed _ here closing (joined_before closing queue)
  exact {
    shaped := shaped_step accounting.shaped stepped
    processor := processor_other accounting stepped (by rw [closes]; decide) current others
    begun := fun _ start => by
      rw [own, Option.some.injEq] at start
      exact closing_ne (shutdownAt_step at_) start
    stopping := fun program found member => by
      rw [other 1 (by decide)] at found
      exact stop.mpr (.inl (accounting.stopping program found member))
    monitored := fun finished => by
      obtain ⟨empty, stopped⟩ := accounting.monitored ((ended.mp finished).resolve_right noMonitor)
      exact ⟨by rw [other 1 (by decide)]; exact empty, stop.mpr (.inl stopped)⟩
    passed := fun program found _ passed => by
      rw [own] at found
      cases found
      rcases passed_step at_ (by simp [Task.shutdownSections]) passed with rfl | ⟨closing, ahead⟩
      · exact kept enabled'
      · exact kept (accounting.passed _ here closing ahead)
    joined := fun flags => kept <| by
      rcases flags with set | set
      · rcases handling.mp set with before | own
        · exact accounting.joined (.inl before)
        · exact setBy own (.inr rfl)
      · rcases queued.mp set with before | own
        · exact accounting.joined (.inr before)
        · exact setBy own (.inl rfl)
    leaving := fun program found member => by
      rw [other 0 (by decide)] at found
      obtain ⟨none, monitor⟩ := accounting.leaving program found member
      exact ⟨outstanding.trans none, kept monitor⟩
    drained := fun finished => by
      obtain ⟨empty, none, monitor⟩ := accounting.drained ((processor.mp finished).resolve_right noProcessor)
      exact ⟨by rw [other 0 (by decide)]; exact empty, outstanding.trans none, kept monitor⟩
    awaited := fun program found _ waited => by
      rw [own] at found
      cases found
      refine processor.mpr (.inl ?_)
      rcases passed_step at_ (by simp [Task.shutdownSections]) waited with rfl | ⟨closing, ahead⟩
      · exact enabled'
      · exact accounting.awaited _ here closing ahead }

theorem accounting_start (returns : List Returned) (states : List ChannelState)
    (users : List (List UserAction)) : Accounting (runningThreads returns states users) where
  shaped := shaped_start returns states users
  processor := by
    refine ⟨_, [], rfl, .checking returns, ⟨fun c inside => ?_, ?_, ?_, ?_, ?_⟩⟩
    · cases inside
    all_goals exact fun _ member => by cases member
  begun stopped := by cases stopped
  stopping program found member := by
    cases found
    cases List.mem_singleton.mp member
  monitored ended := by cases ended
  passed program found closing := by
    cases found
    exact absurd rfl (closing_ne closing)
  joined flags := by rcases flags with set | set <;> cases set
  leaving program found member := by
    cases found
    cases List.mem_singleton.mp member
  drained ended := by cases ended
  awaited program found closing := by
    cases found
    exact absurd rfl (closing_ne closing)

/-- **No token is lost or doubled** by a step that drains the queue. -/
theorem accounting_step (accounting : Accounting s) (before : UsersBefore s label) (drains : Drains s label)
    (stepped : RunningThreads.step s label = some s') : Accounting s' := by
  obtain ⟨t, orders⟩ := label
  rcases t with _ | _ | _ | t
  · exact accounting_queue accounting drains stepped rfl
  · exact accounting_monitor accounting stepped rfl
  · exact accounting_shutdown accounting stepped rfl
  · exact accounting_user accounting stepped (by simp) (before (by simp))

end Step

/-! ## The return of Shutdown -/

/-- Every call was cancelled or ended by the server, all its operations were returned, and it is
deleted once. -/
def CallsEnd (x : RunningClient) : Prop :=
  ∀ c < x.client.calls.length, x.Ended c ∧ (∀ op, (c, op) ∉ x.outstanding) ∧ x.deletions.count c = 1

/-- **Every call has ended when `Shutdown` returns**, for every number of streams of each kind and
every order of the steps, if the queue is drained. -/
theorem calls_end {returns : List Returned} {states : List ChannelState} {users : List (List UserAction)}
    {s : RunningThreads}
    (reached : Reached RunningThreads.step (fun s label => UsersBefore s label ∧ Drains s label)
      (runningThreads returns states users) s)
    (returned : s.programs[2]? = some []) : CallsEnd s.shared := by
  have accounting : Accounting s := reached.invariant Accounting (accounting_start returns states users)
    fun _ _ _ accounting allowed stepped => accounting_step accounting allowed.1 allowed.2 stepped
  have closing : Closing [] := ⟨[], [], rfl, by simp, List.nil_suffix⟩
  have ended : s.shared.processorEnded = true := accounting.awaited [] returned closing (by simp)
  obtain ⟨empty, none, -⟩ := accounting.drained ended
  obtain ⟨program, hands, found, at_, accounted⟩ := accounting.processor
  rw [empty] at found
  cases found
  obtain ⟨program, same⟩ : ∃ program, program = ([] : List Task) := ⟨_, rfl⟩
  rw [← same] at at_
  cases at_ with
  | ended =>
      intro c inside
      have reading : s.shared.reading c = 0 := by simp [RunningClient.reading, none]
      have token := accounted.tokens c inside
      rw [reading, List.count_nil, Nat.zero_add] at token
      have member : c ∈ s.shared.deletions := List.count_pos_iff.mp (by omega)
      obtain ⟨-, quiet, cause⟩ := accounted.stopped c (accounted.deleted c member)
      exact ⟨cause, quiet, token⟩
  | serving round => cases round <;> cases same
  | _ => cases same

/-- The checks of the conditions, with no step of a user. -/
def drainsFirst (s : RunningThreads) (label : Nat × Orders) : Bool :=
  label.1 < 3 &&
    match s.programs[label.1]? with
    | some (.completionQueueProcessor _ :: _) =>
        !s.shared.stopHandlingCq || s.shared.outstanding.isEmpty
    | some (.stop c :: _) => s.shared.outstanding.all fun o => o.1 ≠ c
    | _ => true

theorem drains_of_drainsFirst (s : RunningThreads) (label : Nat × Orders)
    (first : drainsFirst s label = true) : UsersBefore s label ∧ Drains s label := by
  simp only [drainsFirst, Bool.and_eq_true, decide_eq_true_eq] at first
  refine ⟨fun user => absurd first.1 (by omega), ⟨fun returns rest found stop => ?_, fun c rest found => ?_⟩⟩
  · have checked := first.2
    rw [found] at checked
    simpa [stop] using checked
  · have alone := first.2
    rw [found] at alone
    intro op member
    simp only [List.all_eq_true, decide_eq_true_eq] at alone
    exact alone _ member rfl

/-- The event stream was opened, and its first operation fails after it was cancelled. -/
theorem calls_end_stream :
    ∃ s, Reached RunningThreads.step (fun s label => UsersBefore s label ∧ Drains s label)
        (runningThreads [⟨0, .startCall, false, {}⟩] [.ready] []) s ∧
      s.programs[2]? = some [] ∧ s.shared.client.calls.length = 1 ∧ CallsEnd s.shared := by
  have executed : (script (guarded drainsFirst RunningThreads.step)
      ((List.replicate 11 1 ++ List.replicate 7 2 ++ List.replicate 4 1 ++ List.replicate 2 2 ++
        List.replicate 8 0 ++ List.replicate 4 2).map fun i => (i, Orders.stored))
      (runningThreads [⟨0, .startCall, false, {}⟩] [.ready] [])).any
      (fun s => (s.programs[2]?).any List.isEmpty && s.shared.client.calls.length = 1) = true := by decide
  obtain ⟨s, executed, last⟩ := (Option.any_eq_true _ _).mp executed
  rw [Bool.and_eq_true, decide_eq_true_eq] at last
  obtain ⟨program, found, empty⟩ := (Option.any_eq_true _ _).mp last.1
  have returned : s.programs[2]? = some [] := by rw [found, List.isEmpty_iff.mp empty]
  have reached := Reached.of_script drainsFirst drains_of_drainsFirst _ executed
  exact ⟨s, reached, returned, last.2, calls_end reached returned⟩

/-- The queue thread finds its flag set before the event stream was returned to it. -/
theorem call_outlives_shutdown :
    ¬ ∀ (returns : List Returned) (states : List ChannelState) (users : List (List UserAction))
      (s : RunningThreads), Reached RunningThreads.step UsersBefore (runningThreads returns states users) s →
        s.programs[2]? = some [] → CallsEnd s.shared := by
  intro claimed
  have executed : (script (guarded (fun _ label => label.1 < 3) RunningThreads.step)
      ((List.replicate 11 1 ++ List.replicate 7 2 ++ List.replicate 4 1 ++ List.replicate 3 2 ++
        List.replicate 2 0 ++ List.replicate 3 2).map fun i => (i, Orders.stored))
      (runningThreads [] [.ready] [])).any
      (fun s => (s.programs[2]?).any List.isEmpty && s.shared.client.calls.length = 1 &&
        s.shared.deletions.isEmpty) = true := by decide
  obtain ⟨s, executed, last⟩ := (Option.any_eq_true _ _).mp executed
  rw [Bool.and_eq_true, Bool.and_eq_true, decide_eq_true_eq] at last
  obtain ⟨program, found, empty⟩ := (Option.any_eq_true _ _).mp last.1.1
  have returned : s.programs[2]? = some [] := by rw [found, List.isEmpty_iff.mp empty]
  have reached : Reached RunningThreads.step UsersBefore (runningThreads [] [.ready] []) s :=
    Reached.of_script _ (fun s label few user => absurd (of_decide_eq_true few) (by omega)) _ executed
  have once := (claimed [] [.ready] [] s reached returned 0 (by rw [last.1.2]; decide)).2.2
  rw [List.isEmpty_iff.mp last.2] at once
  cases once

end OmmoSdk.Client
