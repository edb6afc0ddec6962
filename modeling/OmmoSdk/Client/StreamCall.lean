/-
# Client.StreamCall — the life of one read-only stream call

Six of the stream classes only read.  Their bodies are the same over their message: the
call is started, every completion starts the next read, a finished read goes to the
callback first, and the first completion that failed ends the call.  `Proceed` does not
look at the operation type, so the status alone tells the start from a read.

`CancelCall` takes no lock.  The completion queue thread is therefore followed through
`Proceed` from its test of `listener_active` (`calling`) to the call of the callback: a
user can cancel in between.  The constructor is followed too, since it starts the call
before it sets the flag.

`Phase` says where such a call is.  From it follow `LifeCycle`, which holds in every state
of every run, and what a cancelled call still delivers: at most one message (`life_of_call`),
and none if it is not cancelled in between (`silent_after_cancel`).
-/
import OmmoSdk.Client.WirelessCall
import OmmoSdk.Sdk.Protobuf

namespace OmmoSdk.Client

open OmmoSdk.Theory
open OmmoSdk.Sdk

set_option autoImplicit false

/-- Where `CompletionQueueProcessor` is, as far as it concerns this call. -/
inductive StreamStage where
  /-- in `Next`, or at another call -/
  | next
  | returned (op : StreamOperation) (ok : Bool)
  /-- `Stop` was called -/
  | stopped (op : StreamOperation)
  /-- in `Proceed`, which found the listener active and is about to call it -/
  | calling
  /-- `Proceed` answered false -/
  | deleting
  deriving DecidableEq, Repr

/-- `μ` are the messages of the stream. -/
structure StreamCall (μ : Type) where
  status : ClientCallState
  listenerActive : Bool
  cbHandler : Bool
  /-- the constructor has returned, so that a user can have the pointer -/
  constructed : Bool
  /-- `CancelCall` was called -/
  cancelled : Bool
  /-- `none` is the message before the first read -/
  response : Option μ
  /-- started and not yet returned by the queue -/
  outstanding : List StreamOperation
  /-- the messages of the reads that were returned -/
  received : List μ
  /-- what `cb_handler_` was called with -/
  handled : List (Option μ)
  /-- how many operations were returned with `ok` false -/
  failures : Nat
  processor : StreamStage
  deletions : Nat
  deriving Repr

abbrev RpcOpenTrackingDeviceDataStreamClientCallData := StreamCall Proto.TrackingDeviceData

abbrev RpcOpenDataFrameStreamClientCallData := StreamCall Proto.DataFrame

abbrev RpcBaseStationDataStreamClientCallData := StreamCall Proto.BaseStationData

abbrev RpcTrackingGroupDataStreamClientCallData := StreamCall Proto.DataFrame

abbrev RpcOpenTrackingDevicesEventStreamClientCallData := StreamCall Proto.TrackingDeviceEvent

/-- `γ` are the messages about tracking groups. -/
abbrev RpcTrackingGroupsEventStreamClientCallData (γ : Type) := StreamCall γ

namespace StreamCall

variable {μ : Type}

/-- The constructor up to `StartCall`. -/
def init (μ : Type) (cbHandler : Bool) : StreamCall μ where
  status := .connecting
  listenerActive := false
  cbHandler := cbHandler
  constructed := false
  cancelled := false
  response := none
  outstanding := [.startCall]
  received := []
  handled := []
  failures := 0
  processor := .next
  deletions := 0

/-- The rest of the constructor. -/
def construct (call : StreamCall μ) : StreamCall μ :=
  { call with
    listenerActive := if call.cbHandler then true else call.listenerActive
    constructed := true }

def stop (call : StreamCall μ) : StreamCall μ := { call with status := .finish }

def cancelCall (call : StreamCall μ) : StreamCall μ :=
  { call with listenerActive := false, cancelled := true }

/-- `reader_->Read(&response_, &internal_read_info)` -/
def read (call : StreamCall μ) : StreamCall μ :=
  { call with outstanding := call.outstanding ++ [.read] }

/-- `cb_handler_(response_)`, and the next read. -/
def callback (call : StreamCall μ) : StreamCall μ :=
  ({ call with handled := call.handled ++ [call.response] } : StreamCall μ).read

/-- `Proceed`, in the branch of a finished read only up to the test of the listener.  The
stage is where the completion queue thread is then. -/
def proceed (call : StreamCall μ) : StreamStage × StreamCall μ :=
  match call.status with
  | .connecting => (.next, { call.read with status := .processing })
  | .processing =>
      if call.listenerActive && call.cbHandler then (.calling, call) else (.next, call.read)
  | _ => (.deleting, call)

/-- The next section of `CompletionQueueProcessor` after `Next` has returned. -/
def completionQueueProcessor (call : StreamCall μ) : Option (StreamCall μ) :=
  match call.processor with
  | .next => none
  | .returned op false => some { call.stop with processor := .stopped op }
  | .returned _ true | .stopped _ =>
      let (stage, call) := call.proceed
      some { call with processor := stage }
  | .calling => some { call.callback with processor := .next }
  | .deleting => some { call with deletions := call.deletions + 1, processor := .next }

/-- `Next` returns an operation.  The queue does not know whether the call still exists. -/
def complete (call : StreamCall μ) (op : StreamOperation) (ok : Bool) : Option (StreamCall μ) :=
  if call.processor = .next ∧ op ∈ call.outstanding then
    some { call with
      outstanding := call.outstanding.erase op
      failures := if ok then call.failures else call.failures + 1
      processor := .returned op ok }
  else none

inductive Event (μ : Type) where
  | construct
  | cancel
  | started (ok : Bool)
  /-- `none`: the read failed -/
  | read (message : Option μ)
  | process
  deriving DecidableEq, Repr

/-- One step of the opening thread, of a user or of the completion queue thread.  Users have
no pointer to a call that is not constructed, or deleted. -/
def step (call : StreamCall μ) : Event μ → Option (StreamCall μ)
  | .construct => if call.constructed then none else some call.construct
  | .cancel => if call.constructed ∧ call.deletions = 0 then some call.cancelCall else none
  | .started ok => call.complete .startCall ok
  | .read (some message) =>
      ({ call with response := some message, received := call.received ++ [message] } :
        StreamCall μ).complete .read true
  | .read none => call.complete .read false
  | .process => call.completionQueueProcessor

/-! ## Where a call is -/

/-- The operation whose completion the processor is at. -/
def StreamStage.held : StreamStage → List StreamOperation
  | .returned op _ | .stopped op => [op]
  | .calling => [.read]
  | .next | .deleting => []

/-- The operations that were started and whose completion has not been handled. -/
def inFlight (call : StreamCall μ) : List StreamOperation :=
  StreamStage.held call.processor ++ call.outstanding

/-- What a call that is served has in flight. -/
def expected : ClientCallState → StreamOperation
  | .connecting => .startCall
  | _ => .read

/-- The callbacks are a part of the messages received, in order. -/
def Delivered (call : StreamCall μ) : Prop := call.handled.Sublist (call.received.map some)

/-- A message was received last, and the callback was not given it. -/
def Pending (call : StreamCall μ) : Prop :=
  ∃ earlier message, call.received = earlier ++ [message] ∧ call.response = some message ∧
    call.handled.Sublist (earlier.map some)

/-- A call that is neither stopped nor deleted. -/
structure Serving (call : StreamCall μ) : Prop where
  status : call.status = .connecting ∨ call.status = .processing
  present : call.deletions = 0

/-- A call that has failed. -/
structure Failed (call : StreamCall μ) : Prop where
  status : call.status = .finish
  failures : call.failures = 1
  nothing : call.outstanding = []
  delivered : call.Delivered

inductive Phase (call : StreamCall μ) : Prop
  | waiting (serving : call.Serving) (stage : call.processor = .next)
      (one : call.outstanding = [expected call.status]) (failures : call.failures = 0)
      (delivered : call.Delivered)
  | returned (serving : call.Serving)
      (stage : call.processor = .returned (expected call.status) true)
      (nothing : call.outstanding = []) (failures : call.failures = 0)
      (delivered : call.status = .connecting → call.Delivered)
      (pending : call.status = .processing → call.Pending)
  | broken (serving : call.Serving) (stage : call.processor = .returned (expected call.status) false)
      (nothing : call.outstanding = []) (failures : call.failures = 1) (delivered : call.Delivered)
  | calling (serving : call.Serving) (stage : call.processor = .calling)
      (status : call.status = .processing) (nothing : call.outstanding = [])
      (failures : call.failures = 0) (pending : call.Pending)
  | ending (failed : call.Failed) (present : call.deletions = 0)
      (stage : (∃ op, call.processor = .stopped op) ∨ call.processor = .deleting)
  | deleted (failed : call.Failed) (deletions : call.deletions = 1) (stage : call.processor = .next)

/-- **The life of a call.** -/
structure LifeCycle (call : StreamCall μ) : Prop where
  oneInFlight : call.deletions = 0 → call.processor ≠ .deleting → call.inFlight.length = 1
  delivered : call.Delivered
  failsOnce : call.failures ≤ 1
  deletedOnce : call.deletions = if call.failures = 1 ∧ call.processor = .next then 1 else 0
  nothingLeft : call.processor = .deleting ∨ call.deletions = 1 → call.outstanding = []
  /-- the failed completion leads to the deletion -/
  ends : ∀ op, call.processor = .returned op false →
    ∃ call', script step [.process, .process, .process] call = some call' ∧
      call'.deletions = 1 ∧ call'.handled = call.handled
  /-- any other leads back to the queue -/
  goesOn : ∀ op, call.processor = .returned op true → ∃ call', call.step .process = some call' ∧
    (call'.processor = .next ∨
      call'.processor = .calling ∧ ∃ call'', call'.step .process = some call'' ∧ call''.processor = .next)

section Steps

variable {call call' : StreamCall μ} {cbHandler : Bool}

theorem phase_init : Phase (init μ cbHandler) :=
  .waiting ⟨.inl rfl, rfl⟩ rfl rfl rfl (List.Sublist.refl _)

/-- No phase depends on the flags of the listener. -/
theorem Phase.flags (phase : call.Phase) (listenerActive constructed cancelled : Bool) :
    Phase { call with
      listenerActive := listenerActive, constructed := constructed, cancelled := cancelled } := by
  have fails : call.Failed → Failed { call with
      listenerActive := listenerActive, constructed := constructed, cancelled := cancelled } :=
    fun failed => ⟨failed.status, failed.failures, failed.nothing, failed.delivered⟩
  have serves : call.Serving → Serving { call with
      listenerActive := listenerActive, constructed := constructed, cancelled := cancelled } :=
    fun serving => ⟨serving.status, serving.present⟩
  cases phase with
  | waiting serving idle one fine delivered => exact .waiting (serves serving) idle one fine delivered
  | returned serving back nothing fine delivered pending =>
      exact .returned (serves serving) back nothing fine delivered pending
  | broken serving back nothing once delivered =>
      exact .broken (serves serving) back nothing once delivered
  | calling serving back processing nothing fine pending =>
      exact .calling (serves serving) back processing nothing fine pending
  | ending failed present back => exact .ending (fails failed) present back
  | deleted failed once idle => exact .deleted (fails failed) once idle

/-- Nothing is returned to a call but while it waits for it. -/
theorem waiting_of_complete {op : StreamOperation} {ok : Bool} (phase : call.Phase)
    (returned : call.complete op ok = some call') :
    call.Serving ∧ op = expected call.status ∧ call.outstanding = [op] ∧ call.failures = 0 ∧
      call.Delivered ∧
      call' = { call with
        outstanding := []
        failures := if ok then 0 else 1
        processor := .returned op ok } := by
  unfold complete at returned
  split at returned
  · rename_i ready
    obtain ⟨idle, started⟩ := ready
    cases returned
    cases phase with
    | waiting serving _ one fine delivered =>
        have same : op = expected call.status := by
          rw [one] at started
          exact List.mem_singleton.mp started
        refine ⟨serving, same, by rw [one, same], fine, delivered, ?_⟩
        rw [one, same, List.erase_cons_head, fine]
    | returned _ back | broken _ back | calling _ back => rw [back] at idle; cases idle
    | ending failed | deleted failed => rw [failed.nothing] at started; cases started
  · cases returned

theorem Phase.started (phase : call.Phase) {ok : Bool}
    (returned : call.complete .startCall ok = some call') : call'.Phase := by
  obtain ⟨serving, same, -, -, delivered, rfl⟩ := waiting_of_complete phase returned
  cases ok with
  | true =>
      refine .returned ⟨serving.status, serving.present⟩ (by rw [← same]) rfl rfl (fun _ => delivered) ?_
      intro processing
      rw [show call.status = .processing from processing] at same
      cases same
  | false => exact .broken ⟨serving.status, serving.present⟩ (by rw [← same]) rfl rfl delivered

/-- A read that brings a message. -/
theorem Phase.filled (phase : call.Phase) {message : μ}
    (returned : ({ call with response := some message, received := call.received ++ [message] } :
      StreamCall μ).complete .read true = some call') : call'.Phase := by
  unfold complete at returned
  split at returned
  · rename_i ready
    obtain ⟨serving, same, one, fine, delivered, -⟩ := waiting_of_complete phase
      (show call.complete .read true = some _ from if_pos ready)
    cases returned
    refine .returned ⟨serving.status, serving.present⟩ (by rw [← same]) ?_ fine ?_ ?_
    · rw [one, List.erase_cons_head]
    · intro connecting
      rw [show call.status = .connecting from connecting] at same
      cases same
    · exact fun _ => ⟨call.received, message, rfl, rfl, delivered⟩
  · cases returned

theorem Phase.readFailed (phase : call.Phase) (returned : call.complete .read false = some call') :
    call'.Phase := by
  obtain ⟨serving, same, -, -, delivered, rfl⟩ := waiting_of_complete phase returned
  exact .broken ⟨serving.status, serving.present⟩ (by rw [← same]) rfl rfl delivered

theorem Pending.delivered (pending : call.Pending) : call.Delivered := by
  obtain ⟨earlier, message, last, -, before⟩ := pending
  rw [Delivered, last, List.map_append]
  exact before.trans (List.sublist_append_left _ _)

/-- The callback takes the message that was received last. -/
theorem Pending.callback (pending : call.Pending) :
    (call.handled ++ [call.response]).Sublist (call.received.map some) := by
  obtain ⟨earlier, message, last, filled, before⟩ := pending
  rw [last, filled, List.map_append]
  exact before.append (List.Sublist.refl _)

/-- One section of the completion queue thread. -/
theorem Phase.process (phase : call.Phase) (processed : call.completionQueueProcessor = some call') :
    call'.Phase := by
  cases phase with
  | waiting _ idle => simp [completionQueueProcessor, idle] at processed
  | returned serving back nothing fine delivered pending =>
      simp only [completionQueueProcessor, back, proceed] at processed
      rcases serving.status with connecting | processing
      · simp only [connecting, Option.some.injEq] at processed
        subst processed
        exact .waiting ⟨.inr rfl, serving.present⟩ rfl (by simp [read, nothing, expected]) fine
          (delivered connecting)
      · simp only [processing] at processed
        split at processed
        · cases processed
          exact .calling ⟨.inr processing, serving.present⟩ rfl processing nothing fine
            (pending processing)
        · cases processed
          exact .waiting ⟨.inr processing, serving.present⟩ rfl
            (by simp [read, nothing, expected, processing]) fine (pending processing).delivered
  | broken serving back nothing once delivered =>
      simp only [completionQueueProcessor, back, Option.some.injEq] at processed
      subst processed
      exact .ending ⟨rfl, once, nothing, delivered⟩ serving.present (.inl ⟨_, rfl⟩)
  | calling serving back processing nothing fine pending =>
      simp only [completionQueueProcessor, back, Option.some.injEq] at processed
      subst processed
      exact .waiting ⟨.inr processing, serving.present⟩ rfl
        (by simp [callback, read, nothing, expected, processing]) fine pending.callback
  | ending failed present back =>
      rcases back with ⟨op, stopped⟩ | deleting
      · simp only [completionQueueProcessor, stopped, proceed, failed.status, Option.some.injEq] at processed
        subst processed
        exact .ending ⟨rfl, failed.failures, failed.nothing, failed.delivered⟩ present (.inr rfl)
      · simp only [completionQueueProcessor, deleting, present, Option.some.injEq] at processed
        subst processed
        exact .deleted ⟨failed.status, failed.failures, failed.nothing, failed.delivered⟩ rfl rfl
  | deleted _ _ idle => simp [completionQueueProcessor, idle] at processed

theorem Phase.step {event : Event μ} (phase : call.Phase) (stepped : call.step event = some call') :
    call'.Phase := by
  cases event with
  | construct =>
      simp only [StreamCall.step] at stepped
      split at stepped
      · cases stepped
      · cases stepped
        exact phase.flags _ _ _
  | cancel =>
      simp only [StreamCall.step] at stepped
      split at stepped
      · cases stepped
        exact phase.flags _ _ _
      · cases stepped
  | started ok => exact phase.started stepped
  | read message =>
      cases message with
      | none => exact phase.readFailed stepped
      | some message => exact phase.filled stepped
  | process => exact phase.process stepped

end Steps

/-! ## Runs -/

section Runs

variable {call call' : StreamCall μ} {cbHandler : Bool}

theorem phase_of_reached (reached : Reached step (fun _ _ => True) (init μ cbHandler) call) :
    call.Phase :=
  reached.invariant _ phase_init fun _ _ _ phase _ stepped => phase.step stepped

theorem Phase.delivered (phase : call.Phase) : call.Delivered := by
  cases phase with
  | waiting _ _ _ _ delivered | broken _ _ _ _ delivered => exact delivered
  | returned serving _ _ _ delivered pending =>
      rcases serving.status with connecting | processing
      · exact delivered connecting
      · exact (pending processing).delivered
  | calling _ _ _ _ _ pending => exact pending.delivered
  | ending failed | deleted failed => exact failed.delivered

/-- What the processor does with a completion that it gives to `Proceed`. -/
theorem process_proceed {op : StreamOperation}
    (back : call.processor = .returned op true ∨ call.processor = .stopped op) :
    call.step .process = some { call.proceed.2 with processor := call.proceed.1 } := by
  rcases back with back | back
  · simp only [StreamCall.step, completionQueueProcessor, back]
  · simp only [StreamCall.step, completionQueueProcessor, back]

theorem proceed_connecting (connecting : call.status = .connecting) : call.proceed.1 = .next := by
  simp [proceed, connecting]

/-- `Proceed` comes to the callback if the listener is active. -/
theorem proceed_processing (processing : call.status = .processing) :
    call.proceed.1 = if call.listenerActive && call.cbHandler then .calling else .next := by
  simp only [proceed, processing]
  split <;> rfl

/-- A completion with `ok` leads to the next read, by way of the callback or without it. -/
theorem Serving.goesOn (serving : call.Serving) {op : StreamOperation}
    (back : call.processor = .returned op true) :
    ∃ call', call.step .process = some call' ∧
      (call'.processor = .next ∨
        call'.processor = .calling ∧
          ∃ call'', call'.step .process = some call'' ∧ call''.processor = .next) := by
  refine ⟨_, process_proceed (.inl back), ?_⟩
  rcases serving.status with connecting | processing
  · exact .inl (proceed_connecting connecting)
  · have stage := proceed_processing processing
    split at stage
    · refine .inr ⟨stage, ?_⟩
      simp [StreamCall.step, completionQueueProcessor, stage]
    · exact .inl stage

theorem Phase.lifeCycle (phase : call.Phase) : call.LifeCycle := by
  refine ⟨?_, phase.delivered, ?_, ?_, ?_, ?_, ?_⟩
  · intro present serves
    cases phase with
    | waiting _ idle one => simp [inFlight, idle, one, StreamStage.held]
    | returned _ back nothing | broken _ back nothing =>
        simp [inFlight, back, nothing, StreamStage.held]
    | calling _ back _ nothing => simp [inFlight, back, nothing, StreamStage.held]
    | ending failed _ back =>
        rcases back with ⟨op, stopped⟩ | deleting
        · simp [inFlight, stopped, failed.nothing, StreamStage.held]
        · exact absurd deleting serves
    | deleted _ once => rw [once] at present; cases present
  · cases phase with
    | waiting _ _ _ fine | returned _ _ _ fine | calling _ _ _ _ fine => omega
    | broken _ _ _ once => omega
    | ending failed | deleted failed => exact failed.failures.le
  · cases phase with
    | waiting serving _ _ fine | returned serving _ _ fine | calling serving _ _ _ fine =>
        simp [serving.present, fine]
    | broken serving back => simp [serving.present, back]
    | ending failed present back =>
        rcases back with ⟨op, stopped⟩ | deleting
        · simp [present, stopped]
        · simp [present, deleting]
    | deleted failed once idle => simp [once, failed.failures, idle]
  · cases phase with
    | waiting serving idle => simp [idle, serving.present]
    | returned _ _ nothing | broken _ _ nothing | calling _ _ _ nothing => exact fun _ => nothing
    | ending failed | deleted failed => exact fun _ => failed.nothing
  · intro op back
    cases phase with
    | waiting _ idle | deleted _ _ idle => rw [idle] at back; cases back
    | returned _ other | calling _ other => rw [other] at back; cases back
    | broken serving same nothing once delivered =>
        refine ⟨{ call.stop with processor := .next, deletions := call.deletions + 1 }, ?_,
          by simp [serving.present], rfl⟩
        simp [script, StreamCall.step, completionQueueProcessor, back, proceed, stop]
    | ending _ _ stage =>
        rcases stage with ⟨_, stopped⟩ | deleting
        · rw [stopped] at back; cases back
        · rw [deleting] at back; cases back
  · intro op back
    cases phase with
    | waiting serving | returned serving | calling serving | broken serving => exact serving.goesOn back
    | ending _ _ stage =>
        rcases stage with ⟨_, stopped⟩ | deleting
        · rw [stopped] at back; cases back
        · rw [deleting] at back; cases back
    | deleted _ _ idle => rw [idle] at back; cases back

/-! ## After a cancel -/

/-- The listener of a cancelled call is inactive, and no constructor sets it again. -/
structure Muted (call : StreamCall μ) : Prop where
  cancelled : call.cancelled = true
  constructed : call.constructed = true
  inactive : call.listenerActive = false

/-- What a step can do to the flags of the listener. -/
inductive Flags (event : Event μ) (call call' : StreamCall μ) : Prop
  | muted (cancels : event = .cancel) (muted : call'.Muted) (stage : call'.processor = call.processor)
  | construct (constructing : call.constructed = false) (cancelled : call'.cancelled = call.cancelled)
  | same (cancelled : call'.cancelled = call.cancelled)
      (constructed : call'.constructed = call.constructed)
      (listenerActive : call'.listenerActive = call.listenerActive)

theorem flags_complete {event : Event μ} {op : StreamOperation} {ok : Bool}
    (returned : call.complete op ok = some call') : Flags event call call' := by
  unfold StreamCall.complete at returned
  split at returned
  · cases returned
    exact .same rfl rfl rfl
  · cases returned

theorem flags_proceed {event : Event μ} (stage : StreamStage) :
    Flags event call { call.proceed.2 with processor := stage } := by
  unfold proceed
  split
  · exact .same rfl rfl rfl
  · split <;> exact .same rfl rfl rfl
  · exact .same rfl rfl rfl

theorem flags_process {event : Event μ} (processed : call.completionQueueProcessor = some call') :
    Flags event call call' := by
  unfold completionQueueProcessor at processed
  split at processed
  · cases processed
  · cases processed
    exact .same rfl rfl rfl
  · cases processed
    exact flags_proceed _
  · cases processed
    exact flags_proceed _
  · cases processed
    exact .same rfl rfl rfl
  · cases processed
    exact .same rfl rfl rfl

theorem flags_step {event : Event μ} (stepped : call.step event = some call') :
    Flags event call call' := by
  cases event with
  | construct =>
      simp only [StreamCall.step] at stepped
      split at stepped
      · cases stepped
      · rename_i constructing
        cases stepped
        exact .construct (by simpa using constructing) rfl
  | cancel =>
      simp only [StreamCall.step] at stepped
      split at stepped
      · rename_i known
        cases stepped
        exact .muted rfl ⟨rfl, known.1, rfl⟩ rfl
      · cases stepped
  | started ok => exact flags_complete stepped
  | read message =>
      cases message with
      | none => exact flags_complete stepped
      | some message =>
          cases (flags_complete stepped : Flags (.read (some message)) _ _) with
          | muted cancels => cases cancels
          | construct constructing cancelled => exact .construct constructing cancelled
          | same cancelled constructed active => exact .same cancelled constructed active
  | process => exact flags_process stepped

theorem Muted.step {event : Event μ} (muted : call.Muted) (stepped : call.step event = some call') :
    call'.Muted := by
  cases flags_step stepped with
  | muted _ muted => exact muted
  | construct constructing =>
      rw [muted.constructed] at constructing
      cases constructing
  | same cancelled constructed active =>
      exact ⟨cancelled.trans muted.cancelled, constructed.trans muted.constructed,
        active.trans muted.inactive⟩

/-- A reached call that was cancelled is muted. -/
theorem muted_of_reached (reached : Reached step (fun _ _ => True) (init μ cbHandler) call)
    (cancelled : call.cancelled = true) : call.Muted := by
  have either : call.cancelled = false ∨ call.Muted := by
    refine reached.invariant (fun now => now.cancelled = false ∨ now.Muted) (.inl rfl) ?_
    rintro before after event (untouched | muted) - stepped
    · cases flags_step stepped with
      | muted _ muted => exact .inr muted
      | construct _ same => exact .inl (same.trans untouched)
      | same same => exact .inl (same.trans untouched)
    · exact .inr (muted.step stepped)
  rcases either with untouched | muted
  · rw [cancelled] at untouched
    cases untouched
  · exact muted

/-- What a call has delivered since it was cancelled: nothing, or what the processor was
about to deliver. -/
inductive Silenced (start call : StreamCall μ) : Prop
  | pending (stage : call.processor = .calling) (before : start.processor = .calling)
      (handled : call.handled = start.handled) (response : call.response = start.response)
  | silent (stage : call.processor ≠ .calling) (handled : call.handled = start.handled)
  | last (stage : call.processor ≠ .calling) (before : start.processor = .calling)
      (handled : call.handled = start.handled ++ [start.response])

/-- A section that delivers nothing keeps it. -/
theorem Silenced.unchanged {start : StreamCall μ} (silenced : Silenced start call)
    (stage : call.processor ≠ .calling) (next : call'.processor ≠ .calling)
    (handled : call'.handled = call.handled) : Silenced start call' := by
  cases silenced with
  | pending calling => exact absurd calling stage
  | silent _ same => exact .silent next (handled.trans same)
  | last _ before one => exact .last next before (handled.trans one)

theorem Silenced.complete {start : StreamCall μ} {op : StreamOperation} {ok : Bool}
    (silenced : Silenced start call) (returned : call.complete op ok = some call') :
    Silenced start call' := by
  unfold StreamCall.complete at returned
  split at returned
  · rename_i ready
    cases returned
    exact silenced.unchanged (by simp [ready.1]) (by simp) rfl
  · cases returned

/-- `Proceed` calls no listener, and with the listener inactive it does not come to it. -/
theorem proceed_muted (inactive : call.listenerActive = false) :
    call.proceed.1 ≠ .calling ∧ call.proceed.2.handled = call.handled := by
  unfold StreamCall.proceed
  split
  · exact ⟨by simp, rfl⟩
  · simp [inactive, read]
  · exact ⟨by simp, rfl⟩

theorem Silenced.process {start : StreamCall μ} (silenced : Silenced start call)
    (inactive : call.listenerActive = false)
    (processed : call.completionQueueProcessor = some call') : Silenced start call' := by
  obtain ⟨elsewhere, same⟩ := proceed_muted inactive
  unfold completionQueueProcessor at processed
  split at processed
  · cases processed
  · rename_i stage
    cases processed
    exact silenced.unchanged (by simp [stage]) (by simp) rfl
  · rename_i stage
    cases processed
    exact silenced.unchanged (by simp [stage]) elsewhere same
  · rename_i stage
    cases processed
    exact silenced.unchanged (by simp [stage]) elsewhere same
  · rename_i stage
    cases processed
    cases silenced with
    | pending _ before handled response =>
        refine .last (by simp) before ?_
        change call.handled ++ [call.response] = _
        rw [handled, response]
    | silent elsewhere' | last elsewhere' => exact absurd stage elsewhere'
  · rename_i stage
    cases processed
    exact silenced.unchanged (by simp [stage]) (by simp) rfl

theorem Silenced.step {start : StreamCall μ} {event : Event μ} (silenced : Silenced start call)
    (inactive : call.listenerActive = false) (stepped : call.step event = some call') :
    Silenced start call' := by
  cases event with
  | construct =>
      simp only [StreamCall.step] at stepped
      split at stepped
      · cases stepped
      · cases stepped
        cases silenced with
        | pending stage before handled response => exact .pending stage before handled response
        | silent stage handled => exact .silent stage handled
        | last stage before handled => exact .last stage before handled
  | cancel =>
      simp only [StreamCall.step] at stepped
      split at stepped
      · cases stepped
        cases silenced with
        | pending stage before handled response => exact .pending stage before handled response
        | silent stage handled => exact .silent stage handled
        | last stage before handled => exact .last stage before handled
      · cases stepped
  | started ok => exact silenced.complete stepped
  | read message =>
      cases message with
      | none => exact silenced.complete stepped
      | some message =>
          simp only [StreamCall.step, StreamCall.complete] at stepped
          split at stepped
          · rename_i ready
            cases stepped
            exact silenced.unchanged (by simp [ready.1]) (by simp) rfl
          · cases stepped
  | process => exact silenced.process inactive stepped

/-- What is delivered after a cancel is at most what was about to be. -/
theorem silenced_of_reached (muted : call.Muted)
    (later : Reached step (fun _ _ => True) call call') : Silenced call call' := by
  have both : call'.Muted ∧ Silenced call call' := by
    refine later.invariant (fun now => now.Muted ∧ Silenced call now) ⟨muted, ?_⟩ ?_
    · by_cases calling : call.processor = .calling
      · exact .pending calling calling rfl rfl
      · exact .silent calling rfl
    · rintro before after event ⟨still, silenced⟩ - stepped
      exact ⟨still.step stepped, silenced.step still.inactive stepped⟩
  exact both.2

/-- **The life of a read-only call.**  In every run there is one operation in flight until the
call is deleted, the callbacks are a part of the received messages in order, and the call is
deleted once, at its first failed completion, with nothing outstanding.  A cancelled call
delivers at most the message that it was about to deliver when it was cancelled. -/
theorem life_of_call (reached : Reached step (fun _ _ => True) (init μ cbHandler) call) :
    call.LifeCycle ∧
      (call.cancelled = true → ∀ call', Reached step (fun _ _ => True) call call' →
        call'.handled = call.handled ∨
          call.processor = .calling ∧ call'.handled = call.handled ++ [call.response]) := by
  refine ⟨(phase_of_reached reached).lifeCycle, ?_⟩
  intro cancelled call' later
  cases silenced_of_reached (muted_of_reached reached cancelled) later with
  | pending _ _ handled | silent _ handled => exact .inl handled
  | last _ before handled => exact .inr ⟨before, handled⟩

/-- A user does not cancel while the completion queue thread is in `Proceed` between its test of
the listener and the callback. -/
def CancelsApart (call : StreamCall μ) (event : Event μ) : Prop :=
  event = .cancel → call.processor ≠ .calling

theorem quiet_step {event : Event μ} (inactive : call.listenerActive = false)
    (elsewhere : call.processor ≠ .calling) (stepped : call.step event = some call') :
    call'.processor ≠ .calling ∧ call'.handled = call.handled := by
  have silenced : Silenced call call' := Silenced.step (.silent elsewhere rfl) inactive stepped
  cases silenced with
  | pending _ before | last _ before => exact absurd before elsewhere
  | silent stage handled => exact ⟨stage, handled⟩

/-- Then the completion queue thread is never about to call back for a cancelled call. -/
theorem elsewhere_of_reached (reached : Reached step CancelsApart (init μ cbHandler) call)
    (cancelled : call.cancelled = true) : call.Muted ∧ call.processor ≠ .calling := by
  have either : call.cancelled = false ∨ call.Muted ∧ call.processor ≠ .calling := by
    refine reached.invariant
      (fun now => now.cancelled = false ∨ now.Muted ∧ now.processor ≠ .calling) (.inl rfl) ?_
    rintro before after event (untouched | ⟨muted, elsewhere⟩) apart stepped
    · cases flags_step stepped with
      | muted cancels muted stage => exact .inr ⟨muted, stage ▸ apart cancels⟩
      | construct _ same => exact .inl (same.trans untouched)
      | same same => exact .inl (same.trans untouched)
    · exact .inr ⟨muted.step stepped, (quiet_step muted.inactive elsewhere stepped).1⟩
  rcases either with untouched | quiet
  · rw [cancelled] at untouched
    cases untouched
  · exact quiet

/-- **Nothing is delivered after a cancel**, if no cancel falls between the test of the listener
and the callback, whatever the stream, its reader and its users do then; and the rest of the life
of a call is as it always is. -/
theorem silent_after_cancel (reached : Reached step CancelsApart (init μ cbHandler) call) :
    call.LifeCycle ∧
      (call.cancelled = true → ∀ call', Reached step (fun _ _ => True) call call' →
        call'.handled = call.handled) := by
  have any : Reached step (fun _ _ => True) (init μ cbHandler) call :=
    reached.meets (fun _ => True) trivial (fun _ _ _ _ _ _ => trivial) fun _ _ _ => trivial
  refine ⟨(phase_of_reached any).lifeCycle, fun cancelled call' later => ?_⟩
  obtain ⟨muted, elsewhere⟩ := elsewhere_of_reached reached cancelled
  cases silenced_of_reached muted later with
  | pending _ before | last _ before => exact absurd before elsewhere
  | silent _ handled => exact handled

/-- One message is delivered and the next one read; the call is cancelled before `Proceed` tests
the listener, and then the stream breaks. -/
theorem silent_after_cancel_read :
    ∃ call call' : StreamCall Unit, Reached step CancelsApart (init Unit true) call ∧
      call.cancelled = true ∧ Reached step (fun _ _ => True) call call' ∧
      call'.received.length = 2 ∧ call'.deletions = 1 ∧ call.LifeCycle ∧
      call'.handled = call.handled := by
  have executed : ∃ call : StreamCall Unit, Reached step CancelsApart (init Unit true) call ∧
      call.cancelled = true ∧
      ∃ call', script step [.process, .read none, .process, .process, .process] call = some call' ∧
        call'.received.length = 2 ∧ call'.deletions = 1 :=
    ⟨_, .of_script (fun call event => event ≠ .cancel || call.processor ≠ .calling)
      (fun call event apart => by simpa [CancelsApart, imp_iff_not_or] using apart)
      [.construct, .started true, .process, .read (some ()), .process, .process, .read (some ()),
        .cancel] rfl, rfl, _, rfl, rfl, rfl⟩
  obtain ⟨call, reached, cancelled, call', later, received, deleted⟩ := executed
  have silent := silent_after_cancel reached
  exact ⟨call, call', reached, cancelled, .of_any _ later, received, deleted, silent.1,
    silent.2 cancelled call' (.of_any _ later)⟩

/-- The call is cancelled between the test of the listener and the callback. -/
theorem handled_after_cancel :
    ¬ ∀ call call' : StreamCall Unit, Reached step (fun _ _ => True) (init Unit true) call →
      call.cancelled = true → Reached step (fun _ _ => True) call call' →
      call'.handled = call.handled := by
  intro claimed
  have reached : Reached step (fun _ _ => True) (init Unit true) _ :=
    .of_any [.construct, .started true, .process, .read (some ()), .process, .cancel] rfl
  have same := claimed _ _ reached rfl (.of_any [.process] rfl)
  cases same

end Runs

end StreamCall

end OmmoSdk.Client
