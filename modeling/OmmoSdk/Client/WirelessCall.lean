/-
# Client.WirelessCall — the life of one wireless management call

The bidirectional stream has up to two operations in flight, a read and a write.  gRPC
returns each operation once, in any order, with `ok` false when the stream is broken.
The completion queue thread stops the call at the first that failed and deletes it.

A step is what one thread does under `statusLock`.  `inFlight` are the operations whose
completion has not been processed, and `Accounted` says which they are while the call is
served: one read, and one write exactly in the state `PROCESSING`.  So a call that is
stopped in another state has nothing left (`deleted_with_nothing_outstanding`), and one
that is stopped in this state is deleted with an operation still to come back
(`deleted_with_one_outstanding`).
-/
import OmmoSdk.Theory.Reach

namespace OmmoSdk.Client

open OmmoSdk.Theory

set_option autoImplicit false

inductive ClientCallState where
  | connecting
  | processing
  | waiting
  | finish
  deriving DecidableEq, Repr

inductive OperationType where
  | read
  | write
  | finish
  deriving DecidableEq, Repr

/-- What the call has asked of the stream. -/
inductive StreamOperation where
  | startCall
  | read
  | write
  deriving DecidableEq, Repr

/-- The operation type in the tag: the call is started under `internal_read_info`. -/
def StreamOperation.tag : StreamOperation → OperationType
  | .startCall => .read
  | .read => .read
  | .write => .write

@[simp] theorem StreamOperation.tag_startCall : StreamOperation.startCall.tag = .read := rfl

@[simp] theorem StreamOperation.tag_read : StreamOperation.read.tag = .read := rfl

@[simp] theorem StreamOperation.tag_write : StreamOperation.write.tag = .write := rfl

/-- Where `CompletionQueueProcessor` is, as far as it concerns this call. -/
inductive ProcessorStage where
  /-- in `Next`, or at another call -/
  | next
  | returned (op : StreamOperation) (ok : Bool)
  /-- `Stop` was called -/
  | stopped (op : StreamOperation)
  /-- `Proceed` answered false -/
  | deleting
  deriving DecidableEq, Repr

/-- `ρ` are the requests and `ε` the events of the stream. -/
structure WirelessCall (ρ ε : Type) where
  status : ClientCallState
  listenerActive : Bool
  cbHandler : Bool
  /-- `TryCancel` was called on the context -/
  tryCancel : Bool
  /-- `none` is the message before the first read -/
  response : Option ε
  /-- started and not yet returned by the queue -/
  outstanding : List StreamOperation
  written : List ρ
  /-- what `cb_handler_` was called with -/
  handled : List (Option ε)
  processor : ProcessorStage
  deletions : Nat
  deriving Repr

namespace WirelessCall

variable {ρ ε : Type}

/-- The constructor. -/
def init (ρ ε : Type) (cbHandler : Bool) : WirelessCall ρ ε where
  status := .connecting
  listenerActive := cbHandler
  cbHandler := cbHandler
  tryCancel := false
  response := none
  outstanding := [.startCall]
  written := []
  handled := []
  processor := .next
  deletions := 0

def sendWirelessManagementRequest (call : WirelessCall ρ ε) (request : ρ) :
    Bool × WirelessCall ρ ε :=
  if call.status = .processing then (false, call)
  else if call.status = .connecting ∨ call.status = .waiting then
    (true,
      { call with
        status := .processing
        outstanding := call.outstanding ++ [.write]
        written := call.written ++ [request] })
  else (false, call)

def stop (call : WirelessCall ρ ε) : WirelessCall ρ ε := { call with status := .finish }

def cancelCall (call : WirelessCall ρ ε) : WirelessCall ρ ε :=
  { call with listenerActive := false, tryCancel := true }

/-- The branch of a finished read: the callback, then the next read. -/
def readFinished (call : WirelessCall ρ ε) : WirelessCall ρ ε :=
  { call with
    handled :=
      if call.cbHandler && call.listenerActive then call.handled ++ [call.response]
      else call.handled
    outstanding := call.outstanding ++ [.read] }

def proceed (call : WirelessCall ρ ε) (opType : OperationType) : Bool × WirelessCall ρ ε :=
  match call.status with
  | .connecting =>
      (true, { call with status := .waiting, outstanding := call.outstanding ++ [.read] })
  | .waiting => (true, if opType = .read then call.readFinished else call)
  | .processing =>
      (true,
        if opType = .read then call.readFinished
        else if opType = .write then { call with status := .waiting }
        else call)
  | .finish => (false, call)

/-- The next section of `CompletionQueueProcessor` after `Next` has returned. -/
def completionQueueProcessor (call : WirelessCall ρ ε) : Option (WirelessCall ρ ε) :=
  match call.processor with
  | .next => none
  | .returned op false => some { call.stop with processor := .stopped op }
  | .returned op true =>
      let (ok, call) := call.proceed op.tag
      some { call with processor := if ok then .next else .deleting }
  | .stopped op =>
      let (ok, call) := call.proceed op.tag
      some { call with processor := if ok then .next else .deleting }
  | .deleting => some { call with deletions := call.deletions + 1, processor := .next }

/-- `Next` returns an operation.  The queue does not know whether the call still exists. -/
def complete (call : WirelessCall ρ ε) (op : StreamOperation) (ok : Bool) :
    Option (WirelessCall ρ ε) :=
  if call.processor = .next ∧ op ∈ call.outstanding then
    some { call with outstanding := call.outstanding.erase op, processor := .returned op ok }
  else none

inductive Event (ρ ε : Type) where
  | send (request : ρ)
  | cancel
  | started (ok : Bool)
  /-- `none`: the read failed -/
  | read (message : Option ε)
  | wrote (ok : Bool)
  | process
  deriving DecidableEq, Repr

/-- One step of a user or of the completion queue thread.  Users have no pointer to a
deleted call. -/
def step (call : WirelessCall ρ ε) : Event ρ ε → Option (WirelessCall ρ ε)
  | .send request =>
      if call.deletions = 0 then some (call.sendWirelessManagementRequest request).2 else none
  | .cancel => if call.deletions = 0 then some call.cancelCall else none
  | .started ok => call.complete .startCall ok
  | .read (some message) => ({ call with response := some message } : WirelessCall ρ ε).complete .read true
  | .read none => call.complete .read false
  | .wrote ok => call.complete .write ok
  | .process => call.completionQueueProcessor

/-- The call is not stopped while a write is on its way. -/
def QuietStop (call : WirelessCall ρ ε) (event : Event ρ ε) : Prop :=
  event = .process → ∀ op, call.processor = .returned op false → call.status ≠ .processing

/-! ## What is in flight -/

def ProcessorStage.held : ProcessorStage → List StreamOperation
  | .returned op _ => [op]
  | _ => []

/-- The operations that were started and whose completion has not been processed. -/
def inFlight (call : WirelessCall ρ ε) : List StreamOperation :=
  ProcessorStage.held call.processor ++ call.outstanding

def inFlightWith (call : WirelessCall ρ ε) (opType : OperationType) : Nat :=
  call.inFlight.countP fun op => op.tag = opType

/-- A call that is served has one read in flight, and a write when it is `PROCESSING`. -/
structure Accounted (call : WirelessCall ρ ε) : Prop where
  present : call.deletions = 0
  running : call.status ≠ .finish
  reads : call.inFlightWith .read = 1
  writes : call.inFlightWith .write = if call.status = .processing then 1 else 0

/-- The call is served, or stopped with nothing outstanding, or gone. -/
inductive Ordered : WirelessCall ρ ε → Prop
  | served {call : WirelessCall ρ ε} (accounted : Accounted call)
      (stage : call.processor = .next ∨ ∃ op ok, call.processor = .returned op ok) : Ordered call
  | ending {call : WirelessCall ρ ε} (present : call.deletions = 0)
      (finished : call.status = .finish) (nothing : call.outstanding = [])
      (stage : (∃ op, call.processor = .stopped op) ∨ call.processor = .deleting) : Ordered call
  | gone {call : WirelessCall ρ ε} (deleted : call.deletions = 1) (nothing : call.outstanding = [])
      (stage : call.processor = .next) : Ordered call

section Steps

variable {call call' : WirelessCall ρ ε}

theorem ordered_init (cbHandler : Bool) : Ordered (init ρ ε cbHandler) :=
  .served ⟨rfl, ClientCallState.noConfusion, rfl, rfl⟩ (.inl rfl)

/-- A write that is started is in flight. -/
theorem accounted_written (accounted : Accounted call) (notProcessing : call.status ≠ .processing)
    (stage : call'.processor = call.processor) (present : call'.deletions = call.deletions)
    (started : call'.outstanding = call.outstanding ++ [.write])
    (processing : call'.status = .processing) : Accounted call' := by
  have writing : ∀ opType, call'.inFlightWith opType =
      call.inFlightWith opType + if OperationType.write = opType then 1 else 0 := by
    intro opType
    rw [inFlightWith, inFlight, stage, started, ← List.append_assoc, List.countP_append]
    by_cases isWrite : OperationType.write = opType <;>
      simp [inFlightWith, inFlight, isWrite]
  have read := writing .read
  have write := writing .write
  rw [accounted.reads] at read
  rw [accounted.writes, if_neg notProcessing] at write
  exact ⟨present.trans accounted.present, by simp [processing], by simpa using read,
    by simpa [processing] using write⟩

/-- An operation that was processed is not in flight, and what was started meanwhile is. -/
theorem accounted_processed {op : StreamOperation} {ok : Bool} (accounted : Accounted call)
    (returned : call.processor = .returned op ok) (new : List StreamOperation)
    (idle : call'.processor = .next) (present : call'.deletions = call.deletions)
    (started : call'.outstanding = call.outstanding ++ new) (running : call'.status ≠ .finish)
    (reads : new.countP (fun op => op.tag = .read) = if op.tag = .read then 1 else 0)
    (writes : new.countP (fun op => op.tag = .write) + (if call.status = .processing then 1 else 0) =
      (if call'.status = .processing then 1 else 0) + if op.tag = .write then 1 else 0) :
    Accounted call' := by
  have processed : ∀ opType, call'.inFlightWith opType + (if op.tag = opType then 1 else 0) =
      call.inFlightWith opType + new.countP fun op => op.tag = opType := by
    intro opType
    simp only [inFlightWith, inFlight, returned, idle, started, ProcessorStage.held,
      List.countP_append, List.countP_singleton, List.countP_nil, decide_eq_true_eq]
    omega
  have read := processed .read
  have write := processed .write
  rw [accounted.reads] at read
  rw [accounted.writes] at write
  exact ⟨present.trans accounted.present, running, by omega, by omega⟩

/-- Outside `PROCESSING` only a read can come back. -/
theorem tag_eq_read {op : StreamOperation} {ok : Bool} (accounted : Accounted call)
    (returned : call.processor = .returned op ok) (notProcessing : call.status ≠ .processing) :
    op.tag = .read := by
  have writes := accounted.writes
  rw [if_neg notProcessing, inFlightWith, List.countP_eq_zero] at writes
  have notWrite := writes op (by simp [inFlight, returned, ProcessorStage.held])
  cases op with
  | startCall => rfl
  | read => rfl
  | write => exact absurd rfl notWrite

/-- Nothing but reads and writes can be in flight. -/
theorem nothing_of_counts (noRead : call.outstanding.countP (fun op => op.tag = .read) = 0)
    (noWrite : call.outstanding.countP (fun op => op.tag = .write) = 0) :
    call.outstanding = [] := by
  rw [List.countP_eq_zero] at noRead noWrite
  apply List.eq_nil_iff_forall_not_mem.mpr
  intro op member
  have notRead := noRead op member
  have notWrite := noWrite op member
  cases op with
  | startCall => exact notRead rfl
  | read => exact notRead rfl
  | write => exact notWrite rfl

theorem ordered_send (ordered : Ordered call) (present : call.deletions = 0) (request : ρ) :
    Ordered (call.sendWirelessManagementRequest request).2 := by
  cases ordered with
  | served accounted stage =>
      unfold sendWirelessManagementRequest
      split
      · exact .served accounted stage
      · rename_i notProcessing
        split
        · exact .served (accounted_written accounted notProcessing rfl rfl rfl rfl) stage
        · exact .served accounted stage
  | ending _ finished nothing stage =>
      have unchanged : (call.sendWirelessManagementRequest request).2 = call := by
        simp [sendWirelessManagementRequest, finished]
      rw [unchanged]
      exact .ending present finished nothing stage
  | gone deleted => exact absurd (deleted.symm.trans present) (by decide)

theorem ordered_cancelCall (ordered : Ordered call) : Ordered call.cancelCall := by
  cases ordered with
  | served accounted stage =>
      exact .served ⟨accounted.present, accounted.running, accounted.reads, accounted.writes⟩ stage
  | ending present finished nothing stage => exact .ending present finished nothing stage
  | gone deleted nothing stage => exact .gone deleted nothing stage

theorem ordered_response (ordered : Ordered call) (message : ε) :
    Ordered { call with response := some message } := by
  cases ordered with
  | served accounted stage =>
      exact .served ⟨accounted.present, accounted.running, accounted.reads, accounted.writes⟩ stage
  | ending present finished nothing stage => exact .ending present finished nothing stage
  | gone deleted nothing stage => exact .gone deleted nothing stage

/-- A completion that is returned stays in flight until it is processed. -/
theorem ordered_complete {op : StreamOperation} {ok : Bool} (ordered : Ordered call)
    (returned : call.complete op ok = some call') : Ordered call' := by
  unfold complete at returned
  split at returned
  · rename_i ready
    obtain ⟨idle, started⟩ := ready
    cases returned
    cases ordered with
    | served accounted _ =>
        have same : ∀ opType, (op :: call.outstanding.erase op).countP (fun op => op.tag = opType) =
            call.inFlightWith opType := by
          intro opType
          rw [inFlightWith, inFlight, idle]
          exact (List.perm_cons_erase started).symm.countP_eq _
        refine .served ⟨accounted.present, accounted.running, ?_, ?_⟩ (.inr ⟨op, ok, rfl⟩)
        · exact (same .read).trans accounted.reads
        · exact (same .write).trans accounted.writes
    | ending _ _ nothing _ => rw [nothing] at started; cases started
    | gone _ nothing _ => rw [nothing] at started; cases started
  · cases returned

/-- A completion that did not fail: what it brings back is started again, but for a write,
and a write leaves the state `PROCESSING`. -/
theorem ordered_proceed {op : StreamOperation} (accounted : Accounted call)
    (returned : call.processor = .returned op true)
    (processed : call.completionQueueProcessor = some call') : Ordered call' := by
  simp only [completionQueueProcessor, returned, proceed] at processed
  cases status : call.status with
  | connecting =>
      have tag := tag_eq_read accounted returned (by simp [status])
      simp only [status, if_true, Option.some.injEq] at processed
      subst processed
      exact .served (accounted_processed accounted returned [.read] rfl rfl rfl (by simp)
        (by simp [tag]) (by simp [tag, status])) (.inl rfl)
  | waiting =>
      have tag := tag_eq_read accounted returned (by simp [status])
      simp only [status, tag, if_true, Option.some.injEq] at processed
      subst processed
      exact .served (accounted_processed accounted returned [.read] rfl rfl rfl
        (by simp [readFinished, status]) (by simp [tag])
        (by simp [tag, readFinished, status])) (.inl rfl)
  | processing =>
      cases op with
      | write =>
          simp only [status, StreamOperation.tag_write, reduceCtorEq, if_true, if_false,
            Option.some.injEq] at processed
          subst processed
          exact .served (accounted_processed accounted returned [] rfl rfl (by simp) (by simp)
            (by simp) (by simp [status])) (.inl rfl)
      | startCall =>
          simp only [status, StreamOperation.tag_startCall, if_true, Option.some.injEq] at processed
          subst processed
          exact .served (accounted_processed accounted returned [.read] rfl rfl rfl
            (by simp [readFinished, status]) (by simp)
            (by simp [readFinished, status])) (.inl rfl)
      | read =>
          simp only [status, StreamOperation.tag_read, if_true, Option.some.injEq] at processed
          subst processed
          exact .served (accounted_processed accounted returned [.read] rfl rfl rfl
            (by simp [readFinished, status]) (by simp)
            (by simp [readFinished, status])) (.inl rfl)
  | finish => exact absurd status accounted.running

/-- A completion that failed, outside `PROCESSING`: the read was all there was. -/
theorem ordered_stop {op : StreamOperation} (accounted : Accounted call)
    (returned : call.processor = .returned op false) (notProcessing : call.status ≠ .processing) :
    Ordered { call.stop with processor := .stopped op } := by
  have tag := tag_eq_read accounted returned notProcessing
  have reads := accounted.reads
  have writes := accounted.writes
  rw [if_neg notProcessing] at writes
  simp only [inFlightWith, inFlight, returned, ProcessorStage.held, List.countP_append,
    List.countP_singleton, tag, decide_true, if_true] at reads writes
  have nothing : call.outstanding = [] := nothing_of_counts (by omega) (by omega)
  exact .ending accounted.present rfl nothing (.inl ⟨op, rfl⟩)

theorem ordered_processor (ordered : Ordered call) (quiet : QuietStop call .process)
    (processed : call.completionQueueProcessor = some call') : Ordered call' := by
  cases ordered with
  | served accounted stage =>
      rcases stage with idle | ⟨op, ok, returned⟩
      · simp [completionQueueProcessor, idle] at processed
      · cases ok with
        | true => exact ordered_proceed accounted returned processed
        | false =>
            simp only [completionQueueProcessor, returned, Option.some.injEq] at processed
            subst processed
            exact ordered_stop accounted returned (quiet rfl op returned)
  | ending present finished nothing stage =>
      rcases stage with ⟨op, stopped⟩ | deleting
      · simp only [completionQueueProcessor, stopped, proceed, finished, Option.some.injEq] at processed
        subst processed
        exact .ending present rfl nothing (.inr rfl)
      · simp only [completionQueueProcessor, deleting, present, Option.some.injEq] at processed
        subst processed
        exact .gone rfl nothing rfl
  | gone _ _ idle => simp [completionQueueProcessor, idle] at processed

theorem ordered_step {event : Event ρ ε} (ordered : Ordered call) (quiet : QuietStop call event)
    (stepped : call.step event = some call') : Ordered call' := by
  cases event with
  | send request =>
      simp only [step] at stepped
      split at stepped
      · rename_i present
        cases stepped
        exact ordered_send ordered present request
      · cases stepped
  | cancel =>
      simp only [step] at stepped
      split at stepped
      · cases stepped
        exact ordered_cancelCall ordered
      · cases stepped
  | started ok => exact ordered_complete ordered stepped
  | read message =>
      cases message with
      | none => exact ordered_complete ordered stepped
      | some message => exact ordered_complete (ordered_response ordered message) stepped
  | wrote ok => exact ordered_complete ordered stepped
  | process => exact ordered_processor ordered quiet stepped

end Steps

/-! ## Runs -/

section Runs

variable {call call' : WirelessCall ρ ε} {cbHandler : Bool}

theorem ordered_of_reached
    (reached : Reached step QuietStop (init ρ ε cbHandler) call) : Ordered call :=
  reached.invariant _ (ordered_init cbHandler) fun _ _ _ ordered quiet stepped =>
    ordered_step ordered quiet stepped

/-- **When a deleted call has nothing outstanding.**  In every run that never stops the call
while a write is on its way: until it is deleted there is an operation in flight, it is
deleted once, and then no operation of it is outstanding or returned. -/
theorem deleted_with_nothing_outstanding
    (reached : Reached step QuietStop (init ρ ε cbHandler) call) :
    (call.deletions = 0 ∧ (call.outstanding ≠ [] ∨ call.processor ≠ .next)) ∨
      (call.deletions = 1 ∧ call.outstanding = [] ∧ call.processor = .next) := by
  cases ordered_of_reached reached with
  | served accounted stage =>
      refine .inl ⟨accounted.present, ?_⟩
      rcases stage with idle | ⟨op, ok, returned⟩
      · refine .inl ?_
        intro nothing
        have reads := accounted.reads
        simp [inFlightWith, inFlight, idle, nothing, ProcessorStage.held] at reads
      · exact .inr (by simp [returned])
  | ending present _ _ stage =>
      refine .inl ⟨present, .inr ?_⟩
      rcases stage with ⟨op, stopped⟩ | deleting
      · simp [stopped]
      · simp [deleting]
  | gone deleted nothing idle => exact .inr ⟨deleted, nothing, idle⟩

/-- A message is received, and then the stream breaks. -/
theorem deleted_with_nothing_outstanding_broken :
    ∃ call : WirelessCall Unit Unit,
      Reached step QuietStop (init Unit Unit true) call ∧ call.handled = [some ()] ∧
        (call.deletions = 1 ∧ call.outstanding = [] ∧ call.processor = .next) := by
  have reached : Reached step QuietStop (init Unit Unit true) _ :=
    .of_script (fun call _ => call.status ≠ .processing)
      (fun _ _ quiet _ _ _ => of_decide_eq_true quiet)
      [.started true, .process, .read (some ()), .process, .read none, .process, .process, .process]
      rfl
  refine ⟨_, reached, rfl, ?_⟩
  exact (deleted_with_nothing_outstanding reached).resolve_left fun before => by cases before.1

/-- Wherever the condition fails, the call is deleted too early: the processor goes on to
delete it, and what is in flight besides the failed completion comes back later. -/
theorem deleted_with_one_outstanding {op : StreamOperation}
    (reached : Reached step QuietStop (init ρ ε cbHandler) call)
    (returned : call.processor = .returned op false) (processing : call.status = .processing) :
    ∃ call', script step [.process, .process, .process] call = some call' ∧
      call'.deletions = 1 ∧ call'.outstanding ≠ [] := by
  cases ordered_of_reached reached with
  | served accounted stage =>
      have another : call.outstanding ≠ [] := by
        intro nothing
        have reads := accounted.reads
        have writes := accounted.writes
        rw [if_pos processing] at writes
        simp only [inFlightWith, inFlight, returned, ProcessorStage.held, nothing] at reads writes
        cases op <;> simp at reads writes
      exact ⟨{ call with status := .finish, processor := .next, deletions := call.deletions + 1 },
        by simp [script, step, completionQueueProcessor, returned, proceed, stop],
        by simp [accounted.present], another⟩
  | ending _ finished => exact absurd (finished.symm.trans processing) (by decide)
  | gone _ _ idle => exact absurd (idle.symm.trans returned) (by simp)

/-- A request is being written when the read fails. -/
theorem deleted_while_writing :
    ¬ ∀ call : WirelessCall Unit Unit, Reached step (fun _ _ => True) (init Unit Unit true) call →
      call.deletions ≤ 1 ∧ (call.deletions ≠ 0 → call.outstanding = []) := by
  intro claimed
  have reached : Reached step (fun _ _ => True) (init Unit Unit true) _ :=
    .of_any [.started true, .process, .send (), .read none, .process, .process, .process] rfl
  have nothing := (claimed _ reached).2 (by decide)
  cases nothing

end Runs

end WirelessCall

end OmmoSdk.Client
