/-
# Client.WirelessTraffic — the requests and events of a wireless call

One status variable of a wireless call says both whether the call is connected and whether
a write is on its way.  As long as it is not `FINISH` it says the second rightly, whoever
sends and in whatever order the completions come back (`operations_never_overlap`).

It loses the first when a request is sent too early: the write makes it `PROCESSING`, and
the completion of `StartCall`, which comes under the tag of a read, is then taken for a
received event.  `OpenedCall` is a call with the events that its reads brought back, and
with the constructor followed up to where it sets `listener_active`.  `events_reported` says
for which runs the callback is given exactly these events.
-/
import OmmoSdk.Client.WirelessCall

namespace OmmoSdk.Client

open OmmoSdk.Theory

set_option autoImplicit false

namespace WirelessCall

variable {ρ ε : Type}

/-! ## One read and at most one write -/

/-- A call that the completion queue thread serves. -/
structure Served (call : WirelessCall ρ ε) : Prop where
  accounted : Accounted call
  stage : call.processor = .next ∨ ∃ op ok, call.processor = .returned op ok

/-- What the status says about the operations in flight. -/
structure OneEach (call : WirelessCall ρ ε) : Prop where
  writing : call.status = .processing ↔ call.inFlightWith .write = 1
  notWriting : call.status ≠ .processing → call.inFlightWith .write = 0
  reading : call.inFlightWith .read = 1

section Steps

variable {call call' : WirelessCall ρ ε} {cbHandler : Bool}

theorem Accounted.oneEach (accounted : Accounted call) : call.OneEach := by
  have writes := accounted.writes
  refine ⟨?_, ?_, accounted.reads⟩
  · by_cases processing : call.status = .processing
    · rw [if_pos processing] at writes
      exact iff_of_true processing writes
    · rw [if_neg processing] at writes
      exact iff_of_false processing (by omega)
  · intro notProcessing
    rwa [if_neg notProcessing] at writes

theorem served_of_ordered (ordered : Ordered call) (present : call.deletions = 0) :
    call.status = .finish ∨ Served call := by
  cases ordered with
  | served accounted stage => exact .inr ⟨accounted, stage⟩
  | ending _ finished => exact .inl finished
  | gone deleted => exact absurd (deleted.symm.trans present) (by decide)

@[simp] theorem proceed_deletions (opType : OperationType) :
    (call.proceed opType).2.deletions = call.deletions := by
  unfold proceed
  split
  · rfl
  · simp only
    split <;> rfl
  · simp only
    split
    · rfl
    · split <;> rfl
  · rfl

theorem complete_frame {op : StreamOperation} {ok : Bool}
    (returned : call.complete op ok = some call') :
    call.processor = .next ∧ op ∈ call.outstanding ∧
      call' = { call with
        outstanding := call.outstanding.erase op, processor := .returned op ok } := by
  unfold complete at returned
  split at returned
  · rename_i ready
    cases returned
    exact ⟨ready.1, ready.2, rfl⟩
  · cases returned

/-- A call is deleted by the thread that comes to it. -/
theorem Served.present_step {event : Event ρ ε} (served : Served call)
    (stepped : call.step event = some call') : call'.deletions = 0 := by
  have present := served.accounted.present
  cases event with
  | send request =>
      simp only [step, present, if_true, Option.some.injEq] at stepped
      subst stepped
      unfold sendWirelessManagementRequest
      split
      · exact present
      · split <;> exact present
  | cancel =>
      simp only [step, present, if_true, Option.some.injEq] at stepped
      subst stepped
      exact present
  | started ok | wrote ok =>
      obtain ⟨-, -, rfl⟩ := complete_frame stepped
      exact present
  | read message =>
      cases message with
      | none =>
          obtain ⟨-, -, rfl⟩ := complete_frame stepped
          exact present
      | some message =>
          obtain ⟨-, -, rfl⟩ := complete_frame stepped
          exact present
  | process =>
      rcases served.stage with idle | ⟨op, ok, returned⟩
      · simp [step, completionQueueProcessor, idle] at stepped
      · cases ok with
        | true =>
            simp only [step, completionQueueProcessor, returned, Option.some.injEq] at stepped
            subst stepped
            exact (proceed_deletions op.tag).trans present
        | false =>
            simp only [step, completionQueueProcessor, returned, Option.some.injEq] at stepped
            subst stepped
            exact present

/-- **One step of a call that is served**, or its end. -/
theorem Served.step {event : Event ρ ε} (served : Served call)
    (stepped : call.step event = some call') : call'.status = .finish ∨ Served call' := by
  by_cases quiet : QuietStop call event
  · exact served_of_ordered (ordered_step (.served served.accounted served.stage) quiet stepped)
      (served.present_step stepped)
  · simp only [QuietStop, not_forall] at quiet
    obtain ⟨rfl, op, returned, -⟩ := quiet
    simp only [WirelessCall.step, completionQueueProcessor, returned, Option.some.injEq] at stepped
    subst stepped
    exact .inl rfl

/-- **After `Stop`** the call stays stopped and starts no operation. -/
theorem finished_step {event : Event ρ ε} (finished : call.status = .finish)
    (stepped : call.step event = some call') :
    call'.status = .finish ∧ call'.written = call.written ∧
      call'.outstanding.Sublist call.outstanding := by
  cases event with
  | send request =>
      simp only [step] at stepped
      split at stepped
      · cases stepped
        simp [sendWirelessManagementRequest, finished]
      · cases stepped
  | cancel =>
      simp only [step] at stepped
      split at stepped
      · cases stepped
        exact ⟨finished, rfl, List.Sublist.refl _⟩
      · cases stepped
  | started ok | wrote ok =>
      obtain ⟨-, -, rfl⟩ := complete_frame stepped
      exact ⟨finished, rfl, List.erase_sublist⟩
  | read message =>
      cases message with
      | none =>
          obtain ⟨-, -, rfl⟩ := complete_frame stepped
          exact ⟨finished, rfl, List.erase_sublist⟩
      | some message =>
          obtain ⟨-, -, rfl⟩ := complete_frame stepped
          exact ⟨finished, rfl, List.erase_sublist⟩
  | process =>
      simp only [step, completionQueueProcessor, proceed, finished] at stepped
      split at stepped
      · cases stepped
      all_goals
        cases stepped
        exact ⟨rfl, rfl, List.Sublist.refl _⟩

theorem served_init : Served (init ρ ε cbHandler) :=
  ⟨⟨rfl, ClientCallState.noConfusion, rfl, rfl⟩, .inl rfl⟩

theorem served_of_reached
    (reached : Reached step (fun _ _ => True) (init ρ ε cbHandler) call) :
    call.status = .finish ∨ Served call := by
  refine reached.invariant (fun call => call.status = .finish ∨ Served call) (.inr served_init) ?_
  rintro before after event (finished | served) - stepped
  · exact .inl (finished_step finished stepped).1
  · exact served.step stepped

/-- A request is written, or refused without any effect. -/
theorem send_issues (call : WirelessCall ρ ε) (request : ρ) :
    ((call.sendWirelessManagementRequest request).1 = true ↔
        (call.sendWirelessManagementRequest request).2.outstanding = call.outstanding ++ [.write]) ∧
      ((call.sendWirelessManagementRequest request).1 = false →
        (call.sendWirelessManagementRequest request).2 = call) := by
  unfold sendWirelessManagementRequest
  split
  · simp
  · split <;> simp

/-- **A wireless call never overlaps two writes or two reads.**  In every state of every run
that is not stopped, a write is in flight exactly in the state `PROCESSING`, and one operation
with the tag of a read; a request is accepted exactly when a write is started for it; and a
stopped call starts nothing. -/
theorem operations_never_overlap
    (reached : Reached step (fun _ _ => True) (init ρ ε cbHandler) call) :
    (call.status ≠ .finish → call.OneEach) ∧
      (∀ request,
        ((call.sendWirelessManagementRequest request).1 = true ↔
            (call.sendWirelessManagementRequest request).2.outstanding =
              call.outstanding ++ [.write]) ∧
          ((call.sendWirelessManagementRequest request).1 = false →
            (call.sendWirelessManagementRequest request).2 = call)) ∧
      (call.status = .finish → ∀ event call', call.step event = some call' →
        call'.status = .finish ∧ call'.written = call.written ∧
          call'.outstanding.Sublist call.outstanding) := by
  refine ⟨?_, send_issues call, fun finished event call' => finished_step finished⟩
  intro running
  exact ((served_of_reached reached).resolve_left running).accounted.oneEach

/-- A request is sent before the call is connected, and a second one after it was written. -/
theorem operations_never_overlap_early :
    ∃ call : WirelessCall Bool Unit,
      Reached step (fun _ _ => True) (init Bool Unit true) call ∧ call.written = [true, false] ∧
        call.OneEach := by
  have reached : Reached step (fun _ _ => True) (init Bool Unit true) _ :=
    .of_any [.send true, .wrote true, .process, .send false, .started true, .process] rfl
  exact ⟨_, reached, rfl, (operations_never_overlap reached).1 (by decide)⟩

end Steps

/-! ## Which completion is that of `StartCall` -/

/-- The status tells the start of the call from a read. -/
def Tagged (call : WirelessCall ρ ε) : Prop :=
  ∀ op ∈ call.inFlight, op.tag = .read → (op = .startCall ↔ call.status = .connecting)

section Tagged

variable {call call' : WirelessCall ρ ε} {op : StreamOperation}

theorem inFlight_complete {ok : Bool} (returned : call.complete op ok = some call')
    (other : StreamOperation) : other ∈ call'.inFlight ↔ other ∈ call.inFlight := by
  obtain ⟨idle, started, rfl⟩ := complete_frame returned
  simp only [inFlight, idle, ProcessorStage.held]
  exact (List.perm_cons_erase started).symm.mem_iff

theorem Tagged.complete {ok : Bool} (tagged : Tagged call)
    (returned : call.complete op ok = some call') : Tagged call' := by
  intro other there
  have same : call'.status = call.status := by
    obtain ⟨-, -, rfl⟩ := complete_frame returned
    rfl
  rw [same]
  exact tagged other ((inFlight_complete returned other).mp there)

/-- With a read at the processor, no other is outstanding. -/
theorem no_read_outstanding {ok : Bool} (accounted : Accounted call)
    (returned : call.processor = .returned op ok) (tag : op.tag = .read) {other : StreamOperation}
    (outstanding : other ∈ call.outstanding) : other.tag ≠ .read := by
  have reads := accounted.reads
  simp only [inFlightWith, inFlight, returned, ProcessorStage.held, List.countP_append,
    List.countP_singleton, tag, decide_true, if_true] at reads
  have none : call.outstanding.countP (fun op => op.tag = .read) = 0 := by omega
  simpa using List.countP_eq_zero.mp none other outstanding

/-- A completion with `ok` that is processed. -/
theorem Tagged.proceed (tagged : Tagged call) (accounted : Accounted call)
    (returned : call.processor = .returned op true) :
    Tagged { (call.proceed op.tag).2 with processor := .next } := by
  have others : op.tag = .read → ∀ other ∈ call.outstanding ++ [.read], other.tag = .read →
      other = .read := by
    intro tag other there reading
    rcases List.mem_append.mp there with outstanding | new
    · exact absurd reading (no_read_outstanding accounted returned tag outstanding)
    · exact List.mem_singleton.mp new
  intro other there reading
  unfold WirelessCall.proceed at there ⊢
  cases status : call.status with
  | connecting =>
      have tag := tag_eq_read accounted returned (by simp [status])
      simp only [status] at there ⊢
      rw [others tag other there reading]
      simp
  | waiting =>
      have tag := tag_eq_read accounted returned (by simp [status])
      simp only [status, tag, if_true] at there ⊢
      rw [others tag other there reading]
      simp [readFinished, status]
  | processing =>
      by_cases tag : op.tag = .read
      · simp only [status, tag, if_true] at there ⊢
        rw [others tag other there reading]
        simp [readFinished, status]
      · have write : op = .write := by
          cases op with
          | startCall => exact absurd rfl tag
          | read => exact absurd rfl tag
          | write => rfl
        subst write
        simp only [status, StreamOperation.tag_write, reduceCtorEq, if_true, if_false] at there ⊢
        have before := tagged other (by simp [inFlight, returned, ProcessorStage.held]; exact .inr there)
          reading
        rw [status] at before
        simpa using before
  | finish => exact absurd status accounted.running

/-- **What `Proceed` gives to the callback**: the message of a completed read, as long as the
listener is active, and nothing else. -/
theorem handled_proceed (tagged : Tagged call) (accounted : Accounted call)
    (returned : call.processor = .returned op true) :
    (call.proceed op.tag).2.handled =
      if op = .read ∧ (call.cbHandler && call.listenerActive) = true then
        call.handled ++ [call.response]
      else call.handled := by
  have there : op ∈ call.inFlight := by simp [inFlight, returned, ProcessorStage.held]
  cases op with
  | startCall =>
      have connecting := (tagged _ there rfl).mp rfl
      simp [proceed, connecting]
  | read =>
      have connected : call.status ≠ .connecting := fun connecting => by
        have start := (tagged _ there rfl).mpr connecting
        cases start
      cases status : call.status with
      | connecting => exact absurd status connected
      | waiting | processing => simp [WirelessCall.proceed, status, readFinished]
      | finish => exact absurd status accounted.running
  | write =>
      have processing : call.status = .processing := by
        by_contra other
        have tag := tag_eq_read accounted returned other
        cases tag
      simp [proceed, processing]

end Tagged

/-! ## The listener -/

section Listener

variable {call call' : WirelessCall ρ ε}

theorem proceed_listener (opType : OperationType) :
    (call.proceed opType).2.cbHandler = call.cbHandler ∧
      (call.proceed opType).2.tryCancel = call.tryCancel ∧
      (call.proceed opType).2.listenerActive = call.listenerActive := by
  unfold proceed
  split
  · exact ⟨rfl, rfl, rfl⟩
  · simp only
    split <;> exact ⟨rfl, rfl, rfl⟩
  · simp only
    split
    · exact ⟨rfl, rfl, rfl⟩
    · split <;> exact ⟨rfl, rfl, rfl⟩
  · exact ⟨rfl, rfl, rfl⟩

/-- Only a cancel makes the listener inactive. -/
theorem listener_step {event : Event ρ ε} (stepped : call.step event = some call') :
    call'.cbHandler = call.cbHandler ∧
      (call'.tryCancel = true ∨
        call'.tryCancel = call.tryCancel ∧ call'.listenerActive = call.listenerActive) := by
  cases event with
  | send request =>
      simp only [step] at stepped
      split at stepped
      · cases stepped
        unfold sendWirelessManagementRequest
        split
        · exact ⟨rfl, .inr ⟨rfl, rfl⟩⟩
        · split <;> exact ⟨rfl, .inr ⟨rfl, rfl⟩⟩
      · cases stepped
  | cancel =>
      simp only [step] at stepped
      split at stepped
      · cases stepped
        exact ⟨rfl, .inl rfl⟩
      · cases stepped
  | started ok | wrote ok =>
      obtain ⟨-, -, rfl⟩ := complete_frame stepped
      exact ⟨rfl, .inr ⟨rfl, rfl⟩⟩
  | read message =>
      cases message with
      | none =>
          obtain ⟨-, -, rfl⟩ := complete_frame stepped
          exact ⟨rfl, .inr ⟨rfl, rfl⟩⟩
      | some message =>
          obtain ⟨-, -, rfl⟩ := complete_frame stepped
          exact ⟨rfl, .inr ⟨rfl, rfl⟩⟩
  | process =>
      simp only [step, completionQueueProcessor] at stepped
      split at stepped
      · cases stepped
      · cases stepped
        exact ⟨rfl, .inr ⟨rfl, rfl⟩⟩
      · cases stepped
        exact ⟨(proceed_listener _).1, .inr (proceed_listener _).2⟩
      · cases stepped
        exact ⟨(proceed_listener _).1, .inr (proceed_listener _).2⟩
      · cases stepped
        exact ⟨rfl, .inr ⟨rfl, rfl⟩⟩

end Listener

end WirelessCall

/-! ## The constructor, and the events that were received -/

structure OpenedCall (ρ ε : Type) where
  call : WirelessCall ρ ε
  /-- the constructor has returned, so that a manager can have the pointer -/
  constructed : Bool
  /-- what the reads brought back -/
  received : List ε

namespace OpenedCall

open WirelessCall

variable {ρ ε : Type}

/-- The constructor up to `StartCall`, with a callback. -/
def start (ρ ε : Type) : OpenedCall ρ ε where
  call := { WirelessCall.init ρ ε true with listenerActive := false }
  constructed := false
  received := []

inductive Label (ρ ε : Type) where
  | construct
  | event (event : WirelessCall.Event ρ ε)
  deriving DecidableEq, Repr

/-- The steps of those who have the pointer. -/
def byUser : WirelessCall.Event ρ ε → Bool
  | .send _ | .cancel => true
  | _ => false

def message : WirelessCall.Event ρ ε → Option ε
  | .read message => message
  | _ => none

def step (s : OpenedCall ρ ε) : Label ρ ε → Option (OpenedCall ρ ε)
  | .construct =>
      if s.constructed then none
      else some { s with
        call := { s.call with
          listenerActive := if s.call.cbHandler then true else s.call.listenerActive }
        constructed := true }
  | .event event =>
      if byUser event && !s.constructed then none
      else (s.call.step event).map fun call =>
        { s with call := call, received := s.received ++ (message event).toList }

/-- The message that a completed read has brought and `Proceed` has not yet seen. -/
def pending (call : WirelessCall ρ ε) : List (Option ε) :=
  match call.processor with
  | .returned .read true => [call.response]
  | _ => []

/-- **What the callback should have been given**: every event received, in order. -/
def Reports (s : OpenedCall ρ ε) : Prop :=
  s.call.tryCancel = false → s.call.status ≠ .finish →
    s.call.handled ++ pending s.call = s.received.map some

/-- No request is sent before the completion of `StartCall` is processed, and no event is
processed before the constructor has set the listener. -/
def Prompt (s : OpenedCall ρ ε) : Label ρ ε → Prop
  | .event (.send _) => s.call.status ≠ .connecting
  | .event .process => s.call.processor = .returned .read true → s.constructed = true
  | _ => True

instance (s : OpenedCall ρ ε) : ∀ label, Decidable (s.Prompt label)
  | .event (.send _) => inferInstanceAs (Decidable (_ ≠ _))
  | .event .process => inferInstanceAs (Decidable (_ → _))
  | .construct | .event .cancel | .event (.started _) | .event (.read _) | .event (.wrote _) =>
      isTrue trivial

/-! ## Runs of an opened call -/

/-- What holds in every prompt run. -/
structure Heard (s : OpenedCall ρ ε) : Prop where
  served : s.call.status = .finish ∨ Served s.call
  tagged : s.call.status ≠ .finish → Tagged s.call
  cbHandler : s.call.cbHandler = true
  listens : s.constructed = true → s.call.tryCancel = false → s.call.listenerActive = true
  reports : s.Reports

section Steps

variable {s s' : OpenedCall ρ ε} {call call' : WirelessCall ρ ε}

theorem heard_start : Heard (start ρ ε) where
  served := .inr ⟨⟨rfl, ClientCallState.noConfusion, rfl, rfl⟩, .inl rfl⟩
  tagged _ := by
    intro op there _
    have start : op = .startCall := List.mem_singleton.mp there
    simp [start, OpenedCall.start, WirelessCall.init]
  cbHandler := rfl
  listens constructed := by cases constructed
  reports _ _ := rfl

theorem tagged_step {event : WirelessCall.Event ρ ε} (tagged : Tagged call) (served : Served call)
    (connected : ∀ request, event = .send request → call.status ≠ .connecting)
    (running : call'.status ≠ .finish) (stepped : call.step event = some call') : Tagged call' := by
  cases event with
  | send request =>
      simp only [WirelessCall.step, served.accounted.present, if_true, Option.some.injEq] at stepped
      subst stepped
      unfold sendWirelessManagementRequest at running ⊢
      split
      · exact tagged
      · split
        · intro op there reading
          have before : op ∈ call.inFlight := by
            simp only [inFlight, ← List.append_assoc, List.mem_append, List.mem_singleton] at there ⊢
            rcases there with there | rfl
            · exact there
            · cases reading
          have connecting := tagged op before reading
          simp only [connected request rfl, iff_false] at connecting
          simp [connecting]
        · exact tagged
  | cancel =>
      simp only [WirelessCall.step, served.accounted.present, if_true, Option.some.injEq] at stepped
      subst stepped
      exact tagged
  | started ok | wrote ok => exact tagged.complete stepped
  | read message =>
      cases message with
      | none => exact tagged.complete stepped
      | some message =>
          have same : Tagged ({ call with response := some message } : WirelessCall ρ ε) := tagged
          exact same.complete stepped
  | process =>
      simp only [WirelessCall.step, completionQueueProcessor] at stepped
      rcases served.stage with idle | ⟨op, ok, returned⟩
      · simp [idle] at stepped
      · cases ok with
        | true =>
            have ok : (call.proceed op.tag).1 = true := by
              unfold WirelessCall.proceed
              cases status : call.status with
              | finish => exact absurd status served.accounted.running
              | connecting | waiting | processing => rfl
            simp only [returned, ok, if_true, Option.some.injEq] at stepped
            subst stepped
            exact tagged.proceed served.accounted returned
        | false =>
            simp only [returned, Option.some.injEq] at stepped
            subst stepped
            exact absurd rfl running

@[simp] theorem pending_next (idle : call.processor = .next) : pending call = [] := by
  simp [pending, idle]

/-- A completion is returned: only that of a read with `ok` brings a message. -/
theorem pending_complete {op : StreamOperation} {ok : Bool}
    (returned : call.complete op ok = some call') :
    call.handled ++ pending call = call.handled ∧ call'.handled = call.handled ∧
      pending call' = if op = .read ∧ ok = true then [call.response] else [] := by
  obtain ⟨idle, -, rfl⟩ := complete_frame returned
  refine ⟨by simp [idle], rfl, ?_⟩
  cases op <;> cases ok <;> simp [pending]

/-- The processor hands over what is pending. -/
theorem handled_process {op : StreamOperation} (tagged : Tagged call) (served : Served call)
    (returned : call.processor = .returned op true)
    (listens : op = .read → (call.cbHandler && call.listenerActive) = true) :
    (call.proceed op.tag).2.handled = call.handled ++ pending call := by
  rw [handled_proceed tagged served.accounted returned]
  by_cases read : op = .read
  · subst read
    rw [if_pos ⟨rfl, listens rfl⟩]
    simp [pending, returned]
  · rw [if_neg fun both => read both.1]
    cases op with
    | read => exact absurd rfl read
    | startCall | write => simp [pending, returned]

/-- **A completed read is reported**, and nothing else is. -/
theorem reports_event {event : WirelessCall.Event ρ ε} (heard : Heard s)
    (prompt : s.Prompt (.event event)) (stepped : s.call.step event = some call')
    (live : s.call.tryCancel = false) (uncancelled : event ≠ .cancel)
    (running : s.call.status ≠ .finish) (runs : call'.status ≠ .finish) :
    call'.handled ++ pending call' = (s.received ++ (message event).toList).map some := by
  have before := heard.reports live running
  have served := heard.served.resolve_left running
  cases event with
  | send request =>
      simp only [WirelessCall.step, served.accounted.present, if_true, Option.some.injEq] at stepped
      subst stepped
      have same : (s.call.sendWirelessManagementRequest request).2.handled = s.call.handled ∧
          pending (s.call.sendWirelessManagementRequest request).2 = pending s.call := by
        unfold sendWirelessManagementRequest
        split
        · exact ⟨rfl, rfl⟩
        · split <;> exact ⟨rfl, rfl⟩
      rw [same.1, same.2, before]
      simp [message]
  | cancel => exact absurd rfl uncancelled
  | started ok | wrote ok =>
      obtain ⟨idle, handled, after⟩ := pending_complete stepped
      rw [handled, after, ← idle, before]
      simp [message]
  | read received =>
      cases received with
      | none =>
          obtain ⟨idle, handled, after⟩ := pending_complete stepped
          rw [handled, after, ← idle, before]
          simp [message]
      | some received =>
          obtain ⟨-, handled, after⟩ := pending_complete stepped
          have idle : s.call.processor = .next := (complete_frame stepped).1
          have same : s.call.handled = s.received.map some := by simpa [idle] using before
          rw [handled, after, if_pos ⟨rfl, rfl⟩, same]
          simp [message]
  | process =>
      rcases served.stage with idle | ⟨op, ok, returned⟩
      · simp [WirelessCall.step, completionQueueProcessor, idle] at stepped
      · cases ok with
        | true =>
            have listens : op = .read → (s.call.cbHandler && s.call.listenerActive) = true := by
              rintro rfl
              rw [heard.cbHandler, heard.listens (prompt returned) live]
              rfl
            have handled := handled_process (heard.tagged running) served returned listens
            have idle : call'.processor = .next ∧ call'.handled = (s.call.proceed op.tag).2.handled := by
              have ok : (s.call.proceed op.tag).1 = true := by
                unfold WirelessCall.proceed
                cases status : s.call.status with
                | finish => exact absurd status running
                | connecting | waiting | processing => rfl
              simp only [WirelessCall.step, completionQueueProcessor, returned, ok, if_true,
                Option.some.injEq] at stepped
              subst stepped
              exact ⟨rfl, rfl⟩
            rw [pending_next idle.1, idle.2, handled, before]
            simp [message]
        | false =>
            simp only [WirelessCall.step, completionQueueProcessor, returned, Option.some.injEq] at stepped
            subst stepped
            exact absurd rfl runs

theorem heard_step {label : Label ρ ε} (heard : Heard s) (prompt : s.Prompt label)
    (stepped : s.step label = some s') : Heard s' := by
  cases label with
  | construct =>
      simp only [step] at stepped
      split at stepped
      · cases stepped
      · cases stepped
        refine ⟨?_, heard.tagged, heard.cbHandler, ?_, heard.reports⟩
        · rcases heard.served with finished | served
          · exact .inl finished
          · exact .inr ⟨⟨served.accounted.present, served.accounted.running, served.accounted.reads,
              served.accounted.writes⟩, served.stage⟩
        · intro _ _
          simp [heard.cbHandler]
  | event event =>
      simp only [step] at stepped
      split at stepped
      · cases stepped
      · rename_i allowed
        obtain ⟨call', moved, rfl⟩ := Option.map_eq_some_iff.mp stepped
        obtain ⟨same, listener⟩ := listener_step moved
        have running : call'.status ≠ .finish → s.call.status ≠ .finish :=
          fun runs finished => runs (finished_step finished moved).1
        refine ⟨?_, ?_, same.trans heard.cbHandler, ?_, ?_⟩
        · rcases heard.served with finished | served
          · exact .inl (finished_step finished moved).1
          · exact served.step moved
        · intro runs
          refine tagged_step (heard.tagged (running runs)) (heard.served.resolve_left (running runs)) ?_
            runs moved
          rintro request rfl
          exact prompt
        · intro constructed live
          rcases listener with cancelled | ⟨cancelled, active⟩
          · rw [show call'.tryCancel = false from live] at cancelled
            cases cancelled
          · exact active.trans (heard.listens constructed (cancelled.symm.trans live))
        · intro live runs
          rcases listener with cancelled | ⟨cancelled, -⟩
          · rw [show call'.tryCancel = false from live] at cancelled
            cases cancelled
          · refine reports_event heard prompt moved (cancelled.symm.trans live) ?_ (running runs) runs
            rintro rfl
            simp only [WirelessCall.step] at moved
            split at moved
            · cases moved
              cases live
            · cases moved

end Steps

section Runs

variable {s : OpenedCall ρ ε}

theorem heard_of_reached (reached : Reached step Prompt (start ρ ε) s) : Heard s :=
  reached.invariant _ heard_start fun _ _ _ heard prompt stepped => heard_step heard prompt stepped

/-- **When the callback reports exactly the received events.**  In every run that sends no
request before the call is connected, and processes no event before the call is constructed:
while the call is neither cancelled nor stopped, the callback was given the events of the
completed reads, in order, and the completion of `StartCall` calls it in no state. -/
theorem events_reported (reached : Reached step Prompt (start ρ ε) s) :
    s.Reports ∧
      ∀ call', s.call.processor = .returned .startCall true →
        s.call.step .process = some call' → call'.handled = s.call.handled := by
  have heard := heard_of_reached reached
  refine ⟨heard.reports, ?_⟩
  intro call' returned stepped
  have same : call'.handled = (s.call.proceed .read).2.handled := by
    simp only [WirelessCall.step, completionQueueProcessor, returned, Option.some.injEq] at stepped
    subst stepped
    rfl
  rw [same]
  rcases heard.served with finished | served
  · simp [WirelessCall.proceed, finished]
  · have handled := handled_proceed (heard.tagged served.accounted.running) served.accounted returned
    rwa [if_neg (by simp)] at handled

/-- A request is written while an event is received. -/
theorem events_reported_writing :
    ∃ s : OpenedCall Unit Bool, Reached step Prompt (start Unit Bool) s ∧
      s.received = [true, false] ∧ s.Reports := by
  have reached : Reached step Prompt (start Unit Bool) _ :=
    .of_script (fun s label => decide (s.Prompt label)) (fun _ _ => of_decide_eq_true)
      [.construct, .event (.started true), .event .process, .event (.send ()), .event (.read (some true)),
        .event .process, .event (.wrote true), .event .process, .event (.read (some false))] rfl
  exact ⟨_, reached, rfl, (events_reported reached).1⟩

/-- A request is sent before the call is connected: the completion of `StartCall` calls the
callback with a message that no read has filled. -/
theorem start_reported :
    ¬ ∀ s : OpenedCall Unit Unit, Reached step (fun _ _ => True) (start Unit Unit) s → s.Reports := by
  intro claimed
  have reached : Reached step (fun _ _ => True) (start Unit Unit) _ :=
    .of_any [.construct, .event (.send ()), .event (.started true), .event .process] rfl
  have reports := claimed _ reached rfl (by decide)
  cases reports

/-- Wherever a request is sent too early, that is what comes of it. -/
theorem start_reported_of_early (reached : Reached step Prompt (start ρ ε) s)
    (constructed : s.constructed = true) (live : s.call.tryCancel = false)
    (early : s.call.status = .connecting) (idle : s.call.processor = .next) (request : ρ) :
    ∃ s', script step [.event (.send request), .event (.started true), .event .process] s = some s' ∧
      s'.call.handled = s.call.handled ++ [s.call.response] ∧ s'.received = s.received := by
  have heard := heard_of_reached reached
  have running : s.call.status ≠ .finish := by simp [early]
  have served := heard.served.resolve_left running
  have started : StreamOperation.startCall ∈ s.call.outstanding := by
    have one : 0 < s.call.inFlightWith .read := by rw [served.accounted.reads]; exact Nat.one_pos
    obtain ⟨op, there, reading⟩ := List.countP_pos_iff.mp one
    have start := (heard.tagged running op there (of_decide_eq_true reading)).mpr early
    simpa [inFlight, idle, ProcessorStage.held, start] using there
  have listens := heard.listens constructed live
  simp [script, step, byUser, message, constructed, WirelessCall.step, served.accounted.present,
    sendWirelessManagementRequest, early, complete, idle, started, completionQueueProcessor,
    WirelessCall.proceed, readFinished, heard.cbHandler, listens]

end Runs

end OpenedCall

end OmmoSdk.Client
