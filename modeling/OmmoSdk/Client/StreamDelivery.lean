/-
# Client.StreamDelivery — which messages of a stream reach the callback

The constructor of a read-only call starts the call on the shared queue before it sets
`listener_active`.  The completion queue thread can therefore come to a finished read
while the flag is still false, and `Proceed` then goes on to the next read without the
callback.

`AllDelivered` balances what was received against what the callback was given and the
message in hand.  `allDelivered_step` says that one step keeps the balance exactly if it
is not such a read, and `delivered_iff` carries this through every run without a cancel.
-/
import OmmoSdk.Client.StreamCall

namespace OmmoSdk.Client

open OmmoSdk.Theory
open OmmoSdk.Sdk

set_option autoImplicit false

namespace StreamCall

variable {μ : Type}

/-- The message of a finished read that the completion queue thread has in hand. -/
def inHand (call : StreamCall μ) : List (Option μ) :=
  match call.processor with
  | .returned .read true | .calling => [call.response]
  | _ => []

/-- The callback was given every message received, in order, but the one in hand. -/
def AllDelivered (call : StreamCall μ) : Prop :=
  call.handled ++ call.inHand = call.received.map some

/-- The completion queue thread gives a finished read to `Proceed` only after the
constructor has set the flag. -/
def ReadsConstructed (call : StreamCall μ) (event : Event μ) : Prop :=
  event = .process → call.processor = .returned .read true → call.constructed = true

/-- A call with a callback that nobody has cancelled: its listener is active from the end
of the constructor on. -/
structure Listening (call : StreamCall μ) : Prop where
  phase : call.Phase
  cbHandler : call.cbHandler = true
  listener : call.listenerActive = call.constructed

section Steps

variable {call call' : StreamCall μ} {event : Event μ}

/-! ## The flags of the listener -/

theorem listening_init : Listening (init μ true) := ⟨phase_init, rfl, rfl⟩

theorem proceed_keeps (call : StreamCall μ) :
    call.proceed.2.cbHandler = call.cbHandler ∧
      call.proceed.2.listenerActive = call.listenerActive ∧
      call.proceed.2.constructed = call.constructed := by
  unfold proceed
  split
  · exact ⟨rfl, rfl, rfl⟩
  · split <;> exact ⟨rfl, rfl, rfl⟩
  · exact ⟨rfl, rfl, rfl⟩

theorem process_keeps (processed : call.completionQueueProcessor = some call') :
    call'.cbHandler = call.cbHandler ∧ call'.listenerActive = call.listenerActive ∧
      call'.constructed = call.constructed := by
  unfold completionQueueProcessor at processed
  split at processed
  · cases processed
  · cases processed
    exact ⟨rfl, rfl, rfl⟩
  · cases processed
    exact proceed_keeps call
  · cases processed
    exact proceed_keeps call
  · cases processed
    exact ⟨rfl, rfl, rfl⟩
  · cases processed
    exact ⟨rfl, rfl, rfl⟩

theorem complete_keeps {op : StreamOperation} {ok : Bool}
    (returned : call.complete op ok = some call') :
    call'.cbHandler = call.cbHandler ∧ call'.listenerActive = call.listenerActive ∧
      call'.constructed = call.constructed := by
  unfold complete at returned
  split at returned
  · cases returned
    exact ⟨rfl, rfl, rfl⟩
  · cases returned

theorem Listening.keep (listening : call.Listening) (phase : call'.Phase)
    (keeps : call'.cbHandler = call.cbHandler ∧ call'.listenerActive = call.listenerActive ∧
      call'.constructed = call.constructed) : call'.Listening := by
  obtain ⟨cbHandler, active, constructed⟩ := keeps
  exact ⟨phase, cbHandler.trans listening.cbHandler, by rw [active, constructed, listening.listener]⟩

/-- Only a cancel separates the flag from the end of the constructor. -/
theorem Listening.step (listening : call.Listening) (uncancelled : event ≠ .cancel)
    (stepped : call.step event = some call') : call'.Listening := by
  have phase := listening.phase.step stepped
  cases event with
  | cancel => exact absurd rfl uncancelled
  | construct =>
      simp only [StreamCall.step] at stepped
      split at stepped
      · cases stepped
      · cases stepped
        exact ⟨phase, listening.cbHandler, by simp [construct, listening.cbHandler]⟩
  | started ok => exact listening.keep phase (complete_keeps stepped)
  | read message =>
      cases message with
      | none => exact listening.keep phase (complete_keeps stepped)
      | some message =>
          have keeps := complete_keeps (by simpa only [StreamCall.step] using stepped)
          exact listening.keep phase keeps
  | process => exact listening.keep phase (process_keeps stepped)

/-! ## The balance of one step -/

/-- A completion other than that of a read with a message brings nothing in hand. -/
theorem AllDelivered.complete {op : StreamOperation} {ok : Bool} (all : call.AllDelivered)
    (none : ok = true → op ≠ .read) (returned : call.complete op ok = some call') :
    call'.AllDelivered := by
  unfold StreamCall.complete at returned
  split at returned
  · rename_i ready
    cases returned
    have empty : ∀ op ok, (ok = true → op ≠ .read) →
        inHand { call with processor := .returned op ok } = [] := by
      intro op ok none
      cases op <;> cases ok <;> first | rfl | exact absurd rfl (none rfl)
    have before : call.inHand = [] := by simp [inHand, ready.1]
    rw [AllDelivered, before] at all
    exact (congrArg (call.handled ++ ·) (empty op ok none)).trans all
  · cases returned

/-- A read with a message puts it in hand. -/
theorem AllDelivered.filled {message : μ} (all : call.AllDelivered)
    (returned : call.step (.read (some message)) = some call') : call'.AllDelivered := by
  simp only [StreamCall.step, StreamCall.complete] at returned
  split at returned
  · rename_i ready
    cases returned
    have before : call.inHand = [] := by
      unfold inHand
      rw [show call.processor = .next from ready.1]
    rw [AllDelivered, before, List.append_nil] at all
    simp [AllDelivered, inHand, all]
  · cases returned

/-- `Proceed` with the completion of a read: the balance stands exactly if the listener is
active. -/
theorem allDelivered_proceed (all : call.AllDelivered) (processing : call.status = .processing)
    (back : call.processor = .returned .read true) (cbHandler : call.cbHandler = true) :
    AllDelivered { call.proceed.2 with processor := call.proceed.1 } ↔
      call.listenerActive = true := by
  have hand : call.inHand = [call.response] := by simp [inHand, back]
  rw [AllDelivered, hand] at all
  cases active : call.listenerActive with
  | true =>
      simp only [proceed, processing, active, cbHandler, Bool.and_self, if_true, iff_true]
      exact all
  | false =>
      simp only [proceed, processing, active, Bool.false_and, Bool.false_eq_true, if_false, iff_false]
      intro dropped
      -- The message in hand was received, and now it is neither in hand nor handled.
      have lengths := congrArg List.length (dropped.trans all.symm)
      simp [inHand, read] at lengths

/-- One section of the completion queue thread. -/
theorem allDelivered_process (listening : call.Listening) (all : call.AllDelivered)
    (processed : call.completionQueueProcessor = some call') :
    call'.AllDelivered ↔ call.ReadsConstructed .process := by
  cases listening.phase with
  | waiting _ idle => simp [completionQueueProcessor, idle] at processed
  | deleted _ _ idle => simp [completionQueueProcessor, idle] at processed
  | returned serving back =>
      have next : call' = { call.proceed.2 with processor := call.proceed.1 } := by
        have run := process_proceed (.inl back)
        rw [StreamCall.step, processed] at run
        exact Option.some.inj run
      subst next
      rcases serving.status with connecting | processing
      · have started : call.processor = .returned .startCall true := by rw [back, connecting]; rfl
        have nothing : call.inHand = [] := by simp [inHand, started]
        rw [AllDelivered, nothing] at all
        refine iff_of_true ?_ fun _ read => ?_
        · simpa [AllDelivered, proceed, connecting, read, inHand] using all
        · rw [started] at read
          cases read
      · have finished : call.processor = .returned .read true := by rw [back, processing]; rfl
        rw [allDelivered_proceed all processing finished listening.cbHandler, listening.listener]
        exact ⟨fun constructed _ _ => constructed, fun allowed => allowed rfl finished⟩
  | broken _ back =>
      simp only [completionQueueProcessor, back, Option.some.injEq] at processed
      subst processed
      have nothing : call.inHand = [] := by simp [inHand, back]
      rw [AllDelivered, nothing] at all
      exact iff_of_true all fun _ read => by simp [back] at read
  | calling _ back =>
      simp only [completionQueueProcessor, back, Option.some.injEq] at processed
      subst processed
      have hand : call.inHand = [call.response] := by simp [inHand, back]
      rw [AllDelivered, hand] at all
      refine iff_of_true ?_ fun _ read => by rw [back] at read; cases read
      simpa [AllDelivered, callback, read, inHand] using all
  | ending failed _ stage =>
      have nothing : call.inHand = [] := by
        rcases stage with ⟨op, stopped⟩ | deleting
        · simp [inHand, stopped]
        · simp [inHand, deleting]
      rw [AllDelivered, nothing] at all
      rcases stage with ⟨op, stopped⟩ | deleting
      · simp only [completionQueueProcessor, stopped, proceed, failed.status, Option.some.injEq] at processed
        subst processed
        exact iff_of_true all fun _ read => by rw [stopped] at read; cases read
      · simp only [completionQueueProcessor, deleting, Option.some.injEq] at processed
        subst processed
        exact iff_of_true all fun _ read => by rw [deleting] at read; cases read

/-- **The step.**  It drops no message exactly if it is not a read that comes before the
end of the constructor. -/
theorem allDelivered_step (listening : call.Listening) (all : call.AllDelivered)
    (uncancelled : event ≠ .cancel) (stepped : call.step event = some call') :
    call'.AllDelivered ↔ call.ReadsConstructed event := by
  cases event with
  | cancel => exact absurd rfl uncancelled
  | construct =>
      simp only [StreamCall.step] at stepped
      split at stepped
      · cases stepped
      · cases stepped
        exact iff_of_true all fun impossible => by cases impossible
  | started ok =>
      have kept := all.complete (fun _ => by simp) stepped
      exact iff_of_true kept fun impossible => by cases impossible
  | read message =>
      refine iff_of_true ?_ fun impossible => by cases impossible
      cases message with
      | none => exact all.complete (fun impossible => by cases impossible) stepped
      | some message => exact all.filled stepped
  | process => exact allDelivered_process listening all stepped

end Steps

/-! ## Whole runs -/

/-- **No message is dropped, when.**  In every interleaving of the constructor with the
completion queue thread, and of any completions, up to a cancel: every step leaves every
message received with the callback, in order from the first one on, exactly if no finished
read comes to `Proceed` before the constructor has set the flag. -/
theorem delivered_iff (events : List (Event μ)) (uncancelled : .cancel ∉ events) :
    EveryStep step (fun _ _ call => call.AllDelivered) events (init μ true) ↔
      EveryStep step (fun call event _ => call.ReadsConstructed event) events (init μ true) := by
  refine everyStep_iff (fun call => call.Listening ∧ call.AllDelivered) events ?_ ?_
    ⟨listening_init, rfl⟩
  · rintro call event call' member ⟨listening, all⟩ stepped
    exact allDelivered_step listening all (fun same => uncancelled (same ▸ member)) stepped
  · rintro call event call' member ⟨listening, -⟩ stepped kept
    exact ⟨listening.step (fun same => uncancelled (same ▸ member)) stepped, kept⟩

/-- The constructor ends before the first read, and two messages are delivered. -/
theorem delivered_iff_two :
    EveryStep step (fun _ _ call => call.AllDelivered)
        [.started true, .process, .construct, .read (some 5), .process, .process, .read (some 6)]
        (init Nat true) ↔
      EveryStep step (fun call event _ => call.ReadsConstructed event)
        [.started true, .process, .construct, .read (some 5), .process, .process, .read (some 6)]
        (init Nat true) :=
  delivered_iff _ (by simp)

/-- The call is connected and its first message read and processed while the constructor
has not yet set the flag. -/
theorem dropped_before_construct :
    ¬ ∀ events : List (Event Unit), .cancel ∉ events →
      EveryStep step (fun _ _ call => call.AllDelivered) events (init Unit true) := by
  intro claimed
  have every := claimed ([.started true, .process, .read (some ())] ++ [.process]) (by simp)
  have balance := every.last rfl rfl
  cases balance

end StreamCall

end OmmoSdk.Client
