/-
# Client.WirelessCommands — the commands of a wireless manager

Every command of a manager builds a request and gives it to the call that the manager
points at.  The call takes one request at a time and refuses a second one; the command
returns nothing, so that whoever gave it is not told.  `Commanded` is a call with a record of
the commands issued, and `commands_written_iff` says for which runs all of them are written.

A user answers an event by commands inside its callback.  `Proceed` delivers the event under
`statusLock`, and a command takes the `statusLock` of its call, which is not reentrant.
`Execution` follows one thread through both, with the locks it holds.
`callback_safe_iff` says when it never asks for one that it holds.
-/
import OmmoSdk.Client.WirelessTraffic
import OmmoSdk.Sdk.CallData

namespace OmmoSdk.Sdk.Proto

set_option autoImplicit false

inductive WirelessManagementRequestType where
  | none
  | enablePairingMode
  | disablePairingMode
  | getPairingApprovedList
  | approvePairing
  | denyPairing
  | unpair
  | getPairingBlockedList
  | blockPairing
  | unblockPairing
  | clearBlockedList
  | clearApprovedList
  | resetWirelessConfig
  | setIntervalLength
  | approveIntervalPairing
  | sleepDevice
  | wakeDevice
  | getPairingApprovedIntervalList
  deriving DecidableEq, Repr

structure WirelessManagementRequest where
  requestType : WirelessManagementRequestType := .none
  siuUuid : UInt32 := 0
  intervalLength : UInt32 := 0
  deriving DecidableEq, Repr

end OmmoSdk.Sdk.Proto

namespace OmmoSdk.Client

open OmmoSdk.Theory
open OmmoSdk.Sdk
open OmmoSdk.Sdk.Proto (WirelessManagementRequest)

set_option autoImplicit false

/-! ## The commands -/

namespace WirelessManager

section Commands

variable {m : Type → Type} [Monad m]

/-- The body that the commands share.  `cdata` is what they do with the pointer, if it is not
null: `cdata->SendWirelessManagementRequest`. -/
def sendRequest (cdata : Option (WirelessManagementRequest → m Bool))
    (request : WirelessManagementRequest) : m Unit :=
  match cdata with
  | some send => do let _ ← send request
  | none => pure ()

variable (cdata : Option (WirelessManagementRequest → m Bool))

def enablePairingMode : m Unit := sendRequest cdata { requestType := .enablePairingMode }

def disablePairingMode : m Unit := sendRequest cdata { requestType := .disablePairingMode }

def getPairingApprovedList : m Unit := sendRequest cdata { requestType := .getPairingApprovedList }

def approvePairing (uuid : UInt32) : m Unit :=
  sendRequest cdata { requestType := .approvePairing, siuUuid := uuid }

def denyPairing (uuid : UInt32) : m Unit :=
  sendRequest cdata { requestType := .denyPairing, siuUuid := uuid }

def unpair (uuid : UInt32) : m Unit := sendRequest cdata { requestType := .unpair, siuUuid := uuid }

def getPairingBlockedList : m Unit := sendRequest cdata { requestType := .getPairingBlockedList }

def blockPairing (uuid : UInt32) : m Unit :=
  sendRequest cdata { requestType := .blockPairing, siuUuid := uuid }

def unblockPairing (uuid : UInt32) : m Unit :=
  sendRequest cdata { requestType := .unblockPairing, siuUuid := uuid }

def clearBlockedList : m Unit := sendRequest cdata { requestType := .clearBlockedList }

def clearApprovedList : m Unit := sendRequest cdata { requestType := .clearApprovedList }

def resetWirelessConfig : m Unit := sendRequest cdata { requestType := .resetWirelessConfig }

def setIntervalLength (intervalLength : UInt32) : m Unit :=
  sendRequest cdata { requestType := .setIntervalLength, intervalLength := intervalLength }

def approveIntervalPairing (uuid : UInt32) : m Unit :=
  sendRequest cdata { requestType := .approveIntervalPairing, siuUuid := uuid }

def sleepDevice (uuid : UInt32) : m Unit :=
  sendRequest cdata { requestType := .sleepDevice, siuUuid := uuid }

def wakeDevice (uuid : UInt32) : m Unit :=
  sendRequest cdata { requestType := .wakeDevice, siuUuid := uuid }

def getPairingApprovedIntervalList : m Unit :=
  sendRequest cdata { requestType := .getPairingApprovedIntervalList }

/-- A call of one of them. -/
inductive Command where
  | enablePairingMode
  | disablePairingMode
  | getPairingApprovedList
  | approvePairing (uuid : UInt32)
  | denyPairing (uuid : UInt32)
  | unpair (uuid : UInt32)
  | getPairingBlockedList
  | blockPairing (uuid : UInt32)
  | unblockPairing (uuid : UInt32)
  | clearBlockedList
  | clearApprovedList
  | resetWirelessConfig
  | setIntervalLength (intervalLength : UInt32)
  | approveIntervalPairing (uuid : UInt32)
  | sleepDevice (uuid : UInt32)
  | wakeDevice (uuid : UInt32)
  | getPairingApprovedIntervalList
  deriving DecidableEq, Repr

def Command.run : Command → m Unit
  | .enablePairingMode => WirelessManager.enablePairingMode cdata
  | .disablePairingMode => WirelessManager.disablePairingMode cdata
  | .getPairingApprovedList => WirelessManager.getPairingApprovedList cdata
  | .approvePairing uuid => WirelessManager.approvePairing cdata uuid
  | .denyPairing uuid => WirelessManager.denyPairing cdata uuid
  | .unpair uuid => WirelessManager.unpair cdata uuid
  | .getPairingBlockedList => WirelessManager.getPairingBlockedList cdata
  | .blockPairing uuid => WirelessManager.blockPairing cdata uuid
  | .unblockPairing uuid => WirelessManager.unblockPairing cdata uuid
  | .clearBlockedList => WirelessManager.clearBlockedList cdata
  | .clearApprovedList => WirelessManager.clearApprovedList cdata
  | .resetWirelessConfig => WirelessManager.resetWirelessConfig cdata
  | .setIntervalLength intervalLength => WirelessManager.setIntervalLength cdata intervalLength
  | .approveIntervalPairing uuid => WirelessManager.approveIntervalPairing cdata uuid
  | .sleepDevice uuid => WirelessManager.sleepDevice cdata uuid
  | .wakeDevice uuid => WirelessManager.wakeDevice cdata uuid
  | .getPairingApprovedIntervalList => WirelessManager.getPairingApprovedIntervalList cdata

/-- What a command asks of the service. -/
def Command.request : Command → WirelessManagementRequest
  | .enablePairingMode => { requestType := .enablePairingMode }
  | .disablePairingMode => { requestType := .disablePairingMode }
  | .getPairingApprovedList => { requestType := .getPairingApprovedList }
  | .approvePairing uuid => { requestType := .approvePairing, siuUuid := uuid }
  | .denyPairing uuid => { requestType := .denyPairing, siuUuid := uuid }
  | .unpair uuid => { requestType := .unpair, siuUuid := uuid }
  | .getPairingBlockedList => { requestType := .getPairingBlockedList }
  | .blockPairing uuid => { requestType := .blockPairing, siuUuid := uuid }
  | .unblockPairing uuid => { requestType := .unblockPairing, siuUuid := uuid }
  | .clearBlockedList => { requestType := .clearBlockedList }
  | .clearApprovedList => { requestType := .clearApprovedList }
  | .resetWirelessConfig => { requestType := .resetWirelessConfig }
  | .setIntervalLength intervalLength =>
      { requestType := .setIntervalLength, intervalLength := intervalLength }
  | .approveIntervalPairing uuid => { requestType := .approveIntervalPairing, siuUuid := uuid }
  | .sleepDevice uuid => { requestType := .sleepDevice, siuUuid := uuid }
  | .wakeDevice uuid => { requestType := .wakeDevice, siuUuid := uuid }
  | .getPairingApprovedIntervalList => { requestType := .getPairingApprovedIntervalList }

/-- A command gives its request to the call and does nothing else. -/
theorem Command.run_eq (command : Command) :
    command.run cdata = sendRequest cdata command.request := by
  cases command <;> rfl

end Commands

end WirelessManager

open WirelessManager

/-! ## The commands that are written -/

/-- A call that a manager points at, with the requests of the commands issued so far. -/
structure Commanded (ε : Type) where
  call : WirelessCall WirelessManagementRequest ε
  issued : List WirelessManagementRequest

namespace Commanded

variable {ε : Type}

def start (ε : Type) : Commanded ε := ⟨.init WirelessManagementRequest ε true, []⟩

inductive Label (ε : Type) where
  | command (command : Command)
  | event (event : WirelessCall.Event WirelessManagementRequest ε)
  deriving DecidableEq, Repr

/-- A command of any thread, or another step of the call.  Requests come from commands. -/
def step (s : Commanded ε) : Label ε → Option (Commanded ε)
  | .command command =>
      let send : WirelessManagementRequest → StateM (WirelessCall WirelessManagementRequest ε) Bool :=
        fun request call => call.sendWirelessManagementRequest request
      if s.call.deletions = 0 then
        some ⟨(command.run (some send) s.call).2, s.issued ++ [command.request]⟩
      else none
  | .event (.send _) => none
  | .event event => (s.call.step event).map fun call => { s with call := call }

/-- **What should become of the commands** while the call is live: each is written, in order.
The SDK has no queue that could hold one back. -/
def AllWritten (s : Commanded ε) : Prop := s.call.status ≠ .finish → s.call.written = s.issued

/-- A command finds no write on its way. -/
def Accepted (s : Commanded ε) : Label ε → Prop
  | .command _ => s.call.status ≠ .processing
  | .event _ => True

section Steps

variable {s s' : Commanded ε} {call call' : WirelessCall WirelessManagementRequest ε}

/-- Completions write no request. -/
theorem written_step {event : WirelessCall.Event WirelessManagementRequest ε}
    (other : ∀ request, event ≠ .send request) (stepped : call.step event = some call') :
    call'.written = call.written := by
  have proceeds : ∀ opType, (call.proceed opType).2.written = call.written := by
    intro opType
    unfold WirelessCall.proceed
    split
    · rfl
    · simp only
      split <;> rfl
    · simp only
      split
      · rfl
      · split <;> rfl
    · rfl
  cases event with
  | send request => exact absurd rfl (other request)
  | cancel =>
      simp only [WirelessCall.step] at stepped
      split at stepped
      · cases stepped
        rfl
      · cases stepped
  | started ok | wrote ok =>
      obtain ⟨-, -, rfl⟩ := WirelessCall.complete_frame stepped
      rfl
  | read message =>
      cases message with
      | none =>
          obtain ⟨-, -, rfl⟩ := WirelessCall.complete_frame stepped
          rfl
      | some message =>
          obtain ⟨-, -, rfl⟩ := WirelessCall.complete_frame stepped
          rfl
  | process =>
      simp only [WirelessCall.step, WirelessCall.completionQueueProcessor] at stepped
      split at stepped
      · cases stepped
      · cases stepped
        rfl
      · cases stepped
        exact proceeds _
      · cases stepped
        exact proceeds _
      · cases stepped
        rfl

/-- What a command does to its call. -/
theorem step_command {command : Command} (stepped : s.step (.command command) = some s') :
    s' = ⟨(s.call.sendWirelessManagementRequest command.request).2, s.issued ++ [command.request]⟩ := by
  simp only [step, command.run_eq] at stepped
  split at stepped
  · cases stepped
    rfl
  · cases stepped

/-- What any other label does. -/
theorem step_event {event : WirelessCall.Event WirelessManagementRequest ε}
    (stepped : s.step (.event event) = some s') :
    (∀ request, event ≠ .send request) ∧ s.call.step event = some s'.call ∧ s'.issued = s.issued := by
  cases event with
  | send request => cases stepped
  | cancel | started ok | read message | wrote ok | process =>
      obtain ⟨call', moved, rfl⟩ := Option.map_eq_some_iff.mp stepped
      exact ⟨fun _ => by simp, moved, rfl⟩

/-- A request of a live call is written exactly if no write is on its way. -/
theorem written_send (request : WirelessManagementRequest) (running : call.status ≠ .finish) :
    (call.sendWirelessManagementRequest request).2.status ≠ .finish ∧
      ((call.sendWirelessManagementRequest request).2.written = call.written ++ [request] ↔
        call.status ≠ .processing) := by
  unfold WirelessCall.sendWirelessManagementRequest
  cases status : call.status with
  | processing => simp [status]
  | connecting | waiting => simp
  | finish => exact absurd status running

/-- **One step leaves no command behind** exactly if a command is accepted. -/
theorem allWritten_step_iff {label : Label ε} (all : s.AllWritten)
    (stepped : s.step label = some s') : s'.AllWritten ↔ s.Accepted label := by
  cases label with
  | command command =>
      have after := step_command stepped
      subst after
      by_cases finished : s.call.status = .finish
      · refine iff_of_true ?_ (by simp [Accepted, finished])
        intro running
        simp [WirelessCall.sendWirelessManagementRequest, finished] at running
      · obtain ⟨runs, written⟩ := written_send command.request finished
        rw [all finished] at written
        exact ⟨fun wrote => written.mp (wrote runs), fun accepted _ => written.mpr accepted⟩
  | event event =>
      obtain ⟨other, moved, issued⟩ := step_event stepped
      refine iff_of_true ?_ trivial
      intro running
      rw [issued, written_step other moved]
      exact all fun finished => running (WirelessCall.finished_step finished moved).1

end Steps

/-- **When no command is lost.**  For every sequence of commands and completions: in every
state in which the call is live the requests written are those of the commands issued, in
order, if and only if each command finds no write on its way. -/
theorem commands_written_iff (labels : List (Label ε)) :
    EveryStep step (fun _ _ s' => s'.AllWritten) labels (start ε) ↔
      EveryStep step (fun s label _ => s.Accepted label) labels (start ε) := by
  refine everyStep_iff AllWritten labels ?_ ?_ fun _ => rfl
  · rintro s label s' - all stepped
    exact allWritten_step_iff all stepped
  · rintro s label s' - - - all
    exact all

/-- Two commands, one after the other. -/
theorem second_command_lost :
    ¬ ∀ labels, EveryStep step (fun _ _ s' => s'.AllWritten) labels (start Unit) := by
  intro claimed
  have every := claimed ([.event (.started true), .event .process, .command .enablePairingMode] ++
    [.command (.approvePairing 7)])
  have written := every.last rfl rfl (by decide)
  cases written

end Commanded

/-! ## Commands inside the callback -/

/-- The calls, and the `statusLock`s that the executing thread holds. -/
structure LockedCalls (ε : Type) where
  calls : CallId → WirelessCall WirelessManagementRequest ε
  held : CallId → Bool

/-- The thread asks for a write lock that it holds.  An `SRWLOCK` keeps it waiting for ever.  The
`pthread_rwlock_wrlock` of glibc refuses with `EDEADLK`; the guard does not look at that, so the
destructor of the inner guard releases the lock of the outer one, and the lock is released again
at the end of that. -/
inductive LockFault where
  | reacquired (callData : CallId)
  deriving DecidableEq, Repr

/-- What one thread does, up to where it asks for a lock that it holds. -/
abbrev Execution (ε : Type) := StateT (LockedCalls ε) (Except LockFault)

/-- A wireless manager: its call, and what its user does in the callback with an event,
`none` being a message that no read has filled. -/
structure WirelessManagerImpl (ε : Type) where
  cdata : Option CallId
  wirelessManagementEventUserCallback : Option (Option ε → List Command)

namespace Execution

variable {ε : Type}

/-- The constructor of `rwlock_wrlockguard`. -/
def wrlock (callData : CallId) : Execution ε Unit := fun w =>
  if w.held callData then .error (.reacquired callData)
  else .ok ((), { w with held := Function.update w.held callData true })

/-- Its destructor. -/
def wrunlock (callData : CallId) : Execution ε Unit := fun w =>
  .ok ((), { w with held := Function.update w.held callData false })

def getCall (callData : CallId) : Execution ε (WirelessCall WirelessManagementRequest ε) := fun w =>
  .ok (w.calls callData, w)

/-- What is done to one call. -/
def onCall {α : Type} (callData : CallId)
    (body : WirelessCall WirelessManagementRequest ε → α × WirelessCall WirelessManagementRequest ε) :
    Execution ε α := fun w =>
  .ok ((body (w.calls callData)).1,
    { w with calls := Function.update w.calls callData (body (w.calls callData)).2 })

def sendWirelessManagementRequest (callData : CallId) (request : WirelessManagementRequest) :
    Execution ε Bool := do
  wrlock callData
  let sent ← onCall callData fun call => call.sendWirelessManagementRequest request
  wrunlock callData
  return sent

/-- The user's callback, and the commands it gives. -/
def handleEvent (manager : WirelessManagerImpl ε) (event : Option ε) : Execution ε Unit :=
  match manager.wirelessManagementEventUserCallback with
  | some callback =>
      forM (callback event) fun command => command.run (manager.cdata.map sendWirelessManagementRequest)
  | none => pure ()

/-- The branch of a finished read. -/
def readFinished (manager : WirelessManagerImpl ε) (callData : CallId) : Execution ε Unit := do
  let call ← getCall callData
  if call.cbHandler && call.listenerActive then
    onCall callData fun call => ((), { call with handled := call.handled ++ [call.response] })
    handleEvent manager call.response
  onCall callData fun call => ((), { call with outstanding := call.outstanding ++ [.read] })

def proceed (manager : WirelessManagerImpl ε) (callData : CallId) (opType : OperationType) :
    Execution ε Bool := do
  wrlock callData
  let call ← getCall callData
  let ok ←
    match call.status with
    | .connecting =>
        onCall callData fun call =>
          (true, { call with status := .waiting, outstanding := call.outstanding ++ [.read] })
    | .waiting => do
        if opType = .read then readFinished manager callData
        pure true
    | .processing => do
        if opType = .read then readFinished manager callData
        else if opType = .write then
          onCall callData fun call => ((), { call with status := .waiting })
        pure true
    | .finish => pure false
  wrunlock callData
  return ok

/-! ### What a thread does under the lock of its call -/

section Runs

variable {w : LockedCalls ε} {manager : WirelessManagerImpl ε} {callData other : CallId}

theorem run_bind_ok {α β : Type} {first : Execution ε α} {next : α → Execution ε β} {a : α}
    {w' : LockedCalls ε} (ran : first.run w = .ok (a, w')) :
    (first >>= next).run w = (next a).run w' := by
  rw [StateT.run_bind, ran]
  rfl

theorem run_bind_error {α β : Type} {first : Execution ε α} {next : α → Execution ε β}
    {fault : LockFault} (ran : first.run w = .error fault) :
    (first >>= next).run w = .error fault := by
  rw [StateT.run_bind, ran]
  rfl

theorem run_wrlock (free : w.held callData = false) :
    (wrlock callData).run w = .ok ((), { w with held := Function.update w.held callData true }) := by
  simp [wrlock, StateT.run, free]

theorem run_wrlock_held (held : w.held callData = true) :
    (wrlock callData).run w = .error (.reacquired callData) := by
  simp [wrlock, StateT.run, held]

theorem run_wrunlock :
    (wrunlock callData).run w = .ok ((), { w with held := Function.update w.held callData false }) := rfl

theorem run_getCall : (getCall callData).run w = .ok (w.calls callData, w) := rfl

theorem run_onCall {α : Type}
    (body : WirelessCall WirelessManagementRequest ε → α × WirelessCall WirelessManagementRequest ε) :
    (onCall callData body).run w = .ok ((body (w.calls callData)).1,
      { w with calls := Function.update w.calls callData (body (w.calls callData)).2 }) := rfl

/-- A lock that was free is free again. -/
theorem held_restored (free : w.held callData = false) :
    Function.update (Function.update w.held callData true) callData false = w.held := by
  rw [Function.update_idem, ← free, Function.update_eq_self]

/-- What the thread leaves alone while it delivers an event of `callData`. -/
structure Undisturbed (callData : CallId) (w w' : LockedCalls ε) : Prop where
  held : w'.held = w.held
  call : w'.calls callData = w.calls callData

/-- A request to another call, whose lock the thread does not hold. -/
theorem send_other (apart : other ≠ callData) (free : w.held other = false)
    (request : WirelessManagementRequest) :
    ∃ sent w', (sendWirelessManagementRequest other request).run w = .ok (sent, w') ∧
      Undisturbed callData w w' := by
  refine ⟨((w.calls other).sendWirelessManagementRequest request).1,
    ⟨Function.update w.calls other ((w.calls other).sendWirelessManagementRequest request).2, w.held⟩,
    ?_, rfl, Function.update_of_ne apart.symm _ _⟩
  rw [sendWirelessManagementRequest, run_bind_ok (run_wrlock free), run_bind_ok (run_onCall _),
    run_bind_ok run_wrunlock, StateT.run_pure, held_restored free]
  rfl

/-- The same, to a call whose lock it holds. -/
theorem send_own (held : w.held callData = true) (request : WirelessManagementRequest) :
    (sendWirelessManagementRequest callData request).run w = .error (.reacquired callData) := by
  rw [sendWirelessManagementRequest, run_bind_error (run_wrlock_held held)]

/-- One command. -/
theorem command_other (apart : ∀ d, manager.cdata = some d → d ≠ callData ∧ w.held d = false)
    (command : Command) :
    ∃ w', (command.run (manager.cdata.map sendWirelessManagementRequest)).run w = .ok ((), w') ∧
      Undisturbed callData w w' := by
  rw [command.run_eq]
  cases pointer : manager.cdata with
  | none => exact ⟨w, rfl, rfl, rfl⟩
  | some d =>
      obtain ⟨ne, free⟩ := apart d pointer
      obtain ⟨sent, w', run, same⟩ := send_other ne free command.request
      refine ⟨w', ?_, same⟩
      rw [Option.map_some, sendRequest, run_bind_ok run, StateT.run_pure]
      rfl

/-- All commands of an answer. -/
theorem commands_other (commands : List Command) :
    ∀ {w : LockedCalls ε}, (∀ d, manager.cdata = some d → d ≠ callData ∧ w.held d = false) →
      ∃ w', (forM commands fun command : Command =>
          command.run (manager.cdata.map sendWirelessManagementRequest)).run w = .ok ((), w') ∧
        Undisturbed callData w w' := by
  induction commands with
  | nil =>
      intro w _
      exact ⟨w, rfl, rfl, rfl⟩
  | cons command rest ih =>
      intro w apart
      obtain ⟨middle, first, same⟩ := command_other apart command
      obtain ⟨w', later, same'⟩ := ih (w := middle) fun d pointer =>
        ⟨(apart d pointer).1, by rw [same.held]; exact (apart d pointer).2⟩
      refine ⟨w', ?_, same'.held.trans same.held, same'.call.trans same.call⟩
      rw [List.forM_cons, run_bind_ok first, later]

/-- The answer to an event goes to the call that delivers it. -/
def Answers (manager : WirelessManagerImpl ε) (callData : CallId) (event : Option ε) : Prop :=
  manager.cdata = some callData ∧
    ∃ callback, manager.wirelessManagementEventUserCallback = some callback ∧ callback event ≠ []

theorem handleEvent_fault {event : Option ε} (answers : Answers manager callData event)
    (held : w.held callData = true) :
    (handleEvent manager event).run w = .error (.reacquired callData) := by
  obtain ⟨pointer, callback, registered, some⟩ := answers
  obtain ⟨command, rest, commands⟩ := List.exists_cons_of_ne_nil some
  simp only [handleEvent, registered, commands, List.forM_cons]
  rw [run_bind_error]
  rw [command.run_eq, pointer, Option.map_some, sendRequest, run_bind_error (send_own held command.request)]

theorem handleEvent_ok {event : Option ε} (elsewhere : ¬ Answers manager callData event)
    (others : ∀ d, d ≠ callData → w.held d = false) :
    ∃ w', (handleEvent manager event).run w = .ok ((), w') ∧ Undisturbed callData w w' := by
  unfold handleEvent
  cases registered : manager.wirelessManagementEventUserCallback with
  | none => exact ⟨w, rfl, rfl, rfl⟩
  | some callback =>
      by_cases nothing : callback event = []
      · simp only [nothing]
        exact ⟨w, rfl, rfl, rfl⟩
      · refine commands_other (callback event) fun d pointer => ?_
        have apart : d ≠ callData := by
          rintro rfl
          exact elsewhere ⟨pointer, callback, registered, nothing⟩
        exact ⟨apart, others d apart⟩

/-! ### Delivering an event -/

/-- `Proceed` comes to the callback. -/
def Delivers (call : WirelessCall WirelessManagementRequest ε) (opType : OperationType) : Prop :=
  (call.status = .waiting ∨ call.status = .processing) ∧ opType = .read ∧
    (call.cbHandler && call.listenerActive) = true

theorem readFinished_fault (held : w.held callData = true)
    (listens : ((w.calls callData).cbHandler && (w.calls callData).listenerActive) = true)
    (answers : Answers manager callData (w.calls callData).response) :
    (readFinished manager callData).run w = .error (.reacquired callData) := by
  rw [readFinished, run_bind_ok run_getCall, if_pos listens, run_bind_ok (run_onCall _)]
  exact run_bind_error (handleEvent_fault answers held)

theorem readFinished_ok (others : ∀ d, d ≠ callData → w.held d = false)
    (elsewhere : ((w.calls callData).cbHandler && (w.calls callData).listenerActive) = true →
      ¬ Answers manager callData (w.calls callData).response) :
    ∃ w', (readFinished manager callData).run w = .ok ((), w') ∧ w'.held = w.held ∧
      w'.calls callData = (w.calls callData).readFinished := by
  by_cases listens : ((w.calls callData).cbHandler && (w.calls callData).listenerActive) = true
  · let handled : WirelessCall WirelessManagementRequest ε :=
      { w.calls callData with
        handled := (w.calls callData).handled ++ [(w.calls callData).response] }
    obtain ⟨answered, ran, same⟩ := handleEvent_ok (elsewhere listens)
      (show ∀ d, d ≠ callData → LockedCalls.held ⟨Function.update w.calls callData handled, w.held⟩ d = false
        from others)
    refine ⟨⟨Function.update answered.calls callData
      { answered.calls callData with
        outstanding := (answered.calls callData).outstanding ++ [.read] }, answered.held⟩,
      ?_, same.held, ?_⟩
    · rw [readFinished, run_bind_ok run_getCall, if_pos listens, run_bind_ok (run_onCall _)]
      exact (run_bind_ok ran).trans (run_onCall _)
    · simp [same.call, handled, WirelessCall.readFinished, listens]
  · refine ⟨⟨Function.update w.calls callData
      { w.calls callData with
        outstanding := (w.calls callData).outstanding ++ [.read] }, w.held⟩, ?_, rfl, ?_⟩
    · rw [readFinished, run_bind_ok run_getCall, if_neg listens]
      exact run_onCall _
    · simp [WirelessCall.readFinished, listens]

/-- The thread in `Proceed`, with the lock of the call. -/
def locked (w : LockedCalls ε) (callData : CallId) : LockedCalls ε :=
  { w with held := Function.update w.held callData true }

theorem locked_held : (locked w callData).held callData = true := Function.update_self _ _ _

theorem locked_others (free : ∀ d, w.held d = false) :
    ∀ d, d ≠ callData → (locked w callData).held d = false := fun d ne =>
  (Function.update_of_ne ne _ _).trans (free d)

theorem proceed_fault {opType : OperationType} (free : ∀ d, w.held d = false)
    (delivers : Delivers (w.calls callData) opType)
    (answers : Answers manager callData (w.calls callData).response) :
    (proceed manager callData opType).run w = .error (.reacquired callData) := by
  obtain ⟨status, rfl, listens⟩ := delivers
  have fault : (readFinished manager callData).run (locked w callData) = .error (.reacquired callData) :=
    readFinished_fault locked_held listens answers
  rw [proceed, run_bind_ok (run_wrlock (free callData)), run_bind_ok run_getCall]
  rcases status with waiting | processing
  · simp only [waiting, if_true]
    exact run_bind_error fault
  · simp only [processing, if_true]
    exact run_bind_error fault

/-- Releasing the lock at the end. -/
theorem run_release {w' : LockedCalls ε} {ok : Bool} (free : w.held callData = false)
    (same : w'.held = (locked w callData).held) :
    (do wrunlock callData; return ok : Execution ε Bool).run w' =
      .ok (ok, { w' with held := w.held }) := by
  rw [run_bind_ok run_wrunlock, StateT.run_pure, same, locked, held_restored free]
  rfl

/-- **`Proceed` with the lock** does to its call what it does without. -/
theorem proceed_ok {opType : OperationType} (free : ∀ d, w.held d = false)
    (elsewhere : Delivers (w.calls callData) opType →
      ¬ Answers manager callData (w.calls callData).response) :
    ∃ w', (proceed manager callData opType).run w =
        .ok (((w.calls callData).proceed opType).1, w') ∧
      w'.held = w.held ∧ w'.calls callData = ((w.calls callData).proceed opType).2 := by
  have finished : (w.calls callData).status = .waiting ∨ (w.calls callData).status = .processing →
      opType = .read → ∃ w', (readFinished manager callData).run (locked w callData) = .ok ((), w') ∧
        w'.held = (locked w callData).held ∧ w'.calls callData = (w.calls callData).readFinished :=
    fun status read => readFinished_ok (locked_others free) fun listens =>
      elsewhere ⟨status, read, listens⟩
  rw [proceed, run_bind_ok (run_wrlock (free callData)), run_bind_ok run_getCall]
  unfold WirelessCall.proceed
  cases status : (w.calls callData).status with
  | connecting =>
      refine ⟨⟨Function.update w.calls callData { w.calls callData with
        status := .waiting, outstanding := (w.calls callData).outstanding ++ [.read] }, w.held⟩, ?_, rfl,
        Function.update_self _ _ _⟩
      exact (run_bind_ok (run_onCall _)).trans (run_release (free callData) rfl)
  | waiting =>
      by_cases read : opType = .read
      · obtain ⟨w', ran, held, call⟩ := finished (.inl status) read
        refine ⟨{ w' with held := w.held }, ?_, rfl, ?_⟩
        · simp only [read, if_true]
          exact (run_bind_ok ran).trans (run_release (free callData) held)
        · simp only [read, if_true, call]
      · refine ⟨w, ?_, rfl, ?_⟩
        · simp only [read, if_false]
          exact run_release (free callData) rfl
        · simp only [read, if_false]
  | processing =>
      by_cases read : opType = .read
      · obtain ⟨w', ran, held, call⟩ := finished (.inr status) read
        refine ⟨{ w' with held := w.held }, ?_, rfl, ?_⟩
        · simp only [read, if_true]
          exact (run_bind_ok ran).trans (run_release (free callData) held)
        · simp only [read, if_true, call]
      · by_cases write : opType = .write
        · refine ⟨⟨Function.update w.calls callData { w.calls callData with status := .waiting }, w.held⟩,
            ?_, rfl, ?_⟩
          · simp only [write, reduceCtorEq, if_false, if_true]
            exact (run_bind_ok (run_onCall _)).trans (run_release (free callData) rfl)
          · simp [write]
        · refine ⟨w, ?_, rfl, ?_⟩
          · simp only [read, write, if_false]
            exact run_release (free callData) rfl
          · simp only [read, write, if_false]
  | finish =>
      refine ⟨w, ?_, rfl, rfl⟩
      exact run_release (free callData) rfl

/-- **When answering an event inside its callback is safe.**  For every manager, every user
callback and every state in which the thread that processes a completion holds no lock: in
`Proceed` it asks for no lock that it holds, if and only if it does not deliver an event whose
callback gives a command while the manager points at the call that delivers it. -/
theorem callback_safe_iff (manager : WirelessManagerImpl ε) (callData : CallId) (opType : OperationType)
    (w : LockedCalls ε) (free : ∀ d, w.held d = false) :
    (∀ fault, (proceed manager callData opType).run w ≠ .error fault) ↔
      ¬ (Delivers (w.calls callData) opType ∧
        Answers manager callData (w.calls callData).response) := by
  constructor
  · rintro safe ⟨delivers, answers⟩
    exact safe _ (proceed_fault free delivers answers)
  · intro elsewhere fault ran
    obtain ⟨w', ok, -⟩ := proceed_ok free fun delivers answers => elsewhere ⟨delivers, answers⟩
    rw [ran] at ok
    cases ok

/-- A call that has received an event and waits for no write. -/
def receiving : WirelessCall WirelessManagementRequest Unit :=
  { WirelessCall.init WirelessManagementRequest Unit true with
    status := .waiting, outstanding := [], response := some (), processor := .returned .read true }

/-- The calls of a manager that was given a new call while its first one has an event to deliver. -/
def renewed : LockedCalls Unit where
  calls := Function.update (fun _ => { receiving with outstanding := [.read], processor := .next }) 0
    receiving
  held _ := false

/-- The user approves a pairing in the callback, and the approval goes to the new call. -/
theorem callback_safe_iff_renewed :
    (∀ fault, (proceed ⟨some 1, some fun _ => [.approvePairing 7]⟩ 0 .read).run renewed ≠
      .error fault) ∧
    ((proceed ⟨some 1, some fun _ => [.approvePairing 7]⟩ 0 .read).run renewed).toOption.map
      (fun after => (after.2.calls 1).outstanding) = some [.read, .write] := by
  refine ⟨(callback_safe_iff ⟨some 1, some fun _ => [.approvePairing 7]⟩ 0 .read renewed
    fun _ => rfl).mpr ?_, rfl⟩
  rintro ⟨-, pointer, -⟩
  cases pointer

/-- The user approves a pairing in the callback of its request. -/
theorem callback_reacquires :
    ¬ ∀ (manager : WirelessManagerImpl Unit) (callData : CallId) (w : LockedCalls Unit),
      (∀ d, w.held d = false) →
      Reached WirelessCall.step (fun _ _ => True) (.init _ _ true) (w.calls callData) →
      Delivers (w.calls callData) .read →
      ∀ fault, (proceed manager callData .read).run w ≠ .error fault := by
  intro claimed
  have reached : Reached WirelessCall.step (fun _ _ => True) (.init _ _ true) receiving :=
    .of_any [.started true, .process, .read (some ())] rfl
  exact claimed ⟨some 0, some fun _ => [.approvePairing 7]⟩ 0 ⟨fun _ => receiving, fun _ => false⟩
    (fun _ => rfl) reached ⟨.inl rfl, rfl, rfl⟩ (.reacquired 0) rfl

end Runs

end Execution

end OmmoSdk.Client
