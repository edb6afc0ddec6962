/-
# Client.Shutdown — the locks of Shutdown and the join of the monitor

`Shutdown` takes two of the mutexes of the client.  The first is released before it goes on,
the second when its scope ends, which is after the monitor thread was joined.  The monitor
takes the same mutex whenever it polls the channel newly ready, which it may still do when its
flag is set: it tests the flag before it polls.

The programs of the threads have a shape each, which every step keeps (`shaped_of_running`).
`joins_of_apart` shows from the shapes that the join waits for a thread that can go on, if the
monitor is never on its way to that mutex while `Shutdown` holds it.
-/
import OmmoSdk.Client.RunningClient

namespace OmmoSdk.Client

open OmmoSdk.Theory
open OmmoSdk.Sdk

set_option autoImplicit false

namespace Task

/-- The sections of the rounds in which `Shutdown` cancels streams. -/
def closes : Task → Bool
  | stopManager _ | cancelDataFrameStream _ | removeDataFrameStream _ => true
  | cancelDataStream _ | removeDataStream _ => true
  | client (.cancelAllDataStreams _) | client (.clearDataStreams _) => true
  | _ => false

/-- The sections of a round of the monitor, the lock for the base station storages apart. -/
def monitors : Task → Bool
  | client (.lock mutex) => mutex ≠ .baseStationDataStorageList
  | client (.unlock _) => true
  | client .openTrackingDevicesEventStream | client (.storeEventStream _) => true
  | client (.cancelEventStream _) | client .clearEventStream => true
  | client .forBaseStationStorages | client (.reopenBaseStationStream _) => true
  | client (.openBaseStationDataStream _) | client (.setDataStream _ _) => true
  | client .forWirelessManagers | client (.reopenWirelessStream _) => true
  | client (.openWirelessManagementStream _) | client (.setCallData _ _) => true
  | client .clearConnectedDevices | client (.saveChannelState _) => true
  | _ => false

/-- What users do. -/
def uses : Task → Bool
  | client _ | closeBaseStationDataRequest _ | cancelStream _ | sendWirelessManagementRequest _ => true
  | _ => false

/-- The head of the monitor's loop, the poll, or what is left after the loop. -/
def monitorTail : List Task → Bool
  | [channelMonitor _] | [getState _ _] | [endMonitor] | [] => true
  | _ => false

theorem closes_following {orders : Orders} {x : RunningClient} {task : Task} (closes : task.closes = true) :
    ∀ i ∈ task.following orders x, i.closes = true := by
  intro i member
  cases task with
  | stopManager m =>
      simp only [following] at member
      split at member
      · cases member
      · split at member <;> grind [Task.closes]
  | client instr => cases instr <;> first | (cases closes; done) | cases member
  | _ => first | (cases closes; done) | cases member

theorem monitors_following {orders : Orders} {x : RunningClient} {task : Task}
    (monitors : task.monitors = true) : ∀ i ∈ task.following orders x, i.monitors = true := by
  intro i member
  cases task with
  | client instr =>
      cases instr with
      | forBaseStationStorages | forWirelessManagers | reopenBaseStationStream | reopenWirelessStream
      | openTrackingDevicesEventStream | openBaseStationDataStream | openWirelessManagementStream =>
          grind [Task.monitors, following, Instr.next]
      | _ => first | (cases monitors; done) | cases member
  | _ => cases monitors

theorem uses_following {orders : Orders} {x : RunningClient} {task : Task} (uses : task.uses = true) :
    ∀ i ∈ task.following orders x, i.uses = true := by
  intro i member
  cases task with
  | client instr =>
      obtain ⟨next, -, rfl⟩ := List.mem_map.mp member
      rfl
  | _ => first | (cases uses; done) | cases member

end Task

/-! ## The shapes of the programs -/

/-- The lock that the monitor and `Shutdown` have in common. -/
def lockStorages : Task := .client (.lock .baseStationDataStorageList)

/-- The monitor is in a round, and then at the head of its loop or at its end. -/
def MonitorAt (program : List Task) : Prop :=
  ∃ round tail, program = round ++ tail ∧ (∀ task ∈ round, task.monitors = true ∨ task = lockStorages) ∧
    Task.monitorTail tail = true

/-- `Shutdown` is in a round of one of its loops and then at one of its sections. -/
def Closing (program : List Task) : Prop :=
  ∃ round tail, program = round ++ tail ∧ (∀ task ∈ round, task.closes = true) ∧
    tail <:+ Task.shutdownSections

/-- It is not begun, or there. -/
def ShutdownAt (program : List Task) : Prop := program = [.shutdown] ∨ Closing program

/-- The second thread is the monitor, the third calls `Shutdown`, and those after it are users. -/
def Shaped : Nat → List Task → Prop
  | 0, _ => True
  | 1, program => MonitorAt program
  | 2, program => ShutdownAt program
  | _ + 3, program => ∀ task ∈ program, task.uses = true

section Shapes

variable {orders : Orders} {x : RunningClient} {task : Task} {rest : List Task}

theorem stopEventStream_monitors (w : ClientManager) :
    ∀ i ∈ (Instr.stopEventStream w).map Task.client, i.monitors = true := by
  intro i member
  unfold Instr.stopEventStream at member
  split at member
  · simp only [List.map_cons, List.map_nil, List.mem_cons, List.not_mem_nil, or_false] at member
    rcases member with rfl | rfl <;> rfl
  · cases member

/-- What a round of the monitor executes: the common lock is in it if the channel is ready. -/
theorem onChannelState_monitors (w : ClientManager) (state : ChannelState) :
    ∀ i ∈ (Instr.onChannelState w state ++ [Instr.saveChannelState state]).map Task.client,
      i.monitors = true ∨ i = lockStorages ∧ state = .ready := by
  intro i member
  rw [List.map_append, List.mem_append] at member
  rcases member with inside | last
  · cases state with
    | ready =>
        simp only [Instr.onChannelState, List.map_cons, List.map_nil, List.mem_cons,
          List.not_mem_nil, or_false] at inside
        rcases inside with rfl | rfl | rfl | rfl | rfl
        · exact .inl rfl
        · exact .inr ⟨rfl, rfl⟩
        · exact .inl rfl
        · exact .inl rfl
        · exact .inl rfl
    | _ =>
        refine .inl ?_
        simp only [Instr.onChannelState, List.map_append, List.mem_append] at inside
        rcases inside with stop | clear
        · exact stopEventStream_monitors w i stop
        · split at clear
          · simp only [List.map_cons, List.map_nil, List.mem_cons, List.not_mem_nil, or_false] at clear
            rcases clear with rfl | rfl | rfl <;> rfl
          · cases clear
  · rw [List.map_singleton, List.mem_singleton] at last
    exact .inl (last ▸ rfl)

theorem monitorAt_step (at_ : MonitorAt (task :: rest)) : MonitorAt (task.following orders x ++ rest) := by
  obtain ⟨round, tail, program, inside, ends⟩ := at_
  cases round with
  | cons first round =>
      rw [List.cons_append, List.cons.injEq] at program
      obtain ⟨rfl, rfl⟩ := program
      obtain ⟨here, later⟩ := List.forall_mem_cons.mp inside
      refine ⟨task.following orders x ++ round, tail, (List.append_assoc _ _ _).symm, fun i member => ?_, ends⟩
      rcases List.mem_append.mp member with fresh | old
      · rcases here with monitors | rfl
        · exact .inl (Task.monitors_following monitors i fresh)
        · cases fresh
      · exact later i old
  | nil =>
      rw [List.nil_append] at program
      subst program
      cases task with
      | channelMonitor states =>
          cases rest with
          | cons _ _ => cases ends
          | nil =>
              have stopped : MonitorAt ((Instr.stopEventStream x.client).map Task.client ++
                  [Task.endMonitor] ++ []) :=
                ⟨_, [.endMonitor], List.append_nil _,
                  fun i member => .inl (stopEventStream_monitors _ i member), rfl⟩
              cases states with
              | nil => exact stopped
              | cons state states =>
                  simp only [Task.following]
                  split
                  · exact stopped
                  · exact ⟨[], [.getState state states], rfl, by simp, rfl⟩
      | getState state states =>
          cases rest with
          | cons _ _ => cases ends
          | nil =>
              simp only [Task.following]
              split
              · refine ⟨_, [.channelMonitor states], List.append_nil _, fun i member => ?_, rfl⟩
                exact (onChannelState_monitors x.client state i member).imp_right And.left
              · exact ⟨[], [.channelMonitor states], rfl, by simp, rfl⟩
      | endMonitor =>
          cases rest with
          | cons _ _ => cases ends
          | nil => exact ⟨[], [], rfl, by simp, rfl⟩
      | _ => cases ends

/-- At a section of `Shutdown`, what is left of it. -/
theorem closing_section (closing : Closing (task :: rest)) :
    task.closes = true ∧ Closing rest ∨ task :: rest <:+ Task.shutdownSections := by
  obtain ⟨round, tail, program, inside, suffix⟩ := closing
  cases round with
  | nil =>
      rw [List.nil_append] at program
      exact .inr (program ▸ suffix)
  | cons first round =>
      rw [List.cons_append, List.cons.injEq] at program
      obtain ⟨rfl, rfl⟩ := program
      obtain ⟨here, later⟩ := List.forall_mem_cons.mp inside
      exact .inl ⟨here, round, tail, rfl, later, suffix⟩

theorem closing_round {round : List Task} (closes : ∀ i ∈ round, i.closes = true)
    (closing : Closing rest) : Closing (round ++ rest) := by
  obtain ⟨round', tail, rfl, inside, suffix⟩ := closing
  refine ⟨round ++ round', tail, (List.append_assoc _ _ _).symm, fun i member => ?_, suffix⟩
  exact (List.mem_append.mp member).elim (closes i) (inside i)

theorem closing_suffix (suffix : task :: rest <:+ Task.shutdownSections) : Closing rest :=
  ⟨[], rest, rfl, by simp, (List.suffix_cons task rest).trans suffix⟩

/-- What follows a section are rounds of its loop. -/
theorem closes_section (suffix : task :: rest <:+ Task.shutdownSections) :
    ∀ i ∈ task.following orders x, i.closes = true := by
  intro i member
  have section_ : task ∈ Task.shutdownSections := suffix.subset List.mem_cons_self
  simp only [Task.shutdownSections, List.mem_cons, List.not_mem_nil, or_false] at section_
  rcases section_ with rfl | rfl | rfl | rfl | rfl | rfl | rfl | rfl | rfl | rfl | rfl | rfl
  · cases member
  · obtain ⟨m, -, rfl⟩ := List.mem_map.mp member
    rfl
  · cases member
  · cases member
  · obtain ⟨s, -, inside⟩ := List.mem_flatMap.mp member
    simp only [List.mem_cons, List.not_mem_nil, or_false] at inside
    rcases inside with rfl | rfl <;> rfl
  all_goals cases member

theorem closing_step (closing : Closing (task :: rest)) : Closing (task.following orders x ++ rest) := by
  rcases closing_section closing with ⟨closes, later⟩ | suffix
  · exact closing_round (Task.closes_following closes) later
  · exact closing_round (closes_section suffix) (closing_suffix suffix)

theorem shutdownAt_step (at_ : ShutdownAt (task :: rest)) : Closing (task.following orders x ++ rest) := by
  rcases at_ with begin | closing
  · cases begin
    exact ⟨[], Task.shutdownSections, List.append_nil _, by simp, List.suffix_refl _⟩
  · exact closing_step closing

theorem shaped_start (returns : List Returned) (states : List ChannelState) (users : List (List UserAction)) :
    ∀ t program, (runningThreads returns states users).programs[t]? = some program → Shaped t program := by
  intro t program found
  rcases t with _ | _ | _ | t
  · trivial
  · cases found
    exact ⟨[], [.channelMonitor states], rfl, by simp, rfl⟩
  · cases found
    exact .inl rfl
  · obtain ⟨actions, -, rfl⟩ := List.mem_map.mp (List.mem_of_getElem? found)
    intro task member
    obtain ⟨action, -, rfl⟩ := List.mem_map.mp member
    cases action <;> rfl

/-- **The shapes of the programs** are kept by every step. -/
theorem shaped_step {s s' : RunningThreads} {label : Nat × Orders}
    (shaped : ∀ t program, s.programs[t]? = some program → Shaped t program)
    (stepped : RunningThreads.step s label = some s') :
    ∀ t program, s'.programs[t]? = some program → Shaped t program := by
  refine Threads.shaped_step runningSemantics Shaped ?_ shaped stepped
  intro t x task rest orders shaped _
  rcases t with _ | _ | _ | t
  · trivial
  · exact monitorAt_step shaped
  · exact .inr (shutdownAt_step shaped)
  · obtain ⟨here, later⟩ := List.forall_mem_cons.mp shaped
    intro i member
    rcases List.mem_append.mp member with fresh | old
    · exact Task.uses_following here i fresh
    · exact later i old

theorem shaped_of_running {returns : List Returned} {states : List ChannelState}
    {users : List (List UserAction)} {allowed : RunningThreads → Nat × Orders → Prop} {s : RunningThreads}
    (reached : Reached RunningThreads.step allowed (runningThreads returns states users) s) :
    ∀ t program, s.programs[t]? = some program → Shaped t program :=
  reached.invariant (fun s => ∀ t program, s.programs[t]? = some program → Shaped t program)
    (shaped_start returns states users) fun _ _ _ shaped _ stepped => shaped_step shaped stepped

end Shapes

/-! ## The join of the monitor -/

/-- The thread is going to release the mutex and does not take it before. -/
def holds (mutex : Mutex) : List Task → Bool
  | [] => false
  | .client (.lock other) :: rest => other ≠ mutex && holds mutex rest
  | .client (.unlock other) :: rest => other = mutex || holds mutex rest
  | _ :: rest => holds mutex rest

/-- **The deadlock.**  `Shutdown` waits for the end of the monitor while it holds a mutex that
the monitor waits for before it looks at its flag again. -/
def JoinDeadlock (s : RunningThreads) : Prop :=
  ∃ mutex rest round states,
    s.programs[2]? = some (.joinChannelMonitor :: rest) ∧ holds mutex rest = true ∧
    s.programs[1]? = some (.client (.lock mutex) :: round) ∧ .channelMonitor states ∈ round ∧
    mutex ∈ s.held

def ShutdownHolds (s : RunningThreads) : Prop :=
  ∃ program, s.programs[2]? = some program ∧ holds .baseStationDataStorageList program = true

/-- The monitor has still to take the common lock. -/
def MonitorWants (s : RunningThreads) : Prop :=
  ∃ program, s.programs[1]? = some program ∧ lockStorages ∈ program

/-- **The two are apart**: `Shutdown` does not take the common lock while the monitor has still
to take it, and the monitor does not poll the channel newly ready while `Shutdown` holds it, be
its flag set by then or not. -/
structure Apart (s : RunningThreads) (label : Nat × Orders) : Prop where
  taken : label.1 = 2 → ∀ rest, s.programs[2]? = some (lockStorages :: rest) → ¬ MonitorWants s
  found : label.1 = 1 → ∀ states rest,
    s.programs[1]? = some (.getState .ready states :: rest) →
    s.shared.client.previousChannelState ≠ some .ready → ¬ ShutdownHolds s

section Join

variable {orders : Orders} {x : RunningClient} {task : Task} {rest : List Task} {mutex : Mutex}
  {s s' : RunningThreads} {label : Nat × Orders}

theorem holds_round {round : List Task} (closes : ∀ i ∈ round, i.closes = true) :
    holds mutex (round ++ rest) = holds mutex rest := by
  induction round with
  | nil => rfl
  | cons task round ih =>
      obtain ⟨here, later⟩ := List.forall_mem_cons.mp closes
      refine Eq.trans ?_ (ih later)
      cases task with
      | client instr => cases instr <;> first | (cases here; done) | rfl
      | _ => first | (cases here; done) | rfl

/-- `Shutdown` holds the common lock from the section on that takes it. -/
theorem holds_following (closing : Closing (task :: rest))
    (after : holds .baseStationDataStorageList (task.following orders x ++ rest) = true) :
    task = lockStorages ∨ holds .baseStationDataStorageList (task :: rest) = true := by
  rcases closing_section closing with ⟨closes, -⟩ | suffix
  · rw [holds_round (Task.closes_following closes)] at after
    refine .inr ?_
    rw [← List.singleton_append, holds_round fun i member => List.mem_singleton.mp member ▸ closes]
    exact after
  · rw [holds_round (closes_section suffix)] at after
    have section_ : task ∈ Task.shutdownSections := suffix.subset List.mem_cons_self
    simp only [Task.shutdownSections, List.mem_cons, List.not_mem_nil, or_false] at section_
    by_cases own : task = lockStorages
    · exact .inl own
    · refine .inr ?_
      rcases section_ with rfl | rfl | rfl | rfl | rfl | rfl | rfl | rfl | rfl | rfl | rfl | rfl
      all_goals first
        | exact absurd rfl own
        | exact after
        | rfl

/-- Nothing is held before `Shutdown` begins. -/
theorem holds_begin (orders : Orders) (x : RunningClient) :
    holds .baseStationDataStorageList (Task.following orders x .shutdown ++ []) = false := rfl

/-- At the join, `Shutdown` holds the lock of the base station storages and no other mutex. -/
theorem holds_join (closing : Closing (.joinChannelMonitor :: rest)) (held : holds mutex rest = true) :
    mutex = .baseStationDataStorageList := by
  rcases closing_section closing with ⟨closes, -⟩ | suffix
  · cases closes
  · simp only [Task.shutdownSections, List.suffix_cons_iff, List.cons.injEq, List.suffix_nil,
      reduceCtorEq, false_and, false_or, or_false, true_and] at suffix
    subst suffix
    simpa [holds, eq_comm] using held

/-- A step of the monitor brings it to the common lock only if it polls the channel newly ready. -/
theorem wants_following (at_ : MonitorAt (task :: rest))
    (wants : lockStorages ∈ task.following orders x ++ rest) :
    lockStorages ∈ task :: rest ∨ ∃ states, task = .getState .ready states ∧
      x.client.previousChannelState ≠ some .ready := by
  rcases List.mem_append.mp wants with fresh | old
  · obtain ⟨round, tail, program, inside, ends⟩ := at_
    cases round with
    | cons first round =>
        rw [List.cons_append, List.cons.injEq] at program
        obtain ⟨rfl, rfl⟩ := program
        rcases inside task List.mem_cons_self with monitors | rfl
        · cases Task.monitors_following monitors _ fresh
        · cases fresh
    | nil =>
        rw [List.nil_append] at program
        subst program
        cases task with
        | channelMonitor states =>
            have stopped : lockStorages ∉ (Instr.stopEventStream x.client).map Task.client ++
                [Task.endMonitor] := by
              intro member
              rcases List.mem_append.mp member with stop | last
              · cases stopEventStream_monitors _ _ stop
              · cases List.mem_singleton.mp last
            cases states with
            | nil => exact absurd fresh stopped
            | cons state states =>
                simp only [Task.following] at fresh
                split at fresh
                · exact absurd fresh stopped
                · cases List.mem_singleton.mp fresh
        | getState state states =>
            simp only [Task.following] at fresh
            split at fresh
            · rename_i changed
              rcases List.mem_append.mp fresh with round | last
              · rcases onChannelState_monitors x.client state _ round with monitors | ⟨-, rfl⟩
                · cases monitors
                · exact .inr ⟨states, rfl, changed⟩
              · cases List.mem_singleton.mp last
            · cases List.mem_singleton.mp fresh
        | endMonitor => cases fresh
        | _ => cases ends
  · exact .inl (List.mem_cons_of_mem _ old)

/-- **The two stay apart.** -/
theorem apart_step (shaped : ∀ t program, s.programs[t]? = some program → Shaped t program)
    (apart : ¬ (ShutdownHolds s ∧ MonitorWants s)) (allowed : Apart s label)
    (stepped : RunningThreads.step s label = some s') : ¬ (ShutdownHolds s' ∧ MonitorWants s') := by
  rintro ⟨⟨closing, found, held⟩, ⟨monitor, there, wants⟩⟩
  rcases Threads.program_after runningSemantics stepped found with
    ⟨other, before⟩ | ⟨here, task, rest, before, -, rfl⟩
  · have holds : ShutdownHolds s := ⟨closing, before, held⟩
    rcases Threads.program_after runningSemantics stepped there with
      ⟨-, before'⟩ | ⟨own, task, rest, before', -, rfl⟩
    · exact apart ⟨holds, monitor, before', wants⟩
    · rcases wants_following (shaped 1 _ before') wants with old | ⟨states, rfl, changed⟩
      · exact apart ⟨holds, _, before', old⟩
      · exact allowed.found own.symm states rest before' changed holds
  · rcases Threads.program_after runningSemantics stepped there with
      ⟨-, before'⟩ | ⟨own, -⟩
    · have wanting : MonitorWants s := ⟨monitor, before', wants⟩
      rcases shaped 2 _ before with begin | at_
      · cases begin
        cases (holds_begin label.2 s.shared).symm.trans held
      · rcases holds_following at_ held with rfl | old
        · exact allowed.taken here.symm rest before wanting
        · exact apart ⟨⟨_, before, old⟩, wanting⟩
    · rw [← own] at here
      cases here

end Join

/-- **The join does not deadlock while the two are apart**: in every state of every run, for all
states of the channel and all that the queue returns and the users do. -/
theorem joins_of_apart {returns : List Returned} {states : List ChannelState}
    {users : List (List UserAction)} {s : RunningThreads}
    (reached : Reached RunningThreads.step Apart (runningThreads returns states users) s) :
    ¬ JoinDeadlock s := by
  have apart : ¬ (ShutdownHolds s ∧ MonitorWants s) := by
    have start : ¬ (ShutdownHolds (runningThreads returns states users) ∧
        MonitorWants (runningThreads returns states users)) := by
      rintro ⟨⟨program, found, held⟩, -⟩
      cases found
      cases held
    have both := reached.invariant (fun s => (∀ t program, s.programs[t]? = some program → Shaped t program) ∧
        ¬ (ShutdownHolds s ∧ MonitorWants s)) ⟨shaped_start returns states users, start⟩
      (fun s s' label inv allowed stepped =>
        ⟨shaped_step inv.1 stepped, apart_step inv.1 inv.2 allowed stepped⟩)
    exact both.2
  rintro ⟨mutex, rest, round, states, found, held, there, -, -⟩
  rcases shaped_of_running reached 2 _ found with begin | closing
  · cases begin
  · have common := holds_join closing held
    subst common
    exact apart ⟨⟨_, found, held⟩, _, there, List.mem_cons_self⟩

/-- The monitor polls only while `Shutdown` does not hold the common lock, and the other threads
go on only while it is in no round. -/
def pollsBefore (s : RunningThreads) (label : Nat × Orders) : Bool :=
  if label.1 = 1 then
    match s.programs[1]? with
    | some (Task.getState _ _ :: _) =>
        (s.programs[2]?).all fun program => !holds .baseStationDataStorageList program
    | _ => true
  else (s.programs[1]?).all Task.monitorTail

theorem apart_of_pollsBefore (s : RunningThreads) (label : Nat × Orders) (before : pollsBefore s label = true) :
    Apart s label := by
  constructor
  · rintro closing rest - ⟨monitor, found, wants⟩
    rw [pollsBefore, if_neg (by omega), found] at before
    have tail : Task.monitorTail monitor = true := before
    unfold Task.monitorTail at tail
    split at tail
    · cases List.mem_singleton.mp wants
    · cases List.mem_singleton.mp wants
    · cases List.mem_singleton.mp wants
    · cases wants
    · cases tail
  · rintro monitor states rest polls - ⟨program, closing, held⟩
    rw [pollsBefore, if_pos monitor, polls, closing] at before
    have free : (!holds .baseStationDataStorageList program) = true := before
    rw [held] at free
    cases free

/-- The monitor has a whole round, and then finds its flag set while `Shutdown` is at the join. -/
theorem joins_of_apart_ended :
    ∃ s, Reached RunningThreads.step Apart (runningThreads [] [.ready] []) s ∧
      s.shared.monitorEnded = true ∧ s.shared.client.calls.length = 1 ∧
      s.held = [.baseStationDataStorageList] ∧ ¬ JoinDeadlock s := by
  have executed : (script (guarded pollsBefore RunningThreads.step)
      ((List.replicate 11 1 ++ List.replicate 7 2 ++ List.replicate 4 1).map fun i => (i, Orders.stored))
      (runningThreads [] [.ready] [])).any
      (fun s => s.shared.monitorEnded && s.shared.client.calls.length = 1 &&
        s.held = [.baseStationDataStorageList]) = true := by decide
  obtain ⟨s, executed, last⟩ := (Option.any_eq_true _ _).mp executed
  simp only [Bool.and_eq_true, decide_eq_true_eq] at last
  have reached := Reached.of_script pollsBefore apart_of_pollsBefore _ executed
  exact ⟨s, reached, last.1.1, last.1.2, last.2, joins_of_apart reached⟩

/-- The monitor polls the channel ready and opens the event stream, and then `Shutdown` takes the
common lock. -/
theorem join_deadlock :
    ¬ ∀ (returns : List Returned) (states : List ChannelState) (users : List (List UserAction))
      (s : RunningThreads),
      Reached RunningThreads.step (fun _ _ => True) (runningThreads returns states users) s →
        ¬ JoinDeadlock s := by
  intro claimed
  have executed : script RunningThreads.step
      ([1, 1, 1, 1, 2, 2, 2, 2, 2, 2, 2].map fun i => (i, Orders.stored))
      (runningThreads [] [.ready] []) = some _ := rfl
  have reached := Reached.of_any _ executed
  exact claimed [] [.ready] [] _ reached ⟨.baseStationDataStorageList, _, _, [], rfl, rfl, rfl, by simp, by decide⟩

end OmmoSdk.Client
