/-
# Theory.Threads — threads that run instructions on a shared state

A thread is the list of the instructions it has still to execute.  A step executes the
first instruction of one thread: it changes the shared state and puts the instructions
that are to follow in front of the rest.  So a call is an instruction that is replaced
by those of its body, and a loop is one that is replaced by those of its rounds.

Mutexes are kept as the list of the held ones.  An instruction may take and release
mutexes for itself (`needs`), keep one for later instructions (`locks`) or give one
back (`unlocks`).

* `invariant_of_kept`: an invariant of the shared state and of the pending instructions
  is shown instruction by instruction, whichever thread executes it;
* `Executes`: what one thread does while no other one runs, composed by
  `Executes.append`.
-/
import OmmoSdk.Theory.Reach

namespace OmmoSdk.Theory

set_option autoImplicit false

/-- What an instruction does.  `χ` are the choices left open, as the order of a loop. -/
structure Semantics (σ ι μ χ : Type) where
  enabled : σ → ι → Bool
  needs : σ → ι → List μ
  locks : χ → σ → ι → Option μ
  unlocks : ι → Option μ
  run : χ → σ → ι → σ
  next : χ → σ → ι → List ι

structure Threads (σ ι μ : Type) where
  shared : σ
  held : List μ
  programs : List (List ι)

namespace Threads

variable {σ ι μ χ : Type}

/-- The instructions that some thread has still to execute. -/
def pending (s : Threads σ ι μ) : Set ι := { instr | instr ∈ s.programs.flatten }

/-- Every thread has executed all its instructions. -/
def Finished (s : Threads σ ι μ) : Prop := ∀ program ∈ s.programs, program = []

theorem flatten_of_finished {s : Threads σ ι μ} (finished : s.Finished) : s.programs.flatten = [] := by
  rw [List.flatten_eq_nil_iff]
  exact finished

variable [DecidableEq μ] (sem : Semantics σ ι μ χ)

/-- Whether the mutexes that the instruction takes are free. -/
def free (choice : χ) (s : Threads σ ι μ) (instr : ι) : Bool :=
  (sem.needs s.shared instr ++ (sem.locks choice s.shared instr).toList).all fun mutex =>
    mutex ∉ s.held

def heldAfter (choice : χ) (s : Threads σ ι μ) (instr : ι) : List μ :=
  match sem.unlocks instr with
  | some mutex => s.held.erase mutex
  | none => (sem.locks choice s.shared instr).toList ++ s.held

/-- Thread `label.1` executes its first instruction, with the choice `label.2`. -/
def step (s : Threads σ ι μ) (label : Nat × χ) : Option (Threads σ ι μ) :=
  match s.programs[label.1]? with
  | some (instr :: rest) =>
      if sem.enabled s.shared instr && free sem label.2 s instr then
        some {
          shared := sem.run label.2 s.shared instr
          held := heldAfter sem label.2 s instr
          programs := s.programs.set label.1 (sem.next label.2 s.shared instr ++ rest) }
      else none
  | _ => none

/-- A condition on the instruction that is executed, and on the state it is executed in. -/
def Under (condition : σ → Set ι → ι → χ → Prop) (s : Threads σ ι μ) (label : Nat × χ) : Prop :=
  ∀ instr rest, s.programs[label.1]? = some (instr :: rest) →
    condition s.shared s.pending instr label.2

section Steps

variable {sem} {s s' : Threads σ ι μ} {label : Nat × χ}

/-- All that a step does. -/
theorem step_cases (stepped : step sem s label = some s') :
    ∃ instr rest, s.programs[label.1]? = some (instr :: rest) ∧
      sem.enabled s.shared instr = true ∧
      s'.shared = sem.run label.2 s.shared instr ∧
      s'.programs = s.programs.set label.1 (sem.next label.2 s.shared instr ++ rest) := by
  unfold step at stepped
  split at stepped
  · rename_i instr rest current
    split at stepped
    · rename_i ready
      cases stepped
      rw [Bool.and_eq_true] at ready
      exact ⟨instr, rest, current, ready.1, rfl, rfl⟩
    · cases stepped
  · cases stepped

/-- The thread that takes the step goes on with what the instruction leaves to do. -/
theorem step_own {instr : ι} {rest : List ι} (stepped : step sem s label = some s')
    (current : s.programs[label.1]? = some (instr :: rest)) :
    s'.programs[label.1]? = some (sem.next label.2 s.shared instr ++ rest) := by
  obtain ⟨instr', rest', current', -, -, programs⟩ := step_cases stepped
  rw [current] at current'
  cases current'
  rw [programs, List.getElem?_set_self (List.getElem?_eq_some_iff.mp current).1]

/-- The others are where they were. -/
theorem step_other {t : Nat} (stepped : step sem s label = some s') (other : t ≠ label.1) :
    s'.programs[t]? = s.programs[t]? := by
  obtain ⟨_, _, -, -, -, programs⟩ := step_cases stepped
  rw [programs, List.getElem?_set_ne (Ne.symm other)]

end Steps

/-- The pending instructions before and after one of them is replaced. -/
theorem flatten_set (new : List ι) {instr : ι} {rest : List ι} :
    ∀ {programs : List (List ι)} {i : Nat}, programs[i]? = some (instr :: rest) →
      ∃ others, programs.flatten.Perm (instr :: others) ∧
        (programs.set i (new ++ rest)).flatten.Perm (new ++ others) := by
  intro programs
  induction programs with
  | nil => intro i current; cases current
  | cons program programs ih =>
      intro i current
      cases i with
      | zero =>
          cases current
          refine ⟨rest ++ programs.flatten, .refl _, ?_⟩
          rw [List.set_cons_zero, List.flatten_cons, List.append_assoc]
      | succ i =>
          obtain ⟨others, before, after⟩ := ih (i := i) current
          refine ⟨program ++ others, ?_, ?_⟩
          · exact (before.append_left program).trans List.perm_middle
          · rw [List.set_cons_succ, List.flatten_cons]
            apply (after.append_left program).trans
            rw [← List.append_assoc, ← List.append_assoc]
            exact List.perm_append_comm.append_right others

/-- **An invariant, instruction by instruction.**  It may speak of the shared state and of
the pending instructions, but not of how these are spread over the threads. -/
theorem invariant_of_kept (inv : σ → List ι → Prop) {condition : σ → Set ι → ι → χ → Prop}
    {start s : Threads σ ι μ}
    (perm : ∀ shared instrs instrs', instrs.Perm instrs' → inv shared instrs → inv shared instrs')
    (initial : inv start.shared start.programs.flatten)
    (kept : ∀ shared instr others choice, inv shared (instr :: others) →
      sem.enabled shared instr = true → condition shared { x | x ∈ instr :: others } instr choice →
      inv (sem.run choice shared instr) (sem.next choice shared instr ++ others))
    (reached : Reached (step sem) (Under condition) start s) : inv s.shared s.programs.flatten := by
  refine reached.invariant (fun s => inv s.shared s.programs.flatten) initial ?_
  intro s s' label holds under stepped
  obtain ⟨instr, rest, current, enabled, shared, programs⟩ := step_cases stepped
  obtain ⟨others, before, after⟩ := flatten_set (sem.next label.2 s.shared instr) current
  have met := under instr rest current
  have same : s.pending = { x | x ∈ instr :: others } := Set.ext fun x => before.mem_iff
  rw [same] at met
  rw [shared, programs]
  exact perm _ _ _ after.symm
    (kept s.shared instr others label.2 (perm _ _ _ before holds) enabled met)

/-- The program of a thread after a step of some thread. -/
theorem program_after {s s' : Threads σ ι μ} {label : Nat × χ} {t : Nat} {program : List ι}
    (stepped : step sem s label = some s') (found : s'.programs[t]? = some program) :
    t ≠ label.1 ∧ s.programs[t]? = some program ∨
      t = label.1 ∧ ∃ instr rest, s.programs[t]? = some (instr :: rest) ∧
        sem.enabled s.shared instr = true ∧ program = sem.next label.2 s.shared instr ++ rest := by
  obtain ⟨instr, rest, current, enabled, -, programs⟩ := step_cases stepped
  rw [programs, List.getElem?_set] at found
  by_cases same : label.1 = t
  · rw [if_pos same, if_pos (List.getElem?_eq_some_iff.mp current).1] at found
    exact .inr ⟨same.symm, instr, rest, same ▸ current, enabled, (Option.some.inj found).symm⟩
  · rw [if_neg same] at found
    exact .inl ⟨Ne.symm same, found⟩

/-- **Every thread stays in its shape**, if each of its instructions leaves it there. -/
theorem shaped_step (shape : Nat → List ι → Prop)
    (kept : ∀ t shared instr rest choice, shape t (instr :: rest) → sem.enabled shared instr = true →
      shape t (sem.next choice shared instr ++ rest))
    {s s' : Threads σ ι μ} {label : Nat × χ}
    (shaped : ∀ t program, s.programs[t]? = some program → shape t program)
    (stepped : step sem s label = some s') :
    ∀ t program, s'.programs[t]? = some program → shape t program := by
  intro t program found
  rcases program_after sem stepped found with ⟨-, same⟩ | ⟨-, instr, rest, current, enabled, rfl⟩
  · exact shaped t program same
  · exact kept t s.shared instr rest label.2 (shaped t _ current) enabled

/-! ## One thread alone -/

/-- A thread that is at `program` comes to its end, from shared state `x` to `y` and with
the held mutexes `before` to `after`, if no other thread takes a step. -/
def Executes (choice : χ) (x : σ) (before : List μ) (program : List ι) (y : σ) (after : List μ) :
    Prop :=
  ∀ rest, Reached (step sem) (fun _ label => label = (0, choice))
    { shared := x, held := before, programs := [program ++ rest] }
    { shared := y, held := after, programs := [rest] }

section Executes

variable {sem} {choice : χ} {x y z : σ} {held held' held'' : List μ} {program later : List ι}
  {instr : ι}

theorem Executes.nil : Executes sem choice x held [] x held := fun _ => .start

theorem Executes.append (first : Executes sem choice x held program y held')
    (second : Executes sem choice y held' later z held'') :
    Executes sem choice x held (program ++ later) z held'' := by
  intro rest
  rw [List.append_assoc]
  exact (first (later ++ rest)).trans (second rest)

/-- One instruction, and then those that replace it. -/
theorem Executes.cons (enabled : sem.enabled x instr = true)
    (ready : free sem choice ⟨x, held, []⟩ instr = true)
    (body : Executes sem choice (sem.run choice x instr) (heldAfter sem choice ⟨x, held, []⟩ instr)
      (sem.next choice x instr) y held') :
    Executes sem choice x held [instr] y held' := by
  intro rest
  have ready' : free sem choice ⟨x, held, [instr :: rest]⟩ instr = true := ready
  have stepped : step sem ⟨x, held, [instr :: rest]⟩ (0, choice) =
      some ⟨sem.run choice x instr, heldAfter sem choice ⟨x, held, []⟩ instr,
        [sem.next choice x instr ++ rest]⟩ := by
    simp [step, enabled, ready', heldAfter]
  exact (Reached.next .start (by rfl) stepped).trans (body rest)

end Executes

end Threads

end OmmoSdk.Theory
