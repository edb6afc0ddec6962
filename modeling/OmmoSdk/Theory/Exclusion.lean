/-
# Theory.Exclusion — who is inside a mutex

A thread that holds a mutex still has to execute the instruction that gives it back, so
its program tells that it is inside.  `walk` reads this off: it follows the program from
where the thread is, and each instruction says where it may be met and where it leads
(`Turn`).  An instruction stands for all that replaces it, so one that is going to give the
mutex back does so in one turn, and one that takes and gives it is `calm`.

A `Discipline` is an account of this kind that fits what the instructions do.  Under it at
most one thread is inside (`Exclusive.step`), and an instruction that only occurs inside is
nowhere in the programs of the others (`Exclusive.others_outside`, `ne_within_of_outside`).
-/
import OmmoSdk.Theory.Threads

namespace OmmoSdk.Theory

set_option autoImplicit false

/-- Where a program is.  It has `entered` behind an instruction that takes the mutex and
is still to be executed: what only occurs inside cannot be there yet. -/
inductive Mode where
  | outside
  | entered
  | inside
  deriving DecidableEq, Repr

/-- What an instruction has to do with the mutex. -/
inductive Turn where
  /-- nothing at all -/
  | anywhere
  /-- it is met outside, and comes back there -/
  | calm
  | takes
  | gives
  /-- it is executed under the mutex -/
  | under
  /-- it only follows from another instruction that was executed under the mutex -/
  | within
  /-- the same, and gives the mutex back -/
  | ends
  | never
  deriving DecidableEq, Repr

/-- Where an instruction leads from each place, if it can be there. -/
def Turn.go : Turn → Mode → Option Mode
  | .anywhere, mode => some mode
  | .calm, .outside => some .outside
  | .takes, .outside => some .entered
  | .gives, .entered | .gives, .inside => some .outside
  | .under, .entered => some .entered
  | .under, .inside => some .inside
  | .within, .inside => some .inside
  | .ends, .inside => some .outside
  | _, _ => none

/-- One that has entered can go on as one that is inside. -/
theorem Turn.go_entered {turn : Turn} {mode : Mode} (goes : turn.go .entered = some mode) :
    turn.go .inside = some (if mode = .entered then .inside else mode) := by
  cases turn <;> cases goes <;> rfl

/-- Inside is only where one was put by taking the mutex. -/
theorem Turn.go_inside {turn : Turn} {mode : Mode} (goes : turn.go mode = some .inside) :
    mode = .inside := by
  cases turn <;> cases mode <;> first | rfl | cases goes

namespace Threads

variable {σ ι μ χ : Type}

/-- Where the program comes out. -/
def walk (turn : ι → Turn) (mode : Mode) (program : List ι) : Option Mode :=
  program.foldlM (fun mode instr => (turn instr).go mode) mode

section Walk

variable {turn : ι → Turn} {mode mode' : Mode} {instr : ι} {program rest : List ι}

@[simp] theorem walk_nil : walk turn mode [] = some mode := rfl

@[simp] theorem walk_cons :
    walk turn mode (instr :: rest) = ((turn instr).go mode).bind fun mode => walk turn mode rest := rfl

@[simp] theorem walk_append :
    walk turn mode (program ++ rest) = (walk turn mode program).bind fun mode => walk turn mode rest :=
  List.foldlM_append

theorem walk_cons_some {last : Mode} :
    walk turn mode (instr :: rest) = some last ↔
      ∃ mode', (turn instr).go mode = some mode' ∧ walk turn mode' rest = some last :=
  Option.bind_eq_some_iff

/-- A loop whose rounds all come back to where they start. -/
theorem walk_map {α : Type} {round : α → ι} (comes : ∀ x, (turn (round x)).go mode = some mode)
    (xs : List α) :
    walk turn mode (xs.map round) = some mode := by
  induction xs with
  | nil => rfl
  | cons x xs ih => rw [List.map_cons, walk_cons, comes, Option.bind_some, ih]

/-- What comes after such a loop begins where the loop does. -/
theorem walk_loop {α : Type} {round : α → ι} (comes : ∀ x, (turn (round x)).go mode = some mode)
    (xs : List α) :
    walk turn mode (xs.map round ++ rest) = walk turn mode rest := by
  rw [walk_append, walk_map comes, Option.bind_some]

end Walk

/-- The turns fit what the instructions do to the mutex `x`. -/
structure Discipline (sem : Semantics σ ι μ χ) (x : μ) (turn : ι → Turn) : Prop where
  takes : ∀ choice w instr, sem.locks choice w instr = some x →
    turn instr = .takes ∧ sem.unlocks instr = none ∧ sem.next choice w instr = []
  gives : ∀ choice w instr, sem.unlocks instr = some x →
    turn instr = .gives ∧ sem.next choice w instr = []
  /-- what replaces an instruction leads to the same place -/
  others : ∀ choice w instr, sem.locks choice w instr ≠ some x → sem.unlocks instr ≠ some x →
    ∀ mode mode', mode ≠ .entered → (turn instr).go mode = some mode' →
      walk turn mode (sem.next choice w instr) = some mode'

section Walks

variable {turn : ι → Turn} {mode : Mode} {program : List ι}

theorem walk_entered (walked : walk turn .entered program = some .outside) :
    walk turn .inside program = some .outside := by
  induction program with
  | nil => cases walked
  | cons instr rest ih =>
      obtain ⟨mode, first, later⟩ := walk_cons_some.mp walked
      rw [walk_cons, Turn.go_entered first, Option.bind_some]
      by_cases stays : mode = .entered
      · rw [if_pos stays]
        exact ih (stays ▸ later)
      · rw [if_neg stays]
        exact later

/-- Every instruction of a program is met somewhere, where no turn leads out of. -/
theorem walk_meets {g : Mode → Prop} {last : Mode}
    (kept : ∀ (turn : Turn) mode mode', g mode → turn.go mode = some mode' → g mode')
    (walked : walk turn mode program = some last) (here : g mode) :
    ∀ instr ∈ program, ∃ mode, g mode ∧ (turn instr).go mode ≠ none := by
  induction program generalizing mode with
  | nil =>
      intro instr member
      cases member
  | cons first rest ih =>
      obtain ⟨mode', goes, later⟩ := walk_cons_some.mp walked
      intro instr member
      rcases List.mem_cons.mp member with rfl | other
      · exact ⟨mode, here, by rw [goes]; exact Option.some_ne_none _⟩
      · exact ih later (kept _ _ _ here goes) instr other

/-- Outside there is no instruction that only occurs inside. -/
theorem ne_within_of_outside {last : Mode} (walked : walk turn .outside program = some last) :
    ∀ instr ∈ program, turn instr ≠ .within ∧ turn instr ≠ .ends := by
  have met := walk_meets (g := fun mode => mode ≠ .inside)
    (fun _ _ _ outside goes same => outside (Turn.go_inside (same ▸ goes))) walked (by decide)
  intro instr member
  obtain ⟨mode, outside, goes⟩ := met instr member
  constructor
  · intro within
    rw [within] at goes
    cases mode <;> simp_all [Turn.go]
  · intro ends
    rw [ends] at goes
    cases mode <;> simp_all [Turn.go]

theorem ne_never {last : Mode} (walked : walk turn mode program = some last) :
    ∀ instr ∈ program, turn instr ≠ .never := by
  intro instr member never
  obtain ⟨mode, -, goes⟩ := walk_meets (g := fun _ => True) (fun _ _ _ _ _ => trivial) walked
    trivial instr member
  rw [never] at goes
  exact goes rfl

end Walks

/-- At most one thread is inside, and then the mutex is held. -/
def Exclusive (x : μ) (turn : Nat → ι → Turn) (s : Threads σ ι μ) : Prop :=
  ∃ holder : Option Nat, (∀ t, holder = some t → x ∈ s.held) ∧
    ∀ t program, s.programs[t]? = some program →
      walk (turn t) (if holder = some t then .inside else .outside) program = some .outside

section Exclusive

variable {sem : Semantics σ ι μ χ} {x : μ} {turn : Nat → ι → Turn} {s s' : Threads σ ι μ}
  {label : Nat × χ}

/-- While one thread is inside, all others are outside. -/
theorem Exclusive.others_outside (exclusive : Exclusive x turn s) {t : Nat} {program : List ι}
    (current : s.programs[t]? = some program) (inside : walk (turn t) .outside program = none) :
    ∀ t', t' ≠ t → ∀ program', s.programs[t']? = some program' →
      walk (turn t') .outside program' = some .outside := by
  obtain ⟨holder, -, walks⟩ := exclusive
  have owner : holder = some t := by
    by_contra other
    have walked := walks t program current
    rw [if_neg other, inside] at walked
    cases walked
  intro t' other program' found
  have walked := walks t' program' found
  rwa [if_neg (by rw [owner]; simpa using Ne.symm other)] at walked

/-- The programs after a step of thread `t`, if what thread `t` is left with fits. -/
theorem walk_set {holder holder' : Option Nat} {t : Nat} {program : List ι}
    (before : ∀ t' program, s.programs[t']? = some program →
      walk (turn t') (if holder = some t' then .inside else .outside) program = some .outside)
    (same : ∀ t', t' ≠ t → (holder' = some t' ↔ holder = some t'))
    (own : walk (turn t) (if holder' = some t then .inside else .outside) program = some .outside) :
    ∀ t' program', (s.programs.set t program)[t']? = some program' →
      walk (turn t') (if holder' = some t' then .inside else .outside) program' = some .outside := by
  intro t' program' found
  by_cases here : t = t'
  · subst here
    have inside : t < s.programs.length := by
      have := (List.getElem?_eq_some_iff.mp found).1
      rwa [List.length_set] at this
    rw [List.getElem?_set_self inside] at found
    exact Option.some.inj found ▸ own
  · rw [List.getElem?_set_ne here] at found
    simp only [same t' (Ne.symm here)]
    exact before t' program' found

variable [DecidableEq μ]

/-- A step, and what it does to the mutexes. -/
theorem step_held (stepped : step sem s label = some s') :
    ∃ instr rest, s.programs[label.1]? = some (instr :: rest) ∧
      free sem label.2 s instr = true ∧ s'.held = heldAfter sem label.2 s instr ∧
      s'.programs = s.programs.set label.1 (sem.next label.2 s.shared instr ++ rest) := by
  unfold step at stepped
  split at stepped
  · rename_i instr rest current
    split at stepped
    · rename_i ready
      cases stepped
      rw [Bool.and_eq_true] at ready
      exact ⟨instr, rest, current, ready.2, rfl, rfl⟩
    · cases stepped
  · cases stepped

/-- A mutex that is taken was free. -/
theorem not_held_of_locks {choice : χ} {instr : ι} (ready : free sem choice s instr = true)
    (locks : sem.locks choice s.shared instr = some x) : x ∉ s.held := by
  have all := List.all_eq_true.mp ready x
    (List.mem_append_right _ (by rw [locks]; exact List.mem_singleton_self x))
  exact of_decide_eq_true all

/-- A mutex that is not given back stays held. -/
theorem held_of_kept {choice : χ} {instr : ι} (held : x ∈ s.held) (keeps : sem.unlocks instr ≠ some x) :
    x ∈ heldAfter sem choice s instr := by
  unfold heldAfter
  cases given : sem.unlocks instr with
  | none => exact List.mem_append_right _ held
  | some mutex =>
      refine (List.mem_erase_of_ne ?_).mpr held
      rintro rfl
      exact keeps given

theorem Exclusive.step (discipline : ∀ t, Discipline sem x (turn t)) (exclusive : Exclusive x turn s)
    (stepped : step sem s label = some s') : Exclusive x turn s' := by
  obtain ⟨holder, held, walks⟩ := exclusive
  obtain ⟨instr, rest, current, ready, held', programs'⟩ := step_held stepped
  obtain ⟨mode, first, later⟩ := walk_cons_some.mp (walks label.1 _ current)
  unfold Exclusive
  rw [programs', held']
  by_cases locks : sem.locks label.2 s.shared instr = some x
  · obtain ⟨takes, keeps, last⟩ := (discipline label.1).takes _ _ _ locks
    have free : holder = none := by
      rw [Option.eq_none_iff_forall_ne_some]
      intro t inside
      exact not_held_of_locks ready locks (held t inside)
    subst free
    rw [takes, if_neg (by simp)] at first
    cases first
    refine ⟨some label.1, fun t _ => ?_, walk_set walks (fun t' other => ?_) ?_⟩
    · rw [heldAfter, keeps, locks]
      exact List.mem_cons_self
    · simp [Ne.symm other]
    · rw [last, if_pos rfl]
      exact walk_entered later
  · by_cases unlocks : sem.unlocks instr = some x
    · obtain ⟨gives, last⟩ := (discipline label.1).gives label.2 s.shared instr unlocks
      have owner : holder = some label.1 := by
        by_contra other
        rw [gives, if_neg other] at first
        cases first
      rw [gives, if_pos owner] at first
      cases first
      refine ⟨none, (fun t inside => by cases inside), walk_set walks (fun t' other => ?_) ?_⟩
      · simp [owner, Ne.symm other]
      · rw [last, if_neg (by simp)]
        exact later
    · refine ⟨holder, fun t inside => held_of_kept (held t inside) unlocks,
        walk_set walks (fun _ _ => .rfl) ?_⟩
      have outcome := (discipline label.1).others label.2 s.shared instr locks unlocks
        (if holder = some label.1 then .inside else .outside) mode (by split <;> decide) first
      rw [walk_append, outcome]
      exact later

end Exclusive

end Threads

end OmmoSdk.Theory
