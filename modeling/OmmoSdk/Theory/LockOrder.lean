/-
# Theory.LockOrder — mutexes taken in one order

Threads whose mutexes have ranks, and which take a mutex only while all they hold have lower
ranks, never wait for each other in a circle.  What a thread holds is read off its program, as in
`Theory.Exclusion`, but for all mutexes at once: `owning` follows the program, and each
instruction says what it does to the mutexes the thread owns (`LockUse`).

* `Holding`: the held mutexes are those that the threads own.  It is kept by every step
  (`Holding.step`).
* `holding_stuck`: where no thread can take a step, nothing is held, and what is left of each
  program waits for something else than a mutex.
* `wellFounded_step`: if each instruction is replaced by smaller ones, no run is infinite.
-/
import Mathlib.Logic.Hydra
import OmmoSdk.Theory.Exclusion

namespace OmmoSdk.Theory

set_option autoImplicit false

/-- What an instruction, with all that replaces it, does to the mutexes its thread owns. -/
inductive LockUse (μ : Type) where
  | takes (x : μ)
  | gives (x : μ)
  /-- it may take and give back mutexes from the rank on -/
  | under (rank : Nat)
  | never

/-- What is owned before and after the share of one thread changes. -/
theorem flatten_set_own {α : Type} (new : List α) {own : List α} :
    ∀ {owns : List (List α)} {i : Nat}, owns[i]? = some own →
      ∃ others, owns.flatten.Perm (own ++ others) ∧ (owns.set i new).flatten.Perm (new ++ others) := by
  intro owns
  induction owns with
  | nil => intro i current; cases current
  | cons first owns ih =>
      intro i current
      cases i with
      | zero =>
          cases current
          exact ⟨owns.flatten, .refl _, .refl _⟩
      | succ i =>
          obtain ⟨others, before, after⟩ := ih (i := i) current
          refine ⟨first ++ others, ?_, ?_⟩
          · exact (before.append_left first).trans (List.perm_append_comm_assoc first own others)
          · exact (after.append_left first).trans (List.perm_append_comm_assoc first new others)

variable {σ ι μ χ : Type} [DecidableEq μ]

/-- The mutexes owned afterwards, if the instruction may be met with those owned before. -/
def LockUse.after (rank : μ → Nat) : LockUse μ → List μ → Option (List μ)
  | takes x, own => if ∀ y ∈ own, rank y < rank x then some (x :: own) else none
  | gives x, y :: own => if y = x ∧ ∀ y ∈ own, rank y < rank x then some own else none
  | under n, own => if ∀ y ∈ own, rank y < n then some own else none
  | _, _ => none

/-- What a thread owns behind a program. -/
def owning (rank : μ → Nat) (uses : ι → LockUse μ) : List μ → List ι → Option (List μ)
  | own, [] => some own
  | own, instr :: rest => ((uses instr).after rank own).bind fun own => owning rank uses own rest

section Owning

variable {rank : μ → Nat} {uses : ι → LockUse μ} {own own' : List μ} {instr : ι} {rest program : List ι}

@[simp] theorem owning_nil : owning rank uses own ([] : List ι) = some own := rfl

@[simp] theorem owning_cons : owning rank uses own (instr :: rest) =
    ((uses instr).after rank own).bind fun own => owning rank uses own rest := rfl

@[simp] theorem owning_append (later : List ι) : owning rank uses own (program ++ later) =
    (owning rank uses own program).bind fun own => owning rank uses own later := by
  induction program generalizing own with
  | nil => rfl
  | cons instr rest ih =>
      rw [List.cons_append, owning_cons, owning_cons, Option.bind_assoc]
      congr 1
      funext own
      exact ih

theorem after_under {n : Nat} (below : ∀ y ∈ own, rank y < n) :
    (LockUse.under n).after rank own = some own := if_pos below

theorem after_takes {x : μ} (below : ∀ y ∈ own, rank y < rank x) :
    (LockUse.takes x).after rank own = some (x :: own) := if_pos below

theorem after_gives {x : μ} (below : ∀ y ∈ own, rank y < rank x) :
    (LockUse.gives x).after rank (x :: own) = some own := if_pos ⟨rfl, below⟩

/-- Instructions that are met with any mutexes below a rank leave them. -/
theorem owning_under {n : Nat} (below : ∀ y ∈ own, rank y < n)
    (each : ∀ instr ∈ program, ∃ m, n ≤ m ∧ uses instr = .under m) :
    owning rank uses own program = some own := by
  induction program with
  | nil => rfl
  | cons instr rest ih =>
      obtain ⟨m, most, use⟩ := each instr List.mem_cons_self
      rw [owning_cons, use, after_under fun y member => Nat.lt_of_lt_of_le (below y member) most]
      exact ih fun i member => each i (List.mem_cons_of_mem _ member)

end Owning

namespace Threads

/-! ## Deadlock -/

/-- What the thread that executes the instruction owns right after it. -/
def ownAfter (sem : Semantics σ ι μ χ) (choice : χ) (shared : σ) (instr : ι) (own : List μ) : List μ :=
  match sem.unlocks instr with
  | some mutex => own.erase mutex
  | none => (sem.locks choice shared instr).toList ++ own

/-- An account of the mutexes that fits the instructions, for the choices of `condition`. -/
structure LockOrder (sem : Semantics σ ι μ χ) (rank : μ → Nat) (uses : ι → LockUse μ)
    (condition : σ → ι → χ → Prop) : Prop where
  keeps : ∀ choice shared instr own own', condition shared instr choice →
    (uses instr).after rank own = some own' →
    owning rank uses (ownAfter sem choice shared instr own) (sem.next choice shared instr) = some own'
  takes : ∀ choice shared instr own own', (uses instr).after rank own = some own' →
    ∀ x ∈ sem.needs shared instr ++ (sem.locks choice shared instr).toList, ∀ y ∈ own, rank y < rank x
  gives : ∀ instr own own' x, (uses instr).after rank own = some own' →
    sem.unlocks instr = some x → x ∈ own
  waits : ∀ shared instr own own', (uses instr).after rank own = some own' →
    sem.enabled shared instr = false → own = []

/-- What is held is what the threads own, each as much as it is going to give back. -/
def Holding (rank : μ → Nat) (uses : ι → LockUse μ) (s : Threads σ ι μ) : Prop :=
  ∃ owns : List (List μ), owns.length = s.programs.length ∧ s.held.Perm owns.flatten ∧
    ∀ (t : Nat) (own : List μ) (program : List ι), owns[t]? = some own →
      s.programs[t]? = some program →
      owning rank uses own program = some []

variable {sem : Semantics σ ι μ χ} {rank : μ → Nat} {uses : ι → LockUse μ}
  {condition : σ → ι → χ → Prop} {s s' : Threads σ ι μ} {label : Nat × χ}

/-- Threads that have yet to start own nothing. -/
theorem holding_start (held : s.held = []) (programs : ∀ program ∈ s.programs, ∀ instr ∈ program,
    ∃ n, uses instr = .under n) : Holding rank uses s := by
  refine ⟨s.programs.map fun _ => [], List.length_map _, ?_, fun t own program owns found => ?_⟩
  · have nothing : (s.programs.map fun _ => ([] : List μ)).flatten = [] := by simp
    rw [held, nothing]
  · rw [List.getElem?_map, found] at owns
    cases owns
    refine owning_under (n := 0) (fun y member => absurd member List.not_mem_nil) ?_
    intro instr member
    obtain ⟨n, use⟩ := programs program (List.mem_of_getElem? found) instr member
    exact ⟨n, Nat.zero_le n, use⟩

/-- **One step.** -/
theorem Holding.step (order : LockOrder sem rank uses condition) (holding : Holding rank uses s)
    (met : ∀ instr rest, s.programs[label.1]? = some (instr :: rest) →
      condition s.shared instr label.2)
    (stepped : step sem s label = some s') : Holding rank uses s' := by
  obtain ⟨owns, length, perm, walks⟩ := holding
  obtain ⟨instr, rest, current, -, held, programs⟩ := step_held stepped
  have inside : label.1 < owns.length := by
    rw [length]
    exact (List.getElem?_eq_some_iff.mp current).1
  have share : owns[label.1]? = some owns[label.1] := List.getElem?_eq_getElem inside
  generalize owns[label.1] = own at share
  have walked := walks label.1 own _ share current
  rw [owning_cons] at walked
  obtain ⟨own', first, later⟩ := Option.bind_eq_some_iff.mp walked
  obtain ⟨others, before, after⟩ :=
    flatten_set_own (ownAfter sem label.2 s.shared instr own) share
  refine ⟨owns.set label.1 (ownAfter sem label.2 s.shared instr own), ?_, ?_, ?_⟩
  · rw [List.length_set, programs, List.length_set, length]
  · -- The held mutexes change as the share of the thread does.
    rw [held]
    refine List.Perm.trans ?_ after.symm
    have split := perm.trans before
    unfold heldAfter ownAfter
    cases unlocks : sem.unlocks instr with
    | none =>
        rw [List.append_assoc]
        exact split.append_left _
    | some x =>
        have owned := order.gives instr own own' x first unlocks
        rw [← List.erase_append_left _ owned]
        exact split.erase x
  · intro t share' program owned found
    rw [programs] at found
    by_cases here : label.1 = t
    · subst here
      rw [List.getElem?_set_self inside] at owned
      rw [List.getElem?_set_self (by rw [← length]; exact inside)] at found
      cases owned
      cases found
      rw [owning_append, order.keeps label.2 s.shared instr own own' (met instr rest current) first]
      exact later
    · rw [List.getElem?_set_ne here] at owned found
      exact walks t share' program owned found

/-- A thread that cannot take its step with any choice waits, or some mutex it needs is held. -/
theorem blocked_of_stuck {t : Nat} {instr : ι} {rest : List ι} {choice : χ}
    (stuck : step sem s (t, choice) = none) (current : s.programs[t]? = some (instr :: rest))
    (enabled : sem.enabled s.shared instr = true) :
    ∃ x ∈ sem.needs s.shared instr ++ (sem.locks choice s.shared instr).toList, x ∈ s.held := by
  by_contra none
  have ready : free sem choice s instr = true := by
    refine List.all_eq_true.mpr fun x member => ?_
    exact decide_eq_true fun held => none ⟨x, member, held⟩
  simp [Threads.step, current, enabled, ready] at stuck

/-- **No deadlock.**  A mutex that is held is held by a thread that waits for one of a higher
rank, and the ranks are bounded. -/
theorem holding_stuck {bound : Nat} (order : LockOrder sem rank uses condition)
    (bounded : ∀ x, rank x ≤ bound) (choice : χ) (holding : Holding rank uses s)
    (stuck : ∀ t, step sem s (t, choice) = none) :
    s.held = [] ∧ ∀ (t : Nat) (instr : ι) (rest : List ι), s.programs[t]? = some (instr :: rest) →
      sem.enabled s.shared instr = false := by
  obtain ⟨owns, length, perm, walks⟩ := holding
  have nothing : ∀ n x, bound - rank x = n → x ∉ s.held := by
    intro n
    induction n using Nat.strong_induction_on with
    | _ n ih =>
        intro x left held
        obtain ⟨own, share, owned⟩ := List.mem_flatten.mp (perm.mem_iff.mp held)
        obtain ⟨t, inside, found⟩ := List.getElem_of_mem share
        have share : owns[t]? = some own := by rw [List.getElem?_eq_getElem inside, found]
        have there : t < s.programs.length := length ▸ inside
        have current : s.programs[t]? = some s.programs[t] := List.getElem?_eq_getElem there
        have walked := walks t own _ share current
        -- The owner has still to give the mutex back.
        cases program : s.programs[t] with
        | nil =>
            rw [program, owning_nil] at walked
            cases walked
            exact List.not_mem_nil owned
        | cons instr rest =>
            rw [program, owning_cons] at walked
            obtain ⟨own', first, -⟩ := Option.bind_eq_some_iff.mp walked
            rw [program] at current
            cases enabled : sem.enabled s.shared instr with
            | false =>
                rw [order.waits s.shared instr own own' first enabled] at owned
                exact List.not_mem_nil owned
            | true =>
                obtain ⟨y, wanted, taken⟩ := blocked_of_stuck (stuck t) current enabled
                have higher := order.takes choice s.shared instr own own' first y wanted x owned
                have most := bounded y
                exact ih (bound - rank y) (by omega) y rfl taken
  have none : s.held = [] := List.eq_nil_iff_forall_not_mem.mpr fun x => nothing _ x rfl
  refine ⟨none, fun t instr rest current => ?_⟩
  by_contra enabled
  obtain ⟨x, -, held⟩ := blocked_of_stuck (stuck t) current (by simpa using enabled)
  exact nothing _ x rfl held

/-! ## Termination -/

/-- **No run is infinite**: the instructions that are left become a multiset of smaller ones. -/
theorem wellFounded_step {smaller : ι → ι → Prop} (wf : WellFounded smaller)
    (descends : ∀ choice shared instr, ∀ i ∈ sem.next choice shared instr, smaller i instr) :
    WellFounded fun s' s : Threads σ ι μ => ∃ label, step sem s label = some s' := by
  refine Subrelation.wf ?_ (InvImage.wf (fun s : Threads σ ι μ => (s.programs.flatten : Multiset ι))
    wf.cutExpand)
  rintro s' s ⟨label, stepped⟩
  obtain ⟨instr, rest, current, -, -, programs⟩ := step_cases stepped
  obtain ⟨others, before, after⟩ := flatten_set (sem.next label.2 s.shared instr) current
  refine ⟨sem.next label.2 s.shared instr, instr, descends label.2 s.shared instr, ?_⟩
  show (s'.programs.flatten : Multiset ι) + {instr} = (s.programs.flatten : Multiset ι) + _
  rw [programs, Multiset.coe_eq_coe.mpr before, Multiset.coe_eq_coe.mpr after,
    ← Multiset.cons_coe, ← Multiset.coe_add, ← Multiset.singleton_add]
  abel

end Threads

end OmmoSdk.Theory
