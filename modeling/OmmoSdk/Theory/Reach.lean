/-
# Theory.Reach — states reached by labelled steps

A system is a partial step function: from a state, under a label, it goes to another
state or the label has no step there.  `Reached` collects the states of all runs whose
every step satisfies a condition on the state it starts from and its label.

* `Reached.invariant`: what holds at the start and is kept by every such step holds of
  every state reached;
* `Reached.of_script`, `Reached.of_any`: a list of labels that the system can execute
  is a run;
* `everyStep_iff`: where one step is good exactly if it is allowed, a whole run is good
  exactly if all its steps are allowed;
* `recorded`: the system with a record beside its state, for what is said about the past
  of a run.
-/
import Mathlib.Tactic

namespace OmmoSdk.Theory

set_option autoImplicit false

variable {σ ε : Type}

/-- The states reached from `start` by steps that satisfy `allowed`. -/
inductive Reached (step : σ → ε → Option σ) (allowed : σ → ε → Prop) (start : σ) : σ → Prop
  | start : Reached step allowed start start
  | next {s s' : σ} {label : ε} (before : Reached step allowed start s) (holds : allowed s label)
      (stepped : step s label = some s') : Reached step allowed start s'

namespace Reached

variable {step : σ → ε → Option σ} {allowed : σ → ε → Prop} {start s : σ}

/-- **Induction over a run.** -/
theorem invariant (inv : σ → Prop) (initial : inv start)
    (kept : ∀ s s' label, inv s → allowed s label → step s label = some s' → inv s')
    (reached : Reached step allowed start s) : inv s := by
  induction reached with
  | start => exact initial
  | next _ holds stepped ih => exact kept _ _ _ ih holds stepped

/-- A run keeps a condition that an invariant implies. -/
theorem meets {condition : σ → ε → Prop} (inv : σ → Prop) (initial : inv start)
    (kept : ∀ s s' label, inv s → allowed s label → step s label = some s' → inv s')
    (implies : ∀ s label, inv s → condition s label) (reached : Reached step allowed start s) :
    Reached step condition start s := by
  have both : inv s ∧ Reached step condition start s := by
    induction reached with
    | start => exact ⟨initial, .start⟩
    | next _ holds stepped ih =>
        exact ⟨kept _ _ _ ih.1 holds stepped, .next ih.2 (implies _ _ ih.1) stepped⟩
  exact both.2

theorem trans {s' : σ} (first : Reached step allowed start s)
    (second : Reached step allowed s s') : Reached step allowed start s' := by
  induction second with
  | start => exact first
  | next _ holds stepped ih => exact .next ih holds stepped

end Reached

/-- The labels executed one after the other, if each has a step. -/
def script (step : σ → ε → Option σ) : List ε → σ → Option σ
  | [], s => some s
  | label :: rest, s => (step s label).bind (script step rest)

/-- The system in which a label that does not pass a check has no step. -/
def guarded (check : σ → ε → Bool) (step : σ → ε → Option σ) (s : σ) (label : ε) : Option σ :=
  if check s label then step s label else none

/-- A run that the system executes, each of its steps being checked before. -/
theorem Reached.of_script {step : σ → ε → Option σ} {allowed : σ → ε → Prop} (check : σ → ε → Bool)
    (sound : ∀ s label, check s label = true → allowed s label) (labels : List ε) :
    ∀ {start s : σ}, script (guarded check step) labels start = some s →
      Reached step allowed start s := by
  induction labels with
  | nil =>
      intro start s executed
      cases executed
      exact .start
  | cons label rest ih =>
      intro start s executed
      obtain ⟨middle, first, later⟩ := Option.bind_eq_some_iff.mp executed
      by_cases checked : check start label = true
      · rw [guarded, if_pos checked] at first
        exact (Reached.next .start (sound _ _ checked) first).trans (ih later)
      · rw [guarded, if_neg checked] at first
        cases first

/-- Any run that the system executes. -/
theorem Reached.of_any {step : σ → ε → Option σ} (labels : List ε) {start s : σ}
    (executed : script step labels start = some s) : Reached step (fun _ _ => True) start s :=
  .of_script (fun _ _ => true) (fun _ _ _ => trivial) labels executed

/-! ## Runs whose every step is good -/

/-- Every step that the labels lead to is good. -/
def EveryStep (step : σ → ε → Option σ) (good : σ → ε → σ → Prop) : List ε → σ → Prop
  | [], _ => True
  | label :: rest, s =>
      ∀ s', step s label = some s' → good s label s' ∧ EveryStep step good rest s'

section EveryStep

variable {step : σ → ε → Option σ} {good : σ → ε → σ → Prop} {allowed : σ → ε → Prop} {s : σ}

/-- **Good runs are the allowed ones.**  The invariant need only be kept by good steps. -/
theorem everyStep_iff (inv : σ → Prop) (labels : List ε)
    (exact : ∀ s label s', label ∈ labels → inv s → step s label = some s' →
      (good s label s' ↔ allowed s label))
    (kept : ∀ s label s', label ∈ labels → inv s → step s label = some s' → good s label s' → inv s')
    (holds : inv s) :
    EveryStep step good labels s ↔ EveryStep step (fun s label _ => allowed s label) labels s := by
  induction labels generalizing s with
  | nil => exact .rfl
  | cons label rest ih =>
      have later : ∀ {s'}, inv s' → (EveryStep step good rest s' ↔
          EveryStep step (fun s label _ => allowed s label) rest s') :=
        ih (fun s next s' member => exact s next s' (List.mem_cons_of_mem _ member))
          fun s next s' member => kept s next s' (List.mem_cons_of_mem _ member)
      refine forall_congr' fun s' => imp_congr_right fun stepped => ?_
      have fits := exact s label s' List.mem_cons_self holds stepped
      constructor
      · rintro ⟨fine, run⟩
        exact ⟨fits.mp fine, (later (kept s label s' List.mem_cons_self holds stepped fine)).mp run⟩
      · rintro ⟨passed, run⟩
        have fine := fits.mpr passed
        exact ⟨fine, (later (kept s label s' List.mem_cons_self holds stepped fine)).mpr run⟩

/-- The last step of a run. -/
theorem EveryStep.last {s' s'' : σ} {label : ε} {labels : List ε}
    (every : EveryStep step good (labels ++ [label]) s) (executed : script step labels s = some s')
    (stepped : step s' label = some s'') : good s' label s'' := by
  induction labels generalizing s with
  | nil =>
      cases executed
      exact (every s'' stepped).1
  | cons first rest ih =>
      obtain ⟨middle, head, tail⟩ := Option.bind_eq_some_iff.mp executed
      exact ih (every middle head).2 tail

end EveryStep

/-! ## Recorded runs -/

/-- The system with a record beside its state.  The record sees each step and decides nothing. -/
def recorded {γ : Type} (step : σ → ε → Option σ) (note : γ → σ → ε → γ) (s : σ × γ) (label : ε) :
    Option (σ × γ) :=
  (step s.1 label).map fun s' => (s', note s.2 s.1 label)

end OmmoSdk.Theory
