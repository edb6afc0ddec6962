/-
# Theory.Loop — loops that need not end

A `while (true)` loop is its round: from a state it either goes on from another
state or leaves the loop with a result.  `run` executes at most the given number of
rounds, and `Returns` says that some number of them suffices.

* `returns_of_exit`, `returns_of_next`: one round;
* `not_returns_of_stuck`: a round that changes nothing is repeated for ever.
-/
import Mathlib.Tactic

namespace OmmoSdk.Theory.Loop

set_option autoImplicit false

variable {σ ρ : Type}

def run (round : σ → σ ⊕ ρ) : Nat → σ → Option ρ
  | 0, _ => none
  | fuel + 1, s =>
      match round s with
      | .inl next => run round fuel next
      | .inr result => some result

/-- The loop, entered at `s`, leaves with `result`. -/
def Returns (round : σ → σ ⊕ ρ) (s : σ) (result : ρ) : Prop :=
  ∃ fuel, run round fuel s = some result

variable {round : σ → σ ⊕ ρ} {s next : σ} {result : ρ}

theorem returns_of_exit (exit : round s = .inr result) : Returns round s result :=
  ⟨1, by simp [run, exit]⟩

theorem returns_of_next (step : round s = .inl next) :
    Returns round s result ↔ Returns round next result := by
  constructor
  · rintro ⟨fuel, run'⟩
    cases fuel with
    | zero => cases run'
    | succ fuel => exact ⟨fuel, by simpa [run, step] using run'⟩
  · rintro ⟨fuel, run'⟩
    exact ⟨fuel + 1, by simpa [run, step] using run'⟩

/-- More rounds than needed do no harm, so the result is unique. -/
theorem Returns.unique {other : ρ} (first : Returns round s result)
    (second : Returns round s other) : result = other := by
  obtain ⟨fuel, run'⟩ := first
  induction fuel generalizing s with
  | zero => cases run'
  | succ fuel ih =>
      cases step : round s with
      | inl next =>
          exact ih ((returns_of_next step).mp second) (by simpa [run, step] using run')
      | inr exit =>
          obtain ⟨fuel', other'⟩ := second
          cases fuel' with
          | zero => cases other'
          | succ fuel' =>
              simp only [run, step, Option.some.injEq] at run' other'
              exact run'.symm.trans other'

/-- **Divergence.**  A round that comes back to its own state never leaves. -/
theorem not_returns_of_stuck (stuck : round s = .inl s) : ¬ Returns round s result := by
  rintro ⟨fuel, run'⟩
  induction fuel with
  | zero => cases run'
  | succ fuel ih => exact ih (by simpa [run, stuck] using run')

end OmmoSdk.Theory.Loop
