/-
# Theory.Presence — who is present, and to whom they were offered

Things come and go, and observers ask for some of them.  What an observer is offered is kept for
it: it starts with those present that it asks for, and follows every coming and going.  When the
source of the sightings is lost nothing is known to be present any more, but what is offered
stays.

* `Fair`: an observer is offered only what it asks for, and all of that which is present.  It is
  kept by everything that happens.
* `Exact`: it is offered what it asks for and is present, and nothing else.  It is kept by
  everything but a loss.
-/
import Mathlib.Data.Finset.Basic
import Mathlib.Tactic

namespace OmmoSdk.Theory

set_option autoImplicit false

/-- What one observer asked for, and what it is offered. -/
structure Offer (ρ δ : Type) where
  request : ρ
  available : Finset δ

/-- The things present, and the offers to the observers. -/
structure Presence (τ ρ δ : Type) where
  present : Finset δ
  offers : τ → Option (Offer ρ δ)

variable {τ ρ δ : Type} {names : ρ → δ → Bool}

/-- An offer after a coming or going. -/
def Offer.see [DecidableEq δ] (names : ρ → δ → Bool) (d : δ) (now : Bool) (offer : Offer ρ δ) :
    Offer ρ δ :=
  if names offer.request d then
    { offer with available := if now then insert d offer.available else offer.available.erase d }
  else offer

theorem Offer.request_see [DecidableEq δ] (d : δ) (now : Bool) (offer : Offer ρ δ) :
    (offer.see names d now).request = offer.request := by
  unfold Offer.see
  split <;> rfl

theorem Offer.mem_see [DecidableEq δ] {d d' : δ} {now : Bool} {offer : Offer ρ δ} :
    d' ∈ (offer.see names d now).available ↔
      if names offer.request d = true ∧ d' = d then now = true else d' ∈ offer.available := by
  unfold Offer.see
  cases names offer.request d with
  | false => simp
  | true =>
      by_cases same : d' = d
      · subst same
        cases now <;> simp
      · cases now <;> simp [same]

namespace Presence

def empty : Presence τ ρ δ := ⟨∅, fun _ => none⟩

/-- A thing comes or goes. -/
def see [DecidableEq δ] (names : ρ → δ → Bool) (p : Presence τ ρ δ) (d : δ) (now : Bool) :
    Presence τ ρ δ where
  present := if now then insert d p.present else p.present.erase d
  offers tag := (p.offers tag).map (Offer.see names d now)

/-- The source of the sightings is lost. -/
def lose (p : Presence τ ρ δ) : Presence τ ρ δ := { p with present := ∅ }

/-- An observer asks. -/
def ask [DecidableEq τ] (names : ρ → δ → Bool) (p : Presence τ ρ δ) (tag : τ) (request : ρ) :
    Presence τ ρ δ :=
  { p with
    offers := Function.update p.offers tag
      (some ⟨request, p.present.filter fun d => names request d⟩) }

/-- An observer goes. -/
def withdraw [DecidableEq τ] (p : Presence τ ρ δ) (tag : τ) : Presence τ ρ δ :=
  { p with offers := Function.update p.offers tag none }

/-- What an observer is offered, if it asks. -/
def available (p : Presence τ ρ δ) (tag : τ) : Finset δ :=
  match p.offers tag with
  | some offer => offer.available
  | none => ∅

/-- The present things an observer asks for. -/
def wanted (names : ρ → δ → Bool) (p : Presence τ ρ δ) (tag : τ) : Finset δ :=
  match p.offers tag with
  | some offer => p.present.filter fun d => names offer.request d
  | none => ∅

/-- Only what was asked for is offered, and all of that which is present. -/
structure Fair (names : ρ → δ → Bool) (p : Presence τ ρ δ) : Prop where
  named : ∀ tag offer, p.offers tag = some offer →
    ∀ d ∈ offer.available, names offer.request d = true
  covered : ∀ tag offer, p.offers tag = some offer → ∀ d ∈ p.present,
    names offer.request d = true → d ∈ offer.available

/-- What is offered was asked for and is present. -/
def Exact (names : ρ → δ → Bool) (p : Presence τ ρ δ) : Prop :=
  ∀ tag, p.available tag = p.wanted names tag

variable {p : Presence τ ρ δ} {d : δ} {now : Bool} {tag : τ} {request : ρ}

theorem mem_present_see [DecidableEq δ] {d' : δ} :
    d' ∈ (p.see names d now).present ↔ if d' = d then now = true else d' ∈ p.present := by
  show d' ∈ (if now then insert d p.present else p.present.erase d) ↔ _
  by_cases same : d' = d
  · subst same
    cases now <;> simp
  · cases now <;> simp [same]

theorem offers_ask [DecidableEq τ] (tag' : τ) : (p.ask names tag request).offers tag' =
    if tag' = tag then some ⟨request, p.present.filter fun d => names request d⟩
    else p.offers tag' := by
  show Function.update p.offers tag _ tag' = _
  rw [Function.update_apply]

theorem offers_withdraw [DecidableEq τ] (tag' : τ) :
    (p.withdraw tag).offers tag' = if tag' = tag then none else p.offers tag' := by
  show Function.update p.offers tag _ tag' = _
  rw [Function.update_apply]

/-! ## What everything keeps -/

theorem fair_empty : Fair names (empty : Presence τ ρ δ) := by
  constructor
  · intro tag offer asked
    cases asked
  · intro tag offer asked
    cases asked

theorem Fair.see [DecidableEq δ] (fair : Fair names p) : Fair names (p.see names d now) := by
  constructor
  · intro tag offer' asked d' member
    obtain ⟨offer, before, rfl⟩ := Option.map_eq_some_iff.mp asked
    rw [Offer.request_see]
    rw [Offer.mem_see] at member
    split at member
    · rename_i own
      rw [own.2, own.1]
    · exact fair.named tag offer before d' member
  · intro tag offer' asked d' present wanted
    obtain ⟨offer, before, rfl⟩ := Option.map_eq_some_iff.mp asked
    rw [Offer.request_see] at wanted
    rw [mem_present_see] at present
    rw [Offer.mem_see]
    by_cases same : d' = d
    · subst same
      rw [if_pos rfl] at present
      rw [if_pos ⟨wanted, rfl⟩, present]
    · rw [if_neg same] at present
      rw [if_neg fun own => same own.2]
      exact fair.covered tag offer before d' present wanted

theorem Fair.lose (fair : Fair names p) : Fair names p.lose :=
  ⟨fair.named, fun _ _ _ d present => absurd present (Finset.notMem_empty d)⟩

theorem Fair.ask [DecidableEq τ] (fair : Fair names p) : Fair names (p.ask names tag request) := by
  constructor
  · intro tag' offer asked d member
    rw [offers_ask] at asked
    split at asked
    · cases asked
      exact (Finset.mem_filter.mp member).2
    · exact fair.named tag' offer asked d member
  · intro tag' offer asked d present wanted
    rw [offers_ask] at asked
    split at asked
    · cases asked
      exact Finset.mem_filter.mpr ⟨present, wanted⟩
    · exact fair.covered tag' offer asked d present wanted

theorem Fair.withdraw [DecidableEq τ] (fair : Fair names p) : Fair names (p.withdraw tag) := by
  constructor
  · intro tag' offer asked
    rw [offers_withdraw] at asked
    split at asked
    · cases asked
    · exact fair.named tag' offer asked
  · intro tag' offer asked
    rw [offers_withdraw] at asked
    split at asked
    · cases asked
    · exact fair.covered tag' offer asked

/-- What a fair board offers lies between what is wanted and present, and what is wanted. -/
theorem Fair.wanted_subset (fair : Fair names p) (tag : τ) :
    p.wanted names tag ⊆ p.available tag := by
  intro d member
  unfold wanted at member
  unfold available
  cases asked : p.offers tag with
  | none =>
      rw [asked] at member
      exact absurd member (Finset.notMem_empty d)
  | some offer =>
      rw [asked] at member
      obtain ⟨present, wanted⟩ := Finset.mem_filter.mp member
      exact fair.covered tag offer asked d present wanted

/-! ## What everything but a loss keeps -/

theorem exact_empty : Exact names (empty : Presence τ ρ δ) := fun _ => rfl

theorem Exact.see [DecidableEq δ] (exactly : Exact names p) : Exact names (p.see names d now) := by
  intro tag
  have before := exactly tag
  unfold available wanted at before ⊢
  show (match (p.offers tag).map (Offer.see names d now) with
    | some offer => offer.available
    | none => ∅) = match (p.offers tag).map (Offer.see names d now) with
    | some offer => (p.see names d now).present.filter fun d => names offer.request d
    | none => ∅
  cases asked : p.offers tag with
  | none => rfl
  | some offer =>
      rw [asked] at before
      ext d'
      have mem := Finset.ext_iff.mp before d'
      rw [Finset.mem_filter] at mem
      show d' ∈ (offer.see names d now).available ↔ d' ∈ Finset.filter _ _
      rw [Offer.mem_see, Finset.mem_filter, mem_present_see, Offer.request_see, mem]
      by_cases same : d' = d
      · subst same
        cases names offer.request d' <;> simp
      · simp [same]

theorem Exact.ask [DecidableEq τ] (exactly : Exact names p) :
    Exact names (p.ask names tag request) := by
  intro tag'
  have before := exactly tag'
  unfold available wanted at before ⊢
  rw [offers_ask]
  by_cases own : tag' = tag
  · rw [if_pos own]
    rfl
  · rw [if_neg own]
    exact before

theorem Exact.withdraw [DecidableEq τ] (exactly : Exact names p) :
    Exact names (p.withdraw tag) := by
  intro tag'
  have before := exactly tag'
  unfold available wanted at before ⊢
  rw [offers_withdraw]
  by_cases own : tag' = tag
  · rw [if_pos own]
  · rw [if_neg own]
    exact before

end Presence

end OmmoSdk.Theory
