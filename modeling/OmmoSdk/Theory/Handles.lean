/-
# Theory.Handles — resources behind stored pointers

A resource is opened for a slot, the place its pointer is meant to be stored in.  It
is cancelled through that pointer, and deleted by someone else, later.  Resources
are numbered in the order they were opened and keep their number, so a pointer to a
deleted one can be told from a pointer to a new one.

Nothing in the operations ties the pointers to the resources.  `Registered` is the
discipline that does: each slot points exactly at the resource that was opened for it
and is neither cancelled nor deleted, so there is at most one.  It is kept by whoever
opens and stores for an empty slot (`Registered.attach`) and cancels what it removes
(`Registered.detach`, `Registered.detachAll`).
-/
import Mathlib.Tactic

namespace OmmoSdk.Theory

set_option autoImplicit false

structure Resource (κ : Type) where
  slot : κ
  cancelled : Bool := false
  deleted : Bool := false
  deriving DecidableEq, Repr

@[ext] structure Handles (κ : Type) where
  resources : List (Resource κ)
  stored : κ → Option Nat

namespace Handles

variable {κ : Type}

def openFor (s : Handles κ) (k : κ) : Handles κ :=
  { s with resources := s.resources ++ [{ slot := k }] }

def store [DecidableEq κ] (s : Handles κ) (k : κ) (i : Nat) : Handles κ :=
  { s with stored := Function.update s.stored k (some i) }

def remove [DecidableEq κ] (s : Handles κ) (k : κ) : Handles κ :=
  { s with stored := Function.update s.stored k none }

def cancelResource (s : Handles κ) (i : Nat) : Handles κ :=
  { s with resources := s.resources.modify i fun r => { r with cancelled := true } }

/-- Cancel through the pointer of a slot, if it is not null. -/
def cancel (s : Handles κ) (k : κ) : Handles κ :=
  match s.stored k with
  | some i => s.cancelResource i
  | none => s

def delete (s : Handles κ) (i : Nat) : Handles κ :=
  { s with resources := s.resources.modify i fun r => { r with deleted := true } }

/-- Resource `i` was opened for `k` and neither cancelled nor deleted since. -/
def Live (s : Handles κ) (k : κ) (i : Nat) : Prop := s.resources[i]? = some { slot := k }

/-- Resource `i` was opened for `k` and not deleted since. -/
def Undeleted (s : Handles κ) (k : κ) (i : Nat) : Prop :=
  ∃ r, s.resources[i]? = some r ∧ r.slot = k ∧ r.deleted = false

/-- Resource `i` was opened for `k`. -/
def OpenedFor (s : Handles κ) (k : κ) (i : Nat) : Prop := ∃ r, s.resources[i]? = some r ∧ r.slot = k

/-- The pointers are exactly those to the live resources. -/
def Registered (s : Handles κ) : Prop := ∀ k i, s.Live k i ↔ s.stored k = some i

variable {s t : Handles κ} {k k' : κ} {i j : Nat}

@[simp] theorem openFor_stored (s : Handles κ) (k : κ) : (s.openFor k).stored = s.stored := rfl

@[simp] theorem store_resources [DecidableEq κ] (s : Handles κ) (k : κ) (i : Nat) :
    (s.store k i).resources = s.resources := rfl

@[simp] theorem remove_resources [DecidableEq κ] (s : Handles κ) (k : κ) :
    (s.remove k).resources = s.resources := rfl

@[simp] theorem delete_stored (s : Handles κ) (i : Nat) : (s.delete i).stored = s.stored := rfl

@[simp] theorem cancel_stored (s : Handles κ) (k : κ) : (s.cancel k).stored = s.stored := by
  unfold cancel
  split <;> rfl

@[simp] theorem store_stored [DecidableEq κ] (s : Handles κ) (k : κ) (i : Nat) (k' : κ) :
    (s.store k i).stored k' = if k' = k then some i else s.stored k' := by
  exact Function.update_apply ..

@[simp] theorem remove_stored [DecidableEq κ] (s : Handles κ) (k k' : κ) :
    (s.remove k).stored k' = if k' = k then none else s.stored k' := by
  exact Function.update_apply ..

/-! ## What is live after each operation -/

theorem Live.lt (live : s.Live k i) : i < s.resources.length :=
  (List.getElem?_eq_some_iff.mp live).1

theorem Live.slot_unique (first : s.Live k i) (second : s.Live k' i) : k = k' := by
  rw [Live, first] at second
  exact congrArg Resource.slot (Option.some.inj second)

theorem Live.undeleted (live : s.Live k i) : s.Undeleted k i := ⟨_, live, rfl, rfl⟩

theorem Undeleted.openedFor (undeleted : s.Undeleted k i) : s.OpenedFor k i := by
  obtain ⟨r, found, slot, -⟩ := undeleted
  exact ⟨r, found, slot⟩

theorem OpenedFor.unique (first : s.OpenedFor k i) (second : s.OpenedFor k' i) : k = k' := by
  obtain ⟨r, found, rfl⟩ := first
  obtain ⟨r', again, rfl⟩ := second
  rw [found] at again
  cases again
  rfl

@[simp] theorem live_store [DecidableEq κ] : (s.store k i).Live k' j ↔ s.Live k' j := .rfl

@[simp] theorem live_remove [DecidableEq κ] : (s.remove k).Live k' j ↔ s.Live k' j := .rfl

theorem live_openFor :
    (s.openFor k).Live k' j ↔ s.Live k' j ∨ k' = k ∧ j = s.resources.length := by
  unfold Live openFor
  rcases Nat.lt_trichotomy j s.resources.length with inside | rfl | outside
  · rw [List.getElem?_append_left inside]
    exact ⟨.inl, fun h => h.elim id fun h => absurd h.2 (Nat.ne_of_lt inside)⟩
  · simp [eq_comm]
  · rw [List.getElem?_eq_none (by simp; omega), List.getElem?_eq_none (by omega)]
    simp
    omega

theorem live_cancelResource : (s.cancelResource i).Live k j ↔ s.Live k j ∧ j ≠ i := by
  unfold Live cancelResource
  rw [List.getElem?_modify]
  cases found : s.resources[j]? with
  | none => simp
  | some r =>
      by_cases same : i = j
      · subst same; simp
      · simp [same, Ne.symm same]

theorem live_cancel : (s.cancel k).Live k' j ↔ s.Live k' j ∧ s.stored k ≠ some j := by
  unfold cancel
  cases pointer : s.stored k with
  | none => simp
  | some i =>
      rw [live_cancelResource]
      simp [eq_comm]

theorem live_delete : (s.delete i).Live k j ↔ s.Live k j ∧ j ≠ i := by
  unfold Live delete
  rw [List.getElem?_modify]
  cases found : s.resources[j]? with
  | none => simp
  | some r =>
      by_cases same : i = j
      · subst same; simp
      · simp [same, Ne.symm same]

/-! ## What is not deleted after each operation -/

@[simp] theorem undeleted_store [DecidableEq κ] : (s.store k i).Undeleted k' j ↔ s.Undeleted k' j := .rfl

@[simp] theorem undeleted_remove [DecidableEq κ] : (s.remove k).Undeleted k' j ↔ s.Undeleted k' j := .rfl

theorem undeleted_openFor (old : s.Undeleted k' j) : (s.openFor k).Undeleted k' j := by
  obtain ⟨r, found, slot, kept⟩ := old
  have inside := (List.getElem?_eq_some_iff.mp found).1
  exact ⟨r, by rw [openFor, List.getElem?_append_left inside]; exact found, slot, kept⟩

theorem undeleted_opened (s : Handles κ) (k : κ) : (s.openFor k).Undeleted k s.resources.length :=
  (live_openFor.mpr (.inr ⟨rfl, rfl⟩)).undeleted

theorem undeleted_cancelResource :
    (s.cancelResource i).Undeleted k j ↔ s.Undeleted k j := by
  unfold Undeleted cancelResource
  rw [List.getElem?_modify]
  cases found : s.resources[j]? with
  | none => simp
  | some r => by_cases same : i = j <;> simp [same]

@[simp] theorem undeleted_cancel : (s.cancel k).Undeleted k' j ↔ s.Undeleted k' j := by
  unfold cancel
  split
  · exact undeleted_cancelResource
  · rfl

theorem undeleted_delete (old : s.Undeleted k j) (other : j ≠ i) : (s.delete i).Undeleted k j := by
  obtain ⟨r, found, slot, kept⟩ := old
  refine ⟨r, ?_, slot, kept⟩
  rw [delete, List.getElem?_modify, found]
  simp [Ne.symm other]

theorem openedFor_delete (old : s.OpenedFor k j) : (s.delete i).OpenedFor k j := by
  obtain ⟨r, found, slot⟩ := old
  rw [OpenedFor, delete, List.getElem?_modify, found]
  by_cases here : i = j
  · exact ⟨{ r with deleted := true }, by simp [here], slot⟩
  · exact ⟨r, by simp [here], slot⟩

/-! ## Operations on one slot -/

/-- At most one operation, on slot `k`, leads from the first state to the second. -/
inductive Touches [DecidableEq κ] (k : κ) (s : Handles κ) : Handles κ → Prop
  | same : Touches k s s
  | opened : Touches k s (s.openFor k)
  | stored (i : Nat) : Touches k s (s.store k i)
  | cancelled : Touches k s (s.cancel k)
  | removed : Touches k s (s.remove k)

section Touches

variable [DecidableEq κ]

theorem Touches.stored_other (touches : Touches k s t) (other : k' ≠ k) :
    t.stored k' = s.stored k' := by
  cases touches with
  | same => rfl
  | opened => rfl
  | stored i => rw [store_stored, if_neg other]
  | cancelled => rw [cancel_stored]
  | removed => rw [remove_stored, if_neg other]

/-- Cancelling through the pointer of `k` ends no resource of another slot, if the pointer is
to a resource of `k`. -/
theorem Touches.live_other (touches : Touches k s t) (other : k' ≠ k)
    (own : ∀ i, s.stored k = some i → s.OpenedFor k i) : t.Live k' j ↔ s.Live k' j := by
  cases touches with
  | same => rfl
  | opened =>
      rw [live_openFor]
      simp [other]
  | stored i => exact live_store
  | cancelled =>
      rw [live_cancel, and_iff_left_iff_imp]
      intro live pointer
      exact other (live.undeleted.openedFor.unique (own j pointer))
  | removed => exact live_remove

theorem Touches.undeleted (touches : Touches k s t) (old : s.Undeleted k' j) :
    t.Undeleted k' j := by
  cases touches with
  | same => exact old
  | opened => exact undeleted_openFor old
  | stored i => exact undeleted_store.mpr old
  | cancelled => exact undeleted_cancel.mpr old
  | removed => exact undeleted_remove.mpr old

end Touches

/-! ## Pointers to what is not deleted -/

/-- From the first state to the second every resource stays for its slot and undeleted, and no
pointer is new but `new`. -/
structure Grows (new : Option (κ × Nat)) (s t : Handles κ) : Prop where
  kept : ∀ (i : Nat) (r : Resource κ), s.resources[i]? = some r →
    ∃ r' : Resource κ, t.resources[i]? = some r' ∧ r'.slot = r.slot ∧ r'.deleted = r.deleted
  stored : ∀ k i, t.stored k = some i → s.stored k = some i ∨ new = some (k, i)

section Grows

variable {new : Option (κ × Nat)}

theorem Grows.undeleted (grows : Grows new s t) (old : s.Undeleted k i) : t.Undeleted k i := by
  obtain ⟨r, found, rfl, alive⟩ := old
  obtain ⟨r', found', slot, deleted⟩ := grows.kept i r found
  exact ⟨r', found', slot, deleted.trans alive⟩

theorem Grows.openedFor (grows : Grows new s t) (old : s.OpenedFor k i) : t.OpenedFor k i := by
  obtain ⟨r, found, rfl⟩ := old
  obtain ⟨r', found', slot, -⟩ := grows.kept i r found
  exact ⟨r', found', slot⟩

end Grows

theorem Grows.refl (new : Option (κ × Nat)) (s : Handles κ) : Grows new s s :=
  ⟨fun _ r found => ⟨r, found, rfl, rfl⟩, fun _ _ => .inl⟩

theorem Grows.trans {new : Option (κ × Nat)} {u : Handles κ} (first : Grows new s t)
    (second : Grows new t u) : Grows new s u := by
  constructor
  · intro i r found
    obtain ⟨r', found', slot, deleted⟩ := first.kept i r found
    obtain ⟨r'', found'', slot', deleted'⟩ := second.kept i r' found'
    exact ⟨r'', found'', slot'.trans slot, deleted'.trans deleted⟩
  · intro k i pointer
    rcases second.stored k i pointer with before | fresh
    · exact first.stored k i before
    · exact .inr fresh

/-- The resources are the same. -/
theorem grows_of_stored {new : Option (κ × Nat)} (same : t.resources = s.resources)
    (stored : ∀ k i, t.stored k = some i → s.stored k = some i ∨ new = some (k, i)) : Grows new s t :=
  ⟨fun _ r found => ⟨r, by rw [same]; exact found, rfl, rfl⟩, stored⟩

theorem grows_openFor (new : Option (κ × Nat)) (s : Handles κ) (k : κ) :
    Grows new s (s.openFor k) := by
  refine ⟨fun i r found => ⟨r, ?_, rfl, rfl⟩, fun _ _ => .inl⟩
  rw [openFor, List.getElem?_append_left (List.getElem?_eq_some_iff.mp found).1]
  exact found

theorem grows_cancelResource (new : Option (κ × Nat)) (s : Handles κ) (i : Nat) :
    Grows new s (s.cancelResource i) := by
  refine ⟨?_, fun _ _ => .inl⟩
  intro j r found
  rw [cancelResource, List.getElem?_modify, found]
  by_cases here : i = j
  · exact ⟨{ r with cancelled := true }, by simp [here], rfl, rfl⟩
  · exact ⟨r, by simp [here], rfl, rfl⟩

theorem grows_cancel (new : Option (κ × Nat)) (s : Handles κ) (k : κ) : Grows new s (s.cancel k) := by
  unfold cancel
  split
  · exact grows_cancelResource new s _
  · exact .refl new s

theorem grows_remove [DecidableEq κ] (new : Option (κ × Nat)) (s : Handles κ) (k : κ) :
    Grows new s (s.remove k) := by
  refine grows_of_stored rfl fun k' i pointer => .inl ?_
  rw [remove_stored] at pointer
  split at pointer
  · cases pointer
  · exact pointer

theorem grows_store [DecidableEq κ] (s : Handles κ) (k : κ) (i : Nat) :
    Grows (some (k, i)) s (s.store k i) := by
  refine grows_of_stored rfl ?_
  intro k' j pointer
  rw [store_stored] at pointer
  split at pointer
  · rename_i here
    cases pointer
    rw [here]
    exact .inr rfl
  · exact .inl pointer

/-! ## The discipline -/

theorem Registered.attach [DecidableEq κ] (registered : s.Registered) (empty : s.stored k = none) :
    ((s.openFor k).store k s.resources.length).Registered := by
  intro k' j
  rw [live_store, live_openFor, store_stored, openFor_stored, registered k' j]
  by_cases same : k' = k
  · subst same
    simp [empty, eq_comm]
  · simp [same]

/-- Cancel and remove the pointers of a whole set of slots. -/
theorem Registered.detachAll (registered : s.Registered) (slots : κ → Prop) [DecidablePred slots]
    (cancelled : ∀ k i, t.Live k i ↔ s.Live k i ∧ ∀ k', slots k' → s.stored k' ≠ some i)
    (removed : ∀ k, t.stored k = if slots k then none else s.stored k) : t.Registered := by
  intro k i
  rw [cancelled, removed, registered k i]
  by_cases inside : slots k
  · simp only [inside, if_true, reduceCtorEq, iff_false, not_and, not_forall]
    exact fun pointer => ⟨k, inside, by simpa using pointer⟩
  · simp only [inside, if_false, and_iff_left_iff_imp]
    intro pointer k' member pointer'
    have same := ((registered k i).mpr pointer).slot_unique ((registered k' i).mpr pointer')
    subst same
    exact inside member

theorem Registered.detach [DecidableEq κ] (registered : s.Registered) (k : κ) :
    ((s.cancel k).remove k).Registered := by
  refine registered.detachAll (· = k) ?_ ?_
  · intro k' i
    rw [live_remove, live_cancel]
    simp
  · intro k'
    rw [remove_stored, cancel_stored]

end Handles

end OmmoSdk.Theory
