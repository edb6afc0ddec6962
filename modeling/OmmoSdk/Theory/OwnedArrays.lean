/-
# Theory.OwnedArrays — arrays that are created and deleted by hand

Programs that own arrays through plain pointers, as far as creation and deletion are
concerned.  A state is the set of arrays that are there, the identifier of the next one, and
the deletions so far.  `delete[]` of an array that is not there is a fault, and no
identifier is given out twice, so a program that ends has deleted no array twice.

Two triples describe such programs, each with its rules for sequencing and for loops:

* `Allocates`: the program creates exactly the arrays that its result owns;
* `Releases`: the program deletes exactly the given arrays, if they are there.

`undone_release` joins them: what deletes a permutation of what was created restores the
set of arrays.  `forIndex` is a loop over the elements of an array whose index has a type
with a largest value.
-/
import Mathlib.Data.Finset.Interval
import OmmoSdk.Theory.Memory

namespace OmmoSdk.Theory

set_option autoImplicit false

abbrev ArrayId := Nat

/-- The arrays of a program. -/
@[ext] structure Arrays where
  live : Finset ArrayId
  /-- the identifier of the next array -/
  next : ArrayId
  /-- every `delete[]`, in order -/
  deleted : List ArrayId
  fresh : ∀ id ∈ live, id < next

inductive ArrayFault where
  | access (fault : Fault)
  /-- `delete[]` of something that is not an array, or not any more -/
  | notLive
  /-- the index of a loop is increased beyond the largest value of its type -/
  | overflow
  deriving DecidableEq, Repr

abbrev ArrayM := StateT Arrays (Except ArrayFault)

namespace Arrays

variable (h : Arrays) (n m : Nat) (ids others : List ArrayId)

def empty : Arrays := ⟨∅, 0, [], by simp⟩

/-- The state after `n` arrays were created. -/
def grow : Arrays where
  live := h.live ∪ Finset.Ico h.next (h.next + n)
  next := h.next + n
  deleted := h.deleted
  fresh id member := by
    rcases Finset.mem_union.mp member with old | new
    · exact lt_of_lt_of_le (h.fresh id old) (Nat.le_add_right _ _)
    · exact (Finset.mem_Ico.mp new).2

/-- The state after the arrays of a list were deleted. -/
def release : Arrays where
  live := h.live \ ids.toFinset
  next := h.next
  deleted := h.deleted ++ ids
  fresh id member := h.fresh id (Finset.mem_sdiff.mp member).1

@[simp] theorem next_grow : (h.grow n).next = h.next + n := rfl

theorem mem_grow {id : ArrayId} :
    id ∈ (h.grow n).live ↔ id ∈ h.live ∨ h.next ≤ id ∧ id < h.next + n := by
  rw [grow, Finset.mem_union, Finset.mem_Ico]

theorem mem_release {id : ArrayId} : id ∈ (h.release ids).live ↔ id ∈ h.live ∧ id ∉ ids := by
  rw [release, Finset.mem_sdiff, List.mem_toFinset]

@[simp] theorem grow_zero : h.grow 0 = h := by
  refine Arrays.ext (Finset.ext fun id => ?_) rfl rfl
  rw [mem_grow, Nat.add_zero, or_iff_left_iff_imp]
  exact fun created => absurd created.2 (Nat.not_lt.mpr created.1)

theorem grow_grow : (h.grow n).grow m = h.grow (n + m) := by
  refine Arrays.ext (Finset.ext fun id => ?_) (Nat.add_assoc _ _ _) rfl
  have split : h.next ≤ id ∧ id < h.next + (n + m) ↔
      (h.next ≤ id ∧ id < h.next + n) ∨ (h.next + n ≤ id ∧ id < h.next + n + m) := by
    unfold ArrayId at *
    omega
  rw [mem_grow, mem_grow, mem_grow, next_grow, split, or_assoc]

@[simp] theorem release_nil : h.release [] = h := by
  refine Arrays.ext (Finset.ext fun id => ?_) rfl (List.append_nil _)
  simp [mem_release]

theorem release_release : (h.release ids).release others = h.release (ids ++ others) := by
  refine Arrays.ext (Finset.ext fun id => ?_) rfl (List.append_assoc _ _ _)
  rw [mem_release, mem_release, mem_release, List.mem_append]
  tauto

/-- **Undone.**  The arrays are those before, and every array that was there in between was
deleted, once, and nothing else. -/
structure Undone (before between after : Arrays) : Prop where
  live : after.live = before.live
  deleted : ∃ ids, after.deleted = before.deleted ++ ids ∧ ids.Nodup ∧
    ∀ id, id ∈ ids ↔ id ∈ between.live ∧ id ∉ before.live

/-- What was created was not there before. -/
theorem mem_created {id : ArrayId} :
    id ∈ List.range' h.next n ↔ id ∈ (h.grow n).live ∧ id ∉ h.live := by
  rw [List.mem_range'_1, mem_grow]
  constructor
  · exact fun created => ⟨.inr created, fun old => Nat.not_lt.mpr created.1 (h.fresh id old)⟩
  · rintro ⟨old | created, absent⟩
    · exact absurd old absent
    · exact created

theorem undone_release (perm : ids.Perm (List.range' h.next n)) :
    Undone h (h.grow n) ((h.grow n).release ids) where
  live := by
    ext id
    rw [mem_release, perm.mem_iff, mem_created]
    constructor
    · rintro ⟨there, old⟩
      by_contra absent
      exact old ⟨there, absent⟩
    · intro old
      exact ⟨(h.mem_grow n).mpr (.inl old), fun created => created.2 old⟩
  deleted := by
    refine ⟨ids, rfl, perm.nodup_iff.mpr List.nodup_range', fun id => ?_⟩
    rw [perm.mem_iff, mem_created]

/-- An array that was created and not deleted is left behind. -/
theorem not_undone_release {id : ArrayId} (created : id ∈ List.range' h.next n) (kept : id ∉ ids) :
    ¬ Undone h (h.grow n) ((h.grow n).release ids) := by
  intro undone
  obtain ⟨there, absent⟩ := (h.mem_created n).mp created
  have left : id ∈ ((h.grow n).release ids).live := ((h.grow n).mem_release ids).mpr ⟨there, kept⟩
  rw [undone.live] at left
  exact absent left

end Arrays

/-! ## Instructions -/

section Instructions

variable {α β : Type}

/-- `new T[n]` -/
def createArray : ArrayM ArrayId := fun h => .ok (h.next, h.grow 1)

/-- `delete[] p`, which leaves a null pointer alone -/
def deleteArray : Option ArrayId → ArrayM Unit
  | none => pure ()
  | some id => fun h => if id ∈ h.live then .ok ((), h.release [id]) else .error .notLive

/-- Read `xs[i]`. -/
def readElement (xs : List α) (i : Nat) : ArrayM α :=
  match fetch xs i with
  | .ok x => pure x
  | .error fault => throw (.access fault)

/-- `i++`, for an index whose type has the largest value `limit` -/
def increment (limit i : Nat) : ArrayM Unit :=
  if i < limit then pure () else throw .overflow

/-- `for (i = 0; i < count; i++)`, with what the rounds give. -/
def forIndex (limit count : Nat) (body : Nat → ArrayM α) : ArrayM (List α) :=
  (List.range count).mapM fun i => do
    let x ← body i
    increment limit i
    return x

/-- The program comes to its end. -/
def Completes (m : ArrayM α) (h : Arrays) : Prop := ∃ v h', m.run h = .ok (v, h')

theorem run_bind {m : ArrayM α} {f : α → ArrayM β} {h h' : Arrays} {v : α}
    (first : m.run h = .ok (v, h')) : (m >>= f).run h = (f v).run h' := by
  rw [StateT.run_bind, first]
  rfl

theorem completes_bind {m : ArrayM α} {f : α → ArrayM β} {h : Arrays}
    (completes : Completes (m >>= f) h) :
    ∃ v h', m.run h = .ok (v, h') ∧ Completes (f v) h' := by
  obtain ⟨w, h'', run⟩ := completes
  cases first : m.run h with
  | error fault =>
      rw [StateT.run_bind, first] at run
      cases run
  | ok outcome => exact ⟨outcome.1, outcome.2, rfl, w, h'', by rw [← run_bind first]; exact run⟩

/-- Every round of a loop that ends came to its end. -/
theorem completes_mapM {f : α → ArrayM β} {x : α} {xs : List α} (member : x ∈ xs) :
    ∀ {h : Arrays}, Completes (xs.mapM f) h → ∃ h', Completes (f x) h' := by
  induction xs with
  | nil => cases member
  | cons y ys ih =>
      intro h completes
      rw [List.mapM_cons] at completes
      obtain ⟨v, h', first, rest⟩ := completes_bind completes
      rcases List.mem_cons.mp member with rfl | later
      · exact ⟨h, v, h', first⟩
      · obtain ⟨vs, h'', others, -⟩ := completes_bind rest
        exact ih later ⟨vs, h'', others⟩

/-- A loop whose count is beyond the index does not end. -/
theorem forIndex_overflow {limit count : Nat} {body : Nat → ArrayM α} {h : Arrays}
    (long : limit < count) : ¬ Completes (forIndex limit count body) h := by
  intro completes
  obtain ⟨h', last⟩ := completes_mapM (List.mem_range.mpr long) completes
  obtain ⟨x, h'', -, rest⟩ := completes_bind last
  obtain ⟨u, h₃, stepped, -⟩ := completes_bind rest
  rw [increment, if_neg (lt_irrefl _)] at stepped
  cases stepped

theorem readElement_cons_zero (x : α) (xs : List α) : readElement (x :: xs) 0 = pure x := rfl

theorem readElement_cons_succ (x : α) (xs : List α) (i : Nat) :
    readElement (x :: xs) (i + 1) = readElement xs i := by
  rw [readElement, fetch_cons_succ, readElement]

theorem mapM_congr_of_mem {f g : α → ArrayM β} {xs : List α} (same : ∀ x ∈ xs, f x = g x) :
    xs.mapM f = xs.mapM g := by
  induction xs with
  | nil => rfl
  | cons x xs ih =>
      rw [List.mapM_cons, List.mapM_cons, same x List.mem_cons_self,
        ih fun y member => same y (List.mem_cons_of_mem _ member)]

theorem mapM_pure_self (xs : List α) : xs.mapM (pure : α → ArrayM α) = pure xs := by
  have copies : xs.mapM (fun x => (pure (id x) : ArrayM α)) = pure (xs.map id) := List.mapM_pure
  rw [List.map_id] at copies
  exact copies

/-- A loop over all elements of an array. -/
theorem mapM_readElement (xs : List α) (body : α → ArrayM β) :
    ((List.range xs.length).mapM fun i => readElement xs i >>= body) = xs.mapM body := by
  induction xs with
  | nil => rfl
  | cons x xs ih =>
      rw [List.length_cons, List.range_succ_eq_map, List.mapM_cons, List.mapM_cons, List.mapM_map]
      have shifted : (fun i => readElement (x :: xs) i >>= body) ∘ Nat.succ =
          fun i => readElement xs i >>= body :=
        funext fun i => congrArg (· >>= body) (readElement_cons_succ x xs i)
      rw [shifted, ih, readElement_cons_zero, pure_bind]

/-- The loop reaches all elements if its index does. -/
theorem forIndex_readElement {limit : Nat} {xs : List α} (short : xs.length ≤ limit)
    (body : α → ArrayM β) :
    forIndex limit xs.length (fun i => readElement xs i >>= body) = xs.mapM body := by
  rw [← mapM_readElement]
  refine mapM_congr_of_mem fun i member => ?_
  have reached : i < limit := lt_of_lt_of_le (List.mem_range.mp member) short
  rw [increment, if_pos reached]
  simp

end Instructions

/-! ## What a program creates and deletes -/

section Triples

variable {α β : Type} {m : ArrayM α} {f : α → ArrayM β}

/-- From every state the program ends; the arrays it has created are those of its result, in
the order of their creation, and it has deleted none. -/
def Allocates (m : ArrayM α) (owned : α → List ArrayId) (post : α → Prop) : Prop :=
  ∀ h : Arrays, ∃ v, m.run h = .ok (v, h.grow (owned v).length) ∧
    owned v = List.range' h.next (owned v).length ∧ post v

/-- Where the given arrays are there, the program ends and has deleted them, in this order. -/
def Releases (m : ArrayM α) (ids : List ArrayId) : Prop :=
  ∀ h : Arrays, ids.Nodup → (∀ id ∈ ids, id ∈ h.live) → ∃ v, m.run h = .ok (v, h.release ids)

namespace Allocates

theorem pure {owned : α → List ArrayId} {post : α → Prop} {v : α} (none : owned v = [])
    (holds : post v) : Allocates (pure v) owned post := by
  intro h
  refine ⟨v, ?_, ?_, holds⟩
  · rw [none, List.length_nil, Arrays.grow_zero]
    rfl
  · rw [none]
    rfl

/-- The arrays of the first part come before those of the second. -/
theorem bind {first : α → List ArrayId} (rest : β → List ArrayId) {owned : β → List ArrayId}
    {P : α → Prop} {Q : β → Prop} (before : Allocates m first P)
    (after : ∀ v, P v → Allocates (f v) rest fun w => owned w = first v ++ rest w ∧ Q w) :
    Allocates (m >>= f) owned Q := by
  intro h
  obtain ⟨v, run, created, holds⟩ := before h
  obtain ⟨w, run', created', joined, holds'⟩ := after v holds (h.grow (first v).length)
  refine ⟨w, ?_, ?_, holds'⟩
  · rw [run_bind run, run', joined, List.length_append, Arrays.grow_grow]
  · rw [joined, List.length_append, ← List.range'_append_1, ← created]
    exact congrArg _ created'

theorem conseq {owned : α → List ArrayId} {P Q : α → Prop} (allocates : Allocates m owned P)
    (weaker : ∀ v, P v → Q v) : Allocates m owned Q := by
  intro h
  obtain ⟨v, run, created, holds⟩ := allocates h
  exact ⟨v, run, created, weaker v holds⟩

/-- A result that is wrapped up in a return. -/
theorem map {f : α → β} {first : α → List ArrayId} {owned : β → List ArrayId} {P : α → Prop}
    {Q : β → Prop} (allocates : Allocates m first P) (same : ∀ v, owned (f v) = first v)
    (holds : ∀ v, P v → Q (f v)) : Allocates (do let v ← m; return f v) owned Q :=
  bind (fun _ => []) allocates fun v held =>
    pure rfl ⟨(same v).trans (List.append_nil _).symm, holds v held⟩

/-- `new T[n]` is one array. -/
theorem createArray : Allocates createArray (fun id => [id]) fun _ => True :=
  fun h => ⟨h.next, rfl, rfl, trivial⟩

/-- A loop creates the arrays of its rounds, one round after the other. -/
theorem mapM {owned : β → List ArrayId} {good : α → β → Prop} {f : α → ArrayM β} {xs : List α}
    (each : ∀ x ∈ xs, Allocates (f x) owned (good x)) :
    Allocates (xs.mapM f) (fun vs => vs.flatMap owned) fun vs => List.Forall₂ good xs vs := by
  induction xs with
  | nil => exact pure rfl .nil
  | cons x xs ih =>
      rw [List.mapM_cons]
      refine bind (fun vs => vs.tail.flatMap owned) (each x List.mem_cons_self) fun v holds => ?_
      have later := ih fun y member => each y (List.mem_cons_of_mem _ member)
      intro h
      obtain ⟨vs, run, created, others⟩ := later h
      exact ⟨v :: vs, by rw [run_bind run]; rfl, created, rfl, .cons holds others⟩

end Allocates

namespace Releases

variable {ids others : List ArrayId}

theorem pure {v : α} : Releases (pure v) [] := fun h _ _ => ⟨v, by rw [Arrays.release_nil]; rfl⟩

theorem bind (before : Releases m ids) (after : ∀ v, Releases (f v) others) :
    Releases (m >>= f) (ids ++ others) := by
  intro h distinct there
  obtain ⟨distinct₁, distinct₂, apart⟩ := List.nodup_append.mp distinct
  obtain ⟨v, run⟩ := before h distinct₁ fun id member => there id (List.mem_append_left _ member)
  have stillThere : ∀ id ∈ others, id ∈ (h.release ids).live := by
    intro id member
    refine (h.mem_release ids).mpr ⟨there id (List.mem_append_right _ member), fun earlier => ?_⟩
    exact apart id earlier id member rfl
  obtain ⟨w, run'⟩ := after v (h.release ids) distinct₂ stillThere
  exact ⟨w, by rw [run_bind run, run', Arrays.release_release]⟩

/-- A return deletes nothing more. -/
theorem map {f : α → β} (releases : Releases m ids) : Releases (do let v ← m; return f v) ids := by
  rw [← List.append_nil ids]
  exact bind releases fun _ => pure

theorem deleteArray (p : Option ArrayId) : Releases (deleteArray p) p.toList := by
  cases p with
  | none => exact pure
  | some id =>
      intro h _ there
      exact ⟨(), if_pos (there id List.mem_cons_self)⟩

theorem mapM {f : α → ArrayM β} {gone : α → List ArrayId} {xs : List α}
    (each : ∀ x ∈ xs, Releases (f x) (gone x)) : Releases (xs.mapM f) (xs.flatMap gone) := by
  induction xs with
  | nil => exact pure
  | cons x xs ih =>
      rw [List.mapM_cons, List.flatMap_cons]
      exact bind (each x List.mem_cons_self) fun v =>
        map (ih fun y member => each y (List.mem_cons_of_mem _ member))

end Releases

end Triples

end OmmoSdk.Theory
