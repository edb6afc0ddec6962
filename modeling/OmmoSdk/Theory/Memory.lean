/-
# Theory.Memory — array accesses that can fail, and the loops that copy arrays

Pointer arithmetic of a C-like program, as far as its failures are concerned.
An index is the mathematical value of the index expression, so a negative one is
a value like any other and `fetch`/`put` refuse it.  `newArray` is `new T[n]`
without an initialiser: every element is `none` until it is written.

`copyLoop` is the loop that reads consecutive elements from one place and writes
them to consecutive elements of another.  `copyLoop_ok` is the one fact its
callers need: when every read succeeds, the target afterwards is the old one
with the read elements in the middle, and nothing else was touched.
-/
import Mathlib.Data.List.Basic
import Mathlib.Tactic

namespace OmmoSdk.Theory

set_option autoImplicit false

/-- What a program with raw arrays can run into. -/
inductive Fault where
  /-- an element access outside of the array: undefined behaviour -/
  | outOfBounds
  /-- `new T[n]` with negative `n`: `std::bad_array_new_length` is thrown -/
  | badArrayNewLength
  deriving DecidableEq, Repr

variable {α : Type}

/-- Read `xs[i]`. -/
def fetch (xs : List α) (i : Int) : Except Fault α :=
  if 0 ≤ i then
    match xs[i.toNat]? with
    | some x => .ok x
    | none => .error .outOfBounds
  else .error .outOfBounds

/-- Write `xs[i] = x`. -/
def put (xs : List α) (i : Int) (x : α) : Except Fault (List α) :=
  if 0 ≤ i ∧ i < xs.length then .ok (xs.set i.toNat x) else .error .outOfBounds

/-- `new T[n]`: `n` elements, none of them written yet. -/
def newArray (n : Int) : Except Fault (List (Option α)) :=
  if n < 0 then .error .badArrayNewLength else .ok (List.replicate n.toNat none)

@[simp] theorem fetch_natCast (xs : List α) (i : Nat) (inside : i < xs.length) :
    fetch xs (i : Int) = .ok xs[i] := by
  simp [fetch, inside]

@[simp] theorem fetch_cons_zero (x : α) (xs : List α) : fetch (x :: xs) 0 = .ok x := rfl

theorem fetch_of_take {xs ys : List α} (same : xs.take ys.length = ys) {i : Nat} {y : α}
    (element : ys[i]? = some y) : fetch xs (i : Int) = .ok y := by
  have inside : i < ys.length := (List.getElem?_eq_some_iff.mp element).1
  have found : xs[i]? = some y := by
    calc xs[i]? = (xs.take ys.length)[i]? := by rw [List.getElem?_take_of_lt inside]
      _ = some y := by rw [same, element]
  simp [fetch, found]

theorem fetch_outside {xs : List α} {i : Int} (outside : i < 0 ∨ (xs.length : Int) ≤ i) :
    fetch xs i = .error .outOfBounds := by
  unfold fetch
  split
  · rename_i positive
    have : xs[i.toNat]? = none := by
      rw [List.getElem?_eq_none_iff]; omega
    rw [this]
  · rfl

theorem fetch_cons_succ (x : α) (xs : List α) (i : Nat) :
    fetch (x :: xs) ((i + 1 : Nat) : Int) = fetch xs i := by
  rw [fetch, fetch, if_pos (Int.natCast_nonneg _), if_pos (Int.natCast_nonneg _)]
  rfl

theorem fetch_ok_lt {xs : List α} {i : Nat} {x : α} (found : fetch xs (i : Int) = .ok x) :
    i < xs.length := by
  by_contra outside
  rw [fetch_outside (by omega)] at found
  cases found

@[simp] theorem put_natCast (xs : List α) (i : Nat) (x : α) (inside : i < xs.length) :
    put xs (i : Int) x = .ok (xs.set i x) := by
  simp [put, inside]

@[simp] theorem newArray_natCast (n : Nat) :
    newArray (α := α) (n : Int) = .ok (List.replicate n none) := by
  simp [newArray]

theorem newArray_negative {n : Int} (negative : n < 0) :
    newArray (α := α) n = .error .badArrayNewLength := by
  simp [newArray, negative]

/-! ## The copying loop -/

/-- `count` rounds of `dst[i] = src[idx]; idx++; i++`, from the given `idx` and `i`.
The final `i` is returned: a second loop may go on from it. -/
def copyLoop (src : Int → Except Fault α) :
    Nat → Int → Int → List (Option α) → Except Fault (List (Option α) × Int)
  | 0, _, i, dst => .ok (dst, i)
  | count + 1, idx, i, dst => do
      let x ← src idx
      let dst ← put dst i (some x)
      copyLoop src count (idx + 1) (i + 1) dst

/-- `for (; idx < bound; idx++) { dst[i] = src[idx]; i++; }` -/
def copyRange (src : Int → Except Fault α) (idx bound i : Int) (dst : List (Option α)) :
    Except Fault (List (Option α) × Int) :=
  copyLoop src (bound - idx).toNat idx i dst

/-- The invariant of the loop: what was copied stands between what was there
before the first write and what no round reaches. -/
theorem copyLoop_ok {src : Int → Except Fault α} (xs : List α) :
    ∀ (idx : Int) (before after : List (Option α)),
      (∀ (j : Nat) x, xs[j]? = some x → src (idx + j) = .ok x) →
      copyLoop src xs.length idx before.length
          (before ++ List.replicate xs.length none ++ after) =
        .ok (before ++ xs.map some ++ after, ((before.length + xs.length : Nat) : Int)) := by
  induction xs with
  | nil => intro idx before after _; simp [copyLoop]
  | cons x xs ih =>
      intro idx before after reads
      have first : src idx = .ok x := by simpa using reads 0 x (by simp)
      have rest : ∀ (j : Nat) y, xs[j]? = some y → src (idx + 1 + j) = .ok y := by
        intro j y element
        rw [show idx + 1 + (j : Int) = idx + ((j + 1 : Nat) : Int) by push_cast; ring]
        exact reads (j + 1) y (by simpa using element)
      have written : put (before ++ List.replicate (xs.length + 1) none ++ after)
          (before.length : Int) (some x) =
          .ok ((before ++ [some x]) ++ List.replicate xs.length none ++ after) := by
        rw [put_natCast _ _ _ (by simp)]
        simp [List.replicate_succ]
      have next := ih (idx + 1) (before ++ [some x]) after rest
      rw [List.length_append, List.length_singleton] at next
      simp only [List.length_cons, copyLoop, first, bind, Except.bind, written]
      rw [show (before.length : Int) + 1 = ((before.length + 1 : Nat) : Int) by push_cast; ring,
        next]
      simp
      omega

/-- Copying into the start of a fresh array, with room left at its end. -/
theorem copyRange_fresh (src : Int → Except Fault α) (xs : List α) (idx bound : Int) (room : Nat)
    (size : bound - idx = xs.length)
    (reads : ∀ (j : Nat) x, xs[j]? = some x → src (idx + j) = .ok x) :
    copyRange src idx bound 0 (List.replicate (xs.length + room) none) =
      .ok (xs.map some ++ List.replicate room none, (xs.length : Int)) := by
  have run := copyLoop_ok xs idx [] (List.replicate room none) reads
  rw [copyRange, size, Int.toNat_natCast, List.replicate_add]
  simpa using run

/-- Going on where an earlier loop stopped, up to the end of the array. -/
theorem copyRange_rest (src : Int → Except Fault α) (before : List (Option α)) (xs : List α)
    (bound : Int) (size : bound = xs.length)
    (reads : ∀ (j : Nat) x, xs[j]? = some x → src j = .ok x) :
    copyRange src 0 bound before.length (before ++ List.replicate xs.length none) =
      .ok (before ++ xs.map some, ((before.length + xs.length : Nat) : Int)) := by
  have run := copyLoop_ok xs 0 before [] (by simpa using reads)
  rw [copyRange, size, Int.sub_zero, Int.toNat_natCast]
  simpa using run

/-- A loop whose first element cannot be read fails. -/
theorem copyRange_fault {src : Int → Except Fault α} {idx bound : Int} {fault : Fault} (i : Int)
    (dst : List (Option α)) (enters : idx < bound) (fails : src idx = .error fault) :
    copyRange src idx bound i dst = .error fault := by
  obtain ⟨count, rounds⟩ : ∃ count, (bound - idx).toNat = count + 1 :=
    Nat.exists_eq_succ_of_ne_zero (by omega)
  rw [copyRange, rounds, copyLoop, fails]
  rfl

/-! ## What an array can hold -/

theorem mem_of_fetch {xs : List α} {i : Int} {x : α} (read : fetch xs i = .ok x) : x ∈ xs := by
  unfold fetch at read
  split at read
  · cases found : xs[i.toNat]? with
    | none => simp [found] at read
    | some y =>
        simp only [found, Except.ok.injEq] at read
        exact read ▸ List.mem_of_getElem? found
  · cases read

theorem mem_of_put {xs ys : List α} {i : Int} {x y : α} (written : put xs i x = .ok ys)
    (member : y ∈ ys) : y ∈ xs ∨ y = x := by
  unfold put at written
  split at written
  · cases written
    exact List.mem_or_eq_of_mem_set member
  · cases written

theorem mem_newArray {n : Int} {xs : List (Option α)} (made : newArray n = .ok xs) {x : α} :
    some x ∉ xs := by
  unfold newArray at made
  split at made
  · cases made
  · cases made
    intro member
    cases (List.mem_replicate.mp member).2

/-- The target of a copy holds what it held and what can be read from the source. -/
theorem copyLoop_origin {src : Int → Except Fault α} (good : α → Prop)
    (reads : ∀ i x, src i = .ok x → good x) :
    ∀ (count : Nat) (idx i : Int) (dst : List (Option α)) (result : List (Option α) × Int),
      copyLoop src count idx i dst = .ok result → (∀ x, some x ∈ dst → good x) →
      ∀ x, some x ∈ result.1 → good x
  | 0, _, _, _, _, run, held => by
      cases run
      exact held
  | count + 1, idx, i, dst, result, run, held => by
      rw [copyLoop] at run
      cases read : src idx with
      | error fault => simp [read, bind, Except.bind] at run
      | ok x =>
          cases written : put dst i (some x) with
          | error fault => simp [read, written, bind, Except.bind] at run
          | ok dst' =>
              simp only [read, written, bind, Except.bind] at run
              refine copyLoop_origin good reads count _ _ dst' result run fun y member => ?_
              rcases mem_of_put written member with old | new
              · exact held y old
              · cases new
                exact reads idx _ read

end OmmoSdk.Theory
