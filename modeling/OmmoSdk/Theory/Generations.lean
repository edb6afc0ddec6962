/-
# Theory.Generations — a bounded log kept as two generations

A writer that may never block keeps its newest entries in two generations of
capacity `N`: it appends to the `current` one, and on the `N`-th append the full
generation becomes the `previous` one and the old `previous` is dropped.  The
structure carries the two facts every reader relies on: the current generation
is never full, and the previous one is empty or full.

`ofHistory h` is the log after the entries of `h` were pushed in order.  The
theorems say what it keeps, over histories of any length:

* `ofHistory_retained`: exactly the entries from `windowStart N h.length` on;
* `retained_length`: how many these are, `h.length` before the first switch and
  between `N` and `2 * N - 1` afterwards.
-/
import Mathlib.Data.List.Basic
import Mathlib.Tactic

namespace OmmoSdk.Theory

set_option autoImplicit false

/-- Two generations of at most `N` entries, oldest entry first in each. -/
structure Generations (α : Type) (N : Nat) where
  previous : List α
  current : List α
  current_lt : current.length < N
  previous_full : previous = [] ∨ previous.length = N

namespace Generations

variable {α : Type} {N : Nat}

def empty (pos : 0 < N) : Generations α N where
  previous := []
  current := []
  current_lt := pos
  previous_full := .inl rfl

/-- Append one entry; the entry that fills the current generation retires it. -/
def push (g : Generations α N) (x : α) : Generations α N :=
  if room : g.current.length + 1 < N then
    { previous := g.previous
      current := g.current ++ [x]
      current_lt := by simpa using room
      previous_full := g.previous_full }
  else
    { previous := g.current ++ [x]
      current := []
      current_lt := lt_of_le_of_lt (Nat.zero_le _) g.current_lt
      previous_full := .inr (by have := g.current_lt; simp; omega) }

theorem push_of_room (g : Generations α N) (x : α) (room : g.current.length + 1 < N) :
    (g.push x).previous = g.previous ∧ (g.push x).current = g.current ++ [x] := by
  simp [push, room]

theorem push_of_full (g : Generations α N) (x : α) (full : g.current.length + 1 = N) :
    (g.push x).previous = g.current ++ [x] ∧ (g.push x).current = [] := by
  simp [push, full]

/-- Every entry still held, oldest first. -/
def retained (g : Generations α N) : List α := g.previous ++ g.current

/-- The log after a whole history was pushed. -/
def ofHistory (pos : 0 < N) (h : List α) : Generations α N :=
  h.foldl push (empty pos)

@[simp] theorem ofHistory_nil (pos : 0 < N) :
    ofHistory pos ([] : List α) = empty pos := rfl

theorem ofHistory_snoc (pos : 0 < N) (h : List α) (x : α) :
    ofHistory pos (h ++ [x]) = (ofHistory pos h).push x := by
  simp [ofHistory]

/-! ## The window a history leaves -/

/-- The position of the oldest entry kept after `k` pushes. -/
def windowStart (N k : Nat) : Nat := if k < N then 0 else k - k % N - N

theorem succ_mod_of_lt {N k : Nat} (room : k % N + 1 < N) : (k + 1) % N = k % N + 1 := by
  rw [Nat.add_mod, Nat.mod_eq_of_lt (show 1 < N by omega), Nat.mod_eq_of_lt room]

theorem succ_mod_of_eq {N k : Nat} (full : k % N + 1 = N) : (k + 1) % N = 0 := by
  have split := Nat.div_add_mod k N
  have : k + 1 = N * (k / N + 1) := by rw [Nat.mul_add]; omega
  rw [this, Nat.mul_mod_right]

theorem mod_of_succ_mod {N k : Nat} (pos : 0 < N) (divides : (k + 1) % N = 0) :
    k % N + 1 = N := by
  by_contra early
  have inside := Nat.mod_lt k pos
  rw [succ_mod_of_lt (by omega)] at divides
  omega

theorem le_of_mod_lt {N k : Nat} (large : N ≤ k) : N ≤ k - k % N := by
  by_cases zero : N = 0
  · omega
  have split := Nat.div_add_mod k N
  have : N * 1 ≤ N * (k / N) :=
    Nat.mul_le_mul_left _ ((Nat.one_le_div_iff (by omega)).mpr large)
  omega

/-- Where the current and the previous generation of a history begin and end. -/
theorem ofHistory_spec (pos : 0 < N) (h : List α) :
    (ofHistory pos h).current = h.drop (h.length - h.length % N) ∧
      (ofHistory pos h).previous =
        if h.length < N then [] else (h.drop (h.length - h.length % N - N)).take N := by
  induction h using List.reverseRecOn with
  | nil => simp [empty, pos]
  | append_singleton h x ih =>
      obtain ⟨current, previous⟩ := ih
      have bound := Nat.mod_le h.length N
      have size : (ofHistory pos h).current.length = h.length % N := by
        rw [current, List.length_drop]; omega
      have inside := Nat.mod_lt h.length pos
      rw [ofHistory_snoc]
      by_cases room : h.length % N + 1 < N
      · obtain ⟨samePrevious, grown⟩ := push_of_room (ofHistory pos h) x (by rw [size]; exact room)
        have next := succ_mod_of_lt room
        constructor
        · rw [grown, current, List.length_append, List.length_singleton, next]
          rw [show h.length + 1 - (h.length % N + 1) = h.length - h.length % N by omega]
          exact (List.drop_append_of_le_length (by omega)).symm
        · rw [samePrevious, previous, List.length_append, List.length_singleton, next]
          rw [show h.length + 1 - (h.length % N + 1) = h.length - h.length % N by omega]
          by_cases small : h.length < N
          · have : h.length + 1 < N := by rw [Nat.mod_eq_of_lt small] at room; exact room
            simp [small, this]
          · have window := le_of_mod_lt (Nat.le_of_not_lt small)
            rw [if_neg small, if_neg (by omega), List.drop_append_of_le_length (by omega),
              List.take_append_of_le_length (by rw [List.length_drop]; omega)]
      · have full : h.length % N + 1 = N := by omega
        obtain ⟨retired, fresh⟩ := push_of_full (ofHistory pos h) x (by rw [size]; exact full)
        have next := succ_mod_of_eq full
        constructor
        · rw [fresh, List.length_append, List.length_singleton, next]
          simp
        · rw [retired, current, List.length_append, List.length_singleton, next, if_neg (by omega)]
          rw [show h.length + 1 - 0 - N = h.length - h.length % N by omega,
            List.drop_append_of_le_length (by omega), List.take_of_length_le]
          simp only [List.length_append, List.length_drop, List.length_singleton]
          omega

/-- **What is kept.**  The log holds the entries from `windowStart` on, in order. -/
theorem ofHistory_retained (pos : 0 < N) (h : List α) :
    (ofHistory pos h).retained = h.drop (windowStart N h.length) := by
  obtain ⟨current, previous⟩ := ofHistory_spec pos h
  rw [retained, current, previous, windowStart]
  split
  · rename_i small
    simp [Nat.mod_eq_of_lt small]
  · rename_i large
    have window := le_of_mod_lt (Nat.le_of_not_lt large)
    calc (h.drop (h.length - h.length % N - N)).take N ++ h.drop (h.length - h.length % N)
        = (h.drop (h.length - h.length % N - N)).take N ++
            (h.drop (h.length - h.length % N - N)).drop N := by
          rw [List.drop_drop]; congr 2; omega
      _ = h.drop (h.length - h.length % N - N) := List.take_append_drop _ _

/-- How many entries are kept after `k` pushes. -/
def windowSize (N k : Nat) : Nat := if k < N then k else N + k % N

theorem retained_length (pos : 0 < N) (h : List α) :
    (ofHistory pos h).retained.length = windowSize N h.length := by
  rw [ofHistory_retained, List.length_drop, windowStart, windowSize]
  split
  · rfl
  · have window := le_of_mod_lt (N := N) (k := h.length) (by omega)
    have := Nat.mod_le h.length N
    omega

theorem windowSize_lt (pos : 0 < N) (k : Nat) : windowSize N k < 2 * N := by
  have := Nat.mod_lt k pos
  unfold windowSize
  split <;> omega

theorem windowStart_add_size (k : Nat) : windowStart N k + windowSize N k = k := by
  have := Nat.mod_le k N
  unfold windowStart windowSize
  split
  · omega
  · have window := le_of_mod_lt (N := N) (k := k) (by omega)
    omega

end Generations

end OmmoSdk.Theory
