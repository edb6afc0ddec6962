/-
# Theory.Footprint — the accesses that a computation makes

`Traced` is a computation over raw arrays together with the accesses it makes: elements that
it reads from arrays it was given, the array it makes for its result, and elements that it
writes there.  A computation that faults has the accesses up to the one that failed.

A traced program is the program with each access announced.  `outcome_bind` and the lemmas
beside each operation give back the program without the announcements, and
`bind_ok` takes a trace that ended well apart:

* `InBounds`: every read is below a size that is given for each array;
* `Fills`: the result is made once, and its elements are written in order, each once;
* `Checked`: for a computation that only reads, to be in bounds is not to fault.
-/
import OmmoSdk.Theory.Memory

namespace OmmoSdk.Theory

set_option autoImplicit false

/-- One access; `ρ` are the names of the arrays that are read. -/
inductive Access (ρ : Type) where
  | read (array : ρ) (i : Int)
  | allocate (n : Int)
  | write (i : Int)
  deriving DecidableEq, Repr

def Access.rename {ρ σ : Type} (f : ρ → σ) : Access ρ → Access σ
  | .read array i => .read (f array) i
  | .allocate n => .allocate n
  | .write i => .write i

structure Traced (ρ β : Type) where
  accesses : List (Access ρ)
  outcome : Except Fault β

namespace Traced

variable {ρ α β γ : Type}

instance : Monad (Traced ρ) where
  pure x := ⟨[], .ok x⟩
  bind m f :=
    match m.outcome with
    | .ok x => ⟨m.accesses ++ (f x).accesses, (f x).outcome⟩
    | .error fault => ⟨m.accesses, .error fault⟩

/-- `xs[i]`, of the array with that name. -/
def read (array : ρ) (xs : List α) (i : Int) : Traced ρ α := ⟨[.read array i], fetch xs i⟩

/-- `new T[n]` -/
def allocate (n : Int) : Traced ρ (List (Option α)) := ⟨[.allocate n], newArray n⟩

/-- `dst[i] = x` -/
def write (dst : List (Option α)) (i : Int) (x : α) : Traced ρ (List (Option α)) :=
  ⟨[.write i], put dst i (some x)⟩

/-! ## Sequencing -/

@[simp] theorem outcome_pure (x : β) : (pure x : Traced ρ β).outcome = .ok x := rfl

@[simp] theorem accesses_pure (x : β) : (pure x : Traced ρ β).accesses = [] := rfl

/-- Without its trace a computation is the untraced one. -/
@[simp] theorem outcome_bind (m : Traced ρ α) (f : α → Traced ρ β) :
    (m >>= f).outcome = m.outcome >>= fun x => (f x).outcome := by
  obtain ⟨accesses, outcome⟩ := m
  cases outcome with
  | ok x => rfl
  | error fault => rfl

theorem accesses_bind_ok {m : Traced ρ α} {x : α} (ended : m.outcome = .ok x) (f : α → Traced ρ β) :
    (m >>= f).accesses = m.accesses ++ (f x).accesses := by
  obtain ⟨accesses, outcome⟩ := m
  cases ended
  rfl

theorem accesses_bind_error {m : Traced ρ α} {fault : Fault} (ended : m.outcome = .error fault)
    (f : α → Traced ρ β) : (m >>= f).accesses = m.accesses := by
  obtain ⟨accesses, outcome⟩ := m
  cases ended
  rfl

/-- **A sequence that ended well**, taken apart. -/
theorem bind_ok {m : Traced ρ α} {f : α → Traced ρ β} {y : β} (ended : (m >>= f).outcome = .ok y) :
    ∃ x, m.outcome = .ok x ∧ (f x).outcome = .ok y ∧
      (m >>= f).accesses = m.accesses ++ (f x).accesses := by
  rw [outcome_bind] at ended
  cases first : m.outcome with
  | ok x =>
      rw [first] at ended
      exact ⟨x, rfl, ended, accesses_bind_ok first f⟩
  | error fault =>
      rw [first] at ended
      cases ended

@[simp] theorem outcome_map (g : α → β) (m : Traced ρ α) : (g <$> m).outcome = g <$> m.outcome := by
  obtain ⟨accesses, outcome⟩ := m
  cases outcome with
  | ok x => rfl
  | error fault => rfl

@[simp] theorem accesses_map (g : α → β) (m : Traced ρ α) : (g <$> m).accesses = m.accesses := by
  obtain ⟨accesses, outcome⟩ := m
  cases outcome with
  | ok x => exact List.append_nil accesses
  | error fault => rfl

@[simp] theorem outcome_ite (c : Prop) [Decidable c] (m n : Traced ρ α) :
    (if c then m else n).outcome = if c then m.outcome else n.outcome :=
  apply_ite outcome c m n

theorem ext {m n : Traced ρ α} (accesses : m.accesses = n.accesses) (outcome : m.outcome = n.outcome) :
    m = n := by
  cases m
  cases n
  cases accesses
  cases outcome
  rfl

instance : LawfulMonad (Traced ρ) := LawfulMonad.mk' (Traced ρ)
  (fun m => ext (accesses_map id m) (by rw [outcome_map, id_map]))
  (fun x f => rfl)
  (fun m f g => by
    obtain ⟨accesses, outcome⟩ := m
    cases outcome with
    | error fault => rfl
    | ok x =>
        refine ext ?_ (by simp only [outcome_bind, bind_assoc])
        cases second : (f x).outcome with
        | error fault =>
            rw [accesses_bind_error (by rw [outcome_bind]; exact second), accesses_bind_ok rfl,
              accesses_bind_ok rfl, accesses_bind_error second]
        | ok y =>
            rw [accesses_bind_ok (by rw [outcome_bind]; exact second), accesses_bind_ok rfl,
              accesses_bind_ok rfl, accesses_bind_ok second, List.append_assoc])

theorem outcome_mapM {f : α → Traced ρ β} {plain : α → Except Fault β} (xs : List α)
    (same : ∀ x ∈ xs, (f x).outcome = plain x) : (xs.mapM f).outcome = xs.mapM plain := by
  induction xs with
  | nil => rfl
  | cons x xs ih =>
      rw [List.mapM_cons, List.mapM_cons, outcome_bind, same x List.mem_cons_self]
      simp only [outcome_bind, outcome_pure, ih fun y member => same y (List.mem_cons_of_mem x member)]
      rfl

/-- The same computation, its arrays under other names. -/
def rename {σ : Type} (f : ρ → σ) (m : Traced ρ α) : Traced σ α where
  accesses := m.accesses.map (Access.rename f)
  outcome := m.outcome

end Traced

/-! ## What is read and what is written -/

/-- Every read is below the size of its array. -/
def InBounds {ρ : Type} (size : ρ → Int) (accesses : List (Access ρ)) : Prop :=
  ∀ array i, .read array i ∈ accesses → 0 ≤ i ∧ i < size array

/-- The element that is written. -/
def Access.written {ρ : Type} : Access ρ → Option Int
  | .write i => some i
  | _ => none

/-- The length that is asked for. -/
def Access.allocated {ρ : Type} : Access ρ → Option Int
  | .allocate n => some n
  | _ => none

/-- `n` elements are written, from the `i`-th on, each once; the reads are in bounds and no
array is made. -/
structure Copies {ρ : Type} (size : ρ → Int) (i : Int) (n : Nat) (accesses : List (Access ρ)) : Prop where
  reads : InBounds size accesses
  allocates : accesses.filterMap Access.allocated = []
  writes : accesses.filterMap Access.written = (List.range n).map fun j : Nat => i + j

/-- An array of `n` elements is made, if any, and its elements are written in order, each
once; the reads are in bounds. -/
structure Fills {ρ : Type} (size : ρ → Int) (n : Nat) (accesses : List (Access ρ)) : Prop where
  reads : InBounds size accesses
  allocates : ∀ m ∈ accesses.filterMap Access.allocated, m = n
  writes : accesses.filterMap Access.written = (List.range n).map Nat.cast

section Accesses

variable {ρ : Type} {size : ρ → Int} {first second : List (Access ρ)} {i : Int} {m n : Nat}

theorem inBounds_nil : InBounds size [] := by
  intro array i member
  cases member

@[simp] theorem inBounds_append :
    InBounds size (first ++ second) ↔ InBounds size first ∧ InBounds size second := by
  constructor
  · intro bounded
    exact ⟨fun array i member => bounded array i (List.mem_append_left _ member),
      fun array i member => bounded array i (List.mem_append_right _ member)⟩
  · rintro ⟨left, right⟩ array i member
    rcases List.mem_append.mp member with member | member
    · exact left array i member
    · exact right array i member

@[simp] theorem inBounds_read {array : ρ} : InBounds size [.read array i] ↔ 0 ≤ i ∧ i < size array := by
  constructor
  · intro bounded
    exact bounded array i List.mem_cons_self
  · intro bounded other j member
    cases List.mem_singleton.mp member
    exact bounded

theorem copies_nil : Copies size i 0 [] := ⟨inBounds_nil, rfl, rfl⟩

theorem copies_read {array : ρ} {k : Int} (inside : 0 ≤ k ∧ k < size array) :
    Copies size i 0 [.read array k] :=
  ⟨inBounds_read.mpr inside, rfl, rfl⟩

theorem copies_write : Copies size i 1 [.write i] := by
  refine ⟨?_, rfl, by simp [Access.written]⟩
  intro array k member
  cases List.mem_singleton.mp member

theorem Copies.append (left : Copies size i m first) (right : Copies size (i + m) n second) :
    Copies size i (m + n) (first ++ second) where
  reads := inBounds_append.mpr ⟨left.reads, right.reads⟩
  allocates := by rw [List.filterMap_append, left.allocates, right.allocates, List.append_nil]
  writes := by
    rw [List.filterMap_append, left.writes, right.writes, List.range_add, List.map_append, List.map_map]
    simp [Function.comp_def, add_assoc]

theorem fills_nil : Fills size 0 [] where
  reads := inBounds_nil
  allocates m member := by cases member
  writes := rfl

/-- The array is made and then filled. -/
theorem Copies.fills (copies : Copies size 0 n first) : Fills size n (.allocate n :: first) where
  reads := by
    intro array k member
    rcases List.mem_cons.mp member with same | member
    · cases same
    · exact copies.reads array k member
  allocates := by
    intro k member
    have single : (Access.allocate (n : Int) :: first).filterMap Access.allocated = [(n : Int)] :=
      congrArg ((n : Int) :: ·) copies.allocates
    rw [single] at member
    exact List.mem_singleton.mp member
  writes := by
    rw [List.filterMap_cons_none rfl, copies.writes]
    simp

/-- A read before all that. -/
theorem Fills.after_read (fills : Fills size n first) {array : ρ} (inside : 0 ≤ i ∧ i < size array) :
    Fills size n ([.read array i] ++ first) where
  reads := inBounds_append.mpr ⟨inBounds_read.mpr inside, fills.reads⟩
  allocates := fills.allocates
  writes := fills.writes

end Accesses

/-! ## The copying loop -/

namespace Traced

variable {ρ α : Type} {src : Int → Traced ρ α} {plain : Int → Except Fault α} {size : ρ → Int}

/-- `copyLoop` with its accesses. -/
def copyLoop (src : Int → Traced ρ α) :
    Nat → Int → Int → List (Option α) → Traced ρ (List (Option α) × Int)
  | 0, _, i, dst => pure (dst, i)
  | count + 1, idx, i, dst => do
      let x ← src idx
      let dst ← write dst i x
      copyLoop src count (idx + 1) (i + 1) dst

def copyRange (src : Int → Traced ρ α) (idx bound i : Int) (dst : List (Option α)) :
    Traced ρ (List (Option α) × Int) :=
  copyLoop src (bound - idx).toNat idx i dst

theorem outcome_copyLoop (same : ∀ idx, (src idx).outcome = plain idx) (count : Nat) :
    ∀ (idx i : Int) (dst : List (Option α)),
      (copyLoop src count idx i dst).outcome = Theory.copyLoop plain count idx i dst := by
  induction count with
  | zero => intro idx i dst; rfl
  | succ count ih =>
      intro idx i dst
      simp only [copyLoop, Theory.copyLoop, outcome_bind, same, ih, write]

theorem outcome_copyRange (same : ∀ idx, (src idx).outcome = plain idx) (idx bound i : Int)
    (dst : List (Option α)) :
    (copyRange src idx bound i dst).outcome = Theory.copyRange plain idx bound i dst :=
  outcome_copyLoop same _ idx i dst

/-- A loop that ended well, and whose rounds read in bounds and do nothing else, copies. -/
theorem copies_copyLoop (count : Nat) :
    ∀ {idx i : Int} {dst : List (Option α)} {result : List (Option α) × Int},
      (copyLoop src count idx i dst).outcome = .ok result →
      (∀ k i, idx ≤ k → k < idx + count → Copies size i 0 (src k).accesses) →
      result.2 = i + count ∧ Copies size i count (copyLoop src count idx i dst).accesses := by
  induction count with
  | zero =>
      intro idx i dst result ended _
      cases ended
      exact ⟨(add_zero i).symm, copies_nil⟩
  | succ count ih =>
      intro idx i dst result ended rounds
      obtain ⟨x, -, ended, read⟩ := bind_ok ended
      obtain ⟨dst', -, ended, wrote⟩ := bind_ok ended
      obtain ⟨last, rest⟩ := ih ended fun k i low high => rounds k i (by omega) (by omega)
      refine ⟨by rw [last]; push_cast; ring, ?_⟩
      rw [copyLoop, read, wrote, show count + 1 = 0 + (1 + count) by omega]
      refine (rounds idx i (by omega) (by omega)).append ?_
      rw [Nat.cast_zero, add_zero]
      exact copies_write.append rest

theorem copies_copyRange {idx bound i : Int} {dst : List (Option α)} {result : List (Option α) × Int}
    (ended : (copyRange src idx bound i dst).outcome = .ok result)
    (rounds : ∀ k i, idx ≤ k → k < bound → Copies size i 0 (src k).accesses) :
    result.2 = i + (bound - idx).toNat ∧
      Copies size i (bound - idx).toNat (copyRange src idx bound i dst).accesses :=
  copies_copyLoop _ ended fun k i low high => rounds k i low (by omega)

end Traced

/-! ## Computations that only read -/

/-- The accesses are in bounds exactly if the computation does not fault. -/
def Checked {ρ α : Type} (size : ρ → Int) (m : Traced ρ α) : Prop :=
  InBounds size m.accesses ↔ ∃ x, m.outcome = .ok x

section Checked

variable {ρ σ α β : Type} {size : ρ → Int}

theorem checked_pure (x : α) : Checked size (pure x) :=
  ⟨fun _ => ⟨x, rfl⟩, fun _ => inBounds_nil⟩

theorem checked_read {array : ρ} {xs : List α} (sized : size array = xs.length) (i : Int) :
    Checked size (Traced.read array xs i) := by
  show InBounds size [.read array i] ↔ ∃ x, fetch xs i = .ok x
  rw [inBounds_read, sized]
  constructor
  · rintro ⟨low, high⟩
    obtain ⟨n, rfl⟩ := Int.eq_ofNat_of_zero_le low
    exact ⟨_, fetch_natCast xs n (by omega)⟩
  · rintro ⟨x, found⟩
    by_contra outside
    rw [fetch_outside (by omega)] at found
    cases found

theorem Checked.bind {m : Traced ρ α} {f : α → Traced ρ β} (first : Checked size m)
    (rest : ∀ x, m.outcome = .ok x → Checked size (f x)) : Checked size (m >>= f) := by
  unfold Checked at first rest ⊢
  rw [Traced.outcome_bind]
  cases ended : m.outcome with
  | ok x =>
      rw [Traced.accesses_bind_ok ended, inBounds_append, rest x ended]
      exact and_iff_right (first.mpr ⟨x, ended⟩)
  | error fault =>
      rw [Traced.accesses_bind_error ended, first, ended]
      constructor
      · rintro ⟨x, impossible⟩
        cases impossible
      · rintro ⟨x, impossible⟩
        cases impossible

theorem Checked.map {m : Traced ρ α} (checked : Checked size m) (g : α → β) : Checked size (g <$> m) := by
  rw [← bind_pure_comp]
  exact checked.bind fun x _ => checked_pure (g x)

theorem checked_mapM {f : α → Traced ρ β} (xs : List α) (each : ∀ x ∈ xs, Checked size (f x)) :
    Checked size (xs.mapM f) := by
  induction xs with
  | nil => exact checked_pure []
  | cons x xs ih =>
      rw [List.mapM_cons]
      refine (each x List.mem_cons_self).bind fun y _ => ?_
      exact (ih fun z member => each z (List.mem_cons_of_mem x member)).bind fun ys _ => checked_pure _

theorem Checked.rename {f : ρ → σ} {other : σ → Int} {m : Traced ρ α} (checked : Checked size m)
    (same : ∀ array, other (f array) = size array) : Checked other (m.rename f) := by
  refine Iff.trans ?_ checked
  constructor
  · intro bounded array i member
    rw [← same array]
    exact bounded (f array) i (List.mem_map.mpr ⟨_, member, rfl⟩)
  · intro bounded array i member
    obtain ⟨access, found, renamed⟩ := List.mem_map.mp member
    cases access with
    | read array' j =>
        cases renamed
        rw [same array']
        exact bounded array' i found
    | allocate n => cases renamed
    | write j => cases renamed

end Checked

end OmmoSdk.Theory
