/-
# Theory.OwningMaps — maps whose values own something

A map from keys to values that own resources, counted in a multiset, owns what its values
own (`sumValues`).  One entry at a time is replaced, made or dropped, and the sum
splits accordingly: what the entry owned, and what the rest of the map owns.

`mapValues` is the map as it is seen through a function of the values, and commutes
with the operations.
-/
import Mathlib.Data.List.AList
import Mathlib.Tactic

namespace OmmoSdk.Theory

set_option autoImplicit false

variable {κ α β ι : Type}

/-- The same keys, and a function of the values. -/
def mapValues (f : α → β) (map : AList fun _ : κ => α) : AList fun _ : κ => β where
  entries := map.entries.map fun entry => ⟨entry.1, f entry.2⟩
  nodupKeys := by
    have keys : (map.entries.map fun entry => (⟨entry.1, f entry.2⟩ : Σ _ : κ, β)).keys =
        map.entries.keys := by
      rw [List.keys, List.keys, List.map_map]
      rfl
    rw [List.NodupKeys, keys]
    exact map.nodupKeys

/-- What the values own. -/
def sumValues (owned : α → Multiset ι) (map : AList fun _ : κ => α) : Multiset ι :=
  (map.entries.map fun entry => owned entry.2).sum

section Values

variable {f : α → β} {owned : α → Multiset ι} {map : AList fun _ : κ => α} {key : κ} {v : α}

theorem entries_mapValues :
    (mapValues f map).entries = map.entries.map fun entry => ⟨entry.1, f entry.2⟩ := rfl

@[simp] theorem mapValues_empty : mapValues f (∅ : AList fun _ : κ => α) = ∅ := rfl

@[simp] theorem sumValues_empty : sumValues owned (∅ : AList fun _ : κ => α) = 0 := rfl

@[simp] theorem mem_mapValues : key ∈ mapValues f map ↔ key ∈ map := by
  rw [AList.mem_keys, AList.mem_keys]
  simp [AList.keys, mapValues, List.keys, List.map_map]

variable [DecidableEq κ]

theorem kerase_mapValues (entries : List (Σ _ : κ, α)) :
    (entries.map fun entry => (⟨entry.1, f entry.2⟩ : Σ _ : κ, β)).kerase key =
      (entries.kerase key).map fun entry => ⟨entry.1, f entry.2⟩ := by
  rw [List.kerase, List.kerase, List.eraseP_map]
  rfl

theorem lookup_mapValues : (mapValues f map).lookup key = (map.lookup key).map f := by
  cases found : map.lookup key with
  | none =>
      rw [AList.lookup_eq_none] at found
      rw [Option.map_none, AList.lookup_eq_none, mem_mapValues]
      exact found
  | some v =>
      rw [Option.map_some]
      refine AList.mem_lookup_iff.mpr (List.mem_map.mpr ⟨⟨key, v⟩, ?_, rfl⟩)
      exact AList.mem_lookup_iff.mp found

theorem mapValues_erase : mapValues f (map.erase key) = (mapValues f map).erase key :=
  AList.ext (kerase_mapValues map.entries).symm

theorem mapValues_insert : mapValues f (map.insert key v) = (mapValues f map).insert key (f v) := by
  refine AList.ext ?_
  rw [AList.entries_insert, entries_mapValues, entries_mapValues, AList.entries_insert,
    List.map_cons, kerase_mapValues]

/-- A value that is there, and the rest. -/
theorem sumValues_lookup (found : map.lookup key = some v) :
    sumValues owned map = owned v + sumValues owned (map.erase key) := by
  have member : (⟨key, v⟩ : Σ _ : κ, α) ∈ map.entries := AList.mem_lookup_iff.mp found
  obtain ⟨v', front, back, absent, split, rest⟩ :=
    List.exists_of_kerase (List.mem_keys_of_mem member)
  have same : v' = v := by
    have there : map.lookup key = some v' :=
      AList.mem_lookup_iff.mpr (by rw [split]; simp)
    rw [found] at there
    exact (Option.some.inj there).symm
  subst same
  show (map.entries.map _).sum = _ + ((map.entries.kerase key).map _).sum
  rw [rest, split]
  simp only [List.map_append, List.map_cons, List.sum_append, List.sum_cons]
  rw [add_left_comm]

/-- A value for a key, whatever was there. -/
theorem sumValues_insert :
    sumValues owned (map.insert key v) = owned v + sumValues owned (map.erase key) := by
  rw [sumValues, AList.entries_insert, List.map_cons, List.sum_cons]
  rfl

theorem length_kerase (found : map.lookup key = some v) :
    (map.entries.kerase key).length + 1 = map.entries.length := by
  have member : (⟨key, v⟩ : Σ _ : κ, α) ∈ map.entries := AList.mem_lookup_iff.mp found
  rw [List.kerase, List.length_eraseP_of_mem member (by simp)]
  exact Nat.succ_pred_eq_of_pos (List.length_pos_of_mem member)

theorem erase_of_notMem (absent : key ∉ map) : map.erase key = map :=
  AList.ext (List.kerase_of_notMem_keys absent)

end Values

end OmmoSdk.Theory
