/-
# Theory.KeyedStores — many stores behind one map

A map holds a store for each of some ids, under a key of the id.  Packets arrive in one
stream and are pushed into the store that has the key of their id.  `history` is what
one id alone sees of the operations: the store it was given last and the packets that
came for it since.

* `apply_lookup`, `run_lookup`: where the keys of the ids in use are different, the map
  holds for each id what a store of its own holds after these packets;
* `run_other`: operations on one id leave the store of an id with another key alone;
* `run_invariant`: what is true of new stores and kept by pushes is true of every store.
-/
import Mathlib.Data.List.AList
import Mathlib.Tactic

namespace OmmoSdk.Theory

set_option autoImplicit false

/-- How ids are packed into keys, packets are told apart, and stores are fed. -/
structure KeyedStores (ι κ α π ε : Type) where
  key : ι → κ
  address : π → ι
  push : α → π → Except ε α

namespace KeyedStores

/-- `create` keeps a store that is there. -/
inductive Operation (ι α π : Type) where
  | create (id : ι) (store : α)
  | remove (id : ι)
  | feed (packet : π)

variable {ι κ α π ε : Type} (stores : KeyedStores ι κ α π ε)

def id : Operation ι α π → ι
  | .create i _ => i
  | .remove i => i
  | .feed packet => stores.address packet

/-- Feed one store alone. -/
def feedAll (store : α) (packets : List π) : Except ε α := packets.foldlM stores.push store

theorem feedAll_concat {store last : α} {packets : List π} {packet : π}
    (fed : stores.feedAll store packets = .ok last) :
    stores.feedAll store (packets ++ [packet]) = stores.push last packet := by
  have fed' : packets.foldlM stores.push store = .ok last := fed
  simp only [feedAll, List.foldlM_append, fed', bind, Except.bind, List.foldlM_cons,
    List.foldlM_nil, pure, Except.pure]
  cases stores.push last packet <;> rfl

variable [DecidableEq κ]

def apply (map : AList fun _ : κ => α) : Operation ι α π → Except ε (AList fun _ : κ => α)
  | .create i store =>
      .ok (if stores.key i ∈ map then map else map.insert (stores.key i) store)
  | .remove i => .ok (if stores.key i ∈ map then map.erase (stores.key i) else map)
  | .feed packet =>
      match map.lookup (stores.key (stores.address packet)) with
      | some store => do
          let store ← stores.push store packet
          return map.insert (stores.key (stores.address packet)) store
      | none => .ok map

def run (operations : List (Operation ι α π)) (map : AList fun _ : κ => α) :
    Except ε (AList fun _ : κ => α) :=
  operations.foldlM stores.apply map

/-- The store that an id was given last and has not lost, and its packets since. -/
def history [DecidableEq ι] (i : ι) (seen : Option (α × List π)) :
    Operation ι α π → Option (α × List π)
  | .create j store => if j = i then seen.or (some (store, [])) else seen
  | .remove j => if j = i then none else seen
  | .feed packet =>
      if stores.address packet = i then seen.map fun past => (past.1, past.2 ++ [packet]) else seen

/-- What an id has seen is what it has. -/
def Holds (map : AList fun _ : κ => α) (i : ι) (seen : Option (α × List π)) : Prop :=
  match seen with
  | none => map.lookup (stores.key i) = none
  | some (store, packets) =>
      ∃ last, stores.feedAll store packets = .ok last ∧ map.lookup (stores.key i) = some last

/-- What an operation does to the store of its own id. -/
def Does (map map' : AList fun _ : κ => α) : Operation ι α π → Prop
  | .create i store => map'.lookup (stores.key i) = (map.lookup (stores.key i)).or (some store)
  | .remove i => map'.lookup (stores.key i) = none
  | .feed packet =>
      (map.lookup (stores.key (stores.address packet)) = none → map' = map) ∧
        ∀ store, map.lookup (stores.key (stores.address packet)) = some store →
          ∃ next, stores.push store packet = .ok next ∧
            map'.lookup (stores.key (stores.address packet)) = some next

section Operations

variable {stores} {map map' : AList fun _ : κ => α} {i j : ι} {operation : Operation ι α π}

/-- All that an operation does. -/
theorem apply_cases (applied : stores.apply map operation = .ok map') :
    (∀ k, k ≠ stores.key (stores.id operation) → map'.lookup k = map.lookup k) ∧
      stores.Does map map' operation := by
  cases operation with
  | create i store =>
      cases applied
      by_cases present : stores.key i ∈ map
      · refine ⟨fun k _ => by rw [if_pos present], ?_⟩
        obtain ⟨old, found⟩ := Option.isSome_iff_exists.mp (AList.lookup_isSome.mpr present)
        simp [Does, present, found]
      · refine ⟨fun k other => by rw [if_neg present]; exact AList.lookup_insert_ne other, ?_⟩
        simp [Does, present, AList.lookup_eq_none.mpr present]
  | remove i =>
      cases applied
      by_cases present : stores.key i ∈ map
      · refine ⟨fun k other => by rw [if_pos present]; exact AList.lookup_erase_ne other, ?_⟩
        simp [Does, present]
      · refine ⟨fun k _ => by rw [if_neg present], ?_⟩
        simp [Does, present, AList.lookup_eq_none]
  | feed packet =>
      simp only [apply] at applied
      cases found : map.lookup (stores.key (stores.address packet)) with
      | none =>
          rw [found] at applied
          cases applied
          exact ⟨fun _ _ => rfl, fun _ => rfl, fun store there => by rw [found] at there; cases there⟩
      | some store =>
          rw [found] at applied
          cases pushed : stores.push store packet with
          | error fault => simp [pushed, bind, Except.bind] at applied
          | ok next =>
              simp only [pushed, bind, Except.bind, pure, Except.pure] at applied
              cases applied
              refine ⟨fun k other => AList.lookup_insert_ne other, fun none => ?_, fun old there => ?_⟩
              · rw [found] at none
                cases none
              · rw [found] at there
                cases there
                exact ⟨next, pushed, AList.lookup_insert _⟩

/-- An operation on another key. -/
theorem apply_other (applied : stores.apply map operation = .ok map')
    (other : stores.key j ≠ stores.key (stores.id operation)) :
    map'.lookup (stores.key j) = map.lookup (stores.key j) :=
  (apply_cases applied).1 _ other

variable [DecidableEq ι]

/-- **One operation**, seen from an id whose key no other id in use has. -/
theorem apply_lookup {seen : Option (α × List π)}
    (apart : stores.key (stores.id operation) = stores.key i → stores.id operation = i)
    (holds : stores.Holds map i seen) (applied : stores.apply map operation = .ok map') :
    stores.Holds map' i (stores.history i seen operation) := by
  have outcome := (apply_cases applied).2
  by_cases own : stores.id operation = i
  · cases operation with
    | create i' store =>
        obtain rfl : i' = i := own
        rw [Does] at outcome
        cases seen with
        | none =>
            have absent : map.lookup (stores.key i') = none := holds
            rw [absent] at outcome
            simp only [history, if_true, Option.none_or]
            exact ⟨store, rfl, outcome⟩
        | some past =>
            obtain ⟨last, fed, found⟩ := holds
            rw [found] at outcome
            simp only [history, if_true, Option.some_or]
            exact ⟨last, fed, outcome⟩
    | remove i' =>
        obtain rfl : i' = i := own
        simp only [history, if_true]
        exact outcome
    | feed packet =>
        obtain rfl : stores.address packet = i := own
        cases seen with
        | none =>
            have absent : map.lookup (stores.key (stores.address packet)) = none := holds
            simp only [history, if_true, Option.map_none]
            rw [outcome.1 absent]
            exact absent
        | some past =>
            obtain ⟨last, fed, found⟩ := holds
            obtain ⟨next, pushed, after⟩ := outcome.2 last found
            simp only [history, if_true, Option.map_some]
            exact ⟨next, (stores.feedAll_concat fed).trans pushed, after⟩
  · have elsewhere := apply_other applied fun same => own (apart same.symm)
    have same : stores.history i seen operation = seen := by
      cases operation <;> exact if_neg own
    rw [same]
    cases seen with
    | none => exact elsewhere.trans holds
    | some past =>
        obtain ⟨last, fed, found⟩ := holds
        exact ⟨last, fed, elsewhere.trans found⟩

end Operations

/-! ## Runs -/

section Runs

variable {stores} {map map' : AList fun _ : κ => α} {i j : ι} {operations : List (Operation ι α π)}

theorem run_cons {operation : Operation ι α π} (ran : stores.run (operation :: operations) map = .ok map') :
    ∃ middle, stores.apply map operation = .ok middle ∧ stores.run operations middle = .ok map' := by
  rw [run, List.foldlM_cons] at ran
  cases applied : stores.apply map operation with
  | error fault => simp [applied, bind, Except.bind] at ran
  | ok middle =>
      simp only [applied, bind, Except.bind] at ran
      exact ⟨middle, rfl, ran⟩

/-- **A whole run**, seen from one id. -/
theorem run_lookup [DecidableEq ι] {seen : Option (α × List π)}
    (apart : ∀ operation ∈ operations,
      stores.key (stores.id operation) = stores.key i → stores.id operation = i)
    (holds : stores.Holds map i seen) (ran : stores.run operations map = .ok map') :
    stores.Holds map' i (operations.foldl (stores.history i) seen) := by
  induction operations generalizing map seen with
  | nil =>
      cases ran
      exact holds
  | cons operation rest ih =>
      obtain ⟨middle, applied, later⟩ := run_cons ran
      obtain ⟨here, others⟩ := List.forall_mem_cons.mp apart
      exact ih others (apply_lookup here holds applied) later

/-- **Isolation.**  Operations on other keys. -/
theorem run_other (others : ∀ operation ∈ operations, stores.key j ≠ stores.key (stores.id operation))
    (ran : stores.run operations map = .ok map') :
    map'.lookup (stores.key j) = map.lookup (stores.key j) := by
  induction operations generalizing map with
  | nil =>
      cases ran
      rfl
  | cons operation rest ih =>
      obtain ⟨middle, applied, later⟩ := run_cons ran
      obtain ⟨here, rest'⟩ := List.forall_mem_cons.mp others
      exact (ih rest' later).trans (apply_other applied here)

/-- Something that is true of new stores and kept by pushes is true of every store. -/
theorem run_invariant (good : κ → α → Prop)
    (created : ∀ i store, .create i store ∈ operations → good (stores.key i) store)
    (pushed : ∀ packet, .feed packet ∈ operations → ∀ store next,
      good (stores.key (stores.address packet)) store → stores.push store packet = .ok next →
        good (stores.key (stores.address packet)) next)
    (start : ∀ k store, map.lookup k = some store → good k store)
    (ran : stores.run operations map = .ok map') :
    ∀ k store, map'.lookup k = some store → good k store := by
  induction operations generalizing map with
  | nil =>
      cases ran
      exact start
  | cons operation rest ih =>
      obtain ⟨middle, applied, later⟩ := run_cons ran
      refine ih (fun i store member => created i store (List.mem_cons_of_mem _ member))
        (fun packet member => pushed packet (List.mem_cons_of_mem _ member)) ?_ later
      obtain ⟨others, outcome⟩ := apply_cases applied
      intro k store found
      by_cases here : k = stores.key (stores.id operation)
      · subst here
        cases operation with
        | create i new =>
            rw [Does] at outcome
            simp only [id] at found ⊢
            cases before : map.lookup (stores.key i) with
            | none =>
                rw [outcome, before] at found
                cases found
                exact created i _ List.mem_cons_self
            | some old =>
                rw [outcome, before] at found
                cases found
                exact start _ _ before
        | remove i =>
            rw [Does] at outcome
            simp only [id] at found
            rw [outcome] at found
            cases found
        | feed packet =>
            simp only [id] at found ⊢
            cases before : map.lookup (stores.key (stores.address packet)) with
            | none =>
                rw [outcome.1 before] at found
                exact start _ _ found
            | some old =>
                obtain ⟨next, done, after⟩ := outcome.2 old before
                rw [after] at found
                cases found
                exact pushed packet List.mem_cons_self old _ (start _ _ before) done
      · rw [others k here] at found
        exact start k store found

/-- A run meets no fault if every push into a good store leads to a good store. -/
theorem run_total (good : α → Prop)
    (created : ∀ i store, .create i store ∈ operations → good store)
    (pushed : ∀ packet, .feed packet ∈ operations → ∀ store, good store →
      ∃ next, stores.push store packet = .ok next ∧ good next)
    (start : ∀ k store, map.lookup k = some store → good store) :
    ∃ map', stores.run operations map = .ok map' := by
  induction operations generalizing map with
  | nil => exact ⟨map, rfl⟩
  | cons operation rest ih =>
      have applied : ∃ middle, stores.apply map operation = .ok middle := by
        cases operation with
        | create i store => exact ⟨_, rfl⟩
        | remove i => exact ⟨_, rfl⟩
        | feed packet =>
            cases found : map.lookup (stores.key (stores.address packet)) with
            | none => exact ⟨map, by simp only [apply, found]⟩
            | some store =>
                obtain ⟨next, done, -⟩ := pushed packet List.mem_cons_self store (start _ _ found)
                exact ⟨_, by simp only [apply, found, done, bind, Except.bind, pure, Except.pure]; rfl⟩
      obtain ⟨middle, applied⟩ := applied
      have first : stores.run [operation] map = .ok middle := by
        simp [run, applied, bind, Except.bind, pure, Except.pure]
      have kept : ∀ k store, middle.lookup k = some store → good store := by
        refine run_invariant (fun _ => good) ?_ ?_ start first
        · intro i store member
          exact created i store (List.mem_of_mem_head? (by simpa [eq_comm] using member))
        · intro packet member store next fine done
          have head : Operation.feed packet ∈ operation :: rest :=
            List.mem_of_mem_head? (by simpa [eq_comm] using member)
          obtain ⟨next', done', fine'⟩ := pushed packet head store fine
          rw [done] at done'
          cases done'
          exact fine'
      obtain ⟨map', later⟩ := ih (fun i store member => created i store (List.mem_cons_of_mem _ member))
        (fun packet member => pushed packet (List.mem_cons_of_mem _ member)) kept
      refine ⟨map', ?_⟩
      have later' : rest.foldlM stores.apply middle = .ok map' := later
      simp [run, applied, later', bind, Except.bind]

theorem run_append {later : List (Operation ι α π)} :
    stores.run (operations ++ later) map = stores.run operations map >>= stores.run later :=
  List.foldlM_append

end Runs

end KeyedStores

end OmmoSdk.Theory
