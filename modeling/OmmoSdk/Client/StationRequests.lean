/-
# Client.StationRequests — base station requests made at the client manager

Unlike a client context, the client manager makes a storage with a stream of its own for
each request, and lists it behind those that are open.  A request is closed by its storage,
which is looked for in the list.

The loop that looks for it has no step: it leaves the list at its end or with the storage
that it removes, and compares any other one again.  So it ends if the storage is the first
one, or if there is none, and otherwise never (`closeBaseStationDataRequest_iff`).  Requests
are then closed in the order they were made, or not at all (`closes_requested_iff`).
-/
import OmmoSdk.Client.ClientContext

namespace OmmoSdk.Client.ClientManager

open OmmoSdk.Theory
open OmmoSdk.Sdk
open OmmoSdk.Storage

set_option autoImplicit false

/-- Closing the request ends with `w'`. -/
def ClosesTo (w : ClientManager) (storage : Option StorageId) (w' : ClientManager) : Prop :=
  ∃ fuel, w.closeBaseStationDataRequest fuel storage = some w'

/-- What closing a request should do: cancel the stream of a listed storage, take that storage
off the list, and nothing else. -/
def ClosesOnly (w : ClientManager) (storage : Option StorageId) (w' : ClientManager) : Prop :=
  (∃ s ∈ w.baseStationDataStorageList, storage = some s ∧
      w' = { w with
        calls := (w.stored (.baseStation s)).elim w.calls (cancelCall w.calls)
        baseStationDataStorageList := w.baseStationDataStorageList.erase s }) ∨
    (∀ s ∈ w.baseStationDataStorageList, storage ≠ some s) ∧ w' = w

/-- The storage is the first of the list, or there is nothing to look for or nowhere to look. -/
def ListedFirst (w : ClientManager) (storage : Option StorageId) : Prop :=
  storage = none ∨ w.baseStationDataStorageList = [] ∨ w.baseStationDataStorageList.head? = storage

/-! ## One close -/

section Close

variable {w w' : ClientManager} {storage : Option StorageId} {s : StorageId}

theorem cancelBaseStationStream_eq (w : ClientManager) (s : StorageId) :
    w.cancelBaseStationStream s =
      { w with calls := (w.stored (.baseStation s)).elim w.calls (cancelCall w.calls) } := by
  have pointer : w.stored (.baseStation s) =
      (w.baseStationStorages[s]?).bind fun storage => storage.baseStationStream := rfl
  rw [pointer, cancelBaseStationStream]
  split
  · rename_i found
    rw [found, Option.elim_some]
  · rename_i found
    rw [found, Option.elim_none]

/-- The round that finds the storage. -/
theorem closeRound_found (w : ClientManager) (s : StorageId) (rest : List StorageId) :
    w.closeRound s (s :: rest) = .inr { w with
      calls := (w.stored (.baseStation s)).elim w.calls (cancelCall w.calls)
      baseStationDataStorageList := w.baseStationDataStorageList.erase s } := by
  rw [closeRound, if_pos rfl, cancelBaseStationStream_eq]

/-- Where the storage is listed first, one round does all there is to do. -/
theorem closesOnly_of_listedFirst (first : w.ListedFirst storage) :
    ∃ w', w.ClosesTo storage w' ∧ w.ClosesOnly storage w' := by
  cases storage with
  | none =>
      refine ⟨w, ⟨0, rfl⟩, .inr ⟨fun s _ absent => ?_, rfl⟩⟩
      cases absent
  | some s =>
      cases listed : w.baseStationDataStorageList with
      | nil =>
          refine ⟨w, ⟨1, ?_⟩, .inr ⟨fun s member => ?_, rfl⟩⟩
          · show Loop.run (w.closeRound s) 1 w.baseStationDataStorageList = some w
            rw [listed]
            rfl
          · rw [listed] at member
            cases member
      | cons it rest =>
          obtain rfl : it = s := by
            rcases first with absent | empty | head
            · cases absent
            · rw [listed] at empty
              cases empty
            · rw [listed] at head
              exact Option.some.inj head
          have member : it ∈ w.baseStationDataStorageList := by
            rw [listed]
            exact List.mem_cons_self
          have round := closeRound_found w it rest
          rw [← listed] at round
          exact ⟨_, Loop.returns_of_exit round, .inl ⟨it, member, rfl, rfl⟩⟩

/-- Where another storage is listed first, it never ends. -/
theorem listedFirst_of_closesTo (closes : w.ClosesTo storage w') : w.ListedFirst storage := by
  obtain ⟨fuel, run⟩ := closes
  cases storage with
  | none => exact .inl rfl
  | some s =>
      cases listed : w.baseStationDataStorageList with
      | nil => exact .inr (.inl listed)
      | cons it rest =>
          by_cases same : it = s
          · exact .inr (.inr (by rw [listed, same, List.head?_cons]))
          · have round : w.closeRound s w.baseStationDataStorageList =
                .inl w.baseStationDataStorageList := by rw [listed, closeRound, if_neg same]
            exact absurd ⟨fuel, run⟩ (Loop.not_returns_of_stuck round)

/-- **When closing a request ends.**  For every content of the list and every storage, listed
anywhere, absent or null: the call ends, having removed exactly that storage, if and only if
the storage is null, the list empty, or the storage its first one. -/
theorem closeBaseStationDataRequest_iff (w : ClientManager) (storage : Option StorageId) :
    (∃ w', w.ClosesTo storage w' ∧ w.ClosesOnly storage w') ↔ w.ListedFirst storage :=
  ⟨fun ⟨_, closes, _⟩ => listedFirst_of_closesTo closes, closesOnly_of_listedFirst⟩

/-- Two requests are made, and the second is closed: the call does not return.  Nor does it
for a storage that the list no longer has. -/
theorem second_request_hangs :
    ¬ (∀ w storage, ∃ w', ClosesTo w storage w' ∧ ClosesOnly w storage w') ∧
      init.requestBaseStationData.1.requestBaseStationData.2 = 1 ∧
      (∀ fuel, init.requestBaseStationData.1.requestBaseStationData.1.closeBaseStationDataRequest
        fuel (some 1) = none) ∧
      ∀ fuel, init.requestBaseStationData.1.closeBaseStationDataRequest fuel (some 1) = none := by
  have never : ∀ w s rest, w.baseStationDataStorageList = 0 :: rest → s ≠ 0 →
      ∀ fuel, closeBaseStationDataRequest fuel w (some s) = none := by
    intro w s rest listed other fuel
    refine Option.eq_none_iff_forall_ne_some.mpr fun w' run => ?_
    rcases listedFirst_of_closesTo ⟨fuel, run⟩ with absent | empty | head
    · cases absent
    · rw [listed] at empty
      cases empty
    · rw [listed] at head
      exact other (Option.some.inj head).symm
  have second := never init.requestBaseStationData.1.requestBaseStationData.1 1 [1] rfl (by decide)
  refine ⟨?_, rfl, second, never init.requestBaseStationData.1 1 [] rfl (by decide)⟩
  intro claimed
  obtain ⟨w', ⟨fuel, run⟩, -⟩ :=
    claimed init.requestBaseStationData.1.requestBaseStationData.1 (some 1)
  rw [second fuel] at run
  cases run

end Close

/-! ## Requests in a row -/

/-- Make `n` requests. -/
def requestAll : Nat → ClientManager → ClientManager
  | 0, w => w
  | n + 1, w => (requestAll n w).requestBaseStationData.1

theorem requestBaseStationData_listed (w : ClientManager) :
    w.requestBaseStationData.1.baseStationDataStorageList =
        w.baseStationDataStorageList ++ [w.baseStationStorages.length] ∧
      w.requestBaseStationData.1.baseStationStorages.length = w.baseStationStorages.length + 1 := by
  constructor
  · rfl
  · simp [requestBaseStationData, pushBaseStationDataStorage, setDataStream, openBaseStationDataStream,
      makeBaseStationDataStorage]

/-- They stand in the list in the order they were made. -/
theorem requestAll_listed (n : Nat) : (requestAll n init).baseStationDataStorageList = List.range n ∧
    (requestAll n init).baseStationStorages.length = n := by
  induction n with
  | zero => exact ⟨rfl, rfl⟩
  | succ n ih =>
      obtain ⟨listed, made⟩ := requestBaseStationData_listed (requestAll n init)
      rw [ih.1, ih.2] at listed
      rw [ih.2] at made
      exact ⟨listed.trans List.range_succ.symm, made⟩

/-- **Only the oldest request can be closed.** -/
theorem closes_requested_iff (n : Nat) (s : StorageId) :
    (∃ w', (requestAll n init).ClosesTo (some s) w') ↔ n = 0 ∨ s = 0 := by
  have listed := (requestAll_listed n).1
  have first : (requestAll n init).ListedFirst (some s) ↔ n = 0 ∨ s = 0 := by
    rw [ListedFirst, listed, List.range_eq_nil, List.head?_range]
    split
    · rename_i none
      simp [none]
    · rename_i some
      simp only [reduceCtorEq, some, false_or, Option.some.injEq]
      exact eq_comm
  rw [← first]
  constructor
  · rintro ⟨w', closes⟩
    exact listedFirst_of_closesTo closes
  · intro held
    obtain ⟨w', closes, -⟩ := closesOnly_of_listedFirst held
    exact ⟨w', closes⟩

end OmmoSdk.Client.ClientManager
