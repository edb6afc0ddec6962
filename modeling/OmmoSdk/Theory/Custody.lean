/-
# Theory.Custody — programs that take arrays over and hand arrays on

`Theory.OwnedArrays` describes programs that only create and programs that only delete.  A
program that keeps a store does both: it replaces what it holds, and arrays may be created
and deleted on the way.  `Exchanges m taken given post` says of such a program that it takes
over the arrays `taken` and ends in the custody of those its result owns; whatever other
arrays there are stay (`others`), so programs may be put side by side (`Exchanges.frame`).
The arrays are counted in multisets, since nobody cares for their order.

`Arrays.Evolved` is what every such program leaves behind in the book of deletions: each
array that is gone was deleted once.  A program that takes nothing and gives nothing has
therefore deleted exactly what it created (`Exchanges.balanced`).
-/
import OmmoSdk.Theory.OwnedArrays

namespace OmmoSdk.Theory

set_option autoImplicit false

namespace Arrays

/-! ## The book of deletions -/

/-- No identifier was used twice, and what is gone was deleted once. -/
structure Evolved (before after : Arrays) : Prop where
  next : before.next ≤ after.next
  live : ∀ id ∈ after.live, id ∈ before.live ∨ before.next ≤ id
  deleted : ∃ ids, after.deleted = before.deleted ++ ids ∧ ids.Nodup ∧
    ∀ id, id ∈ ids ↔ (id ∈ before.live ∨ before.next ≤ id ∧ id < after.next) ∧ id ∉ after.live

variable {h between after : Arrays}

theorem Evolved.refl (h : Arrays) : Evolved h h where
  next := Nat.le_refl _
  live _ old := .inl old
  deleted := by
    refine ⟨[], (List.append_nil _).symm, List.nodup_nil, fun id => ?_⟩
    have fresh := h.fresh id
    constructor
    · intro member
      cases member
    · rintro ⟨old | new, absent⟩
      · exact absurd old absent
      · exact absurd new.2 (Nat.not_lt.mpr new.1)

theorem Evolved.trans (first : Evolved h between) (second : Evolved between after) :
    Evolved h after where
  next := Nat.le_trans first.next second.next
  live id member := by
    rcases second.live id member with old | new
    · exact first.live id old
    · exact .inr (Nat.le_trans first.next new)
  deleted := by
    obtain ⟨ids, joined, distinct, gone⟩ := first.deleted
    obtain ⟨others, joined', distinct', gone'⟩ := second.deleted
    have below : ∀ id, id ∈ ids → id < between.next ∧ id ∉ between.live := by
      intro id member
      obtain ⟨old | new, absent⟩ := (gone id).mp member
      · exact ⟨Nat.lt_of_lt_of_le (h.fresh id old) first.next, absent⟩
      · exact ⟨new.2, absent⟩
    refine ⟨ids ++ others, ?_, ?_, fun id => ?_⟩
    · rw [joined', joined, List.append_assoc]
    · refine List.nodup_append.mpr ⟨distinct, distinct', fun id early id' late same => ?_⟩
      subst same
      rcases ((gone' id).mp late).1 with old | new
      · exact (below id early).2 old
      · exact Nat.not_lt.mpr new.1 (below id early).1
    · rw [List.mem_append]
      constructor
      · rintro (early | late)
        · refine ⟨?_, fun left => ?_⟩
          · rcases ((gone id).mp early).1 with old | new
            · exact .inl old
            · exact .inr ⟨new.1, Nat.lt_of_lt_of_le new.2 second.next⟩
          · rcases second.live id left with old | new
            · exact (below id early).2 old
            · exact Nat.not_lt.mpr new (below id early).1
        · obtain ⟨there, absent⟩ := (gone' id).mp late
          refine ⟨?_, absent⟩
          rcases there with old | new
          · rcases first.live id old with older | newer
            · exact .inl older
            · exact .inr ⟨newer, Nat.lt_of_lt_of_le (between.fresh id old) second.next⟩
          · exact .inr ⟨Nat.le_trans first.next new.1, new.2⟩
      · rintro ⟨there, absent⟩
        by_cases held : id ∈ between.live
        · exact .inr ((gone' id).mpr ⟨.inl held, absent⟩)
        rcases there with old | new
        · exact .inl ((gone id).mpr ⟨.inl old, held⟩)
        · rcases Nat.lt_or_ge id between.next with early | late
          · exact .inl ((gone id).mpr ⟨.inr ⟨new.1, early⟩, held⟩)
          · exact .inr ((gone' id).mpr ⟨.inr ⟨late, new.2⟩, absent⟩)

theorem evolved_grow (n : Nat) : Evolved h (h.grow n) where
  next := Nat.le_add_right _ _
  live id member := by
    rcases (h.mem_grow n).mp member with old | new
    · exact .inl old
    · exact .inr new.1
  deleted := by
    refine ⟨[], (List.append_nil _).symm, List.nodup_nil, fun id => ?_⟩
    rw [mem_grow, next_grow]
    simp only [List.not_mem_nil, and_not_self]

theorem evolved_release {ids : List ArrayId} (distinct : ids.Nodup)
    (there : ∀ id ∈ ids, id ∈ h.live) : Evolved h (h.release ids) where
  next := Nat.le_refl _
  live id member := .inl ((h.mem_release ids).mp member).1
  deleted := by
    refine ⟨ids, rfl, distinct, fun id => ?_⟩
    rw [mem_release]
    constructor
    · exact fun member => ⟨.inl (there id member), fun left => left.2 member⟩
    · rintro ⟨old | new, gone⟩
      · by_contra kept
        exact gone ⟨old, kept⟩
      · exact absurd new.2 (Nat.not_lt.mpr new.1)

/-- The arrays are those before; each array that was created in between was deleted once, and
no other array was. -/
structure Balanced (before after : Arrays) : Prop where
  live : after.live = before.live
  deleted : ∃ ids, after.deleted = before.deleted ++ ids ∧
    ids.Perm (List.range' before.next (after.next - before.next))

theorem Evolved.balanced (evolved : Evolved h after) (same : after.live = h.live) :
    Balanced h after := by
  obtain ⟨ids, joined, distinct, gone⟩ := evolved.deleted
  refine ⟨same, ids, joined, (List.perm_ext_iff_of_nodup distinct List.nodup_range').mpr fun id => ?_⟩
  rw [gone, same, List.mem_range'_1, Nat.add_sub_cancel' evolved.next]
  constructor
  · rintro ⟨old | new, absent⟩
    · exact absurd old absent
    · exact new
  · exact fun new => ⟨.inr new, fun old => Nat.not_lt.mpr new.1 (h.fresh id old)⟩

/-! ## The arrays as a multiset -/

theorem live_grow (n : Nat) :
    (h.grow n).live.val = h.live.val + (List.range' h.next n : Multiset ArrayId) := by
  have apart : Disjoint h.live.val (List.range' h.next n : Multiset ArrayId) := by
    refine Multiset.disjoint_left.mpr fun old new => ?_
    exact ((h.mem_created n).mp (Multiset.mem_coe.mp new)).2 old
  have distinct : (h.live.val + (List.range' h.next n : Multiset ArrayId)).Nodup :=
    Multiset.nodup_add.mpr ⟨h.live.nodup, Multiset.coe_nodup.mpr List.nodup_range', apart⟩
  refine (Multiset.Nodup.ext (h.grow n).live.nodup distinct).mpr fun id => ?_
  rw [Multiset.mem_add, Multiset.mem_coe, List.mem_range'_1]
  exact h.mem_grow n

theorem live_release {ids : List ArrayId} {others : Multiset ArrayId}
    (split : h.live.val = (ids : Multiset ArrayId) + others) :
    (h.release ids).live.val = others := by
  have distinct := h.live.nodup
  rw [split] at distinct
  obtain ⟨-, rest, apart⟩ := Multiset.nodup_add.mp distinct
  refine (Multiset.Nodup.ext (h.release ids).live.nodup rest).mpr fun id => ?_
  have member : id ∈ h.live ↔ id ∈ ids ∨ id ∈ others := by
    rw [← Finset.mem_val, split, Multiset.mem_add, Multiset.mem_coe]
  refine (h.mem_release ids).trans ?_
  rw [member]
  constructor
  · rintro ⟨early | late, kept⟩
    · exact absurd early kept
    · exact late
  · exact fun late => ⟨.inr late, fun early =>
      Multiset.disjoint_left.mp apart (Multiset.mem_coe.mpr early) late⟩

end Arrays

open Arrays

/-! ## Taking over and handing on -/

section Exchanges

variable {α β σ ι : Type} {m : ArrayM α} {f : α → ArrayM β} {taken kept : Multiset ArrayId}
  {P : α → Prop} {Q : β → Prop}

/-- An access of an array that may be outside of it. -/
def access : Except Fault α → ArrayM α
  | .ok x => pure x
  | .error fault => throw (.access fault)

@[simp] theorem access_ok (x : α) : access (.ok x) = pure x := rfl

/-- A sequence that ended came through both parts. -/
theorem ok_of_bind {h h' : Arrays} {w : β} (run : (m >>= f).run h = .ok (w, h')) :
    ∃ v between, m.run h = .ok (v, between) ∧ (f v).run between = .ok (w, h') := by
  obtain ⟨v, between, first, -⟩ := completes_bind ⟨_, _, run⟩
  exact ⟨v, between, first, by rw [← run_bind first, run]⟩

/-- What was deleted is gone. -/
theorem gone_of_delete {id : ArrayId} {h h' : Arrays} {u : Unit}
    (run : (deleteArray (some id)).run h = .ok (u, h')) : id ∉ h'.live := by
  by_cases there : id ∈ h.live
  · have deleted : (deleteArray (some id)).run h = .ok ((), h.release [id]) := if_pos there
    rw [deleted] at run
    cases run
    rw [Arrays.mem_release]
    exact fun left => left.2 (List.mem_singleton.mpr rfl)
  · have fault : (deleteArray (some id)).run h = .error .notLive := if_neg there
    rw [fault] at run
    cases run

/-- Where the arrays `taken` are there, the program ends, has made those of its result out of
them, and has left the others alone. -/
def Exchanges (m : ArrayM α) (taken : Multiset ArrayId) (given : α → Multiset ArrayId)
    (post : α → Prop) : Prop :=
  ∀ (h : Arrays) (others : Multiset ArrayId), h.live.val = taken + others →
    ∃ v h', m.run h = .ok (v, h') ∧ h'.live.val = given v + others ∧ Evolved h h' ∧ post v

namespace Exchanges

variable {given : α → Multiset ArrayId}

theorem pure {v : α} (same : given v = taken) (holds : P v) :
    Exchanges (pure v) taken given P :=
  fun h _ split => ⟨v, h, rfl, by rw [same, split], .refl h, holds⟩

theorem bind {last : β → Multiset ArrayId} (before : Exchanges m taken given P)
    (after : ∀ v, P v → Exchanges (f v) (given v) last Q) : Exchanges (m >>= f) taken last Q := by
  intro h others split
  obtain ⟨v, h', run, split', evolved, holds⟩ := before h others split
  obtain ⟨w, h'', run', split'', evolved', holds'⟩ := after v holds h' others split'
  exact ⟨w, h'', by rw [run_bind run, run'], split'', evolved.trans evolved', holds'⟩

theorem conseq {Q : α → Prop} (exchanges : Exchanges m taken given P) (weaker : ∀ v, P v → Q v) :
    Exchanges m taken given Q := by
  intro h others split
  obtain ⟨v, h', run, split', evolved, holds⟩ := exchanges h others split
  exact ⟨v, h', run, split', evolved, weaker v holds⟩

/-- What is not taken over is kept. -/
theorem frame (kept : Multiset ArrayId) (exchanges : Exchanges m taken given P) :
    Exchanges m (taken + kept) (fun v => given v + kept) P := by
  intro h others split
  obtain ⟨v, h', run, split', evolved, holds⟩ :=
    exchanges h (kept + others) (by rw [split, add_assoc])
  exact ⟨v, h', run, by rw [split', add_assoc], evolved, holds⟩

/-- A program that creates arrays, next to arrays that are kept. -/
theorem ofAllocates {owned : α → List ArrayId} (allocates : Allocates m owned P) :
    Exchanges m kept (fun v => (owned v : Multiset ArrayId) + kept) P := by
  intro h others split
  obtain ⟨v, run, created, holds⟩ := allocates h
  refine ⟨v, _, run, ?_, evolved_grow _, holds⟩
  rw [live_grow, ← created, split, add_comm, add_assoc]

theorem ofReleases {ids : List ArrayId} (releases : Releases m ids) :
    Exchanges m ((ids : Multiset ArrayId) + kept) (fun _ => kept) fun _ => True := by
  intro h others split
  rw [add_assoc] at split
  have distinct := h.live.nodup
  rw [split] at distinct
  have there : ∀ id ∈ ids, id ∈ h.live := by
    intro id member
    rw [← Finset.mem_val, split]
    exact Multiset.mem_add.mpr (.inl (Multiset.mem_coe.mpr member))
  have nodup : ids.Nodup := Multiset.coe_nodup.mp (Multiset.nodup_add.mp distinct).1
  obtain ⟨v, run⟩ := releases h nodup there
  exact ⟨v, _, run, live_release split, evolved_release nodup there, trivial⟩

/-- A result that is wrapped up in a return. -/
theorem map {f : α → β} {last : β → Multiset ArrayId} (exchanges : Exchanges m taken given P)
    (same : ∀ v, P v → last (f v) = given v) (holds : ∀ v, P v → Q (f v)) :
    Exchanges (do let v ← m; return f v) taken last Q :=
  bind exchanges fun v held => pure (same v held) (holds v held)

/-- A loop takes over what its rounds take over. -/
theorem mapM {given : β → Multiset ArrayId} {gone : α → Multiset ArrayId} {good : α → β → Prop}
    {f : α → ArrayM β} {xs : List α}
    (each : ∀ x ∈ xs, Exchanges (f x) (gone x) given (good x)) :
    Exchanges (xs.mapM f) (xs.map gone).sum (fun ys => (ys.map given).sum)
      fun ys => List.Forall₂ good xs ys := by
  induction xs with
  | nil => exact pure rfl .nil
  | cons x xs ih =>
      rw [List.mapM_cons, List.map_cons, List.sum_cons]
      have first := (each x List.mem_cons_self).frame (xs.map gone).sum
      refine bind first fun y done => ?_
      have later := (ih fun z member => each z (List.mem_cons_of_mem _ member)).frame (given y)
      rw [add_comm (given y)]
      refine bind later fun ys others => pure ?_ (.cons done others)
      rw [List.map_cons, List.sum_cons, add_comm]

/-- A loop over an index that is large enough. -/
theorem forIndex {given : β → Multiset ArrayId} {gone : Nat → Multiset ArrayId}
    {good : Nat → β → Prop} {limit count : Nat} {body : Nat → ArrayM β} (short : count ≤ limit)
    (each : ∀ i < count, Exchanges (body i) (gone i) given (good i)) :
    Exchanges (forIndex limit count body) ((List.range count).map gone).sum
      (fun ys => (ys.map given).sum) fun ys => List.Forall₂ good (List.range count) ys := by
  refine mapM fun i member => ?_
  have inside := List.mem_range.mp member
  have stepped : increment limit i = Pure.pure () := if_pos (lt_of_lt_of_le inside short)
  rw [stepped]
  exact map (each i inside) (fun _ _ => rfl) fun _ held => held

/-- **Runs.**  Operations that each keep a store in custody do so one after the other, and
the invariant follows what was done.  No operation has as many before it as there are. -/
theorem foldlM {step : σ → ι → ArrayM σ} {owned : σ → Multiset ArrayId} {Inv : List ι → σ → Prop}
    {operations : List ι} :
    ∀ {done : List ι} {s : σ},
      (∀ operation ∈ operations, ∀ earlier s,
        earlier.length < done.length + operations.length → Inv earlier s →
          Exchanges (step s operation) (owned s) owned (Inv (earlier ++ [operation]))) →
      Inv done s →
      Exchanges (operations.foldlM step s) (owned s) owned (Inv (done ++ operations)) := by
  induction operations with
  | nil =>
      intro done s _ held
      rw [List.append_nil]
      exact pure rfl held
  | cons operation rest ih =>
      intro done s each held
      have fewer : done.length < done.length + (operation :: rest).length :=
        Nat.lt_add_of_pos_right (Nat.zero_lt_succ _)
      have same : (done ++ [operation]).length + rest.length =
          done.length + (operation :: rest).length := by
        rw [List.length_append, List.length_singleton, List.length_cons, Nat.add_assoc,
          Nat.add_comm 1]
      rw [List.foldlM_cons]
      refine bind (each operation List.mem_cons_self done s fewer held) fun s' held' => ?_
      have more := ih (fun other member earlier s bound => each other (List.mem_cons_of_mem _ member)
        earlier s (bound.trans_eq same)) held'
      rwa [List.append_assoc, List.singleton_append] at more

/-- **Nothing taken, nothing given**: what was created was deleted, each array once. -/
theorem balanced (exchanges : Exchanges m 0 (fun _ => 0) P) (h : Arrays) :
    ∃ v h', m.run h = .ok (v, h') ∧ Balanced h h' ∧ P v := by
  obtain ⟨v, h', run, split, evolved, holds⟩ := exchanges h h.live.val (zero_add _).symm
  rw [zero_add] at split
  exact ⟨v, h', run, evolved.balanced (Finset.val_inj.mp split), holds⟩

end Exchanges

/-! ## What the places of a list own -/

section Places

variable (owned : α → Multiset ArrayId)

/-- Something else in one place, and the rest stays. -/
theorem sum_map_set {x : α} :
    ∀ {xs : List α} {i : Nat}, xs[i]? = some x →
      ∃ rest, (xs.map owned).sum = owned x + rest ∧
        ∀ y, ((xs.set i y).map owned).sum = owned y + rest
  | _ :: xs, 0, found => by
      cases found
      exact ⟨(xs.map owned).sum, List.sum_cons, fun _ => List.sum_cons⟩
  | z :: xs, i + 1, found => by
      obtain ⟨rest, whole, changed⟩ := sum_map_set (show xs[i]? = some x from found)
      refine ⟨owned z + rest, ?_, fun y => ?_⟩
      · rw [List.map_cons, List.sum_cons, whole, add_left_comm]
      · rw [List.set_cons_succ, List.map_cons, List.sum_cons, changed, add_left_comm]

theorem sum_map_eraseIdx {x : α} :
    ∀ {xs : List α} {i : Nat}, xs[i]? = some x →
      (xs.map owned).sum = owned x + ((xs.eraseIdx i).map owned).sum
  | _ :: xs, 0, found => by
      cases found
      exact List.sum_cons
  | z :: xs, i + 1, found => by
      have rest := sum_map_eraseIdx (show xs[i]? = some x from found)
      rw [List.map_cons, List.sum_cons, rest, List.eraseIdx_cons_succ, List.map_cons,
        List.sum_cons, add_left_comm]

/-- Place by place. -/
theorem sum_range_places (xs : List α) :
    ((List.range xs.length).map fun i => (xs[i]?.map owned).getD 0).sum = (xs.map owned).sum := by
  refine congrArg List.sum (List.ext_getElem (by simp) fun i inside _ => ?_)
  have there : i < xs.length := by simpa using inside
  simp [there]

end Places

end Exchanges

end OmmoSdk.Theory
