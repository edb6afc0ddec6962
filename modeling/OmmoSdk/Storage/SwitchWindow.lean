/-
# Storage.SwitchWindow — what a reader sees in the middle of a push

A push is several steps to the other threads.  The queries run under the shared
lock, which only `switchBufferPointer` excludes, so a query may come between any
two steps.  `pushStep` is one step, and `pushSteps_push` says that four of them are
the push.

`pushSteps_view` describes every point of a push.  Everywhere but one a reader sees
the end of a history, the one before the push or the one after it (`Calm`).  The
exception is the point between the switch and the reset of the write count, from
the second fill of a buffer on: there the counts are exchanged with the pointers, so
the packets of the generation that was just dropped stand behind the newest ones
(`Stale`).  `reader_safe_iff` states this for the queries of both stores.
-/
import OmmoSdk.Storage.BaseStationData

namespace OmmoSdk.Storage

open OmmoSdk.Theory
open OmmoSdk.Sdk

set_option autoImplicit false

namespace PacketBuffers

variable {δ : Type} {N : Nat}

/-! ## The push, one step at a time -/

/-- How far a push has come. -/
inductive PushPoint where
  | entered
  | filled
  | counted
  | switched
  /-- the branch for a full write buffer, which found this count -/
  | retired (writeIdx : Int32)
  | refilled
  | returned
  deriving DecidableEq

def pushStep (dataSlot : Int32 → Int32) (data : δ) :
    PushPoint → PacketBuffers δ → Except Fault (PushPoint × PacketBuffers δ)
  | .entered, b =>
      let writeIdx := b.writeBuffer.dataNum
      if writeIdx.toUInt32 < b.bufferSize then do
        let filled ← b.fillSlot writeIdx writeIdx data
        return (.filled, filled)
      else
        return (.retired writeIdx, b.switchBufferPointer)
  | .filled, b => return (.counted, b.countPacket)
  | .counted, b =>
      if b.writeBuffer.dataNum.toUInt32 = b.bufferSize then
        return (.switched, b.switchBufferPointer)
      else
        return (.returned, b)
  | .switched, b => return (.returned, b.setWriteNum 0)
  | .retired writeIdx, b => do
      let filled ← b.fillSlot 0 (dataSlot writeIdx) data
      return (.refilled, filled)
  | .refilled, b => return (.returned, b.setWriteNum 1)
  | .returned, b => return (.returned, b)

/-- `n` steps of the push from a point of it. -/
def pushSteps (dataSlot : Int32 → Int32) (data : δ) :
    Nat → PushPoint → PacketBuffers δ → Except Fault (PushPoint × PacketBuffers δ)
  | 0, point, b => .ok (point, b)
  | n + 1, point, b => do
      let (next, after) ← pushStep dataSlot data point b
      pushSteps dataSlot data n next after

section Steps

variable (dataSlot : Int32 → Int32) (data : δ) {b : PacketBuffers δ}

@[simp] theorem pushSteps_returned (n : Nat) (b : PacketBuffers δ) :
    pushSteps dataSlot data n .returned b = .ok (.returned, b) := by
  induction n with
  | zero => rfl
  | succ n ih => simpa [pushSteps, pushStep, bind, Except.bind, pure, Except.pure] using ih

variable {dataSlot data} in
theorem pushSteps_succ {n : Nat} {point next : PushPoint} {after : PacketBuffers δ}
    (step : pushStep dataSlot data point b = .ok (next, after)) :
    pushSteps dataSlot data (n + 1) point b = pushSteps dataSlot data n next after := by
  simp [pushSteps, step, bind, Except.bind]

/-- The steps are the push, cut into pieces. -/
theorem pushSteps_push (b : PacketBuffers δ) :
    pushSteps dataSlot data 4 .entered b =
      (fun after => (.returned, after)) <$> b.push dataSlot data := by
  simp only [push]
  by_cases room : b.writeBuffer.dataNum.toUInt32 < b.bufferSize
  · rw [if_pos room]
    cases fill : b.fillSlot b.writeBuffer.dataNum b.writeBuffer.dataNum data with
    | error fault =>
        simp [pushSteps, pushStep, room, fill, bind, Except.bind, Functor.map, Except.map]
    | ok filled =>
        by_cases full : filled.countPacket.writeBuffer.dataNum.toUInt32 =
            filled.countPacket.bufferSize
        · simp [pushSteps, pushStep, room, fill, full, bind, Except.bind, pure, Except.pure,
            Functor.map, Except.map]
        · simp [pushSteps, pushStep, room, fill, full, bind, Except.bind, pure, Except.pure,
            Functor.map, Except.map]
  · rw [if_neg room]
    cases fill : b.switchBufferPointer.fillSlot 0 (dataSlot b.writeBuffer.dataNum) data with
    | error fault =>
        simp [pushSteps, pushStep, room, fill, bind, Except.bind, pure, Except.pure, Functor.map,
          Except.map]
    | ok filled =>
        simp [pushSteps, pushStep, room, fill, bind, Except.bind, pure, Except.pure, Functor.map,
          Except.map]

end Steps

/-! ## What stands in the buffers at each point -/

/-- A reader sees the end of the history `h`. -/
def Calm (h : List δ) (b : PacketBuffers δ) : Prop :=
  ∃ lo previous current, Live b previous current ∧ Window h lo previous current ∧
    previous.length + current.length < 2 ^ 31

/-- A reader sees a dropped generation behind the newest one. -/
def Stale (N : Nat) (h : List δ) (b : PacketBuffers δ) : Prop :=
  ∃ lo older newer, Live b newer older ∧ Window h lo older newer ∧
    older.length = N ∧ newer.length = N

/-- The point between the switch and the reset of the write count, `k` packets having
been accepted before, when the buffer that was switched out held packets. -/
def BetweenSwitchAndReset (N k n : Nat) : Prop :=
  n = 3 ∧ (k + 1) % N = 0 ∧ 2 * N ≤ k + 1

section View

variable {h : List δ} {lo : Nat} {b : PacketBuffers δ} {previous current : List (Packet δ)}

theorem Window.snoc (window : Window h lo previous current) (data : δ) :
    Window (h ++ [data]) lo previous (current ++ [⟨UInt32.ofNat h.length, data⟩]) where
  joined := by
    rw [stamped_snoc, ← List.append_assoc, window.joined]
    exact (List.drop_append_of_le_length (by simpa using window.bounded)).symm
  bounded := by have := window.bounded; simp; omega
  start := window.start

/-- The previous generation may be forgotten. -/
theorem Window.retire (window : Window h lo previous current) (nonempty : current ≠ []) :
    Window h (lo + previous.length) current [] where
  joined := by
    rw [List.append_nil, ← List.drop_drop, ← window.joined, List.drop_left]
  bounded := by have := window.length; omega
  start none := absurd none nonempty

theorem Window.all_previous (window : Window h lo [] current) (nonempty : current ≠ []) :
    Window h lo current [] := by
  simpa using window.retire nonempty

/-- The point in the terms of the two generations. -/
theorem betweenSwitchAndReset_iff (pos : 0 < N) (h : List δ) (n : Nat) :
    BetweenSwitchAndReset N h.length n ↔
      n = 3 ∧ (Generations.ofHistory pos (stamped h)).current.length + 1 = N ∧
        (Generations.ofHistory pos (stamped h)).previous ≠ [] := by
  have current_length : (Generations.ofHistory pos (stamped h)).current.length = h.length % N := by
    rw [(Generations.ofHistory_spec pos (stamped h)).1, List.length_drop, length_stamped]
    have := Nat.mod_le h.length N
    omega
  rw [BetweenSwitchAndReset, current_length, ofHistory_previous_ne_nil pos h]
  apply and_congr_right
  intro _
  constructor
  · rintro ⟨divides, twice⟩
    exact ⟨Generations.mod_of_succ_mod pos divides, by omega⟩
  · rintro ⟨last, used⟩
    have := Generations.le_of_mod_lt (N := N) (k := h.length) (by omega)
    exact ⟨Generations.succ_mod_of_eq last, by omega⟩

/-- The rest of a push, once the packet is counted. -/
theorem pushSteps_counted (live : Live b previous current) (window : Window h lo previous current)
    (nonempty : current ≠ []) (whole : previous = [] ∨ previous.length = N)
    (fullTest : b.writeBuffer.dataNum.toUInt32 = b.bufferSize ↔ current.length = N)
    (few : previous.length + current.length < 2 ^ 31) (dataSlot : Int32 → Int32) (data : δ)
    (k : Nat) :
    ∃ point after, pushSteps dataSlot data (k + 1) .counted b = .ok (point, after) ∧
      ((k = 0 ∧ current.length = N ∧ previous ≠ []) ∧ Stale N h after ∨
        ¬ (k = 0 ∧ current.length = N ∧ previous ≠ []) ∧ Calm h after) := by
  by_cases last : current.length = N
  · have switched := switch_live live
    have step : pushStep dataSlot data .counted b = .ok (.switched, b.switchBufferPointer) := by
      rw [pushStep, if_pos (fullTest.mpr last)]
      rfl
    rw [pushSteps_succ step]
    cases k with
    | zero =>
        refine ⟨.switched, _, rfl, ?_⟩
        by_cases first : previous = []
        · subst first
          refine .inr ⟨by simp, ?_⟩
          exact ⟨_, _, [], switched, window.all_previous nonempty, by simpa using few⟩
        · exact .inl ⟨⟨rfl, last, first⟩, _, previous, _, switched, window,
            whole.resolve_left first, last⟩
    | succ k =>
        refine ⟨.returned, b.switchBufferPointer.setWriteNum 0,
          (pushSteps_succ rfl).trans (pushSteps_returned ..), .inr ⟨by omega, ?_⟩⟩
        exact ⟨_, _, [], reset_live switched, window.retire nonempty, by simp; omega⟩
  · have step : pushStep dataSlot data .counted b = .ok (.returned, b) := by
      rw [pushStep, if_neg (fun full => last (fullTest.mp full))]
      rfl
    rw [pushSteps_succ step]
    exact ⟨.returned, _, pushSteps_returned .., .inr ⟨by tauto, _, previous, _, live, window, few⟩⟩

/-- **Every point of a push.**  A reader sees the history before the push or after
it, except at one point of some pushes. -/
theorem pushSteps_view {pos : 0 < N} (represents : Represents pos b h) (small : N < 2 ^ 31)
    (fits : Generations.windowSize N h.length + 1 < 2 ^ 31) (dataSlot : Int32 → Int32) (data : δ)
    (n : Nat) :
    ∃ point after, pushSteps dataSlot data n .entered b = .ok (point, after) ∧
      (BetweenSwitchAndReset N h.length n ∧ Stale N (h ++ [data]) after ∨
        ¬ BetweenSwitchAndReset N h.length n ∧ (Calm h after ∨ Calm (h ++ [data]) after)) := by
  rw [betweenSwitchAndReset_iff pos]
  obtain ⟨layout, received, live⟩ := represents
  have window := ofHistory_window pos h
  have capacity := (Generations.ofHistory pos (stamped h)).current_lt
  have whole := (Generations.ofHistory pos (stamped h)).previous_full
  have bound := Generations.retained_length pos (stamped h)
  have room := Represents.push_room ⟨layout, received, live⟩ small
  rw [Generations.retained, List.length_append, length_stamped] at bound
  generalize (Generations.ofHistory pos (stamped h)).previous = previous at *
  generalize (Generations.ofHistory pos (stamped h)).current = current at *
  -- The successive states, and what is live in each.
  obtain ⟨kept, next⟩ := fill_live layout live capacity data
  have counted := count_live kept next
  rw [received] at counted
  have fullTest := count_eq_size (layout.filled current.length data).countPacket small counted
    (by simpa using capacity)
  have filledStep : pushStep dataSlot data .entered b =
      .ok (.filled, b.filled current.length data) := by
    rw [live.writeNum] at room
    simp only [pushStep, live.writeNum, if_pos room, fillSlot_eq layout small capacity, bind,
      Except.bind, pure, Except.pure]
  have toCounted : ∀ n, pushSteps dataSlot data (n + 2) .entered b =
      pushSteps dataSlot data n .counted (b.filled current.length data).countPacket :=
    fun n => (pushSteps_succ filledStep).trans (pushSteps_succ rfl)
  obtain rfl | rfl | rfl | ⟨k, rfl⟩ : n = 0 ∨ n = 1 ∨ n = 2 ∨ ∃ k, n = k + 3 := by
    rcases Nat.lt_or_ge n 3 with below | above
    · interval_cases n <;> simp
    · exact .inr (.inr (.inr ⟨n - 3, by omega⟩))
  · refine ⟨.entered, b, rfl, .inr ⟨by omega, .inl ?_⟩⟩
    exact ⟨_, previous, current, live, window, by omega⟩
  · refine ⟨.filled, _, pushSteps_succ filledStep, .inr ⟨by omega, .inl ?_⟩⟩
    exact ⟨_, previous, current, kept, window, by omega⟩
  · refine ⟨.counted, _, toCounted 0, .inr ⟨by omega, .inr ?_⟩⟩
    exact ⟨_, previous, _, counted, window.snoc data, by simp; omega⟩
  · obtain ⟨point, after, steps, view⟩ := pushSteps_counted counted (window.snoc data) (by simp) whole
      fullTest (by simp; omega) dataSlot data k
    rw [List.length_append, List.length_singleton] at view
    refine ⟨point, after, (toCounted (k + 1)).trans steps, ?_⟩
    rw [show k + 3 = 3 ↔ k = 0 by omega]
    exact view.imp_right (And.imp_right Or.inr)

end View

/-! ## What the readers are promised -/

/-- Every element was written, and each packet's index follows the one before it. -/
def Consecutive (packets : List (Option (Packet δ))) : Prop :=
  ∃ written : List (Packet δ), packets = written.map some ∧
    ∀ (i : Nat) p q, written[i]? = some p → written[i + 1]? = some q →
      q.packetIdx.toNat = p.packetIdx.toNat + 1

/-- The queries that come in the middle of pushing `data` behind the history `h`. -/
structure ReaderSafe (h : List δ) (data : δ) (latest : UInt32 → Except Fault (DataResponse δ))
    (since : UInt32 → Except Fault (DataResponse δ)) : Prop where
  latestOrder : ∀ count, ∃ response, latest count = .ok response ∧ Consecutive response.packets
  sinceOrder : ∀ startIdx response, since startIdx = .ok response → Consecutive response.packets
  /-- the newest packet is the one before the push or the one after it -/
  newest : latest 1 = .ok (latestResponse (stamped h) 1) ∨
    latest 1 = .ok (latestResponse (stamped (h ++ [data])) 1)
  answered : 0 < h.length →
    ∃ response, since (UInt32.ofNat (h.length - 1)) = .ok response ∧ response.state ≠ .noData

section Readers

variable {h : List δ} {b : PacketBuffers δ} {copy : Packet δ → Packet δ}

theorem consecutive_nil : Consecutive ([] : List (Option (Packet δ))) :=
  ⟨[], rfl, by simp⟩

theorem consecutive_stamped (few : h.length ≤ 2 ^ 32) (i : Nat) :
    Consecutive (((stamped h).drop i).map some) := by
  refine ⟨(stamped h).drop i, rfl, ?_⟩
  intro j p q first second
  rw [List.getElem?_drop] at first second
  have inside := (List.getElem?_eq_some_iff.mp second).1
  rw [length_stamped] at inside
  rw [packetIdx_of_stamped first, packetIdx_of_stamped second,
    UInt32.toNat_ofNat_of_lt' (by rw [UInt32.size]; omega),
    UInt32.toNat_ofNat_of_lt' (by rw [UInt32.size]; omega)]
  omega

theorem latestResponse_packets (kept : List (Packet δ)) (count : UInt32) :
    ∃ i, (latestResponse kept count).packets = (kept.drop i).map some := by
  rw [latestResponse]
  split
  · exact ⟨kept.length, by simp [emptyResponse]⟩
  · split
    · exact ⟨_, rfl⟩
    · exact ⟨0, rfl⟩

theorem sinceResponse_packets (lo : Nat) (startIdx : UInt32) :
    ∃ i, (sinceResponse h lo startIdx).packets = ((stamped h).drop i).map some := by
  rw [sinceResponse]
  split
  · exact ⟨h.length, by simp [emptyResponse]⟩
  · split
    · exact ⟨_, rfl⟩
    · exact ⟨_, rfl⟩

theorem consecutive_since (few : h.length ≤ 2 ^ 32) (lo : Nat) (startIdx : UInt32) :
    Consecutive (sinceResponse h lo startIdx).packets := by
  obtain ⟨i, packets⟩ := sinceResponse_packets (h := h) lo startIdx
  rw [packets]
  exact consecutive_stamped few i

/-- The newest packet of a history is the newest of any part of it that reaches its end. -/
theorem latestResponse_drop {xs : List (Packet δ)} {lo : Nat} (inside : xs ≠ [] → lo < xs.length) :
    latestResponse (xs.drop lo) 1 = latestResponse xs 1 := by
  by_cases empty : xs = []
  · rw [empty, List.drop_nil]
  · have nonempty : xs.drop lo ≠ [] := by
      have := inside empty
      rw [ne_eq, List.drop_eq_nil_iff]; omega
    rw [latestResponse_one nonempty, latestResponse_one empty, List.getLast_drop]

theorem Window.lo_lt {lo : Nat} {previous current : List (Packet δ)}
    (window : Window h lo previous current) (nonempty : stamped h ≠ []) : lo < (stamped h).length := by
  have size := window.length
  have some := List.length_pos_iff.mpr nonempty
  rw [length_stamped] at some ⊢
  cases previous with
  | nil => have := window.start rfl; omega
  | cons => simp at size; omega

/-- In a calm state the latest-N query is served in order, newest packet included. -/
theorem Calm.latest (calm : Calm h b) (copies : ∀ p, copy p = p) (few : h.length ≤ 2 ^ 32) :
    (∀ count, ∃ response, b.getLatestCount copy count = .ok response ∧
        Consecutive response.packets) ∧
      b.getLatestCount copy 1 = .ok (latestResponse (stamped h) 1) := by
  obtain ⟨lo, previous, current, live, window, bound⟩ := calm
  have answer := getLatestCount_live live copies bound
  rw [window.joined] at answer
  refine ⟨fun count => ⟨_, answer count, ?_⟩, ?_⟩
  · obtain ⟨i, packets⟩ := latestResponse_packets ((stamped h).drop lo) count
    rw [packets, List.drop_drop]
    exact consecutive_stamped few _
  · rw [answer 1, latestResponse_drop window.lo_lt]

/-- In the stale state, asking for both generations answers out of order. -/
theorem Stale.latest (stale : Stale N h b) (pos : 0 < N) (copies : ∀ p, copy p = p)
    (few : h.length ≤ 2 ^ 32) (fits : N + N < 2 ^ 31) :
    ¬ ∃ response, b.getLatestCount copy (UInt32.ofNat (N + N)) = .ok response ∧
      Consecutive response.packets := by
  obtain ⟨lo, older, newer, live, window, olderSize, newerSize⟩ := stale
  have countNat : (UInt32.ofNat (N + N)).toNat = N + N :=
    UInt32.toNat_ofNat_of_lt' (by rw [UInt32.size]; omega)
  have nonzero : UInt32.ofNat (N + N) ≠ 0 := by
    intro zero
    rw [zero] at countNat
    simp at countNat
    omega
  have nonempty : newer ++ older ≠ [] := by
    intro none
    have := congrArg List.length none
    rw [List.length_append, List.length_nil] at this
    omega
  have size := window.length
  have answer := getLatestCount_live live copies (by omega) (UInt32.ofNat (N + N))
  rw [latestResponse, if_neg (by tauto), countNat, List.length_append, olderSize, newerSize,
    if_pos (Nat.le_refl _), Nat.sub_self, List.drop_zero] at answer
  rintro ⟨response, run, written, packets, consecutive⟩
  rw [answer] at run
  cases run
  -- The newest packet stands right before the oldest one of the dropped generation.
  obtain rfl : newer ++ older = written := List.map_injective_iff.mpr (Option.some_injective _) packets
  obtain ⟨p, last⟩ := exists_element newer (N - 1) (by omega)
  obtain ⟨q, head⟩ := exists_element older 0 (by omega)
  have order := consecutive (N - 1) p q
    (by rw [List.getElem?_append_left (by omega)]; exact last)
    (by rw [List.getElem?_append_right (by omega), newerSize, show N - 1 + 1 - N = 0 by omega]; exact head)
  rw [window.currentIdx last, window.previousIdx head,
    UInt32.toNat_ofNat_of_lt' (by rw [UInt32.size]; omega),
    UInt32.toNat_ofNat_of_lt' (by rw [UInt32.size]; omega)] at order
  omega

/-- With the write buffer empty, the read buffer branch has no packet for an index past
the newest one, whether it answers or faults. -/
theorem sinceRead_past {lo : Nat} {previous : List (Packet δ)} {startIdx : UInt32}
    {response : DataResponse δ} (live : Live b previous []) (window : Window h lo previous [])
    (copies : ∀ p, copy p = p) (bound : previous.length < 2 ^ 31)
    (nonempty : previous ≠ []) (after : h.length ≤ startIdx.toNat)
    (run : b.sinceRead copy startIdx = .ok response) : response.packets = [] := by
  have size := window.length
  have some := List.length_pos_iff.mpr nonempty
  have limit := startIdx.toNat_lt
  obtain ⟨first, element⟩ := exists_element previous 0 some
  have slot : b.readSlot 0 = .ok first := live.readSlot element
  simp only [List.length_nil] at size
  have distance : startIdx - first.packetIdx = UInt32.ofNat (startIdx.toNat - lo) := by
    rw [window.previousIdx element, Nat.add_zero, start_sub (by omega)]
  generalize skip : startIdx.toNat - lo = d at distance
  by_cases exact : d = previous.length
  · rw [sinceRead_live live copies (by simpa using bound) element (by omega) distance] at run
    cases run
    simp [exact]
  · exfalso
    simp only [sinceRead, slot, distance, live.readNum, live.writeNum, UInt32.toInt32_ofNat', bind,
      Except.bind] at run
    by_cases near : d < 2 ^ 31
    · -- The array would have a negative length.
      have length : (Int32.ofNat previous.length - Int32.ofNat d + Int32.ofNat
          ([] : List (Packet δ)).length).toInt = (previous.length : Int) - d := by
        rw [← Int32.ofInt_eq_ofNat, ← Int32.ofInt_eq_ofNat, ← Int32.ofInt_eq_ofNat,
          ← Int32.ofInt_sub, ← Int32.ofInt_add, List.length_nil]
        rw [Int32.toInt_ofInt_of_le (by push_cast; omega) (by push_cast; omega)]
        simp
      rw [length, newArray_negative (by omega)] at run
      cases run
    · -- The loop would start below the first slot.
      have below : (Int32.ofNat d).toInt = (d : Int) - 2 ^ 32 := by
        have wrapped : Int32.ofNat d = Int32.ofInt ((d : Int) - 2 ^ 32) := by
          rw [Int32.ofInt_sub, Int32.ofInt_eq_ofNat]
          exact (Int32.sub_zero _).symm
        rw [wrapped, Int32.toInt_ofInt_of_le (by omega) (by omega)]
      have outside : copy <$> b.readSlot (Int32.ofNat d).toInt = .error .outOfBounds := by
        rw [PacketBuffers.readSlot, fetch_outside (by left; rw [below]; omega)]
        rfl
      have stops : ∀ packets, b.copyTail copy (Int32.ofNat d) packets = .error .outOfBounds := by
        intro packets
        rw [copyTail, copyRange_fault 0 packets _ outside]
        · rfl
        · rw [below, live.readNum, Int32.toInt_ofNat_of_lt bound]; omega
      split at run
      · cases run
      · rw [stops] at run
        cases run

end Readers

end PacketBuffers

open PacketBuffers

/-! ## Both stores -/

/-- The steps of an accepted push of the device store. -/
theorem DeviceDataStorage.pushData_steps {s : DeviceDataStorage} {packet : Proto.TrackingDeviceData}
    {data : TrackingDeviceData} (own : carries s.device packet = true)
    (conversion : protoToTrackingDeviceData packet = .ok data) :
    s.pushData packet = (fun after => (true, { s with buffers := after.2 })) <$>
      pushSteps (fun _ => 0) data 4 .entered s.buffers := by
  rw [pushData_own s packet own, pushSteps_push, conversion]
  cases pushed : s.buffers.push (fun _ => 0) data with
  | error fault => simp [pushed, bind, Except.bind, Functor.map, Except.map]
  | ok after => simp [pushed, bind, Except.bind, pure, Except.pure, Functor.map, Except.map]

theorem BaseStationDataStorage.pushData_steps (s : BaseStationDataStorage)
    (packet : Proto.BaseStationData) :
    s.pushData packet = (fun after => (true, { s with buffers := after.2 })) <$>
      pushSteps id (protoToBaseStationData packet) 4 .entered s.buffers := by
  rw [pushSteps_push, pushData]
  cases pushed : s.buffers.push id (protoToBaseStationData packet) with
  | error fault => simp [bind, Except.bind, Functor.map, Except.map]
  | ok after => simp [bind, Except.bind, pure, Except.pure, Functor.map, Except.map]

section Safety

variable {N : Nat} {δ : Type}

theorem since_newest_answered {h h' : List δ} {data : δ} (same : h' = h ∨ h' = h ++ [data])
    (some : 0 < h.length) (few : h.length < 2 ^ 32) (lo : Nat) :
    (sinceResponse h' lo (UInt32.ofNat (h.length - 1))).state ≠ .noData := by
  have newest : (UInt32.ofNat (h.length - 1)).toNat = h.length - 1 :=
    UInt32.toNat_ofNat_of_lt' (by rw [UInt32.size]; omega)
  have reaches : ¬ h'.length ≤ h.length - 1 := by
    rcases same with rfl | rfl
    · omega
    · rw [List.length_append]; omega
  rw [sinceResponse, newest, if_neg reaches]
  split <;> simp

/-- A device reader is safe wherever it sees the end of a history. -/
theorem DeviceDataStorage.calm_safe (s : DeviceDataStorage) {h h' : List TrackingDeviceData}
    {data : TrackingDeviceData} (calm : Calm h' s.buffers) (same : h' = h ∨ h' = h ++ [data])
    (few : h.length < 2 ^ 32) :
    ReaderSafe h data s.getLatestDataCount s.getDataSinceIndex := by
  have limit : h'.length ≤ 2 ^ 32 := by
    rcases same with rfl | rfl
    · omega
    · simp; omega
  obtain ⟨order, newest⟩ := calm.latest copyDevicePacket_eq limit
  obtain ⟨lo, previous, current, live, window, bound⟩ := calm
  have since := getDataSinceIndex_window live window bound limit
  refine ⟨order, ?_, ?_, ?_⟩
  · intro startIdx response run
    rw [since] at run
    cases run
    exact consecutive_since limit lo startIdx
  · rcases same with rfl | rfl
    · exact .inl newest
    · exact .inr newest
  · intro some
    exact ⟨_, since _, since_newest_answered same some few lo⟩

/-- A base station reader is, too: the branch its query lacks returns no packet. -/
theorem BaseStationDataStorage.calm_safe (s : BaseStationDataStorage) {h h' : List BaseStationData}
    {data : BaseStationData} (calm : Calm h' s.buffers) (same : h' = h ∨ h' = h ++ [data])
    (few : h.length < 2 ^ 32) :
    ReaderSafe h data s.getLatestDataCount s.getDataSinceIndex := by
  have limit : h'.length ≤ 2 ^ 32 := by
    rcases same with rfl | rfl
    · omega
    · simp; omega
  have grown : h.length ≤ h'.length := by
    rcases same with rfl | rfl
    · omega
    · simp
  obtain ⟨order, newest⟩ := calm.latest (fun _ => rfl) limit
  obtain ⟨lo, previous, current, live, window, bound⟩ := calm
  refine ⟨order, ?_, ?_, ?_⟩
  · intro startIdx response run
    by_cases guarded : previous ≠ [] ∧ current = [] ∧ h'.length ≤ startIdx.toNat
    · obtain ⟨nonempty, rfl, after⟩ := guarded
      rw [List.length_nil, Nat.add_zero] at bound
      rw [getDataSinceIndex_fresh live window bound limit nonempty after] at run
      rw [sinceRead_past live window (fun _ => rfl) bound nonempty after run]
      exact consecutive_nil
    · rw [getDataSinceIndex_window live window bound limit guarded] at run
      cases run
      exact consecutive_since limit lo startIdx
  · rcases same with rfl | rfl
    · exact .inl newest
    · exact .inr newest
  · intro some
    refine ⟨_, getDataSinceIndex_window live window bound limit ?_,
      since_newest_answered same some few lo⟩
    rintro ⟨-, -, after⟩
    rw [UInt32.toNat_ofNat_of_lt' (by rw [UInt32.size]; omega)] at after
    omega

/-- The readers of a store at every point of a push, given that they are safe wherever
they see the end of a history. -/
theorem readers_at_point {pos : 0 < N} {b : PacketBuffers δ} {h : List δ}
    {copy : Packet δ → Packet δ} {since : PacketBuffers δ → UInt32 → Except Fault (DataResponse δ)}
    (represents : Represents pos b h) (small : N < 2 ^ 31) (few : h.length < 2 ^ 32)
    (fits : Generations.windowSize N h.length + 1 < 2 ^ 31) (copies : ∀ p, copy p = p)
    (dataSlot : Int32 → Int32) (data : δ)
    (calm : ∀ after h', Calm h' after → (h' = h ∨ h' = h ++ [data]) →
      ReaderSafe h data (after.getLatestCount copy) (since after)) (n : Nat) :
    ∃ point after, pushSteps dataSlot data n .entered b = .ok (point, after) ∧
      (ReaderSafe h data (after.getLatestCount copy) (since after) ↔
        ¬ BetweenSwitchAndReset N h.length n) := by
  obtain ⟨point, after, run, view⟩ := pushSteps_view represents small fits dataSlot data n
  refine ⟨point, after, run, ?_⟩
  rcases view with ⟨between, stale⟩ | ⟨outside, before | grown⟩
  · refine ⟨fun safe => absurd (safe.latestOrder (UInt32.ofNat (N + N))) ?_, fun outside => absurd between outside⟩
    have last := Generations.mod_of_succ_mod pos between.2.1
    have twice := between.2.2
    rw [Generations.windowSize, if_neg (by omega)] at fits
    exact stale.latest pos copies (by simp; omega) (by omega)
  · exact ⟨fun _ => outside, fun _ => calm after h before (.inl rfl)⟩
  · exact ⟨fun _ => outside, fun _ => calm after _ grown (.inr rfl)⟩

/-- **When readers are safe in the middle of a push.**  At every point of a push into
either store, after any history, except between the switch and the reset of the write
count from the second fill of a buffer on. -/
theorem reader_safe_iff (N : Nat) (pos : 1 ≤ N) (small : N < 2 ^ 31) :
    (∀ (device : DeviceDescriptor) (packets : List Proto.TrackingDeviceData) results s h packet data,
      (DeviceDataStorage.init device (UInt32.ofNat N)).pushAll packets = .ok (results, s) →
      DeviceDataStorage.acceptedData device packets = .ok h → h.length < 2 ^ 32 →
      Generations.windowSize N h.length + 1 < 2 ^ 31 →
      DeviceDataStorage.carries device packet = true →
      protoToTrackingDeviceData packet = .ok data →
      ∀ n, ∃ point b, pushSteps (fun _ => 0) data n .entered s.buffers = .ok (point, b) ∧
        (ReaderSafe h data ({ s with buffers := b } : DeviceDataStorage).getLatestDataCount
            ({ s with buffers := b } : DeviceDataStorage).getDataSinceIndex ↔
          ¬ BetweenSwitchAndReset N h.length n)) ∧
    (∀ (packets : List Proto.BaseStationData) s packet,
      (BaseStationDataStorage.init (UInt32.ofNat N)).pushAll packets = .ok s →
      packets.length < 2 ^ 32 → Generations.windowSize N packets.length + 1 < 2 ^ 31 →
      ∀ n, ∃ point b,
        pushSteps id (protoToBaseStationData packet) n .entered s.buffers = .ok (point, b) ∧
        (ReaderSafe (packets.map protoToBaseStationData) (protoToBaseStationData packet)
            ({ s with buffers := b } : BaseStationDataStorage).getLatestDataCount
            ({ s with buffers := b } : BaseStationDataStorage).getDataSinceIndex ↔
          ¬ BetweenSwitchAndReset N packets.length n)) := by
  constructor
  · intro device packets results s h packet data run accepted few fits own conversion n
    have fresh : Represents (N := N) pos
        (DeviceDataStorage.init device (UInt32.ofNat N)).buffers [] :=
      init_represents pos small
    obtain ⟨-, -, converted, converts, kept⟩ :=
      DeviceDataStorage.pushAll_represents small packets fresh run
    rw [DeviceDataStorage.init, copyDeviceDescriptor_eq] at converts
    obtain rfl : h = converted := Except.ok.inj (accepted.symm.trans converts)
    exact readers_at_point (by simpa using kept) small few fits copyDevicePacket_eq _ data
      (fun after h' calm same =>
        DeviceDataStorage.calm_safe { s with buffers := after } calm same few) n
  · intro packets s packet run few fits n
    obtain ⟨s', run', kept⟩ := BaseStationDataStorage.pushAll_init pos small packets
    obtain rfl : s = s' := Except.ok.inj (run.symm.trans run')
    have count : (packets.map protoToBaseStationData).length = packets.length := by simp
    rw [← count] at few fits ⊢
    exact readers_at_point kept small few fits (fun _ => rfl) _ _
      (fun after h' calm same =>
        BaseStationDataStorage.calm_safe { s with buffers := after } calm same few) n

theorem reader_safe_iff_second_fill :
    ∃ s point b, (BaseStationDataStorage.init 2).pushAll [{}, {}, {}] = .ok s ∧
      pushSteps id (protoToBaseStationData {}) 2 .entered s.buffers = .ok (point, b) ∧
        ReaderSafe [protoToBaseStationData {}, protoToBaseStationData {}, protoToBaseStationData {}]
          (protoToBaseStationData {})
          ({ s with buffers := b } : BaseStationDataStorage).getLatestDataCount
          ({ s with buffers := b } : BaseStationDataStorage).getDataSinceIndex := by
  obtain ⟨s, run, -⟩ := BaseStationDataStorage.pushAll_init (show 0 < 2 by decide) (by decide)
    [{}, {}, {}]
  obtain ⟨point, b, steps, safe⟩ := (reader_safe_iff 2 (by decide) (by decide)).2
    [{}, {}, {}] s {} run (by decide) (by decide) 2
  exact ⟨s, point, b, run, steps, safe.mpr (by simp [BetweenSwitchAndReset])⟩

/-- The fourth packet in buffers of two.  Between the switch and the reset the newest
packet is answered to be the second one, and the third, which had been answered with
before the push, is answered not to be there. -/
theorem stale_answers :
    ∃ s point b, (BaseStationDataStorage.init 2).pushAll [{}, {}, {}] = .ok s ∧
      pushSteps id (protoToBaseStationData {}) 3 .entered s.buffers = .ok (point, b) ∧
      ({ s with buffers := b } : BaseStationDataStorage).getLatestDataCount 1 =
        .ok ⟨.success, [some ⟨1, protoToBaseStationData {}⟩], 1⟩ ∧
      ({ s with buffers := b } : BaseStationDataStorage).getDataSinceIndex 2 =
        .ok ⟨.noData, [], 0⟩ ∧
      ¬ ReaderSafe [protoToBaseStationData {}, protoToBaseStationData {}, protoToBaseStationData {}]
          (protoToBaseStationData {})
          ({ s with buffers := b } : BaseStationDataStorage).getLatestDataCount
          ({ s with buffers := b } : BaseStationDataStorage).getDataSinceIndex := by
  refine ⟨_, _, _, rfl, rfl, by decide, by decide, ?_⟩
  intro safe
  obtain ⟨response, answer, state⟩ := safe.answered (by decide)
  have empty : response = ⟨.noData, [], 0⟩ := Except.ok.inj (answer.symm.trans (by decide))
  exact state (by rw [empty])

end Safety

end OmmoSdk.Storage
