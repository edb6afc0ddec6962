/-
# Storage.NewestPacket — the newest packet of a base station store

`GetLatestData()` of `BaseStationDataStorage` looks at the count of the read buffer when
the write buffer is empty, and then takes the packet out of the array under the write
buffer.  That array was retired two switches before: it holds the packets before those of the
read buffer, or, after the first switch, what the constructor left there.

`Retired` follows the last slot of the array through a run.  With it
`getLatestData_newest_iff` says for which runs the packet is the one pushed last.
-/
import OmmoSdk.Storage.BaseStationData
import OmmoSdk.Storage.PacketOrigin

namespace OmmoSdk.Storage

open OmmoSdk.Theory
open OmmoSdk.Sdk

set_option autoImplicit false

namespace PacketBuffers

variable {δ : Type} {N : Nat} {pos : 0 < N} {b after : PacketBuffers δ} {h : List δ}
  {previous current : List (Packet δ)} {copy : Packet δ → Packet δ}

/-- What the answer about the newest packet should be. -/
def AnswersNewest (h : List δ) (answer : Except Fault (DataResponse δ)) : Prop :=
  (h = [] → answer = .ok ⟨.noData, [], 0⟩) ∧
    ∀ newest, (stamped h).getLast? = some newest → answer = .ok ⟨.success, [some newest], 1⟩

/-- There is one such answer. -/
theorem AnswersNewest.unique {answer other : Except Fault (DataResponse δ)}
    (answers : AnswersNewest h answer) (others : AnswersNewest h other) : answer = other := by
  cases last : (stamped h).getLast? with
  | none =>
      have nothing : h = [] := by
        rw [List.getLast?_eq_none_iff] at last
        simpa using congrArg List.length last
      rw [answers.1 nothing, others.1 nothing]
  | some newest => rw [answers.2 newest last, others.2 newest last]

/-- The packet stamped last is the last of what the buffers hold. -/
theorem stamped_getLast? (pos : 0 < N) (h : List δ) :
    (stamped h).getLast? = ((Generations.ofHistory pos (stamped h)).previous ++
      (Generations.ofHistory pos (stamped h)).current).getLast? := by
  have window := ofHistory_window pos h
  rw [window.joined, List.getLast?_drop, length_stamped]
  split
  · rename_i past
    have size := window.length
    have start := window.start (List.length_eq_zero_iff.mp (by omega))
    obtain rfl : h = [] := List.length_eq_zero_iff.mp (by omega)
    rfl
  · rfl

/-- An answer with one packet has the newest. -/
theorem AnswersNewest.answer_eq {answer : Except Fault (DataResponse δ)} {p : Packet δ}
    (answers : AnswersNewest h answer) (single : answer = .ok ⟨.success, [some p], 1⟩) :
    (stamped h).getLast? = some p := by
  cases last : (stamped h).getLast? with
  | none =>
      rw [List.getLast?_eq_none_iff] at last
      have nothing : h = [] := by simpa using congrArg List.length last
      have := (answers.1 nothing).symm.trans single
      cases this
  | some newest =>
      have := (answers.2 newest last).symm.trans single
      cases this
      rfl

/-! ## One packet, from either path -/

/-- The query for one packet, from the write buffer if that has one. -/
theorem getLatestCount_one (live : Live b previous current) (copies : ∀ p, copy p = p)
    (previousSmall : previous.length < 2 ^ 31) (currentSmall : current.length < 2 ^ 31) :
    b.getLatestCount copy 1 = .ok (latestResponse (previous ++ current) 1) := by
  by_cases fresh : current = []
  · subst fresh
    exact getLatestCount_live live copies (by simpa using previousSmall) 1
  · have positive := List.length_pos_iff.mpr fresh
    have enough : (1 : UInt32) ≤ (Int32.ofNat current.length).toUInt32 := by
      rw [Int32.toUInt32_ofNat', show (1 : UInt32) = UInt32.ofNat 1 from rfl]
      exact (UInt32.ofNat_le_iff_le (by decide) (by rw [UInt32.size]; omega)).mpr positive
    have start : (Int32.ofNat current.length).toUInt32 - 1 = UInt32.ofNat (current.length - 1) := by
      rw [Int32.toUInt32_ofNat', UInt32.ofNat_sub positive]
      rfl
    have filled := copyNewest_live live copies currentSmall (show 1 ≤ current.length from positive)
    have newest : (current.drop (current.length - 1)).map some = [some (current.getLast fresh)] := by
      rw [List.drop_length_sub_one fresh]
      rfl
    rw [newest] at filled
    rw [getLatestCount, live.writeNum, if_pos (by decide), if_pos enough,
      latestResponse_one (by simp [fresh]), List.getLast_append_of_ne_nil _ fresh, start]
    simp only [newArray_natCast, show (1 : UInt32).toNat = 1 from rfl, filled, bind, Except.bind, pure,
      Except.pure]

/-- It answers with the newest packet. -/
theorem Represents.getLatestCount_newest (represents : Represents pos b h) (small : N < 2 ^ 31)
    (copies : ∀ p, copy p = p) : AnswersNewest h (b.getLatestCount copy 1) := by
  have previousSmall : (Generations.ofHistory pos (stamped h)).previous.length < 2 ^ 31 := by
    rcases (Generations.ofHistory pos (stamped h)).previous_full with empty | full
    · rw [empty, List.length_nil]
      decide
    · rwa [full]
  have currentSmall := lt_trans (Generations.ofHistory pos (stamped h)).current_lt small
  rw [getLatestCount_one represents.live copies previousSmall currentSmall]
  refine ⟨?_, ?_⟩
  · rintro rfl
    rfl
  · intro newest last
    rw [stamped_getLast? pos h] at last
    obtain ⟨kept, same⟩ := List.getLast?_eq_some_iff.mp last
    rw [same, latestResponse_one (by simp), List.getLast_append_singleton]

/-! ## The array that was retired -/

section Retired

variable [Inhabited δ]

/-- The last packet of the generation before the previous one. -/
def retiredPacket (N : Nat) (h : List δ) : Option (Packet δ) :=
  if h.length ≤ N then some ⟨0, default⟩ else (stamped h)[h.length - N - 1]?

/-- The buffers hold `h`, and just after a switch the array under the write buffer still ends
with the packet it was retired with. -/
structure Retired (pos : 0 < N) (b : PacketBuffers δ) (h : List δ) : Prop where
  represents : Represents pos b h
  untouched : h.length < N → b.slots b.readBuffer.packetBufferPtr = List.replicate N ⟨0, default⟩
  retired : 0 < h.length → h.length % N = 0 →
    (b.slots b.writeBuffer.packetBufferPtr)[N - 1]? = retiredPacket N h

theorem init_retired (small : N < 2 ^ 31) :
    Retired pos (init (δ := δ) (UInt32.ofNat N)) [] where
  represents := init_represents pos small
  untouched _ := by
    have size : (UInt32.ofNat N).toNat = N := UInt32.toNat_ofNat_of_lt' (lt_trans small (by decide))
    simp [init, slots, size]
  retired some := absurd some (Nat.lt_irrefl 0)

/-- The retired packet is an older one, but for a first packet in buffers of one. -/
theorem newest_of_retired (pos : 0 < N) (small : N < 2 ^ 31) (some : 0 < h.length)
    (switched : h.length % N = 0) (same : retiredPacket N h = (stamped h).getLast?) :
    N = 1 ∧ h = [default] := by
  have whole := Nat.le_of_dvd some (Nat.dvd_of_mod_eq_zero switched)
  obtain ⟨newest, last⟩ : ∃ newest, (stamped h).getLast? = Option.some newest :=
    ⟨_, List.getLast?_eq_some_getLast (by rw [← List.length_pos_iff, length_stamped]; exact some)⟩
  have element : (stamped h)[h.length - 1]? = Option.some newest := by
    rw [← last, List.getLast?_eq_getElem?, length_stamped]
  have index := packetIdx_of_stamped element
  rw [last, retiredPacket] at same
  split at same
  · -- the first switch: the array under the write buffer is as it was constructed
    rename_i first
    cases same
    have single : h.length = 1 := by
      have zero : (0 : UInt32).toNat = (UInt32.ofNat (h.length - 1)).toNat := congrArg UInt32.toNat index
      rw [UInt32.toNat_ofNat_of_lt' (by rw [UInt32.size]; omega), UInt32.toNat_zero] at zero
      omega
    obtain ⟨data, rfl⟩ := List.length_eq_one_iff.mp single
    cases last
    exact ⟨by simpa using Nat.le_antisymm whole pos, rfl⟩
  · -- the packet of the same slot two switches before has another index
    rename_i later
    have older := packetIdx_of_stamped same
    rw [index, ← UInt32.toNat_inj] at older
    simp only [UInt32.toNat_ofNat'] at older
    omega

/-- The read array that a switch retires. -/
theorem Retired.read_last (retired : Retired pos b h) (full : h.length % N + 1 = N) (data : δ) :
    (b.slots b.readBuffer.packetBufferPtr)[N - 1]? = retiredPacket N (h ++ [data]) := by
  rw [retiredPacket, List.length_append, List.length_singleton]
  by_cases first : h.length < N
  · rw [retired.untouched first, if_pos (by omega), List.getElem?_replicate_of_lt (by omega)]
  · have length := retired.represents.layout.length_slots b.readBuffer.packetBufferPtr
    have held : (Generations.ofHistory pos (stamped h)).previous.length = N :=
      (Generations.ofHistory pos (stamped h)).previous_full.resolve_left
        ((ofHistory_previous_ne_nil pos h).mpr (by omega))
    have counted := retired.represents.live.readSlots
    rw [List.take_of_length_le (by rw [length, held])] at counted
    have spec := (Generations.ofHistory_spec pos (stamped h)).2
    rw [length_stamped, if_neg first] at spec
    have room := Generations.le_of_mod_lt (N := N) (k := h.length) (by omega)
    rw [counted, spec, if_neg (by omega), stamped_snoc, List.getElem?_take_of_lt (by omega),
      List.getElem?_drop, List.getElem?_append_left (by rw [length_stamped]; omega)]
    congr 1
    omega

theorem Retired.push (retired : Retired pos b h) (small : N < 2 ^ 31) {dataSlot : Int32 → Int32}
    {data : δ} (pushed : b.push dataSlot data = .ok after) : Retired pos after (h ++ [data]) := by
  obtain ⟨after', pushed', represents⟩ := push_represents retired.represents small dataSlot data
  rw [pushed] at pushed'
  cases pushed'
  have distinct := retired.represents.layout.distinct
  rcases retired.represents.push_cases small pushed with ⟨full, rfl⟩ | ⟨early, rfl⟩
  · refine ⟨represents, ?_, ?_⟩
    · intro few
      rw [List.length_append, List.length_singleton] at few
      rw [Nat.mod_eq_of_lt (by omega)] at full
      omega
    · intro _ _
      rw [← retired.read_last full data]
      exact congrArg (fun slots => slots[N - 1]?) (filled_readSlots distinct _ data)
  · refine ⟨represents, ?_, ?_⟩
    · intro few
      rw [List.length_append, List.length_singleton] at few
      rw [← retired.untouched (by omega)]
      exact filled_readSlots distinct _ data
    · intro _ switched
      rw [List.length_append, List.length_singleton] at switched
      exact absurd (Generations.mod_of_succ_mod pos switched) early

end Retired

end PacketBuffers

namespace BaseStationDataStorage

open PacketBuffers

variable {N : Nat} {pos : 0 < N} {s : BaseStationDataStorage} {h : List BaseStationData}

/-- A run of pushes into a new store. -/
theorem pushAll_retired (small : N < 2 ^ 31) (packets : List Proto.BaseStationData) :
    ∀ {s : BaseStationDataStorage} {h : List BaseStationData}, Retired pos s.buffers h →
      ∃ last, s.pushAll packets = .ok last ∧
        Retired pos last.buffers (h ++ packets.map protoToBaseStationData) := by
  induction packets with
  | nil =>
      intro s h retired
      exact ⟨s, rfl, by simpa using retired⟩
  | cons packet rest ih =>
      intro s h retired
      obtain ⟨after, pushed, -⟩ :=
        push_represents retired.represents small id (protoToBaseStationData packet)
      obtain ⟨last, run, held⟩ := ih (s := { s with buffers := after }) (retired.push small pushed)
      refine ⟨last, ?_, by simpa using held⟩
      simp [pushAll, pushData, pushed, run, bind, Except.bind, pure, Except.pure]

/-- The switch has just emptied the write buffer: the answer is the retired packet. -/
theorem getLatestData_switched (small : N < 2 ^ 31) (retired : Retired pos s.buffers h)
    (some : 0 < h.length) (switched : h.length % N = 0) :
    ∃ p, retiredPacket N h = Option.some p ∧
      s.getLatestData = .ok ⟨.success, [Option.some p], 1⟩ := by
  have live := retired.represents.live
  have whole := Nat.le_of_dvd some (Nat.dvd_of_mod_eq_zero switched)
  have used := (ofHistory_previous_ne_nil pos h).mpr whole
  have full := (Generations.ofHistory pos (stamped h)).previous_full.resolve_left used
  have length := retired.represents.layout.length_slots s.buffers.writeBuffer.packetBufferPtr
  have inside : N - 1 < (s.buffers.slots s.buffers.writeBuffer.packetBufferPtr).length := by omega
  rw [(ofHistory_current_eq_nil pos h).mpr switched] at live
  refine ⟨(s.buffers.slots s.buffers.writeBuffer.packetBufferPtr)[N - 1], ?_, ?_⟩
  · rw [← retired.retired some switched, List.getElem?_eq_getElem inside]
  · refine getLatestOne_fallback live (fun _ => rfl) (by omega) used ?_
    rw [full]
    exact fetch_natCast _ _ inside

/-- Everywhere else it is the newest one. -/
theorem getLatestData_newest (small : N < 2 ^ 31) (represents : Represents pos s.buffers h)
    (steady : h.length = 0 ∨ h.length % N ≠ 0) : AnswersNewest h s.getLatestData := by
  have live := represents.live
  have room := (Generations.ofHistory pos (stamped h)).current_lt
  by_cases switched : h.length % N = 0
  · obtain rfl : h = [] := List.length_eq_zero_iff.mp (steady.resolve_right (not_not.mpr switched))
    exact ⟨fun _ => getLatestOne_empty live _, fun newest last => by cases last⟩
  · have fresh := mt (ofHistory_current_eq_nil pos h).mp switched
    have answer : s.getLatestData = .ok ⟨.success, [some (List.getLast _ fresh)], 1⟩ :=
      getLatestOne_current live (fun _ => rfl) (by omega) fresh PacketBuffers.writeSlot
    refine ⟨?_, ?_⟩
    · rintro rfl
      exact absurd (Nat.zero_mod N) switched
    · intro newest last
      rw [stamped_getLast? pos h, List.getLast?_append_of_ne_nil _ fresh,
        List.getLast?_eq_some_getLast fresh] at last
      cases last
      exact answer

/-- **The newest packet.**  For every buffer size and every run of pushes, the query for one
packet answers with the packet pushed last.  The query without a count does so too, and so
agrees with it, except just after a switch; there the one other case is a first packet of
defaults in buffers of one. -/
theorem getLatestData_newest_iff (N : Nat) (pos : 1 ≤ N) (small : N < 2 ^ 31)
    (packets : List Proto.BaseStationData) :
    ∃ s, (init (UInt32.ofNat N)).pushAll packets = .ok s ∧
      AnswersNewest (packets.map protoToBaseStationData) (s.getLatestDataCount 1) ∧
      (s.getLatestData = s.getLatestDataCount 1 ∧
          AnswersNewest (packets.map protoToBaseStationData) s.getLatestData ↔
        packets.length = 0 ∨ packets.length % N ≠ 0 ∨
          N = 1 ∧ packets.map protoToBaseStationData = [default]) := by
  obtain ⟨s, run, retired⟩ := pushAll_retired small packets
    (show Retired pos (init (UInt32.ofNat N)).buffers [] from init_retired small)
  rw [List.nil_append] at retired
  have represents := retired.represents
  have counted : AnswersNewest (packets.map protoToBaseStationData) (s.getLatestDataCount 1) :=
    represents.getLatestCount_newest small fun _ => rfl
  have count : (packets.map protoToBaseStationData).length = packets.length := List.length_map _
  refine ⟨s, run, counted, ?_, ?_⟩
  · rintro ⟨-, newest⟩
    by_cases steady : packets.length = 0 ∨ packets.length % N ≠ 0
    · tauto
    rw [not_or, not_not, ← count] at steady
    obtain ⟨p, left, answer⟩ := getLatestData_switched small retired (by omega) steady.2
    refine .inr (.inr (newest_of_retired pos small (by omega) steady.2 ?_))
    rw [left]
    exact (newest.answer_eq answer).symm
  · intro held
    have newest : AnswersNewest (packets.map protoToBaseStationData) s.getLatestData := by
      rcases or_assoc.mpr held with steady | ⟨rfl, single⟩
      · exact getLatestData_newest small represents (by rwa [count])
      · obtain ⟨p, left, answer⟩ := getLatestData_switched small retired (by rw [single]; decide)
          (Nat.mod_one _)
        rw [answer]
        rw [single] at left ⊢
        cases left
        refine ⟨fun nothing => ?_, fun newest last => ?_⟩
        · cases nothing
        · cases last
          rfl
    exact ⟨newest.unique counted, newest⟩

theorem getLatestData_newest_iff_switched :
    ∃ s, (init 2).pushAll [{}, {}] = .ok s ∧
      AnswersNewest [protoToBaseStationData {}, protoToBaseStationData {}] (s.getLatestDataCount 1) ∧
      (s.getLatestData = s.getLatestDataCount 1 ∧
          AnswersNewest [protoToBaseStationData {}, protoToBaseStationData {}] s.getLatestData ↔
        2 = 0 ∨ 2 % 2 ≠ 0 ∨
          2 = 1 ∧ [protoToBaseStationData {}, protoToBaseStationData {}] = [default]) :=
  getLatestData_newest_iff 2 (by decide) (by decide) [{}, {}]

/-- Two packets in buffers of two: the query without a count answers with the packet that
the constructor left in the other array, under the index 0, and the query for one packet with
the second. -/
theorem getLatestData_after_switch :
    ¬ (∀ N, 1 ≤ N → N < 2 ^ 31 → ∀ packets : List Proto.BaseStationData,
      ∀ s, (init (UInt32.ofNat N)).pushAll packets = .ok s →
        s.getLatestData = s.getLatestDataCount 1 ∧
          AnswersNewest (packets.map protoToBaseStationData) s.getLatestData) ∧
    ∃ s, (init 2).pushAll [{}, {}] = .ok s ∧
      s.getLatestData = .ok ⟨.success, [some ⟨0, default⟩], 1⟩ ∧
      s.getLatestDataCount 1 = .ok ⟨.success, [some ⟨1, protoToBaseStationData {}⟩], 1⟩ := by
  refine ⟨?_, _, rfl, by decide, by decide⟩
  intro agrees
  exact absurd (agrees 2 (by decide) (by decide) [{}, {}] _ rfl).1 (by decide)

end BaseStationDataStorage

end OmmoSdk.Storage
