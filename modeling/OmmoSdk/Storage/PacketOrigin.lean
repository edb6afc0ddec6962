/-
# Storage.PacketOrigin — where the packets of an answer come from

An answer is copied out of the slots of the two arrays, and a slot that was written holds
accepted data for ever.  The counted slots were written, so the queries for the newest
packets answer with accepted data.  The query by index works with the stored packet indices,
which wrap around after `2 ^ 32` packets, and may then answer with other slots than the
counted ones; by then all slots were written (`Provides.stocked`).  So every packet in
an answer of a device store is one of the device, after any number of pushes
(`getLatestData_own`, `getLatestDataCount_own`, `getDataSinceIndex_own`).
-/
import OmmoSdk.Storage.DeviceData

namespace OmmoSdk.Storage

open OmmoSdk.Theory
open OmmoSdk.Sdk

set_option autoImplicit false

namespace PacketBuffers

variable {δ : Type} {N : Nat} {pos : 0 < N} {b : PacketBuffers δ} {h : List δ} {good : δ → Prop}
  {copy : Packet δ → Packet δ}

/-- All packets of the answer, if there is one, hold such data. -/
def AnswersFrom (good : δ → Prop) (response : Except Fault (DataResponse δ)) : Prop :=
  ∀ answer, response = .ok answer → ∀ p, some p ∈ answer.packets → good p.data

/-- All slots hold such data. -/
def Stocked (good : δ → Prop) (b : PacketBuffers δ) : Prop :=
  ∀ ptr, ∀ p ∈ b.slots ptr, good p.data

/-! ## Queries over stocked slots -/

theorem answersFrom_empty : AnswersFrom good (.ok (emptyResponse (δ := δ))) := by
  intro answer run p member
  cases run
  cases member

theorem answersFrom_bind {α : Type} {first : Except Fault α}
    {rest : α → Except Fault (DataResponse δ)}
    (answers : ∀ x, first = .ok x → AnswersFrom good (rest x)) :
    AnswersFrom good (first >>= rest) := by
  cases first with
  | error fault =>
      intro answer run
      cases run
  | ok x => exact answers x rfl

theorem answersFrom_ite {condition : Prop} [Decidable condition]
    {yes no : Except Fault (DataResponse δ)} (first : AnswersFrom good yes)
    (second : AnswersFrom good no) : AnswersFrom good (if condition then yes else no) := by
  split
  · exact first
  · exact second

section Slots

theorem Stocked.readSlot (stocked : Stocked good b) (copies : ∀ p, copy p = p) (i : Int)
    (p : Packet δ) (read : copy <$> b.readSlot i = .ok p) : good p.data := by
  cases slot : b.readSlot i with
  | error fault => simp [slot, Functor.map, Except.map] at read
  | ok q =>
      simp only [slot, copies, Functor.map, Except.map, Except.ok.injEq] at read
      exact stocked _ p (read ▸ mem_of_fetch slot)

theorem Stocked.writeSlot (stocked : Stocked good b) (copies : ∀ p, copy p = p) (i : Int)
    (p : Packet δ) (read : copy <$> b.writeSlot i = .ok p) : good p.data := by
  cases slot : b.writeSlot i with
  | error fault => simp [slot, Functor.map, Except.map] at read
  | ok q =>
      simp only [slot, copies, Functor.map, Except.map, Except.ok.injEq] at read
      exact stocked _ p (read ▸ mem_of_fetch slot)

theorem copyTail_stocked (stocked : Stocked good b) (copies : ∀ p, copy p = p) {idx : Int32} {n : Int}
    {packets filled : List (Option (Packet δ))} (made : newArray n = .ok packets)
    (run : b.copyTail copy idx packets = .ok filled) :
    ∀ p, some p ∈ filled → good p.data := by
  rw [copyTail] at run
  cases first : copyRange (fun idx => copy <$> b.readSlot idx) idx.toInt b.readBuffer.dataNum.toInt 0
      packets with
  | error fault => simp [first, bind, Except.bind] at run
  | ok read =>
      cases second : copyRange (fun idx => copy <$> b.writeSlot idx) 0 b.writeBuffer.dataNum.toInt
          read.2 read.1 with
      | error fault => simp [first, second, bind, Except.bind] at run
      | ok written =>
          simp only [first, second, bind, Except.bind, pure, Except.pure, Except.ok.injEq] at run
          subst run
          have head := copyLoop_origin (fun p => good p.data)
            (stocked.readSlot copies) _ _ _ _ _ first
            fun p member => absurd member (mem_newArray made)
          exact copyLoop_origin (fun p => good p.data) (stocked.writeSlot copies) _ _ _ _ _ second head

theorem copyBoth_stocked (stocked : Stocked good b) (copies : ∀ p, copy p = p) :
    AnswersFrom good (b.copyBoth copy) := by
  refine answersFrom_bind fun packets made => answersFrom_bind fun filled run => ?_
  intro answer given
  cases given
  exact copyTail_stocked stocked copies made run

theorem sinceWrite_stocked (stocked : Stocked good b) (copies : ∀ p, copy p = p) (startIdx : UInt32) :
    AnswersFrom good (b.sinceWrite copy startIdx) := by
  refine answersFrom_bind fun first _ => answersFrom_bind fun packets made =>
    answersFrom_bind fun filled run => ?_
  intro answer given
  cases given
  refine copyLoop_origin (fun p => good p.data) ?_ _ _ _ _ _ run
    fun p member => absurd member (mem_newArray made)
  exact fun i => stocked.writeSlot copies _

theorem sinceRead_stocked (stocked : Stocked good b) (copies : ∀ p, copy p = p) (startIdx : UInt32) :
    AnswersFrom good (b.sinceRead copy startIdx) := by
  refine answersFrom_bind fun first _ => answersFrom_bind fun packets made =>
    answersFrom_bind fun filled run => ?_
  intro answer given
  cases given
  exact copyTail_stocked stocked copies made run

theorem sinceReadBranches_stocked (stocked : Stocked good b) (copies : ∀ p, copy p = p)
    (startIdx : UInt32) : AnswersFrom good (b.sinceReadBranches copy startIdx) := by
  refine answersFrom_bind fun inside _ => answersFrom_ite (sinceRead_stocked stocked copies startIdx) ?_
  exact answersFrom_bind fun before _ => answersFrom_ite (copyBoth_stocked stocked copies) answersFrom_empty

end Slots

/-! ## Queries over the counted slots -/

theorem mem_latestResponse {kept : List (Packet δ)} {count : UInt32} {p : Packet δ}
    (member : some p ∈ (latestResponse kept count).packets) : p ∈ kept := by
  unfold latestResponse at member
  split at member
  · cases member
  · split at member
    · simp only [List.mem_map, Option.some.injEq, exists_eq_right] at member
      exact List.mem_of_mem_drop member
    · simpa using member

theorem mem_sinceResponse {lo : Nat} {startIdx : UInt32} {p : Packet δ}
    (member : some p ∈ (sinceResponse h lo startIdx).packets) : p ∈ stamped h := by
  unfold sinceResponse at member
  split at member
  · cases member
  · split at member <;>
    · simp only [List.mem_map, Option.some.injEq, exists_eq_right] at member
      exact List.mem_of_mem_drop member

theorem data_of_stamped {p : Packet δ} (member : p ∈ stamped h) : p.data ∈ h := by
  obtain ⟨i, inside, rfl⟩ := List.mem_mapIdx.mp member
  exact List.getElem_mem inside

/-- What the two generations hold comes from the history. -/
theorem data_of_retained {p : Packet δ}
    (member : p ∈ (Generations.ofHistory pos (stamped h)).previous ++
      (Generations.ofHistory pos (stamped h)).current) : p.data ∈ h := by
  rw [(ofHistory_window pos h).joined] at member
  exact data_of_stamped (List.mem_of_mem_drop member)

/-! ## When all slots were written -/

section Pushes

/-- The previous generation, once there is one, is the whole read array. -/
theorem Represents.read_slots (represents : Represents pos b h) (switched : N ≤ h.length)
    (all : ∀ data ∈ h, good data) : ∀ p ∈ b.slots b.readBuffer.packetBufferPtr, good p.data := by
  intro p member
  have length := represents.layout.length_slots b.readBuffer.packetBufferPtr
  have full : (Generations.ofHistory pos (stamped h)).previous.length = N :=
    (Generations.ofHistory pos (stamped h)).previous_full.resolve_left
      ((ofHistory_previous_ne_nil pos h).mpr switched)
  have counted := represents.live.readSlots
  rw [List.take_of_length_le (by rw [length, full])] at counted
  exact all _ (data_of_retained (List.mem_append_left _ (counted ▸ member)))

theorem length_current (pos : 0 < N) (h : List δ) :
    (Generations.ofHistory pos (stamped h)).current.length = h.length % N := by
  have := Nat.mod_le h.length N
  rw [(Generations.ofHistory_spec pos (stamped h)).1, List.length_drop, length_stamped]
  omega

/-- What a push does: it fills the next slot, and switches if that was the last one. -/
theorem Represents.push_cases (represents : Represents pos b h) (small : N < 2 ^ 31)
    {dataSlot : Int32 → Int32} {data : δ} {after : PacketBuffers δ}
    (pushed : b.push dataSlot data = .ok after) :
    (h.length % N + 1 = N ∧ after =
        ((b.filled (h.length % N) data).countPacket.switchBufferPointer.setWriteNum 0)) ∨
      (h.length % N + 1 ≠ N ∧ after = (b.filled (h.length % N) data).countPacket) := by
  have room := (Generations.ofHistory pos (stamped h)).current_lt
  have size := length_current pos h
  obtain ⟨kept, next⟩ := fill_live represents.layout represents.live room data
  have counted := count_live kept next
  have shape := (represents.layout.filled
    (Generations.ofHistory pos (stamped h)).current.length data).countPacket
  have full := count_eq_size shape small counted (by simpa using room)
  rw [push, if_pos (represents.push_room small)] at pushed
  simp only [represents.live.writeNum, fillSlot_eq represents.layout small room, bind, Except.bind,
    pure, Except.pure, full] at pushed
  rw [List.length_append, List.length_singleton, size] at pushed
  split at pushed
  · rename_i last
    cases pushed
    exact .inl ⟨last, rfl⟩
  · rename_i early
    cases pushed
    exact .inr ⟨early, rfl⟩

/-- A push fills the write array only. -/
theorem filled_readSlots (distinct : b.readBuffer.packetBufferPtr ≠ b.writeBuffer.packetBufferPtr)
    (i : Nat) (data : δ) :
    (b.filled i data).slots (b.filled i data).readBuffer.packetBufferPtr =
      b.slots b.readBuffer.packetBufferPtr := by
  rw [filled, setSlots_readBuffer]
  exact slots_setSlots_ne _ distinct

/-- What a push leaves in the array under the write buffer. -/
theorem Represents.push_writeSlots (represents : Represents pos b h) (small : N < 2 ^ 31)
    {dataSlot : Int32 → Int32} {data : δ} {after : PacketBuffers δ}
    (pushed : b.push dataSlot data = .ok after) :
    (h.length % N + 1 = N ∧
        after.slots after.writeBuffer.packetBufferPtr = b.slots b.readBuffer.packetBufferPtr) ∨
      (h.length % N + 1 ≠ N ∧
        ∀ p ∈ after.slots after.writeBuffer.packetBufferPtr,
          p ∈ b.slots b.writeBuffer.packetBufferPtr ∨ p.data = data) := by
  rcases represents.push_cases small pushed with ⟨last, rfl⟩ | ⟨early, rfl⟩
  · exact .inl ⟨last, filled_readSlots represents.layout.distinct _ data⟩
  · refine .inr ⟨early, fun p member => ?_⟩
    have inside : p ∈ (b.slots b.writeBuffer.packetBufferPtr).set (h.length % N)
        ⟨b.packetReceivedNum, data⟩ := by
      rw [← slots_setSlots (b := { b with packetReceivedNum := b.packetReceivedNum + 1 })
        ((b.slots b.writeBuffer.packetBufferPtr).set (h.length % N) ⟨b.packetReceivedNum, data⟩)
        b.writeBuffer.packetBufferPtr]
      simpa [filled, countPacket, slots] using member
    rcases List.mem_or_eq_of_mem_set inside with old | new
    · exact .inl old
    · exact .inr (by rw [new])

/-- The buffers hold a history of such data, and only such data once both arrays were filled. -/
structure Provides (good : δ → Prop) (pos : 0 < N) (b : PacketBuffers δ) (h : List δ) : Prop where
  represents : Represents pos b h
  all : ∀ data ∈ h, good data
  written : 2 * N ≤ h.length → ∀ p ∈ b.slots b.writeBuffer.packetBufferPtr, good p.data

theorem init_provides [Inhabited δ] (pos : 0 < N) (small : N < 2 ^ 31) :
    Provides good pos (init (δ := δ) (UInt32.ofNat N)) [] where
  represents := init_represents pos small
  all data member := by cases member
  written many := by
    simp only [List.length_nil] at many
    omega

theorem Provides.push (provides : Provides good pos b h) (small : N < 2 ^ 31)
    {dataSlot : Int32 → Int32} {data : δ} (fine : good data) {after : PacketBuffers δ}
    (pushed : b.push dataSlot data = .ok after) : Provides good pos after (h ++ [data]) := by
  obtain ⟨after', pushed', represents⟩ :=
    push_represents provides.represents small dataSlot data
  rw [pushed] at pushed'
  cases pushed'
  refine ⟨represents, ?_, ?_⟩
  · intro other member
    rcases List.mem_append.mp member with old | new
    · exact provides.all other old
    · rw [List.mem_singleton.mp new]
      exact fine
  · intro many p member
    rw [List.length_append, List.length_singleton] at many
    rcases provides.represents.push_writeSlots small pushed with ⟨full, same⟩ | ⟨early, inside⟩
    · exact provides.represents.read_slots (by omega) provides.all p (same ▸ member)
    · -- at twice the size the push would have been a switch
      have more : h.length + 1 ≠ 2 * N := by
        intro exactly
        refine early (Generations.mod_of_succ_mod pos ?_)
        rw [exactly, Nat.mul_mod_left]
      rcases inside p member with old | new
      · exact provides.written (by omega) p old
      · rw [new]
        exact fine

theorem Provides.stocked (provides : Provides good pos b h) (many : 2 * N ≤ h.length) :
    Stocked good b := by
  intro ptr p member
  have cases : ptr = b.readBuffer.packetBufferPtr ∨ ptr = b.writeBuffer.packetBufferPtr := by
    have distinct := provides.represents.layout.distinct
    cases ptr <;> cases read : b.readBuffer.packetBufferPtr <;>
      cases write : b.writeBuffer.packetBufferPtr <;> simp_all
  rcases cases with rfl | rfl
  · exact provides.represents.read_slots (by omega) provides.all p member
  · exact provides.written many p member

end Pushes

end PacketBuffers

/-! ## A device store -/

namespace DeviceDataStorage

open PacketBuffers

variable {N : Nat} {pos : 0 < N} {s next : DeviceDataStorage} {h : List TrackingDeviceData}

/-- The data are of the device. -/
def IsOf (deviceId : DeviceID) (data : TrackingDeviceData) : Prop :=
  data.siuUuid = deviceId.siuUuid ∧ data.portId = deviceId.portId

/-- The store has only packets of its device. -/
def OwnPackets (s : DeviceDataStorage) : Prop :=
  ∃ N, ∃ pos : 0 < N, N ≤ 2 ^ 30 ∧ ∃ h, Provides (IsOf s.device.id) pos s.buffers h

theorem init_ownPackets (device : DeviceDescriptor) {bufferSize : UInt32}
    (pos : 1 ≤ bufferSize.toNat) (small : bufferSize.toNat ≤ 2 ^ 30) :
    (init device bufferSize).OwnPackets := by
  refine ⟨bufferSize.toNat, pos, small, [], ?_⟩
  have fresh : Provides (IsOf (init device bufferSize).device.id) pos
      (PacketBuffers.init (UInt32.ofNat bufferSize.toNat)) [] := init_provides pos (by omega)
  rw [UInt32.ofNat_toNat] at fresh
  exact fresh

theorem pushData_ownPackets {packet : Proto.TrackingDeviceData} {accepted : Bool}
    (own : s.OwnPackets) (pushed : s.pushData packet = .ok (accepted, next)) : next.OwnPackets := by
  cases mine : carries s.device packet with
  | false =>
      rw [pushData_other s packet mine] at pushed
      cases pushed
      exact own
  | true =>
      obtain ⟨N, pos, small, h, provides⟩ := own
      rw [pushData_own s packet mine] at pushed
      cases converted : protoToTrackingDeviceData packet with
      | error fault => simp [converted, bind, Except.bind] at pushed
      | ok data =>
          cases stored : s.buffers.push (fun _ => 0) data with
          | error fault => simp [converted, stored, bind, Except.bind] at pushed
          | ok after =>
              simp only [converted, stored, bind, Except.bind, pure, Except.pure] at pushed
              cases pushed
              refine ⟨N, pos, small, _, provides.push (by omega) ?_ stored⟩
              have same := protoToTrackingDeviceData_id converted
              simp only [carries, Bool.and_eq_true, decide_eq_true_eq] at mine
              exact ⟨same.1.trans mine.1, same.2.trans mine.2⟩

theorem getLatestData_own (own : s.OwnPackets) : AnswersFrom (IsOf s.device.id) s.getLatestData := by
  obtain ⟨N, pos, small, h, provides⟩ := own
  intro answer given p member
  rw [getLatestData, getLatestOne_live provides.represents.live copyDevicePacket_eq
    (Represents.generations_small pos h small)] at given
  cases given
  exact provides.all _ (data_of_retained (mem_latestResponse member))

theorem getLatestDataCount_own (own : s.OwnPackets) (requestCount : UInt32) :
    AnswersFrom (IsOf s.device.id) (s.getLatestDataCount requestCount) := by
  obtain ⟨N, pos, small, h, provides⟩ := own
  intro answer given p member
  rw [getLatestDataCount, getLatestCount_live provides.represents.live copyDevicePacket_eq
    (Represents.generations_small pos h small)] at given
  cases given
  exact provides.all _ (data_of_retained (mem_latestResponse member))

/-- The query by index: before all slots were written the indices have not wrapped around. -/
theorem getDataSinceIndex_own (own : s.OwnPackets) (startIdx : UInt32) :
    AnswersFrom (IsOf s.device.id) (s.getDataSinceIndex startIdx) := by
  obtain ⟨N, pos, small, h, provides⟩ := own
  by_cases many : 2 * N ≤ h.length
  · have stocked := provides.stocked many
    refine answersFrom_bind fun past _ => answersFrom_ite answersFrom_empty ?_
    refine answersFrom_bind fun reached _ =>
      answersFrom_ite (sinceWrite_stocked stocked copyDevicePacket_eq startIdx) ?_
    refine answersFrom_bind fun newest _ => answersFrom_ite answersFrom_empty ?_
    exact sinceReadBranches_stocked stocked copyDevicePacket_eq startIdx
  · intro answer given p member
    rw [getDataSinceIndex_represents provides.represents small (by omega)] at given
    cases given
    exact provides.all _ (data_of_stamped (mem_sinceResponse member))

end DeviceDataStorage

end OmmoSdk.Storage
