/-
# Storage.SinceAccesses — what the query by index touches

Packet indices are 32-bit words and wrap around after `2 ^ 32` packets, and the query by index
compares and subtracts them as if they did not.  Its answers are then no longer those of
`getDataSinceIndex_agrees`.  What it touches stays in bounds: an index that the branch tests
let through lies between two stored indices, and these are then as far apart as their slots
(`skip_of_between`), wherever the wrap falls.

The query is traced: `DeviceDataStorage.tracedDataSinceIndex` is `getDataSinceIndex` with its
accesses, branch by branch.  `Disciplined` is what is asked of a trace, and
`getDataSinceIndex_inBounds` states it for every run.
-/
import OmmoSdk.Theory.Footprint
import OmmoSdk.Storage.DeviceData

namespace OmmoSdk.Storage

open OmmoSdk.Theory
open OmmoSdk.Sdk

set_option autoImplicit false

inductive BufferName where
  | readBuffer
  | writeBuffer
  deriving DecidableEq, Repr

namespace PacketBuffers

variable {δ : Type} {b : PacketBuffers δ} {previous current : List (Packet δ)}
  {copy : Packet δ → Packet δ} {startIdx : UInt32}

def info (b : PacketBuffers δ) : BufferName → BufferInfo
  | .readBuffer => b.readBuffer
  | .writeBuffer => b.writeBuffer

/-- `data_num` of the buffer. -/
def counted (b : PacketBuffers δ) (buffer : BufferName) : Int := (b.info buffer).dataNum.toInt

def tracedSlot (b : PacketBuffers δ) (buffer : BufferName) (i : Int) : Traced BufferName (Packet δ) :=
  Traced.read buffer (b.slots (b.info buffer).packetBufferPtr) i

/-! ## The branches, with their accesses -/

def tracedCopyTail (copy : Packet δ → Packet δ) (b : PacketBuffers δ) (idx : Int32)
    (packets : List (Option (Packet δ))) : Traced BufferName (List (Option (Packet δ))) := do
  let (packets, i) ← Traced.copyRange (fun idx => copy <$> b.tracedSlot .readBuffer idx)
    idx.toInt b.readBuffer.dataNum.toInt 0 packets
  let (packets, _) ← Traced.copyRange (fun idx => copy <$> b.tracedSlot .writeBuffer idx)
    0 b.writeBuffer.dataNum.toInt i packets
  return packets

def tracedCopyBoth (copy : Packet δ → Packet δ) (b : PacketBuffers δ) :
    Traced BufferName (DataResponse δ) := do
  let writePacketNum := b.writeBuffer.dataNum
  let readPacketNum := b.readBuffer.dataNum
  let packets ← Traced.allocate (readPacketNum + writePacketNum).toInt
  let packets ← b.tracedCopyTail copy 0 packets
  return ⟨.partialData, packets, (readPacketNum + writePacketNum).toUInt32⟩

def tracedSinceWrite (copy : Packet δ → Packet δ) (b : PacketBuffers δ) (startIdx : UInt32) :
    Traced BufferName (DataResponse δ) := do
  let first ← b.tracedSlot .writeBuffer 0
  let idx := (startIdx - first.packetIdx).toInt32
  let packetCount := (b.writeBuffer.dataNum - idx).toUInt32
  let packets ← Traced.allocate packetCount.toNat
  let (packets, _) ← Traced.copyRange
    (fun i => copy <$> b.tracedSlot .writeBuffer (idx + Int32.ofInt i).toInt)
    0 packetCount.toNat 0 packets
  return ⟨.success, packets, packetCount⟩

def tracedSinceRead (copy : Packet δ → Packet δ) (b : PacketBuffers δ) (startIdx : UInt32) :
    Traced BufferName (DataResponse δ) := do
  let writePacketNum := b.writeBuffer.dataNum
  let readPacketNum := b.readBuffer.dataNum
  let first ← b.tracedSlot .readBuffer 0
  let idx := (startIdx - first.packetIdx).toInt32
  let packets ← Traced.allocate (readPacketNum - idx + writePacketNum).toInt
  let packets ← b.tracedCopyTail copy idx packets
  -- the slot is read again for the count
  let first ← b.tracedSlot .readBuffer 0
  return ⟨.success, packets,
    (readPacketNum + writePacketNum).toUInt32 + first.packetIdx - startIdx⟩

def tracedSlotTest (guard : Bool) (slot : Traced BufferName (Packet δ)) (test : UInt32 → Bool) :
    Traced BufferName Bool :=
  if guard then do return test (← slot).packetIdx else return false

def tracedSinceReadBranches (copy : Packet δ → Packet δ) (b : PacketBuffers δ) (startIdx : UInt32) :
    Traced BufferName (DataResponse δ) := do
  let readPacketNum := b.readBuffer.dataNum
  if ← tracedSlotTest (readPacketNum > 0) (b.tracedSlot .readBuffer 0) (· ≤ startIdx) then
    b.tracedSinceRead copy startIdx
  else do
    if ← tracedSlotTest (readPacketNum > 0) (b.tracedSlot .readBuffer 0) (· > startIdx) then
      b.tracedCopyBoth copy
    else
      return emptyResponse

end PacketBuffers

open PacketBuffers in
/-- `GetDataSinceIndex` of the device store, with its accesses. -/
def DeviceDataStorage.tracedDataSinceIndex (s : DeviceDataStorage) (startIdx : UInt32) :
    Traced BufferName (DataResponse TrackingDeviceData) := do
  let writePacketNum := s.buffers.writeBuffer.dataNum
  let readPacketNum := s.buffers.readBuffer.dataNum
  if ← tracedSlotTest (writePacketNum > 0)
      (s.buffers.tracedSlot .writeBuffer (writePacketNum - 1).toInt) (· < startIdx) then
    return emptyResponse
  else do
    if ← tracedSlotTest (writePacketNum > 0) (s.buffers.tracedSlot .writeBuffer 0) (· ≤ startIdx) then
      s.buffers.tracedSinceWrite copyDevicePacket startIdx
    else do
      if ← tracedSlotTest (writePacketNum = 0 && readPacketNum > 0)
          (s.buffers.tracedSlot .readBuffer (readPacketNum - 1).toInt) (· < startIdx) then
        return emptyResponse
      else
        s.buffers.tracedSinceReadBranches copyDevicePacket startIdx

namespace PacketBuffers

variable {δ : Type} {b : PacketBuffers δ} {previous current : List (Packet δ)}
  {copy : Packet δ → Packet δ} {startIdx : UInt32}

/-! ## Without the trace -/

theorem outcome_tracedCopyTail (idx : Int32) (packets : List (Option (Packet δ))) :
    (b.tracedCopyTail copy idx packets).outcome = b.copyTail copy idx packets := by
  have fromRead : ∀ idx, (copy <$> b.tracedSlot .readBuffer idx).outcome = copy <$> b.readSlot idx :=
    fun _ => Traced.outcome_map _ _
  have fromWrite : ∀ idx, (copy <$> b.tracedSlot .writeBuffer idx).outcome = copy <$> b.writeSlot idx :=
    fun _ => Traced.outcome_map _ _
  simp only [tracedCopyTail, copyTail, Traced.outcome_bind, Traced.outcome_copyRange fromRead,
    Traced.outcome_copyRange fromWrite, Traced.outcome_pure]
  rfl

theorem outcome_tracedCopyBoth : (b.tracedCopyBoth copy).outcome = b.copyBoth copy := by
  simp only [tracedCopyBoth, copyBoth, Traced.outcome_bind, outcome_tracedCopyTail, Traced.outcome_pure]
  rfl

theorem outcome_tracedSinceWrite :
    (b.tracedSinceWrite copy startIdx).outcome = b.sinceWrite copy startIdx := by
  have fromWrite : ∀ (idx : Int32) (i : Int),
      (copy <$> b.tracedSlot .writeBuffer (idx + Int32.ofInt i).toInt).outcome =
        copy <$> b.writeSlot (idx + Int32.ofInt i).toInt := fun _ _ => Traced.outcome_map _ _
  simp only [tracedSinceWrite, sinceWrite, Traced.outcome_bind,
    fun idx => Traced.outcome_copyRange (fromWrite idx), Traced.outcome_pure]
  rfl

theorem outcome_tracedSinceRead :
    (b.tracedSinceRead copy startIdx).outcome = b.sinceRead copy startIdx := by
  have slot : (b.tracedSlot .readBuffer 0).outcome = b.readSlot 0 := rfl
  simp only [tracedSinceRead, sinceRead, Traced.outcome_bind, outcome_tracedCopyTail, slot,
    Traced.outcome_pure]
  cases b.readSlot 0 with
  | error fault => rfl
  | ok first => rfl

theorem outcome_tracedSlotTest {guard : Bool} {buffer : BufferName} {i : Int} {test : UInt32 → Bool} :
    (tracedSlotTest guard (b.tracedSlot buffer i) test).outcome =
      slotTest guard (fetch (b.slots (b.info buffer).packetBufferPtr) i) test := by
  cases guard with
  | false => rfl
  | true =>
      simp only [tracedSlotTest, slotTest, if_true, Traced.outcome_bind, Traced.outcome_pure]
      rfl

theorem outcome_tracedSinceReadBranches :
    (b.tracedSinceReadBranches copy startIdx).outcome = b.sinceReadBranches copy startIdx := by
  simp only [tracedSinceReadBranches, sinceReadBranches, Traced.outcome_bind, outcome_tracedSlotTest,
    Traced.outcome_ite, outcome_tracedSinceRead, outcome_tracedCopyBoth, Traced.outcome_pure]
  rfl

/-! ## A disciplined trace -/

/-- The trace ends with that answer.  It reads below the counts of the buffers, makes no array
but that of the answer, and writes the elements of this one in order, each once. -/
structure Disciplined (b : PacketBuffers δ) (trace : Traced BufferName (DataResponse δ))
    (response : DataResponse δ) : Prop where
  ended : trace.outcome = .ok response
  fills : Fills b.counted response.packets.length trace.accesses
  count : response.packetCount.toNat = response.packets.length

theorem disciplined_empty (b : PacketBuffers δ) : Disciplined b (pure emptyResponse) emptyResponse :=
  ⟨rfl, fills_nil, rfl⟩

/-- A condition that reads a counted slot, and what is done in either case. -/
theorem disciplined_if {guard : Bool} {buffer : BufferName} {i : Int} {p : Packet δ} {test : UInt32 → Bool}
    {yes no : Traced BufferName (DataResponse δ)} (holds : guard = true)
    (read : (b.tracedSlot buffer i).outcome = .ok p) (inside : 0 ≤ i ∧ i < b.counted buffer)
    (onYes : test p.packetIdx = true → ∃ response, Disciplined b yes response)
    (onNo : test p.packetIdx = false → ∃ response, Disciplined b no response) :
    ∃ response, Disciplined b
      (do if ← tracedSlotTest guard (b.tracedSlot buffer i) test then yes else no) response := by
  have tested : tracedSlotTest guard (b.tracedSlot buffer i) test =
      ⟨[.read buffer i], .ok (test p.packetIdx)⟩ := by
    rw [holds]
    refine Traced.ext (Traced.accesses_bind_ok read _) ?_
    simp only [tracedSlotTest, if_true, Traced.outcome_bind, read]
    rfl
  rw [tested]
  cases answer : test p.packetIdx with
  | true =>
      obtain ⟨response, ended, fills, count⟩ := onYes answer
      exact ⟨response, ended, fills.after_read inside, count⟩
  | false =>
      obtain ⟨response, ended, fills, count⟩ := onNo answer
      exact ⟨response, ended, fills.after_read inside, count⟩

/-- A condition whose guard fails reads nothing. -/
theorem disciplined_else {guard : Bool} {slot : Traced BufferName (Packet δ)} {test : UInt32 → Bool}
    {yes no : Traced BufferName (DataResponse δ)} (fails : guard = false)
    (onNo : ∃ response, Disciplined b no response) :
    ∃ response, Disciplined b (do if ← tracedSlotTest guard slot test then yes else no) response := by
  rw [fails]
  exact onNo

/-! ## The branches on what a reader sees -/

section Branches

theorem counted_live (live : Live b previous current) (small : previous.length + current.length < 2 ^ 31) :
    b.counted .readBuffer = previous.length ∧ b.counted .writeBuffer = current.length := by
  constructor
  · show b.readBuffer.dataNum.toInt = _
    rw [live.readNum]
    exact Int32.toInt_ofNat_of_lt (by omega)
  · show b.writeBuffer.dataNum.toInt = _
    rw [live.writeNum]
    exact Int32.toInt_ofNat_of_lt (by omega)

/-- One round of a copying loop. -/
theorem copies_slot (copy : Packet δ → Packet δ) (buffer : BufferName) (k : Int) {i : Int}
    (inside : 0 ≤ k ∧ k < b.counted buffer) :
    Copies b.counted i 0 (copy <$> b.tracedSlot buffer k).accesses := by
  rw [Traced.accesses_map]
  exact copies_read inside

/-- The two loops read the counted slots from `skip` on and write as many elements. -/
theorem tracedCopyTail_copies (live : Live b previous current)
    (small : previous.length + current.length < 2 ^ 31) {skip : Nat} (inside : skip ≤ previous.length)
    {packets copied : List (Option (Packet δ))}
    (ended : (b.tracedCopyTail copy (Int32.ofNat skip) packets).outcome = .ok copied) :
    Copies b.counted 0 (previous.length - skip + current.length)
      (b.tracedCopyTail copy (Int32.ofNat skip) packets).accesses := by
  obtain ⟨readNum, writeNum⟩ := counted_live live small
  have start : (Int32.ofNat skip).toInt = skip := Int32.toInt_ofNat_of_lt (by omega)
  have readEnd : b.readBuffer.dataNum.toInt = previous.length := readNum
  have writeEnd : b.writeBuffer.dataNum.toInt = current.length := writeNum
  rw [tracedCopyTail, start, readEnd, writeEnd] at ended ⊢
  obtain ⟨⟨half, i⟩, first, ended, accesses⟩ := Traced.bind_ok ended
  obtain ⟨⟨full, j⟩, second, -, more⟩ := Traced.bind_ok ended
  obtain ⟨next, fromRead⟩ := Traced.copies_copyRange first fun k i low high =>
    copies_slot copy .readBuffer k (by rw [readNum]; omega)
  obtain ⟨-, fromWrite⟩ := Traced.copies_copyRange second fun k i low high =>
    copies_slot copy .writeBuffer k (by rw [writeNum]; omega)
  rw [show (previous.length - skip : Int).toNat = previous.length - skip by omega] at next fromRead
  rw [show (current.length - 0 : Int).toNat = current.length by omega] at fromWrite
  obtain rfl : i = 0 + ((previous.length - skip : Nat) : Int) := next
  rw [accesses, more]
  exact fromRead.append (fromWrite.append copies_nil)

theorem tracedCopyBoth_disciplined (live : Live b previous current) (copies : ∀ p, copy p = p)
    (small : previous.length + current.length < 2 ^ 31) :
    Disciplined b (b.tracedCopyBoth copy) ⟨.partialData, (previous ++ current).map some,
      UInt32.ofNat (previous.length + current.length)⟩ := by
  have ended := outcome_tracedCopyBoth.trans (copyBoth_live live copies small)
  have size : (b.readBuffer.dataNum + b.writeBuffer.dataNum).toInt =
      ((previous.length + current.length : Nat) : Int) := by
    rw [live.readNum, live.writeNum, ← Int32.ofNat_add]
    exact Int32.toInt_ofNat_of_lt small
  refine ⟨ended, ?_, ?_⟩
  · rw [tracedCopyBoth, size] at ended ⊢
    obtain ⟨fresh, -, ended, accesses⟩ := Traced.bind_ok ended
    obtain ⟨copied, tail, -, more⟩ := Traced.bind_ok ended
    have filled := (tracedCopyTail_copies live small (Nat.zero_le _) tail).append copies_nil
    rw [accesses, more, List.length_map, List.length_append]
    exact filled.fills
  · rw [List.length_map, List.length_append]
    exact UInt32.toNat_ofNat_of_lt' (by rw [UInt32.size]; omega)

theorem tracedSinceWrite_disciplined (live : Live b previous current) (copies : ∀ p, copy p = p)
    (small : previous.length + current.length < 2 ^ 31) {first : Packet δ}
    (head : current[0]? = some first) {skip : Nat} (inside : skip ≤ current.length)
    (distance : startIdx - first.packetIdx = UInt32.ofNat skip) :
    Disciplined b (b.tracedSinceWrite copy startIdx) ⟨.success, (current.drop skip).map some,
      UInt32.ofNat (current.length - skip)⟩ := by
  have ended := outcome_tracedSinceWrite.trans
    (sinceWrite_live live copies (by omega) head inside distance)
  have slot : (b.tracedSlot .writeBuffer 0).outcome = .ok first := live.writeSlot head
  have nonempty := (List.getElem?_eq_some_iff.mp head).1
  obtain ⟨-, writeNum⟩ := counted_live live small
  have size : (b.writeBuffer.dataNum - Int32.ofNat skip).toUInt32.toNat = current.length - skip := by
    rw [live.writeNum, ← Int32.ofNat_sub _ _ inside, Int32.toUInt32_ofNat']
    exact UInt32.toNat_ofNat_of_lt' (by rw [UInt32.size]; omega)
  refine ⟨ended, ?_, ?_⟩
  · rw [tracedSinceWrite] at ended ⊢
    obtain ⟨p, read, ended, accesses⟩ := Traced.bind_ok ended
    obtain rfl : p = first := Except.ok.inj (read.symm.trans slot)
    simp only [distance, UInt32.toInt32_ofNat', size] at ended accesses ⊢
    obtain ⟨fresh, -, ended, more⟩ := Traced.bind_ok ended
    obtain ⟨⟨copied, i⟩, loop, -, rest⟩ := Traced.bind_ok ended
    obtain ⟨-, filled⟩ := Traced.copies_copyRange loop fun k i low high => by
      refine copies_slot copy .writeBuffer _ ?_
      have index : (Int32.ofNat skip + Int32.ofInt k).toInt = skip + k := by
        obtain ⟨n, rfl⟩ := Int.eq_ofNat_of_zero_le low
        rw [Int32.ofInt_eq_ofNat, ← Int32.ofNat_add, Int32.toInt_ofNat_of_lt (by omega)]
        push_cast
        rfl
      rw [index, writeNum]
      omega
    rw [accesses, more, rest, List.length_map, List.length_drop]
    exact Fills.after_read (filled.append copies_nil).fills (by rw [writeNum]; omega)
  · rw [List.length_map, List.length_drop]
    exact UInt32.toNat_ofNat_of_lt' (by rw [UInt32.size]; omega)

theorem tracedSinceRead_disciplined (live : Live b previous current) (copies : ∀ p, copy p = p)
    (small : previous.length + current.length < 2 ^ 31) {first : Packet δ}
    (head : previous[0]? = some first) {skip : Nat} (inside : skip ≤ previous.length)
    (distance : startIdx - first.packetIdx = UInt32.ofNat skip) :
    Disciplined b (b.tracedSinceRead copy startIdx) ⟨.success,
      ((previous ++ current).drop skip).map some,
      UInt32.ofNat (previous.length + current.length - skip)⟩ := by
  have ended := outcome_tracedSinceRead.trans (sinceRead_live live copies small head inside distance)
  have slot : (b.tracedSlot .readBuffer 0).outcome = .ok first := live.readSlot head
  have nonempty := (List.getElem?_eq_some_iff.mp head).1
  obtain ⟨readNum, -⟩ := counted_live live small
  have size : (b.readBuffer.dataNum - Int32.ofNat skip + b.writeBuffer.dataNum).toInt =
      ((previous.length - skip + current.length : Nat) : Int) := by
    rw [live.readNum, live.writeNum, ← Int32.ofNat_sub _ _ inside, ← Int32.ofNat_add]
    exact Int32.toInt_ofNat_of_lt (by omega)
  have kept : (((previous ++ current).drop skip).map some).length =
      previous.length - skip + current.length := by
    rw [List.length_map, List.length_drop, List.length_append]
    omega
  refine ⟨ended, ?_, ?_⟩
  · rw [kept]
    rw [tracedSinceRead] at ended ⊢
    obtain ⟨p, read, ended, accesses⟩ := Traced.bind_ok ended
    obtain rfl : p = first := Except.ok.inj (read.symm.trans slot)
    simp only [distance, UInt32.toInt32_ofNat', size] at ended accesses ⊢
    obtain ⟨fresh, -, ended, more⟩ := Traced.bind_ok ended
    obtain ⟨copied, tail, ended, rest⟩ := Traced.bind_ok ended
    obtain ⟨again, -, -, last⟩ := Traced.bind_ok ended
    rw [accesses, more, rest, last]
    have inBuffer : (0 : Int) ≤ 0 ∧ 0 < b.counted .readBuffer := by
      rw [readNum]
      omega
    have filled := (tracedCopyTail_copies live small inside tail).append
      ((copies_read inBuffer).append copies_nil)
    exact filled.fills.after_read inBuffer
  · rw [kept, show previous.length + current.length - skip = previous.length - skip + current.length by
      omega]
    exact UInt32.toNat_ofNat_of_lt' (by rw [UInt32.size]; omega)

/-- **No wrap in between.**  An index between two stored ones is as far from the first as its
slot, also if the indices wrapped around before or wrap after it. -/
theorem skip_of_between {m k : Nat} (low : UInt32.ofNat m ≤ startIdx)
    (high : startIdx ≤ UInt32.ofNat (m + k)) :
    ∃ skip ≤ k, startIdx - UInt32.ofNat m = UInt32.ofNat skip := by
  rw [UInt32.le_iff_toNat_le, UInt32.toNat_ofNat'] at low high
  have word := startIdx.toNat_lt
  refine ⟨startIdx.toNat - m % 2 ^ 32, by omega, ?_⟩
  rw [← UInt32.toNat_inj, UInt32.toNat_sub, UInt32.toNat_ofNat', UInt32.toNat_ofNat']
  omega

variable {h : List δ} {lo : Nat}

/-- The branches for the read buffer, where the tests before them have bounded the index. -/
theorem tracedSinceReadBranches_disciplined (live : Live b previous current)
    (window : Window h lo previous current) (copies : ∀ p, copy p = p)
    (small : previous.length + current.length < 2 ^ 31)
    (bounded : ∃ k ≤ previous.length, startIdx ≤ UInt32.ofNat (lo + k)) :
    ∃ response, Disciplined b (b.tracedSinceReadBranches copy startIdx) response := by
  rw [tracedSinceReadBranches]
  by_cases empty : previous = []
  · have guard : decide (b.readBuffer.dataNum > 0) = false := by
      rw [live.readNum, empty]
      rfl
    exact disciplined_else guard (disciplined_else guard ⟨_, disciplined_empty b⟩)
  · have guard : decide (b.readBuffer.dataNum > 0) = true := by
      rw [live.readNum]
      exact ofNat_pos empty (by omega)
    obtain ⟨first, element⟩ := exists_element previous 0 (List.length_pos_iff.mpr empty)
    have inside : (0 : Int) ≤ 0 ∧ 0 < b.counted .readBuffer := by
      have := List.length_pos_iff.mpr empty
      rw [(counted_live live small).1]
      omega
    have index : first.packetIdx = UInt32.ofNat lo := window.previousIdx element
    refine disciplined_if guard (live.readSlot element) inside ?_ ?_
    · intro reached
      obtain ⟨k, short, high⟩ := bounded
      rw [index, decide_eq_true_eq] at reached
      obtain ⟨skip, least, distance⟩ := skip_of_between reached high
      rw [← index] at distance
      exact ⟨_, tracedSinceRead_disciplined live copies small element (by omega) distance⟩
    · intro _
      refine disciplined_if guard (live.readSlot element) inside ?_ ?_
      · intro _
        exact ⟨_, tracedCopyBoth_disciplined live copies small⟩
      · intro _
        exact ⟨_, disciplined_empty b⟩

end Branches

end PacketBuffers

/-! ## The whole query -/

namespace DeviceDataStorage

open PacketBuffers

variable {s : DeviceDataStorage} {h : List TrackingDeviceData} {lo : Nat}
  {previous current : List DevicePacket} {startIdx : UInt32}

/-- Without its trace the query is the query of the model. -/
theorem outcome_tracedDataSinceIndex (s : DeviceDataStorage) (startIdx : UInt32) :
    (s.tracedDataSinceIndex startIdx).outcome = s.getDataSinceIndex startIdx := by
  simp only [tracedDataSinceIndex, getDataSinceIndex, Traced.outcome_bind, outcome_tracedSlotTest,
    Traced.outcome_ite, outcome_tracedSinceWrite, outcome_tracedSinceReadBranches, Traced.outcome_pure]
  rfl

/-- With the write buffer empty, the test of the newest packet bounds the index. -/
theorem tracedDataSinceIndex_fresh (live : Live s.buffers previous []) (window : Window h lo previous [])
    (small : previous.length < 2 ^ 31) :
    ∃ response, Disciplined s.buffers (s.tracedDataSinceIndex startIdx) response := by
  have drained : decide (s.buffers.writeBuffer.dataNum > 0) = false := by
    rw [live.writeNum]
    rfl
  have bound : previous.length + ([] : List DevicePacket).length < 2 ^ 31 := small
  rw [tracedDataSinceIndex]
  refine disciplined_else drained (disciplined_else drained ?_)
  by_cases empty : previous = []
  · subst empty
    refine disciplined_else ?_ ?_
    · rw [live.readNum]
      exact Bool.and_false _
    · have idle : decide (s.buffers.readBuffer.dataNum > 0) = false := by
        rw [live.readNum]
        rfl
      rw [tracedSinceReadBranches]
      exact disciplined_else idle (disciplined_else idle ⟨_, disciplined_empty s.buffers⟩)
  · have nonzero := List.length_pos_iff.mpr empty
    have guard : (decide (s.buffers.writeBuffer.dataNum = 0) && decide (s.buffers.readBuffer.dataNum > 0)) =
        true := by
      rw [live.writeNum, live.readNum, ofNat_pos empty small]
      rfl
    obtain ⟨newest, element⟩ := exists_element previous (previous.length - 1) (by omega)
    have last : (s.buffers.readBuffer.dataNum - 1).toInt = ((previous.length - 1 : Nat) : Int) := by
      rw [live.readNum, last_index empty small]
    rw [last]
    refine disciplined_if guard (live.readSlot element) ?_ ?_ ?_
    · rw [(counted_live live bound).1]
      omega
    · intro _
      exact ⟨_, disciplined_empty s.buffers⟩
    · intro before
      rw [window.previousIdx element, decide_eq_false_iff_not, UInt32.not_lt] at before
      exact tracedSinceReadBranches_disciplined live window copyDevicePacket_eq bound ⟨_, by omega, before⟩

/-- With packets in the write buffer, the tests of its newest and its first one do. -/
theorem tracedDataSinceIndex_current (live : Live s.buffers previous current)
    (window : Window h lo previous current) (small : previous.length + current.length < 2 ^ 31)
    (nonempty : current ≠ []) :
    ∃ response, Disciplined s.buffers (s.tracedDataSinceIndex startIdx) response := by
  have nonzero := List.length_pos_iff.mpr nonempty
  have writeNum := (counted_live live small).2
  have guard : decide (s.buffers.writeBuffer.dataNum > 0) = true := by
    rw [live.writeNum]
    exact ofNat_pos nonempty (by omega)
  have occupied : decide (s.buffers.writeBuffer.dataNum = 0) = false := by
    refine decide_eq_false fun zero => ?_
    rw [zero] at guard
    exact absurd guard (by decide)
  obtain ⟨newest, newestElement⟩ := exists_element current (current.length - 1) (by omega)
  obtain ⟨first, firstElement⟩ := exists_element current 0 nonzero
  have last : (s.buffers.writeBuffer.dataNum - 1).toInt = ((current.length - 1 : Nat) : Int) := by
    rw [live.writeNum, last_index nonempty (by omega)]
  have start : first.packetIdx = UInt32.ofNat (lo + previous.length) := window.currentIdx firstElement
  rw [tracedDataSinceIndex]
  simp only [last]
  refine disciplined_if guard (live.writeSlot newestElement) (by rw [writeNum]; omega) ?_ ?_
  · intro _
    exact ⟨_, disciplined_empty s.buffers⟩
  · intro before
    rw [window.currentIdx newestElement, decide_eq_false_iff_not, UInt32.not_lt] at before
    refine disciplined_if guard (live.writeSlot firstElement) (by rw [writeNum]; omega) ?_ ?_
    · intro reached
      rw [start, decide_eq_true_eq] at reached
      obtain ⟨skip, least, distance⟩ := skip_of_between reached before
      rw [← start] at distance
      exact ⟨_, tracedSinceWrite_disciplined live copyDevicePacket_eq small firstElement (by omega) distance⟩
    · intro early
      rw [start, decide_eq_false_iff_not, UInt32.not_le] at early
      refine disciplined_else (by rw [occupied, Bool.false_and]) ?_
      exact tracedSinceReadBranches_disciplined live window copyDevicePacket_eq small
        ⟨_, le_refl _, UInt32.le_of_lt early⟩

/-- In whatever state a reader finds the buffers, and wherever the indices wrap. -/
theorem tracedDataSinceIndex_disciplined (live : Live s.buffers previous current)
    (window : Window h lo previous current) (small : previous.length + current.length < 2 ^ 31) :
    ∃ response, Disciplined s.buffers (s.tracedDataSinceIndex startIdx) response := by
  by_cases fresh : current = []
  · subst fresh
    exact tracedDataSinceIndex_fresh live window (by simpa using small)
  · exact tracedDataSinceIndex_current live window small fresh

/-- **The query by index stays in bounds.**  For every buffer size, every run of pushes, of any
length and so with the indices wrapped any number of times, and every index: the query answers,
it reads below the counts of the two buffers, the array it makes has the length of the answer,
and each element of this is written once. -/
theorem getDataSinceIndex_inBounds (N : Nat) (pos : 1 ≤ N) (small : N ≤ 2 ^ 30) (device : DeviceDescriptor)
    (packets : List Proto.TrackingDeviceData) (results : List Bool) (s : DeviceDataStorage)
    (run : (init device (UInt32.ofNat N)).pushAll packets = .ok (results, s)) (startIdx : UInt32) :
    (s.tracedDataSinceIndex startIdx).outcome = s.getDataSinceIndex startIdx ∧
      ∃ response, s.getDataSinceIndex startIdx = .ok response ∧
        InBounds s.buffers.counted (s.tracedDataSinceIndex startIdx).accesses ∧
        (∀ n ∈ (s.tracedDataSinceIndex startIdx).accesses.filterMap Access.allocated,
          0 ≤ n ∧ n = response.packets.length) ∧
        (s.tracedDataSinceIndex startIdx).accesses.filterMap Access.written =
          (List.range response.packets.length).map Nat.cast ∧
        response.packetCount.toNat = response.packets.length := by
  have plain := outcome_tracedDataSinceIndex s startIdx
  have fresh : Represents (N := N) pos (init device (UInt32.ofNat N)).buffers [] :=
    init_represents pos (by omega)
  obtain ⟨-, -, converted, -, kept⟩ := pushAll_represents (by omega) packets fresh run
  obtain ⟨response, ended, fills, count⟩ : ∃ response,
      Disciplined s.buffers (s.tracedDataSinceIndex startIdx) response :=
    tracedDataSinceIndex_disciplined kept.live (ofHistory_window pos _)
      (Represents.generations_small pos _ small)
  refine ⟨plain, response, plain.symm.trans ended, fills.reads, ?_, fills.writes, count⟩
  intro n member
  rw [fills.allocates n member]
  exact ⟨Int.natCast_nonneg _, rfl⟩

theorem getDataSinceIndex_inBounds_two :
    ∃ s, (init ⟨7, 1, 0, 0, [], [], 0, false⟩ 2).pushAll
        [{ siuUuid := 7, portId := 1 }, { siuUuid := 7, portId := 1, timestamp := 5 },
          { siuUuid := 7, portId := 1, timestamp := 9 }] = .ok ([true, true, true], s) ∧
      ∃ response, s.getDataSinceIndex 1 = .ok response ∧
        InBounds s.buffers.counted (s.tracedDataSinceIndex 1).accesses ∧
        response.packetCount.toNat = response.packets.length := by
  obtain ⟨-, response, answer, reads, -, -, count⟩ :=
    getDataSinceIndex_inBounds 2 (by decide) (by decide) ⟨7, 1, 0, 0, [], [], 0, false⟩
      [{ siuUuid := 7, portId := 1 }, { siuUuid := 7, portId := 1, timestamp := 5 },
        { siuUuid := 7, portId := 1, timestamp := 9 }] [true, true, true] _ rfl 1
  exact ⟨_, rfl, response, answer, reads, count⟩

end DeviceDataStorage

end OmmoSdk.Storage
