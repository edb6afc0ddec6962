/-
# Storage.PacketBuffers — the double buffer under both packet stores

`DeviceDataStorage` and `BaseStationDataStorage` hold the same members: two arrays
of `buffer_size_` packets, a read and a write `BufferInfo` that point at them, and
the running packet index.  Both push, switch and answer the latest-N queries in
the same words, so the code is modelled once here, over the type of the packet
data, and each store instantiates it.

`push` is the source's push after the message was accepted and converted, cut at
the points where another thread can run in between: `fillSlot`, `countPacket`,
`switchBufferPointer` (under the exclusive lock) and `setWriteNum`.

`Live b previous current` is what a reader of `b` can see.  The answers of the
queries are computed from these two lists alone (`getLatestCount_live`,
`copyBoth_live`, `sinceWrite_live`, `sinceRead_live`), in whatever state of a push
the reader runs.
-/
import OmmoSdk.Theory.Generations
import OmmoSdk.Theory.Memory
import OmmoSdk.Sdk.Types

namespace OmmoSdk.Storage

open OmmoSdk.Theory
open OmmoSdk.Sdk

set_option autoImplicit false

/-- The two places `packet_buffer_ptr` can point to. -/
inductive BufferPtr where
  | packetBuffer1
  | packetBuffer2
  deriving DecidableEq, Repr

structure BufferInfo where
  dataNum : Int32
  packetBufferPtr : BufferPtr
  deriving DecidableEq, Repr

structure PacketBuffers (δ : Type) where
  bufferSize : UInt32
  packetReceivedNum : UInt32
  packetBuffer1 : List (Packet δ)
  packetBuffer2 : List (Packet δ)
  readBuffer : BufferInfo
  writeBuffer : BufferInfo

namespace PacketBuffers

variable {δ : Type}

/-- The constructor: both arrays default-initialised, both buffers empty. -/
def init [Inhabited δ] (bufferSize : UInt32) : PacketBuffers δ where
  bufferSize := bufferSize
  packetReceivedNum := 0
  packetBuffer1 := List.replicate bufferSize.toNat ⟨0, default⟩
  packetBuffer2 := List.replicate bufferSize.toNat ⟨0, default⟩
  readBuffer := ⟨0, .packetBuffer1⟩
  writeBuffer := ⟨0, .packetBuffer2⟩

def slots (b : PacketBuffers δ) : BufferPtr → List (Packet δ)
  | .packetBuffer1 => b.packetBuffer1
  | .packetBuffer2 => b.packetBuffer2

def setSlots (b : PacketBuffers δ) (xs : List (Packet δ)) : BufferPtr → PacketBuffers δ
  | .packetBuffer1 => { b with packetBuffer1 := xs }
  | .packetBuffer2 => { b with packetBuffer2 := xs }

/-- `read_buffer_.packet_buffer_ptr[i]` -/
def readSlot (b : PacketBuffers δ) (i : Int) : Except Fault (Packet δ) :=
  fetch (b.slots b.readBuffer.packetBufferPtr) i

/-- `write_buffer_.packet_buffer_ptr[i]` -/
def writeSlot (b : PacketBuffers δ) (i : Int) : Except Fault (Packet δ) :=
  fetch (b.slots b.writeBuffer.packetBufferPtr) i

/-! ## Pushing -/

/-- Store the next index in slot `idxSlot` of the write buffer and the data in
slot `dataSlot`, which are the same slot everywhere but in one branch of one store. -/
def fillSlot (b : PacketBuffers δ) (idxSlot dataSlot : Int32) (data : δ) :
    Except Fault (PacketBuffers δ) := do
  let ptr := b.writeBuffer.packetBufferPtr
  let indexed ← fetch (b.slots ptr) idxSlot.toInt
  let xs ← put (b.slots ptr) idxSlot.toInt { indexed with packetIdx := b.packetReceivedNum }
  let target ← fetch xs dataSlot.toInt
  let xs ← put xs dataSlot.toInt { target with data := data }
  return { b with packetReceivedNum := b.packetReceivedNum + 1 }.setSlots xs ptr

/-- `write_buffer_.data_num++` -/
def countPacket (b : PacketBuffers δ) : PacketBuffers δ :=
  { b with writeBuffer := { b.writeBuffer with dataNum := b.writeBuffer.dataNum + 1 } }

/-- Exchange the pointers and the counts of the two buffers. -/
def switchBufferPointer (b : PacketBuffers δ) : PacketBuffers δ :=
  let tempPtr := b.writeBuffer.packetBufferPtr
  let readNum := b.readBuffer.dataNum
  let writeNum := b.writeBuffer.dataNum
  { b with
    writeBuffer := { dataNum := readNum, packetBufferPtr := b.readBuffer.packetBufferPtr }
    readBuffer := { dataNum := writeNum, packetBufferPtr := tempPtr } }

/-- `write_buffer_.data_num.store(n)` -/
def setWriteNum (b : PacketBuffers δ) (n : Int32) : PacketBuffers δ :=
  { b with writeBuffer := { b.writeBuffer with dataNum := n } }

/-- Save one packet.  `dataSlot` is where the branch for a full write buffer puts
the data, given the count it found. -/
def push (dataSlot : Int32 → Int32) (b : PacketBuffers δ) (data : δ) :
    Except Fault (PacketBuffers δ) :=
  let writeIdx := b.writeBuffer.dataNum
  if writeIdx.toUInt32 < b.bufferSize then do
    let filled ← b.fillSlot writeIdx writeIdx data
    let counted := filled.countPacket
    if counted.writeBuffer.dataNum.toUInt32 = counted.bufferSize then
      return counted.switchBufferPointer.setWriteNum 0
    else
      return counted
  else do
    let switched := b.switchBufferPointer
    let filled ← switched.fillSlot 0 (dataSlot writeIdx) data
    return filled.setWriteNum 1

/-! ## Queries -/

def emptyResponse : DataResponse δ := ⟨.noData, [], 0⟩

/-- The two loops of every answer that needs the read buffer: its packets from
`idx` on, then all of the write buffer, into `packets` from its start. -/
def copyTail (copy : Packet δ → Packet δ) (b : PacketBuffers δ) (idx : Int32)
    (packets : List (Option (Packet δ))) : Except Fault (List (Option (Packet δ))) := do
  let (packets, i) ← copyRange (fun idx => copy <$> b.readSlot idx)
    idx.toInt b.readBuffer.dataNum.toInt 0 packets
  let (packets, _) ← copyRange (fun idx => copy <$> b.writeSlot idx)
    0 b.writeBuffer.dataNum.toInt i packets
  return packets

/-- All of the read buffer, then all of the write buffer, into a new array. -/
def copyBoth (copy : Packet δ → Packet δ) (b : PacketBuffers δ) :
    Except Fault (DataResponse δ) := do
  let writePacketNum := b.writeBuffer.dataNum
  let readPacketNum := b.readBuffer.dataNum
  let packets ← newArray (readPacketNum + writePacketNum).toInt
  let packets ← b.copyTail copy 0 packets
  return ⟨.partialData, packets, (readPacketNum + writePacketNum).toUInt32⟩

/-- A new array of one packet. -/
def singleResponse (slot : Except Fault (Packet δ)) : Except Fault (DataResponse δ) := do
  let packets ← newArray 1
  let packets ← put packets 0 (some (← slot))
  return ⟨.success, packets, 1⟩

/-- `GetLatestData()`.  `fallback` is the buffer the branch for an empty write buffer
takes the packet from. -/
def getLatestOne (copy : Packet δ → Packet δ)
    (fallback : PacketBuffers δ → Int → Except Fault (Packet δ)) (b : PacketBuffers δ) :
    Except Fault (DataResponse δ) :=
  let idx := b.writeBuffer.dataNum - 1
  if idx ≥ 0 then
    singleResponse (copy <$> b.writeSlot idx.toInt)
  else
    let idx := b.readBuffer.dataNum - 1
    if idx ≥ 0 then
      singleResponse (copy <$> fallback b idx.toInt)
    else
      return emptyResponse

/-- `GetLatestData(uint32_t request_count)` -/
def getLatestCount (copy : Packet δ → Packet δ) (b : PacketBuffers δ) (requestCount : UInt32) :
    Except Fault (DataResponse δ) :=
  let writePacketNum := b.writeBuffer.dataNum
  let readPacketNum := b.readBuffer.dataNum
  if requestCount > 0 then
    if requestCount ≤ writePacketNum.toUInt32 then do
      let startIdx := writePacketNum.toUInt32 - requestCount
      let packets ← newArray requestCount.toNat
      let (packets, _) ← copyRange
        (fun i => copy <$> b.writeSlot (startIdx + UInt32.ofInt i).toNat)
        0 requestCount.toNat 0 packets
      return ⟨.success, packets, requestCount⟩
    else if requestCount ≤ (readPacketNum + writePacketNum).toUInt32 then do
      let idx := ((readPacketNum + writePacketNum).toUInt32 - requestCount).toInt32
      let packets ← newArray requestCount.toNat
      let packets ← b.copyTail copy idx packets
      return ⟨.success, packets, requestCount⟩
    else if readPacketNum + writePacketNum > 0 then
      b.copyBoth copy
    else
      return emptyResponse
  else
    return emptyResponse

/-- The branch of `GetDataSinceIndex` that is served from the write buffer alone. -/
def sinceWrite (copy : Packet δ → Packet δ) (b : PacketBuffers δ) (startIdx : UInt32) :
    Except Fault (DataResponse δ) := do
  let first ← b.writeSlot 0
  let idx := (startIdx - first.packetIdx).toInt32
  let packetCount := (b.writeBuffer.dataNum - idx).toUInt32
  let packets ← newArray packetCount.toNat
  let (packets, _) ← copyRange (fun i => copy <$> b.writeSlot (idx + Int32.ofInt i).toInt)
    0 packetCount.toNat 0 packets
  return ⟨.success, packets, packetCount⟩

/-- The branch of `GetDataSinceIndex` that starts in the read buffer. -/
def sinceRead (copy : Packet δ → Packet δ) (b : PacketBuffers δ) (startIdx : UInt32) :
    Except Fault (DataResponse δ) := do
  let writePacketNum := b.writeBuffer.dataNum
  let readPacketNum := b.readBuffer.dataNum
  let first ← b.readSlot 0
  let idx := (startIdx - first.packetIdx).toInt32
  let packets ← newArray (readPacketNum - idx + writePacketNum).toInt
  let packets ← b.copyTail copy idx packets
  return ⟨.success, packets,
    (readPacketNum + writePacketNum).toUInt32 + first.packetIdx - startIdx⟩

/-- A condition `guard && slot.packet_idx <op> start_idx`: the slot is read only
when the guard holds. -/
def slotTest (guard : Bool) (slot : Except Fault (Packet δ)) (test : UInt32 → Bool) :
    Except Fault Bool :=
  if guard then do return test (← slot).packetIdx else return false

/-- The last branches of `GetDataSinceIndex`: the write buffer does not reach back
to `startIdx`. -/
def sinceReadBranches (copy : Packet δ → Packet δ) (b : PacketBuffers δ) (startIdx : UInt32) :
    Except Fault (DataResponse δ) := do
  let readPacketNum := b.readBuffer.dataNum
  if ← slotTest (readPacketNum > 0) (b.readSlot 0) (· ≤ startIdx) then
    b.sinceRead copy startIdx
  else do
    if ← slotTest (readPacketNum > 0) (b.readSlot 0) (· > startIdx) then
      b.copyBoth copy
    else
      return emptyResponse

/-! ## What a reader sees -/

/-- The counts and the counted slots of both buffers, oldest packet first.  Slots
past the counts hold stale packets and are not constrained. -/
structure Live (b : PacketBuffers δ) (previous current : List (Packet δ)) : Prop where
  readNum : b.readBuffer.dataNum = Int32.ofNat previous.length
  writeNum : b.writeBuffer.dataNum = Int32.ofNat current.length
  readSlots : (b.slots b.readBuffer.packetBufferPtr).take previous.length = previous
  writeSlots : (b.slots b.writeBuffer.packetBufferPtr).take current.length = current

/-- The newest `count` of `kept`, or all of them if there are fewer. -/
def latestResponse (kept : List (Packet δ)) (count : UInt32) : DataResponse δ :=
  if count = 0 ∨ kept = [] then emptyResponse
  else if count.toNat ≤ kept.length then
    ⟨.success, (kept.drop (kept.length - count.toNat)).map some, count⟩
  else ⟨.partialData, kept.map some, UInt32.ofNat kept.length⟩

@[simp] theorem slotTest_false (slot : Except Fault (Packet δ)) (test : UInt32 → Bool) :
    slotTest false slot test = .ok false := rfl

theorem slotTest_ok {guard : Bool} {slot : Except Fault (Packet δ)} {p : Packet δ}
    (holds : guard = true) (read : slot = .ok p) (test : UInt32 → Bool) :
    slotTest guard slot test = .ok (test p.packetIdx) := by
  simp [slotTest, holds, read, bind, Except.bind, pure, Except.pure]

theorem ofInt_natCast (n : Nat) : UInt32.ofInt (n : Int) = UInt32.ofNat n := by
  apply UInt32.toNat_inj.mp
  simp [UInt32.ofInt]
  omega

section Reading

variable {b : PacketBuffers δ} {previous current : List (Packet δ)}
  {copy : Packet δ → Packet δ}

theorem Live.readSlot (live : Live b previous current) {i : Nat} {p : Packet δ}
    (element : previous[i]? = some p) : b.readSlot (i : Int) = .ok p :=
  fetch_of_take live.readSlots element

theorem Live.writeSlot (live : Live b previous current) {i : Nat} {p : Packet δ}
    (element : current[i]? = some p) : b.writeSlot (i : Int) = .ok p :=
  fetch_of_take live.writeSlots element

theorem copyTail_live (live : Live b previous current) (copies : ∀ p, copy p = p)
    (small : previous.length + current.length < 2 ^ 31) (skip : Nat)
    (inside : skip ≤ previous.length) :
    b.copyTail copy (Int32.ofNat skip)
        (List.replicate (previous.length - skip + current.length) none) =
      .ok ((previous.drop skip ++ current).map some) := by
  have first := copyRange_fresh (fun idx => copy <$> b.readSlot idx)
    (previous.drop skip) (skip : Int) (previous.length : Int) current.length
    (by rw [List.length_drop]; omega) (by
      intro j p element
      rw [List.getElem?_drop] at element
      have slot := live.readSlot element
      push_cast at slot
      simp [slot, copies, Functor.map, Except.map])
  have second := copyRange_rest (fun idx => copy <$> b.writeSlot idx)
    ((previous.drop skip).map some) current (current.length : Int) rfl (by
      intro j p element
      simp [live.writeSlot element, copies, Functor.map, Except.map])
  rw [List.length_drop] at first
  rw [List.length_map, List.length_drop] at second
  simp only [copyTail, live.readNum, live.writeNum]
  rw [Int32.toInt_ofNat_of_lt (by omega), Int32.toInt_ofNat_of_lt (by omega),
    Int32.toInt_ofNat_of_lt (by omega)]
  simp only [first, second, bind, Except.bind, pure, Except.pure, List.map_append]

theorem copyBoth_live (live : Live b previous current) (copies : ∀ p, copy p = p)
    (small : previous.length + current.length < 2 ^ 31) :
    b.copyBoth copy = .ok ⟨.partialData, (previous ++ current).map some,
      UInt32.ofNat (previous.length + current.length)⟩ := by
  have tail := copyTail_live live copies small 0 (Nat.zero_le _)
  simp only [Nat.sub_zero, List.drop_zero] at tail
  simp only [copyBoth, live.readNum, live.writeNum, ← Int32.ofNat_add, Int32.toUInt32_ofNat']
  rw [Int32.toInt_ofNat_of_lt small]
  simp only [newArray_natCast, bind, Except.bind, pure, Except.pure]
  rw [show (0 : Int32) = Int32.ofNat 0 from rfl, tail]

/-- The newest packets, if the write buffer has enough of them. -/
theorem copyNewest_live (live : Live b previous current) (copies : ∀ p, copy p = p)
    (small : current.length < 2 ^ 31) {n : Nat} (enough : n ≤ current.length) :
    copyRange (fun i => copy <$> b.writeSlot (UInt32.ofNat (current.length - n) + UInt32.ofInt i).toNat)
        0 n 0 (List.replicate n none) =
      .ok ((current.drop (current.length - n)).map some, (n : Int)) := by
  have filled := copyRange_fresh
    (fun i => copy <$> b.writeSlot (UInt32.ofNat (current.length - n) + UInt32.ofInt i).toNat)
    (current.drop (current.length - n)) 0 n 0 (by rw [List.length_drop]; omega) (by
      intro j p element
      rw [List.getElem?_drop] at element
      have inside := (List.getElem?_eq_some_iff.mp element).1
      have index : (UInt32.ofNat (current.length - n) + UInt32.ofInt (0 + (j : Int))).toNat =
          current.length - n + j := by
        rw [Int.zero_add, ofInt_natCast, ← UInt32.ofNat_add]
        exact UInt32.toNat_ofNat_of_lt' (by rw [UInt32.size]; omega)
      simp only [index, live.writeSlot element, copies, Functor.map, Except.map])
  rw [List.length_drop, show current.length - (current.length - n) + 0 = n by omega] at filled
  rw [filled, show current.length - (current.length - n) = n by omega]
  simp

/-- **The latest-N query.**  In whatever state a reader finds the two buffers, it
gets the newest packets of what it sees. -/
theorem getLatestCount_live (live : Live b previous current) (copies : ∀ p, copy p = p)
    (small : previous.length + current.length < 2 ^ 31) (requestCount : UInt32) :
    b.getLatestCount copy requestCount =
      .ok (latestResponse (previous ++ current) requestCount) := by
  obtain ⟨n, rfl, bound⟩ : ∃ n, requestCount = UInt32.ofNat n ∧ n < 2 ^ 32 :=
    ⟨requestCount.toNat, UInt32.ofNat_toNat.symm, requestCount.toNat_lt⟩
  have countNat : (UInt32.ofNat n).toNat = n := UInt32.toNat_ofNat_of_lt' bound
  have atMost : ∀ m, m < 2 ^ 31 → (UInt32.ofNat n ≤ UInt32.ofNat m ↔ n ≤ m) := fun m h =>
    UInt32.ofNat_le_iff_le bound (lt_trans h (by decide))
  simp only [getLatestCount, live.readNum, live.writeNum, ← Int32.ofNat_add,
    Int32.toUInt32_ofNat', latestResponse, atMost current.length (by omega), atMost _ small,
    countNat, List.length_append, List.append_eq_nil_iff, gt_iff_lt]
  by_cases zero : n = 0
  · subst zero
    simp [pure, Except.pure]
  have nonzero : ¬ (UInt32.ofNat n = 0) := fun h => zero (by rw [← countNat, h]; rfl)
  have positive : (0 : UInt32) < UInt32.ofNat n := by
    rw [UInt32.lt_iff_toNat_lt, countNat]; exact Nat.pos_of_ne_zero zero
  rw [if_pos positive]
  by_cases fromWrite : n ≤ current.length
  · have start : UInt32.ofNat current.length - UInt32.ofNat n =
        UInt32.ofNat (current.length - n) := (UInt32.ofNat_sub fromWrite).symm
    have filled := copyNewest_live live copies (by omega) fromWrite
    have both : ¬ (previous = [] ∧ current = []) := by
      rintro ⟨-, rfl⟩
      simp at fromWrite; omega
    have dropped : (previous ++ current).drop (previous.length + current.length - n) =
        current.drop (current.length - n) := by
      rw [show previous.length + current.length - n = previous.length + (current.length - n) by
        omega, List.drop_length_add_append]
    rw [if_pos fromWrite, if_neg (by tauto), if_pos (by omega), dropped]
    simp only [newArray_natCast, start, filled, bind, Except.bind, pure, Except.pure]
  rw [if_neg fromWrite]
  by_cases fromBoth : n ≤ previous.length + current.length
  · have start : (UInt32.ofNat (previous.length + current.length) - UInt32.ofNat n).toInt32 =
        Int32.ofNat (previous.length + current.length - n) := by
      rw [← UInt32.ofNat_sub fromBoth, UInt32.toInt32_ofNat']
    have tail := copyTail_live live copies small (previous.length + current.length - n) (by omega)
    rw [show previous.length - (previous.length + current.length - n) + current.length = n by
      omega] at tail
    have both : ¬ (previous = [] ∧ current = []) := by
      rintro ⟨rfl, rfl⟩
      simp at fromBoth; omega
    rw [if_pos fromBoth, if_neg (by tauto), if_pos fromBoth]
    simp only [newArray_natCast, start, tail, bind, Except.bind, pure, Except.pure]
    rw [List.drop_append_of_le_length (by omega)]
  · rw [if_neg fromBoth, if_neg fromBoth, copyBoth_live live copies small]
    by_cases both : previous = [] ∧ current = []
    · simp [both, pure, Except.pure]
    · have some : 0 < previous.length + current.length := by
        rcases not_and_or.mp both with h | h
        · have := List.length_pos_iff.mpr h; omega
        · have := List.length_pos_iff.mpr h; omega
      rw [if_pos, if_neg (by tauto)]
      exact (Int32.ofNat_lt_iff_lt (by decide) small).mpr some

/-! A count that was an `int32_t` -/

/-- There is a packet in one of the two buffers. -/
def HoldsPackets (b : PacketBuffers δ) : Prop :=
  0 < b.readBuffer.dataNum ∨ 0 < b.writeBuffer.dataNum

/-- The answer for `numPackets` packets has no more of them, and "no data" when there can be
none. -/
def AtMost (numPackets : Int32) (answer : Except Fault (DataResponse δ)) : Prop :=
  ∃ response, answer = .ok response ∧
    (response.packets.length : Int) ≤ max 0 numPackets.toInt ∧
    (response.packetCount.toNat : Int) ≤ max 0 numPackets.toInt ∧
    (numPackets ≤ 0 → response.state = .noData)

theorem atMost_empty (numPackets : Int32) :
    AtMost numPackets (.ok (emptyResponse (δ := δ))) :=
  ⟨_, rfl, Int.le_max_left _ _, Int.le_max_left _ _, fun _ => rfl⟩

/-- A negative `int32_t` is a large `uint32_t`. -/
theorem toUInt32_negative {numPackets : Int32} (negative : ¬ 0 ≤ numPackets) :
    2 ^ 31 ≤ numPackets.toUInt32.toNat := by
  have below : numPackets.toInt < 0 := by
    rwa [Int32.le_iff_toInt_le, Int32.toInt_zero, not_le] at negative
  have value : numPackets.toInt = numPackets.toUInt32.toBitVec.toInt := rfl
  rw [value, BitVec.toInt_eq_toNat_cond] at below
  rw [← UInt32.toNat_toBitVec]
  split at below <;> omega

theorem toUInt32_nonnegative {numPackets : Int32} (nonnegative : 0 ≤ numPackets) :
    (numPackets.toUInt32.toNat : Int) = numPackets.toInt := by
  rw [Int32.toNat_toUInt32_of_le nonnegative]
  exact Int32.cast_toNatClampNeg numPackets nonnegative

theorem holdsPackets_iff (live : Live b previous current)
    (small : previous.length + current.length < 2 ^ 31) :
    b.HoldsPackets ↔ previous ++ current ≠ [] := by
  have counted : ∀ xs : List (Packet δ), xs.length < 2 ^ 31 → (0 < Int32.ofNat xs.length ↔ xs ≠ []) := by
    intro xs bound
    rw [show (0 : Int32) = Int32.ofNat 0 from rfl, Int32.ofNat_lt_iff_lt (by decide) bound,
      List.length_pos_iff]
  rw [HoldsPackets, live.readNum, live.writeNum, counted previous (by omega), counted current (by omega)]
  simp only [ne_eq, List.append_eq_nil_iff]
  tauto

/-- For a count that is not negative the bound is that of the query. -/
theorem atMost_latestResponse {kept : List (Packet δ)} {numPackets : Int32}
    (nonnegative : 0 ≤ numPackets) (small : kept.length < 2 ^ 31) :
    AtMost numPackets (.ok (latestResponse kept numPackets.toUInt32)) := by
  have value := toUInt32_nonnegative nonnegative
  have atLeast : max 0 numPackets.toInt = numPackets.toUInt32.toNat := by omega
  refine ⟨_, rfl, ?_⟩
  rw [atLeast, latestResponse]
  split
  · exact ⟨Int.natCast_nonneg _, Int.natCast_nonneg _, fun _ => rfl⟩
  · rename_i asked
    have positive : ¬ numPackets ≤ 0 := by
      intro nonpositive
      have zero : numPackets = 0 := Int32.le_antisymm nonpositive nonnegative
      exact asked (.inl (by rw [zero]; rfl))
    split
    · rename_i enough
      simp only [List.length_map, List.length_drop]
      exact ⟨by omega, le_refl _, fun nonpositive => absurd nonpositive positive⟩
    · rename_i fewer
      have count : (UInt32.ofNat kept.length).toNat = kept.length :=
        UInt32.toNat_ofNat_of_lt' (lt_trans small (by decide))
      simp only [List.length_map, count]
      exact ⟨by omega, by omega, fun nonpositive => absurd nonpositive positive⟩

/-- **When a latest-N query keeps to the number it was asked for**: always, but for a negative
number while there is a packet. -/
theorem atMost_iff (live : Live b previous current) (copies : ∀ p, copy p = p)
    (small : previous.length + current.length < 2 ^ 31) (numPackets : Int32) :
    AtMost numPackets (b.getLatestCount copy numPackets.toUInt32) ↔
      0 ≤ numPackets ∨ ¬ b.HoldsPackets := by
  have size : (previous ++ current).length < 2 ^ 31 := by rwa [List.length_append]
  rw [getLatestCount_live live copies small, holdsPackets_iff live small]
  by_cases nonnegative : 0 ≤ numPackets
  · exact iff_of_true (atMost_latestResponse nonnegative size) (.inl nonnegative)
  by_cases empty : previous ++ current = []
  · rw [latestResponse, if_pos (.inr empty)]
    exact iff_of_true (atMost_empty numPackets) (.inr (not_not_intro empty))
  -- All packets are fewer than the number that the negative count is taken for.
  have large := toUInt32_negative nonnegative
  have asked : ¬ (numPackets.toUInt32 = 0 ∨ previous ++ current = []) := by
    rintro (zero | none)
    · rw [zero] at large
      exact absurd large (by decide)
    · exact empty none
  refine iff_of_false ?_ (by tauto)
  rintro ⟨response, answered, few, -⟩
  rw [latestResponse, if_neg asked, if_neg (by omega)] at answered
  cases answered
  have below : numPackets.toInt < 0 := by
    rwa [Int32.le_iff_toInt_le, Int32.toInt_zero, not_le] at nonnegative
  have some := List.length_pos_iff.mpr empty
  rw [List.length_map] at few
  omega

/-- From slot `skip` of the write buffer on, when that is where `startIdx` lies. -/
theorem sinceWrite_live (live : Live b previous current) (copies : ∀ p, copy p = p)
    (small : current.length < 2 ^ 31) {first : Packet δ} (head : current[0]? = some first)
    {startIdx : UInt32} {skip : Nat} (inside : skip ≤ current.length)
    (distance : startIdx - first.packetIdx = UInt32.ofNat skip) :
    b.sinceWrite copy startIdx = .ok ⟨.success, (current.drop skip).map some,
      UInt32.ofNat (current.length - skip)⟩ := by
  have slot : b.writeSlot 0 = .ok first := live.writeSlot head
  have countNat : (UInt32.ofNat (current.length - skip)).toNat = current.length - skip :=
    UInt32.toNat_ofNat_of_lt' (by rw [UInt32.size]; omega)
  have filled := copyRange_fresh
    (fun i => copy <$> b.writeSlot (Int32.ofNat skip + Int32.ofInt i).toInt)
    (current.drop skip) 0 ((current.length - skip : Nat) : Int) 0 (by rw [List.length_drop]; omega) (by
      intro j p element
      rw [List.getElem?_drop] at element
      have bound := (List.getElem?_eq_some_iff.mp element).1
      have index : (Int32.ofNat skip + Int32.ofInt (0 + (j : Int))).toInt = ((skip + j : Nat) : Int) := by
        rw [Int.zero_add, Int32.ofInt_eq_ofNat, ← Int32.ofNat_add]
        exact Int32.toInt_ofNat_of_lt (by omega)
      simp only [index, live.writeSlot element, copies, Functor.map, Except.map])
  rw [List.length_drop, Nat.add_zero] at filled
  simp only [sinceWrite, slot, distance, live.writeNum, UInt32.toInt32_ofNat',
    ← Int32.ofNat_sub _ _ inside, Int32.toUInt32_ofNat', countNat, newArray_natCast, filled,
    bind, Except.bind, pure, Except.pure]
  simp

/-- From slot `skip` of the read buffer on, when that is where `startIdx` lies. -/
theorem sinceRead_live (live : Live b previous current) (copies : ∀ p, copy p = p)
    (small : previous.length + current.length < 2 ^ 31) {first : Packet δ}
    (head : previous[0]? = some first) {startIdx : UInt32} {skip : Nat}
    (inside : skip ≤ previous.length)
    (distance : startIdx - first.packetIdx = UInt32.ofNat skip) :
    b.sinceRead copy startIdx = .ok ⟨.success, ((previous ++ current).drop skip).map some,
      UInt32.ofNat (previous.length + current.length - skip)⟩ := by
  have slot : b.readSlot 0 = .ok first := live.readSlot head
  have size : (Int32.ofNat previous.length - Int32.ofNat skip + Int32.ofNat current.length).toInt =
      ((previous.length - skip + current.length : Nat) : Int) := by
    rw [← Int32.ofNat_sub _ _ inside, ← Int32.ofNat_add]
    exact Int32.toInt_ofNat_of_lt (by omega)
  have count : UInt32.ofNat (previous.length + current.length) + first.packetIdx - startIdx =
      UInt32.ofNat (previous.length + current.length - skip) := by
    rw [UInt32.ofNat_sub (by omega), ← distance]
    grind
  have tail := copyTail_live live copies small skip inside
  simp only [sinceRead, slot, distance, live.readNum, live.writeNum, UInt32.toInt32_ofNat', size,
    newArray_natCast, tail, bind, Except.bind, pure, Except.pure]
  rw [← Int32.ofNat_add, Int32.toUInt32_ofNat', count, List.drop_append_of_le_length inside]

end Reading

end PacketBuffers

end OmmoSdk.Storage
