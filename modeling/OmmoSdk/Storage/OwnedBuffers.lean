/-
# Storage.OwnedBuffers — queries that make arrays, and what they refine

`Storage.PacketBuffers` answers a query with a list.  In the source the answer is an array
that the query creates and fills with copies, each of which may create arrays of its own.
The queries are modelled here a second time, in `ArrayM` and over the copy function, in the
words of the source.

The buffers are the same ones, over data that own arrays.  `PacketBuffers.map` is what can be
read in them.  The two levels are tied by `Answers`: where the plain query on what can be read
gives an answer, the query with arrays creates one array and copies exactly the packets of
that answer into it.  No property of the buffers is used, so it holds in every state a reader
can find them in.
-/
import OmmoSdk.Sdk.ConversionOwnership
import OmmoSdk.Storage.BaseStationData

namespace OmmoSdk.Storage

open OmmoSdk.Theory
open OmmoSdk.Sdk

set_option autoImplicit false

/-! ## What can be read -/

variable {δ γ : Type}

/-- A packet whose data are read through `f`. -/
def readPacket (f : δ → γ) (p : Packet δ) : Packet γ := ⟨p.packetIdx, f p.data⟩

theorem fetch_map {α β : Type} (f : α → β) (xs : List α) (i : Int) :
    fetch (xs.map f) i = f <$> fetch xs i := by
  unfold fetch
  split
  · rw [List.getElem?_map]
    cases xs[i.toNat]? <;> rfl
  · rfl

namespace PacketBuffers

/-- The buffers, with their data read through `f`. -/
def map (f : δ → γ) (b : PacketBuffers δ) : PacketBuffers γ where
  bufferSize := b.bufferSize
  packetReceivedNum := b.packetReceivedNum
  packetBuffer1 := b.packetBuffer1.map (readPacket f)
  packetBuffer2 := b.packetBuffer2.map (readPacket f)
  readBuffer := b.readBuffer
  writeBuffer := b.writeBuffer

section Map

variable (f : δ → γ) (b : PacketBuffers δ)

theorem slots_map (ptr : BufferPtr) : (b.map f).slots ptr = (b.slots ptr).map (readPacket f) := by
  cases ptr <;> rfl

theorem readSlot_map (i : Int) : (b.map f).readSlot i = readPacket f <$> b.readSlot i := by
  rw [readSlot, slots_map, fetch_map]
  rfl

theorem writeSlot_map (i : Int) : (b.map f).writeSlot i = readPacket f <$> b.writeSlot i := by
  rw [writeSlot, slots_map, fetch_map]
  rfl

theorem setSlots_map (xs : List (Packet δ)) (ptr : BufferPtr) :
    (b.setSlots xs ptr).map f = (b.map f).setSlots (xs.map (readPacket f)) ptr := by
  cases ptr <;> rfl

theorem filled_map (i : Nat) (data : δ) :
    (b.filled i data).map f = (b.map f).filled i (f data) := by
  rw [filled, filled, setSlots_map, List.map_set]
  cases h : b.writeBuffer.packetBufferPtr <;> simp only [map, slots, h] <;> rfl

theorem Layout.of_map {N : Nat} (layout : Layout N (b.map f)) : Layout N b where
  size := layout.size
  length1 := by
    rw [← layout.length1]
    exact (List.length_map _).symm
  length2 := by
    rw [← layout.length2]
    exact (List.length_map _).symm
  distinct := layout.distinct

/-- Every packet that can be read is one of a slot. -/
def Stores (p : Packet δ) : Prop := p ∈ b.packetBuffer1 ∨ p ∈ b.packetBuffer2

theorem stores_slots {ptr : BufferPtr} {p : Packet δ} (member : p ∈ b.slots ptr) : b.Stores p := by
  cases ptr with
  | packetBuffer1 => exact .inl member
  | packetBuffer2 => exact .inr member

end Map

end PacketBuffers

namespace Owned

open OmmoSdk.Sdk.Owned (ArrayPtr map_eq_of_forall₂)

/-! ## The queries -/

/-- `DataResponse` and `BaseStationDataResponse`: a packet that was not written is `none`. -/
structure Response (δ : Type) where
  state : DataResponseState := .noData
  packets : ArrayPtr (Option (Packet δ)) := .null
  packetCount : UInt32 := 0

section Loops

variable {α β : Type}

/-- `count` rounds of `dst[i] = copy(src[idx]); idx++; i++;` -/
def copyLoop (copy : α → ArrayM β) (src : Int → Except Fault α) :
    Nat → Int → Int → List (Option β) → ArrayM (List (Option β) × Int)
  | 0, _, i, dst => return (dst, i)
  | count + 1, idx, i, dst => do
      let x ← access (src idx)
      let y ← copy x
      let dst ← access (put dst i (some y))
      copyLoop copy src count (idx + 1) (i + 1) dst

/-- `for (; idx < bound; idx++) { dst[i] = copy(src[idx]); i++; }` -/
def copyRange (copy : α → ArrayM β) (src : Int → Except Fault α) (idx bound i : Int)
    (dst : List (Option β)) : ArrayM (List (Option β) × Int) :=
  copyLoop copy src (bound - idx).toNat idx i dst

/-- `new DevicePacket[n]` -/
def newPackets (n : Int) : ArrayM (ArrayId × List (Option β)) := do
  let packets ← access (newArray n)
  let id ← createArray
  return (id, packets)

end Loops

section Queries

variable (copy : Packet δ → ArrayM (Packet δ)) (b : PacketBuffers δ)

def copyTail (idx : Int32) (packets : List (Option (Packet δ))) :
    ArrayM (List (Option (Packet δ))) := do
  let (packets, i) ← copyRange copy (fun idx => b.readSlot idx)
    idx.toInt b.readBuffer.dataNum.toInt 0 packets
  let (packets, _) ← copyRange copy (fun idx => b.writeSlot idx)
    0 b.writeBuffer.dataNum.toInt i packets
  return packets

def copyBoth : ArrayM (Response δ) := do
  let writePacketNum := b.writeBuffer.dataNum
  let readPacketNum := b.readBuffer.dataNum
  let (id, packets) ← newPackets (readPacketNum + writePacketNum).toInt
  let packets ← copyTail copy b 0 packets
  return ⟨.partialData, .array id packets, (readPacketNum + writePacketNum).toUInt32⟩

def singleResponse (slot : Except Fault (Packet δ)) : ArrayM (Response δ) := do
  let (id, packets) ← newPackets 1
  let packet ← access slot
  let packet ← copy packet
  let packets ← access (put packets 0 (some packet))
  return ⟨.success, .array id packets, 1⟩

/-- `GetLatestData()` -/
def getLatestOne (fallback : PacketBuffers δ → Int → Except Fault (Packet δ)) :
    ArrayM (Response δ) :=
  let idx := b.writeBuffer.dataNum - 1
  if idx ≥ 0 then
    singleResponse copy (b.writeSlot idx.toInt)
  else
    let idx := b.readBuffer.dataNum - 1
    if idx ≥ 0 then
      singleResponse copy (fallback b idx.toInt)
    else
      return {}

/-- `GetLatestData(uint32_t request_count)` -/
def getLatestCount (requestCount : UInt32) : ArrayM (Response δ) :=
  let writePacketNum := b.writeBuffer.dataNum
  let readPacketNum := b.readBuffer.dataNum
  if requestCount > 0 then
    if requestCount ≤ writePacketNum.toUInt32 then do
      let startIdx := writePacketNum.toUInt32 - requestCount
      let (id, packets) ← newPackets requestCount.toNat
      let (packets, _) ← copyRange copy
        (fun i => b.writeSlot (startIdx + UInt32.ofInt i).toNat) 0 requestCount.toNat 0 packets
      return ⟨.success, .array id packets, requestCount⟩
    else if requestCount ≤ (readPacketNum + writePacketNum).toUInt32 then do
      let idx := ((readPacketNum + writePacketNum).toUInt32 - requestCount).toInt32
      let (id, packets) ← newPackets requestCount.toNat
      let packets ← copyTail copy b idx packets
      return ⟨.success, .array id packets, requestCount⟩
    else if readPacketNum + writePacketNum > 0 then
      copyBoth copy b
    else
      return {}
  else
    return {}

def sinceWrite (startIdx : UInt32) : ArrayM (Response δ) := do
  let first ← access (b.writeSlot 0)
  let idx := (startIdx - first.packetIdx).toInt32
  let packetCount := (b.writeBuffer.dataNum - idx).toUInt32
  let (id, packets) ← newPackets packetCount.toNat
  let (packets, _) ← copyRange copy (fun i => b.writeSlot (idx + Int32.ofInt i).toInt)
    0 packetCount.toNat 0 packets
  return ⟨.success, .array id packets, packetCount⟩

def sinceRead (startIdx : UInt32) : ArrayM (Response δ) := do
  let writePacketNum := b.writeBuffer.dataNum
  let readPacketNum := b.readBuffer.dataNum
  let first ← access (b.readSlot 0)
  let idx := (startIdx - first.packetIdx).toInt32
  let (id, packets) ← newPackets (readPacketNum - idx + writePacketNum).toInt
  let packets ← copyTail copy b idx packets
  return ⟨.success, .array id packets,
    (readPacketNum + writePacketNum).toUInt32 + first.packetIdx - startIdx⟩

def sinceReadBranches (startIdx : UInt32) : ArrayM (Response δ) := do
  let readPacketNum := b.readBuffer.dataNum
  if ← access (PacketBuffers.slotTest (readPacketNum > 0) (b.readSlot 0) (· ≤ startIdx)) then
    sinceRead copy b startIdx
  else do
    if ← access (PacketBuffers.slotTest (readPacketNum > 0) (b.readSlot 0) (· > startIdx)) then
      copyBoth copy b
    else
      return {}

/-- `DeviceDataStorage::GetDataSinceIndex` -/
def getDataSinceIndex (startIdx : UInt32) : ArrayM (Response δ) := do
  let writePacketNum := b.writeBuffer.dataNum
  let readPacketNum := b.readBuffer.dataNum
  if ← access (PacketBuffers.slotTest (writePacketNum > 0)
      (b.writeSlot (writePacketNum - 1).toInt) (· < startIdx)) then
    return {}
  else do
    if ← access (PacketBuffers.slotTest (writePacketNum > 0) (b.writeSlot 0) (· ≤ startIdx)) then
      sinceWrite copy b startIdx
    else do
      if ← access (PacketBuffers.slotTest (writePacketNum = 0 && readPacketNum > 0)
          (b.readSlot (readPacketNum - 1).toInt) (· < startIdx)) then
        return {}
      else
        sinceReadBranches copy b startIdx

end Queries

/-! ## The loops -/

section Refinement

variable {copy : Packet δ → ArrayM (Packet δ)} {f : δ → γ} {b : PacketBuffers δ}

/-- The array of an answer: copies of `xs`, and room that was not used. -/
def filling (copy : Packet δ → ArrayM (Packet δ)) (xs : List (Packet δ)) (room : Nat) :
    ArrayM (List (Option (Packet δ))) := do
  let ys ← xs.mapM copy
  return ys.map some ++ List.replicate room none

/-- The rounds of the loop one by one: what the plain loop reads is what is copied.  Before
position `i` both arrays are written, and from there on empty. -/
theorem copyLoop_refines (copy : Packet δ → ArrayM (Packet δ))
    {src : Int → Except Fault (Packet δ)} :
    ∀ (count room : Nat) (idx : Int) (before : List (Option (Packet γ)))
      (result : List (Option (Packet γ)) × Int),
      Theory.copyLoop (fun idx => readPacket f <$> src idx) count idx before.length
          (before ++ List.replicate room none) = .ok result →
      ∃ xs : List (Packet δ), xs.length = count ∧ (∀ x ∈ xs, ∃ i, src i = .ok x) ∧
        result = (before ++ (xs.map (readPacket f)).map some ++ List.replicate (room - count) none,
          ((before.length + count : Nat) : Int)) ∧
        ∀ written : List (Option (Packet δ)), written.length = before.length →
          copyLoop copy src count idx before.length (written ++ List.replicate room none) = do
            let ys ← xs.mapM copy
            return (written ++ ys.map some ++ List.replicate (room - count) none,
              ((before.length + count : Nat) : Int))
  | 0, room, idx, before, result, run => by
      cases run
      exact ⟨[], rfl, nofun, by simp, fun written _ => by simp [copyLoop]⟩
  | count + 1, room, idx, before, result, run => by
      rw [Theory.copyLoop] at run
      cases read : src idx with
      | error fault => simp [read, bind, Except.bind, Functor.map, Except.map] at run
      | ok x =>
          cases room with
          | zero =>
              -- there is no room for the packet
              simp [read, bind, Except.bind, Functor.map, Except.map, put] at run
          | succ room =>
              have put_next : ∀ {β : Type} (front : List (Option β)) (y : β),
                  front.length = before.length →
                  put (front ++ List.replicate (room + 1) none) (before.length : Int) (some y) =
                    .ok ((front ++ [some y]) ++ List.replicate room none) := by
                intro β front y same
                rw [← same, put_natCast _ _ _ (by simp)]
                simp [List.replicate_succ]
              simp only [read, bind, Except.bind, Functor.map, Except.map, put_next before _ rfl] at run
              have next : (before.length : Int) + 1 =
                  ((before ++ [some (readPacket f x)]).length : Int) := by simp
              rw [next] at run
              obtain ⟨xs, length, reads, rfl, copies⟩ := copyLoop_refines copy count room (idx + 1)
                (before ++ [some (readPacket f x)]) result run
              refine ⟨x :: xs, by rw [List.length_cons, length], ?_, ?_, ?_⟩
              · exact List.forall_mem_cons.mpr ⟨⟨idx, read⟩, reads⟩
              · simp [Nat.add_assoc, Nat.add_comm 1 count]
              · intro written same
                rw [copyLoop, read, access_ok, pure_bind, List.mapM_cons]
                simp only [bind_assoc, put_next written _ same, access_ok, pure_bind]
                refine congrArg _ (funext fun y => ?_)
                rw [next, copies (written ++ [some y]) (by simp [same])]
                refine congrArg _ (funext fun ys => ?_)
                simp [Nat.add_assoc, Nat.add_comm 1 count]

/-- A loop into a fresh array. -/
theorem copyRange_refines (copy : Packet δ → ArrayM (Packet δ))
    {src : Int → Except Fault (Packet δ)} {room : Nat} {idx bound : Int}
    {result : List (Option (Packet γ)) × Int}
    (run : Theory.copyRange (fun idx => readPacket f <$> src idx) idx bound 0
      (List.replicate room none) = .ok result) :
    ∃ (xs : List (Packet δ)) (rest : Nat), (∀ x ∈ xs, ∃ i, src i = .ok x) ∧
      result = ((xs.map (readPacket f)).map some ++ List.replicate rest none,
        (xs.length : Int)) ∧
      copyRange copy src idx bound 0 (List.replicate room none) = do
        let packets ← filling copy xs rest
        return (packets, (xs.length : Int)) := by
  obtain ⟨xs, length, reads, rfl, copies⟩ := copyLoop_refines copy _ _ _ [] result run
  have made := copies [] rfl
  simp only [List.nil_append, List.length_nil, Nat.zero_add, Nat.cast_zero, ← length] at made
  refine ⟨xs, room - (bound - idx).toNat, reads, ?_, ?_⟩
  · simp only [List.nil_append, List.length_nil, Nat.zero_add, length]
  · rw [copyRange, ← length, made, filling, bind_assoc]
    simp only [pure_bind]

/-- What a loop returns has the length of what it ran over. -/
theorem mapM_bind_congr {α β κ : Type} {g : α → ArrayM β} {F G : List β → ArrayM κ} :
    ∀ {xs : List α}, (∀ ys, ys.length = xs.length → F ys = G ys) →
      (xs.mapM g >>= F) = xs.mapM g >>= G
  | [], same => by rw [List.mapM_nil, pure_bind, pure_bind, same [] rfl]
  | x :: xs, same => by
      rw [List.mapM_cons]
      simp only [bind_assoc, pure_bind]
      refine congrArg _ (funext fun y => mapM_bind_congr fun ys length => ?_)
      exact same (y :: ys) (congrArg (· + 1) length)

/-- Two loops, one after the other, into a fresh array. -/
theorem copyTail_refines (copy : Packet δ → ArrayM (Packet δ)) {copies : Packet γ → Packet γ}
    (faithful : ∀ p, copies p = p)
    {idx : Int32} {room : Nat} {packets : List (Option (Packet γ))}
    (run : (b.map f).copyTail copies idx (List.replicate room none) = .ok packets) :
    ∃ (xs : List (Packet δ)) (rest : Nat), (∀ x ∈ xs, b.Stores x) ∧
      packets = (xs.map (readPacket f)).map some ++ List.replicate rest none ∧
      copyTail copy b idx (List.replicate room none) = filling copy xs rest := by
  have readEq : (fun i => copies <$> (b.map f).readSlot i) =
      fun i => readPacket f <$> b.readSlot i :=
    funext fun i => by rw [PacketBuffers.readSlot_map, funext faithful]; exact id_map _
  have writeEq : (fun i => copies <$> (b.map f).writeSlot i) =
      fun i => readPacket f <$> b.writeSlot i :=
    funext fun i => by rw [PacketBuffers.writeSlot_map, funext faithful]; exact id_map _
  rw [PacketBuffers.copyTail, readEq, writeEq] at run
  cases first : Theory.copyRange (fun i => readPacket f <$> b.readSlot i) idx.toInt
      (b.map f).readBuffer.dataNum.toInt 0 (List.replicate room none) with
  | error fault => simp [first, bind, Except.bind] at run
  | ok result =>
      obtain ⟨xs, rest, reads, rfl, made⟩ := copyRange_refines copy first
      simp only [first, bind, Except.bind] at run
      have front : (xs.length : Int) = (((xs.map (readPacket f)).map some).length : Int) := by
        rw [List.length_map, List.length_map]
      rw [front, Theory.copyRange] at run
      cases second : Theory.copyLoop (fun i => readPacket f <$> b.writeSlot i)
          ((b.map f).writeBuffer.dataNum.toInt - 0).toNat 0 ((xs.map (readPacket f)).map some).length
          ((xs.map (readPacket f)).map some ++ List.replicate rest none) with
      | error fault =>
          rw [second] at run
          cases run
      | ok result' =>
          obtain ⟨zs, length, reads', rfl, made'⟩ :=
            copyLoop_refines copy _ _ _ _ result' second
          rw [second] at run
          cases run
          refine ⟨xs ++ zs, rest - zs.length, ?_, ?_, ?_⟩
          · intro x member
            rcases List.mem_append.mp member with old | new
            · obtain ⟨i, read⟩ := reads x old
              exact b.stores_slots (mem_of_fetch read)
            · obtain ⟨i, read⟩ := reads' x new
              exact b.stores_slots (mem_of_fetch read)
          · rw [length, List.map_append, List.map_append]
          · have rounds : ∀ ys : List (Packet δ), ys.length = xs.length →
                copyRange copy (fun i => b.writeSlot i) 0 b.writeBuffer.dataNum.toInt xs.length
                  (ys.map some ++ List.replicate rest none) = do
                    let ws ← zs.mapM copy
                    return (ys.map some ++ ws.map some ++ List.replicate (rest - zs.length) none,
                      (((xs.map (readPacket f)).map some).length + zs.length : Nat)) := by
              intro ys same
              rw [copyRange, front, length]
              exact made' (ys.map some) (by simp [same])
            rw [copyTail, show (b.map f).readBuffer = b.readBuffer from rfl] at *
            rw [made, filling, filling, List.mapM_append]
            simp only [bind_assoc, pure_bind]
            refine mapM_bind_congr fun ys same => ?_
            rw [rounds ys same]
            simp only [bind_assoc, pure_bind, List.map_append]

/-! ## The queries refine the plain ones -/

/-- Where the plain query answers, this one makes the array of that answer and fills it with
copies of its packets, or there is no answer at either level. -/
def Answers (copy : Packet δ → ArrayM (Packet δ)) (f : δ → γ) (b : PacketBuffers δ)
    (query : ArrayM (Response δ)) (plain : Except Fault (DataResponse γ)) : Prop :=
  ∀ r, plain = .ok r →
    (r = PacketBuffers.emptyResponse ∧ query = pure {}) ∨
    ∃ (xs : List (Packet δ)) (rest : Nat), (∀ x ∈ xs, b.Stores x) ∧
      r.packets = (xs.map (readPacket f)).map some ++ List.replicate rest none ∧
      query = do
        let id ← createArray
        let packets ← filling copy xs rest
        return ⟨r.state, .array id packets, r.packetCount⟩

theorem answers_empty : Answers copy f b (pure {}) (.ok PacketBuffers.emptyResponse) :=
  fun _ run => .inl ⟨(Except.ok.inj run).symm, rfl⟩

theorem newPackets_eq {β : Type} {n : Int} (enough : 0 ≤ n) :
    newPackets (β := β) n = do
      let id ← createArray
      return (id, List.replicate n.toNat none) := by
  rw [newPackets, newArray, if_neg (not_lt.mpr enough), access_ok, pure_bind]

theorem newArray_ok {α : Type} {n : Int} {xs : List (Option α)} (run : newArray n = .ok xs) :
    0 ≤ n ∧ xs = List.replicate n.toNat none := by
  unfold newArray at run
  split at run
  · cases run
  · rename_i enough
    cases run
    exact ⟨not_lt.mp enough, rfl⟩

/-- A test of a slot reads its index, which is the same at both levels. -/
theorem slotTest_map (guard : Bool) (slot : Except Fault (Packet δ)) (test : UInt32 → Bool) :
    PacketBuffers.slotTest guard (readPacket f <$> slot) test =
      PacketBuffers.slotTest guard slot test := by
  cases slot <;> rfl

/-- Both levels take the same branch. -/
theorem answers_if {guard : Bool} {slot : Except Fault (Packet δ)} {test : UInt32 → Bool}
    {query query' : ArrayM (Response δ)} {plain plain' : Except Fault (DataResponse γ)}
    (first : Answers copy f b query plain) (second : Answers copy f b query' plain') :
    Answers copy f b
      (do if ← access (PacketBuffers.slotTest guard slot test) then query else query')
      (do if ← PacketBuffers.slotTest guard (readPacket f <$> slot) test then plain
          else plain') := by
  intro r run
  rw [slotTest_map] at run
  cases tested : PacketBuffers.slotTest guard slot test with
  | error fault =>
      rw [tested] at run
      cases run
  | ok taken =>
      rw [tested] at run
      rw [access_ok, pure_bind]
      cases taken with
      | true => exact first r run
      | false => exact second r run

theorem writeSlot_stores {i : Int} {x : Packet δ} (read : b.writeSlot i = .ok x) : b.Stores x :=
  b.stores_slots (mem_of_fetch read)

theorem readSlot_stores {i : Int} {x : Packet δ} (read : b.readSlot i = .ok x) : b.Stores x :=
  b.stores_slots (mem_of_fetch read)

section Queries

variable {copies : Packet γ → Packet γ} (faithful : ∀ p, copies p = p)

include faithful

theorem slot_eq {slot : Except Fault (Packet δ)} {slot' : Except Fault (Packet γ)}
    (same : slot' = readPacket f <$> slot) : copies <$> slot' = readPacket f <$> slot := by
  rw [same, funext faithful]
  exact id_map _

/-- One loop into a new array. -/
theorem answers_copyRange {src : Int → Except Fault (Packet δ)}
    {src' : Int → Except Fault (Packet γ)} (reads : ∀ i, src' i = readPacket f <$> src i)
    (stored : ∀ i x, src i = .ok x → b.Stores x) (idx bound : Int) (size : Int)
    (state : DataResponseState) (count : UInt32) :
    Answers copy f b
      (do
        let (id, packets) ← newPackets size
        let (packets, _) ← copyRange copy src idx bound 0 packets
        return ⟨state, .array id packets, count⟩)
      (do
        let packets ← newArray size
        let (packets, _) ← Theory.copyRange (fun i => copies <$> src' i) idx bound 0 packets
        return ⟨state, packets, count⟩) := by
  intro r run
  rw [show (fun i => copies <$> src' i) = fun i => readPacket f <$> src i from
    funext fun i => slot_eq faithful (reads i)] at run
  cases made : newArray (α := Packet γ) size with
  | error fault =>
      rw [made] at run
      cases run
  | ok packets =>
      obtain ⟨enough, rfl⟩ := newArray_ok made
      simp only [made, bind, Except.bind] at run
      cases looped : Theory.copyRange (fun i => readPacket f <$> src i) idx bound 0
          (List.replicate size.toNat none) with
      | error fault =>
          rw [looped] at run
          cases run
      | ok result =>
          obtain ⟨xs, rest, found, rfl, copied⟩ := copyRange_refines copy looped
          rw [looped] at run
          cases run
          refine .inr ⟨xs, rest, fun x member => ?_, rfl, ?_⟩
          · obtain ⟨i, read⟩ := found x member
            exact stored i x read
          · rw [newPackets_eq enough]
            simp only [bind_assoc, pure_bind, copied]

/-- Both buffers into a new array. -/
theorem answers_copyTail (idx : Int32) (size : Int) (state : DataResponseState)
    (count : UInt32) :
    Answers copy f b
      (do
        let (id, packets) ← newPackets size
        let packets ← copyTail copy b idx packets
        return ⟨state, .array id packets, count⟩)
      (do
        let packets ← newArray size
        let packets ← (b.map f).copyTail copies idx packets
        return ⟨state, packets, count⟩) := by
  intro r run
  cases made : newArray (α := Packet γ) size with
  | error fault =>
      rw [made] at run
      cases run
  | ok packets =>
      obtain ⟨enough, rfl⟩ := newArray_ok made
      simp only [made, bind, Except.bind] at run
      cases looped : (b.map f).copyTail copies idx (List.replicate size.toNat none) with
      | error fault =>
          rw [looped] at run
          cases run
      | ok packets =>
          obtain ⟨xs, rest, found, rfl, copied⟩ := copyTail_refines copy faithful looped
          rw [looped] at run
          cases run
          refine .inr ⟨xs, rest, found, rfl, ?_⟩
          rw [newPackets_eq enough]
          simp only [bind_assoc, pure_bind, copied]

theorem answers_copyBoth : Answers copy f b (copyBoth copy b) ((b.map f).copyBoth copies) :=
  answers_copyTail faithful _ _ _ _

theorem getLatestCount_refines (requestCount : UInt32) :
    Answers copy f b (getLatestCount copy b requestCount)
      ((b.map f).getLatestCount copies requestCount) := by
  unfold getLatestCount PacketBuffers.getLatestCount
  simp only [show (b.map f).writeBuffer = b.writeBuffer from rfl,
    show (b.map f).readBuffer = b.readBuffer from rfl]
  split
  · split
    · exact answers_copyRange faithful (fun _ => b.writeSlot_map f _)
        (fun _ _ read => writeSlot_stores read) _ _ _ _ _
    · split
      · exact answers_copyTail faithful _ _ _ _
      · split
        · exact answers_copyBoth faithful
        · exact answers_empty
  · exact answers_empty

theorem sinceWrite_refines (startIdx : UInt32) :
    Answers copy f b (sinceWrite copy b startIdx) ((b.map f).sinceWrite copies startIdx) := by
  intro r run
  rw [PacketBuffers.sinceWrite, b.writeSlot_map] at run
  cases read : b.writeSlot 0 with
  | error fault =>
      rw [read] at run
      cases run
  | ok first =>
      rw [read] at run
      rw [sinceWrite, read, access_ok, pure_bind]
      exact answers_copyRange faithful (fun _ => b.writeSlot_map f _)
        (fun _ _ read => writeSlot_stores read) _ _ _ _ _ r run

theorem sinceRead_refines (startIdx : UInt32) :
    Answers copy f b (sinceRead copy b startIdx) ((b.map f).sinceRead copies startIdx) := by
  intro r run
  rw [PacketBuffers.sinceRead, b.readSlot_map] at run
  cases read : b.readSlot 0 with
  | error fault =>
      rw [read] at run
      cases run
  | ok first =>
      rw [read] at run
      rw [sinceRead, read, access_ok, pure_bind]
      exact answers_copyTail faithful _ _ _ _ r run

theorem sinceReadBranches_refines (startIdx : UInt32) :
    Answers copy f b (sinceReadBranches copy b startIdx)
      ((b.map f).sinceReadBranches copies startIdx) := by
  rw [PacketBuffers.sinceReadBranches, b.readSlot_map]
  exact answers_if (sinceRead_refines faithful startIdx)
    (answers_if (answers_copyBoth faithful) answers_empty)

/-- One packet into a new array. -/
theorem singleResponse_refines {slot : Except Fault (Packet δ)}
    {slot' : Except Fault (Packet γ)} (reads : slot' = readPacket f <$> slot)
    (stored : ∀ x, slot = .ok x → b.Stores x) :
    Answers copy f b (singleResponse copy slot)
      (PacketBuffers.singleResponse (copies <$> slot')) := by
  intro r run
  rw [slot_eq faithful reads] at run
  cases read : slot with
  | error fault =>
      rw [read] at run
      cases run
  | ok x =>
      rw [read] at run
      cases run
      refine .inr ⟨[x], 0, fun y member => ?_, rfl, ?_⟩
      · rw [List.mem_singleton.mp member]
        exact stored x read
      · have written : ∀ y : Packet δ,
            put (List.replicate (1 : Int).toNat none) 0 (some y) = .ok [some y] := fun _ => rfl
        rw [singleResponse, newPackets_eq (by decide)]
        simp only [bind_assoc, pure_bind, access_ok, written, filling, List.mapM_cons,
          List.mapM_nil]
        rfl

theorem getLatestOne_refines {fallback : PacketBuffers δ → Int → Except Fault (Packet δ)}
    {fallback' : PacketBuffers γ → Int → Except Fault (Packet γ)}
    (reads : ∀ i, fallback' (b.map f) i = readPacket f <$> fallback b i)
    (stored : ∀ i x, fallback b i = .ok x → b.Stores x) :
    Answers copy f b (getLatestOne copy b fallback)
      ((b.map f).getLatestOne copies fallback') := by
  unfold getLatestOne PacketBuffers.getLatestOne
  simp only [show (b.map f).writeBuffer = b.writeBuffer from rfl,
    show (b.map f).readBuffer = b.readBuffer from rfl]
  split
  · exact singleResponse_refines faithful (b.writeSlot_map f _) fun _ read =>
      writeSlot_stores read
  · split
    · exact singleResponse_refines faithful (reads _) (stored _)
    · exact answers_empty

end Queries

/-- The query by index of a device, whose data are read as `TrackingDeviceData`. -/
theorem getDataSinceIndex_refines {f : δ → TrackingDeviceData} (device : DeviceDescriptor)
    (startIdx : UInt32) :
    Answers copy f b (getDataSinceIndex copy b startIdx)
      (DeviceDataStorage.getDataSinceIndex ⟨device, b.map f⟩ startIdx) := by
  rw [DeviceDataStorage.getDataSinceIndex]
  simp only [show (b.map f).writeBuffer = b.writeBuffer from rfl,
    show (b.map f).readBuffer = b.readBuffer from rfl, PacketBuffers.writeSlot_map,
    PacketBuffers.readSlot_map]
  exact answers_if answers_empty (answers_if (sinceWrite_refines copyDevicePacket_eq startIdx)
    (answers_if answers_empty (sinceReadBranches_refines copyDevicePacket_eq startIdx)))

/-! ## What an answer owns -/

namespace Response

/-- What a user reads in an answer. -/
def contents (f : δ → γ) (response : Response δ) : DataResponse γ where
  state := response.state
  packets := response.packets.elements.map (Option.map (readPacket f))
  packetCount := response.packetCount

/-- The array of the packets, and the arrays of each. -/
def owned (packetOwned : Packet δ → List ArrayId) (response : Response δ) : List ArrayId :=
  response.packets.id?.toList ++
    response.packets.elements.flatMap fun slot => (slot.map packetOwned).getD []

/-- Every packet was written, and they are counted. -/
def Complete (response : Response δ) : Prop :=
  none ∉ response.packets.elements ∧
    response.packetCount.toNat = response.packets.elements.length

end Response

/-- An answer of the plain store in which every packet was written and counted. -/
def CompleteAnswer (answer : Except Fault (DataResponse γ)) : Prop :=
  ∃ response, answer = .ok response ∧ none ∉ response.packets ∧
    response.packetCount.toNat = response.packets.length

theorem filling_allocates {owned : Packet δ → List ArrayId} {good : Packet δ → Prop}
    {xs : List (Packet δ)}
    (each : ∀ x ∈ xs, Allocates (copy x) owned fun y => readPacket f y = readPacket f x ∧ good y) :
    Allocates (filling copy xs 0)
      (fun packets => packets.flatMap fun slot => (slot.map owned).getD [])
      fun packets => packets.map (Option.map (readPacket f)) = (xs.map (readPacket f)).map some ∧
        none ∉ packets ∧ ∀ y, some y ∈ packets → good y := by
  refine .map (.mapM each) (fun ys => ?_) fun ys copied => ?_
  · rw [List.replicate_zero, List.append_nil, List.flatMap_map]
    rfl
  · obtain ⟨same, held⟩ := map_eq_of_forall₂ copied
    rw [List.replicate_zero, List.append_nil, ← same]
    refine ⟨by simp [Function.comp_def], by simp, fun y member => ?_⟩
    obtain ⟨z, found, same'⟩ := List.mem_map.mp member
    cases same'
    exact held y found

/-- **The spec of a query**: it creates what its answer owns, and the answer is read as the plain
one. -/
theorem Answers.allocates {query : ArrayM (Response δ)} {plain : Except Fault (DataResponse γ)}
    {owned : Packet δ → List ArrayId} {good : Packet δ → Prop}
    (answers : Answers copy f b query plain) (complete : CompleteAnswer plain)
    (each : ∀ x, b.Stores x →
      Allocates (copy x) owned fun y => readPacket f y = readPacket f x ∧ good y) :
    Allocates query (Response.owned owned) fun response =>
      plain = .ok (response.contents f) ∧ response.Complete ∧
        ∀ y, some y ∈ response.packets.elements → good y := by
  obtain ⟨r, run, written, count⟩ := complete
  rcases answers r run with ⟨rfl, empty⟩ | ⟨xs, rest, stored, packets, made⟩
  · rw [empty]
    exact .pure rfl ⟨run, ⟨List.not_mem_nil, rfl⟩, nofun⟩
  · obtain rfl : rest = 0 := by
      by_contra some
      rw [packets] at written
      exact written (List.mem_append_right _ (List.mem_replicate.mpr ⟨some, rfl⟩))
    rw [List.replicate_zero, List.append_nil] at packets
    rw [made]
    refine .bind (fun response => response.packets.elements.flatMap fun slot =>
      (slot.map owned).getD []) .createArray fun id _ => ?_
    refine .map (filling_allocates fun x member => each x (stored x member)) (fun _ => rfl)
      fun filled copied => ⟨rfl, ?_, ⟨copied.2.1, ?_⟩, copied.2.2⟩
    · rw [run, Response.contents]
      simp only [ArrayPtr.elements, copied.1, ← packets]
    · show r.packetCount.toNat = filled.length
      rw [count, packets, ← copied.1, List.length_map]

end Refinement

end Owned

end OmmoSdk.Storage
