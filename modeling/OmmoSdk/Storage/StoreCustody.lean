/-
# Storage.StoreCustody — `DeviceDataStorage` with its memory

The store keeps its packets in two arrays, and each packet owns arrays of its own.  A push
destroys the members of the slot it is about to fill and takes the arrays of the converted
message over; a query makes an answer that its user has to destroy; the destructor visits
every slot.  Here all of it runs in `ArrayM`, in the words of the source.

An `OwnedSession` is a store and the answers that are not destroyed yet, and an `Operation` is a
call of `PushData`, of one of the three queries, or of `DestroyDataResponse`.
`OwnedSession.run_refines` ties every run to the same run of `Storage.DeviceData`, answer by
answer, and says that the arrays in memory are those of the store and of the answers.  With
the destructor at the end a whole lifetime leaves nothing behind (`OwnedSession.lifetime_balanced`).
-/
import OmmoSdk.Theory.Custody
import OmmoSdk.Storage.OwnedBuffers
import OmmoSdk.Storage.SinceAccesses

namespace OmmoSdk.Storage

open OmmoSdk.Theory
open OmmoSdk.Sdk hiding DeviceDescriptor TrackingDeviceData DevicePacket copyDeviceDescriptor
  copyDevicePacket protoToTrackingDeviceData

set_option autoImplicit false

/-! ## The plain store -/

/-- A store and the answers its users hold. -/
structure Session (σ ρ : Type) where
  store : σ
  answers : List ρ := []

inductive Operation where
  | pushData (packet : Proto.TrackingDeviceData)
  | getLatestData
  | getLatestDataCount (requestCount : UInt32)
  | getDataSinceIndex (startIdx : UInt32)
  | destroyDataResponse (i : Nat)

abbrev PlainSession := Session DeviceDataStorage (DataResponse Sdk.TrackingDeviceData)

namespace PlainSession

/-- The same operations where nothing owns anything. -/
def step (s : PlainSession) : Operation → Except Fault PlainSession
  | .pushData packet => do
      let (_, store) ← s.store.pushData packet
      return { s with store }
  | .getLatestData => do
      let answer ← s.store.getLatestData
      return { s with answers := s.answers ++ [answer] }
  | .getLatestDataCount requestCount => do
      let answer ← s.store.getLatestDataCount requestCount
      return { s with answers := s.answers ++ [answer] }
  | .getDataSinceIndex startIdx => do
      let answer ← s.store.getDataSinceIndex startIdx
      return { s with answers := s.answers ++ [answer] }
  | .destroyDataResponse i => return { s with answers := s.answers.eraseIdx i }

def run (device : Sdk.DeviceDescriptor) (bufferSize : UInt32) (operations : List Operation) :
    Except Fault PlainSession :=
  operations.foldlM step { store := DeviceDataStorage.init device bufferSize }

end PlainSession

namespace Owned

open OmmoSdk.Sdk.Owned
open PacketBuffers (Represents Live)

/-! ## The store in memory -/

structure DeviceDataStorage where
  device : DeviceDescriptor
  /-- the two arrays that `buffers` has the packets of -/
  packetBuffer1 : ArrayId
  packetBuffer2 : ArrayId
  buffers : PacketBuffers TrackingDeviceData

/-- A packet of a buffer, as `sdk_types.h` declares it. -/
def devicePacket (p : Packet TrackingDeviceData) : DevicePacket := ⟨p.packetIdx, p.data⟩

def bufferPacket (p : DevicePacket) : Packet TrackingDeviceData := ⟨p.packetIdx, p.deviceData⟩

/-- `CopyDevicePacket` of a slot -/
def copySlot (p : Packet TrackingDeviceData) : ArrayM (Packet TrackingDeviceData) := do
  let copy ← copyDevicePacket (devicePacket p)
  return bufferPacket copy

namespace DeviceDataStorage

/-- The constructor.  Both arrays are filled with empty packets in one loop over an `int`. -/
def create (device : DeviceDescriptor) (bufferSize : UInt32) : ArrayM DeviceDataStorage := do
  let device ← copyDeviceDescriptor device
  let packetBuffer1 ← createArray
  let packetBuffer2 ← createArray
  let slots ← forIndex intMax bufferSize.toNat fun _ => pure ⟨0, {}⟩
  return {
    device
    packetBuffer1
    packetBuffer2
    buffers := {
      bufferSize
      packetReceivedNum := 0
      packetBuffer1 := slots
      packetBuffer2 := slots
      readBuffer := ⟨0, .packetBuffer1⟩
      writeBuffer := ⟨0, .packetBuffer2⟩ } }

/-- The destructor, and then that of `device_`. -/
def destroy (s : DeviceDataStorage) : ArrayM Unit := do
  let _ ← forIndex intMax s.buffers.bufferSize.toNat fun i => do
    let packet ← readElement s.buffers.packetBuffer1 i
    let _ ← destroyDevicePacketMembers (devicePacket packet)
    let packet ← readElement s.buffers.packetBuffer2 i
    let _ ← destroyDevicePacketMembers (devicePacket packet)
    return
  deleteArray (some s.packetBuffer1)
  deleteArray (some s.packetBuffer2)
  destroyDeviceDescriptor (some s.device)

/-- `DestroyDevicePacketMembers(write_buffer_.packet_buffer_ptr[i])` -/
def destroySlot (b : PacketBuffers TrackingDeviceData) (i : Int32) :
    ArrayM (PacketBuffers TrackingDeviceData) := do
  let ptr := b.writeBuffer.packetBufferPtr
  let packet ← access (fetch (b.slots ptr) i.toInt)
  let destroyed ← destroyDevicePacketMembers (devicePacket packet)
  let slots ← access (put (b.slots ptr) i.toInt (bufferPacket destroyed))
  return b.setSlots slots ptr

/-- Slot `i` of the write buffer gives up its packet for the next one. -/
def fillSlot (b : PacketBuffers TrackingDeviceData) (i : Int32)
    (packet : Proto.TrackingDeviceData) : ArrayM (PacketBuffers TrackingDeviceData) := do
  let b ← destroySlot b i
  let data ← protoToTrackingDeviceData packet
  access (b.fillSlot i i data)

def pushData (s : DeviceDataStorage) (packet : Proto.TrackingDeviceData) :
    ArrayM (Bool × DeviceDataStorage) :=
  if packet.siuUuid ≠ s.device.siuUuid ∨ packet.portId ≠ s.device.portId then
    return (false, s)
  else
    let writeIdx := s.buffers.writeBuffer.dataNum
    if writeIdx.toUInt32 < s.buffers.bufferSize then do
      let filled ← fillSlot s.buffers writeIdx packet
      let counted := filled.countPacket
      if counted.writeBuffer.dataNum.toUInt32 = counted.bufferSize then
        return (true, { s with buffers := counted.switchBufferPointer.setWriteNum 0 })
      else
        return (true, { s with buffers := counted })
    else do
      let filled ← fillSlot s.buffers.switchBufferPointer 0 packet
      return (true, { s with buffers := filled.setWriteNum 1 })

def getLatestData (s : DeviceDataStorage) : ArrayM (Response TrackingDeviceData) :=
  getLatestOne copySlot s.buffers PacketBuffers.readSlot

def getLatestDataCount (s : DeviceDataStorage) (requestCount : UInt32) :
    ArrayM (Response TrackingDeviceData) :=
  getLatestCount copySlot s.buffers requestCount

def getDataSinceIndex (s : DeviceDataStorage) (startIdx : UInt32) :
    ArrayM (Response TrackingDeviceData) :=
  Owned.getDataSinceIndex copySlot s.buffers startIdx

end DeviceDataStorage

/-- The members of a packet of an answer.  A packet that was not written has none to destroy. -/
def destroyPacket : Option (Packet TrackingDeviceData) → ArrayM DevicePacket
  | none => throw .notLive
  | some p => destroyDevicePacketMembers (devicePacket p)

def destroyDataResponse : Option (Response TrackingDeviceData) → ArrayM Unit
  | none => return
  | some response => do
      let _ ← forIndex uint32Max response.packetCount.toNat fun i =>
        readElement response.packets.elements i >>= destroyPacket
      deleteArray response.packets.id?

abbrev OwnedSession := Session DeviceDataStorage (Response TrackingDeviceData)

namespace OwnedSession

def step (s : OwnedSession) : Operation → ArrayM OwnedSession
  | .pushData packet => do
      let (_, store) ← s.store.pushData packet
      return { s with store }
  | .getLatestData => do
      let answer ← s.store.getLatestData
      return { s with answers := s.answers ++ [answer] }
  | .getLatestDataCount requestCount => do
      let answer ← s.store.getLatestDataCount requestCount
      return { s with answers := s.answers ++ [answer] }
  | .getDataSinceIndex startIdx => do
      let answer ← s.store.getDataSinceIndex startIdx
      return { s with answers := s.answers ++ [answer] }
  | .destroyDataResponse i => do
      destroyDataResponse s.answers[i]?
      return { s with answers := s.answers.eraseIdx i }

/-- A new store, and what is done with it. -/
def run (device : DeviceDescriptor) (bufferSize : UInt32) (operations : List Operation) :
    ArrayM OwnedSession := do
  let store ← DeviceDataStorage.create device bufferSize
  operations.foldlM step { store }

/-- The store goes, and then the answers that its users still hold. -/
def close (s : OwnedSession) : ArrayM Unit := do
  s.store.destroy
  let _ ← s.answers.mapM fun answer => destroyDataResponse (some answer)
  return

end OwnedSession

/-! ## What a user reads, and what is owned -/

/-- The arrays of a packet. -/
def packetOwned (p : Packet TrackingDeviceData) : List ArrayId := p.data.owned

def slotsOwned (slots : List (Packet TrackingDeviceData)) : Multiset ArrayId :=
  (slots.map fun p => (packetOwned p : Multiset ArrayId)).sum

/-- The arrays of all packets in both buffers, counted or stale. -/
def buffersOwned (b : PacketBuffers TrackingDeviceData) : Multiset ArrayId :=
  slotsOwned b.packetBuffer1 + slotsOwned b.packetBuffer2

def responseOwned (response : Response TrackingDeviceData) : Multiset ArrayId :=
  (response.owned packetOwned : Multiset ArrayId)

namespace DeviceDataStorage

def contents (s : DeviceDataStorage) : Storage.DeviceDataStorage where
  device := s.device.contents
  buffers := s.buffers.map TrackingDeviceData.contents

def owned (s : DeviceDataStorage) : Multiset ArrayId :=
  (s.device.owned : Multiset ArrayId) + {s.packetBuffer1} + {s.packetBuffer2} +
    buffersOwned s.buffers

end DeviceDataStorage

namespace OwnedSession

def contents (s : OwnedSession) : PlainSession where
  store := s.store.contents
  answers := s.answers.map (Response.contents TrackingDeviceData.contents)

def owned (s : OwnedSession) : Multiset ArrayId :=
  s.store.owned + (s.answers.map responseOwned).sum

end OwnedSession

/-! ## Slots -/

section Slots

variable {kept : Multiset ArrayId}

theorem destroyElements_exchanges {α : Type} (xs : Counted α) :
    Exchanges (destroyElements xs) ((xs.ids : Multiset ArrayId) + kept) (fun _ => kept)
      (· = {}) :=
  .map (.ofReleases (.deleteArray _)) (fun _ _ => rfl) fun _ _ => rfl

/-- A packet without its arrays. -/
def emptied (p : DevicePacket) : DevicePacket :=
  { p with deviceData := { p.deviceData with
      rawSensorData := {}, poses := {}, buttons := {}, latencyTimestamps := {} } }

theorem destroyDevicePacketMembers_exchanges (p : DevicePacket) :
    Exchanges (destroyDevicePacketMembers p) ((p.owned : Multiset ArrayId) + kept)
      (fun _ => kept) (· = emptied p) := by
  have split : (p.owned : Multiset ArrayId) = (p.deviceData.rawSensorData.ids : Multiset ArrayId) +
      (p.deviceData.poses.ids + (p.deviceData.buttons.ids + p.deviceData.latencyTimestamps.ids)) := by
    simp only [DevicePacket.owned, TrackingDeviceData.owned, ← Multiset.coe_add, add_assoc]
  rw [split, add_assoc, add_assoc, add_assoc]
  refine .map (P := (· = (emptied p).deviceData)) ?_ (fun _ _ => rfl) fun v cleared => ?_
  · refine .bind (destroyElements_exchanges _) fun raw clearedRaw => ?_
    refine .bind (destroyElements_exchanges _) fun poses clearedPoses => ?_
    refine .bind (destroyElements_exchanges _) fun buttons clearedButtons => ?_
    refine .map (destroyElements_exchanges _) (fun _ _ => rfl) fun latency clearedLatency => ?_
    rw [clearedRaw, clearedPoses, clearedButtons, clearedLatency]
    rfl
  · rw [cleared]
    rfl

theorem slotsOwned_set {slots : List (Packet TrackingDeviceData)} {i : Nat}
    {p : Packet TrackingDeviceData} (found : slots[i]? = some p) :
    ∃ rest, slotsOwned slots = (packetOwned p : Multiset ArrayId) + rest ∧
      ∀ q, slotsOwned (slots.set i q) = (packetOwned q : Multiset ArrayId) + rest :=
  sum_map_set _ found

theorem buffersOwned_set (b : PacketBuffers TrackingDeviceData) (ptr : BufferPtr) {i : Nat}
    {p : Packet TrackingDeviceData} (found : (b.slots ptr)[i]? = some p) :
    ∃ rest, buffersOwned b = (packetOwned p : Multiset ArrayId) + rest ∧
      ∀ q, buffersOwned (b.setSlots ((b.slots ptr).set i q) ptr) =
        (packetOwned q : Multiset ArrayId) + rest := by
  obtain ⟨rest, whole, changed⟩ := slotsOwned_set found
  cases ptr with
  | packetBuffer1 =>
      refine ⟨rest + slotsOwned b.packetBuffer2, ?_, fun q => ?_⟩
      · rw [← add_assoc, ← whole]
        rfl
      · rw [← add_assoc, ← changed]
        rfl
  | packetBuffer2 =>
      refine ⟨rest + slotsOwned b.packetBuffer1, ?_, fun q => ?_⟩
      · rw [← add_assoc, ← whole, add_comm]
        rfl
      · rw [← add_assoc, ← changed, add_comm]
        rfl

variable {N : Nat} {b : PacketBuffers TrackingDeviceData}

/-- What a slot held before makes no difference to the packet that fills it. -/
theorem filled_setSlots (i : Nat) (p : Packet TrackingDeviceData) (data : TrackingDeviceData) :
    (b.setSlots ((b.slots b.writeBuffer.packetBufferPtr).set i p)
      b.writeBuffer.packetBufferPtr).filled i data = b.filled i data := by
  cases place : b.writeBuffer.packetBufferPtr <;>
    simp [PacketBuffers.filled, PacketBuffers.setSlots, PacketBuffers.slots, place]

theorem destroySlot_exchanges (layout : PacketBuffers.Layout N b) (small : N < 2 ^ 31) {i : Nat}
    (inside : i < N) : ∃ (p : Packet TrackingDeviceData) (rest : Multiset ArrayId),
      buffersOwned b = (packetOwned p : Multiset ArrayId) + rest ∧
      (∀ data, buffersOwned (b.filled i data) = (data.owned : Multiset ArrayId) + rest) ∧
      Exchanges (DeviceDataStorage.destroySlot b (Int32.ofNat i)) (buffersOwned b)
        (fun _ => rest) fun after => ∃ q, after =
          b.setSlots ((b.slots b.writeBuffer.packetBufferPtr).set i q)
            b.writeBuffer.packetBufferPtr := by
  have index : (Int32.ofNat i).toInt = (i : Int) := Int32.toInt_ofNat_of_lt (by omega)
  have length := layout.length_slots b.writeBuffer.packetBufferPtr
  obtain ⟨p, found⟩ := PacketBuffers.exists_element (b.slots b.writeBuffer.packetBufferPtr) i
    (by omega)
  obtain ⟨rest, whole, changed⟩ := buffersOwned_set b _ found
  refine ⟨p, rest, whole, fun data => ?_, ?_⟩
  · refine (Eq.trans ?_ (changed ⟨b.packetReceivedNum, data⟩))
    rw [PacketBuffers.filled]
    generalize b.writeBuffer.packetBufferPtr = ptr
    cases ptr <;> rfl
  · rw [DeviceDataStorage.destroySlot, index]
    have fetched : fetch (b.slots b.writeBuffer.packetBufferPtr) (i : Int) = .ok p :=
      fetch_of_take (List.take_of_length_le (le_refl _)) found
    rw [fetched, access_ok, pure_bind, whole]
    refine .bind (destroyDevicePacketMembers_exchanges (devicePacket p)) fun v _ => ?_
    rw [put_natCast _ _ _ (by omega), access_ok, pure_bind]
    exact .pure rfl ⟨_, rfl⟩

end Slots

/-! ## Pushing -/

section Push

variable {N : Nat} {pos : 0 < N} {b : PacketBuffers TrackingDeviceData}

/-- The packets in the buffers can be copied. -/
def Copyable (b : PacketBuffers TrackingDeviceData) : Prop :=
  ∀ p, b.Stores p → p.data.WellCounted ∧ ShortData p.data.contents

/-- The packets of the store, counted or stale, can be copied, and the counted ones are the end
of a history. -/
structure WellKept (pos : 0 < N) (b : PacketBuffers TrackingDeviceData) : Prop where
  represents : ∃ h, Represents pos (b.map TrackingDeviceData.contents) h
  copyable : Copyable b

/-- The message of a device can be converted. -/
def Fits (message : Proto.TrackingDeviceData) : Prop := message.PosesAligned ∧ SizedData message

theorem stores_filled {i : Nat} {data : TrackingDeviceData} {p : Packet TrackingDeviceData}
    (stored : (b.filled i data).Stores p) : p = ⟨b.packetReceivedNum, data⟩ ∨ b.Stores p := by
  have changed : ∀ ptr, p ∈ (b.slots ptr).set i ⟨b.packetReceivedNum, data⟩ →
      p = ⟨b.packetReceivedNum, data⟩ ∨ b.Stores p := fun ptr member => by
    rcases List.mem_or_eq_of_mem_set member with old | new
    · exact .inr (PacketBuffers.stores_slots b old)
    · exact .inl new
  rw [PacketBuffers.filled] at stored
  cases place : b.writeBuffer.packetBufferPtr with
  | packetBuffer1 =>
      rw [place] at stored
      rcases stored with first | second
      · exact changed .packetBuffer1 first
      · exact .inr (.inr second)
  | packetBuffer2 =>
      rw [place] at stored
      rcases stored with first | second
      · exact .inr (.inl first)
      · exact changed .packetBuffer2 second

theorem shortData_of_converts {message : Proto.TrackingDeviceData} {data : Sdk.TrackingDeviceData}
    (sized : SizedData message) (run : Sdk.protoToTrackingDeviceData message = .ok data) :
    ShortData data := by
  obtain ⟨raw, poses, buttons, latency⟩ := sized
  rw [Sdk.protoToTrackingDeviceData] at run
  cases posed : (List.range message.positions.length).mapM (protoToPose message) with
  | error fault => simp [posed, bind, Except.bind] at run
  | ok converted =>
      have length := DeviceDataStorage.length_mapM_ok posed
      rw [List.length_range] at length
      simp only [posed, bind, Except.bind, pure, Except.pure, Except.ok.injEq] at run
      subst run
      refine ⟨?_, ?_, ?_, ?_⟩
      · simpa using raw
      · show converted.length ≤ intMax
        omega
      · simpa using buttons
      · simpa using latency

/-- The arrays of the packet that was in the slot are deleted, and those of the converted
message take their place. -/
theorem fillSlot_exchanges (layout : PacketBuffers.Layout N b) (small : N < 2 ^ 31) {i : Nat}
    (inside : i < N) {message : Proto.TrackingDeviceData} {data : Sdk.TrackingDeviceData}
    (sized : SizedData message) (run : Sdk.protoToTrackingDeviceData message = .ok data) :
    Exchanges (DeviceDataStorage.fillSlot b (Int32.ofNat i) message) (buffersOwned b)
      buffersOwned fun after => ∃ v, after = b.filled i v ∧ v.contents = data ∧ v.WellCounted := by
  obtain ⟨p, rest, -, refilled, destroyed⟩ := destroySlot_exchanges layout small inside
  refine .bind destroyed fun after emptiedSlot => ?_
  obtain ⟨q, rfl⟩ := emptiedSlot
  have conversion := protoToTrackingDeviceData_allocates sized run
  refine .bind (.ofAllocates conversion) fun v converted => ?_
  have shape : PacketBuffers.Layout N (b.setSlots
      ((b.slots b.writeBuffer.packetBufferPtr).set i q) b.writeBuffer.packetBufferPtr) :=
    layout.setSlots (by rw [List.length_set]; exact layout.length_slots _) _
  rw [PacketBuffers.fillSlot_eq shape small inside, filled_setSlots, access_ok]
  exact .pure (refilled v) ⟨v, rfl, converted⟩

theorem fits_conversion {message : Proto.TrackingDeviceData} (fits : Fits message) :
    ∃ data, Sdk.protoToTrackingDeviceData message = .ok data :=
  protoToTrackingDeviceData_ok message fits.1

theorem copyable_filled {i : Nat} {v : TrackingDeviceData} {after : PacketBuffers TrackingDeviceData}
    (copyable : Copyable b) (counted : v.WellCounted) (short : ShortData v.contents)
    (same : ∀ p, after.Stores p ↔ (b.filled i v).Stores p) : Copyable after := by
  intro p stored
  rcases stores_filled ((same p).mp stored) with rfl | old
  · exact ⟨counted, short⟩
  · exact copyable p old

/-- **One push** of a message of the device: what can be read is what the plain push leaves. -/
theorem pushData_exchanges {s : DeviceDataStorage} (kept : WellKept pos s.buffers)
    (small : N < 2 ^ 31) {message : Proto.TrackingDeviceData} (fits : Fits message)
    (own : Storage.DeviceDataStorage.carries s.contents.device message = true) :
    ∃ plain, s.contents.pushData message = .ok (true, plain) ∧
      Exchanges (s.pushData message) s.owned (fun result => result.2.owned) fun result =>
        result.1 = true ∧ result.2.contents = plain ∧ WellKept pos result.2.buffers := by
  obtain ⟨⟨h, represents⟩, copyable⟩ := kept
  obtain ⟨data, conversion⟩ := fits_conversion fits
  obtain ⟨after, pushed, represented⟩ :=
    PacketBuffers.push_represents represents small (fun _ => 0) data
  have layout := represents.layout.of_map
  have room := represents.push_room small
  have inside := (Generations.ofHistory pos (PacketBuffers.stamped h)).current_lt
  have writeNum := represents.live.writeNum
  refine ⟨{ s.contents with buffers := after }, ?_, ?_⟩
  · rw [Storage.DeviceDataStorage.pushData_own _ _ own, conversion]
    show ((s.buffers.map TrackingDeviceData.contents).push (fun _ => 0) data >>= fun buffers => _) = _
    rw [pushed]
    rfl
  · rw [PacketBuffers.push, if_pos room, writeNum,
      PacketBuffers.fillSlot_eq represents.layout small inside] at pushed
    simp only [bind, Except.bind] at pushed
    have mine : ¬ (message.siuUuid ≠ s.device.siuUuid ∨ message.portId ≠ s.device.portId) := by
      simp only [Storage.DeviceDataStorage.carries, Bool.and_eq_true, decide_eq_true_eq] at own
      rw [not_or, not_not, not_not]
      exact own
    have free : s.buffers.writeBuffer.dataNum.toUInt32 < s.buffers.bufferSize := room
    have place : s.buffers.writeBuffer.dataNum =
        Int32.ofNat (Generations.ofHistory pos (PacketBuffers.stamped h)).current.length := writeNum
    rw [DeviceDataStorage.pushData, if_neg mine]
    simp only
    rw [if_pos free, place, DeviceDataStorage.owned, add_comm]
    refine .bind ((fillSlot_exchanges layout small inside fits.2 conversion).frame _)
      fun filled made => ?_
    obtain ⟨v, rfl, read, counted⟩ := made
    have short : ShortData v.contents := by
      rw [read]
      exact shortData_of_converts fits.2 conversion
    rw [← read, ← PacketBuffers.filled_map] at pushed
    split
    · rename_i full
      cases (if_pos full).symm.trans pushed
      exact .pure (add_comm _ _) ⟨rfl, rfl, ⟨_, represented⟩,
        copyable_filled copyable counted short fun _ => Iff.rfl⟩
    · rename_i notFull
      cases (if_neg notFull).symm.trans pushed
      exact .pure (add_comm _ _) ⟨rfl, rfl, ⟨_, represented⟩,
        copyable_filled copyable counted short fun _ => Iff.rfl⟩

/-- **One push** of any message: a stranger's leaves everything as it is. -/
theorem push_exchanges {s : DeviceDataStorage} (kept : WellKept pos s.buffers)
    (small : N < 2 ^ 31) {message : Proto.TrackingDeviceData}
    (fits : Storage.DeviceDataStorage.carries s.contents.device message = true → Fits message) :
    ∃ accepted plain, s.contents.pushData message = .ok (accepted, plain) ∧
      Exchanges (s.pushData message) s.owned (fun result => result.2.owned) fun result =>
        result.2.contents = plain ∧ WellKept pos result.2.buffers := by
  cases own : Storage.DeviceDataStorage.carries s.contents.device message with
  | false =>
      have stranger : message.siuUuid ≠ s.device.siuUuid ∨ message.portId ≠ s.device.portId := by
        simp only [Storage.DeviceDataStorage.carries, Bool.and_eq_false_iff,
          decide_eq_false_iff_not] at own
        exact own
      have refused : s.pushData message = pure (false, s) := if_pos stranger
      refine ⟨false, s.contents, Storage.DeviceDataStorage.pushData_other _ _ own, ?_⟩
      rw [refused]
      exact .pure rfl ⟨rfl, kept⟩
  | true =>
      obtain ⟨plain, pushed, exchanges⟩ := pushData_exchanges kept small (fits own) own
      exact ⟨true, plain, pushed, exchanges.conseq fun _ spec => spec.2⟩

end Push

/-! ## Queries -/

section Complete

open PacketBuffers

variable {δ : Type} {b : PacketBuffers δ} {previous current : List (Packet δ)}
  {copy : Packet δ → Packet δ} {startIdx : UInt32} {h : List δ} {lo : Nat}

theorem completeAnswer_written {state : DataResponseState} {xs : List (Packet δ)} {count : UInt32}
    {answer : Except Fault (DataResponse δ)} (answered : answer = .ok ⟨state, xs.map some, count⟩)
    (counted : count.toNat = xs.length) : CompleteAnswer answer :=
  ⟨_, answered, by simp, by rw [counted, List.length_map]⟩

theorem completeAnswer_empty : CompleteAnswer (.ok (emptyResponse (δ := δ))) :=
  ⟨_, rfl, by simp [emptyResponse], rfl⟩

theorem completeAnswer_if {guard : Bool} {slot : Except Fault (Packet δ)} {p : Packet δ}
    {test : UInt32 → Bool} {yes no : Except Fault (DataResponse δ)} (holds : guard = true)
    (read : slot = .ok p) (onYes : test p.packetIdx = true → CompleteAnswer yes)
    (onNo : test p.packetIdx = false → CompleteAnswer no) :
    CompleteAnswer (do if ← slotTest guard slot test then yes else no) := by
  rw [slotTest_ok holds read]
  cases answer : test p.packetIdx with
  | true => exact onYes answer
  | false => exact onNo answer

theorem completeAnswer_else {guard : Bool} {slot : Except Fault (Packet δ)}
    {test : UInt32 → Bool} {yes no : Except Fault (DataResponse δ)} (fails : guard = false)
    (onNo : CompleteAnswer no) :
    CompleteAnswer (do if ← slotTest guard slot test then yes else no) := by
  rw [fails]
  exact onNo

theorem ofNat_toNat_of_small {n : Nat} (small : n < 2 ^ 31) : (UInt32.ofNat n).toNat = n :=
  UInt32.toNat_ofNat_of_lt' (lt_trans small (by decide))

theorem getLatestCount_complete (live : Live b previous current) (copies : ∀ p, copy p = p)
    (small : previous.length + current.length < 2 ^ 31) (requestCount : UInt32) :
    CompleteAnswer (b.getLatestCount copy requestCount) := by
  rw [getLatestCount_live live copies small, latestResponse]
  split
  · exact completeAnswer_empty
  · split
    · rename_i enough
      refine completeAnswer_written rfl ?_
      rw [List.length_drop]
      omega
    · exact completeAnswer_written rfl (ofNat_toNat_of_small (by rwa [List.length_append]))

theorem sinceReadBranches_complete (live : Live b previous current)
    (window : Window h lo previous current) (copies : ∀ p, copy p = p)
    (small : previous.length + current.length < 2 ^ 31)
    (bounded : previous ≠ [] → ∃ k ≤ previous.length, startIdx ≤ UInt32.ofNat (lo + k)) :
    CompleteAnswer (b.sinceReadBranches copy startIdx) := by
  rw [PacketBuffers.sinceReadBranches]
  by_cases empty : previous = []
  · have guard : decide (b.readBuffer.dataNum > 0) = false := by
      rw [live.readNum, empty]
      rfl
    exact completeAnswer_else guard (completeAnswer_else guard completeAnswer_empty)
  · have guard : decide (b.readBuffer.dataNum > 0) = true := by
      rw [live.readNum]
      exact ofNat_pos empty (by omega)
    obtain ⟨first, element⟩ := exists_element previous 0 (List.length_pos_iff.mpr empty)
    have index : first.packetIdx = UInt32.ofNat lo := window.previousIdx element
    refine completeAnswer_if guard (live.readSlot element) ?_ fun _ => ?_
    · intro reached
      obtain ⟨k, short, high⟩ := bounded empty
      rw [index, decide_eq_true_eq] at reached
      obtain ⟨skip, least, distance⟩ := skip_of_between reached high
      rw [← index] at distance
      refine completeAnswer_written
        (sinceRead_live live copies small element (by omega) distance) ?_
      rw [List.length_drop, List.length_append]
      exact ofNat_toNat_of_small (by omega)
    · refine completeAnswer_if guard (live.readSlot element) (fun _ => ?_) fun _ =>
        completeAnswer_empty
      refine completeAnswer_written (copyBoth_live live copies small) ?_
      rw [List.length_append]
      exact ofNat_toNat_of_small small

/-- The newest packet in the write buffer, or in the read buffer when that one is empty, bounds
the index. -/
theorem getDataSinceIndex_complete {s : Storage.DeviceDataStorage}
    {h : List Sdk.TrackingDeviceData} {previous current : List Sdk.DevicePacket}
    (live : Live s.buffers previous current) (window : Window h lo previous current)
    (small : previous.length + current.length < 2 ^ 31) :
    CompleteAnswer (s.getDataSinceIndex startIdx) := by
  rw [Storage.DeviceDataStorage.getDataSinceIndex]
  by_cases drained : current = []
  · subst drained
    have idle : decide (s.buffers.writeBuffer.dataNum > 0) = false := by
      rw [live.writeNum]
      rfl
    refine completeAnswer_else idle (completeAnswer_else idle ?_)
    by_cases empty : previous = []
    · subst empty
      refine completeAnswer_else (by rw [live.readNum]; exact Bool.and_false _) ?_
      exact sinceReadBranches_complete live window copyDevicePacket_eq small fun some =>
        absurd rfl some
    · have nonzero := List.length_pos_iff.mpr empty
      have guard : (decide (s.buffers.writeBuffer.dataNum = 0) &&
          decide (s.buffers.readBuffer.dataNum > 0)) = true := by
        rw [live.writeNum, live.readNum, ofNat_pos empty (by omega)]
        rfl
      obtain ⟨newest, element⟩ := exists_element previous (previous.length - 1) (by omega)
      have last : (s.buffers.readBuffer.dataNum - 1).toInt = ((previous.length - 1 : Nat) : Int) := by
        rw [live.readNum, last_index empty (by omega)]
      rw [last]
      refine completeAnswer_if guard (live.readSlot element) (fun _ => completeAnswer_empty) ?_
      intro before
      rw [window.previousIdx element, decide_eq_false_iff_not, UInt32.not_lt] at before
      exact sinceReadBranches_complete live window copyDevicePacket_eq small fun _ =>
        ⟨_, by omega, before⟩
  · have nonzero := List.length_pos_iff.mpr drained
    have guard : decide (s.buffers.writeBuffer.dataNum > 0) = true := by
      rw [live.writeNum]
      exact ofNat_pos drained (by omega)
    have occupied : decide (s.buffers.writeBuffer.dataNum = 0) = false := by
      refine decide_eq_false fun zero => ?_
      rw [zero] at guard
      exact absurd guard (by decide)
    obtain ⟨newest, newestElement⟩ := exists_element current (current.length - 1) (by omega)
    obtain ⟨first, firstElement⟩ := exists_element current 0 nonzero
    have last : (s.buffers.writeBuffer.dataNum - 1).toInt = ((current.length - 1 : Nat) : Int) := by
      rw [live.writeNum, last_index drained (by omega)]
    have start : first.packetIdx = UInt32.ofNat (lo + previous.length) :=
      window.currentIdx firstElement
    simp only [last]
    refine completeAnswer_if guard (live.writeSlot newestElement) (fun _ => completeAnswer_empty) ?_
    intro before
    rw [window.currentIdx newestElement, decide_eq_false_iff_not, UInt32.not_lt] at before
    refine completeAnswer_if guard (live.writeSlot firstElement) ?_ ?_
    · intro reached
      rw [start, decide_eq_true_eq] at reached
      obtain ⟨skip, least, distance⟩ := skip_of_between reached before
      rw [← start] at distance
      refine completeAnswer_written (sinceWrite_live live copyDevicePacket_eq (by omega) firstElement
        (by omega) distance) ?_
      rw [List.length_drop]
      exact ofNat_toNat_of_small (by omega)
    · intro early
      rw [start, decide_eq_false_iff_not, UInt32.not_le] at early
      refine completeAnswer_else (by rw [occupied, Bool.false_and]) ?_
      exact sinceReadBranches_complete live window copyDevicePacket_eq small fun _ =>
        ⟨_, le_refl _, UInt32.le_of_lt early⟩

end Complete

section Queries

variable {N : Nat} {pos : 0 < N} {s : DeviceDataStorage} {kept : Multiset ArrayId}

theorem copySlot_allocates {p : Packet TrackingDeviceData} (counted : p.data.WellCounted)
    (short : ShortData p.data.contents) :
    Allocates (copySlot p) packetOwned fun q =>
      readPacket TrackingDeviceData.contents q = readPacket TrackingDeviceData.contents p ∧
        q.data.WellCounted := by
  have copies : Allocates (copyDevicePacket (devicePacket p)) _ _ :=
    copyDevicePacket_allocates counted short
  refine .map copies (fun _ => rfl) fun q copied => ⟨?_, copied.2⟩
  have same := copied.1
  rw [copyDevicePacket_eq] at same
  exact same

/-- A query leaves the store alone and makes an answer that reads like the plain one. -/
theorem query_exchanges {query : ArrayM (Response TrackingDeviceData)}
    {plain : Except Fault (DataResponse Sdk.TrackingDeviceData)}
    (answers : Answers copySlot TrackingDeviceData.contents s.buffers query plain)
    (complete : CompleteAnswer plain) (copyable : Copyable s.buffers) :
    Exchanges query kept (fun response => responseOwned response + kept) fun response =>
      plain = .ok (response.contents TrackingDeviceData.contents) ∧ response.Complete :=
  .ofAllocates ((answers.allocates complete fun p stored =>
    copySlot_allocates (copyable p stored).1 (copyable p stored).2).conseq fun _ spec =>
      ⟨spec.1, spec.2.1⟩)

theorem getLatestData_exchanges (wellKept : WellKept pos s.buffers) (small : N ≤ 2 ^ 30) :
    Exchanges s.getLatestData kept (fun response => responseOwned response + kept) fun response =>
      s.contents.getLatestData = .ok (response.contents TrackingDeviceData.contents) ∧
        response.Complete := by
  obtain ⟨⟨h, represents⟩, copyable⟩ := wellKept
  refine query_exchanges (getLatestOne_refines copyDevicePacket_eq
    (fun i => s.buffers.readSlot_map _ i) fun _ _ read => readSlot_stores read) ?_ copyable
  have newest : s.contents.getLatestData = s.contents.getLatestDataCount 1 :=
    represents.getLatestOne small copyDevicePacket_eq
  rw [newest]
  exact getLatestCount_complete represents.live copyDevicePacket_eq
    (PacketBuffers.Represents.generations_small pos h small) 1

theorem getLatestDataCount_exchanges (wellKept : WellKept pos s.buffers) (small : N ≤ 2 ^ 30)
    (requestCount : UInt32) :
    Exchanges (s.getLatestDataCount requestCount) kept
      (fun response => responseOwned response + kept) fun response =>
        s.contents.getLatestDataCount requestCount =
            .ok (response.contents TrackingDeviceData.contents) ∧
          response.Complete := by
  obtain ⟨⟨h, represents⟩, copyable⟩ := wellKept
  refine query_exchanges (getLatestCount_refines copyDevicePacket_eq requestCount) ?_ copyable
  exact getLatestCount_complete represents.live copyDevicePacket_eq
    (PacketBuffers.Represents.generations_small pos h small) requestCount

theorem getDataSinceIndex_exchanges (wellKept : WellKept pos s.buffers) (small : N ≤ 2 ^ 30)
    (startIdx : UInt32) :
    Exchanges (s.getDataSinceIndex startIdx) kept
      (fun response => responseOwned response + kept) fun response =>
        s.contents.getDataSinceIndex startIdx =
            .ok (response.contents TrackingDeviceData.contents) ∧
          response.Complete := by
  obtain ⟨⟨h, represents⟩, copyable⟩ := wellKept
  refine query_exchanges (getDataSinceIndex_refines s.device.contents startIdx) ?_ copyable
  exact getDataSinceIndex_complete represents.live (PacketBuffers.ofHistory_window pos h)
    (PacketBuffers.Represents.generations_small pos h small)

end Queries

/-! ## The end of an answer and of a store -/

section Destroy

theorem destroyDataResponse_releases {response : Response TrackingDeviceData}
    (complete : response.Complete) :
    Releases (destroyDataResponse (some response))
      ((response.packets.elements.flatMap fun slot => (slot.map packetOwned).getD []) ++
        response.packets.id?.toList) := by
  have few : response.packets.elements.length ≤ uint32Max := by
    rw [← complete.2]
    exact Nat.le_of_lt_succ response.packetCount.toNat_lt
  rw [destroyDataResponse, complete.2, forIndex_readElement few]
  refine .bind (.mapM fun slot member => ?_) fun _ => .deleteArray _
  cases slot with
  | none => exact absurd member complete.1
  | some p => exact destroyDevicePacketMembers_releases (devicePacket p)

theorem destroyDataResponse_exchanges {kept : Multiset ArrayId}
    {response : Response TrackingDeviceData} (complete : response.Complete) :
    Exchanges (destroyDataResponse (some response)) (responseOwned response + kept)
      (fun _ => kept) fun _ => True := by
  have releases := destroyDataResponse_releases complete
  have same : responseOwned response = (((response.packets.elements.flatMap fun slot =>
      (slot.map packetOwned).getD []) ++ response.packets.id?.toList : List ArrayId) :
        Multiset ArrayId) := by
    rw [responseOwned, Response.owned, ← Multiset.coe_add, ← Multiset.coe_add, add_comm]
  rw [same]
  exact .ofReleases releases

/-- One round of the loop in the destructor. -/
theorem destroyRound_exchanges {slots slots' : List (Packet TrackingDeviceData)} {i : Nat}
    (inside : i < slots.length) (inside' : i < slots'.length) :
    Exchanges (do
        let packet ← readElement slots i
        let _ ← destroyDevicePacketMembers (devicePacket packet)
        let packet ← readElement slots' i
        let _ ← destroyDevicePacketMembers (devicePacket packet)
        return)
      ((slots[i]?.map fun p => (packetOwned p : Multiset ArrayId)).getD 0 +
        (slots'[i]?.map fun p => (packetOwned p : Multiset ArrayId)).getD 0)
      (fun _ => 0) fun _ => True := by
  have reads : ∀ {xs : List (Packet TrackingDeviceData)} (there : i < xs.length),
      readElement xs i = pure xs[i] := by
    intro xs there
    have fetched : fetch xs (i : Int) = .ok xs[i] :=
      fetch_of_take (List.take_of_length_le (le_refl _)) (List.getElem?_eq_getElem there)
    rw [readElement, fetched]
  rw [reads inside, reads inside', List.getElem?_eq_getElem inside,
    List.getElem?_eq_getElem inside', pure_bind]
  refine .bind (destroyDevicePacketMembers_exchanges (devicePacket slots[i])) fun _ _ => ?_
  rw [pure_bind, ← add_zero (Option.getD _ _)]
  exact .map (destroyDevicePacketMembers_exchanges (devicePacket slots'[i])) (fun _ _ => rfl)
    fun _ _ => trivial

theorem destroy_exchanges {N : Nat} {s : DeviceDataStorage} {kept : Multiset ArrayId}
    (layout : PacketBuffers.Layout N s.buffers) (small : N ≤ 2 ^ 30) :
    Exchanges s.destroy (s.owned + kept) (fun _ => kept) fun _ => True := by
  have size : s.buffers.bufferSize.toNat = N := by
    rw [layout.size]
    exact ofNat_toNat_of_small (by omega)
  have inside : ∀ i < N, i < s.buffers.packetBuffer1.length ∧ i < s.buffers.packetBuffer2.length :=
    fun i below => by rw [layout.length1, layout.length2]; exact ⟨below, below⟩
  have reached : N ≤ intMax := by unfold intMax; omega
  have rounds := Exchanges.forIndex reached fun i below =>
    destroyRound_exchanges (inside i below).1 (inside i below).2
  have places : ((List.range N).map fun i =>
      (s.buffers.packetBuffer1[i]?.map fun p => (packetOwned p : Multiset ArrayId)).getD 0 +
        (s.buffers.packetBuffer2[i]?.map fun p => (packetOwned p : Multiset ArrayId)).getD 0).sum =
      buffersOwned s.buffers := by
    rw [List.sum_map_add]
    nth_rewrite 1 [← layout.length1]
    rw [sum_range_places, ← layout.length2, sum_range_places]
    rfl
  rw [places] at rounds
  have split : s.owned + kept = buffersOwned s.buffers + (({s.packetBuffer1} : Multiset ArrayId) +
      ({s.packetBuffer2} + ((s.device.owned : Multiset ArrayId) + kept))) := by
    rw [DeviceDataStorage.owned]
    abel
  rw [split, DeviceDataStorage.destroy, size]
  refine .bind (rounds.frame _) fun _ _ => ?_
  rw [List.map_const', List.sum_replicate, smul_zero, zero_add]
  refine .bind (.ofReleases (.deleteArray (some s.packetBuffer1))) fun _ _ => ?_
  refine .bind (.ofReleases (.deleteArray (some s.packetBuffer2))) fun _ _ => ?_
  exact .ofReleases (.map (destroyDeviceDescriptorMembers_releases s.device))

end Destroy

/-! ## Whole runs -/

section Runs

variable {N : Nat} {pos : 0 < N} {device : DeviceDescriptor}

theorem forIndex_pure {α : Type} {limit count : Nat} (short : count ≤ limit) (x : α) :
    forIndex limit count (fun _ => pure x) = pure (List.replicate count x) := by
  have rounds : ((List.range count).mapM fun _ => (pure x : ArrayM α)) =
      pure ((List.range count).map fun _ => x) := List.mapM_pure
  rw [List.map_const', List.length_range] at rounds
  rw [← rounds]
  refine mapM_congr_of_mem fun i member => ?_
  rw [increment, if_pos (lt_of_lt_of_le (List.mem_range.mp member) short)]
  simp

theorem create_exchanges (counted : device.WellCounted) (short : ShortDescriptor device.contents)
    (pos : 0 < N) (small : N ≤ 2 ^ 30) :
    Exchanges (DeviceDataStorage.create device (UInt32.ofNat N)) 0 DeviceDataStorage.owned
      fun s => s.contents = Storage.DeviceDataStorage.init device.contents (UInt32.ofNat N) ∧
        WellKept pos s.buffers := by
  have size : (UInt32.ofNat N).toNat = N := ofNat_toNat_of_small (by omega)
  have reached : N ≤ intMax := by unfold intMax; omega
  refine .bind (.ofAllocates (copyDeviceDescriptor_allocates counted short)) fun copy copied => ?_
  refine .bind (.ofAllocates .createArray) fun first _ => ?_
  refine .bind (.ofAllocates .createArray) fun second _ => ?_
  rw [size, forIndex_pure reached, pure_bind]
  have vacant : ∀ n, slotsOwned (List.replicate n ⟨0, {}⟩) = 0 := by
    intro n
    rw [slotsOwned, List.map_replicate, List.sum_replicate]
    exact smul_zero n
  have readable : (PacketBuffers.map TrackingDeviceData.contents
      { bufferSize := UInt32.ofNat N, packetReceivedNum := 0,
        packetBuffer1 := List.replicate N ⟨0, {}⟩, packetBuffer2 := List.replicate N ⟨0, {}⟩,
        readBuffer := ⟨0, .packetBuffer1⟩, writeBuffer := ⟨0, .packetBuffer2⟩ }) =
      PacketBuffers.init (UInt32.ofNat N) := by
    rw [PacketBuffers.map, PacketBuffers.init, size, List.map_replicate]
    rfl
  refine .pure ?_ ⟨?_, ⟨[], ?_⟩, ?_⟩
  · show (copy.owned : Multiset ArrayId) + {first} + {second} + (slotsOwned _ + slotsOwned _) =
      {second} + ({first} + ((copy.owned : Multiset ArrayId) + 0))
    rw [vacant]
    abel
  · show Storage.DeviceDataStorage.mk copy.contents _ = _
    rw [readable, copied.1]
    rfl
  · rw [readable]
    exact PacketBuffers.init_represents pos (by omega)
  · intro p stored
    have fresh : p = ⟨0, {}⟩ := by
      rcases stored with first | second
      · exact List.eq_of_mem_replicate first
      · exact List.eq_of_mem_replicate second
    rw [fresh]
    exact ⟨⟨rfl, rfl, rfl, rfl⟩, ⟨by decide, by decide, by decide, by decide⟩⟩

/-- The messages of the device that the operations push can be converted. -/
def PushesFit (device : Sdk.DeviceDescriptor) (operations : List Operation) : Prop :=
  ∀ message, .pushData message ∈ operations →
    Storage.DeviceDataStorage.carries device message = true → Fits message

namespace OwnedSession

/-- A session after the operations `done`. -/
structure After (pos : 0 < N) (device : Sdk.DeviceDescriptor) (done : List Operation)
    (s : OwnedSession) : Prop where
  plain : PlainSession.run device (UInt32.ofNat N) done = .ok s.contents
  device : s.store.device.contents = device
  wellKept : WellKept pos s.store.buffers
  complete : ∀ answer ∈ s.answers, answer.Complete

/-- The same operation on both levels. -/
theorem After.step_plain {done : List Operation} {s : OwnedSession} {operation : Operation}
    {plain : Sdk.DeviceDescriptor} {next : PlainSession} (after : After pos plain done s)
    (stepped : PlainSession.step s.contents operation = .ok next) :
    PlainSession.run plain (UInt32.ofNat N) (done ++ [operation]) = .ok next := by
  have before := after.plain
  rw [PlainSession.run] at before ⊢
  rw [List.foldlM_append, before]
  show (List.foldlM PlainSession.step s.contents [operation]) = _
  rw [List.foldlM_cons]
  show (PlainSession.step s.contents operation >>= fun s' => pure s') = _
  rw [stepped]
  rfl

theorem contents_answers (s : OwnedSession) (answer : Response TrackingDeviceData) :
    contents { s with answers := s.answers ++ [answer] } =
      { s.contents with answers := s.contents.answers ++
        [answer.contents TrackingDeviceData.contents] } := by
  rw [contents, contents, List.map_append]
  rfl

/-- A query adds its answer to those that are held. -/
theorem After.query {done : List Operation} {s : OwnedSession} {operation : Operation}
    {plain : Sdk.DeviceDescriptor} {query : ArrayM (Response TrackingDeviceData)}
    {answered : Except Fault (DataResponse Sdk.TrackingDeviceData)} (after : After pos plain done s)
    (exchanges : ∀ kept, Exchanges query kept (fun response => responseOwned response + kept)
      fun response => answered = .ok (response.contents TrackingDeviceData.contents) ∧
        response.Complete)
    (owned : s.step operation = do
      let answer ← query
      return { s with answers := s.answers ++ [answer] })
    (stepped : PlainSession.step s.contents operation = do
      let answer ← answered
      return { s.contents with answers := s.contents.answers ++ [answer] }) :
    Exchanges (s.step operation) s.owned OwnedSession.owned
      (After pos plain (done ++ [operation])) := by
  rw [owned]
  refine .bind (exchanges s.owned) fun answer spec => .pure ?_ ⟨after.step_plain ?_, after.device,
    after.wellKept, ?_⟩
  · simp only [OwnedSession.owned, List.map_append, List.sum_append, List.map_singleton,
      List.sum_singleton]
    abel
  · rw [stepped, spec.1, contents_answers]
    rfl
  · intro other member
    rcases List.mem_append.mp member with old | new
    · exact after.complete other old
    · rw [List.mem_singleton.mp new]
      exact spec.2

theorem After.pushData {done : List Operation} {s : OwnedSession}
    {message : Proto.TrackingDeviceData} {plain : Sdk.DeviceDescriptor}
    (after : After pos plain done s) (small : N ≤ 2 ^ 30)
    (fits : Storage.DeviceDataStorage.carries plain message = true → Fits message) :
    Exchanges (s.step (.pushData message)) s.owned OwnedSession.owned
      (After pos plain (done ++ [.pushData message])) := by
  have mine : Storage.DeviceDataStorage.carries s.store.contents.device message = true →
      Fits message := by
    rw [← after.device] at fits
    exact fits
  obtain ⟨accepted, pushed, plainPushed, exchanges⟩ :=
    push_exchanges after.wellKept (show N < 2 ^ 31 by omega) mine
  refine .bind (exchanges.frame (s.answers.map responseOwned).sum) fun result spec => ?_
  refine .pure rfl ⟨after.step_plain ?_, ?_, spec.2, after.complete⟩
  · have opened : s.contents.store.pushData message = .ok (accepted, pushed) := plainPushed
    rw [PlainSession.step, opened, ← spec.1]
    rfl
  · obtain ⟨h, represents⟩ := after.wellKept.represents
    have same := (Storage.DeviceDataStorage.pushData_represents (s := s.store.contents)
      represents (by omega) plainPushed).2.1
    rw [← spec.1] at same
    exact same.trans after.device

theorem After.destroyDataResponse {done : List Operation} {s : OwnedSession}
    {plain : Sdk.DeviceDescriptor} (after : After pos plain done s) (i : Nat) :
    Exchanges (s.step (.destroyDataResponse i)) s.owned OwnedSession.owned
      (After pos plain (done ++ [.destroyDataResponse i])) := by
  have kept : After pos plain (done ++ [.destroyDataResponse i])
      { s with answers := s.answers.eraseIdx i } := by
    refine ⟨after.step_plain ?_, after.device, after.wellKept, fun answer member =>
      after.complete answer (List.mem_of_mem_eraseIdx member)⟩
    rw [PlainSession.step, contents, contents, List.eraseIdx_map]
    rfl
  rw [step]
  cases found : s.answers[i]? with
  | none =>
      have outside := List.getElem?_eq_none_iff.mp found
      refine .pure ?_ kept
      rw [owned, owned, List.eraseIdx_of_length_le outside]
  | some answer =>
      have complete := after.complete answer (List.mem_of_getElem? found)
      have split : s.owned = responseOwned answer +
          ((s.answers.eraseIdx i).map responseOwned).sum + s.store.owned := by
        rw [owned, sum_map_eraseIdx responseOwned found, add_comm]
      rw [split, add_assoc]
      refine .bind (destroyDataResponse_exchanges complete) fun _ _ => .pure ?_ kept
      exact add_comm _ _

theorem After.step {done : List Operation} {s : OwnedSession} {operation : Operation}
    {plain : Sdk.DeviceDescriptor} (after : After pos plain done s) (small : N ≤ 2 ^ 30)
    (fits : PushesFit plain [operation]) :
    Exchanges (s.step operation) s.owned OwnedSession.owned
      (After pos plain (done ++ [operation])) := by
  cases operation with
  | pushData message => exact after.pushData small (fits message List.mem_cons_self)
  | getLatestData =>
      exact after.query (fun _ => getLatestData_exchanges after.wellKept small) rfl rfl
  | getLatestDataCount requestCount =>
      exact after.query (fun _ => getLatestDataCount_exchanges after.wellKept small requestCount)
        rfl rfl
  | getDataSinceIndex startIdx =>
      exact after.query (fun _ => getDataSinceIndex_exchanges after.wellKept small startIdx) rfl rfl
  | destroyDataResponse i => exact after.destroyDataResponse i

theorem run_exchanges (pos : 0 < N) (small : N ≤ 2 ^ 30) (counted : device.WellCounted)
    (short : ShortDescriptor device.contents) {operations : List Operation}
    (fits : PushesFit device.contents operations) :
    Exchanges (run device (UInt32.ofNat N) operations) 0 owned
      (After pos device.contents operations) := by
  refine .bind (create_exchanges counted short pos small) fun store created => ?_
  have start : After pos device.contents [] { store } := by
    refine ⟨?_, ?_, created.2, fun _ member => by cases member⟩
    · rw [contents, created.1]
      rfl
    · show store.contents.device = _
      rw [created.1]
      exact copyDeviceDescriptor_eq _
  have sole : owned { store } = store.owned := add_zero _
  rw [← sole]
  refine Exchanges.foldlM (fun operation member done s _ after => ?_) start
  refine After.step after small fun message only => fits message ?_
  rw [List.mem_singleton.mp only]
  exact member

/-- **A store with its memory refines the plain store, over whole runs.**  For every buffer
size, every sequence of pushes, queries and destroyed answers, with strangers' messages among
them: the run ends without a fault, the store and each answer that is still held read as in the
plain run, and the arrays it has left in memory are those of the store and of these answers, none
shared.  Every other array it has created it has deleted once, and nothing that was there before. -/
theorem run_refines (N : Nat) (pos : 1 ≤ N) (small : N ≤ 2 ^ 30) (device : DeviceDescriptor)
    (counted : device.WellCounted) (short : ShortDescriptor device.contents)
    (operations : List Operation) (fits : PushesFit device.contents operations) (h : Arrays) :
    ∃ s after, (run device (UInt32.ofNat N) operations).run h = .ok (s, after) ∧
      PlainSession.run device.contents (UInt32.ofNat N) operations = .ok s.contents ∧
      after.live.val = s.owned + h.live.val ∧ Arrays.Evolved h after := by
  obtain ⟨s, after, run, live, evolved, held⟩ :=
    run_exchanges pos small counted short fits h h.live.val (zero_add _).symm
  exact ⟨s, after, run, held.plain, live, evolved⟩

/-- A device of one button; its messages have the state of the button. -/
def buttonDevice : DeviceDescriptor := { siuUuid := 7, portId := 1, buttonCount := 1 }

def buttonMessage (state : Int32) : Proto.TrackingDeviceData :=
  { siuUuid := 7, portId := 1, buttons := [state] }

theorem fits_buttonMessage (state : Int32) : Fits (buttonMessage state) :=
  ⟨⟨Nat.zero_le _, Nat.zero_le _⟩,
    Nat.zero_le _, Nat.zero_le _, show 1 ≤ intMax by decide, Nat.zero_le _⟩

/-- Buffers of one packet: the third push refills the slot that the query has read. -/
def threePushes : List Operation :=
  [.pushData (buttonMessage 1), .getLatestData, .pushData { siuUuid := 8 },
    .pushData (buttonMessage 2), .pushData (buttonMessage 3)]

theorem pushesFit_threePushes : PushesFit buttonDevice.contents threePushes := by
  intro message member own
  simp only [threePushes, List.mem_cons, List.not_mem_nil, or_false, reduceCtorEq, false_or,
    Operation.pushData.injEq] at member
  rcases member with rfl | rfl | rfl | rfl
  · exact fits_buttonMessage 1
  · exact absurd own (by decide)
  · exact fits_buttonMessage 2
  · exact fits_buttonMessage 3

/-- The answer still reads as when it was given, and its arrays are there. -/
theorem run_refines_threePushes :
    ∃ s after, (run buttonDevice 1 threePushes).run .empty = .ok (s, after) ∧
      (s.contents.answers.map fun answer => answer.packets.map (Option.map (·.data.buttons))) =
        [[some [1]]] ∧
      ∀ answer ∈ s.answers, ∀ id ∈ responseOwned answer, id ∈ after.live := by
  obtain ⟨s, after, run, plain, live, -⟩ := run_refines 1 (by decide) (by decide) buttonDevice
    ⟨rfl, rfl⟩ ⟨by decide, by decide⟩ threePushes pushesFit_threePushes .empty
  refine ⟨s, after, run, ?_, fun answer member id mine => ?_⟩
  · have answers : (PlainSession.run buttonDevice.contents 1 threePushes).toOption.map
        (fun session => session.answers.map fun answer =>
          answer.packets.map (Option.map (·.data.buttons))) = some [[some [1]]] := by
      decide +kernel
    have same : PlainSession.run buttonDevice.contents 1 threePushes = .ok s.contents := plain
    rw [same] at answers
    exact Option.some.inj answers
  · rw [← Finset.mem_val, live, owned]
    refine Multiset.mem_add.mpr (.inl (Multiset.mem_add.mpr (.inr ?_)))
    exact Multiset.mem_of_le (List.single_le_sum (fun _ _ => Multiset.zero_le _) _
      (List.mem_map_of_mem member)) mine

theorem close_exchanges {plain : Sdk.DeviceDescriptor} {done : List Operation} {s : OwnedSession}
    (small : N ≤ 2 ^ 30) (after : After pos plain done s) :
    Exchanges s.close s.owned (fun _ => 0) fun _ => True := by
  obtain ⟨h, represents⟩ := after.wellKept.represents
  refine .bind (destroy_exchanges represents.layout.of_map small) fun _ _ => ?_
  have each : ∀ answer ∈ s.answers, Exchanges (Owned.destroyDataResponse (some answer))
      (responseOwned answer) (fun _ => 0) fun _ => True := by
    intro answer member
    rw [← add_zero (responseOwned answer)]
    exact destroyDataResponse_exchanges (after.complete answer member)
  refine .map (.mapM each) (fun answers _ => ?_) fun _ _ => trivial
  rw [List.map_const', List.sum_replicate, smul_zero]

/-- **A lifetime leaves nothing behind.**  A store is created, used in any way, and destroyed, and
then the answers that are still held are: each array that was created on the way has been deleted
once, and no other. -/
theorem lifetime_balanced (N : Nat) (pos : 1 ≤ N) (small : N ≤ 2 ^ 30) (device : DeviceDescriptor)
    (counted : device.WellCounted) (short : ShortDescriptor device.contents)
    (operations : List Operation) (fits : PushesFit device.contents operations) (h : Arrays) :
    ∃ after, (run device (UInt32.ofNat N) operations >>= close).run h = .ok ((), after) ∧
      Arrays.Balanced h after := by
  have exchanges : Exchanges (run device (UInt32.ofNat N) operations >>= close) 0 (fun _ => 0)
      fun _ => True :=
    .bind (run_exchanges pos small counted short fits) fun s after => close_exchanges small after
  obtain ⟨⟨⟩, after, run, balanced, -⟩ := exchanges.balanced h
  exact ⟨after, run, balanced⟩

theorem lifetime_balanced_threePushes :
    ∃ after, (run buttonDevice 1 threePushes >>= close).run .empty = .ok ((), after) ∧
      after.live = ∅ := by
  obtain ⟨after, run, balanced⟩ := lifetime_balanced 1 (by decide) (by decide) buttonDevice
    ⟨rfl, rfl⟩ ⟨by decide, by decide⟩ threePushes pushesFit_threePushes .empty
  exact ⟨after, run, balanced.live⟩

end OwnedSession

end Runs

end Owned

end OmmoSdk.Storage
