/-
# Storage.BaseStationData — the packets of one base station request

`BaseStationDataStorage` was written after `DeviceDataStorage`: every message is
accepted, and the buffers are pushed, switched and asked for the newest packets in
the same words.  Two of its query bodies differ.  `getLatestData` takes the packet
from the write buffer where the sibling takes it from the read buffer, and
`getDataSinceIndex` lacks the sibling's branch for an empty write buffer, so an index
past the newest packet falls through to the branch that reads from the read buffer
(`getDataSinceIndex_fresh`).
-/
import OmmoSdk.Sdk.CallData
import OmmoSdk.Storage.DeviceData

namespace OmmoSdk.Storage

open OmmoSdk.Theory
open OmmoSdk.Sdk

set_option autoImplicit false

structure BaseStationDataStorage where
  buffers : PacketBuffers BaseStationData
  baseStationStream : Option CallId

namespace BaseStationDataStorage

open PacketBuffers

def init (bufferSize : UInt32) : BaseStationDataStorage where
  buffers := PacketBuffers.init bufferSize
  baseStationStream := none

def pushData (s : BaseStationDataStorage) (packet : Proto.BaseStationData) :
    Except Fault (Bool × BaseStationDataStorage) := do
  let buffers ← s.buffers.push id (protoToBaseStationData packet)
  return (true, { s with buffers := buffers })

def getLatestData (s : BaseStationDataStorage) : Except Fault (DataResponse BaseStationData) :=
  s.buffers.getLatestOne id PacketBuffers.writeSlot

def getLatestDataCount (s : BaseStationDataStorage) (requestCount : UInt32) :
    Except Fault (DataResponse BaseStationData) :=
  s.buffers.getLatestCount id requestCount

def getDataSinceIndex (s : BaseStationDataStorage) (startIdx : UInt32) :
    Except Fault (DataResponse BaseStationData) := do
  let writePacketNum := s.buffers.writeBuffer.dataNum
  -- First check the write buffer.
  if ← slotTest (writePacketNum > 0) (s.buffers.writeSlot (writePacketNum - 1).toInt)
      (· < startIdx) then
    return emptyResponse
  else do
    -- From its first packet on, the write buffer has all that is asked for.
    if ← slotTest (writePacketNum > 0) (s.buffers.writeSlot 0) (· ≤ startIdx) then
      s.buffers.sinceWrite id startIdx
    else
      s.buffers.sinceReadBranches id startIdx

/-! ## The stream of the request -/

def setDataStream (s : BaseStationDataStorage) (callData : CallId) : BaseStationDataStorage :=
  { s with baseStationStream := some callData }

def removeDataStream (s : BaseStationDataStorage) : BaseStationDataStorage :=
  { s with baseStationStream := none }

def dataStreamExists (s : BaseStationDataStorage) : Bool := s.baseStationStream ≠ none

def clearAssociation (s : BaseStationDataStorage) (callData : CallId) :
    Bool × BaseStationDataStorage :=
  if s.baseStationStream = some callData then
    (true, { s with baseStationStream := none })
  else
    (false, s)

/-! ## Runs of pushes -/

/-- Push the messages in order. -/
def pushAll (s : BaseStationDataStorage) :
    List Proto.BaseStationData → Except Fault BaseStationDataStorage
  | [] => .ok s
  | packet :: rest => do
      let (_, next) ← s.pushData packet
      next.pushAll rest

/-- **A whole run.**  Every push succeeds, and the buffers hold the converted messages. -/
theorem pushAll_represents {N : Nat} {pos : 0 < N} (small : N < 2 ^ 31)
    (packets : List Proto.BaseStationData) :
    ∀ {s : BaseStationDataStorage} {h : List BaseStationData}, Represents pos s.buffers h →
      ∃ last, s.pushAll packets = .ok last ∧ last.baseStationStream = s.baseStationStream ∧
        Represents pos last.buffers (h ++ packets.map protoToBaseStationData) := by
  induction packets with
  | nil =>
      intro s h represents
      exact ⟨s, rfl, rfl, by simpa using represents⟩
  | cons packet rest ih =>
      intro s h represents
      obtain ⟨after, pushed, kept⟩ :=
        push_represents represents small id (protoToBaseStationData packet)
      obtain ⟨last, run, stream, held⟩ := ih (s := { s with buffers := after }) kept
      refine ⟨last, ?_, stream, by simpa using held⟩
      simp [pushAll, pushData, pushed, run, bind, Except.bind, pure, Except.pure]

/-- The store after a run of pushes into a new one. -/
theorem pushAll_init {N : Nat} (pos : 0 < N) (small : N < 2 ^ 31)
    (packets : List Proto.BaseStationData) :
    ∃ s, (init (UInt32.ofNat N)).pushAll packets = .ok s ∧
      Represents pos s.buffers (packets.map protoToBaseStationData) := by
  have fresh : Represents (N := N) pos (init (UInt32.ofNat N)).buffers [] :=
    init_represents pos small
  obtain ⟨s, run, -, held⟩ := pushAll_represents small packets fresh
  exact ⟨s, run, held⟩

/-! ## The query by index -/

section SinceIndex

variable {N : Nat} {pos : 0 < N} {s : BaseStationDataStorage} {h : List BaseStationData}
  {startIdx : UInt32}

/-- What the read buffer branch answers is never "no data". -/
theorem sinceRead_ne_empty {δ : Type} (copy : Packet δ → Packet δ) (b : PacketBuffers δ)
    (startIdx : UInt32) : b.sinceRead copy startIdx ≠ .ok emptyResponse := by
  intro same
  rw [sinceRead] at same
  cases first : b.readSlot 0 with
  | error fault => simp [first, bind, Except.bind] at same
  | ok p =>
      simp only [first, bind, Except.bind] at same
      split at same
      · cases same
      · split at same
        · cases same
        · simp only [pure, Except.pure, emptyResponse] at same
          cases same

variable {lo : Nat} {previous current : List BaseStationPacket}

/-- With the write buffer just emptied by a switch, an index past the newest packet is
served from the read buffer. -/
theorem getDataSinceIndex_fresh (live : Live s.buffers previous [])
    (window : Window h lo previous []) (bound : previous.length < 2 ^ 31)
    (few : h.length ≤ 2 ^ 32) (nonempty : previous ≠ []) (after : h.length ≤ startIdx.toNat) :
    s.getDataSinceIndex startIdx = s.buffers.sinceRead id startIdx := by
  have size := window.length
  have := List.length_pos_iff.mpr nonempty
  simp only [List.length_nil] at size
  simp only [getDataSinceIndex, write_test_empty live, bind, Except.bind, Bool.false_eq_true,
    if_false, sinceReadBranches, readFirst_test live window bound nonempty, decide_eq_true_eq]
  rw [if_pos]
  rw [ofNat_le_start (by omega)]
  omega

/-- Everywhere else the query answers as the sibling's. -/
theorem getDataSinceIndex_window (live : Live s.buffers previous current)
    (window : Window h lo previous current) (bound : previous.length + current.length < 2 ^ 31)
    (few : h.length ≤ 2 ^ 32)
    (guarded : ¬ (previous ≠ [] ∧ current = [] ∧ h.length ≤ startIdx.toNat)) :
    s.getDataSinceIndex startIdx = .ok (sinceResponse h lo startIdx) := by
  have size := window.length
  by_cases fresh : current = []
  · subst fresh
    simp only [getDataSinceIndex, write_test_empty live, bind, Except.bind, Bool.false_eq_true,
      if_false]
    simp only [List.length_nil] at size
    by_cases empty : previous = []
    · subst empty
      have nothing : h.length = 0 := by
        have := window.start rfl
        simp only [List.length_nil] at size
        omega
      rw [sinceReadBranches_empty live, sinceResponse, if_pos (by omega)]
    · have before : ¬ h.length ≤ startIdx.toNat := fun after => guarded ⟨empty, rfl, after⟩
      exact sinceReadBranches_window live window (fun _ => rfl) bound few (by omega)
  · simp only [getDataSinceIndex, writeLast_test live window (by omega) few fresh,
      writeFirst_test live window (by omega) few fresh, bind, Except.bind, pure, Except.pure,
      decide_eq_true_eq]
    split
    · rename_i after
      rw [sinceResponse, if_pos after]
    · rename_i before
      split
      · rename_i reached
        exact sinceWrite_window live window (fun _ => rfl) (by omega) reached (by omega)
      · exact sinceReadBranches_window live window (fun _ => rfl) bound few (by omega)

/-- **When the query by index agrees with the plain list of pushed packets.**  It does
except just after a switch, for an index that no packet has yet. -/
theorem getDataSinceIndex_agrees_iff (N : Nat) (pos : 1 ≤ N) (small : N ≤ 2 ^ 30)
    (packets : List Proto.BaseStationData) (few : packets.length < 2 ^ 32) (startIdx : UInt32) :
    ∃ s, (init (UInt32.ofNat N)).pushAll packets = .ok s ∧
      (AnswersSince N (packets.map protoToBaseStationData) startIdx (s.getDataSinceIndex startIdx) ↔
        ¬ (0 < packets.length ∧ packets.length % N = 0 ∧ packets.length ≤ startIdx.toNat)) := by
  obtain ⟨s, run, represents⟩ := pushAll_init pos (by omega) packets
  have count : (packets.map protoToBaseStationData).length = packets.length := by simp
  have window := ofHistory_window pos (packets.map protoToBaseStationData)
  have bound := Represents.generations_small pos (packets.map protoToBaseStationData) small
  have fresh := ofHistory_current_eq_nil pos (packets.map protoToBaseStationData)
  have retired := ofHistory_previous_ne_nil pos (packets.map protoToBaseStationData)
  have live := represents.live
  rw [count] at fresh retired
  refine ⟨s, run, ?_, ?_⟩
  · intro agrees
    rintro ⟨some, switched, after⟩
    rw [fresh.mpr switched] at live window bound
    have served := getDataSinceIndex_fresh live window (by simpa using bound) (by omega)
      (retired.mpr (Nat.le_of_dvd some (Nat.dvd_of_mod_eq_zero switched)))
      (by rw [count]; exact after)
    have answer := agrees.1 (by rw [count]; exact after)
    rw [served] at answer
    exact sinceRead_ne_empty id s.buffers startIdx answer
  · intro guarded
    rw [getDataSinceIndex_window live window bound (by omega)]
    · exact sinceResponse_answers _ (by omega) small pos startIdx
    · rintro ⟨nonempty, drained, after⟩
      have := retired.mp nonempty
      exact guarded ⟨by omega, fresh.mp drained, by rw [count] at after; exact after⟩

theorem getDataSinceIndex_agrees_iff_two :
    ∃ s, (init 2).pushAll [{}, {}, {}] = .ok s ∧
      (AnswersSince 2 [protoToBaseStationData {}, protoToBaseStationData {},
        protoToBaseStationData {}] 3 (s.getDataSinceIndex 3) ↔ ¬ (0 < 3 ∧ 3 % 2 = 0 ∧ 3 ≤ 3)) :=
  getDataSinceIndex_agrees_iff 2 (by decide) (by decide) [{}, {}, {}] (by decide) 3

/-- One packet in buffers of one: the index after it is answered with success and no
packet, and the index after that asks for an array of negative length. -/
theorem getDataSinceIndex_past_newest :
    ¬ (∀ N, 1 ≤ N → N ≤ 2 ^ 30 → ∀ packets : List Proto.BaseStationData, packets.length < 2 ^ 32 →
      ∀ startIdx s, (init (UInt32.ofNat N)).pushAll packets = .ok s →
        AnswersSince N (packets.map protoToBaseStationData) startIdx
          (s.getDataSinceIndex startIdx)) ∧
    ∃ s, (init 1).pushAll [{}] = .ok s ∧
      s.getDataSinceIndex 1 = .ok ⟨.success, [], 0⟩ ∧
      s.getDataSinceIndex 2 = .error .badArrayNewLength := by
  refine ⟨?_, _, rfl, by decide, by decide⟩
  intro agrees
  have answer := (agrees 1 (by decide) (by decide) [{}] (by decide) 1 _ rfl).1 (by decide)
  exact absurd answer (by decide)

end SinceIndex

end BaseStationDataStorage

/-! ## The newest packets, in both stores -/

open PacketBuffers in
/-- **The newest packets.**  For every buffer size and every run of pushes, of any
length, both stores answer with the newest packets they keep, and the device store
answers the query without a count as the one for a single packet. -/
theorem getLatestData_agrees (N : Nat) (pos : 1 ≤ N) (small : N ≤ 2 ^ 30) :
    (∀ (device : DeviceDescriptor) (packets : List Proto.TrackingDeviceData) results s,
      (DeviceDataStorage.init device (UInt32.ofNat N)).pushAll packets = .ok (results, s) →
      ∃ converted, DeviceDataStorage.acceptedData device packets = .ok converted ∧
        AnswersLatest N converted s.getLatestDataCount ∧
        s.getLatestData = s.getLatestDataCount 1) ∧
    (∀ packets : List Proto.BaseStationData,
      ∃ s, (BaseStationDataStorage.init (UInt32.ofNat N)).pushAll packets = .ok s ∧
        AnswersLatest N (packets.map protoToBaseStationData) s.getLatestDataCount) := by
  constructor
  · intro device packets results s run
    have fresh : Represents (N := N) pos
        (DeviceDataStorage.init device (UInt32.ofNat N)).buffers [] :=
      init_represents pos (by omega)
    obtain ⟨-, -, converted, converts, kept⟩ :=
      DeviceDataStorage.pushAll_represents (by omega) packets fresh run
    rw [List.nil_append] at kept
    rw [DeviceDataStorage.init, copyDeviceDescriptor_eq] at converts
    refine ⟨converted, converts, ?_, kept.getLatestOne small copyDevicePacket_eq⟩
    have answers := latestResponse_answers converted pos small
    rwa [← funext (kept.getLatestCount small copyDevicePacket_eq)] at answers
  · intro packets
    obtain ⟨s, run, represents⟩ :=
      BaseStationDataStorage.pushAll_init pos (by omega) packets
    have answers := latestResponse_answers (packets.map protoToBaseStationData) pos small
    rw [← funext (represents.getLatestCount small fun _ => rfl)] at answers
    exact ⟨s, run, answers⟩

/-- Three packets in buffers of two: the newest two are in different buffers. -/
theorem getLatestData_agrees_spliced :
    (∃ converted s, (DeviceDataStorage.init ⟨7, 1, 0, 0, [], [], 0, false⟩ 2).pushAll
          [{ siuUuid := 7, portId := 1 }, { siuUuid := 7, portId := 1, timestamp := 5 },
            { siuUuid := 7, portId := 1, timestamp := 6 }] = .ok ([true, true, true], s) ∧
        PacketBuffers.AnswersLatest 2 converted s.getLatestDataCount ∧
        s.getLatestData = s.getLatestDataCount 1 ∧
        (s.getLatestDataCount 2).toOption.map
          (fun answer => answer.packets.map (Option.map Packet.packetIdx)) =
            some [some 1, some 2]) ∧
      ∃ s, (BaseStationDataStorage.init 2).pushAll [{}, {}, {}] = .ok s ∧
        PacketBuffers.AnswersLatest 2 ([{}, {}, {}].map protoToBaseStationData)
          s.getLatestDataCount := by
  obtain ⟨device, base⟩ := getLatestData_agrees 2 (by decide) (by decide)
  obtain ⟨converted, -, answers, one⟩ := device ⟨7, 1, 0, 0, [], [], 0, false⟩
    [{ siuUuid := 7, portId := 1 }, { siuUuid := 7, portId := 1, timestamp := 5 },
      { siuUuid := 7, portId := 1, timestamp := 6 }] [true, true, true] _ rfl
  exact ⟨⟨converted, _, rfl, answers, one, by decide +kernel⟩, base [{}, {}, {}]⟩

/-! ## The invariant of both stores -/

open PacketBuffers in
/-- **The representation invariant.**  It holds after every run of pushes, of any length,
into a new store of either kind; a push into the device store ends unless the message is
one of the device's and its poses do not fit together. -/
theorem pushAll_storeInvariant (N : Nat) (pos : 1 ≤ N) (small : N < 2 ^ 31) :
    (∀ (device : DeviceDescriptor) (packets : List Proto.TrackingDeviceData) results s,
      (DeviceDataStorage.init device (UInt32.ofNat N)).pushAll packets = .ok (results, s) →
      ∃ converted, DeviceDataStorage.acceptedData device packets = .ok converted ∧
        StoreInvariant N s.buffers converted ∧
        ∀ packet, (∃ outcome, s.pushData packet = .ok outcome) ↔
          (DeviceDataStorage.carries device packet = true → packet.PosesAligned)) ∧
    (∀ packets : List Proto.BaseStationData,
      ∃ s, (BaseStationDataStorage.init (UInt32.ofNat N)).pushAll packets = .ok s ∧
        StoreInvariant N s.buffers (packets.map protoToBaseStationData)) := by
  constructor
  · intro device packets results s run
    have fresh : Represents (N := N) pos
        (DeviceDataStorage.init device (UInt32.ofNat N)).buffers [] :=
      init_represents pos small
    obtain ⟨-, same, converted, converts, kept⟩ :=
      DeviceDataStorage.pushAll_represents small packets fresh run
    rw [List.nil_append] at kept
    rw [DeviceDataStorage.init, copyDeviceDescriptor_eq] at converts same
    refine ⟨converted, converts, kept.storeInvariant small, fun packet => ?_⟩
    rw [DeviceDataStorage.pushData_ok_iff kept small packet, same]
  · intro packets
    obtain ⟨s, run, represents⟩ := BaseStationDataStorage.pushAll_init pos small packets
    exact ⟨s, run, represents.storeInvariant small⟩

/-- Buffers of two packets just after their first switch. -/
theorem pushAll_storeInvariant_switched :
    (∃ converted s, (DeviceDataStorage.init ⟨7, 1, 0, 0, [], [], 0, false⟩ 2).pushAll
          [{ siuUuid := 7, portId := 1 }, { siuUuid := 7, portId := 1, timestamp := 5 }] =
            .ok ([true, true], s) ∧
        PacketBuffers.StoreInvariant 2 s.buffers converted) ∧
      ∃ s, (BaseStationDataStorage.init 2).pushAll [{}, {}] = .ok s ∧
        PacketBuffers.StoreInvariant 2 s.buffers
          [protoToBaseStationData {}, protoToBaseStationData {}] := by
  obtain ⟨device, base⟩ := pushAll_storeInvariant 2 (by decide) (by decide)
  obtain ⟨converted, -, invariant, -⟩ := device ⟨7, 1, 0, 0, [], [], 0, false⟩
    [{ siuUuid := 7, portId := 1 }, { siuUuid := 7, portId := 1, timestamp := 5 }] [true, true] _ rfl
  exact ⟨⟨converted, _, rfl, invariant⟩, base [{}, {}]⟩

end OmmoSdk.Storage
