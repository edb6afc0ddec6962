/-
# Storage.DeviceData — the packets of one tracking device

`DeviceDataStorage` keeps the packets of the device it was created for.  A message
of another device is refused and changes nothing; an accepted one is converted and
pushed.  A message whose parallel lists do not fit together has no defined
conversion, and then neither has the push.

`pushAll` is a whole run of pushes.  `pushAll_represents` carries the refinement of
`Storage.PushHistory` through it, and `getDataSinceIndex_agrees` states the query by
index against the plain list of accepted packets.
-/
import OmmoSdk.Sdk.Protobuf
import OmmoSdk.Storage.PushHistory

namespace OmmoSdk.Storage

open OmmoSdk.Theory
open OmmoSdk.Sdk

set_option autoImplicit false

structure DeviceDataStorage where
  device : DeviceDescriptor
  buffers : PacketBuffers TrackingDeviceData

namespace DeviceDataStorage

open PacketBuffers

def init (device : DeviceDescriptor) (bufferSize : UInt32) : DeviceDataStorage where
  device := copyDeviceDescriptor device
  buffers := PacketBuffers.init bufferSize

def pushData (s : DeviceDataStorage) (packet : Proto.TrackingDeviceData) :
    Except Fault (Bool × DeviceDataStorage) :=
  if packet.siuUuid ≠ s.device.siuUuid ∨ packet.portId ≠ s.device.portId then
    .ok (false, s)
  else do
    let data ← protoToTrackingDeviceData packet
    let buffers ← s.buffers.push (fun _ => 0) data
    return (true, { s with buffers := buffers })

def getLatestData (s : DeviceDataStorage) : Except Fault (DataResponse TrackingDeviceData) :=
  s.buffers.getLatestOne copyDevicePacket PacketBuffers.readSlot

def getLatestDataCount (s : DeviceDataStorage) (requestCount : UInt32) :
    Except Fault (DataResponse TrackingDeviceData) :=
  s.buffers.getLatestCount copyDevicePacket requestCount

def getDataSinceIndex (s : DeviceDataStorage) (startIdx : UInt32) :
    Except Fault (DataResponse TrackingDeviceData) := do
  let writePacketNum := s.buffers.writeBuffer.dataNum
  let readPacketNum := s.buffers.readBuffer.dataNum
  -- First check the write buffer.
  if ← slotTest (writePacketNum > 0) (s.buffers.writeSlot (writePacketNum - 1).toInt)
      (· < startIdx) then
    return emptyResponse
  else do
    -- From its first packet on, the write buffer has all that is asked for.
    if ← slotTest (writePacketNum > 0) (s.buffers.writeSlot 0) (· ≤ startIdx) then
      s.buffers.sinceWrite copyDevicePacket startIdx
    else do
      -- With the write buffer empty, the newest packet is the last of the read buffer.
      if ← slotTest (writePacketNum = 0 && readPacketNum > 0)
          (s.buffers.readSlot (readPacketNum - 1).toInt) (· < startIdx) then
        return emptyResponse
      else
        s.buffers.sinceReadBranches copyDevicePacket startIdx

/-! ## Runs of pushes -/

/-- Push the messages in order; the results of the calls and the store after them. -/
def pushAll (s : DeviceDataStorage) :
    List Proto.TrackingDeviceData → Except Fault (List Bool × DeviceDataStorage)
  | [] => .ok ([], s)
  | packet :: rest => do
      let (accepted, next) ← s.pushData packet
      let (results, last) ← next.pushAll rest
      return (accepted :: results, last)

/-- The message is one of the device's. -/
def carries (device : DeviceDescriptor) (packet : Proto.TrackingDeviceData) : Bool :=
  packet.siuUuid = device.siuUuid && packet.portId = device.portId

theorem pushData_other (s : DeviceDataStorage) (packet : Proto.TrackingDeviceData)
    (other : carries s.device packet = false) : s.pushData packet = .ok (false, s) := by
  rw [pushData, if_pos]
  simp only [carries, Bool.and_eq_false_iff, decide_eq_false_iff_not] at other
  exact other

theorem pushData_own (s : DeviceDataStorage) (packet : Proto.TrackingDeviceData)
    (own : carries s.device packet = true) :
    s.pushData packet = do
      let data ← protoToTrackingDeviceData packet
      let buffers ← s.buffers.push (fun _ => 0) data
      return (true, { s with buffers := buffers }) := by
  simp only [carries, Bool.and_eq_true, decide_eq_true_eq] at own
  rw [pushData, if_neg (by simp [own.1, own.2])]

section Runs

variable {N : Nat} {pos : 0 < N}

/-- One call on a store that holds `h`, when it does not run into undefined behaviour. -/
theorem pushData_represents {s next : DeviceDataStorage} {h : List TrackingDeviceData}
    {packet : Proto.TrackingDeviceData} {accepted : Bool}
    (represents : Represents pos s.buffers h) (small : N < 2 ^ 31)
    (run : s.pushData packet = .ok (accepted, next)) :
    accepted = carries s.device packet ∧ next.device = s.device ∧
      ∃ converted, ([packet].filter (carries s.device)).mapM protoToTrackingDeviceData =
          .ok converted ∧ Represents pos next.buffers (h ++ converted) := by
  cases own : carries s.device packet with
  | false =>
      rw [pushData_other s packet own] at run
      cases run
      exact ⟨rfl, rfl, [], by simp [own, pure, Except.pure], by simpa using represents⟩
  | true =>
      rw [pushData_own s packet own] at run
      cases conversion : protoToTrackingDeviceData packet with
      | error fault => simp [conversion, bind, Except.bind] at run
      | ok data =>
          obtain ⟨after, pushed, kept⟩ := push_represents represents small (fun _ => 0) data
          simp only [conversion, pushed, bind, Except.bind, pure, Except.pure] at run
          cases run
          exact ⟨rfl, rfl, [data],
            by simp [own, conversion, bind, Except.bind, pure, Except.pure],
            kept⟩

/-- The converted messages of one device, in order. -/
def acceptedData (device : DeviceDescriptor) (packets : List Proto.TrackingDeviceData) :
    Except Fault (List TrackingDeviceData) :=
  (packets.filter (carries device)).mapM protoToTrackingDeviceData

/-- **A whole run.**  The results tell which messages were the device's, and the
buffers hold exactly these, converted, in order. -/
theorem pushAll_represents (small : N < 2 ^ 31) (packets : List Proto.TrackingDeviceData) :
    ∀ {s last : DeviceDataStorage} {h : List TrackingDeviceData} {results : List Bool},
      Represents pos s.buffers h → s.pushAll packets = .ok (results, last) →
      results = packets.map (carries s.device) ∧ last.device = s.device ∧
        ∃ converted, acceptedData s.device packets = .ok converted ∧
          Represents pos last.buffers (h ++ converted) := by
  induction packets with
  | nil =>
      intro s last h results represents run
      cases run
      exact ⟨rfl, rfl, [], rfl, by simpa using represents⟩
  | cons packet rest ih =>
      intro s last h results represents run
      rw [pushAll] at run
      cases first : s.pushData packet with
      | error fault => simp [first, bind, Except.bind] at run
      | ok outcome =>
          obtain ⟨accepted, next⟩ := outcome
          obtain ⟨rfl, same, head, converts, kept⟩ := pushData_represents represents small first
          cases others : next.pushAll rest with
          | error fault => simp [first, others, bind, Except.bind] at run
          | ok outcome =>
              obtain ⟨results', last'⟩ := outcome
              simp only [first, others, bind, Except.bind, pure, Except.pure] at run
              cases run
              obtain ⟨rfl, device, tail, convertsRest, keptRest⟩ := ih kept others
              rw [same] at convertsRest device ⊢
              refine ⟨rfl, device, head ++ tail, ?_, by rw [← List.append_assoc]; exact keptRest⟩
              rw [acceptedData, ← List.singleton_append, List.filter_append, List.mapM_append]
              simp only [acceptedData] at convertsRest
              simp [converts, convertsRest, bind, Except.bind, pure, Except.pure]

/-- A call meets undefined behaviour exactly if the message is the device's and its poses do not
fit together. -/
theorem pushData_ok_iff {s : DeviceDataStorage} {h : List TrackingDeviceData}
    (represents : Represents pos s.buffers h) (small : N < 2 ^ 31) (packet : Proto.TrackingDeviceData) :
    (∃ outcome, s.pushData packet = .ok outcome) ↔
      (carries s.device packet = true → packet.PosesAligned) := by
  cases own : carries s.device packet with
  | false => exact ⟨fun _ impossible => absurd impossible Bool.false_ne_true, fun _ =>
      ⟨_, pushData_other s packet own⟩⟩
  | true =>
      rw [pushData_own s packet own]
      constructor
      · rintro ⟨outcome, run⟩ -
        cases conversion : protoToTrackingDeviceData packet with
        | error fault => simp [conversion, bind, Except.bind] at run
        | ok data => exact (protoToTrackingDeviceData_ok_iff packet).mp ⟨data, conversion⟩
      · intro aligned
        obtain ⟨data, conversion⟩ := protoToTrackingDeviceData_ok packet (aligned rfl)
        obtain ⟨after, pushed, -⟩ := push_represents represents small (fun _ => 0) data
        simp [conversion, pushed, bind, Except.bind, pure, Except.pure]

/-- A run of messages whose poses fit together meets no undefined behaviour. -/
theorem pushAll_ok (small : N < 2 ^ 31) (packets : List Proto.TrackingDeviceData) :
    ∀ {s : DeviceDataStorage} {h : List TrackingDeviceData}, Represents pos s.buffers h →
      (∀ packet ∈ packets, packet.PosesAligned) → ∃ outcome, s.pushAll packets = .ok outcome := by
  induction packets with
  | nil => intro s h _ _; exact ⟨_, rfl⟩
  | cons packet rest ih =>
      intro s h represents aligned
      obtain ⟨⟨accepted, next⟩, first⟩ :=
        (pushData_ok_iff represents small packet).mpr fun _ => aligned packet (by simp)
      obtain ⟨-, -, converted, -, kept⟩ := pushData_represents represents small first
      obtain ⟨outcome, others⟩ := ih kept fun other member => aligned other (by simp [member])
      simp [pushAll, first, others, bind, Except.bind, pure, Except.pure]

end Runs

theorem length_mapM_ok {α β : Type} {f : α → Except Fault β} :
    ∀ {xs : List α} {ys : List β}, xs.mapM f = .ok ys → ys.length = xs.length
  | [], ys, run => by cases run; rfl
  | x :: xs, ys, run => by
      rw [List.mapM_cons] at run
      cases head : f x with
      | error fault => simp [head, bind, Except.bind] at run
      | ok y =>
          cases tail : xs.mapM f with
          | error fault => simp [head, tail, bind, Except.bind] at run
          | ok ys' =>
              simp only [head, tail, bind, Except.bind, pure, Except.pure] at run
              cases run
              simpa using length_mapM_ok tail

/-! ## The query by index -/

/-- In whatever state a reader finds the buffers, as long as they hold the end of a
history, the six branches together answer from that history. -/
theorem getDataSinceIndex_window {s : DeviceDataStorage} {h : List TrackingDeviceData} {lo : Nat}
    {previous current : List DevicePacket} (live : Live s.buffers previous current)
    (window : Window h lo previous current) (bound : previous.length + current.length < 2 ^ 31)
    (few : h.length ≤ 2 ^ 32) (startIdx : UInt32) :
    s.getDataSinceIndex startIdx = .ok (sinceResponse h lo startIdx) := by
  have size := window.length
  by_cases fresh : current = []
  · subst fresh
    simp only [getDataSinceIndex, write_test_empty live, bind, Except.bind, Bool.false_eq_true,
      if_false]
    by_cases none : previous = []
    · subst none
      have nothing : h.length = 0 := by
        have := window.start rfl
        simp only [List.length_nil] at size; omega
      rw [show (decide (s.buffers.writeBuffer.dataNum = 0) &&
        decide (s.buffers.readBuffer.dataNum > 0)) = false by rw [live.readNum]; simp]
      simp only [slotTest_false, Bool.false_eq_true, if_false, sinceReadBranches_empty live]
      rw [sinceResponse, if_pos (by omega)]
    · simp only [readLast_test live window (by omega) few none, decide_eq_true_eq, pure, Except.pure]
      split
      · rename_i after
        rw [sinceResponse, if_pos after]
      · rename_i before
        simp only [List.length_nil] at size
        exact sinceReadBranches_window live window copyDevicePacket_eq bound few (by omega)
  · simp only [getDataSinceIndex, writeLast_test live window (by omega) few fresh,
      writeFirst_test live window (by omega) few fresh, bind, Except.bind, pure, Except.pure,
      decide_eq_true_eq]
    split
    · rename_i after
      rw [sinceResponse, if_pos after]
    · rename_i before
      split
      · rename_i reached
        exact sinceWrite_window live window copyDevicePacket_eq (by omega) reached (by omega)
      · rename_i early
        have occupied : ¬ (s.buffers.writeBuffer.dataNum = 0) := by
          have := ofNat_pos fresh (by omega)
          rw [live.writeNum]
          intro zero
          simp [zero] at this
        rw [show (decide (s.buffers.writeBuffer.dataNum = 0) &&
          decide (s.buffers.readBuffer.dataNum > 0)) = false by simp [occupied]]
        simp only [slotTest_false, Bool.false_eq_true, if_false]
        exact sinceReadBranches_window live window copyDevicePacket_eq bound few (by omega)

theorem getDataSinceIndex_represents {N : Nat} {pos : 0 < N} {s : DeviceDataStorage}
    {h : List TrackingDeviceData} (represents : Represents pos s.buffers h) (small : N ≤ 2 ^ 30)
    (few : h.length ≤ 2 ^ 32) (startIdx : UInt32) :
    s.getDataSinceIndex startIdx =
      .ok (sinceResponse h (Generations.windowStart N h.length) startIdx) :=
  getDataSinceIndex_window represents.live (ofHistory_window pos h)
    (Represents.generations_small pos h small) few startIdx

/-- **The query by index agrees with the plain list of accepted packets.**  For every
buffer size and every run of pushes that accepts fewer than `2 ^ 32` messages,
refused ones interleaved anywhere and leaving the store as it is. -/
theorem getDataSinceIndex_agrees (N : Nat) (pos : 1 ≤ N) (small : N ≤ 2 ^ 30)
    (device : DeviceDescriptor) (packets : List Proto.TrackingDeviceData)
    (aligned : ∀ packet ∈ packets, packet.PosesAligned)
    (few : (packets.filter (carries device)).length < 2 ^ 32) :
    ∃ converted s, acceptedData device packets = .ok converted ∧
      (init device (UInt32.ofNat N)).pushAll packets = .ok (packets.map (carries device), s) ∧
      (∀ packet, carries device packet = false → s.pushData packet = .ok (false, s)) ∧
      ∀ startIdx, AnswersSince N converted startIdx (s.getDataSinceIndex startIdx) := by
  have fresh : Represents (N := N) pos (init device (UInt32.ofNat N)).buffers [] :=
    init_represents pos (by omega)
  obtain ⟨⟨results, s⟩, run⟩ := pushAll_ok (by omega) packets fresh aligned
  obtain ⟨rfl, same, converted, converts, kept⟩ := pushAll_represents (by omega) packets fresh run
  rw [init, copyDeviceDescriptor_eq] at same converts run
  have count : converted.length = (packets.filter (carries device)).length :=
    length_mapM_ok converts
  refine ⟨converted, s, converts, ?_, ?_, ?_⟩
  · simpa [init] using run
  · intro packet other
    exact pushData_other s packet (by rw [same]; exact other)
  · intro startIdx
    rw [List.nil_append] at kept
    rw [getDataSinceIndex_represents kept small (by omega)]
    exact sinceResponse_answers converted (by omega) small pos startIdx

/-- Two packets of one device with a stranger's between them. -/
theorem getDataSinceIndex_agrees_interleaved :
    ∃ converted s,
      (init ⟨7, 1, 0, 0, [], [], 0, false⟩ 2).pushAll
          [{ siuUuid := 7, portId := 1 }, { siuUuid := 8, portId := 1 },
            { siuUuid := 7, portId := 1, timestamp := 5 }] = .ok ([true, false, true], s) ∧
        ∀ startIdx, AnswersSince 2 converted startIdx (s.getDataSinceIndex startIdx) := by
  obtain ⟨converted, s, -, run, -, answers⟩ :=
    getDataSinceIndex_agrees 2 (by decide) (by decide) ⟨7, 1, 0, 0, [], [], 0, false⟩
      [{ siuUuid := 7, portId := 1 }, { siuUuid := 8, portId := 1 },
        { siuUuid := 7, portId := 1, timestamp := 5 }]
      (by simp [Proto.TrackingDeviceData.PosesAligned]) (by decide)
  exact ⟨converted, s, run, answers⟩

end DeviceDataStorage

end OmmoSdk.Storage
