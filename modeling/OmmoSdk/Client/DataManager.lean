/-
# Client.DataManager — the storages and streams of one data request

A `DataManager` holds, for each device of its request, the storage its packets go to
and the call that brings them, or for a data frame request the one call of the whole
request.  Both maps are keyed by the hash of the device.

The functions here are the bodies of the locked sections.  `removeStream` is run from
the destructor of a call.  Its loop goes to the next entry only by erasing one, so it
leaves the loop when the call is in the first entry, or when there is no entry, and
otherwise never (`removeStream_iff`).
-/
import Mathlib.Data.List.AList
import Mathlib.Data.List.Sort
import OmmoSdk.Sdk.CallData
import OmmoSdk.Storage.DeviceData
import OmmoSdk.Theory.Loop

namespace OmmoSdk.Client

open OmmoSdk.Theory
open OmmoSdk.Sdk
open OmmoSdk.Storage

set_option autoImplicit false

/-- A map keyed by the hash of a device, `std::map` or `std::unordered_map`. -/
abbrev DeviceMap (β : Type) := AList (fun _ : UInt64 => β)

/-- The order in which a loop meets the entries of a map.  An `unordered_map` has no
order of its own, so each loop is given one. -/
structure IterationOrder (β : Type) where
  visit : DeviceMap β → List (Σ _ : UInt64, β)
  perm : ∀ map, (visit map).Perm map.entries

def IterationOrder.stored (β : Type) : IterationOrder β where
  visit map := map.entries
  perm _ := .refl _

/-- A loop over a `std::map` meets its entries in the order of their keys. -/
def inKeyOrder {β : Type} (map : DeviceMap β) : List (Σ _ : UInt64, β) :=
  map.entries.insertionSort fun a b => a.1 ≤ b.1

section KeyOrder

variable {β : Type} {map : DeviceMap β}

theorem perm_inKeyOrder (map : DeviceMap β) : (inKeyOrder map).Perm map.entries :=
  List.perm_insertionSort _ _

theorem mem_inKeyOrder {entry : Σ _ : UInt64, β} :
    entry ∈ inKeyOrder map ↔ map.lookup entry.1 = some entry.2 :=
  (perm_inKeyOrder map).mem_iff.trans AList.mem_lookup_iff.symm

theorem keys_inKeyOrder (map : DeviceMap β) :
    ((inKeyOrder map).map Sigma.fst).Pairwise (· < ·) := by
  let r : (Σ _ : UInt64, β) → (Σ _ : UInt64, β) → Prop := fun a b => a.1 ≤ b.1
  have : IsTrans _ r := ⟨fun _ _ _ => UInt64.le_trans⟩
  have : Std.Total r := ⟨fun a b => UInt64.le_total a.1 b.1⟩
  have sorted : (inKeyOrder map).Pairwise r := List.pairwise_insertionSort r map.entries
  have distinct : (inKeyOrder map).Pairwise fun a b => a.1 ≠ b.1 :=
    List.pairwise_map.mp (((perm_inKeyOrder map).map Sigma.fst).nodup_iff.mpr map.keys_nodup)
  refine List.pairwise_map.mpr ((sorted.and distinct).imp fun both => ?_)
  exact UInt64.lt_of_le_of_ne both.1 both.2

end KeyOrder

structure DataManager where
  streamType : DataStreamType
  request : DataRequest
  deviceDataMap : DeviceMap DeviceDataStorage
  deviceDataStreams : DeviceMap CallId
  dataframeStream : Option CallId

namespace DataManager

def init (request : DataRequest) (streamType : DataStreamType) : DataManager where
  streamType := streamType
  request := copyDataRequest request
  deviceDataMap := ∅
  deviceDataStreams := ∅
  dataframeStream := none

def isDeviceDataRequested (m : DataManager) (deviceId : DeviceID) : Bool :=
  -- An empty request list means all devices are requested.
  if m.request.requestedDevices.length = 0 then true
  else m.request.requestedDevices.any fun requested =>
    deviceId.siuUuid = requested.siuUuid && deviceId.portId = requested.portId

/-! ## Storages -/

def addDeviceStorage (m : DataManager) (device : DeviceDescriptor) (bufferSize : Int32 := 500) :
    DataManager :=
  if device.hash ∈ m.deviceDataMap then m
  else
    { m with
      deviceDataMap :=
        m.deviceDataMap.insert device.hash (DeviceDataStorage.init device bufferSize.toUInt32) }

def removeDeviceStorage (m : DataManager) (deviceId : DeviceID) : DataManager :=
  if deviceId.hash ∈ m.deviceDataMap then
    { m with deviceDataMap := m.deviceDataMap.erase deviceId.hash }
  else m

def isStorageAvailable (m : DataManager) (deviceId : DeviceID) : Bool :=
  deviceId.hash ∈ m.deviceDataMap

/-! ## Streams of the devices -/

def addDataStream (m : DataManager) (deviceId : DeviceID) (callData : CallId) :
    Bool × DataManager :=
  if deviceId.hash ∈ m.deviceDataStreams then (false, m)
  else (true, { m with deviceDataStreams := m.deviceDataStreams.insert deviceId.hash callData })

def removeDataStream (m : DataManager) (deviceId : DeviceID) : Bool × DataManager :=
  if deviceId.hash ∈ m.deviceDataStreams then
    (true, { m with deviceDataStreams := m.deviceDataStreams.erase deviceId.hash })
  else (false, m)

def dataStreamExists (m : DataManager) (deviceId : DeviceID) : Bool :=
  deviceId.hash ∈ m.deviceDataStreams

def cancelDataStream (m : DataManager) (deviceId : DeviceID) (calls : List CallData) :
    Bool × List CallData :=
  match m.deviceDataStreams.lookup deviceId.hash with
  | some callData => (true, cancelCall calls callData)
  | none => (false, calls)

/-- The order of the loop does not show: each round sets a flag of another call. -/
def cancelAllDataStreams (m : DataManager) (calls : List CallData) : List CallData :=
  m.deviceDataStreams.entries.foldl (fun calls entry => cancelCall calls entry.2) calls

def clearDataStreams (m : DataManager) : DataManager := { m with deviceDataStreams := ∅ }

/-! ## The stream of a data frame request -/

def cancelDataFrameStream (m : DataManager) (calls : List CallData) : Bool × List CallData :=
  match m.dataframeStream with
  | some callData => (true, cancelCall calls callData)
  | none => (false, calls)

def removeDataFrameStream (m : DataManager) : DataManager := { m with dataframeStream := none }

def setDataFrameStream (m : DataManager) (callData : CallId) : DataManager :=
  { m with dataframeStream := some callData }

/-! ## What the sections leave alone -/

section Fields

variable (m : DataManager) (deviceId : DeviceID) (callData : CallId) (device : DeviceDescriptor)
  (bufferSize : Int32)

/-- The two fields a manager is made with. -/
def header : DataStreamType × DataRequest := (m.streamType, m.request)

@[simp] theorem header_addDeviceStorage : (m.addDeviceStorage device bufferSize).header = m.header := by
  unfold addDeviceStorage
  split <;> rfl

@[simp] theorem header_removeDeviceStorage : (m.removeDeviceStorage deviceId).header = m.header := by
  unfold removeDeviceStorage
  split <;> rfl

@[simp] theorem header_addDataStream : (m.addDataStream deviceId callData).2.header = m.header := by
  unfold addDataStream
  split <;> rfl

@[simp] theorem header_removeDataStream : (m.removeDataStream deviceId).2.header = m.header := by
  unfold removeDataStream
  split <;> rfl

theorem isDeviceDataRequested_congr {m m' : DataManager} (same : m.header = m'.header) :
    m.isDeviceDataRequested = m'.isDeviceDataRequested := by
  have request : m.request = m'.request := congrArg Prod.snd same
  funext deviceId
  simp only [isDeviceDataRequested, request]

@[simp] theorem addDeviceStorage_streams :
    (m.addDeviceStorage device bufferSize).deviceDataStreams = m.deviceDataStreams := by
  unfold addDeviceStorage
  split <;> rfl

@[simp] theorem addDeviceStorage_frame :
    (m.addDeviceStorage device bufferSize).dataframeStream = m.dataframeStream := by
  unfold addDeviceStorage
  split <;> rfl

@[simp] theorem mem_addDeviceStorage {key : UInt64} :
    key ∈ (m.addDeviceStorage device bufferSize).deviceDataMap ↔
      key = device.hash ∨ key ∈ m.deviceDataMap := by
  unfold addDeviceStorage
  split
  · rename_i present
    exact ⟨.inr, fun h => h.elim (fun same => same ▸ present) id⟩
  · exact AList.mem_insert _

@[simp] theorem removeDeviceStorage_streams :
    (m.removeDeviceStorage deviceId).deviceDataStreams = m.deviceDataStreams := by
  unfold removeDeviceStorage
  split <;> rfl

@[simp] theorem removeDeviceStorage_frame :
    (m.removeDeviceStorage deviceId).dataframeStream = m.dataframeStream := by
  unfold removeDeviceStorage
  split <;> rfl

@[simp] theorem mem_removeDeviceStorage {key : UInt64} :
    key ∈ (m.removeDeviceStorage deviceId).deviceDataMap ↔
      key ≠ deviceId.hash ∧ key ∈ m.deviceDataMap := by
  unfold removeDeviceStorage
  split
  · exact AList.mem_erase
  · rename_i absent
    exact ⟨fun member => ⟨fun same => absent (same ▸ member), member⟩, And.right⟩

@[simp] theorem addDataStream_map :
    (m.addDataStream deviceId callData).2.deviceDataMap = m.deviceDataMap := by
  unfold addDataStream
  split <;> rfl

@[simp] theorem addDataStream_frame :
    (m.addDataStream deviceId callData).2.dataframeStream = m.dataframeStream := by
  unfold addDataStream
  split <;> rfl

/-- `AddDataStream` refuses when the device has a stream, whatever call it is given. -/
theorem addDataStream_lookup (key : UInt64) :
    (m.addDataStream deviceId callData).2.deviceDataStreams.lookup key =
      if key = deviceId.hash ∧ m.deviceDataStreams.lookup key = none then some callData
      else m.deviceDataStreams.lookup key := by
  unfold addDataStream
  by_cases same : key = deviceId.hash
  · subst same
    by_cases present : deviceId.hash ∈ m.deviceDataStreams
    · simp [present, AList.lookup_eq_none]
    · simp [present, AList.lookup_eq_none]
  · split <;> simp [same]

@[simp] theorem removeDataStream_map :
    (m.removeDataStream deviceId).2.deviceDataMap = m.deviceDataMap := by
  unfold removeDataStream
  split <;> rfl

@[simp] theorem removeDataStream_frame :
    (m.removeDataStream deviceId).2.dataframeStream = m.dataframeStream := by
  unfold removeDataStream
  split <;> rfl

@[simp] theorem removeDataStream_lookup (key : UInt64) :
    (m.removeDataStream deviceId).2.deviceDataStreams.lookup key =
      if key = deviceId.hash then none else m.deviceDataStreams.lookup key := by
  unfold removeDataStream
  by_cases same : key = deviceId.hash
  · subst same
    by_cases present : deviceId.hash ∈ m.deviceDataStreams
    · simp [present]
    · simp [present, AList.lookup_eq_none]
  · split <;> simp [same]

end Fields

/-! ## The clean-up of an ended call -/

/-- One round of the loop over `device_data_streams_`, the iterator standing before
`rest`.  The loop has no step of its own: an entry of another call is looked at again. -/
def removeStreamRound (m : DataManager) (callData : CallId) :
    List (Σ _ : UInt64, CallId) → List (Σ _ : UInt64, CallId) ⊕ (Bool × DataManager)
  | [] => .inr (false, m)
  | entry :: rest =>
      if entry.2 = callData then
        .inr (true, { m with deviceDataStreams := m.deviceDataStreams.erase entry.1 })
      else .inl (entry :: rest)

/-- `RemoveStream`, with its loop given up after `fuel` rounds. -/
def removeStream (order : IterationOrder CallId) (fuel : Nat) (m : DataManager)
    (callData : CallId) : Option (Bool × DataManager) :=
  if m.dataframeStream = some callData then
    some (true, { m with dataframeStream := none })
  else
    Loop.run (m.removeStreamRound callData) fuel (order.visit m.deviceDataStreams)

/-- `ClearAssociation`, which the destructor of a call runs on its manager. -/
def clearAssociation (order : IterationOrder CallId) (fuel : Nat) (m : DataManager)
    (callData : CallId) : Option (Bool × DataManager) :=
  m.removeStream order fuel callData

/-- The clean-up ends with `result`. -/
def ClearsTo (order : IterationOrder CallId) (m : DataManager) (callData : CallId)
    (result : Bool × DataManager) : Prop :=
  ∃ fuel, m.clearAssociation order fuel callData = some result

/-- What the clean-up should do: remove the call from where it is stored and nothing else. -/
def RemovesOnly (m : DataManager) (callData : CallId) (result : Bool × DataManager) : Prop :=
  m.dataframeStream = some callData ∧ result = (true, { m with dataframeStream := none }) ∨
  m.dataframeStream ≠ some callData ∧
    ((∃ key, m.deviceDataStreams.lookup key = some callData ∧
        result = (true, { m with deviceDataStreams := m.deviceDataStreams.erase key })) ∨
      (∀ key, m.deviceDataStreams.lookup key ≠ some callData) ∧ result = (false, m))

/-- The call is where the clean-up looks first, or there is nowhere to look. -/
def FoundFirst (order : IterationOrder CallId) (m : DataManager) (callData : CallId) : Prop :=
  m.dataframeStream = some callData ∨ order.visit m.deviceDataStreams = [] ∨
    ∃ key rest, order.visit m.deviceDataStreams = ⟨key, callData⟩ :: rest

section RemoveStream

variable {order : IterationOrder CallId} {m : DataManager} {callData : CallId}

theorem lookup_of_visit {key : UInt64} {rest : List (Σ _ : UInt64, CallId)}
    (first : order.visit m.deviceDataStreams = ⟨key, callData⟩ :: rest) :
    m.deviceDataStreams.lookup key = some callData := by
  refine AList.mem_lookup_iff.mpr ((order.perm m.deviceDataStreams).mem_iff.mp ?_)
  rw [first]
  exact List.mem_cons_self

theorem lookup_none_of_visit (empty : order.visit m.deviceDataStreams = []) (key : UInt64) :
    m.deviceDataStreams.lookup key = none := by
  rw [Option.eq_none_iff_forall_not_mem]
  intro stored member
  have entry := (order.perm m.deviceDataStreams).mem_iff.mpr (AList.mem_lookup_iff.mp member)
  rw [empty] at entry
  cases entry

/-- Where it looks first, the clean-up does what it should, in one round. -/
theorem clearAssociation_of_foundFirst (found : FoundFirst order m callData) :
    ∃ result, m.clearAssociation order 1 callData = some result ∧ RemovesOnly m callData result := by
  by_cases frame : m.dataframeStream = some callData
  · exact ⟨_, if_pos frame, .inl ⟨frame, rfl⟩⟩
  rcases found with stored | empty | ⟨key, rest, first⟩
  · exact absurd stored frame
  · refine ⟨(false, m), ?_, .inr ⟨frame, .inr ⟨?_, rfl⟩⟩⟩
    · simp [clearAssociation, removeStream, frame, empty, Loop.run, removeStreamRound]
    · intro key
      rw [lookup_none_of_visit empty key]
      simp
  · refine ⟨(true, { m with deviceDataStreams := m.deviceDataStreams.erase key }), ?_,
      .inr ⟨frame, .inl ⟨key, lookup_of_visit first, rfl⟩⟩⟩
    simp [clearAssociation, removeStream, frame, first, Loop.run, removeStreamRound]

theorem clearsTo_of_foundFirst (found : FoundFirst order m callData) :
    ∃ result, ClearsTo order m callData result ∧ RemovesOnly m callData result := by
  obtain ⟨result, run, only⟩ := clearAssociation_of_foundFirst found
  exact ⟨result, ⟨1, run⟩, only⟩

/-- Where another call's entry is met first, it never ends. -/
theorem foundFirst_of_clearsTo {result : Bool × DataManager}
    (clears : ClearsTo order m callData result) : FoundFirst order m callData := by
  obtain ⟨fuel, run⟩ := clears
  by_cases frame : m.dataframeStream = some callData
  · exact .inl frame
  rw [clearAssociation, removeStream, if_neg frame] at run
  cases visited : order.visit m.deviceDataStreams with
  | nil => exact .inr (.inl visited)
  | cons entry rest =>
      rw [visited] at run
      by_cases same : entry.2 = callData
      · exact .inr (.inr ⟨entry.1, rest, by rw [visited, ← same]⟩)
      · exact absurd ⟨fuel, run⟩ (Loop.not_returns_of_stuck (by rw [removeStreamRound, if_neg same]))

/-- **When the clean-up of an ended call finishes.**  For every content of the manager,
every iteration order and every call: it finishes, having removed exactly that call, if
and only if the call is found first. -/
theorem removeStream_iff (order : IterationOrder CallId) (m : DataManager) (callData : CallId) :
    (∃ result, ClearsTo order m callData result ∧ RemovesOnly m callData result) ↔
      FoundFirst order m callData :=
  ⟨fun ⟨_, clears, _⟩ => foundFirst_of_clearsTo clears, clearsTo_of_foundFirst⟩

/-- A clean-up that returns does what it should. -/
theorem removesOnly_of_clears {result : Bool × DataManager}
    (clears : m.clearAssociation order 1 callData = some result) : RemovesOnly m callData result := by
  obtain ⟨result', run, only⟩ := clearAssociation_of_foundFirst (foundFirst_of_clearsTo ⟨1, clears⟩)
  rw [clears] at run
  cases run
  exact only

/-- The clean-up leaves in its first round or never. -/
theorem clearAssociation_eq_none :
    m.clearAssociation order 1 callData = none ↔ ¬ ∃ result, ClearsTo order m callData result := by
  constructor
  · rintro stuck ⟨result, clears⟩
    obtain ⟨result, run, -⟩ := clearAssociation_of_foundFirst (foundFirst_of_clearsTo clears)
    rw [stuck] at run
    cases run
  · intro never
    exact Option.eq_none_iff_forall_ne_some.mpr fun result run => never ⟨result, 1, run⟩

/-- The stream of one device remains and the call of another, already removed, ends. -/
theorem removeStream_hangs :
    ¬ ∃ result, ClearsTo (.stored CallId)
      { init default .deviceData with deviceDataStreams := AList.insert 256 0 ∅ } 1 result := by
  rintro ⟨result, clears⟩
  rcases foundFirst_of_clearsTo clears with frame | empty | ⟨key, rest, first⟩
  · cases frame
  · cases empty
  · cases first

theorem RemovesOnly.header {result : Bool × DataManager} (only : RemovesOnly m callData result) :
    result.2.header = m.header := by
  rcases only with ⟨-, rfl⟩ | ⟨-, ⟨key, -, rfl⟩ | ⟨-, rfl⟩⟩ <;> rfl

/-- What remains stored for a device was stored before, and if it is the ended call then that
was stored twice. -/
theorem RemovesOnly.of_lookup {result : Bool × DataManager} {key : UInt64} {other : CallId}
    (only : RemovesOnly m callData result) (left : result.2.deviceDataStreams.lookup key = some other) :
    m.deviceDataStreams.lookup key = some other ∧
      (other = callData → m.dataframeStream = some callData ∨
        ∃ key', key' ≠ key ∧ m.deviceDataStreams.lookup key' = some callData) := by
  rcases only with ⟨frame, rfl⟩ | ⟨-, ⟨key', stored, rfl⟩ | ⟨absent, rfl⟩⟩
  · exact ⟨left, fun _ => .inl frame⟩
  · by_cases same : key = key'
    · subst same
      simp at left
    · rw [AList.lookup_erase_ne same] at left
      exact ⟨left, fun _ => .inr ⟨key', Ne.symm same, stored⟩⟩
  · refine ⟨left, ?_⟩
    rintro rfl
    exact absurd left (absent key)

theorem RemovesOnly.of_frame {result : Bool × DataManager} {other : CallId}
    (only : RemovesOnly m callData result) (left : result.2.dataframeStream = some other) :
    m.dataframeStream = some other ∧ other ≠ callData := by
  rcases only with ⟨-, rfl⟩ | ⟨frame, ⟨key, -, rfl⟩ | ⟨-, rfl⟩⟩
  · cases left
  · exact ⟨left, fun same => frame (same ▸ left)⟩
  · exact ⟨left, fun same => frame (same ▸ left)⟩

end RemoveStream

end DataManager

end OmmoSdk.Client
