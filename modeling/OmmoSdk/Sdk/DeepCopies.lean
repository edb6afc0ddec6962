/-
# Sdk.DeepCopies — what Copy copies and Destroy deletes

The rules for one array come first: a copied array is a new one with the elements of the
source, an index of type `int` reaches at most `2 ^ 31 - 1` of them.  Then each Copy function
creates exactly the arrays its result owns, and the result reads like the source;
each Destroy function deletes the arrays it visits.

Two of the seven types are exceptions.  The copy of a `WirelessManagementEvent` keeps whatever
its memory held in `client_request_type` and `request_error`
(`Value.copy_deepCopyOf_iff`).  Destroying a `TrackingGroupEvent` leaves the arrays of its
devices behind (`Value.destroy_undoes_copy_iff`).
-/
import OmmoSdk.Sdk.OwnedTypes

namespace OmmoSdk.Sdk.Owned

open OmmoSdk.Theory

set_option autoImplicit false

/-! ## One array -/

section OneArray

variable {α β : Type}

theorem copyEach_eq {limit : Nat} {copyElement : α → ArrayM β} {source : Counted α}
    (counted : source.Matches) (short : source.elements.length ≤ limit) :
    copyEach limit copyElement source = (do
      let id ← createArray
      let elements ← source.elements.mapM copyElement
      return ⟨source.count, .array id elements⟩) := by
  rw [copyEach, ← counted, forIndex_readElement short]

theorem copyEach_allocates {limit : Nat} {copyElement : α → ArrayM β} {source : Counted α}
    {owned : β → List ArrayId} {good : α → β → Prop} (counted : source.Matches)
    (short : source.elements.length ≤ limit)
    (each : ∀ x ∈ source.elements, Allocates (copyElement x) owned (good x)) :
    Allocates (copyEach limit copyElement source)
      (fun copy => copy.ids ++ copy.elements.flatMap owned)
      fun copy => copy.Matches ∧ List.Forall₂ good source.elements copy.elements := by
  rw [copyEach_eq counted short]
  refine .bind (fun copy => copy.elements.flatMap owned) .createArray fun id _ => ?_
  refine .bind (fun _ => []) (.mapM each) fun elements copied => ?_
  refine .pure rfl ⟨(List.append_nil _).symm, rfl, ?_, copied⟩
  exact copied.length_eq.symm.trans counted

/-- Where the loop ends, the index has reached the count and every element was copied. -/
theorem copyEach_completes {limit : Nat} {copyElement : α → ArrayM β} {source : Counted α}
    {h : Arrays} (counted : source.Matches)
    (completes : Completes (copyEach limit copyElement source) h) :
    source.elements.length ≤ limit ∧
      ∀ x ∈ source.elements, ∃ h', Completes (copyElement x) h' := by
  obtain ⟨id, h', -, loops⟩ := completes_bind completes
  obtain ⟨elements, h'', ends, -⟩ := completes_bind loops
  have short : source.elements.length ≤ limit := by
    by_contra long
    exact forIndex_overflow (counted ▸ Nat.not_le.mp long) ⟨_, _, ends⟩
  rw [← counted, forIndex_readElement short] at ends
  exact ⟨short, fun x member => completes_mapM member ⟨_, _, ends⟩⟩

/-- What the elements of a copied array read, and what holds of each. -/
theorem map_eq_of_forall₂ {γ : Type} {f : α → γ} {g : β → γ} {good : β → Prop} {xs : List α}
    {ys : List β} (copied : List.Forall₂ (fun x y => g y = f x ∧ good y) xs ys) :
    ys.map g = xs.map f ∧ ∀ y ∈ ys, good y := by
  induction copied with
  | nil => exact ⟨rfl, fun y member => absurd member List.not_mem_nil⟩
  | cons first _ ih =>
      refine ⟨?_, List.forall_mem_cons.mpr ⟨first.2, ih.2⟩⟩
      rw [List.map_cons, List.map_cons, first.1, ih.1]

/-- A `uint32_t` index reaches every count. -/
theorem countable {xs : Counted α} (counted : xs.Matches) : xs.elements.length ≤ uint32Max := by
  rw [show xs.elements.length = _ from counted]
  exact Nat.le_pred_of_lt xs.count.toNat_lt

/-- One new array that reads like the source. -/
theorem newCopy_allocates {source : Counted α} (counted : source.Matches) :
    Allocates (do let id ← createArray; return ⟨source.count, .array id source.elements⟩)
      Counted.ids fun copy =>
        copy.Matches ∧ copy.elements = source.elements ∧ copy.ids ≠ [] :=
  .bind (fun _ => []) .createArray fun _ _ => .pure rfl ⟨rfl, counted, rfl, List.cons_ne_nil _ _⟩

theorem copyElements_allocates {source : Counted α} (counted : source.Matches)
    (short : source.elements.length ≤ intMax) :
    Allocates (copyElements source) Counted.ids fun copy =>
      copy.Matches ∧ copy.elements = source.elements ∧ copy.ids ≠ [] := by
  rw [copyElements, copyEach_eq counted short, mapM_pure_self]
  exact newCopy_allocates counted

theorem copyElements_completes {source : Counted α} {h : Arrays} (counted : source.Matches)
    (completes : Completes (copyElements source) h) : source.elements.length ≤ intMax :=
  (copyEach_completes counted completes).1

theorem copyWords_allocates {source : Counted UInt32} (counted : source.Matches) :
    Allocates (copyWords source) Counted.ids fun copy =>
      copy.Matches ∧ copy.elements = source.elements ∧ copy.ids ≠ [] := by
  have copies := mapM_readElement source.elements (pure : UInt32 → ArrayM UInt32)
  simp only [bind_pure] at copies
  rw [copyWords, ← counted, copies, mapM_pure_self]
  exact newCopy_allocates counted

theorem destroyElements_releases (xs : Counted α) : Releases (destroyElements xs) xs.ids :=
  .map (.deleteArray _)

/-- A loop over the elements of an array deletes what its rounds delete. -/
theorem forEach_releases {limit : Nat} {destroyElement : α → ArrayM β} {xs : Counted α}
    {gone : α → List ArrayId} (counted : xs.Matches) (short : xs.elements.length ≤ limit)
    (each : ∀ x ∈ xs.elements, Releases (destroyElement x) (gone x)) :
    Releases (forIndex limit xs.count.toNat fun i => readElement xs.elements i >>= destroyElement)
      (xs.elements.flatMap gone) := by
  rw [← counted, forIndex_readElement short]
  exact .mapM each

end OneArray

/-! ## Arrays that an `int` can count -/

/-- The arrays that `CopyDeviceDescriptor` runs over with an `int`. -/
def ShortDescriptor (c : Sdk.DeviceDescriptor) : Prop :=
  c.sensorUnitDescriptors.length ≤ intMax ∧ c.supportedFusionModes.length ≤ intMax

def ShortData (c : Sdk.TrackingDeviceData) : Prop :=
  c.rawSensorData.length ≤ intMax ∧ c.poses.length ≤ intMax ∧
    c.buttons.length ≤ intMax ∧ c.latencyTimestamps.length ≤ intMax

def ShortDevices (c : Sdk.TrackingGroup) : Prop := ∀ device ∈ c.devices, ShortDescriptor device

theorem shortDevices_contents {v : TrackingGroup} :
    ShortDevices v.contents ↔ ∀ device ∈ v.devices.elements, ShortDescriptor device.contents :=
  List.forall_mem_map

/-! ## Copies allocate what they own -/

theorem copyDeviceDescriptor_allocates {source : DeviceDescriptor} (counted : source.WellCounted)
    (short : ShortDescriptor source.contents) :
    Allocates (copyDeviceDescriptor source) DeviceDescriptor.owned fun copy =>
      copy.contents = Sdk.copyDeviceDescriptor source.contents ∧ copy.WellCounted ∧
        copy.owned ≠ [] := by
  refine .bind (fun copy => copy.supportedFusionModes.ids)
    (copyElements_allocates counted.1 short.1) fun units copiedUnits => ?_
  refine .bind (fun _ => []) (copyElements_allocates counted.2 short.2) fun modes copiedModes => ?_
  refine .pure rfl ⟨(List.append_nil _).symm, rfl, ?_, ⟨copiedUnits.1, copiedModes.1⟩,
    List.append_ne_nil_of_left_ne_nil copiedUnits.2.2 _⟩
  simp only [Sdk.copyDeviceDescriptor_eq, DeviceDescriptor.contents, copiedUnits.2.1,
    copiedModes.2.1]

theorem copyTrackingDeviceData_allocates {source : TrackingDeviceData}
    (counted : source.WellCounted) (short : ShortData source.contents) :
    Allocates (copyTrackingDeviceData source) TrackingDeviceData.owned fun copy =>
      copy.contents = Sdk.copyTrackingDeviceData source.contents ∧ copy.WellCounted := by
  obtain ⟨countedRaw, countedPoses, countedButtons, countedLatency⟩ := counted
  obtain ⟨shortRaw, shortPoses, shortButtons, shortLatency⟩ := short
  refine .bind (fun copy => copy.poses.ids ++ (copy.buttons.ids ++ copy.latencyTimestamps.ids))
    (copyElements_allocates countedRaw shortRaw) fun raw copiedRaw => ?_
  refine .bind (fun copy => copy.buttons.ids ++ copy.latencyTimestamps.ids)
    (copyElements_allocates countedPoses shortPoses) fun poses copiedPoses => ?_
  refine .bind (fun copy => copy.latencyTimestamps.ids)
    (copyElements_allocates countedButtons shortButtons) fun buttons copiedButtons => ?_
  refine .bind (fun _ => [])
    (copyElements_allocates countedLatency shortLatency) fun latency copiedLatency => ?_
  refine .pure rfl ⟨(List.append_nil _).symm, rfl, rfl, ?_, ?_,
    copiedRaw.1, copiedPoses.1, copiedButtons.1, copiedLatency.1⟩
  · simp only [TrackingDeviceData.owned, List.append_assoc]
  · simp only [Sdk.copyTrackingDeviceData_eq, TrackingDeviceData.contents, copiedRaw.2.1,
      copiedPoses.2.1, copiedButtons.2.1, copiedLatency.2.1]

theorem copyDevicePacket_allocates {source : DevicePacket} (counted : source.WellCounted)
    (short : ShortData source.deviceData.contents) :
    Allocates (copyDevicePacket source) DevicePacket.owned fun copy =>
      copy.contents = Sdk.copyDevicePacket source.contents ∧ copy.WellCounted := by
  refine .map (copyTrackingDeviceData_allocates counted short) (fun _ => rfl) fun data copied => ?_
  refine ⟨?_, copied.2⟩
  rw [DevicePacket.contents, copied.1]
  rfl

theorem copyDataRequest_allocates {source : DataRequest} (counted : source.WellCounted)
    (short : source.requestedDevices.elements.length ≤ intMax) :
    Allocates (copyDataRequest source) DataRequest.owned fun copy =>
      copy.contents = Sdk.copyDataRequest source.contents ∧ copy.WellCounted := by
  have devices : Allocates
      (if source.requestedDevices.count = 0 then pure ⟨source.requestedDevices.count, .null⟩
        else copyElements source.requestedDevices) Counted.ids fun copy =>
      copy.Matches ∧ copy.elements = source.requestedDevices.elements := by
    split
    · rename_i none
      have empty : source.requestedDevices.elements = [] := by
        refine List.eq_nil_of_length_eq_zero ?_
        rw [show source.requestedDevices.elements.length = _ from counted, none]
        rfl
      exact .pure rfl ⟨by rw [none]; rfl, empty.symm⟩
    · exact (copyElements_allocates counted short).conseq fun _ copied => ⟨copied.1, copied.2.1⟩
  refine .map devices (fun _ => rfl) fun requested copied => ⟨?_, copied.1⟩
  simp only [Sdk.copyDataRequest_eq, DataRequest.contents, copied.2]

theorem copyTrackingGroup_allocates {source : TrackingGroup} (counted : source.WellCounted)
    (short : ShortDevices source.contents) :
    Allocates (copyTrackingGroup source) TrackingGroup.owned fun copy =>
      copy.contents = source.contents ∧ copy.WellCounted ∧
        ∀ device ∈ copy.devices.elements, device.owned ≠ [] := by
  have each := fun device member => copyDeviceDescriptor_allocates (counted.2 device member)
    (shortDevices_contents.mp short device member)
  refine .map (copyEach_allocates counted.1 (countable counted.1) each) (fun _ => rfl)
    fun devices copied => ?_
  obtain ⟨same, each⟩ := map_eq_of_forall₂ copied.2
  refine ⟨?_, ⟨copied.1, fun device member => (each device member).1⟩,
    fun device member => (each device member).2⟩
  simp only [Sdk.copyDeviceDescriptor_eq] at same
  simp only [TrackingGroup.contents, same]

theorem copyTrackingGroupEvent_allocates {source : TrackingGroupEvent}
    (counted : source.WellCounted)
    (short : ShortDevices source.trackingGroup.contents) :
    Allocates (copyTrackingGroupEvent source) TrackingGroupEvent.owned fun copy =>
      copy.contents = source.contents ∧ copy.WellCounted ∧
        ∀ device ∈ copy.trackingGroup.devices.elements, device.owned ≠ [] := by
  refine .map (copyTrackingGroup_allocates counted short) (fun _ => rfl) fun group copied => ?_
  refine ⟨?_, copied.2⟩
  rw [TrackingGroupEvent.contents, TrackingGroupEvent.contents, copied.1]

theorem copyDevicePairingInformation_allocates {source : DevicePairingInformation}
    (counted : source.devicePartNums.Matches) :
    Allocates (copyDevicePairingInformation source) DevicePairingInformation.owned fun copy =>
      copy.contents = source.contents ∧ copy.devicePartNums.Matches := by
  refine .map (copyWords_allocates counted) (fun _ => rfl) fun words copied => ⟨?_, copied.1⟩
  rw [DevicePairingInformation.contents, DevicePairingInformation.contents, copied.2.1]

/-- Everything but the two members that are not written. -/
theorem copyWirelessManagementEvent_allocates {fresh source : WirelessManagementEvent}
    (counted : source.WellCounted)
    (short : source.pairingInformation.devicePairingInformation.elements.length ≤ intMax) :
    Allocates (copyWirelessManagementEvent fresh source) WirelessManagementEvent.owned fun copy =>
      copy.contents = { source.contents with
        clientRequestType := fresh.clientRequestType, requestError := fresh.requestError } ∧
      copy.WellCounted := by
  obtain ⟨countedUuids, countedDevices, countedWords⟩ := counted
  refine .bind (fun copy => copy.pairingInformation.devicePairingInformation.ids ++
      copy.pairingInformation.devicePairingInformation.elements.flatMap
        DevicePairingInformation.owned)
    (copyWords_allocates countedUuids) fun uuids copiedUuids => ?_
  refine .bind (fun _ => []) (copyEach_allocates countedDevices short fun device member =>
    copyDevicePairingInformation_allocates (countedWords device member)) fun devices copied => ?_
  obtain ⟨same, wellCounted⟩ := map_eq_of_forall₂ copied.2
  refine .pure rfl ⟨(List.append_nil _).symm, rfl, ?_, copiedUuids.1, copied.1, wellCounted⟩
  simp only [WirelessManagementEvent.contents, PairingInformation.contents, copiedUuids.2.1, same]

/-! ## A copy that ends had short arrays -/

section Completes

variable {h : Arrays}

theorem copyDeviceDescriptor_completes {source : DeviceDescriptor} (counted : source.WellCounted)
    (completes : Completes (copyDeviceDescriptor source) h) :
    ShortDescriptor source.contents := by
  obtain ⟨units, h₁, copied, rest⟩ := completes_bind completes
  obtain ⟨modes, h₂, copied', -⟩ := completes_bind rest
  exact ⟨copyElements_completes counted.1 ⟨_, _, copied⟩,
    copyElements_completes counted.2 ⟨_, _, copied'⟩⟩

theorem copyTrackingDeviceData_completes {source : TrackingDeviceData}
    (counted : source.WellCounted) (completes : Completes (copyTrackingDeviceData source) h) :
    ShortData source.contents := by
  obtain ⟨countedRaw, countedPoses, countedButtons, countedLatency⟩ := counted
  obtain ⟨raw, h₁, copiedRaw, rest⟩ := completes_bind completes
  obtain ⟨poses, h₂, copiedPoses, rest⟩ := completes_bind rest
  obtain ⟨buttons, h₃, copiedButtons, rest⟩ := completes_bind rest
  obtain ⟨latency, h₄, copiedLatency, -⟩ := completes_bind rest
  exact ⟨copyElements_completes countedRaw ⟨_, _, copiedRaw⟩,
    copyElements_completes countedPoses ⟨_, _, copiedPoses⟩,
    copyElements_completes countedButtons ⟨_, _, copiedButtons⟩,
    copyElements_completes countedLatency ⟨_, _, copiedLatency⟩⟩

theorem copyDevicePacket_completes {source : DevicePacket} (counted : source.WellCounted)
    (completes : Completes (copyDevicePacket source) h) :
    ShortData source.deviceData.contents := by
  obtain ⟨data, h₁, copied, -⟩ := completes_bind completes
  exact copyTrackingDeviceData_completes counted ⟨_, _, copied⟩

theorem copyDataRequest_completes {source : DataRequest} (counted : source.WellCounted)
    (completes : Completes (copyDataRequest source) h) :
    source.requestedDevices.elements.length ≤ intMax := by
  obtain ⟨requested, h₁, copied, -⟩ := completes_bind completes
  split at copied
  · rename_i none
    rw [show source.requestedDevices.elements.length = _ from counted, none]
    exact Nat.zero_le _
  · exact copyElements_completes counted ⟨_, _, copied⟩

theorem copyTrackingGroup_completes {source : TrackingGroup} (counted : source.WellCounted)
    (completes : Completes (copyTrackingGroup source) h) :
    ShortDevices source.contents := by
  refine shortDevices_contents.mpr fun device member => ?_
  obtain ⟨devices, h₁, copied, -⟩ := completes_bind completes
  obtain ⟨h₂, one⟩ := (copyEach_completes counted.1 ⟨_, _, copied⟩).2 device member
  exact copyDeviceDescriptor_completes (counted.2 device member) one

theorem copyTrackingGroupEvent_completes {source : TrackingGroupEvent}
    (counted : source.WellCounted) (completes : Completes (copyTrackingGroupEvent source) h) :
    ShortDevices source.trackingGroup.contents := by
  obtain ⟨group, h₁, copied, -⟩ := completes_bind completes
  exact copyTrackingGroup_completes counted ⟨_, _, copied⟩

theorem copyWirelessManagementEvent_completes {fresh source : WirelessManagementEvent}
    (counted : source.WellCounted)
    (completes : Completes (copyWirelessManagementEvent fresh source) h) :
    source.pairingInformation.devicePairingInformation.elements.length ≤ intMax := by
  obtain ⟨uuids, h₁, -, rest⟩ := completes_bind completes
  obtain ⟨devices, h₂, copied, -⟩ := completes_bind rest
  exact (copyEach_completes counted.2.1 ⟨_, _, copied⟩).1

end Completes

/-! ## What Destroy deletes -/

theorem destroyDeviceDescriptorMembers_releases (descriptor : DeviceDescriptor) :
    Releases (destroyDeviceDescriptorMembers descriptor) descriptor.owned := by
  refine .bind (destroyElements_releases _) fun _ => ?_
  exact .map (destroyElements_releases _)

theorem destroyTrackingDeviceDataMembers_releases (data : TrackingDeviceData) :
    Releases (destroyTrackingDeviceDataMembers data) data.owned := by
  rw [TrackingDeviceData.owned, List.append_assoc, List.append_assoc]
  refine .bind (destroyElements_releases _) fun _ => ?_
  refine .bind (destroyElements_releases _) fun _ => ?_
  refine .bind (destroyElements_releases _) fun _ => ?_
  exact .map (destroyElements_releases _)

theorem destroyDevicePacketMembers_releases (packet : DevicePacket) :
    Releases (destroyDevicePacketMembers packet) packet.owned :=
  .map (destroyTrackingDeviceDataMembers_releases _)

/-- The array of the devices, and none that a device owns. -/
theorem destroyTrackingGroupEventMembers_releases (event : TrackingGroupEvent) :
    Releases (destroyTrackingGroupEventMembers event) event.trackingGroup.devices.ids :=
  .map (.map (destroyElements_releases _))

theorem destroyTrackingGroup_releases {group : TrackingGroup} (counted : group.WellCounted) :
    Releases (destroyTrackingGroup (some group))
      (group.devices.elements.flatMap DeviceDescriptor.owned ++ group.devices.ids) :=
  .bind (forEach_releases counted.1 (countable counted.1) fun device _ =>
    destroyDeviceDescriptorMembers_releases device) fun _ => .deleteArray _

theorem destroyWirelessManagementEvent_releases {event : WirelessManagementEvent}
    (counted : event.WellCounted)
    (short : event.pairingInformation.devicePairingInformation.elements.length ≤ intMax) :
    Releases (destroyWirelessManagementEvent (some event))
      (event.siuUuids.ids ++ (event.pairingInformation.devicePairingInformation.elements.flatMap
        DevicePairingInformation.owned ++ event.pairingInformation.devicePairingInformation.ids)) :=
  .bind (.deleteArray _) fun _ => .bind (forEach_releases counted.2.1 short fun _ _ =>
    .deleteArray _) fun _ => .deleteArray _

/-! ## The seven types -/

inductive Value where
  | deviceDescriptor (v : DeviceDescriptor)
  | trackingDeviceData (v : TrackingDeviceData)
  | devicePacket (v : DevicePacket)
  | dataRequest (v : DataRequest)
  | trackingGroup (v : TrackingGroup)
  | trackingGroupEvent (v : TrackingGroupEvent)
  | wirelessManagementEvent (v : WirelessManagementEvent)

inductive Contents where
  | deviceDescriptor (c : Sdk.DeviceDescriptor)
  | trackingDeviceData (c : Sdk.TrackingDeviceData)
  | devicePacket (c : Sdk.DevicePacket)
  | dataRequest (c : Sdk.DataRequest)
  | trackingGroup (c : Sdk.TrackingGroup)
  | trackingGroupEvent (c : Sdk.TrackingGroupEvent)
  | wirelessManagementEvent (c : Sdk.WirelessManagementEvent)
  deriving DecidableEq

namespace Value

def contents : Value → Contents
  | deviceDescriptor v => .deviceDescriptor v.contents
  | trackingDeviceData v => .trackingDeviceData v.contents
  | devicePacket v => .devicePacket v.contents
  | dataRequest v => .dataRequest v.contents
  | trackingGroup v => .trackingGroup v.contents
  | trackingGroupEvent v => .trackingGroupEvent v.contents
  | wirelessManagementEvent v => .wirelessManagementEvent v.contents

def WellCounted : Value → Prop
  | deviceDescriptor v => v.WellCounted
  | trackingDeviceData v => v.WellCounted
  | devicePacket v => v.WellCounted
  | dataRequest v => v.WellCounted
  | trackingGroup v => v.WellCounted
  | trackingGroupEvent v => v.WellCounted
  | wirelessManagementEvent v => v.WellCounted

def owned : Value → List ArrayId
  | deviceDescriptor v => v.owned
  | trackingDeviceData v => v.owned
  | devicePacket v => v.owned
  | dataRequest v => v.owned
  | trackingGroup v => v.owned
  | trackingGroupEvent v => v.owned
  | wirelessManagementEvent v => v.owned

/-- The Copy function of the type; `fresh` is the memory a wireless event is built in. -/
def copy (fresh : WirelessManagementEvent) : Value → ArrayM Value
  | deviceDescriptor v => do return deviceDescriptor (← copyDeviceDescriptor v)
  | trackingDeviceData v => do return trackingDeviceData (← copyTrackingDeviceData v)
  | devicePacket v => do return devicePacket (← copyDevicePacket v)
  | dataRequest v => do return dataRequest (← copyDataRequest v)
  | trackingGroup v => do return trackingGroup (← copyTrackingGroup v)
  | trackingGroupEvent v => do return trackingGroupEvent (← copyTrackingGroupEvent v)
  | wirelessManagementEvent v => do
      return wirelessManagementEvent (← copyWirelessManagementEvent fresh v)

/-- The Destroy function of the type. -/
def destroy : Value → ArrayM Unit
  | deviceDescriptor v => destroyDeviceDescriptor (some v)
  | trackingDeviceData v => destroyTrackingDeviceData (some v)
  | devicePacket v => destroyDevicePacket (some v)
  | dataRequest v => destroyDataRequest (some v)
  | trackingGroup v => destroyTrackingGroup (some v)
  | trackingGroupEvent v => destroyTrackingGroupEvent (some v)
  | wirelessManagementEvent v => destroyWirelessManagementEvent (some v)

/-- What the Destroy function deletes, in its order. -/
def released : Value → List ArrayId
  | deviceDescriptor v => v.owned
  | trackingDeviceData v => v.owned
  | devicePacket v => v.owned
  | dataRequest v => v.owned
  | trackingGroup v => v.devices.elements.flatMap DeviceDescriptor.owned ++ v.devices.ids
  | trackingGroupEvent v => v.trackingGroup.devices.ids
  | wirelessManagementEvent v =>
      v.siuUuids.ids ++ (v.pairingInformation.devicePairingInformation.elements.flatMap
        DevicePairingInformation.owned ++ v.pairingInformation.devicePairingInformation.ids)

end Value

namespace Contents

/-- Every array that a Copy function runs over with an `int` has at most `2 ^ 31 - 1`
elements. -/
def Short : Contents → Prop
  | deviceDescriptor c => ShortDescriptor c
  | trackingDeviceData c => ShortData c
  | devicePacket c => ShortData c.data
  | dataRequest c => c.requestedDevices.length ≤ intMax
  | trackingGroup c => ShortDevices c
  | trackingGroupEvent c => ShortDevices c.trackingGroup
  | wirelessManagementEvent c => c.pairingInformation.devicePairingInformation.length ≤ intMax

/-- What a copy in the memory `fresh` reads. -/
def copied (fresh : WirelessManagementEvent) : Contents → Contents
  | wirelessManagementEvent c => wirelessManagementEvent { c with
      clientRequestType := fresh.clientRequestType, requestError := fresh.requestError }
  | c => c

theorem short_copied (fresh : WirelessManagementEvent) (c : Contents) :
    (c.copied fresh).Short ↔ c.Short := by
  cases c <;> exact Iff.rfl

end Contents

namespace Value

variable {source : Value} {fresh : WirelessManagementEvent} {h : Arrays}

/-- Every device in a group event owns an array. -/
def DevicesOwn : Value → Prop
  | trackingGroupEvent v => ∀ device ∈ v.trackingGroup.devices.elements, device.owned ≠ []
  | _ => True

/-- The spec of the Copy functions. -/
theorem copy_allocates (counted : source.WellCounted) (short : source.contents.Short) :
    Allocates (source.copy fresh) owned fun copy =>
      copy.contents = source.contents.copied fresh ∧ copy.WellCounted ∧ copy.DevicesOwn := by
  cases source with
  | deviceDescriptor v =>
      exact .map (copyDeviceDescriptor_allocates counted short) (fun _ => rfl)
        fun _ copied => ⟨congrArg Contents.deviceDescriptor
          (copied.1.trans (Sdk.copyDeviceDescriptor_eq _)), copied.2.1, trivial⟩
  | trackingDeviceData v =>
      exact .map (copyTrackingDeviceData_allocates counted short) (fun _ => rfl)
        fun _ copied => ⟨congrArg Contents.trackingDeviceData
          (copied.1.trans (Sdk.copyTrackingDeviceData_eq _)), copied.2, trivial⟩
  | devicePacket v =>
      exact .map (copyDevicePacket_allocates counted short) (fun _ => rfl)
        fun _ copied => ⟨congrArg Contents.devicePacket
          (copied.1.trans (Sdk.copyDevicePacket_eq _)), copied.2, trivial⟩
  | dataRequest v =>
      exact .map (copyDataRequest_allocates counted short) (fun _ => rfl)
        fun _ copied => ⟨congrArg Contents.dataRequest
          (copied.1.trans (Sdk.copyDataRequest_eq _)), copied.2, trivial⟩
  | trackingGroup v =>
      exact .map (copyTrackingGroup_allocates counted short) (fun _ => rfl)
        fun _ copied => ⟨congrArg Contents.trackingGroup copied.1, copied.2.1, trivial⟩
  | trackingGroupEvent v =>
      exact .map (copyTrackingGroupEvent_allocates counted short) (fun _ => rfl)
        fun _ copied => ⟨congrArg Contents.trackingGroupEvent copied.1, copied.2⟩
  | wirelessManagementEvent v =>
      exact .map
        (copyWirelessManagementEvent_allocates counted (List.length_map _ ▸ short))
        (fun _ => rfl)
        fun _ copied => ⟨congrArg Contents.wirelessManagementEvent copied.1, copied.2, trivial⟩

theorem copy_completes (counted : source.WellCounted)
    (completes : Completes (source.copy fresh) h) : source.contents.Short := by
  cases source with
  | deviceDescriptor v =>
      obtain ⟨copy, after, run, -⟩ := completes_bind completes
      exact copyDeviceDescriptor_completes counted ⟨_, _, run⟩
  | trackingDeviceData v =>
      obtain ⟨copy, after, run, -⟩ := completes_bind completes
      exact copyTrackingDeviceData_completes counted ⟨_, _, run⟩
  | devicePacket v =>
      obtain ⟨copy, after, run, -⟩ := completes_bind completes
      exact copyDevicePacket_completes counted ⟨_, _, run⟩
  | dataRequest v =>
      obtain ⟨copy, after, run, -⟩ := completes_bind completes
      exact copyDataRequest_completes counted ⟨_, _, run⟩
  | trackingGroup v =>
      obtain ⟨copy, after, run, -⟩ := completes_bind completes
      exact copyTrackingGroup_completes counted ⟨_, _, run⟩
  | trackingGroupEvent v =>
      obtain ⟨copy, after, run, -⟩ := completes_bind completes
      exact copyTrackingGroupEvent_completes counted ⟨_, _, run⟩
  | wirelessManagementEvent v =>
      obtain ⟨copy, after, run, -⟩ := completes_bind completes
      exact (List.length_map _).trans_le (copyWirelessManagementEvent_completes counted ⟨_, _, run⟩)

/-- The spec of the Destroy functions. -/
theorem destroy_releases (counted : source.WellCounted) (short : source.contents.Short) :
    Releases source.destroy source.released := by
  cases source with
  | deviceDescriptor v => exact .map (destroyDeviceDescriptorMembers_releases v)
  | trackingDeviceData v => exact .map (destroyTrackingDeviceDataMembers_releases v)
  | devicePacket v => exact .map (destroyDevicePacketMembers_releases v)
  | dataRequest v => exact .deleteArray _
  | trackingGroup v => exact destroyTrackingGroup_releases counted
  | trackingGroupEvent v => exact .map (destroyTrackingGroupEventMembers_releases v)
  | wirelessManagementEvent v =>
      exact destroyWirelessManagementEvent_releases counted (List.length_map _ ▸ short)

/-! ### A faithful deep copy -/

/-- The copy reads like the source, its counts match, and its arrays are new. -/
structure DeepCopyOf (h : Arrays) (source copy : Value) : Prop where
  contents : copy.contents = source.contents
  wellCounted : copy.WellCounted
  new : ∀ id ∈ copy.owned, id ∉ h.live

/-- Whatever the memory held, the Copy function ends with a faithful deep copy exactly if the
arrays are short and the value is not a `WirelessManagementEvent`. -/
theorem copy_deepCopyOf_iff (source : Value) (counted : source.WellCounted) (h : Arrays) :
    (∀ fresh, ∃ copy after,
      (source.copy fresh).run h = .ok (copy, after) ∧ DeepCopyOf h source copy) ↔
    source.contents.Short ∧ ∀ event, source ≠ .wirelessManagementEvent event := by
  constructor
  · intro faithful
    obtain ⟨copy, after, run, -⟩ := faithful default
    have short := copy_completes counted ⟨_, _, run⟩
    refine ⟨short, fun event wireless => ?_⟩
    subst wireless
    -- memory that holds another request type than the source
    have other := faithful { clientRequestType := event.clientRequestType + 1 }
    obtain ⟨copy, after, run, deep⟩ := other
    obtain ⟨copy', run', -, copied, -⟩ := copy_allocates counted short h
    rw [run] at run'
    cases run'
    rw [deep.contents] at copied
    have same := congrArg Sdk.WirelessManagementEvent.clientRequestType
      (Contents.wirelessManagementEvent.inj copied)
    exact absurd same (by simp [WirelessManagementEvent.contents])
  · rintro ⟨short, plain⟩ fresh
    obtain ⟨copy, run, created, copied, wellCounted, -⟩ := copy_allocates counted short h
    refine ⟨copy, _, run, ?_, wellCounted, fun id member => ?_⟩
    · rw [copied]
      cases source with
      | wirelessManagementEvent event => exact absurd rfl (plain event)
      | _ => rfl
    · rw [created] at member
      exact ((h.mem_created _).mp member).2

/-- A group with one device that has one sensor unit; its arrays are 0 and 1. -/
def oneGroup : TrackingGroup where
  siuUuid := 7
  portId := 0
  devices := ⟨1, .array 0 [{
    siuUuid := 7
    portId := 2
    sensorUnitDescriptors := ⟨1, .array 1 [{ uuid := 42 }]⟩ }]⟩

theorem wellCounted_oneGroup : oneGroup.WellCounted :=
  ⟨rfl, List.forall_mem_singleton.mpr ⟨rfl, rfl⟩⟩

theorem shortDevices_oneGroup : ShortDevices oneGroup.contents :=
  List.forall_mem_singleton.mpr ⟨by decide, by decide⟩

theorem copy_deepCopyOf_iff_group :
    ∃ copy after, ((trackingGroup oneGroup).copy default).run (Arrays.empty.grow 2) =
        .ok (copy, after) ∧
      DeepCopyOf (Arrays.empty.grow 2) (trackingGroup oneGroup) copy :=
  (copy_deepCopyOf_iff (trackingGroup oneGroup) wellCounted_oneGroup _).mpr
    ⟨shortDevices_oneGroup, nofun⟩ default

/-- The answer to a request that approves a pairing. -/
def approvalAck : WirelessManagementEvent := { eventType := 5, clientRequestType := 4 }

/-- Copied into cleared memory, the answer is to no request. -/
theorem copy_forgets_requestType :
    approvalAck.WellCounted ∧ ∃ copy after,
      ((wirelessManagementEvent approvalAck).copy default).run .empty = .ok (copy, after) ∧
      copy.contents ≠ (wirelessManagementEvent approvalAck).contents :=
  ⟨⟨rfl, rfl, List.forall_mem_nil _⟩, _, _, rfl, by decide⟩

/-! ### Destroy undoes Copy -/

theorem released_subperm (v : Value) : v.released.Subperm v.owned := by
  cases v with
  | trackingGroup v => exact List.perm_append_comm.subperm
  | trackingGroupEvent v => exact (List.sublist_append_left _ _).subperm
  | wirelessManagementEvent v => exact (List.perm_append_comm.append_left _).subperm
  | _ => exact List.Subperm.refl _

/-- No device of a group event, no array that is kept. -/
theorem released_perm {v : Value} (childless : ∀ event, v = .trackingGroupEvent event →
    event.trackingGroup.devices.elements = []) : v.released.Perm v.owned := by
  cases v with
  | trackingGroup v => exact List.perm_append_comm
  | trackingGroupEvent v =>
      rw [released, owned, TrackingGroupEvent.owned, TrackingGroup.owned, childless v rfl,
        List.flatMap_nil, List.append_nil]
  | wirelessManagementEvent v => exact List.perm_append_comm.append_left _
  | _ => exact List.Perm.refl _

/-- Group events that read the same have devices both or neither. -/
theorem devices_eq_nil_iff {copy event : TrackingGroupEvent}
    (same : copy.contents = event.contents) :
    copy.trackingGroup.devices.elements = [] ↔ event.trackingGroup.devices.elements = [] := by
  have devices : copy.trackingGroup.devices.elements.map DeviceDescriptor.contents =
      event.trackingGroup.devices.elements.map DeviceDescriptor.contents :=
    congrArg (fun c => c.trackingGroup.devices) same
  rw [← List.map_eq_nil_iff, devices, List.map_eq_nil_iff]

/-- Copy and then Destroy: the arrays of the copy come, and the released ones go. -/
theorem run_copy_destroy (fresh : WirelessManagementEvent) (h : Arrays)
    (counted : source.WellCounted) (short : source.contents.Short) :
    ∃ copy, (source.copy fresh).run h = .ok (copy, h.grow copy.owned.length) ∧
      copy.destroy.run (h.grow copy.owned.length) =
        .ok ((), (h.grow copy.owned.length).release copy.released) ∧
      copy.owned = List.range' h.next copy.owned.length ∧
      copy.contents = source.contents.copied fresh ∧ copy.DevicesOwn := by
  obtain ⟨copy, run, created, copied, wellCounted, own⟩ := copy_allocates counted short h
  have shortCopy : copy.contents.Short := by
    rw [copied, Contents.short_copied]
    exact short
  have distinct : copy.owned.Nodup := by
    rw [created]
    exact List.nodup_range'
  have there : ∀ id ∈ copy.released, id ∈ (h.grow copy.owned.length).live := by
    intro id member
    have member' := copy.released_subperm.subset member
    rw [created] at member'
    exact ((h.mem_created _).mp member').1
  obtain ⟨deleted, perm, sublist⟩ := copy.released_subperm
  obtain ⟨u, destroyed⟩ := destroy_releases wellCounted shortCopy _
    (perm.nodup_iff.mp (sublist.nodup distinct)) there
  exact ⟨copy, run, destroyed, created, copied, own⟩

/-- An array of a device in a group event is not among the released ones. -/
theorem kept_of_devices {event : TrackingGroupEvent} (distinct : event.owned.Nodup)
    (own : DevicesOwn (.trackingGroupEvent event))
    (devices : event.trackingGroup.devices.elements ≠ []) :
    ∃ id ∈ event.owned, id ∉ released (.trackingGroupEvent event) := by
  obtain ⟨device, member⟩ := List.exists_mem_of_ne_nil _ devices
  obtain ⟨id, mine⟩ := List.exists_mem_of_ne_nil _ (own device member)
  have below : id ∈ event.trackingGroup.devices.elements.flatMap DeviceDescriptor.owned :=
    List.mem_flatMap.mpr ⟨device, member, mine⟩
  refine ⟨id, List.mem_append_right _ below, fun above => ?_⟩
  exact (List.nodup_append.mp distinct).2.2 id above id below rfl

/-- Copy and then Destroy restores the set of arrays, each array of the copy being deleted
once, exactly if the arrays are short and the value is not a `TrackingGroupEvent` with
devices. -/
theorem destroy_undoes_copy_iff (source : Value) (counted : source.WellCounted)
    (fresh : WirelessManagementEvent) (h : Arrays) :
    (∃ copy between after, (source.copy fresh).run h = .ok (copy, between) ∧
      copy.destroy.run between = .ok ((), after) ∧ Arrays.Undone h between after) ↔
    source.contents.Short ∧ ∀ event, source = .trackingGroupEvent event →
      event.trackingGroup.devices.elements = [] := by
  constructor
  · rintro ⟨copy, between, after, run, destroyed, undone⟩
    have short := copy_completes counted ⟨_, _, run⟩
    refine ⟨short, fun event isEvent => ?_⟩
    subst isEvent
    obtain ⟨copy', run', destroyed', created, copied, own⟩ :=
      run_copy_destroy fresh h counted short
    rw [run] at run'
    cases run'
    rw [destroyed] at destroyed'
    cases destroyed'
    by_contra devices
    cases copy with
    | trackingGroupEvent copy =>
        have same := Contents.trackingGroupEvent.inj copied
        have distinct : copy.owned.Nodup := by
          rw [show copy.owned = _ from created]
          exact List.nodup_range'
        obtain ⟨id, mine, kept⟩ :=
          kept_of_devices distinct own (mt (devices_eq_nil_iff same).mp devices)
        rw [show copy.owned = _ from created] at mine
        exact h.not_undone_release _ _ mine kept undone
    | _ => cases copied
  · rintro ⟨short, childless⟩
    obtain ⟨copy, run, destroyed, created, copied, -⟩ :=
      run_copy_destroy fresh h counted short
    refine ⟨copy, _, _, run, destroyed, h.undone_release _ _ ?_⟩
    rw [← created]
    refine released_perm fun event isEvent => ?_
    subst isEvent
    cases source with
    | trackingGroupEvent source =>
        have same := Contents.trackingGroupEvent.inj copied
        exact (devices_eq_nil_iff same).mpr (childless source rfl)
    | _ => cases copied

theorem destroy_undoes_copy_iff_group :
    ∃ copy between after, ((trackingGroup oneGroup).copy default).run (Arrays.empty.grow 2) =
        .ok (copy, between) ∧
      copy.destroy.run between = .ok ((), after) ∧
      Arrays.Undone (Arrays.empty.grow 2) between after :=
  (destroy_undoes_copy_iff (trackingGroup oneGroup) wellCounted_oneGroup default _).mpr
    ⟨shortDevices_oneGroup, nofun⟩

/-- The two arrays of the device in the copied event are left. -/
theorem destroy_leaves_device_arrays :
    (trackingGroupEvent ⟨true, oneGroup⟩).WellCounted ∧ ∃ copy between after,
      ((trackingGroupEvent ⟨true, oneGroup⟩).copy default).run (Arrays.empty.grow 2) =
        .ok (copy, between) ∧
      copy.destroy.run between = .ok ((), after) ∧
      ¬ Arrays.Undone (Arrays.empty.grow 2) between after :=
  ⟨wellCounted_oneGroup, _, _, _, rfl, rfl, fun undone => absurd undone.live (by decide)⟩

end Value

end OmmoSdk.Sdk.Owned
