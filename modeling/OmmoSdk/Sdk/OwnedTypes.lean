/-
# Sdk.OwnedTypes — `sdk_types.cpp` with its pointers: Copy and Destroy

`Sdk.Types` has a list for each pair of a count field and a pointer.  Here the two are kept
apart, as `sdk_types.h` declares them: `Counted` is such a pair, and the pointer names its
array.  `contents` is what a user can read, in the words of `Sdk.Types`; `owned` are the
arrays of a value in the order in which its Copy function creates them.

The Copy and Destroy functions run in `ArrayM`: `new T[n]` creates an array, `delete[]`
deletes one, and memory does not run out.  The single object that `new T` makes and `delete`
removes is the value itself; `MoveAndDeletePtr` hands its members over and the arrays stay.
What `new T` leaves uninitialised matters where a Copy function does not write every member:
`copyWirelessManagementEvent` gets it as an argument.
-/
import OmmoSdk.Sdk.Types
import OmmoSdk.Theory.OwnedArrays

namespace OmmoSdk.Sdk

set_option autoImplicit false

/-! ## The remaining types that own arrays -/

abbrev WirelessManagementEventType := Int32
abbrev WirelessManagementRequestType := Int32
abbrev WirelessManagementError := Int32

structure TrackingGroup where
  siuUuid : UInt32
  portId : UInt32
  devices : List DeviceDescriptor := []
  deriving DecidableEq, Repr

structure TrackingGroupEvent where
  connected : Bool
  trackingGroup : TrackingGroup
  deriving DecidableEq, Repr

structure DevicePairingInformation where
  devicePartNums : List UInt32 := []
  deriving DecidableEq, Repr

structure PairingInformation where
  siuUuid : UInt32 := 0
  devicePairingInformation : List DevicePairingInformation := []
  deriving DecidableEq, Repr

structure WirelessManagementEvent where
  eventType : WirelessManagementEventType := 0
  clientRequestType : WirelessManagementRequestType := 0
  siuUuids : List UInt32 := []
  requestError : WirelessManagementError := 0
  pairingInformation : PairingInformation := {}
  deriving DecidableEq, Repr

/-! ## Memory layouts -/

namespace Owned

open OmmoSdk.Theory

/-- A pointer that is null or names an array. -/
inductive ArrayPtr (α : Type) where
  | null
  | array (id : ArrayId) (elements : List α)
  deriving Repr

section Pointers

variable {α : Type}

def ArrayPtr.id? : ArrayPtr α → Option ArrayId
  | .null => none
  | .array id _ => some id

def ArrayPtr.elements : ArrayPtr α → List α
  | .null => []
  | .array _ elements => elements

/-- A count field and the pointer it belongs to. -/
structure Counted (α : Type) where
  count : UInt32 := 0
  pointer : ArrayPtr α := .null
  deriving Repr

def Counted.elements (xs : Counted α) : List α := xs.pointer.elements
def Counted.ids (xs : Counted α) : List ArrayId := xs.pointer.id?.toList

/-- The count is the length of the array. -/
def Counted.Matches (xs : Counted α) : Prop := xs.elements.length = xs.count.toNat

instance (xs : Counted α) : Decidable xs.Matches :=
  inferInstanceAs (Decidable (xs.elements.length = xs.count.toNat))

end Pointers

structure DeviceDescriptor where
  siuUuid : UInt32
  portId : UInt32
  userDeviceType : UInt32 := 0
  buttonCount : UInt32 := 0
  sensorUnitDescriptors : Counted SensorUnitDescriptor := {}
  supportedFusionModes : Counted DeviceFusionMode := {}
  devicePartNumber : UInt32 := 0
  secureDeviceInfo : Bool := false

structure TrackingDeviceData where
  siuUuid : UInt32 := 0
  portId : UInt32 := 0
  basestationAngle : UInt32 := 0
  basestationSpeed : UInt32 := 0
  timestamp : UInt32 := 0
  rawSensorData : Counted RawSensorData := {}
  poses : Counted PoseData := {}
  buttons : Counted ButtonState := {}
  latencyTimestamps : Counted TimestampData := {}
  batteryState : BatteryState := {}

structure DevicePacket where
  packetIdx : UInt32
  deviceData : TrackingDeviceData

structure DataRequest where
  dataFieldMask : UInt32
  reportInterval : UInt32
  bufferDepth : UInt32
  requestedFusionMode : DeviceFusionMode
  includeRawSensorData : Bool
  requestedDevices : Counted DeviceID := {}

structure TrackingGroup where
  siuUuid : UInt32
  portId : UInt32
  devices : Counted DeviceDescriptor := {}

structure TrackingGroupEvent where
  connected : Bool
  trackingGroup : TrackingGroup

structure DevicePairingInformation where
  devicePartNums : Counted UInt32 := {}

structure PairingInformation where
  siuUuid : UInt32 := 0
  devicePairingInformation : Counted DevicePairingInformation := {}

structure WirelessManagementEvent where
  eventType : WirelessManagementEventType := 0
  clientRequestType : WirelessManagementRequestType := 0
  siuUuids : Counted UInt32 := {}
  requestError : WirelessManagementError := 0
  pairingInformation : PairingInformation := {}
  deriving Inhabited

/-! ## What a user reads -/

def DeviceDescriptor.contents (v : DeviceDescriptor) : Sdk.DeviceDescriptor where
  siuUuid := v.siuUuid
  portId := v.portId
  userDeviceType := v.userDeviceType
  buttonCount := v.buttonCount
  sensorUnitDescriptors := v.sensorUnitDescriptors.elements
  supportedFusionModes := v.supportedFusionModes.elements
  devicePartNumber := v.devicePartNumber
  secureDeviceInfo := v.secureDeviceInfo

def TrackingDeviceData.contents (v : TrackingDeviceData) : Sdk.TrackingDeviceData where
  siuUuid := v.siuUuid
  portId := v.portId
  basestationAngle := v.basestationAngle
  basestationSpeed := v.basestationSpeed
  timestamp := v.timestamp
  rawSensorData := v.rawSensorData.elements
  poses := v.poses.elements
  buttons := v.buttons.elements
  latencyTimestamps := v.latencyTimestamps.elements
  batteryState := v.batteryState

def DevicePacket.contents (v : DevicePacket) : Sdk.DevicePacket where
  packetIdx := v.packetIdx
  data := v.deviceData.contents

def DataRequest.contents (v : DataRequest) : Sdk.DataRequest where
  dataFieldMask := v.dataFieldMask
  reportInterval := v.reportInterval
  bufferDepth := v.bufferDepth
  requestedFusionMode := v.requestedFusionMode
  includeRawSensorData := v.includeRawSensorData
  requestedDevices := v.requestedDevices.elements

def TrackingGroup.contents (v : TrackingGroup) : Sdk.TrackingGroup where
  siuUuid := v.siuUuid
  portId := v.portId
  devices := v.devices.elements.map DeviceDescriptor.contents

def TrackingGroupEvent.contents (v : TrackingGroupEvent) : Sdk.TrackingGroupEvent where
  connected := v.connected
  trackingGroup := v.trackingGroup.contents

def DevicePairingInformation.contents (v : DevicePairingInformation) :
    Sdk.DevicePairingInformation where
  devicePartNums := v.devicePartNums.elements

def PairingInformation.contents (v : PairingInformation) : Sdk.PairingInformation where
  siuUuid := v.siuUuid
  devicePairingInformation :=
    v.devicePairingInformation.elements.map DevicePairingInformation.contents

def WirelessManagementEvent.contents (v : WirelessManagementEvent) :
    Sdk.WirelessManagementEvent where
  eventType := v.eventType
  clientRequestType := v.clientRequestType
  siuUuids := v.siuUuids.elements
  requestError := v.requestError
  pairingInformation := v.pairingInformation.contents

/-! ## Counts that match -/

def DeviceDescriptor.WellCounted (v : DeviceDescriptor) : Prop :=
  v.sensorUnitDescriptors.Matches ∧ v.supportedFusionModes.Matches

def TrackingDeviceData.WellCounted (v : TrackingDeviceData) : Prop :=
  v.rawSensorData.Matches ∧ v.poses.Matches ∧ v.buttons.Matches ∧ v.latencyTimestamps.Matches

def DevicePacket.WellCounted (v : DevicePacket) : Prop := v.deviceData.WellCounted

def DataRequest.WellCounted (v : DataRequest) : Prop := v.requestedDevices.Matches

def TrackingGroup.WellCounted (v : TrackingGroup) : Prop :=
  v.devices.Matches ∧ ∀ device ∈ v.devices.elements, device.WellCounted

def TrackingGroupEvent.WellCounted (v : TrackingGroupEvent) : Prop := v.trackingGroup.WellCounted

def WirelessManagementEvent.WellCounted (v : WirelessManagementEvent) : Prop :=
  v.siuUuids.Matches ∧ v.pairingInformation.devicePairingInformation.Matches ∧
    ∀ device ∈ v.pairingInformation.devicePairingInformation.elements,
      device.devicePartNums.Matches

/-! ## The arrays of a value -/

def DeviceDescriptor.owned (v : DeviceDescriptor) : List ArrayId :=
  v.sensorUnitDescriptors.ids ++ v.supportedFusionModes.ids

def TrackingDeviceData.owned (v : TrackingDeviceData) : List ArrayId :=
  v.rawSensorData.ids ++ v.poses.ids ++ v.buttons.ids ++ v.latencyTimestamps.ids

def DevicePacket.owned (v : DevicePacket) : List ArrayId := v.deviceData.owned

def DataRequest.owned (v : DataRequest) : List ArrayId := v.requestedDevices.ids

def TrackingGroup.owned (v : TrackingGroup) : List ArrayId :=
  v.devices.ids ++ v.devices.elements.flatMap DeviceDescriptor.owned

def TrackingGroupEvent.owned (v : TrackingGroupEvent) : List ArrayId := v.trackingGroup.owned

def DevicePairingInformation.owned (v : DevicePairingInformation) : List ArrayId :=
  v.devicePartNums.ids

def WirelessManagementEvent.owned (v : WirelessManagementEvent) : List ArrayId :=
  v.siuUuids.ids ++ (v.pairingInformation.devicePairingInformation.ids ++
    v.pairingInformation.devicePairingInformation.elements.flatMap DevicePairingInformation.owned)

/-! ## Copies -/

section Copies

variable {α β : Type}

/-- the largest `int` -/
def intMax : Nat := 2 ^ 31 - 1
/-- the largest `uint32_t` -/
def uint32Max : Nat := 2 ^ 32 - 1

/-- `p = new T[count]`, then a loop that gives every `p[i]` the copy of `source[i]`. -/
def copyEach (limit : Nat) (copyElement : α → ArrayM β) (source : Counted α) :
    ArrayM (Counted β) := do
  let id ← createArray
  let elements ← forIndex limit source.count.toNat fun i =>
    readElement source.elements i >>= copyElement
  return ⟨source.count, .array id elements⟩

/-- `for (int i = 0; i < count; i++) p[i] = source[i];` -/
def copyElements (source : Counted α) : ArrayM (Counted α) := copyEach intMax pure source

/-- `p = new uint32_t[count]; memcpy(p, source, count * sizeof(uint32_t));`  There is no
index whose type could be too small. -/
def copyWords (source : Counted UInt32) : ArrayM (Counted UInt32) := do
  let id ← createArray
  let words ← (List.range source.count.toNat).mapM fun i => readElement source.elements i
  return ⟨source.count, .array id words⟩

end Copies

def copyDeviceDescriptor (source : DeviceDescriptor) : ArrayM DeviceDescriptor := do
  let sensorUnitDescriptors ← copyElements source.sensorUnitDescriptors
  let supportedFusionModes ← copyElements source.supportedFusionModes
  return {
    siuUuid := source.siuUuid
    portId := source.portId
    userDeviceType := source.userDeviceType
    buttonCount := source.buttonCount
    devicePartNumber := source.devicePartNumber
    secureDeviceInfo := source.secureDeviceInfo
    sensorUnitDescriptors
    supportedFusionModes }

def copyTrackingDeviceData (source : TrackingDeviceData) : ArrayM TrackingDeviceData := do
  let rawSensorData ← copyElements source.rawSensorData
  let poses ← copyElements source.poses
  let buttons ← copyElements source.buttons
  let latencyTimestamps ← copyElements source.latencyTimestamps
  return {
    siuUuid := source.siuUuid
    portId := source.portId
    basestationAngle := source.basestationAngle
    basestationSpeed := source.basestationSpeed
    timestamp := source.timestamp
    rawSensorData
    batteryState := source.batteryState
    poses
    buttons
    latencyTimestamps }

def copyDevicePacket (source : DevicePacket) : ArrayM DevicePacket := do
  let deviceData ← copyTrackingDeviceData source.deviceData
  return { packetIdx := source.packetIdx, deviceData }

def copyDataRequest (source : DataRequest) : ArrayM DataRequest := do
  let requestedDevices ← (
    if source.requestedDevices.count = 0 then pure ⟨source.requestedDevices.count, .null⟩
    else copyElements source.requestedDevices)
  return {
    dataFieldMask := source.dataFieldMask
    reportInterval := source.reportInterval
    bufferDepth := source.bufferDepth
    requestedFusionMode := source.requestedFusionMode
    includeRawSensorData := source.includeRawSensorData
    requestedDevices }

def copyTrackingGroup (source : TrackingGroup) : ArrayM TrackingGroup := do
  let devices ← copyEach uint32Max copyDeviceDescriptor source.devices
  return { siuUuid := source.siuUuid, portId := source.portId, devices }

def copyTrackingGroupEvent (source : TrackingGroupEvent) : ArrayM TrackingGroupEvent := do
  let trackingGroup ← copyTrackingGroup source.trackingGroup
  return { connected := source.connected, trackingGroup }

/-- The body of the loop in `CopyWirelessManagementEvent`. -/
def copyDevicePairingInformation (source : DevicePairingInformation) :
    ArrayM DevicePairingInformation := do
  let devicePartNums ← copyWords source.devicePartNums
  return { devicePartNums }

/-- `fresh` is what is in the memory of the new event.  `client_request_type` and
`request_error` are never written. -/
def copyWirelessManagementEvent (fresh source : WirelessManagementEvent) :
    ArrayM WirelessManagementEvent := do
  let siuUuids ← copyWords source.siuUuids
  let devicePairingInformation ← copyEach intMax copyDevicePairingInformation
    source.pairingInformation.devicePairingInformation
  return { fresh with
    eventType := source.eventType
    siuUuids
    pairingInformation := {
      siuUuid := source.pairingInformation.siuUuid
      devicePairingInformation } }

/-! ## Destroy functions -/

section Destroy

variable {α : Type}

/-- `count = 0; delete[] p; p = nullptr;` -/
def destroyElements (xs : Counted α) : ArrayM (Counted α) := do
  deleteArray xs.pointer.id?
  return { count := 0, pointer := .null }

end Destroy

def destroyDeviceDescriptorMembers (descriptor : DeviceDescriptor) : ArrayM DeviceDescriptor := do
  let sensorUnitDescriptors ← destroyElements descriptor.sensorUnitDescriptors
  let supportedFusionModes ← destroyElements descriptor.supportedFusionModes
  return { descriptor with sensorUnitDescriptors, supportedFusionModes }

def destroyTrackingDeviceDataMembers (data : TrackingDeviceData) : ArrayM TrackingDeviceData := do
  let rawSensorData ← destroyElements data.rawSensorData
  let poses ← destroyElements data.poses
  let buttons ← destroyElements data.buttons
  let latencyTimestamps ← destroyElements data.latencyTimestamps
  return { data with rawSensorData, poses, buttons, latencyTimestamps }

def destroyDevicePacketMembers (packet : DevicePacket) : ArrayM DevicePacket := do
  let deviceData ← destroyTrackingDeviceDataMembers packet.deviceData
  return { packet with deviceData }

/-- The devices are not visited: their own arrays stay. -/
def destroyTrackingGroupMembers (trackingGroup : TrackingGroup) : ArrayM TrackingGroup := do
  let devices ← destroyElements trackingGroup.devices
  return { trackingGroup with devices }

def destroyTrackingGroupEventMembers (event : TrackingGroupEvent) : ArrayM TrackingGroupEvent := do
  let trackingGroup ← destroyTrackingGroupMembers event.trackingGroup
  return { event with trackingGroup }

def destroyDeviceDescriptor : Option DeviceDescriptor → ArrayM Unit
  | none => return
  | some descriptor => do
      let _ ← destroyDeviceDescriptorMembers descriptor
      return

def destroyTrackingDeviceData : Option TrackingDeviceData → ArrayM Unit
  | none => return
  | some data => do
      let _ ← destroyTrackingDeviceDataMembers data
      return

def destroyDevicePacket : Option DevicePacket → ArrayM Unit
  | none => return
  | some packet => do
      let _ ← destroyDevicePacketMembers packet
      return

def destroyDataRequest : Option DataRequest → ArrayM Unit
  | none => return
  | some request => deleteArray request.requestedDevices.pointer.id?

/-- Unlike `destroyTrackingGroupMembers` it visits the devices. -/
def destroyTrackingGroup : Option TrackingGroup → ArrayM Unit
  | none => return
  | some group => do
      let _ ← forIndex uint32Max group.devices.count.toNat fun i =>
        readElement group.devices.elements i >>= destroyDeviceDescriptorMembers
      deleteArray group.devices.pointer.id?

def destroyTrackingGroupEvent : Option TrackingGroupEvent → ArrayM Unit
  | none => return
  | some event => do
      let _ ← destroyTrackingGroupEventMembers event
      return

def destroyWirelessManagementEvent : Option WirelessManagementEvent → ArrayM Unit
  | none => return
  | some event => do
      deleteArray event.siuUuids.pointer.id?
      let devices := event.pairingInformation.devicePairingInformation
      let _ ← forIndex intMax devices.count.toNat fun i => do
        let device ← readElement devices.elements i
        deleteArray device.devicePartNums.pointer.id?
      deleteArray devices.pointer.id?

end Owned

end OmmoSdk.Sdk
