/-
# Sdk.OwnedConversions — `protobuf_converters.cpp` with its pointers

The converters allocate what the user later gives back to a Destroy function.  They are
modelled like the Copy functions of `Sdk.OwnedTypes`: `convertEach` is a repeated field that
becomes a counted array, element by element, and `newString` a `string` field that becomes a
`char*`.  `MoveUniquePtr` hands the members of an element over to the slot of the array; the
arrays stay.

The second half are the Destroy functions of the types that only converters make.
-/
import OmmoSdk.Sdk.ServiceMessages
import OmmoSdk.Theory.Custody

namespace OmmoSdk.Sdk.Owned

open OmmoSdk.Theory

set_option autoImplicit false

/-! ## Memory layouts -/

structure TrackingDeviceEvent where
  connected : Bool
  device : DeviceDescriptor

structure TrackingDevices where
  devices : Counted DeviceDescriptor := {}

/-- A `char` that nobody wrote is `none`. -/
structure CommonHardwareState where
  connected : Bool
  serialNumber : ArrayPtr (Option UInt8)
  uuid : UInt32
  usbPortName : ArrayPtr (Option UInt8)
  hardwareStatus : HardwareStatus

structure BasestationHardwareState where
  commonState : CommonHardwareState
  syncChannel : UInt32
  directCommStatus : DirectCommStatus
  directCommUuid : UInt32
  motorRunning : Bool

structure SIUHardwareState where
  commonState : CommonHardwareState
  wireless : Bool
  syncChannel : UInt32
  dataChannel : UInt32
  sensorDeviceStates : Counted SensorDeviceState := {}

structure WirelessReceiverHardwareState where
  commonState : CommonHardwareState
  dataChannel : UInt32
  connectedSius : Counted ReceiverConnection := {}

structure HardwareStates where
  basestationStates : Counted BasestationHardwareState := {}
  siuStates : Counted SIUHardwareState := {}
  wirelessReceiverStates : Counted WirelessReceiverHardwareState := {}

structure DataFrame where
  deviceData : Counted TrackingDeviceData := {}

/-! ## What a user reads -/

/-- The characters before the first zero. -/
def readChars : List (Option UInt8) → List UInt8
  | some char :: rest => if char = 0 then [] else char :: readChars rest
  | _ => []

def TrackingDeviceEvent.contents (v : TrackingDeviceEvent) : Sdk.TrackingDeviceEvent where
  connected := v.connected
  device := v.device.contents

def TrackingDevices.contents (v : TrackingDevices) : Sdk.TrackingDevices where
  devices := v.devices.elements.map DeviceDescriptor.contents

def CommonHardwareState.contents (v : CommonHardwareState) : Sdk.CommonHardwareState where
  connected := v.connected
  serialNumber := readChars v.serialNumber.elements
  uuid := v.uuid
  usbPortName := readChars v.usbPortName.elements
  hardwareStatus := v.hardwareStatus

def BasestationHardwareState.contents (v : BasestationHardwareState) :
    Sdk.BasestationHardwareState where
  commonState := v.commonState.contents
  syncChannel := v.syncChannel
  directCommStatus := v.directCommStatus
  directCommUuid := v.directCommUuid
  motorRunning := v.motorRunning

def SIUHardwareState.contents (v : SIUHardwareState) : Sdk.SIUHardwareState where
  commonState := v.commonState.contents
  wireless := v.wireless
  syncChannel := v.syncChannel
  dataChannel := v.dataChannel
  sensorDeviceStates := v.sensorDeviceStates.elements

def WirelessReceiverHardwareState.contents (v : WirelessReceiverHardwareState) :
    Sdk.WirelessReceiverHardwareState where
  commonState := v.commonState.contents
  dataChannel := v.dataChannel
  connectedSius := v.connectedSius.elements

def HardwareStates.contents (v : HardwareStates) : Sdk.HardwareStates where
  basestationStates := v.basestationStates.elements.map BasestationHardwareState.contents
  siuStates := v.siuStates.elements.map SIUHardwareState.contents
  wirelessReceiverStates :=
    v.wirelessReceiverStates.elements.map WirelessReceiverHardwareState.contents

def DataFrame.contents (v : DataFrame) : Sdk.DataFrame where
  deviceData := v.deviceData.elements.map TrackingDeviceData.contents

/-! ## The arrays of a value -/

def CommonHardwareState.owned (v : CommonHardwareState) : List ArrayId :=
  v.serialNumber.id?.toList ++ v.usbPortName.id?.toList

def BasestationHardwareState.owned (v : BasestationHardwareState) : List ArrayId :=
  v.commonState.owned

def SIUHardwareState.owned (v : SIUHardwareState) : List ArrayId :=
  v.commonState.owned ++ v.sensorDeviceStates.ids

def WirelessReceiverHardwareState.owned (v : WirelessReceiverHardwareState) : List ArrayId :=
  v.commonState.owned ++ v.connectedSius.ids

/-- An array and the arrays of its elements. -/
def Counted.owned {α : Type} (xs : Counted α) (owned : α → List ArrayId) : List ArrayId :=
  xs.ids ++ xs.elements.flatMap owned

def TrackingDeviceEvent.owned (v : TrackingDeviceEvent) : List ArrayId := v.device.owned

def TrackingDevices.owned (v : TrackingDevices) : List ArrayId :=
  v.devices.owned DeviceDescriptor.owned

def HardwareStates.owned (v : HardwareStates) : List ArrayId :=
  v.basestationStates.owned BasestationHardwareState.owned ++
    (v.siuStates.owned SIUHardwareState.owned ++
      v.wirelessReceiverStates.owned WirelessReceiverHardwareState.owned)

def DataFrame.owned (v : DataFrame) : List ArrayId := v.deviceData.owned TrackingDeviceData.owned

/-! ## Converters -/

section Fields

variable {α β : Type}

/-- `p = new T[size]`, then `for (int i = 0; i < size; i++)` a round that makes `p[i]`. -/
def convertEach (size : Nat) (element : Nat → ArrayM β) : ArrayM (Counted β) := do
  let id ← createArray
  let elements ← forIndex intMax size element
  return ⟨UInt32.ofNat size, .array id elements⟩

/-- A repeated field of which every element is converted. -/
def convertField (field : List α) (convert : α → ArrayM β) : ArrayM (Counted β) :=
  convertEach field.length fun i => readElement field i >>= convert

/-- `strcpy`: the characters of the source up to its zero, and that. -/
def strcpy (destination : List (Option UInt8)) (source : List UInt8) :
    Except Fault (List (Option UInt8)) :=
  let chars := (cString source ++ [0]).map some
  if chars.length ≤ destination.length then .ok (chars ++ destination.drop chars.length)
  else .error .outOfBounds

/-- `p = new char[field.length() + 1]; strcpy(p, field.c_str());` -/
def newString (field : List UInt8) : ArrayM (ArrayPtr (Option UInt8)) := do
  let id ← createArray
  let chars ← access (strcpy (List.replicate (field.length + 1) none) field)
  return .array id chars

end Fields

def protoToDeviceDescriptor (descriptor : Proto.DeviceDescriptor) : ArrayM DeviceDescriptor := do
  let sensorUnitDescriptors ← convertField descriptor.sensorUnitDescriptors fun unit =>
    pure (protoToSensorUnitDescriptor unit)
  let supportedFusionModes ← convertField descriptor.supportedFusionModes fun mode =>
    pure (protoToDeviceFusionMode mode)
  return {
    siuUuid := descriptor.siuUuid
    portId := descriptor.portId
    userDeviceType := descriptor.userDeviceType
    buttonCount := descriptor.buttonCount
    devicePartNumber := descriptor.devicePartNumber
    secureDeviceInfo := descriptor.secureDeviceInfo
    sensorUnitDescriptors
    supportedFusionModes }

def protoToTrackingDeviceEvent (event : Proto.TrackingDeviceEvent) :
    ArrayM TrackingDeviceEvent := do
  let device ← protoToDeviceDescriptor event.device
  return { connected := event.connected, device }

def protoToTrackingDevices (trDevices : Proto.TrackingDevices) : ArrayM TrackingDevices := do
  let devices ← convertField trDevices.devices protoToDeviceDescriptor
  return { devices }

def protoToCommonHardwareState (state : Proto.CommonHardwareState) :
    ArrayM CommonHardwareState := do
  let serialNumber ← newString state.serialNumber
  let usbPortName ← newString state.usbPortName
  return {
    connected := state.connected
    serialNumber
    uuid := state.uuid
    usbPortName
    hardwareStatus := protoToHardwareStatus state.hardwareStatus }

def protoToBasestationHardwareState (bsState : Proto.BasestationHardwareState) :
    ArrayM BasestationHardwareState := do
  let commonState ← protoToCommonHardwareState bsState.commonState
  return {
    commonState
    syncChannel := bsState.syncChannel
    directCommStatus := protoToDirectCommStatus bsState.directCommStatus
    directCommUuid := bsState.directCommUuid
    motorRunning := bsState.motorRunning }

def protoToSIUHardwareState (siuState : Proto.SIUHardwareState) : ArrayM SIUHardwareState := do
  let commonState ← protoToCommonHardwareState siuState.commonState
  let sensorDeviceStates ← convertField siuState.sensorDeviceStates fun state =>
    pure (protoToSensorDeviceState state)
  return {
    commonState
    wireless := siuState.wireless
    syncChannel := siuState.syncChannel
    dataChannel := siuState.dataChannel
    sensorDeviceStates }

def protoToWirelessReceiverHardwareState (wrState : Proto.WirelessReceiverHardwareState) :
    ArrayM WirelessReceiverHardwareState := do
  let commonState ← protoToCommonHardwareState wrState.commonState
  let connectedSius ← convertField wrState.connectedSius fun connection =>
    pure (protoToReceiverConnection connection)
  return { commonState, dataChannel := wrState.dataChannel, connectedSius }

def protoToHardwareStates (hwStates : Proto.HardwareStates) : ArrayM HardwareStates := do
  let basestationStates ← convertField hwStates.basestationStates protoToBasestationHardwareState
  let siuStates ← convertField hwStates.siuStates protoToSIUHardwareState
  let wirelessReceiverStates ←
    convertField hwStates.wirelessReceiverStates protoToWirelessReceiverHardwareState
  return { basestationStates, siuStates, wirelessReceiverStates }

/-- The pose loop is bounded by `positions` and looks into four more fields. -/
def protoToTrackingDeviceData (data : Proto.TrackingDeviceData) : ArrayM TrackingDeviceData := do
  let rawSensorData ← convertField data.rawSensorData fun raw => pure (protoToRawSensorData raw)
  let poses ← convertEach data.positions.length fun poseIndex =>
    access (protoToPose data poseIndex)
  let buttons ← convertField data.buttons pure
  let latencyTimestamps ← convertField data.latencyTimestamps fun timestamp =>
    pure (protoToTimestampData timestamp)
  return {
    siuUuid := data.siuUuid
    portId := data.portId
    basestationAngle := data.basestationAngle
    basestationSpeed := data.basestationSpeed
    timestamp := data.timestamp
    rawSensorData
    batteryState :=
      match data.batteryState with
      | some state => protoToBatteryInfo state
      | none => { stateOfCharge := -1, current := -1, remainingCapacity := -1 }
    poses
    buttons
    latencyTimestamps }

def protoToDataFrame (frame : Proto.DataFrame) : ArrayM DataFrame := do
  let deviceData ← convertField frame.deviceData protoToTrackingDeviceData
  return { deviceData }

def protoToTrackingGroup (group : Proto.TrackingGroup) : ArrayM TrackingGroup := do
  let devices ← convertField group.devices protoToDeviceDescriptor
  return { siuUuid := group.siuUuid, portId := group.portId, devices }

def protoToTrackingGroupEvent (event : Proto.TrackingGroupEvent) :
    ArrayM TrackingGroupEvent := do
  let trackingGroup ← protoToTrackingGroup event.trackingGroup
  return { connected := event.connected, trackingGroup }

/-- The body of the outer loop in `ProtoToWirelessManagementEvent`. -/
def protoToDevicePairingInformation (information : Proto.DevicePairingInformation) :
    ArrayM DevicePairingInformation := do
  let devicePartNums ← convertField information.devicePartNum pure
  return { devicePartNums }

def protoToWirelessManagementEvent (event : Proto.WirelessManagementEvent) :
    ArrayM WirelessManagementEvent := do
  let siuUuids ← convertField event.siuUuids pure
  let devicePairingInformation ←
    convertField event.pairingInformation.devicePairingInformation protoToDevicePairingInformation
  return {
    eventType := event.eventType
    clientRequestType := event.clientRequestType
    siuUuids
    requestError := event.requestError
    pairingInformation := {
      siuUuid := event.pairingInformation.siuUuid
      devicePairingInformation } }

/-! ## Destroy functions -/

def destroyCommonHardwareStateMembers (state : CommonHardwareState) :
    ArrayM CommonHardwareState := do
  deleteArray state.serialNumber.id?
  deleteArray state.usbPortName.id?
  return { state with serialNumber := .null, usbPortName := .null }

def destroyBasestationHardwareStateMembers (state : BasestationHardwareState) :
    ArrayM BasestationHardwareState := do
  let commonState ← destroyCommonHardwareStateMembers state.commonState
  return { state with commonState }

def destroySIUHardwareStateMembers (state : SIUHardwareState) : ArrayM SIUHardwareState := do
  let commonState ← destroyCommonHardwareStateMembers state.commonState
  let sensorDeviceStates ← destroyElements state.sensorDeviceStates
  return { state with commonState, sensorDeviceStates }

def destroyWirelessReceiverHardwareStateMembers (state : WirelessReceiverHardwareState) :
    ArrayM WirelessReceiverHardwareState := do
  let commonState ← destroyCommonHardwareStateMembers state.commonState
  let connectedSius ← destroyElements state.connectedSius
  return { state with commonState, connectedSius }

/-- The members of every element, then `delete[]` of the array. -/
def destroyEach {α : Type} (destroyMembers : α → ArrayM α) (xs : Counted α) : ArrayM Unit := do
  let _ ← forIndex uint32Max xs.count.toNat fun i => readElement xs.elements i >>= destroyMembers
  deleteArray xs.pointer.id?

def destroyTrackingDeviceEvent : Option TrackingDeviceEvent → ArrayM Unit
  | none => return
  | some event => do
      let _ ← destroyDeviceDescriptorMembers event.device
      return

def destroyTrackingDevices : Option TrackingDevices → ArrayM Unit
  | none => return
  | some trackingDevices => destroyEach destroyDeviceDescriptorMembers trackingDevices.devices

def destroyCommonHardwareState : Option CommonHardwareState → ArrayM Unit
  | none => return
  | some state => do
      let _ ← destroyCommonHardwareStateMembers state
      return

def destroyBasestationHardwareState : Option BasestationHardwareState → ArrayM Unit
  | none => return
  | some state => do
      let _ ← destroyBasestationHardwareStateMembers state
      return

def destroySIUHardwareState : Option SIUHardwareState → ArrayM Unit
  | none => return
  | some state => do
      let _ ← destroySIUHardwareStateMembers state
      return

def destroyWirelessReceiverHardwareState : Option WirelessReceiverHardwareState → ArrayM Unit
  | none => return
  | some state => do
      let _ ← destroyWirelessReceiverHardwareStateMembers state
      return

def destroyHardwareStates : Option HardwareStates → ArrayM Unit
  | none => return
  | some states => do
      destroyEach destroyBasestationHardwareStateMembers states.basestationStates
      destroyEach destroySIUHardwareStateMembers states.siuStates
      destroyEach destroyWirelessReceiverHardwareStateMembers states.wirelessReceiverStates

def destroyDataFrame : Option DataFrame → ArrayM Unit
  | none => return
  | some dataFrame => destroyEach destroyTrackingDeviceDataMembers dataFrame.deviceData

/-- Unlike its siblings it leaves the pointer to the array of the devices in place: only the
counts are cleared. -/
def destroyWirelessManagementEventMembers (event : WirelessManagementEvent) :
    ArrayM WirelessManagementEvent := do
  deleteArray event.siuUuids.pointer.id?
  let devices := event.pairingInformation.devicePairingInformation
  let _ ← forIndex intMax devices.count.toNat fun i => do
    let device ← readElement devices.elements i
    deleteArray device.devicePartNums.pointer.id?
  deleteArray devices.pointer.id?
  return { event with
    siuUuids := { count := 0, pointer := .null }
    pairingInformation := {
      siuUuid := 0
      devicePairingInformation := { count := 0, pointer := devices.pointer } } }

end OmmoSdk.Sdk.Owned
