/-
# Sdk.ServiceMessages — the messages that are only handed to the user

The lists of devices, the tracking groups, the hardware states and the events of wireless
management: nothing of the SDK reads them, they are converted and given away.  As in
`Sdk.Protobuf` an absent sub-message reads as its default instance, and an enumeration is the
integer that arrived.

A `string` field is the bytes of a `std::string`, which knows its length.  The SDK gives away
a `char*`: whoever reads it stops at the first zero byte (`cString`), wherever the field may
end (`cString_eq_iff`).
-/
import Mathlib.Data.List.TakeWhile
import OmmoSdk.Sdk.OwnedTypes
import OmmoSdk.Sdk.Protobuf

namespace OmmoSdk.Sdk

set_option autoImplicit false

abbrev HardwareStatus := Int32
abbrev DirectCommStatus := Int32

/-! ## Messages -/

namespace Proto

structure TrackingDevices where
  devices : List DeviceDescriptor := []

structure TrackingGroup where
  siuUuid : UInt32 := 0
  portId : UInt32 := 0
  devices : List DeviceDescriptor := []

structure TrackingGroupEvent where
  trackingGroup : TrackingGroup := {}
  connected : Bool := false

structure CommonHardwareState where
  connected : Bool := false
  serialNumber : List UInt8 := []
  uuid : UInt32 := 0
  usbPortName : List UInt8 := []
  hardwareStatus : Int32 := 0

structure SensorDeviceState where
  portNumber : UInt32 := 0
  magSensorCount : UInt32 := 0

structure ReceiverConnection where
  uuid : UInt32 := 0
  timeSlot : UInt32 := 0

structure BasestationHardwareState where
  commonState : CommonHardwareState := {}
  syncChannel : UInt32 := 0
  directCommStatus : Int32 := 0
  directCommUuid : UInt32 := 0
  motorRunning : Bool := false

structure SIUHardwareState where
  commonState : CommonHardwareState := {}
  wireless : Bool := false
  syncChannel : UInt32 := 0
  dataChannel : UInt32 := 0
  sensorDeviceStates : List SensorDeviceState := []

structure WirelessReceiverHardwareState where
  commonState : CommonHardwareState := {}
  dataChannel : UInt32 := 0
  connectedSius : List ReceiverConnection := []

structure HardwareStates where
  basestationStates : List BasestationHardwareState := []
  siuStates : List SIUHardwareState := []
  wirelessReceiverStates : List WirelessReceiverHardwareState := []

structure DevicePairingInformation where
  devicePartNum : List UInt32 := []

structure PairingInformation where
  siuUuid : UInt32 := 0
  devicePairingInformation : List DevicePairingInformation := []

structure WirelessManagementEvent where
  eventType : Int32 := 0
  clientRequestType : Int32 := 0
  siuUuids : List UInt32 := []
  requestError : Int32 := 0
  pairingInformation : PairingInformation := {}

end Proto

/-! ## What the user reads -/

structure TrackingDevices where
  devices : List DeviceDescriptor := []
  deriving DecidableEq, Repr

structure CommonHardwareState where
  connected : Bool := false
  serialNumber : List UInt8 := []
  uuid : UInt32 := 0
  usbPortName : List UInt8 := []
  hardwareStatus : HardwareStatus := 0
  deriving DecidableEq, Repr

structure SensorDeviceState where
  portNumber : UInt32 := 0
  magSensorCount : UInt32 := 0
  deriving DecidableEq, Repr

structure ReceiverConnection where
  uuid : UInt32 := 0
  timeSlot : UInt32 := 0
  deriving DecidableEq, Repr

structure BasestationHardwareState where
  commonState : CommonHardwareState := {}
  syncChannel : UInt32 := 0
  directCommStatus : DirectCommStatus := 0
  directCommUuid : UInt32 := 0
  motorRunning : Bool := false
  deriving DecidableEq, Repr

structure SIUHardwareState where
  commonState : CommonHardwareState := {}
  wireless : Bool := false
  syncChannel : UInt32 := 0
  dataChannel : UInt32 := 0
  sensorDeviceStates : List SensorDeviceState := []
  deriving DecidableEq, Repr

structure WirelessReceiverHardwareState where
  commonState : CommonHardwareState := {}
  dataChannel : UInt32 := 0
  connectedSius : List ReceiverConnection := []
  deriving DecidableEq, Repr

structure HardwareStates where
  basestationStates : List BasestationHardwareState := []
  siuStates : List SIUHardwareState := []
  wirelessReceiverStates : List WirelessReceiverHardwareState := []
  deriving DecidableEq, Repr

/-! ## Strings -/

/-- What can be read of a byte string through its `c_str()`. -/
def cString (bytes : List UInt8) : List UInt8 := bytes.takeWhile (· ≠ 0)

/-- All of it, exactly if there is no zero byte in it. -/
theorem cString_eq_iff (bytes : List UInt8) : cString bytes = bytes ↔ 0 ∉ bytes := by
  rw [cString, List.takeWhile_eq_self_iff]
  constructor
  · exact fun nonzero member => of_decide_eq_true (nonzero 0 member) rfl
  · intro absent byte member
    exact decide_eq_true fun zero => absent (zero ▸ member)

/-! ## Converters -/

def protoToTrackingDevices (trDevices : Proto.TrackingDevices) : TrackingDevices where
  devices := trDevices.devices.map protoToDeviceDescriptor

def protoToTrackingGroup (group : Proto.TrackingGroup) : TrackingGroup where
  siuUuid := group.siuUuid
  portId := group.portId
  devices := group.devices.map protoToDeviceDescriptor

def protoToTrackingGroupEvent (event : Proto.TrackingGroupEvent) : TrackingGroupEvent where
  connected := event.connected
  trackingGroup := protoToTrackingGroup event.trackingGroup

def protoToHardwareStatus (state : Int32) : HardwareStatus := state

def protoToDirectCommStatus (status : Int32) : DirectCommStatus := status

def protoToCommonHardwareState (state : Proto.CommonHardwareState) : CommonHardwareState where
  connected := state.connected
  serialNumber := cString state.serialNumber
  uuid := state.uuid
  usbPortName := cString state.usbPortName
  hardwareStatus := protoToHardwareStatus state.hardwareStatus

def protoToSensorDeviceState (state : Proto.SensorDeviceState) : SensorDeviceState where
  portNumber := state.portNumber
  magSensorCount := state.magSensorCount

def protoToReceiverConnection (connection : Proto.ReceiverConnection) : ReceiverConnection where
  uuid := connection.uuid
  timeSlot := connection.timeSlot

def protoToBasestationHardwareState (bsState : Proto.BasestationHardwareState) :
    BasestationHardwareState where
  commonState := protoToCommonHardwareState bsState.commonState
  syncChannel := bsState.syncChannel
  directCommStatus := protoToDirectCommStatus bsState.directCommStatus
  directCommUuid := bsState.directCommUuid
  motorRunning := bsState.motorRunning

def protoToSIUHardwareState (siuState : Proto.SIUHardwareState) : SIUHardwareState where
  commonState := protoToCommonHardwareState siuState.commonState
  wireless := siuState.wireless
  syncChannel := siuState.syncChannel
  dataChannel := siuState.dataChannel
  sensorDeviceStates := siuState.sensorDeviceStates.map protoToSensorDeviceState

def protoToWirelessReceiverHardwareState (wrState : Proto.WirelessReceiverHardwareState) :
    WirelessReceiverHardwareState where
  commonState := protoToCommonHardwareState wrState.commonState
  dataChannel := wrState.dataChannel
  connectedSius := wrState.connectedSius.map protoToReceiverConnection

def protoToHardwareStates (hwStates : Proto.HardwareStates) : HardwareStates where
  basestationStates := hwStates.basestationStates.map protoToBasestationHardwareState
  siuStates := hwStates.siuStates.map protoToSIUHardwareState
  wirelessReceiverStates :=
    hwStates.wirelessReceiverStates.map protoToWirelessReceiverHardwareState

def protoToDevicePairingInformation (information : Proto.DevicePairingInformation) :
    DevicePairingInformation where
  devicePartNums := information.devicePartNum

def protoToWirelessManagementEvent (event : Proto.WirelessManagementEvent) :
    WirelessManagementEvent where
  eventType := event.eventType
  clientRequestType := event.clientRequestType
  siuUuids := event.siuUuids
  requestError := event.requestError
  pairingInformation := {
    siuUuid := event.pairingInformation.siuUuid
    devicePairingInformation :=
      event.pairingInformation.devicePairingInformation.map protoToDevicePairingInformation }

end OmmoSdk.Sdk
