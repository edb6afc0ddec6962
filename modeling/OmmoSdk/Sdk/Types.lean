/-
# Sdk.Types — the data types of `sdk_types.h` and their deep copies

The structures users of the SDK see, as far as the packet stores and the request
registry read or write them.  A pair of a pointer and a count is one list: every
function of the SDK sets both together and every loop runs to the count.  A
`float` is its bit pattern (it is only ever copied).  Enumerations that arrive
from the service by `static_cast` are open: any `int32_t` value may arrive and is
kept, so they are that integer.
-/
import Mathlib.Data.List.Basic
import Mathlib.Tactic

namespace OmmoSdk.Sdk

set_option autoImplicit false

abbrev Float32Bits := UInt32
abbrev DeviceFusionMode := Int32
abbrev ButtonState := Int32
abbrev TimestampType := Int32

structure Vector3i where
  x : Int32 := 0
  y : Int32 := 0
  z : Int32 := 0
  deriving DecidableEq, Repr, Inhabited

structure Vector3f where
  x : Float32Bits := 0
  y : Float32Bits := 0
  z : Float32Bits := 0
  deriving DecidableEq, Repr, Inhabited

structure Vector4f where
  w : Float32Bits := 0
  x : Float32Bits := 0
  y : Float32Bits := 0
  z : Float32Bits := 0
  deriving DecidableEq, Repr, Inhabited

structure SensorUnitDescriptor where
  timestampOffset : Vector3i := {}
  magPresent : Bool := false
  magScale : Float32Bits := 0
  imuPresent : Bool := false
  accelScale : Float32Bits := 0
  gyroScale : Float32Bits := 0
  uuid : UInt64 := 0
  deriving DecidableEq, Repr, Inhabited

structure DeviceDescriptor where
  siuUuid : UInt32
  portId : UInt32
  userDeviceType : UInt32 := 0
  buttonCount : UInt32 := 0
  sensorUnitDescriptors : List SensorUnitDescriptor := []
  supportedFusionModes : List DeviceFusionMode := []
  devicePartNumber : UInt32 := 0
  secureDeviceInfo : Bool := false
  deriving DecidableEq, Repr, Inhabited

structure TrackingDeviceEvent where
  connected : Bool
  device : DeviceDescriptor
  deriving DecidableEq, Repr

structure RawSensorData where
  mag : Vector3i := {}
  gyro : Vector3i := {}
  accel : Vector3i := {}
  deriving DecidableEq, Repr, Inhabited

structure PoseData where
  position : Vector3f := {}
  quaternion : Vector4f := {}
  indicatorValue : Float32Bits := 0
  motionIndicator : Float32Bits := 0
  badDataIndicator : Float32Bits := 0
  deriving DecidableEq, Repr, Inhabited

structure TimestampData where
  timestampType : TimestampType := 0
  steadyTimestampMilliseconds : UInt64 := 0
  systemTimestampMilliseconds : UInt64 := 0
  deriving DecidableEq, Repr, Inhabited

structure BatteryState where
  stateOfCharge : Int32 := 0
  current : Int32 := 0
  remainingCapacity : Int32 := 0
  deriving DecidableEq, Repr, Inhabited

structure TrackingDeviceData where
  siuUuid : UInt32 := 0
  portId : UInt32 := 0
  basestationAngle : UInt32 := 0
  basestationSpeed : UInt32 := 0
  timestamp : UInt32 := 0
  rawSensorData : List RawSensorData := []
  poses : List PoseData := []
  buttons : List ButtonState := []
  latencyTimestamps : List TimestampData := []
  batteryState : BatteryState := {}
  deriving DecidableEq, Repr, Inhabited

structure DataFrame where
  deviceData : List TrackingDeviceData := []
  deriving DecidableEq, Repr, Inhabited

structure SpecParamf where
  value : Float32Bits := 0
  outOfSpec : Bool := false
  deriving DecidableEq, Repr, Inhabited

structure BaseStationData where
  accelFigureOfMerit : SpecParamf := {}
  maxPhaseStd : SpecParamf := {}
  maxPhaseDrift : SpecParamf := {}
  tempDiffFromCalibC : SpecParamf := {}
  meanRotationRateHz : SpecParamf := {}
  tiltAngleDeg : SpecParamf := {}
  maxMagRmsRes : SpecParamf := {}
  accelDcMagnitudeG : SpecParamf := {}
  deriving DecidableEq, Repr, Inhabited

/-- A stored packet: the data of one message under the index it was given on
arrival.  `DevicePacket` and `BaseStationPacket` differ in the data only. -/
structure Packet (δ : Type) where
  packetIdx : UInt32
  data : δ
  deriving DecidableEq, Repr

/-- `data` is `device_data`. -/
abbrev DevicePacket := Packet TrackingDeviceData
/-- `data` is `base_station_data`. -/
abbrev BaseStationPacket := Packet BaseStationData

inductive DataResponseState where
  | noData
  | partialData
  | success
  deriving DecidableEq, Repr

/-- The answer of a query.  `packets` is the array behind the pointer (`[]` for
the null pointer); an element the query has not written is `none`. -/
structure DataResponse (δ : Type) where
  state : DataResponseState
  packets : List (Option (Packet δ))
  packetCount : UInt32
  deriving DecidableEq, Repr

structure DeviceID where
  siuUuid : UInt32
  portId : UInt32
  deriving DecidableEq, Repr

inductive DataStreamType where
  | deviceData
  | dataFrame
  deriving DecidableEq, Repr

/-- What a user asks for; no requested devices means all devices. -/
structure DataRequest where
  dataFieldMask : UInt32 := 0x7f
  reportInterval : UInt32 := 0
  bufferDepth : UInt32 := 50
  requestedFusionMode : DeviceFusionMode := 0
  includeRawSensorData : Bool := false
  requestedDevices : List DeviceID := []
  deriving DecidableEq, Repr, Inhabited

def DeviceDescriptor.id (device : DeviceDescriptor) : DeviceID :=
  ⟨device.siuUuid, device.portId⟩

/-! ## Deep copies -/

section Copies

variable {α : Type}

/-- `for (i = 0; i < count; i++) copy[i] = source[i]` into a new array of `count`
elements. -/
def copyArray (source : List α) : List α :=
  (List.range source.length).filterMap fun i => source[i]?

@[simp] theorem copyArray_eq (source : List α) : copyArray source = source := by
  induction source with
  | nil => rfl
  | cons x xs ih =>
      unfold copyArray at ih ⊢
      rw [List.length_cons, List.range_succ_eq_map, List.filterMap_cons, List.filterMap_map]
      simpa [Function.comp_def] using ih

end Copies

def copyDeviceDescriptor (source : DeviceDescriptor) : DeviceDescriptor where
  siuUuid := source.siuUuid
  portId := source.portId
  userDeviceType := source.userDeviceType
  buttonCount := source.buttonCount
  devicePartNumber := source.devicePartNumber
  secureDeviceInfo := source.secureDeviceInfo
  sensorUnitDescriptors := copyArray source.sensorUnitDescriptors
  supportedFusionModes := copyArray source.supportedFusionModes

def copyTrackingDeviceData (source : TrackingDeviceData) : TrackingDeviceData where
  siuUuid := source.siuUuid
  portId := source.portId
  basestationAngle := source.basestationAngle
  basestationSpeed := source.basestationSpeed
  timestamp := source.timestamp
  rawSensorData := copyArray source.rawSensorData
  batteryState := source.batteryState
  poses := copyArray source.poses
  buttons := copyArray source.buttons
  latencyTimestamps := copyArray source.latencyTimestamps

def copyDevicePacket (source : DevicePacket) : DevicePacket where
  packetIdx := source.packetIdx
  data := copyTrackingDeviceData source.data

def copyDataRequest (source : DataRequest) : DataRequest where
  dataFieldMask := source.dataFieldMask
  reportInterval := source.reportInterval
  bufferDepth := source.bufferDepth
  requestedFusionMode := source.requestedFusionMode
  includeRawSensorData := source.includeRawSensorData
  requestedDevices :=
    if source.requestedDevices.length = 0 then [] else copyArray source.requestedDevices

@[simp] theorem copyDeviceDescriptor_eq (source : DeviceDescriptor) :
    copyDeviceDescriptor source = source := by
  simp [copyDeviceDescriptor]

theorem copyTrackingDeviceData_eq (source : TrackingDeviceData) :
    copyTrackingDeviceData source = source := by
  simp [copyTrackingDeviceData]

@[simp] theorem copyDevicePacket_eq (source : DevicePacket) :
    copyDevicePacket source = source := by
  rw [copyDevicePacket, copyTrackingDeviceData_eq]

@[simp] theorem copyDataRequest_eq (source : DataRequest) : copyDataRequest source = source := by
  cases source with
  | mk mask interval depth mode raw devices => cases devices <;> simp [copyDataRequest]

end OmmoSdk.Sdk
