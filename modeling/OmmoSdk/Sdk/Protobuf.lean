/-
# Sdk.Protobuf — the messages of the service and their conversion to SDK types

The messages of `ommo_service_api.proto` that reach the packet stores and the
request registry, seen through the accessors of the generated classes: an absent
sub-message reads as its default instance, except where the code asks `has_…`.
The repeated fields of one message are independent lists: the format does not tie
their lengths together, and the converter of tracking data indexes three of them
with a bound taken from one, so its conversion is partial
(`protoToTrackingDeviceData_ok_iff` says when it succeeds).
-/
import OmmoSdk.Theory.Memory
import OmmoSdk.Sdk.Types

namespace OmmoSdk.Sdk

open OmmoSdk.Theory

set_option autoImplicit false

namespace Proto

structure Vector3i where
  x : Int32 := 0
  y : Int32 := 0
  z : Int32 := 0

structure Vector3f where
  x : Float32Bits := 0
  y : Float32Bits := 0
  z : Float32Bits := 0

structure Vector4f where
  w : Float32Bits := 0
  x : Float32Bits := 0
  y : Float32Bits := 0
  z : Float32Bits := 0

structure RawSensorData where
  mag : Vector3i := {}
  gyro : Vector3i := {}
  accel : Vector3i := {}

structure LatencyTimestampData where
  timestampType : Int32 := 0
  steadyTimestampMilliseconds : UInt64 := 0
  systemTimestampMilliseconds : UInt64 := 0

structure BatteryState where
  stateOfCharge : Int32 := 0
  current : Int32 := 0
  remainingCapacity : Int32 := 0

structure TrackingDeviceData where
  siuUuid : UInt32 := 0
  portId : UInt32 := 0
  basestationAngle : UInt32 := 0
  basestationSpeed : UInt32 := 0
  timestamp : UInt32 := 0
  rawSensorData : List RawSensorData := []
  positions : List Vector3f := []
  quaternions : List Vector4f := []
  indicatorValues : List Float32Bits := []
  buttons : List Int32 := []
  motionIndicators : List Float32Bits := []
  badDataIndicators : List Float32Bits := []
  latencyTimestamps : List LatencyTimestampData := []
  batteryState : Option BatteryState := none

structure DataFrame where
  deviceData : List TrackingDeviceData := []

structure SpecParamf where
  value : Float32Bits := 0
  outOfSpec : Bool := false

structure BaseStationData where
  accelFigureOfMerit : SpecParamf := {}
  maxPhaseStd : SpecParamf := {}
  maxPhaseDrift : SpecParamf := {}
  tempDiffFromCalibC : SpecParamf := {}
  meanRotationRateHz : SpecParamf := {}
  tiltAngleDeg : SpecParamf := {}
  maxMagRmsRes : SpecParamf := {}
  accelDcMagnitudeG : SpecParamf := {}

structure SensorUnitDescriptor where
  timestampOffset : Vector3i := {}
  magPresent : Bool := false
  magScale : Float32Bits := 0
  imuPresent : Bool := false
  accelScale : Float32Bits := 0
  gyroScale : Float32Bits := 0
  uuid : UInt64 := 0

structure DeviceDescriptor where
  siuUuid : UInt32 := 0
  portId : UInt32 := 0
  userDeviceType : UInt32 := 0
  buttonCount : UInt32 := 0
  sensorUnitDescriptors : List SensorUnitDescriptor := []
  supportedFusionModes : List Int32 := []
  devicePartNumber : UInt32 := 0
  secureDeviceInfo : Bool := false

structure TrackingDeviceEvent where
  device : DeviceDescriptor := {}
  connected : Bool := false

structure TrackingDeviceDataStreamRequest where
  siuUuid : UInt32 := 0
  portId : UInt32 := 0
  fieldMask : UInt32 := 0
  reportInterval : UInt32 := 0
  bufferDepth : UInt32 := 0
  requestedFusionMode : Int32 := 0
  includeRawSensorData : Bool := false
  deriving DecidableEq, Repr

structure DataFrameTrackingDevice where
  siuUuid : UInt32 := 0
  portId : UInt32 := 0
  fieldMask : UInt32 := 0
  requestedFusionMode : Int32 := 0
  includeRawSensorData : Bool := false
  deriving DecidableEq, Repr

structure DataFrameStreamRequest where
  trackingDevices : List DataFrameTrackingDevice := []
  reportInterval : UInt32 := 0
  bufferDepth : UInt32 := 0
  deriving DecidableEq, Repr

end Proto

/-! ## Converters -/

def protoToVector3i (vector : Proto.Vector3i) : Vector3i :=
  { x := vector.x, y := vector.y, z := vector.z }

def protoToVector3f (vector : Proto.Vector3f) : Vector3f :=
  { x := vector.x, y := vector.y, z := vector.z }

def protoToVector4f (vector : Proto.Vector4f) : Vector4f :=
  { w := vector.w, x := vector.x, y := vector.y, z := vector.z }

def protoToSensorUnitDescriptor (descriptor : Proto.SensorUnitDescriptor) :
    SensorUnitDescriptor where
  timestampOffset := protoToVector3i descriptor.timestampOffset
  magPresent := descriptor.magPresent
  magScale := descriptor.magScale
  imuPresent := descriptor.imuPresent
  accelScale := descriptor.accelScale
  gyroScale := descriptor.gyroScale
  uuid := descriptor.uuid

def protoToDeviceFusionMode (fusionMode : Int32) : DeviceFusionMode := fusionMode

def deviceFusionModeToProto (fusionMode : DeviceFusionMode) : Int32 := fusionMode

def protoToDeviceDescriptor (descriptor : Proto.DeviceDescriptor) : DeviceDescriptor where
  siuUuid := descriptor.siuUuid
  portId := descriptor.portId
  userDeviceType := descriptor.userDeviceType
  buttonCount := descriptor.buttonCount
  devicePartNumber := descriptor.devicePartNumber
  secureDeviceInfo := descriptor.secureDeviceInfo
  sensorUnitDescriptors := descriptor.sensorUnitDescriptors.map protoToSensorUnitDescriptor
  supportedFusionModes := descriptor.supportedFusionModes.map protoToDeviceFusionMode

def protoToTrackingDeviceEvent (event : Proto.TrackingDeviceEvent) : TrackingDeviceEvent where
  connected := event.connected
  device := protoToDeviceDescriptor event.device

def protoToRawSensorData (data : Proto.RawSensorData) : RawSensorData where
  mag := protoToVector3i data.mag
  gyro := protoToVector3i data.gyro
  accel := protoToVector3i data.accel

def protoToBatteryInfo (batteryState : Proto.BatteryState) : BatteryState where
  stateOfCharge := batteryState.stateOfCharge
  current := batteryState.current
  remainingCapacity := batteryState.remainingCapacity

def protoToTimestampData (data : Proto.LatencyTimestampData) : TimestampData where
  timestampType := data.timestampType
  steadyTimestampMilliseconds := data.steadyTimestampMilliseconds
  systemTimestampMilliseconds := data.systemTimestampMilliseconds

/-- One round of the pose loop.  `positions`, `quaternions` and `indicator_values`
are indexed without a check of their own size, the two later fields with one. -/
def protoToPose (data : Proto.TrackingDeviceData) (poseIndex : Nat) : Except Fault PoseData := do
  let position ← fetch data.positions poseIndex
  let quaternion ← fetch data.quaternions poseIndex
  let indicatorValue ← fetch data.indicatorValues poseIndex
  return {
    position := protoToVector3f position
    quaternion := protoToVector4f quaternion
    indicatorValue := indicatorValue
    motionIndicator := data.motionIndicators.getD poseIndex 0
    badDataIndicator := data.badDataIndicators.getD poseIndex 0 }

def protoToTrackingDeviceData (data : Proto.TrackingDeviceData) :
    Except Fault TrackingDeviceData := do
  let poses ← (List.range data.positions.length).mapM (protoToPose data)
  return {
    siuUuid := data.siuUuid
    portId := data.portId
    basestationAngle := data.basestationAngle
    basestationSpeed := data.basestationSpeed
    timestamp := data.timestamp
    rawSensorData := data.rawSensorData.map protoToRawSensorData
    batteryState :=
      match data.batteryState with
      | some state => protoToBatteryInfo state
      | none => { stateOfCharge := -1, current := -1, remainingCapacity := -1 }
    poses := poses
    buttons := data.buttons
    latencyTimestamps := data.latencyTimestamps.map protoToTimestampData }

def protoToDataFrame (frame : Proto.DataFrame) : Except Fault DataFrame := do
  let deviceData ← frame.deviceData.mapM protoToTrackingDeviceData
  return { deviceData := deviceData }

def protoToSpecParamf (param : Proto.SpecParamf) : SpecParamf where
  value := param.value
  outOfSpec := param.outOfSpec

def protoToBaseStationData (data : Proto.BaseStationData) : BaseStationData where
  accelFigureOfMerit := protoToSpecParamf data.accelFigureOfMerit
  maxPhaseStd := protoToSpecParamf data.maxPhaseStd
  maxPhaseDrift := protoToSpecParamf data.maxPhaseDrift
  tempDiffFromCalibC := protoToSpecParamf data.tempDiffFromCalibC
  meanRotationRateHz := protoToSpecParamf data.meanRotationRateHz
  tiltAngleDeg := protoToSpecParamf data.tiltAngleDeg
  maxMagRmsRes := protoToSpecParamf data.maxMagRmsRes
  accelDcMagnitudeG := protoToSpecParamf data.accelDcMagnitudeG

/-- The lists the pose loop indexes without a check reach as far as the list that
bounds it. -/
def Proto.TrackingDeviceData.PosesAligned (data : Proto.TrackingDeviceData) : Prop :=
  data.positions.length ≤ data.quaternions.length ∧
    data.positions.length ≤ data.indicatorValues.length

theorem mapM_ok {α β : Type} {f : α → Except Fault β} (xs : List α)
    (each : ∀ x ∈ xs, ∃ y, f x = .ok y) : ∃ ys, xs.mapM f = .ok ys := by
  induction xs with
  | nil => exact ⟨[], rfl⟩
  | cons x xs ih =>
      obtain ⟨y, head⟩ := each x (by simp)
      obtain ⟨ys, tail⟩ := ih fun z member => each z (by simp [member])
      exact ⟨y :: ys, by simp [List.mapM_cons, head, tail, bind, Except.bind, pure, Except.pure]⟩

theorem protoToTrackingDeviceData_ok (data : Proto.TrackingDeviceData)
    (aligned : data.PosesAligned) : ∃ converted, protoToTrackingDeviceData data = .ok converted := by
  have each : ∀ i ∈ List.range data.positions.length, ∃ pose, protoToPose data i = .ok pose := by
    intro i member
    have inside : i < data.positions.length := List.mem_range.mp member
    simp [protoToPose, inside, lt_of_lt_of_le inside aligned.1, lt_of_lt_of_le inside aligned.2,
      bind, Except.bind, pure, Except.pure]
  obtain ⟨poses, run⟩ := mapM_ok _ each
  simp [protoToTrackingDeviceData, run, bind, Except.bind, pure, Except.pure]

theorem each_of_mapM_ok {α β : Type} {f : α → Except Fault β} {xs : List α} {ys : List β}
    (run : xs.mapM f = .ok ys) : ∀ x ∈ xs, ∃ y, f x = .ok y := by
  induction xs generalizing ys with
  | nil =>
      intro x member
      cases member
  | cons head tail ih =>
      rw [List.mapM_cons] at run
      cases first : f head with
      | error fault => simp [first, bind, Except.bind] at run
      | ok y =>
          cases rest : tail.mapM f with
          | error fault => simp [first, rest, bind, Except.bind] at run
          | ok ys' =>
              intro x member
              rcases List.mem_cons.mp member with rfl | member
              · exact ⟨y, first⟩
              · exact ih rest x member

/-- A round of the pose loop finds its two unchecked elements. -/
theorem protoToPose_ok {data : Proto.TrackingDeviceData} {poseIndex : Nat} {pose : PoseData}
    (run : protoToPose data poseIndex = .ok pose) :
    poseIndex < data.quaternions.length ∧ poseIndex < data.indicatorValues.length := by
  rw [protoToPose] at run
  cases first : fetch data.positions poseIndex with
  | error fault => simp [first, bind, Except.bind] at run
  | ok position =>
      cases second : fetch data.quaternions poseIndex with
      | error fault => simp [first, second, bind, Except.bind] at run
      | ok quaternion =>
          cases third : fetch data.indicatorValues poseIndex with
          | error fault => simp [first, second, third, bind, Except.bind] at run
          | ok indicatorValue => exact ⟨fetch_ok_lt second, fetch_ok_lt third⟩

theorem protoToTrackingDeviceData_ok_iff (data : Proto.TrackingDeviceData) :
    (∃ converted, protoToTrackingDeviceData data = .ok converted) ↔ data.PosesAligned := by
  refine ⟨?_, protoToTrackingDeviceData_ok data⟩
  rintro ⟨converted, run⟩
  rw [protoToTrackingDeviceData] at run
  cases poses : (List.range data.positions.length).mapM (protoToPose data) with
  | error fault => simp [poses, bind, Except.bind] at run
  | ok converted' =>
      have reach : ∀ i < data.positions.length,
          i < data.quaternions.length ∧ i < data.indicatorValues.length := by
        intro i inside
        obtain ⟨pose, round⟩ := each_of_mapM_ok poses i (List.mem_range.mpr inside)
        exact protoToPose_ok round
      refine ⟨?_, ?_⟩
      · by_contra short
        exact absurd (reach data.quaternions.length (by omega)).1 (Nat.lt_irrefl _)
      · by_contra short
        exact absurd (reach data.indicatorValues.length (by omega)).2 (Nat.lt_irrefl _)

theorem protoToDataFrame_ok_iff (frame : Proto.DataFrame) :
    (∃ converted, protoToDataFrame frame = .ok converted) ↔
      ∀ data ∈ frame.deviceData, data.PosesAligned := by
  constructor
  · rintro ⟨converted, run⟩ data member
    rw [protoToDataFrame] at run
    cases entries : frame.deviceData.mapM protoToTrackingDeviceData with
    | error fault => simp [entries, bind, Except.bind] at run
    | ok converted' =>
        exact (protoToTrackingDeviceData_ok_iff data).mp (each_of_mapM_ok entries data member)
  · intro aligned
    obtain ⟨converted, run⟩ := mapM_ok frame.deviceData fun data member =>
      protoToTrackingDeviceData_ok data (aligned data member)
    exact ⟨⟨converted⟩, by rw [protoToDataFrame, run]; rfl⟩

/-- The conversion keeps the id of the device. -/
theorem protoToTrackingDeviceData_id {data : Proto.TrackingDeviceData} {converted : TrackingDeviceData}
    (run : protoToTrackingDeviceData data = .ok converted) :
    converted.siuUuid = data.siuUuid ∧ converted.portId = data.portId := by
  rw [protoToTrackingDeviceData] at run
  cases poses : (List.range data.positions.length).mapM (protoToPose data) with
  | error fault => simp [poses, bind, Except.bind] at run
  | ok converted' =>
      simp only [poses, bind, Except.bind, pure, Except.pure] at run
      cases run
      exact ⟨rfl, rfl⟩

end OmmoSdk.Sdk
