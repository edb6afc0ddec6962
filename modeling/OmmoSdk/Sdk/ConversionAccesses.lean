/-
# Sdk.ConversionAccesses — what the converters of tracking data index

A `TrackingDeviceData` message has eight repeated fields, and the format does not tie their
lengths together.  Each loop of the converter is bounded by the size of one of them.  The pose
loop is bounded by `positions` and indexes five: `motion_indicators` and `bad_data_indicators`
after a look at their own size, `quaternions` and `indicator_values` without one, since these
"always have the same size".

The converters are traced.  Whatever else a message contains, the two unchecked fields decide
(`conversions_inBounds_iff`).
-/
import OmmoSdk.Theory.Footprint
import OmmoSdk.Sdk.Protobuf

namespace OmmoSdk.Sdk

open OmmoSdk.Theory

set_option autoImplicit false

/-- The repeated fields of a `TrackingDeviceData` message. -/
inductive RepeatedField where
  | rawSensorData
  | positions
  | quaternions
  | indicatorValues
  | buttons
  | motionIndicators
  | badDataIndicators
  | latencyTimestamps
  deriving DecidableEq, Repr

/-- The repeated fields of a `DataFrame` message and of its entries. -/
inductive FrameField where
  | deviceData
  | entry (deviceIndex : Nat) (field : RepeatedField)
  deriving DecidableEq, Repr

/-- `…_size()` -/
def Proto.TrackingDeviceData.size (data : Proto.TrackingDeviceData) : RepeatedField → Int
  | .rawSensorData => data.rawSensorData.length
  | .positions => data.positions.length
  | .quaternions => data.quaternions.length
  | .indicatorValues => data.indicatorValues.length
  | .buttons => data.buttons.length
  | .motionIndicators => data.motionIndicators.length
  | .badDataIndicators => data.badDataIndicators.length
  | .latencyTimestamps => data.latencyTimestamps.length

def Proto.DataFrame.size (frame : Proto.DataFrame) : FrameField → Int
  | .deviceData => frame.deviceData.length
  | .entry deviceIndex field => (frame.deviceData.getD deviceIndex {}).size field

/-! ## The converters, with their accesses -/

/-- `i < xs_size() ? xs(i) : otherwise` -/
def readOr {α : Type} (field : RepeatedField) (xs : List α) (i : Nat) (otherwise : α) :
    Traced RepeatedField α :=
  if i < xs.length then Traced.read field xs i else pure otherwise

def tracedPose (data : Proto.TrackingDeviceData) (poseIndex : Nat) : Traced RepeatedField PoseData := do
  let position ← Traced.read .positions data.positions poseIndex
  let quaternion ← Traced.read .quaternions data.quaternions poseIndex
  let indicatorValue ← Traced.read .indicatorValues data.indicatorValues poseIndex
  let motionIndicator ← readOr .motionIndicators data.motionIndicators poseIndex 0
  let badDataIndicator ← readOr .badDataIndicators data.badDataIndicators poseIndex 0
  return {
    position := protoToVector3f position
    quaternion := protoToVector4f quaternion
    indicatorValue := indicatorValue
    motionIndicator := motionIndicator
    badDataIndicator := badDataIndicator }

/-- The element is looked up once for each of its fields. -/
def tracedTimestampData (data : Proto.TrackingDeviceData) (i : Nat) :
    Traced RepeatedField TimestampData := do
  let ofType ← Traced.read .latencyTimestamps data.latencyTimestamps i
  let ofSteady ← Traced.read .latencyTimestamps data.latencyTimestamps i
  let ofSystem ← Traced.read .latencyTimestamps data.latencyTimestamps i
  return {
    timestampType := ofType.timestampType
    steadyTimestampMilliseconds := ofSteady.steadyTimestampMilliseconds
    systemTimestampMilliseconds := ofSystem.systemTimestampMilliseconds }

def tracedTrackingDeviceData (data : Proto.TrackingDeviceData) :
    Traced RepeatedField TrackingDeviceData := do
  let rawSensorData ← (List.range data.rawSensorData.length).mapM fun rawData : Nat =>
    protoToRawSensorData <$> Traced.read .rawSensorData data.rawSensorData rawData
  let poses ← (List.range data.positions.length).mapM (tracedPose data)
  let buttons ← (List.range data.buttons.length).mapM fun i : Nat =>
    Traced.read .buttons data.buttons i
  let latencyTimestamps ← (List.range data.latencyTimestamps.length).mapM (tracedTimestampData data)
  return {
    siuUuid := data.siuUuid
    portId := data.portId
    basestationAngle := data.basestationAngle
    basestationSpeed := data.basestationSpeed
    timestamp := data.timestamp
    rawSensorData := rawSensorData
    batteryState :=
      match data.batteryState with
      | some state => protoToBatteryInfo state
      | none => { stateOfCharge := -1, current := -1, remainingCapacity := -1 }
    poses := poses
    buttons := buttons
    latencyTimestamps := latencyTimestamps }

def tracedDataFrame (frame : Proto.DataFrame) : Traced FrameField DataFrame := do
  let deviceData ← (List.range frame.deviceData.length).mapM fun deviceIndex : Nat => do
    let data ← Traced.read .deviceData frame.deviceData deviceIndex
    (tracedTrackingDeviceData data).rename (.entry deviceIndex)
  return { deviceData := deviceData }

/-! ## Without the trace -/

/-- A loop over all elements of a field. -/
theorem mapM_fetch {α β : Type} (xs : List α) (f : α → Except Fault β) :
    ((List.range xs.length).mapM fun i : Nat => fetch xs i >>= f) = xs.mapM f := by
  induction xs with
  | nil => rfl
  | cons x xs ih =>
      rw [List.length_cons, List.range_succ_eq_map, List.mapM_cons, List.mapM_cons, List.mapM_map]
      have shifted : (fun i : Nat => fetch (x :: xs) (i : Int) >>= f) ∘ Nat.succ =
          fun i : Nat => fetch xs i >>= f :=
        funext fun i => congrArg (· >>= f) (fetch_cons_succ x xs i)
      rw [shifted, ih]
      rfl

/-- The same, of a conversion that cannot fault. -/
theorem mapM_fetch_map {α β : Type} (xs : List α) (f : α → β) :
    ((List.range xs.length).mapM fun i : Nat => f <$> fetch xs i) = .ok (xs.map f) := by
  have converted := mapM_fetch xs fun x => (pure (f x) : Except Fault β)
  simp only [bind_pure_comp] at converted
  rw [converted, List.mapM_pure]
  rfl

theorem outcome_read {ρ α : Type} (array : ρ) (xs : List α) (i : Int) :
    (Traced.read array xs i).outcome = fetch xs i := rfl

theorem outcome_readOr {α : Type} (field : RepeatedField) (xs : List α) (i : Nat) (otherwise : α) :
    (readOr field xs i otherwise).outcome = .ok (xs.getD i otherwise) := by
  unfold readOr
  split
  · rename_i inside
    rw [outcome_read, fetch_natCast xs i inside, List.getD_eq_getElem?_getD, List.getElem?_eq_getElem inside]
    rfl
  · rename_i outside
    rw [List.getD_eq_getElem?_getD, List.getElem?_eq_none (by omega)]
    rfl

theorem outcome_tracedPose (data : Proto.TrackingDeviceData) (poseIndex : Nat) :
    (tracedPose data poseIndex).outcome = protoToPose data poseIndex := by
  simp only [tracedPose, protoToPose, Traced.outcome_bind, outcome_read, outcome_readOr,
    Traced.outcome_pure]
  rfl

theorem outcome_tracedTimestampData (data : Proto.TrackingDeviceData) (i : Nat) :
    (tracedTimestampData data i).outcome = protoToTimestampData <$> fetch data.latencyTimestamps i := by
  simp only [tracedTimestampData, Traced.outcome_bind, outcome_read, Traced.outcome_pure]
  cases fetch data.latencyTimestamps i with
  | error fault => rfl
  | ok element => rfl

/-- Without its trace the conversion is the conversion of the model. -/
theorem outcome_tracedTrackingDeviceData (data : Proto.TrackingDeviceData) :
    (tracedTrackingDeviceData data).outcome = protoToTrackingDeviceData data := by
  have rawSensorData := (Traced.outcome_mapM (List.range data.rawSensorData.length) fun i _ =>
    Traced.outcome_map protoToRawSensorData
      (Traced.read RepeatedField.rawSensorData data.rawSensorData (i : Int))).trans
        (mapM_fetch_map data.rawSensorData protoToRawSensorData)
  have poses := Traced.outcome_mapM (List.range data.positions.length) fun i _ => outcome_tracedPose data i
  have buttons := (Traced.outcome_mapM (List.range data.buttons.length) fun i _ =>
    (Traced.outcome_map id (Traced.read RepeatedField.buttons data.buttons (i : Int)))).trans
      (mapM_fetch_map data.buttons id)
  have latencyTimestamps := (Traced.outcome_mapM (List.range data.latencyTimestamps.length) fun i _ =>
    outcome_tracedTimestampData data i).trans (mapM_fetch_map data.latencyTimestamps protoToTimestampData)
  simp only [id_map, List.map_id] at buttons
  simp only [tracedTrackingDeviceData, protoToTrackingDeviceData, Traced.outcome_bind, Traced.outcome_pure,
    rawSensorData, poses, buttons, latencyTimestamps]
  rfl

theorem outcome_tracedDataFrame (frame : Proto.DataFrame) :
    (tracedDataFrame frame).outcome = protoToDataFrame frame := by
  have deviceData := (Traced.outcome_mapM (List.range frame.deviceData.length) fun i _ =>
    Traced.outcome_bind (Traced.read FrameField.deviceData frame.deviceData (i : Int)) fun data =>
      (tracedTrackingDeviceData data).rename (.entry i)).trans
        (mapM_fetch frame.deviceData fun data => (tracedTrackingDeviceData data).outcome)
  simp only [outcome_tracedTrackingDeviceData] at deviceData
  simp only [tracedDataFrame, protoToDataFrame, Traced.outcome_bind, Traced.outcome_pure, deviceData]
  rfl

/-! ## In bounds -/

theorem checked_readOr {α : Type} {size : RepeatedField → Int} {field : RepeatedField} {xs : List α}
    (sized : size field = xs.length) (i : Nat) (otherwise : α) :
    Checked size (readOr field xs i otherwise) := by
  unfold readOr
  split
  · exact checked_read sized i
  · exact checked_pure otherwise

theorem checked_tracedPose (data : Proto.TrackingDeviceData) (poseIndex : Nat) :
    Checked data.size (tracedPose data poseIndex) := by
  refine (checked_read (by rfl) _).bind fun _ _ => ?_
  refine (checked_read (by rfl) _).bind fun _ _ => ?_
  refine (checked_read (by rfl) _).bind fun _ _ => ?_
  refine (checked_readOr (by rfl) _ _).bind fun _ _ => ?_
  exact (checked_readOr (by rfl) _ _).bind fun _ _ => checked_pure _

theorem checked_tracedTimestampData (data : Proto.TrackingDeviceData) (i : Nat) :
    Checked data.size (tracedTimestampData data i) := by
  refine (checked_read (by rfl) _).bind fun _ _ => ?_
  refine (checked_read (by rfl) _).bind fun _ _ => ?_
  exact (checked_read (by rfl) _).bind fun _ _ => checked_pure _

/-- The conversion of a message is in bounds exactly if it does not fault. -/
theorem checked_tracedTrackingDeviceData (data : Proto.TrackingDeviceData) :
    Checked data.size (tracedTrackingDeviceData data) := by
  refine (checked_mapM _ fun i _ => (checked_read (by rfl) _).map _).bind fun _ _ => ?_
  refine (checked_mapM _ fun i _ => checked_tracedPose data i).bind fun _ _ => ?_
  refine (checked_mapM _ fun i _ => checked_read (by rfl) _).bind fun _ _ => ?_
  exact (checked_mapM _ fun i _ => checked_tracedTimestampData data i).bind fun _ _ => checked_pure _

theorem checked_tracedDataFrame (frame : Proto.DataFrame) : Checked frame.size (tracedDataFrame frame) := by
  refine (checked_mapM _ fun i member => ?_).bind fun _ _ => checked_pure _
  refine (checked_read (by rfl) _).bind fun data found => ?_
  refine (checked_tracedTrackingDeviceData data).rename fun field => ?_
  have inside : i < frame.deviceData.length := List.mem_range.mp member
  rw [outcome_read, fetch_natCast _ _ inside] at found
  cases found
  rw [Proto.DataFrame.size, List.getD_eq_getElem?_getD, List.getElem?_eq_getElem inside]
  rfl

/-- **When the converters stay in bounds.**  Of a message, whatever the lengths of its repeated
fields, and of a frame: every element that is accessed is below the size of its field if and
only if in each message `quaternions` and `indicator_values` are as long as `positions`, or
longer.  The other five fields never matter. -/
theorem conversions_inBounds_iff (data : Proto.TrackingDeviceData) (frame : Proto.DataFrame) :
    (InBounds data.size (tracedTrackingDeviceData data).accesses ↔
      data.positions.length ≤ data.quaternions.length ∧
        data.positions.length ≤ data.indicatorValues.length) ∧
    (InBounds frame.size (tracedDataFrame frame).accesses ↔
      ∀ entry ∈ frame.deviceData, entry.positions.length ≤ entry.quaternions.length ∧
        entry.positions.length ≤ entry.indicatorValues.length) := by
  constructor
  · rw [show InBounds data.size _ ↔ _ from checked_tracedTrackingDeviceData data,
      outcome_tracedTrackingDeviceData]
    exact protoToTrackingDeviceData_ok_iff data
  · rw [show InBounds frame.size _ ↔ _ from checked_tracedDataFrame frame, outcome_tracedDataFrame]
    exact protoToDataFrame_ok_iff frame

/-- A message with one position and no quaternion: `quaternions(0)` is accessed, of none.  In a
frame it is the same. -/
theorem quaternion_outOfBounds :
    ¬ (∀ data : Proto.TrackingDeviceData, InBounds data.size (tracedTrackingDeviceData data).accesses) ∧
      (tracedTrackingDeviceData { positions := [{}], indicatorValues := [0] }).accesses =
        [.read .positions 0, .read .quaternions 0] ∧
      protoToTrackingDeviceData { positions := [{}], indicatorValues := [0] } = .error .outOfBounds ∧
      protoToDataFrame ⟨[{ positions := [{}], indicatorValues := [0] }]⟩ = .error .outOfBounds := by
  refine ⟨?_, rfl, rfl, rfl⟩
  intro bounded
  have found := bounded { positions := [{}], indicatorValues := [0] } .quaternions 0
    (show Access.read RepeatedField.quaternions 0 ∈ [.read .positions 0, .read .quaternions 0] by simp)
  exact absurd found.2 (by decide)

end OmmoSdk.Sdk
