/-
# Sdk.ConversionOwnership — what the converters allocate, and who gives it back

Every converter creates exactly the arrays of its result, one field after the other, and the
result reads like the message.  The Destroy function of the type then deletes these arrays
and no others, which `Message.conversion_undone_iff` states for all thirteen types at once.
The exception is the one of `Sdk.DeepCopies`: a `TrackingGroupEvent` is given back without
the arrays of its devices.

The size of a repeated field is an `int` (`Message.Sized`); nothing else is assumed of a
message.
-/
import OmmoSdk.Sdk.DeepCopies
import OmmoSdk.Sdk.OwnedConversions

namespace OmmoSdk.Sdk.Owned

open OmmoSdk.Theory

set_option autoImplicit false

/-! ## One field -/

section Fields

variable {α β : Type}

/-- A repeated field, as the array a Copy function would find. -/
def repeated (field : List α) : Counted α := ⟨UInt32.ofNat field.length, .array 0 field⟩

theorem toNat_size {n : Nat} (sized : n ≤ intMax) : (UInt32.ofNat n).toNat = n := by
  refine UInt32.toNat_ofNat_of_lt' (lt_of_le_of_lt sized ?_)
  decide

theorem matches_repeated {field : List α} (sized : field.length ≤ intMax) :
    (repeated field).Matches :=
  (toNat_size sized).symm

/-- A converter of a field is a copier of an array. -/
theorem convertField_eq_copyEach {field : List α} (sized : field.length ≤ intMax)
    (convert : α → ArrayM β) :
    convertField field convert = copyEach intMax convert (repeated field) := by
  rw [convertField, convertEach, copyEach, repeated, toNat_size sized]
  rfl

theorem convertField_allocates {field : List α} {convert : α → ArrayM β}
    {owned : β → List ArrayId} {good : α → β → Prop} (sized : field.length ≤ intMax)
    (each : ∀ x ∈ field, Allocates (convert x) owned (good x)) :
    Allocates (convertField field convert) (fun xs => xs.owned owned) fun xs =>
      xs.Matches ∧ List.Forall₂ good field xs.elements := by
  rw [convertField_eq_copyEach sized]
  exact copyEach_allocates (matches_repeated sized) sized each

/-- The elements as they are known before the loop begins. -/
theorem convertEach_allocates {size : Nat} {element : Nat → ArrayM β} {ys : List β}
    (sized : size ≤ intMax) (length : ys.length = size)
    (loop : forIndex intMax size element = pure ys) :
    Allocates (convertEach size element) Counted.ids fun xs =>
      xs.Matches ∧ xs.elements = ys ∧ xs.ids ≠ [] := by
  rw [convertEach, loop]
  refine .bind (fun _ => []) .createArray fun id _ => .pure rfl ⟨rfl, ?_, rfl, List.cons_ne_nil _ _⟩
  exact length.trans (toNat_size sized).symm

theorem mapM_pure_eq (field : List α) (f : α → β) :
    (field.mapM fun x => (pure (f x) : ArrayM β)) = pure (field.map f) :=
  List.mapM_pure

/-- A field whose elements own nothing. -/
theorem convertField_plain {field : List α} (f : α → β) (sized : field.length ≤ intMax) :
    Allocates (convertField field fun x => pure (f x)) Counted.ids fun xs =>
      xs.Matches ∧ xs.elements = field.map f ∧ xs.ids ≠ [] := by
  refine convertEach_allocates sized (List.length_map _) ?_
  rw [forIndex_readElement sized, mapM_pure_eq]

theorem convertField_words {field : List α} (sized : field.length ≤ intMax) :
    Allocates (convertField field pure) Counted.ids fun xs =>
      xs.Matches ∧ xs.elements = field ∧ xs.ids ≠ [] := by
  have words := convertField_plain id sized
  rw [List.map_id] at words
  exact words

theorem mapM_ok_unique {f : α → Except Fault β} :
    ∀ {xs : List α} {ys zs : List β}, ys.map Except.ok = xs.map f → xs.mapM f = .ok zs →
      ys = zs
  | [], ys, zs, same, run => by
      cases run
      exact List.map_eq_nil_iff.mp same
  | x :: xs, ys, zs, same, run => by
      cases ys with
      | nil => cases same
      | cons y ys =>
          rw [List.map_cons, List.map_cons, List.cons.injEq] at same
          rw [List.mapM_cons, ← same.1] at run
          cases tail : xs.mapM f with
          | error fault => simp [tail, bind, Except.bind] at run
          | ok zs' =>
              simp only [tail, bind, Except.bind, Pure.pure, Except.pure] at run
              cases run
              rw [mapM_ok_unique same.2 tail]

/-- A loop of accesses that all succeed. -/
theorem mapM_access {f : Nat → Except Fault β} :
    ∀ {xs : List Nat} {ys : List β}, xs.mapM f = .ok ys →
      ys.length = xs.length ∧ (xs.mapM fun i => access (f i)) = pure ys
  | [], ys, run => by
      cases run
      exact ⟨rfl, rfl⟩
  | i :: xs, ys, run => by
      rw [List.mapM_cons] at run ⊢
      cases head : f i with
      | error fault => simp [head, bind, Except.bind] at run
      | ok y =>
          cases tail : xs.mapM f with
          | error fault => simp [head, tail, bind, Except.bind] at run
          | ok ys' =>
              simp only [head, tail, bind, Except.bind, Pure.pure, Except.pure] at run
              cases run
              obtain ⟨length, accessed⟩ := mapM_access tail
              rw [accessed, access_ok, pure_bind, pure_bind]
              exact ⟨congrArg (· + 1) length, rfl⟩

theorem forIndex_access {limit size : Nat} {f : Nat → Except Fault β} {ys : List β}
    (short : size ≤ limit) (run : (List.range size).mapM f = .ok ys) :
    (forIndex limit size fun i => access (f i)) = pure ys := by
  rw [forIndex, ← (mapM_access run).2]
  refine mapM_congr_of_mem fun i member => ?_
  have reached : i < limit := lt_of_lt_of_le (List.mem_range.mp member) short
  rw [increment, if_pos reached]
  simp

theorem convertEach_completes {size : Nat} {element : Nat → ArrayM β} {h : Arrays}
    (completes : Completes (convertEach size element) h) (i : Nat) (inside : i < size) :
    ∃ h', Completes (element i) h' := by
  obtain ⟨id, h', -, rest⟩ := completes_bind completes
  obtain ⟨elements, h'', loop, -⟩ := completes_bind rest
  obtain ⟨h₃, round⟩ := completes_mapM (List.mem_range.mpr inside) ⟨_, _, loop⟩
  obtain ⟨x, h₄, done, -⟩ := completes_bind round
  exact ⟨h₃, x, h₄, done⟩

theorem completes_access {x : Except Fault β} {h : Arrays} (completes : Completes (access x) h) :
    ∃ y, x = .ok y := by
  cases x with
  | error fault =>
      obtain ⟨y, h', run⟩ := completes
      cases run
  | ok y => exact ⟨y, rfl⟩

theorem readElement_lt {xs : List α} {i : Nat} (inside : i < xs.length) :
    readElement xs i = pure xs[i] := by
  rw [readElement, fetch_natCast xs i inside]

theorem length_cString (bytes : List UInt8) : (cString bytes).length ≤ bytes.length :=
  (List.takeWhile_sublist _).length_le

/-- The reader stops at the zero that the writer put. -/
theorem readChars_zero (rest : List (Option UInt8)) :
    ∀ {chars : List UInt8}, (∀ char ∈ chars, char ≠ 0) →
      readChars ((chars ++ [0]).map some ++ rest) = chars
  | [], _ => rfl
  | char :: chars, nonzero => by
      show (if char = 0 then [] else char :: readChars ((chars ++ [0]).map some ++ rest)) = _
      rw [if_neg (nonzero char List.mem_cons_self),
        readChars_zero rest fun other member => nonzero other (List.mem_cons_of_mem _ member)]

theorem nonzero_cString {bytes : List UInt8} : ∀ char ∈ cString bytes, char ≠ 0 := by
  intro char member
  rw [cString] at member
  have kept := List.mem_takeWhile_imp member
  exact of_decide_eq_true kept

theorem newString_allocates (field : List UInt8) :
    Allocates (newString field) (fun p => p.id?.toList) fun p =>
      readChars p.elements = cString field := by
  have room : ((cString field ++ [0]).map some).length ≤
      (List.replicate (field.length + 1) (none : Option UInt8)).length := by
    rw [List.length_map, List.length_append, List.length_replicate]
    exact Nat.add_le_add_right (length_cString field) 1
  rw [newString, strcpy, if_pos room]
  exact .bind (fun _ => []) .createArray fun id _ => .pure rfl ⟨rfl, readChars_zero _ nonzero_cString⟩

theorem destroyEach_releases {destroyMembers : α → ArrayM α} {owned : α → List ArrayId}
    {xs : Counted α} (counted : xs.Matches)
    (each : ∀ x, Releases (destroyMembers x) (owned x)) :
    Releases (destroyEach destroyMembers xs) (xs.elements.flatMap owned ++ xs.ids) :=
  .bind (forEach_releases counted (countable counted) fun x _ => each x) fun _ => .deleteArray _

end Fields

/-! ## Sizes of messages -/

section Sizes

/-- Its repeated fields have sizes that are `int`s; the other fields are single. -/
def SizedDescriptor (descriptor : Proto.DeviceDescriptor) : Prop :=
  descriptor.sensorUnitDescriptors.length ≤ intMax ∧
    descriptor.supportedFusionModes.length ≤ intMax

def SizedData (data : Proto.TrackingDeviceData) : Prop :=
  data.rawSensorData.length ≤ intMax ∧ data.positions.length ≤ intMax ∧
    data.buttons.length ≤ intMax ∧ data.latencyTimestamps.length ≤ intMax

def SizedDevices (devices : List Proto.DeviceDescriptor) : Prop :=
  devices.length ≤ intMax ∧ ∀ device ∈ devices, SizedDescriptor device

def SizedFrame (frame : Proto.DataFrame) : Prop :=
  frame.deviceData.length ≤ intMax ∧ ∀ data ∈ frame.deviceData, SizedData data

def SizedHardware (hwStates : Proto.HardwareStates) : Prop :=
  hwStates.basestationStates.length ≤ intMax ∧
    (hwStates.siuStates.length ≤ intMax ∧
      ∀ state ∈ hwStates.siuStates, state.sensorDeviceStates.length ≤ intMax) ∧
    hwStates.wirelessReceiverStates.length ≤ intMax ∧
      ∀ state ∈ hwStates.wirelessReceiverStates, state.connectedSius.length ≤ intMax

def SizedWireless (event : Proto.WirelessManagementEvent) : Prop :=
  event.siuUuids.length ≤ intMax ∧
    event.pairingInformation.devicePairingInformation.length ≤ intMax ∧
    ∀ information ∈ event.pairingInformation.devicePairingInformation,
      information.devicePartNum.length ≤ intMax

end Sizes

/-! ## Converters allocate what their results own -/

theorem protoToDeviceDescriptor_allocates {descriptor : Proto.DeviceDescriptor}
    (sized : SizedDescriptor descriptor) :
    Allocates (protoToDeviceDescriptor descriptor) DeviceDescriptor.owned fun v =>
      v.contents = Sdk.protoToDeviceDescriptor descriptor ∧ v.WellCounted ∧ v.owned ≠ [] := by
  refine .bind (fun v => v.supportedFusionModes.ids) (convertField_plain _ sized.1)
    fun units read => ?_
  refine .bind (fun _ => []) (convertField_plain _ sized.2) fun modes read' => ?_
  refine .pure rfl ⟨(List.append_nil _).symm, rfl, ?_, ⟨read.1, read'.1⟩,
    List.append_ne_nil_of_left_ne_nil read.2.2 _⟩
  simp only [Sdk.protoToDeviceDescriptor, DeviceDescriptor.contents, read.2.1, read'.2.1]

theorem protoToTrackingDeviceEvent_allocates {event : Proto.TrackingDeviceEvent}
    (sized : SizedDescriptor event.device) :
    Allocates (protoToTrackingDeviceEvent event) TrackingDeviceEvent.owned fun v =>
      v.contents = Sdk.protoToTrackingDeviceEvent event ∧ v.device.WellCounted := by
  refine .map (protoToDeviceDescriptor_allocates sized) (fun _ => rfl)
    fun device read => ⟨?_, read.2.1⟩
  simp only [TrackingDeviceEvent.contents, Sdk.protoToTrackingDeviceEvent, read.1]

/-- The devices of a list and of a group. -/
theorem convertDevices_allocates {devices : List Proto.DeviceDescriptor}
    (sized : SizedDevices devices) :
    Allocates (convertField devices protoToDeviceDescriptor)
      (fun xs => xs.owned DeviceDescriptor.owned) fun xs =>
      xs.Matches ∧
        xs.elements.map DeviceDescriptor.contents = devices.map Sdk.protoToDeviceDescriptor ∧
        ∀ device ∈ xs.elements, device.WellCounted ∧ device.owned ≠ [] := by
  have each := fun device member => protoToDeviceDescriptor_allocates (sized.2 device member)
  refine (convertField_allocates sized.1 each).conseq fun xs converted => ?_
  obtain ⟨same, good⟩ := map_eq_of_forall₂ converted.2
  exact ⟨converted.1, same, good⟩

theorem protoToTrackingDevices_allocates {trDevices : Proto.TrackingDevices}
    (sized : SizedDevices trDevices.devices) :
    Allocates (protoToTrackingDevices trDevices) TrackingDevices.owned fun v =>
      v.contents = Sdk.protoToTrackingDevices trDevices ∧ v.devices.Matches ∧
        ∀ device ∈ v.devices.elements, device.WellCounted := by
  refine .map (convertDevices_allocates sized) (fun _ => rfl)
    fun devices read => ⟨?_, read.1, fun device member => (read.2.2 device member).1⟩
  simp only [TrackingDevices.contents, Sdk.protoToTrackingDevices, read.2.1]

theorem protoToTrackingGroup_allocates {group : Proto.TrackingGroup}
    (sized : SizedDevices group.devices) :
    Allocates (protoToTrackingGroup group) TrackingGroup.owned fun v =>
      v.contents = Sdk.protoToTrackingGroup group ∧ v.WellCounted ∧
        ∀ device ∈ v.devices.elements, device.owned ≠ [] := by
  refine .map (convertDevices_allocates sized) (fun _ => rfl) fun devices read => ?_
  refine ⟨?_, ⟨read.1, fun device member => (read.2.2 device member).1⟩,
    fun device member => (read.2.2 device member).2⟩
  simp only [TrackingGroup.contents, Sdk.protoToTrackingGroup, read.2.1]

theorem protoToTrackingGroupEvent_allocates {event : Proto.TrackingGroupEvent}
    (sized : SizedDevices event.trackingGroup.devices) :
    Allocates (protoToTrackingGroupEvent event) TrackingGroupEvent.owned fun v =>
      v.contents = Sdk.protoToTrackingGroupEvent event ∧ v.WellCounted ∧
        ∀ device ∈ v.trackingGroup.devices.elements, device.owned ≠ [] := by
  refine .map (protoToTrackingGroup_allocates sized) (fun _ => rfl) fun group read => ⟨?_, read.2⟩
  simp only [TrackingGroupEvent.contents, Sdk.protoToTrackingGroupEvent, read.1]

theorem protoToCommonHardwareState_allocates (state : Proto.CommonHardwareState) :
    Allocates (protoToCommonHardwareState state) CommonHardwareState.owned fun v =>
      v.contents = Sdk.protoToCommonHardwareState state := by
  refine .bind (fun v => v.usbPortName.id?.toList) (newString_allocates _) fun serial read => ?_
  refine .bind (fun _ => []) (newString_allocates _) fun port read' => ?_
  refine .pure rfl ⟨(List.append_nil _).symm, rfl, ?_⟩
  simp only [CommonHardwareState.contents, Sdk.protoToCommonHardwareState, read, read']

theorem protoToBasestationHardwareState_allocates (bsState : Proto.BasestationHardwareState) :
    Allocates (protoToBasestationHardwareState bsState) BasestationHardwareState.owned fun v =>
      v.contents = Sdk.protoToBasestationHardwareState bsState := by
  refine .map (protoToCommonHardwareState_allocates _) (fun _ => rfl) fun common read => ?_
  simp only [BasestationHardwareState.contents, Sdk.protoToBasestationHardwareState, read]

theorem protoToSIUHardwareState_allocates {siuState : Proto.SIUHardwareState}
    (sized : siuState.sensorDeviceStates.length ≤ intMax) :
    Allocates (protoToSIUHardwareState siuState) SIUHardwareState.owned fun v =>
      v.contents = Sdk.protoToSIUHardwareState siuState ∧ v.sensorDeviceStates.Matches := by
  refine .bind (fun v => v.sensorDeviceStates.ids) (protoToCommonHardwareState_allocates _)
    fun common read => ?_
  refine .bind (fun _ => []) (convertField_plain _ sized) fun sensors read' => ?_
  refine .pure rfl ⟨(List.append_nil _).symm, rfl, ?_, read'.1⟩
  simp only [SIUHardwareState.contents, Sdk.protoToSIUHardwareState, read, read'.2.1]

theorem protoToWirelessReceiverHardwareState_allocates
    {wrState : Proto.WirelessReceiverHardwareState}
    (sized : wrState.connectedSius.length ≤ intMax) :
    Allocates (protoToWirelessReceiverHardwareState wrState) WirelessReceiverHardwareState.owned
      fun v => v.contents = Sdk.protoToWirelessReceiverHardwareState wrState ∧
        v.connectedSius.Matches := by
  refine .bind (fun v => v.connectedSius.ids) (protoToCommonHardwareState_allocates _)
    fun common read => ?_
  refine .bind (fun _ => []) (convertField_plain _ sized) fun sius read' => ?_
  refine .pure rfl ⟨(List.append_nil _).symm, rfl, ?_, read'.1⟩
  simp only [WirelessReceiverHardwareState.contents, Sdk.protoToWirelessReceiverHardwareState,
    read, read'.2.1]

/-- Three arrays of structures, each element with arrays of its own. -/
def HardwareStates.WellCounted (v : HardwareStates) : Prop :=
  v.basestationStates.Matches ∧
    (v.siuStates.Matches ∧ ∀ state ∈ v.siuStates.elements, state.sensorDeviceStates.Matches) ∧
    v.wirelessReceiverStates.Matches ∧
      ∀ state ∈ v.wirelessReceiverStates.elements, state.connectedSius.Matches

theorem protoToHardwareStates_allocates {hwStates : Proto.HardwareStates}
    (sized : SizedHardware hwStates) :
    Allocates (protoToHardwareStates hwStates) HardwareStates.owned fun v =>
      v.contents = Sdk.protoToHardwareStates hwStates ∧ v.WellCounted := by
  obtain ⟨sizedBs, ⟨sizedSiu, sizedSensors⟩, sizedWr, sizedSius⟩ := sized
  have eachBs := fun state (_ : state ∈ hwStates.basestationStates) =>
    (protoToBasestationHardwareState_allocates state).conseq fun _ read =>
      And.intro read trivial
  refine .bind (fun v => v.siuStates.owned SIUHardwareState.owned ++
      v.wirelessReceiverStates.owned WirelessReceiverHardwareState.owned)
    (convertField_allocates sizedBs eachBs) fun bs read => ?_
  refine .bind (fun v => v.wirelessReceiverStates.owned WirelessReceiverHardwareState.owned)
    (convertField_allocates sizedSiu fun state member =>
      protoToSIUHardwareState_allocates (sizedSensors state member)) fun siu read' => ?_
  refine .bind (fun _ => []) (convertField_allocates sizedWr fun state member =>
    protoToWirelessReceiverHardwareState_allocates (sizedSius state member)) fun wr read'' => ?_
  obtain ⟨sameBs, -⟩ := map_eq_of_forall₂ read.2
  obtain ⟨sameSiu, countedSiu⟩ := map_eq_of_forall₂ read'.2
  obtain ⟨sameWr, countedWr⟩ := map_eq_of_forall₂ read''.2
  refine .pure rfl ⟨(List.append_nil _).symm, rfl, rfl, ?_, read.1, ⟨read'.1, countedSiu⟩,
    read''.1, countedWr⟩
  simp only [HardwareStates.contents, Sdk.protoToHardwareStates, sameBs, sameSiu, sameWr]

theorem protoToTrackingDeviceData_allocates {data : Proto.TrackingDeviceData}
    {converted : Sdk.TrackingDeviceData} (sized : SizedData data)
    (run : Sdk.protoToTrackingDeviceData data = .ok converted) :
    Allocates (protoToTrackingDeviceData data) TrackingDeviceData.owned fun v =>
      v.contents = converted ∧ v.WellCounted := by
  obtain ⟨sizedRaw, sizedPoses, sizedButtons, sizedLatency⟩ := sized
  rw [Sdk.protoToTrackingDeviceData] at run
  cases posed : (List.range data.positions.length).mapM (protoToPose data) with
  | error fault => simp [posed, bind, Except.bind] at run
  | ok converted' =>
      simp only [posed, bind, Except.bind, Pure.pure, Except.pure, Except.ok.injEq] at run
      subst run
      have length : converted'.length = data.positions.length :=
        (mapM_access posed).1.trans List.length_range
      have loop := forIndex_access sizedPoses posed
      refine .bind (fun v => v.poses.ids ++ (v.buttons.ids ++ v.latencyTimestamps.ids))
        (convertField_plain _ sizedRaw) fun raw readRaw => ?_
      refine .bind (fun v => v.buttons.ids ++ v.latencyTimestamps.ids)
        (convertEach_allocates sizedPoses length loop) fun poses readPoses => ?_
      refine .bind (fun v => v.latencyTimestamps.ids)
        (convertField_words sizedButtons) fun buttons readButtons => ?_
      refine .bind (fun _ => [])
        (convertField_plain _ sizedLatency) fun latency readLatency => ?_
      refine .pure rfl ⟨(List.append_nil _).symm, rfl, rfl, ?_, ?_,
        readRaw.1, readPoses.1, readButtons.1, readLatency.1⟩
      · simp only [TrackingDeviceData.owned, List.append_assoc]
      · cases data.batteryState <;>
          simp only [TrackingDeviceData.contents, readRaw.2.1, readPoses.2.1, readButtons.2.1,
            readLatency.2.1]

theorem protoToDataFrame_allocates {frame : Proto.DataFrame} {converted : Sdk.DataFrame}
    (sized : SizedFrame frame) (run : Sdk.protoToDataFrame frame = .ok converted) :
    Allocates (protoToDataFrame frame) DataFrame.owned fun v =>
      v.contents = converted ∧ v.deviceData.Matches ∧
        ∀ data ∈ v.deviceData.elements, data.WellCounted := by
  rw [Sdk.protoToDataFrame] at run
  cases entries : frame.deviceData.mapM Sdk.protoToTrackingDeviceData with
  | error fault => simp [entries, bind, Except.bind] at run
  | ok entries' =>
      simp only [entries, bind, Except.bind, Pure.pure, Except.pure, Except.ok.injEq] at run
      subst run
      -- what each entry becomes is what the plain conversion makes of it
      have each : ∀ data ∈ frame.deviceData, Allocates (protoToTrackingDeviceData data)
          TrackingDeviceData.owned fun v =>
            Except.ok v.contents = Sdk.protoToTrackingDeviceData data ∧ v.WellCounted := by
        intro data member
        obtain ⟨converted, run⟩ := each_of_mapM_ok entries data member
        exact (protoToTrackingDeviceData_allocates (sized.2 data member) run).conseq
          fun v read => ⟨by rw [run, read.1], read.2⟩
      refine .map (convertField_allocates sized.1 each) (fun _ => rfl) fun data read => ?_
      obtain ⟨same, counted⟩ := map_eq_of_forall₂ (f := Sdk.protoToTrackingDeviceData)
        (g := fun v : TrackingDeviceData => Except.ok v.contents) read.2
      refine ⟨?_, read.1, counted⟩
      rw [← Function.comp_def, ← List.map_map] at same
      rw [DataFrame.contents, Sdk.DataFrame.mk.injEq]
      exact mapM_ok_unique same entries

theorem protoToDevicePairingInformation_allocates
    {information : Proto.DevicePairingInformation}
    (sized : information.devicePartNum.length ≤ intMax) :
    Allocates (protoToDevicePairingInformation information) DevicePairingInformation.owned
      fun v => v.contents = Sdk.protoToDevicePairingInformation information ∧
        v.devicePartNums.Matches := by
  refine .map (convertField_words sized) (fun _ => rfl) fun words read => ⟨?_, read.1⟩
  simp only [DevicePairingInformation.contents, Sdk.protoToDevicePairingInformation, read.2.1]

theorem protoToWirelessManagementEvent_allocates {event : Proto.WirelessManagementEvent}
    (sized : SizedWireless event) :
    Allocates (protoToWirelessManagementEvent event) WirelessManagementEvent.owned fun v =>
      v.contents = Sdk.protoToWirelessManagementEvent event ∧ v.WellCounted := by
  obtain ⟨sizedUuids, sizedDevices, sizedWords⟩ := sized
  refine .bind (fun v => v.pairingInformation.devicePairingInformation.ids ++
      v.pairingInformation.devicePairingInformation.elements.flatMap
        DevicePairingInformation.owned)
    (convertField_words sizedUuids) fun uuids read => ?_
  refine .bind (fun _ => []) (convertField_allocates sizedDevices fun information member =>
    protoToDevicePairingInformation_allocates (sizedWords information member))
    fun devices read' => ?_
  obtain ⟨same, counted⟩ := map_eq_of_forall₂ read'.2
  refine .pure rfl ⟨(List.append_nil _).symm, rfl, ?_, read.1, read'.1, counted⟩
  simp only [WirelessManagementEvent.contents, PairingInformation.contents,
    Sdk.protoToWirelessManagementEvent, read.2.1, same]

/-! ## A conversion that ends found all poses -/

theorem protoToTrackingDeviceData_completes {data : Proto.TrackingDeviceData} {h : Arrays}
    (completes : Completes (protoToTrackingDeviceData data) h) : data.PosesAligned := by
  obtain ⟨raw, h₁, -, rest⟩ := completes_bind completes
  obtain ⟨poses, h₂, loop, -⟩ := completes_bind rest
  have each : ∀ i ∈ List.range data.positions.length, ∃ pose, protoToPose data i = .ok pose := by
    intro i member
    obtain ⟨h₃, round⟩ := convertEach_completes ⟨_, _, loop⟩ i (List.mem_range.mp member)
    exact completes_access round
  obtain ⟨poses', run⟩ := mapM_ok _ each
  rw [← protoToTrackingDeviceData_ok_iff, Sdk.protoToTrackingDeviceData, run]
  exact ⟨_, rfl⟩

theorem map_ok {α β : Type} {f : α → β} {x : Except Fault α} {y : β} (run : f <$> x = .ok y) :
    ∃ z, x = .ok z ∧ f z = y := by
  cases x with
  | error fault => cases run
  | ok z => exact ⟨z, rfl, Except.ok.inj run⟩

/-! ## What Destroy deletes -/

theorem destroyCommonHardwareStateMembers_releases (state : CommonHardwareState) :
    Releases (destroyCommonHardwareStateMembers state) state.owned :=
  .bind (.deleteArray _) fun _ => .map (.deleteArray _)

theorem destroyBasestationHardwareStateMembers_releases (state : BasestationHardwareState) :
    Releases (destroyBasestationHardwareStateMembers state) state.owned :=
  .map (destroyCommonHardwareStateMembers_releases _)

theorem destroySIUHardwareStateMembers_releases (state : SIUHardwareState) :
    Releases (destroySIUHardwareStateMembers state) state.owned :=
  .bind (destroyCommonHardwareStateMembers_releases _) fun _ =>
    .map (destroyElements_releases _)

theorem destroyWirelessReceiverHardwareStateMembers_releases
    (state : WirelessReceiverHardwareState) :
    Releases (destroyWirelessReceiverHardwareStateMembers state) state.owned :=
  .bind (destroyCommonHardwareStateMembers_releases _) fun _ =>
    .map (destroyElements_releases _)

/-- The elements of each array go before the array. -/
def HardwareStates.released (v : HardwareStates) : List ArrayId :=
  (v.basestationStates.elements.flatMap BasestationHardwareState.owned ++
      v.basestationStates.ids) ++
    ((v.siuStates.elements.flatMap SIUHardwareState.owned ++ v.siuStates.ids) ++
      (v.wirelessReceiverStates.elements.flatMap WirelessReceiverHardwareState.owned ++
        v.wirelessReceiverStates.ids))

theorem destroyHardwareStates_releases {states : HardwareStates}
    (counted : states.WellCounted) :
    Releases (destroyHardwareStates (some states)) states.released :=
  .bind (destroyEach_releases counted.1 destroyBasestationHardwareStateMembers_releases) fun _ =>
    .bind (destroyEach_releases counted.2.1.1 destroySIUHardwareStateMembers_releases) fun _ =>
      destroyEach_releases counted.2.2.1 destroyWirelessReceiverHardwareStateMembers_releases

/-! ## The thirteen types -/

inductive Message where
  | deviceDescriptor (message : Proto.DeviceDescriptor)
  | trackingDeviceEvent (message : Proto.TrackingDeviceEvent)
  | trackingDevices (message : Proto.TrackingDevices)
  | commonHardwareState (message : Proto.CommonHardwareState)
  | basestationHardwareState (message : Proto.BasestationHardwareState)
  | siuHardwareState (message : Proto.SIUHardwareState)
  | wirelessReceiverHardwareState (message : Proto.WirelessReceiverHardwareState)
  | hardwareStates (message : Proto.HardwareStates)
  | trackingDeviceData (message : Proto.TrackingDeviceData)
  | dataFrame (message : Proto.DataFrame)
  | trackingGroup (message : Proto.TrackingGroup)
  | trackingGroupEvent (message : Proto.TrackingGroupEvent)
  | wirelessManagementEvent (message : Proto.WirelessManagementEvent)

/-- What the user is given. -/
inductive Converted where
  | deviceDescriptor (v : DeviceDescriptor)
  | trackingDeviceEvent (v : TrackingDeviceEvent)
  | trackingDevices (v : TrackingDevices)
  | commonHardwareState (v : CommonHardwareState)
  | basestationHardwareState (v : BasestationHardwareState)
  | siuHardwareState (v : SIUHardwareState)
  | wirelessReceiverHardwareState (v : WirelessReceiverHardwareState)
  | hardwareStates (v : HardwareStates)
  | trackingDeviceData (v : TrackingDeviceData)
  | dataFrame (v : DataFrame)
  | trackingGroup (v : TrackingGroup)
  | trackingGroupEvent (v : TrackingGroupEvent)
  | wirelessManagementEvent (v : WirelessManagementEvent)

/-- What the user reads in it. -/
inductive Reading where
  | deviceDescriptor (c : Sdk.DeviceDescriptor)
  | trackingDeviceEvent (c : Sdk.TrackingDeviceEvent)
  | trackingDevices (c : Sdk.TrackingDevices)
  | commonHardwareState (c : Sdk.CommonHardwareState)
  | basestationHardwareState (c : Sdk.BasestationHardwareState)
  | siuHardwareState (c : Sdk.SIUHardwareState)
  | wirelessReceiverHardwareState (c : Sdk.WirelessReceiverHardwareState)
  | hardwareStates (c : Sdk.HardwareStates)
  | trackingDeviceData (c : Sdk.TrackingDeviceData)
  | dataFrame (c : Sdk.DataFrame)
  | trackingGroup (c : Sdk.TrackingGroup)
  | trackingGroupEvent (c : Sdk.TrackingGroupEvent)
  | wirelessManagementEvent (c : Sdk.WirelessManagementEvent)
  deriving DecidableEq

namespace Converted

def contents : Converted → Reading
  | deviceDescriptor v => .deviceDescriptor v.contents
  | trackingDeviceEvent v => .trackingDeviceEvent v.contents
  | trackingDevices v => .trackingDevices v.contents
  | commonHardwareState v => .commonHardwareState v.contents
  | basestationHardwareState v => .basestationHardwareState v.contents
  | siuHardwareState v => .siuHardwareState v.contents
  | wirelessReceiverHardwareState v => .wirelessReceiverHardwareState v.contents
  | hardwareStates v => .hardwareStates v.contents
  | trackingDeviceData v => .trackingDeviceData v.contents
  | dataFrame v => .dataFrame v.contents
  | trackingGroup v => .trackingGroup v.contents
  | trackingGroupEvent v => .trackingGroupEvent v.contents
  | wirelessManagementEvent v => .wirelessManagementEvent v.contents

/-- Each count is the length of its array. -/
def WellCounted : Converted → Prop
  | deviceDescriptor v => v.WellCounted
  | trackingDeviceEvent v => v.device.WellCounted
  | trackingDevices v => v.devices.Matches ∧ ∀ device ∈ v.devices.elements, device.WellCounted
  | commonHardwareState _ => True
  | basestationHardwareState _ => True
  | siuHardwareState v => v.sensorDeviceStates.Matches
  | wirelessReceiverHardwareState v => v.connectedSius.Matches
  | hardwareStates v => v.WellCounted
  | trackingDeviceData v => v.WellCounted
  | dataFrame v => v.deviceData.Matches ∧ ∀ data ∈ v.deviceData.elements, data.WellCounted
  | trackingGroup v => v.WellCounted
  | trackingGroupEvent v => v.WellCounted
  | wirelessManagementEvent v => v.WellCounted

def owned : Converted → List ArrayId
  | deviceDescriptor v => v.owned
  | trackingDeviceEvent v => v.owned
  | trackingDevices v => v.owned
  | commonHardwareState v => v.owned
  | basestationHardwareState v => v.owned
  | siuHardwareState v => v.owned
  | wirelessReceiverHardwareState v => v.owned
  | hardwareStates v => v.owned
  | trackingDeviceData v => v.owned
  | dataFrame v => v.owned
  | trackingGroup v => v.owned
  | trackingGroupEvent v => v.owned
  | wirelessManagementEvent v => v.owned

def destroy : Converted → ArrayM Unit
  | deviceDescriptor v => destroyDeviceDescriptor (some v)
  | trackingDeviceEvent v => destroyTrackingDeviceEvent (some v)
  | trackingDevices v => destroyTrackingDevices (some v)
  | commonHardwareState v => destroyCommonHardwareState (some v)
  | basestationHardwareState v => destroyBasestationHardwareState (some v)
  | siuHardwareState v => destroySIUHardwareState (some v)
  | wirelessReceiverHardwareState v => destroyWirelessReceiverHardwareState (some v)
  | hardwareStates v => destroyHardwareStates (some v)
  | trackingDeviceData v => destroyTrackingDeviceData (some v)
  | dataFrame v => destroyDataFrame (some v)
  | trackingGroup v => destroyTrackingGroup (some v)
  | trackingGroupEvent v => destroyTrackingGroupEvent (some v)
  | wirelessManagementEvent v => destroyWirelessManagementEvent (some v)

/-- The arrays that Destroy deletes, in its order. -/
def released : Converted → List ArrayId
  | deviceDescriptor v => v.owned
  | trackingDeviceEvent v => v.owned
  | trackingDevices v => v.devices.elements.flatMap DeviceDescriptor.owned ++ v.devices.ids
  | commonHardwareState v => v.owned
  | basestationHardwareState v => v.owned
  | siuHardwareState v => v.owned
  | wirelessReceiverHardwareState v => v.owned
  | hardwareStates v => v.released
  | trackingDeviceData v => v.owned
  | dataFrame v => v.deviceData.elements.flatMap TrackingDeviceData.owned ++ v.deviceData.ids
  | trackingGroup v => v.devices.elements.flatMap DeviceDescriptor.owned ++ v.devices.ids
  | trackingGroupEvent v => v.trackingGroup.devices.ids
  | wirelessManagementEvent v =>
      v.siuUuids.ids ++ (v.pairingInformation.devicePairingInformation.elements.flatMap
        DevicePairingInformation.owned ++ v.pairingInformation.devicePairingInformation.ids)

/-- Every device in a group event owns an array. -/
def DevicesOwn : Converted → Prop
  | trackingGroupEvent v => ∀ device ∈ v.trackingGroup.devices.elements, device.owned ≠ []
  | _ => True

/-- The devices in a group event. -/
def groupDevices : Converted → List DeviceDescriptor
  | trackingGroupEvent v => v.trackingGroup.devices.elements
  | _ => []

/-- `DestroyWirelessManagementEvent` counts the pairing devices with an `int`. -/
def Countable : Converted → Prop
  | wirelessManagementEvent v =>
      v.pairingInformation.devicePairingInformation.elements.length ≤ intMax
  | _ => True

end Converted

namespace Message

/-- The size of every repeated field is an `int`. -/
def Sized : Message → Prop
  | deviceDescriptor message => SizedDescriptor message
  | trackingDeviceEvent message => SizedDescriptor message.device
  | trackingDevices message => SizedDevices message.devices
  | commonHardwareState _ => True
  | basestationHardwareState _ => True
  | siuHardwareState message => message.sensorDeviceStates.length ≤ intMax
  | wirelessReceiverHardwareState message => message.connectedSius.length ≤ intMax
  | hardwareStates message => SizedHardware message
  | trackingDeviceData message => SizedData message
  | dataFrame message => SizedFrame message
  | trackingGroup message => SizedDevices message.devices
  | trackingGroupEvent message => SizedDevices message.trackingGroup.devices
  | wirelessManagementEvent message => SizedWireless message

/-- The poses of tracking data fit together. -/
def Aligned : Message → Prop
  | trackingDeviceData message => message.PosesAligned
  | dataFrame message => ∀ data ∈ message.deviceData, data.PosesAligned
  | _ => True

/-- The devices in a group event. -/
def groupDevices : Message → List Proto.DeviceDescriptor
  | trackingGroupEvent message => message.trackingGroup.devices
  | _ => []

/-- The conversion without pointers. -/
def reading : Message → Except Fault Reading
  | deviceDescriptor message => .ok (.deviceDescriptor (Sdk.protoToDeviceDescriptor message))
  | trackingDeviceEvent message =>
      .ok (.trackingDeviceEvent (Sdk.protoToTrackingDeviceEvent message))
  | trackingDevices message => .ok (.trackingDevices (Sdk.protoToTrackingDevices message))
  | commonHardwareState message =>
      .ok (.commonHardwareState (Sdk.protoToCommonHardwareState message))
  | basestationHardwareState message =>
      .ok (.basestationHardwareState (Sdk.protoToBasestationHardwareState message))
  | siuHardwareState message => .ok (.siuHardwareState (Sdk.protoToSIUHardwareState message))
  | wirelessReceiverHardwareState message =>
      .ok (.wirelessReceiverHardwareState (Sdk.protoToWirelessReceiverHardwareState message))
  | hardwareStates message => .ok (.hardwareStates (Sdk.protoToHardwareStates message))
  | trackingDeviceData message => .trackingDeviceData <$> Sdk.protoToTrackingDeviceData message
  | dataFrame message => .dataFrame <$> Sdk.protoToDataFrame message
  | trackingGroup message => .ok (.trackingGroup (Sdk.protoToTrackingGroup message))
  | trackingGroupEvent message =>
      .ok (.trackingGroupEvent (Sdk.protoToTrackingGroupEvent message))
  | wirelessManagementEvent message =>
      .ok (.wirelessManagementEvent (Sdk.protoToWirelessManagementEvent message))

def convert : Message → ArrayM Converted
  | deviceDescriptor message => do
      let v ← protoToDeviceDescriptor message
      return .deviceDescriptor v
  | trackingDeviceEvent message => do
      let v ← protoToTrackingDeviceEvent message
      return .trackingDeviceEvent v
  | trackingDevices message => do
      let v ← protoToTrackingDevices message
      return .trackingDevices v
  | commonHardwareState message => do
      let v ← protoToCommonHardwareState message
      return .commonHardwareState v
  | basestationHardwareState message => do
      let v ← protoToBasestationHardwareState message
      return .basestationHardwareState v
  | siuHardwareState message => do
      let v ← protoToSIUHardwareState message
      return .siuHardwareState v
  | wirelessReceiverHardwareState message => do
      let v ← protoToWirelessReceiverHardwareState message
      return .wirelessReceiverHardwareState v
  | hardwareStates message => do
      let v ← protoToHardwareStates message
      return .hardwareStates v
  | trackingDeviceData message => do
      let v ← protoToTrackingDeviceData message
      return .trackingDeviceData v
  | dataFrame message => do
      let v ← protoToDataFrame message
      return .dataFrame v
  | trackingGroup message => do
      let v ← protoToTrackingGroup message
      return .trackingGroup v
  | trackingGroupEvent message => do
      let v ← protoToTrackingGroupEvent message
      return .trackingGroupEvent v
  | wirelessManagementEvent message => do
      let v ← protoToWirelessManagementEvent message
      return .wirelessManagementEvent v

variable {message : Message} {h : Arrays}

/-- A conversion that is plainly defined. -/
theorem reading_ok_iff : (∃ reading, message.reading = .ok reading) ↔ message.Aligned := by
  cases message with
  | trackingDeviceData message =>
      rw [Aligned, ← protoToTrackingDeviceData_ok_iff, reading]
      cases Sdk.protoToTrackingDeviceData message with
      | error fault => exact iff_of_false nofun nofun
      | ok converted => exact iff_of_true ⟨_, rfl⟩ ⟨_, rfl⟩
  | dataFrame message =>
      rw [Aligned, ← protoToDataFrame_ok_iff, reading]
      cases Sdk.protoToDataFrame message with
      | error fault => exact iff_of_false nofun nofun
      | ok converted => exact iff_of_true ⟨_, rfl⟩ ⟨_, rfl⟩
  | _ => exact iff_of_true ⟨_, rfl⟩ trivial

/-- **The spec of the converters.** -/
theorem convert_allocates {reading : Reading} (sized : message.Sized)
    (run : message.reading = .ok reading) :
    Allocates message.convert Converted.owned fun v =>
      v.contents = reading ∧ v.WellCounted ∧ v.Countable ∧ v.DevicesOwn ∧
        v.groupDevices.length = message.groupDevices.length := by
  cases message with
  | deviceDescriptor message =>
      cases run
      exact .map (protoToDeviceDescriptor_allocates sized) (fun _ => rfl)
        fun _ read => ⟨congrArg Reading.deviceDescriptor read.1, read.2.1, trivial, trivial, rfl⟩
  | trackingDeviceEvent message =>
      cases run
      exact .map (protoToTrackingDeviceEvent_allocates sized) (fun _ => rfl)
        fun _ read => ⟨congrArg Reading.trackingDeviceEvent read.1, read.2, trivial, trivial, rfl⟩
  | trackingDevices message =>
      cases run
      exact .map (protoToTrackingDevices_allocates sized) (fun _ => rfl)
        fun _ read => ⟨congrArg Reading.trackingDevices read.1, read.2, trivial, trivial, rfl⟩
  | commonHardwareState message =>
      cases run
      exact .map (protoToCommonHardwareState_allocates message) (fun _ => rfl)
        fun _ read => ⟨congrArg Reading.commonHardwareState read, trivial, trivial, trivial, rfl⟩
  | basestationHardwareState message =>
      cases run
      exact .map (protoToBasestationHardwareState_allocates message) (fun _ => rfl)
        fun _ read =>
          ⟨congrArg Reading.basestationHardwareState read, trivial, trivial, trivial, rfl⟩
  | siuHardwareState message =>
      cases run
      exact .map (protoToSIUHardwareState_allocates sized) (fun _ => rfl)
        fun _ read => ⟨congrArg Reading.siuHardwareState read.1, read.2, trivial, trivial, rfl⟩
  | wirelessReceiverHardwareState message =>
      cases run
      exact .map (protoToWirelessReceiverHardwareState_allocates sized) (fun _ => rfl)
        fun _ read => ⟨congrArg Reading.wirelessReceiverHardwareState read.1, read.2, trivial,
          trivial, rfl⟩
  | hardwareStates message =>
      cases run
      exact .map (protoToHardwareStates_allocates sized) (fun _ => rfl)
        fun _ read => ⟨congrArg Reading.hardwareStates read.1, read.2, trivial, trivial, rfl⟩
  | trackingDeviceData message =>
      obtain ⟨converted, plain, rfl⟩ := map_ok run
      exact .map (protoToTrackingDeviceData_allocates sized plain) (fun _ => rfl)
        fun _ read => ⟨congrArg Reading.trackingDeviceData read.1, read.2, trivial, trivial, rfl⟩
  | dataFrame message =>
      obtain ⟨converted, plain, rfl⟩ := map_ok run
      exact .map (protoToDataFrame_allocates sized plain) (fun _ => rfl)
        fun _ read => ⟨congrArg Reading.dataFrame read.1, read.2, trivial, trivial, rfl⟩
  | trackingGroup message =>
      cases run
      exact .map (protoToTrackingGroup_allocates sized) (fun _ => rfl)
        fun _ read => ⟨congrArg Reading.trackingGroup read.1, read.2.1, trivial, trivial, rfl⟩
  | trackingGroupEvent message =>
      cases run
      refine .map (protoToTrackingGroupEvent_allocates sized) (fun _ => rfl)
        fun v read => ⟨congrArg Reading.trackingGroupEvent read.1, read.2.1, trivial, read.2.2, ?_⟩
      have devices : (v.trackingGroup.devices.elements.map DeviceDescriptor.contents).length =
          (message.trackingGroup.devices.map Sdk.protoToDeviceDescriptor).length :=
        congrArg (fun c => c.trackingGroup.devices.length) read.1
      rwa [List.length_map, List.length_map] at devices
  | wirelessManagementEvent message =>
      cases run
      refine .map (protoToWirelessManagementEvent_allocates sized) (fun _ => rfl)
        fun v read => ⟨congrArg Reading.wirelessManagementEvent read.1, read.2, ?_, trivial, rfl⟩
      have devices := congrArg (fun c => c.pairingInformation.devicePairingInformation.length)
        read.1
      simp only [WirelessManagementEvent.contents, PairingInformation.contents,
        Sdk.protoToWirelessManagementEvent, List.length_map] at devices
      exact devices.trans_le sized.2.1

/-- A conversion that ends has found all it looked for. -/
theorem convert_completes (completes : Completes message.convert h) : message.Aligned := by
  cases message with
  | trackingDeviceData message =>
      obtain ⟨v, after, run, -⟩ := completes_bind completes
      exact protoToTrackingDeviceData_completes ⟨_, _, run⟩
  | dataFrame message =>
      obtain ⟨v, after, run, -⟩ := completes_bind completes
      obtain ⟨data, after', run, -⟩ := completes_bind ⟨_, _, run⟩
      intro data member
      obtain ⟨i, inside, found⟩ := List.mem_iff_getElem.mp member
      obtain ⟨h', one⟩ := convertEach_completes ⟨_, _, run⟩ i inside
      rw [readElement_lt inside, pure_bind, found] at one
      exact protoToTrackingDeviceData_completes one
  | _ => trivial

end Message

namespace Converted

variable {v : Converted}

/-- **The spec of the Destroy functions.** -/
theorem destroy_releases (counted : v.WellCounted) (countable : v.Countable) :
    Releases v.destroy v.released := by
  cases v with
  | deviceDescriptor v => exact .map (destroyDeviceDescriptorMembers_releases v)
  | trackingDeviceEvent v => exact .map (destroyDeviceDescriptorMembers_releases v.device)
  | trackingDevices v =>
      exact destroyEach_releases counted.1 destroyDeviceDescriptorMembers_releases
  | commonHardwareState v => exact .map (destroyCommonHardwareStateMembers_releases v)
  | basestationHardwareState v => exact .map (destroyBasestationHardwareStateMembers_releases v)
  | siuHardwareState v => exact .map (destroySIUHardwareStateMembers_releases v)
  | wirelessReceiverHardwareState v =>
      exact .map (destroyWirelessReceiverHardwareStateMembers_releases v)
  | hardwareStates v => exact destroyHardwareStates_releases counted
  | trackingDeviceData v => exact .map (destroyTrackingDeviceDataMembers_releases v)
  | dataFrame v =>
      exact destroyEach_releases counted.1 destroyTrackingDeviceDataMembers_releases
  | trackingGroup v => exact destroyTrackingGroup_releases counted
  | trackingGroupEvent v => exact .map (destroyTrackingGroupEventMembers_releases v)
  | wirelessManagementEvent v => exact destroyWirelessManagementEvent_releases counted countable

theorem released_subperm (v : Converted) : v.released.Subperm v.owned := by
  cases v with
  | trackingDevices v | dataFrame v | trackingGroup v => exact List.perm_append_comm.subperm
  | hardwareStates v =>
      exact (List.perm_append_comm.append
        (List.perm_append_comm.append List.perm_append_comm)).subperm
  | trackingGroupEvent v => exact (List.sublist_append_left _ _).subperm
  | wirelessManagementEvent v => exact (List.perm_append_comm.append_left _).subperm
  | _ => exact List.Subperm.refl _

theorem released_perm (childless : v.groupDevices = []) : v.released.Perm v.owned := by
  cases v with
  | trackingDevices v | dataFrame v | trackingGroup v => exact List.perm_append_comm
  | hardwareStates v =>
      exact List.perm_append_comm.append (List.perm_append_comm.append List.perm_append_comm)
  | trackingGroupEvent v =>
      have none : v.trackingGroup.devices.elements = [] := childless
      rw [released, owned, TrackingGroupEvent.owned, TrackingGroup.owned, none,
        List.flatMap_nil, List.append_nil]
  | wirelessManagementEvent v => exact List.perm_append_comm.append_left _
  | _ => exact List.Perm.refl _

/-- An array of a device in a group event is not among the released ones. -/
theorem kept_of_groupDevices (distinct : v.owned.Nodup) (own : v.DevicesOwn)
    (devices : v.groupDevices ≠ []) : ∃ id ∈ v.owned, id ∉ v.released := by
  cases v with
  | trackingGroupEvent v => exact Value.kept_of_devices distinct own devices
  | _ => exact absurd rfl devices

end Converted

/-- **Converted, and given back.**  For every message whose repeated fields have `int` sizes:
the conversion ends if and only if the poses of its tracking data fit together.  The user
then reads the message; the arrays that have come are those of the result, and they are new.
Destroy ends too, and has deleted these arrays, each once, and no other, if and only if the
message is not a group event with devices. -/
theorem Message.conversion_undone_iff (message : Message) (sized : message.Sized) (h : Arrays) :
    ((∃ v between, message.convert.run h = .ok (v, between)) ↔ message.Aligned) ∧
    ∀ v between, message.convert.run h = .ok (v, between) →
      message.reading = .ok v.contents ∧ v.WellCounted ∧ v.owned.Nodup ∧
      (∀ id, id ∈ v.owned ↔ id ∈ between.live ∧ id ∉ h.live) ∧
      ∃ after, v.destroy.run between = .ok ((), after) ∧
        (Arrays.Undone h between after ↔ message.groupDevices = []) := by
  refine ⟨⟨fun completes => convert_completes completes, fun aligned => ?_⟩, ?_⟩
  · obtain ⟨reading, run⟩ := reading_ok_iff.mpr aligned
    obtain ⟨v, converted, -⟩ := convert_allocates sized run h
    exact ⟨v, _, converted⟩
  · intro v between converted
    obtain ⟨reading, run⟩ := reading_ok_iff.mpr (convert_completes ⟨_, _, converted⟩)
    obtain ⟨v', converted', created, read, counted, countable, own, devices⟩ :=
      convert_allocates sized run h
    rw [converted] at converted'
    cases converted'
    have distinct : v.owned.Nodup := by
      rw [created]
      exact List.nodup_range'
    have new : ∀ id, id ∈ v.owned ↔ id ∈ (h.grow v.owned.length).live ∧ id ∉ h.live := by
      intro id
      rw [← h.mem_created, ← created]
    obtain ⟨deleted, perm, sublist⟩ := v.released_subperm
    obtain ⟨u, destroyed⟩ := Converted.destroy_releases counted countable _
      (perm.nodup_iff.mp (sublist.nodup distinct))
      fun id member => ((new id).mp (v.released_subperm.subset member)).1
    refine ⟨by rw [run, read], counted, distinct, new, _, destroyed, ?_⟩
    rw [← List.length_eq_zero_iff, ← devices, List.length_eq_zero_iff]
    constructor
    · intro undone
      by_contra some
      obtain ⟨id, mine, kept⟩ := Converted.kept_of_groupDevices distinct own some
      rw [created] at mine
      exact h.not_undone_release _ _ mine kept undone
    · intro childless
      refine h.undone_release _ _ ?_
      rw [← created]
      exact Converted.released_perm childless

/-- A group of one device connects. -/
def oneGroupMessage : Proto.TrackingGroupEvent where
  connected := true
  trackingGroup := { siuUuid := 7, devices := [{ siuUuid := 7, sensorUnitDescriptors := [{}] }] }

theorem sized_oneGroupMessage : (Message.trackingGroupEvent oneGroupMessage).Sized :=
  ⟨by decide, List.forall_mem_singleton.mpr ⟨by decide, by decide⟩⟩

/-- It is read, and the two arrays of the device are left. -/
theorem Message.conversion_undone_iff_group :
    (∃ v between,
      (Message.trackingGroupEvent oneGroupMessage).convert.run .empty = .ok (v, between)) ∧
    ∀ v between,
      (Message.trackingGroupEvent oneGroupMessage).convert.run .empty = .ok (v, between) →
      v.contents = .trackingGroupEvent (Sdk.protoToTrackingGroupEvent oneGroupMessage) ∧
      ∃ after, v.destroy.run between = .ok ((), after) ∧
        ¬ Arrays.Undone .empty between after := by
  have spec := Message.conversion_undone_iff (.trackingGroupEvent oneGroupMessage)
    sized_oneGroupMessage .empty
  refine ⟨spec.1.mpr trivial, fun v between converted => ?_⟩
  obtain ⟨read, -, -, -, after, destroyed, undone⟩ := spec.2 v between converted
  refine ⟨(Except.ok.inj read).symm, after, destroyed, fun all => ?_⟩
  cases undone.mp all

/-! ## Members that are destroyed twice -/

/-- The types that have a function for their members alone. -/
inductive Members where
  | deviceDescriptor (v : DeviceDescriptor)
  | commonHardwareState (v : CommonHardwareState)
  | basestationHardwareState (v : BasestationHardwareState)
  | siuHardwareState (v : SIUHardwareState)
  | wirelessReceiverHardwareState (v : WirelessReceiverHardwareState)
  | trackingDeviceData (v : TrackingDeviceData)
  | devicePacket (v : DevicePacket)
  | trackingGroup (v : TrackingGroup)
  | trackingGroupEvent (v : TrackingGroupEvent)
  | wirelessManagementEvent (v : WirelessManagementEvent)

namespace Members

def destroyMembers : Members → ArrayM Members
  | deviceDescriptor v => do
      let v ← destroyDeviceDescriptorMembers v
      return .deviceDescriptor v
  | commonHardwareState v => do
      let v ← destroyCommonHardwareStateMembers v
      return .commonHardwareState v
  | basestationHardwareState v => do
      let v ← destroyBasestationHardwareStateMembers v
      return .basestationHardwareState v
  | siuHardwareState v => do
      let v ← destroySIUHardwareStateMembers v
      return .siuHardwareState v
  | wirelessReceiverHardwareState v => do
      let v ← destroyWirelessReceiverHardwareStateMembers v
      return .wirelessReceiverHardwareState v
  | trackingDeviceData v => do
      let v ← destroyTrackingDeviceDataMembers v
      return .trackingDeviceData v
  | devicePacket v => do
      let v ← destroyDevicePacketMembers v
      return .devicePacket v
  | trackingGroup v => do
      let v ← destroyTrackingGroupMembers v
      return .trackingGroup v
  | trackingGroupEvent v => do
      let v ← destroyTrackingGroupEventMembers v
      return .trackingGroupEvent v
  | wirelessManagementEvent v => do
      let v ← destroyWirelessManagementEventMembers v
      return .wirelessManagementEvent v

/-- The array of the pairing devices: the one pointer that is not cleared. -/
def dangling : Members → Option ArrayId
  | wirelessManagementEvent v => v.pairingInformation.devicePairingInformation.pointer.id?
  | _ => none

theorem deleteArray_none : deleteArray none = pure () := rfl

theorem destroyElements_eq {α : Type} (xs : Counted α) : destroyElements xs = (do
    deleteArray xs.pointer.id?
    return { count := 0, pointer := .null }) := rfl

/-- Twice is once, and then the pointer that was left. -/
theorem destroyMembers_twice (v : Members) :
    (v.destroyMembers >>= destroyMembers) = (do
      let v' ← v.destroyMembers
      deleteArray v.dangling
      return v') := by
  cases v with
  | wirelessManagementEvent v =>
      simp only [destroyMembers, destroyWirelessManagementEventMembers, bind_assoc, pure_bind,
        dangling, ArrayPtr.id?, deleteArray_none]
      rfl
  | _ =>
      simp only [destroyMembers, destroyDeviceDescriptorMembers, destroyCommonHardwareStateMembers,
        destroyBasestationHardwareStateMembers, destroySIUHardwareStateMembers,
        destroyWirelessReceiverHardwareStateMembers, destroyTrackingDeviceDataMembers,
        destroyDevicePacketMembers, destroyTrackingGroupMembers, destroyTrackingGroupEventMembers,
        destroyElements_eq, bind_assoc, pure_bind, ArrayPtr.id?, deleteArray_none, dangling]

/-- The pointer that is left names an array that is gone. -/
theorem dangling_gone {v v' : Members} {h h' : Arrays}
    (run : v.destroyMembers.run h = .ok (v', h')) {id : ArrayId} (left : v.dangling = some id) :
    id ∉ h'.live := by
  cases v with
  | wirelessManagementEvent v =>
      obtain ⟨cleared, between, members, rest⟩ := ok_of_bind run
      cases rest
      obtain ⟨-, h₁, -, members⟩ := ok_of_bind members
      obtain ⟨-, h₂, -, members⟩ := ok_of_bind members
      obtain ⟨u, h₃, deleted, members⟩ := ok_of_bind members
      cases members
      rw [show v.pairingInformation.devicePairingInformation.pointer.id? = some id from left]
        at deleted
      exact gone_of_delete deleted
  | _ => cases left

/-- **Clean-up of members, repeated.**  Whatever was destroyed once can be destroyed again
without effect, but for a wireless event that had an array of pairing devices: that one is
deleted a second time. -/
theorem destroyMembers_again (v v' : Members) (h h' : Arrays)
    (run : v.destroyMembers.run h = .ok (v', h')) :
    v'.destroyMembers.run h' = if v.dangling = none then .ok (v', h') else .error .notLive := by
  have twice : (v.destroyMembers >>= destroyMembers).run h = v'.destroyMembers.run h' :=
    run_bind run
  rw [← twice, destroyMembers_twice, run_bind run]
  cases left : v.dangling with
  | none => rfl
  | some id =>
      have gone := dangling_gone run left
      rw [if_neg (by simp), StateT.run_bind]
      show (if id ∈ h'.live then _ else _) >>= _ = _
      rw [if_neg gone]
      rfl

/-- A device asks to be paired; the arrays are 0 and 1. -/
def pairingRequest : WirelessManagementEvent where
  eventType := 1
  pairingInformation := {
    siuUuid := 7
    devicePairingInformation := ⟨1, .array 0 [{ devicePartNums := ⟨1, .array 1 [42]⟩ }]⟩ }

theorem destroyMembers_again_pairing :
    ∃ v' h', (wirelessManagementEvent pairingRequest).destroyMembers.run (Arrays.empty.grow 2) =
        .ok (v', h') ∧
      v'.destroyMembers.run h' = .error .notLive :=
  ⟨_, _, rfl, destroyMembers_again (wirelessManagementEvent pairingRequest) _ (Arrays.empty.grow 2) _
    rfl⟩

end Members

end OmmoSdk.Sdk.Owned
