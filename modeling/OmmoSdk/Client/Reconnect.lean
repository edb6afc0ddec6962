/-
# Client.Reconnect — the streams after the channel has come back

The monitor reopens the streams of base station storages and wireless managers in the round
in which it finds the channel ready again.  The streams of devices come back with the
connected events of the new event stream.  Both pass by an owner that has a stream, and to have
one is to have a pointer to it.

`FindsLasting` says that a stream which is found so is not one whose failed completion is
still to come.  Under it no owner is passed by for nothing: each that should have a stream was
given one since the loss, or some thread has still to see to it (`Recovering`).
-/
import OmmoSdk.Client.LostCalls

namespace OmmoSdk.Client

open OmmoSdk.Theory
open OmmoSdk.Sdk

set_option autoImplicit false

/-! ## The rounds that are ahead -/

/-- Among the states is one that makes the turn, seen after those before it. -/
def TurnAhead (turn : Option ChannelState → ChannelState → Prop) :
    Option ChannelState → List ChannelState → Prop
  | _, [] => False
  | previous, state :: states => turn previous state ∨ TurnAhead turn (some state) states

/-- The monitor, with `previous` as the state saved last, has the turn ahead. -/
def RoundAhead (turn : Option ChannelState → ChannelState → Prop) :
    Option ChannelState → List Instr → Prop
  | _, [] => False
  | _, .saveChannelState state :: rest => RoundAhead turn (some state) rest
  | previous, .channelMonitor states :: _ => TurnAhead turn previous states
  | previous, _ :: rest => RoundAhead turn previous rest

def TurnsReady (previous : Option ChannelState) (state : ChannelState) : Prop :=
  previous ≠ some .ready ∧ state = .ready

def TurnsLost (previous : Option ChannelState) (state : ChannelState) : Prop :=
  previous = some .ready ∧ state ≠ .ready

/-- The instructions that the turns of the monitor are read off. -/
def Instr.polls : Instr → Bool
  | channelMonitor _ | saveChannelState _ => true
  | _ => false

section Rounds

variable {turn : Option ChannelState → ChannelState → Prop} {previous : Option ChannelState} {orders : Orders}
  {w : ClientManager} {instr : Instr} {program rest : List Instr}

theorem roundAhead_cons (quiet : instr.polls = false) :
    RoundAhead turn previous (instr :: rest) ↔ RoundAhead turn previous rest := by
  cases instr <;> first | (cases quiet; done) | exact .rfl

theorem roundAhead_append (quiet : ∀ i ∈ program, i.polls = false) :
    RoundAhead turn previous (program ++ rest) ↔ RoundAhead turn previous rest := by
  induction program with
  | nil => exact .rfl
  | cons instr program ih =>
      obtain ⟨here, later⟩ := List.forall_mem_cons.mp quiet
      exact (roundAhead_cons here).trans (ih later)

theorem polls_of_next (quiet : instr.polls = false) : ∀ i ∈ instr.next orders w, i.polls = false := by
  intro i member
  cases Instr.follows_of_next member <;> first | rfl | cases quiet

theorem channel_run (orders : Orders) (w : ClientManager) (quiet : instr.polls = false) :
    (instr.run orders w).previousChannelState = w.previousChannelState := by
  cases records : instr.records with
  | false => exact (sameRecords_run orders w records).channel
  | true =>
      cases instr with
      | recordDevice device deviceConnected =>
          obtain ⟨connected, recorded⟩ := ClientManager.recordDevice_frame w device deviceConnected
          rw [Instr.run, recorded]
      | _ => first | (cases records; done) | (cases quiet; done) | rfl

theorem polls_onChannelState (w : ClientManager) (state : ChannelState) :
    ∀ i ∈ Instr.onChannelState w state, i.polls = false := by
  intro i member
  cases state <;> grind [Instr.onChannelState, Instr.stopEventStream, Instr.polls]

/-- **One instruction of the monitor.**  A round that is ahead stays ahead, or begins. -/
theorem roundAhead_step (orders : Orders)
    (ahead : RoundAhead turn w.previousChannelState (instr :: rest)) :
    (∃ state states, instr = .channelMonitor (state :: states) ∧ turn w.previousChannelState state) ∨
      RoundAhead turn (instr.run orders w).previousChannelState (instr.next orders w ++ rest) := by
  cases quiet : instr.polls with
  | false =>
      rw [channel_run orders w quiet]
      exact .inr ((roundAhead_append (polls_of_next quiet)).mpr ((roundAhead_cons quiet).mp ahead))
  | true =>
      cases instr with
      | saveChannelState state => exact .inr ahead
      | channelMonitor states =>
          cases states with
          | nil => cases ahead
          | cons state states =>
              rcases ahead with now | later
              · exact .inl ⟨state, states, rfl, now⟩
              · refine .inr ?_
                simp only [Instr.next]
                split
                · rw [List.append_assoc]
                  exact (roundAhead_append (polls_onChannelState w state)).mpr later
                · rename_i same
                  rw [Decidable.not_not] at same
                  show RoundAhead turn w.previousChannelState (.channelMonitor states :: rest)
                  rw [same]
                  exact later
      | _ => cases quiet

end Rounds

/-! ## The streams that are found -/

/-- **A stream that is found has not failed**: where a thread sees to the stream of an owner and finds
a pointer, the failed completion of that call is not still to come. -/
def Instr.FindsLasting (w : ClientManager) (pending : Set Instr) : Instr → Prop
  | dataStreamExists m device =>
      ∀ c, w.stored (.device m device.hash) = some c → deleteCallData c ∉ pending
  | reopenBaseStationStream s => ∀ c, w.stored (.baseStation s) = some c → deleteCallData c ∉ pending
  | reopenWirelessStream i =>
      w.isStreamActive i = true → ∀ c, w.stored (.wireless i) = some c → deleteCallData c ∉ pending
  | _ => True

/-- The monitor is about to give the owner of the slot a stream, or to look whether it has one. -/
def Instr.restores (slot : Slot) : Instr → Prop
  | forBaseStationStorages => ∃ s, slot = .baseStation s
  | reopenBaseStationStream s => slot = .baseStation s
  | forWirelessManagers => ∃ i, slot = .wireless i
  | reopenWirelessStream i => slot = .wireless i
  | instr => instr.opened = some slot

/-- The owner that is put on its list. -/
def Instr.pushed : Instr → Option Slot
  | pushBaseStationDataStorage s => some (.baseStation s)
  | pushWirelessManager i => some (.wireless i)
  | _ => none

/-- Its owner is one of those that the monitor goes through. -/
def Visited (w : ClientManager) : Slot → Prop
  | .baseStation s => s ∈ w.baseStationDataStorageList
  | .wireless i => i ∈ w.wirelessManagerWrapperList
  | _ => False

section Slots

variable {n : Nat} {orders : Orders} {w : ClientManager} {instr : Instr} {others : List Instr} {slot : Slot}
  {s : StorageId} {i : WirelessId}

theorem stored_of_baseStationStreamExists (found : w.baseStationStreamExists s = true) :
    ∃ c, w.stored (.baseStation s) = some c := by
  obtain ⟨storage, held, stream⟩ := (Option.any_eq_true _ _).mp found
  obtain ⟨c, stored⟩ := Option.ne_none_iff_exists'.mp (of_decide_eq_true stream)
  exact ⟨c, by simp [ClientManager.stored, held, stored]⟩

theorem stored_of_isStreamActive (active : w.isStreamActive i = true) :
    ∃ c, w.stored (.wireless i) = some c := by
  obtain ⟨c, stored, -⟩ := (Option.any_eq_true _ _).mp active
  exact ⟨c, stored⟩

theorem visited_run (orders : Orders) (visited : Visited (instr.run orders w) slot) :
    Visited w slot ∨ instr.pushed = some slot := by
  cases records : instr.records with
  | false =>
      have same := sameRecords_run orders w records
      cases slot with
      | baseStation s =>
          have listed : s ∈ (instr.run orders w).baseStationDataStorageList := visited
          rw [same.stations] at listed
          exact .inl listed
      | wireless i =>
          have listed : i ∈ (instr.run orders w).wirelessManagerWrapperList := visited
          rw [same.wrappers] at listed
          exact .inl listed
      | _ => cases visited
  | true =>
      cases instr with
      | pushBaseStationDataStorage s =>
          cases slot with
          | baseStation s' =>
              rcases List.mem_append.mp visited with old | new
              · exact .inl old
              · exact .inr (by rw [List.mem_singleton.mp new]; rfl)
          | _ => exact .inl visited
      | pushWirelessManager i =>
          cases slot with
          | wireless i' =>
              rcases List.mem_append.mp visited with old | new
              · exact .inl old
              · exact .inr (by rw [List.mem_singleton.mp new]; rfl)
          | _ => exact .inl visited
      | recordDevice device deviceConnected =>
          obtain ⟨connected, recorded⟩ := ClientManager.recordDevice_frame w device deviceConnected
          rw [Instr.run, recorded] at visited
          cases slot <;> exact .inl visited
      | _ => first | (cases records; done) | (cases slot <;> exact .inl visited)

theorem opened_of_pushed {push : Instr} (member : push ∈ instr.next orders w) (pushed : push.pushed = some slot) :
    ∃ j ∈ instr.next orders w, j.opened = some slot := by
  cases Instr.follows_of_next member with
  | listedStorage | listedWireless =>
      cases pushed
      exact ⟨_, List.mem_cons_self, rfl⟩
  | _ => cases pushed

/-- The call that is opened for an owner other than a data manager. -/
theorem reopened_of_opened (orders : Orders) (count : n ≤ w.calls.length) (opened : instr.opened = some slot)
    (apart : slot.manager = none) : Reopened n (instr.run orders w) slot := by
  refine ⟨w.calls.length, count, ?_⟩
  cases instr with
  | openBaseStationDataStream s =>
      cases opened
      exact (undeleted_opened (w.handles_openBaseStationDataStream s)).openedFor
  | openWirelessManagementStream i =>
      cases opened
      exact (undeleted_opened (w.handles_openWirelessManagementStream i)).openedFor
  | openTrackingDevicesEventStream =>
      cases opened
      exact (undeleted_opened w.handles_openTrackingDevicesEventStream).openedFor
  | openTrackingDeviceDataStream m device | openDataFrameStream m devices =>
      cases opened
      cases apart
  | _ => cases opened

/-- **What sees to a slot** has opened a call for it afterwards, or hands it on. -/
theorem restores_step (orders : Orders) (lost : LostCalls n w (instr :: others)) (visited : Visited w slot)
    (finds : instr.FindsLasting w { i | i ∈ instr :: others }) (restores : instr.restores slot) :
    Reopened n (instr.run orders w) slot ∨ ∃ i ∈ instr.next orders w, i.restores slot := by
  have apart : slot.manager = none := by cases slot <;> first | rfl | cases visited
  cases instr with
  | forBaseStationStorages =>
      obtain ⟨s, rfl⟩ := restores
      have listed : s ∈ w.baseStationDataStorageList := visited
      exact .inr ⟨.reopenBaseStationStream s, by simpa [Instr.next] using listed, rfl⟩
  | forWirelessManagers =>
      obtain ⟨i, rfl⟩ := restores
      have listed : i ∈ w.wirelessManagerWrapperList := visited
      exact .inr ⟨.reopenWirelessStream i, by simpa [Instr.next] using listed, rfl⟩
  | reopenBaseStationStream s =>
      cases restores
      by_cases found : w.baseStationStreamExists s = true
      · obtain ⟨c, stored⟩ := stored_of_baseStationStreamExists found
        exact .inl (lost.reopened (by simp) stored (finds c stored))
      · exact .inr ⟨.openBaseStationDataStream s, by simp [Instr.next, found], rfl⟩
  | reopenWirelessStream i =>
      cases restores
      by_cases active : w.isStreamActive i = true
      · obtain ⟨c, stored⟩ := stored_of_isStreamActive active
        exact .inl (lost.reopened (by simp) stored (finds active c stored))
      · exact .inr ⟨.openWirelessManagementStream i, by simp [Instr.next, active], rfl⟩
  | _ => exact .inl (reopened_of_opened orders lost.count restores apart)

end Slots

/-! ## The devices of the requests -/

/-- The manager is for single devices and its request names this one. -/
def Asked (w : ClientManager) (m : ManagerId) (device : DeviceDescriptor) : Prop :=
  ∃ manager, w.dataManagers[m]? = some manager ∧ manager.streamType = .deviceData ∧
    manager.isDeviceDataRequested device.id = true

/-- A thread is about to give the manager a stream of the device, or to look whether it has one. -/
def Instr.provides (m : ManagerId) (device : DeviceDescriptor) : Instr → Prop
  | forDataManagers device' deviceConnected => device' = device ∧ deviceConnected = true
  | updateStreams m' device' deviceConnected => m' = m ∧ device' = device ∧ deviceConnected = true
  | updateDeviceDataStream m' device' deviceConnected => m' = m ∧ device' = device ∧ deviceConnected = true
  | dataStreamExists m' device' | openTrackingDeviceDataStream m' device' => m' = m ∧ device' = device
  | openDeviceDataStream m' | forConnectedDevices m' => m' = m
  | _ => False

/-- The manager was given a stream of the device since the loss, or someone sees to it. -/
def Provided (n : Nat) (w : ClientManager) (pending : List Instr) (m : ManagerId) (device : DeviceDescriptor) : Prop :=
  Reopened n w (.device m device.hash) ∨ ∃ i ∈ pending, i.provides m device

/-- Every request is provided with the streams of the devices that are connected. -/
structure DevicesProvided (n : Nat) (w : ClientManager) (pending : List Instr) : Prop where
  keyed : ClientManager.Keyed w.connectedDevices
  provided : ∀ key device, w.connectedDevices.lookup key = some device → ∀ m ∈ w.dataManagerList,
    Asked w m device → Provided n w pending m device

section Devices

variable {n : Nat} {orders : Orders} {w w' : ClientManager} {instr : Instr} {others : List Instr} {m : ManagerId}
  {device : DeviceDescriptor}

theorem Asked.congr (same : w'.headers[m]? = w.headers[m]?) (asked : Asked w m device) : Asked w' m device := by
  obtain ⟨manager, held, typed, requested⟩ := asked
  have header : w'.headers[m]? = some manager.header := by
    rw [same, ClientManager.headers, List.getElem?_map, held]
    rfl
  rw [ClientManager.headers, List.getElem?_map, Option.map_eq_some_iff] at header
  obtain ⟨manager', held', header⟩ := header
  refine ⟨manager', held', (congrArg Prod.fst header).trans typed, ?_⟩
  rw [DataManager.isDeviceDataRequested_congr header]
  exact requested

/-- What a manager was made for does not change. -/
theorem Asked.before (made : m < w.headers.length) (asked : Asked (instr.run orders w) m device) :
    Asked w m device := by
  refine asked.congr ?_
  rw [headers_run, List.getElem?_append_left made]

theorem stored_of_dataStreamExists {manager : DataManager} (held : w.dataManagers[m]? = some manager)
    (found : w.dataStreamExists m device.id = true) : ∃ c, w.stored (.device m device.hash) = some c := by
  rw [ClientManager.dataStreamExists_iff held] at found
  obtain ⟨c, stored⟩ := Option.isSome_iff_exists.mp (AList.lookup_isSome.mpr found)
  exact ⟨c, by rw [ClientManager.stored_device held]; exact stored⟩

/-- **What provides for a device** has opened its stream afterwards, or hands it on. -/
theorem provides_step (orders : Orders) (lost : LostCalls n w (instr :: others)) (finds : instr.FindsLasting w { i | i ∈ instr :: others })
    (listed : m ∈ w.dataManagerList) (asked : Asked w m device)
    (connected : w.connectedDevices.lookup device.hash = some device) (provides : instr.provides m device) :
    Reopened n (instr.run orders w) (.device m device.hash) ∨ ∃ i ∈ instr.next orders w, i.provides m device := by
  obtain ⟨manager, held, typed, requested⟩ := asked
  cases instr with
  | forDataManagers device' deviceConnected =>
      obtain ⟨rfl, rfl⟩ := provides
      exact .inr ⟨.updateStreams m device' true, by simp [Instr.next, listed], rfl, rfl, rfl⟩
  | updateStreams m' device' deviceConnected =>
      obtain ⟨rfl, rfl, rfl⟩ := provides
      exact .inr ⟨.updateDeviceDataStream m' device' true, by simp [Instr.next, held, typed], rfl, rfl, rfl⟩
  | updateDeviceDataStream m' device' deviceConnected =>
      obtain ⟨rfl, rfl, rfl⟩ := provides
      exact .inr ⟨.dataStreamExists m' device', by simp [Instr.next, held, requested], rfl, rfl⟩
  | dataStreamExists m' device' =>
      obtain ⟨rfl, rfl⟩ := provides
      by_cases found : w.dataStreamExists m' device'.id = true
      · obtain ⟨c, stored⟩ := stored_of_dataStreamExists held found
        exact .inl (lost.reopened (by simp) stored (finds c stored))
      · exact .inr ⟨.openTrackingDeviceDataStream m' device', by simp [Instr.next, found], rfl, rfl⟩
  | openTrackingDeviceDataStream m' device' =>
      obtain ⟨rfl, rfl⟩ := provides
      refine .inl ⟨w.calls.length, lost.count, ?_⟩
      simp only [Instr.run, held]
      exact (undeleted_opened (w.handles_openTrackingDeviceDataStream m' _)).openedFor
  | openDeviceDataStream m' =>
      cases provides
      exact .inr ⟨.forConnectedDevices m, by simp [Instr.next, held, typed], rfl⟩
  | forConnectedDevices m' =>
      cases provides
      refine .inr ⟨.updateDeviceDataStream m device true, ?_, rfl, rfl, rfl⟩
      have visited : (⟨device.hash, device⟩ : Σ _ : UInt64, DeviceDescriptor) ∈
          orders.devices.visit w.connectedDevices := (ClientManager.mem_visit orders.devices).mpr connected
      exact List.mem_append_left _ (List.mem_map.mpr ⟨_, visited, rfl⟩)
  | _ => cases provides

theorem Provided.step (provided : Provided n w (instr :: others) m device) (lost : LostCalls n w (instr :: others))
    (finds : instr.FindsLasting w { i | i ∈ instr :: others }) (listed : m ∈ w.dataManagerList)
    (asked : Asked w m device) (connected : w.connectedDevices.lookup device.hash = some device) :
    Provided n (instr.run orders w) (instr.next orders w ++ others) m device := by
  rcases provided with reopened | ⟨i, member, provides⟩
  · exact .inl (reopened.run orders instr)
  · rcases List.mem_cons.mp member with rfl | later
    · rcases provides_step orders lost finds listed asked connected provides with done | ⟨j, next, provides'⟩
      · exact .inl done
      · exact .inr ⟨j, List.mem_append_left _ next, provides'⟩
    · exact .inr ⟨i, List.mem_append_right _ later, provides⟩

/-- The requests and the connected devices stay as they are. -/
theorem DevicesProvided.same (provided : DevicesProvided n w (instr :: others))
    (lost : LostCalls n w (instr :: others)) (finds : instr.FindsLasting w { i | i ∈ instr :: others })
    (connected : (instr.run orders w).connectedDevices = w.connectedDevices)
    (list : ∀ m ∈ (instr.run orders w).dataManagerList, m ∈ w.dataManagerList) :
    DevicesProvided n (instr.run orders w) (instr.next orders w ++ others) := by
  refine ⟨by rw [connected]; exact provided.keyed, fun key device found m member asked => ?_⟩
  rw [connected] at found
  have hashed := provided.keyed key device found
  subst hashed
  have listed := list m member
  have before := asked.before (lost.standing.enlisted.made m listed)
  exact (provided.provided _ device found m listed before).step lost finds listed before found

/-- **One section.**  A device that is recorded is told to all managers after it. -/
theorem DevicesProvided.step (provided : DevicesProvided n w (instr :: others))
    (lost : LostCalls n w (instr :: others)) (finds : instr.FindsLasting w { i | i ∈ instr :: others })
    (connects : instr.connects = true)
    (tells : ∀ device, instr = .recordDevice device true → .forDataManagers device true ∈ others) :
    DevicesProvided n (instr.run orders w) (instr.next orders w ++ others) := by
  cases records : instr.records with
  | false =>
      have same := sameRecords_run orders w records
      exact provided.same lost finds same.connected fun m member => same.list ▸ member
  | true =>
      cases instr with
      | emplaceManager request streamType =>
          refine ⟨provided.keyed, fun key device found m member asked => ?_⟩
          have hashed := provided.keyed key device found
          subst hashed
          rw [list_emplaceManager, List.mem_append, List.mem_singleton] at member
          rcases member with listed | rfl
          · have before := asked.before (lost.standing.enlisted.made m listed)
            exact (provided.provided _ device found m listed before).step lost finds listed before found
          · refine .inr ⟨.openDeviceDataStream w.dataManagers.length, ?_, (length_headers w).symm⟩
            obtain ⟨manager, held, typed, -⟩ := asked
            rw [length_headers, Instr.run, ClientManager.emplaceManager_held] at held
            cases held
            cases typed
            simp [Instr.next]
      | eraseManager m' => exact provided.same lost finds rfl fun m member => List.mem_of_mem_erase member
      | recordDevice device' deviceConnected =>
          cases connects
          have list : ((Instr.recordDevice device' true).run orders w).dataManagerList = w.dataManagerList := by
            obtain ⟨connected, recorded⟩ := ClientManager.recordDevice_frame w device' true
            rw [Instr.run, recorded]
          refine ⟨ClientManager.keyed_recordDevice device' true provided.keyed,
            fun key device found m member asked => ?_⟩
          rw [list] at member
          rw [Instr.run, ClientManager.lookup_recordDevice] at found
          split at found
          · cases found
            exact .inr ⟨_, List.mem_append_right _ (tells _ rfl), rfl, rfl⟩
          · have hashed := provided.keyed key device found
            subst hashed
            have before := asked.before (lost.standing.enlisted.made m member)
            exact (provided.provided _ device found m member before).step lost finds member before found
      | clearConnectedDevices =>
          refine ⟨fun key device found => ?_, fun key device found => ?_⟩ <;> cases found
      | pushBaseStationDataStorage _ | pushWirelessManager _ | saveChannelState _ =>
          exact provided.same lost finds rfl fun m member => member
      | _ => cases records

end Devices

/-! ## On the way back -/

/-- What an instruction leaves to a later one of its own thread. -/
def Instr.promised : Instr → Option Instr
  | cancelAllDataStreams m => some (eraseManager m)
  | recordDevice device deviceConnected => some (forDataManagers device deviceConnected)
  | _ => none

/-- The thread keeps what its instructions promise. -/
def Promises : List Instr → Prop
  | [] => True
  | instr :: rest => (∀ later, instr.promised = some later → later ∈ rest) ∧ Promises rest

/-- **A client between two channels**: what is known of its calls, and that every owner that should
have a stream was given one since the loss, or that some thread has still to see to it. -/
structure Recovering (n : Nat) (reopens loses : Prop) (w : ClientManager) (pending : List Instr) : Prop where
  lost : LostCalls n w pending
  lasting : Lasting n w pending
  pushes : ∀ push ∈ pending, ∀ slot, push.pushed = some slot →
    Reopened n w slot ∨ ∃ i ∈ pending, i.opened = some slot
  visits : reopens ∨ ∀ slot, Visited w slot → Reopened n w slot ∨ ∃ i ∈ pending, i.restores slot
  devices : loses ∨ .clearConnectedDevices ∈ pending ∨ DevicesProvided n w pending

section Recovering

variable {n : Nat} {reopens loses reopens' loses' : Prop} {orders : Orders} {w : ClientManager} {instr : Instr}
  {program rest pending pending' others : List Instr} {slot : Slot}

theorem promises_append (first : Promises program) (later : Promises rest) : Promises (program ++ rest) := by
  induction program with
  | nil => exact later
  | cons instr program ih =>
      exact ⟨fun p promised => List.mem_append_left _ (first.1 p promised), ih first.2⟩

theorem promises_of_none (none : ∀ i ∈ program, i.promised = none) : Promises program := by
  induction program with
  | nil => trivial
  | cons instr program ih =>
      obtain ⟨here, later⟩ := List.forall_mem_cons.mp none
      refine ⟨fun p promised => ?_, ih later⟩
      rw [here] at promised
      cases promised

theorem promises_next (orders : Orders) (w : ClientManager) (instr : Instr) : Promises (instr.next orders w) := by
  cases instr with
  | closeRequest m =>
      simp only [Instr.next]
      split
      · trivial
      · split <;> simp [Promises, Instr.promised]
  | deviceEventProcessor event => simp [Instr.next, Promises, Instr.promised]
  | _ =>
      refine promises_of_none fun i member => ?_
      cases Instr.follows_of_next member <;> rfl

theorem Recovering.perm (perm : pending.Perm pending') (recovering : Recovering n reopens loses w pending) :
    Recovering n reopens loses w pending' := by
  have same : ∀ i, i ∈ pending' ↔ i ∈ pending := fun i => perm.symm.mem_iff
  refine ⟨recovering.lost.perm perm, ?_, ?_, ?_, ?_⟩
  · simpa only [Lasting, Leaving, same] using recovering.lasting
  · simpa only [same] using recovering.pushes
  · simpa only [same] using recovering.visits
  · refine recovering.devices.imp_right (Or.imp (same _).mpr fun provided => ⟨provided.keyed, ?_⟩)
    simpa only [Provided, same] using provided.provided

/-- The stream of a slot that someone sees to, after one section. -/
theorem visits_step (lost : LostCalls n w (instr :: others)) (finds : instr.FindsLasting w { i | i ∈ instr :: others })
    (visited : Visited w slot) (due : Reopened n w slot ∨ ∃ i ∈ instr :: others, i.restores slot) :
    Reopened n (instr.run orders w) slot ∨ ∃ i ∈ instr.next orders w ++ others, i.restores slot := by
  rcases due with reopened | ⟨i, member, restores⟩
  · exact .inl (reopened.run orders instr)
  · rcases List.mem_cons.mp member with rfl | later
    · rcases restores_step orders lost visited finds restores with done | ⟨j, next, restores'⟩
      · exact .inl done
      · exact .inr ⟨j, List.mem_append_left _ next, restores'⟩
    · exact .inr ⟨i, List.mem_append_right _ later, restores⟩

/-- The call that is opened for an owner before it is put on its list. -/
theorem pushes_step (lost : LostCalls n w (instr :: others)) (apart : slot.manager = none)
    (due : Reopened n w slot ∨ ∃ i ∈ instr :: others, i.opened = some slot) :
    Reopened n (instr.run orders w) slot ∨ ∃ i ∈ others, i.opened = some slot := by
  rcases due with reopened | ⟨i, member, opened⟩
  · exact .inl (reopened.run orders instr)
  · rcases List.mem_cons.mp member with rfl | later
    · exact .inl (reopened_of_opened orders lost.count opened apart)
    · exact .inr ⟨i, later, opened⟩

theorem manager_of_pushed {push : Instr} (pushed : push.pushed = some slot) : slot.manager = none := by
  cases push <;> cases pushed <;> rfl

theorem restores_of_opened {i : Instr} (opened : i.opened = some slot) : i.restores slot := by
  cases i <;> first | exact opened | cases opened

/-- **One section**, of whichever thread. -/
theorem Recovering.step (recovering : Recovering n reopens loses w (instr :: others))
    (enabled : instr.enabled w = true) (returns : .hang ∉ instr.next orders w) (connects : instr.connects = true)
    (promises : ∀ later, instr.promised = some later → later ∈ others)
    (finds : instr.FindsLasting w { i | i ∈ instr :: others })
    (reopening : reopens → reopens' ∨ .forBaseStationStorages ∈ instr.next orders w ∧
      .forWirelessManagers ∈ instr.next orders w)
    (losing : loses → loses' ∨ .clearConnectedDevices ∈ instr.next orders w) :
    Recovering n reopens' loses' (instr.run orders w) (instr.next orders w ++ others) where
  lost := recovering.lost.step enabled returns
  lasting := by
    refine recovering.lasting.step recovering.lost connects ?_
    rintro m rfl
    exact promises _ rfl
  pushes push member slot pushed := by
    rcases List.mem_append.mp member with new | old
    · obtain ⟨i, next, opened⟩ := opened_of_pushed new pushed
      exact .inr ⟨i, List.mem_append_left _ next, opened⟩
    · have due := recovering.pushes push (List.mem_cons_of_mem _ old) slot pushed
      refine (pushes_step recovering.lost (manager_of_pushed pushed) due).imp_right ?_
      rintro ⟨i, later, opened⟩
      exact ⟨i, List.mem_append_right _ later, opened⟩
  visits := by
    rcases recovering.visits with ahead | due
    · rcases reopening ahead with ahead' | ⟨stations, wrappers⟩
      · exact .inl ahead'
      · refine .inr fun slot visited => .inr ?_
        cases slot with
        | baseStation s => exact ⟨_, List.mem_append_left _ stations, s, rfl⟩
        | wireless i => exact ⟨_, List.mem_append_left _ wrappers, i, rfl⟩
        | _ => cases visited
    · refine .inr fun slot visited => ?_
      rcases visited_run orders visited with old | pushed
      · exact visits_step recovering.lost finds old (due slot old)
      · have apart := manager_of_pushed pushed
        have due := recovering.pushes instr List.mem_cons_self slot pushed
        refine (pushes_step recovering.lost apart due).imp_right ?_
        rintro ⟨i, later, opened⟩
        exact ⟨i, List.mem_append_right _ later, restores_of_opened opened⟩
  devices := by
    rcases recovering.devices with ahead | clears | provided
    · exact (losing ahead).imp_right fun clears => .inl (List.mem_append_left _ clears)
    · rcases List.mem_cons.mp clears with rfl | later
      · refine .inr (.inr ⟨fun key device found => ?_, fun key device found => ?_⟩) <;> cases found
      · exact .inr (.inl (List.mem_append_right _ later))
    · refine .inr (.inr (provided.step recovering.lost finds connects ?_))
      rintro device rfl
      exact promises _ rfl

end Recovering

/-! ## Clients whose channel is lost -/

/-- All completions and events are processed, the monitor has found the channel ready, and no user is
within a call. -/
structure Settled (s : ClientThreads) : Prop where
  queue : s.programs[0]? = some []
  monitor : ∃ later, s.programs[1]? = some [.channelMonitor later] ∧ ∀ state ∈ later, state = .ready
  ready : s.shared.previousChannelState = some .ready
  users : ∀ t program, 2 ≤ t → s.programs[t]? = some program → ∀ i ∈ program, ∃ call : UserCall, i = call.program

/-- The monitor has the turn ahead. -/
def Ahead (turn : Option ChannelState → ChannelState → Prop) (s : ClientThreads) : Prop :=
  ∃ program, s.programs[1]? = some program ∧ RoundAhead turn s.shared.previousChannelState program

/-- What every run keeps in which the streams that are found last.  A clean-up that hangs
holds the completion queue thread for ever. -/
structure Reconnecting (n : Nat) (s : ClientThreads) : Prop where
  promises : ∀ program ∈ s.programs, Promises program
  polls : ∀ t program, t ≠ 1 → s.programs[t]? = some program → ∀ i ∈ program, i.polls = false
  connects : ∀ program ∈ s.programs, ∀ i ∈ program, i.connects = true
  recovering : .hang ∈ s.programs.flatten ∨
    Recovering n (Ahead TurnsReady s) (Ahead TurnsLost s) s.shared s.programs.flatten

section Clients

variable {n : Nat} {w : ClientManager} {queue : List Completion} {states : List ChannelState}
  {users : List (List UserCall)} {s s' : ClientThreads} {label : Nat × Orders}

/-- A turn that is ahead stays ahead, or the monitor begins the round in this step. -/
theorem ahead_step {turn : Option ChannelState → ChannelState → Prop} {instr : Instr} {rest : List Instr}
    (polls : ∀ t program, t ≠ 1 → s.programs[t]? = some program → ∀ i ∈ program, i.polls = false)
    (current : s.programs[label.1]? = some (instr :: rest)) (shared : s'.shared = instr.run label.2 s.shared)
    (programs : s'.programs = s.programs.set label.1 (instr.next label.2 s.shared ++ rest)) (ahead : Ahead turn s) :
    Ahead turn s' ∨ ∃ state states, instr = .channelMonitor (state :: states) ∧
      turn s.shared.previousChannelState state := by
  obtain ⟨program, placed, round⟩ := ahead
  by_cases monitor : label.1 = 1
  · rw [monitor] at current programs
    rw [current] at placed
    cases placed
    rcases roundAhead_step label.2 round with begins | ahead'
    · exact .inr begins
    · refine .inl ⟨_, ?_, shared ▸ ahead'⟩
      rw [programs, List.getElem?_set_self (List.getElem?_eq_some_iff.mp current).1]
  · have quiet := polls _ _ monitor current instr List.mem_cons_self
    refine .inl ⟨program, by rw [programs, List.getElem?_set_ne monitor]; exact placed, ?_⟩
    rw [shared, channel_run label.2 s.shared quiet]
    exact round

theorem forStreams_of_turnsReady {orders : Orders} {state : ChannelState} {states : List ChannelState}
    (turns : TurnsReady w.previousChannelState state) :
    .forBaseStationStorages ∈ (Instr.channelMonitor (state :: states)).next orders w ∧
      .forWirelessManagers ∈ (Instr.channelMonitor (state :: states)).next orders w := by
  obtain ⟨changed, rfl⟩ := turns
  simp [Instr.next, changed, Instr.onChannelState]

theorem clears_of_turnsLost {orders : Orders} {state : ChannelState} {states : List ChannelState}
    (turns : TurnsLost w.previousChannelState state) :
    .clearConnectedDevices ∈ (Instr.channelMonitor (state :: states)).next orders w := by
  obtain ⟨ready, lost⟩ := turns
  cases state with
  | ready => exact absurd rfl lost
  | _ => simp [Instr.next, ready, Instr.onChannelState]

/-- **One step**, of any thread. -/
theorem Reconnecting.step (reconnecting : Reconnecting n s)
    (finds : Threads.Under (fun w pending instr (_ : Orders) => instr.FindsLasting w pending) s label)
    (stepped : ClientThreads.step s label = some s') : Reconnecting n s' := by
  obtain ⟨instr, rest, current, enabled, shared, programs⟩ := Threads.step_cases stepped
  have shared' : s'.shared = instr.run label.2 s.shared := shared
  have programs' : s'.programs = s.programs.set label.1 (instr.next label.2 s.shared ++ rest) := programs
  have member := List.mem_of_getElem? current
  obtain ⟨others, before, after⟩ := Threads.flatten_set (instr.next label.2 s.shared) current
  rw [← programs'] at after
  have kept := reconnecting.promises _ member
  have connects := reconnecting.connects _ member
  refine ⟨fun program placed => ?_, fun t program other placed i inside => ?_, fun program placed => ?_, ?_⟩
  · rw [programs'] at placed
    rcases List.mem_or_eq_of_mem_set placed with old | rfl
    · exact reconnecting.promises program old
    · exact promises_append (promises_next _ _ _) kept.2
  · rcases Threads.program_after clientSemantics stepped placed with
      ⟨-, same⟩ | ⟨-, instr', rest', current', -, rfl⟩
    · exact reconnecting.polls t program other same i inside
    · have quiet := reconnecting.polls t _ other current'
      rcases List.mem_append.mp inside with new | old
      · exact polls_of_next (quiet instr' List.mem_cons_self) i new
      · exact quiet i (List.mem_cons_of_mem _ old)
  · rw [programs'] at placed
    rcases List.mem_or_eq_of_mem_set placed with old | rfl
    · exact reconnecting.connects program old
    · intro i inside
      rcases List.mem_append.mp inside with new | old
      · exact connects_of_next (connects instr List.mem_cons_self) i new
      · exact connects i (List.mem_cons_of_mem _ old)
  · by_cases hangs : .hang ∈ instr.next label.2 s.shared
    · exact .inl (after.mem_iff.mpr (List.mem_append_left _ hangs))
    rcases reconnecting.recovering with hung | recovering
    · -- A clean-up that hangs takes no step.
      refine .inl (after.mem_iff.mpr (List.mem_append_right _ ?_))
      rcases List.mem_cons.mp (before.mem_iff.mp hung) with rfl | later
      · cases enabled
      · exact later
    · have met := finds instr rest current
      have same : s.pending = { i | i ∈ instr :: others } := Set.ext fun i => before.mem_iff
      rw [same] at met
      have promises : ∀ later, instr.promised = some later → later ∈ others := by
        intro later promised
        have inside := before.mem_iff.mp (List.mem_flatten.mpr
          ⟨_, member, List.mem_cons_of_mem _ (kept.1 later promised)⟩)
        refine (List.mem_cons.mp inside).resolve_left ?_
        rintro rfl
        cases later <;> cases promised
      have next : Recovering n (Ahead TurnsReady s') (Ahead TurnsLost s') _ _ :=
        (recovering.perm before).step enabled hangs (connects instr List.mem_cons_self) promises met ?_ ?_
      · rw [← shared'] at next
        exact .inr (next.perm after.symm)
      · intro ahead
        refine (ahead_step reconnecting.polls current shared' programs' ahead).imp_right ?_
        rintro ⟨state, states, rfl, turns⟩
        exact forStreams_of_turnsReady turns
      · intro ahead
        refine (ahead_step reconnecting.polls current shared' programs' ahead).imp_right ?_
        rintro ⟨state, states, rfl, turns⟩
        exact clears_of_turnsLost turns

/-- What is pending in a settled client. -/
theorem Settled.pending (settled : Settled s) {i : Instr} (member : i ∈ s.programs.flatten) :
    (∃ later, i = .channelMonitor later) ∨ ∃ call : UserCall, i = call.program := by
  obtain ⟨program, listed, inside⟩ := List.mem_flatten.mp member
  obtain ⟨t, placed⟩ := List.mem_iff_getElem?.mp listed
  match t, placed with
  | 0, placed =>
      rw [settled.queue] at placed
      cases placed
      cases inside
  | 1, placed =>
      obtain ⟨later, monitor, -⟩ := settled.monitor
      rw [monitor] at placed
      cases placed
      exact .inl ⟨later, List.mem_singleton.mp inside⟩
  | t + 2, placed => exact .inr (settled.users (t + 2) program (by omega) placed i inside)

end Clients

end OmmoSdk.Client
