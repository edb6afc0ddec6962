/-
# Client.StorageDuties — storages under racing requests and events

User threads make data requests while the completion queue thread handles device events.
What a manager has still to get or to lose is read off the pending instructions: one that
`adds` a storage or `drops` it has the duty to, and hands it on to those that replace it.
An instruction that `reports` a device as connected or gone tells the truth from the moment
the event is recorded, and nothing is recorded while another report is on its way
(`Ordered.timely`): that is what the two mutexes are for.

`requests_fit`: when all threads are done no duty is left, and each manager on the list has a
storage for exactly the devices that are connected and requested.
-/
import OmmoSdk.Client.LockTurns
import OmmoSdk.Client.OpeningWindows

namespace OmmoSdk.Client

open OmmoSdk.Theory
open OmmoSdk.Sdk
open OmmoSdk.Storage

set_option autoImplicit false

/-! ## The program of the completion queue thread -/

namespace Instr

/-- The sections of `DeviceEventProcessor`. -/
def eventSections (device : DeviceDescriptor) (deviceConnected : Bool) : List Instr :=
  [lock .connectedDevices, recordDevice device deviceConnected, unlock .connectedDevices,
    lock .dataManagerList, forDataManagers device deviceConnected]

/-- Records no event, and starts no loop over the managers. -/
def serves : Instr → Bool
  | deviceEventProcessor _ | recordDevice _ _ | forDataManagers _ _ => false
  | instr => instr.registry

/-- The devices that the instruction takes for connected, or for gone. -/
def reports : Instr → List (DeviceID × Bool)
  | updateDeviceDataStream _ device deviceConnected
  | forDataManagers device deviceConnected
  | updateStreams _ device deviceConnected
  | updateDataFrameStream _ device deviceConnected => [(device.id, deviceConnected)]
  | isStorageAvailable _ device | addDeviceStorage _ device => [(device.id, true)]
  | cancelDataStream _ deviceId | removeDataStream _ deviceId
  | removeDeviceStorage _ deviceId => [(deviceId, false)]
  | prepareFrameDevices _ items _ => items.map fun item => (item.2.id, true)
  | _ => []

/-- An event is recorded while the loop that reports it is all that reports anything, and the
loop starts when it is recorded. -/
def Timely (pending : Set Instr) : Instr → Prop
  | recordDevice device deviceConnected =>
      (∀ i ∈ pending, ∀ report ∈ i.reports, report = (device.id, deviceConnected)) ∧
        forDataManagers device deviceConnected ∈ pending
  | forDataManagers _ _ => ∀ device deviceConnected, recordDevice device deviceConnected ∉ pending
  | _ => True

theorem serves_next (orders : Orders) (w : ClientManager) {instr : Instr} (serving : instr.serves = true) :
    ∀ i ∈ instr.next orders w, i.serves = true := by
  intro i member
  cases follows_of_next member <;> first | rfl | exact serving

end Instr

/-- The thread is at an event, of which some sections are left or only its loop, or
between two events. -/
def QueueAt (program : List Instr) : Prop :=
  ∃ (current : List Instr) (events : List Proto.TrackingDeviceEvent),
    program = current ++ events.map Instr.deviceEventProcessor ∧
    ((∃ device deviceConnected, current <:+ Instr.eventSections device deviceConnected) ∨
      ∀ i ∈ current, i.serves = true)

section Queue

variable {orders : Orders} {w : ClientManager} {instr : Instr} {rest : List Instr}

theorem queueAt_step (at_ : QueueAt (instr :: rest)) : QueueAt (instr.next orders w ++ rest) := by
  obtain ⟨current, events, program, shape⟩ := at_
  cases current with
  | nil =>
      cases events with
      | nil => cases program
      | cons event events =>
          cases program
          exact ⟨_, events, rfl, .inl ⟨_, _, List.suffix_refl _⟩⟩
  | cons first current =>
      rw [List.cons_append, List.cons.injEq] at program
      obtain ⟨rfl, rfl⟩ := program
      refine ⟨instr.next orders w ++ current, events, (List.append_assoc _ _ _).symm, ?_⟩
      rcases shape with ⟨device, deviceConnected, suffix⟩ | serving
      · simp only [Instr.eventSections, List.suffix_cons_iff, List.cons.injEq, List.suffix_nil,
          reduceCtorEq, or_false] at suffix
        rcases suffix with ⟨rfl, rfl⟩ | ⟨rfl, rfl⟩ | ⟨rfl, rfl⟩ | ⟨rfl, rfl⟩ | ⟨rfl, rfl⟩
        · exact .inl ⟨device, deviceConnected, by simp [Instr.eventSections, Instr.next]⟩
        · exact .inl ⟨device, deviceConnected, by simp [Instr.eventSections, Instr.next, List.suffix_cons_iff]⟩
        · exact .inl ⟨device, deviceConnected, by simp [Instr.eventSections, Instr.next, List.suffix_cons_iff]⟩
        · exact .inl ⟨device, deviceConnected, by simp [Instr.eventSections, Instr.next, List.suffix_cons_iff]⟩
        · refine .inr fun i member => ?_
          simp only [Instr.next, List.append_nil, List.mem_append, List.mem_map, List.mem_singleton] at member
          rcases member with ⟨m, -, rfl⟩ | rfl <;> rfl
      · obtain ⟨here, others⟩ := List.forall_mem_cons.mp serving
        refine .inr fun i member => ?_
        rcases List.mem_append.mp member with fresh | old
        · exact Instr.serves_next orders w here i fresh
        · exact others i old

/-- At the section that records an event, the loop that reports it is next. -/
theorem queueAt_record {device : DeviceDescriptor} {deviceConnected : Bool}
    (at_ : QueueAt (.recordDevice device deviceConnected :: rest)) :
    ∃ events : List Proto.TrackingDeviceEvent, rest =
      [.unlock .connectedDevices, .lock .dataManagerList, .forDataManagers device deviceConnected] ++
        events.map Instr.deviceEventProcessor := by
  obtain ⟨current, events, program, shape⟩ := at_
  cases current with
  | nil => cases events <;> cases program
  | cons first current =>
      rw [List.cons_append, List.cons.injEq] at program
      obtain ⟨rfl, rfl⟩ := program
      rcases shape with ⟨device', deviceConnected', suffix⟩ | serving
      · simp [Instr.eventSections, List.suffix_cons_iff] at suffix
        obtain ⟨⟨rfl, rfl⟩, rfl⟩ := suffix
        exact ⟨events, rfl⟩
      · cases serving _ List.mem_cons_self

/-- At the loop over the managers, only events follow. -/
theorem queueAt_loop {device : DeviceDescriptor} {deviceConnected : Bool}
    (at_ : QueueAt (.forDataManagers device deviceConnected :: rest)) :
    ∃ events : List Proto.TrackingDeviceEvent, rest = events.map Instr.deviceEventProcessor := by
  obtain ⟨current, events, program, shape⟩ := at_
  cases current with
  | nil => cases events <;> cases program
  | cons first current =>
      rw [List.cons_append, List.cons.injEq] at program
      obtain ⟨rfl, rfl⟩ := program
      rcases shape with ⟨device', deviceConnected', suffix⟩ | serving
      · simp [Instr.eventSections, List.suffix_cons_iff] at suffix
        obtain ⟨⟨rfl, rfl⟩, rfl⟩ := suffix
        exact ⟨events, rfl⟩
      · cases serving _ List.mem_cons_self

end Queue

/-! ## Reports are on time -/

/-- The first thread is the completion queue thread, the others are users. -/
def connectedTurns (t : Nat) : Instr → Turn := Instr.connectedTurn (t ≠ 0)

/-- The first thread handles events, and at most one thread is inside
`connected_devices_mtx_`. -/
structure Ordered (s : ClientThreads) : Prop where
  exclusive : Threads.Exclusive .connectedDevices connectedTurns s
  queue : ∀ program, s.programs[0]? = some program → QueueAt program

section Ordered

variable {s s' : ClientThreads} {label : Nat × Orders} {instr : Instr} {rest : List Instr}

theorem Ordered.step (ordered : Ordered s) (stepped : ClientThreads.step s label = some s') :
    Ordered s' where
  exclusive := ordered.exclusive.step (fun t => discipline_connected (t ≠ 0)) stepped
  queue program found := by
    obtain ⟨instr, rest, current, -, -, programs⟩ := Threads.step_cases stepped
    rw [programs, List.getElem?_set] at found
    by_cases here : label.1 = 0
    · rw [if_pos here, if_pos (List.getElem?_eq_some_iff.mp current).1] at found
      cases found
      rw [here] at current
      exact queueAt_step (ordered.queue _ current)
    · rw [if_neg here] at found
      exact ordered.queue program found

theorem mem_pending : instr ∈ s.pending ↔
    ∃ (t : Nat) (program : List Instr), s.programs[t]? = some program ∧ instr ∈ program := by
  constructor
  · intro pending
    obtain ⟨program, member, inside⟩ := List.mem_flatten.mp pending
    obtain ⟨t, found⟩ := List.mem_iff_getElem?.mp member
    exact ⟨t, program, found, inside⟩
  · rintro ⟨t, program, found, inside⟩
    exact List.mem_flatten.mpr ⟨program, List.mem_of_getElem? found, inside⟩

/-- What a user thread never executes is executed by the completion queue thread. -/
theorem Ordered.queue_of_never (ordered : Ordered s) {t : Nat} {program : List Instr}
    (found : s.programs[t]? = some program) (member : instr ∈ program)
    (never : Instr.connectedTurn true instr = .never) : t = 0 := by
  by_contra other
  obtain ⟨holder, -, walks⟩ := ordered.exclusive
  refine Threads.ne_never (walks t program found) instr member ?_
  rw [connectedTurns, decide_eq_true other]
  exact never

/-- What reports a device on a user thread is executed under the mutex. -/
theorem inside_of_reports {report : DeviceID × Bool} (reports : report ∈ instr.reports) :
    Instr.connectedTurn true instr = .within ∨ Instr.connectedTurn true instr = .ends ∨
      Instr.connectedTurn true instr = .never := by
  cases instr with
  | forDataManagers | updateStreams | updateDataFrameStream => exact .inr (.inr rfl)
  | prepareFrameDevices => exact .inr (.inl rfl)
  | updateDeviceDataStream | isStorageAvailable | addDeviceStorage | cancelDataStream
  | removeDataStream | removeDeviceStorage => exact .inl rfl
  | _ => cases reports

/-- **Reports are on time** in every state that such threads reach. -/
theorem Ordered.timely (ordered : Ordered s) (label : Nat × Orders) :
    Threads.Under (fun _ pending instr (_ : Orders) => instr.Timely pending) s label := by
  intro instr rest current
  cases instr with
  | recordDevice device deviceConnected =>
      have queue := ordered.queue_of_never current List.mem_cons_self rfl
      rw [queue] at current
      obtain ⟨events, rfl⟩ := queueAt_record (ordered.queue _ current)
      have others := ordered.exclusive.others_outside current rfl
      constructor
      · intro i pending report reports
        obtain ⟨t, program, found, member⟩ := mem_pending.mp pending
        by_cases here : t = 0
        · subst here
          rw [current] at found
          cases found
          simp only [List.mem_cons, List.mem_append, List.mem_map, List.not_mem_nil, or_false] at member
          rcases member with rfl | (rfl | rfl | rfl) | ⟨event, -, rfl⟩
          · cases reports
          · cases reports
          · cases reports
          · exact List.mem_singleton.mp reports
          · cases reports
        · have outside := others t here program found
          have user : connectedTurns t i = Instr.connectedTurn true i := by
            rw [connectedTurns, decide_eq_true here]
          obtain ⟨within, ends⟩ := Threads.ne_within_of_outside outside i member
          have never := Threads.ne_never outside i member
          rw [user] at within ends never
          rcases inside_of_reports reports with turn | turn | turn
          · exact absurd turn within
          · exact absurd turn ends
          · exact absurd turn never
      · exact mem_pending.mpr ⟨0, _, current, by simp⟩
  | forDataManagers device deviceConnected =>
      have queue := ordered.queue_of_never current List.mem_cons_self rfl
      rw [queue] at current
      obtain ⟨events, rfl⟩ := queueAt_loop (ordered.queue _ current)
      intro device' deviceConnected' pending
      obtain ⟨t, program, found, member⟩ := mem_pending.mp pending
      have here := ordered.queue_of_never found member rfl
      rw [here, current] at found
      cases found
      rcases List.mem_cons.mp member with first | later
      · cases first
      · obtain ⟨event, -, other⟩ := List.mem_map.mp later
        cases other
  | _ => trivial

end Ordered

/-! ## What is reported is so -/

/-- The devices that the instruction names. -/
def Instr.devices : Instr → List DeviceID
  | .deviceEventProcessor event => [(protoToTrackingDeviceEvent event).device.id]
  | .recordDevice device _ => [device.id]
  | instr => instr.reports.map Prod.fst

/-- The reports agree with the connected devices, but for one whose event is still to be
recorded. -/
structure Reported (w : ClientManager) (pending : List Instr) : Prop where
  registry : ∀ i ∈ pending, i.registry = true
  keyed : ClientManager.Keyed w.connectedDevices
  narrow : ∀ key device, w.connectedDevices.lookup key = some device → device.portId.toNat < 256
  named : ∀ i ∈ pending, ∀ deviceId ∈ i.devices, deviceId.portId.toNat < 256
  fresh : ∀ i ∈ pending, ∀ report ∈ i.reports,
    (report.1.hash ∈ w.connectedDevices ↔ report.2 = true) ∨
      ∃ device deviceConnected, i = .forDataManagers device deviceConnected ∧
        .recordDevice device deviceConnected ∈ pending

section Reported

variable {orders : Orders} {w : ClientManager} {instr : Instr} {others : List Instr}

theorem connectedDevices_run (orders : Orders) (w : ClientManager) (registry : instr.registry = true)
    (unrecorded : ∀ device deviceConnected, instr ≠ .recordDevice device deviceConnected) :
    (instr.run orders w).connectedDevices = w.connectedDevices := by
  cases instr with
  | recordDevice device deviceConnected => exact absurd rfl (unrecorded device deviceConnected)
  | openTrackingDeviceDataStream m device | openDataFrameStream m devices =>
      simp only [Instr.run]
      split <;> rfl
  | cancelDataStream m deviceId | cancelDataFrameStream m reopen =>
      simp only [Instr.run, ClientManager.cancelDataStream, ClientManager.cancelDataFrameStream,
        ClientManager.onCalls]
      split <;> rfl
  | _ => first | rfl | cases registry

/-- Where the reports of what follows come from. -/
theorem reports_next (registry : instr.registry = true) :
    ∀ i ∈ instr.next orders w, ∀ report ∈ i.reports,
      report ∈ instr.reports ∨
      (report.2 = true ∧ ∃ item ∈ orders.devices.visit w.connectedDevices, item.2.id = report.1) ∨
      ∃ event, instr = .deviceEventProcessor event ∧
        i = .forDataManagers (protoToTrackingDeviceEvent event).device event.connected := by
  intro i member report reports
  cases Instr.follows_of_next member with
  | reported event => exact .inr (.inr ⟨event, rfl, rfl⟩)
  | connectedDevice visited =>
      cases List.mem_singleton.mp reports
      exact .inr (.inl ⟨rfl, _, visited, rfl⟩)
  | frameItems m =>
      obtain ⟨item, visited, rfl⟩ := List.mem_map.mp reports
      exact .inr (.inl ⟨rfl, item, visited, rfl⟩)
  | frameStorage held requested =>
      cases List.mem_singleton.mp reports
      exact .inl List.mem_cons_self
  | preparedDevice held requested => exact .inl (List.mem_cons_of_mem _ reports)
  | skippedDevice m item rest devices => exact .inl (List.mem_cons_of_mem _ reports)
  | _ => first | exact .inl reports | cases reports

theorem devices_next (registry : instr.registry = true) :
    ∀ i ∈ instr.next orders w, ∀ deviceId ∈ i.devices, deviceId ∈ instr.devices ∨
      ∃ item ∈ orders.devices.visit w.connectedDevices, item.2.id = deviceId := by
  intro i member deviceId named
  cases Instr.follows_of_next member with
  | connectedDevice visited =>
      cases List.mem_singleton.mp named
      exact .inr ⟨_, visited, rfl⟩
  | frameItems m =>
      simp only [Instr.devices, Instr.reports, List.map_map] at named
      obtain ⟨item, visited, rfl⟩ := List.mem_map.mp named
      exact .inr ⟨item, visited, rfl⟩
  | frameStorage held requested =>
      cases List.mem_singleton.mp named
      exact .inl List.mem_cons_self
  | preparedDevice held requested => exact .inl (List.mem_cons_of_mem _ named)
  | skippedDevice m item rest devices => exact .inl (List.mem_cons_of_mem _ named)
  | _ => first | exact .inl named | cases named

theorem mem_recordDevice (w : ClientManager) (device : DeviceDescriptor) (deviceConnected : Bool) :
    device.hash ∈ (w.recordDevice device deviceConnected).connectedDevices ↔
      deviceConnected = true := by
  rw [← AList.lookup_isSome, ClientManager.lookup_recordDevice, if_pos rfl]
  cases deviceConnected <;> simp

theorem reported_step (reported : Reported w (instr :: others))
    (timely : instr.Timely { i | i ∈ instr :: others }) :
    Reported (instr.run orders w) (instr.next orders w ++ others) := by
  have registry := reported.registry instr List.mem_cons_self
  have visited : ∀ item ∈ orders.devices.visit w.connectedDevices,
      w.connectedDevices.lookup item.1 = some item.2 := fun item member =>
    (ClientManager.mem_visit orders.devices).mp member
  have registered : ∀ i ∈ instr.next orders w ++ others, i.registry = true := by
    intro i member
    rcases List.mem_append.mp member with fresh | old
    · exact registry_next orders registry i fresh
    · exact reported.registry i (List.mem_cons_of_mem _ old)
  have named : ∀ i ∈ instr.next orders w ++ others, ∀ deviceId ∈ i.devices,
      deviceId.portId.toNat < 256 := by
    intro i member deviceId names
    rcases List.mem_append.mp member with fresh | old
    · rcases devices_next registry i fresh deviceId names with before | ⟨item, found, rfl⟩
      · exact reported.named instr List.mem_cons_self deviceId before
      · exact reported.narrow _ _ (visited item found)
    · exact reported.named i (List.mem_cons_of_mem _ old) deviceId names
  by_cases records : ∃ device deviceConnected, instr = .recordDevice device deviceConnected
  · obtain ⟨device, deviceConnected, rfl⟩ := records
    have port := reported.named _ List.mem_cons_self device.id List.mem_cons_self
    refine ⟨registered, ClientManager.keyed_recordDevice device deviceConnected reported.keyed,
      ClientManager.narrow_recordDevice device deviceConnected reported.narrow port, named, ?_⟩
    intro i member report reports
    -- All that is reported is the event that is recorded now.
    have same := timely.1 i (List.mem_cons_of_mem _ member) report reports
    refine .inl ?_
    rw [same]
    exact mem_recordDevice w device deviceConnected
  · have unrecorded : ∀ device deviceConnected, instr ≠ .recordDevice device deviceConnected :=
      fun device deviceConnected same => records ⟨device, deviceConnected, same⟩
    have connected := connectedDevices_run orders w registry unrecorded
    refine ⟨registered, by rw [connected]; exact reported.keyed, by rw [connected]; exact reported.narrow,
      named, ?_⟩
    intro i member report reports
    rw [connected]
    rcases List.mem_append.mp member with fresh | old
    · rcases reports_next registry i fresh report reports with before | ⟨yes, item, found, same⟩ |
        ⟨event, rfl, rfl⟩
      · rcases reported.fresh instr List.mem_cons_self report before with truth |
          ⟨device, deviceConnected, rfl, pending⟩
        · exact .inl truth
        · exact absurd pending (timely device deviceConnected)
      · refine .inl ⟨fun _ => yes, fun _ => ?_⟩
        rw [← same, DeviceDescriptor.hash_id, reported.keyed _ _ (visited item found)]
        exact AList.lookup_isSome.mp (by rw [visited item found]; rfl)
      · exact .inr ⟨_, _, rfl, List.mem_append_left _ (by simp [Instr.next, protoToTrackingDeviceEvent])⟩
    · refine (reported.fresh i (List.mem_cons_of_mem _ old) report reports).imp_right ?_
      rintro ⟨device, deviceConnected, loop, pending⟩
      exact ⟨device, deviceConnected, loop, List.mem_append_right _
        ((List.mem_cons.mp pending).resolve_left fun same => unrecorded _ _ same.symm)⟩

end Reported

/-! ## Storages to make and to drop -/

namespace Instr

/-- Is going to see to it that the manager has a storage under the key, if it wants one. -/
def adds (m : ManagerId) (key : UInt64) : Instr → Prop
  | forDataManagers device true => device.hash = key
  | updateStreams m' device true | updateDeviceDataStream m' device true
  | updateDataFrameStream m' device true
  | isStorageAvailable m' device | addDeviceStorage m' device => m' = m ∧ device.hash = key
  | openDeviceDataStream m' | forConnectedDevices m' | openDataFrame m' | forFrameDevices m'
  | cancelDataFrameStream m' true | removeDataFrameStream m' true => m' = m
  | prepareFrameDevices m' items _ => m' = m ∧ ∃ item ∈ items, item.2.hash = key
  | _ => False

/-- Is going to remove the storage of the manager under the key. -/
def drops (m : ManagerId) (key : UInt64) : Instr → Prop
  | forDataManagers device false => device.hash = key
  | updateStreams m' device false | updateDeviceDataStream m' device false
  | updateDataFrameStream m' device false => m' = m ∧ device.hash = key
  | cancelDataStream m' deviceId | removeDataStream m' deviceId
  | removeDeviceStorage m' deviceId => m' = m ∧ deviceId.hash = key
  | _ => False

/-- Makes a storage for the device where there is none. -/
def makes : Instr → Option (ManagerId × DeviceDescriptor)
  | isStorageAvailable m device | addDeviceStorage m device => some (m, device)
  | _ => none

/-- Whether the manager has a storage under the key afterwards. -/
def stocks (m : ManagerId) (key : UInt64) (had : Prop) : Instr → Prop
  | addDeviceStorage m' device => had ∨ m' = m ∧ device.hash = key
  | removeDeviceStorage m' deviceId => had ∧ ¬ (m' = m ∧ deviceId.hash = key)
  | _ => had

end Instr

section Storages

variable {orders : Orders} {w : ClientManager} {instr : Instr} {m : ManagerId}
  {manager manager' : DataManager} {key : UInt64}

theorem held_onManager_cases {m' : ManagerId} {f : DataManager → DataManager}
    (held : (w.onManager m' f).dataManagers[m]? = some manager') :
    ∃ manager, w.dataManagers[m]? = some manager ∧ manager' = if m' = m then f manager else manager := by
  simp only [ClientManager.onManager, List.getElem?_modify, Option.map_eq_map, Option.map_eq_some_iff] at held
  obtain ⟨manager, before, rfl⟩ := held
  exact ⟨manager, before, rfl⟩

/-- What an instruction does to the managers. -/
theorem held_run (registry : instr.registry = true)
    (held : (instr.run orders w).dataManagers[m]? = some manager') :
    (∃ manager, w.dataManagers[m]? = some manager ∧ manager'.header = manager.header ∧
      ∀ key, key ∈ manager'.deviceDataMap ↔ instr.stocks m key (key ∈ manager.deviceDataMap)) ∨
    ∃ request made, instr = .emplaceManager request made ∧ m = w.dataManagers.length ∧
      manager' = DataManager.init request made := by
  cases instr with
  | emplaceManager request made =>
      by_cases here : m = w.dataManagers.length
      · refine .inr ⟨request, made, rfl, here, ?_⟩
        subst here
        rw [Instr.run, ClientManager.emplaceManager_held] at held
        exact (Option.some.inj held).symm
      · refine .inl ⟨manager', ?_, rfl, fun key => .rfl⟩
        simp only [Instr.run, ClientManager.emplaceManager] at held
        rw [List.getElem?_append] at held
        split at held
        · exact held
        · rename_i outside
          have single : m - w.dataManagers.length ≠ 0 :=
            Nat.sub_ne_zero_of_lt (lt_of_le_of_ne (Nat.le_of_not_lt outside) (Ne.symm here))
          obtain ⟨n, more⟩ := Nat.exists_eq_succ_of_ne_zero single
          rw [more] at held
          cases held
  | addDeviceStorage m' device =>
      obtain ⟨manager, before, rfl⟩ := held_onManager_cases held
      refine .inl ⟨manager, before, by split <;> simp, fun key => ?_⟩
      by_cases here : m' = m <;> simp [Instr.stocks, here, or_comm, eq_comm]
  | removeDeviceStorage m' deviceId =>
      obtain ⟨manager, before, rfl⟩ := held_onManager_cases held
      refine .inl ⟨manager, before, by split <;> simp, fun key => ?_⟩
      by_cases here : m' = m <;> simp [Instr.stocks, here, and_comm, eq_comm]
  | addDataStream m' deviceId c =>
      obtain ⟨manager, before, rfl⟩ := held_onManager_cases held
      exact .inl ⟨manager, before, by split <;> simp, fun key => by split <;> simp [Instr.stocks]⟩
  | removeDataStream m' deviceId =>
      obtain ⟨manager, before, rfl⟩ := held_onManager_cases held
      exact .inl ⟨manager, before, by split <;> simp, fun key => by split <;> simp [Instr.stocks]⟩
  | removeDataFrameStream m' reopen | setDataFrameStream m' c =>
      obtain ⟨manager, before, rfl⟩ := held_onManager_cases held
      exact .inl ⟨manager, before, by split <;> rfl, fun key => by split <;> exact .rfl⟩
  | cancelDataStream m' deviceId | cancelDataFrameStream m' reopen =>
      simp only [Instr.run, ClientManager.cancelDataStream, ClientManager.cancelDataFrameStream,
        ClientManager.dataManagers_onCalls] at held
      exact .inl ⟨manager', held, rfl, fun key => .rfl⟩
  | openTrackingDeviceDataStream m' device | openDataFrameStream m' devices =>
      refine .inl ⟨manager', ?_, rfl, fun key => .rfl⟩
      simp only [Instr.run] at held
      split at held <;> exact held
  | recordDevice device deviceConnected =>
      obtain ⟨connected, recorded⟩ := ClientManager.recordDevice_frame w device deviceConnected
      rw [Instr.run, recorded] at held
      exact .inl ⟨manager', held, rfl, fun key => .rfl⟩
  | _ => first | exact .inl ⟨manager', held, rfl, fun key => .rfl⟩ | cases registry

theorem listed_run (registry : instr.registry = true)
    (listed : m ∈ (instr.run orders w).dataManagerList) :
    m ∈ w.dataManagerList ∨
      ∃ request made, instr = .emplaceManager request made ∧ m = w.dataManagers.length := by
  cases instr with
  | emplaceManager request made =>
      simp only [Instr.run, ClientManager.emplaceManager, List.mem_append, List.mem_singleton] at listed
      exact listed.imp_right fun new => ⟨request, made, rfl, new⟩
  | recordDevice device deviceConnected =>
      obtain ⟨connected, recorded⟩ := ClientManager.recordDevice_frame w device deviceConnected
      rw [Instr.run, recorded] at listed
      exact .inl listed
  | openTrackingDeviceDataStream m' device | openDataFrameStream m' devices =>
      simp only [Instr.run] at listed
      split at listed <;> exact .inl listed
  | cancelDataStream m' deviceId | cancelDataFrameStream m' reopen =>
      simp only [Instr.run, ClientManager.cancelDataStream, ClientManager.cancelDataFrameStream,
        ClientManager.onCalls] at listed
      split at listed <;> exact .inl listed
  | _ => first | exact .inl listed | cases registry

/-- A device under a key is the one that the key is of. -/
theorem requested_of_wanted (narrow : ∀ key device, w.connectedDevices.lookup key = some device →
      device.portId.toNat < 256) (keyed : ClientManager.Keyed w.connectedDevices) {deviceId : DeviceID}
    (port : deviceId.portId.toNat < 256)
    (wanted : ClientManager.Wanted w.connectedDevices manager deviceId.hash) :
    manager.isDeviceDataRequested deviceId = true := by
  obtain ⟨device, found, requested⟩ := wanted
  have same : device.id = deviceId := hash_injective (narrow _ _ found) port (keyed _ _ found)
  rwa [← same]

theorem wanted_of_connected (narrow : ∀ key device, w.connectedDevices.lookup key = some device →
      device.portId.toNat < 256) (keyed : ClientManager.Keyed w.connectedDevices) {deviceId : DeviceID}
    (port : deviceId.portId.toNat < 256) (connected : deviceId.hash ∈ w.connectedDevices)
    (requested : manager.isDeviceDataRequested deviceId = true) :
    ClientManager.Wanted w.connectedDevices manager deviceId.hash := by
  obtain ⟨device, found⟩ := Option.isSome_iff_exists.mp (AList.lookup_isSome.mpr connected)
  have same : device.id = deviceId := hash_injective (narrow _ _ found) port (keyed _ _ found)
  exact ⟨device, found, by rwa [same]⟩

/-- A duty to make a storage is handed on, or done. -/
theorem adds_next (orders : Orders) (keyed : ClientManager.Keyed w.connectedDevices) (listed : m ∈ w.dataManagerList)
    (held : w.dataManagers[m]? = some manager)
    (requested : ∀ deviceId ∈ instr.devices,
      ClientManager.Wanted w.connectedDevices manager deviceId.hash →
        manager.isDeviceDataRequested deviceId = true)
    (typed : ∀ m streamType, instr.uses = some (m, streamType) → Holds w m streamType)
    (wanted : ClientManager.Wanted w.connectedDevices manager key) (adds : instr.adds m key) :
    (∃ i ∈ instr.next orders w, i.adds m key) ∨ instr.stocks m key (key ∈ manager.deviceDataMap) := by
  have isOf : ∀ streamType, instr.uses = some (m, streamType) → manager.streamType = streamType := by
    intro streamType uses
    obtain ⟨manager', held', made⟩ := typed m streamType uses
    rw [held] at held'
    cases held'
    exact made
  obtain ⟨item, visited, -, same⟩ :=
    (ClientManager.wanted_iff_visit keyed orders.devices manager key).mpr wanted
  cases instr with
  | forConnectedDevices m' =>
      obtain rfl : m' = m := adds
      refine .inl ⟨.updateDeviceDataStream m' item.2 true, ?_, rfl, same.symm⟩
      exact List.mem_append_left _ (List.mem_map.mpr ⟨item, visited, rfl⟩)
  | forFrameDevices m' =>
      obtain rfl : m' = m := adds
      exact .inl ⟨_, List.mem_cons_self, rfl, item, visited, same.symm⟩
  | forDataManagers device deviceConnected =>
      cases deviceConnected with
      | false => exact adds.elim
      | true =>
          refine .inl ⟨.updateStreams m device true, ?_, rfl, adds⟩
          exact List.mem_append_left _ (List.mem_map.mpr ⟨m, listed, rfl⟩)
  | updateStreams m' device deviceConnected =>
      cases deviceConnected with
      | false => exact adds.elim
      | true =>
          obtain ⟨rfl, here⟩ := adds
          cases streamType : manager.streamType with
          | deviceData =>
              exact .inl ⟨.updateDeviceDataStream m' device true, by simp [Instr.next, held, streamType],
                rfl, here⟩
          | dataFrame =>
              exact .inl ⟨.updateDataFrameStream m' device true, by simp [Instr.next, held, streamType],
                rfl, here⟩
  | updateDeviceDataStream m' device deviceConnected =>
      cases deviceConnected with
      | false => exact adds.elim
      | true =>
          obtain ⟨rfl, rfl⟩ := adds
          have asked := requested device.id List.mem_cons_self wanted
          exact .inl ⟨.isStorageAvailable m' device, by simp [Instr.next, held, asked], rfl, rfl⟩
  | updateDataFrameStream m' device deviceConnected =>
      cases deviceConnected with
      | false => exact adds.elim
      | true =>
          obtain ⟨rfl, rfl⟩ := adds
          have asked := requested device.id List.mem_cons_self wanted
          exact .inl ⟨.cancelDataFrameStream m' true, by simp [Instr.next, held, asked], rfl⟩
  | isStorageAvailable m' device =>
      obtain ⟨rfl, rfl⟩ := adds
      by_cases available : w.isStorageAvailable m' device.id = true
      · refine .inr ?_
        show device.hash ∈ manager.deviceDataMap
        rw [ClientManager.isStorageAvailable, held, Option.any_some, DataManager.isStorageAvailable,
          decide_eq_true_eq] at available
        exact available
      · exact .inl ⟨.addDeviceStorage m' device, by simp [Instr.next, available], rfl, rfl⟩
  | addDeviceStorage m' device => exact .inr (.inr adds)
  | openDeviceDataStream m' =>
      obtain rfl : m' = m := adds
      exact .inl ⟨.forConnectedDevices m', by simp [Instr.next, held, isOf .deviceData rfl], rfl⟩
  | openDataFrame m' =>
      obtain rfl : m' = m := adds
      exact .inl ⟨.forFrameDevices m', by simp [Instr.next, held, isOf .dataFrame rfl], rfl⟩
  | cancelDataFrameStream m' reopen =>
      cases reopen with
      | false => exact adds.elim
      | true => exact .inl ⟨_, List.mem_cons_self, adds⟩
  | removeDataFrameStream m' reopen =>
      cases reopen with
      | false => exact adds.elim
      | true => exact .inl ⟨_, List.mem_cons_self, adds⟩
  | prepareFrameDevices m' items devices =>
      obtain ⟨rfl, item', member, rfl⟩ := adds
      have asked : manager.isDeviceDataRequested item'.2.id = true :=
        requested item'.2.id (List.mem_map.mpr ⟨_, List.mem_map.mpr ⟨item', member, rfl⟩, rfl⟩) wanted
      cases items with
      | nil => cases member
      | cons first rest =>
          rcases List.mem_cons.mp member with rfl | later
          · exact .inl ⟨.isStorageAvailable m' item'.2, by simp [Instr.next, held, asked], rfl, rfl⟩
          · by_cases this : manager.isDeviceDataRequested first.2.id = true
            · exact .inl ⟨.prepareFrameDevices m' rest (devices ++ [first.2]),
                by simp [Instr.next, held, this], rfl, item', later, rfl⟩
            · exact .inl ⟨.prepareFrameDevices m' rest devices, by simp [Instr.next, held, this],
                rfl, item', later, rfl⟩
  | _ => exact adds.elim

/-- A duty to drop a storage is handed on, or done. -/
theorem drops_next (orders : Orders) (listed : m ∈ w.dataManagerList) (held : w.dataManagers[m]? = some manager)
    (requested : ∀ deviceId ∈ instr.devices, deviceId.hash = key →
      manager.isDeviceDataRequested deviceId = true)
    (drops : instr.drops m key) :
    (∃ i ∈ instr.next orders w, i.drops m key) ∨
      ¬ instr.stocks m key (key ∈ manager.deviceDataMap) := by
  cases instr with
  | forDataManagers device deviceConnected =>
      cases deviceConnected with
      | true => exact drops.elim
      | false =>
          refine .inl ⟨.updateStreams m device false, ?_, rfl, drops⟩
          exact List.mem_append_left _ (List.mem_map.mpr ⟨m, listed, rfl⟩)
  | updateStreams m' device deviceConnected =>
      cases deviceConnected with
      | true => exact drops.elim
      | false =>
          obtain ⟨rfl, here⟩ := drops
          cases streamType : manager.streamType with
          | deviceData =>
              exact .inl ⟨.updateDeviceDataStream m' device false, by simp [Instr.next, held, streamType],
                rfl, here⟩
          | dataFrame =>
              exact .inl ⟨.updateDataFrameStream m' device false, by simp [Instr.next, held, streamType],
                rfl, here⟩
  | updateDeviceDataStream m' device deviceConnected =>
      cases deviceConnected with
      | true => exact drops.elim
      | false =>
          obtain ⟨rfl, rfl⟩ := drops
          have asked := requested device.id List.mem_cons_self rfl
          exact .inl ⟨.cancelDataStream m' device.id, by simp [Instr.next, held, asked], rfl, rfl⟩
  | updateDataFrameStream m' device deviceConnected =>
      cases deviceConnected with
      | true => exact drops.elim
      | false =>
          obtain ⟨rfl, rfl⟩ := drops
          have asked := requested device.id List.mem_cons_self rfl
          exact .inl ⟨.removeDeviceStorage m' device.id, by simp [Instr.next, held, asked], rfl, rfl⟩
  | cancelDataStream m' deviceId => exact .inl ⟨_, List.mem_cons_self, drops⟩
  | removeDataStream m' deviceId => exact .inl ⟨_, List.mem_cons_self, drops⟩
  | removeDeviceStorage m' deviceId => exact .inr fun stays => stays.2 drops
  | _ => exact drops.elim

end Storages

/-! ## The duties of all threads -/

/-- What a manager on the list has is wanted or going to be dropped, and what it wants it has
or is going to get. -/
structure Duties (w : ClientManager) (pending : List Instr) : Prop where
  typed : ∀ i ∈ pending, ∀ m streamType, i.uses = some (m, streamType) → Holds w m streamType
  asked : ∀ i ∈ pending, ∀ m device, i.makes = some (m, device) → ∃ manager,
    w.dataManagers[m]? = some manager ∧ manager.isDeviceDataRequested device.id = true
  listed : ∀ m ∈ w.dataManagerList, m < w.dataManagers.length
  requested : ∀ m ∈ w.dataManagerList, ∀ manager, w.dataManagers[m]? = some manager →
    ∀ key ∈ manager.deviceDataMap, ∀ deviceId : DeviceID, deviceId.portId.toNat < 256 →
      deviceId.hash = key → manager.isDeviceDataRequested deviceId = true
  kept : ∀ m ∈ w.dataManagerList, ∀ manager, w.dataManagers[m]? = some manager →
    ∀ key ∈ manager.deviceDataMap, ClientManager.Wanted w.connectedDevices manager key ∨
      ∃ i ∈ pending, i.drops m key
  served : ∀ m ∈ w.dataManagerList, ∀ manager, w.dataManagers[m]? = some manager →
    ∀ key, ClientManager.Wanted w.connectedDevices manager key → key ∈ manager.deviceDataMap ∨
      ∃ i ∈ pending, i.adds m key

section Duties

variable {orders : Orders} {w : ClientManager} {instr : Instr} {others : List Instr}

/-- Storages are made where the device was found requested. -/
theorem makes_next (registry : instr.registry = true) :
    ∀ i ∈ instr.next orders w, ∀ m device, i.makes = some (m, device) →
      instr.makes = some (m, device) ∨ ∃ manager, w.dataManagers[m]? = some manager ∧
        manager.isDeviceDataRequested device.id = true := by
  intro i member m device makes
  cases Instr.follows_of_next member with
  | deviceStorage held requested | frameStorage held requested =>
      cases makes
      exact .inr ⟨_, held, requested⟩
  | _ => first | exact .inl makes | cases makes

/-- A manager that is on the list was there before, or has just been made. -/
theorem listed_cases (registry : instr.registry = true) {m : ManagerId} {manager' : DataManager} (listed : m ∈ (instr.run orders w).dataManagerList)
    (held : (instr.run orders w).dataManagers[m]? = some manager') :
    (∃ manager, m ∈ w.dataManagerList ∧ w.dataManagers[m]? = some manager ∧
      manager'.header = manager.header ∧
      ∀ key, key ∈ manager'.deviceDataMap ↔ instr.stocks m key (key ∈ manager.deviceDataMap)) ∨
    ∃ request made, instr = .emplaceManager request made ∧ m = w.dataManagers.length ∧
      manager' = DataManager.init request made := by
  rcases held_run registry held with ⟨manager, before, header, storages⟩ | made
  · refine .inl ⟨manager, ?_, before, header, storages⟩
    refine (listed_run registry listed).resolve_right ?_
    rintro ⟨request, made, -, rfl⟩
    exact absurd (List.getElem?_eq_some_iff.mp before).1 (Nat.lt_irrefl _)
  · exact .inr made

theorem Duties.asked_of_held {pending : List Instr} (duties : Duties w pending) {i : Instr}
    (member : i ∈ pending) {m : ManagerId} {device : DeviceDescriptor}
    (makes : i.makes = some (m, device)) {manager : DataManager}
    (held : w.dataManagers[m]? = some manager) : manager.isDeviceDataRequested device.id = true := by
  obtain ⟨manager', held', requested⟩ := duties.asked i member m device makes
  rw [held] at held'
  cases held'
  exact requested

theorem duties_requested (reported : Reported w (instr :: others)) (duties : Duties w (instr :: others)) :
    ∀ m ∈ (instr.run orders w).dataManagerList, ∀ manager',
      (instr.run orders w).dataManagers[m]? = some manager' →
      ∀ key ∈ manager'.deviceDataMap, ∀ deviceId : DeviceID, deviceId.portId.toNat < 256 →
        deviceId.hash = key → manager'.isDeviceDataRequested deviceId = true := by
  intro m listed manager' held key member deviceId port hashed
  rcases listed_cases (reported.registry _ List.mem_cons_self) listed held with
    ⟨manager, before, found, header, storages⟩ | ⟨request, made, -, -, rfl⟩
  · rw [DataManager.isDeviceDataRequested_congr header]
    rw [storages] at member
    have old : key ∈ manager.deviceDataMap → manager.isDeviceDataRequested deviceId = true :=
      fun there => duties.requested m before manager found key there deviceId port hashed
    cases instr with
    | addDeviceStorage m' device =>
        rcases member with there | ⟨rfl, rfl⟩
        · exact old there
        · have same : deviceId = device.id :=
            hash_injective port (reported.named _ List.mem_cons_self device.id List.mem_cons_self) hashed
          rw [same]
          exact duties.asked_of_held List.mem_cons_self rfl found
    | removeDeviceStorage m' deviceId' => exact old member.1
    | _ => exact old member
  · cases member

/-- What is wanted after an instruction. -/
def wantedThen (manager : DataManager) (wanted : UInt64 → Prop) (key : UInt64) : Instr → Prop
  | .recordDevice device deviceConnected =>
      ClientManager.wantedAfter device (manager.isDeviceDataRequested device.id) deviceConnected wanted key
  | _ => wanted key

theorem wanted_run (reported : Reported w (instr :: others)) {manager manager' : DataManager}
    (header : manager'.header = manager.header) (key : UInt64) :
    ClientManager.Wanted (instr.run orders w).connectedDevices manager' key ↔
      wantedThen manager (ClientManager.Wanted w.connectedDevices manager) key instr := by
  have same : ClientManager.Wanted (instr.run orders w).connectedDevices manager' key ↔
      ClientManager.Wanted (instr.run orders w).connectedDevices manager key := by
    simp only [ClientManager.Wanted, DataManager.isDeviceDataRequested_congr header]
  rw [same]
  have registry := reported.registry instr List.mem_cons_self
  have unrecorded := connectedDevices_run orders w registry
  cases instr with
  | recordDevice device deviceConnected =>
      exact ClientManager.wanted_recordDevice device deviceConnected reported.keyed reported.narrow
        (reported.named _ List.mem_cons_self device.id List.mem_cons_self) manager key
  | _ =>
      rw [unrecorded (by simp)]
      exact .rfl

theorem duties_kept (reported : Reported w (instr :: others)) (duties : Duties w (instr :: others))
    (timely : instr.Timely { i | i ∈ instr :: others }) :
    ∀ m ∈ (instr.run orders w).dataManagerList, ∀ manager',
      (instr.run orders w).dataManagers[m]? = some manager' → ∀ key ∈ manager'.deviceDataMap,
        ClientManager.Wanted (instr.run orders w).connectedDevices manager' key ∨
          ∃ i ∈ instr.next orders w ++ others, i.drops m key := by
  intro m listed manager' held key member
  rcases listed_cases (reported.registry _ List.mem_cons_self) listed held with
    ⟨manager, before, found, header, storages⟩ | ⟨request, made, -, -, rfl⟩
  · rw [wanted_run reported header]
    have stays := (storages key).mp member
    have passed : key ∈ manager.deviceDataMap → ClientManager.Wanted w.connectedDevices manager key ∨
        ∃ i ∈ instr.next orders w ++ others, i.drops m key := by
      intro there
      rcases duties.kept m before manager found key there with wanted | ⟨i, pending, drops⟩
      · exact .inl wanted
      · refine .inr ?_
        rcases List.mem_cons.mp pending with rfl | old
        · have asked : ∀ deviceId ∈ i.devices, deviceId.hash = key →
              manager.isDeviceDataRequested deviceId = true := fun deviceId named hashed =>
            duties.requested m before manager found key there deviceId
              (reported.named i List.mem_cons_self deviceId named) hashed
          rcases drops_next orders before found asked drops with ⟨j, fresh, drops'⟩ | gone
          · exact ⟨j, List.mem_append_left _ fresh, drops'⟩
          · exact absurd stays gone
        · exact ⟨i, List.mem_append_right _ old, drops⟩
    cases instr with
    | recordDevice device deviceConnected =>
        by_cases own : key = device.hash
        · cases deviceConnected with
          | true =>
              have asked := duties.requested m before manager found key stays device.id
                (reported.named _ List.mem_cons_self _ List.mem_cons_self) own.symm
              exact .inl (.inr ⟨asked, own⟩)
          | false =>
              -- The loop over the managers comes next, and drops it.
              have loop := (List.mem_cons.mp timely.2).resolve_left (by simp)
              exact .inr ⟨_, List.mem_append_right _ loop, own.symm⟩
        · refine (passed stays).imp_left fun wanted => ?_
          cases deviceConnected with
          | true => exact .inl wanted
          | false => exact ⟨wanted, fun here => own here.2⟩
    | addDeviceStorage m' device =>
        rcases stays with there | ⟨rfl, rfl⟩
        · exact passed there
        · have asked := duties.asked_of_held List.mem_cons_self rfl found
          have port := reported.named _ List.mem_cons_self device.id List.mem_cons_self
          have connected : device.id.hash ∈ w.connectedDevices := by
            rcases reported.fresh _ List.mem_cons_self (device.id, true) List.mem_cons_self with truth |
              ⟨device', deviceConnected, other, -⟩
            · exact truth.mpr rfl
            · cases other
          have wanted := wanted_of_connected reported.narrow reported.keyed port connected asked
          rw [DeviceDescriptor.hash_id] at wanted
          exact .inl wanted
    | removeDeviceStorage m' deviceId => exact passed stays.1
    | _ => exact passed stays
  · cases member

theorem duties_served (reported : Reported w (instr :: others)) (duties : Duties w (instr :: others))
    (timely : instr.Timely { i | i ∈ instr :: others }) :
    ∀ m ∈ (instr.run orders w).dataManagerList, ∀ manager',
      (instr.run orders w).dataManagers[m]? = some manager' → ∀ key,
        ClientManager.Wanted (instr.run orders w).connectedDevices manager' key →
        key ∈ manager'.deviceDataMap ∨ ∃ i ∈ instr.next orders w ++ others, i.adds m key := by
  intro m listed manager' held key wanted
  rcases listed_cases (reported.registry _ List.mem_cons_self) listed held with
    ⟨manager, before, found, header, storages⟩ | ⟨request, made, rfl, rfl, rfl⟩
  · rw [wanted_run reported header] at wanted
    rw [storages]
    have passed : ClientManager.Wanted w.connectedDevices manager key →
        key ∈ manager.deviceDataMap ∨ instr.stocks m key (key ∈ manager.deviceDataMap) ∨
          ∃ i ∈ instr.next orders w ++ others, i.adds m key := by
      intro wants
      rcases duties.served m before manager found key wants with there | ⟨i, pending, adds⟩
      · exact .inl there
      · refine .inr ?_
        rcases List.mem_cons.mp pending with rfl | old
        · have asked : ∀ deviceId ∈ i.devices,
              ClientManager.Wanted w.connectedDevices manager deviceId.hash →
                manager.isDeviceDataRequested deviceId = true := fun deviceId named =>
            requested_of_wanted reported.narrow reported.keyed
              (reported.named i List.mem_cons_self deviceId named)
          rcases adds_next orders reported.keyed before found asked
            (duties.typed i List.mem_cons_self) wants adds with ⟨j, fresh, adds'⟩ | made
          · exact .inr ⟨j, List.mem_append_left _ fresh, adds'⟩
          · exact .inl made
        · exact .inr ⟨i, List.mem_append_right _ old, adds⟩
    cases instr with
    | recordDevice device deviceConnected =>
        by_cases own : key = device.hash
        · cases deviceConnected with
          | true =>
              -- The loop over the managers comes next, and adds it.
              have loop := (List.mem_cons.mp timely.2).resolve_left (by simp)
              exact .inr ⟨_, List.mem_append_right _ loop, own.symm⟩
          | false =>
              obtain ⟨old, gone⟩ := wanted
              refine absurd ⟨?_, own⟩ gone
              exact requested_of_wanted reported.narrow reported.keyed
                (reported.named _ List.mem_cons_self device.id List.mem_cons_self)
                (by rw [DeviceDescriptor.hash_id, ← own]; exact old)
        · have old : ClientManager.Wanted w.connectedDevices manager key := by
            cases deviceConnected with
            | true => exact wanted.resolve_right fun here => own here.2
            | false => exact wanted.1
          exact (passed old).elim .inl id
    | removeDeviceStorage m' deviceId =>
        refine (passed wanted).elim (fun there => .inl ⟨there, ?_⟩) id
        rintro ⟨rfl, rfl⟩
        obtain ⟨device, connected, -⟩ := wanted
        rcases reported.fresh _ List.mem_cons_self (deviceId, false) List.mem_cons_self with truth |
          ⟨device', deviceConnected, other, -⟩
        · have present : deviceId.hash ∈ w.connectedDevices :=
            AList.lookup_isSome.mp (by rw [connected]; rfl)
          exact absurd (truth.mp present) Bool.false_ne_true
        · cases other
    | addDeviceStorage m' device => exact (passed wanted).elim (fun there => .inl (.inl there)) id
    | _ => exact (passed wanted).elim .inl id
  · refine .inr ?_
    cases made with
    | deviceData => exact ⟨.openDeviceDataStream w.dataManagers.length, by simp [Instr.next], rfl⟩
    | dataFrame => exact ⟨.openDataFrame w.dataManagers.length, by simp [Instr.next], rfl⟩

/-- A manager stays where it is, with its request. -/
theorem held_after (orders : Orders) (registry : instr.registry = true) {m : ManagerId} {manager : DataManager}
    (held : w.dataManagers[m]? = some manager) :
    ∃ manager', (instr.run orders w).dataManagers[m]? = some manager' ∧
      manager'.header = manager.header := by
  have holds : Holds (instr.run orders w) m manager.streamType := holds_run ⟨manager, held, rfl⟩
  obtain ⟨manager', held', -⟩ := holds
  refine ⟨manager', held', ?_⟩
  rcases held_run registry held' with ⟨before, found, header, -⟩ | ⟨request, made, -, rfl, -⟩
  · rw [held] at found
    cases found
    exact header
  · exact absurd (List.getElem?_eq_some_iff.mp held).1 (Nat.lt_irrefl _)

theorem duties_step (reported : Reported w (instr :: others)) (duties : Duties w (instr :: others))
    (timely : instr.Timely { i | i ∈ instr :: others }) :
    Duties (instr.run orders w) (instr.next orders w ++ others) where
  typed i member m streamType uses := by
    rcases List.mem_append.mp member with fresh | old
    · exact holds_next (duties.typed instr List.mem_cons_self) i fresh m streamType uses
    · exact holds_run (duties.typed i (List.mem_cons_of_mem _ old) m streamType uses)
  asked i member m device makes := by
    have registry := reported.registry instr List.mem_cons_self
    have before : ∃ manager, w.dataManagers[m]? = some manager ∧
        manager.isDeviceDataRequested device.id = true := by
      rcases List.mem_append.mp member with fresh | old
      · rcases makes_next registry i fresh m device makes with same | found
        · exact duties.asked instr List.mem_cons_self m device same
        · exact found
      · exact duties.asked i (List.mem_cons_of_mem _ old) m device makes
    obtain ⟨manager, held, requested⟩ := before
    obtain ⟨manager', held', header⟩ := held_after orders registry held
    exact ⟨manager', held', by rwa [DataManager.isDeviceDataRequested_congr header]⟩
  listed m member := by
    have registry := reported.registry instr List.mem_cons_self
    rcases listed_run registry member with old | ⟨request, made, rfl, rfl⟩
    · have held := List.getElem?_eq_getElem (duties.listed m old)
      obtain ⟨manager', held', -⟩ := held_after orders registry held
      exact (List.getElem?_eq_some_iff.mp held').1
    · exact (List.getElem?_eq_some_iff.mp (ClientManager.emplaceManager_held w request made)).1
  requested := duties_requested reported duties
  kept := duties_kept reported duties timely
  served := duties_served reported duties timely

end Duties

/-! ## Requests and events of whole runs -/

/-- Each manager on the list has a storage for exactly the connected devices that it wants, the
devices having keys of their own. -/
structure StoragesFit (w : ClientManager) : Prop where
  keyed : ClientManager.Keyed w.connectedDevices
  narrow : ∀ key device, w.connectedDevices.lookup key = some device → device.portId.toNat < 256
  listed : ∀ m ∈ w.dataManagerList, m < w.dataManagers.length
  storages : ∀ m ∈ w.dataManagerList, ∀ manager, w.dataManagers[m]? = some manager →
    ∀ key, key ∈ manager.deviceDataMap ↔ ClientManager.Wanted w.connectedDevices manager key

/-- The completion queue thread with its events, and users with their requests. -/
def requestingThreads (w : ClientManager) (events : List Proto.TrackingDeviceEvent)
    (users : List (List (DataRequest × DataStreamType))) : ClientThreads where
  shared := w
  held := []
  programs := events.map Instr.deviceEventProcessor ::
    users.map fun requests => requests.map fun request => requestProgram request.1 request.2

section Requests

variable {w : ClientManager} {events : List Proto.TrackingDeviceEvent}
  {users : List (List (DataRequest × DataStreamType))} {s : ClientThreads}

theorem ordered_start : Ordered (requestingThreads w events users) where
  exclusive := by
    refine ⟨none, (fun t holder => by cases holder), fun t program found => ?_⟩
    rw [if_neg (by simp)]
    cases t with
    | zero =>
        cases found
        exact Threads.walk_map (fun event => rfl) events
    | succ t =>
        obtain ⟨requests, -, rfl⟩ := List.mem_map.mp (List.mem_of_getElem? found)
        refine Threads.walk_map (fun request => ?_) requests
        obtain ⟨request, made⟩ := request
        cases made <;> rfl
  queue program found := by
    cases found
    exact ⟨[], events, rfl, .inr fun i member => by cases member⟩

/-- Nothing is begun yet: events of devices with ports of eight bits, and requests. -/
def AtStart (pending : List Instr) : Prop :=
  ∀ i ∈ pending, (∃ event : Proto.TrackingDeviceEvent, event.device.portId.toNat < 256 ∧
    i = .deviceEventProcessor event) ∨ ∃ request made, i = requestProgram request made

theorem atStart_requesting (narrow : ∀ event ∈ events, event.device.portId.toNat < 256) :
    AtStart (requestingThreads w events users).programs.flatten := by
  intro i member
  rw [requestingThreads, List.flatten_cons, List.mem_append] at member
  rcases member with handled | request
  · obtain ⟨event, listed, rfl⟩ := List.mem_map.mp handled
    exact .inl ⟨event, narrow event listed, rfl⟩
  · obtain ⟨program, listed, inside⟩ := List.mem_flatten.mp request
    obtain ⟨requests, -, rfl⟩ := List.mem_map.mp listed
    obtain ⟨request, -, rfl⟩ := List.mem_map.mp inside
    exact .inr ⟨_, _, rfl⟩

theorem reported_start {pending : List Instr} (fits : StoragesFit w) (start : AtStart pending) :
    Reported w pending where
  registry i member := by
    rcases start i member with ⟨event, -, rfl⟩ | ⟨request, made, rfl⟩
    · rfl
    · cases made <;> rfl
  keyed := fits.keyed
  narrow := fits.narrow
  named i member deviceId names := by
    rcases start i member with ⟨event, port, rfl⟩ | ⟨request, made, rfl⟩
    · rw [List.mem_singleton.mp names]
      exact port
    · cases made <;> cases names
  fresh i member report reports := by
    rcases start i member with ⟨event, -, rfl⟩ | ⟨request, made, rfl⟩
    · cases reports
    · cases made <;> cases reports

theorem duties_start {pending : List Instr} (fits : StoragesFit w) (start : AtStart pending) :
    Duties w pending where
  typed i member m streamType uses := by
    rcases start i member with ⟨event, -, rfl⟩ | ⟨request, made, rfl⟩
    · cases uses
    · cases made <;> cases uses
  asked i member m device makes := by
    rcases start i member with ⟨event, -, rfl⟩ | ⟨request, made, rfl⟩
    · cases makes
    · cases made <;> cases makes
  listed := fits.listed
  requested m listed manager held key member deviceId port hashed := by
    subst hashed
    exact requested_of_wanted fits.narrow fits.keyed port ((fits.storages m listed manager held _).mp member)
  kept m listed manager held key member := .inl ((fits.storages m listed manager held key).mp member)
  served m listed manager held key wanted := .inl ((fits.storages m listed manager held key).mpr wanted)

theorem Reported.perm {pending pending' : List Instr} (perm : pending.Perm pending')
    (reported : Reported w pending) : Reported w pending' := by
  have same : ∀ i, i ∈ pending' ↔ i ∈ pending := fun i => perm.symm.mem_iff
  refine ⟨?_, reported.keyed, reported.narrow, ?_, ?_⟩
  · simpa only [same] using reported.registry
  · simpa only [same] using reported.named
  · simpa only [same] using reported.fresh

theorem Duties.perm {pending pending' : List Instr} (perm : pending.Perm pending')
    (duties : Duties w pending) : Duties w pending' := by
  have same : ∀ i, i ∈ pending' ↔ i ∈ pending := fun i => perm.symm.mem_iff
  refine ⟨?_, ?_, duties.listed, duties.requested, ?_, ?_⟩
  · simpa only [same] using duties.typed
  · simpa only [same] using duties.asked
  · simpa only [same] using duties.kept
  · simpa only [same] using duties.served

theorem duties_of_reached {start : ClientThreads} {allowed : ClientThreads → Nat × Orders → Prop}
    (ordered : Ordered start) (begins : AtStart start.programs.flatten) (fits : StoragesFit start.shared)
    (reached : Reached ClientThreads.step allowed start s) :
    Reported s.shared s.programs.flatten ∧ Duties s.shared s.programs.flatten := by
  have timely := reached.meets Ordered ordered (fun _ _ _ ordered _ stepped => ordered.step stepped)
    fun _ label ordered => ordered.timely label
  refine Threads.invariant_of_kept clientSemantics (fun w pending => Reported w pending ∧ Duties w pending)
    ?_ ⟨reported_start fits begins, duties_start fits begins⟩ ?_ timely
  · rintro w pending pending' perm ⟨reported, duties⟩
    exact ⟨reported.perm perm, duties.perm perm⟩
  · rintro w instr others orders ⟨reported, duties⟩ - timely
    exact ⟨reported_step reported timely, duties_step reported duties timely⟩

/-- When the threads are done no duty is left. -/
theorem storagesFit_of_reached {start : ClientThreads} {allowed : ClientThreads → Nat × Orders → Prop}
    (ordered : Ordered start) (begins : AtStart start.programs.flatten) (fits : StoragesFit start.shared)
    (reached : Reached ClientThreads.step allowed start s) (finished : s.Finished) :
    StoragesFit s.shared := by
  obtain ⟨reported, duties⟩ := duties_of_reached ordered begins fits reached
  rw [Threads.flatten_of_finished finished] at reported duties
  refine ⟨reported.keyed, reported.narrow, duties.listed, fun m listed manager held key => ?_⟩
  constructor
  · intro member
    refine (duties.kept m listed manager held key member).resolve_right ?_
    rintro ⟨i, pending, -⟩
    cases pending
  · intro wanted
    refine (duties.served m listed manager held key wanted).resolve_right ?_
    rintro ⟨i, pending, -⟩
    cases pending

/-- **No device is missed or kept.**  Whatever the order of their sections, when the requests of
the users and the events of the queue have completed, each manager on the list has a storage for
exactly the devices that are connected and that it requested. -/
theorem requests_fit (fits : StoragesFit w)
    (narrow : ∀ event ∈ events, event.device.portId.toNat < 256)
    (reached : Reached ClientThreads.step (fun _ _ => True) (requestingThreads w events users) s)
    (finished : s.Finished) : StoragesFit s.shared :=
  storagesFit_of_reached ordered_start (atStart_requesting narrow) fits reached finished

/-- The states that requests, events and closes lead to, one at a time, are such states. -/
theorem storagesFit_of_runs {run : List ClientManager.Operation} (runs : ClientManager.Runs run w)
    (narrow : ∀ operation ∈ run, operation.Narrow) : StoragesFit w where
  keyed := (ClientManager.coherent_of_runs runs).keyed
  narrow := (ClientManager.upToDate_of_runs runs narrow).1.narrow
  listed := (ClientManager.coherent_of_runs runs).listed
  storages m listed manager held key := by
    obtain ⟨manager', serving⟩ := (ClientManager.upToDate_of_runs runs narrow).1.served m listed
    have same := serving.held
    rw [held] at same
    cases same
    exact serving.storages key

/-- The device is plugged in while the manager is on the list and has not looked for it yet. -/
theorem requests_fit_plugged :
    ∃ s, Reached ClientThreads.step (fun _ _ => True)
        (requestingThreads ClientManager.init
          [{ device := { siuUuid := 1, portId := 2 }, connected := true }] [[(default, .deviceData)]]) s ∧
      s.Finished ∧ s.shared.isStorageAvailable 0 ⟨1, 2⟩ = true ∧ StoragesFit s.shared := by
  have executed : (script ClientThreads.step
      ((List.replicate 4 1 ++ List.replicate 14 0 ++ List.replicate 7 1).map fun i => (i, Orders.stored))
      (requestingThreads ClientManager.init
        [{ device := { siuUuid := 1, portId := 2 }, connected := true }] [[(default, .deviceData)]])).any
      (fun s => s.programs.all (·.isEmpty) && s.shared.isStorageAvailable 0 ⟨1, 2⟩) = true := by decide
  obtain ⟨s, executed, last⟩ := (Option.any_eq_true _ _).mp executed
  rw [Bool.and_eq_true] at last
  have reached := Reached.of_any _ executed
  have finished := finished_of_isEmpty last.1
  exact ⟨s, reached, finished, last.2,
    requests_fit (storagesFit_of_runs .start (by simp)) (by simp) reached finished⟩

end Requests

end OmmoSdk.Client
