/-
# Client.Sequential — a thread that runs alone

The functions of `Client.ClientManager` run from start to end, those of `Client.Threads`
section by section.  Here a thread that executes such a function while no other thread
takes a step comes to its end, gives back the mutexes it took, and leaves the client as
the function does.  So what `Client.RegistryRuns` shows of sequences of operations is
about the same program that the threads interleave.
-/
import OmmoSdk.Client.RegistryRuns
import OmmoSdk.Client.Threads

namespace OmmoSdk.Client

open OmmoSdk.Theory
open OmmoSdk.Sdk

set_option autoImplicit false

/-- The thread comes to the end of `program` and holds the mutexes it held before. -/
abbrev Does (orders : Orders) (held : List Mutex) (w : ClientManager) (program : List Instr)
    (w' : ClientManager) : Prop :=
  Threads.Executes clientSemantics orders w held program w' held

section Instructions

variable {orders : Orders} {held held' : List Mutex} {w w' w'' : ClientManager} {instr : Instr}
  {program : List Instr} {m : ManagerId}

theorem heldAfter_eq (locks : instr.locks orders w = none) (unlocks : instr.unlocks = none) :
    Threads.heldAfter clientSemantics orders ⟨w, held, []⟩ instr = held := by
  simp [Threads.heldAfter, clientSemantics, locks, unlocks]

/-- An instruction that takes no mutex. -/
theorem executes_call (enabled : instr.enabled w = true) (needs : instr.needs w = [])
    (locks : instr.locks orders w = none) (unlocks : instr.unlocks = none)
    (body : Threads.Executes clientSemantics orders (instr.run orders w) held
      (instr.next orders w) w' held') :
    Threads.Executes clientSemantics orders w held [instr] w' held' := by
  refine .cons enabled ?_ ?_
  · simp [Threads.free, clientSemantics, needs, locks]
  · rw [heldAfter_eq locks unlocks]
    exact body

/-- A section under the mutex of the streams of a manager. -/
theorem executes_section (clear : Mutex.dataStreamMap m ∉ held) (enabled : instr.enabled w = true)
    (needs : instr.needs w = [.dataStreamMap m]) (locks : instr.locks orders w = none)
    (unlocks : instr.unlocks = none)
    (body : Does orders held (instr.run orders w) (instr.next orders w) w') :
    Does orders held w [instr] w' := by
  refine .cons enabled ?_ ?_
  · simpa [Threads.free, clientSemantics, needs, locks] using clear
  · rw [heldAfter_eq locks unlocks]
    exact body

theorem executes_lock {mutex : Mutex} (clear : mutex ∉ held) :
    Threads.Executes clientSemantics orders w held [.lock mutex] w (mutex :: held) := by
  refine .cons rfl ?_ .nil
  simpa [Threads.free, clientSemantics, Instr.needs, Instr.locks] using clear

theorem executes_unlock {mutex : Mutex} :
    Threads.Executes clientSemantics orders w (mutex :: held) [.unlock mutex] w held := by
  have given : Threads.heldAfter clientSemantics orders ⟨w, mutex :: held, []⟩ (.unlock mutex) = held := by
    simp [Threads.heldAfter, clientSemantics, Instr.unlocks]
  refine .cons rfl rfl ?_
  rw [given]
  exact .nil

theorem executes_then {held'' : List Mutex}
    (first : Threads.Executes clientSemantics orders w held [instr] w' held')
    (later : Threads.Executes clientSemantics orders w' held' program w'' held'') :
    Threads.Executes clientSemantics orders w held (instr :: program) w'' held'' :=
  first.append later

/-- A loop whose rounds do what the rounds of a fold do. -/
theorem does_each {α : Type} {round : α → Instr} {f : ClientManager → α → ClientManager}
    (each : ∀ w item, Does orders held w [round item] (f w item)) (items : List α) :
    ∀ w, Does orders held w (items.map round) (items.foldl f w) := by
  induction items with
  | nil => exact fun w => .nil
  | cons item rest ih => exact fun w => (each w item).append (ih (f w item))

end Instructions

/-! ## Streams of a request -/

section Streams

variable {orders : Orders} {held : List Mutex} {w : ClientManager} {m : ManagerId}

theorem does_isStorageAvailable (device : DeviceDescriptor) :
    Does orders held w [.isStorageAvailable m device] (w.ensureStorage m device) := by
  apply executes_call rfl rfl rfl rfl
  simp only [Instr.run, Instr.next, ClientManager.ensureStorage]
  split
  · exact executes_call rfl rfl rfl rfl .nil
  · exact .nil

/-- The second half of the branch for a connected device. -/
theorem does_dataStreamExists {manager current : DataManager} (clear : Mutex.dataStreamMap m ∉ held)
    (found : w.dataManagers[m]? = some current) (header : current.header = manager.header)
    (device : DeviceDescriptor) :
    Does orders held w [.dataStreamExists m device]
      (if ¬ w.dataStreamExists m device.id then
        let opened := w.openTrackingDeviceDataStream
          (ClientManager.deviceStreamRequest manager.request device) m
        opened.1.addDataStream m device.id opened.2
      else w) := by
  have request : current.request = manager.request := congrArg Prod.snd header
  apply executes_section clear rfl rfl rfl rfl
  simp only [Instr.run, Instr.next]
  split
  · apply executes_call rfl rfl rfl rfl
    simp only [Instr.run, Instr.next, found, request, Option.isSome_some, if_true]
    exact executes_section clear rfl rfl rfl rfl .nil
  · exact .nil

theorem does_updateDeviceDataStream (clear : Mutex.dataStreamMap m ∉ held)
    (device : DeviceDescriptor) (deviceConnected : Bool) :
    Does orders held w [.updateDeviceDataStream m device deviceConnected]
      (w.updateDeviceDataStream m device deviceConnected) := by
  apply executes_call rfl rfl rfl rfl
  simp only [Instr.run, Instr.next, ClientManager.updateDeviceDataStream]
  cases found : w.dataManagers[m]? with
  | none => exact .nil
  | some manager =>
      simp only
      split
      · exact .nil
      split
      · apply executes_section clear rfl rfl rfl rfl
        apply executes_section clear rfl rfl rfl rfl
        exact executes_call rfl rfl rfl rfl .nil
      · apply (does_isStorageAvailable device).append
        obtain ⟨manager', found', header, -⟩ := ClientManager.ensureStorage_held device found
        exact does_dataStreamExists clear found' header device

/-- The loop over the connected devices goes on as it does when there is none left. -/
theorem executes_prepareFrameDevices {manager : DataManager} {held' : List Mutex} {w' : ClientManager}
    (items : List (Σ _ : UInt64, DeviceDescriptor)) :
    ∀ {w : ClientManager} {current : DataManager} {devices : List DeviceDescriptor},
      w.dataManagers[m]? = some current → current.header = manager.header →
      Threads.Executes clientSemantics orders (ClientManager.prepareFrameDevices manager m w items).1 held
        [.prepareFrameDevices m [] (devices ++ (ClientManager.prepareFrameDevices manager m w items).2)]
        w' held' →
      Threads.Executes clientSemantics orders w held [.prepareFrameDevices m items devices] w' held' := by
  induction items with
  | nil =>
      intro w current devices _ _ last
      rw [show devices ++ (ClientManager.prepareFrameDevices manager m w []).2 = devices from
        List.append_nil devices] at last
      exact last
  | cons item rest ih =>
      intro w current devices found header last
      apply executes_call rfl rfl rfl rfl
      simp only [Instr.run, Instr.next, found, Option.any_some,
        DataManager.isDeviceDataRequested_congr header]
      rw [ClientManager.prepareFrameDevices_cons] at last
      split at last
      · rename_i requested
        rw [if_pos requested]
        obtain ⟨current', found', header', -⟩ := ClientManager.ensureStorage_held item.2 found
        refine (does_isStorageAvailable item.2).append (ih found' (header'.trans header) ?_)
        rw [List.append_assoc]
        exact last
      · rename_i requested
        rw [if_neg requested]
        exact ih found header last

theorem does_openDataFrame (clear : Mutex.connectedDevices ∉ held) (w : ClientManager) :
    Does orders held w [.openDataFrame m] (ClientManager.openDataFrame orders.devices w m) := by
  apply executes_call rfl rfl rfl rfl
  simp only [Instr.run, Instr.next]
  cases found : w.dataManagers[m]? with
  | none =>
      simp only [ClientManager.openDataFrame, found]
      exact .nil
  | some manager =>
      by_cases frame : manager.streamType = .dataFrame
      · rw [ClientManager.openDataFrame_eq found frame]
        simp only [frame, ne_eq, not_true_eq_false, if_false]
        apply (executes_lock clear).append
        apply executes_call rfl rfl rfl rfl
        apply executes_prepareFrameDevices _ found rfl
        obtain ⟨-, manager', found', header, -⟩ := ClientManager.prepareFrameDevices_spec manager m
          (orders.devices.visit w.connectedDevices) found
        have request : manager'.request = manager.request := congrArg Prod.snd header
        apply executes_call rfl rfl rfl rfl
        apply executes_unlock.append
        apply executes_call rfl rfl rfl rfl
        simp only [Instr.run, Instr.next, found', request, Option.isSome_some, if_true]
        exact executes_call rfl rfl rfl rfl .nil
      · rw [ClientManager.openDataFrame_other found frame]
        simp only [ne_eq, frame, not_false_eq_true, if_true]
        exact .nil

theorem does_updateDataFrameStream (clear : Mutex.connectedDevices ∉ held)
    (device : DeviceDescriptor) (deviceConnected : Bool) :
    Does orders held w [.updateDataFrameStream m device deviceConnected]
      (ClientManager.updateDataFrameStream orders.devices w m device deviceConnected) := by
  apply executes_call rfl rfl rfl rfl
  simp only [Instr.run, Instr.next]
  cases found : w.dataManagers[m]? with
  | none =>
      simp only [ClientManager.updateDataFrameStream, found]
      exact .nil
  | some manager =>
      cases requested : manager.isDeviceDataRequested device.id with
      | false =>
          rw [ClientManager.updateDataFrameStream_other found requested]
          simp only [requested, Bool.false_eq_true, not_false_eq_true, if_true]
          exact .nil
      | true =>
          rw [ClientManager.updateDataFrameStream_requested found requested]
          simp only [requested, not_true_eq_false, if_false]
          have dropped : Does orders held w
              (if ¬ deviceConnected then [.removeDeviceStorage m device.id] else [])
              (w.dropStorage m device deviceConnected) := by
            unfold ClientManager.dropStorage
            split
            · exact executes_call rfl rfl rfl rfl .nil
            · exact .nil
          apply dropped.append
          apply executes_call rfl rfl rfl rfl
          apply executes_call rfl rfl rfl rfl
          exact does_openDataFrame clear _

theorem does_openDeviceDataStream (clear : Mutex.connectedDevices ∉ held)
    (streams : Mutex.dataStreamMap m ∉ held) :
    Does orders held w [.openDeviceDataStream m]
      (ClientManager.openDeviceDataStream orders.devices w m) := by
  apply executes_call rfl rfl rfl rfl
  simp only [Instr.run, Instr.next]
  cases found : w.dataManagers[m]? with
  | none =>
      simp only [ClientManager.openDeviceDataStream, found]
      exact .nil
  | some manager =>
      by_cases device : manager.streamType = .deviceData
      · rw [ClientManager.openDeviceDataStream_eq found device]
        simp only [device, ne_eq, not_true_eq_false, if_false]
        apply (executes_lock clear).append
        apply executes_call rfl rfl rfl rfl
        refine Threads.Executes.append ?_ executes_unlock
        exact does_each (fun w item => does_updateDeviceDataStream (by simpa using streams) item.2 true) _ w
      · simp only [ClientManager.openDeviceDataStream, found, ne_eq, device, not_false_eq_true, if_true]
        exact .nil

theorem does_updateStreams (clear : Mutex.connectedDevices ∉ held)
    (streams : ∀ m, Mutex.dataStreamMap m ∉ held) (device : DeviceDescriptor) (deviceConnected : Bool)
    (w : ClientManager) (m : ManagerId) :
    Does orders held w [.updateStreams m device deviceConnected]
      (ClientManager.updateStreams orders.devices device deviceConnected w m) := by
  apply executes_call rfl rfl rfl rfl
  simp only [Instr.run, Instr.next, ClientManager.updateStreams]
  cases w.dataManagers[m]? with
  | none => exact .nil
  | some manager =>
      simp only
      cases manager.streamType with
      | deviceData => exact does_updateDeviceDataStream (streams m) device deviceConnected
      | dataFrame => exact does_updateDataFrameStream clear device deviceConnected

end Streams

/-! ## Whole operations -/

def ClientManager.Operation.program : ClientManager.Operation → Instr
  | .deviceEvent event => .deviceEventProcessor event
  | .requestDeviceData request => .requestDeviceData request
  | .requestDataFrame request => .requestDataFrame request
  | .closeRequest manager => .closeRequest manager

section Operations

variable {orders : Orders} {w : ClientManager}

theorem does_deviceEventProcessor (event : Proto.TrackingDeviceEvent) :
    Does orders [] w [.deviceEventProcessor event]
      (ClientManager.deviceEventProcessor orders.devices w event) := by
  apply executes_call rfl rfl rfl rfl
  apply (executes_lock (by simp)).append
  apply executes_then (executes_call rfl rfl rfl rfl .nil)
  apply executes_unlock.append
  apply (executes_lock (by simp)).append
  apply executes_call rfl rfl rfl rfl
  refine Threads.Executes.append ?_ executes_unlock
  exact does_each (fun w m => does_updateStreams (by simp) (by simp) _ _ w m) _ _

theorem does_requestDeviceData (request : DataRequest) :
    Does orders [] w [.requestDeviceData request]
      (ClientManager.requestDeviceData orders.devices w request).1 := by
  apply executes_call rfl rfl rfl rfl
  apply (executes_lock (by simp)).append
  apply executes_call rfl rfl rfl rfl
  apply executes_unlock.append
  exact does_openDeviceDataStream (by simp) (by simp)

theorem does_requestDataFrame (request : DataRequest) :
    Does orders [] w [.requestDataFrame request]
      (ClientManager.requestDataFrame orders.devices w request).1 := by
  apply executes_call rfl rfl rfl rfl
  apply (executes_lock (by simp)).append
  apply executes_call rfl rfl rfl rfl
  apply executes_unlock.append
  exact does_openDataFrame (by simp) _

theorem does_eraseManager (m : ManagerId) :
    Does orders [] w [.lock .dataManagerList, .eraseManager m, .unlock .dataManagerList]
      (w.eraseManager m) := by
  apply (executes_lock (by simp)).append
  apply executes_then (executes_call rfl rfl rfl rfl .nil)
  exact executes_unlock

theorem does_closeRequest (m : ManagerId) :
    Does orders [] w [.closeRequest m] (w.closeRequest m) := by
  apply executes_call rfl rfl rfl rfl
  simp only [Instr.run, Instr.next, ClientManager.closeRequest]
  cases w.dataManagers[m]? with
  | none => exact .nil
  | some manager =>
      simp only
      cases manager.streamType with
      | deviceData =>
          refine executes_then
            (executes_section (by simp) rfl rfl rfl rfl .nil) ?_
          refine executes_then
            (executes_section (by simp) rfl rfl rfl rfl .nil) ?_
          exact does_eraseManager m
      | dataFrame =>
          apply executes_call rfl rfl rfl rfl
          apply executes_call rfl rfl rfl rfl
          exact does_eraseManager m

/-- **A thread alone does what the functions do.** -/
theorem does_operation (operation : ClientManager.Operation) :
    Does orders [] w [operation.program] (operation.apply orders.devices w) := by
  cases operation with
  | deviceEvent event => exact does_deviceEventProcessor event
  | requestDeviceData request => exact does_requestDeviceData request
  | requestDataFrame request => exact does_requestDataFrame request
  | closeRequest m => exact does_closeRequest m

/-- **A thread alone does what the operations of a run do**, one after the other. -/
theorem does_run (run : List ClientManager.Operation) (w : ClientManager) :
    Does orders [] w (run.map ClientManager.Operation.program)
      (run.foldl (fun w operation => operation.apply orders.devices w) w) :=
  does_each (fun _ operation => does_operation operation) run w

end Operations

end OmmoSdk.Client
