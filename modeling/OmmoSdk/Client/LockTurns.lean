/-
# Client.LockTurns — what the instructions do to the mutexes

The turns of `Theory.Exclusion` for the mutexes that are held over several instructions.
`connectedTurn` is for `connected_devices_mtx_`.  A user thread updates the streams of devices
only under it, while the completion queue thread does so in its loop over the managers as
well; so the turns of the two differ.  `listTurn` is for `data_manager_list_mutex_`, and there
it is the other way round.
-/
import OmmoSdk.Client.Threads
import OmmoSdk.Theory.Exclusion

namespace OmmoSdk.Client

open OmmoSdk.Theory
open OmmoSdk.Sdk
open OmmoSdk.Storage

set_option autoImplicit false

namespace Instr

/-- What an instruction of a user thread, or of the completion queue thread, has to do with
`connected_devices_mtx_`. -/
def connectedTurn (user : Bool) : Instr → Turn
  | lock mutex => if mutex = .connectedDevices then .takes else .calm
  | unlock mutex => if mutex = .connectedDevices then .gives else .calm
  | forConnectedDevices _ | forFrameDevices _ => .gives
  | prepareFrameDevices _ _ _ => .ends
  | clearConnectedDevices => .under
  | recordDevice _ _ => if user then .never else .under
  | updateDeviceDataStream _ _ _ | isStorageAvailable _ _ | addDeviceStorage _ _
  | removeDeviceStorage _ _ | dataStreamExists _ _ | openTrackingDeviceDataStream _ _
  | addDataStream _ _ _ | cancelDataStream _ _ | removeDataStream _ _ =>
      if user then .within else .anywhere
  | forDataManagers _ _ | updateStreams _ _ _ | updateDataFrameStream _ _ _
  | deviceEventProcessor _ => if user then .never else .calm
  | _ => .calm

end Instr

/-- **The turns fit.** -/
theorem discipline_connected (user : Bool) :
    Threads.Discipline clientSemantics .connectedDevices (Instr.connectedTurn user) where
  takes orders w instr locks := by
    cases instr with
    | lock mutex =>
        cases Option.some.inj locks
        exact ⟨rfl, rfl, rfl⟩
    | deleteCallData c => simp [clientSemantics, Instr.locks] at locks
    | _ => cases locks
  gives orders w instr unlocks := by
    cases instr with
    | unlock mutex =>
        cases Option.some.inj unlocks
        exact ⟨rfl, rfl⟩
    | _ => cases unlocks
  others orders w instr locks unlocks mode mode' real turn := by
    cases instr with
    | lock mutex =>
        have other : mutex ≠ .connectedDevices := fun same => locks (congrArg some same)
        rw [Instr.connectedTurn, if_neg other] at turn
        cases mode <;> cases turn
        rfl
    | unlock mutex =>
        have other : mutex ≠ .connectedDevices := fun same => unlocks (congrArg some same)
        rw [Instr.connectedTurn, if_neg other] at turn
        cases mode <;> cases turn
        rfl
    | forConnectedDevices m =>
        cases mode <;> cases turn
        · exact absurd rfl real
        · have rounds : ∀ device : (Σ _ : UInt64, DeviceDescriptor),
              (Instr.connectedTurn user (.updateDeviceDataStream m device.2 true)).go .inside =
                some .inside := by
            intro device
            cases user <;> rfl
          exact (Threads.walk_loop rounds (orders.devices.visit w.connectedDevices)).trans rfl
    | forDataManagers device deviceConnected =>
        cases user <;> cases mode <;> cases turn
        exact (Threads.walk_loop (fun m => rfl) w.dataManagerList).trans rfl
    | emplaceManager request streamType =>
        cases mode <;> cases turn
        cases streamType <;> rfl
    | prepareFrameDevices m items devices =>
        cases mode <;> cases turn
        cases items with
        | nil => rfl
        | cons item rest =>
            simp only [clientSemantics, Instr.next]
            split
            · cases user <;> rfl
            · rfl
    | removeDataFrameStream m reopen =>
        cases mode <;> cases turn
        cases reopen <;> rfl
    | channelMonitor states =>
        cases mode <;> cases turn
        have stop : Threads.walk (Instr.connectedTurn user) .outside (Instr.stopEventStream w) =
            some .outside := by
          unfold Instr.stopEventStream
          split <;> rfl
        cases states with
        | nil => exact stop
        | cons state states =>
            simp only [clientSemantics, Instr.next]
            split
            · cases state with
              | ready => rfl
              | _ =>
                  simp only [Instr.onChannelState, Threads.walk_append, stop, Option.bind_some]
                  split <;> rfl
            · rfl
    | forBaseStationStorages =>
        cases mode <;> cases turn
        exact (Threads.walk_loop (fun storage => rfl) w.baseStationDataStorageList).trans rfl
    | forWirelessManagers =>
        cases mode <;> cases turn
        exact (Threads.walk_loop (fun wrapper => rfl) w.wirelessManagerWrapperList).trans rfl
    | _ =>
        cases mode <;> cases user <;> first
          | exact absurd rfl real
          | (cases turn; done)
          | (cases turn; rfl)
          | (cases turn; simp only [clientSemantics, Instr.next]; split <;> rfl)
          | (cases turn; simp only [clientSemantics, Instr.next]; split; rfl; split <;> rfl)
          | (cases turn; simp only [clientSemantics, Instr.next]; split; rfl; split; rfl; split <;> rfl)

namespace Instr

/-- What an instruction of a user thread, or of the completion queue thread, has to do with
`data_manager_list_mutex_`. -/
def listTurn (user : Bool) : Instr → Turn
  | lock mutex => if mutex = .dataManagerList then .takes else .anywhere
  | unlock mutex => if mutex = .dataManagerList then .gives else .anywhere
  | eraseManager _ => .under
  | closeRequest _ => .calm
  | requestDeviceData _ | requestDataFrame _ => if user then .calm else .never
  | emplaceManager _ _ => if user then .gives else .never
  | openDeviceDataStream _ | forConnectedDevices _ => if user then .anywhere else .never
  | deviceEventProcessor _ => if user then .never else .calm
  | forDataManagers _ _ => if user then .never else .gives
  | updateStreams _ _ _ | updateDeviceDataStream _ _ _ | dataStreamExists _ _
  | openTrackingDeviceDataStream _ _ | addDataStream _ _ _ | cancelDataStream _ _
  | removeDataStream _ _ | updateDataFrameStream _ _ _ | openDataFrame _ | forFrameDevices _
  | prepareFrameDevices _ _ _ | openDataFrameStream _ _ | setDataFrameStream _ _ =>
      if user then .anywhere else .within
  | cancelDataFrameStream _ reopen | removeDataFrameStream _ reopen =>
      if reopen then if user then .anywhere else .within else .calm
  | _ => .anywhere

end Instr

/-- **The turns fit.** -/
theorem discipline_list (user : Bool) :
    Threads.Discipline clientSemantics .dataManagerList (Instr.listTurn user) where
  takes orders w instr locks := by
    cases instr with
    | lock mutex =>
        cases Option.some.inj locks
        exact ⟨rfl, rfl, rfl⟩
    | deleteCallData c => simp [clientSemantics, Instr.locks] at locks
    | _ => cases locks
  gives orders w instr unlocks := by
    cases instr with
    | unlock mutex =>
        cases Option.some.inj unlocks
        exact ⟨rfl, rfl⟩
    | _ => cases unlocks
  others orders w instr locks unlocks mode mode' real turn := by
    cases instr with
    | lock mutex =>
        have other : mutex ≠ .dataManagerList := fun same => locks (congrArg some same)
        rw [Instr.listTurn, if_neg other] at turn
        cases turn
        rfl
    | unlock mutex =>
        have other : mutex ≠ .dataManagerList := fun same => unlocks (congrArg some same)
        rw [Instr.listTurn, if_neg other] at turn
        cases turn
        rfl
    | forDataManagers device deviceConnected =>
        cases user <;> cases mode <;> cases turn
        · exact absurd rfl real
        · exact (Threads.walk_loop (fun m => rfl) w.dataManagerList).trans rfl
    | forConnectedDevices m =>
        cases user with
        | false => cases turn
        | true =>
            cases turn
            exact (Threads.walk_loop (fun device => rfl) (orders.devices.visit w.connectedDevices)).trans rfl
    | emplaceManager request streamType =>
        cases user <;> cases mode <;> cases turn
        · exact absurd rfl real
        · cases streamType <;> rfl
    | closeRequest m =>
        cases mode <;> cases turn
        simp only [clientSemantics, Instr.next]
        split
        · rfl
        · split <;> rfl
    | prepareFrameDevices m items devices =>
        cases items with
        | nil => cases user <;> cases mode <;> cases turn <;> rfl
        | cons item rest =>
            simp only [clientSemantics, Instr.next]
            cases user <;> cases mode <;> cases turn <;> split <;> rfl
    | cancelDataFrameStream m reopen =>
        cases reopen <;> cases user <;> cases mode <;> cases turn <;> rfl
    | removeDataFrameStream m reopen =>
        cases reopen <;> cases user <;> cases mode <;> cases turn <;> rfl
    | channelMonitor states =>
        cases turn
        have stop : Threads.walk (Instr.listTurn user) mode (Instr.stopEventStream w) = some mode := by
          unfold Instr.stopEventStream
          split <;> rfl
        cases states with
        | nil => exact stop
        | cons state states =>
            simp only [clientSemantics, Instr.next]
            split
            · cases state with
              | ready => rfl
              | _ =>
                  simp only [Instr.onChannelState, Threads.walk_append, stop, Option.bind_some]
                  split <;> rfl
            · rfl
    | forBaseStationStorages =>
        cases turn
        exact (Threads.walk_loop (fun storage => rfl) w.baseStationDataStorageList).trans rfl
    | forWirelessManagers =>
        cases turn
        exact (Threads.walk_loop (fun wrapper => rfl) w.wirelessManagerWrapperList).trans rfl
    | _ =>
        cases mode <;> cases user <;> first
          | exact absurd rfl real
          | (cases turn; done)
          | (cases turn; rfl)
          | (cases turn; simp only [clientSemantics, Instr.next]; split <;> rfl)
          | (cases turn; simp only [clientSemantics, Instr.next]; split; rfl; split <;> rfl)
          | (cases turn; simp only [clientSemantics, Instr.next]; split; rfl; split; rfl; split <;> rfl)

end OmmoSdk.Client
