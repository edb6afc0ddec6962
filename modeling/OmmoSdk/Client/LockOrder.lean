/-
# Client.LockOrder — the threads of `Client.Threads` come to their end

The threads are the monitor, the completion queue thread, and users that make requests, close
them and create wireless managers.  The mutexes that they hold over several sections are taken
in one order: the lists first, then `connected_devices_mtx_`, then those of the streams of a
manager.  The completion queue thread takes `connected_devices_mtx_` inside its loop over the
managers, when it opens a data frame stream again; none of these threads takes them the other
way round.

With the order no thread is stuck (`holding_stuck` of `Theory.LockOrder`), and since each
instruction is replaced by smaller ones no run is infinite.  So whatever the threads do, they
come to their end, unless a clean-up is caught in its loop (`calls_return`).

`CloseBaseStationDataRequest` and `Shutdown` are not among what these users do, and neither
always returns (`Client.StationRequests`, `Client.Shutdown`); nor is the `statusLock` of a call
one of the mutexes (`Client.WirelessCommands`).
-/
import OmmoSdk.Client.LostCalls
import OmmoSdk.Theory.LockOrder

namespace OmmoSdk.Client

open OmmoSdk.Theory
open OmmoSdk.Sdk
open OmmoSdk.Storage

set_option autoImplicit false

/-! ## The order -/

def Mutex.rank : Mutex → Nat
  | dataManagerList | baseStationDataStorageList | wirelessManagerList => 1
  | connectedDevices => 2
  | dataStreamMap _ => 3

namespace Instr

/-- What an instruction does to the mutexes of its thread.  The loops give back the mutex they
run under. -/
def lockUse : Instr → LockUse Mutex
  | lock mutex => .takes mutex
  | unlock mutex => .gives mutex
  | emplaceManager _ _ | forDataManagers _ _ => .gives .dataManagerList
  | forConnectedDevices _ | forFrameDevices _ | prepareFrameDevices _ _ _ =>
      .gives .connectedDevices
  | forBaseStationStorages => .gives .baseStationDataStorageList
  | forWirelessManagers => .gives .wirelessManagerList
  | deleteCallData _ => .under 0
  | requestDeviceData _ | requestDataFrame _ | closeRequest _ | requestBaseStationData
  | createWirelessManager | deviceEventProcessor _ | channelMonitor _
  | cancelDataFrameStream _ false | removeDataFrameStream _ false => .under 1
  | openDeviceDataStream _ | openDataFrame _ | updateDataFrameStream _ _ _
  | cancelDataFrameStream _ true | removeDataFrameStream _ true | updateStreams _ _ _ => .under 2
  | hang => .never
  | _ => .under 3

section Uses

variable {orders : Orders} {w : ClientManager} {instr : Instr} {own own' : List Mutex}

theorem under_of_after {n : Nat} (after : (LockUse.under n).after Mutex.rank own = some own') :
    own' = own ∧ ∀ y ∈ own, y.rank < n := by
  simp only [LockUse.after] at after
  split at after
  · rename_i below
    exact ⟨(Option.some.inj after).symm, below⟩
  · cases after

theorem takes_of_after {x : Mutex} (after : (LockUse.takes x).after Mutex.rank own = some own') :
    own' = x :: own ∧ ∀ y ∈ own, y.rank < x.rank := by
  simp only [LockUse.after] at after
  split at after
  · rename_i below
    exact ⟨(Option.some.inj after).symm, below⟩
  · cases after

theorem gives_of_after {x : Mutex} (after : (LockUse.gives x).after Mutex.rank own = some own') :
    own = x :: own' ∧ ∀ y ∈ own', y.rank < x.rank := by
  cases own with
  | nil => cases after
  | cons y rest =>
      simp only [LockUse.after] at after
      split at after
      · rename_i both
        cases after
        exact ⟨by rw [both.1], both.2⟩
      · cases after

/-- A loop under a mutex, whose rounds leave the mutexes alone. -/
theorem owning_loop {x : Mutex} {rounds : List Instr} (below : ∀ y ∈ own, y.rank < x.rank)
    (each : ∀ i ∈ rounds, ∃ n, x.rank < n ∧ lockUse i = .under n) :
    owning Mutex.rank lockUse (x :: own) (rounds ++ [unlock x]) = some own := by
  have inside : ∀ y ∈ x :: own, y.rank < x.rank + 1 := by
    intro y member
    rcases List.mem_cons.mp member with rfl | member
    · exact Nat.lt_succ_self _
    · exact Nat.lt_succ_of_lt (below y member)
  have done := owning_under inside each
  rw [owning_append, done, Option.bind_some, owning_cons, lockUse, after_gives below]
  rfl

/-- The instructions that are replaced by none that takes or gives back a mutex. -/
def plain : Instr → Bool
  | cancelAllDataStreams _ | clearDataStreams _ | eraseManager _ | updateDeviceDataStream _ _ _
  | isStorageAvailable _ _ | addDeviceStorage _ _ | removeDeviceStorage _ _ | dataStreamExists _ _
  | openTrackingDeviceDataStream _ _ | addDataStream _ _ _ | cancelDataStream _ _
  | removeDataStream _ _ | openDataFrameStream _ _ | setDataFrameStream _ _ | recordDevice _ _
  | openBaseStationDataStream _ | setDataStream _ _ | pushBaseStationDataStorage _
  | openWirelessManagementStream _ | setCallData _ _ | pushWirelessManager _
  | openTrackingDevicesEventStream | storeEventStream _ | cancelEventStream _ | clearEventStream
  | reopenBaseStationStream _ | reopenWirelessStream _ | clearConnectedDevices
  | saveChannelState _ => true
  | _ => false

theorem lockUse_plain (simple : instr.plain = true) : instr.lockUse = .under 3 := by
  cases instr <;> first | rfl | cases simple

theorem plain_of_next (simple : instr.plain = true) : ∀ i ∈ instr.next orders w, i.plain = true := by
  intro i member
  cases instr <;> first | (cases simple; done) | grind [next, plain]

/-- Only a lock, an unlock and a clean-up that hangs change what is owned by themselves. -/
theorem ownAfter_of_quiet (unlocks : instr.unlocks = none) (locks : instr.locks orders w = none) :
    Threads.ownAfter clientSemantics orders w instr own = own := by
  simp only [Threads.ownAfter, clientSemantics, unlocks, locks, Option.toList_none, List.nil_append]

theorem ownAfter_plain (simple : instr.plain = true) :
    Threads.ownAfter clientSemantics orders w instr own = own := by
  apply ownAfter_of_quiet <;> cases instr <;> first | rfl | cases simple

/-! ### Walking through a program -/

theorem owning_under_cons {i : Instr} {n : Nat} {rest : List Instr} (use : lockUse i = .under n)
    (below : ∀ y ∈ own, y.rank < n) :
    owning Mutex.rank lockUse own (i :: rest) = owning Mutex.rank lockUse own rest := by
  rw [owning_cons, use, after_under below, Option.bind_some]

theorem owning_lock_cons {x : Mutex} {rest : List Instr} (below : ∀ y ∈ own, y.rank < x.rank) :
    owning Mutex.rank lockUse own (lock x :: rest) = owning Mutex.rank lockUse (x :: own) rest := by
  rw [owning_cons, lockUse, after_takes below, Option.bind_some]

theorem owning_gives_cons {x : Mutex} {i : Instr} {rest : List Instr} (use : lockUse i = .gives x)
    (below : ∀ y ∈ own, y.rank < x.rank) :
    owning Mutex.rank lockUse (x :: own) (i :: rest) = owning Mutex.rank lockUse own rest := by
  rw [owning_cons, use, after_gives below, Option.bind_some]

theorem below_trans {m n : Nat} (most : m ≤ n) (below : ∀ y ∈ own, y.rank < m) : ∀ y ∈ own, y.rank < n :=
  fun y member => Nat.lt_of_lt_of_le (below y member) most

theorem below_cons {x : Mutex} {n : Nat} (here : x.rank < n) (below : ∀ y ∈ own, y.rank < x.rank) :
    ∀ y ∈ x :: own, y.rank < n := by
  intro y member
  rcases List.mem_cons.mp member with rfl | member
  · exact here
  · exact Nat.lt_trans (below y member) here

/-- A section under a mutex of its own. -/
theorem owning_section {x : Mutex} {i : Instr} {n : Nat} {rest : List Instr}
    (below : ∀ y ∈ own, y.rank < x.rank) (use : lockUse i = .under n) (more : x.rank < n) :
    owning Mutex.rank lockUse own (lock x :: i :: unlock x :: rest) =
      owning Mutex.rank lockUse own rest := by
  refine (owning_lock_cons below).trans ?_
  exact (owning_under_cons use (below_cons more below)).trans (owning_gives_cons rfl below)

/-! ### What the functions of the source do with the mutexes -/

theorem owning_emplaced {request : DataRequest} {streamType : DataStreamType}
    (below : ∀ y ∈ own, y.rank < 1) :
    owning Mutex.rank lockUse (.dataManagerList :: own) ((emplaceManager request streamType).next orders w) =
      some own := by
  cases streamType with
  | deviceData | dataFrame =>
      refine (owning_gives_cons rfl below).trans ?_
      exact (owning_under_cons rfl (below_trans (by decide) below)).trans owning_nil

theorem owning_closeRequest {m : ManagerId} (below : ∀ y ∈ own, y.rank < 1) :
    owning Mutex.rank lockUse own ((closeRequest m).next orders w) = some own := by
  simp only [next]
  split
  · rfl
  · split
    · have every := below_trans (n := 3) (by decide) below
      refine (owning_under_cons rfl every).trans ((owning_under_cons rfl every).trans ?_)
      exact (owning_section (n := 3) below rfl (by decide)).trans owning_nil
    · exact (owning_under_cons rfl below).trans owning_nil

/-- The two loops over the connected devices. -/
theorem owning_connectedDevices {i : Instr} (use : lockUse i = .gives .connectedDevices)
    (below : ∀ y ∈ own, y.rank < 2) :
    owning Mutex.rank lockUse own [lock .connectedDevices, i] = some own := by
  refine (owning_lock_cons below).trans ?_
  exact (owning_gives_cons use below).trans owning_nil

theorem owning_openDeviceDataStream {m : ManagerId} (below : ∀ y ∈ own, y.rank < 2) :
    owning Mutex.rank lockUse own ((openDeviceDataStream m).next orders w) = some own := by
  simp only [next]
  split
  · rfl
  · split
    · rfl
    · exact owning_connectedDevices rfl below

theorem owning_openDataFrame {m : ManagerId} (below : ∀ y ∈ own, y.rank < 2) :
    owning Mutex.rank lockUse own ((openDataFrame m).next orders w) = some own := by
  simp only [next]
  split
  · rfl
  · split
    · rfl
    · exact owning_connectedDevices rfl below

theorem owning_prepareFrameDevices {m : ManagerId} {items : List (Σ _ : UInt64, DeviceDescriptor)}
    {devices : List DeviceDescriptor} (below : ∀ y ∈ own, y.rank < 2) :
    owning Mutex.rank lockUse (.connectedDevices :: own)
      ((prepareFrameDevices m items devices).next orders w) = some own := by
  cases items with
  | nil =>
      refine (owning_gives_cons rfl below).trans ?_
      exact (owning_under_cons rfl (below_trans (by decide) below)).trans owning_nil
  | cons item rest =>
      have on : ∀ devices, owning Mutex.rank lockUse (.connectedDevices :: own)
          [prepareFrameDevices m rest devices] = some own :=
        fun devices => (owning_gives_cons rfl below).trans owning_nil
      simp only [next]
      split
      · exact (owning_under_cons rfl (below_cons (by decide) below)).trans (on _)
      · exact on devices

theorem owning_updateDataFrameStream {m : ManagerId} {device : DeviceDescriptor} {deviceConnected : Bool}
    (below : ∀ y ∈ own, y.rank < 2) :
    owning Mutex.rank lockUse own ((updateDataFrameStream m device deviceConnected).next orders w) =
      some own := by
  simp only [next]
  split
  · rfl
  · split
    · rfl
    · refine owning_under below fun i member => ?_
      rcases List.mem_append.mp member with gone | replaced
      · cases deviceConnected with
        | false => exact ⟨3, by decide, List.mem_singleton.mp gone ▸ rfl⟩
        | true => cases gone
      · exact ⟨2, le_rfl, List.mem_singleton.mp replaced ▸ rfl⟩

theorem owning_removeDataFrameStream {m : ManagerId} {reopen : Bool} {n : Nat}
    (use : lockUse (removeDataFrameStream m reopen) = .under n) (below : ∀ y ∈ own, y.rank < n) :
    owning Mutex.rank lockUse own ((removeDataFrameStream m reopen).next orders w) = some own := by
  cases reopen with
  | true =>
      cases use
      exact (owning_under_cons rfl below).trans owning_nil
  | false =>
      cases use
      exact (owning_section (n := 3) below rfl (by decide)).trans owning_nil

theorem owning_deviceEventProcessor {event : Proto.TrackingDeviceEvent} (below : ∀ y ∈ own, y.rank < 1) :
    owning Mutex.rank lockUse own ((deviceEventProcessor event).next orders w) = some own := by
  refine (owning_section (n := 3) (below_trans (by decide) below) rfl (by decide)).trans ?_
  exact (owning_lock_cons below).trans ((owning_gives_cons rfl below).trans owning_nil)

/-- A call is opened, and then its owner is put on a list. -/
theorem owning_opens {x : Mutex} {i j : Instr} (opens : lockUse i = .under 3) (pushes : lockUse j = .under 3)
    (first : x.rank = 1) (below : ∀ y ∈ own, y.rank < 1) :
    owning Mutex.rank lockUse own [i, lock x, j, unlock x] = some own := by
  refine (owning_under_cons opens (below_trans (by decide) below)).trans ?_
  exact (owning_section (first ▸ below) pushes (first ▸ by decide)).trans owning_nil

theorem owning_stopEventStream (below : ∀ y ∈ own, y.rank < 3) :
    owning Mutex.rank lockUse own (stopEventStream w) = some own := by
  unfold stopEventStream
  split
  · exact (owning_under_cons rfl below).trans ((owning_under_cons rfl below).trans owning_nil)
  · rfl

theorem owning_onChannelState {state : ChannelState} (below : ∀ y ∈ own, y.rank < 1) :
    owning Mutex.rank lockUse own (onChannelState w state) = some own := by
  have every := below_trans (n := 3) (by decide) below
  unfold onChannelState
  split
  · refine (owning_under_cons rfl every).trans ?_
    refine (owning_lock_cons below).trans ((owning_gives_cons rfl below).trans ?_)
    exact (owning_lock_cons below).trans ((owning_gives_cons rfl below).trans owning_nil)
  · rw [owning_append, owning_stopEventStream every, Option.bind_some]
    split
    · exact (owning_section (n := 3) (below_trans (by decide) below) rfl (by decide)).trans owning_nil
    · rfl

theorem owning_channelMonitor {states : List ChannelState} (below : ∀ y ∈ own, y.rank < 1) :
    owning Mutex.rank lockUse own ((channelMonitor states).next orders w) = some own := by
  have every := below_trans (n := 3) (by decide) below
  cases states with
  | nil => exact owning_stopEventStream every
  | cons state states =>
      have later : owning Mutex.rank lockUse own [channelMonitor states] = some own :=
        (owning_under_cons rfl below).trans owning_nil
      simp only [next]
      split
      · rw [owning_append, owning_onChannelState below, Option.bind_some]
        exact (owning_under_cons rfl every).trans later
      · exact later

theorem owning_updateStreams {m : ManagerId} {device : DeviceDescriptor} {deviceConnected : Bool}
    (below : ∀ y ∈ own, y.rank < 2) :
    owning Mutex.rank lockUse own ((updateStreams m device deviceConnected).next orders w) = some own := by
  simp only [next]
  split
  · rfl
  · split
    · exact (owning_under_cons rfl (below_trans (by decide) below)).trans owning_nil
    · exact (owning_under_cons rfl below).trans owning_nil

/-- **One instruction.**  A clean-up that hangs is the exception. -/
theorem keeps_lockUse (returns : ∀ c, instr = .deleteCallData c → w.hangsIn orders.streams c = none)
    (after : instr.lockUse.after Mutex.rank own = some own') :
    owning Mutex.rank lockUse (Threads.ownAfter clientSemantics orders w instr own)
      (instr.next orders w) = some own' := by
  by_cases simple : instr.plain = true
  · rw [lockUse_plain simple] at after
    obtain ⟨rfl, below⟩ := under_of_after after
    rw [ownAfter_plain simple]
    exact owning_under below fun i member => ⟨3, le_rfl, lockUse_plain (plain_of_next simple i member)⟩
  cases instr with
  | lock x =>
      obtain ⟨rfl, -⟩ := takes_of_after after
      rfl
  | unlock x =>
      obtain ⟨rfl, -⟩ := gives_of_after after
      show some ((x :: own').erase x) = some own'
      rw [List.erase_cons_head]
  | deleteCallData c =>
      obtain ⟨rfl, -⟩ := under_of_after after
      have quiet : (deleteCallData c).locks orders w = none := by
        rw [locks, returns c rfl, Option.map_none]
      rw [ownAfter_of_quiet rfl quiet, next, returns c rfl]
      rfl
  | hang => cases after
  | requestDeviceData request | requestDataFrame request =>
      obtain ⟨rfl, below⟩ := under_of_after after
      exact (owning_lock_cons below).trans ((owning_gives_cons rfl below).trans owning_nil)
  | emplaceManager request streamType =>
      obtain ⟨rfl, below⟩ := gives_of_after after
      exact owning_emplaced below
  | closeRequest m =>
      obtain ⟨rfl, below⟩ := under_of_after after
      exact owning_closeRequest below
  | openDeviceDataStream m =>
      obtain ⟨rfl, below⟩ := under_of_after after
      exact owning_openDeviceDataStream below
  | forConnectedDevices m =>
      obtain ⟨rfl, below⟩ := gives_of_after after
      refine owning_loop below fun i member => ?_
      obtain ⟨device, -, rfl⟩ := List.mem_map.mp member
      exact ⟨3, by decide, rfl⟩
  | openDataFrame m =>
      obtain ⟨rfl, below⟩ := under_of_after after
      exact owning_openDataFrame below
  | forFrameDevices m =>
      obtain ⟨rfl, below⟩ := gives_of_after after
      exact (owning_gives_cons rfl below).trans owning_nil
  | prepareFrameDevices m items devices =>
      obtain ⟨rfl, below⟩ := gives_of_after after
      exact owning_prepareFrameDevices below
  | updateDataFrameStream m device deviceConnected =>
      obtain ⟨rfl, below⟩ := under_of_after after
      exact owning_updateDataFrameStream below
  | cancelDataFrameStream m reopen =>
      cases reopen with
      | true | false =>
          obtain ⟨rfl, below⟩ := under_of_after after
          exact (owning_under_cons rfl below).trans owning_nil
  | removeDataFrameStream m reopen =>
      cases reopen with
      | true | false =>
          obtain ⟨rfl, below⟩ := under_of_after after
          exact owning_removeDataFrameStream rfl below
  | deviceEventProcessor event =>
      obtain ⟨rfl, below⟩ := under_of_after after
      exact owning_deviceEventProcessor below
  | forDataManagers device deviceConnected =>
      obtain ⟨rfl, below⟩ := gives_of_after after
      refine owning_loop below fun i member => ?_
      obtain ⟨m, -, rfl⟩ := List.mem_map.mp member
      exact ⟨2, by decide, rfl⟩
  | updateStreams m device deviceConnected =>
      obtain ⟨rfl, below⟩ := under_of_after after
      exact owning_updateStreams below
  | requestBaseStationData | createWirelessManager =>
      obtain ⟨rfl, below⟩ := under_of_after after
      exact owning_opens rfl rfl rfl below
  | channelMonitor states =>
      obtain ⟨rfl, below⟩ := under_of_after after
      exact owning_channelMonitor below
  | forBaseStationStorages | forWirelessManagers =>
      obtain ⟨rfl, below⟩ := gives_of_after after
      refine owning_loop below fun i member => ?_
      obtain ⟨owner, -, rfl⟩ := List.mem_map.mp member
      exact ⟨3, by decide, rfl⟩
  | _ => exact absurd rfl simple

end Uses

end Instr

/-- What the proof of the order asks of a step: a clean-up leaves its loop. -/
def Returns (w : ClientManager) (instr : Instr) (orders : Orders) : Prop :=
  ∀ c, instr = .deleteCallData c → w.hangsIn orders.streams c = none

/-- **The client takes its mutexes in order.** -/
theorem lockOrder_client :
    Threads.LockOrder clientSemantics Mutex.rank Instr.lockUse Returns where
  keeps := fun orders w instr own own' returns after => Instr.keeps_lockUse returns after
  takes := by
    intro orders w instr own own' after x member y owned
    cases instr with
    | lock mutex =>
        obtain ⟨-, below⟩ := Instr.takes_of_after after
        cases List.mem_singleton.mp member
        exact below y owned
    | deleteCallData c =>
        obtain ⟨-, below⟩ := Instr.under_of_after after
        exact absurd (below y owned) (Nat.not_lt_zero _)
    | cancelAllDataStreams m | clearDataStreams m | dataStreamExists m device
    | addDataStream m deviceId callData | cancelDataStream m deviceId
    | removeDataStream m deviceId =>
        obtain ⟨-, below⟩ := Instr.under_of_after after
        cases List.mem_singleton.mp member
        exact below y owned
    | _ => cases member
  gives := by
    intro instr own own' x after unlocks
    cases instr with
    | unlock mutex =>
        obtain ⟨rfl, -⟩ := Instr.gives_of_after after
        cases unlocks
        exact List.mem_cons_self
    | _ => cases unlocks
  waits := by
    intro w instr own own' after enabled
    cases instr with
    | deleteCallData c =>
        obtain ⟨-, below⟩ := Instr.under_of_after after
        exact List.eq_nil_iff_forall_not_mem.mpr fun y owned =>
          absurd (below y owned) (Nat.not_lt_zero _)
    | hang => cases after
    | _ => cases enabled

/-! ## The end of every run -/

namespace Instr

/-- How many functions of the source may still be entered below one another. -/
def depth : Instr → Nat
  | openTrackingDeviceDataStream _ _ | isStorageAvailable _ _ | removeDataStream _ _
  | openDataFrameStream _ _ | openBaseStationDataStream _ | openWirelessManagementStream _
  | openTrackingDevicesEventStream | deleteCallData _ => 1
  | dataStreamExists _ _ | cancelDataStream _ _ | prepareFrameDevices _ _ _
  | reopenBaseStationStream _ | reopenWirelessStream _ | requestBaseStationData
  | createWirelessManager => 2
  | updateDeviceDataStream _ _ _ | forFrameDevices _ | forBaseStationStorages
  | forWirelessManagers => 3
  | forConnectedDevices _ | openDataFrame _ | channelMonitor _ => 4
  | openDeviceDataStream _ | removeDataFrameStream _ _ => 5
  | emplaceManager _ _ | cancelDataFrameStream _ _ => 6
  | requestDeviceData _ | requestDataFrame _ | closeRequest _ | updateDataFrameStream _ _ _ => 7
  | updateStreams _ _ _ => 8
  | forDataManagers _ _ => 9
  | deviceEventProcessor _ => 10
  | _ => 0

/-- What is left of the loops that go over their data one by one. -/
def left : Instr → Nat
  | prepareFrameDevices _ items _ => items.length
  | channelMonitor states => states.length
  | _ => 0

/-- An instruction is replaced by those of less depth, or by its own loop with less left. -/
def smaller : Instr → Instr → Prop :=
  InvImage (Prod.Lex (· < ·) (· < ·)) fun instr => (instr.depth, instr.left)

theorem wellFounded_smaller : WellFounded smaller :=
  InvImage.wf _ (WellFounded.prod_lex Nat.lt_wfRel.wf Nat.lt_wfRel.wf)

variable {orders : Orders} {w : ClientManager} {instr : Instr}

theorem smaller_of_depth {i : Instr} (less : i.depth < instr.depth) : smaller i instr := Prod.Lex.left _ _ less

theorem smaller_of_left {i : Instr} (same : i.depth = instr.depth) (less : i.left < instr.left) :
    smaller i instr := by
  show Prod.Lex (· < ·) (· < ·) (i.depth, i.left) (instr.depth, instr.left)
  rw [same]
  exact Prod.Lex.right _ less

theorem next_of_depth_zero (none : instr.depth = 0) : instr.next orders w = [] := by
  cases instr <;> first | rfl | cases none

theorem smaller_of_next : ∀ i ∈ instr.next orders w, smaller i instr := by
  intro i member
  have inner : 0 < instr.depth := by
    rw [Nat.pos_iff_ne_zero]
    intro none
    rw [next_of_depth_zero none] at member
    cases member
  cases follows_of_next member with
  | lock mutex | unlock mutex => exact smaller_of_depth inner
  | preparedDevice held requested => exact smaller_of_left rfl (Nat.lt_succ_self _)
  | skippedDevice m item rest devices => exact smaller_of_left rfl (Nat.lt_succ_self _)
  | nextState state states => exact smaller_of_left rfl (Nat.lt_succ_self _)
  | _ => exact smaller_of_depth (by simp only [depth, Nat.reduceLT, Nat.zero_lt_succ])

end Instr

/-! ## The client -/

/-- A clean-up has met its call first in a map that does not hold it where it looks. -/
def ClientThreads.Hung (s : ClientThreads) : Prop :=
  ∃ (t : Nat) (rest : List Instr), s.programs[t]? = some (.hang :: rest)

section Clients

variable {s s' : ClientThreads} {label : Nat × Orders} {queue : List Completion}
  {states : List ChannelState} {users : List (List UserCall)}

theorem ClientThreads.Hung.step (hung : s.Hung) (stepped : s.step label = some s') : s'.Hung := by
  obtain ⟨t, rest, current⟩ := hung
  refine ⟨t, rest, ?_⟩
  rw [Threads.step_other stepped, current]
  rintro rfl
  obtain ⟨instr, rest', here, enabled, -⟩ := Threads.step_cases stepped
  rw [current] at here
  cases here
  cases enabled

/-- The threads hold what they own, unless one of them hangs. -/
theorem holding_of_reached
    (reached : Reached ClientThreads.step (fun _ _ => True) (clientThreads queue states users) s) :
    Threads.Holding Mutex.rank Instr.lockUse s ∨ s.Hung := by
  refine reached.invariant (fun s => Threads.Holding Mutex.rank Instr.lockUse s ∨
    ClientThreads.Hung s) (.inl ?_) ?_
  · refine Threads.holding_start rfl fun program found instr member => ?_
    rcases List.mem_cons.mp found with rfl | found
    · obtain ⟨completion, -, rfl⟩ := List.mem_map.mp member
      cases completion <;> exact ⟨_, rfl⟩
    · rcases List.mem_cons.mp found with rfl | found
      · cases List.mem_singleton.mp member
        exact ⟨_, rfl⟩
      · obtain ⟨calls, -, rfl⟩ := List.mem_map.mp found
        obtain ⟨call, -, rfl⟩ := List.mem_map.mp member
        cases call <;> exact ⟨_, rfl⟩
  · rintro s s' label (holding | hung) - stepped
    · by_cases returns : ∀ instr rest, s.programs[label.1]? = some (instr :: rest) →
          Returns s.shared instr label.2
      · exact .inl (holding.step lockOrder_client returns stepped)
      · -- What is left of the clean-up is the loop that it does not leave.
        simp only [not_forall] at returns
        obtain ⟨instr, rest, current, loops⟩ := returns
        obtain ⟨c, instrIs, hangs⟩ : ∃ c, instr = .deleteCallData c ∧
            s.shared.hangsIn label.2.streams c ≠ none := by simpa [Returns] using loops
        subst instrIs
        refine .inr ⟨label.1, rest, ?_⟩
        rw [Threads.step_own stepped current]
        have stays : (s.shared.hangsIn label.2.streams c).isSome := Option.isSome_iff_ne_none.mpr hangs
        simp only [clientSemantics, Instr.next, stays, if_true, List.cons_append, List.nil_append]
    · exact .inr (hung.step stepped)

/-- Calls are deleted by the completion queue thread only. -/
theorem deletes_of_reached
    (reached : Reached ClientThreads.step (fun _ _ => True) (clientThreads queue states users) s) :
    ∀ t program, s.programs[t]? = some program → t = 0 ∨ ∀ instr ∈ program, instr.deletes = none := by
  refine reached.invariant (fun s => ∀ t program, s.programs[t]? = some program →
    t = 0 ∨ ∀ instr ∈ program, instr.deletes = none) ?_ ?_
  · intro t program found
    cases t with
    | zero => exact .inl rfl
    | succ t =>
        refine .inr fun instr member => ?_
        change ([Instr.channelMonitor states] :: _)[t]? = some program at found
        rcases List.mem_cons.mp (List.mem_of_getElem? found) with rfl | user
        · cases List.mem_singleton.mp member
          rfl
        · obtain ⟨calls, -, rfl⟩ := List.mem_map.mp user
          obtain ⟨call, -, rfl⟩ := List.mem_map.mp member
          cases call <;> rfl
  · intro s s' label shaped _ stepped
    refine Threads.shaped_step clientSemantics
      (fun t program => t = 0 ∨ ∀ instr ∈ program, instr.deletes = none) ?_ shaped stepped
    rintro t w instr rest orders (first | none) -
    · exact .inl first
    · refine .inr fun i member => ?_
      rcases List.mem_append.mp member with new | old
      · exact deletes_of_next i new
      · exact none i (List.mem_cons_of_mem _ old)

/-- **The threads return.**  Whatever requests, closings, device events, channel states
and ends of calls there are, the threads do not go on for ever, and where none of them can go on
nothing is held and they have all come to their end, but for a completion queue that waits for a call
to fail which has not been opened or is deleted.  The exception is a clean-up that hangs. -/
theorem calls_return
    (reached : Reached ClientThreads.step (fun _ _ => True) (clientThreads queue states users) s) :
    (¬ ∃ run : Nat → ClientThreads, run 0 = s ∧
      ∀ n, ∃ label, (run n).step label = some (run (n + 1))) ∧
    ((∀ label, s.step label = none) → s.Hung ∨
      s.held = [] ∧ ∀ t program, s.programs[t]? = some program → program = [] ∨
        t = 0 ∧ ∃ c rest, program = .deleteCallData c :: rest ∧
          ∀ call, s.shared.calls[c]? = some call → call.deleted = true) := by
  constructor
  · rintro ⟨run, -, steps⟩
    have wf : WellFounded fun s' s : ClientThreads => ∃ label, s.step label = some s' :=
      Threads.wellFounded_step Instr.wellFounded_smaller fun orders w instr => Instr.smaller_of_next
    exact (wellFounded_iff_isEmpty_descending_chain.mp wf).false ⟨run, steps⟩
  · intro stuck
    rcases holding_of_reached reached with holding | hung
    · have bounded : ∀ x, Mutex.rank x ≤ 3 := by
        intro x
        cases x <;> simp only [Mutex.rank, Nat.reduceLeDiff, le_refl]
      obtain ⟨free, waiting⟩ := Threads.holding_stuck lockOrder_client bounded Orders.stored holding
        fun t => stuck (t, .stored)
      by_cases hung : s.Hung
      · exact .inl hung
      refine .inr ⟨free, fun t program found => ?_⟩
      cases program with
      | nil => exact .inl rfl
      | cons instr rest =>
          have waits : instr.enabled s.shared = false := waiting t instr rest found
          cases instr with
          | deleteCallData c =>
              rcases deletes_of_reached reached t _ found with first | none
              · refine .inr ⟨first, c, rest, rfl, fun call opened => ?_⟩
                simpa [Instr.enabled, opened] using waits
              · have kept := none _ List.mem_cons_self
                cases kept
          | hang => exact absurd ⟨t, rest, found⟩ hung
          | _ => cases waits
    · exact .inl hung

/-- A device is plugged in while there is a data frame stream, and the completion queue thread holds
both mutexes. -/
theorem calls_return_both :
    ∃ s, Reached ClientThreads.step (fun _ _ => True)
        (clientThreads [.deviceEvent { device := { siuUuid := 1, portId := 2 }, connected := true }] []
          [[.requestDataFrame default]]) s ∧
      s.held = [.connectedDevices, .dataManagerList] ∧
      (¬ ∃ run : Nat → ClientThreads, run 0 = s ∧
        ∀ n, ∃ label, (run n).step label = some (run (n + 1))) ∧
      ((∀ label, s.step label = none) → s.Hung ∨
        s.held = [] ∧ ∀ t program, s.programs[t]? = some program → program = [] ∨
          t = 0 ∧ ∃ c rest, program = .deleteCallData c :: rest ∧
            ∀ call, s.shared.calls[c]? = some call → call.deleted = true) := by
  have executed : (script ClientThreads.step
      ((List.replicate 11 2 ++ List.replicate 12 0).map fun i => (i, Orders.stored))
      (clientThreads [.deviceEvent { device := { siuUuid := 1, portId := 2 }, connected := true }] []
        [[.requestDataFrame default]])).any (fun s => s.held = [.connectedDevices, .dataManagerList]) =
      true := by decide
  obtain ⟨s, executed, held⟩ := (Option.any_eq_true _ _).mp executed
  have reached := Reached.of_any _ executed
  exact ⟨s, reached, of_decide_eq_true held, calls_return reached⟩

end Clients

end OmmoSdk.Client
