/-
# Client.Availability — which devices a request is said to have

`GetAvailableDeviceList` lists the devices of a request that have a storage.  `Board` is what all
of the storages amount to: the devices that are connected, and for each open tag the devices it is
offered.  A board takes note of the operations alone; it knows of no streams, no storages and no
kinds of requests.

Every run of a context follows the board (`shows_of_reached`), so a user is listed exactly the
devices on it (`devices_listed`), and as long as the channel is not lost the connected devices of
the request (`devices_listed_connected`).
-/
import OmmoSdk.Client.StorageKeys
import OmmoSdk.Theory.Presence

namespace OmmoSdk.Client

open OmmoSdk.Theory
open OmmoSdk.Sdk
open OmmoSdk.Storage

set_option autoImplicit false

/-! ## The board -/

/-- What the listings of a context amount to: who is connected, what the open tags are offered,
what was last seen of the channel, and the next tag. -/
structure Board where
  presence : Presence UInt32 DataRequest DeviceID
  channelState : Option ChannelState
  tagSource : UInt32

namespace Board

/-- No requested devices means all devices. -/
def names (request : DataRequest) (deviceId : DeviceID) : Bool :=
  request.requestedDevices.isEmpty || request.requestedDevices.contains deviceId

def empty : Board := ⟨.empty, none, 1⟩

def ask (b : Board) (request : DataRequest) : Board :=
  { b with
    presence := b.presence.ask names b.tagSource request
    tagSource := b.tagSource + 1 }

/-- What an operation means for the board.  Nothing else than this is known of the context. -/
def note (b : Board) (_ : DataContext) (label : DataContext.Operation × Orders) : Board :=
  match label.1 with
  | .requestDeviceData request => b.ask request
  | .requestDataFrame request => b.ask request
  | .closeRequest requestTag => { b with presence := b.presence.withdraw requestTag }
  | .baseStation .requestBaseStationData => { b with tagSource := b.tagSource + 1 }
  | .client (.registry (.deviceEvent event)) =>
      { b with
        presence := b.presence.see names ⟨event.device.siuUuid, event.device.portId⟩
          event.connected }
  | .client (.observeChannel state) =>
      { b with
        presence :=
          if b.channelState = some .ready ∧ state ≠ .ready then b.presence.lose else b.presence
        channelState := some state }
  | _ => b

theorem isDeviceDataRequested_eq (manager : DataManager) (deviceId : DeviceID) :
    manager.isDeviceDataRequested deviceId = names manager.request deviceId := by
  unfold DataManager.isDeviceDataRequested names
  cases listed : manager.request.requestedDevices with
  | nil => rfl
  | cons first rest =>
      simp only [List.length_cons, Nat.succ_ne_zero, if_false, List.isEmpty_cons, Bool.false_or,
        List.contains_eq_any_beq]
      congr 1
      funext requested
      obtain ⟨siu, port⟩ := requested
      obtain ⟨siu', port'⟩ := deviceId
      rw [Bool.eq_iff_iff]
      simp only [Bool.and_eq_true, decide_eq_true_eq, beq_iff_eq, DeviceID.mk.injEq]

/-! ### Keys and devices -/

/-- The devices with ports of eight bits that have the keys. -/
def Lists (keys : UInt64 → Prop) (ids : Finset DeviceID) : Prop :=
  ∀ id, id ∈ ids ↔ id.portId.toNat < 256 ∧ keys id.hash

variable {keys keys' : UInt64 → Prop} {ids : Finset DeviceID}

theorem Lists.congr (lists : Lists keys ids) (same : ∀ key, keys key ↔ keys' key) :
    Lists keys' ids := fun id => by rw [lists, same]

theorem lists_empty (none : ∀ key, ¬ keys key) : Lists keys ∅ := fun id =>
  ⟨fun member => absurd member (Finset.notMem_empty id), fun both => absurd both.2 (none _)⟩

/-- A device comes or goes under its key. -/
theorem Lists.see {device : DeviceID} {now : Bool} (lists : Lists keys ids)
    (port : device.portId.toNat < 256) :
    Lists (fun key => if key = device.hash then now = true else keys key)
      (if now then insert device ids else ids.erase device) := by
  intro id
  have mem : id ∈ (if now then insert device ids else ids.erase device) ↔
      if id = device then now = true else id ∈ ids := by
    by_cases same : id = device
    · subst same
      cases now <;> simp
    · cases now <;> simp [same]
  rw [mem]
  by_cases same : id = device
  · subst same
    simp [port]
  · rw [if_neg same, lists]
    show _ ↔ _ ∧ (if id.hash = device.hash then now = true else keys id.hash)
    by_cases hashed : id.hash = device.hash
    · rw [if_pos hashed]
      exact ⟨fun both => absurd (hash_injective both.1 port hashed) same,
        fun both => absurd (hash_injective both.1 port hashed) same⟩
    · rw [if_neg hashed]

theorem Lists.filter (lists : Lists keys ids) (named : DeviceID → Bool)
    (same : ∀ id, id.portId.toNat < 256 → keys id.hash → (keys' id.hash ↔ named id = true))
    (inside : ∀ key, keys' key → keys key) : Lists keys' (ids.filter fun id => named id) := by
  intro id
  rw [Finset.mem_filter, lists]
  constructor
  · rintro ⟨⟨port, there⟩, kept⟩
    exact ⟨port, (same id port there).mpr kept⟩
  · rintro ⟨port, there⟩
    have before := inside _ there
    exact ⟨⟨port, before⟩, (same id port before).mp there⟩

end Board

namespace ClientManager

open Board (names Lists)

/-- A manager on the list does what an offer says. -/
structure Offered (w : ClientManager) (m : ManagerId) (offer : Offer DataRequest DeviceID) :
    Prop where
  listed : m ∈ w.dataManagerList
  held : ∃ manager, w.dataManagers[m]? = some manager ∧ manager.request = offer.request
  available : Lists (w.HoldsStorage m) offer.available

variable {w w' : ClientManager} {m : ManagerId} {offer : Offer DataRequest DeviceID}
  {holds : ManagerId → UInt64 → Prop}

theorem Offered.asks (offered : Offered w m offer) (deviceId : DeviceID) :
    w.Asks m deviceId ↔ names offer.request deviceId = true := by
  obtain ⟨manager, held, same⟩ := offered.held
  rw [← same, ← Board.isDeviceDataRequested_eq]
  constructor
  · rintro ⟨manager', held', asked⟩
    rw [held] at held'
    cases held'
    exact asked
  · exact fun asked => ⟨manager, held, asked⟩

/-- What a manager is offered after a step. -/
theorem Alters.offered {available : Finset DeviceID} (alters : Alters w w' holds)
    (offered : Offered w m offer) (lists : Lists (holds m) available) :
    Offered w' m ⟨offer.request, available⟩ where
  listed := alters.list ▸ offered.listed
  held := by
    obtain ⟨manager, held, same⟩ := offered.held
    have header := alters.headers m
    rw [held, Option.map_some] at header
    obtain ⟨manager', held', header⟩ := Option.map_eq_some_iff.mp header
    exact ⟨manager', held', (congrArg Prod.snd header).trans same⟩
  available := lists.congr fun key => (alters.holds m key).symm

theorem Still.offered (still : Still w w') (offered : Offered w m offer) : Offered w' m offer :=
  still.alters.offered offered offered.available

/-! ### Requests -/

variable {order : IterationOrder DeviceDescriptor} {request : DataRequest} {kind : DataStreamType}
  {present : Finset DeviceID}

theorem request_init : (DataManager.init request kind).request = request := by
  cases request
  simp [DataManager.init, copyDataRequest, copyArray_eq]

theorem Offered.made (offered : Offered w m offer) : m ≠ w.dataManagers.length := by
  rintro rfl
  obtain ⟨manager, held, -⟩ := offered.held
  rw [List.getElem?_eq_none (Nat.le_refl _)] at held
  cases held

/-- The other managers keep what they have. -/
theorem Offered.requested (offered : Offered w m offer) (equipped : Equipped w) :
    Offered (requested order w request kind) m offer := by
  have alters := alters_requested order request kind equipped.plugged
  have before : Offered (w.emplaceManager request kind).1 m offer := by
    refine ⟨List.mem_append_left _ offered.listed, ?_, ?_⟩
    · rw [older_emplaceManager offered.made]
      exact offered.held
    · exact offered.available.congr fun key => (holdsStorage_emplaceManager m key).symm
  refine alters.offered before (offered.available.congr fun key => ?_)
  exact ⟨.inl, fun either => either.resolve_right fun new => offered.made new.1⟩

/-- A new manager has the connected devices that its request names. -/
theorem offered_requested (equipped : Equipped w)
    (lists : Lists (· ∈ w.connectedDevices) present) :
    Offered (requested order w request kind) w.dataManagers.length
      ⟨request, present.filter fun id => names request id⟩ := by
  have alters := alters_requested order request kind equipped.plugged
  have before : Offered (w.emplaceManager request kind).1 w.dataManagers.length ⟨request, ∅⟩ := by
    refine ⟨List.mem_append_right _ List.mem_cons_self, ⟨_, held_emplaceManager, request_init⟩,
      ?_⟩
    refine Board.lists_empty fun key => ?_
    rw [holdsStorage_emplaceManager]
    rintro ⟨manager, held, -⟩
    rw [List.getElem?_eq_none (Nat.le_refl _)] at held
    cases held
  refine alters.offered before ?_
  have due : Lists ((w.emplaceManager request kind).1.Due w.dataManagers.length)
      (present.filter fun id => names request id) := by
    refine lists.filter _ (fun id port there => ?_) fun key due => ?_
    · obtain ⟨device, found⟩ := Option.isSome_iff_exists.mp (AList.lookup_isSome.mpr there)
      have same : device.id = id := hash_injective (equipped.plugged.narrow _ device found) port
        (equipped.plugged.keyed _ device found)
      have asks : (w.emplaceManager request kind).1.Asks w.dataManagers.length id ↔
          names request id = true := by
        rw [asks_emplaceManager, Board.isDeviceDataRequested_eq, request_init]
      rw [← asks]
      constructor
      · rintro ⟨device', found', asked⟩
        have found' : w.connectedDevices.lookup id.hash = some device' := found'
        rw [found] at found'
        cases found'
        exact same ▸ asked
      · exact fun asked => ⟨device, found, same.symm ▸ asked⟩
    · obtain ⟨device, found, -⟩ := due
      have found : w.connectedDevices.lookup key = some device := found
      exact AList.lookup_isSome.mp (by rw [found]; rfl)
  refine due.congr fun key => ⟨fun owed => .inr ⟨rfl, owed⟩, ?_⟩
  rintro (⟨manager, held, -⟩ | ⟨-, owed⟩)
  · rw [List.getElem?_eq_none (Nat.le_refl _)] at held
    cases held
  · exact owed

/-! ### Device events -/

theorem Offered.deviceEvent {event : Proto.TrackingDeviceEvent} (offered : Offered w m offer)
    (equipped : Equipped w) (port : event.device.portId.toNat < 256) :
    Offered (deviceEventProcessor order w event) m
      (offer.see names ⟨event.device.siuUuid, event.device.portId⟩ event.connected) := by
  have alters := alters_deviceEventProcessor order equipped event port
  have before : Offered (w.recordDevice (protoToDeviceDescriptor event.device) event.connected) m
      offer := by
    obtain ⟨connected, same⟩ :=
      recordDevice_frame w (protoToDeviceDescriptor event.device) event.connected
    rw [same]
    exact ⟨offered.listed, offered.held, offered.available⟩
  have asks := offered.asks ⟨event.device.siuUuid, event.device.portId⟩
  unfold Offer.see
  split
  · rename_i named
    have asked := asks.mpr named
    refine alters.offered before ((offered.available.see port).congr fun key => ?_)
    have hashed : (protoToDeviceDescriptor event.device).hash =
        (⟨event.device.siuUuid, event.device.portId⟩ : DeviceID).hash := rfl
    have own : w.Asks m (protoToDeviceDescriptor event.device).id := asked
    simp only [Told, offered.listed, own, true_and, hashed]
    by_cases same : key = (⟨event.device.siuUuid, event.device.portId⟩ : DeviceID).hash
    · cases event.connected <;> simp [same]
    · cases event.connected <;> simp [same]
  · rename_i unnamed
    have unasked : ¬ w.Asks m (protoToDeviceDescriptor event.device).id := fun asked =>
      unnamed (asks.mp asked)
    refine alters.offered before (offered.available.congr fun key => ?_)
    simp [Told, unasked]

/-! ### Closing -/

theorem Offered.closeRequest {m' : ManagerId} (offered : Offered w m offer) (other : m ≠ m') :
    Offered (w.closeRequest m') m offer := by
  have kept : RequestsKept w (w.closeRequest m') := kept_closeRequest
  have list : m ∈ (w.closeRequest m').dataManagerList := by
    have calls : ∀ f, (w.onCalls m' f).dataManagerList = w.dataManagerList := by
      intro f
      unfold ClientManager.onCalls
      split <;> rfl
    unfold ClientManager.closeRequest
    split
    · exact offered.listed
    · split <;>
      · refine (List.mem_erase_of_ne other).mpr ?_
        exact (calls _).symm ▸ offered.listed
  refine ⟨list, ?_, ?_⟩
  · obtain ⟨manager, held, same⟩ := offered.held
    have inside : m < (w.closeRequest m').dataManagers.length := by
      rw [kept.count]
      exact (List.getElem?_eq_some_iff.mp held).1
    obtain ⟨manager', held', header, -⟩ :=
      kept.managers m _ (List.getElem?_eq_getElem inside)
    rw [held] at held'
    cases held'
    exact ⟨_, List.getElem?_eq_getElem inside, (congrArg Prod.snd header).trans same⟩
  · refine offered.available.congr fun key => ?_
    rw [holdsStorage_iff, holdsStorage_iff, storageAt_kept kept]

end ClientManager

namespace DataContext

open Board (names Lists)

/-! ## Runs follow the board -/

/-- `GetAvailableDeviceList`. -/
def getAvailableDeviceList (c : DataContext) (requestTag : UInt32) : List DeviceID :=
  match c.manager requestTag with
  | some manager => manager.getDeviceStorageList
  | none => []

/-- Requests are closed through the context, and the ports of the devices have eight bits. -/
def through (label : Operation × Orders) : Bool :=
  match label.1 with
  | .client (.registry (.closeRequest _)) => false
  | .client (.registry (.deviceEvent event)) => event.device.portId.toNat < 256
  | _ => true

/-- And the channel is not lost. -/
def throughUnlost (s : DataContext × Board) (label : Operation × Orders) : Bool :=
  match label.1 with
  | .client (.observeChannel state) =>
      ¬ (s.1.clientManager.previousChannelState = some .ready ∧ state ≠ .ready)
  | _ => through label

/-- The context is as the board says. -/
structure Shows (c : DataContext) (b : Board) : Prop where
  equipped : c.clientManager.Equipped
  connected : Lists (· ∈ c.clientManager.connectedDevices) b.presence.present
  channel : c.clientManager.previousChannelState = b.channelState
  tagSource : c.dataManagersTagSource = b.tagSource
  offers : ∀ tag, Option.Rel c.clientManager.Offered (c.dataManagers.lookup tag)
    (b.presence.offers tag)
  apart : ∀ tag tag' m, c.dataManagers.lookup tag = some m →
    c.dataManagers.lookup tag' = some m → tag = tag'
  fair : b.presence.Fair names

section Showing

variable {c c' : DataContext} {b b' : Board} {label : Operation × Orders} {w : ClientManager}
  {order : IterationOrder DeviceDescriptor} {request : DataRequest} {kind : DataStreamType}

theorem shows_init : Shows init .empty where
  equipped := ClientManager.equipped_init
  connected := Board.lists_empty fun key member => by cases member
  channel := rfl
  tagSource := rfl
  offers _ := .none
  apart tag tag' m held := by cases held
  fair := Presence.fair_empty

theorem rel_map {α β β' : Type} {R : α → β → Prop} {R' : α → β' → Prop} {f : β → β'}
    {x : Option α} {y : Option β} (rel : Option.Rel R x y) (each : ∀ a b, x = some a → R a b →
      R' a (f b)) : Option.Rel R' x (y.map f) := by
  cases rel with
  | none => exact .none
  | some related => exact .some (each _ _ rfl related)

theorem rel_imp {α β : Type} {R R' : α → β → Prop} {x : Option α} {y : Option β}
    (rel : Option.Rel R x y) (each : ∀ a b, x = some a → R a b → R' a b) : Option.Rel R' x y := by
  cases rel with
  | none => exact .none
  | some related => exact .some (each _ _ rfl related)

theorem Shows.still (shows : Shows c b)
    (still : ClientManager.Still c.clientManager c'.clientManager)
    (managers : c'.dataManagers = c.dataManagers) (presence : b'.presence = b.presence)
    (channel : b'.channelState = b.channelState)
    (tagSource : c'.dataManagersTagSource = b'.tagSource) : Shows c' b' where
  equipped := shows.equipped.still still
  connected := by
    rw [still.alters.connected, presence]
    exact shows.connected
  channel := by rw [still.channel, shows.channel, channel]
  tagSource := tagSource
  offers tag := by
    rw [managers, presence]
    exact rel_imp (shows.offers tag) fun m offer _ offered => still.offered offered
  apart := by
    rw [managers]
    exact shows.apart
  fair := presence ▸ shows.fair

/-- A request through the context. -/
theorem shows_register (kind : DataStreamType) (shows : Shows c b) :
    Shows (c.register (ClientManager.requested order c.clientManager request kind)
      c.clientManager.dataManagers.length).1 (b.ask request) where
  equipped := ClientManager.equipped_requested shows.equipped
  connected := by
    have alters := ClientManager.alters_requested order request kind shows.equipped.plugged
    show Lists (· ∈ (ClientManager.requested order c.clientManager request kind).connectedDevices) _
    rw [alters.connected]
    exact shows.connected
  channel := ClientManager.channel_requested.trans shows.channel
  tagSource := congrArg (· + 1) shows.tagSource
  offers tag := by
    show Option.Rel _ ((c.dataManagers.insert c.dataManagersTagSource _).lookup tag)
      ((b.presence.ask names b.tagSource request).offers tag)
    rw [Presence.offers_ask, shows.tagSource]
    by_cases own : tag = b.tagSource
    · rw [own, AList.lookup_insert, if_pos rfl]
      exact .some (ClientManager.offered_requested shows.equipped shows.connected)
    · rw [AList.lookup_insert_ne own, if_neg own]
      exact rel_imp (shows.offers tag) fun m offer _ offered => offered.requested shows.equipped
  apart tag tag' m held held' := by
    -- The new manager has no other tag.
    have older : ∀ tag, c.dataManagers.lookup tag ≠ some c.clientManager.dataManagers.length := by
      intro tag held
      have offers := shows.offers tag
      rw [held] at offers
      generalize b.presence.offers tag = offer at offers
      cases offers with
      | some offered => exact offered.made rfl
    have held : (c.dataManagers.insert c.dataManagersTagSource _).lookup tag = some m := held
    have held' : (c.dataManagers.insert c.dataManagersTagSource _).lookup tag' = some m := held'
    by_cases own : tag = c.dataManagersTagSource
    · by_cases own' : tag' = c.dataManagersTagSource
      · rw [own, own']
      · rw [own, AList.lookup_insert] at held
        rw [AList.lookup_insert_ne own'] at held'
        cases held
        exact absurd held' (older tag')
    · rw [AList.lookup_insert_ne own] at held
      by_cases own' : tag' = c.dataManagersTagSource
      · rw [own', AList.lookup_insert] at held'
        cases held'
        exact absurd held (older tag)
      · rw [AList.lookup_insert_ne own'] at held'
        exact shows.apart tag tag' m held held'
  fair := shows.fair.ask

/-- A request of the client manager that no tag is for. -/
theorem shows_requested (kind : DataStreamType) (shows : Shows c b) :
    Shows { c with clientManager := ClientManager.requested order c.clientManager request kind }
      b where
  equipped := ClientManager.equipped_requested shows.equipped
  connected := by
    have alters := ClientManager.alters_requested order request kind shows.equipped.plugged
    show Lists (· ∈ (ClientManager.requested order c.clientManager request kind).connectedDevices) _
    rw [alters.connected]
    exact shows.connected
  channel := ClientManager.channel_requested.trans shows.channel
  tagSource := shows.tagSource
  offers tag := by
    exact rel_imp (shows.offers tag) fun m offer _ offered => offered.requested shows.equipped
  apart := shows.apart
  fair := shows.fair

theorem shows_closeRequest (shows : Shows c b) (requestTag : UInt32) :
    Shows (c.closeRequest requestTag) { b with presence := b.presence.withdraw requestTag } := by
  unfold closeRequest
  cases held : c.dataManagers.lookup requestTag with
  | none =>
      refine { shows with offers := fun tag => ?_, fair := shows.fair.withdraw }
      rw [Presence.offers_withdraw]
      by_cases own : tag = requestTag
      · rw [own, held, if_pos rfl]
        exact .none
      · rw [if_neg own]
        exact shows.offers tag
  | some m =>
      have kept : ClientManager.RequestsKept c.clientManager (c.clientManager.closeRequest m) :=
        ClientManager.kept_closeRequest
      refine ⟨shows.equipped.kept kept, ?_, ?_, shows.tagSource, fun tag => ?_,
        fun tag tag' m' here here' => ?_, shows.fair.withdraw⟩
      · show Lists (· ∈ (c.clientManager.closeRequest m).connectedDevices) _
        rw [kept.connected]
        exact shows.connected
      · refine Eq.trans ?_ shows.channel
        have calls : ∀ f, (c.clientManager.onCalls m f).previousChannelState =
            c.clientManager.previousChannelState := by
          intro f
          unfold ClientManager.onCalls
          split <;> rfl
        show (c.clientManager.closeRequest m).previousChannelState = _
        unfold ClientManager.closeRequest
        split
        · rfl
        · split
          · exact calls _
          · exact calls _
      · show Option.Rel _ ((c.dataManagers.erase requestTag).lookup tag) _
        rw [Presence.offers_withdraw]
        by_cases own : tag = requestTag
        · rw [own, AList.lookup_erase, if_pos rfl]
          exact .none
        · rw [AList.lookup_erase_ne own, if_neg own]
          refine rel_imp (shows.offers tag) fun m' offer here offered => offered.closeRequest ?_
          rintro rfl
          exact own (shows.apart tag requestTag m' here held)
      · have here : (c.dataManagers.erase requestTag).lookup tag = some m' := here
        have here' : (c.dataManagers.erase requestTag).lookup tag' = some m' := here'
        have open_of : ∀ {tag}, (c.dataManagers.erase requestTag).lookup tag = some m' →
            c.dataManagers.lookup tag = some m' := by
          intro tag there
          by_cases own : tag = requestTag
          · rw [own, AList.lookup_erase] at there
            cases there
          · rwa [AList.lookup_erase_ne own] at there
        exact shows.apart tag tag' m' (open_of here) (open_of here')

theorem shows_deviceEvent (shows : Shows c b) {event : Proto.TrackingDeviceEvent}
    (port : event.device.portId.toNat < 256) :
    Shows { c with clientManager := ClientManager.deviceEventProcessor order c.clientManager event }
      { b with
        presence := b.presence.see names ⟨event.device.siuUuid, event.device.portId⟩
          event.connected } where
  equipped := ClientManager.equipped_deviceEventProcessor shows.equipped event port
  connected := by
    show Lists
      (· ∈ (ClientManager.deviceEventProcessor order c.clientManager event).connectedDevices) _
    rw [(ClientManager.lists_deviceEventProcessor event).1]
    refine (shows.connected.see port).congr fun key => ?_
    have hashed : (protoToDeviceDescriptor event.device).hash =
        (⟨event.device.siuUuid, event.device.portId⟩ : DeviceID).hash := rfl
    rw [← AList.lookup_isSome, ← AList.lookup_isSome, ClientManager.lookup_recordDevice, ← hashed]
    by_cases own : key = (protoToDeviceDescriptor event.device).hash
    · rw [if_pos own, if_pos own]
      cases event.connected <;> simp
    · rw [if_neg own, if_neg own]
  channel := (ClientManager.channel_deviceEventProcessor event).trans shows.channel
  tagSource := shows.tagSource
  offers tag := rel_map (shows.offers tag) fun m offer _ offered =>
    offered.deviceEvent shows.equipped port
  apart := shows.apart
  fair := shows.fair.see

theorem shows_observeChannel (shows : Shows c b) (state : ChannelState) :
    Shows { c with clientManager := c.clientManager.observeChannel state }
      { b with
        presence :=
          if b.channelState = some .ready ∧ state ≠ .ready then b.presence.lose else b.presence
        channelState := some state } := by
  have channel : (c.clientManager.observeChannel state).previousChannelState = some state :=
    ClientManager.channel_observeChannel state
  by_cases lost : b.channelState = some .ready ∧ state ≠ .ready
  · obtain ⟨connected, managers, list⟩ :=
      ClientManager.observeChannel_lost (shows.channel.trans lost.1) lost.2
    rw [if_pos lost]
    refine ⟨shows.equipped.lost connected managers, ?_, channel, shows.tagSource, fun tag => ?_,
      shows.apart, shows.fair.lose⟩
    · refine Board.lists_empty fun key member => ?_
      have member : key ∈ (c.clientManager.observeChannel state).connectedDevices := member
      rw [connected] at member
      cases member
    · refine rel_imp (shows.offers tag) fun m offer _ offered => ⟨?_, ?_, ?_⟩
      · exact list.symm ▸ offered.listed
      · show ∃ manager, (c.clientManager.observeChannel state).dataManagers[m]? = _ ∧ _
        rw [managers]
        exact offered.held
      · refine offered.available.congr fun key => ?_
        show _ ↔ (c.clientManager.observeChannel state).HoldsStorage m key
        rw [ClientManager.HoldsStorage, ClientManager.HoldsStorage, managers]
  · rw [if_neg lost]
    have alters := ClientManager.alters_observeChannel (w := c.clientManager) state
      (by rw [shows.channel]; exact lost)
    refine ⟨?_, ?_, channel, shows.tagSource, fun tag => ?_, shows.apart, shows.fair⟩
    · refine shows.equipped.kept (ClientManager.kept_observeChannel ?_)
      rw [shows.channel]
      exact lost
    · show Lists (· ∈ (c.clientManager.observeChannel state).connectedDevices) _
      rw [alters.connected]
      exact shows.connected
    · exact rel_imp (shows.offers tag) fun m offer _ offered =>
        alters.offered offered offered.available

/-- What happens to the client manager beside the requests. -/
theorem shows_happen {happening : ClientManager.Happening} {orders : Orders} (shows : Shows c b)
    (passes : through (.client happening, orders) = true)
    (happened : c.clientManager.happen (happening, orders) = some w) :
    Shows { c with clientManager := w } (b.note c (.client happening, orders)) := by
  have still : ClientManager.Still c.clientManager w → Shows { c with clientManager := w } b :=
    fun still => shows.still still rfl rfl rfl shows.tagSource
  replace happened := (ClientManager.performed happened).2
  cases happening with
  | registry operation =>
      cases happened
      cases operation with
      | deviceEvent event => exact shows_deviceEvent shows (of_decide_eq_true passes)
      | requestDeviceData request => exact shows_requested .deviceData shows
      | requestDataFrame request => exact shows_requested .dataFrame shows
      | closeRequest m => cases passes
  | requestBaseStationData =>
      cases happened
      exact still (.kept (.of_eq rfl rfl rfl) rfl rfl)
  | closeBaseStationDataRequest s =>
      have closed : c.clientManager.closeBaseStationDataRequest 1 (some s) = some w := happened
      exact still (ClientManager.still_closeBaseStationDataRequest closed)
  | createWirelessManager =>
      cases happened
      exact still (.kept (.of_eq rfl rfl rfl) rfl rfl)
  | cancelStream i =>
      cases happened
      refine still (.kept (ClientManager.kept_cancelStream i) ?_ ?_) <;>
      · unfold ClientManager.cancelStream
        split <;> rfl
  | failed callData =>
      simp only [ClientManager.perform] at happened
      split at happened
      · cases happened
        exact still (ClientManager.still_failed _ callData _)
      · cases happened
  | observeChannel state =>
      cases happened
      exact shows_observeChannel shows state

theorem shows_baseStation {context : ClientContext} {operation : ClientContext.Operation}
    {orders : Orders} (shows : Shows c b)
    (stepped : c.toClientContext.step operation = some context) :
    Shows { c with toClientContext := context } (b.note c (.baseStation operation, orders)) := by
  cases operation with
  | requestBaseStationData =>
      cases stepped
      simp only [ClientContext.requestBaseStationData]
      split
      · exact shows.still (.kept (.of_eq rfl rfl rfl) rfl rfl) rfl rfl rfl
          (congrArg (· + 1) shows.tagSource)
      · exact shows.still (.refl _) rfl rfl rfl (congrArg (· + 1) shows.tagSource)
  | closeBaseStationDataRequest requestTag =>
      simp only [ClientContext.step, ClientContext.closeBaseStationDataRequest] at stepped
      split at stepped
      · obtain ⟨w, closed, rfl⟩ := Option.map_eq_some_iff.mp stepped
        exact shows.still (ClientManager.still_closeBaseStationDataRequest closed) rfl rfl rfl
          shows.tagSource
      · cases stepped
        exact shows.still (.refl _) rfl rfl rfl shows.tagSource
  | receive callData packet =>
      simp only [ClientContext.step] at stepped
      split at stepped
      · rename_i received
        cases stepped
        exact shows.still (ClientManager.still_receiveBaseStationData received) rfl rfl rfl
          shows.tagSource
      · cases stepped

/-- **One step.** -/
theorem shows_step (shows : Shows c b) (passes : through label = true)
    (stepped : c.step label = some c') : Shows c' (b.note c label) := by
  obtain ⟨operation, orders⟩ := label
  replace stepped := (performed stepped).2
  cases operation with
  | requestDeviceData request =>
      cases stepped
      exact shows_register .deviceData shows
  | requestDataFrame request =>
      cases stepped
      exact shows_register .dataFrame shows
  | closeRequest requestTag =>
      cases stepped
      exact shows_closeRequest shows requestTag
  | baseStation operation =>
      obtain ⟨after, moved, rfl⟩ := Option.map_eq_some_iff.mp stepped
      exact shows_baseStation shows moved
  | client happening =>
      obtain ⟨w, happened, rfl⟩ := Option.map_eq_some_iff.mp stepped
      exact shows_happen shows passes happened
  | receiveTrackingDeviceData callData packet =>
      simp only [perform, received] at stepped
      split at stepped
      · rename_i done
        cases stepped
        exact shows.still (ClientManager.still_receiveTrackingDeviceData shows.equipped done) rfl rfl
          rfl shows.tagSource
      · cases stepped
  | receiveDataFrame callData packet =>
      simp only [perform, received] at stepped
      split at stepped
      · rename_i done
        cases stepped
        exact shows.still (ClientManager.still_receiveDataFrame shows.equipped done) rfl rfl rfl
          shows.tagSource
      · cases stepped

/-- **The contexts follow the board.** -/
theorem shows_of_reached (reached : Reached (recorded step Board.note)
    (fun _ label => through label = true) (init, .empty) (c, b)) : Shows c b := by
  refine reached.invariant (fun s => Shows s.1 s.2) shows_init ?_
  rintro ⟨c, b⟩ ⟨c', b'⟩ label shows passes stepped
  obtain ⟨after, run, same⟩ := Option.map_eq_some_iff.mp stepped
  cases same
  exact shows_step shows passes run

/-- A board stays exact until the channel is lost. -/
theorem exact_note (exactly : b.presence.Exact names) (shows : Shows c b)
    (passes : throughUnlost (c, b) label = true) : (b.note c label).presence.Exact names := by
  obtain ⟨operation, orders⟩ := label
  cases operation with
  | requestDeviceData request => exact exactly.ask
  | requestDataFrame request => exact exactly.ask
  | closeRequest requestTag => exact exactly.withdraw
  | baseStation operation => cases operation <;> exact exactly
  | client happening =>
      cases happening with
      | registry operation =>
          cases operation with
          | deviceEvent event => exact exactly.see
          | _ => exact exactly
      | observeChannel state =>
          have unlost := of_decide_eq_true passes
          rw [shows.channel] at unlost
          show Presence.Exact names (if _ then _ else _)
          rw [if_neg unlost]
          exact exactly
      | _ => exact exactly
  | _ => exact exactly

theorem through_of_unlost {s : DataContext × Board} (passes : throughUnlost s label = true) :
    through label = true := by
  unfold throughUnlost at passes
  split at passes
  · rename_i state operation
    unfold through
    rw [operation]
  · exact passes

/-- The listing of a manager. -/
theorem listing_of_equipped {m : ManagerId} {manager : DataManager}
    (equipped : w.Equipped) (held : w.dataManagers[m]? = some manager) :
    manager.getDeviceStorageList.Nodup ∧ ∀ deviceId, deviceId ∈ manager.getDeviceStorageList ↔
      deviceId.portId.toNat < 256 ∧ w.HoldsStorage m deviceId.hash := by
  obtain ⟨once, listed⟩ := DataManager.getDeviceStorageList_spec fun key storage found =>
    equipped.proper m key storage (by rw [ClientManager.storageAt, held, Option.bind_some, found])
  refine ⟨once, fun deviceId => ?_⟩
  rw [listed, ← Option.isSome_iff_ne_none, AList.lookup_isSome]
  refine and_congr_right fun _ => ⟨fun member => ⟨manager, held, member⟩, ?_⟩
  rintro ⟨manager', held', member⟩
  rw [held] at held'
  cases held'
  exact member

/-- A tag is listed what it is offered. -/
theorem Shows.listed (shows : Shows c b) (requestTag : UInt32) :
    (c.getAvailableDeviceList requestTag).Nodup ∧ ∀ deviceId,
      deviceId ∈ c.getAvailableDeviceList requestTag ↔
        deviceId ∈ b.presence.available requestTag := by
  have offers := shows.offers requestTag
  unfold getAvailableDeviceList manager Presence.available
  generalize c.dataManagers.lookup requestTag = m at offers
  generalize b.presence.offers requestTag = offer at offers
  cases offers with
  | none => exact ⟨List.nodup_nil, fun _ => iff_of_false List.not_mem_nil (Finset.notMem_empty _)⟩
  | some offered =>
      obtain ⟨manager, held, -⟩ := offered.held
      simp only [Option.bind_some, held]
      obtain ⟨once, listed⟩ := listing_of_equipped shows.equipped held
      refine ⟨once, fun deviceId => ?_⟩
      rw [listed, offered.available]

end Showing

/-! ## What a user is listed -/

/-- **The listing of a tag**, in every context reached: each device at most once, exactly those on
the board, all connected devices that the request names, and no others than it names. -/
theorem devices_listed {c : DataContext} {b : Board}
    (reached : Reached (recorded step Board.note) (fun _ label => through label = true)
      (init, .empty) (c, b)) (requestTag : UInt32) :
    (c.getAvailableDeviceList requestTag).Nodup ∧
    (∀ deviceId, deviceId ∈ c.getAvailableDeviceList requestTag ↔
      deviceId ∈ b.presence.available requestTag) ∧
    (∀ deviceId ∈ b.presence.wanted names requestTag,
      deviceId ∈ c.getAvailableDeviceList requestTag) ∧
    ∀ offer, b.presence.offers requestTag = some offer →
      ∀ deviceId ∈ c.getAvailableDeviceList requestTag, names offer.request deviceId = true := by
  have shows := shows_of_reached reached
  obtain ⟨nodup, listed⟩ := shows.listed requestTag
  refine ⟨nodup, listed, fun deviceId wanted => ?_, fun offer asked deviceId member => ?_⟩
  · exact (listed deviceId).mpr (shows.fair.wanted_subset requestTag wanted)
  · have available := (listed deviceId).mp member
    rw [Presence.available, asked] at available
    exact shows.fair.named requestTag offer asked deviceId available

/-- While one request is for all devices and another for one of two, the channel is lost, and the
other device is unplugged when it is back. -/
def staleDevice : List (Operation × Orders) :=
  [(.client (.observeChannel .ready), .stored),
    (.requestDeviceData {}, .stored),
    (.client (.registry (.deviceEvent
      { device := { siuUuid := 1, portId := 2 }, connected := true })), .stored),
    (.client (.registry (.deviceEvent
      { device := { siuUuid := 3, portId := 4 }, connected := true })), .stored),
    (.requestDataFrame { requestedDevices := [⟨1, 2⟩] }, .stored),
    (.client (.observeChannel .idle), .stored),
    (.client (.observeChannel .ready), .stored),
    (.client (.registry (.deviceEvent
      { device := { siuUuid := 3, portId := 4 }, connected := false })), .stored)]

/-- The device that nothing is known of since the loss is still listed to both. -/
theorem devices_listed_stale :
    ∃ c b, Reached (recorded step Board.note) (fun _ label => through label = true) (init, .empty)
        (c, b) ∧
      c.getAvailableDeviceList 1 = [⟨1, 2⟩] ∧ c.getAvailableDeviceList 2 = [⟨1, 2⟩] ∧
      b.presence.present = ∅ ∧
      (c.getAvailableDeviceList 1).Nodup ∧
      (∀ deviceId, deviceId ∈ c.getAvailableDeviceList 1 ↔ deviceId ∈ b.presence.available 1) ∧
      (∀ deviceId ∈ b.presence.wanted names 1, deviceId ∈ c.getAvailableDeviceList 1) ∧
      ∀ offer, b.presence.offers 1 = some offer →
        ∀ deviceId ∈ c.getAvailableDeviceList 1, names offer.request deviceId = true := by
  have executed : (script (guarded (fun _ label => through label) (recorded step Board.note))
      staleDevice (init, .empty)).any (fun s => s.1.getAvailableDeviceList 1 = [⟨1, 2⟩] &&
        s.1.getAvailableDeviceList 2 = [⟨1, 2⟩] && s.2.presence.present = ∅) = true := by
    decide +kernel
  obtain ⟨⟨c, b⟩, executed, last⟩ := (Option.any_eq_true _ _).mp executed
  simp only [Bool.and_eq_true, decide_eq_true_eq] at last
  have reached := Reached.of_script (fun _ label => through label) (fun _ _ passes => passes) _
    executed
  exact ⟨c, b, reached, last.1.1, last.1.2, last.2, devices_listed reached 1⟩

/-- **Without a loss** the listing of a tag is the connected devices that its request names. -/
theorem devices_listed_connected {c : DataContext} {b : Board}
    (reached : Reached (recorded step Board.note) (fun s label => throughUnlost s label = true)
      (init, .empty) (c, b)) (requestTag : UInt32) (deviceId : DeviceID) :
    deviceId ∈ c.getAvailableDeviceList requestTag ↔
      deviceId ∈ b.presence.wanted names requestTag := by
  have both : Shows c b ∧ b.presence.Exact names := by
    refine reached.invariant (fun s => Shows s.1 s.2 ∧ s.2.presence.Exact names)
      ⟨shows_init, Presence.exact_empty⟩ ?_
    rintro ⟨c, b⟩ ⟨c', b'⟩ label ⟨shows, exactly⟩ passes stepped
    obtain ⟨after, run, same⟩ := Option.map_eq_some_iff.mp stepped
    cases same
    exact ⟨shows_step shows (through_of_unlost passes) run, exact_note exactly shows passes⟩
  obtain ⟨shows, exactly⟩ := both
  rw [(shows.listed requestTag).2, exactly]

/-- The same requests and devices, and the channel stays. -/
theorem devices_listed_connected_two :
    ∃ c b, Reached (recorded step Board.note) (fun s label => throughUnlost s label = true)
        (init, .empty) (c, b) ∧
      c.getAvailableDeviceList 1 = [⟨1, 2⟩, ⟨3, 4⟩] ∧
      ∀ deviceId, deviceId ∈ c.getAvailableDeviceList 1 ↔
        deviceId ∈ b.presence.wanted names 1 := by
  have executed : (script (guarded throughUnlost (recorded step Board.note)) (staleDevice.take 5)
      (init, .empty)).any (fun s => s.1.getAvailableDeviceList 1 = [⟨1, 2⟩, ⟨3, 4⟩]) = true := by
    decide +kernel
  obtain ⟨⟨c, b⟩, executed, last⟩ := (Option.any_eq_true _ _).mp executed
  have reached := Reached.of_script throughUnlost (fun _ _ passes => passes) _ executed
  exact ⟨c, b, reached, of_decide_eq_true last, devices_listed_connected reached 1⟩

end DataContext

end OmmoSdk.Client
