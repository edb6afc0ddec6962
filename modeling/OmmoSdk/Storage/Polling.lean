/-
# Storage.Polling — a consumer that asks for what it has not seen

A consumer polls a device store by index: it asks for the packets from the index after the
last one it was given, and appends what is answered.  `Consumer` is such a consumer with its
store and a record of its polls, and an action is a push of the producer or a poll.

The store keeps the last `N` packets at least, and the index asked for is the number of
packets at the last poll (`Follows.next`).  So each poll delivers all there is, and it leaves
a gap exactly if the store no longer keeps what was asked for.  `polling_delivers` states
this for whole interleavings.
-/
import OmmoSdk.Storage.DeviceData

namespace OmmoSdk.Storage

open OmmoSdk.Theory
open OmmoSdk.Sdk
open PacketBuffers

set_option autoImplicit false

structure Consumer where
  store : DeviceDataStorage
  /-- the index to ask for -/
  next : UInt32
  appended : List (Option DevicePacket)
  /-- the indices asked for, with the answers -/
  polls : List (UInt32 × DataResponse TrackingDeviceData)

inductive Action where
  | push (packet : Proto.TrackingDeviceData)
  | poll

namespace Consumer

def start (device : DeviceDescriptor) (bufferSize : UInt32) : Consumer :=
  ⟨.init device bufferSize, 0, [], []⟩

/-- The index after that of the last packet, if any were returned. -/
def nextIndex (next : UInt32) (packets : List (Option DevicePacket)) : UInt32 :=
  match packets.getLast? with
  | some (some packet) => packet.packetIdx + 1
  | _ => next

def poll (c : Consumer) : Except Fault Consumer := do
  let response ← c.store.getDataSinceIndex c.next
  let returned := response.packets.take response.packetCount.toNat
  return { c with
    next := nextIndex c.next returned
    appended := c.appended ++ returned
    polls := c.polls ++ [(c.next, response)] }

def act (c : Consumer) : Action → Except Fault Consumer
  | .push packet => do
      let (_, store) ← c.store.pushData packet
      return { c with store := store }
  | .poll => c.poll

def run (c : Consumer) (actions : List Action) : Except Fault Consumer := actions.foldlM act c

/-- An index that lies before the first packet of a `kPartialData` answer, from the index that
was asked for on. -/
def Missed (polls : List (UInt32 × DataResponse TrackingDeviceData)) (i : Nat) : Prop :=
  ∃ poll ∈ polls, poll.2.state = .partialData ∧ ∃ first, poll.2.packets.head? = some (some first) ∧
    poll.1.toNat ≤ i ∧ i < first.packetIdx.toNat

def NoGap (polls : List (UInt32 × DataResponse TrackingDeviceData)) : Prop :=
  ∀ poll ∈ polls, poll.2.state ≠ .partialData

end Consumer

/-- The messages that the actions push. -/
def pushes : List Action → List Proto.TrackingDeviceData
  | [] => []
  | .push packet :: rest => packet :: pushes rest
  | .poll :: rest => pushes rest

def Action.count (device : DeviceDescriptor) (since : Nat) : Action → Nat
  | .push packet => if DeviceDataStorage.carries device packet then since + 1 else since
  | .poll => 0

/-- How many accepted pushes there were since the last poll. -/
def unpolled (device : DeviceDescriptor) (actions : List Action) : Nat :=
  actions.foldl (Action.count device) 0

/-- No poll comes after more than `N` pushes since the one before it, or since the start. -/
def Punctual (device : DeviceDescriptor) (N : Nat) (actions : List Action) : Prop :=
  ∀ before rest, actions = before ++ .poll :: rest → unpolled device before ≤ N

section Actions

variable {device : DeviceDescriptor} {N : Nat} {actions : List Action}

theorem pushes_append (actions others : List Action) :
    pushes (actions ++ others) = pushes actions ++ pushes others := by
  induction actions with
  | nil => rfl
  | cons action rest ih =>
      cases action with
      | push packet => exact congrArg (packet :: ·) ih
      | poll => exact ih

theorem unpolled_push (packet : Proto.TrackingDeviceData) :
    unpolled device (actions ++ [.push packet]) =
      if DeviceDataStorage.carries device packet then unpolled device actions + 1
      else unpolled device actions := by
  simp [unpolled, Action.count]

theorem unpolled_poll : unpolled device (actions ++ [.poll]) = 0 := by
  simp [unpolled, Action.count]

theorem Punctual.prefix {others : List Action} (punctual : Punctual device N (actions ++ others)) :
    Punctual device N actions := by
  rintro before rest rfl
  exact punctual before (rest ++ others) (by simp)

theorem Punctual.last (punctual : Punctual device N (actions ++ [.poll])) :
    unpolled device actions ≤ N :=
  punctual actions [] rfl

/-- What was pushed since the last poll is kept, if it is not more than one buffer. -/
theorem windowStart_le {N n k : Nat} (few : k - n ≤ N) : Generations.windowStart N k ≤ n := by
  unfold Generations.windowStart
  split
  · exact Nat.zero_le n
  · omega

end Actions

namespace Consumer

/-! ## What a consumer has been given -/

theorem take_stamped_append {h others : List TrackingDeviceData} {n : Nat} (seen : n ≤ h.length) :
    (stamped (h ++ others)).take n = (stamped h).take n := by
  rw [stamped, List.mapIdx_append, List.take_append_of_le_length (by simpa using seen)]
  rfl

/-- The indices that stand behind position `m` of a history. -/
theorem mem_drop_stamped {h : List TrackingDeviceData} (few : h.length < 2 ^ 32) {m i : Nat} :
    (∃ p ∈ (stamped h).drop m, p.packetIdx.toNat = i) ↔ m ≤ i ∧ i < h.length := by
  constructor
  · rintro ⟨p, member, rfl⟩
    obtain ⟨j, element⟩ := List.mem_iff_getElem?.mp member
    rw [List.getElem?_drop] at element
    have inside := (List.getElem?_eq_some_iff.mp element).1
    rw [length_stamped] at inside
    rw [packetIdx_of_stamped element, UInt32.toNat_ofNat_of_lt' (by rw [UInt32.size]; omega)]
    omega
  · rintro ⟨later, inside⟩
    obtain ⟨p, element⟩ := exists_element (stamped h) i (by rw [length_stamped]; exact inside)
    refine ⟨p, List.mem_iff_getElem?.mpr ⟨i - m, ?_⟩, ?_⟩
    · rw [List.getElem?_drop, Nat.add_sub_cancel' later]
      exact element
    · rw [packetIdx_of_stamped element, UInt32.toNat_ofNat_of_lt' (by rw [UInt32.size]; omega)]

theorem missed_append {polls : List (UInt32 × DataResponse TrackingDeviceData)}
    {poll : UInt32 × DataResponse TrackingDeviceData} {i : Nat} :
    Missed (polls ++ [poll]) i ↔ Missed polls i ∨ Missed [poll] i := by
  simp only [Missed, List.mem_append, or_and_right, exists_or]

/-- The consumer `c` of a store that holds `h` has polled when it held `n` packets, and was
given `delivered`. -/
structure Follows {N : Nat} (pos : 0 < N) (device : DeviceDescriptor) (h : List TrackingDeviceData)
    (n : Nat) (delivered : List DevicePacket) (c : Consumer) : Prop where
  device : c.store.device = device
  represents : Represents pos c.store.buffers h
  next : c.next = UInt32.ofNat n
  seen : n ≤ h.length
  appended : c.appended = delivered.map some
  inOrder : delivered.Sublist ((stamped h).take n)
  complete : ∀ i < n, (∃ p ∈ delivered, p.packetIdx.toNat = i) ↔ ¬ Missed c.polls i
  past : ∀ i, Missed c.polls i → i < n

section Steps

variable {N : Nat} {pos : 0 < N} {device : DeviceDescriptor} {h : List TrackingDeviceData} {n : Nat}
  {delivered : List DevicePacket} {c : Consumer}

theorem follows_start (small : N ≤ 2 ^ 30) :
    Follows pos device [] 0 [] (start device (UInt32.ofNat N)) where
  device := copyDeviceDescriptor_eq device
  represents := init_represents pos (by omega)
  next := rfl
  seen := Nat.le_refl 0
  appended := rfl
  inOrder := List.Sublist.refl _
  complete i below := absurd below (Nat.not_lt_zero i)
  past := by
    rintro i ⟨poll, member, -⟩
    cases member

theorem Follows.push (follows : Follows pos device h n delivered c) (small : N ≤ 2 ^ 30)
    (packet : Proto.TrackingDeviceData) (aligned : packet.PosesAligned) :
    ∃ c' converted, c.act (.push packet) = .ok c' ∧
      DeviceDataStorage.acceptedData device [packet] = .ok converted ∧
      Follows pos device (h ++ converted) n delivered c' ∧ c'.polls = c.polls := by
  obtain ⟨⟨results, last⟩, ran⟩ :=
    DeviceDataStorage.pushAll_ok (by omega) [packet] follows.represents (by simpa using aligned)
  have pushed : ∃ accepted, c.store.pushData packet = .ok (accepted, last) := by
    rw [DeviceDataStorage.pushAll] at ran
    cases first : c.store.pushData packet with
    | error fault => simp [first, bind, Except.bind] at ran
    | ok outcome =>
        simp only [first, DeviceDataStorage.pushAll, bind, Except.bind, pure, Except.pure,
          Except.ok.injEq, Prod.mk.injEq] at ran
        exact ⟨outcome.1, by rw [← ran.2]⟩
  obtain ⟨accepted, pushed⟩ := pushed
  obtain ⟨-, same, converted, converts, kept⟩ :=
    DeviceDataStorage.pushData_represents follows.represents (by omega) pushed
  rw [follows.device] at same converts
  refine ⟨{ c with store := last }, converted, ?_, converts, ?_, rfl⟩
  · simp [act, pushed, bind, Except.bind, pure, Except.pure]
  · exact ⟨same, kept, follows.next, follows.seen.trans (by simp), follows.appended,
      by rw [take_stamped_append follows.seen]; exact follows.inOrder, follows.complete, follows.past⟩

/-- After the packets to the end of a history the next index is its length. -/
theorem nextIndex_drop {m : Nat} (inside : m < h.length) (next : UInt32) :
    nextIndex next (((stamped h).drop m).map some) = UInt32.ofNat h.length := by
  obtain ⟨p, element⟩ := exists_element (stamped h) (h.length - 1) (by rw [length_stamped]; omega)
  have last : (((stamped h).drop m).map some).getLast? = some (some p) := by
    rw [List.getLast?_map, List.getLast?_drop, if_neg (by rw [length_stamped]; omega),
      List.getLast?_eq_getElem?, length_stamped, element]
    rfl
  rw [nextIndex, last]
  simp only
  rw [packetIdx_of_stamped element, show (1 : UInt32) = UInt32.ofNat 1 from rfl, ← UInt32.ofNat_add,
    Nat.sub_add_cancel (by omega)]

/-- What an answer says about the indices before its first packet. -/
theorem missed_answer (few : h.length < 2 ^ 32) {m : Nat} (inside : m < h.length) (seen : n ≤ h.length)
    {state : DataResponseState} {count : UInt32} {i : Nat} :
    Missed [(UInt32.ofNat n, ⟨state, ((stamped h).drop m).map some, count⟩)] i ↔
      state = .partialData ∧ n ≤ i ∧ i < m := by
  obtain ⟨p, element⟩ := exists_element (stamped h) m (by rw [length_stamped]; exact inside)
  have index : p.packetIdx.toNat = m := by
    rw [packetIdx_of_stamped element, UInt32.toNat_ofNat_of_lt' (by rw [UInt32.size]; omega)]
  have asked : (UInt32.ofNat n).toNat = n := UInt32.toNat_ofNat_of_lt' (by rw [UInt32.size]; omega)
  simp [Missed, element, index, asked]

/-- A poll that is answered with the packets from `m` on. -/
theorem Follows.answered (follows : Follows pos device h n delivered c) (few : h.length < 2 ^ 32)
    {m : Nat} (later : n ≤ m) (inside : m < h.length) {state : DataResponseState}
    (gap : state = .partialData ↔ n < m)
    (answer : c.store.getDataSinceIndex c.next =
      .ok ⟨state, ((stamped h).drop m).map some, UInt32.ofNat (h.length - m)⟩) :
    ∃ c', c.poll = .ok c' ∧ Follows pos device h h.length (delivered ++ (stamped h).drop m) c' ∧
      c'.polls = c.polls ++ [(c.next,
        ⟨state, ((stamped h).drop m).map some, UInt32.ofNat (h.length - m)⟩)] := by
  have all : (((stamped h).drop m).map some).take (UInt32.ofNat (h.length - m)).toNat =
      ((stamped h).drop m).map some := by
    rw [UInt32.toNat_ofNat_of_lt' (by rw [UInt32.size]; omega)]
    exact List.take_of_length_le (by simp)
  have missed : ∀ i, Missed (c.polls ++ [(c.next,
      ⟨state, ((stamped h).drop m).map some, UInt32.ofNat (h.length - m)⟩)]) i ↔
      Missed c.polls i ∨ n < m ∧ n ≤ i ∧ i < m := by
    intro i
    rw [missed_append, follows.next, missed_answer few inside follows.seen, gap]
  have early : ∀ p ∈ delivered, p.packetIdx.toNat < n := by
    intro p member
    obtain ⟨j, element⟩ := List.mem_iff_getElem?.mp (follows.inOrder.subset member)
    rw [List.getElem?_take] at element
    split at element
    · rename_i before
      have seen := follows.seen
      rw [packetIdx_of_stamped element, UInt32.toNat_ofNat_of_lt' (by rw [UInt32.size]; omega)]
      exact before
    · cases element
  refine ⟨_, by rw [poll, answer]; simp only [bind, Except.bind, pure, Except.pure, all]; rfl, ?_, rfl⟩
  refine ⟨follows.device, follows.represents, nextIndex_drop inside c.next, Nat.le_refl _, ?_, ?_, ?_, ?_⟩
  · rw [follows.appended, List.map_append]
  · have before : delivered.Sublist ((stamped h).take m) :=
      follows.inOrder.trans (List.take_sublist_take_left later)
    rw [List.take_of_length_le (by rw [length_stamped])]
    calc (delivered ++ (stamped h).drop m).Sublist ((stamped h).take m ++ (stamped h).drop m) :=
          before.append (List.Sublist.refl _)
      _ = stamped h := List.take_append_drop m _
  · intro i below
    have old := follows.past i
    rw [missed]
    simp only [List.mem_append, or_and_right, exists_or, mem_drop_stamped few]
    by_cases seen : i < n
    · rw [follows.complete i seen]
      constructor
      · rintro (unmissed | behind)
        · rintro (missed | between)
          · exact unmissed missed
          · omega
        · omega
      · intro unmissed
        exact .inl fun missed => unmissed (.inl missed)
    · constructor
      · rintro (⟨p, member, rfl⟩ | behind)
        · exact absurd (early p member) seen
        · rintro (missed | between)
          · exact seen (old missed)
          · omega
      · intro unmissed
        refine .inr ⟨?_, below⟩
        by_contra between
        exact unmissed (.inr ⟨by omega, by omega, by omega⟩)
  · intro i missing
    rcases (missed i).mp missing with old | between
    · exact (follows.past i old).trans_le follows.seen
    · omega

/-- **A poll** delivers all that the store holds behind what was delivered before.  It leaves
a gap exactly if the store does not keep all of that. -/
theorem Follows.poll (follows : Follows pos device h n delivered c) (small : N ≤ 2 ^ 30)
    (few : h.length < 2 ^ 32) :
    ∃ c' delivered' response, c.poll = .ok c' ∧ Follows pos device h h.length delivered' c' ∧
      c'.polls = c.polls ++ [(c.next, response)] ∧
      (Generations.windowStart N h.length ≤ n →
        response.state ≠ .partialData ∧ delivered' = delivered ++ (stamped h).drop n) := by
  have seen := follows.seen
  have asked : c.next.toNat = n := by
    rw [follows.next, UInt32.toNat_ofNat_of_lt' (by rw [UInt32.size]; omega)]
  have answer := DeviceDataStorage.getDataSinceIndex_represents follows.represents small (by omega) c.next
  rw [sinceResponse, asked] at answer
  by_cases nothing : h.length ≤ n
  · rw [if_pos nothing] at answer
    obtain rfl : n = h.length := Nat.le_antisymm seen nothing
    refine ⟨{ c with polls := c.polls ++ [(c.next, emptyResponse)] }, delivered, emptyResponse, ?_,
      ?_, rfl, ?_⟩
    · simp [Consumer.poll, answer, emptyResponse, nextIndex, bind, Except.bind, pure, Except.pure]
    · have unmissed : ∀ i, Missed (c.polls ++ [(c.next, emptyResponse)]) i ↔ Missed c.polls i := by
        intro i
        rw [missed_append]
        simp [Missed, emptyResponse]
      refine ⟨follows.device, follows.represents, follows.next, seen, follows.appended,
        follows.inOrder, ?_, ?_⟩
      · intro i below
        rw [unmissed]
        exact follows.complete i below
      · intro i missed
        exact follows.past i ((unmissed i).mp missed)
    · intro _
      rw [List.drop_of_length_le (by rw [length_stamped]), List.append_nil]
      exact ⟨by simp [emptyResponse], rfl⟩
  · rw [if_neg nothing] at answer
    by_cases kept : Generations.windowStart N h.length ≤ n
    · rw [if_pos kept] at answer
      obtain ⟨c', polled, after, logged⟩ := follows.answered few (Nat.le_refl n) (by omega)
        (iff_of_false (by simp) (by omega)) answer
      exact ⟨c', _, _, polled, after, logged, fun _ => ⟨by simp, rfl⟩⟩
    · rw [if_neg kept] at answer
      have start := Generations.windowStart_add_size (N := N) h.length
      have some : 0 < Generations.windowSize N h.length := by
        unfold Generations.windowSize
        split <;> omega
      obtain ⟨c', polled, after, logged⟩ := follows.answered few (by omega) (by omega)
        (iff_of_true rfl (by omega)) answer
      exact ⟨c', _, _, polled, after, logged, fun kept' => absurd kept' kept⟩

end Steps

/-! ## Interleavings of pushes and polls -/

section Runs

variable {N : Nat} {pos : 0 < N} {device : DeviceDescriptor}

theorem acceptedData_append {packets others : List Proto.TrackingDeviceData}
    {h converted : List TrackingDeviceData}
    (first : DeviceDataStorage.acceptedData device packets = .ok h)
    (second : DeviceDataStorage.acceptedData device others = .ok converted) :
    DeviceDataStorage.acceptedData device (packets ++ others) = .ok (h ++ converted) := by
  rw [DeviceDataStorage.acceptedData, List.filter_append, List.mapM_append]
  simp only [DeviceDataStorage.acceptedData] at first second
  simp [first, second, bind, Except.bind, pure, Except.pure]

/-- What a run leads to. -/
structure Ran (pos : 0 < N) (device : DeviceDescriptor) (actions : List Action)
    (h : List TrackingDeviceData) (n : Nat) (delivered : List DevicePacket) (c : Consumer) : Prop where
  accepted : DeviceDataStorage.acceptedData device (pushes actions) = .ok h
  ran : (start device (UInt32.ofNat N)).run actions = .ok c
  follows : Follows pos device h n delivered c
  unpolled : h.length = n + unpolled device actions
  punctual : Punctual device N actions → NoGap c.polls ∧ delivered = (stamped h).take n

theorem ran_of_actions (pos : 0 < N) (small : N ≤ 2 ^ 30) (device : DeviceDescriptor)
    (actions : List Action) (aligned : ∀ packet ∈ pushes actions, packet.PosesAligned)
    (few : ((pushes actions).filter (DeviceDataStorage.carries device)).length < 2 ^ 32) :
    ∃ h n delivered c, Ran pos device actions h n delivered c := by
  induction actions using List.reverseRecOn with
  | nil =>
      refine ⟨[], 0, [], start device (UInt32.ofNat N), rfl, rfl, follows_start small, rfl, fun _ => ⟨?_, rfl⟩⟩
      intro poll member
      cases member
  | append_singleton actions action ih =>
      rw [pushes_append] at aligned few
      rw [List.filter_append, List.length_append] at few
      obtain ⟨h, n, delivered, c, accepted, ran, follows, unpolled, punctual⟩ :=
        ih (fun packet member => aligned packet (List.mem_append_left _ member)) (by omega)
      have count : h.length = ((pushes actions).filter (DeviceDataStorage.carries device)).length :=
        DeviceDataStorage.length_mapM_ok accepted
      have goesOn : ∀ c', c.act action = .ok c' →
          (start device (UInt32.ofNat N)).run (actions ++ [action]) = .ok c' := by
        intro c' acted
        simp only [run, List.foldlM_append] at ran ⊢
        simp [ran, acted, bind, Except.bind, pure, Except.pure]
      cases action with
      | push packet =>
          obtain ⟨c', converted, pushed, converts, after, polls⟩ :=
            follows.push small packet (aligned packet (by simp [pushes]))
          have added : converted.length = if DeviceDataStorage.carries device packet then 1 else 0 := by
            rw [DeviceDataStorage.length_mapM_ok converts, List.filter_singleton]
            cases DeviceDataStorage.carries device packet <;> rfl
          refine ⟨h ++ converted, n, delivered, c', ?_, goesOn c' pushed, after, ?_, ?_⟩
          · rw [pushes_append]
            exact acceptedData_append accepted converts
          · rw [unpolled_push, List.length_append, added, unpolled]
            split <;> omega
          · intro all
            rw [polls, take_stamped_append follows.seen]
            exact punctual all.prefix
      | poll =>
          obtain ⟨c', delivered', response, polled, after, logged, prompt⟩ := follows.poll small (by omega)
          refine ⟨h, h.length, delivered', c', ?_, goesOn c' polled, after, ?_, ?_⟩
          · rw [pushes_append]
            simpa [pushes] using accepted
          · rw [unpolled_poll]
            rfl
          · intro all
            obtain ⟨noGap, exact⟩ := punctual all.prefix
            have few := all.last
            obtain ⟨full, delivers⟩ := prompt (windowStart_le (by omega))
            rw [List.take_of_length_le (by rw [length_stamped]), delivers, exact, List.take_append_drop]
            refine ⟨?_, rfl⟩
            intro poll member
            rw [logged, List.mem_append, List.mem_singleton] at member
            rcases member with member | rfl
            · exact noGap poll member
            · exact full

/-- The indices of a history increase. -/
theorem stamped_increasing {h : List TrackingDeviceData} (few : h.length < 2 ^ 32) :
    ((stamped h).map fun p => p.packetIdx).Pairwise (· < ·) := by
  rw [List.pairwise_iff_getElem]
  intro i j inside inside' before
  simp only [List.length_map, length_stamped] at inside inside'
  simp only [List.getElem_map, stamped, List.getElem_mapIdx]
  exact (UInt32.ofNat_lt_iff_lt (by rw [UInt32.size]; omega) (by rw [UInt32.size]; omega)).mpr before

/-- **Polling by index delivers every packet at most once and reports every gap.**  For every
interleaving of pushes and polls in which fewer than `2 ^ 32` messages are accepted: nothing
fails; what was appended is a part of the accepted packets, in order and with increasing
indices; of the indices before `next` exactly those are missing that lie between what a poll
asked for and the first packet of its answer `kPartialData`; and if no poll comes after more
than `N` accepted pushes, none answers so, and after each the packets appended are all. -/
theorem polling_delivers (N : Nat) (pos : 1 ≤ N) (small : N ≤ 2 ^ 30) (device : DeviceDescriptor)
    (actions : List Action) (aligned : ∀ packet ∈ pushes actions, packet.PosesAligned)
    (few : ((pushes actions).filter (DeviceDataStorage.carries device)).length < 2 ^ 32) :
    ∃ h c delivered, DeviceDataStorage.acceptedData device (pushes actions) = .ok h ∧
      (start device (UInt32.ofNat N)).run actions = .ok c ∧
      c.appended = delivered.map some ∧ delivered.Sublist (stamped h) ∧
      (delivered.map fun p => p.packetIdx).Pairwise (· < ·) ∧
      (∀ i < c.next.toNat, (∃ p ∈ delivered, p.packetIdx.toNat = i) ↔ ¬ Missed c.polls i) ∧
      (Punctual device N actions → NoGap c.polls) ∧
      (Punctual device N actions → actions.getLast? = some .poll → delivered = stamped h) := by
  obtain ⟨h, n, delivered, c, accepted, ran, follows, unpolled, punctual⟩ :=
    ran_of_actions pos small device actions aligned few
  have count : h.length = ((pushes actions).filter (DeviceDataStorage.carries device)).length :=
    DeviceDataStorage.length_mapM_ok accepted
  have seen := follows.seen
  have within : delivered.Sublist (stamped h) := follows.inOrder.trans (List.take_sublist n _)
  have asked : c.next.toNat = n := by
    rw [follows.next, UInt32.toNat_ofNat_of_lt' (by rw [UInt32.size]; omega)]
  refine ⟨h, c, delivered, accepted, ran, follows.appended, within,
    (stamped_increasing (by omega)).sublist (within.map _), ?_, fun all => (punctual all).1, ?_⟩
  · rw [asked]
    exact follows.complete
  · intro all last
    obtain ⟨before, rfl⟩ := List.getLast?_eq_some_iff.mp last
    rw [unpolled_poll] at unpolled
    rw [(punctual all).2, List.take_of_length_le (by rw [length_stamped]; omega)]

/-- Two packets, a stranger's between them, and a poll after each. -/
def alternating : List Action :=
  [.push { siuUuid := 7, portId := 1 }, .poll, .push { siuUuid := 8, portId := 1 },
    .push { siuUuid := 7, portId := 1, timestamp := 5 }, .poll]

theorem polling_delivers_alternating :
    ∃ h c, (start ⟨7, 1, 0, 0, [], [], 0, false⟩ 1).run alternating = .ok c ∧
      c.appended = (stamped h).map some := by
  have punctual : Punctual ⟨7, 1, 0, 0, [], [], 0, false⟩ 1 alternating := by
    intro before rest split
    unfold alternating at split
    rcases before with _ | ⟨_, _ | ⟨_, _ | ⟨_, _ | ⟨_, _ | ⟨_, before⟩⟩⟩⟩⟩ <;>
      first | (cases split; decide) | simp at split
  obtain ⟨h, c, delivered, -, ran, appended, -, -, -, -, all⟩ :=
    polling_delivers 1 (by decide) (by decide) ⟨7, 1, 0, 0, [], [], 0, false⟩ alternating
      (by simp [alternating, pushes, Proto.TrackingDeviceData.PosesAligned]) (by decide)
  exact ⟨h, c, ran, by rw [appended, all punctual rfl]⟩

end Runs

end Consumer

end OmmoSdk.Storage
