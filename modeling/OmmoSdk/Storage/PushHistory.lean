/-
# Storage.PushHistory — the double buffer refines the two-generation log

`Represents pos b h`: the buffers `b` are what any run of pushes leaves whose
accepted data were `h`, in order.  The read buffer is the previous generation of
the history and the write buffer the current one, each packet under its push
number modulo `2 ^ 32`; the two pointers are the two arrays.

`push_represents` is the step: for every buffer size below `2 ^ 31` a push succeeds
and appends to the history.  The branch of `push` for a full write buffer is never
taken (`push_room`), so what it would do is irrelevant to every run.  The parts of
a push are described one by one (`fill_live`, `count_live`, `switch_live`,
`reset_live`), since a reader may come between them.
-/
import OmmoSdk.Storage.PacketBuffers

namespace OmmoSdk.Storage.PacketBuffers

open OmmoSdk.Theory
open OmmoSdk.Sdk

set_option autoImplicit false

variable {δ : Type} {N : Nat} {b : PacketBuffers δ} {previous current : List (Packet δ)}

/-- The packets of a history: each datum under its push number modulo `2 ^ 32`. -/
def stamped (h : List δ) : List (Packet δ) :=
  h.mapIdx fun i data => ⟨UInt32.ofNat i, data⟩

@[simp] theorem length_stamped (h : List δ) : (stamped h).length = h.length := by
  simp [stamped]

theorem stamped_snoc (h : List δ) (data : δ) :
    stamped (h ++ [data]) = stamped h ++ [⟨UInt32.ofNat h.length, data⟩] := by
  simp [stamped, List.mapIdx_append]

theorem getElem?_stamped (h : List δ) (i : Nat) :
    (stamped h)[i]? = (h[i]?).map fun data => ⟨UInt32.ofNat i, data⟩ := by
  simp [stamped]

/-! ## The shape that no step changes -/

/-- Two distinct arrays of `N` packets, one under each buffer. -/
structure Layout (N : Nat) (b : PacketBuffers δ) : Prop where
  size : b.bufferSize = UInt32.ofNat N
  length1 : b.packetBuffer1.length = N
  length2 : b.packetBuffer2.length = N
  distinct : b.readBuffer.packetBufferPtr ≠ b.writeBuffer.packetBufferPtr

theorem Layout.length_slots (layout : Layout N b) (ptr : BufferPtr) :
    (b.slots ptr).length = N := by
  cases ptr
  · exact layout.length1
  · exact layout.length2

@[simp] theorem slots_setSlots (xs : List (Packet δ)) (ptr : BufferPtr) :
    (b.setSlots xs ptr).slots ptr = xs := by
  cases ptr <;> rfl

theorem slots_setSlots_ne (xs : List (Packet δ)) {ptr other : BufferPtr} (ne : other ≠ ptr) :
    (b.setSlots xs ptr).slots other = b.slots other := by
  cases ptr <;> cases other <;> simp_all [setSlots, slots]

@[simp] theorem setSlots_readBuffer (xs : List (Packet δ)) (ptr : BufferPtr) :
    (b.setSlots xs ptr).readBuffer = b.readBuffer := by
  cases ptr <;> rfl

@[simp] theorem setSlots_writeBuffer (xs : List (Packet δ)) (ptr : BufferPtr) :
    (b.setSlots xs ptr).writeBuffer = b.writeBuffer := by
  cases ptr <;> rfl

@[simp] theorem setSlots_bufferSize (xs : List (Packet δ)) (ptr : BufferPtr) :
    (b.setSlots xs ptr).bufferSize = b.bufferSize := by
  cases ptr <;> rfl

@[simp] theorem setSlots_packetReceivedNum (xs : List (Packet δ)) (ptr : BufferPtr) :
    (b.setSlots xs ptr).packetReceivedNum = b.packetReceivedNum := by
  cases ptr <;> rfl

theorem Layout.setSlots (layout : Layout N b) {xs : List (Packet δ)} (length : xs.length = N)
    (ptr : BufferPtr) : Layout N (b.setSlots xs ptr) where
  size := by rw [setSlots_bufferSize]; exact layout.size
  length1 := by cases ptr with
    | packetBuffer1 => exact length
    | packetBuffer2 => exact layout.length1
  length2 := by cases ptr with
    | packetBuffer1 => exact layout.length2
    | packetBuffer2 => exact length
  distinct := by
    rw [setSlots_readBuffer, setSlots_writeBuffer]; exact layout.distinct

/-! ## The parts of a push -/

/-- The state after `fillSlot` has filled slot `i` of the write buffer. -/
def filled (b : PacketBuffers δ) (i : Nat) (data : δ) : PacketBuffers δ :=
  { b with packetReceivedNum := b.packetReceivedNum + 1 }.setSlots
    ((b.slots b.writeBuffer.packetBufferPtr).set i ⟨b.packetReceivedNum, data⟩)
    b.writeBuffer.packetBufferPtr

theorem fillSlot_eq (layout : Layout N b) (small : N < 2 ^ 31) {i : Nat} (inside : i < N)
    (data : δ) : b.fillSlot (Int32.ofNat i) (Int32.ofNat i) data = .ok (b.filled i data) := by
  have index : (Int32.ofNat i).toInt = (i : Int) := Int32.toInt_ofNat_of_lt (by omega)
  have length := layout.length_slots b.writeBuffer.packetBufferPtr
  simp [fillSlot, filled, index, length, inside, bind, Except.bind, pure, Except.pure]

theorem Layout.filled (layout : Layout N b) (i : Nat) (data : δ) : Layout N (b.filled i data) := by
  have base : Layout N { b with packetReceivedNum := b.packetReceivedNum + 1 } :=
    ⟨layout.size, layout.length1, layout.length2, layout.distinct⟩
  exact base.setSlots (by rw [List.length_set]; exact layout.length_slots _) _

/-- Filling the next slot leaves what a reader sees and adds a packet behind it. -/
theorem fill_live (layout : Layout N b) (live : Live b previous current)
    (room : current.length < N) (data : δ) :
    Live (b.filled current.length data) previous current ∧
      ((b.filled current.length data).slots
        (b.filled current.length data).writeBuffer.packetBufferPtr).take (current.length + 1) =
        current ++ [⟨b.packetReceivedNum, data⟩] := by
  have length := layout.length_slots b.writeBuffer.packetBufferPtr
  refine ⟨⟨?_, ?_, ?_, ?_⟩, ?_⟩
  · simpa [filled] using live.readNum
  · simpa [filled] using live.writeNum
  · rw [filled, setSlots_readBuffer, slots_setSlots_ne _ layout.distinct]
    exact live.readSlots
  · rw [filled, setSlots_writeBuffer, slots_setSlots, List.take_set_of_le (Nat.le_refl _)]
    exact live.writeSlots
  · rw [filled, setSlots_writeBuffer, slots_setSlots, List.take_add_one, List.take_set_of_le (Nat.le_refl _),
      live.writeSlots]
    simp [length, room]

theorem count_live (live : Live b previous current) {p : Packet δ}
    (next : (b.slots b.writeBuffer.packetBufferPtr).take (current.length + 1) = current ++ [p]) :
    Live b.countPacket previous (current ++ [p]) where
  readNum := live.readNum
  writeNum := by
    rw [List.length_append, List.length_singleton, Int32.ofNat_add]
    exact congrArg (· + 1) live.writeNum
  readSlots := live.readSlots
  writeSlots := by rw [List.length_append, List.length_singleton]; exact next

theorem switch_live (live : Live b previous current) :
    Live b.switchBufferPointer current previous :=
  ⟨live.writeNum, live.readNum, live.writeSlots, live.readSlots⟩

theorem reset_live (live : Live b previous current) : Live (b.setWriteNum 0) previous [] :=
  ⟨live.readNum, rfl, live.readSlots, by simp⟩

theorem Layout.countPacket (layout : Layout N b) : Layout N b.countPacket :=
  ⟨layout.size, layout.length1, layout.length2, layout.distinct⟩

theorem Layout.switchBufferPointer (layout : Layout N b) : Layout N b.switchBufferPointer :=
  ⟨layout.size, layout.length1, layout.length2, layout.distinct.symm⟩

theorem Layout.setWriteNum (layout : Layout N b) (n : Int32) : Layout N (b.setWriteNum n) :=
  ⟨layout.size, layout.length1, layout.length2, layout.distinct⟩

/-! ## Whole pushes -/

/-- The buffers hold the history `h`. -/
structure Represents (pos : 0 < N) (b : PacketBuffers δ) (h : List δ) : Prop where
  layout : Layout N b
  received : b.packetReceivedNum = UInt32.ofNat h.length
  live : Live b (Generations.ofHistory pos (stamped h)).previous
    (Generations.ofHistory pos (stamped h)).current

theorem init_represents [Inhabited δ] (pos : 0 < N) (small : N < 2 ^ 31) :
    Represents pos (init (δ := δ) (UInt32.ofNat N)) [] := by
  have size : (UInt32.ofNat N).toNat = N :=
    UInt32.toNat_ofNat_of_lt' (lt_trans small (by decide))
  exact ⟨⟨rfl, by simp only [init, size, List.length_replicate],
    by simp only [init, size, List.length_replicate], by simp [init]⟩, rfl,
    ⟨rfl, rfl, by simp [stamped, Generations.empty], by simp [stamped, Generations.empty]⟩⟩

section Push

variable {pos : 0 < N} {h : List δ}

/-- The write buffer always has room: the branch for a full one is never taken. -/
theorem Represents.push_room (represents : Represents pos b h) (small : N < 2 ^ 31) :
    b.writeBuffer.dataNum.toUInt32 < b.bufferSize := by
  have room := (Generations.ofHistory pos (stamped h)).current_lt
  rw [represents.live.writeNum, represents.layout.size, Int32.toUInt32_ofNat']
  exact (UInt32.ofNat_lt_iff_lt (by rw [UInt32.size]; omega) (by rw [UInt32.size]; omega)).mpr room

/-- The counted packet filled the write buffer or left room. -/
theorem count_eq_size (layout : Layout N b) (small : N < 2 ^ 31)
    (live : Live b previous current) (fits : current.length ≤ N) :
    b.writeBuffer.dataNum.toUInt32 = b.bufferSize ↔ current.length = N := by
  rw [live.writeNum, layout.size, Int32.toUInt32_ofNat', ← UInt32.toNat_inj,
    UInt32.toNat_ofNat_of_lt' (by rw [UInt32.size]; omega),
    UInt32.toNat_ofNat_of_lt' (by rw [UInt32.size]; omega)]

/-- **The refinement step.**  A push succeeds and the buffers hold one more datum. -/
theorem push_represents (represents : Represents pos b h) (small : N < 2 ^ 31)
    (dataSlot : Int32 → Int32) (data : δ) :
    ∃ after, b.push dataSlot data = .ok after ∧ Represents pos after (h ++ [data]) := by
  obtain ⟨layout, received, live⟩ := represents
  have room := (Generations.ofHistory pos (stamped h)).current_lt
  obtain ⟨kept, next⟩ := fill_live layout live room data
  have counted := count_live kept next
  have shape := (layout.filled (Generations.ofHistory pos (stamped h)).current.length data).countPacket
  have full := count_eq_size shape small counted (by simpa using room)
  have index : (b.packetReceivedNum + 1 : UInt32) = UInt32.ofNat (h ++ [data]).length := by
    rw [received, List.length_append, UInt32.ofNat_add]; rfl
  have stamp : stamped (h ++ [data]) = stamped h ++ [⟨b.packetReceivedNum, data⟩] := by
    rw [stamped_snoc, received]
  rw [push, if_pos (Represents.push_room ⟨layout, received, live⟩ small)]
  simp only [live.writeNum, fillSlot_eq layout small room, bind, Except.bind, pure, Except.pure, full]
  rw [List.length_append, List.length_singleton]
  by_cases last : (Generations.ofHistory pos (stamped h)).current.length + 1 = N
  · refine ⟨_, by rw [if_pos last], (shape.switchBufferPointer).setWriteNum 0, ?_, ?_⟩
    · simpa [filled, countPacket, switchBufferPointer, setWriteNum] using index
    · obtain ⟨retired, fresh⟩ := Generations.push_of_full _ ⟨b.packetReceivedNum, data⟩ last
      rw [stamp, Generations.ofHistory_snoc, retired, fresh]
      exact reset_live (switch_live counted)
  · refine ⟨_, by rw [if_neg last], shape, ?_, ?_⟩
    · simpa [filled, countPacket] using index
    · obtain ⟨same, grown⟩ := Generations.push_of_room _ ⟨b.packetReceivedNum, data⟩
        (show (Generations.ofHistory pos (stamped h)).current.length + 1 < N by omega)
      rw [stamp, Generations.ofHistory_snoc, same, grown]
      exact counted

end Push

/-! ## Reading a window of a history -/

/-- The two generations `previous` and `current` are the end of a history, from
position `lo` on, and all of it when nothing was retired yet. -/
structure Window (h : List δ) (lo : Nat) (previous current : List (Packet δ)) : Prop where
  joined : previous ++ current = (stamped h).drop lo
  bounded : lo ≤ h.length
  start : previous = [] → lo = 0

section Window

variable {h : List δ} {lo : Nat}

theorem Window.length (window : Window h lo previous current) :
    lo + previous.length + current.length = h.length := by
  have := congrArg List.length window.joined
  have := window.bounded
  simp at *
  omega

theorem packetIdx_of_stamped {i : Nat} {p : Packet δ} (element : (stamped h)[i]? = some p) :
    p.packetIdx = UInt32.ofNat i := by
  rw [getElem?_stamped, Option.map_eq_some_iff] at element
  obtain ⟨data, -, rfl⟩ := element
  rfl

theorem Window.previousIdx (window : Window h lo previous current) {i : Nat} {p : Packet δ}
    (element : previous[i]? = some p) : p.packetIdx = UInt32.ofNat (lo + i) := by
  have inside := (List.getElem?_eq_some_iff.mp element).1
  have same := congrArg (fun l => l[i]?) window.joined
  simp only [List.getElem?_append_left inside, element, List.getElem?_drop] at same
  exact packetIdx_of_stamped same.symm

theorem Window.currentIdx (window : Window h lo previous current) {i : Nat} {p : Packet δ}
    (element : current[i]? = some p) :
    p.packetIdx = UInt32.ofNat (lo + previous.length + i) := by
  have same := congrArg (fun l => l[previous.length + i]?) window.joined
  simp only [List.getElem?_append_right (Nat.le_add_right _ _), Nat.add_sub_cancel_left, element,
    List.getElem?_drop, ← Nat.add_assoc] at same
  exact packetIdx_of_stamped same.symm

theorem Window.current_drop (window : Window h lo previous current) (skip : Nat) :
    current.drop skip = (stamped h).drop (lo + previous.length + skip) := by
  have back : current = (previous ++ current).drop previous.length := by simp
  rw [back, window.joined, List.drop_drop, List.drop_drop, Nat.add_assoc]

/-- The window a represented history leaves. -/
theorem ofHistory_window (pos : 0 < N) (h : List δ) :
    Window h (Generations.windowStart N h.length)
      (Generations.ofHistory pos (stamped h)).previous
      (Generations.ofHistory pos (stamped h)).current where
  joined := by
    have := Generations.ofHistory_retained pos (stamped h)
    rwa [length_stamped] at this
  bounded := by
    have := Generations.windowStart_add_size (N := N) h.length
    omega
  start empty := by
    have spec := (Generations.ofHistory_spec pos (stamped h)).2
    rw [empty, length_stamped] at spec
    unfold Generations.windowStart
    split
    · rfl
    · rename_i large
      rw [if_neg large] at spec
      have window := Generations.le_of_mod_lt (N := N) (k := h.length) (by omega)
      have := congrArg List.length spec
      simp only [List.length_nil, List.length_take, List.length_drop, length_stamped] at this
      have := Nat.mod_le h.length N
      omega

/-- The current generation is empty at every switch, and before the first push. -/
theorem ofHistory_current_eq_nil (pos : 0 < N) (h : List δ) :
    (Generations.ofHistory pos (stamped h)).current = [] ↔ h.length % N = 0 := by
  have := Nat.mod_le h.length N
  rw [(Generations.ofHistory_spec pos (stamped h)).1, ← List.length_eq_zero_iff,
    List.length_drop, length_stamped]
  omega

/-- The previous generation is in use from the first switch on. -/
theorem ofHistory_previous_ne_nil (pos : 0 < N) (h : List δ) :
    (Generations.ofHistory pos (stamped h)).previous ≠ [] ↔ N ≤ h.length := by
  rw [(Generations.ofHistory_spec pos (stamped h)).2, length_stamped]
  split
  · simp only [ne_eq, not_true_eq_false, false_iff]; omega
  · rename_i large
    have room := Generations.le_of_mod_lt (N := N) (k := h.length) (by omega)
    have := Nat.mod_le h.length N
    rw [← List.length_pos_iff, List.length_take, List.length_drop, length_stamped]
    omega

/-! ## The invariant between two pushes -/

/-- What holds of the members of a store with buffers of `N` packets, between any two
calls of `PushData`, once it has accepted the data `h`. -/
structure StoreInvariant (N : Nat) (b : PacketBuffers δ) (h : List δ) : Prop where
  distinct : b.readBuffer.packetBufferPtr ≠ b.writeBuffer.packetBufferPtr
  arrays : ∀ ptr, (b.slots ptr).length = N
  writeNum : 0 ≤ b.writeBuffer.dataNum.toInt ∧ b.writeBuffer.dataNum.toInt ≤ N - 1
  readNum : b.readBuffer.dataNum.toInt = 0 ∧ h.length < N ∨ b.readBuffer.dataNum.toInt = N
  /-- The filled slots are the newest packets, each under its push number. -/
  newest : ∃ lo ≤ h.length,
    (b.slots b.readBuffer.packetBufferPtr).take b.readBuffer.dataNum.toInt.toNat ++
        (b.slots b.writeBuffer.packetBufferPtr).take b.writeBuffer.dataNum.toInt.toNat =
      (stamped h).drop lo
  /-- The next push takes the branch for a buffer with room. -/
  room : b.writeBuffer.dataNum.toUInt32 < b.bufferSize

theorem previous_length_le {α : Type} (g : Generations α N) : g.previous.length ≤ N := by
  rcases g.previous_full with none | full
  · rw [none]
    exact Nat.zero_le N
  · exact full.le

/-- Before the first switch nothing was retired; after it a whole buffer was. -/
theorem ofHistory_previous_length (pos : 0 < N) (h : List δ) :
    (Generations.ofHistory pos (stamped h)).previous.length = 0 ∧ h.length < N ∨
      (Generations.ofHistory pos (stamped h)).previous.length = N := by
  rcases (Generations.ofHistory pos (stamped h)).previous_full with none | full
  · have retired := ofHistory_previous_ne_nil pos h
    exact .inl ⟨by rw [none, List.length_nil], by simpa [none] using retired⟩
  · exact .inr full

/-- Both stores keep the invariant, since every push refines the two generations. -/
theorem Represents.storeInvariant {pos : 0 < N} {h : List δ} (represents : Represents pos b h)
    (small : N < 2 ^ 31) : StoreInvariant N b h := by
  have inside := (Generations.ofHistory pos (stamped h)).current_lt
  have atMost := previous_length_le (Generations.ofHistory pos (stamped h))
  have window := ofHistory_window pos h
  have written : b.writeBuffer.dataNum.toInt =
      ((Generations.ofHistory pos (stamped h)).current.length : Int) := by
    rw [represents.live.writeNum]
    exact Int32.toInt_ofNat_of_lt (by omega)
  have read : b.readBuffer.dataNum.toInt =
      ((Generations.ofHistory pos (stamped h)).previous.length : Int) := by
    rw [represents.live.readNum]
    exact Int32.toInt_ofNat_of_lt (by omega)
  refine ⟨represents.layout.distinct, represents.layout.length_slots, ?_, ?_, ?_,
    represents.push_room small⟩
  · rw [written]
    omega
  · rw [read]
    have retired := ofHistory_previous_length pos h
    omega
  · refine ⟨_, window.bounded, ?_⟩
    rw [read, written, Int.toNat_natCast, Int.toNat_natCast, represents.live.readSlots,
      represents.live.writeSlots]
    exact window.joined

/-- What `GetDataSinceIndex` should answer on a history kept from `lo` on. -/
def sinceResponse (h : List δ) (lo : Nat) (startIdx : UInt32) : DataResponse δ :=
  if h.length ≤ startIdx.toNat then emptyResponse
  else if lo ≤ startIdx.toNat then
    ⟨.success, ((stamped h).drop startIdx.toNat).map some,
      UInt32.ofNat (h.length - startIdx.toNat)⟩
  else ⟨.partialData, ((stamped h).drop lo).map some, UInt32.ofNat (h.length - lo)⟩

variable {startIdx : UInt32} {copy : Packet δ → Packet δ}

theorem ofNat_lt_start {i : Nat} (small : i < 2 ^ 32) :
    UInt32.ofNat i < startIdx ↔ i < startIdx.toNat := by
  rw [UInt32.lt_iff_toNat_lt, UInt32.toNat_ofNat_of_lt' small]

theorem ofNat_le_start {i : Nat} (small : i < 2 ^ 32) :
    UInt32.ofNat i ≤ startIdx ↔ i ≤ startIdx.toNat := by
  rw [UInt32.le_iff_toNat_le, UInt32.toNat_ofNat_of_lt' small]

theorem start_sub {i : Nat} (small : i ≤ startIdx.toNat) :
    startIdx - UInt32.ofNat i = UInt32.ofNat (startIdx.toNat - i) := by
  rw [UInt32.ofNat_sub small, UInt32.ofNat_toNat]

theorem ofNat_pos {xs : List (Packet δ)} (nonempty : xs ≠ []) (small : xs.length < 2 ^ 31) :
    decide (Int32.ofNat xs.length > 0) = true :=
  decide_eq_true
    ((Int32.ofNat_lt_iff_lt (by decide) small).mpr (List.length_pos_iff.mpr nonempty))

theorem last_index {xs : List (Packet δ)} (nonempty : xs ≠ []) (small : xs.length < 2 ^ 31) :
    (Int32.ofNat xs.length - 1).toInt = ((xs.length - 1 : Nat) : Int) := by
  have := List.length_pos_iff.mpr nonempty
  rw [show (1 : Int32) = Int32.ofNat 1 from rfl, ← Int32.ofNat_sub _ _ (by omega)]
  exact Int32.toInt_ofNat_of_lt (by omega)

theorem exists_element (xs : List (Packet δ)) (i : Nat) (inside : i < xs.length) :
    ∃ p, xs[i]? = some p :=
  ⟨xs[i], List.getElem?_eq_getElem inside⟩

/-- Is the newest packet of the write buffer older than `startIdx`? -/
theorem writeLast_test (live : Live b previous current) (window : Window h lo previous current)
    (small : current.length < 2 ^ 31) (fits : h.length ≤ 2 ^ 32) (nonempty : current ≠ []) :
    slotTest (b.writeBuffer.dataNum > 0) (b.writeSlot (b.writeBuffer.dataNum - 1).toInt)
      (· < startIdx) = .ok (decide (h.length ≤ startIdx.toNat)) := by
  have size := window.length
  have nonzero := List.length_pos_iff.mpr nonempty
  obtain ⟨p, element⟩ := exists_element current (current.length - 1) (by omega)
  rw [live.writeNum, last_index nonempty small,
    slotTest_ok (ofNat_pos nonempty small) (live.writeSlot element), window.currentIdx element]
  rw [Except.ok.injEq, decide_eq_decide, ofNat_lt_start (by omega)]
  omega

/-- Does the write buffer reach back to `startIdx`? -/
theorem writeFirst_test (live : Live b previous current) (window : Window h lo previous current)
    (small : current.length < 2 ^ 31) (fits : h.length ≤ 2 ^ 32) (nonempty : current ≠ []) :
    slotTest (b.writeBuffer.dataNum > 0) (b.writeSlot 0) (· ≤ startIdx) =
      .ok (decide (lo + previous.length ≤ startIdx.toNat)) := by
  have size := window.length
  have nonzero := List.length_pos_iff.mpr nonempty
  obtain ⟨p, element⟩ := exists_element current 0 nonzero
  have slot : b.writeSlot 0 = .ok p := live.writeSlot element
  rw [live.writeNum, slotTest_ok (ofNat_pos nonempty small) slot,
    window.currentIdx element, Nat.add_zero]
  rw [Except.ok.injEq, decide_eq_decide, ofNat_le_start (by omega)]

theorem write_test_empty (live : Live b previous []) (slot : Except Fault (Packet δ))
    (test : UInt32 → Bool) : slotTest (b.writeBuffer.dataNum > 0) slot test = .ok false := by
  rw [live.writeNum]
  exact slotTest_false slot test

/-- Is the newest packet of the read buffer older than `startIdx`, the write buffer
being empty? -/
theorem readLast_test (live : Live b previous []) (window : Window h lo previous [])
    (small : previous.length < 2 ^ 31) (fits : h.length ≤ 2 ^ 32) (nonempty : previous ≠ []) :
    slotTest (b.writeBuffer.dataNum = 0 && b.readBuffer.dataNum > 0)
      (b.readSlot (b.readBuffer.dataNum - 1).toInt) (· < startIdx) =
      .ok (decide (h.length ≤ startIdx.toNat)) := by
  have size := window.length
  have nonzero := List.length_pos_iff.mpr nonempty
  obtain ⟨p, element⟩ := exists_element previous (previous.length - 1) (by omega)
  have guard : (decide (b.writeBuffer.dataNum = 0) && decide (b.readBuffer.dataNum > 0)) = true := by
    rw [live.writeNum, live.readNum, ofNat_pos nonempty small]
    rfl
  rw [slotTest_ok guard (by
      rw [live.readNum, last_index nonempty small]; exact live.readSlot element),
    window.previousIdx element]
  simp only [List.length_nil] at size
  rw [Except.ok.injEq, decide_eq_decide, ofNat_lt_start (by omega)]
  omega

theorem read_test_empty (live : Live b [] current) (slot : Except Fault (Packet δ))
    (test : UInt32 → Bool) : slotTest (b.readBuffer.dataNum > 0) slot test = .ok false := by
  rw [live.readNum]
  exact slotTest_false slot test

theorem readFirst_test (live : Live b previous current) (window : Window h lo previous current)
    (small : previous.length < 2 ^ 31) (nonempty : previous ≠ []) (op : UInt32 → Bool) :
    slotTest (b.readBuffer.dataNum > 0) (b.readSlot 0) op = .ok (op (UInt32.ofNat lo)) := by
  obtain ⟨p, element⟩ := exists_element previous 0 (List.length_pos_iff.mpr nonempty)
  have slot : b.readSlot 0 = .ok p := live.readSlot element
  rw [live.readNum, slotTest_ok (ofNat_pos nonempty small) slot,
    window.previousIdx element, Nat.add_zero]

/-- The branch that the write buffer serves alone. -/
theorem sinceWrite_window (live : Live b previous current) (window : Window h lo previous current)
    (copies : ∀ p, copy p = p) (small : current.length < 2 ^ 31)
    (reached : lo + previous.length ≤ startIdx.toNat) (before : startIdx.toNat < h.length) :
    b.sinceWrite copy startIdx = .ok (sinceResponse h lo startIdx) := by
  have size := window.length
  obtain ⟨first, element⟩ := exists_element current 0 (by omega)
  have distance : startIdx - first.packetIdx =
      UInt32.ofNat (startIdx.toNat - (lo + previous.length)) := by
    rw [window.currentIdx element, Nat.add_zero, start_sub reached]
  rw [sinceWrite_live live copies small element (by omega) distance, window.current_drop,
    sinceResponse, if_neg (by omega), if_pos (by omega)]
  rw [show lo + previous.length + (startIdx.toNat - (lo + previous.length)) = startIdx.toNat by omega,
    show current.length - (startIdx.toNat - (lo + previous.length)) = h.length - startIdx.toNat by
      omega]

/-- The branches that need the read buffer. -/
theorem sinceReadBranches_window (live : Live b previous current)
    (window : Window h lo previous current) (copies : ∀ p, copy p = p)
    (small : previous.length + current.length < 2 ^ 31) (fits : h.length ≤ 2 ^ 32)
    (before : startIdx.toNat < lo + previous.length) :
    b.sinceReadBranches copy startIdx = .ok (sinceResponse h lo startIdx) := by
  have size := window.length
  have nonempty : previous ≠ [] := by
    intro none
    have := window.start none
    subst none
    simp at before
    omega
  have nonzero := List.length_pos_iff.mpr nonempty
  have loSmall : lo < 2 ^ 32 := by omega
  simp only [sinceReadBranches, readFirst_test live window (by omega) nonempty, bind, Except.bind,
    decide_eq_true_eq, gt_iff_lt, ofNat_le_start loSmall]
  by_cases reached : lo ≤ startIdx.toNat
  · obtain ⟨first, element⟩ := exists_element previous 0 nonzero
    have distance : startIdx - first.packetIdx = UInt32.ofNat (startIdx.toNat - lo) := by
      rw [window.previousIdx element, Nat.add_zero, start_sub reached]
    rw [if_pos reached, sinceRead_live live copies small element (by omega) distance,
      window.joined, List.drop_drop, sinceResponse, if_neg (by omega), if_pos reached]
    rw [show lo + (startIdx.toNat - lo) = startIdx.toNat by omega,
      show previous.length + current.length - (startIdx.toNat - lo) = h.length - startIdx.toNat by
        omega]
  · have after : startIdx < UInt32.ofNat lo := by
      rw [UInt32.lt_iff_toNat_lt, UInt32.toNat_ofNat_of_lt' loSmall]; omega
    rw [if_neg reached, if_pos after, copyBoth_live live copies small, window.joined,
      sinceResponse, if_neg (by omega), if_neg reached]
    rw [show previous.length + current.length = h.length - lo by omega]

theorem sinceReadBranches_empty (live : Live b [] current) :
    b.sinceReadBranches copy startIdx = .ok emptyResponse := by
  simp only [sinceReadBranches, read_test_empty live, bind, Except.bind, pure, Except.pure,
    Bool.false_eq_true, if_false]

end Window

/-! ## What the answers should be -/

/-- The answer about the packets from index `startIdx` on, the store having accepted
the data `h` and keeping them from `windowStart` on. -/
def AnswersSince (N : Nat) (h : List δ) (startIdx : UInt32)
    (answer : Except Fault (DataResponse δ)) : Prop :=
  let lo := Generations.windowStart N h.length
  (h.length ≤ startIdx.toNat → answer = .ok ⟨.noData, [], 0⟩) ∧
  (lo ≤ startIdx.toNat ∧ startIdx.toNat < h.length →
    ∃ response, answer = .ok response ∧ response.state = .success ∧
      response.packets = ((stamped h).drop startIdx.toNat).map some ∧
      response.packetCount.toNat = response.packets.length) ∧
  (startIdx.toNat < lo →
    ∃ response, answer = .ok response ∧ response.state = .partialData ∧
      response.packets = ((stamped h).drop lo).map some ∧
      response.packetCount.toNat = response.packets.length)

/-- The answers about the newest packets, of which the store keeps `windowSize`. -/
def AnswersLatest (N : Nat) (h : List δ)
    (answer : UInt32 → Except Fault (DataResponse δ)) : Prop :=
  let R := Generations.windowSize N h.length
  ∀ count : UInt32,
    (count = 0 ∨ R = 0 → answer count = .ok ⟨.noData, [], 0⟩) ∧
    (1 ≤ count.toNat ∧ count.toNat ≤ R →
      ∃ response, answer count = .ok response ∧ response.state = .success ∧
        response.packets = ((stamped h).drop (h.length - count.toNat)).map some ∧
        response.packetCount.toNat = response.packets.length ∧
        response.packets.length = count.toNat) ∧
    (R < count.toNat ∧ 1 ≤ R →
      ∃ response, answer count = .ok response ∧ response.state = .partialData ∧
        response.packets = ((stamped h).drop (h.length - R)).map some ∧
        response.packetCount.toNat = response.packets.length ∧
        response.packets.length = R)

theorem sinceResponse_answers (h : List δ) (few : h.length ≤ 2 ^ 32) (small : N ≤ 2 ^ 30)
    (pos : 0 < N) (startIdx : UInt32) : AnswersSince N h startIdx
      (.ok (sinceResponse h (Generations.windowStart N h.length) startIdx)) := by
  have start := Generations.windowStart_add_size (N := N) h.length
  have bound := Generations.windowSize_lt pos h.length
  refine ⟨?_, ?_, ?_⟩
  · intro after
    rw [sinceResponse, if_pos after]; rfl
  · rintro ⟨reached, before⟩
    refine ⟨_, rfl, ?_⟩
    rw [sinceResponse, if_neg (by omega), if_pos reached]
    refine ⟨rfl, rfl, ?_⟩
    rw [List.length_map, List.length_drop, length_stamped]
    exact UInt32.toNat_ofNat_of_lt' (by rw [UInt32.size]; omega)
  · intro early
    refine ⟨_, rfl, ?_⟩
    rw [sinceResponse, if_neg (by omega), if_neg (by omega)]
    refine ⟨rfl, rfl, ?_⟩
    rw [List.length_map, List.length_drop, length_stamped]
    exact UInt32.toNat_ofNat_of_lt' (by rw [UInt32.size]; omega)

theorem latestResponse_answers (h : List δ) (pos : 0 < N) (small : N ≤ 2 ^ 30) :
    AnswersLatest N h fun count =>
      .ok (latestResponse ((stamped h).drop (Generations.windowStart N h.length)) count) := by
  have start := Generations.windowStart_add_size (N := N) h.length
  have bound := Generations.windowSize_lt pos h.length
  have kept : ((stamped h).drop (Generations.windowStart N h.length)).length =
      Generations.windowSize N h.length := by
    rw [List.length_drop, length_stamped]; omega
  intro count
  refine ⟨?_, ?_, ?_⟩
  · intro none
    apply congrArg Except.ok
    rw [latestResponse, if_pos, emptyResponse]
    rcases none with zero | empty
    · exact .inl zero
    · exact .inr (List.length_eq_zero_iff.mp (kept.trans empty))
  · rintro ⟨positive, enough⟩
    have nonzero : ¬ (count = 0 ∨ (stamped h).drop (Generations.windowStart N h.length) = []) := by
      rintro (rfl | empty)
      · simp at positive
      · rw [empty, List.length_nil] at kept; omega
    refine ⟨_, rfl, ?_⟩
    rw [latestResponse, if_neg nonzero, if_pos (by rw [kept]; exact enough)]
    refine ⟨rfl, ?_, ?_, ?_⟩
    · rw [List.drop_drop, kept, show Generations.windowStart N h.length +
        (Generations.windowSize N h.length - count.toNat) = h.length - count.toNat by omega]
    · simp only [List.length_map, List.length_drop, length_stamped] at kept ⊢; omega
    · simp only [List.length_map, List.length_drop, length_stamped] at kept ⊢; omega
  · rintro ⟨fewer, positive⟩
    have nonzero : ¬ (count = 0 ∨ (stamped h).drop (Generations.windowStart N h.length) = []) := by
      rintro (rfl | empty)
      · simp at fewer
      · rw [empty, List.length_nil] at kept; omega
    refine ⟨_, rfl, ?_⟩
    rw [latestResponse, if_neg nonzero, if_neg (by rw [kept]; omega)]
    refine ⟨rfl, ?_, ?_, ?_⟩
    · rw [show h.length - Generations.windowSize N h.length =
        Generations.windowStart N h.length by omega]
    · rw [List.length_map, kept]
      exact UInt32.toNat_ofNat_of_lt' (by rw [UInt32.size]; omega)
    · rw [List.length_map, kept]

/-! ## The queries on a represented history -/

section Queries

variable {pos : 0 < N} {h : List δ} {copy : Packet δ → Packet δ}

theorem Represents.generations_small (pos : 0 < N) (h : List δ) (small : N ≤ 2 ^ 30) :
    (Generations.ofHistory pos (stamped h)).previous.length +
      (Generations.ofHistory pos (stamped h)).current.length < 2 ^ 31 := by
  have size := Generations.retained_length pos (stamped h)
  have bound := Generations.windowSize_lt pos (stamped h).length
  rw [Generations.retained, List.length_append] at size
  omega

theorem Represents.getLatestCount (represents : Represents pos b h) (small : N ≤ 2 ^ 30)
    (copies : ∀ p, copy p = p) (count : UInt32) :
    b.getLatestCount copy count =
      .ok (latestResponse ((stamped h).drop (Generations.windowStart N h.length)) count) := by
  rw [getLatestCount_live represents.live copies (generations_small pos h small),
    (ofHistory_window pos h).joined]

theorem latestResponse_one {xs : List (Packet δ)} (nonempty : xs ≠ []) :
    latestResponse xs 1 = ⟨.success, [some (xs.getLast nonempty)], 1⟩ := by
  have some := List.length_pos_iff.mpr nonempty
  rw [latestResponse, if_neg (by simp [nonempty]), show (1 : UInt32).toNat = 1 from rfl,
    if_pos (show 1 ≤ xs.length from some), List.drop_length_sub_one nonempty]
  rfl

theorem singleResponse_ok (copies : ∀ p, copy p = p) (p : Packet δ) :
    singleResponse (copy <$> (.ok p : Except Fault (Packet δ))) = .ok ⟨.success, [some p], 1⟩ := by
  simp [singleResponse, newArray, put, copies, bind, Except.bind, pure, Except.pure,
    Functor.map, Except.map]

theorem getElem?_last (xs : List (Packet δ)) (nonempty : xs ≠ []) :
    xs[xs.length - 1]? = some (xs.getLast nonempty) := by
  rw [← List.getLast?_eq_getElem?, List.getLast?_eq_some_getLast nonempty]

theorem last_nonneg (xs : List (Packet δ)) (nonempty : xs ≠ []) (small : xs.length < 2 ^ 31) :
    Int32.ofNat xs.length - 1 ≥ 0 := by
  rw [ge_iff_le, Int32.le_iff_toInt_le, last_index nonempty small]
  exact Int.natCast_nonneg _

/-- The query without a count, while the write buffer has a packet. -/
theorem getLatestOne_current (live : Live b previous current) (copies : ∀ p, copy p = p)
    (small : current.length < 2 ^ 31) (nonempty : current ≠ [])
    (fallback : PacketBuffers δ → Int → Except Fault (Packet δ)) :
    b.getLatestOne copy fallback = .ok ⟨.success, [some (current.getLast nonempty)], 1⟩ := by
  rw [getLatestOne, live.writeNum]
  simp only [if_pos (last_nonneg current nonempty small), last_index nonempty small,
    live.writeSlot (getElem?_last current nonempty), singleResponse_ok copies]

/-- With both buffers empty there is none. -/
theorem getLatestOne_empty (live : Live b [] [])
    (fallback : PacketBuffers δ → Int → Except Fault (Packet δ)) :
    b.getLatestOne copy fallback = .ok emptyResponse := by
  rw [getLatestOne, live.writeNum, live.readNum]
  rfl

/-- With the write buffer empty the packet is the one that the fallback finds. -/
theorem getLatestOne_fallback (live : Live b previous []) (copies : ∀ p, copy p = p)
    (small : previous.length < 2 ^ 31) (nonempty : previous ≠ [])
    {fallback : PacketBuffers δ → Int → Except Fault (Packet δ)} {p : Packet δ}
    (found : fallback b ((previous.length - 1 : Nat) : Int) = .ok p) :
    b.getLatestOne copy fallback = .ok ⟨.success, [some p], 1⟩ := by
  rw [getLatestOne, live.writeNum, live.readNum]
  have none : ¬ (Int32.ofNat ([] : List (Packet δ)).length - 1 ≥ 0) := by
    rw [List.length_nil]
    decide
  simp only [if_neg none, if_pos (last_nonneg previous nonempty small), last_index nonempty small, found,
    singleResponse_ok copies]

/-- The newest packet, from the write buffer or, when that is empty, from the read
buffer. -/
theorem getLatestOne_live (live : Live b previous current) (copies : ∀ p, copy p = p)
    (small : previous.length + current.length < 2 ^ 31) :
    b.getLatestOne copy PacketBuffers.readSlot = .ok (latestResponse (previous ++ current) 1) := by
  by_cases fresh : current = []
  · subst fresh
    by_cases empty : previous = []
    · subst empty
      exact getLatestOne_empty live _
    · have found := live.readSlot (getElem?_last previous empty)
      rw [getLatestOne_fallback live copies (by omega) empty found, List.append_nil,
        latestResponse_one empty]
  · rw [getLatestOne_current live copies (by omega) fresh, latestResponse_one (by simp [fresh]),
      List.getLast_append_of_ne_nil _ fresh]

theorem Represents.getLatestOne (represents : Represents pos b h) (small : N ≤ 2 ^ 30)
    (copies : ∀ p, copy p = p) :
    b.getLatestOne copy PacketBuffers.readSlot = b.getLatestCount copy 1 := by
  rw [getLatestOne_live represents.live copies (generations_small pos h small),
    getLatestCount_live represents.live copies (generations_small pos h small)]

end Queries

end OmmoSdk.Storage.PacketBuffers
