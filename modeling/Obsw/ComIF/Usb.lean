import Mathlib.Algebra.GroupWithZero.Nat
import Mathlib.Logic.Function.Basic
import Obsw.Lib.Fifo
import Obsw.Lib.Loop

/-!
# `ComIF.Usb` — receiving frames over USB

`USBPolling` reads frames into two buffers in turn. A polling task puts them into a ring buffer, and
their sizes into a queue beside it; `USBDeviceComIF` takes a size and reads as many bytes. The containers
are those of the framework, which is not part of the repository. Whether `writeData` takes a frame is an
input. Whether `readData` removes what it reads is a parameter: it does not, where the flag for it is not
passed, and the other readers of ring buffers delete the bytes by a call of their own.

Sizes and bytes go together in runs whose events satisfy `EventFits` (`usb_matched_iff`). If `readData`
removes nothing, these are the runs that read nothing but empty frames.
-/

namespace Obsw
namespace Usb

open Loop

/-! ## The polling task -/

/-- The two transfers. -/
inductive Transfer where
  | one
  | two
  deriving DecidableEq, Repr

def Transfer.other : Transfer → Transfer
  | .one => .two
  | .two => .one

/-- `UsbStruct`, with the state of its semaphore. The flag `bufferReady` is never cleared, so that
    `dataComingInTooFast` is never set; they are left out. -/
structure UsbStruct where
  /-- the bytes of `receiveBuffer` up to `dataReceived` -/
  received : List UInt8
  semaphoreFree : Bool

/-- The polling task and the interface. The last three fields are for the statements: the frames that were
    received, those whose sizes are in the queue, and those that were read. -/
structure UsbState where
  structs : Transfer → UsbStruct
  /-- the read operation the driver is in -/
  reading : Option Transfer
  /-- the transfer whose semaphore the task waits for -/
  waitsFor : Transfer
  ringBuffer : List UInt8
  receiveSizes : Fifo Nat
  usbBuffer : List UInt8
  sizeRead : Nat
  received : List (List UInt8)
  frames : List (List UInt8)
  delivered : List (List UInt8)

namespace UsbState

/-- `UsbDataReceived`, the callback of a read operation. The next one is started if the semaphore of the
    other transfer can be taken. -/
def usbDataReceived (data : List UInt8) (readStarts : Bool) (s : UsbState) : UsbState :=
  match s.reading with
  | none => s
  | some i =>
    let s' := { s with
      structs := Function.update s.structs i ⟨data, true⟩
      reading := none
      received := s.received ++ [data] }
    if (s.structs i).semaphoreFree = true then s'
    else if (s'.structs i.other).semaphoreFree = false then s'
    else
      { s' with
        structs := Function.update s'.structs i.other
          { s'.structs i.other with semaphoreFree := false }
        reading := if readStarts then some i.other else none }

/-- `writeTransfer1ToRingBuffer` and `writeTransfer2ToRingBuffer`. Neither result is looked at: `accepted`
    says whether the ring buffer takes the frame. -/
def writeTransferToRingBuffer (i : Transfer) (accepted : Bool) (s : UsbState) : UsbState :=
  let frame := (s.structs i).received
  { s with
    ringBuffer := if accepted then s.ringBuffer ++ frame else s.ringBuffer
    receiveSizes := (s.receiveSizes.insert frame.length).getD s.receiveSizes
    frames := if (s.receiveSizes.insert frame.length).isSome then s.frames ++ [frame] else s.frames }

/-- A step of the loop in `performOperation`, once the semaphore is there. -/
def poll (accepted : Bool) (s : UsbState) : UsbState :=
  if (s.structs s.waitsFor).semaphoreFree then
    { s.writeTransferToRingBuffer s.waitsFor accepted with
      structs := Function.update s.structs s.waitsFor
        { s.structs s.waitsFor with semaphoreFree := false }
      waitsFor := s.waitsFor.other }
  else s

/-! ## `USBDeviceComIF` -/

/-- `requestReceiveMessage`. The result of `readData`, which fails if there are too few bytes, is not looked at. -/
def requestReceiveMessage (removes : Bool) (s : UsbState) : UsbState :=
  match s.receiveSizes.retrieve with
  | none => s
  | some (sizeRead, receiveSizes) =>
    if s.ringBuffer.length < sizeRead then { s with receiveSizes := receiveSizes, sizeRead := sizeRead }
    else
      { s with
        receiveSizes := receiveSizes
        sizeRead := sizeRead
        usbBuffer := s.ringBuffer.take sizeRead ++ s.usbBuffer.drop sizeRead
        ringBuffer := if removes then s.ringBuffer.drop sizeRead else s.ringBuffer }

/-- `readReceivedMessage`: the message, which is empty where the caller's arguments are left alone. -/
def readReceivedMessage (s : UsbState) : List UInt8 × UsbState :=
  if 0 < s.sizeRead then (s.usbBuffer.take s.sizeRead, { s with sizeRead := 0 })
  else ([], s)

/-- A request and the read behind it. -/
def read (removes : Bool) (s : UsbState) : UsbState :=
  let result := (s.requestReceiveMessage removes).readReceivedMessage
  match s.receiveSizes.elements with
  | [] => result.2
  | _ :: _ => { result.2 with frames := s.frames.tail, delivered := s.delivered ++ [result.1] }

end UsbState

/-! ## Runs -/

inductive Event where
  | usbDataReceived (data : List UInt8) (readStarts : Bool)
  | poll (accepted : Bool)
  | read

def step (removes : Bool) : Event → UsbState → UsbState
  | .usbDataReceived data readStarts, s => s.usbDataReceived data readStarts
  | .poll accepted, s => s.poll accepted
  | .read, s => s.read removes

/-- The first read operation has been started, with the semaphore of the first transfer. -/
def UsbState.initial (fifoDepth : Nat) : UsbState where
  structs := fun i => ⟨[], decide (i = .two)⟩
  reading := some .one
  waitsFor := .one
  ringBuffer := []
  receiveSizes := Fifo.empty fifoDepth
  usbBuffer := []
  sizeRead := 0
  received := []
  frames := []
  delivered := []

/-! ## What is promised -/

/-- The sizes in the queue add up to the bytes in the ring buffer. -/
def Counted (s : UsbState) : Prop := s.receiveSizes.elements.sum = s.ringBuffer.length

/-- And every read gave one received frame, in the order of their reception. -/
structure Matched (s : UsbState) : Prop where
  counted : Counted s
  order : s.delivered.Sublist s.received

/-- A frame that is put away is empty, or the ring buffer takes it exactly if its size fits into the queue.
    A frame that is read is removed, or empty. -/
def EventFits (removes : Bool) (e : Event) (s : UsbState) : Prop :=
  match e with
  | .usbDataReceived _ _ => True
  | .poll accepted =>
    (s.structs s.waitsFor).semaphoreFree = true → (s.structs s.waitsFor).received ≠ [] →
      (accepted = true ↔ 0 < s.receiveSizes.room)
  | .read => ∀ size, s.receiveSizes.elements.head? = some size → removes = true ∨ size = 0

/-! ## Sizes and bytes -/

variable {removes : Bool} {s : UsbState}

theorem poll_counted_iff (accepted : Bool) (h : Counted s) :
    Counted (s.poll accepted) ↔ EventFits removes (.poll accepted) s := by
  unfold EventFits UsbState.poll
  cases hfree : (s.structs s.waitsFor).semaphoreFree with
  | false => exact iff_of_true h fun hfalse => by cases hfalse
  | true =>
      rw [if_pos rfl]
      generalize hframe : (s.structs s.waitsFor).received = frame
      have hcount : s.receiveSizes.elements.sum = s.ringBuffer.length := h
      have hsizes := congrArg List.sum (Fifo.elements_write_getD s.receiveSizes [frame.length])
      rw [List.sum_append, List.length_singleton] at hsizes
      show ((s.receiveSizes.insert (s.structs s.waitsFor).received.length).getD s.receiveSizes).elements.sum =
        (if accepted then s.ringBuffer ++ (s.structs s.waitsFor).received else s.ringBuffer).length ↔ _
      rw [hframe, show s.receiveSizes.insert frame.length = s.receiveSizes.write [frame.length] from rfl, hsizes,
        hcount]
      have hempty : frame ≠ [] ↔ frame.length ≠ 0 := not_congr List.length_eq_zero_iff.symm
      rw [hempty, apply_ite List.sum, apply_ite List.length, List.sum_singleton, List.sum_nil, List.length_append]
      cases accepted
      all_goals by_cases hroom : 1 ≤ s.receiveSizes.room
      · rw [if_neg Bool.false_ne_true, if_pos hroom]
        constructor
        · intro heq _ hne
          omega
        · intro hagree
          by_contra hne
          cases (hagree rfl (by omega)).mpr hroom
      · rw [if_neg Bool.false_ne_true, if_neg hroom]
        exact iff_of_true rfl fun _ _ => iff_of_false Bool.false_ne_true hroom
      · rw [if_pos rfl, if_pos hroom]
        exact iff_of_true rfl fun _ _ => iff_of_true rfl hroom
      · rw [if_pos rfl, if_neg hroom]
        constructor
        · intro heq _ hne
          omega
        · intro hagree
          by_contra hne
          exact hroom ((hagree rfl (by omega)).mp rfl)

theorem readReceivedMessage_containers (s : UsbState) :
    s.readReceivedMessage.2.receiveSizes = s.receiveSizes ∧
      s.readReceivedMessage.2.ringBuffer = s.ringBuffer := by
  unfold UsbState.readReceivedMessage
  split <;> exact ⟨rfl, rfl⟩

/-- Without a size in the queue, nothing is read. -/
theorem read_of_nil (hsizes : s.receiveSizes.elements = []) :
    s.read removes = s.readReceivedMessage.2 := by
  unfold UsbState.read UsbState.requestReceiveMessage
  rw [Fifo.retrieve_of_nil hsizes, hsizes]

/-- A size in the queue, and as many bytes in the ring buffer. -/
theorem requestReceiveMessage_of_cons (removes : Bool) {size : Nat} {sizes : List Nat}
    (hsizes : s.receiveSizes.elements = size :: sizes) (hle : size ≤ s.ringBuffer.length) :
    ∃ receiveSizes, receiveSizes.elements = sizes ∧ s.requestReceiveMessage removes =
        { s with
          receiveSizes := receiveSizes
          sizeRead := size
          usbBuffer := s.ringBuffer.take size ++ s.usbBuffer.drop size
          ringBuffer := if removes then s.ringBuffer.drop size else s.ringBuffer } := by
  obtain ⟨receiveSizes, hretrieve, helements⟩ := Fifo.retrieve_of_cons hsizes
  refine ⟨receiveSizes, helements, ?_⟩
  unfold UsbState.requestReceiveMessage
  rw [hretrieve]
  exact if_neg (Nat.not_lt.mpr hle)

theorem read_counted_iff (h : Counted s) : Counted (s.read removes) ↔ EventFits removes .read s := by
  have hcount : s.receiveSizes.elements.sum = s.ringBuffer.length := h
  unfold EventFits
  cases hsizes : s.receiveSizes.elements with
  | nil =>
      refine iff_of_true ?_ fun size hsize => by cases hsize
      rw [read_of_nil hsizes, Counted, (readReceivedMessage_containers s).1,
        (readReceivedMessage_containers s).2]
      exact hcount
  | cons size sizes =>
      rw [hsizes, List.sum_cons] at hcount
      have hle : size ≤ s.ringBuffer.length := by omega
      obtain ⟨receiveSizes, helements, hrequest⟩ := requestReceiveMessage_of_cons removes hsizes hle
      have hcontainers := readReceivedMessage_containers (s.requestReceiveMessage removes)
      have hread : Counted (s.read removes) ↔
          sizes.sum = (if removes then s.ringBuffer.drop size else s.ringBuffer).length := by
        unfold UsbState.read
        rw [hsizes]
        show (s.requestReceiveMessage removes).readReceivedMessage.2.receiveSizes.elements.sum =
          (s.requestReceiveMessage removes).readReceivedMessage.2.ringBuffer.length ↔ _
        rw [hcontainers.1, hcontainers.2, hrequest]
        dsimp only
        rw [helements]
      rw [hread, List.head?_cons]
      cases removes with
      | true =>
          refine iff_of_true ?_ fun _ _ => Or.inl rfl
          rw [if_pos rfl, List.length_drop]
          omega
      | false =>
          rw [if_neg Bool.false_ne_true]
          constructor
          · intro heq size' hsize
            obtain rfl := Option.some.inj hsize
            right
            omega
          · intro hzero
            rcases hzero size rfl with hfalse | hzero
            · cases hfalse
            · omega

theorem step_counted_iff (removes : Bool) (e : Event) (s : UsbState) (h : Counted s) :
    Counted (step removes e s) ↔ EventFits removes e s := by
  cases e with
  | poll accepted => exact poll_counted_iff accepted h
  | read => exact read_counted_iff h
  | usbDataReceived data readStarts =>
      refine iff_of_true ?_ trivial
      show Counted (s.usbDataReceived data readStarts)
      unfold UsbState.usbDataReceived
      cases s.reading with
      | none => exact h
      | some i =>
          dsimp only
          split_ifs <;> exact h

/-! ## Order -/

/-- What was read and what can be read are received frames in order. A frame that is about to be put away
    is the last one received, and the driver reads into buffers whose semaphore is taken. -/
structure Ordered (removes : Bool) (s : UsbState) : Prop where
  sizes : s.receiveSizes.elements = s.frames.map List.length
  content : removes = true → s.ringBuffer = s.frames.flatten
  sizeRead : s.sizeRead = 0
  stored : (s.delivered ++ s.frames).Sublist s.received
  reading : ∀ i, s.reading = some i → (s.structs i).semaphoreFree = false
  waits : (s.structs s.waitsFor).semaphoreFree = true →
    (s.structs s.waitsFor.other).semaphoreFree = false ∧
      ∃ front, s.received = front ++ [(s.structs s.waitsFor).received] ∧
        (s.delivered ++ s.frames).Sublist front

theorem ordered_initial (fifoDepth : Nat) : Ordered removes (.initial fifoDepth) where
  sizes := rfl
  content := fun _ => rfl
  sizeRead := rfl
  stored := List.Sublist.refl []
  reading := by
    intro i hi
    obtain rfl := Option.some.inj hi
    rfl
  waits := fun h => by cases h

theorem Transfer.other_ne (i : Transfer) : i.other ≠ i := by cases i <;> decide

theorem Transfer.eq_or_other (i j : Transfer) : j = i ∨ j = i.other := by
  cases i <;> cases j <;> decide

theorem ordered_usbDataReceived (h : Ordered removes s) (data : List UInt8) (readStarts : Bool) :
    Ordered removes (s.usbDataReceived data readStarts) := by
  unfold UsbState.usbDataReceived
  cases hreading : s.reading with
  | none => exact h
  | some i =>
      have htaken := h.reading i hreading
      have hstored : (s.delivered ++ s.frames).Sublist (s.received ++ [data]) :=
        h.stored.trans (List.sublist_append_left _ _)
      have hself : Function.update s.structs i ⟨data, true⟩ i = ⟨data, true⟩ := Function.update_self ..
      have hother : Function.update s.structs i ⟨data, true⟩ i.other = s.structs i.other :=
        Function.update_of_ne i.other_ne _ _
      dsimp only
      rw [if_neg (by rw [htaken]; decide)]
      by_cases hfree : (Function.update s.structs i ⟨data, true⟩ i.other).semaphoreFree = false
      · rw [if_pos hfree]
        refine ⟨h.sizes, h.content, h.sizeRead, hstored, fun _ hnone => (by cases hnone), fun hwaits => ?_⟩
        dsimp only at hwaits ⊢
        rcases i.eq_or_other s.waitsFor with hw | hw
        · rw [hw, hself]
          exact ⟨hfree, s.received, rfl, h.stored⟩
        · rw [hw, hfree] at hwaits
          cases hwaits
      · rw [if_neg hfree]
        refine ⟨h.sizes, h.content, h.sizeRead, hstored, fun j hj => ?_, fun hwaits => ?_⟩
        · dsimp only at hj ⊢
          split at hj
          · obtain rfl := Option.some.inj hj
            rw [Function.update_self]
          · cases hj
        · dsimp only at hwaits ⊢
          rcases i.eq_or_other s.waitsFor with hw | hw
          · rw [hw, Function.update_self, Function.update_of_ne i.other_ne.symm, hself]
            exact ⟨rfl, s.received, rfl, h.stored⟩
          · rw [hw, Function.update_self] at hwaits
            cases hwaits

theorem ordered_poll {accepted : Bool} (h : Ordered removes s) (hfits : EventFits removes (.poll accepted) s) :
    Ordered removes (s.poll accepted) := by
  unfold UsbState.poll
  split
  · rename_i hfree
    obtain ⟨htaken, front, hreceived, hfront⟩ := h.waits hfree
    have hinsert := Fifo.elements_write_getD s.receiveSizes [(s.structs s.waitsFor).received.length]
    have hroom := Fifo.isSome_insert (q := s.receiveSizes) (s.structs s.waitsFor).received.length
    refine ⟨?_, fun hremoves => ?_, h.sizeRead, ?_, fun i hi => ?_, fun hwaits => ?_⟩
    · show ((s.receiveSizes.write [(s.structs s.waitsFor).received.length]).getD s.receiveSizes).elements =
        (if (s.receiveSizes.insert (s.structs s.waitsFor).received.length).isSome then
          s.frames ++ [(s.structs s.waitsFor).received] else s.frames).map List.length
      rw [hinsert, List.length_singleton]
      by_cases hpos : 1 ≤ s.receiveSizes.room
      · rw [if_pos hpos, if_pos (hroom.mpr hpos), h.sizes, List.map_append]
        rfl
      · rw [if_neg hpos, if_neg (mt hroom.mp hpos), h.sizes, List.append_nil]
    · show (if accepted then s.ringBuffer ++ (s.structs s.waitsFor).received else s.ringBuffer) =
        (if (s.receiveSizes.insert (s.structs s.waitsFor).received.length).isSome then
          s.frames ++ [(s.structs s.waitsFor).received] else s.frames).flatten
      rw [h.content hremoves, apply_ite List.flatten, List.flatten_append, List.flatten_singleton]
      by_cases hempty : (s.structs s.waitsFor).received = []
      · simp [hempty]
      · -- both containers take the frame, or neither does
        have hboth := (hfits hfree hempty).trans hroom.symm
        by_cases haccepted : accepted = true
        · rw [if_pos haccepted, if_pos (hboth.mp haccepted)]
        · rw [if_neg haccepted, if_neg (mt hboth.mpr haccepted)]
    · show (s.delivered ++ if (s.receiveSizes.insert (s.structs s.waitsFor).received.length).isSome then
          s.frames ++ [(s.structs s.waitsFor).received] else s.frames).Sublist s.received
      split
      · rw [← List.append_assoc, hreceived]
        exact hfront.append (List.Sublist.refl _)
      · exact h.stored
    · dsimp only
      rcases s.waitsFor.eq_or_other i with rfl | rfl
      · rw [Function.update_self]
      · rw [Function.update_of_ne (Transfer.other_ne _)]
        exact htaken
    · dsimp only at hwaits
      rw [Function.update_of_ne (Transfer.other_ne _), htaken] at hwaits
      cases hwaits
  · exact h

/-- What a read gives: nothing for an empty frame, and else the bytes that were copied. -/
theorem readReceivedMessage_of_size (s : UsbState) :
    s.readReceivedMessage = (s.usbBuffer.take s.sizeRead, { s with sizeRead := 0 }) := by
  unfold UsbState.readReceivedMessage
  split
  · rfl
  · rename_i hzero
    obtain hsize := Nat.eq_zero_of_not_pos hzero
    rw [hsize, List.take_zero]
    obtain ⟨_, _, _, _, _, _, _, _, _, _⟩ := s
    obtain rfl : _ = 0 := hsize
    rfl

/-- A read gives the first of the frames that were put away. -/
theorem ordered_read (h : Ordered removes s) (hcounted : Counted s) (hfits : EventFits removes .read s) :
    Ordered removes (s.read removes) := by
  have hsizes := h.sizes
  cases hframes : s.frames with
  | nil =>
      rw [hframes] at hsizes
      rw [read_of_nil hsizes, UsbState.readReceivedMessage, h.sizeRead]
      exact h
  | cons frame frames =>
      rw [hframes, List.map_cons] at hsizes
      have hcount : s.receiveSizes.elements.sum = s.ringBuffer.length := hcounted
      rw [hsizes, List.sum_cons] at hcount
      obtain ⟨receiveSizes, helements, hrequest⟩ := requestReceiveMessage_of_cons removes hsizes (by omega)
      have hfrom : s.ringBuffer.take frame.length = frame ∧
          (removes = true → (if removes then s.ringBuffer.drop frame.length else s.ringBuffer) = frames.flatten) := by
        cases removes with
        | true =>
            have hcontent := h.content rfl
            rw [hframes, List.flatten_cons] at hcontent
            rw [hcontent, if_pos rfl, List.drop_left, List.take_left]
            exact ⟨rfl, fun _ => rfl⟩
        | false =>
            have hzero := hfits frame.length (by rw [hsizes]; rfl)
            rcases hzero with hfalse | hzero
            · cases hfalse
            · obtain rfl := List.length_eq_zero_iff.mp hzero
              exact ⟨rfl, fun hfalse => by cases hfalse⟩
      have hread : s.read removes =
          { s with
            receiveSizes := receiveSizes
            sizeRead := 0
            usbBuffer := frame ++ s.usbBuffer.drop frame.length
            ringBuffer := if removes then s.ringBuffer.drop frame.length else s.ringBuffer
            frames := frames
            delivered := s.delivered ++ [frame] } := by
        unfold UsbState.read
        rw [hsizes, hrequest, hfrom.1, readReceivedMessage_of_size]
        dsimp only
        rw [List.take_left, hframes]
        rfl
      have hstored := h.stored
      rw [hframes] at hstored
      rw [hread]
      refine ⟨helements, hfrom.2, rfl, ?_, h.reading, fun hwaits => ?_⟩
      · show (s.delivered ++ [frame] ++ frames).Sublist s.received
        rwa [List.append_assoc]
      · obtain ⟨htaken, front, hreceived, hfront⟩ := h.waits hwaits
        refine ⟨htaken, front, hreceived, ?_⟩
        show (s.delivered ++ [frame] ++ frames).Sublist front
        rw [List.append_assoc]
        rwa [hframes] at hfront

/-- **Frames over USB.** At every point of a run, sizes and bytes go together and the reads gave received
    frames in order, exactly if no frame is put away in part, and none is read that stays in the ring
    buffer. -/
theorem usb_matched_iff (removes : Bool) (fifoDepth : Nat) (events : List Event) :
    (∀ reached, reached <+: events → Matched (run (step removes) reached (.initial fifoDepth))) ↔
      AlongRun (EventFits removes) (step removes) events (.initial fifoDepth) := by
  have hcounted := forall_run_iff (step_counted_iff removes) events (.initial fifoDepth) rfl
  constructor
  · intro h
    exact hcounted.mp fun reached hreached => (h reached hreached).counted
  · intro h reached hreached
    refine ⟨hcounted.mpr h reached hreached, ?_⟩
    obtain ⟨rest, rfl⟩ := hreached
    have hordered := run_invariant (I := fun s => Ordered removes s ∧ Counted s) (fun e s hI hfits => ?_)
      reached _ ⟨ordered_initial fifoDepth, rfl⟩ (alongRun_append.mp h).1
    · exact (List.sublist_append_left _ _).trans hordered.1.stored
    · refine ⟨?_, (step_counted_iff removes e s hI.2).mpr hfits⟩
      cases e with
      | usbDataReceived data readStarts => exact ordered_usbDataReceived hI.1 data readStarts
      | poll accepted => exact ordered_poll hI.1 hfits
      | read => exact ordered_read hI.1 hI.2 hfits

/-- The size of a frame is kept though the ring buffer had no room for it. -/
theorem lost_frame_counted :
    ¬ ∀ (removes : Bool) (fifoDepth : Nat) (events reached : List Event), reached <+: events →
      Matched (run (step removes) reached (.initial fifoDepth)) := by
  intro h
  have hmatched := h false 4 [.usbDataReceived [1, 2] true, .poll false] _ (List.prefix_refl _)
  exact absurd hmatched.counted (by unfold Counted; decide)

end Usb
end Obsw
