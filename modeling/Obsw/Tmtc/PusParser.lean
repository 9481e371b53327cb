import Mathlib.Data.List.Chain
import Obsw.Lib.Fifo
import Obsw.Lib.Loop

/-!
# `Tmtc.PusParser` — cutting a frame into PUS packets

`PusParser::parsePusPackets` walks over a frame of PUS packets that lie one behind the other and puts the
index and size of each into a FIFO. The size is the length field of the packet plus 7. The first packet
has its own code path; the others are read by `readNextPacket` in a loop.

`Walk` says what the complete packets of a frame are, independently of the parser. The parser ends, and
inserts the packets of a walk up to the first position where it can not go on (`parse_walk`).
-/

namespace Obsw
namespace Tmtc

open Loop

/-! ## The parser -/

inductive ReturnValue where
  | ok
  | failed
  | noPacketFound
  | splitPacket
  /-- What `DynamicFIFO::insert` answers when the FIFO is full. -/
  | fifoFull
  deriving DecidableEq, Repr

/-- Index and size of a packet. -/
abbrev IndexSizePair := Nat × Nat

structure PusParser where
  indexSizePairFIFO : Fifo IndexSizePair
  storeSplitPackets : Bool

namespace PusParser

/-- The constructor. It does not use its second argument, and the member keeps its default. -/
def construct (maxExpectedPusPackets : UInt16) (_storeSplitPackets : Bool) : PusParser where
  indexSizePairFIFO := Fifo.empty maxExpectedPusPackets.toNat
  storeSplitPackets := false

/-- `indexSizePairFIFO.insert`. -/
def insert (p : PusParser) (pair : IndexSizePair) : ReturnValue × PusParser :=
  match p.indexSizePairFIFO.insert pair with
  | some fifo => (.ok, { p with indexSizePairFIFO := fifo })
  | none => (.fifoFull, p)

/-- `frame[index + 4] << 8 | frame[index + 5]`, `none` if that is behind the frame. -/
def readLengthField (frame : List UInt8) (index : Nat) : Option Nat :=
  match frame[index + 4]?, frame[index + 5]? with
  | some high, some low => some (high.toNat <<< 8 ||| low.toNat)
  | _, _ => none

/-- The parser and `currentIndex`. -/
structure Position where
  parser : PusParser
  index : Nat

def readNextPacket (frame : List UInt8) (p : Position) : Option (ReturnValue × Position) :=
  if frame.length < p.index + 5 then some (.ok, ⟨p.parser, frame.length⟩)
  else
    match readLengthField frame p.index with
    | none => none
    | some lengthField =>
      -- it is assumed that no packet follows
      if lengthField = 0 then some (.ok, ⟨p.parser, frame.length⟩)
      else
        let nextPacketSize := lengthField + 7
        let remainingSize := frame.length - p.index
        if remainingSize < nextPacketSize then
          if p.parser.storeSplitPackets then
            some (.splitPacket, ⟨(p.parser.insert (p.index, remainingSize)).2, p.index⟩)
          else some (.splitPacket, p)
        else
          let inserted := p.parser.insert (p.index, nextPacketSize)
          some (inserted.1, ⟨inserted.2, p.index + nextPacketSize⟩)

/-- One pass of the loop of `readMultiplePackets`. -/
def pass (frame : List UInt8) (_ : Unit) (p : Position) : Option (Flow ReturnValue Position) :=
  match readNextPacket frame p with
  | none => none
  | some (.ok, p') => some (.next p')
  | some (result, p') => some (.ret result p')

/-- `readMultiplePackets`, with at most `passes` passes. -/
def readMultiplePackets (passes : Nat) (frame : List UInt8) (parser : PusParser)
    (startIndex : Nat) : Option (ReturnValue × PusParser) :=
  match whileLoop (fun p => decide (p.index < frame.length)) (pass frame)
      (List.replicate passes ()) ⟨parser, startIndex⟩ with
  | none => none
  | some (.next p) => some (.ok, p.parser)
  | some (.ret result p) => some (result, p.parser)

/-- `parsePusPackets`, for a frame or a null pointer. `none`: the parser reads behind the frame, or needs
    more passes. -/
def parsePusPackets (passes : Nat) (p : PusParser) (frame : Option (List UInt8)) :
    Option (ReturnValue × PusParser) :=
  match frame with
  | none => some (.failed, p)
  | some frame =>
    if frame.length < 5 then some (.failed, p)
    else if p.indexSizePairFIFO.full then some (.failed, p)
    else
      match readLengthField frame 0 with
      | none => none
      | some lengthField =>
        if lengthField = 0 then some (.noPacketFound, p)
        else
          let packetSize := lengthField + 7
          if frame.length < packetSize then
            if p.storeSplitPackets then some (.splitPacket, (p.insert (0, frame.length)).2)
            else some (.splitPacket, p)
          else
            let p := (p.insert (0, packetSize)).2
            if packetSize = frame.length then some (.ok, p)
            else readMultiplePackets passes frame p packetSize

end PusParser

/-! ## The packets of a frame -/

section

variable (frame : List UInt8)

/-- The PUS length field of a packet that starts at `index`, high byte first. -/
def lengthField (index : Nat) : Nat :=
  256 * (frame.getD (index + 4) 0).toNat + (frame.getD (index + 5) 0).toNat

def packetSize (index : Nat) : Nat := lengthField frame index + 7

/-- The length field lies in the frame. -/
def HeaderFits (index : Nat) : Prop := index + 6 ≤ frame.length

/-- A packet starts at `index` and is cut off by the end of the frame. -/
def CutOff (index : Nat) : Prop :=
  HeaderFits frame index ∧ lengthField frame index ≠ 0 ∧
    frame.length < index + packetSize frame index

/-- A packet starts at `index` and lies in the frame. -/
def Complete (index : Nat) : Prop :=
  HeaderFits frame index ∧ lengthField frame index ≠ 0 ∧
    index + packetSize frame index ≤ frame.length

/-- `Walk frame packets stop`: the packets are complete, the first one starts at 0, each of the others
    behind the one before, and the last one ends at `stop`. -/
inductive Walk : List IndexSizePair → Nat → Prop
  | start : Walk [] 0
  | packet {packets : List IndexSizePair} {index : Nat} (walk : Walk packets index)
      (complete : Complete frame index) :
      Walk (packets ++ [(index, packetSize frame index)]) (index + packetSize frame index)

end

section

variable {frame : List UInt8} {packets : List IndexSizePair} {stop : Nat}

theorem walk_le (h : Walk frame packets stop) : stop ≤ frame.length := by
  cases h with
  | start => exact Nat.zero_le _
  | packet walk complete => exact complete.2.2

/-- Each packet of a walk ends at its last position at the latest, and has the size its length field
    says. -/
theorem walk_inside (h : Walk frame packets stop) :
    ∀ pair ∈ packets, pair.1 + pair.2 ≤ stop ∧ pair.2 = lengthField frame pair.1 + 7 := by
  induction h with
  | start => intro pair hpair; cases hpair
  | packet walk complete ih =>
    intro pair hpair
    rcases List.mem_append.mp hpair with hpair | hpair
    · obtain ⟨hle, hsize⟩ := ih pair hpair
      exact ⟨hle.trans (Nat.le_add_right _ _), hsize⟩
    · rw [List.mem_singleton.mp hpair]
      exact ⟨Nat.le_refl _, rfl⟩

/-- The packets lie one behind the other, the first one at index 0. -/
def Contiguous (packets : List IndexSizePair) : Prop :=
  List.IsChain (fun a b : IndexSizePair => b.1 = a.1 + a.2) ((0, 0) :: packets)

theorem walk_contiguous (h : Walk frame packets stop) :
    Contiguous packets ∧
      ∀ last ∈ ((0, 0) :: packets : List IndexSizePair).getLast?, last.1 + last.2 = stop := by
  -- on the walk: a packet starts where the one before it ends, the first one where (0, 0) does
  induction h with
  | start =>
    refine ⟨List.isChain_singleton _, ?_⟩
    intro last hlast
    cases hlast
    rfl
  | @packet packets index walk complete ih =>
    obtain ⟨hchain, hlast⟩ := ih
    rw [Contiguous, ← List.cons_append]
    constructor
    · apply hchain.append (List.isChain_singleton _)
      intro last hmem pair hpair
      cases hpair
      exact (hlast last hmem).symm
    · intro last hmem
      rw [List.getLast?_concat] at hmem
      cases hmem
      rfl

theorem walk_increasing (h : Walk frame packets stop) :
    packets.Pairwise (fun a b => a.1 < b.1) := by
  induction h with
  | start => exact List.Pairwise.nil
  | packet walk complete ih =>
    refine List.pairwise_append.mpr ⟨ih, List.pairwise_singleton _ _, ?_⟩
    intro pair hpair next hnext
    obtain ⟨hle, hsize⟩ := walk_inside walk pair hpair
    rw [List.mem_singleton.mp hnext]
    show pair.1 < _
    omega

/-- No packet is complete at index 0 only if there are none at all. -/
theorem walk_of_first_zero (h : Walk frame packets stop) (hzero : lengthField frame 0 = 0) :
    packets = [] ∧ stop = 0 := by
  induction h with
  | start => exact ⟨rfl, rfl⟩
  | packet walk complete ih =>
    obtain ⟨-, rfl⟩ := ih
    exact absurd hzero complete.2.1

end

/-! ## The loop -/

namespace PusParser

section

variable {frame : List UInt8}

theorem readLengthField_eq {index : Nat} (h : HeaderFits frame index) :
    readLengthField frame index = some (lengthField frame index) := by
  unfold HeaderFits at h
  have hhigh : frame[index + 4]? = some (frame.getD (index + 4) 0) := by
    rw [List.getD_eq_getElem?_getD, List.getElem?_eq_getElem (by omega), Option.getD_some]
  have hlow : frame[index + 5]? = some (frame.getD (index + 5) 0) := by
    rw [List.getD_eq_getElem?_getD, List.getElem?_eq_getElem (by omega), Option.getD_some]
  have hbyte : (frame.getD (index + 5) 0).toNat < 2 ^ 8 := UInt8.toNat_lt _
  simp only [readLengthField, hhigh, hlow, lengthField]
  rw [← Nat.shiftLeft_add_eq_or_of_lt hbyte, Nat.shiftLeft_eq, Nat.mul_comm]

/-- Why the parser stops at a position, and what it returns there. -/
inductive Stop (frame : List UInt8) (taken room stop : Nat) : ReturnValue → Prop
  | header (short : ¬ HeaderFits frame stop) : Stop frame taken room stop .ok
  | zero (fits : HeaderFits frame stop) (zero : lengthField frame stop = 0) :
      Stop frame taken room stop .ok
  | cutOff (cutOff : CutOff frame stop) : Stop frame taken room stop .splitPacket
  | full (complete : Complete frame stop) (full : taken = room) : Stop frame taken room stop .fifoFull

/-- What the parser has done so far: it has inserted the packets of a walk. -/
structure Parsed (frame : List UInt8) (fifo : Fifo IndexSizePair) (p : PusParser)
    (packets : List IndexSizePair) (stop : Nat) : Prop where
  walk : Walk frame packets stop
  elements : p.indexSizePairFIFO.elements = fifo.elements ++ packets
  capacity : p.indexSizePairFIFO.capacity = fifo.capacity
  unsplit : p.storeSplitPackets = false

variable {fifo : Fifo IndexSizePair} {p : PusParser} {packets : List IndexSizePair} {stop : Nat}

theorem Parsed.room (h : Parsed frame fifo p packets stop) :
    packets.length + p.indexSizePairFIFO.room = fifo.room := by
  have hbound := p.indexSizePairFIFO.bounded
  have hroom := Fifo.room_of_append h.elements h.capacity
  rw [h.elements, h.capacity, List.length_append] at hbound
  unfold Fifo.room at hroom ⊢
  omega

/-- A complete packet goes into the FIFO, or the FIFO is full. -/
theorem Parsed.insert (h : Parsed frame fifo p packets stop) (complete : Complete frame stop) :
    (∃ p', p.insert (stop, packetSize frame stop) = (.ok, p') ∧
        Parsed frame fifo p' (packets ++ [(stop, packetSize frame stop)])
          (stop + packetSize frame stop)) ∨
      (p.insert (stop, packetSize frame stop) = (.fifoFull, p) ∧ packets.length = fifo.room) := by
  have hroom := h.room
  by_cases hfull : p.indexSizePairFIFO.room = 0
  · right
    rw [PusParser.insert, Fifo.insert_of_full _ hfull]
    exact ⟨rfl, by omega⟩
  · left
    obtain ⟨q, hq, helements, hcapacity⟩ :=
      Fifo.insert_of_room (stop, packetSize frame stop) (Nat.pos_of_ne_zero hfull)
    refine ⟨{ p with indexSizePairFIFO := q }, by rw [PusParser.insert, hq], ?_⟩
    constructor
    · exact Walk.packet h.walk complete
    · show q.elements = _
      rw [helements, h.elements, List.append_assoc]
    · exact hcapacity.trans h.capacity
    · exact h.unsplit

/-- **Step lemma.** At a position the parser has reached, it stops and leaves the FIFO as it is, or it
    inserts the packet that starts there and goes behind it. -/
theorem readNextPacket_cases (h : Parsed frame fifo p packets stop)
    (htail : stop + 5 ≠ frame.length) :
    (∃ result index, readNextPacket frame ⟨p, stop⟩ = some (result, ⟨p, index⟩) ∧
        (result = .ok → index = frame.length) ∧
        Stop frame packets.length fifo.room stop result) ∨
      ∃ p', readNextPacket frame ⟨p, stop⟩ = some (.ok, ⟨p', stop + packetSize frame stop⟩) ∧
        Parsed frame fifo p' (packets ++ [(stop, packetSize frame stop)])
          (stop + packetSize frame stop) := by
  by_cases hfits : HeaderFits frame stop
  · -- the header fits, so both bytes of the length field can be read
    have hlong : ¬ frame.length < stop + 5 := by
      unfold HeaderFits at hfits
      omega
    simp only [readNextPacket, if_neg hlong, readLengthField_eq hfits]
    by_cases hzero : lengthField frame stop = 0
    · rw [if_pos hzero]
      exact Or.inl ⟨_, _, rfl, fun _ => rfl, Stop.zero hfits hzero⟩
    · rw [if_neg hzero]
      by_cases hcut : frame.length < stop + packetSize frame stop
      · have hcut' : frame.length - stop < lengthField frame stop + 7 := by
          rw [packetSize] at hcut
          unfold HeaderFits at hfits
          omega
        rw [if_pos hcut', h.unsplit, if_neg Bool.false_ne_true]
        refine Or.inl ⟨_, _, rfl, ?_, Stop.cutOff ⟨hfits, hzero, hcut⟩⟩
        intro hok
        cases hok
      · have hcut' : ¬ frame.length - stop < lengthField frame stop + 7 := by
          rw [packetSize] at hcut
          omega
        have complete : Complete frame stop := ⟨hfits, hzero, Nat.le_of_not_lt hcut⟩
        rw [if_neg hcut']
        rcases h.insert complete with ⟨p', hinsert, hparsed⟩ | ⟨hinsert, hfull⟩
        · rw [packetSize] at hinsert
          rw [hinsert]
          exact Or.inr ⟨p', rfl, hparsed⟩
        · rw [packetSize] at hinsert
          rw [hinsert]
          refine Or.inl ⟨_, _, rfl, ?_, Stop.full complete hfull⟩
          intro hok
          cases hok
  · -- the code asks for five bytes only, and would read a sixth behind a tail of five
    have hshort : frame.length < stop + 5 := by
      unfold HeaderFits at hfits
      omega
    simp only [readNextPacket, if_pos hshort]
    exact Or.inl ⟨_, _, rfl, fun _ => rfl, Stop.header hfits⟩

/-- The loop ends, whatever the first packet left to it. -/
theorem readMultiplePackets_walk {passes : Nat} (h : Parsed frame fifo p packets stop)
    (htail : ∀ packets stop, Walk frame packets stop → stop + 5 ≠ frame.length)
    (hpasses : frame.length ≤ passes) :
    ∃ result p' packets' stop', readMultiplePackets passes frame p stop = some (result, p') ∧
      Parsed frame fifo p' packets' stop' ∧ Stop frame packets'.length fifo.room stop' result := by
  -- either the index is the end of the walk, or the parser has stopped there and left the frame
  let I : Position → Prop := fun pos => ∃ packets stop, Parsed frame fifo pos.parser packets stop ∧
    (pos.index = stop ∨
      (pos.index = frame.length ∧ Stop frame packets.length fifo.room stop .ok))
  let Q : ReturnValue → Position → Prop := fun result pos => ∃ packets stop,
    Parsed frame fifo pos.parser packets stop ∧ Stop frame packets.length fifo.room stop result
  have htotal := whileLoop_total (I := I) (Q := Q)
    (fun pos : Position => decide (pos.index < frame.length)) (pass frame)
    (List.replicate passes ()) (fun pos => frame.length - pos.index)
    (by
      intro pos _ hcond
      have : pos.index < frame.length := by simpa using hcond
      omega)
    (by
      rintro ⟨⟩ - ⟨q, index⟩ ⟨walked, last, hparsed, hindex⟩ hcond
      have hlt : index < frame.length := by simpa using hcond
      rcases hindex with hindex | ⟨hindex, -⟩
      · have hindex' : index = last := hindex
        subst hindex'
        rcases readNextPacket_cases hparsed (htail _ _ hparsed.walk) with
          ⟨result, index', hread, hok, hstop⟩ | ⟨q', hread, hnext⟩
        · simp only [pass, hread]
          cases result with
          | ok =>
            refine Or.inl ⟨_, rfl, ⟨walked, index, hparsed, Or.inr ⟨hok rfl, hstop⟩⟩, ?_⟩
            show frame.length - index' < frame.length - index
            rw [hok rfl]
            omega
          | failed => exact Or.inr ⟨_, _, rfl, walked, index, hparsed, hstop⟩
          | noPacketFound => exact Or.inr ⟨_, _, rfl, walked, index, hparsed, hstop⟩
          | splitPacket => exact Or.inr ⟨_, _, rfl, walked, index, hparsed, hstop⟩
          | fifoFull => exact Or.inr ⟨_, _, rfl, walked, index, hparsed, hstop⟩
        · simp only [pass, hread]
          refine Or.inl ⟨_, rfl, ⟨_, _, hnext, Or.inl rfl⟩, ?_⟩
          show frame.length - (index + packetSize frame index) < frame.length - index
          unfold packetSize
          omega
      · have hindex' : index = frame.length := hindex
        omega)
    ⟨p, stop⟩ ⟨packets, stop, h, Or.inl rfl⟩ (by rw [List.length_replicate]; omega)
  rcases htotal with ⟨pos, hloop, ⟨walked, last, hparsed, hindex⟩, hcond⟩ |
    ⟨result, pos, hloop, walked, last, hparsed, hstop⟩
  · refine ⟨.ok, pos.parser, walked, last, by rw [readMultiplePackets, hloop], hparsed, ?_⟩
    have hge : ¬ pos.index < frame.length := by simpa using hcond
    rcases hindex with hindex | ⟨-, hstop⟩
    · -- the last packet ends with the frame
      apply Stop.header
      unfold HeaderFits
      omega
    · exact hstop
  · exact ⟨result, pos.parser, walked, last, by rw [readMultiplePackets, hloop], hparsed, hstop⟩

/-- The first packet has its own code path, and ends in the same ways; only a length field of zero is
    answered differently. -/
theorem parsePusPackets_walk {passes : Nat} (hunsplit : p.storeSplitPackets = false)
    (hroom : 0 < p.indexSizePairFIFO.room) (hsize : 6 ≤ frame.length)
    (htail : ∀ packets stop, Walk frame packets stop → stop + 5 ≠ frame.length)
    (hpasses : frame.length ≤ passes) :
    ∃ result p' packets stop, parsePusPackets passes p (some frame) = some (result, p') ∧
      Parsed frame p.indexSizePairFIFO p' packets stop ∧
      ((lengthField frame 0 = 0 ∧ result = .noPacketFound) ∨
        (lengthField frame 0 ≠ 0 ∧
          Stop frame packets.length p.indexSizePairFIFO.room stop result)) := by
  have hstart : Parsed frame p.indexSizePairFIFO p [] 0 :=
    ⟨Walk.start, (List.append_nil _).symm, rfl, hunsplit⟩
  have hfits : HeaderFits frame 0 := by
    unfold HeaderFits
    omega
  have hfull : ¬ p.indexSizePairFIFO.full = true := by
    rw [Fifo.full_iff_room]
    omega
  have hlong : ¬ frame.length < 5 := by omega
  simp only [parsePusPackets, if_neg hlong, if_neg hfull, readLengthField_eq hfits]
  by_cases hzero : lengthField frame 0 = 0
  · rw [if_pos hzero]
    exact ⟨_, _, _, _, rfl, hstart, Or.inl ⟨hzero, rfl⟩⟩
  · rw [if_neg hzero]
    by_cases hcut : frame.length < lengthField frame 0 + 7
    · rw [if_pos hcut, hunsplit, if_neg Bool.false_ne_true]
      have hcut' : frame.length < 0 + packetSize frame 0 := by
        rw [Nat.zero_add]
        exact hcut
      exact ⟨_, _, _, _, rfl, hstart, Or.inr ⟨hzero, Stop.cutOff ⟨hfits, hzero, hcut'⟩⟩⟩
    · have complete : Complete frame 0 := by
        refine ⟨hfits, hzero, ?_⟩
        unfold packetSize
        omega
      rw [if_neg hcut]
      rcases hstart.insert complete with ⟨p', hinsert, hparsed⟩ | ⟨-, hnoroom⟩
      · rw [packetSize] at hinsert
        rw [Nat.zero_add] at hparsed
        simp only [hinsert]
        by_cases hexact : lengthField frame 0 + 7 = frame.length
        · rw [if_pos hexact]
          refine ⟨_, _, _, _, rfl, hparsed, Or.inr ⟨hzero, Stop.header ?_⟩⟩
          unfold HeaderFits packetSize
          omega
        · rw [if_neg hexact]
          obtain ⟨result, p'', packets, stop, hread, hwalked, hstop⟩ :=
            readMultiplePackets_walk hparsed htail hpasses
          exact ⟨result, p'', packets, stop, hread, hwalked, Or.inr ⟨hzero, hstop⟩⟩
      · rw [List.length_nil] at hnoroom
        omega

end

/-! ## Main result -/

/-- The position where the parser stops, the packets it has inserted up to there, and its answer. -/
structure StopsAt (frame : List UInt8) (room : Nat) (packets : List IndexSizePair) (stop : Nat)
    (result : ReturnValue) : Prop where
  reason : ¬ HeaderFits frame stop ∨ lengthField frame stop = 0 ∨ CutOff frame stop ∨
    packets.length = room
  split : result = .splitPacket ↔ CutOff frame stop
  full : result = .fifoFull ↔ Complete frame stop ∧ packets.length = room
  notFound : result = .noPacketFound ↔ lengthField frame 0 = 0
  ok : result = .ok ↔ ¬ CutOff frame stop ∧ ¬ (Complete frame stop ∧ packets.length = room) ∧
    lengthField frame 0 ≠ 0

/-- The ways to stop exclude each other, so each answer says which one it was. -/
theorem Stop.stopsAt {frame : List UInt8} {packets : List IndexSizePair} {room stop : Nat}
    {result : ReturnValue} (h : Stop frame packets.length room stop result)
    (hfirst : lengthField frame 0 ≠ 0) : StopsAt frame room packets stop result := by
  cases h with
  | header short =>
    have hcut : ¬ CutOff frame stop := fun h => short h.1
    have hcomplete : ¬ Complete frame stop := fun h => short h.1
    exact ⟨Or.inl short, by simp [hcut], by simp [hcomplete], by simp [hfirst],
      by simp [hcut, hcomplete, hfirst]⟩
  | zero fits zero =>
    have hcut : ¬ CutOff frame stop := fun h => h.2.1 zero
    have hcomplete : ¬ Complete frame stop := fun h => h.2.1 zero
    exact ⟨Or.inr (Or.inl zero), by simp [hcut], by simp [hcomplete], by simp [hfirst],
      by simp [hcut, hcomplete, hfirst]⟩
  | cutOff cutOff =>
    have hcomplete : ¬ Complete frame stop := by
      intro h
      exact absurd h.2.2 (Nat.not_le.mpr cutOff.2.2)
    exact ⟨Or.inr (Or.inr (Or.inl cutOff)), by simp [cutOff], by simp [hcomplete],
      by simp [hfirst], by simp [cutOff]⟩
  | full complete full =>
    have hcut : ¬ CutOff frame stop := by
      intro h
      exact absurd h.2.2 (Nat.not_lt.mpr complete.2.2)
    exact ⟨Or.inr (Or.inr (Or.inr full)), by simp [hcut], by simp [complete, full],
      by simp [hfirst], by simp [complete, full]⟩

/-- **The parser.** For a frame of at least six bytes whose complete packets are not followed by a tail
    of five bytes, and a FIFO with room for an entry, the parser ends. It inserts the packets of a
    walk from index 0: contiguous, increasing, inside the frame and as long as their length fields
    say; the walk goes as far as packets are complete and find room, and the answer says why it
    stopped. -/
theorem parse_walk (maxExpectedPusPackets : UInt16) (storeSplitPackets : Bool)
    (fifo : Fifo IndexSizePair) (frame : List UInt8) (hroom : 0 < fifo.room)
    (hsize : 6 ≤ frame.length)
    (htail : ∀ packets stop, Walk frame packets stop → stop + 5 ≠ frame.length)
    (passes : Nat) (hpasses : frame.length ≤ passes) :
    ∃ result p packets stop,
      parsePusPackets passes
          { construct maxExpectedPusPackets storeSplitPackets with indexSizePairFIFO := fifo }
          (some frame) = some (result, p) ∧
        p.indexSizePairFIFO.elements = fifo.elements ++ packets ∧
        Walk frame packets stop ∧
        Contiguous packets ∧
        packets.Pairwise (fun a b => a.1 < b.1) ∧
        (∀ pair ∈ packets,
          pair.1 + pair.2 ≤ frame.length ∧ pair.2 = lengthField frame pair.1 + 7) ∧
        StopsAt frame fifo.room packets stop result := by
  obtain ⟨result, p, packets, stop, hparse, hparsed, hstop⟩ :=
    parsePusPackets_walk
      (p := { construct maxExpectedPusPackets storeSplitPackets with indexSizePairFIFO := fifo })
      rfl hroom hsize htail hpasses
  have hwalk := hparsed.walk
  refine ⟨result, p, packets, stop, hparse, hparsed.elements, hwalk, (walk_contiguous hwalk).1,
    walk_increasing hwalk, ?_, ?_⟩
  · intro pair hpair
    obtain ⟨hle, hsize⟩ := walk_inside hwalk pair hpair
    exact ⟨hle.trans (walk_le hwalk), hsize⟩
  · rcases hstop with ⟨hzero, rfl⟩ | ⟨hfirst, hstop⟩
    · obtain ⟨rfl, rfl⟩ := walk_of_first_zero hwalk hzero
      have hcut : ¬ CutOff frame 0 := fun h => h.2.1 hzero
      have hcomplete : ¬ Complete frame 0 := fun h => h.2.1 hzero
      exact ⟨Or.inr (Or.inl hzero), by simp [hcut], by simp [hcomplete], by simp [hzero],
        by simp [hzero]⟩
    · exact hstop.stopsAt hfirst

/-- Two packets of eight bytes. -/
def twoPackets : List UInt8 := [24, 1, 192, 0, 0, 1, 17, 1, 24, 1, 192, 1, 0, 1, 17, 1]

/-- A FIFO with an old entry, and room for one more. -/
def oneLeft : Fifo IndexSizePair := ⟨2, [(9, 9)], by decide⟩

theorem walk_twoPackets {packets : List IndexSizePair} {stop : Nat}
    (h : Walk twoPackets packets stop) : stop = 0 ∨ stop = 8 ∨ stop = 16 := by
  induction h with
  | start => exact Or.inl rfl
  | packet walk complete ih =>
    rcases ih with rfl | rfl | rfl
    · exact Or.inr (Or.inl rfl)
    · exact Or.inr (Or.inr rfl)
    · exact absurd complete.1 (show ¬ 16 + 6 ≤ 16 by decide)

/-- The second packet finds no room. -/
theorem parse_walk_oneLeft :
    (parsePusPackets 16 { construct 2 true with indexSizePairFIFO := oneLeft }
        (some twoPackets)).map (fun r => (r.1, r.2.indexSizePairFIFO.elements)) =
          some (.fifoFull, [(9, 9), (0, 8)]) ∧
      ∃ result p packets stop,
        parsePusPackets 16 { construct 2 true with indexSizePairFIFO := oneLeft }
            (some twoPackets) = some (result, p) ∧
          p.indexSizePairFIFO.elements = oneLeft.elements ++ packets ∧
          Walk twoPackets packets stop ∧ StopsAt twoPackets oneLeft.room packets stop result := by
  refine ⟨by decide, ?_⟩
  obtain ⟨result, p, packets, stop, hparse, helements, hwalk, -, -, -, hstop⟩ :=
    parse_walk 2 true oneLeft twoPackets (by decide) (by decide)
      (fun packets stop hwalk => by
        rcases walk_twoPackets hwalk with rfl | rfl | rfl <;> decide)
      16 (by decide)
  exact ⟨result, p, packets, stop, hparse, helements, hwalk, hstop⟩

end PusParser

end Tmtc
end Obsw
