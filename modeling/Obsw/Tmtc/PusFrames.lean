import Obsw.Lib.Reads
import Obsw.Tmtc.PusParser

/-!
# `Tmtc.PusFrames` — the end of a frame

`PusParser` with each access to the frame as a read of its own, in a memory that goes on behind the
frame. The checks ask for five bytes of a packet, and the length field is its fifth and sixth byte: the
parser reads behind the frame exactly if five bytes of it are left where it comes to
(`reads_inside_iff`). The split packet that is reported there, or anywhere else, is never put into the
FIFO, since the constructor does not keep its second argument (`split_stored_iff`).
-/

namespace Obsw
namespace Tmtc
namespace PusFrames

open PusParser Reads

/-! ## The parser and its reads -/

/-- `frame[index + 4] << 8 | frame[index + 5]`. -/
def readLength (index : Nat) : Reads Nat :=
  .read (index + 4) fun high => .read (index + 5) fun low => .done (high.toNat <<< 8 ||| low.toNat)

/-- The part of `readNextPacket` behind the reads. -/
def nextPacket (frameSize : Nat) (p : Position) (lengthField : Nat) : ReturnValue × Position :=
  -- it is assumed that no packet follows
  if lengthField = 0 then (.ok, ⟨p.parser, frameSize⟩)
  else
    let nextPacketSize := lengthField + 7
    let remainingSize := frameSize - p.index
    if remainingSize < nextPacketSize then
      if p.parser.storeSplitPackets then
        (.splitPacket, ⟨(p.parser.insert (p.index, remainingSize)).2, p.index⟩)
      else (.splitPacket, p)
    else
      let inserted := p.parser.insert (p.index, nextPacketSize)
      (inserted.1, ⟨inserted.2, p.index + nextPacketSize⟩)

def readNextPacket (frameSize : Nat) (p : Position) : Reads (ReturnValue × Position) :=
  if frameSize < p.index + 5 then .done (.ok, ⟨p.parser, frameSize⟩)
  else (readLength p.index).map (nextPacket frameSize p)

/-- `readMultiplePackets`, with at most `passes` passes. `none`: it needs more. -/
def readMultiplePackets (frameSize : Nat) : Nat → Position → Reads (Option (ReturnValue × PusParser))
  | 0, p => .done (if p.index < frameSize then none else some (.ok, p.parser))
  | passes + 1, p =>
    if p.index < frameSize then
      (readNextPacket frameSize p).bind fun next =>
        if next.1 = .ok then readMultiplePackets frameSize passes next.2
        else .done (some (next.1, next.2.parser))
    else .done (some (.ok, p.parser))

/-- The part of `parsePusPackets` behind the reads of the first length field. Every pass of the loop goes
    on by a byte at least. -/
def firstPacket (frameSize : Nat) (p : PusParser) (lengthField : Nat) :
    Reads (Option (ReturnValue × PusParser)) :=
  if lengthField = 0 then .done (some (.noPacketFound, p))
  else
    let packetSize := lengthField + 7
    if frameSize < packetSize then
      if p.storeSplitPackets then .done (some (.splitPacket, (p.insert (0, frameSize)).2))
      else .done (some (.splitPacket, p))
    else
      let p := (p.insert (0, packetSize)).2
      if packetSize = frameSize then .done (some (.ok, p))
      else readMultiplePackets frameSize frameSize ⟨p, packetSize⟩

/-- `parsePusPackets`. `null`: the frame is a null pointer. -/
def parsePusPackets (p : PusParser) (null : Bool) (frameSize : Nat) :
    Reads (Option (ReturnValue × PusParser)) :=
  if null = true ∨ frameSize < 5 then .done (some (.failed, p))
  else if p.indexSizePairFIFO.full then .done (some (.failed, p))
  else (readLength 0).bind (firstPacket frameSize p)

/-- The memory from the frame on: the frame, and what is behind it. -/
def memory (frame : List UInt8) (behind : Nat → UInt8) (index : Nat) : UInt8 :=
  frame.getD index (behind index)

/-- The length field the parser sees at an index. -/
def seen (frame : List UInt8) (behind : Nat → UInt8) (index : Nat) : Nat :=
  256 * (memory frame behind (index + 4)).toNat + (memory frame behind (index + 5)).toNat

/-! ## What is read -/

section Steps

variable {frame : List UInt8} {behind : Nat → UInt8}

theorem memory_of_lt {index : Nat} (h : index < frame.length) :
    memory frame behind index = frame.getD index 0 := by
  rw [memory, List.getD_eq_getElem?_getD, List.getD_eq_getElem?_getD, List.getElem?_eq_getElem h,
    Option.getD_some, Option.getD_some]

/-- In a header that fits, the parser sees the length field of the packet. -/
theorem seen_of_fits (behind : Nat → UInt8) {index : Nat} (h : HeaderFits frame index) :
    seen frame behind index = lengthField frame index := by
  unfold HeaderFits at h
  rw [seen, lengthField, memory_of_lt (by omega), memory_of_lt (by omega)]

@[simp] theorem run_readLength (index : Nat) :
    (readLength index).run (memory frame behind) = seen frame behind index := by
  have hbyte : (memory frame behind (index + 5)).toNat < 2 ^ 8 := UInt8.toNat_lt _
  simp only [readLength, run_read, run_done, seen]
  rw [← Nat.shiftLeft_add_eq_or_of_lt hbyte, Nat.shiftLeft_eq, Nat.mul_comm]

@[simp] theorem inside_readLength {index size : Nat} :
    (readLength index).Inside (memory frame behind) size ↔ index + 5 < size := by
  simp only [readLength, inside_read, inside_done, and_true]
  omega

end Steps

/-! ## Along the complete packets -/

/-- The computations have the same result, and stay inside the frame together. -/
structure Follows (r r' : Reads (Option (ReturnValue × PusParser))) (frame : List UInt8)
    (behind : Nat → UInt8) : Prop where
  run : r.run (memory frame behind) = r'.run (memory frame behind)
  inside : r.Inside (memory frame behind) frame.length ↔
    r'.Inside (memory frame behind) frame.length

/-- The parser has put the packets into its FIFO. -/
structure Holds (p p' : PusParser) (packets : List IndexSizePair) : Prop where
  elements : p'.indexSizePairFIFO.elements = p.indexSizePairFIFO.elements ++ packets
  capacity : p'.indexSizePairFIFO.capacity = p.indexSizePairFIFO.capacity
  flag : p'.storeSplitPackets = p.storeSplitPackets

section Walks

variable {frame : List UInt8} {behind : Nat → UInt8} {p p' : PusParser}
  {packets : List IndexSizePair} {index stop : Nat}

theorem Follows.trans {r r' r'' : Reads (Option (ReturnValue × PusParser))}
    (h : Follows r r' frame behind) (h' : Follows r' r'' frame behind) : Follows r r'' frame behind :=
  ⟨h.run.trans h'.run, h.inside.trans h'.inside⟩

theorem Holds.start (p : PusParser) : Holds p p [] := ⟨(List.append_nil _).symm, rfl, rfl⟩

theorem Holds.room (h : Holds p p' packets) :
    p'.indexSizePairFIFO.room = p.indexSizePairFIFO.room - packets.length :=
  Fifo.room_of_append h.elements h.capacity

/-- As long as there is room, a packet is put into the FIFO. -/
theorem Holds.insert (h : Holds p p' packets) (hroom : packets.length < p.indexSizePairFIFO.room)
    (pair : IndexSizePair) :
    ∃ p'', p'.insert pair = (.ok, p'') ∧ Holds p p'' (packets ++ [pair]) := by
  obtain ⟨fifo, hinsert, helements, hcapacity⟩ := Fifo.insert_of_room pair
    (show 0 < p'.indexSizePairFIFO.room by
      rw [h.room]
      omega)
  refine ⟨{ p' with indexSizePairFIFO := fifo }, by rw [PusParser.insert, hinsert], ?_,
    hcapacity.trans h.capacity, h.flag⟩
  show fifo.elements = _
  rw [helements, h.elements, List.append_assoc]

/-- Behind the frame, nothing more is read. -/
theorem readMultiplePackets_end {frameSize passes : Nat} {p : Position} (h : frameSize ≤ p.index) :
    readMultiplePackets frameSize passes p = .done (some (.ok, p.parser)) := by
  have hend : ¬ p.index < frameSize := Nat.not_lt.mpr h
  cases passes with
  | zero => rw [readMultiplePackets, if_neg hend]
  | succ passes => rw [readMultiplePackets, if_neg hend]

/-- **Step lemma.** Of a complete packet only the frame is read; it is put into the FIFO, and the loop
    goes on behind it. -/
theorem follows_complete (h : Holds p p' packets) (hroom : packets.length < p.indexSizePairFIFO.room)
    (hcomplete : Complete frame index) (passes : Nat) :
    ∃ p'', Holds p p'' (packets ++ [(index, packetSize frame index)]) ∧
      Follows (readMultiplePackets frame.length (passes + 1) ⟨p', index⟩)
        (readMultiplePackets frame.length passes ⟨p'', index + packetSize frame index⟩)
        frame behind := by
  obtain ⟨hfits, hfield, hinside⟩ := hcomplete
  obtain ⟨p'', hinsert, hholds⟩ := h.insert hroom (index, packetSize frame index)
  have hseen := seen_of_fits behind hfits
  unfold HeaderFits at hfits
  have hnext : nextPacket frame.length ⟨p', index⟩ (lengthField frame index) =
      (.ok, ⟨p'', index + packetSize frame index⟩) := by
    unfold nextPacket
    rw [if_neg hfield]
    have hfull : ¬ frame.length - index < lengthField frame index + 7 := by
      unfold packetSize at hinside
      omega
    show (if frame.length - index < lengthField frame index + 7 then _ else _) = _
    rw [if_neg hfull, ← packetSize, hinsert]
  refine ⟨p'', hholds, ?_⟩
  have hstep : readMultiplePackets frame.length (passes + 1) ⟨p', index⟩ =
      ((readLength index).map (nextPacket frame.length ⟨p', index⟩)).bind fun next =>
        if next.1 = .ok then readMultiplePackets frame.length passes next.2
        else .done (some (next.1, next.2.parser)) := by
    rw [readMultiplePackets, if_pos (show index < frame.length by omega), readNextPacket,
      if_neg (show ¬ frame.length < index + 5 by omega)]
  rw [hstep]
  constructor
  · simp only [run_bind, run_map, run_readLength, hseen, hnext, if_true]
  · simp only [inside_bind, inside_map, inside_readLength, run_map, run_readLength, hseen, hnext,
      if_true, and_iff_right (show index + 5 < frame.length by omega)]

/-- The first packet is handled in the same way. -/
theorem follows_first (hroom : 0 < p.indexSizePairFIFO.room) (hcomplete : Complete frame 0) :
    ∃ p', Holds p p' [(0, packetSize frame 0)] ∧
      Follows (parsePusPackets p false frame.length)
        (readMultiplePackets frame.length frame.length ⟨p', packetSize frame 0⟩) frame behind := by
  obtain ⟨hfits, hfield, hinside⟩ := hcomplete
  obtain ⟨p', hinsert, hholds⟩ := (Holds.start p).insert hroom (0, packetSize frame 0)
  have hseen := seen_of_fits behind hfits
  unfold HeaderFits at hfits
  have hfull : ¬ p.indexSizePairFIFO.full = true := by
    rw [Fifo.full_iff_room]
    omega
  have hfirst : firstPacket frame.length p (lengthField frame 0) =
      readMultiplePackets frame.length frame.length ⟨p', packetSize frame 0⟩ := by
    unfold firstPacket
    rw [if_neg hfield]
    show (if frame.length < packetSize frame 0 then _ else _) = _
    rw [if_neg (by omega)]
    show (if packetSize frame 0 = frame.length then
      Reads.done (some (.ok, (p.insert (0, packetSize frame 0)).2)) else
      readMultiplePackets frame.length frame.length
        ⟨(p.insert (0, packetSize frame 0)).2, packetSize frame 0⟩) = _
    rw [hinsert]
    by_cases hexact : packetSize frame 0 = frame.length
    · rw [if_pos hexact]
      exact (readMultiplePackets_end (p := ⟨p', packetSize frame 0⟩) hexact.ge).symm
    · rw [if_neg hexact]
  refine ⟨p', hholds, ?_⟩
  rw [parsePusPackets, if_neg (by simp; omega), if_neg hfull]
  constructor
  · rw [run_bind, run_readLength, hseen, hfirst]
  · rw [inside_bind, inside_readLength, run_readLength, hseen, hfirst, and_iff_right (by omega)]

/-- A walk of k packets has come k bytes far at least. -/
theorem walk_length_le (h : Walk frame packets stop) : packets.length ≤ stop := by
  induction h with
  | start => exact Nat.le_refl 0
  | packet walk complete ih =>
    rw [List.length_append, List.length_singleton, packetSize]
    omega

theorem walk_of_nil (h : Walk frame packets stop) (hnil : packets = []) : stop = 0 := by
  cases h with
  | start => rfl
  | packet => simp at hnil

/-- **Along a walk.** Behind the packets of a walk for which there is room, the parser goes on in the
    loop with the packets in the FIFO. -/
theorem follows_walk (hwalk : Walk frame packets stop) (hsome : packets ≠ [])
    (hroom : packets.length ≤ p.indexSizePairFIFO.room) :
    ∃ p' passes, Holds p p' packets ∧ frame.length < passes + packets.length ∧
      Follows (parsePusPackets p false frame.length)
        (readMultiplePackets frame.length passes ⟨p', stop⟩) frame behind := by
  induction hwalk with
  | start => exact absurd rfl hsome
  | @packet packets index walk complete ih =>
    rw [List.length_append, List.length_singleton] at hroom ⊢
    by_cases hfirst : packets = []
    · obtain rfl := walk_of_nil walk hfirst
      subst hfirst
      obtain ⟨p', hholds, hfollows⟩ := follows_first
        (show 0 < p.indexSizePairFIFO.room by omega) complete
      rw [Nat.zero_add]
      exact ⟨p', frame.length, hholds, by omega, hfollows⟩
    · obtain ⟨p', passes, hholds, hpasses, hfollows⟩ := ih hfirst (by omega)
      have hle := walk_length_le walk
      have hlt := complete.1
      unfold HeaderFits at hlt
      -- there is a pass left, since the walk has not come to the end of the frame
      obtain ⟨passes, rfl⟩ : ∃ n, passes = n + 1 := ⟨passes - 1, by omega⟩
      obtain ⟨p'', hholds', hfollows'⟩ := follows_complete hholds (by omega) complete passes
      exact ⟨p'', passes, hholds', by omega, hfollows.trans hfollows'⟩

end Walks

/-! ## Where the parser stops -/

/-- The parser takes a packet for a split one: five bytes of it are left, the length field is not zero,
    and the packet does not end in the frame. -/
def SeesSplit (frame : List UInt8) (behind : Nat → UInt8) (index : Nat) : Prop :=
  index + 5 ≤ frame.length ∧ seen frame behind index ≠ 0 ∧
    frame.length < index + (seen frame behind index + 7)

/-- The computation comes to its end at a position: it reads behind the frame exactly with five bytes
    left, and a split packet is reported exactly if one is seen there. -/
structure Ends (r : Reads (Option (ReturnValue × PusParser))) (frame : List UInt8)
    (behind : Nat → UInt8) (p : PusParser) (stop : Nat) : Prop where
  inside : r.Inside (memory frame behind) frame.length ↔ stop + 5 ≠ frame.length
  result : ∃ result q, r.run (memory frame behind) = some (result, q) ∧
    (result = .splitPacket ↔ SeesSplit frame behind stop) ∧ (p.storeSplitPackets = false → q = p)

section Stops

variable {frame : List UInt8} {behind : Nat → UInt8} {p p' : PusParser}
  {packets : List IndexSizePair} {index stop : Nat}

theorem Follows.ends {r r' : Reads (Option (ReturnValue × PusParser))}
    (h : Follows r r' frame behind) (h' : Ends r' frame behind p stop) : Ends r frame behind p stop :=
  ⟨h.inside.trans h'.inside, h.run ▸ h'.result⟩

theorem ends_done {result : ReturnValue} (htail : stop + 5 ≠ frame.length)
    (hsplit : ¬ SeesSplit frame behind stop) (hresult : result ≠ .splitPacket) :
    Ends (.done (some (result, p))) frame behind p stop :=
  ⟨iff_of_true (inside_done _) htail, result, p, rfl, iff_of_false hresult hsplit, fun _ => rfl⟩

/-- A computation that reads a length field and ends. -/
theorem ends_read (result : ReturnValue) (q : PusParser)
    {f : Nat → Reads (Option (ReturnValue × PusParser))} (hlong : stop + 5 ≤ frame.length)
    (hdone : f (seen frame behind stop) = .done (some (result, q)))
    (hsplit : result = .splitPacket ↔ SeesSplit frame behind stop)
    (hparser : p.storeSplitPackets = false → q = p) :
    Ends ((readLength stop).bind f) frame behind p stop := by
  constructor
  · rw [inside_bind, inside_readLength, run_readLength, hdone, and_iff_left (inside_done _)]
    omega
  · refine ⟨result, q, ?_, hsplit, hparser⟩
    rw [run_bind, run_readLength, hdone, run_done]

/-- What ends in the frame is a complete packet. -/
theorem complete_of_seen (hfield : seen frame behind stop ≠ 0)
    (hinside : stop + (seen frame behind stop + 7) ≤ frame.length) : Complete frame stop := by
  have hfits : HeaderFits frame stop := by
    unfold HeaderFits
    omega
  rw [seen_of_fits behind hfits] at hfield hinside
  exact ⟨hfits, hfield, hinside⟩

/-- **The loop stops** where no complete packet is, or no room for it. -/
theorem readMultiplePackets_ends (h : Holds p p' packets)
    (hstop : Complete frame stop → packets.length = p.indexSizePairFIFO.room) (passes : Nat) :
    Ends (readMultiplePackets frame.length (passes + 1) ⟨p', stop⟩) frame behind p' stop := by
  by_cases hend : frame.length ≤ stop
  · rw [readMultiplePackets_end (p := ⟨p', stop⟩) hend]
    exact ends_done (by omega) (fun h => absurd h.1 (by omega)) (by decide)
  have hbehind : ∀ p' : PusParser, readMultiplePackets frame.length passes ⟨p', frame.length⟩ =
      .done (some (.ok, p')) := fun p' => readMultiplePackets_end (p := ⟨p', frame.length⟩) le_rfl
  rw [readMultiplePackets, if_pos (show stop < frame.length by omega), readNextPacket]
  by_cases hshort : frame.length < stop + 5
  · rw [if_pos (show frame.length < (⟨p', stop⟩ : Position).index + 5 from hshort)]
    show Ends (readMultiplePackets frame.length passes ⟨p', frame.length⟩) _ _ _ _
    rw [hbehind]
    exact ends_done (by omega) (fun h => absurd h.1 (by omega)) (by decide)
  have hlong : stop + 5 ≤ frame.length := Nat.not_lt.mp hshort
  rw [if_neg (show ¬ frame.length < (⟨p', stop⟩ : Position).index + 5 from hshort), bind_of_map]
  by_cases hzero : seen frame behind stop = 0
  · refine ends_read .ok p' hlong ?_ ?_ (fun _ => rfl)
    · simp only [nextPacket, if_pos hzero, if_true, hbehind]
    · exact iff_of_false (by decide) (fun h => h.2.1 hzero)
  by_cases hsplit : frame.length < stop + (seen frame behind stop + 7)
  · have hremaining : frame.length - stop < seen frame behind stop + 7 := by omega
    have hsees : SeesSplit frame behind stop := ⟨by omega, hzero, hsplit⟩
    by_cases hflag : p'.storeSplitPackets = true
    · refine ends_read .splitPacket (p'.insert (stop, frame.length - stop)).2 hlong ?_
        (iff_of_true rfl hsees) (fun h => by rw [hflag] at h; cases h)
      simp only [nextPacket, if_neg hzero, if_pos hremaining, if_pos hflag]
      rfl
    · refine ends_read .splitPacket p' hlong ?_ (iff_of_true rfl hsees) (fun _ => rfl)
      simp only [nextPacket, if_neg hzero, if_pos hremaining, if_neg hflag]
      rfl
  · -- the packet is complete, so the FIFO is full
    have hcomplete := complete_of_seen hzero (Nat.not_lt.mp hsplit)
    have hfull : p'.insert (stop, seen frame behind stop + 7) = (.fifoFull, p') := by
      rw [PusParser.insert, Fifo.insert_of_full _ (by rw [h.room, hstop hcomplete, Nat.sub_self])]
    have hremaining : ¬ frame.length - stop < seen frame behind stop + 7 := by omega
    refine ends_read .fifoFull p' hlong ?_ (iff_of_false (by decide) fun h => hsplit h.2.2)
      (fun _ => rfl)
    simp only [nextPacket, if_neg hzero, if_neg hremaining, hfull]
    rfl

/-- The first packet stops the parser in the same ways. -/
theorem parsePusPackets_ends (hroom : 0 < p.indexSizePairFIFO.room) (hstop : ¬ Complete frame 0) :
    Ends (parsePusPackets p false frame.length) frame behind p 0 := by
  have hfull : ¬ p.indexSizePairFIFO.full = true := by
    rw [Fifo.full_iff_room]
    omega
  unfold parsePusPackets
  by_cases hshort : frame.length < 5
  · rw [if_pos (Or.inr hshort)]
    exact ends_done (by omega) (fun h => absurd h.1 (by omega)) (by decide)
  rw [if_neg (by simpa using hshort), if_neg hfull]
  by_cases hzero : seen frame behind 0 = 0
  · refine ends_read .noPacketFound p (by omega) ?_ ?_ (fun _ => rfl)
    · rw [firstPacket, if_pos hzero]
    · exact iff_of_false (by decide) (fun h => h.2.1 hzero)
  by_cases hsplit : frame.length < 0 + (seen frame behind 0 + 7)
  · have hremaining : frame.length < seen frame behind 0 + 7 := by omega
    have hsees : SeesSplit frame behind 0 := ⟨by omega, hzero, hsplit⟩
    by_cases hflag : p.storeSplitPackets = true
    · refine ends_read .splitPacket (p.insert (0, frame.length)).2 (by omega) ?_
        (iff_of_true rfl hsees) (fun h => by rw [hflag] at h; cases h)
      simp only [firstPacket, if_neg hzero, if_pos hremaining, if_pos hflag]
    · refine ends_read .splitPacket p (by omega) ?_ (iff_of_true rfl hsees) (fun _ => rfl)
      simp only [firstPacket, if_neg hzero, if_pos hremaining, if_neg hflag]
  · exact absurd (complete_of_seen hzero (Nat.not_lt.mp hsplit)) hstop

/-- **Where the parser comes to:** to the end of every walk that cannot go on in the frame and the FIFO.
    -/
theorem ends_of_walk (behind : Nat → UInt8) (hroom : 0 < p.indexSizePairFIFO.room) (hwalk : Walk frame packets stop)
    (hlength : packets.length ≤ p.indexSizePairFIFO.room)
    (hstop : Complete frame stop → packets.length = p.indexSizePairFIFO.room) :
    ∃ p', Holds p p' packets ∧ Ends (parsePusPackets p false frame.length) frame behind p' stop := by
  by_cases hsome : packets = []
  · obtain rfl := walk_of_nil hwalk hsome
    subst hsome
    refine ⟨p, Holds.start p, parsePusPackets_ends hroom fun hcomplete => ?_⟩
    have hnoroom := hstop hcomplete
    rw [List.length_nil] at hnoroom
    omega
  · obtain ⟨p', passes, hholds, hpasses, hfollows⟩ := follows_walk hwalk hsome hlength
    refine ⟨p', hholds, hfollows.ends ?_⟩
    have hle := walk_length_le hwalk
    by_cases hend : frame.length ≤ stop
    · rw [readMultiplePackets_end (p := ⟨p', stop⟩) hend]
      exact ends_done (by omega) (fun h => absurd h.1 (by omega)) (by decide)
    · obtain ⟨passes, rfl⟩ : ∃ n, passes = n + 1 := ⟨passes - 1, by omega⟩
      exact readMultiplePackets_ends hholds hstop passes

/-- There is a walk that cannot go on. -/
theorem exists_walk_end (frame : List UInt8) (room : Nat) :
    ∃ packets stop, Walk frame packets stop ∧ packets.length ≤ room ∧
      (Complete frame stop → packets.length = room) := by
  induction room with
  | zero => exact ⟨[], 0, Walk.start, le_rfl, fun _ => rfl⟩
  | succ room ih =>
    obtain ⟨packets, stop, hwalk, hlength, hstop⟩ := ih
    by_cases hcomplete : Complete frame stop
    · refine ⟨_, _, Walk.packet hwalk hcomplete, ?_, fun _ => ?_⟩
      · rw [List.length_append, List.length_singleton]
        omega
      · rw [List.length_append, List.length_singleton, hstop hcomplete]
    · exact ⟨packets, stop, hwalk, by omega, fun h => absurd h hcomplete⟩

end Stops

/-! ## Main results -/

/-- **The parser reads inside the frame** unless the complete packets it takes are followed by five bytes,
    of which there may be no more than those. -/
theorem reads_inside_iff (p : PusParser) (null : Bool) (frame : List UInt8) (behind : Nat → UInt8) :
    (parsePusPackets p null frame.length).Inside (memory frame behind) frame.length ↔
      (null = false → 0 < p.indexSizePairFIFO.room → ∀ packets stop, Walk frame packets stop →
        packets.length ≤ p.indexSizePairFIFO.room → stop + 5 ≠ frame.length) := by
  cases null with
  | true =>
    refine iff_of_true ?_ (fun h => by cases h)
    rw [parsePusPackets, if_pos (Or.inl rfl)]
    exact inside_done _
  | false =>
    by_cases hroom : 0 < p.indexSizePairFIFO.room
    swap
    · refine iff_of_true ?_ (fun _ h => absurd h hroom)
      have hfull : p.indexSizePairFIFO.full = true := by
        rw [Fifo.full_iff_room]
        omega
      rw [parsePusPackets, if_pos hfull]
      split_ifs
      all_goals exact inside_done _
    constructor
    · intro hinside _ _ packets stop hwalk hlength htail
      have hincomplete : ¬ Complete frame stop := by
        intro h
        have hfits := h.1
        unfold HeaderFits at hfits
        omega
      obtain ⟨_, _, hends⟩ :=
        ends_of_walk behind hroom hwalk hlength (fun h => absurd h hincomplete)
      exact hends.inside.mp hinside htail
    · intro hwalks
      obtain ⟨packets, stop, hwalk, hlength, hstop⟩ :=
        exists_walk_end frame p.indexSizePairFIFO.room
      obtain ⟨_, _, hends⟩ := ends_of_walk behind hroom hwalk hlength hstop
      exact hends.inside.mpr (hwalks rfl hroom packets stop hwalk hlength)

/-- A header without its last byte. -/
def fiveBytes : List UInt8 := [24, 1, 192, 0, 0]

/-- **A sixth byte is read** of a frame that has five. -/
theorem fiveBytes_read_behind :
    (parsePusPackets (construct 2 true) false 5).indices (memory fiveBytes fun _ => 0) = [4, 5] ∧
    ¬ ∀ (p : PusParser) (null : Bool) (frame : List UInt8) (behind : Nat → UInt8),
      (parsePusPackets p null frame.length).Inside (memory frame behind) frame.length := by
  have hindices : (parsePusPackets (construct 2 true) false 5).indices
      (memory fiveBytes fun _ => 0) = [4, 5] := by decide
  refine ⟨hindices, fun hinside => ?_⟩
  have hlast : 5 < 5 := hinside (construct 2 true) false fiveBytes (fun _ => 0) 5 (by
    show 5 ∈ (parsePusPackets (construct 2 true) false 5).indices (memory fiveBytes fun _ => 0)
    rw [hindices]
    decide)
  exact absurd hlast (by decide)

/-- The entries lie one behind the other from index 0 on, and the last one is the split packet up to the
    end of the frame. -/
structure Partition (frame : List UInt8) (behind : Nat → UInt8) (entries : List IndexSizePair) :
    Prop where
  contiguous : Contiguous entries
  last : ∃ start, entries.getLast? = some (start, frame.length - start) ∧
    SeesSplit frame behind start

/-- When a split packet is reported, the entries behind those that were in the FIFO are a partition of
    the frame. -/
def StoresSplit (fifo : Fifo IndexSizePair) (frame : List UInt8) (behind : Nat → UInt8)
    (answer : Option (ReturnValue × PusParser)) : Prop :=
  ∀ q, answer = some (.splitPacket, q) →
    ∃ entries, q.indexSizePairFIFO.elements = fifo.elements ++ entries ∧ Partition frame behind entries

/-- **A parser that is to store split packets stores none,** so it is right exactly if it reports none:
    behind the packets that the FIFO takes, no split packet is seen. -/
theorem split_stored_iff (maxExpectedPusPackets : UInt16) (fifo : Fifo IndexSizePair)
    (frame : List UInt8) (behind : Nat → UInt8) :
    StoresSplit fifo frame behind
        ((parsePusPackets { construct maxExpectedPusPackets true with indexSizePairFIFO := fifo } false
          frame.length).run (memory frame behind)) ↔
      (0 < fifo.room → ∀ packets stop, Walk frame packets stop → packets.length ≤ fifo.room →
        ¬ SeesSplit frame behind stop) := by
  let p : PusParser := { construct maxExpectedPusPackets true with indexSizePairFIFO := fifo }
  by_cases hroom : 0 < fifo.room
  swap
  · refine iff_of_true ?_ (fun h => absurd h hroom)
    have hfull : fifo.full = true := by
      rw [Fifo.full_iff_room]
      omega
    intro q hq
    rw [parsePusPackets, if_pos hfull] at hq
    split_ifs at hq
    all_goals cases hq
  constructor
  · intro hstores _ packets stop hwalk hlength hsees
    have hincomplete : ¬ Complete frame stop := by
      intro h
      have hcut := hsees.2.2
      rw [seen_of_fits behind h.1] at hcut
      exact absurd h.2.2 (Nat.not_le.mpr hcut)
    obtain ⟨p', hholds, hends⟩ := ends_of_walk (p := p) behind hroom hwalk hlength
      (fun h => absurd h hincomplete)
    obtain ⟨result, q, hrun, hsplit, hsame⟩ := hends.result
    obtain rfl := hsplit.mpr hsees
    obtain rfl := hsame hholds.flag
    -- the entries are the packets of the walk, and the last of them ends where the split one starts
    obtain ⟨entries, helements, hpartition⟩ := hstores q hrun
    obtain rfl : packets = entries := List.append_cancel_left (hholds.elements.symm.trans helements)
    obtain ⟨start, hlast, hstart⟩ := hpartition.last
    have hend := (walk_contiguous hwalk).2 (start, frame.length - start) (by
      cases packets with
      | nil => cases hlast
      | cons first others => rw [List.getLast?_cons_cons]; exact hlast)
    have hinside : start + (frame.length - start) = stop := hend
    have hfits := hsees.1
    have hfits' := hstart.1
    omega
  · intro hwalks q hq
    obtain ⟨packets, stop, hwalk, hlength, hstop⟩ := exists_walk_end frame fifo.room
    obtain ⟨p', hholds, hends⟩ := ends_of_walk (p := p) behind hroom hwalk hlength hstop
    obtain ⟨result, q', hrun, hsplit, _⟩ := hends.result
    obtain rfl : result = .splitPacket := congrArg Prod.fst (Option.some.inj (hrun.symm.trans hq))
    exact absurd (hsplit.mp rfl) (hwalks hroom packets stop hwalk hlength)

/-- Six bytes of a packet of eight. -/
def sixBytes : List UInt8 := [24, 1, 192, 0, 0, 1]

theorem walk_sixBytes {packets : List IndexSizePair} {stop : Nat} (h : Walk sixBytes packets stop) :
    packets = [] ∧ stop = 0 := by
  induction h with
  | start => exact ⟨rfl, rfl⟩
  | packet walk complete ih =>
    obtain ⟨-, rfl⟩ := ih
    exact absurd complete.2.2 (by decide)

/-- **A split packet is reported and not stored,** in a FIFO that is empty and has room for more. -/
theorem sixBytes_not_stored :
    ((parsePusPackets (construct 2 true) false 6).run (memory sixBytes fun _ => 0)).map
      (fun answer => (answer.1, answer.2.indexSizePairFIFO.elements)) = some (.splitPacket, []) ∧
    ¬ ∀ (maxExpectedPusPackets : UInt16) (fifo : Fifo IndexSizePair) (frame : List UInt8)
      (behind : Nat → UInt8), (∀ packets stop, Walk frame packets stop → packets.length < fifo.room) →
      StoresSplit fifo frame behind
        ((parsePusPackets { construct maxExpectedPusPackets true with indexSizePairFIFO := fifo } false
          frame.length).run (memory frame behind)) := by
  refine ⟨by decide, fun hstores => ?_⟩
  have hempty := hstores 2 (Fifo.empty 2) sixBytes (fun _ => 0) (fun packets stop hwalk => by
    rw [(walk_sixBytes hwalk).1]
    decide)
  obtain ⟨entries, helements, hpartition⟩ := hempty (construct 2 true) rfl
  obtain rfl : entries = [] := (List.append_eq_nil_iff.mp helements.symm).2
  obtain ⟨start, hlast, _⟩ := hpartition.last
  cases hlast

/-! ## The parser without what is behind the frame -/

section Inside

variable {frame : List UInt8} {behind : Nat → UInt8}

theorem readLengthField_seen (behind : Nat → UInt8) {index : Nat} (h : index + 5 < frame.length) :
    readLengthField frame index = some (seen frame behind index) := by
  have hfits : HeaderFits frame index := h
  rw [readLengthField_eq hfits, seen_of_fits behind hfits]

theorem readNextPacket_eq_run {p : Position}
    (hinside : (readNextPacket frame.length p).Inside (memory frame behind) frame.length) :
    PusParser.readNextPacket frame p =
      some ((readNextPacket frame.length p).run (memory frame behind)) := by
  unfold readNextPacket at hinside ⊢
  unfold PusParser.readNextPacket
  by_cases hshort : frame.length < p.index + 5
  · rw [if_pos hshort, if_pos hshort, run_done]
  rw [if_neg hshort, inside_map, inside_readLength] at hinside
  rw [if_neg hshort, if_neg hshort, readLengthField_seen behind hinside, run_map, run_readLength]
  unfold nextPacket
  dsimp only
  split_ifs
  all_goals rfl

theorem readMultiplePackets_eq_run (passes : Nat) :
    ∀ p : Position,
      (readMultiplePackets frame.length passes p).Inside (memory frame behind) frame.length →
      PusParser.readMultiplePackets passes frame p.parser p.index =
        (readMultiplePackets frame.length passes p).run (memory frame behind) := by
  induction passes with
  | zero =>
    intro p _
    unfold readMultiplePackets PusParser.readMultiplePackets Loop.whileLoop
    by_cases hend : p.index < frame.length
    · simp [hend]
    · simp [hend]
  | succ passes ih =>
    intro p hinside
    unfold readMultiplePackets at hinside ⊢
    unfold PusParser.readMultiplePackets at ih ⊢
    rw [List.replicate_succ, Loop.whileLoop]
    by_cases hend : p.index < frame.length
    swap
    · simp [hend]
    rw [if_pos hend, inside_bind] at hinside
    rw [if_pos hend, run_bind, if_pos (by simpa using hend), PusParser.pass,
      readNextPacket_eq_run (p := ⟨p.parser, p.index⟩) hinside.1]
    have hrest := hinside.2
    generalize (readNextPacket frame.length p).run (memory frame behind) = next at hrest ⊢
    obtain ⟨result, p'⟩ := next
    cases result with
    | ok =>
      simp only [if_true] at hrest ⊢
      exact ih p' hrest
    | failed => rfl
    | noPacketFound => rfl
    | splitPacket => rfl
    | fifoFull => rfl

/-- **A parser that stays inside the frame** answers what it answers without the memory behind it. -/
theorem parsePusPackets_eq_run {p : PusParser}
    (hinside : (parsePusPackets p false frame.length).Inside (memory frame behind) frame.length) :
    PusParser.parsePusPackets frame.length p (some frame) =
      (parsePusPackets p false frame.length).run (memory frame behind) := by
  unfold parsePusPackets at hinside ⊢
  unfold PusParser.parsePusPackets
  by_cases hshort : frame.length < 5
  · simp [hshort]
  by_cases hfull : p.indexSizePairFIFO.full = true
  · simp [hshort, hfull]
  have hfirst : ¬ (false = true ∨ frame.length < 5) := by simpa using hshort
  rw [if_neg hfirst, if_neg hfull, inside_bind, inside_readLength, run_readLength] at hinside
  rw [if_neg hfirst, if_neg hfull, run_bind, run_readLength]
  simp only [if_neg hshort, if_neg hfull, readLengthField_seen behind hinside.1]
  have hrest := hinside.2
  unfold firstPacket at hrest ⊢
  dsimp only at hrest ⊢
  split_ifs at hrest ⊢
  · rfl
  · rfl
  · rfl
  · rfl
  · exact readMultiplePackets_eq_run frame.length
      ⟨(p.insert (0, seen frame behind 0 + 7)).2, seen frame behind 0 + 7⟩ hrest

end Inside

end PusFrames
end Tmtc
end Obsw
