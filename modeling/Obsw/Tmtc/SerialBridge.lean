import Mathlib.Data.List.Infix
import Obsw.Config
import Obsw.Lib.Loop
import Obsw.Tmtc.RingBufferAnalyzer

/-!
# `Tmtc.SerialBridge` — packets from the serial line

`TmTcSerialBridge::handleTc` asks the analyzer for packets and passes each one on, while the polling task
writes what the serial line receives into the ring buffer. The line carries packets with noise between
them, cut into reads in any way.

A packet is delivered once for itself and once more for each time the noise in front of it holds the
length of the encoded packet (`deliveries`): the analyzer deletes too little, and finds it again. So
every packet is delivered exactly once if and only if the noise in front of each is shorter than it, and
the packet fits the reception buffer (`delivers_iff`).
-/

namespace Obsw
namespace Tmtc
namespace SerialBridge

open Loop RingBufferAnalyzer

/-! ## `TmTcSerialBridge` -/

/-- `MAX_TC_PACKETS_HANDLED`. -/
def maxTcPacketsHandled : Nat := 5

/-- The size of `tcArray`. -/
def tcArraySize : Nat := rs232MaxSerialFrameSize + 5

/-- The bridge, and the packets it passed to `handleTcReception` so far. -/
structure Bridge where
  analyzer : Analyzer
  delivered : List (List UInt8)

/-- The loop of `handleTc` with `passes` passes left. `reception` is the error `handleTcReception`
    answers with in a pass, if any; it is what `handleTc` returns. -/
def handleTcFrom (d : DleEncoder) (reception : Nat → Option Nat) :
    Nat → Bridge → Option Nat × Bridge
  | 0, b => (none, b)
  | passes + 1, b =>
    let check := checkForPackets d tcArraySize b.analyzer
    let b := { b with analyzer := check.2 }
    match check.1.result with
    | .ok =>
      let b := { b with delivered := b.delivered ++ [check.1.packet] }
      match reception passes with
      | some error => (some error, b)
      | none => handleTcFrom d reception passes b
    | .possiblePacketLoss | .failed => handleTcFrom d reception passes b
    | .noPacketFound => (none, b)

def handleTc (d : DleEncoder) (reception : Nat → Option Nat) (b : Bridge) : Option Nat × Bridge :=
  handleTcFrom d reception maxTcPacketsHandled b

/-! ## The serial line -/

/-- The polling task writes what was read, or the bridge handles packets. -/
inductive Action where
  | read (bytes : List UInt8)
  | handleTc (reception : Nat → Option Nat)

def step (d : DleEncoder) (action : Action) (b : Bridge) : Bridge :=
  match action with
  | .read bytes =>
    match b.analyzer.ringBuffer.write bytes with
    | some ringBuffer => { b with analyzer := { b.analyzer with ringBuffer := ringBuffer } }
    | none => b
  | .handleTc reception => (handleTc d reception b).2

/-- A read finds room in the ring buffer. -/
def Fits (action : Action) (b : Bridge) : Prop :=
  match action with
  | .read bytes => bytes.length ≤ b.analyzer.ringBuffer.room
  | .handleTc _ => True

def start (capacity : Nat) : Bridge := ⟨construct (Fifo.empty capacity), []⟩

/-- The bytes that are read. -/
def received (actions : List Action) : List UInt8 :=
  actions.flatMap fun
    | .read bytes => bytes
    | .handleTc _ => []

/-- A packet and the noise in front of it. -/
structure Segment where
  noise : List UInt8
  packet : List UInt8
  quiet : Quiet noise

/-- What the line carries: encoded packets, with noise before, between and behind them. -/
def stream (d : DleEncoder) (segments : List Segment) (trailing : List UInt8) : List UInt8 :=
  segments.flatMap (fun s => s.noise ++ d.encode s.packet) ++ trailing

/-- What the bridge makes of a segment: nothing, if the packet is too long; else the packet, and once more
    for each time the noise holds its length. -/
def deliveries (d : DleEncoder) (s : Segment) : List (List UInt8) :=
  if s.packet.length ≤ tcArraySize then
    List.replicate (s.noise.length / (d.encode s.packet).length + 1) s.packet
  else []

/-- What is left of a packet that was delivered: its end, or nothing. -/
def IsTail (residue : List UInt8) : Prop :=
  residue = [] ∨ ∃ tail, Quiet tail ∧ residue = tail ++ [etxChar]

/-- What the bridge keeps while `future` is still to be read: the ring buffer and the future are the tail
    of a delivered packet and segments still to come; with those, all deliveries are made. -/
structure Inv (d : DleEncoder) (all : List Segment) (trailing future : List UInt8) (b : Bridge) :
    Prop where
  synced : Synced b.analyzer
  pending : ∃ residue segments, IsTail residue ∧
    b.analyzer.ringBuffer.elements ++ future = residue ++ stream d segments trailing ∧
    b.delivered ++ segments.flatMap (deliveries d) = all.flatMap (deliveries d)

/-! ## Cutting a list at a delimiter -/

section

variable {α : Type} {c : α} {xs ys pre rest : List α}

theorem prefix_of_notMem (h : xs ++ ys = pre ++ c :: rest) (hxs : c ∉ xs) : xs <+: pre := by
  rcases List.append_eq_append_iff.mp h with ⟨between, hpre, -⟩ | ⟨between, hbetween, hrest⟩
  · exact ⟨between, hpre.symm⟩
  · cases between with
    | nil => exact ⟨[], by rw [hbetween]; simp⟩
    | cons x between =>
      rw [List.cons_append, List.cons.injEq] at hrest
      rw [hbetween, hrest.1] at hxs
      exact absurd (by simp) hxs

theorem split_of_mem (h : xs ++ ys = pre ++ c :: rest) (hxs : c ∈ xs) (hpre : c ∉ pre) :
    ∃ xs', xs = pre ++ c :: xs' ∧ xs' ++ ys = rest := by
  rcases List.append_eq_append_iff.mp h with ⟨between, hbetween, -⟩ | ⟨between, hbetween, hrest⟩
  · rw [hbetween] at hpre
    exact absurd (List.mem_append_left _ hxs) hpre
  · cases between with
    | nil =>
      rw [hbetween, List.append_nil] at hxs
      exact absurd hxs hpre
    | cons x between =>
      rw [List.cons_append, List.cons.injEq] at hrest
      obtain ⟨rfl, hrest⟩ := hrest
      exact ⟨between, hbetween, hrest.symm⟩

end

/-! ## Deliveries of a segment -/

section

variable {d : DleEncoder} {s : Segment}

theorem encode_length (hd : d.Documented) (packet : List UInt8) : 2 ≤ (d.encode packet).length := by
  obtain ⟨body, hencode, -⟩ := hd.framed packet
  rw [hencode]
  simp

theorem deliveries_long (hlong : ¬ s.packet.length ≤ tcArraySize) : deliveries d s = [] :=
  if_neg hlong

/-- Little noise: the packet is delivered once. -/
theorem deliveries_near (hfits : s.packet.length ≤ tcArraySize)
    (hnear : s.noise.length < (d.encode s.packet).length) : deliveries d s = [s.packet] := by
  rw [deliveries, if_pos hfits, Nat.div_eq_of_lt hnear]
  rfl

/-- The segment without the first bytes of its noise. -/
def Segment.shorten (s : Segment) (n : Nat) : Segment where
  noise := s.noise.drop n
  packet := s.packet
  quiet := s.quiet.sublist (List.drop_sublist n s.noise)

/-- Much noise: the packet is delivered, and the segment comes again with less noise. -/
theorem deliveries_far (hd : d.Documented) (hfits : s.packet.length ≤ tcArraySize)
    (hfar : (d.encode s.packet).length ≤ s.noise.length) :
    deliveries d s = s.packet :: deliveries d (s.shorten (d.encode s.packet).length) := by
  have hpos : 0 < (d.encode s.packet).length := Nat.lt_of_lt_of_le Nat.two_pos (encode_length hd _)
  have hshort : s.packet.length ≤ tcArraySize ↔
      (s.shorten (d.encode s.packet).length).packet.length ≤ tcArraySize := Iff.rfl
  rw [deliveries, if_pos hfits, deliveries, if_pos (hshort.mp hfits)]
  simp only [Segment.shorten, List.length_drop]
  rw [Nat.div_eq_sub_div hpos hfar]
  rfl

/-- With little noise, the end of the packet stays behind in the ring buffer. -/
theorem isTail_near (hd : d.Documented) (hnear : s.noise.length < (d.encode s.packet).length) :
    IsTail ((s.noise ++ d.encode s.packet).drop (d.encode s.packet).length) := by
  obtain ⟨body, hencode, hbody⟩ := hd.framed s.packet
  rw [List.drop_append, List.drop_of_length_le (Nat.le_of_lt hnear), List.nil_append]
  cases hnoise : s.noise.length with
  | zero =>
    rw [Nat.sub_zero, List.drop_length]
    exact Or.inl rfl
  | succ n =>
    right
    rw [hnoise] at hnear
    have hlength : (d.encode s.packet).length = body.length + 2 := by
      rw [hencode]
      simp
    have hdrop : (d.encode s.packet).length - (n + 1) = (body.length - n) + 1 := by omega
    refine ⟨body.drop (body.length - n), hbody.sublist (List.drop_sublist _ _), ?_⟩
    rw [hdrop, hencode, List.cons_append, List.drop_succ_cons,
      List.drop_append_of_le_length (Nat.sub_le _ _)]

end

/-! ## What lies in the ring buffer -/

section

variable {d : DleEncoder} {all segments : List Segment} {trailing future elements residue : List UInt8}

/-- The first packet of a stream ends with the first ETX. -/
theorem stream_cons {s : Segment} {body : List UInt8} (others : List Segment)
    (trailing : List UInt8) (hencode : d.encode s.packet = stxChar :: body ++ [etxChar]) :
    stream d (s :: others) trailing =
      (s.noise ++ stxChar :: body) ++ etxChar :: stream d others trailing := by
  rw [stream, stream, List.flatMap_cons, hencode]
  simp

/-- A packet of the stream ends in the ring buffer, or the tail of a packet does, or nothing does. -/
theorem pending_cases (hd : d.Documented) (htrailing : Quiet trailing) (hresidue : IsTail residue)
    (h : elements ++ future = residue ++ stream d segments trailing) :
    Unfinished elements ∨
      (∃ tail rest, Quiet tail ∧ elements = tail ++ etxChar :: rest ∧
        rest ++ future = stream d segments trailing) ∨
      ∃ s others rest, residue = [] ∧ segments = s :: others ∧
        elements = s.noise ++ d.encode s.packet ++ rest ∧
        rest ++ future = stream d others trailing := by
  by_cases hetx : etxChar ∈ elements
  · -- the first ETX of what is pending lies in the ring buffer, and ends its first part
    right
    rcases hresidue with rfl | ⟨tail, htail, rfl⟩
    · right
      rw [List.nil_append] at h
      cases segments with
      | nil =>
        -- no packet can end in what is behind the last one
        have hmem : etxChar ∈ trailing := by
          have : etxChar ∈ elements ++ future := List.mem_append_left _ hetx
          rw [h] at this
          exact this
        exact absurd hmem htrailing.etx_notMem
      | cons s others =>
        obtain ⟨body, hencode, hbody⟩ := hd.framed s.packet
        rw [stream_cons others trailing hencode] at h
        obtain ⟨rest, helements, hrest⟩ := split_of_mem h hetx
          (Unfinished.body s.quiet hbody).etx_notMem
        refine ⟨s, others, rest, rfl, rfl, ?_, hrest⟩
        rw [helements, hencode]
        simp
    · left
      rw [List.append_assoc, List.singleton_append] at h
      obtain ⟨rest, helements, hrest⟩ := split_of_mem h hetx htail.etx_notMem
      exact ⟨tail, rest, htail, helements, hrest⟩
  · -- without an ETX, the ring buffer holds a beginning of the first part
    left
    rcases hresidue with rfl | ⟨tail, htail, rfl⟩
    · rw [List.nil_append] at h
      cases segments with
      | nil =>
        have hinitial : elements <+: trailing := ⟨future, h⟩
        exact (Unfinished.noise htrailing).of_initial hinitial
      | cons s others =>
        obtain ⟨body, hencode, hbody⟩ := hd.framed s.packet
        rw [stream_cons others trailing hencode] at h
        exact (Unfinished.body s.quiet hbody).of_initial (prefix_of_notMem h hetx)
    · rw [List.append_assoc, List.singleton_append] at h
      exact (Unfinished.noise htail).of_initial (prefix_of_notMem h hetx)

end

/-! ## Steps -/

section

variable {d : DleEncoder} {all : List Segment} {trailing future : List UInt8} {b : Bridge}

/-- **Step lemma.** A call of the analyzer finds nothing and leaves the ring buffer as it is; or it finds
    an ETX, deletes something, and keeps the invariant with what it delivers. -/
theorem checkForPackets_cases (hd : d.Documented) (htrailing : Quiet trailing)
    (h : Inv d all trailing future b) :
    ((checkForPackets d tcArraySize b.analyzer).1.result = .noPacketFound ∧
        (checkForPackets d tcArraySize b.analyzer).2.ringBuffer = b.analyzer.ringBuffer ∧
        Unfinished b.analyzer.ringBuffer.elements ∧
        Inv d all trailing future ⟨(checkForPackets d tcArraySize b.analyzer).2, b.delivered⟩) ∨
      (etxChar ∈ b.analyzer.ringBuffer.elements ∧
        (checkForPackets d tcArraySize b.analyzer).2.ringBuffer.elements.length <
          b.analyzer.ringBuffer.elements.length ∧
        (((checkForPackets d tcArraySize b.analyzer).1.result = .possiblePacketLoss ∧
            Inv d all trailing future
              ⟨(checkForPackets d tcArraySize b.analyzer).2, b.delivered⟩) ∨
          ((checkForPackets d tcArraySize b.analyzer).1.result = .ok ∧
            Inv d all trailing future
              ⟨(checkForPackets d tcArraySize b.analyzer).2,
                b.delivered ++ [(checkForPackets d tcArraySize b.analyzer).1.packet]⟩))) := by
  obtain ⟨residue, segments, hresidue, hpending, hdelivered⟩ := h.pending
  rcases pending_cases hd htrailing hresidue hpending with hopen |
    ⟨tail, rest, htail, helements, hrest⟩ | ⟨s, others, rest, rfl, rfl, helements, hrest⟩
  · -- no packet ends in the buffer
    obtain ⟨hresult, hbuffer, hsynced⟩ := checkForPackets_unfinished d tcArraySize h.synced hopen
    refine Or.inl ⟨hresult, hbuffer, hopen, hsynced, residue, segments, hresidue, ?_, hdelivered⟩
    show (checkForPackets d tcArraySize b.analyzer).2.ringBuffer.elements ++ future = _
    rw [hbuffer]
    exact hpending
  · -- the end of a packet that was cut before
    obtain ⟨hresult, hleft, hsynced⟩ :=
      checkForPackets_tail d tcArraySize h.synced htail helements
    refine Or.inr ⟨by rw [helements]; simp, ?_,
      Or.inl ⟨hresult, hsynced, [], segments, Or.inl rfl, ?_, hdelivered⟩⟩
    · rw [hleft, helements, List.length_append, List.length_cons]
      omega
    · show (checkForPackets d tcArraySize b.analyzer).2.ringBuffer.elements ++ future = _
      rw [hleft]
      exact hrest
  · -- a whole packet, with noise in front of it
    obtain ⟨hparse, hleft, hsynced⟩ :=
      checkForPackets_packet tcArraySize hd h.synced s.quiet helements
    have hlength := encode_length hd s.packet
    have hetx : etxChar ∈ b.analyzer.ringBuffer.elements := by
      obtain ⟨body, hencode, -⟩ := hd.framed s.packet
      rw [helements, hencode]
      simp
    right
    by_cases hfits : s.packet.length ≤ tcArraySize
    · rw [if_pos hfits] at hparse hleft
      refine ⟨hetx, ?_, Or.inr ⟨by rw [hparse], hsynced, ?_⟩⟩
      · rw [hleft, helements]
        simp only [List.length_append, List.length_drop]
        omega
      · rw [hparse]
        show ∃ residue segments, IsTail residue ∧
          (checkForPackets d tcArraySize b.analyzer).2.ringBuffer.elements ++ future = _ ∧ _
        rw [hleft]
        by_cases hnear : s.noise.length < (d.encode s.packet).length
        · -- the end of the packet stays behind
          refine ⟨_, others, isTail_near hd hnear, ?_, ?_⟩
          · rw [List.append_assoc, hrest]
          · rw [← hdelivered, List.flatMap_cons, deliveries_near hfits hnear, List.append_assoc]
        · -- noise stays behind, and the whole packet with it
          have hfar := Nat.le_of_not_lt hnear
          refine ⟨[], s.shorten (d.encode s.packet).length :: others, Or.inl rfl, ?_, ?_⟩
          · rw [List.drop_append_of_le_length hfar, List.append_assoc, List.append_assoc, hrest,
              stream, stream, List.flatMap_cons]
            simp [Segment.shorten]
          · rw [← hdelivered, List.flatMap_cons, List.flatMap_cons, deliveries_far hd hfits hfar,
              List.append_assoc, List.singleton_append, List.cons_append]
    · -- the packet is too long for the buffer
      rw [if_neg hfits] at hparse hleft
      refine ⟨hetx, ?_, Or.inl ⟨by rw [hparse], hsynced, [], others, Or.inl rfl, ?_, ?_⟩⟩
      · rw [hleft, helements]
        simp only [List.length_append]
        omega
      · show (checkForPackets d tcArraySize b.analyzer).2.ringBuffer.elements ++ future = _
        rw [hleft]
        exact hrest
      · rw [← hdelivered, List.flatMap_cons, deliveries_long hfits, List.nil_append]

/-- `handleTc` keeps the invariant. It deletes something, or no packet has ended in the ring buffer. -/
theorem handleTcFrom_cases (hd : d.Documented) (htrailing : Quiet trailing)
    (reception : Nat → Option Nat) (passes : Nat) (h : Inv d all trailing future b) :
    Inv d all trailing future (handleTcFrom d reception passes b).2 ∧
      (((handleTcFrom d reception passes b).2.analyzer.ringBuffer = b.analyzer.ringBuffer ∧
          (passes ≠ 0 → Unfinished b.analyzer.ringBuffer.elements)) ∨
        (etxChar ∈ b.analyzer.ringBuffer.elements ∧
          (handleTcFrom d reception passes b).2.analyzer.ringBuffer.elements.length <
            b.analyzer.ringBuffer.elements.length)) := by
  induction passes generalizing b with
  | zero => exact ⟨h, Or.inl ⟨rfl, fun hpasses => absurd rfl hpasses⟩⟩
  | succ passes ih =>
    -- once something is deleted, the other passes delete more or nothing
    have hshrink : ∀ {b₁ : Bridge}, Inv d all trailing future b₁ →
        b₁.analyzer.ringBuffer.elements.length < b.analyzer.ringBuffer.elements.length →
        Inv d all trailing future (handleTcFrom d reception passes b₁).2 ∧
          (handleTcFrom d reception passes b₁).2.analyzer.ringBuffer.elements.length <
            b.analyzer.ringBuffer.elements.length := by
      intro b₁ hinv hlt
      obtain ⟨hinv', ⟨hsame, -⟩ | ⟨-, hlt'⟩⟩ := ih hinv
      · exact ⟨hinv', by rw [hsame]; exact hlt⟩
      · exact ⟨hinv', hlt'.trans hlt⟩
    rcases checkForPackets_cases hd htrailing h with
      ⟨hresult, hbuffer, hopen, hinv⟩ | ⟨hetx, hlt, ⟨hresult, hinv⟩ | ⟨hresult, hinv⟩⟩
    · simp only [handleTcFrom, hresult]
      exact ⟨hinv, Or.inl ⟨hbuffer, fun _ => hopen⟩⟩
    · simp only [handleTcFrom, hresult]
      obtain ⟨hinv', hlt'⟩ := hshrink hinv hlt
      exact ⟨hinv', Or.inr ⟨hetx, hlt'⟩⟩
    · simp only [handleTcFrom, hresult]
      cases reception passes with
      | some error => exact ⟨hinv, Or.inr ⟨hetx, hlt⟩⟩
      | none =>
        obtain ⟨hinv', hlt'⟩ := hshrink hinv hlt
        exact ⟨hinv', Or.inr ⟨hetx, hlt'⟩⟩

theorem read_inv {bytes : List UInt8} (h : Inv d all trailing (bytes ++ future) b)
    (hfits : Fits (.read bytes) b) :
    Inv d all trailing future (step d (.read bytes) b) ∧
      (step d (.read bytes) b).analyzer.ringBuffer.elements =
        b.analyzer.ringBuffer.elements ++ bytes := by
  obtain ⟨q, hwrite, helements, -⟩ := Fifo.write_of_le hfits
  have hstep : step d (.read bytes) b =
      { b with analyzer := { b.analyzer with ringBuffer := q } } := by
    simp only [step, hwrite]
  have hread : b.analyzer.currentBytesRead ≤ b.analyzer.ringBuffer.elements.length := h.synced.read
  rw [hstep]
  refine ⟨⟨⟨?_, ?_⟩, ?_⟩, helements⟩
  · show b.analyzer.currentBytesRead ≤ q.elements.length
    rw [helements, List.length_append]
    exact hread.trans (Nat.le_add_right _ _)
  · show etxChar ∉ q.elements.take b.analyzer.currentBytesRead
    rw [helements, List.take_append_of_le_length hread]
    exact h.synced.searched
  · obtain ⟨residue, segments, hresidue, hpending, hdelivered⟩ := h.pending
    refine ⟨residue, segments, hresidue, ?_, hdelivered⟩
    show q.elements ++ future = _
    rw [helements, List.append_assoc]
    exact hpending

/-- **Run lemma.** The invariant holds after any reads that fit, and any calls of `handleTc`, and the ring
    buffer has no more bytes than were read. -/
theorem inv_run (hd : d.Documented) (htrailing : Quiet trailing) (actions : List Action) :
    ∀ b, AlongRun Fits (step d) actions b → Inv d all trailing (received actions ++ future) b →
      Inv d all trailing future (run (step d) actions b) ∧
        (run (step d) actions b).analyzer.ringBuffer.elements.length ≤
          b.analyzer.ringBuffer.elements.length + (received actions).length := by
  induction actions with
  | nil => exact fun b _ h => ⟨h, Nat.le_refl _⟩
  | cons action actions ih =>
    intro b hfits h
    rw [run_cons]
    cases action with
    | read bytes =>
      have h' : Inv d all trailing (bytes ++ (received actions ++ future)) b := by
        rw [← List.append_assoc]
        exact h
      obtain ⟨hinv, helements⟩ := read_inv h' hfits.1
      obtain ⟨hrun, hlength⟩ := ih _ hfits.2 hinv
      refine ⟨hrun, ?_⟩
      show _ ≤ _ + (bytes ++ received actions).length
      rw [helements, List.length_append] at hlength
      rw [List.length_append, ← Nat.add_assoc]
      exact hlength
    | handleTc reception =>
      obtain ⟨hinv, hlength⟩ := handleTcFrom_cases hd htrailing reception maxTcPacketsHandled h
      have hle : (step d (.handleTc reception) b).analyzer.ringBuffer.elements.length ≤
          b.analyzer.ringBuffer.elements.length := by
        rcases hlength with ⟨hsame, -⟩ | ⟨-, hlt⟩
        · exact Nat.le_of_eq (congrArg (fun q => q.elements.length) hsame)
        · exact Nat.le_of_lt hlt
      obtain ⟨hrun, hlength'⟩ := ih _ hfits.2 hinv
      exact ⟨hrun, hlength'.trans (Nat.add_le_add_right hle _)⟩

/-- With as many calls as there are bytes, the bridge gets through what lies in the ring buffer. -/
theorem unfinished_run (hd : d.Documented) (htrailing : Quiet trailing)
    (receptions : List (Nat → Option Nat)) :
    ∀ b, Inv d all trailing future b →
      Unfinished b.analyzer.ringBuffer.elements ∨
        b.analyzer.ringBuffer.elements.length ≤ receptions.length →
      Unfinished
        (run (step d) (receptions.map Action.handleTc) b).analyzer.ringBuffer.elements := by
  induction receptions with
  | nil =>
    intro b _ h
    rcases h with h | hempty
    · exact h
    · have hnil : b.analyzer.ringBuffer.elements = [] :=
        List.eq_nil_of_length_eq_zero (Nat.le_zero.mp hempty)
      rw [List.map_nil, run_nil, hnil]
      exact .noise (fun byte hbyte => absurd hbyte List.not_mem_nil)
  | cons reception receptions ih =>
    intro b hinv h
    rw [List.map_cons, run_cons]
    -- a call finds nothing, and then none of the others does; or it deletes something
    obtain ⟨hinv', ⟨hsame, hopen⟩ | ⟨hetx, hlt⟩⟩ :=
      handleTcFrom_cases hd htrailing reception maxTcPacketsHandled hinv
    · apply ih _ hinv'
      left
      show Unfinished (handleTcFrom d reception maxTcPacketsHandled b).2.analyzer.ringBuffer.elements
      rw [hsame]
      exact hopen (by decide)
    · apply ih _ hinv'
      rcases h with h | hlen
      · exact absurd hetx h.etx_notMem
      · right
        rw [List.length_cons] at hlen
        exact Nat.le_of_lt_succ (hlt.trans_le hlen)

/-- When everything was read and no packet ends in the ring buffer, all deliveries were made. -/
theorem delivered_of_unfinished (hd : d.Documented) (h : Inv d all trailing [] b)
    (hopen : Unfinished b.analyzer.ringBuffer.elements) :
    b.delivered = all.flatMap (deliveries d) := by
  obtain ⟨residue, segments, hresidue, hpending, hdelivered⟩ := h.pending
  have hetx := hopen.etx_notMem
  rw [List.append_nil] at hpending
  rw [hpending, List.mem_append, not_or] at hetx
  cases segments with
  | nil =>
    rw [← hdelivered]
    simp
  | cons s others =>
    -- a packet that is left would end in the ring buffer
    obtain ⟨body, hencode, -⟩ := hd.framed s.packet
    refine absurd ?_ hetx.2
    rw [stream_cons others trailing hencode]
    simp

end

/-! ## Counting deliveries -/

theorem length_le_flatMap {α β : Type} {f : α → List β} {xs : List α}
    (hpos : ∀ x ∈ xs, 1 ≤ (f x).length) : xs.length ≤ (xs.flatMap f).length := by
  induction xs with
  | nil => exact Nat.zero_le _
  | cons y ys ih =>
    have hrest := ih (fun x hx => hpos x (List.mem_cons_of_mem y hx))
    have hfirst := hpos y List.mem_cons_self
    rw [List.flatMap_cons, List.length_append, List.length_cons]
    omega

/-- Lists that are not empty, and together have as many elements as there are lists, have one each. -/
theorem length_eq_one_of_flatMap {α β : Type} {f : α → List β} {xs : List α}
    (hpos : ∀ x ∈ xs, 1 ≤ (f x).length) (hlength : (xs.flatMap f).length = xs.length) :
    ∀ x ∈ xs, (f x).length = 1 := by
  induction xs with
  | nil =>
    intro x hx
    cases hx
  | cons y ys ih =>
    have hrest : ∀ x ∈ ys, 1 ≤ (f x).length := fun x hx => hpos x (List.mem_cons_of_mem y hx)
    have hothers := length_le_flatMap hrest
    have hfirst := hpos y List.mem_cons_self
    rw [List.flatMap_cons, List.length_append, List.length_cons] at hlength
    intro x hx
    rcases List.mem_cons.mp hx with rfl | hx
    · omega
    · exact ih hrest (by omega) x hx

/-- Every packet is delivered once only if each of them is. -/
theorem flatMap_deliveries_iff {d : DleEncoder} (hd : d.Documented) {segments : List Segment} :
    segments.flatMap (deliveries d) = segments.map Segment.packet ↔
      ∀ s ∈ segments, s.packet.length ≤ tcArraySize ∧
        s.noise.length < (d.encode s.packet).length := by
  constructor
  · intro h
    -- what is delivered fits the buffer
    have hfits : ∀ s ∈ segments, s.packet.length ≤ tcArraySize := by
      intro s hs
      have hmem : s.packet ∈ segments.flatMap (deliveries d) := by
        rw [h]
        exact List.mem_map_of_mem hs
      obtain ⟨other, -, hother⟩ := List.mem_flatMap.mp hmem
      unfold deliveries at hother
      split at hother
      · rename_i hle
        rw [List.eq_of_mem_replicate hother]
        exact hle
      · cases hother
    have hlength : ∀ s ∈ segments, (deliveries d s).length =
        s.noise.length / (d.encode s.packet).length + 1 := by
      intro s hs
      rw [deliveries, if_pos (hfits s hs), List.length_replicate]
    have hone : ∀ s ∈ segments, (deliveries d s).length = 1 := by
      apply length_eq_one_of_flatMap
      · intro s hs
        rw [hlength s hs]
        exact Nat.le_add_left _ _
      · rw [h, List.length_map]
    intro s hs
    refine ⟨hfits s hs, ?_⟩
    have hzero : s.noise.length / (d.encode s.packet).length = 0 := by
      have := hlength s hs
      rw [hone s hs] at this
      omega
    rcases Nat.div_eq_zero_iff.mp hzero with hempty | hlt
    · have := encode_length hd s.packet
      omega
    · exact hlt
  · intro h
    rw [List.map_eq_flatMap, List.flatMap_def, List.flatMap_def,
      List.map_congr_left (fun s hs => deliveries_near (h s hs).1 (h s hs).2)]

/-! ## Main result -/

/-- The packets are delivered: at any time some of them from the first on, and all of them in the end. -/
def Delivers (d : DleEncoder) (capacity : Nat) (segments : List Segment) (actions : List Action) :
    Prop :=
  (∀ earlier later, actions = earlier ++ later →
      (run (step d) earlier (start capacity)).delivered <+: segments.map Segment.packet) ∧
    (run (step d) actions (start capacity)).delivered = segments.map Segment.packet

theorem alongRun_calls {d : DleEncoder} (receptions : List (Nat → Option Nat)) :
    ∀ b, AlongRun Fits (step d) (receptions.map Action.handleTc) b := by
  induction receptions with
  | nil => exact fun _ => trivial
  | cons reception receptions ih => exact fun b => ⟨trivial, ih _⟩

theorem received_calls (receptions : List (Nat → Option Nat)) :
    received (receptions.map Action.handleTc) = [] := by
  induction receptions with
  | nil => rfl
  | cons reception receptions ih => exact ih

/-- **The serial line.** Let the line carry packets with noise before, between and behind them, let it be
    read in any pieces that fit the ring buffer, with calls of `handleTc` anywhere between the reads
    and enough of them in the end, whatever the reception of a packet answers. Then the bridge
    delivers each packet exactly once, in order, and nothing else, if and only if each packet fits the
    reception buffer and the noise in front of it is shorter than the encoded packet. -/
theorem delivers_iff (d : DleEncoder) (hd : d.Documented) (capacity : Nat)
    (segments : List Segment) (trailing : List UInt8) (htrailing : Quiet trailing)
    (actions : List Action) (receptions : List (Nat → Option Nat))
    (hread : received actions = stream d segments trailing)
    (hfits : AlongRun Fits (step d) actions (start capacity))
    (hcalls : (stream d segments trailing).length ≤ receptions.length) :
    Delivers d capacity segments (actions ++ receptions.map Action.handleTc) ↔
      ∀ s ∈ segments, s.packet.length ≤ tcArraySize ∧
        s.noise.length < (d.encode s.packet).length := by
  have hstart : Inv d segments trailing (stream d segments trailing) (start capacity) := by
    refine ⟨⟨Nat.zero_le _, List.not_mem_nil⟩, [], segments, Or.inl rfl, rfl, ?_⟩
    exact List.nil_append _
  -- the invariant holds behind every part of the run
  have hinv : ∀ earlier later, actions ++ receptions.map Action.handleTc = earlier ++ later →
      Inv d segments trailing (received later) (run (step d) earlier (start capacity)) := by
    intro earlier later hsplit
    have hall : AlongRun Fits (step d) (actions ++ receptions.map Action.handleTc)
        (start capacity) := alongRun_append.mpr ⟨hfits, alongRun_calls receptions _⟩
    have hbytes : received earlier ++ received later = stream d segments trailing := by
      rw [← hread, received, received, ← List.flatMap_append, ← hsplit, List.flatMap_append]
      show received actions ++ received (receptions.map Action.handleTc) = received actions
      rw [received_calls, List.append_nil]
    rw [hsplit] at hall
    rw [← hbytes] at hstart
    exact (inv_run hd htrailing earlier _ (alongRun_append.mp hall).1 hstart).1
  -- what has been delivered in the end
  have hend : (run (step d) (actions ++ receptions.map Action.handleTc)
      (start capacity)).delivered = segments.flatMap (deliveries d) := by
    have hbefore := hinv actions _ rfl
    have hafter := hinv (actions ++ receptions.map Action.handleTc) [] (List.append_nil _).symm
    rw [received_calls] at hbefore
    apply delivered_of_unfinished hd hafter
    rw [run_append]
    apply unfinished_run hd htrailing receptions _ hbefore
    right
    rw [← hread, ← List.append_nil (received actions)] at hstart
    have hlength := (inv_run hd htrailing actions _ hfits hstart).2
    rw [hread] at hlength
    have hempty : (start capacity).analyzer.ringBuffer.elements.length = 0 := rfl
    omega
  rw [← flatMap_deliveries_iff hd]
  constructor
  · intro h
    rw [← hend]
    exact h.2
  · intro h
    refine ⟨?_, hend.trans h⟩
    intro earlier later hsplit
    obtain ⟨residue, rest, -, -, hdelivered⟩ := (hinv earlier later hsplit).pending
    rw [h] at hdelivered
    exact ⟨_, hdelivered⟩

/-- A byte of noise and a packet with an STX in it, and a packet that is a DLE. -/
def twoSegments : List Segment := [⟨[7], [5, 2], by decide⟩, ⟨[], [16], by decide⟩]

/-- Both packets are cut into pieces, and the ring buffer is small. -/
def pieces : List Action :=
  [.read [7, 2, 5], .handleTc (fun _ => none), .read [16, 66, 3, 2, 16, 16],
    .handleTc (fun _ => some 1), .read [3, 9]]

theorem delivers_twoSegments :
    Delivers archived 10 twoSegments
      (pieces ++ (List.replicate 11 (fun _ => none)).map Action.handleTc) := by
  have hfits : AlongRun Fits (step archived) pieces (start 10) := by
    refine ⟨?_, trivial, ?_, trivial, ?_, trivial⟩
    · show [7, 2, 5].length ≤ _
      decide
    · show [16, 66, 3, 2, 16, 16].length ≤ _
      decide
    · show [3, 9].length ≤ _
      decide
  apply (delivers_iff archived archived_documented 10 twoSegments [9] (by decide) pieces
    (List.replicate 11 (fun _ => none)) (by decide) hfits (by decide)).mpr
  decide

/-- Three bytes of noise and a packet of three bytes. -/
def noisySegment : Segment := ⟨[7, 7, 7], [5], by decide⟩

/-- The stream fits the ring buffer and is read at once, and the packet is delivered twice. -/
theorem noise_delivers_twice :
    received [.read [7, 7, 7, 2, 5, 3]] = stream archived [noisySegment] [] ∧
      AlongRun Fits (step archived) [.read [7, 7, 7, 2, 5, 3]] (start 64) ∧
      (run (step archived) [.read [7, 7, 7, 2, 5, 3], .handleTc (fun _ => none)]
        (start 64)).delivered = [[5], [5]] ∧
      ¬ Delivers archived 64 [noisySegment]
        [.read [7, 7, 7, 2, 5, 3], .handleTc (fun _ => none)] := by
  have htwice : (run (step archived) [.read [7, 7, 7, 2, 5, 3], .handleTc (fun _ => none)]
      (start 64)).delivered = [[5], [5]] := by decide
  refine ⟨by decide, ⟨?_, trivial⟩, htwice, ?_⟩
  · show [7, 7, 7, 2, 5, 3].length ≤ _
    decide
  · rintro ⟨-, hall⟩
    rw [htwice] at hall
    exact absurd hall (by decide)

end SerialBridge
end Tmtc
end Obsw
