import Obsw.Lib.Fifo
import Obsw.Tmtc.DleEncoder

/-!
# `Tmtc.RingBufferAnalyzer` — searching the serial bytes for packets

`RingBufferAnalyzer::checkForPackets` copies what the ring buffer holds, searches the copy for STX and
ETX, decodes what lies between them and deletes what it has read from the ring buffer.

`decode` starts at the STX, and so does the number of bytes it says it has read. The analyzer deletes as
many bytes from the start of the buffer, where the noise in front of the STX still is
(`parse_packet`, `checkForPackets_packet`): a part of the packet as long as that noise stays behind.
-/

namespace Obsw
namespace Tmtc
namespace RingBufferAnalyzer

/-! ## `RingBufferAnalyzer` -/

inductive ReturnValue where
  | ok
  | noPacketFound
  | possiblePacketLoss
  /-- The ring buffer could not be read. -/
  | failed
  deriving DecidableEq, Repr

structure Analyzer where
  ringBuffer : Fifo UInt8
  analysisVector : List UInt8
  currentBytesRead : Nat

/-- The constructor. -/
def construct (ringBuffer : Fifo UInt8) : Analyzer where
  ringBuffer := ringBuffer
  analysisVector := List.replicate ringBuffer.capacity 0
  currentBytesRead := 0

def readRingBuffer (a : Analyzer) : ReturnValue × Analyzer :=
  let dataToRead := a.ringBuffer.available
  if dataToRead = 0 then (.noPacketFound, a)
  else if a.currentBytesRead < dataToRead then
    let a := { a with currentBytesRead := dataToRead }
    match a.ringBuffer.read a.currentBytesRead with
    | none => (.failed, a)
    | some bytes => (.ok, { a with analysisVector := bytes ++ a.analysisVector.drop bytes.length })
  -- no new data
  else (.noPacketFound, a)

/-- The result of a search, with `readSize` and the reception buffer up to `packetSize`. -/
structure Parse where
  result : ReturnValue
  readSize : Nat
  packet : List UInt8

/-- The loop of `parseForDleEncodedPackets`, for the bytes from `vectorIdx` on; `stxIdx` is there once an
    STX was found. -/
def parseFrom (d : DleEncoder) (maxSize : Nat) (bytes : List UInt8) :
    List UInt8 → Nat → Option Nat → Parse
  | [], _, _ => ⟨.noPacketFound, 0, []⟩
  | byte :: rest, vectorIdx, stxIdx =>
    if byte = stxChar then
      match stxIdx with
      | none => parseFrom d maxSize bytes rest (vectorIdx + 1) (some vectorIdx)
      -- might be a lost packet: go on at this STX
      | some _ => ⟨.possiblePacketLoss, vectorIdx, []⟩
    else if byte = etxChar then
      match stxIdx with
      | some stxIdx =>
        match d.decode (bytes.drop stxIdx) maxSize with
        | some decoded => ⟨.ok, decoded.readLen, decoded.data⟩
        | none => ⟨.possiblePacketLoss, vectorIdx + 1, []⟩
      | none => ⟨.possiblePacketLoss, vectorIdx + 1, []⟩
    else parseFrom d maxSize bytes rest (vectorIdx + 1) stxIdx

def parseForDleEncodedPackets (d : DleEncoder) (maxSize : Nat) (bytes : List UInt8) : Parse :=
  parseFrom d maxSize bytes bytes 0 none

def handleDleParsing (d : DleEncoder) (maxSize : Nat) (a : Analyzer) : Parse × Analyzer :=
  let parse := parseForDleEncodedPackets d maxSize (a.analysisVector.take a.currentBytesRead)
  match parse.result with
  | .ok | .possiblePacketLoss =>
    (parse, { a with
      currentBytesRead := 0
      ringBuffer := (a.ringBuffer.delete parse.readSize).getD a.ringBuffer })
  -- if no packets were found, nothing is done
  | .noPacketFound | .failed => (parse, a)

def checkForPackets (d : DleEncoder) (maxData : Nat) (a : Analyzer) : Parse × Analyzer :=
  match readRingBuffer a with
  | (.ok, a) => handleDleParsing d maxData a
  | (result, a) => (⟨result, 0, []⟩, a)

/-! ## The search -/

section

variable {d : DleEncoder} {maxSize : Nat} {bytes : List UInt8}

theorem parseFrom_other {byte : UInt8} (hstx : byte ≠ stxChar) (hetx : byte ≠ etxChar)
    (rest : List UInt8) (vectorIdx : Nat) (stxIdx : Option Nat) :
    parseFrom d maxSize bytes (byte :: rest) vectorIdx stxIdx =
      parseFrom d maxSize bytes rest (vectorIdx + 1) stxIdx := by
  cases stxIdx <;> simp [parseFrom, hstx, hetx]

theorem parseFrom_stx (rest : List UInt8) (vectorIdx : Nat) :
    parseFrom d maxSize bytes (stxChar :: rest) vectorIdx none =
      parseFrom d maxSize bytes rest (vectorIdx + 1) (some vectorIdx) := rfl

theorem parseFrom_etx_none (rest : List UInt8) (vectorIdx : Nat) :
    parseFrom d maxSize bytes (etxChar :: rest) vectorIdx none =
      ⟨.possiblePacketLoss, vectorIdx + 1, []⟩ := rfl

theorem parseFrom_etx_some (rest : List UInt8) (vectorIdx stxIdx : Nat) :
    parseFrom d maxSize bytes (etxChar :: rest) vectorIdx (some stxIdx) =
      match d.decode (bytes.drop stxIdx) maxSize with
      | some decoded => ⟨.ok, decoded.readLen, decoded.data⟩
      | none => ⟨.possiblePacketLoss, vectorIdx + 1, []⟩ := rfl

theorem parseFrom_quiet {quiet : List UInt8} (h : Quiet quiet) (rest : List UInt8)
    (vectorIdx : Nat) (stxIdx : Option Nat) :
    parseFrom d maxSize bytes (quiet ++ rest) vectorIdx stxIdx =
      parseFrom d maxSize bytes rest (vectorIdx + quiet.length) stxIdx := by
  induction quiet generalizing vectorIdx with
  | nil => rfl
  | cons byte quiet ih =>
    obtain ⟨hstx, hetx⟩ := h byte List.mem_cons_self
    have hquiet : Quiet quiet := h.sublist (List.sublist_cons_self byte quiet)
    rw [List.cons_append, parseFrom_other hstx hetx, ih hquiet, List.length_cons,
      Nat.add_right_comm, Nat.add_assoc]

/-- Bytes that are not a packet yet: noise, and maybe the start of a packet behind it. -/
inductive Unfinished : List UInt8 → Prop
  | noise {noise : List UInt8} (quiet : Quiet noise) : Unfinished noise
  | body {noise body : List UInt8} (quiet : Quiet noise) (open_ : Quiet body) :
      Unfinished (noise ++ stxChar :: body)

theorem Unfinished.of_initial {whole : List UInt8} (h : Unfinished whole)
    (hinitial : bytes <+: whole) : Unfinished bytes := by
  cases h with
  | noise quiet => exact .noise (quiet.sublist hinitial.sublist)
  | @body noise body quiet open_ =>
    -- the bytes end in the noise, or behind the STX
    obtain ⟨rest, hrest⟩ := hinitial
    rcases List.append_eq_append_iff.mp hrest with ⟨between, hnoise, -⟩ | ⟨between, hbytes, hbody⟩
    · exact .noise (quiet.sublist (by rw [hnoise]; exact List.sublist_append_left _ _))
    · cases between with
      | nil =>
        rw [hbytes, List.append_nil]
        exact .noise quiet
      | cons byte between =>
        rw [List.cons_append, List.cons.injEq] at hbody
        obtain ⟨rfl, hbody⟩ := hbody
        rw [hbytes]
        exact .body quiet (open_.sublist (by rw [hbody]; exact List.sublist_append_left _ _))

theorem parse_unfinished (h : Unfinished bytes) :
    (parseForDleEncodedPackets d maxSize bytes).result = .noPacketFound := by
  have hnothing : ∀ {quiet : List UInt8}, Quiet quiet → ∀ (bytes : List UInt8) vectorIdx stxIdx,
      parseFrom d maxSize bytes quiet vectorIdx stxIdx = ⟨.noPacketFound, 0, []⟩ := by
    intro quiet hquiet bytes vectorIdx stxIdx
    have hrun : parseFrom d maxSize bytes (quiet ++ []) vectorIdx stxIdx =
        parseFrom d maxSize bytes [] (vectorIdx + quiet.length) stxIdx :=
      parseFrom_quiet hquiet [] vectorIdx stxIdx
    rw [List.append_nil] at hrun
    rw [hrun, parseFrom]
  unfold parseForDleEncodedPackets
  cases h with
  | noise quiet => rw [hnothing quiet]
  | body quiet open_ => rw [parseFrom_quiet quiet, parseFrom_stx, hnothing open_]

/-- The end of a packet without its start. -/
theorem parse_tail {tail : List UInt8} (htail : Quiet tail) (rest : List UInt8) :
    parseForDleEncodedPackets d maxSize (tail ++ etxChar :: rest) =
      ⟨.possiblePacketLoss, tail.length + 1, []⟩ := by
  rw [parseForDleEncodedPackets, parseFrom_quiet htail, parseFrom_etx_none, Nat.zero_add]

/-- Noise and a packet: what is said to have been read is the length of the packet alone. -/
theorem parse_packet (hd : d.Documented) {noise packet : List UInt8} (hnoise : Quiet noise)
    (rest : List UInt8) :
    parseForDleEncodedPackets d maxSize (noise ++ d.encode packet ++ rest) =
      if packet.length ≤ maxSize then ⟨.ok, (d.encode packet).length, packet⟩
      else ⟨.possiblePacketLoss, noise.length + (d.encode packet).length, []⟩ := by
  obtain ⟨body, hencode, hbody⟩ := hd.framed packet
  have hdrop : (noise ++ d.encode packet ++ rest).drop noise.length = d.encode packet ++ rest := by
    rw [List.append_assoc, List.drop_left]
  have hsplit : noise ++ d.encode packet ++ rest = noise ++ (stxChar :: (body ++ etxChar :: rest)) := by
    rw [hencode]
    simp
  -- the search stops at the first ETX, which is the one of the packet
  rw [parseForDleEncodedPackets]
  conv_lhs => arg 4; rw [hsplit]
  rw [parseFrom_quiet hnoise, parseFrom_stx, parseFrom_quiet hbody, parseFrom_etx_some]
  simp only [Nat.zero_add, hdrop]
  by_cases hfits : packet.length ≤ maxSize
  · rw [if_pos hfits, hd.decodes packet rest maxSize hfits]
  · rw [if_neg hfits, hd.tooLong packet rest maxSize (Nat.not_le.mp hfits), hencode]
    simp only [List.cons_append, List.length_cons, List.length_append, List.length_nil]
    congr 1
    omega

theorem Unfinished.etx_notMem (h : Unfinished bytes) : etxChar ∉ bytes := by
  cases h with
  | noise quiet => exact quiet.etx_notMem
  | body quiet open_ =>
    intro hmem
    rcases List.mem_append.mp hmem with hmem | hmem
    · exact quiet.etx_notMem hmem
    · rcases List.mem_cons.mp hmem with heq | hmem
      · exact absurd heq (by decide)
      · exact open_.etx_notMem hmem

end

/-! ## One call -/

/-- The bytes that were searched without success are still in the ring buffer, and no packet ends among
    them. -/
structure Synced (a : Analyzer) : Prop where
  read : a.currentBytesRead ≤ a.ringBuffer.available
  searched : etxChar ∉ a.ringBuffer.elements.take a.currentBytesRead

section

variable {d : DleEncoder} {maxData : Nat} {a : Analyzer}

theorem readRingBuffer_new (hpos : a.ringBuffer.available ≠ 0)
    (hnew : a.currentBytesRead < a.ringBuffer.available) :
    ∃ a', readRingBuffer a = (.ok, a') ∧ a'.ringBuffer = a.ringBuffer ∧
      a'.currentBytesRead = a.ringBuffer.available ∧
      a'.analysisVector.take a'.currentBytesRead = a.ringBuffer.elements := by
  have hread := Fifo.read_available a.ringBuffer
  unfold readRingBuffer
  rw [if_neg hpos, if_pos hnew]
  simp only [hread]
  exact ⟨_, rfl, rfl, rfl, List.take_left⟩

/-- As long as no packet has ended, nothing is deleted. -/
theorem checkForPackets_unfinished (d : DleEncoder) (maxData : Nat) (hsynced : Synced a)
    (h : Unfinished a.ringBuffer.elements) :
    (checkForPackets d maxData a).1.result = .noPacketFound ∧
      (checkForPackets d maxData a).2.ringBuffer = a.ringBuffer ∧
      Synced (checkForPackets d maxData a).2 := by
  by_cases hpos : a.ringBuffer.available = 0
  · have hold : readRingBuffer a = (.noPacketFound, a) := if_pos hpos
    rw [checkForPackets, hold]
    exact ⟨rfl, rfl, hsynced⟩
  · by_cases hnew : a.currentBytesRead < a.ringBuffer.available
    · obtain ⟨a', hread, hbuffer, hcount, hvector⟩ := readRingBuffer_new hpos hnew
      have hparse : (parseForDleEncodedPackets d maxData a.ringBuffer.elements).result =
          .noPacketFound := parse_unfinished h
      rw [← hvector] at hparse
      rw [checkForPackets, hread]
      simp only [handleDleParsing, hparse]
      refine ⟨trivial, hbuffer, ?_, ?_⟩
      · exact Nat.le_of_eq (hcount.trans (congrArg Fifo.available hbuffer.symm))
      · rw [hbuffer]
        exact fun hmem => h.etx_notMem (List.mem_of_mem_take hmem)
    · have hold : readRingBuffer a = (.noPacketFound, a) := by
        rw [readRingBuffer, if_neg hpos, if_neg hnew]
      rw [checkForPackets, hold]
      exact ⟨rfl, rfl, hsynced⟩

/-- When a packet may have ended, the analyzer searches all bytes and deletes what the search says. -/
theorem checkForPackets_parse (hsynced : Synced a) (hetx : etxChar ∈ a.ringBuffer.elements)
    {parse : Parse} (hparse : parseForDleEncodedPackets d maxData a.ringBuffer.elements = parse)
    (hresult : parse.result = .ok ∨ parse.result = .possiblePacketLoss)
    (hsize : parse.readSize ≤ a.ringBuffer.elements.length) :
    (checkForPackets d maxData a).1 = parse ∧
      (checkForPackets d maxData a).2.ringBuffer.elements =
        a.ringBuffer.elements.drop parse.readSize ∧
      Synced (checkForPackets d maxData a).2 := by
  have hpos : a.ringBuffer.available ≠ 0 := by
    intro hzero
    rw [List.eq_nil_of_length_eq_zero hzero] at hetx
    cases hetx
  -- an ETX was not among the bytes searched before, so there are new ones
  have hnew : a.currentBytesRead < a.ringBuffer.available := by
    apply Nat.lt_of_le_of_ne hsynced.read
    intro hall
    apply hsynced.searched
    rw [hall, Fifo.available, List.take_length]
    exact hetx
  obtain ⟨a', hread, hbuffer, -, hvector⟩ := readRingBuffer_new hpos hnew
  obtain ⟨q, hdelete, helements, -⟩ :=
    Fifo.delete_of_le (q := a'.ringBuffer) (n := parse.readSize) (by rw [hbuffer]; exact hsize)
  rw [hbuffer] at helements
  have hcheck : checkForPackets d maxData a =
      (parse, { a' with
        currentBytesRead := 0
        ringBuffer := q }) := by
    rw [checkForPackets, hread]
    simp only [handleDleParsing, hvector, hparse, hdelete, Option.getD_some]
    rcases hresult with hresult | hresult <;> rw [hresult]
  rw [hcheck]
  refine ⟨rfl, helements, Nat.zero_le _, ?_⟩
  exact List.not_mem_nil

/-- A tail without a start is deleted. -/
theorem checkForPackets_tail (d : DleEncoder) (maxData : Nat) (hsynced : Synced a)
    {tail rest : List UInt8} (htail : Quiet tail)
    (h : a.ringBuffer.elements = tail ++ etxChar :: rest) :
    (checkForPackets d maxData a).1.result = .possiblePacketLoss ∧
      (checkForPackets d maxData a).2.ringBuffer.elements = rest ∧
      Synced (checkForPackets d maxData a).2 := by
  have hparse : parseForDleEncodedPackets d maxData (tail ++ etxChar :: rest) =
      ⟨.possiblePacketLoss, tail.length + 1, []⟩ := parse_tail htail rest
  rw [← h] at hparse
  obtain ⟨hresult, helements, hsynced'⟩ := checkForPackets_parse hsynced
    (by rw [h]; simp) hparse (Or.inr rfl) (by rw [h]; simp)
  refine ⟨by rw [hresult], ?_, hsynced'⟩
  rw [helements, h, List.drop_append]
  simp

/-- Noise and a packet: a packet that is too long is deleted together with the noise. Otherwise the packet
    is delivered, and as many bytes as it has are deleted from the start of the buffer. -/
theorem checkForPackets_packet (maxData : Nat) (hd : d.Documented) (hsynced : Synced a)
    {noise packet rest : List UInt8} (hnoise : Quiet noise)
    (h : a.ringBuffer.elements = noise ++ d.encode packet ++ rest) :
    (checkForPackets d maxData a).1 =
        (if packet.length ≤ maxData then ⟨.ok, (d.encode packet).length, packet⟩
          else ⟨.possiblePacketLoss, noise.length + (d.encode packet).length, []⟩) ∧
      (checkForPackets d maxData a).2.ringBuffer.elements =
        (if packet.length ≤ maxData then
            (noise ++ d.encode packet).drop (d.encode packet).length ++ rest
          else rest) ∧
      Synced (checkForPackets d maxData a).2 := by
  have hparse : parseForDleEncodedPackets d maxData (noise ++ d.encode packet ++ rest) = _ :=
    parse_packet hd hnoise rest
  rw [← h] at hparse
  have hetx : etxChar ∈ a.ringBuffer.elements := by
    obtain ⟨body, hencode, -⟩ := hd.framed packet
    rw [h, hencode]
    simp
  by_cases hfits : packet.length ≤ maxData
  · rw [if_pos hfits] at hparse
    rw [if_pos hfits, if_pos hfits]
    have hle : (d.encode packet).length ≤ (noise ++ d.encode packet).length := by
      rw [List.length_append]
      exact Nat.le_add_left _ _
    obtain ⟨hresult, helements, hsynced'⟩ := checkForPackets_parse hsynced hetx hparse (Or.inl rfl)
      (by rw [h]; exact Nat.le_trans hle (List.sublist_append_left _ rest).length_le)
    exact ⟨hresult, by rw [helements, h, List.drop_append_of_le_length hle], hsynced'⟩
  · rw [if_neg hfits] at hparse
    rw [if_neg hfits, if_neg hfits]
    rw [← List.length_append] at hparse
    obtain ⟨hresult, helements, hsynced'⟩ := checkForPackets_parse hsynced hetx hparse (Or.inr rfl)
      (by rw [h]; exact (List.sublist_append_left _ rest).length_le)
    refine ⟨by rw [hresult, List.length_append], ?_, hsynced'⟩
    rw [helements, h, List.drop_left]

end

end RingBufferAnalyzer
end Tmtc
end Obsw
