import Mathlib.Data.List.Infix
import Obsw.Lib.Loop
import Obsw.Tmtc.RingBufferAnalyzer

/-!
# `Tmtc.AnalyzerProgress` — a ring buffer that is full

The analyzer and its ring buffer over any run of writes and searches. A search that finds something takes
bytes from the ring buffer. One that finds nothing leaves all of them there, and the next one waits for
more bytes than there were: once a full ring buffer has been searched without success there are never
more, and whatever is written from then on is ignored (`ignores_iff`). So the analyzer stays alive
exactly as long as no search meets a full ring buffer without the end of a packet, and no write leaves
one in which an end can never come (`progress_iff`).

The ring buffer is a class of the framework. Its write is a parameter: bytes for which there is room are
appended, and what a write does that overflows is left open (`Stores`).
-/

namespace Obsw
namespace Tmtc
namespace AnalyzerProgress

open Loop RingBufferAnalyzer

/-! ## The analyzer and its ring buffer -/

/-- What the documentation says of the number of bytes `decode` has read: some of the stream, and no more
    than all of it. -/
def ReadsStream (d : DleEncoder) : Prop :=
  ∀ stream maxSize decoded, d.decode stream maxSize = some decoded →
    0 < decoded.readLen ∧ decoded.readLen ≤ stream.length

/-- What the documentation says of `writeData` while there is room: the bytes are appended. -/
structure Stores (writeData : Fifo UInt8 → List UInt8 → Fifo UInt8) : Prop where
  capacity : ∀ ringBuffer bytes, (writeData ringBuffer bytes).capacity = ringBuffer.capacity
  appends : ∀ ringBuffer bytes, bytes.length ≤ ringBuffer.room →
    (writeData ringBuffer bytes).elements = ringBuffer.elements ++ bytes

/-- What is received is written into the ring buffer, or the bridge asks for a packet. -/
inductive Action where
  | write (bytes : List UInt8)
  | checkForPackets (maxData : Nat)

def step (d : DleEncoder) (writeData : Fifo UInt8 → List UInt8 → Fifo UInt8) (action : Action)
    (a : Analyzer) : Analyzer :=
  match action with
  | .write bytes => { a with ringBuffer := writeData a.ringBuffer bytes }
  | .checkForPackets maxData => (checkForPackets d maxData a).2

/-- A search has found something: a packet, or that one may be lost. -/
def Finds (result : RingBufferAnalyzer.ReturnValue) : Prop := result = .ok ∨ result = .possiblePacketLoss

/-- From here on nothing is found, whatever is written and however often it is searched. -/
def Ignores (d : DleEncoder) (writeData : Fifo UInt8 → List UInt8 → Fifo UInt8) (a : Analyzer) : Prop :=
  ∀ actions maxData,
    (checkForPackets d maxData (run (step d writeData) actions a)).1.result = .noPacketFound

/-- The ring buffer is full, and no packet ends in it and none starts twice. -/
def FullUnfinished (ringBuffer : Fifo UInt8) : Prop :=
  ringBuffer.full = true ∧ Unfinished ringBuffer.elements

/-- The ring buffer stays so, whatever is written. One that refuses what does not fit does; one that
    overwrites its oldest data does not (`overwriteOld_not_stuck`). -/
def Stuck (writeData : Fifo UInt8 → List UInt8 → Fifo UInt8) (ringBuffer : Fifo UInt8) : Prop :=
  ∀ writes : List (List UInt8), FullUnfinished (writes.foldl writeData ringBuffer)

/-- A search does not meet a full ring buffer without the end of a packet, and a write does not leave one
    for good. -/
def EndsPacket (writeData : Fifo UInt8 → List UInt8 → Fifo UInt8) (action : Action) (a : Analyzer) :
    Prop :=
  match action with
  | .write bytes => ¬ Stuck writeData (writeData a.ringBuffer bytes)
  | .checkForPackets _ => ¬ FullUnfinished a.ringBuffer

/-- As many bytes as the ring buffer holds at most have been searched. -/
def Blocked (a : Analyzer) : Prop := a.ringBuffer.capacity ≤ a.currentBytesRead

/-! ## What a search finds -/

section Search

variable {d : DleEncoder} {maxSize : Nat} {bytes rest : List UInt8}

/-- What is said to have been read is a part of the bytes, and not nothing. -/
theorem parseFrom_readSize (hd : ReadsStream d) (rest : List UInt8) :
    ∀ vectorIdx stxIdx, vectorIdx + rest.length = bytes.length →
      (∀ index, stxIdx = some index → index < vectorIdx) →
      Finds (parseFrom d maxSize bytes rest vectorIdx stxIdx).result →
      0 < (parseFrom d maxSize bytes rest vectorIdx stxIdx).readSize ∧
        (parseFrom d maxSize bytes rest vectorIdx stxIdx).readSize ≤ bytes.length := by
  induction rest with
  | nil =>
    intro vectorIdx stxIdx _ _ hfinds
    rcases hfinds with h | h <;> cases h
  | cons byte rest ih =>
    intro vectorIdx stxIdx hlength hbefore hfinds
    rw [List.length_cons] at hlength
    by_cases hstx : byte = stxChar
    · subst hstx
      cases stxIdx with
      | none => exact ih (vectorIdx + 1) (some vectorIdx) (by omega) (fun _ h => by cases h; omega) hfinds
      | some index =>
        have hindex := hbefore index rfl
        show 0 < vectorIdx ∧ vectorIdx ≤ bytes.length
        omega
    by_cases hetx : byte = etxChar
    · subst hetx
      cases stxIdx with
      | none =>
        show 0 < vectorIdx + 1 ∧ vectorIdx + 1 ≤ bytes.length
        omega
      | some index =>
        rw [parseFrom_etx_some]
        cases hdecode : d.decode (bytes.drop index) maxSize with
        | none =>
          show 0 < vectorIdx + 1 ∧ vectorIdx + 1 ≤ bytes.length
          omega
        | some decoded =>
          obtain ⟨hpos, hle⟩ := hd _ _ _ hdecode
          rw [List.length_drop] at hle
          exact ⟨hpos, hle.trans (Nat.sub_le _ _)⟩
    · rw [parseFrom_other hstx hetx] at hfinds ⊢
      exact ih (vectorIdx + 1) stxIdx (by omega) (fun index h => by
        have := hbefore index h
        omega) hfinds

/-- Behind an STX, a search goes on to the next STX or ETX. -/
theorem parseFrom_open (rest : List UInt8) :
    ∀ vectorIdx index, Finds (parseFrom d maxSize bytes rest vectorIdx (some index)).result ∨
      (parseFrom d maxSize bytes rest vectorIdx (some index)).result = .noPacketFound ∧ Quiet rest := by
  induction rest with
  | nil => exact fun _ _ => .inr ⟨rfl, fun _ h => by cases h⟩
  | cons byte rest ih =>
    intro vectorIdx index
    by_cases hstx : byte = stxChar
    · subst hstx
      exact .inl (.inr rfl)
    by_cases hetx : byte = etxChar
    · subst hetx
      rw [parseFrom_etx_some]
      cases d.decode (bytes.drop index) maxSize with
      | none => exact .inl (.inr rfl)
      | some decoded => exact .inl (.inl rfl)
    · rw [parseFrom_other hstx hetx]
      refine (ih (vectorIdx + 1) index).imp_right fun h => ⟨h.1, fun b hb => ?_⟩
      rcases List.mem_cons.mp hb with rfl | hb
      · exact ⟨hstx, hetx⟩
      · exact h.2 b hb

theorem Unfinished.cons {byte : UInt8} (hstx : byte ≠ stxChar) (hetx : byte ≠ etxChar)
    (h : Unfinished rest) : Unfinished (byte :: rest) := by
  have hquiet : ∀ {noise : List UInt8}, Quiet noise → Quiet (byte :: noise) := by
    intro noise hnoise b hb
    rcases List.mem_cons.mp hb with rfl | hb
    · exact ⟨hstx, hetx⟩
    · exact hnoise b hb
  cases h with
  | noise quiet => exact .noise (hquiet quiet)
  | body quiet open_ => exact .body (hquiet quiet) open_

/-- A search that finds nothing has met an unfinished packet at most. -/
theorem parseFrom_cases (rest : List UInt8) :
    ∀ vectorIdx, Finds (parseFrom d maxSize bytes rest vectorIdx none).result ∨
      (parseFrom d maxSize bytes rest vectorIdx none).result = .noPacketFound ∧ Unfinished rest := by
  induction rest with
  | nil => exact fun _ => .inr ⟨rfl, .noise fun _ h => by cases h⟩
  | cons byte rest ih =>
    intro vectorIdx
    by_cases hstx : byte = stxChar
    · subst hstx
      rw [parseFrom_stx]
      refine (parseFrom_open rest (vectorIdx + 1) vectorIdx).imp_right fun h => ⟨h.1, ?_⟩
      have hnoise : Quiet [] := fun _ h => by cases h
      exact show Unfinished ([] ++ stxChar :: rest) from .body hnoise h.2
    by_cases hetx : byte = etxChar
    · subst hetx
      exact .inl (.inr rfl)
    · rw [parseFrom_other hstx hetx]
      exact (ih (vectorIdx + 1)).imp_right fun h => ⟨h.1, Unfinished.cons hstx hetx h.2⟩

/-- A search finds something and reads a part of the bytes, or has met an unfinished packet at most. -/
theorem parse_cases (hd : ReadsStream d) (maxSize : Nat) (bytes : List UInt8) :
    (Finds (parseForDleEncodedPackets d maxSize bytes).result ∧
        0 < (parseForDleEncodedPackets d maxSize bytes).readSize ∧
        (parseForDleEncodedPackets d maxSize bytes).readSize ≤ bytes.length) ∨
      (parseForDleEncodedPackets d maxSize bytes).result = .noPacketFound ∧ Unfinished bytes := by
  unfold parseForDleEncodedPackets
  refine (parseFrom_cases bytes 0).imp_left fun hfinds => ⟨hfinds, ?_⟩
  exact parseFrom_readSize hd bytes 0 none (Nat.zero_add _) (fun _ h => by cases h) hfinds

end Search

/-! ## One search of the ring buffer -/

section Check

variable {d : DleEncoder} {a : Analyzer}

/-- Without new bytes nothing is done. -/
theorem checkForPackets_old (d : DleEncoder) (maxData : Nat)
    (h : a.ringBuffer.available = 0 ∨ a.ringBuffer.available ≤ a.currentBytesRead) :
    checkForPackets d maxData a = (⟨.noPacketFound, 0, []⟩, a) := by
  have hold : readRingBuffer a = (.noPacketFound, a) := by
    by_cases hzero : a.ringBuffer.available = 0
    · exact if_pos hzero
    · rw [readRingBuffer, if_neg hzero, if_neg (Nat.not_lt.mpr (h.resolve_left hzero))]
  rw [checkForPackets, hold]

/-- With new bytes, all of them are searched. -/
theorem checkForPackets_new (d : DleEncoder) (maxData : Nat)
    (h : a.currentBytesRead < a.ringBuffer.available) :
    ∃ a', a'.ringBuffer = a.ringBuffer ∧ a'.currentBytesRead = a.ringBuffer.available ∧
      checkForPackets d maxData a = handleDleParsing d maxData a' ∧
      a'.analysisVector.take a'.currentBytesRead = a.ringBuffer.elements := by
  obtain ⟨a', hread, hbuffer, hcount, hvector⟩ := readRingBuffer_new (by omega) h
  exact ⟨a', hbuffer, hcount, by rw [checkForPackets, hread], hvector⟩

/-- **A search** finds something and takes bytes away, or finds nothing and leaves all bytes as searched,
    which are then an unfinished packet at most. -/
theorem checkForPackets_cases (hd : ReadsStream d) (maxData : Nat)
    (h : a.currentBytesRead < a.ringBuffer.available) :
    (Finds (checkForPackets d maxData a).1.result ∧
        (checkForPackets d maxData a).2.currentBytesRead = 0 ∧
        (checkForPackets d maxData a).2.ringBuffer.available < a.ringBuffer.available ∧
        (checkForPackets d maxData a).2.ringBuffer.capacity = a.ringBuffer.capacity ∧
        ¬ Unfinished a.ringBuffer.elements) ∨
      ((checkForPackets d maxData a).1.result = .noPacketFound ∧
        (checkForPackets d maxData a).2.currentBytesRead = a.ringBuffer.available ∧
        (checkForPackets d maxData a).2.ringBuffer = a.ringBuffer ∧
        Unfinished a.ringBuffer.elements) := by
  obtain ⟨a', hbuffer, hcount, hcheck, hvector⟩ := checkForPackets_new d maxData h
  rw [hcheck, handleDleParsing, hvector]
  rcases parse_cases hd maxData a.ringBuffer.elements with
    ⟨hfinds, hpos, hle⟩ | ⟨hnothing, hunfinished⟩
  · left
    obtain ⟨q, hdelete, helements, hcapacity⟩ := Fifo.delete_of_le hle
    have havailable : q.available < a.ringBuffer.available := by
      unfold Fifo.available
      rw [helements, List.length_drop]
      omega
    rw [hbuffer, hdelete]
    have hfinished : ¬ Unfinished a.ringBuffer.elements := by
      intro hunfinished
      rw [parse_unfinished hunfinished] at hfinds
      rcases hfinds with h | h <;> cases h
    rcases hfinds with hresult | hresult
    · simp only [hresult]
      exact ⟨.inl rfl, trivial, havailable, hcapacity, hfinished⟩
    · simp only [hresult]
      exact ⟨.inr rfl, trivial, havailable, hcapacity, hfinished⟩
  · right
    simp only [hnothing]
    exact ⟨trivial, hcount, hbuffer, hunfinished⟩

/-- **A search that finds something takes bytes away.** -/
theorem checkForPackets_removes (hd : ReadsStream d) (a : Analyzer) (maxData : Nat)
    (hfinds : Finds (checkForPackets d maxData a).1.result) :
    (checkForPackets d maxData a).2.ringBuffer.available < a.ringBuffer.available := by
  have hnothing : ¬ Finds .noPacketFound := by
    rintro (h | h) <;> cases h
  by_cases hnew : a.currentBytesRead < a.ringBuffer.available
  · rcases checkForPackets_cases hd maxData hnew with ⟨_, _, hless, _⟩ | ⟨hresult, _⟩
    · exact hless
    · rw [hresult] at hfinds
      exact absurd hfinds hnothing
  · rw [checkForPackets_old d maxData (.inr (Nat.not_lt.mp hnew))] at hfinds
    exact absurd hfinds hnothing

end Check

/-! ## A full ring buffer that has been searched -/

section Steps

variable {d : DleEncoder} {writeData : Fifo UInt8 → List UInt8 → Fifo UInt8} {a : Analyzer}

theorem available_le (ringBuffer : Fifo UInt8) : ringBuffer.available ≤ ringBuffer.capacity :=
  ringBuffer.bounded

theorem full_iff {ringBuffer : Fifo UInt8} :
    ringBuffer.full = true ↔ ringBuffer.available = ringBuffer.capacity := beq_iff_eq

/-- A search keeps the capacity. -/
theorem checkForPackets_capacity (hd : ReadsStream d) (a : Analyzer) (maxData : Nat) :
    (checkForPackets d maxData a).2.ringBuffer.capacity = a.ringBuffer.capacity := by
  by_cases hnew : a.currentBytesRead < a.ringBuffer.available
  · rcases checkForPackets_cases hd maxData hnew with ⟨_, _, _, hcapacity, _⟩ | ⟨_, _, hsame, _⟩
    · exact hcapacity
    · rw [hsame]
  · rw [checkForPackets_old d maxData (.inr (Nat.not_lt.mp hnew))]

theorem step_capacity (hd : ReadsStream d) (hwrite : Stores writeData) (action : Action) (a : Analyzer) :
    (step d writeData action a).ringBuffer.capacity = a.ringBuffer.capacity := by
  cases action with
  | write bytes => exact hwrite.capacity a.ringBuffer bytes
  | checkForPackets maxData => exact checkForPackets_capacity hd a maxData

/-- A blocked analyzer finds nothing, and changes nothing. -/
theorem checkForPackets_blocked (d : DleEncoder) (maxData : Nat) (h : Blocked a) :
    checkForPackets d maxData a = (⟨.noPacketFound, 0, []⟩, a) :=
  checkForPackets_old d maxData (.inr ((available_le a.ringBuffer).trans h))

/-- A search of a full ring buffer without the end of a packet finds nothing, and blocks the analyzer. -/
theorem checkForPackets_fullUnfinished (hd : ReadsStream d) (maxData : Nat)
    (h : FullUnfinished a.ringBuffer) :
    (checkForPackets d maxData a).1.result = .noPacketFound ∧
      Blocked (checkForPackets d maxData a).2 := by
  have hfull := full_iff.mp h.1
  by_cases hnew : a.currentBytesRead < a.ringBuffer.available
  · rcases checkForPackets_cases hd maxData hnew with ⟨_, _, _, _, hfinished⟩ | ⟨hresult, hall, hsame, _⟩
    · exact absurd h.2 hfinished
    · refine ⟨hresult, ?_⟩
      unfold Blocked
      rw [hall, hsame]
      exact hfull.ge
  · have hblocked : Blocked a := by
      unfold Blocked
      omega
    rw [checkForPackets_blocked d maxData hblocked]
    exact ⟨rfl, hblocked⟩

/-- The analyzer has searched a full ring buffer, or will do so in vain. -/
def Lost (writeData : Fifo UInt8 → List UInt8 → Fifo UInt8) (a : Analyzer) : Prop :=
  Blocked a ∨ Stuck writeData a.ringBuffer

/-- **Step lemma.** The analyzer stays lost. -/
theorem step_lost (hd : ReadsStream d) (hwrite : Stores writeData) (action : Action)
    (h : Lost writeData a) : Lost writeData (step d writeData action a) := by
  cases action with
  | write bytes =>
    refine h.imp (fun hblocked => ?_) (fun hstuck writes => hstuck (bytes :: writes))
    exact (hwrite.capacity a.ringBuffer bytes).le.trans hblocked
  | checkForPackets maxData =>
    rcases h with hblocked | hstuck
    · rw [step, checkForPackets_blocked d maxData hblocked]
      exact .inl hblocked
    · exact .inl (checkForPackets_fullUnfinished hd maxData (hstuck [])).2

/-- **A lost analyzer** ignores whatever comes. -/
theorem ignores_of_lost (hd : ReadsStream d) (hwrite : Stores writeData) (h : Lost writeData a) :
    Ignores d writeData a := by
  intro actions maxData
  have hstep : ∀ action a, Lost writeData a → True → Lost writeData (step d writeData action a) :=
    fun action a h _ => step_lost hd hwrite action h
  rcases run_invariant (I := Lost writeData) hstep actions a h (alongRun_true _ _) with
    hblocked | hstuck
  · rw [checkForPackets_blocked d maxData hblocked]
  · exact (checkForPackets_fullUnfinished hd maxData (hstuck [])).1

theorem run_writes (writes : List (List UInt8)) (a : Analyzer) :
    run (step d writeData) (writes.map .write) a =
      { a with ringBuffer := writes.foldl writeData a.ringBuffer } := by
  induction writes generalizing a with
  | nil => rfl
  | cons bytes writes ih =>
    rw [List.map_cons, run_cons, ih]
    rfl

theorem foldl_capacity (hwrite : Stores writeData) (writes : List (List UInt8))
    (ringBuffer : Fifo UInt8) : (writes.foldl writeData ringBuffer).capacity = ringBuffer.capacity := by
  induction writes generalizing ringBuffer with
  | nil => rfl
  | cons bytes writes ih => exact (ih _).trans (hwrite.capacity ringBuffer bytes)

/-- An analyzer that is not blocked finds the end of a packet in a ring buffer that is full. -/
theorem finds_of_full (hd : ReadsStream d) (maxData : Nat) (hblocked : ¬ Blocked a)
    (hfull : a.ringBuffer.available = a.ringBuffer.capacity)
    (hfinished : ¬ Unfinished a.ringBuffer.elements) :
    Finds (checkForPackets d maxData a).1.result := by
  unfold Blocked at hblocked
  rcases checkForPackets_cases hd maxData (a := a) (by omega) with ⟨hfinds, _⟩ | ⟨_, _, _, hunfinished⟩
  · exact hfinds
  · exact absurd hunfinished hfinished

/-- An analyzer that is not lost finds something behind some writes. -/
theorem not_ignores_of_not_lost (hd : ReadsStream d) (hwrite : Stores writeData)
    (hlost : ¬ Lost writeData a) : ¬ Ignores d writeData a := by
  obtain ⟨hblocked, hstuck⟩ := not_or.mp hlost
  obtain ⟨writes, hends⟩ := not_forall.mp hstuck
  -- a ring buffer that has room is filled up with ETX
  have hfinds : ∃ writes : List (List UInt8),
      (writes.foldl writeData a.ringBuffer).available = a.ringBuffer.capacity ∧
        ¬ Unfinished (writes.foldl writeData a.ringBuffer).elements := by
    have hcapacity := foldl_capacity hwrite writes a.ringBuffer
    by_cases hfull : (writes.foldl writeData a.ringBuffer).full = true
    · exact ⟨writes, (full_iff.mp hfull).trans hcapacity, fun hunfinished => hends ⟨hfull, hunfinished⟩⟩
    · refine ⟨writes ++ [List.replicate (writes.foldl writeData a.ringBuffer).room etxChar], ?_, ?_⟩
      all_goals rw [List.foldl_append, List.foldl_cons, List.foldl_nil]
      · have helements := hwrite.appends (writes.foldl writeData a.ringBuffer)
          (List.replicate (writes.foldl writeData a.ringBuffer).room etxChar) (by simp)
        have hle := (writes.foldl writeData a.ringBuffer).bounded
        unfold Fifo.available
        rw [helements, List.length_append, List.length_replicate, Fifo.room]
        omega
      · rw [hwrite.appends _ _ (by simp)]
        have hroom : (writes.foldl writeData a.ringBuffer).room ≠ 0 := by
          rw [Fifo.full_iff_room] at hfull
          exact hfull
        intro hunfinished
        apply hunfinished.etx_notMem
        exact List.mem_append_right _ (List.mem_replicate.mpr ⟨hroom, rfl⟩)
  obtain ⟨writes, hfull, hfinished⟩ := hfinds
  intro hignores
  have hresult := hignores (writes.map .write) 0
  rw [run_writes] at hresult
  have hcapacity := foldl_capacity hwrite writes a.ringBuffer
  have hfound := finds_of_full hd 0
    (a := { a with ringBuffer := writes.foldl writeData a.ringBuffer })
    (fun h => hblocked (hcapacity.ge.trans h)) (hfull.trans hcapacity.symm) hfinished
  rw [hresult] at hfound
  rcases hfound with h | h <;> cases h

/-- **What is ignored:** everything, exactly from a full ring buffer on that has been searched, or that
    never takes the end of a packet. -/
theorem ignores_iff (hd : ReadsStream d) (hwrite : Stores writeData) :
    Ignores d writeData a ↔ Lost writeData a :=
  ⟨fun h => by_contra fun hlost => not_ignores_of_not_lost hd hwrite hlost h, ignores_of_lost hd hwrite⟩

/-- **Exact step lemma.** An analyzer stays alive in a step exactly if it does not search a full ring
    buffer in vain, nor gets one that stays so. -/
theorem step_alive_iff (hd : ReadsStream d) (hwrite : Stores writeData)
    (hcapacity : 0 < a.ringBuffer.capacity) (action : Action) (h : ¬ Lost writeData a) :
    ¬ Lost writeData (step d writeData action a) ↔ EndsPacket writeData action a := by
  obtain ⟨hblocked, hstuck⟩ := not_or.mp h
  cases action with
  | write bytes =>
    have hkept : ¬ Blocked (step d writeData (.write bytes) a) :=
      fun hb => hblocked ((hwrite.capacity a.ringBuffer bytes).ge.trans hb)
    constructor
    · exact fun halive hs => halive (.inr hs)
    · exact fun hends => not_or.mpr ⟨hkept, hends⟩
  | checkForPackets maxData =>
    constructor
    · exact fun halive hmeets => halive (.inl (checkForPackets_fullUnfinished hd maxData hmeets).2)
    · intro hends
      have hsame := checkForPackets_capacity hd a maxData
      show ¬ Lost writeData (checkForPackets d maxData a).2
      by_cases hnew : a.currentBytesRead < a.ringBuffer.available
      · rcases checkForPackets_cases hd maxData hnew with
          ⟨_, hzero, hless, _, _⟩ | ⟨_, hall, hbuffer, hunfinished⟩
        · -- all of the ring buffer is to be searched again, and it has room
          refine not_or.mpr ⟨?_, fun hs => ?_⟩
          · unfold Blocked
            omega
          · have hle := available_le a.ringBuffer
            have hfull := full_iff.mp (hs []).1
            rw [List.foldl_nil] at hfull
            omega
        · refine not_or.mpr ⟨?_, by rw [hbuffer]; exact hstuck⟩
          have hle := available_le a.ringBuffer
          have hroom : a.ringBuffer.available ≠ a.ringBuffer.capacity :=
            fun hfull => hends ⟨full_iff.mpr hfull, hunfinished⟩
          unfold Blocked
          omega
      · rw [checkForPackets_old d maxData (.inr (Nat.not_lt.mp hnew))]
        exact h

end Steps

/-! ## Main result -/

/-- **A search takes bytes, and the analyzer goes on.** Every search that finds something removes a byte
    at least, whatever the buffers hold; and no state that is reached ignores all that comes then exactly
    as long as no search meets a full ring buffer without the end of a packet, and no write leaves one
    that stays so. -/
theorem progress_iff (d : DleEncoder) (hd : ReadsStream d)
    (writeData : Fifo UInt8 → List UInt8 → Fifo UInt8) (hwrite : Stores writeData) (capacity : Nat)
    (hcapacity : 0 < capacity) (actions : List Action) :
    (∀ (a : Analyzer) (maxData : Nat), Finds (checkForPackets d maxData a).1.result →
      (checkForPackets d maxData a).2.ringBuffer.available < a.ringBuffer.available) ∧
    ((∀ reached, reached <+: actions →
        ¬ Ignores d writeData (run (step d writeData) reached (construct (Fifo.empty capacity)))) ↔
      AlongRun (EndsPacket writeData) (step d writeData) actions (construct (Fifo.empty capacity))) := by
  refine ⟨checkForPackets_removes hd, ?_⟩
  -- the invariant: the analyzer is not lost, and the ring buffer has its capacity
  have hstart : ¬ Lost writeData (construct (Fifo.empty capacity)) ∧
      0 < (construct (Fifo.empty capacity)).ringBuffer.capacity := by
    refine ⟨not_or.mpr ⟨Nat.not_le.mpr hcapacity, fun hs => ?_⟩, hcapacity⟩
    have hfull := full_iff.mp (hs []).1
    exact hcapacity.ne hfull
  have hstep : ∀ action (a : Analyzer), ¬ Lost writeData a ∧ 0 < a.ringBuffer.capacity →
      (¬ Lost writeData (step d writeData action a) ∧
          0 < (step d writeData action a).ringBuffer.capacity ↔
        EndsPacket writeData action a) := by
    rintro action a ⟨halive, hpos⟩
    rw [step_capacity hd hwrite, step_alive_iff hd hwrite hpos action halive]
    exact and_iff_left hpos
  rw [← forall_run_iff hstep actions _ hstart]
  refine forall_congr' fun reached => imp_congr_right fun _ => ?_
  rw [ignores_iff hd hwrite]
  refine ⟨fun halive => ⟨halive, ?_⟩, And.left⟩
  have hpos : ∀ action (a : Analyzer), 0 < a.ringBuffer.capacity → True →
      0 < (step d writeData action a).ringBuffer.capacity :=
    fun action a hpos _ => hpos.trans_eq (step_capacity hd hwrite action a).symm
  exact run_invariant (I := fun a : Analyzer => 0 < a.ringBuffer.capacity) hpos reached _ hstart.2
    (alongRun_true _ _)

/-! ## The archived port -/

theorem readLen_cons {inner : Option Decoded} {decoded : Decoded} {byte : UInt8} {n length : Nat}
    (hinner : ∀ d, inner = some d → 0 < d.readLen ∧ d.readLen ≤ length)
    (h : inner.map (Decoded.cons n byte) = some decoded) :
    0 < decoded.readLen ∧ decoded.readLen ≤ length + n := by
  obtain ⟨d, hd, rfl⟩ := Option.map_eq_some_iff.mp h
  obtain ⟨hpos, hle⟩ := hinner d hd
  exact ⟨Nat.lt_of_lt_of_le hpos (Nat.le_add_right _ _), Nat.add_le_add_right hle n⟩

theorem decodeFrom_readLen (stream : List UInt8) (space : Nat) (decoded : Decoded)
    (h : decodeFrom stream space = some decoded) :
    0 < decoded.readLen ∧ decoded.readLen ≤ stream.length := by
  fun_induction decodeFrom stream space generalizing decoded with
  | case1 => cases h
  | case2 =>
    cases h
    exact ⟨Nat.one_pos, Nat.succ_le_succ (Nat.zero_le _)⟩
  | case3 => cases h
  | case4 => cases h
  | case5 => cases h
  | case6 _ _ _ _ ih =>
    have hread := readLen_cons ih h
    exact hread
  | case7 _ _ _ _ _ _ _ ih =>
    have hread := readLen_cons ih h
    exact hread
  | case8 => cases h
  | case9 _ _ _ _ _ _ ih => exact readLen_cons ih h

/-- The archived port reads the stream as the documentation says. -/
theorem archived_readsStream : ReadsStream archived := by
  intro stream maxSize decoded h
  cases stream with
  | nil => cases h
  | cons byte rest =>
    have hrest : (if byte ≠ stxChar then none
        else (decodeFrom rest maxSize).map fun d => (⟨d.readLen + 1, d.data⟩ : Decoded)) =
        some decoded := h
    split_ifs at hrest
    obtain ⟨d, hd, rfl⟩ := Option.map_eq_some_iff.mp hrest
    obtain ⟨hpos, hle⟩ := decodeFrom_readLen rest maxSize d hd
    exact ⟨Nat.succ_pos _, Nat.succ_le_succ hle⟩

/-! ## A ring buffer that overwrites -/

theorem length_drop_le (capacity : Nat) (bytes : List UInt8) :
    (bytes.drop (bytes.length - capacity)).length ≤ capacity := by
  rw [List.length_drop]
  omega

/-- A ring buffer that is constructed so that a write that overflows overwrites the oldest data. -/
def overwriteOld (ringBuffer : Fifo UInt8) (bytes : List UInt8) : Fifo UInt8 where
  capacity := ringBuffer.capacity
  elements := (ringBuffer.elements ++ bytes).drop
    ((ringBuffer.elements ++ bytes).length - ringBuffer.capacity)
  bounded := length_drop_le ringBuffer.capacity (ringBuffer.elements ++ bytes)

theorem overwriteOld_stores : Stores overwriteOld where
  capacity _ _ := rfl
  appends ringBuffer bytes hroom := by
    have hzero : (ringBuffer.elements ++ bytes).length - ringBuffer.capacity = 0 := by
      have hle := ringBuffer.bounded
      rw [Fifo.room] at hroom
      rw [List.length_append]
      omega
    show (ringBuffer.elements ++ bytes).drop _ = _
    rw [hzero, List.drop_zero]

/-- It takes the end of a packet whenever one is written. -/
theorem overwriteOld_not_stuck {ringBuffer : Fifo UInt8} (hcapacity : 0 < ringBuffer.capacity) :
    ¬ Stuck overwriteOld ringBuffer := by
  intro hstuck
  apply (hstuck [[etxChar]]).2.etx_notMem
  have hle := ringBuffer.bounded
  show etxChar ∈ (ringBuffer.elements ++ [etxChar]).drop
    ((ringBuffer.elements ++ [etxChar]).length - ringBuffer.capacity)
  rw [List.length_append, List.length_singleton, List.drop_append_of_le_length (by omega)]
  exact List.mem_append_right _ (List.mem_singleton.mpr rfl)

/-- A packet arrives in two parts behind noise, and is searched for behind each of them. -/
theorem progress_onePacket :
    ¬ Ignores archived overwriteOld
        (run (step archived overwriteOld) [.write [7, 2, 5], .checkForPackets 64] (construct (Fifo.empty 8))) ∧
      ¬ Ignores archived overwriteOld
        (run (step archived overwriteOld) [.write [7, 2, 5], .checkForPackets 64, .write [3], .checkForPackets 64]
          (construct (Fifo.empty 8))) := by
  have hprogress := (progress_iff archived archived_readsStream overwriteOld overwriteOld_stores 8 (by decide)
    [.write [7, 2, 5], .checkForPackets 64, .write [3], .checkForPackets 64]).2.mpr
    ⟨overwriteOld_not_stuck (by decide), fun h => absurd h.1 (by decide), overwriteOld_not_stuck (by decide),
      fun h => absurd h.1 (by decide), trivial⟩
  exact ⟨hprogress _ ⟨_, rfl⟩, hprogress _ (List.prefix_refl _)⟩

/-- **Noise blocks the analyzer.** It fills the ring buffer, is searched, and nothing is found from
    then on. -/
theorem noise_blocks :
    ¬ ∀ (d : DleEncoder), ReadsStream d →
      ∀ (writeData : Fifo UInt8 → List UInt8 → Fifo UInt8), Stores writeData →
      ∀ (capacity : Nat), 0 < capacity → ∀ (actions reached : List Action), reached <+: actions →
        ¬ Ignores d writeData (run (step d writeData) reached (construct (Fifo.empty capacity))) := by
  intro h
  apply h archived archived_readsStream overwriteOld overwriteOld_stores 2 (by decide)
    [.write [7, 7], .checkForPackets 64] _ (List.prefix_refl _)
  exact ignores_of_lost archived_readsStream overwriteOld_stores (.inl (show 2 ≤ 2 by decide))

end AnalyzerProgress
end Tmtc
end Obsw
