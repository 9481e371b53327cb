import Obsw.Tmtc.SerialBridge

/-!
# `Tmtc.TcReception` — what becomes of a telecommand

`TmTcSerialBridge::handleTc` and `handleTcReception` with the answers of the TC store and of the message
queue. Only one of the errors of the store is noticed, an entry whose message is not sent stays in the
store, and `handleTc` returns at the first packet that fails. So all is right exactly as long as every
packet but the last succeeds, and the last one fails before an entry is created, if at all
(`handleTc_right_iff`).
-/

namespace Obsw
namespace Tmtc
namespace TcReception

open RingBufferAnalyzer SerialBridge

/-! ## The store and the queue -/

/-- What `addData` and `sendMessage` return: OK, `RETURN_FAILED`, or a code of their own. -/
inductive Code where
  | returnOk
  | returnFailed
  | other (code : Nat)
  deriving DecidableEq, Repr

abbrev StoreAddress := Nat

/-- What the store and the queue answer for a packet; `storeId` is what `addData` leaves in its output,
    the address of an entry if it returns OK. -/
structure Outcome where
  addData : Code
  storeId : StoreAddress
  sendMessage : Code

/-- What has been done with a packet: the entry that was created with it, the address that was sent in a
    message, and the address that was deleted. -/
structure Handled where
  packet : List UInt8
  added : Option StoreAddress
  sent : Option StoreAddress
  deleted : Option StoreAddress
  deriving DecidableEq

/-- `handleTcReception`. Nothing is deleted in it. -/
def handleTcReception (o : Outcome) (packet : List UInt8) : Code × Handled :=
  let added := if o.addData = .returnOk then some o.storeId else none
  -- the other codes of the store are not looked for
  if o.addData = .returnFailed then (.returnFailed, ⟨packet, added, none, none⟩)
  else
    let sent := if o.sendMessage = .returnOk then some o.storeId else none
    (o.sendMessage, ⟨packet, added, sent, none⟩)

/-- What a call of `handleTc` returns and leaves, and the packets it has handled. -/
structure Call where
  result : Code
  analyzer : Analyzer
  handled : List Handled

/-- The loop of `handleTc` with `passes` passes left, which number the outcomes. -/
def handleTcFrom (d : DleEncoder) (o : Nat → Outcome) : Nat → Analyzer → Call
  | 0, a => ⟨.returnOk, a, []⟩
  | passes + 1, a =>
    let check := checkForPackets d tcArraySize a
    match check.1.result with
    | .ok =>
      let reception := handleTcReception (o passes) check.1.packet
      if reception.1 ≠ .returnOk then ⟨reception.1, check.2, [reception.2]⟩
      else
        let rest := handleTcFrom d o passes check.2
        { rest with handled := reception.2 :: rest.handled }
    | .possiblePacketLoss | .failed => handleTcFrom d o passes check.2
    | .noPacketFound => ⟨.returnOk, check.2, []⟩

def handleTc (d : DleEncoder) (o : Nat → Outcome) (a : Analyzer) : Call :=
  handleTcFrom d o maxTcPacketsHandled a

/-! ## What is meant to become of it -/

/-- The packets the analyzer finds in the passes, each with the number of its outcome. -/
def found (d : DleEncoder) : Nat → Analyzer → List (Nat × List UInt8)
  | 0, _ => []
  | passes + 1, a =>
    let check := checkForPackets d tcArraySize a
    match check.1.result with
    | .ok => (passes, check.1.packet) :: found d passes check.2
    | .possiblePacketLoss | .failed => found d passes check.2
    | .noPacketFound => []

/-- A message is sent for an entry that was created with the packet, and an entry without a message is
    deleted. -/
structure Handled.Right (h : Handled) : Prop where
  sends : ∀ address, h.sent = some address → h.added = some address
  keeps : ∀ address, h.added = some address → h.sent = some address ∨ h.deleted = some address

/-- All packets that are found are handled, and each of them rightly. -/
structure Right (packets : List (List UInt8)) (handled : List Handled) : Prop where
  each : ∀ h ∈ handled, h.Right
  all : handled.map Handled.packet = packets

/-- The packet is in the store and its message in the queue. -/
def Outcome.Succeeds (o : Outcome) : Prop := o.addData = .returnOk ∧ o.sendMessage = .returnOk

/-- No entry is created, and no message is sent either: the error of the store is the one that is noticed,
    or the queue takes no message. -/
def Outcome.Refused (o : Outcome) : Prop :=
  o.addData ≠ .returnOk ∧ (o.addData = .returnFailed ∨ o.sendMessage ≠ .returnOk)

/-- All packets succeed, or the last of them is refused and the others succeed. -/
def SucceedsToLast (o : Nat → Outcome) : List (Nat × List UInt8) → Prop
  | [] => True
  | packet :: others =>
    ((o packet.1).Succeeds ∧ SucceedsToLast o others) ∨ ((o packet.1).Refused ∧ others = [])

/-! ## One packet -/

section

variable {o : Outcome}

@[simp] theorem handleTcReception_packet (o : Outcome) (packet : List UInt8) :
    (handleTcReception o packet).2.packet = packet := by
  unfold handleTcReception
  dsimp only
  split_ifs <;> rfl

theorem handleTcReception_code (o : Outcome) (packet : List UInt8) :
    (handleTcReception o packet).1 =
      if o.addData = .returnFailed then .returnFailed else o.sendMessage := by
  unfold handleTcReception
  split_ifs <;> rfl

/-- A packet is handled rightly if it succeeds or is refused. -/
theorem handleTcReception_right_iff (packet : List UInt8) :
    (handleTcReception o packet).2.Right ↔ o.Succeeds ∨ o.Refused := by
  obtain ⟨addData, storeId, sendMessage⟩ := o
  unfold handleTcReception Outcome.Succeeds Outcome.Refused
  cases addData with
  | returnFailed =>
    refine iff_of_true ⟨fun _ h => ?_, fun _ h => ?_⟩ (.inr ⟨by simp, .inl rfl⟩)
    · cases h
    · cases h
  | returnOk =>
    cases sendMessage with
    | returnOk => exact iff_of_true ⟨fun _ h => h, fun _ h => .inl h⟩ (.inl ⟨rfl, rfl⟩)
    | returnFailed =>
      refine iff_of_false (fun h => ?_) (by simp)
      -- the entry is there, and neither sent nor deleted
      rcases h.keeps storeId rfl with h | h <;> cases h
    | other code =>
      refine iff_of_false (fun h => ?_) (by simp)
      rcases h.keeps storeId rfl with h | h <;> cases h
  | other code =>
    cases sendMessage with
    | returnOk =>
      refine iff_of_false (fun h => ?_) (by simp)
      have hadded := h.sends storeId rfl
      cases hadded
    | returnFailed =>
      refine iff_of_true ⟨fun _ h => ?_, fun _ h => ?_⟩ (.inr ⟨by simp, .inr (by simp)⟩)
      · cases h
      · cases h
    | other code =>
      refine iff_of_true ⟨fun _ h => ?_, fun _ h => ?_⟩ (.inr ⟨by simp, .inr (by simp)⟩)
      · cases h
      · cases h

/-- A packet that is handled rightly and does not end the call has succeeded. -/
theorem succeeds_iff (packet : List UInt8) :
    o.Succeeds ↔ (o.Succeeds ∨ o.Refused) ∧ (handleTcReception o packet).1 = .returnOk := by
  rw [handleTcReception_code]
  constructor
  · rintro ⟨hadd, hsend⟩
    exact ⟨.inl ⟨hadd, hsend⟩, by rw [hadd, if_neg (by decide), hsend]⟩
  · rintro ⟨hsucceeds | ⟨hadd, hrefused⟩, hcode⟩
    · exact hsucceeds
    · by_cases hfailed : o.addData = .returnFailed
      · rw [if_pos hfailed] at hcode
        cases hcode
      · rw [if_neg hfailed] at hcode
        exact absurd hcode (hrefused.resolve_left hfailed)

end

/-! ## A call -/

/-- **Step by step.** The passes that are left handle rightly what they find exactly if it succeeds to the
    last packet. -/
theorem handleTcFrom_right_iff (d : DleEncoder) (o : Nat → Outcome) (passes : Nat) :
    ∀ a, Right ((found d passes a).map Prod.snd) (handleTcFrom d o passes a).handled ↔
      SucceedsToLast o (found d passes a) := by
  induction passes with
  | zero => exact fun a => iff_of_true ⟨by simp [handleTcFrom], rfl⟩ trivial
  | succ passes ih =>
    intro a
    unfold found handleTcFrom
    cases hresult : (checkForPackets d tcArraySize a).1.result with
    | noPacketFound =>
      simp only [hresult]
      exact iff_of_true ⟨by simp, rfl⟩ trivial
    | possiblePacketLoss =>
      simp only [hresult]
      exact ih _
    | failed =>
      simp only [hresult]
      exact ih _
    | ok =>
      simp only [hresult]
      generalize (checkForPackets d tcArraySize a).1.packet = packet
      generalize (checkForPackets d tcArraySize a).2 = a'
      have hfirst := handleTcReception_right_iff (o := o passes) packet
      have hpacket := handleTcReception_packet (o passes) packet
      have hsucceeds := succeeds_iff (o := o passes) packet
      by_cases hcode : (handleTcReception (o passes) packet).1 = .returnOk
      · -- the call goes on with the next packet
        rw [if_neg (not_not.mpr hcode), SucceedsToLast, ← ih a', List.map_cons]
        rw [and_iff_left hcode] at hsucceeds
        constructor
        · rintro ⟨heach, hall⟩
          rw [List.map_cons, List.cons.injEq] at hall
          have hright := heach _ List.mem_cons_self
          exact .inl ⟨hsucceeds.mpr (hfirst.mp hright),
            fun h hmem => heach h (List.mem_cons_of_mem _ hmem), hall.2⟩
        · rintro (⟨hdone, hrest⟩ | ⟨hrefused, hnone⟩)
          · constructor
            · intro h hmem
              rcases List.mem_cons.mp hmem with rfl | hmem
              · exact hfirst.mpr (.inl hdone)
              · exact hrest.each h hmem
            · rw [List.map_cons, hpacket, hrest.all]
          · exact absurd (hsucceeds.mpr (.inr hrefused)).1 hrefused.1
      · -- the call ends, so this has to be the last packet
        rw [if_pos hcode, SucceedsToLast, List.map_cons]
        have hnot : ¬ (o passes).Succeeds := fun h => hcode (hsucceeds.mp h).2
        constructor
        · rintro ⟨heach, hall⟩
          rw [List.map_cons, List.map_nil, List.cons.injEq] at hall
          have hright := heach _ (List.mem_singleton.mpr rfl)
          exact .inr ⟨(hfirst.mp hright).resolve_left hnot, List.map_eq_nil_iff.mp hall.2.symm⟩
        · rintro (⟨hdone, -⟩ | ⟨hrefused, hnone⟩)
          · exact absurd hdone hnot
          · constructor
            · intro h hmem
              rw [List.mem_singleton.mp hmem]
              exact hfirst.mpr (.inr hrefused)
            · rw [List.map_cons, hpacket, hnone]
              rfl

/-- **When a call is right.** Messages are sent only for entries that were created with the packet,
    entries without a message are deleted and all packets are handled exactly if every packet that is
    found succeeds, except that the last one may be refused without a trace. -/
theorem handleTc_right_iff (d : DleEncoder) (o : Nat → Outcome) (a : Analyzer) :
    Right ((found d maxTcPacketsHandled a).map Prod.snd) (handleTc d o a).handled ↔
      SucceedsToLast o (found d maxTcPacketsHandled a) :=
  handleTcFrom_right_iff d o maxTcPacketsHandled a

/-- One packet in the ring buffer. -/
def onePacket : Analyzer := construct ⟨8, [2, 5, 3], by decide⟩

/-- A store that is full, and a queue that takes messages. -/
def storeFull : Outcome where
  addData := .other 2
  storeId := 0xffffffff
  sendMessage := .returnOk

/-- **A message for no entry.** The store is full and says so with a code of its own, and the message is
    sent with the invalid address. -/
theorem storeFull_sends :
    (handleTc archived (fun _ => storeFull) onePacket).handled =
      [⟨[5], none, some 0xffffffff, none⟩] ∧
    ¬ ∀ (d : DleEncoder) (o : Nat → Outcome) (a : Analyzer),
      Right ((found d maxTcPacketsHandled a).map Prod.snd) (handleTc d o a).handled := by
  have hhandled : (handleTc archived (fun _ => storeFull) onePacket).handled =
      [⟨[5], none, some 0xffffffff, none⟩] := by decide
  refine ⟨hhandled, fun hright => ?_⟩
  have h := (hright archived (fun _ => storeFull) onePacket).each
  rw [hhandled] at h
  have hadded := (h _ (List.mem_singleton.mpr rfl)).sends 0xffffffff rfl
  cases hadded

/-! ## The bridge -/

/-- The error a code stands for. -/
def Code.error : Code → Option Nat
  | .returnOk => none
  | .returnFailed => some 1
  | .other code => some code

@[simp] theorem Code.error_returnOk : Code.returnOk.error = none := rfl

/-- **The bridge** passes the packets on that are handled here, and returns the same error. -/
theorem handleTcFrom_eq (d : DleEncoder) (o : Nat → Outcome) (passes : Nat) :
    ∀ a delivered,
      SerialBridge.handleTcFrom d (fun passes => (handleTcReception (o passes) []).1.error) passes
          ⟨a, delivered⟩ =
        ((handleTcFrom d o passes a).result.error, ⟨(handleTcFrom d o passes a).analyzer,
          delivered ++ (handleTcFrom d o passes a).handled.map Handled.packet⟩) := by
  induction passes with
  | zero =>
    intro a delivered
    simp [SerialBridge.handleTcFrom, handleTcFrom, Code.error]
  | succ passes ih =>
    intro a delivered
    unfold SerialBridge.handleTcFrom handleTcFrom
    cases hresult : (checkForPackets d tcArraySize a).1.result with
    | noPacketFound => simp [hresult, Code.error]
    | possiblePacketLoss =>
      simp only [hresult]
      exact ih _ _
    | failed =>
      simp only [hresult]
      exact ih _ _
    | ok =>
      simp only [hresult]
      generalize (checkForPackets d tcArraySize a).1.packet = packet
      generalize (checkForPackets d tcArraySize a).2 = a'
      have hsame : (handleTcReception (o passes) packet).1 = (handleTcReception (o passes) []).1 := by
        rw [handleTcReception_code, handleTcReception_code]
      rw [hsame]
      cases hcode : (handleTcReception (o passes) []).1 with
      | returnOk =>
        simp only [Code.error_returnOk, ne_eq, not_true_eq_false, if_false, ih, List.map_cons,
          handleTcReception_packet, List.append_assoc, List.singleton_append]
      | returnFailed =>
        rw [if_pos (by decide)]
        simp [Code.error]
      | other code =>
        rw [if_pos (by simp)]
        simp [Code.error]

end TcReception
end Tmtc
end Obsw
