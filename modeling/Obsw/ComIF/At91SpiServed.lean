import Obsw.ComIF.At91SpiStart

/-!
# `ComIF.At91SpiServed` — transfers are served

Bytes, replies and interrupts keep `Running`; success is reported for what is done (`done_of_success`),
and a controller at rest is noticed (`rest_running`). So transfers that fit are served, and what one of
them does is what it would do as the first one (`transfers_served`).
-/

namespace Obsw
namespace At91Spi

open Loop DmaChannel

variable {ahead : Nat} {t : Transfer} {d : Driver} {s : State}

/-! ## Bytes and replies -/

theorem running_transmit (h : Running ahead t d) {p : Pointer} {tx : Channel Pointer}
    (hstep : d.tx.step .succ = some (p, tx)) (hroom : d.inFlight < ahead) :
    Running ahead t { d with
      tx := tx
      inFlight := d.inFlight + 1
      sent := d.sent ++ [p.shape] } := by
  have hpending := Channel.pending_step hstep
  have hall : (d.sent ++ [p.shape]) ++ (tx.pending .succ).map Pointer.shape = d.txAll := by
    rw [Driver.txAll, hpending, List.map_cons, List.append_assoc]
    rfl
  exact { h with
    flight := by
      have hflight := h.flight
      dsimp only
      rw [List.length_append, List.length_singleton]
      omega
    bounded := hroom
    txSettled := Channel.settled_step hstep
    txPlan := by
      rw [Driver.txAll, hall]
      exact h.txPlan
    txFirst := by
      rw [Driver.txAll, hall]
      exact h.txFirst
    txLong := by
      rw [Driver.txAll, hall]
      exact h.txLong
    txDone := by
      intro hfinished hnot
      rw [h.txDone hfinished hnot] at hpending
      cases hpending }

theorem running_receive (h : Running ahead t d) {p : Pointer} {rx : Channel Pointer}
    (hstep : d.rx.step .succ = some (p, rx)) (hflight : d.inFlight ≠ 0) :
    Running ahead t { d with
      rx := rx
      inFlight := d.inFlight - 1
      received := d.received ++ [p.place] } := by
  have hpending := Channel.pending_step hstep
  have hall : (d.received ++ [p.place]) ++ (rx.pending .succ).map Pointer.place = d.rxAll := by
    rw [Driver.rxAll, hpending, List.map_cons, List.append_assoc]
    rfl
  have hne : d.rx.pending .succ ≠ [] := by
    rw [hpending]
    exact List.cons_ne_nil _ _
  exact { h with
    flight := by
      have hlength := h.flight
      dsimp only
      rw [List.length_append, List.length_singleton]
      omega
    bounded := Nat.le_trans (Nat.sub_le _ _) h.bounded
    rxSettled := Channel.settled_step hstep
    rxPlan := by
      rw [Driver.rxAll, hall]
      exact h.rxPlan
    rxLong := by
      rw [Driver.rxAll, hall]
      exact h.rxLong
    rxShort := by
      rw [Driver.rxAll, hall]
      exact fun hreception _ => h.rxShort hreception hne
    rxDone := fun hfinished hnot => absurd (h.rxDone hfinished hnot) hne
    overrun := fun hlost => absurd (h.overrun hlost) hne }

/-- A reply that is lost was not wanted. -/
theorem running_lose (h : Running ahead t d) (hstep : d.rx.step .succ = none) (hflight : d.inFlight ≠ 0) :
    Running ahead t { d with
      inFlight := d.inFlight - 1
      overrun := true
      received := d.received ++ [none] } := by
  have hpending := Channel.pending_of_step_none hstep
  have hall : d.rxAll = d.received := by rw [Driver.rxAll, hpending, List.map_nil, List.append_nil]
  have hlost : (d.received ++ [none]) ++ (d.rx.pending .succ).map Pointer.place = d.rxAll ++ [none] := by
    rw [hpending, List.map_nil, List.append_nil, hall]
  exact { h with
    flight := by
      have hlength := h.flight
      dsimp only
      rw [List.length_append, List.length_singleton]
      omega
    bounded := Nat.le_trans (Nat.sub_le _ _) h.bounded
    rxPlan := by
      intro i
      have hplan := h.rxPlan i
      rw [Driver.rxAll, hlost, List.getElem?_append]
      split
      · exact hplan
      · rename_i hi
        rw [List.getElem?_eq_none (Nat.not_lt.mp hi)] at hplan
        rw [← hplan]
        cases i - d.rxAll.length <;> rfl
    rxLong := by
      intro hreception
      have hlong := h.rxLong hreception
      rw [Driver.rxAll, hlost, List.length_append]
      omega
    rxShort := fun _ hne => absurd hpending hne
    rxDone := fun _ _ => hpending
    overrun := fun _ => hpending }

/-! ## The end flags -/

/-- The dummy buffer is programmed behind what a channel has. -/
def fill (c : Channel Pointer) : Channel Pointer := c.setNext (.dummyBuf 0) spiDummyBufferSize

theorem handleEndTx_eq (rxBuff : Bool) (d : Driver) :
    d.handleEndTx rxBuff = { d with
      currentInternalReception := d.nextInternalReception
      tx := if d.nextInternalReception = .readOnly ∧ rxBuff = false ∧ d.tx.nextCount = 0 then fill d.tx
        else d.tx } := by
  unfold Driver.handleEndTx
  dsimp only
  by_cases hread : d.nextInternalReception = .readOnly ∧ rxBuff = false
  · rw [if_pos hread]
    by_cases hfree : d.tx.nextCount = 0
    · rw [if_pos hfree, if_pos ⟨hread.1, hread.2, hfree⟩]
      rfl
    · rw [if_neg hfree, if_neg fun hand => hfree hand.2.2]
  · rw [if_neg hread, if_neg fun hand => hread ⟨hand.1, hand.2.1⟩]

theorem handleEndRx_eq (txBufE : Bool) (d : Driver) :
    d.handleEndRx txBufE = { d with
      currentInternalReception := d.nextInternalReception
      rx := if d.nextInternalReception = .writeOnly ∧ txBufE = false ∧ d.rx.nextCount = 0 then fill d.rx
        else d.rx } := by
  unfold Driver.handleEndRx
  dsimp only
  by_cases hwrite : d.nextInternalReception = .writeOnly ∧ txBufE = false
  · rw [if_pos hwrite]
    by_cases hfree : d.rx.nextCount = 0
    · rw [if_pos hfree, if_pos ⟨hwrite.1, hwrite.2, hfree⟩]
      rfl
    · rw [if_neg hfree, if_neg fun hand => hfree hand.2.2]
  · rw [if_neg hwrite, if_neg fun hand => hwrite ⟨hand.1, hand.2.1⟩]

/-- The channels behind the handler: the dummy buffer is sent again while replies are missing, and takes
    more replies while bytes are to be sent. -/
def txFilled (d : Driver) : Channel Pointer :=
  if d.tx.ended = true ∧ d.nextInternalReception = .readOnly ∧ d.rx.done = false ∧ d.tx.nextCount = 0 then
    fill d.tx
  else d.tx

def rxFilled (d : Driver) : Channel Pointer :=
  if d.rx.ended = true ∧ d.nextInternalReception = .writeOnly ∧ d.tx.done = false ∧ d.rx.nextCount = 0 then
    fill d.rx
  else d.rx

theorem handleEndFlags_eq (d : Driver) :
    d.handleEndFlags = { d with
      currentInternalReception := if d.tx.ended || d.rx.ended then d.nextInternalReception
        else d.currentInternalReception
      tx := txFilled d
      rx := rxFilled d
      txFinished := d.txFinished || d.tx.done
      rxFinished := d.rxFinished || d.rx.done } := by
  unfold Driver.handleEndFlags txFilled rxFilled
  dsimp only
  cases htx : d.tx.ended
  all_goals cases hrx : d.rx.ended
  all_goals simp [handleEndTx_eq, handleEndRx_eq]

theorem settled_fill (c : Channel Pointer) : (fill c).Settled := Channel.settled_setNext _ (by decide)

theorem running_fillTx (h : Running ahead t d) (hreception : t.reception = .readOnly)
    (hfree : d.tx.nextCount = 0) : Running ahead t { d with tx := fill d.tx } := by
  obtain ⟨p, hsecond, hsend, -⟩ := (second_of_reception t).1 hreception
  have hall : d.sent ++ ((fill d.tx).pending .succ).map Pointer.shape = d.txAll ++
      (Channel.block Pointer.succ (.dummyBuf 0) spiDummyBufferSize).map Pointer.shape := by
    unfold fill
    rw [Channel.pending_setNext_of_free hfree, List.map_append, ← List.append_assoc]
    rfl
  exact { h with
    txSettled := settled_fill _
    txPlan := by
      intro i hi x hx
      rw [Driver.txAll, hall, List.getElem?_append] at hx
      by_cases hfirst : i < d.txAll.length
      · rw [if_pos hfirst] at hx
        exact h.txPlan i hi x hx
      · -- what is filled in lies behind the first phase, where zeros are to be sent
        rw [if_neg hfirst, shapes_block (show PointsTo (.dummyBuf 0) none from ⟨0, rfl⟩)] at hx
        have hzero : t.requested i = .byte 0 := by
          have hlong := h.txFirst
          unfold Transfer.requested
          rw [if_neg (by omega), hsecond, Option.bind_some, hsend]
        split at hx
        · rw [hzero]
          exact (Option.some.inj hx).symm
        · cases hx
    txFirst := by
      have hlong := h.txFirst
      rw [Driver.txAll, hall, List.length_append]
      omega
    txLong := fun hnot => absurd hreception hnot
    txDone := fun _ hnot => absurd hreception hnot }

theorem running_fillRx (h : Running ahead t d) (hreception : t.reception = .writeOnly)
    (hfree : d.rx.nextCount = 0) (hoverrun : d.overrun = false) :
    Running ahead t { d with rx := fill d.rx } := by
  have hall : d.received ++ ((fill d.rx).pending .succ).map Pointer.place = d.rxAll ++
      (Channel.block Pointer.succ (.dummyBuf 0) spiDummyBufferSize).map Pointer.place := by
    unfold fill
    rw [Channel.pending_setNext_of_free hfree, List.map_append, ← List.append_assoc]
    rfl
  have hne : ∀ {r : InternalReception}, r ≠ .writeOnly → t.reception ≠ r := fun hr heq =>
    hr (heq.symm.trans hreception)
  exact { h with
    rxSettled := settled_fill _
    rxPlan := by
      intro i
      have hplan := h.rxPlan i
      rw [Driver.rxAll, hall, List.getElem?_append]
      split
      · exact hplan
      · rename_i hi
        rw [List.getElem?_eq_none (Nat.not_lt.mp hi)] at hplan
        rw [← hplan, places_dummy ⟨0, rfl⟩]
        rfl
    rxLong := fun hread => absurd hread (hne (by decide))
    rxShort := fun hboth => absurd hboth (hne (by decide))
    rxDone := fun _ hnot => absurd hreception hnot
    overrun := by
      intro hlost
      rw [hoverrun] at hlost
      cases hlost }

/-- The end flags keep the transfer going, and the handler knows what it waits for once a channel is
    done. -/
theorem running_handleEndFlags (h : Running ahead t d) (hoverrun : d.overrun = false) :
    Running ahead t d.handleEndFlags := by
  rw [handleEndFlags_eq]
  have htx : Running ahead t { d with tx := txFilled d } := by
    unfold txFilled
    split
    · rename_i hfill
      exact running_fillTx h (h.next.symm.trans hfill.2.1) hfill.2.2.2
    · exact h
  have hrx : Running ahead t { d with tx := txFilled d, rx := rxFilled d } := by
    unfold rxFilled
    split
    · rename_i hfill
      exact running_fillRx htx (h.next.symm.trans hfill.2.1) hfill.2.2.2 hoverrun
    · exact htx
  exact { hrx with
    current := by
      intro hfinished
      simp only [Bool.or_eq_true] at hfinished ⊢
      by_cases hended : d.tx.ended = true ∨ d.rx.ended = true
      · rw [if_pos hended]
        exact h.next
      · rw [if_neg hended]
        apply h.current
        -- a channel that is done has ended a block
        have htxNot : ¬ d.tx.done = true :=
          fun hdone => hended (Or.inl (h.txSettled (Channel.count_of_done hdone)))
        have hrxNot : ¬ d.rx.done = true :=
          fun hdone => hended (Or.inr (h.rxSettled (Channel.count_of_done hdone)))
        rcases hfinished with (hold | hdone) | (hold | hdone)
        · exact Or.inl hold
        · exact absurd hdone htxNot
        · exact Or.inr hold
        · exact absurd hdone hrxNot
    txDone := by
      intro hfinished hnot
      have hsame : txFilled d = d.tx := if_neg fun hfill => hnot (h.next.symm.trans hfill.2.1)
      dsimp only
      rw [hsame]
      rcases (Bool.or_eq_true _ _).mp hfinished with hold | hdone
      · exact h.txDone hold hnot
      · exact Channel.done_iff.mp hdone
    rxDone := by
      intro hfinished hnot
      have hsame : rxFilled d = d.rx := if_neg fun hfill => hnot (h.next.symm.trans hfill.2.1)
      dsimp only
      rw [hsame]
      rcases (Bool.or_eq_true _ _).mp hfinished with hold | hdone
      · exact h.rxDone hold hnot
      · exact Channel.done_iff.mp hdone }

/-! ## The end of a transfer -/

/-- The handler behind its reading of the status register. -/
def flagged (d : Driver) : Driver := { d with overrun := false }.handleEndFlags

theorem running_flagged (h : Running ahead t d) : Running ahead t (flagged d) :=
  running_handleEndFlags { h with overrun := fun hfalse => (by cases hfalse) } rfl

/-- A reply is lost only when there is no more room for replies, which is no error. -/
theorem no_overrun_error (h : Running ahead t d) : (d.overrun && !d.tx.done && !d.rx.done) = false := by
  cases hoverrun : d.overrun with
  | false => rfl
  | true => rw [Channel.done_iff.mpr (h.overrun hoverrun), Bool.not_true, Bool.and_false]

theorem flagged_eq (d : Driver) : { d.handleEndFlags with overrun := false } = flagged d := by
  unfold flagged
  rw [handleEndFlags_eq, handleEndFlags_eq]
  rfl

theorem spiInterruptHandler_of_none (h : Running ahead t d) {modeFault : Bool}
    (hstate : (flagged d).transferState modeFault false = none) :
    d.spiInterruptHandler modeFault = (flagged d, none) := by
  unfold Driver.spiInterruptHandler
  rw [no_overrun_error h, flagged_eq]
  dsimp only
  rw [hstate]

theorem spiInterruptHandler_of_some (h : Running ahead t d) {modeFault : Bool} {state : TransferState}
    (hstate : (flagged d).transferState modeFault false = some state) :
    d.spiInterruptHandler modeFault =
      ({ (flagged d).resetDmaRegs with enabled := false, running := none }, some state) := by
  unfold Driver.spiInterruptHandler
  rw [no_overrun_error h, flagged_eq]
  dsimp only
  rw [hstate]

/-- What the handler has waited for when it reports success. -/
theorem finished_of_success (h : Running ahead t d) {modeFault : Bool}
    (hsuccess : d.transferState modeFault false = some .spiSuccess) :
    (t.reception = .writeOnly ∧ d.tx.pending .succ = []) ∨
      (t.reception = .readOnly ∧ d.rx.pending .succ = []) ∨
      (t.reception = .writeAndRead ∧ d.tx.pending .succ = [] ∧ d.rx.pending .succ = []) := by
  unfold Driver.transferState at hsuccess
  cases modeFault with
  | true => cases hsuccess
  | false =>
      rw [if_neg Bool.false_ne_true, if_neg Bool.false_ne_true] at hsuccess
      split at hsuccess
      · rename_i hwrite
        have hreception := (h.current (Or.inl hwrite.2)).symm.trans hwrite.1
        exact Or.inl ⟨hreception, h.txDone hwrite.2 (by rw [hreception]; decide)⟩
      · rename_i hnotWrite
        split at hsuccess
        · rename_i hread
          have hreception := (h.current (Or.inr hread.2)).symm.trans hread.1
          exact Or.inr (Or.inl ⟨hreception, h.rxDone hread.2 (by rw [hreception]; decide)⟩)
        · rename_i hnotRead
          split at hsuccess
          · rename_i hboth
            have hcurrent := h.current (Or.inl hboth.2)
            cases hreception : t.reception with
            | writeOnly => exact absurd ⟨hcurrent.trans hreception, hboth.2⟩ hnotWrite
            | readOnly => exact absurd ⟨hcurrent.trans hreception, hboth.1⟩ hnotRead
            | writeAndRead =>
                refine Or.inr (Or.inr ⟨rfl, h.txDone hboth.2 ?_, h.rxDone hboth.1 ?_⟩)
                all_goals rw [hreception]
                all_goals decide
          · cases hsuccess

/-- Success is reported for what is done. -/
theorem done_of_success (h : Running ahead t d) {modeFault : Bool}
    (hsuccess : d.transferState modeFault false = some .spiSuccess) : Done t d.sent d.received := by
  have hflight := h.flight
  have hbounded := h.bounded
  -- enough was sent in every case
  have htotal : t.total ≤ d.sent.length := by
    rcases finished_of_success h hsuccess with ⟨hreception, htx⟩ | ⟨hreception, hrx⟩ | ⟨hreception, htx, -⟩
    · have hlong := h.txLong (by rw [hreception]; decide)
      rwa [Driver.txAll, htx, List.map_nil, List.append_nil] at hlong
    · have hlong := h.rxLong hreception
      rw [Driver.rxAll, hrx, List.map_nil, List.append_nil] at hlong
      omega
    · have hlong := h.txLong (by rw [hreception]; decide)
      rwa [Driver.txAll, htx, List.map_nil, List.append_nil] at hlong
  constructor
  · intro i hi
    have hlt : i < d.sent.length := by omega
    have hall : d.txAll[i]? = some d.sent[i] := by
      rw [Driver.txAll, List.getElem?_append_left hlt, List.getElem?_eq_getElem hlt]
    rw [List.getElem?_eq_getElem hlt, h.txPlan i hi _ hall]
  · intro i
    have hplan := h.rxPlan i
    rcases finished_of_success h hsuccess with ⟨hreception, -⟩ | ⟨-, hrx⟩ | ⟨-, -, hrx⟩
    · by_cases hi : i < d.received.length
      · rwa [Driver.rxAll, List.getElem?_append_left hi] at hplan
      · -- the replies that are missing were not wanted
        have hearly := h.early hreception i
        have hnone : t.wanted i = none := by
          by_contra hne
          have := hearly hne
          omega
        rw [hnone, List.getElem?_eq_none (Nat.not_lt.mp hi)]
        rfl
    · rwa [Driver.rxAll, hrx, List.map_nil, List.append_nil] at hplan
    · rwa [Driver.rxAll, hrx, List.map_nil, List.append_nil] at hplan

theorem success_of_txFinished (hcurrent : d.currentInternalReception = .writeOnly)
    (htx : d.txFinished = true) : d.transferState false false = some .spiSuccess := by
  unfold Driver.transferState
  rw [if_neg Bool.false_ne_true, if_neg Bool.false_ne_true, if_pos ⟨hcurrent, htx⟩]

/-- The handler never waits for more than both channels. -/
theorem success_of_finished (hcurrent : d.currentInternalReception ≠ .writeAndRead ∨ d.txFinished = true)
    (hnot : d.currentInternalReception ≠ .writeOnly) (hrx : d.rxFinished = true) :
    d.transferState false false = some .spiSuccess := by
  unfold Driver.transferState
  rw [if_neg Bool.false_ne_true, if_neg Bool.false_ne_true, if_neg fun hand => hnot hand.1]
  cases h : d.currentInternalReception with
  | writeOnly => exact absurd h hnot
  | readOnly => rw [if_pos ⟨rfl, hrx⟩]
  | writeAndRead =>
      have htx := hcurrent.resolve_left fun hne => hne h
      rw [if_neg (fun hand => InternalReception.noConfusion hand.1), if_pos ⟨hrx, htx⟩]

/-- The handler while the transmit channel is done. -/
theorem flagged_of_done (h : Running ahead t d) (hdone : d.tx.done = true) :
    (flagged d).currentInternalReception = t.reception ∧ (flagged d).txFinished = true ∧
      (flagged d).rxFinished = (d.rxFinished || d.rx.done) ∧
      (t.reception = .readOnly → d.rx.done = false → (flagged d).tx = fill d.tx) := by
  have hcount := Channel.count_of_done hdone
  have hended := h.txSettled hcount
  unfold flagged
  rw [handleEndFlags_eq]
  refine ⟨?_, ?_, rfl, fun hreception hmissing => ?_⟩
  · dsimp only
    rw [hended, Bool.true_or, if_pos rfl]
    exact h.next
  · dsimp only
    rw [hdone, Bool.or_true]
  · exact if_pos ⟨hended, h.next.trans hreception, hmissing, d.tx.loaded hcount⟩

/-- With nothing left to send and all replies in, the transfer ends, or there is more to send. -/
theorem rest_running (h : Running ahead t d) (hdone : d.tx.done = true) (hinFlight : d.inFlight = 0) :
    (d.spiInterruptHandler false).2 ≠ none ∨ (d.spiInterruptHandler false).1.tx.done = false := by
  obtain ⟨hcurrent, htx, hrx, hfill⟩ := flagged_of_done h hdone
  have hends : (flagged d).transferState false false = some .spiSuccess →
      (d.spiInterruptHandler false).2 ≠ none := by
    intro hsuccess
    rw [spiInterruptHandler_of_some h hsuccess]
    exact Option.some_ne_none _
  cases hreception : t.reception with
  | writeOnly => exact Or.inl (hends (success_of_txFinished (hcurrent.trans hreception) htx))
  | readOnly =>
      have hread := hcurrent.trans hreception
      cases hmissing : d.rx.done with
      | true =>
          rw [hmissing, Bool.or_true] at hrx
          refine Or.inl (hends (success_of_finished (Or.inl ?_) ?_ hrx))
          all_goals rw [hread]
          all_goals decide
      | false =>
          cases hstate : (flagged d).transferState false false with
          | some state =>
              left
              rw [spiInterruptHandler_of_some h hstate]
              exact Option.some_ne_none _
          | none =>
              right
              rw [spiInterruptHandler_of_none h hstate, hfill hreception hmissing]
              exact Channel.done_setNext _ (by decide)
  | writeAndRead =>
      -- as many replies as bytes were sent, and no more are programmed
      have hpending : d.tx.pending Pointer.succ = [] := Channel.done_iff.mp hdone
      have hrxPending : d.rx.pending .succ = [] := by
        by_contra hne
        have hshort := h.rxShort hreception hne
        have hlong := h.txLong (by rw [hreception]; decide)
        have hflight := h.flight
        rw [Driver.rxAll, List.length_append, List.length_map] at hshort
        rw [Driver.txAll, hpending, List.map_nil, List.append_nil] at hlong
        have hpos := List.length_pos_iff.mpr hne
        omega
      rw [Channel.done_iff.mpr hrxPending, Bool.or_true] at hrx
      refine Or.inl (hends (success_of_finished (Or.inr htx) ?_ hrx))
      rw [hcurrent, hreception]
      decide

/-! ## Every transfer is served -/

/-- The driver serves what is under way, and nothing is sent without it. -/
structure Inv (ahead : Nat) (s : State) : Prop where
  idle : s.driver.running = none → s.driver.enabled = false
  busy : ∀ t, s.driver.running = some t → Running ahead t s.driver
  once : s.started = s.completions.map Completion.transfer ++ s.driver.running.toList
  done : ∀ c ∈ s.completions, c.state = .spiSuccess → Done c.transfer c.sent c.received

theorem inv_initial : Inv ahead .initial where
  idle := fun _ => rfl
  busy := fun _ hfalse => by cases hfalse
  once := rfl
  done := fun _ hfalse => by cases hfalse

/-- A change of the driver that serves on. -/
theorem inv_busy (h : Inv ahead s) {t : Transfer} (hrunning : s.driver.running = some t) {d : Driver}
    (hd : Running ahead t d) (dummyBuf : Nat → UInt8) :
    Inv ahead { s with driver := d, dummyBuf := dummyBuf } where
  idle := by
    intro hnone
    exact absurd (hd.running.symm.trans hnone) (Option.some_ne_none t)
  busy := by
    intro t' ht'
    obtain rfl := Option.some.inj (hd.running.symm.trans ht')
    exact hd
  once := by
    have honce := h.once
    rw [hrunning] at honce
    rw [show ({ s with driver := d, dummyBuf := dummyBuf } : State).driver.running = some t from hd.running]
    exact honce
  done := h.done

theorem inv_start (h : Inv ahead s) (hfits : EventFits ahead (.start t) s) :
    Inv ahead (step ahead (.start t) s) := by
  obtain ⟨hnone, hflight, hstart⟩ := hfits
  have hrunning := running_start hflight hstart
  refine ⟨fun hidle => ?_, fun t' ht' => ?_, ?_, h.done⟩
  · exact absurd (hrunning.running.symm.trans hidle) (Option.some_ne_none t)
  · obtain rfl := Option.some.inj (hrunning.running.symm.trans ht')
    exact hrunning
  · have honce := h.once
    rw [hnone, Option.toList_none, List.append_nil] at honce
    show s.started ++ [t] = s.completions.map Completion.transfer ++ (s.driver.start t).running.toList
    rw [honce, hrunning.running]
    rfl

theorem inv_transmit (h : Inv ahead s) (hfits : EventFits ahead .transmit s) :
    Inv ahead (s.transmit ahead) := by
  unfold State.transmit
  cases hsends : s.sends ahead with
  | none => exact h
  | some next =>
      obtain ⟨p, tx⟩ := next
      have hread : s.read p = p.shape := by
        cases p with
        | user address => rfl
        | dummyBuf index => exact congrArg Sent.byte (hfits index tx hsends)
      unfold State.sends at hsends
      split at hsends
      · rename_i hactive
        rcases Option.eq_none_or_eq_some s.driver.running with hrunning | ⟨t, hrunning⟩
        · rw [h.idle hrunning] at hactive
          exact absurd hactive.1 Bool.false_ne_true
        · dsimp only
          rw [hread]
          exact inv_busy h hrunning (running_transmit (h.busy t hrunning) hsends hactive.2) s.dummyBuf
      · cases hsends

theorem inv_receive (h : Inv ahead s) (reply : UInt8) : Inv ahead (s.receive reply) := by
  unfold State.receive
  split
  · exact h
  · rename_i hflight
    dsimp only
    rcases Option.eq_none_or_eq_some s.driver.running with hrunning | ⟨t, hrunning⟩
    · rw [if_neg (by rw [h.idle hrunning]; exact Bool.false_ne_true)]
      refine ⟨h.idle, fun t ht => ?_, h.once, h.done⟩
      exact absurd (hrunning.symm.trans ht).symm (Option.some_ne_none t)
    · have hbusy := h.busy t hrunning
      rw [if_pos hbusy.enabled]
      cases hstep : s.driver.rx.step .succ with
      | none => exact inv_busy h hrunning (running_lose hbusy hstep hflight) s.dummyBuf
      | some next =>
          obtain ⟨p, rx⟩ := next
          cases p with
          | user address => exact inv_busy h hrunning (running_receive hbusy hstep hflight) s.dummyBuf
          | dummyBuf index => exact inv_busy h hrunning (running_receive hbusy hstep hflight) _

theorem inv_interrupt (h : Inv ahead s) (modeFault : Bool) : Inv ahead (s.interrupt modeFault) := by
  unfold State.interrupt
  cases hrunning : s.driver.running with
  | none => exact h
  | some t =>
      have hbusy := h.busy t hrunning
      have hflagged := running_flagged hbusy
      dsimp only
      cases hstate : (flagged s.driver).transferState modeFault false with
      | none =>
          rw [spiInterruptHandler_of_none hbusy hstate]
          exact inv_busy h hrunning hflagged s.dummyBuf
      | some state =>
          rw [spiInterruptHandler_of_some hbusy hstate]
          refine ⟨fun _ => rfl, fun t' hfalse => (by cases hfalse), ?_, fun c hc hsuccess => ?_⟩
          · have honce := h.once
            rw [hrunning] at honce
            show s.started = (s.completions ++ [_]).map Completion.transfer ++ []
            rw [honce, List.map_append, List.append_nil]
            rfl
          · rcases List.mem_append.mp hc with hold | hnew
            · exact h.done c hold hsuccess
            · obtain rfl := List.mem_singleton.mp hnew
              obtain rfl : state = .spiSuccess := hsuccess
              have hdone := done_of_success hflagged hstate
              have hsent : (flagged s.driver).sent = s.driver.sent := by rw [flagged, handleEndFlags_eq]
              have hreceived : (flagged s.driver).received = s.driver.received := by
                rw [flagged, handleEndFlags_eq]
              rwa [hsent, hreceived] at hdone

theorem inv_step (e : Event) (s : State) (h : Inv ahead s) (hfits : EventFits ahead e s) :
    Inv ahead (step ahead e s) := by
  cases e with
  | start t => exact inv_start h hfits
  | transmit => exact inv_transmit h hfits
  | receive reply => exact inv_receive h reply
  | interrupt modeFault => exact inv_interrupt h modeFault

theorem served_of_inv (h : Inv ahead s) : Served s where
  once := h.once
  done := h.done
  rest := by
    intro hrunning hdone hflight
    obtain ⟨t, ht⟩ := Option.ne_none_iff_exists'.mp hrunning
    exact rest_running (h.busy t ht) hdone hflight

/-! ## Transfers do not depend on those before them -/

/-- The same driver, with zeros for what the dummy buffer holds from earlier transfers. -/
structure Fresh (s f : State) : Prop where
  driver : f.driver = s.driver
  dummyBuf : ∀ index, f.dummyBuf index = s.dummyBuf index ∨ f.dummyBuf index = 0

theorem start_congr (t : Transfer) {d e : Driver} (hinFlight : d.inFlight = e.inFlight)
    (hnext : t.second = none → d.nextInternalReception = e.nextInternalReception) :
    d.start t = e.start t := by
  cases hsecond : t.second with
  | none =>
      rw [start_of_none hsecond, start_of_none hsecond]
      unfold Driver.nonBlockingTransfer Driver.resetDmaRegs
      simp only [hinFlight, hnext hsecond]
  | some p =>
      rw [start_of_some hsecond, start_of_some hsecond]
      unfold Driver.addSecondTransfer Driver.nonBlockingTransfer Driver.resetDmaRegs
      simp only [hinFlight]

/-- A start finds nothing of the transfers before it. -/
theorem fresh_start (hfits : EventFits ahead (.start t) s) :
    Fresh (step ahead (.start t) s) (step ahead (.start t) .initial) where
  driver := by
    obtain ⟨-, hflight, hstart⟩ := hfits
    exact start_congr t hflight.symm fun hsecond => (startFits_next hstart hsecond).symm
  dummyBuf := fun _ => Or.inr rfl

theorem fresh_transmit {f : State} (h : Fresh s f) (hfits : EventFits ahead .transmit s) :
    Fresh (s.transmit ahead) (f.transmit ahead) := by
  have hsends : f.sends ahead = s.sends ahead := by
    unfold State.sends
    rw [h.driver]
  unfold State.transmit
  rw [hsends]
  cases hnext : s.sends ahead with
  | none => exact h
  | some next =>
      obtain ⟨p, tx⟩ := next
      have hread : f.read p = s.read p := by
        cases p with
        | user address => rfl
        | dummyBuf index =>
            have hzero := hfits index tx hnext
            refine congrArg Sent.byte ?_
            rcases h.dummyBuf index with hsame | hfresh
            · exact hsame
            · rw [hzero, hfresh]
      refine ⟨?_, h.dummyBuf⟩
      dsimp only
      rw [hread, h.driver]

theorem fresh_receive {f : State} (h : Fresh s f) (reply : UInt8) :
    Fresh (s.receive reply) (f.receive reply) := by
  unfold State.receive
  rw [h.driver]
  split
  · exact h
  · dsimp only
    split
    · split
      · exact ⟨rfl, h.dummyBuf⟩
      · exact ⟨rfl, h.dummyBuf⟩
      · refine ⟨rfl, fun i => ?_⟩
        dsimp only
        split
        · exact Or.inl rfl
        · exact h.dummyBuf i
    · exact ⟨rfl, h.dummyBuf⟩

theorem fresh_interrupt {f : State} (h : Fresh s f) (modeFault : Bool) :
    Fresh (s.interrupt modeFault) (f.interrupt modeFault) := by
  unfold State.interrupt
  rw [h.driver]
  split
  · exact h
  · dsimp only
    split <;> exact ⟨rfl, h.dummyBuf⟩

theorem fresh_step {f : State} (e : Event) (hnot : ∀ t, e ≠ .start t) (h : Fresh s f)
    (hfits : EventFits ahead e s) : Fresh (step ahead e s) (step ahead e f) := by
  cases e with
  | start t => exact absurd rfl (hnot t)
  | transmit => exact fresh_transmit h hfits
  | receive reply => exact fresh_receive h reply
  | interrupt modeFault => exact fresh_interrupt h modeFault

theorem fresh_run : ∀ (own : List Event) (s f : State), (∀ e ∈ own, ∀ t, e ≠ .start t) → Fresh s f →
    AlongRun (EventFits ahead) (step ahead) own s →
      Fresh (run (step ahead) own s) (run (step ahead) own f) := by
  intro own
  induction own with
  | nil => exact fun _ _ _ h _ => h
  | cons e own ih =>
      intro s f hown h hfits
      exact ih _ _ (fun e' he' => hown e' (List.mem_cons_of_mem _ he'))
        (fresh_step e (hown e List.mem_cons_self) h hfits.1) hfits.2

/-- **Non-blocking transfers.** If every transfer fits what the driver holds from the one before it, is
    started when that one's bytes are out, and sends nothing but zeros from the dummy buffer, then at
    every point of the run the transfers are served, and none of them depends on those before it. -/
theorem transfers_served (ahead : Nat) (events : List Event)
    (h : AlongRun (EventFits ahead) (step ahead) events .initial) :
    (∀ reached, reached <+: events → Served (run (step ahead) reached .initial)) ∧
      Independent ahead events := by
  constructor
  · intro reached hreached
    obtain ⟨rest, rfl⟩ := hreached
    exact served_of_inv (run_invariant inv_step reached _ inv_initial (alongRun_append.mp h).1)
  · intro pre t own hprefix hown
    obtain ⟨rest, rfl⟩ := hprefix
    have hfits := (alongRun_append.mp (alongRun_append.mp h).1).2
    rw [run_append, run_cons, run_cons]
    exact (fresh_run own _ _ hown (fresh_start hfits.1) hfits.2).driver.symm

/-- A command and the zeros that fetch its reply, a command with data, and two bytes that are answered
    while they are sent. -/
def threeTransfers : List Event :=
  [.start ⟨100, some 300, 1, by decide, by decide, some ⟨none, some 200, 1, by decide, by decide⟩⟩, .transmit,
    .transmit, .receive 7, .receive 8, .interrupt false,
    .start ⟨100, some 300, 1, by decide, by decide, some ⟨some 600, some 200, 2, by decide, by decide⟩⟩,
    .transmit, .interrupt false, .transmit, .receive 7, .transmit, .receive 8, .receive 9, .interrupt false,
    .start ⟨400, some 500, 2, by decide, by decide, none⟩, .transmit, .receive 9, .transmit, .interrupt false,
    .receive 10, .interrupt false]

/-- The three transfers end once each, as successes. -/
theorem three_transfers_served :
    (run (step 2) threeTransfers .initial).completions.map Completion.state =
        [.spiSuccess, .spiSuccess, .spiSuccess] ∧
      (∀ reached, reached <+: threeTransfers → Served (run (step 2) reached .initial)) ∧
        Independent 2 threeTransfers := by
  refine ⟨by decide, transfers_served 2 threeTransfers ?_⟩
  refine ⟨⟨rfl, rfl, by decide, by decide, by decide⟩, fun _ _ h => (by cases h),
    fun index tx h => (by cases h; rfl), trivial, trivial, trivial, ?_⟩
  refine ⟨⟨rfl, rfl, by decide, by decide, by decide⟩, fun _ _ h => (by cases h), trivial,
    fun _ _ h => (by cases h), trivial, fun _ _ h => (by cases h), trivial, trivial, trivial, ?_⟩
  exact ⟨⟨rfl, rfl, by decide, nofun⟩, fun _ _ h => (by cases h), trivial, fun _ _ h => (by cases h), trivial,
    trivial, trivial, trivial⟩

/-- A transfer whose replies are not wanted in the second phase, and one of a single byte behind it: it
    is called a success before its reply was received. -/
theorem success_without_reply :
    ¬ ∀ (ahead : Nat) (events : List Event), AlongRun StartsApart (step ahead) events .initial →
      (∀ reached, reached <+: events → Served (run (step ahead) reached .initial)) ∧
        Independent ahead events := by
  intro h
  have hserved := (h 2
    [.start ⟨100, none, 1, by decide, by decide, some ⟨some 200, none, 1, by decide, by decide⟩⟩, .transmit,
      .transmit, .interrupt false, .receive 0, .receive 0,
      .start ⟨300, some 400, 1, by decide, by decide, none⟩, .transmit, .interrupt false]
    (by decide)).1 _ (List.prefix_refl _)
  have hdone := hserved.done ⟨⟨300, some 400, 1, by decide, by decide, none⟩, .spiSuccess, [.user 300], []⟩
    (by decide) rfl
  exact absurd (hdone.received 0) (by decide)

end At91Spi
end Obsw
