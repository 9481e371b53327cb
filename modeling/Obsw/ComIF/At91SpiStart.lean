import Obsw.ComIF.At91Spi

/-!
# `ComIF.At91SpiStart` — what the start of a transfer programs

What was sent and what is programmed to be sent is one list, and so is where the replies were put and
where they are to be put. `Running` is what a driver keeps of them while it serves a transfer, and a
transfer that fits begins with it (`running_start`).
-/

namespace Obsw
namespace At91Spi

open Loop DmaChannel

/-! ## A transfer under way -/

/-- What an address is read as, where the dummy buffer holds zeros. -/
def Pointer.shape : Pointer → Sent
  | .user address => .user address
  | .dummyBuf _ => .byte 0

/-- The place in the user's memory, if it is one. -/
def Pointer.place : Pointer → Option Nat
  | .user address => some address
  | .dummyBuf _ => none

namespace Driver

/-- What was sent and what is programmed to be sent. -/
def txAll (d : Driver) : List Sent := d.sent ++ (d.tx.pending .succ).map Pointer.shape

/-- Where the replies were put and where they are to be put. -/
def rxAll (d : Driver) : List (Option Nat) := d.received ++ (d.rx.pending .succ).map Pointer.place

end Driver

variable {ahead : Nat} {t : Transfer} {d : Driver} {s : State}

/-- The driver while it serves a transfer. -/
structure Running (ahead : Nat) (t : Transfer) (d : Driver) : Prop where
  running : d.running = some t
  enabled : d.enabled = true
  flight : d.sent.length = d.received.length + d.inFlight
  bounded : d.inFlight ≤ ahead
  txSettled : d.tx.Settled
  rxSettled : d.rx.Settled
  txPlan : ∀ i, i < t.total → ∀ x, d.txAll[i]? = some x → x = t.requested i
  txFirst : t.transferLen ≤ d.txAll.length
  txLong : t.reception ≠ .readOnly → t.total ≤ d.txAll.length
  rxPlan : ∀ i, d.rxAll[i]?.join = t.wanted i
  rxLong : t.reception = .readOnly → t.total ≤ d.rxAll.length
  rxShort : t.reception = .writeAndRead → d.rx.pending .succ ≠ [] → d.rxAll.length ≤ t.total
  early : t.reception = .writeOnly → ∀ i, t.wanted i ≠ none → i + ahead < t.total
  next : d.nextInternalReception = t.reception
  current : d.txFinished = true ∨ d.rxFinished = true → d.currentInternalReception = t.reception
  txDone : d.txFinished = true → t.reception ≠ .readOnly → d.tx.pending .succ = []
  rxDone : d.rxFinished = true → t.reception ≠ .writeOnly → d.rx.pending .succ = []
  overrun : d.overrun = true → d.rx.pending .succ = []

/-! ## Programmed blocks -/

theorem succ_iterate_user (address i : Nat) : Pointer.succ^[i] (.user address) = .user (address + i) := by
  induction i generalizing address with
  | zero => rfl
  | succ i ih => rw [Function.iterate_succ_apply, Pointer.succ, ih, Nat.add_assoc, Nat.add_comm 1]

theorem succ_iterate_dummyBuf (index i : Nat) :
    Pointer.succ^[i] (.dummyBuf index) = .dummyBuf (index + i) := by
  induction i generalizing index with
  | zero => rfl
  | succ i ih => rw [Function.iterate_succ_apply, Pointer.succ, ih, Nat.add_assoc, Nat.add_comm 1]

theorem getElem?_map_block {α : Type} (f : Pointer → α) (p : Pointer) (n i : Nat) :
    ((Channel.block Pointer.succ p n).map f)[i]? =
      if i < n then some (f (Pointer.succ^[i] p)) else none := by
  rw [List.getElem?_map, Channel.getElem?_block]
  split <;> rfl

/-- The first block that is programmed for the replies. -/
def firstRecv (t : Transfer) : Pointer × Nat :=
  match t.recvBuf with
  | none => (.dummyBuf 0, if t.transferLen < spiDummyBufferSize then t.transferLen else spiDummyBufferSize)
  | some recvBuf => (.user recvBuf, t.transferLen)

theorem firstRecv_pos (t : Transfer) : 0 < (firstRecv t).2 := by
  have hpos := t.pos
  unfold firstRecv spiDummyBufferSize
  split
  · dsimp only
    split <;> omega
  · exact hpos

theorem nonBlockingTransfer_rx (t : Transfer) (d : Driver) :
    (d.nonBlockingTransfer t).rx.pointer = (firstRecv t).1 ∧
      (d.nonBlockingTransfer t).rx.count = (firstRecv t).2 := by
  have hpos := t.pos
  unfold Driver.nonBlockingTransfer firstRecv
  cases t.recvBuf with
  | some recvBuf => exact Channel.current_setCurrent _ hpos
  | none =>
      dsimp only
      split
      · exact Channel.current_setCurrent_setNext _ _ hpos _
      · exact Channel.current_setCurrent_setNext _ _ (by decide) _

theorem start_of_none (hsecond : t.second = none) (d : Driver) :
    d.start t = { d.nonBlockingTransfer t with enabled := true } := by
  unfold Driver.start
  rw [hsecond]

theorem start_of_some {p : SecondTransfer} (hsecond : t.second = some p) (d : Driver) :
    d.start t = (d.nonBlockingTransfer t).addSecondTransfer p := by
  unfold Driver.start
  rw [hsecond]

/-- The blocks of a second phase. -/
theorem start_pending_of_some {p : SecondTransfer} (hsecond : t.second = some p) (d : Driver) :
    (d.start t).tx.pending .succ = Channel.block .succ (.user t.sendBuf) t.transferLen ++
        Channel.block .succ (Driver.bufferOf p.sendBuf p.transferLen).1
          (Driver.bufferOf p.sendBuf p.transferLen).2 ∧
      (d.start t).rx.pending .succ = Channel.block .succ (firstRecv t).1 (firstRecv t).2 ++
        Channel.block .succ (Driver.bufferOf p.recvBuf p.transferLen).1
          (Driver.bufferOf p.recvBuf p.transferLen).2 := by
  obtain ⟨hpointer, hcount⟩ := nonBlockingTransfer_rx t d
  rw [start_of_some hsecond]
  refine ⟨Channel.pending_setCurrent_setNext _ _ t.pos _, (Channel.pending_setNext ..).trans ?_⟩
  rw [hpointer, hcount]

/-- The blocks of a single phase: there is a second dummy block for long replies that nobody wants. -/
theorem start_pending_of_none (hsecond : t.second = none) (d : Driver) :
    (d.start t).tx.pending .succ = Channel.block .succ (.user t.sendBuf) t.transferLen ∧
      (d.start t).rx.pending .succ = Channel.block .succ (firstRecv t).1 (firstRecv t).2 ++
        if t.recvBuf = none ∧ spiDummyBufferSize ≤ t.transferLen then
          Channel.block .succ (.dummyBuf 0) spiDummyBufferSize
        else [] := by
  rw [start_of_none hsecond]
  refine ⟨Channel.pending_setCurrent_reset .., ?_⟩
  have hpos := t.pos
  dsimp only [Driver.nonBlockingTransfer]
  unfold firstRecv
  cases t.recvBuf with
  | some recvBuf =>
      dsimp only
      rw [if_neg (fun hand => Option.some_ne_none _ hand.1), List.append_nil]
      exact Channel.pending_setCurrent_reset ..
  | none =>
      dsimp only
      by_cases hshort : t.transferLen < spiDummyBufferSize
      · rw [if_pos hshort, if_pos hshort, if_neg (fun hand => absurd hand.2 (Nat.not_le.mpr hshort)),
          Channel.pending_setCurrent_setNext _ _ hpos]
        rfl
      · rw [if_neg hshort, if_neg hshort, if_pos ⟨rfl, Nat.not_lt.mp hshort⟩,
          Channel.pending_setCurrent_setNext _ _ (by decide)]

theorem start_fields (t : Transfer) (d : Driver) :
    (d.start t).running = some t ∧ (d.start t).enabled = true ∧ (d.start t).sent = [] ∧
      (d.start t).received = [] ∧ (d.start t).inFlight = d.inFlight ∧ (d.start t).overrun = false ∧
      (d.start t).txFinished = false ∧ (d.start t).rxFinished = false := by
  cases hsecond : t.second with
  | none =>
      rw [start_of_none hsecond]
      exact ⟨rfl, rfl, rfl, rfl, rfl, rfl, rfl, rfl⟩
  | some p =>
      rw [start_of_some hsecond]
      exact ⟨rfl, rfl, rfl, rfl, rfl, rfl, rfl, rfl⟩

theorem bufferOf_pos (buf : Option Nat) {n : Nat} (hn : 0 < n) : 0 < (Driver.bufferOf buf n).2 := by
  unfold Driver.bufferOf spiDummyBufferSize
  cases buf with
  | none =>
      dsimp only
      split <;> omega
  | some address => exact hn

/-! ## The start of a transfer -/

theorem settled_start (t : Transfer) (d : Driver) :
    (d.start t).tx.Settled ∧ (d.start t).rx.Settled := by
  have hpos := t.pos
  cases hsecond : t.second with
  | none =>
      rw [start_of_none hsecond]
      refine ⟨Channel.settled_setCurrent _ hpos, fun hzero => ?_⟩
      have hcount := (nonBlockingTransfer_rx t d).2
      have hfirst := firstRecv_pos t
      rw [show (d.nonBlockingTransfer t).rx.count = 0 from hzero] at hcount
      omega
  | some p =>
      rw [start_of_some hsecond]
      have hpos' := fun buf => bufferOf_pos buf p.pos
      exact ⟨Channel.settled_setNext _ (hpos' _), Channel.settled_setNext _ (hpos' _)⟩

theorem start_next (t : Transfer) {d : Driver}
    (hnext : t.second = none → d.nextInternalReception = .writeAndRead) :
    (d.start t).nextInternalReception = t.reception := by
  unfold Transfer.reception
  cases hsecond : t.second with
  | none =>
      rw [start_of_none hsecond]
      exact hnext hsecond
  | some p =>
      rw [start_of_some hsecond]
      rfl

theorem startFits_next (hfits : StartFits ahead t d.nextInternalReception) :
    t.second = none → d.nextInternalReception = .writeAndRead := by
  intro hsecond
  unfold StartFits at hfits
  rw [hsecond] at hfits
  exact hfits.1

/-- The pointer of a buffer: to the dummy buffer where there is none. -/
def PointsTo (p : Pointer) (buf : Option Nat) : Prop :=
  match buf with
  | none => ∃ index, p = .dummyBuf index
  | some address => p = .user address

theorem pointsTo_firstRecv (t : Transfer) : PointsTo (firstRecv t).1 t.recvBuf := by
  unfold PointsTo firstRecv
  cases t.recvBuf with
  | none => exact ⟨0, rfl⟩
  | some recvBuf => rfl

theorem pointsTo_bufferOf (buf : Option Nat) (n : Nat) : PointsTo (Driver.bufferOf buf n).1 buf := by
  unfold PointsTo Driver.bufferOf
  cases buf with
  | none => exact ⟨0, rfl⟩
  | some address => rfl

theorem places_block {p : Pointer} {buf : Option Nat} (h : PointsTo p buf) (n i : Nat) :
    (((Channel.block Pointer.succ p n).map Pointer.place)[i]?).join =
      if i < n then buf.map (· + i) else none := by
  rw [getElem?_map_block]
  by_cases hi : i < n
  · rw [if_pos hi, if_pos hi, Option.join_some]
    cases buf with
    | none =>
        obtain ⟨index, rfl⟩ := h
        rw [succ_iterate_dummyBuf]
        rfl
    | some address =>
        obtain rfl := h
        rw [succ_iterate_user]
        rfl
  · rw [if_neg hi, if_neg hi]
    rfl

theorem shapes_block {p : Pointer} {buf : Option Nat} (h : PointsTo p buf) (n i : Nat) :
    ((Channel.block Pointer.succ p n).map Pointer.shape)[i]? =
      if i < n then some (match buf with | none => .byte 0 | some address => .user (address + i))
      else none := by
  rw [getElem?_map_block]
  split
  · cases buf with
    | none =>
        obtain ⟨index, rfl⟩ := h
        rw [succ_iterate_dummyBuf]
        rfl
    | some address =>
        obtain rfl := h
        rw [succ_iterate_user]
        rfl
  · rfl

theorem length_bufferOf {buf : Option Nat} {n : Nat} (h : buf ≠ none ∨ n ≤ spiDummyBufferSize) :
    (Driver.bufferOf buf n).2 = n := by
  unfold Driver.bufferOf
  cases buf with
  | some address => rfl
  | none =>
      have hle := h.resolve_left (fun hne => hne rfl)
      dsimp only
      split <;> omega

theorem length_firstRecv (h : t.recvBuf ≠ none ∨ t.transferLen ≤ spiDummyBufferSize) :
    (firstRecv t).2 = t.transferLen := by
  unfold firstRecv
  cases hrecv : t.recvBuf with
  | some recvBuf => rfl
  | none =>
      have hle := h.resolve_left (fun hne => hne hrecv)
      dsimp only
      split <;> omega

/-- Replies that are put into the dummy buffer have no place in the user's memory. -/
theorem places_dummy {p : Pointer} (h : PointsTo p none) (n i : Nat) :
    (((Channel.block Pointer.succ p n).map Pointer.place)[i]?).join = none := by
  rw [places_block h, Option.map_none, ite_self]

theorem rxPlan_start (hfits : StartFits ahead t d.nextInternalReception) (i : Nat) :
    ((d.start t).rxAll[i]?).join = t.wanted i := by
  have hreceived : (d.start t).received = [] := (start_fields t d).2.2.2.1
  have hfirst := places_block (pointsTo_firstRecv t) (firstRecv t).2
  unfold StartFits at hfits
  unfold Driver.rxAll Transfer.wanted Transfer.total
  rw [hreceived, List.nil_append]
  cases hsecond : t.second with
  | none =>
      rw [(start_pending_of_none hsecond d).2, List.map_append, List.getElem?_append, List.length_map,
        Channel.length_block, apply_ite Option.join, hfirst]
      cases hrecv : t.recvBuf with
      | some recvBuf =>
          have hcond : ¬ (some recvBuf = none ∧ spiDummyBufferSize ≤ t.transferLen) :=
            fun hand => Option.some_ne_none _ hand.1
          rw [length_firstRecv (Or.inl (by rw [hrecv]; exact Option.some_ne_none _)), if_neg hcond]
          by_cases hi : i < t.transferLen
          · rw [if_pos hi, if_pos hi, if_pos hi]
          · rw [if_neg hi, if_neg hi]
            exact (ite_self none).symm
      | none =>
          rw [Option.map_none, Option.bind_none, Option.map_none, ite_self, ite_self, ite_self]
          split
          · rfl
          · split
            · exact places_dummy ⟨0, rfl⟩ _ _
            · rfl
  | some p =>
      rw [hsecond] at hfits
      obtain ⟨hfull, -, -⟩ := hfits
      rw [(start_pending_of_some hsecond d).2, List.map_append, List.getElem?_append, List.length_map,
        Channel.length_block, apply_ite Option.join, hfirst, places_block (pointsTo_bufferOf _ _)]
      rw [Option.bind_some]
      by_cases hboth : t.recvBuf = none ∧ p.recvBuf = none
      · simp only [hboth.1, hboth.2, Option.map_none, ite_self]
      · have hlength : (firstRecv t).2 = t.transferLen := by
          apply length_firstRecv
          by_cases hrecv : t.recvBuf = none
          · exact Or.inr (hfull hrecv fun hnone => hboth ⟨hrecv, hnone⟩)
          · exact Or.inl hrecv
        rw [hlength]
        by_cases hi : i < t.transferLen
        · rw [if_pos hi, if_pos hi, if_pos hi]
        · rw [if_neg hi, if_neg hi]
          cases hrecv : p.recvBuf with
          | none => rw [Option.map_none, ite_self, ite_self]
          | some address =>
              rw [length_bufferOf (Or.inl (Option.some_ne_none _))]
              have hiff : i - t.transferLen < p.transferLen ↔ i < t.transferLen + p.transferLen := by omega
              simp only [hiff]

theorem length_txAll_start (d : Driver) :
    (d.start t).txAll.length = t.transferLen + match t.second with
      | none => 0
      | some p => (Driver.bufferOf p.sendBuf p.transferLen).2 := by
  have hsent : (d.start t).sent = [] := (start_fields t d).2.2.1
  unfold Driver.txAll
  rw [hsent, List.nil_append, List.length_map]
  cases hsecond : t.second with
  | none => rw [(start_pending_of_none hsecond d).1, Channel.length_block, Nat.add_zero]
  | some p =>
      rw [(start_pending_of_some hsecond d).1, List.length_append, Channel.length_block,
        Channel.length_block]

theorem txPlan_start (t : Transfer) (d : Driver) (i : Nat) (x : Sent)
    (hx : (d.start t).txAll[i]? = some x) : x = t.requested i := by
  have hsent : (d.start t).sent = [] := (start_fields t d).2.2.1
  have hfirst := shapes_block (show PointsTo (.user t.sendBuf) (some t.sendBuf) from rfl) t.transferLen
  unfold Driver.txAll at hx
  unfold Transfer.requested
  rw [hsent, List.nil_append] at hx
  cases hsecond : t.second with
  | none =>
      rw [(start_pending_of_none hsecond d).1, hfirst] at hx
      by_cases hi : i < t.transferLen
      · rw [if_pos hi] at hx ⊢
        exact (Option.some.inj hx).symm
      · rw [if_neg hi] at hx
        cases hx
  | some p =>
      rw [(start_pending_of_some hsecond d).1, List.map_append, List.getElem?_append, List.length_map,
        Channel.length_block, hfirst, shapes_block (pointsTo_bufferOf _ _)] at hx
      by_cases hi : i < t.transferLen
      · rw [if_pos hi, if_pos hi] at hx
        rw [if_pos hi]
        exact (Option.some.inj hx).symm
      · rw [if_neg hi] at hx ⊢
        split at hx
        · obtain rfl := Option.some.inj hx
          rw [Option.bind_some]
          cases p.sendBuf <;> rfl
        · cases hx

theorem reception_of_some {p : SecondTransfer} (hsecond : t.second = some p) :
    t.reception = p.internalReception := by
  rw [Transfer.reception, hsecond]

/-- What the second phase is like, by what is left for the handler. -/
theorem second_of_reception (t : Transfer) :
    (t.reception = .readOnly → ∃ p, t.second = some p ∧ p.sendBuf = none ∧ p.recvBuf ≠ none) ∧
      (t.reception = .writeOnly → ∃ p, t.second = some p ∧ p.recvBuf = none) ∧
      (t.reception = .writeAndRead → ∀ p, t.second = some p → p.sendBuf ≠ none ∧ p.recvBuf ≠ none) := by
  unfold Transfer.reception
  cases hsecond : t.second with
  | none => exact ⟨fun h => (by cases h), fun h => (by cases h), fun _ p h => (by cases h)⟩
  | some p =>
      unfold SecondTransfer.internalReception
      dsimp only
      cases hrecv : p.recvBuf with
      | none =>
          exact ⟨fun h => (by cases h), fun _ => ⟨p, rfl, hrecv⟩, fun h => (by cases h)⟩
      | some recvBuf =>
          cases hsend : p.sendBuf with
          | none =>
              refine ⟨fun _ => ⟨p, rfl, hsend, ?_⟩, fun h => (by cases h), fun h => (by cases h)⟩
              rw [hrecv]
              exact Option.some_ne_none _
          | some sendBuf =>
              refine ⟨fun h => (by cases h), fun h => (by cases h), fun _ q hq => ?_⟩
              obtain rfl := Option.some.inj hq
              rw [hsend, hrecv]
              exact ⟨Option.some_ne_none _, Option.some_ne_none _⟩

theorem txLong_start (hfits : StartFits ahead t d.nextInternalReception) (hnot : t.reception ≠ .readOnly) :
    t.total ≤ (d.start t).txAll.length := by
  rw [length_txAll_start]
  unfold Transfer.total
  unfold StartFits at hfits
  cases hsecond : t.second with
  | none => exact Nat.le_refl _
  | some p =>
      rw [hsecond] at hfits
      have hlength : (Driver.bufferOf p.sendBuf p.transferLen).2 = p.transferLen := by
        apply length_bufferOf
        by_cases hsend : p.sendBuf = none
        · right
          refine hfits.2.1 ?_ hsend
          by_contra hrecv
          apply hnot
          rw [reception_of_some hsecond, SecondTransfer.internalReception, hsend]
          cases hp : p.recvBuf with
          | none => exact absurd hp hrecv
          | some recvBuf => rfl
        · exact Or.inl hsend
      exact Nat.le_of_eq (congrArg (t.transferLen + ·) hlength).symm

theorem length_rxAll_start_of_some {p : SecondTransfer} (hsecond : t.second = some p) (d : Driver) :
    (d.start t).rxAll.length = (firstRecv t).2 + (Driver.bufferOf p.recvBuf p.transferLen).2 := by
  have hreceived : (d.start t).received = [] := (start_fields t d).2.2.2.1
  unfold Driver.rxAll
  rw [hreceived, List.nil_append, List.length_map, (start_pending_of_some hsecond d).2, List.length_append,
    Channel.length_block, Channel.length_block]

theorem total_of_some {p : SecondTransfer} (hsecond : t.second = some p) :
    t.total = t.transferLen + p.transferLen := by
  rw [Transfer.total, hsecond]

/-- Where the replies of a second phase are wanted, the receive channel is as long as the transfer. -/
theorem length_rxAll_start_of_wanted (hfits : StartFits ahead t d.nextInternalReception)
    {p : SecondTransfer} (hsecond : t.second = some p) (hrecv : p.recvBuf ≠ none) :
    (d.start t).rxAll.length = t.total := by
  unfold StartFits at hfits
  rw [hsecond] at hfits
  have hfirst : (firstRecv t).2 = t.transferLen := by
    apply length_firstRecv
    by_cases hfirst : t.recvBuf = none
    · exact Or.inr (hfits.1 hfirst hrecv)
    · exact Or.inl hfirst
  rw [length_rxAll_start_of_some hsecond, total_of_some hsecond, hfirst, length_bufferOf (Or.inl hrecv)]

theorem rxShort_start (hfits : StartFits ahead t d.nextInternalReception)
    (hreception : t.reception = .writeAndRead) : (d.start t).rxAll.length ≤ t.total := by
  have hreceived : (d.start t).received = [] := (start_fields t d).2.2.2.1
  cases hsecond : t.second with
  | some p =>
      have hp := (second_of_reception t).2.2 hreception p hsecond
      exact Nat.le_of_eq (length_rxAll_start_of_wanted hfits hsecond hp.2)
  | none =>
      unfold StartFits at hfits
      rw [hsecond] at hfits
      unfold Driver.rxAll Transfer.total
      rw [hreceived, List.nil_append, List.length_map, (start_pending_of_none hsecond d).2,
        List.length_append, Channel.length_block, hsecond]
      unfold firstRecv
      cases hrecv : t.recvBuf with
      | some recvBuf =>
          have hcond : ¬ (some recvBuf = none ∧ spiDummyBufferSize ≤ t.transferLen) :=
            fun hand => Option.some_ne_none _ hand.1
          rw [if_neg hcond]
          exact Nat.le_refl _
      | none =>
          have hlong := hfits.2 hrecv
          dsimp only
          split
          · rw [if_neg (by omega)]
            exact Nat.le_refl _
          · rw [if_pos ⟨rfl, by omega⟩, Channel.length_block]
            omega

theorem early_start (hfits : StartFits ahead t d.nextInternalReception)
    (hreception : t.reception = .writeOnly) (i : Nat) (hwanted : t.wanted i ≠ none) :
    i + ahead < t.total := by
  obtain ⟨p, hsecond, hrecv⟩ := (second_of_reception t).2.1 hreception
  unfold StartFits at hfits
  rw [hsecond] at hfits
  have hfirst : i < t.transferLen ∧ t.recvBuf ≠ none := by
    unfold Transfer.wanted at hwanted
    rw [hsecond, Option.bind_some, hrecv, Option.map_none, ite_self] at hwanted
    by_cases hi : i < t.transferLen
    · rw [if_pos hi] at hwanted
      refine ⟨hi, fun hnone => hwanted ?_⟩
      rw [hnone, Option.map_none]
    · rw [if_neg hi] at hwanted
      exact absurd rfl hwanted
  have hahead := hfits.2.2 hrecv hfirst.2
  rw [total_of_some hsecond]
  omega

/-- A transfer that fits is served from its start on. -/
theorem running_start (hflight : d.inFlight = 0) (hfits : StartFits ahead t d.nextInternalReception) :
    Running ahead t (d.start t) := by
  obtain ⟨hrunning, henabled, hsent, hreceived, hinFlight, hoverrun, htx, hrx⟩ := start_fields t d
  have hsettled := settled_start t d
  exact {
    running := hrunning
    enabled := henabled
    flight := by
      rw [hsent, hreceived, hinFlight, hflight]
      rfl
    bounded := by
      rw [hinFlight, hflight]
      exact Nat.zero_le _
    txSettled := hsettled.1
    rxSettled := hsettled.2
    txPlan := fun i _ x hx => txPlan_start t d i x hx
    txFirst := by
      rw [length_txAll_start]
      exact Nat.le_add_right _ _
    txLong := txLong_start hfits
    rxPlan := rxPlan_start hfits
    rxLong := by
      intro hreception
      obtain ⟨p, hsecond, -, hrecv⟩ := (second_of_reception t).1 hreception
      exact Nat.le_of_eq (length_rxAll_start_of_wanted hfits hsecond hrecv).symm
    rxShort := fun hreception _ => rxShort_start hfits hreception
    early := early_start hfits
    next := start_next t (startFits_next hfits)
    current := by
      intro hfinished
      rw [htx, hrx] at hfinished
      rcases hfinished with hfalse | hfalse <;> cases hfalse
    txDone := by
      intro hfinished
      rw [htx] at hfinished
      cases hfinished
    rxDone := by
      intro hfinished
      rw [hrx] at hfinished
      cases hfinished
    overrun := by
      intro hlost
      rw [hoverrun] at hlost
      cases hlost }

end At91Spi
end Obsw
