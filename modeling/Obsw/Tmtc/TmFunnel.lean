import Mathlib.Data.List.Nodup
import Obsw.Boot.Check
import Obsw.Lib.Loop
import Obsw.Lib.SlotStore

/-!
# `Tmtc.TmFunnel` — the funnel of the telemetry

`TmFunnel::performOperation` and `TmFunnel::handlePacket`. A telemetry packet lies in the TM store, and a
message with its address goes to the funnel, from there to the downlink, and to the storage destination
if there is one. The downlink deletes the packet.

The functions are also cut into steps at the calls they make (`Funnel`), with the steps of the other tasks
between them. `performOperation_run` is the run without any.
-/

namespace Obsw
namespace TmFunnel

open Loop

/-- What the funnel uses of the framework: how a packet takes its sequence count and its checksum. -/
structure Framework where
  limitSequenceCount : Nat
  setPacketSequenceCount : Nat → List UInt8 → List UInt8
  setErrorControl : List UInt8 → List UInt8

/-- The codes of the store, for an address without an entry, and of a queue that is not sent to. -/
inductive Code where
  | dataDoesNotExist
  | sendFailed (code : Nat)
  deriving DecidableEq, Repr

abbrev Entry := SlotStore.Entry (List UInt8)

/-- `TmTcMessage`: the address of the packet. The number of the entry it was sent for is kept beside. -/
structure TmTcMessage where
  storageId : Nat
  packet : Nat
  deriving DecidableEq, Repr

/-- A message at the downlink, with what the store had at its address when it was sent. -/
structure Delivered where
  message : TmTcMessage
  entry : Option Entry
  deriving DecidableEq, Repr

/-- The TM store, the queue of the funnel with its counter, and the messages the downlink still has to
    handle. Kept beside: the packets a destination has received, and those the funnel has deleted. -/
structure System where
  tmStore : SlotStore (List UInt8)
  tmQueue : List TmTcMessage
  sourceSequenceCount : Nat
  downlink : List Delivered
  received : List Nat
  deleted : List Nat

/-- What the calls of `sendToDefault` return for a packet. `none` is `RETURN_OK`. -/
structure PacketOutcome where
  downlink : Option Code
  storage : Option Code

/-! ## The calls -/

/-- The packet gets its sequence count and its checksum. -/
def System.stamp (fw : Framework) (m : TmTcMessage) (s : System) : System :=
  { s with
    tmStore := s.tmStore.modify m.storageId
      (fw.setErrorControl ∘ fw.setPacketSequenceCount s.sourceSequenceCount)
    sourceSequenceCount := (s.sourceSequenceCount + 1) % 2 ^ 16 % fw.limitSequenceCount }

/-- The message is sent to the downlink. -/
def System.sendToDownlink (m : TmTcMessage) (s : System) : System :=
  { s with
    downlink := s.downlink ++ [⟨m, s.tmStore.slots m.storageId⟩]
    received := m.packet :: s.received }

/-- The message is sent to the storage destination. -/
def System.sendToStorage (m : TmTcMessage) (s : System) : System :=
  { s with received := m.packet :: s.received }

/-- `tmPool->deleteData`, by the funnel. -/
def System.deleteData (m : TmTcMessage) (s : System) : System :=
  { s with
    tmStore := s.tmStore.delete m.storageId
    deleted := ((s.tmStore.slots m.storageId).map SlotStore.Entry.id).toList ++ s.deleted }

/-- A task stores a packet at a free address and sends its message to the funnel. -/
def System.telemetry (storageId : Nat) (data : List UInt8) (s : System) : System :=
  if s.tmStore.slots storageId = none then
    { s with
      tmStore := s.tmStore.add storageId data
      tmQueue := s.tmQueue ++ [⟨storageId, s.tmStore.next⟩] }
  else s

/-- The downlink handles its oldest message and deletes the packet. -/
def System.handleDownlink (s : System) : System :=
  match s.downlink with
  | [] => s
  | d :: rest => { s with tmStore := s.tmStore.delete d.message.storageId, downlink := rest }

/-! ## `TmFunnel` -/

section Source

variable (fw : Framework) (storageDestination : Bool)

/-- `handlePacket`, with or without a storage destination. -/
def handlePacket (o : PacketOutcome) (m : TmTcMessage) (s : System) : Option Code × System :=
  if s.tmStore.slots m.storageId = none then (some .dataDoesNotExist, s)
  else
    match o.downlink with
    | some result => (some result, (s.stamp fw m).deleteData m)
    | none =>
      if storageDestination then
        match o.storage with
        | some result => (some result, ((s.stamp fw m).sendToDownlink m).deleteData m)
        | none => (none, ((s.stamp fw m).sendToDownlink m).sendToStorage m)
      else (none, (s.stamp fw m).sendToDownlink m)

/-- The loop of `performOperation`: the first packet that is not sent ends it. -/
def handlePackets (outcomes : Nat → PacketOutcome) : List TmTcMessage → System → Option Code × System
  | [],         s => (none, { s with tmQueue := [] })
  | m :: queue, s =>
    match handlePacket fw storageDestination (outcomes 0) m { s with tmQueue := queue } with
    | (some result, s') => (some result, s')
    | (none, s') => handlePackets (fun n => outcomes (n + 1)) queue s'

/-- `performOperation`. A queue that is empty is no error. -/
def performOperation (outcomes : Nat → PacketOutcome) (s : System) : Option Code × System :=
  handlePackets fw storageDestination outcomes s.tmQueue s

end Source

/-! ## The steps -/

/-- The call the funnel makes next. -/
inductive Pc where
  | idle
  | receiveMessage
  | modifyData (m : TmTcMessage)
  | sendToDownlink (m : TmTcMessage)
  | sendToStorage (m : TmTcMessage)
  | deleteData (m : TmTcMessage)
  deriving DecidableEq

/-- The funnel between two of its calls. -/
structure Funnel where
  pc : Pc
  system : System

/-- A step of another task, or the next step of the funnel, with what a send returns. -/
inductive Event where
  | telemetry (storageId : Nat) (data : List UInt8)
  | downlink
  | funnel (result : Option Code)

section Steps

variable (fw : Framework) (storageDestination : Bool)

/-- The next step of the funnel. -/
def Funnel.advance (result : Option Code) (s : Funnel) : Funnel :=
  match s.pc with
  | .idle => { s with pc := .receiveMessage }
  | .receiveMessage =>
    match s.system.tmQueue with
    | [] => { s with pc := .idle }
    | m :: queue => ⟨.modifyData m, { s.system with tmQueue := queue }⟩
  | .modifyData m =>
    if s.system.tmStore.slots m.storageId = none then { s with pc := .idle }
    else ⟨.sendToDownlink m, s.system.stamp fw m⟩
  | .sendToDownlink m =>
    match result with
    | some _ => { s with pc := .deleteData m }
    | none =>
      ⟨if storageDestination then .sendToStorage m else .receiveMessage, s.system.sendToDownlink m⟩
  | .sendToStorage m =>
    match result with
    | some _ => { s with pc := .deleteData m }
    | none => ⟨.receiveMessage, s.system.sendToStorage m⟩
  | .deleteData m => ⟨.idle, s.system.deleteData m⟩

def Funnel.step : Event → Funnel → Funnel
  | .telemetry storageId data, s => { s with system := s.system.telemetry storageId data }
  | .downlink,                 s => { s with system := s.system.handleDownlink }
  | .funnel result,            s => s.advance fw storageDestination result

end Steps

/-- Without steps of other tasks, a packet takes the funnel through `handlePacket`. -/
theorem handlePacket_run (fw : Framework) (storageDestination : Bool) (o : PacketOutcome)
    (m : TmTcMessage) (s : System) :
    ∃ results : List (Option Code),
      run (Funnel.step fw storageDestination) (results.map .funnel) ⟨.modifyData m, s⟩ =
        match handlePacket fw storageDestination o m s with
        | (some _, s') => ⟨.idle, s'⟩
        | (none, s') => ⟨.receiveMessage, s'⟩ := by
  by_cases hentry : s.tmStore.slots m.storageId = none
  · refine ⟨[none], ?_⟩
    simp [handlePacket, Funnel.step, Funnel.advance, hentry]
  · obtain ⟨downlink, storage⟩ := o
    cases downlink with
    | some result =>
        refine ⟨[none, some result, none], ?_⟩
        simp [handlePacket, Funnel.step, Funnel.advance, hentry]
    | none =>
        cases storageDestination with
        | false =>
            refine ⟨[none, none], ?_⟩
            simp [handlePacket, Funnel.step, Funnel.advance, hentry]
        | true =>
            cases storage with
            | some result =>
                refine ⟨[none, none, some result, none], ?_⟩
                simp [handlePacket, Funnel.step, Funnel.advance, hentry]
            | none =>
                refine ⟨[none, none, none], ?_⟩
                simp [handlePacket, Funnel.step, Funnel.advance, hentry]

theorem handlePacket_tmQueue (fw : Framework) (storageDestination : Bool) (o : PacketOutcome)
    (m : TmTcMessage) (s : System) :
    (handlePacket fw storageDestination o m s).2.tmQueue = s.tmQueue := by
  unfold handlePacket
  split
  · rfl
  · split
    · rfl
    · split
      · split <;> rfl
      · rfl

/-- **The steps are those of the source.** Without steps of other tasks in between, the funnel goes from
    idle to idle through `performOperation`. -/
theorem performOperation_run (fw : Framework) (storageDestination : Bool)
    (outcomes : Nat → PacketOutcome) (s : System) :
    ∃ results : List (Option Code),
      run (Funnel.step fw storageDestination) (results.map .funnel) ⟨.idle, s⟩ =
        ⟨.idle, (performOperation fw storageDestination outcomes s).2⟩ := by
  have hloop : ∀ (queue : List TmTcMessage) (outcomes : Nat → PacketOutcome) (s : System),
      s.tmQueue = queue →
      ∃ results : List (Option Code),
        run (Funnel.step fw storageDestination) (results.map .funnel) ⟨.receiveMessage, s⟩ =
          ⟨.idle, (handlePackets fw storageDestination outcomes queue s).2⟩ := by
    intro queue
    induction queue with
    | nil =>
        intro outcomes s hqueue
        refine ⟨[none], ?_⟩
        rw [List.map_singleton, run_cons, run_nil, Funnel.step, Funnel.advance, handlePackets]
        simp only [hqueue]
        rw [← hqueue]
    | cons m queue ih =>
        intro outcomes s hqueue
        obtain ⟨results, hpacket⟩ :=
          handlePacket_run fw storageDestination (outcomes 0) m { s with tmQueue := queue }
        have hreceive : Funnel.step fw storageDestination (.funnel none) ⟨.receiveMessage, s⟩ =
            ⟨.modifyData m, { s with tmQueue := queue }⟩ := by
          simp [Funnel.step, Funnel.advance, hqueue]
        cases hhandled : handlePacket fw storageDestination (outcomes 0) m
            { s with tmQueue := queue } with
        | mk status s' =>
            rw [hhandled] at hpacket
            cases status with
            | some result =>
                refine ⟨none :: results, ?_⟩
                rw [List.map_cons, run_cons, hreceive, hpacket, handlePackets, hhandled]
            | none =>
                have hkept : s'.tmQueue = queue := by
                  have hsame := handlePacket_tmQueue fw storageDestination (outcomes 0) m
                    { s with tmQueue := queue }
                  rwa [hhandled] at hsame
                obtain ⟨results', hrest⟩ := ih (fun n => outcomes (n + 1)) s' hkept
                refine ⟨none :: results ++ results', ?_⟩
                rw [List.map_append, run_append, List.map_cons, run_cons, hreceive, hpacket,
                  handlePackets, hhandled]
                exact hrest
  obtain ⟨results, hrun⟩ := hloop s.tmQueue outcomes s rfl
  refine ⟨none :: results, ?_⟩
  rw [List.map_cons, run_cons]
  exact hrun

/-! ## Who owns a packet -/

/-- What is promised of the packets: what the downlink still has to handle is in the store as it was sent,
    and the funnel deletes an entry at most once, and none that a destination has received. -/
structure Kept (s : System) : Prop where
  inStore : ∀ d ∈ s.downlink, ∃ e, d.entry = some e ∧ e.id = d.message.packet ∧
    s.tmStore.Holds d.message.storageId e
  once : s.deleted.Nodup
  unreceived : ∀ packet ∈ s.deleted, packet ∉ s.received

/-- No send to the storage destination fails. It takes place behind a send to the downlink that works. -/
def EventGood (e : Event) (s : Funnel) : Prop :=
  match e, s.pc with
  | .funnel result, .sendToStorage _ => result = none
  | _, _ => True

/-- The message the funnel has in its hands and has not delivered. -/
def Pc.message : Pc → Option TmTcMessage
  | .modifyData m => some m
  | .sendToDownlink m => some m
  | .deleteData m => some m
  | _ => none

/-- The messages that have not been delivered. -/
def Funnel.waiting (s : Funnel) : List TmTcMessage := s.pc.message.toList ++ s.system.tmQueue

/-- The invariant: each message that waits, and each at the downlink, has an entry of its own, and what
    the funnel has deleted was never received and is not live any more. -/
structure Owned (waiting : List TmTcMessage) (s : System) : Prop where
  live : ∀ m ∈ waiting, s.tmStore.Live m.storageId m.packet
  inStore : ∀ d ∈ s.downlink, ∃ e, d.entry = some e ∧ e.id = d.message.packet ∧
    s.tmStore.Holds d.message.storageId e
  nodup : ((waiting ++ s.downlink.map Delivered.message).map TmTcMessage.packet).Nodup
  received_lt : ∀ packet ∈ s.received, packet < s.tmStore.next
  not_received : ∀ m ∈ waiting, m.packet ∉ s.received
  deleted_lt : ∀ packet ∈ s.deleted, packet < s.tmStore.next
  deleted_not_live : ∀ packet ∈ s.deleted, ∀ a, ¬ s.tmStore.Live a packet
  deleted_not_received : ∀ packet ∈ s.deleted, packet ∉ s.received
  deleted_nodup : s.deleted.Nodup

namespace Owned

variable {waiting : List TmTcMessage} {m m' : TmTcMessage} {s : System}

theorem kept (h : Owned waiting s) : Kept s := ⟨h.inStore, h.deleted_nodup, h.deleted_not_received⟩

/-- The queue of the funnel matters for what waits only. -/
theorem tmQueue (h : Owned waiting s) (queue : List TmTcMessage) :
    Owned waiting { s with tmQueue := queue } :=
  ⟨h.live, h.inStore, h.nodup, h.received_lt, h.not_received, h.deleted_lt, h.deleted_not_live,
    h.deleted_not_received, h.deleted_nodup⟩

/-- Every message that waits or is at the downlink has its entry. -/
theorem live_of_mem (h : Owned waiting s) (hm : m ∈ waiting ++ s.downlink.map Delivered.message) :
    s.tmStore.Live m.storageId m.packet := by
  rcases List.mem_append.mp hm with hm | hm
  · exact h.live m hm
  · obtain ⟨d, hd, rfl⟩ := List.mem_map.mp hm
    obtain ⟨e, _, hid, hholds⟩ := h.inStore d hd
    exact hid ▸ hholds.live

/-- Messages for different packets have different addresses. -/
theorem storageId_ne (h : s.tmStore.Live m.storageId m.packet)
    (h' : s.tmStore.Live m'.storageId m'.packet) (hne : m.packet ≠ m'.packet) :
    m.storageId ≠ m'.storageId := fun heq => hne ((heq ▸ h).id_unique h')

/-- Deleting the entry of one message leaves the entries of the others alone. -/
theorem delete (h : Owned waiting s) (hlive : s.tmStore.Live m.storageId m.packet)
    {waiting' : List TmTcMessage} {downlink : List Delivered}
    (hwaiting : waiting'.Sublist waiting) (hdownlink : downlink.Sublist s.downlink)
    (hwaits : ∀ w ∈ waiting', w.packet ≠ m.packet)
    (hdelivered : ∀ d ∈ downlink, d.message.packet ≠ m.packet) :
    Owned waiting' { s with tmStore := s.tmStore.delete m.storageId, downlink := downlink } where
  live := fun w hw =>
    (h.live w (hwaiting.subset hw)).delete
      (storageId_ne (h.live w (hwaiting.subset hw)) hlive (hwaits w hw))
  inStore := by
    intro d hd
    obtain ⟨e, hentry, hid, hholds⟩ := h.inStore d (hdownlink.subset hd)
    exact ⟨e, hentry, hid, hholds.delete (storageId_ne (hid ▸ hholds.live) hlive (hdelivered d hd))⟩
  nodup := h.nodup.sublist ((hwaiting.append (hdownlink.map _)).map _)
  received_lt := h.received_lt
  not_received := fun w hw => h.not_received w (hwaiting.subset hw)
  deleted_lt := h.deleted_lt
  deleted_not_live := fun packet hp a hlive =>
    h.deleted_not_live packet hp a (SlotStore.live_of_delete hlive).1
  deleted_not_received := h.deleted_not_received
  deleted_nodup := h.deleted_nodup

/-- The downlink deletes the packet of its oldest message. -/
theorem handleDownlink (h : Owned waiting s) : Owned waiting s.handleDownlink := by
  unfold System.handleDownlink
  cases hdownlink : s.downlink with
  | nil => exact h
  | cons d rest =>
      have hnodup := h.nodup
      rw [hdownlink, List.map_cons, List.map_append, List.map_cons] at hnodup
      obtain ⟨_, hrest, hdisjoint⟩ := List.nodup_append.mp hnodup
      have hmem : d.message ∈ waiting ++ s.downlink.map Delivered.message := by
        rw [hdownlink]
        exact List.mem_append_right _ List.mem_cons_self
      refine h.delete (h.live_of_mem hmem) (List.Sublist.refl _) ?_ ?_ ?_
      · rw [hdownlink]
        exact List.sublist_cons_self d rest
      · intro w hw
        exact hdisjoint _ (List.mem_map_of_mem hw) _ List.mem_cons_self
      · intro d' hd' heq
        apply (List.nodup_cons.mp hrest).1
        rw [← heq]
        exact List.mem_map_of_mem (List.mem_map_of_mem hd')

/-- The funnel deletes the packet of a message it has not delivered. -/
theorem deleteData (h : Owned (m :: waiting) s) : Owned waiting (s.deleteData m) := by
  have hlive := h.live m List.mem_cons_self
  have hnot := h.not_received m List.mem_cons_self
  have hnodup := h.nodup
  rw [List.cons_append, List.map_cons] at hnodup
  obtain ⟨hfresh, _⟩ := List.nodup_cons.mp hnodup
  have hother : ∀ w ∈ waiting ++ s.downlink.map Delivered.message, w.packet ≠ m.packet :=
    fun w hw heq => hfresh (heq ▸ List.mem_map_of_mem hw)
  have hrest := h.delete hlive (List.sublist_cons_self m waiting) (List.Sublist.refl s.downlink)
    (fun w hw => hother w (List.mem_append_left _ hw))
    (fun d hd => hother _ (List.mem_append_right _ (List.mem_map_of_mem hd)))
  obtain ⟨data, hentry⟩ := hlive
  have hdeleted : (s.deleteData m).deleted = m.packet :: s.deleted := by
    rw [SlotStore.Holds] at hentry
    rw [System.deleteData, hentry]
    rfl
  refine ⟨hrest.live, hrest.inStore, hrest.nodup, hrest.received_lt, hrest.not_received, ?_, ?_, ?_,
    ?_⟩
  · rw [hdeleted]
    exact List.forall_mem_cons.mpr ⟨s.tmStore.id_lt hentry, hrest.deleted_lt⟩
  · rw [hdeleted]
    exact List.forall_mem_cons.mpr
      ⟨fun a => SlotStore.not_live_delete ⟨data, hentry⟩, hrest.deleted_not_live⟩
  · rw [hdeleted]
    exact List.forall_mem_cons.mpr ⟨hnot, hrest.deleted_not_received⟩
  · rw [hdeleted]
    exact List.nodup_cons.mpr
      ⟨fun hmem => h.deleted_not_live _ hmem _ ⟨data, hentry⟩, hrest.deleted_nodup⟩

theorem tmStore_stamp (fw : Framework) (m : TmTcMessage) (s : System) :
    (s.stamp fw m).tmStore = s.tmStore.modify m.storageId
      (fw.setErrorControl ∘ fw.setPacketSequenceCount s.sourceSequenceCount) := rfl

/-- A packet that waits is not at the downlink, so its stamp changes none that is. -/
theorem stamp (h : Owned waiting s) (hm : m ∈ waiting) (fw : Framework) :
    Owned waiting (s.stamp fw m) where
  live := by
    intro w hw
    rw [tmStore_stamp, SlotStore.live_modify]
    exact h.live w hw
  inStore := by
    intro d hd
    obtain ⟨e, hentry, hid, hholds⟩ := h.inStore d hd
    have hne : d.message.packet ≠ m.packet := by
      have hnodup := h.nodup
      rw [List.map_append] at hnodup
      exact fun heq => (List.nodup_append.mp hnodup).2.2 _ (List.mem_map_of_mem hm) _
        (List.mem_map_of_mem (List.mem_map_of_mem hd)) heq.symm
    rw [tmStore_stamp]
    exact ⟨e, hentry, hid, hholds.modify (storageId_ne (hid ▸ hholds.live) (h.live m hm) hne)⟩
  nodup := h.nodup
  received_lt := h.received_lt
  not_received := h.not_received
  deleted_lt := h.deleted_lt
  deleted_not_live := by
    intro packet hp a
    rw [tmStore_stamp, SlotStore.live_modify]
    exact h.deleted_not_live packet hp a
  deleted_not_received := h.deleted_not_received
  deleted_nodup := h.deleted_nodup

/-- A packet that is sent to the downlink belongs to it. -/
theorem sendToDownlink (h : Owned (m :: waiting) s) : Owned waiting (s.sendToDownlink m) := by
  obtain ⟨data, hholds⟩ := h.live m List.mem_cons_self
  have hdownlink : (s.sendToDownlink m).downlink = s.downlink ++ [⟨m, some ⟨m.packet, data⟩⟩] :=
    congrArg (fun entry => s.downlink ++ [Delivered.mk m entry]) hholds
  have hnodup := h.nodup
  rw [List.cons_append, List.map_cons] at hnodup
  obtain ⟨hfresh, _⟩ := List.nodup_cons.mp hnodup
  refine ⟨fun w hw => h.live w (List.mem_cons_of_mem _ hw), ?_, ?_, ?_, ?_, h.deleted_lt,
    h.deleted_not_live, ?_, h.deleted_nodup⟩
  · intro d hd
    rw [hdownlink] at hd
    rcases List.mem_append.mp hd with hd | hd
    · exact h.inStore d hd
    · obtain rfl := List.mem_singleton.mp hd
      exact ⟨_, rfl, rfl, hholds⟩
  · have hsplit : waiting ++ (s.sendToDownlink m).downlink.map Delivered.message =
        (waiting ++ s.downlink.map Delivered.message) ++ [m] := by
      rw [hdownlink, List.map_append, ← List.append_assoc]
      rfl
    rw [hsplit, List.map_append]
    exact (List.perm_append_singleton _ _).nodup_iff.mpr hnodup
  · exact List.forall_mem_cons.mpr ⟨s.tmStore.id_lt hholds, h.received_lt⟩
  · intro w hw hmem
    rcases List.mem_cons.mp hmem with heq | hmem
    · exact hfresh (heq ▸ List.mem_map_of_mem (List.mem_append_left _ hw))
    · exact h.not_received w (List.mem_cons_of_mem _ hw) hmem
  · intro packet hp hmem
    rcases List.mem_cons.mp hmem with rfl | hmem
    · exact h.deleted_not_live _ hp _ ⟨data, hholds⟩
    · exact h.deleted_not_received packet hp hmem

/-- The storage destination gets a message that the downlink has had. -/
theorem sendToStorage (h : Owned waiting s) (hm : m.packet ∈ s.received) :
    Owned waiting (s.sendToStorage m) where
  live := h.live
  inStore := h.inStore
  nodup := h.nodup
  received_lt := List.forall_mem_cons.mpr ⟨h.received_lt _ hm, h.received_lt⟩
  not_received := fun w hw hmem =>
    (List.mem_cons.mp hmem).elim (fun heq => h.not_received w hw (heq ▸ hm)) (h.not_received w hw)
  deleted_lt := h.deleted_lt
  deleted_not_live := h.deleted_not_live
  deleted_not_received := fun packet hp hmem =>
    (List.mem_cons.mp hmem).elim (fun heq => h.deleted_not_received packet hp (heq ▸ hm))
      (h.deleted_not_received packet hp)
  deleted_nodup := h.deleted_nodup

/-- A packet that is stored has a number of its own. -/
theorem add {storageId : Nat} (data : List UInt8) (h : Owned waiting s)
    (hfree : s.tmStore.slots storageId = none) :
    Owned (waiting ++ [⟨storageId, s.tmStore.next⟩])
      { s with tmStore := s.tmStore.add storageId data } := by
  refine ⟨?_, ?_, ?_, fun packet hp => Nat.lt_succ_of_lt (h.received_lt packet hp), ?_,
    fun packet hp => Nat.lt_succ_of_lt (h.deleted_lt packet hp), ?_, h.deleted_not_received,
    h.deleted_nodup⟩
  · intro w hw
    rcases List.mem_append.mp hw with hw | hw
    · exact (h.live w hw).add hfree
    · obtain rfl := List.mem_singleton.mp hw
      exact ⟨data, SlotStore.holds_add⟩
  · intro d hd
    obtain ⟨e, hentry, hid, hholds⟩ := h.inStore d hd
    exact ⟨e, hentry, hid, hholds.add hfree⟩
  · -- the number of the new packet is above those of all others
    have hfresh : s.tmStore.next ∉
        (waiting ++ s.downlink.map Delivered.message).map TmTcMessage.packet := by
      intro hmem
      obtain ⟨w, hw, heq⟩ := List.mem_map.mp hmem
      exact Nat.lt_irrefl _ (heq ▸ (h.live_of_mem hw).lt_next)
    have hperm : List.Perm (waiting ++ [⟨storageId, s.tmStore.next⟩] ++
          s.downlink.map Delivered.message)
        (⟨storageId, s.tmStore.next⟩ :: (waiting ++ s.downlink.map Delivered.message)) := by
      rw [List.append_assoc, List.singleton_append]
      exact List.perm_middle
    apply (hperm.map TmTcMessage.packet).nodup_iff.mpr
    rw [List.map_cons]
    exact List.nodup_cons.mpr ⟨hfresh, h.nodup⟩
  · intro w hw hmem
    rcases List.mem_append.mp hw with hw | hw
    · exact h.not_received w hw hmem
    · obtain rfl := List.mem_singleton.mp hw
      exact Nat.lt_irrefl _ (h.received_lt _ hmem)
  · intro packet hp a hlive
    rcases SlotStore.live_of_add hlive with rfl | hlive
    · exact Nat.lt_irrefl _ (h.deleted_lt _ hp)
    · exact h.deleted_not_live packet hp a hlive

end Owned

/-! ## Runs -/

/-- The invariant of the funnel. A message on its way to the storage destination has been delivered. -/
structure FunnelOwned (s : Funnel) : Prop where
  owned : Owned s.waiting s.system
  delivered : ∀ m, s.pc = .sendToStorage m → m.packet ∈ s.system.received

/-- The funnel with nothing stored and nothing sent. -/
def Funnel.initial : Funnel := ⟨.idle, ⟨.empty, [], 0, [], [], []⟩⟩

theorem funnelOwned_initial : FunnelOwned .initial where
  owned := ⟨by simp [Funnel.waiting, Funnel.initial, Pc.message], by simp [Funnel.initial],
    by simp [Funnel.waiting, Funnel.initial, Pc.message], by simp [Funnel.initial],
    by simp [Funnel.initial], by simp [Funnel.initial], by simp [Funnel.initial],
    by simp [Funnel.initial], by simp [Funnel.initial]⟩
  delivered := fun m hpc => by cases hpc

/-- The next step of the funnel keeps the invariant, unless a send to the storage destination fails. -/
theorem funnelOwned_advance {s : Funnel} {result : Option Code} (fw : Framework)
    (storageDestination : Bool) (h : FunnelOwned s) (hgood : EventGood (.funnel result) s) :
    FunnelOwned (s.advance fw storageDestination result) := by
  obtain ⟨pc, s⟩ := s
  have howned := h.owned
  cases pc with
  | idle => exact ⟨howned, fun m hpc => by cases hpc⟩
  | receiveMessage =>
      cases hqueue : s.tmQueue with
      | nil =>
          rw [Funnel.advance]
          simp only [hqueue]
          exact ⟨howned, fun m hpc => by cases hpc⟩
      | cons m queue =>
          rw [Funnel.advance]
          simp only [hqueue]
          refine ⟨?_, fun m hpc => by cases hpc⟩
          have hwaiting : Funnel.waiting ⟨.receiveMessage, s⟩ = m :: queue := hqueue
          rw [hwaiting] at howned
          exact howned.tmQueue queue
  | modifyData m =>
      have hlive := howned.live m List.mem_cons_self
      have hentry : s.tmStore.slots m.storageId ≠ none := by
        obtain ⟨data, hholds⟩ := hlive
        rw [hholds]
        exact Option.some_ne_none _
      rw [Funnel.advance]
      simp only [if_neg hentry]
      exact ⟨howned.stamp List.mem_cons_self fw, fun m hpc => by cases hpc⟩
  | sendToDownlink m =>
      cases result with
      | some code => exact ⟨howned, fun m hpc => by cases hpc⟩
      | none =>
          have hsent : Owned s.tmQueue (s.sendToDownlink m) := howned.sendToDownlink
          cases storageDestination with
          | false => exact ⟨hsent, fun m hpc => by cases hpc⟩
          | true =>
              refine ⟨hsent, fun m' hpc => ?_⟩
              obtain rfl : m = m' := by simpa [Funnel.advance] using hpc
              exact List.mem_cons_self
  | sendToStorage m =>
      obtain rfl : result = none := hgood
      exact ⟨howned.sendToStorage (h.delivered m rfl), fun m hpc => by cases hpc⟩
  | deleteData m =>
      have hdeleted : Owned s.tmQueue (s.deleteData m) := howned.deleteData
      exact ⟨hdeleted, fun m hpc => by cases hpc⟩

theorem funnelOwned_step {e : Event} {s : Funnel} (fw : Framework) (storageDestination : Bool)
    (h : FunnelOwned s) (hgood : EventGood e s) :
    FunnelOwned (s.step fw storageDestination e) := by
  cases e with
  | funnel result => exact funnelOwned_advance fw storageDestination h hgood
  | downlink =>
      have hqueue : s.system.handleDownlink.tmQueue = s.system.tmQueue := by
        unfold System.handleDownlink
        split <;> rfl
      have hreceived : s.system.handleDownlink.received = s.system.received := by
        unfold System.handleDownlink
        split <;> rfl
      constructor
      · have hhandled := h.owned.handleDownlink
        rw [Funnel.waiting, ← hqueue] at hhandled
        exact hhandled
      · intro m hpc
        rw [Funnel.step]
        dsimp only
        rw [hreceived]
        exact h.delivered m hpc
  | telemetry storageId data =>
      by_cases hfree : s.system.tmStore.slots storageId = none
      · have hadd := h.owned.add data hfree
        rw [Funnel.step, System.telemetry, if_pos hfree]
        refine ⟨?_, h.delivered⟩
        rw [Funnel.waiting, ← List.append_assoc]
        exact hadd.tmQueue _
      · rw [Funnel.step, System.telemetry, if_neg hfree]
        exact h

/-- **Ownership of telemetry packets.** In every run in which no send to the storage destination fails, a
    packet that was delivered to the downlink stays in the store until the downlink deletes it, and the
    funnel deletes no entry twice and none that a destination has received. -/
theorem run_kept (fw : Framework) (storageDestination : Bool) (events : List Event)
    (hgood : AlongRun EventGood (Funnel.step fw storageDestination) events .initial) :
    ∀ reached, reached <+: events →
      Kept (run (Funnel.step fw storageDestination) reached .initial).system := by
  rintro reached ⟨rest, rfl⟩
  exact (run_invariant (fun e s h hgood => funnelOwned_step fw storageDestination h hgood) reached _
    funnelOwned_initial (alongRun_append.mp hgood).1).owned.kept

/-- The packets of the framework: 14 bits of the header are the sequence count, and the last two bytes are
    a checksum of the others. -/
def spacePackets : Framework where
  limitSequenceCount := 2 ^ 14
  setPacketSequenceCount := fun count data =>
    (data.modify 2 fun byte => (byte &&& 0xC0) ||| UInt8.ofNat (count % 2 ^ 14 / 2 ^ 8)).set 3
      (UInt8.ofNat count)
  setErrorControl := fun data =>
    let crc := Boot.crc16ccittDefaultStartCrc (data.take (data.length - 2))
    data.take (data.length - 2) ++ [(crc >>> 8).toUInt8, crc.toUInt8]

/-- A packet is stored and sent to both destinations; another one, for which there is no place at the
    downlink, is deleted, and the downlink handles the first. -/
def oneRefused : List Event :=
  [.telemetry 7 [0x08, 0, 0xC0, 0, 0, 1, 0, 0], .telemetry 3 [0x08, 0, 0xC0, 0, 0, 1, 0, 0],
    .funnel none, .funnel none, .funnel none, .funnel none, .funnel none, .funnel none, .funnel none,
    .funnel (some (.sendFailed 4)), .funnel none, .downlink]

theorem oneRefused_kept :
    AlongRun EventGood (Funnel.step spacePackets true) oneRefused .initial ∧
      Kept (run (Funnel.step spacePackets true) oneRefused .initial).system := by
  have hgood : AlongRun EventGood (Funnel.step spacePackets true) oneRefused .initial :=
    ⟨trivial, trivial, trivial, trivial, trivial, trivial, rfl, trivial, trivial, trivial, trivial,
      trivial, trivial⟩
  exact ⟨hgood, run_kept spacePackets true oneRefused hgood oneRefused (List.prefix_refl _)⟩

/-- A packet is delivered to the downlink, and the storage destination has no place for it. -/
def storageFull : List Event :=
  [.telemetry 7 [0x08, 0, 0xC0, 0, 0, 1, 0, 0], .funnel none, .funnel none, .funnel none, .funnel none,
    .funnel (some (.sendFailed 4)), .funnel none]

/-- **A packet that the downlink has still to handle is deleted by the funnel.** -/
theorem storageFull_deletes :
    (run (Funnel.step spacePackets true) storageFull .initial).system.downlink.map
        (fun d => d.message) = [⟨7, 0⟩] ∧
      (run (Funnel.step spacePackets true) storageFull .initial).system.tmStore.slots 7 = none ∧
      (run (Funnel.step spacePackets true) storageFull .initial).system.deleted = [0] ∧
      (run (Funnel.step spacePackets true) storageFull .initial).system.received = [0] ∧
      ¬ Kept (run (Funnel.step spacePackets true) storageFull .initial).system := by
  refine ⟨rfl, rfl, rfl, rfl, fun h => ?_⟩
  exact h.unreceived 0 (List.mem_singleton_self _) (List.mem_singleton_self _)

end TmFunnel
end Obsw
