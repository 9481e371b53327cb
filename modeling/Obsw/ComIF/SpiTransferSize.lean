import Mathlib.Logic.Function.Basic
import Obsw.Lib.Loop

/-!
# `ComIF.SpiTransferSize` — the sizes of the SPI transfers

`SpiDeviceComIF` once more, by its sizes: `initializeInterface` registers a reply buffer for the address
of a cookie, and `sendMessage` queues a transfer of as many bytes as there are to send, which the driver
receives into that buffer. Nothing compares the two, and an address that is registered again gets a
buffer of another size under the transfers that are queued. `run_sizesFit_iff` says what the callers have
to see to.
-/

namespace Obsw
namespace SpiTransferSize

open Loop

/-- A cookie by its number. -/
abbrev CookieId := Nat

/-- `address_t` -/
abbrev Address := Nat

/-- What an `SpiCookie` holds for the sizes. -/
structure SpiCookie where
  spiAddress : Address
  maxReplyLen : Nat
  transferLen : Nat
  deriving DecidableEq, Repr

/-- `SpiStruct`, with the size of the reply buffer. -/
structure SpiStruct where
  spiCookie : CookieId
  spiReplyBuffer : Nat
  deriving DecidableEq, Repr

/-- `SPItransfer`. The bytes that come back are written into the reply buffer of an address. -/
structure SpiTransfer where
  readData : Address
  writeData : List UInt8
  transferSize : Nat
  deriving DecidableEq, Repr

/-- The return values other than `RETURN_OK`. -/
inductive Code where
  | nullpointer
  | returnFailed
  | spiInvalidAddress
  deriving DecidableEq, Repr

/-- The interface, with its cookies and the queue of the driver. -/
structure Interface where
  cookies : CookieId → SpiCookie
  spiMap : Address → Option SpiStruct
  queue : List SpiTransfer

/-- The object addresses `SPI_Test_PT1000`, `SPI_Test_Gyro`, `SPI_Test_MGM` and `SPI_ARDUINO_0` to
    `SPI_ARDUINO_4`. -/
def spiAddresses : List Address :=
  [0x44115000, 0x44115001, 0x44115002, 0x01010100, 0x01010101, 0x01010102, 0x01010103, 0x01010104]

/-- `checkAddress`. -/
def checkAddress (spiAddress : Address) : Option Code :=
  if spiAddress ∈ spiAddresses then none else some .spiInvalidAddress

/-- `initializeInterface`. An address that is in the map already has its buffer resized and its cookie
    replaced, which is the same as a new entry. -/
def initializeInterface (cookie : Option CookieId) (s : Interface) : Option Code × Interface :=
  match cookie with
  | none => (some .nullpointer, s)
  | some c =>
    let spiCookie := s.cookies c
    match checkAddress spiCookie.spiAddress with
    | some result => (some result, s)
    | none =>
      match s.spiMap spiCookie.spiAddress with
      | none =>
        (none, { s with
          spiMap := Function.update s.spiMap spiCookie.spiAddress (some ⟨c, spiCookie.maxReplyLen⟩) })
      | some registered =>
        (none, { s with
          spiMap := Function.update s.spiMap spiCookie.spiAddress
            (some { registered with spiReplyBuffer := spiCookie.maxReplyLen, spiCookie := c }) })

/-- `setTransferLen`. -/
def setTransferLen (c : CookieId) (transferLen : Nat) (s : Interface) : Interface :=
  { s with cookies := Function.update s.cookies c { s.cookies c with transferLen := transferLen } }

/-- `prepareSpiTransfer`. The length is noted in the cookie that is registered, which need not be the one
    of the call. -/
def prepareSpiTransfer (spiAddress : Address) (registered : SpiStruct) (sendData : List UInt8)
    (s : Interface) : SpiTransfer × Interface :=
  (⟨spiAddress, sendData, sendData.length⟩, setTransferLen registered.spiCookie sendData.length s)

/-- `sendMessage`, with the result of `SPI_queueTransfer`. -/
def sendMessage (cookie : Option CookieId) (sendData : List UInt8) (driverResult : Int) (s : Interface) :
    Option Code × Interface :=
  match cookie with
  | none => (some .returnFailed, s)
  | some c =>
    let spiAddress := (s.cookies c).spiAddress
    match s.spiMap spiAddress with
    | none => (some .returnFailed, s)
    | some registered =>
      let (spiTransfer, s') := prepareSpiTransfer spiAddress registered sendData s
      (none, if driverResult = 0 then { s' with queue := s'.queue ++ [spiTransfer] } else s')

/-- `requestReceiveMessage`: every send is a read as well. -/
def requestReceiveMessage (_cookie : Option CookieId) (_requestLen : Nat) (s : Interface) :
    Option Code × Interface := (none, s)

/-- The driver is through with the transfer at the head of its queue. -/
def driverStep (s : Interface) : Interface := { s with queue := s.queue.tail }

/-! ## Runs -/

inductive Event where
  | initializeInterface (cookie : Option CookieId)
  | setTransferLen (c : CookieId) (transferLen : Nat)
  | sendMessage (cookie : Option CookieId) (sendData : List UInt8) (driverResult : Int)
  | requestReceiveMessage (cookie : Option CookieId) (requestLen : Nat)
  | finish

def step : Event → Interface → Interface
  | .initializeInterface cookie, s => (initializeInterface cookie s).2
  | .setTransferLen c transferLen, s => setTransferLen c transferLen s
  | .sendMessage cookie sendData driverResult, s => (sendMessage cookie sendData driverResult s).2
  | .requestReceiveMessage cookie requestLen, s => (requestReceiveMessage cookie requestLen s).2
  | .finish, s => driverStep s

/-- These cookies have been made, and none is registered. -/
def Interface.initial (cookies : CookieId → SpiCookie) : Interface := ⟨cookies, fun _ => none, []⟩

/-- A transfer is as long as the buffer registered for its address at the most. -/
def Interface.Holds (s : Interface) (t : SpiTransfer) : Prop :=
  ∃ registered, s.spiMap t.readData = some registered ∧ t.transferSize ≤ registered.spiReplyBuffer

/-- The transfers that are queued fit into their buffers. -/
def Interface.SizesFit (s : Interface) : Prop := ∀ t ∈ s.queue, s.Holds t

/-- A send is not longer than the buffer of its address, and an address is not given a buffer that is
    shorter than a transfer queued for it. -/
def SizeGood (e : Event) (s : Interface) : Prop :=
  match e with
  | .initializeInterface (some c) =>
    (s.cookies c).spiAddress ∈ spiAddresses →
      ∀ t ∈ s.queue, t.readData = (s.cookies c).spiAddress →
        t.transferSize ≤ (s.cookies c).maxReplyLen
  | .sendMessage (some c) sendData driverResult =>
    driverResult = 0 → ∀ registered, s.spiMap (s.cookies c).spiAddress = some registered →
      sendData.length ≤ registered.spiReplyBuffer
  | .initializeInterface none => True
  | .sendMessage none _ _ => True
  | .setTransferLen _ _ => True
  | .requestReceiveMessage _ _ => True
  | .finish => True

/-! ## One event -/

section Step

variable {s : Interface} {c : CookieId}

/-- The entry is the same whether or not there was one. -/
theorem initializeInterface_some (c : CookieId) (s : Interface) :
    (initializeInterface (some c) s).2 =
      if (s.cookies c).spiAddress ∈ spiAddresses then
        { s with
          spiMap := Function.update s.spiMap (s.cookies c).spiAddress
            (some ⟨c, (s.cookies c).maxReplyLen⟩) }
      else s := by
  unfold initializeInterface checkAddress
  dsimp only
  by_cases hdesignated : (s.cookies c).spiAddress ∈ spiAddresses
  · rw [if_pos hdesignated, if_pos hdesignated]
    dsimp only
    cases s.spiMap (s.cookies c).spiAddress with
    | none => rfl
    | some registered => rfl
  · rw [if_neg hdesignated, if_neg hdesignated]

/-- A registration is felt by the transfers of its address. -/
theorem holds_registered_iff {t : SpiTransfer} (size : Nat) (address : Address) (hholds : s.Holds t) :
    Interface.Holds { s with spiMap := Function.update s.spiMap address (some ⟨c, size⟩) } t ↔
      (t.readData = address → t.transferSize ≤ size) := by
  by_cases haddress : t.readData = address
  · subst haddress
    simp [Interface.Holds]
  · have hother : Interface.Holds { s with
        spiMap := Function.update s.spiMap address (some ⟨c, size⟩) } t ↔ s.Holds t := by
      simp [Interface.Holds, haddress]
    rw [hother]
    exact iff_of_true hholds fun h => absurd h haddress

theorem sizesFit_initializeInterface_iff (c : CookieId) (hfit : s.SizesFit) :
    (initializeInterface (some c) s).2.SizesFit ↔ SizeGood (.initializeInterface (some c)) s := by
  rw [initializeInterface_some]
  by_cases hdesignated : (s.cookies c).spiAddress ∈ spiAddresses
  · rw [if_pos hdesignated]
    constructor
    · intro h _ t ht
      exact (holds_registered_iff _ _ (hfit t ht)).mp (h t ht)
    · intro h t ht
      exact (holds_registered_iff _ _ (hfit t ht)).mpr (h hdesignated t ht)
  · rw [if_neg hdesignated]
    exact iff_of_true hfit fun h => absurd h hdesignated

/-- The lengths in the cookies are nothing to the transfers. -/
theorem sizesFit_setTransferLen (c : CookieId) (transferLen : Nat) (hfit : s.SizesFit) :
    (setTransferLen c transferLen s).SizesFit := hfit

/-- The transfer that is queued is as long as what is sent. -/
theorem sendMessage_registered {registered : SpiStruct} (sendData : List UInt8) (driverResult : Int)
    (hmap : s.spiMap (s.cookies c).spiAddress = some registered) :
    (sendMessage (some c) sendData driverResult s).2 =
      { setTransferLen registered.spiCookie sendData.length s with
        queue := s.queue ++
          if driverResult = 0 then [⟨(s.cookies c).spiAddress, sendData, sendData.length⟩] else [] } := by
  unfold sendMessage
  dsimp only
  rw [hmap]
  by_cases hqueued : driverResult = 0
  · simp [hqueued, prepareSpiTransfer, setTransferLen]
  · simp [hqueued, prepareSpiTransfer, setTransferLen]

theorem sizesFit_sendMessage_iff (c : CookieId) (sendData : List UInt8) (driverResult : Int)
    (hfit : s.SizesFit) : (sendMessage (some c) sendData driverResult s).2.SizesFit ↔
      SizeGood (.sendMessage (some c) sendData driverResult) s := by
  cases hmap : s.spiMap (s.cookies c).spiAddress with
  | none =>
      have hreturned : (sendMessage (some c) sendData driverResult s).2 = s := by
        simp [sendMessage, hmap]
      rw [hreturned]
      refine iff_of_true hfit fun _ registered hsome => ?_
      rw [hmap] at hsome
      cases hsome
  | some registered =>
      rw [sendMessage_registered sendData driverResult hmap]
      by_cases hqueued : driverResult = 0
      · rw [if_pos hqueued]
        constructor
        · intro h _ registered' hsome
          obtain ⟨entry, hentry, hle⟩ := h _ (List.mem_append_right _ List.mem_cons_self)
          have hsame : some registered' = some entry := hsome.symm.trans hentry
          rwa [Option.some.inj hsame]
        · intro h t ht
          rcases List.mem_append.mp ht with hold | hnew
          · exact hfit t hold
          · obtain rfl := List.mem_singleton.mp hnew
            exact ⟨registered, hmap, h hqueued registered hmap⟩
      · rw [if_neg hqueued, List.append_nil]
        exact iff_of_true hfit fun h => absurd h hqueued

end Step

/-- **One event.** The transfers still fit exactly if the event is good. -/
theorem sizesFit_step_iff (e : Event) (s : Interface) (hfit : s.SizesFit) :
    (step e s).SizesFit ↔ SizeGood e s := by
  cases e with
  | initializeInterface cookie =>
      cases cookie with
      | none => exact iff_of_true hfit trivial
      | some c => exact sizesFit_initializeInterface_iff c hfit
  | setTransferLen c transferLen => exact iff_of_true (sizesFit_setTransferLen c transferLen hfit) trivial
  | sendMessage cookie sendData driverResult =>
      cases cookie with
      | none => exact iff_of_true hfit trivial
      | some c => exact sizesFit_sendMessage_iff c sendData driverResult hfit
  | requestReceiveMessage cookie requestLen => exact iff_of_true hfit trivial
  | finish => exact iff_of_true (fun t ht => hfit t (List.mem_of_mem_tail ht)) trivial

/-- **The sizes of the SPI transfers.** In every run of registrations, length assignments and sends, the
    transfers that are queued fit into the buffers registered for their addresses exactly if no send is
    longer than its buffer and no buffer is made shorter than a transfer that waits for it. -/
theorem run_sizesFit_iff (cookies : CookieId → SpiCookie) (events : List Event) :
    (∀ reached, reached <+: events → (run step reached (.initial cookies)).SizesFit) ↔
      AlongRun SizeGood step events (.initial cookies) :=
  forall_run_iff sizesFit_step_iff events _ fun _ ht => absurd ht List.not_mem_nil

/-- The magnetometer, whose replies have 16 bytes at the most. -/
def magnetometer : CookieId → SpiCookie := fun _ => ⟨0x44115002, 16, 0⟩

/-- It is registered, and sends a byte more. -/
def longSend : List Event :=
  [.initializeInterface (some 0), .sendMessage (some 0) (List.replicate 17 0) 0]

/-- **A send that is longer than the reply buffer is queued.** -/
theorem long_send_is_queued : ¬ ∀ (cookies : CookieId → SpiCookie) (events : List Event) reached,
    reached <+: events → (run step reached (.initial cookies)).SizesFit := by
  intro h
  obtain ⟨registered, hmap, hle⟩ := h magnetometer longSend longSend (List.prefix_refl _)
    ⟨0x44115002, List.replicate 17 0, 17⟩ List.mem_cons_self
  have hentry : (run step longSend (.initial magnetometer)).spiMap 0x44115002 = some ⟨0, 16⟩ := rfl
  obtain rfl := Option.some.inj (hentry.symm.trans hmap)
  exact absurd hle (by decide)

end SpiTransferSize
end Obsw
