import Obsw.ComIF.I2c

/-!
# `ComIF.I2cReadSize` — the read sizes of the I2C transfers

`requestReceiveMessage` writes the requested length into the transfer of the cookie before it looks at
anything else, and the driver is given a pointer to that transfer. A length that is rejected stays there:
it is what a transfer in flight reads from then on, and what the next write carries. The sizes fit in
runs whose steps satisfy `SizeGood` (`run_readSizesFit_iff`).

A rejected request has no other effect: `alike_of_rejected` leads to a state that differs at most in the
transfers, and the calls of the separate type do not look at those (`Interface.Alike`).
-/

namespace Obsw
namespace I2c

open Loop

/-- The read size in the transfer of a cookie. -/
def Interface.readSize (c : CookieId) (s : Interface) : Nat := (s.cookies c).i2cTransferStruct.readSize

/-- The size of the reply buffer of a cookie. An address without a buffer has an empty one. -/
def Interface.replyBuffer (c : CookieId) (s : Interface) : Nat :=
  (s.i2cVectorMap (s.cookies c).logicalAddress).getD 0

/-- The transfers the driver has taken read no more than their reply buffers hold. -/
def Interface.ReadSizesFit (s : Interface) : Prop :=
  ∀ c ∈ s.guards.inFlight, s.readSize c ≤ s.replyBuffer c

/-- The driver takes a send that finds the semaphore free, or blocked once too often. -/
def Interface.Queues (c : CookieId) (o : CallOutcome) (s : Interface) : Prop :=
  o.queueTransfer = 0 ∧
    ((run driverStep o.waiting s).guards.taken c = false ∨
      ((run driverStep o.waiting s).cookies c).semaphResetCounter = semaphResetTrigger)

/-- No length is requested that is too long for a transfer in flight, and no send is queued while the last
    length requested for its cookie is too long. -/
def SizeGood (e : Event) (s : Interface) : Prop :=
  match e with
  | .driver _ => True
  | .sendMessage cookie sendData o =>
    match prepareSend cookie sendData o s with
    | (.error _, _) => True
    | (.ok c, s') => s'.Queues c o → s.readSize c ≤ s.replyBuffer c
  | .requestReceiveMessage none _ _ => True
  | .requestReceiveMessage (some c) requestLen _ =>
    c ∈ s.guards.inFlight → requestLen ≤ s.replyBuffer c
  | .readReceivedMessage _ _ => True
  | .restartBus _ => True

theorem cookies_setCookie_self (c : CookieId) (f : Cookie → Cookie) (s : Interface) :
    (s.setCookie c f).cookies c = f (s.cookies c) := Function.update_self ..

theorem cookies_setCookie_of_ne {c j : CookieId} (hj : j ≠ c) (f : Cookie → Cookie) (s : Interface) :
    (s.setCookie c f).cookies j = s.cookies j := Function.update_of_ne hj ..

/-! ## What leaves the sizes as they are -/

/-- The sizes are the same, and nothing is in flight that was not. -/
structure Interface.SameSizes (s t : Interface) : Prop where
  readSize : ∀ c, t.readSize c = s.readSize c
  replyBuffer : ∀ c, t.replyBuffer c = s.replyBuffer c
  inFlight : t.guards.inFlight ⊆ s.guards.inFlight

section SameSizes

variable {c : CookieId} {o : CallOutcome} {s t : Interface}

theorem Interface.SameSizes.refl (s : Interface) : s.SameSizes s :=
  ⟨fun _ => rfl, fun _ => rfl, List.Subset.refl _⟩

theorem Interface.SameSizes.trans {s t u : Interface} (h : s.SameSizes t) (h' : t.SameSizes u) :
    s.SameSizes u :=
  ⟨fun c => (h'.readSize c).trans (h.readSize c), fun c => (h'.replyBuffer c).trans (h.replyBuffer c),
    fun _ hc => h.inFlight (h'.inFlight hc)⟩

theorem Interface.SameSizes.fit (h : s.SameSizes t) (hfit : s.ReadSizesFit) : t.ReadSizesFit := by
  intro c hflight
  rw [h.readSize c, h.replyBuffer c]
  exact hfit c (h.inFlight hflight)

/-- A change of a cookie that keeps its address and its read size. -/
theorem sameSizes_setCookie {f : Cookie → Cookie}
    (haddress : ∀ k, (f k).logicalAddress = k.logicalAddress)
    (hsize : ∀ k, (f k).i2cTransferStruct.readSize = k.i2cTransferStruct.readSize) :
    s.SameSizes (s.setCookie c f) := by
  refine ⟨fun j => ?_, fun j => ?_, List.Subset.refl _⟩
  · by_cases hj : j = c
    · subst hj
      simp [Interface.readSize, Interface.setCookie, hsize]
    · simp [Interface.readSize, Interface.setCookie, hj]
  · by_cases hj : j = c
    · subst hj
      simp [Interface.replyBuffer, Interface.setCookie, haddress]
    · simp [Interface.replyBuffer, Interface.setCookie, hj]

/-- A change outside of the cookies and buffers that launches nothing. -/
theorem sameSizes_of_eq (hcookies : t.cookies = s.cookies) (hmap : t.i2cVectorMap = s.i2cVectorMap)
    (hflight : t.guards.inFlight ⊆ s.guards.inFlight) : s.SameSizes t := by
  refine ⟨fun c => ?_, fun c => ?_, hflight⟩
  · rw [Interface.readSize, Interface.readSize, hcookies]
  · rw [Interface.replyBuffer, Interface.replyBuffer, hcookies, hmap]

theorem sameSizes_driverStep (e : DriverEvent) (s : Interface) : s.SameSizes (s.driverStep e) := by
  cases e with
  | setStatus c status =>
      rw [Interface.driverStep]
      split
      · exact sameSizes_setCookie (fun _ => rfl) fun _ => rfl
      · exact .refl s
  | callback c =>
      rw [Interface.driverStep]
      split
      · refine sameSizes_of_eq ?_ ?_ List.erase_subset
        · rfl
        · rfl
      · exact .refl s

theorem sameSizes_waiting (waiting : List DriverEvent) (s : Interface) :
    s.SameSizes (run Interface.driverStep waiting s) :=
  run_rel (R := Interface.SameSizes) .refl (fun _ _ _ h h' => h.trans h')
    (fun e s _ => sameSizes_driverStep e s) waiting s (alongRun_true waiting s)

theorem sameSizes_restartBus (dropped : List CookieId) (s : Interface) :
    s.SameSizes (s.restartBus dropped) := by
  refine sameSizes_of_eq ?_ ?_ (List.filter_subset_self _)
  · rfl
  · rfl

theorem sameSizes_checkI2cDriver (o : CallOutcome) (s : Interface) :
    s.SameSizes (checkI2cDriver o s).2 := by
  unfold checkI2cDriver
  dsimp only
  split
  · split
    · apply (sameSizes_restartBus o.dropped s).trans
      exact sameSizes_of_eq rfl rfl (List.Subset.refl _)
    · exact sameSizes_of_eq rfl rfl (List.Subset.refl _)
  · exact sameSizes_of_eq rfl rfl (List.Subset.refl _)

theorem sameSizes_setWriteData (c : CookieId) (data : List UInt8) (s : Interface) :
    s.SameSizes (setWriteData c data s) := by
  unfold setWriteData
  apply sameSizes_setCookie
  · exact fun _ => rfl
  · exact fun _ => rfl

theorem sameSizes_prepareI2cGenericTransfer (c : CookieId) (direction : I2cDirection) (s : Interface) :
    s.SameSizes (prepareI2cGenericTransfer c direction s) := by
  unfold prepareI2cGenericTransfer
  apply sameSizes_setCookie
  · exact fun _ => rfl
  · exact fun _ => rfl

theorem sameSizes_prepareI2cWriteTransfer (c : CookieId) (data : List UInt8) (s : Interface) :
    s.SameSizes (prepareI2cWriteTransfer c data s) := by
  apply (sameSizes_prepareI2cGenericTransfer c .write s).trans
  exact sameSizes_setWriteData c data _

/-- The buffer that is put into the map for an address without one is empty. -/
theorem sameSizes_prepareI2cConsecutiveTransfer (c : CookieId) (data : List UInt8) (s : Interface) :
    s.SameSizes (prepareI2cConsecutiveTransfer c data s).2 := by
  have hprepared : s.SameSizes (setWriteData c data (prepareI2cGenericTransfer c .writeRead s)) :=
    (sameSizes_prepareI2cGenericTransfer c .writeRead s).trans (sameSizes_setWriteData c data _)
  have hinserted : ∀ address, (Function.update s.i2cVectorMap (s.cookies c).logicalAddress
      (some ((s.i2cVectorMap (s.cookies c).logicalAddress).getD 0)) address).getD 0 =
        (s.i2cVectorMap address).getD 0 := by
    intro address
    by_cases haddress : address = (s.cookies c).logicalAddress
    · rw [haddress, Function.update_self, Option.getD_some]
    · rw [Function.update_of_ne haddress]
  unfold prepareI2cConsecutiveTransfer
  dsimp only
  split
  all_goals
    refine ⟨hprepared.readSize, fun j => ?_, hprepared.inFlight⟩
    refine Eq.trans ?_ (hprepared.replyBuffer j)
    exact hinserted _

theorem sameSizes_prepareSend (cookie : Option CookieId) (sendData : Option (List UInt8))
    (o : CallOutcome) (s : Interface) : s.SameSizes (prepareSend cookie sendData o s).2 := by
  have hchecked := sameSizes_checkI2cDriver o s
  unfold prepareSend
  split
  · rename_i heq
    rwa [heq] at hchecked
  · rename_i s' heq
    rw [heq] at hchecked
    split
    · exact hchecked
    · exact hchecked
    · split
      · exact hchecked
      · rename_i byte rest _ c
        split
        · have hprepared := sameSizes_prepareI2cConsecutiveTransfer c (byte :: rest) s'
          split
          · rename_i heq'
            rw [heq'] at hprepared
            exact hchecked.trans hprepared
          · rename_i heq'
            rw [heq'] at hprepared
            exact hchecked.trans hprepared
        · exact hchecked.trans (sameSizes_prepareI2cWriteTransfer c _ s')

end SameSizes

/-! ## What is queued -/

section Queued

variable {c : CookieId} {o : CallOutcome} {s : Interface}

theorem sameSizes_handleI2cTransferInitResult (c : CookieId) (driverResult : Int) (isSendRequest : Bool)
    (s : Interface) : s.SameSizes (handleI2cTransferInitResult c driverResult isSendRequest s).2 := by
  unfold handleI2cTransferInitResult
  split
  · exact .refl s
  · split
    · exact .refl s
    · split
      · dsimp only
        apply sameSizes_setCookie
        · exact fun _ => rfl
        · exact fun _ => rfl
      · exact .refl s

/-- What the driver takes must fit, and what it refuses changes nothing. -/
theorem fit_queueTransfer_iff (c : CookieId) (isSendRequest : Bool) (o : CallOutcome)
    (hfit : s.ReadSizesFit) : (queueTransfer c isSendRequest o s).2.ReadSizesFit ↔
      (o.queueTransfer = 0 → s.readSize c ≤ s.replyBuffer c) := by
  have hflight := guards_queueTransfer c isSendRequest o s
  have hsizes : ∀ j, (queueTransfer c isSendRequest o s).2.readSize j = s.readSize j ∧
      (queueTransfer c isSendRequest o s).2.replyBuffer j = s.replyBuffer j := by
    intro j
    have hstatus : s.SameSizes
        (s.setCookie c fun cookie => { cookie with i2cTransferStatus := .pending }) :=
      sameSizes_setCookie (fun _ => rfl) fun _ => rfl
    unfold queueTransfer
    dsimp only
    have hresult := sameSizes_handleI2cTransferInitResult c o.queueTransfer isSendRequest
    split
    · exact ⟨((hresult _).readSize j).trans (hstatus.readSize j),
        ((hresult _).replyBuffer j).trans (hstatus.replyBuffer j)⟩
    · exact ⟨(hresult s).readSize j, (hresult s).replyBuffer j⟩
  unfold Interface.ReadSizesFit
  simp only [hsizes, hflight]
  by_cases hqueued : o.queueTransfer = 0
  · rw [if_pos hqueued]
    constructor
    · intro h _
      exact h c (by simp [Guards.launch])
    · intro h j hj
      rcases List.mem_append.mp hj with hj | hj
      · exact hfit j hj
      · obtain rfl : j = c := by simpa using hj
        exact h hqueued
  · rw [if_neg hqueued]
    exact iff_of_true hfit fun h => absurd h hqueued

theorem inFlight_acquire {guards : Guards CookieId} (h : s.guards.acquire c = some guards) :
    guards.inFlight ⊆ s.guards.inFlight := by
  obtain ⟨-, rfl⟩ := Guards.acquire_eq_some h
  exact List.Subset.refl _

/-- The next transfer of a cookie, in a state with other semaphores. -/
theorem fit_queueTransfer_of_sameSizes {t : Interface} (h : s.SameSizes t) (isSendRequest : Bool)
    (hfit : s.ReadSizesFit) : (queueTransfer c isSendRequest o t).2.ReadSizesFit ↔
      (o.queueTransfer = 0 → s.readSize c ≤ s.replyBuffer c) := by
  rw [fit_queueTransfer_iff c isSendRequest o (h.fit hfit), h.readSize c, h.replyBuffer c]

/-- A send carries the size its cookie has. -/
theorem fit_startSend_iff (hfit : s.ReadSizesFit) :
    (startSend c o s).2.ReadSizesFit ↔ (s.Queues c o → s.readSize c ≤ s.replyBuffer c) := by
  have hwaited := sameSizes_waiting o.waiting s
  unfold startSend Interface.Queues
  dsimp only
  split
  · rename_i guards hacquire
    have hfree := (Guards.acquire_eq_some hacquire).1
    have htaken := hwaited.trans (sameSizes_of_eq (t := { run Interface.driverStep o.waiting s with
      guards := guards }) rfl rfl (inFlight_acquire hacquire))
    rw [fit_queueTransfer_of_sameSizes htaken true hfit]
    exact ⟨fun h hq => h hq.1, fun h hq => h ⟨hq, Or.inl hfree⟩⟩
  · rename_i hacquire
    have htaken := Guards.acquire_eq_none.mp hacquire
    split
    · rename_i hreset
      have hcounter : s.SameSizes ((run Interface.driverStep o.waiting s).setCookie c
          fun cookie => { cookie with semaphResetCounter := 1 }) :=
        hwaited.trans (sameSizes_setCookie (fun _ => rfl) fun _ => rfl)
      have hreleased := hcounter.trans (sameSizes_of_eq
        (t := { (run Interface.driverStep o.waiting s).setCookie c
            fun cookie => { cookie with semaphResetCounter := 1 } with
          guards := (run Interface.driverStep o.waiting s).guards.release c })
        rfl rfl (List.Subset.refl _))
      rw [fit_queueTransfer_of_sameSizes hreleased true hfit]
      exact ⟨fun h hq => h hq.1, fun h hq => h ⟨hq, Or.inr hreset⟩⟩
    · rename_i hreset
      have hblocked : s.SameSizes ((run Interface.driverStep o.waiting s).setCookie c
          fun cookie => { cookie with semaphResetCounter := cookie.semaphResetCounter + 1 }) :=
        hwaited.trans (sameSizes_setCookie (fun _ => rfl) fun _ => rfl)
      refine iff_of_true (hblocked.fit hfit) ?_
      rintro ⟨-, hfree | htrigger⟩
      · rw [htaken] at hfree
        cases hfree
      · exact absurd htrigger hreset

/-- A request that was found to fit is queued as it is. -/
theorem fit_startRequest (hfit : s.ReadSizesFit) (hsize : s.readSize c ≤ s.replyBuffer c) :
    (startRequest c o s).2.ReadSizesFit := by
  have hwaited := sameSizes_waiting o.waiting s
  unfold startRequest
  dsimp only
  split
  · exact hwaited.fit hfit
  · rename_i guards hacquire
    have htaken := hwaited.trans (sameSizes_of_eq (t := { run Interface.driverStep o.waiting s with
      guards := guards }) rfl rfl (inFlight_acquire hacquire))
    exact (fit_queueTransfer_of_sameSizes htaken false hfit).mpr fun _ => hsize

end Queued

/-! ## What a request writes -/

section Request

variable {c : CookieId} {requestLen : Nat} {s : Interface}

/-- The length is in the transfer of the cookie, and no other size is changed. -/
structure SizeSet (c : CookieId) (requestLen : Nat) (s t : Interface) : Prop where
  readSize : t.readSize c = requestLen
  others : ∀ j, j ≠ c → t.readSize j = s.readSize j
  replyBuffer : ∀ j, t.replyBuffer j = s.replyBuffer j
  inFlight : t.guards.inFlight = s.guards.inFlight

theorem sizeSet_setReceiveDataSize (c : CookieId) (requestLen : Nat) (s : Interface) :
    SizeSet c requestLen s (setReceiveDataSize c requestLen s) := by
  refine ⟨?_, fun j hj => ?_, fun j => ?_, rfl⟩
  · simp [Interface.readSize, setReceiveDataSize, Interface.setCookie]
  · simp [Interface.readSize, setReceiveDataSize, Interface.setCookie, hj]
  · by_cases hj : j = c
    · subst hj
      simp [Interface.replyBuffer, setReceiveDataSize, Interface.setCookie]
    · simp [Interface.replyBuffer, setReceiveDataSize, Interface.setCookie, hj]

theorem SizeSet.again {s t u : Interface} (h : SizeSet c requestLen s t) (h' : SizeSet c requestLen t u) :
    SizeSet c requestLen s u :=
  ⟨h'.readSize, fun j hj => (h'.others j hj).trans (h.others j hj),
    fun j => (h'.replyBuffer j).trans (h.replyBuffer j), h'.inFlight.trans h.inFlight⟩

theorem SizeSet.prepared {t : Interface} (h : SizeSet c requestLen s t) (direction : I2cDirection) :
    SizeSet c requestLen s (prepareI2cGenericTransfer c direction t) := by
  have hsame := sameSizes_prepareI2cGenericTransfer c direction t
  exact ⟨(hsame.readSize c).trans h.readSize, fun j hj => (hsame.readSize j).trans (h.others j hj),
    fun j => (hsame.replyBuffer j).trans (h.replyBuffer j), h.inFlight⟩

/-- The sizes of the transfers in flight fit exactly if the length fits or the cookie has none there. -/
theorem SizeSet.fit_iff {t : Interface} (h : SizeSet c requestLen s t) (hfit : s.ReadSizesFit) :
    t.ReadSizesFit ↔ (c ∈ s.guards.inFlight → requestLen ≤ s.replyBuffer c) := by
  unfold Interface.ReadSizesFit
  rw [h.inFlight]
  constructor
  · intro hsizes hflight
    have hsize := hsizes c hflight
    rwa [h.readSize, h.replyBuffer c] at hsize
  · intro hlength j hflight
    rw [h.replyBuffer j]
    by_cases hj : j = c
    · subst hj
      rw [h.readSize]
      exact hlength hflight
    · rw [h.others j hj]
      exact hfit j hflight

/-- Either way the length is in the transfer, and a transfer that goes on fits. -/
theorem sizeSet_prepareI2cReadTransfer {t : Interface} (h : SizeSet c requestLen s t) :
    SizeSet c requestLen s (prepareI2cReadTransfer c requestLen t).2 ∧
      ((prepareI2cReadTransfer c requestLen t).1 = none → requestLen ≤ s.replyBuffer c) := by
  unfold prepareI2cReadTransfer
  dsimp only
  split
  · exact ⟨h.prepared .read, fun hnone => nomatch hnone⟩
  · rename_i size hsize
    split
    · exact ⟨h.prepared .read, fun hnone => nomatch hnone⟩
    · rename_i hle
      refine ⟨(h.prepared .read).again (sizeSet_setReceiveDataSize c requestLen _), fun _ => ?_⟩
      have hbuffer : t.replyBuffer c = size := by rw [Interface.replyBuffer, hsize, Option.getD_some]
      rw [← h.replyBuffer c, hbuffer, ← h.readSize]
      exact Nat.not_lt.mp hle

/-- What a request does in front of its semaphore. -/
theorem sizeSet_prepareRequest (c : CookieId) (requestLen : Nat) (s : Interface) :
    SizeSet c requestLen s (prepareRequest (some c) requestLen s).2 ∧
      ∀ c', (prepareRequest (some c) requestLen s).1 = .ok c' →
        c' = c ∧ requestLen ≤ s.replyBuffer c := by
  have hset := sizeSet_setReceiveDataSize c requestLen s
  unfold prepareRequest
  dsimp only
  split
  · exact ⟨hset, fun _ h => nomatch h⟩
  · split
    · exact ⟨hset, fun _ h => nomatch h⟩
    · obtain ⟨hread, hfits⟩ := sizeSet_prepareI2cReadTransfer hset
      split
      · rename_i heq
        rw [heq] at hread
        exact ⟨hread, fun _ h => nomatch h⟩
      · rename_i heq
        rw [heq] at hread hfits
        refine ⟨hread, fun c' h => ?_⟩
        exact ⟨(Except.ok.inj h).symm, hfits rfl⟩

/-- A request leaves sizes that fit exactly if it does not touch a transfer in flight with a length that
    is too long. -/
theorem fit_requestReceiveMessage_iff (c : CookieId) (requestLen : Nat) (o : CallOutcome)
    (hfit : s.ReadSizesFit) : (requestReceiveMessage (some c) requestLen o s).2.ReadSizesFit ↔
      (c ∈ s.guards.inFlight → requestLen ≤ s.replyBuffer c) := by
  obtain ⟨hset, hok⟩ := sizeSet_prepareRequest c requestLen s
  unfold requestReceiveMessage
  split
  · rename_i heq
    rw [heq] at hset
    exact hset.fit_iff hfit
  · rename_i c' s' heq
    rw [heq] at hset hok
    obtain ⟨rfl, hlength⟩ := hok c' rfl
    refine iff_of_true (fit_startRequest ((hset.fit_iff hfit).mpr fun _ => hlength) ?_) fun _ => hlength
    rwa [hset.readSize, hset.replyBuffer]

/-- Reading a reply sets the size back. -/
theorem fit_assignReply (c : CookieId) (o : CallOutcome) (hfit : s.ReadSizesFit) :
    (assignReply c o s).2.2.ReadSizesFit := by
  have hwaited := sameSizes_waiting o.waiting s
  unfold assignReply
  dsimp only
  split
  · exact hwaited.fit hfit
  · rename_i guards hacquire
    have hflight := inFlight_acquire hacquire
    have htaken := hwaited.trans (sameSizes_of_eq (t := { run Interface.driverStep o.waiting s with
      guards := guards.release c }) rfl rfl hflight)
    exact ((sizeSet_setReceiveDataSize c 0 _).fit_iff (htaken.fit hfit)).mpr fun _ => Nat.zero_le _

theorem fit_readReceivedMessage (cookie : Option CookieId) (o : CallOutcome) (hfit : s.ReadSizesFit) :
    (readReceivedMessage cookie o s).2.2.ReadSizesFit := by
  unfold readReceivedMessage
  split
  · exact hfit
  · split
    · exact fit_assignReply _ o hfit
    all_goals exact hfit

end Request

/-- A send is prepared without a look at the sizes of other cookies, and queued with its own. -/
theorem fit_sendMessage_iff (cookie : Option CookieId) (sendData : Option (List UInt8)) (o : CallOutcome)
    {s : Interface} (hfit : s.ReadSizesFit) : (sendMessage cookie sendData o s).2.ReadSizesFit ↔
      SizeGood (.sendMessage cookie sendData o) s := by
  have hprepared := sameSizes_prepareSend cookie sendData o s
  have hgood : SizeGood (.sendMessage cookie sendData o) s ↔
      match prepareSend cookie sendData o s with
      | (.error _, _) => True
      | (.ok c, s') => s'.Queues c o → s.readSize c ≤ s.replyBuffer c := Iff.rfl
  rw [hgood, sendMessage]
  rcases hresult : prepareSend cookie sendData o s with ⟨result | c, s'⟩
  · rw [hresult] at hprepared
    exact iff_of_true (hprepared.fit hfit) trivial
  · rw [hresult] at hprepared
    show (startSend c o s').2.ReadSizesFit ↔ (s'.Queues c o → s.readSize c ≤ s.replyBuffer c)
    rw [fit_startSend_iff (hprepared.fit hfit), hprepared.readSize c, hprepared.replyBuffer c]

/-- **One step.** The sizes still fit exactly if the step is good. -/
theorem fit_step_iff (e : Event) (s : Interface) (hfit : s.ReadSizesFit) :
    (s.step e).ReadSizesFit ↔ SizeGood e s := by
  cases e with
  | driver e => exact iff_of_true ((sameSizes_driverStep e s).fit hfit) trivial
  | sendMessage cookie sendData o => exact fit_sendMessage_iff cookie sendData o hfit
  | requestReceiveMessage cookie requestLen o =>
      cases cookie with
      | none => exact iff_of_true hfit trivial
      | some c => exact fit_requestReceiveMessage_iff c requestLen o hfit
  | readReceivedMessage cookie o => exact iff_of_true (fit_readReceivedMessage cookie o hfit) trivial
  | restartBus dropped => exact iff_of_true ((sameSizes_restartBus dropped s).fit hfit) trivial

/-! ## What a rejected request leaves behind -/

/-- The cookies differ at most in their transfers, and for the consecutive type not in the read size. -/
structure Cookie.Alike (a b : Cookie) : Prop where
  logicalAddress : a.logicalAddress = b.logicalAddress
  i2cComType : a.i2cComType = b.i2cComType
  i2cTransferStatus : a.i2cTransferStatus = b.i2cTransferStatus
  messageSent : a.messageSent = b.messageSent
  semaphResetCounter : a.semaphResetCounter = b.semaphResetCounter
  readSize : a.i2cComType = .consecutiveWriteRead →
    a.i2cTransferStruct.readSize = b.i2cTransferStruct.readSize

/-- The interfaces differ at most in what no call of the separate type looks at. -/
structure Interface.Alike (s t : Interface) : Prop where
  cookies : ∀ c, (s.cookies c).Alike (t.cookies c)
  i2cVectorMap : s.i2cVectorMap = t.i2cVectorMap
  busCheckCounter : s.busCheckCounter = t.busCheckCounter
  guards : s.guards = t.guards

/-- A call from like states has the same result and leads to like states. -/
def AlikeResult {α : Type} (a b : α × Interface) : Prop := a.1 = b.1 ∧ a.2.Alike b.2

section Alike

variable {c : CookieId} {o : CallOutcome} {s t : Interface}

theorem Cookie.Alike.refl (a : Cookie) : a.Alike a := ⟨rfl, rfl, rfl, rfl, rfl, fun _ => rfl⟩

/-- The two results of like calls, taken apart. -/
theorem AlikeResult.exists_eq {α : Type} {a b : α × Interface} (h : AlikeResult a b) :
    ∃ result s' t', a = (result, s') ∧ b = (result, t') ∧ s'.Alike t' := by
  obtain ⟨result, s'⟩ := a
  obtain ⟨result', t'⟩ := b
  obtain ⟨hresult, hstate⟩ := h
  exact ⟨result, s', t', rfl, Prod.ext hresult.symm rfl, hstate⟩

theorem Interface.Alike.refl (s : Interface) : s.Alike s := ⟨fun c => .refl (s.cookies c), rfl, rfl, rfl⟩

/-- The same change of like cookies. -/
theorem Interface.Alike.setCookie {f : Cookie → Cookie} (h : s.Alike t) (c : CookieId)
    (hf : ∀ a b, a.Alike b → (f a).Alike (f b)) : (s.setCookie c f).Alike (t.setCookie c f) := by
  refine ⟨fun j => ?_, h.i2cVectorMap, h.busCheckCounter, h.guards⟩
  by_cases hj : j = c
  · subst hj
    simpa [Interface.setCookie] using hf _ _ (h.cookies j)
  · simpa [Interface.setCookie, hj] using h.cookies j

theorem Interface.Alike.setGuards (h : s.Alike t) (guards : Guards CookieId) :
    Interface.Alike { s with guards := guards } { t with guards := guards } :=
  ⟨h.cookies, h.i2cVectorMap, h.busCheckCounter, rfl⟩

theorem Interface.Alike.driverStep (h : s.Alike t) (e : DriverEvent) :
    (s.driverStep e).Alike (t.driverStep e) := by
  cases e with
  | setStatus c status =>
      unfold Interface.driverStep
      dsimp only
      rw [h.guards]
      split
      · apply h.setCookie c
        exact fun a b hab =>
          ⟨hab.logicalAddress, hab.i2cComType, rfl, hab.messageSent, hab.semaphResetCounter, hab.readSize⟩
      · exact h
  | callback c =>
      unfold Interface.driverStep Interface.i2cCallback
      dsimp only
      rw [h.guards]
      split
      · exact h.setGuards _
      · exact h

theorem Interface.Alike.waiting (h : s.Alike t) (waiting : List DriverEvent) :
    (run Interface.driverStep waiting s).Alike (run Interface.driverStep waiting t) :=
  run_congr (fun e _ _ h => h.driverStep e) waiting s t h

theorem alikeResult_checkI2cDriver (o : CallOutcome) (h : s.Alike t) :
    AlikeResult (checkI2cDriver o s) (checkI2cDriver o t) := by
  unfold checkI2cDriver Interface.restartBus
  dsimp only
  rw [h.busCheckCounter, h.guards]
  split
  · split
    · exact ⟨rfl, h.cookies, h.i2cVectorMap, rfl, rfl⟩
    · exact ⟨rfl, h.cookies, h.i2cVectorMap, rfl, rfl⟩
  · exact ⟨rfl, h.cookies, h.i2cVectorMap, rfl, rfl⟩

theorem Interface.Alike.prepareI2cGenericTransfer (h : s.Alike t) (c : CookieId)
    (direction : I2cDirection) :
    (I2c.prepareI2cGenericTransfer c direction s).Alike
      (I2c.prepareI2cGenericTransfer c direction t) := by
  apply h.setCookie c
  exact fun a b hab => ⟨hab.logicalAddress, hab.i2cComType, hab.i2cTransferStatus, hab.messageSent,
    hab.semaphResetCounter, hab.readSize⟩

theorem Interface.Alike.setWriteData (h : s.Alike t) (c : CookieId) (data : List UInt8) :
    (I2c.setWriteData c data s).Alike (I2c.setWriteData c data t) := by
  apply h.setCookie c
  exact fun a b hab => ⟨hab.logicalAddress, hab.i2cComType, hab.i2cTransferStatus, hab.messageSent,
    hab.semaphResetCounter, hab.readSize⟩

theorem Interface.Alike.setReceiveDataSize (h : s.Alike t) (c : CookieId) (size : Nat) :
    (I2c.setReceiveDataSize c size s).Alike (I2c.setReceiveDataSize c size t) := by
  apply h.setCookie c
  exact fun a b hab => ⟨hab.logicalAddress, hab.i2cComType, hab.i2cTransferStatus, hab.messageSent,
    hab.semaphResetCounter, fun _ => rfl⟩

/-- The size of a consecutive transfer is the same in both. -/
theorem alikeResult_prepareI2cConsecutiveTransfer (data : List UInt8) (h : s.Alike t)
    (htype : (s.cookies c).i2cComType = .consecutiveWriteRead) :
    AlikeResult (prepareI2cConsecutiveTransfer c data s) (prepareI2cConsecutiveTransfer c data t) := by
  have hprepared := (h.prepareI2cGenericTransfer c .writeRead).setWriteData c data
  unfold prepareI2cConsecutiveTransfer
  dsimp only
  rw [(h.cookies c).logicalAddress, (h.cookies c).readSize htype, h.i2cVectorMap]
  split
  · exact ⟨rfl, hprepared.cookies, rfl, hprepared.busCheckCounter, hprepared.guards⟩
  · exact ⟨rfl, hprepared.cookies, rfl, hprepared.busCheckCounter, hprepared.guards⟩

theorem alikeResult_prepareSend (cookie : Option CookieId) (sendData : Option (List UInt8))
    (o : CallOutcome) (h : s.Alike t) :
    AlikeResult (prepareSend cookie sendData o s) (prepareSend cookie sendData o t) := by
  obtain ⟨result, s', t', hs, ht, hchecked⟩ := (alikeResult_checkI2cDriver o h).exists_eq
  unfold prepareSend
  rw [hs, ht]
  cases result with
  | some code => exact ⟨rfl, hchecked⟩
  | none =>
      rcases sendData with _ | _ | ⟨byte, rest⟩
      · exact ⟨rfl, hchecked⟩
      · exact ⟨rfl, hchecked⟩
      · cases cookie with
        | none => exact ⟨rfl, hchecked⟩
        | some c =>
            dsimp only
            rw [← (hchecked.cookies c).i2cComType]
            split
            · rename_i htype
              obtain ⟨code, s'', t'', hps, hpt, hprepared⟩ :=
                (alikeResult_prepareI2cConsecutiveTransfer (byte :: rest) hchecked htype).exists_eq
              rw [hps, hpt]
              cases code with
              | none => exact ⟨rfl, hprepared⟩
              | some code => exact ⟨rfl, hprepared⟩
            · exact ⟨rfl, (hchecked.prepareI2cGenericTransfer c .write).setWriteData c _⟩

theorem alikeResult_queueTransfer (c : CookieId) (isSendRequest : Bool) (o : CallOutcome)
    (h : s.Alike t) :
    AlikeResult (queueTransfer c isSendRequest o s) (queueTransfer c isSendRequest o t) := by
  have hhandle : ∀ {s t : Interface}, s.Alike t →
      AlikeResult (handleI2cTransferInitResult c o.queueTransfer isSendRequest s)
        (handleI2cTransferInitResult c o.queueTransfer isSendRequest t) := by
    intro s t h
    unfold handleI2cTransferInitResult
    split
    · exact ⟨rfl, h⟩
    · split
      · exact ⟨rfl, h⟩
      · split
        · refine ⟨rfl, ?_⟩
          dsimp only
          apply h.setCookie c
          exact fun a b hab => ⟨hab.logicalAddress, hab.i2cComType, hab.i2cTransferStatus, rfl,
            hab.semaphResetCounter, hab.readSize⟩
        · exact ⟨rfl, h⟩
  unfold queueTransfer
  dsimp only
  apply hhandle
  split
  · rw [h.guards]
    apply Interface.Alike.setGuards
    apply h.setCookie c
    exact fun a b hab =>
      ⟨hab.logicalAddress, hab.i2cComType, rfl, hab.messageSent, hab.semaphResetCounter, hab.readSize⟩
  · exact h

theorem alikeResult_startSend (c : CookieId) (o : CallOutcome) (h : s.Alike t) :
    AlikeResult (startSend c o s) (startSend c o t) := by
  have hcounter : ∀ (next : UInt8 → UInt8) {s t : Interface}, s.Alike t →
      (s.setCookie c fun k => { k with semaphResetCounter := next k.semaphResetCounter }).Alike
        (t.setCookie c fun k => { k with semaphResetCounter := next k.semaphResetCounter }) := by
    intro next s t h
    apply h.setCookie c
    exact fun a b hab => ⟨hab.logicalAddress, hab.i2cComType, hab.i2cTransferStatus, hab.messageSent,
      congrArg next hab.semaphResetCounter, hab.readSize⟩
  have hwaited := h.waiting o.waiting
  unfold startSend
  dsimp only
  rw [hwaited.guards, (hwaited.cookies c).semaphResetCounter]
  split
  · exact alikeResult_queueTransfer c true o (hwaited.setGuards _)
  · split
    · exact alikeResult_queueTransfer c true o ((hcounter (fun _ => 1) hwaited).setGuards _)
    · exact ⟨rfl, hcounter (fun n => n + 1) hwaited⟩

theorem alikeResult_sendMessage (cookie : Option CookieId) (sendData : Option (List UInt8))
    (o : CallOutcome) (h : s.Alike t) :
    AlikeResult (sendMessage cookie sendData o s) (sendMessage cookie sendData o t) := by
  obtain ⟨result, s', t', hs, ht, hprepared⟩ := (alikeResult_prepareSend cookie sendData o h).exists_eq
  unfold sendMessage
  rw [hs, ht]
  cases result with
  | error result => exact ⟨rfl, hprepared⟩
  | ok c => exact alikeResult_startSend c o hprepared

/-- The length that is compared was written by the same request. -/
theorem alikeResult_prepareI2cReadTransfer (c : CookieId) (requestLen : Nat) (h : s.Alike t)
    (hsize : s.readSize c = t.readSize c) :
    AlikeResult (prepareI2cReadTransfer c requestLen s) (prepareI2cReadTransfer c requestLen t) := by
  have hprepared := h.prepareI2cGenericTransfer c .read
  have hsize' : (s.cookies c).i2cTransferStruct.readSize =
      (t.cookies c).i2cTransferStruct.readSize := hsize
  unfold prepareI2cReadTransfer
  dsimp only
  rw [(h.cookies c).logicalAddress, h.i2cVectorMap, hsize']
  split
  · exact ⟨rfl, hprepared⟩
  · split
    · exact ⟨rfl, hprepared⟩
    · exact ⟨rfl, hprepared.setReceiveDataSize c requestLen⟩

theorem alikeResult_prepareRequest (cookie : Option CookieId) (requestLen : Nat) (h : s.Alike t) :
    AlikeResult (prepareRequest cookie requestLen s) (prepareRequest cookie requestLen t) := by
  cases cookie with
  | none => exact ⟨rfl, h⟩
  | some c =>
      have hset := h.setReceiveDataSize c requestLen
      have hsize : (setReceiveDataSize c requestLen s).readSize c =
          (setReceiveDataSize c requestLen t).readSize c :=
        (sizeSet_setReceiveDataSize c requestLen s).readSize.trans
          (sizeSet_setReceiveDataSize c requestLen t).readSize.symm
      obtain ⟨code, s', t', hs, ht, hread⟩ :=
        (alikeResult_prepareI2cReadTransfer c requestLen hset hsize).exists_eq
      unfold prepareRequest
      dsimp only
      rw [(h.cookies c).i2cComType, (h.cookies c).i2cTransferStatus]
      split
      · exact ⟨rfl, hset⟩
      · split
        · exact ⟨rfl, hset⟩
        · rw [hs, ht]
          cases code with
          | none => exact ⟨rfl, hread⟩
          | some code => exact ⟨rfl, hread⟩

theorem alikeResult_startRequest (c : CookieId) (o : CallOutcome) (h : s.Alike t) :
    AlikeResult (startRequest c o s) (startRequest c o t) := by
  have hwaited := h.waiting o.waiting
  unfold startRequest
  dsimp only
  rw [hwaited.guards]
  split
  · exact ⟨rfl, hwaited⟩
  · exact alikeResult_queueTransfer c false o (hwaited.setGuards _)

theorem alikeResult_requestReceiveMessage (cookie : Option CookieId) (requestLen : Nat)
    (o : CallOutcome) (h : s.Alike t) :
    AlikeResult (requestReceiveMessage cookie requestLen o s)
      (requestReceiveMessage cookie requestLen o t) := by
  obtain ⟨result, s', t', hs, ht, hprepared⟩ :=
    (alikeResult_prepareRequest cookie requestLen h).exists_eq
  unfold requestReceiveMessage
  rw [hs, ht]
  cases result with
  | error result => exact ⟨rfl, hprepared⟩
  | ok c => exact alikeResult_startRequest c o hprepared

/-- The size that is put out may differ. -/
theorem alike_assignReply (c : CookieId) (o : CallOutcome) (h : s.Alike t) :
    (assignReply c o s).1 = (assignReply c o t).1 ∧
      (assignReply c o s).2.2.Alike (assignReply c o t).2.2 := by
  have hwaited := h.waiting o.waiting
  unfold assignReply
  dsimp only
  rw [hwaited.guards]
  split
  · exact ⟨rfl, hwaited⟩
  · exact ⟨rfl, (hwaited.setGuards _).setReceiveDataSize c 0⟩

theorem alike_readReceivedMessage (cookie : Option CookieId) (o : CallOutcome) (h : s.Alike t) :
    (readReceivedMessage cookie o s).1 = (readReceivedMessage cookie o t).1 ∧
      (readReceivedMessage cookie o s).2.2.Alike (readReceivedMessage cookie o t).2.2 := by
  unfold readReceivedMessage
  cases cookie with
  | none => exact ⟨rfl, h⟩
  | some c =>
      dsimp only
      rw [(h.cookies c).i2cTransferStatus]
      split
      · exact alike_assignReply c o h
      all_goals exact ⟨rfl, h⟩

end Alike

/-- What the call of an event returns. -/
def Event.code : Event → Interface → Option (Option Code)
  | .driver _, _ => none
  | .sendMessage cookie sendData o, s => some (I2c.sendMessage cookie sendData o s).1
  | .requestReceiveMessage cookie requestLen o, s =>
    some (I2c.requestReceiveMessage cookie requestLen o s).1
  | .readReceivedMessage cookie o, s => some (I2c.readReceivedMessage cookie o s).1
  | .restartBus _, _ => none

theorem Interface.Alike.step {s t : Interface} (h : s.Alike t) (e : Event) :
    e.code s = e.code t ∧ (s.step e).Alike (t.step e) := by
  cases e with
  | driver e => exact ⟨rfl, h.driverStep e⟩
  | sendMessage cookie sendData o =>
      obtain ⟨hcode, hstate⟩ := alikeResult_sendMessage cookie sendData o h
      exact ⟨congrArg some hcode, hstate⟩
  | requestReceiveMessage cookie requestLen o =>
      obtain ⟨hcode, hstate⟩ := alikeResult_requestReceiveMessage cookie requestLen o h
      exact ⟨congrArg some hcode, hstate⟩
  | readReceivedMessage cookie o =>
      obtain ⟨hcode, hstate⟩ := alike_readReceivedMessage cookie o h
      exact ⟨congrArg some hcode, hstate⟩
  | restartBus dropped =>
      refine ⟨rfl, h.cookies, h.i2cVectorMap, h.busCheckCounter, ?_⟩
      exact congrArg (Guards.drop dropped) h.guards

/-- **From like interfaces all calls return the same.** -/
theorem codes_of_alike {s t : Interface} (h : s.Alike t) (later : List Event) :
    shown Event.code Interface.step later s = shown Event.code Interface.step later t :=
  shown_congr (fun e _ _ h => (h.step e).1) (fun e _ _ h => (h.step e).2) later s t h

section Rejected

variable {c : CookieId} {requestLen : Nat} {o : CallOutcome} {s : Interface}

theorem Interface.Alike.trans {s t u : Interface} (h : s.Alike t) (h' : t.Alike u) : s.Alike u := by
  refine ⟨fun c => ?_, h.i2cVectorMap.trans h'.i2cVectorMap,
    h.busCheckCounter.trans h'.busCheckCounter, h.guards.trans h'.guards⟩
  have hst := h.cookies c
  have htu := h'.cookies c
  refine ⟨hst.logicalAddress.trans htu.logicalAddress, hst.i2cComType.trans htu.i2cComType,
    hst.i2cTransferStatus.trans htu.i2cTransferStatus, hst.messageSent.trans htu.messageSent,
    hst.semaphResetCounter.trans htu.semaphResetCounter, fun htype => ?_⟩
  exact (hst.readSize htype).trans (htu.readSize (hst.i2cComType.symm.trans htype))

/-- A change of the transfer of a cookie that is not of the consecutive type. -/
theorem alike_setTransfer (f : Cookie → GenericTransfer)
    (htype : (s.cookies c).i2cComType ≠ .consecutiveWriteRead) :
    (s.setCookie c fun k => { k with i2cTransferStruct := f k }).Alike s := by
  refine ⟨fun j => ?_, rfl, rfl, rfl⟩
  by_cases hj : j = c
  · subst hj
    rw [cookies_setCookie_self]
    exact ⟨rfl, rfl, rfl, rfl, rfl, fun h => absurd h htype⟩
  · rw [cookies_setCookie_of_ne hj]
    exact .refl _

theorem i2cComType_setTransfer (f : Cookie → GenericTransfer) (c : CookieId) (s : Interface) :
    ((s.setCookie c fun k => { k with i2cTransferStruct := f k }).cookies c).i2cComType =
      (s.cookies c).i2cComType := by
  rw [cookies_setCookie_self]

/-- In front of its semaphore a request changes only the transfer. -/
theorem alike_prepareRequest (htype : (s.cookies c).i2cComType ≠ .consecutiveWriteRead) :
    (prepareRequest (some c) requestLen s).2.Alike s := by
  have hset : (setReceiveDataSize c requestLen s).Alike s := alike_setTransfer _ htype
  have htype' : ((setReceiveDataSize c requestLen s).cookies c).i2cComType ≠ .consecutiveWriteRead := by
    rwa [setReceiveDataSize, i2cComType_setTransfer]
  have hread : (prepareI2cReadTransfer c requestLen (setReceiveDataSize c requestLen s)).2.Alike s := by
    have hprepared : (prepareI2cGenericTransfer c .read (setReceiveDataSize c requestLen s)).Alike
        (setReceiveDataSize c requestLen s) := by
      refine ⟨fun j => ?_, rfl, rfl, rfl⟩
      by_cases hj : j = c
      · subst hj
        rw [prepareI2cGenericTransfer, cookies_setCookie_self]
        exact ⟨rfl, rfl, rfl, rfl, rfl, fun _ => rfl⟩
      · rw [prepareI2cGenericTransfer, cookies_setCookie_of_ne hj]
        exact .refl _
    have hagain : (setReceiveDataSize c requestLen
        (prepareI2cGenericTransfer c .read (setReceiveDataSize c requestLen s))).Alike
        (prepareI2cGenericTransfer c .read (setReceiveDataSize c requestLen s)) := by
      apply alike_setTransfer
      rwa [(hprepared.cookies c).i2cComType]
    unfold prepareI2cReadTransfer
    dsimp only
    split
    · exact hprepared.trans hset
    · split
      · exact hprepared.trans hset
      · exact hagain.trans (hprepared.trans hset)
  unfold prepareRequest
  dsimp only
  split
  · exact hset
  · split
    · exact hset
    · split
      · rename_i heq
        rwa [heq] at hread
      · rename_i heq
        rwa [heq] at hread

/-- The driver and the semaphore reject nothing because of its size. -/
theorem startRequest_ne_tooSmall (c : CookieId) (o : CallOutcome) (s : Interface) :
    (startRequest c o s).1 ≠ some .i2cRxBufferTooSmall := by
  unfold startRequest queueTransfer handleI2cTransferInitResult
  dsimp only
  split
  · exact fun h => nomatch h
  · split
    · exact fun h => nomatch h
    · split
      · exact fun h => nomatch h
      · split
        · exact fun h => nomatch h
        · exact fun h => nomatch h

/-- **A rejected request changes only the transfer of its cookie.** -/
theorem alike_of_rejected
    (hrejected : (requestReceiveMessage (some c) requestLen o s).1 = some .i2cRxBufferTooSmall) :
    (requestReceiveMessage (some c) requestLen o s).2.Alike s := by
  have htype : (s.cookies c).i2cComType ≠ .consecutiveWriteRead := by
    intro htype
    have hat : prepareRequest (some c) requestLen s =
        (.error none, setReceiveDataSize c requestLen s) := if_pos (Or.inr htype)
    rw [requestReceiveMessage, hat] at hrejected
    cases hrejected
  have hprepared : (prepareRequest (some c) requestLen s).2.Alike s := alike_prepareRequest htype
  unfold requestReceiveMessage at hrejected ⊢
  rcases hresult : prepareRequest (some c) requestLen s with ⟨result | c', s'⟩
  · rwa [hresult] at hprepared
  · rw [hresult] at hrejected
    exact absurd hrejected (startRequest_ne_tooSmall c' o s')

end Rejected

/-- A request that is rejected as too long changes the result of no later call, whatever follows. Cookies
    of the consecutive type have their length checked when they send: there the next request takes the
    place of the last. -/
structure Interface.ForgetsRejected (s : Interface) : Prop where
  separate : ∀ c requestLen o,
    (requestReceiveMessage (some c) requestLen o s).1 = some .i2cRxBufferTooSmall → ∀ later,
      shown Event.code Interface.step later (s.step (.requestReceiveMessage (some c) requestLen o)) =
        shown Event.code Interface.step later s
  consecutive : ∀ c requestLen requestLen' o o', (s.cookies c).i2cComType = .consecutiveWriteRead →
    (s.step (.requestReceiveMessage (some c) requestLen o)).step
        (.requestReceiveMessage (some c) requestLen' o') =
      s.step (.requestReceiveMessage (some c) requestLen' o')

/-- A request of the consecutive type only notes its length. -/
theorem step_request_of_consecutive {c : CookieId} {s : Interface}
    (htype : (s.cookies c).i2cComType = .consecutiveWriteRead) (requestLen : Nat) (o : CallOutcome) :
    s.step (.requestReceiveMessage (some c) requestLen o) = setReceiveDataSize c requestLen s := by
  have hat : prepareRequest (some c) requestLen s =
      (.error none, setReceiveDataSize c requestLen s) := if_pos (Or.inr htype)
  rw [Interface.step, requestReceiveMessage, hat]

theorem forgetsRejected (s : Interface) : s.ForgetsRejected := by
  constructor
  · intro c requestLen o hrejected later
    exact codes_of_alike (alike_of_rejected hrejected) later
  · intro c requestLen requestLen' o o' htype
    have htype' : ((setReceiveDataSize c requestLen s).cookies c).i2cComType = .consecutiveWriteRead := by
      rwa [setReceiveDataSize, i2cComType_setTransfer]
    rw [step_request_of_consecutive htype, step_request_of_consecutive htype,
      step_request_of_consecutive htype']
    simp [setReceiveDataSize, Interface.setCookie]

/-- **The read sizes of the bus.** In every run, the transfers the driver has taken read no more than
    their reply buffers hold, and rejected requests are forgotten, exactly if no length that is too long
    is requested for a cookie with a transfer in flight or a send behind it. -/
theorem run_readSizesFit_iff (logicalAddress : CookieId → Nat)
    (i2cComType : CookieId → I2cCommunicationType) (i2cVectorMap : Nat → Option Nat)
    (events : List Event) :
    let initial := Interface.initial logicalAddress i2cComType i2cVectorMap
    (∀ reached, reached <+: events → (run Interface.step reached initial).ReadSizesFit ∧
      (run Interface.step reached initial).ForgetsRejected) ↔
    AlongRun SizeGood Interface.step events initial := by
  intro initial
  have hinitial : initial.ReadSizesFit := fun c hflight => absurd hflight List.not_mem_nil
  rw [← forall_run_iff fit_step_iff events initial hinitial]
  constructor
  · exact fun h reached hreached => (h reached hreached).1
  · exact fun h reached hreached => ⟨h reached hreached, forgetsRejected _⟩

/-- A reply of 4 bytes is requested, and while it is on its way one of 100 bytes. -/
def requestedTwice : List Event :=
  [.requestReceiveMessage (some 0) 4 .queued, .requestReceiveMessage (some 0) 100 .queued]

/-- A reply of 100 bytes is requested and rejected, and then a byte is sent. -/
def sentBehindRejected : List Event :=
  [.requestReceiveMessage (some 0) 100 .queued, .sendMessage (some 0) (some [1]) .queued]

/-- **The read that is on its way gets the length that was rejected, and so does the next write.** -/
theorem rejected_length_is_queued :
    ¬ (∀ reached, reached <+: requestedTwice → (run Interface.step reached twoCookies).ReadSizesFit) ∧
    ¬ ∀ reached, reached <+: sentBehindRejected →
      (run Interface.step reached twoCookies).ReadSizesFit := by
  constructor
  · intro h
    have hfit := h requestedTwice (List.prefix_refl _) 0 List.mem_cons_self
    exact absurd hfit (by decide)
  · intro h
    have hfit := h sentBehindRejected (List.prefix_refl _) 0 List.mem_cons_self
    exact absurd hfit (by decide)

end I2c
end Obsw
