import Obsw.Engine.NorQuiet

/-!
# `Engine.NorSectors` — the sectors a copy erases and writes

The log of a copy is a row of erase commands followed by writes, and a write is in place if its sector
is among those erased before (`SectorsRespected`). The erase step reaches the sectors of the first
`erasedBytes` bytes of a target: all of those of the bootloader, but not the last one of an image, whose
table repeats sector 21 in place of sector 22. A file up to that length keeps to its sectors
(`norSectors`); any longer one is written outside them (`not_sectorSafe_of_lt`), as nothing compares its
length with the reserved size.
-/

namespace Obsw
namespace Engine

open Memory LittleEndian Device Loop ImageCopyingEngine

variable {hal : NorHal} {target : NorTarget}

/-! ## The property -/

/-- The sectors reserved for the target. -/
def NorTarget.Reserves : NorTarget → Nat → Prop
  | bootloader, sector => sector < reservedBlSectors
  | _, sector => reservedBlSectors ≤ sector ∧ sector < norflashSectorsNumber

/-- The commands keep to the target's sectors: only they are erased, and every cell written lies in
    one of them that has been erased before. -/
structure SectorsRespected (target : NorTarget) (commands : List FlashCommand) : Prop where
  erases : ∀ a, .erase a ∈ commands → target.Reserves (sectorOf a)
  writes : ∀ earlier a n later, commands = earlier ++ .write a n :: later →
    ∀ i, a ≤ i → i < a + n →
      target.Reserves (sectorOf i) ∧ ∃ b, .erase b ∈ earlier ∧ sectorOf b = sectorOf i

/-- A copy to the target keeps to its sectors in every state a call leaves it in, and is not finished
    for a file that is longer than the reserved size. -/
def SectorSafe (hal : NorHal) (target : NorTarget) (card : Card) : Prop :=
  ∀ (calls : List NorCall) (s s' : NorState) (e : ImageCopyingEngine),
    s.engine = startNorCopy target e → s.commands = [] →
    (passes (fun _ => true) (norCall hal card) calls s = some s' →
      SectorsRespected target s'.commands) ∧
    ∀ r, norRun hal card calls s = some (r, s') → SectorsRespected target s'.commands ∧
      (target.reserved < (fileBytes card target.path).length → r ≠ .operationFinished)

/-- The bytes from the base address on whose sectors the erase step reaches. -/
def NorTarget.erasedBytes : NorTarget → Nat
  | bootloader => bootloaderReservedSize
  | _ => 13 * norflashLargeSectorSize

/-! ## Sectors of the target -/

theorem sectorOf_sectorAddress {i : Nat} (h : i < norflashSectorsNumber) :
    sectorOf (hal.sectorAddress i) = i := by
  have hi : i < 23 := h
  rw [hal.sectorAddress_eq h, sectorOf_eq]
  split_ifs <;> omega

/-- The table of the erase loop of an image. -/
theorem obswEraseSector_eq : ∀ k < 14, obswEraseSector k = if k = 13 then 21 else 9 + k := by decide

/-- Every sector of the erase loop is reserved. -/
theorem reserves_erasedSector (target : NorTarget) {k : Nat} (h : k < target.eraseSteps) :
    target.Reserves (target.erasedSector k) ∧ target.erasedSector k < norflashSectorsNumber := by
  cases target with
  | bootloader =>
      have hk : k < 9 := h
      exact ⟨hk, show k < 23 by omega⟩
  | obswSlot0 | obswSlot1 =>
      have hk : k < 14 := h
      show (9 ≤ obswEraseSector k ∧ obswEraseSector k < 23) ∧ obswEraseSector k < 23
      rw [obswEraseSector_eq k hk]
      split_ifs <;> omega

/-- The sector of each of the first `erasedBytes` cells is erased in some pass of the erase loop. -/
theorem exists_erasedSector (target : NorTarget) {i : Nat} (hbase : target.base ≤ i)
    (hlt : i < target.base + target.erasedBytes) :
    ∃ k < target.eraseSteps, target.erasedSector k = sectorOf i := by
  cases target with
  | bootloader =>
      have hi : i < 0 + 131072 := hlt
      refine ⟨sectorOf i, ?_, rfl⟩
      show sectorOf i < 9
      rw [sectorOf_eq]
      split_ifs <;> omega
  | obswSlot0 | obswSlot1 =>
      have hi : 131072 ≤ i := hbase
      have hi' : i < 131072 + 851968 := hlt
      have hsector : sectorOf i = 9 + (i - 131072) / 65536 := by
        rw [sectorOf_eq, if_neg (by omega)]
        omega
      refine ⟨(i - 131072) / 65536, show _ < 14 by omega, ?_⟩
      show obswEraseSector _ = _
      rw [obswEraseSector_eq _ (by omega), if_neg (by omega), hsector]

/-! ## The log of a copy -/

/-- The erase commands of the first `k` passes of the erase loop. -/
def eraseCommands (hal : NorHal) (target : NorTarget) (k : Nat) : List FlashCommand :=
  (List.range k).map fun step => .erase (eraseAddress hal target step)

theorem eraseCommands_succ (hal : NorHal) (target : NorTarget) (k : Nat) :
    eraseCommands hal target (k + 1) =
      eraseCommands hal target k ++ [.erase (eraseAddress hal target k)] := by
  simp [eraseCommands, List.range_succ]

theorem mem_eraseCommands {k : Nat} {c : FlashCommand} :
    c ∈ eraseCommands hal target k ↔ ∃ step < k, c = .erase (eraseAddress hal target step) := by
  simp only [eraseCommands, List.mem_map, List.mem_range]
  exact ⟨fun ⟨step, hlt, h⟩ => ⟨step, hlt, h.symm⟩, fun ⟨step, hlt, h⟩ => ⟨step, hlt, h.symm⟩⟩

/-- A write among the cells whose sectors the erase step reaches. -/
def InErased (target : NorTarget) (c : FlashCommand) : Prop :=
  ∃ a n, c = .write a n ∧ target.base ≤ a ∧ a + n ≤ target.base + target.erasedBytes

/-- The log behind `k` erase commands: they are followed by writes only if they are all. -/
def SectorLog (hal : NorHal) (target : NorTarget) (k : Nat) (commands : List FlashCommand) : Prop :=
  k ≤ target.eraseSteps ∧ ∃ writes, commands = eraseCommands hal target k ++ writes ∧
    (writes = [] ∨ k = target.eraseSteps) ∧ ∀ c ∈ writes, InErased target c

/-- **Such a log keeps to the target's sectors.** -/
theorem SectorLog.respected {k : Nat} {commands : List FlashCommand}
    (h : SectorLog hal target k commands) : SectorsRespected target commands := by
  obtain ⟨hk, writes, rfl, hall, hwrites⟩ := h
  constructor
  · intro a ha
    rcases List.mem_append.mp ha with h | h
    · obtain ⟨step, hstep, heq⟩ := mem_eraseCommands.mp h
      obtain ⟨hreserves, hlt⟩ := reserves_erasedSector target (by omega : step < _)
      rw [FlashCommand.erase.inj heq, eraseAddress, sectorOf_sectorAddress hlt]
      exact hreserves
    · obtain ⟨_, _, hno, _⟩ := hwrites _ h
      cases hno
  · intro earlier a n later heq i hi hi'
    -- the write is not among the erase commands, so they all lie before it
    have hsplit := exists_append_of_notMem heq fun hc => by
      obtain ⟨_, _, hno⟩ := mem_eraseCommands.mp hc
      cases hno
    obtain ⟨⟨rest, rfl⟩, hmem⟩ := hsplit
    obtain ⟨_, _, heq', hbase, hend⟩ := hwrites _ hmem
    obtain ⟨rfl, rfl⟩ := FlashCommand.write.inj heq'
    obtain rfl : k = target.eraseSteps := hall.resolve_left (List.ne_nil_of_mem hmem)
    obtain ⟨step, hstep, hsector⟩ := exists_erasedSector target (i := i) (by omega) (by omega)
    obtain ⟨hreserves, hlt⟩ := reserves_erasedSector target hstep
    rw [← hsector]
    refine ⟨hreserves, _, List.mem_append_left _ (mem_eraseCommands.mpr ⟨step, hstep, rfl⟩), ?_⟩
    exact sectorOf_sectorAddress hlt

/-! ## Files up to the reach of the erase step -/

theorem NorTarget.erasedBytes_le (target : NorTarget) : target.erasedBytes ≤ target.reserved := by
  cases target <;> decide

theorem SectorLog.write {k a n : Nat} {commands : List FlashCommand}
    (h : SectorLog hal target k commands) (hk : k = target.eraseSteps) (hbase : target.base ≤ a)
    (hend : a + n ≤ target.base + target.erasedBytes) :
    SectorLog hal target k (commands ++ [.write a n]) := by
  obtain ⟨hle, writes, rfl, _, hwrites⟩ := h
  refine ⟨hle, writes ++ [.write a n], List.append_assoc _ _ _, .inr hk, fun c hc => ?_⟩
  rcases List.mem_append.mp hc with h | h
  · exact hwrites c h
  · exact ⟨a, n, List.mem_singleton.mp h, hbase, hend⟩

theorem sectorLog_erase {step : Nat} {commands : List FlashCommand} (hlt : step < target.eraseSteps)
    (h : commands = eraseCommands hal target step) :
    commands ++ [.erase (eraseAddress hal target step)] = eraseCommands hal target (step + 1) ∧
      SectorLog hal target (step + 1) (commands ++ [.erase (eraseAddress hal target step)]) := by
  rw [h, ← eraseCommands_succ]
  exact ⟨rfl, hlt, [], (List.append_nil _).symm, .inl rfl, fun c hc => by cases hc⟩

variable {xs : List UInt8}

/-- The bucket of a file within the reach of the erase step is written within it. -/
theorem SectorLog.writeBucket {e : ImageCopyingEngine} {commands : List FlashCommand}
    (h : SectorLog hal target target.eraseSteps commands) (hle : xs.length ≤ target.erasedBytes)
    (hcontrol : CopyControl target xs.length e) (hsize : e.currentFileSize = xs.length)
    (hlt : e.currentByteIdx < xs.length) :
    SectorLog hal target target.eraseSteps
      (commands ++ [.write (writeAddress hal e) (bucketSize e)]) := by
  have hbucket := idx_add_bucketSize_le hsize hlt
  have hreserved := target.erasedBytes_le
  rw [writeAddress_eq hcontrol (by omega)]
  exact h.write rfl (by omega) (by omega)

/-- The fields behind the bootloader lie in its last sector. -/
theorem SectorLog.writeFields {pass : NorPass} {s : NorState}
    (h : SectorLog hal target target.eraseSteps s.commands) (htarget : target = .bootloader) :
    SectorLog hal target target.eraseSteps (writeBootloaderSizeAndCrc hal pass s).commands := by
  subst htarget
  have hsplit : (writeBootloaderSizeAndCrc hal pass s).commands =
      s.commands ++ [.write norflashBlSizeStart 4] ++ [.write norflashBlCrc16Start 2] := by
    rw [List.append_assoc]
    rfl
  rw [hsplit]
  exact (h.write rfl (by decide) (by decide)).write rfl (by decide) (by decide)

/-- **Log invariant.** -/
def norSectors (hal : NorHal) (hle : xs.length ≤ target.erasedBytes) :
    NorInvariant hal target xs (fun _ _ => True) where
  Erasing step _ commands :=
    commands = eraseCommands hal target step ∧ SectorLog hal target step commands
  Copying idx _ _ _ commands :=
    idx ≤ xs.length ∧ SectorLog hal target target.eraseSteps commands
  Ended _ _ commands := ∃ k, SectorLog hal target k commands
  erase hlt h := sectorLog_erase hlt h.1
  eraseFails hlt h _ := ⟨_, (sectorLog_erase hlt h.1).2⟩
  erasingEnds h := ⟨_, h.2⟩
  switch h := ⟨Nat.zero_le _, h.2⟩
  bound h := h.1.trans (hle.trans target.erasedBytes_le)
  pass {pass file s r file' s'} _ hcontrol hsize hlt _ hinv hstep := by
    have hwritten := hinv.2.writeBucket hle hcontrol hsize hlt
    cases hstep with
    | notRead hr _ _ hsame _ _ hcommands =>
        rw [hsame.idx, hcommands]
        exact ⟨fun _ => hinv, fun _ => ⟨_, hinv.2⟩⟩
    | notWritten hr _ _ hsame _ _ _ hcommands =>
        rw [hsame.idx, hcommands]
        exact ⟨fun _ => ⟨hinv.1, hwritten⟩, fun _ => ⟨_, hwritten⟩⟩
    | written _ _ hmore _ _ _ _ hidx _ _ _ hcommands =>
        rw [hidx, hcommands]
        exact ⟨fun _ => ⟨by omega, hwritten⟩, fun _ => ⟨_, hwritten⟩⟩
    | @finished t _ _ _ _ _ _ _ hcommands₁ _ hcommands =>
        refine ⟨fun h => (by rcases h with h | h <;> cases h), fun _ => ⟨target.eraseSteps, ?_⟩⟩
        rw [← hcommands₁] at hwritten
        rw [hcommands, hcontrol.source]
        by_cases htarget : target = .bootloader
        · rw [if_pos (by rw [htarget]; rfl)]
          exact hwritten.writeFields htarget
        · rw [if_neg (NorTarget.obsw_spec htarget).1]
          exact hwritten
  copyingEnds _ h := ⟨_, h.2⟩

theorem sectorSafe_of_le {card : Card}
    (hle : (fileBytes card target.path).length ≤ target.erasedBytes) :
    SectorSafe hal target card := by
  intro calls s s' e hstart hempty
  have hreserved := target.erasedBytes_le
  have hgood : RunGood (fun _ _ => True) hal card calls s := runGood_of_mem (fun _ _ _ _ _ => trivial) s
  have hprogress : (norSectors hal hle).InProgress s :=
    (norSectors hal hle).startNorCopy_inProgress e hstart
      ⟨hempty, Nat.zero_le _, [], hempty, .inl rfl, fun c hc => by cases hc⟩
  refine ⟨fun h => ?_, fun r h => ⟨?_, fun hno => by omega⟩⟩
  · rcases (norSectors hal hle).norRun_inProgress hprogress hgood h with herase | hcopy
    · exact herase.2.2.respected
    · exact hcopy.2.2.respected
  · obtain ⟨k, hlog⟩ := (norSectors hal hle).norRun_ended hprogress hgood h
    exact hlog.respected

/-! ## Longer files -/

/-- The log behind the erase step, whatever file is to be copied. -/
def norErased (hal : NorHal) (target : NorTarget) (xs : List UInt8) :
    NorInvariant hal target xs (fun _ _ => False) where
  Erasing step _ commands := commands = eraseCommands hal target step
  Copying idx _ _ _ _ := idx = 0
  Ended _ _ _ := True
  erase _ h := by rw [h, eraseCommands_succ]
  eraseFails _ _ _ := trivial
  erasingEnds _ := trivial
  switch _ := rfl
  bound h := h ▸ Nat.zero_le _
  pass hgood := hgood.elim
  copyingEnds _ _ := trivial

theorem eraseStep_commands {card : Card} {call : NorCall} {s s' : NorState} {e : ImageCopyingEngine}
    (hstart : s.engine = startNorCopy target e) (hempty : s.commands = [])
    (h : eraseStep hal card call s = some (.returnOk, s')) :
    s'.commands = eraseCommands hal target target.eraseSteps := by
  rcases (norErased hal target _).startNorCopy_inProgress e hstart hempty with herase | hcopy
  · rcases (norErased hal target _).eraseStep_spec herase h with ⟨_, hdone⟩ | ⟨hno, _⟩ | ⟨hno, _⟩
    · exact hdone.2.2.2.2.2
    · cases hno
    · cases hno
  · have hidle : s.engine.internalState = .idle := by
      rw [hstart]
      cases target <;> rfl
    exact absurd (hcopy.1.internal.symm.trans hidle) (by decide)

/-- The bucket behind the reach of the erase step lies in a sector that is not erased. -/
theorem erasedSector_ne_writeAddress {n : Nat} {e : ImageCopyingEngine}
    (h : CopyControl target n e) (hidx : e.currentByteIdx = target.erasedBytes) :
    ∀ k < target.eraseSteps, target.erasedSector k ≠ sectorOf (writeAddress hal e) := by
  intro k hk
  have hstep := h.step_lt (hidx ▸ target.erasedBytes_le)
  cases target with
  | bootloader =>
      have hk : k < 9 := hk
      rw [writeAddress_beyond h (by rw [hidx]; decide) (by omega)]
      show k ≠ sectorOf 0xffffffff
      have hsector : sectorOf 0xffffffff = 65542 := by decide
      omega
  | obswSlot0 | obswSlot1 =>
      have hk : k < 14 := hk
      rw [writeAddress_eq h (by rw [hidx]; decide), hidx]
      show obswEraseSector k ≠ 22
      rw [obswEraseSector_eq k hk]
      split_ifs <;> omega

/-- A quiet pass logs the write of its bucket, and no erase command. -/
theorem AtBucket.log {xs : List UInt8} {pass : NorPass} {s : NorLoop} {file' : FFile}
    {s' : NorState} {r : ReturnValue} (h : AtBucket target xs s) (hq : Quiet pass)
    (hperform : performNorCopyOperation hal pass s.1 s.2 = (r, file', s')) :
    .write (writeAddress hal s.2.engine) (bucketSize s.2.engine) ∈ s'.commands ∧
      ∀ b, FlashCommand.erase b ∈ s'.commands → .erase b ∈ s.2.commands := by
  suffices hlog : ∃ more, s'.commands = s.2.commands ++
      .write (writeAddress hal s.2.engine) (bucketSize s.2.engine) :: more ∧
      ∀ b, FlashCommand.erase b ∉ more by
    obtain ⟨more, heq, hmore⟩ := hlog
    rw [heq]
    refine ⟨List.mem_append_right _ List.mem_cons_self, fun b hb => ?_⟩
    rcases List.mem_append.mp hb with hb | hb
    · exact hb
    · rcases List.mem_cons.mp hb with hb | hb
      · cases hb
      · exact absurd hb (hmore b)
  cases h.step hperform with
  | notRead _ _ hshort => exact absurd hshort (by rw [h.read hq.read]; exact lt_irrefl _)
  | notWritten _ _ hwrite => exact absurd hq.write hwrite
  | written _ _ _ _ _ _ _ _ _ _ _ hcommands => exact ⟨[], hcommands, fun b hb => by cases hb⟩
  | @finished t _ _ _ _ _ _ _ hcommands₁ _ hcommands =>
      rw [hcommands]
      by_cases hslot : s.2.engine.sourceSlot = .bootloader0
      · rw [if_pos hslot]
        refine ⟨[.write norflashBlSizeStart 4, .write norflashBlCrc16Start 2], ?_, by simp⟩
        show t.commands ++ _ = _
        rw [hcommands₁, List.append_assoc]
        rfl
      · rw [if_neg hslot, hcommands₁]
        exact ⟨[], rfl, fun b hb => by cases hb⟩

/-- A write at an address whose sector is not erased is not in place. -/
theorem not_sectorsRespected (hal : NorHal) {commands : List FlashCommand} {a n : Nat} (hn : 0 < n)
    (hwrite : .write a n ∈ commands)
    (herases : ∀ b, FlashCommand.erase b ∈ commands →
      .erase b ∈ eraseCommands hal target target.eraseSteps)
    (hsector : ∀ k < target.eraseSteps, target.erasedSector k ≠ sectorOf a) :
    ¬ SectorsRespected target commands := by
  intro h
  obtain ⟨earlier, later, rfl⟩ := List.append_of_mem hwrite
  obtain ⟨_, b, hb, heq⟩ := h.writes earlier a n later rfl a le_rfl (by omega)
  obtain ⟨step, hstep, hb'⟩ := mem_eraseCommands.mp (herases b (List.mem_append_left _ hb))
  apply hsector step hstep
  rw [← heq, FlashCommand.erase.inj hb', eraseAddress,
    sectorOf_sectorAddress (reserves_erasedSector target hstep).2]

/-- A pass that is interrupted behind its bucket. -/
def interruptedPass : NorPass := { quietPass with timedOut := true }

/-- The call that gets to the bucket behind the reach of the erase step. -/
def overlongCall (target : NorTarget) : NorCall :=
  quietCall target
    (List.replicate (target.erasedBytes / norflashSmallSectorSize) quietPass ++ [interruptedPass])

/-- **A longer file is not kept to the sectors**, in a run in which nothing fails. -/
theorem not_sectorSafe_of_lt (hal : NorHal) {card : Card}
    (hlt : target.erasedBytes < (fileBytes card target.path).length) :
    ¬ SectorSafe hal target card := by
  intro hsafe
  have hstart : (startedState target).engine = startNorCopy target initial := rfl
  have hpos : 0 < (fileBytes card target.path).length := by omega
  obtain ⟨s₁, t₀, herase, hat₀, hidx₀, _, _, hcommands₀, hcall⟩ :=
    copySdCardImageToNorFlash_quiet hal
      (List.replicate (target.erasedBytes / norflashSmallSectorSize) quietPass ++ [interruptedPass])
      hstart hpos
  have hreach : norflashSmallSectorSize * (target.erasedBytes / norflashSmallSectorSize) =
      target.erasedBytes := by cases target <;> decide
  have hreserved := target.erasedBytes_le
  obtain ⟨t, hpasses, hat, hidx, herases⟩ := passes_quiet hal
    (target.erasedBytes / norflashSmallSectorSize) hat₀ (by omega) (by omega)
  rcases hperform : performNorCopyOperation hal interruptedPass t.1 t.2 with ⟨r, file', s'⟩
  have hquiet : Quiet interruptedPass := ⟨le_rfl, rfl⟩
  obtain ⟨hwrite, hlog⟩ := hat.log hquiet hperform
  have hbad : ¬ SectorsRespected target s'.commands := by
    have hsize := hat.size
    have hlt' := hat.lt
    refine not_sectorsRespected hal (bucketSize_pos (by omega)) hwrite (fun b hb => ?_)
      (erasedSector_ne_writeAddress hat.control (by omega))
    have hb₀ := herases b (hlog b hb)
    rwa [hcommands₀, eraseStep_commands hstart rfl herase] at hb₀
  have hr : r = if (fileBytes card target.path).length ≤ t.2.engine.currentByteIdx +
      norflashSmallSectorSize then .operationFinished else .taskPeriodOverSoon :=
    hat.result hquiet hperform
  have hloop (v : ReturnValue) (hv : copyPass hal interruptedPass t = some (.ret v (file', s'))) :
      copySdCardImageToNorFlash hal card (overlongCall target) (startedState target) =
        some (v, s') := by
    unfold overlongCall
    rw [hcall]
    unfold copyLoop
    rw [whileLoop_append hpasses, whileLoop_ret rfl hv]
  -- the file ends with this bucket, or the call is to be continued
  split_ifs at hr with hlast
  · have hpass : copyPass hal interruptedPass t = some (.ret .operationFinished (file', s')) := by
      unfold copyPass
      rw [hperform, hr]
    have hend : norCall hal card (overlongCall target) (startedState target) =
        some (.ret .operationFinished s') := by
      unfold norCall
      rw [hloop _ hpass]
    have hrun : norRun hal card [overlongCall target] (startedState target) =
        some (.operationFinished, s') := by
      unfold norRun
      rw [whileLoop_ret rfl hend]
    exact hbad ((hsafe _ _ _ _ hstart rfl).2 _ hrun).1
  · have hpass : copyPass hal interruptedPass t = some (.ret .taskPeriodOverSoon (file', s')) := by
      unfold copyPass
      rw [hperform, hr]
    have hnext : norCall hal card (overlongCall target) (startedState target) = some (.next s') := by
      unfold norCall
      rw [hloop _ hpass]
    have hrun : passes (fun _ => true) (norCall hal card) [overlongCall target]
        (startedState target) = some s' := passes_cons rfl hnext
    exact hbad ((hsafe _ _ _ _ hstart rfl).1 hrun)

/-- **Sectors of a copy.** The copy to a target keeps to the target's sectors, over every run, exactly
    if the file is no longer than what the erase step reaches. -/
theorem norCopy_sectorSafe_iff (hal : NorHal) (target : NorTarget) (card : Card) :
    SectorSafe hal target card ↔ (fileBytes card target.path).length ≤ target.erasedBytes :=
  ⟨fun h => Nat.le_of_not_lt fun hlt => not_sectorSafe_of_lt hal hlt h, sectorSafe_of_le⟩

/-- An image that fits in the reserved size and reaches its last sector. -/
def largeImage : SdFile where
  bytes := List.replicate (NorTarget.obswSlot0.erasedBytes + 1) 0
  length_lt := by
    rw [List.length_replicate]
    decide

/-- Such an image is written to a sector that was not erased. -/
theorem norCopy_leaves_last_sector :
    ¬ SectorSafe overwritingNorHal .obswSlot0 (cardWith NorTarget.obswSlot0.path largeImage) := by
  apply not_sectorSafe_of_lt
  rw [fileBytes_cardWith]
  show _ < (List.replicate _ _).length
  rw [List.length_replicate]
  exact Nat.lt_succ_self _

end Engine
end Obsw
