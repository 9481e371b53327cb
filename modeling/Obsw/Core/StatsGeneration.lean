import Mathlib.Data.List.ReduceOption
import Obsw.Core.RunTimeStats
import Obsw.Core.SystemStateTask
import Obsw.Lib.Printing

/-!
# `Core.StatsGeneration` — printing the task statistics

The part of `SystemStateTask::performStatsGeneration` that prints the text into `statsVector`, behind
which `Core.SystemStateTask` sends it. The vector has 75 bytes for each of the tasks that were counted,
and for three more. The run time in ticks is divided by 100 for the percentages, and the run times of the
tasks by the result. In the print for the console, the name of a task is used as a format.

- **The lines**, as the helper functions print them.
- **The text**, with the bound of each line (`length_line_le`).
- **Safety.** `generation_safe_iff`, and the text that a safe generation leaves
  (`performStatsGeneration_report`).
-/

namespace Obsw
namespace StatsGeneration

open Printing Page RunTime

/-! ## The data -/

def configMaxTaskNameLen : Nat := 24

/-- `sizeof(configSTACK_DEPTH_TYPE)` -/
def stackDepthSize : UInt32 := 4

/-- The name in a task control block, which ends in front of its last byte. -/
structure TaskName where
  chars : List UInt8
  length_lt : chars.length < configMaxTaskNameLen
  terminated : (0 : UInt8) ∉ chars

/-- `TaskStatus_t`, of a task with a handle. -/
structure TaskStatus where
  pcTaskName : TaskName
  ulRunTimeCounter : UInt32
  usStackHighWaterMark : UInt32

/-- `Clock::TimeOfDay_t` -/
structure TimeOfDay where
  year : UInt32
  month : UInt32
  day : UInt32
  hour : UInt32
  minute : UInt32
  second : UInt32

inductive InternalState where
  | generatingStatsCsv
  | generatingStatsPrint
deriving DecidableEq, Repr

/-- The size of `statsVector`. -/
def statsSize (numberOfTasks : UInt16) : Nat := (numberOfTasks.toNat + 3) * 75

theorem statsSize_ne_zero (numberOfTasks : UInt16) : statsSize numberOfTasks ≠ 0 := by
  unfold statsSize
  omega

/-! ## The lines -/

def tab : List UInt8 := [0x09]

def timeText (t : TimeOfDay) : List UInt8 :=
  ascii "Time: " ++ zeroPadded 2 t.day.toNat ++ ascii "." ++ zeroPadded 2 t.month.toNat ++
    ascii "." ++ zeroPadded 2 t.year.toNat ++ ascii " " ++ zeroPadded 2 t.hour.toNat ++ ascii ":" ++
    zeroPadded 2 t.minute.toNat ++ ascii ":" ++ zeroPadded 2 t.second.toNat ++ ascii "\n\r"

def infoColumn : List UInt8 := ascii "10 kHz time base used for CPU statistics\n\r"

def headerColumn : List UInt8 :=
  ascii "Task Name\tAbsTime [Ticks]\tRelTime [%]\tLstRemStack [bytes]\n\r"

/-- The time and the columns of the table. -/
def writeHeader {size : Nat} (time : TimeOfDay) : Printer size :=
  andThen (sprintf (timeText time))
    (andThen (copy (infoColumn.take 50)) (copy (headerColumn.take 70)))

/-- An unsigned division, which must not be by zero. -/
def divide (a b : UInt64) : Except Fault UInt64 :=
  if b = 0 then .error .divisionByZero else .ok (a / b)

def idleName : List UInt8 := ascii "IDLE"

/-- What a line says of a task: the ticks, and what is divided by the run time. -/
structure Ticks where
  absolute : UInt32
  dividend : UInt64

def TaskStatus.ticks (task : TaskStatus) (idleTicks : UInt64) : Ticks :=
  if task.pcTaskName.chars = idleName then ⟨(idleTicks &&& 0xFFFF).toUInt32, idleTicks⟩
  else ⟨task.ulRunTimeCounter, task.ulRunTimeCounter.toUInt64⟩

/-- The bytes of the stack that were never used, in 32 bits. -/
def TaskStatus.remainingStack (task : TaskStatus) : UInt32 := task.usStackHighWaterMark * stackDepthSize

/-- The loop of `writePaddedName` that writes spaces up to the column. -/
def padName {size : Nat} : Nat → Nat → Printer size
  | 0, _, p => .ok p
  | left + 1, x, p => (p.put (p.index + x) [0x20]).bind (padName left (x + 1))

/-- `writePaddedName` at the index, which stays. The name is the format. -/
def writePaddedName {size : Nat} (pcTaskName : TaskName) : Printer size := fun p =>
  match unformatted pcTaskName.chars with
  | none => .error .noArgument
  | some text =>
    let bytesWritten := text.length
    (p.put p.index (limited configMaxTaskNameLen text)).bind
      (andThen (padName (configMaxTaskNameLen - bytesWritten) bytesWritten)
        fun p => p.put (p.index + max bytesWritten configMaxTaskNameLen) [0])

/-- The numbers of a line. -/
def numbers (separator : List UInt8) (absolute relative remaining : UInt32) : List UInt8 :=
  decimal absolute.toNat ++ separator ++ decimal relative.toNat ++ separator ++ decimal remaining.toNat

def writeDebugStatLine {size : Nat} (task : TaskStatus) (idleTicks uptimeTicks : UInt64) :
    Printer size :=
  andThen (writePaddedName task.pcTaskName) fun p =>
    let p := skip configMaxTaskNameLen p
    let ticks := task.ticks idleTicks
    (divide ticks.dividend uptimeTicks).bind fun relative =>
      snprintf (configMaxTaskNameLen + 64)
        (numbers (tab ++ tab) ticks.absolute relative.toUInt32 task.remainingStack) p

def writeCsvStatLine {size : Nat} (task : TaskStatus) (idleTicks uptimeTicks : UInt64) :
    Printer size := fun p =>
  let ticks := task.ticks idleTicks
  (divide ticks.dividend uptimeTicks).bind fun relative =>
    snprintf (configMaxTaskNameLen + 64)
      (task.pcTaskName.chars ++ ascii "," ++
        numbers (ascii ",") ticks.absolute relative.toUInt32 task.remainingStack) p

/-- The line of a task and its end. -/
def writeLine {size : Nat} (csvOrPrint : InternalState) (idleTicks uptimeTicks : UInt64)
    (task : TaskStatus) : Printer size :=
  andThen
    (if csvOrPrint = .generatingStatsCsv then writeCsvStatLine task idleTicks uptimeTicks
      else writeDebugStatLine task idleTicks uptimeTicks)
    (andThen (copy (ascii "\n")) (copy (ascii "\r")))

/-- `performStatsGeneration` up to the end of the text, on the empty vector. Entries of `taskStatArray`
    without a handle are passed over. -/
def performStatsGeneration {size : Nat} (csvOrPrint : InternalState) (uptimeTicks idleTicks : UInt64)
    (loggerTime : TimeOfDay) (taskStatArray : List (Option TaskStatus)) (p : Page size) :
    Except Fault (Page size) :=
  if size = 0 then .ok p
  else
    andThen (writeHeader loggerTime)
      (andThen (all (writeLine csvOrPrint idleTicks (uptimeTicks / 100)) taskStatArray.reduceOption)
        (copy [0])) { p with index := 0 }

/-! ## The task -/

/-- The counted tasks and the entries for them. `uxTaskGetSystemState` is given the number, and does not
    touch the entries behind. -/
structure Tasks where
  numberOfTasks : UInt16
  taskStatArray : List (Option TaskStatus)
  behind : ∀ entry ∈ taskStatArray.drop numberOfTasks.toNat, entry = none

theorem behind_replicate (numberOfTasks : UInt16) : ∀ entry ∈
    (List.replicate (numberOfTasks.toNat + 3) (none : Option TaskStatus)).drop numberOfTasks.toNat,
      entry = none := by
  intro entry hentry
  rw [List.drop_replicate] at hentry
  exact List.eq_of_mem_replicate hentry

/-- The entries as they are made. -/
def Tasks.initializeAfterTaskCreation (numberOfTasks : UInt16) : Tasks :=
  ⟨numberOfTasks, List.replicate (numberOfTasks.toNat + 3) none, behind_replicate numberOfTasks⟩

theorem Tasks.behind_read (t : Tasks) (tasks : List TaskStatus) :
    ∀ entry ∈ (if tasks.length ≤ t.numberOfTasks.toNat then
        tasks.map some ++ t.taskStatArray.drop tasks.length else t.taskStatArray).drop
          t.numberOfTasks.toNat, entry = none := by
  by_cases h : tasks.length ≤ t.numberOfTasks.toNat
  · rw [if_pos h]
    intro entry hentry
    have hdrop : (tasks.map some ++ t.taskStatArray.drop tasks.length).drop t.numberOfTasks.toNat =
        t.taskStatArray.drop t.numberOfTasks.toNat := by
      rw [List.drop_append, List.length_map, List.drop_eq_nil_of_le (by rwa [List.length_map]),
        List.nil_append, List.drop_drop, Nat.add_sub_cancel' h]
    exact t.behind entry (hdrop ▸ hentry)
  · rw [if_neg h]
    exact t.behind

/-- `uxTaskGetSystemState` with the tasks that there are. If they are too many, it does nothing. -/
def Tasks.uxTaskGetSystemState (t : Tasks) (tasks : List TaskStatus) : Tasks :=
  ⟨t.numberOfTasks, if tasks.length ≤ t.numberOfTasks.toNat then
    tasks.map some ++ t.taskStatArray.drop tasks.length else t.taskStatArray, t.behind_read tasks⟩

/-- The entries with a handle. -/
def Tasks.listed (t : Tasks) : List TaskStatus := t.taskStatArray.reduceOption

theorem Tasks.length_listed_le (t : Tasks) : t.listed.length ≤ t.numberOfTasks.toNat := by
  have hbehind : (t.taskStatArray.drop t.numberOfTasks.toNat).reduceOption = [] := by
    refine List.filterMap_eq_nil_iff.mpr fun entry hentry => ?_
    rw [t.behind entry hentry]
    rfl
  have hsplit : t.listed = (t.taskStatArray.take t.numberOfTasks.toNat).reduceOption := by
    unfold Tasks.listed
    conv_lhs => rw [← List.take_append_drop t.numberOfTasks.toNat t.taskStatArray]
    rw [List.reduceOption_append, hbehind, List.append_nil]
  rw [hsplit]
  exact (List.reduceOption_length_le _).trans (List.length_take_le _ _)

/-! ## The text -/

/-- A name that is printed as a format, up to the column. -/
def paddedName (text : List UInt8) : List UInt8 :=
  text ++ List.replicate (configMaxTaskNameLen - text.length) 0x20

/-- What stands in front of the numbers. -/
def lineName (csvOrPrint : InternalState) (task : TaskStatus) : List UInt8 :=
  if csvOrPrint = .generatingStatsCsv then task.pcTaskName.chars ++ ascii ","
  else paddedName ((unformatted task.pcTaskName.chars).getD [])

def lineSeparator (csvOrPrint : InternalState) : List UInt8 :=
  if csvOrPrint = .generatingStatsCsv then ascii "," else tab ++ tab

/-- The numbers of a task. -/
def lineNumbers (csvOrPrint : InternalState) (idleTicks uptimeTicks : UInt64) (task : TaskStatus) :
    List UInt8 :=
  numbers (lineSeparator csvOrPrint) (task.ticks idleTicks).absolute
    ((task.ticks idleTicks).dividend / uptimeTicks).toUInt32 task.remainingStack

def line (csvOrPrint : InternalState) (idleTicks uptimeTicks : UInt64) (task : TaskStatus) :
    List UInt8 :=
  lineName csvOrPrint task ++ lineNumbers csvOrPrint idleTicks uptimeTicks task ++
    (ascii "\n" ++ ascii "\r")

/-- The text with its zero. -/
def report (csvOrPrint : InternalState) (uptimeTicks idleTicks : UInt64) (loggerTime : TimeOfDay)
    (tasks : List TaskStatus) : List UInt8 :=
  timeText loggerTime ++ (infoColumn.take 50 ++ headerColumn.take 70) ++
    (tasks.flatMap (line csvOrPrint idleTicks (uptimeTicks / 100)) ++ [0])

theorem length_decimal_word_le (n : UInt32) : (decimal n.toNat).length ≤ 10 := by
  apply length_decimal_le (by decide)
  have hlt := n.toNat_lt
  omega

theorem length_numbers_le (separator : List UInt8) (absolute relative remaining : UInt32) :
    (numbers separator absolute relative remaining).length ≤ 30 + 2 * separator.length := by
  have habsolute := length_decimal_word_le absolute
  have hrelative := length_decimal_word_le relative
  have hremaining := length_decimal_word_le remaining
  simp only [numbers, List.length_append]
  omega

theorem length_timeText_le (t : TimeOfDay) : (timeText t).length ≤ 73 := by
  have hpadded : ∀ n : UInt32, (zeroPadded 2 n.toNat).length ≤ 10 := fun n => by
    have hle := length_decimal_word_le n
    rw [length_zeroPadded]
    omega
  have hday := hpadded t.day
  have hmonth := hpadded t.month
  have hyear := hpadded t.year
  have hhour := hpadded t.hour
  have hminute := hpadded t.minute
  have hsecond := hpadded t.second
  have hascii : (ascii "Time: ").length = 6 ∧ (ascii ".").length = 1 ∧ (ascii " ").length = 1 ∧
      (ascii ":").length = 1 ∧ (ascii "\n\r").length = 2 := by decide
  simp only [timeText, List.length_append, hascii]
  omega

theorem length_lineName_le (csvOrPrint : InternalState) (task : TaskStatus) :
    (lineName csvOrPrint task).length ≤ 24 := by
  have hname := task.pcTaskName.length_lt
  unfold configMaxTaskNameLen at hname
  unfold lineName
  split
  · rw [List.length_append, show (ascii ",").length = 1 by decide]
    omega
  · have hle : ((unformatted task.pcTaskName.chars).getD []).length ≤ 24 := by
      cases htext : unformatted task.pcTaskName.chars with
      | none => exact Nat.zero_le _
      | some text => exact (length_unformatted_le htext).trans (by omega)
    unfold paddedName configMaxTaskNameLen
    rw [List.length_append, List.length_replicate]
    omega

theorem length_lineNumbers_le (csvOrPrint : InternalState) (idleTicks uptimeTicks : UInt64)
    (task : TaskStatus) : (lineNumbers csvOrPrint idleTicks uptimeTicks task).length ≤ 34 := by
  have hseparator : (lineSeparator csvOrPrint).length ≤ 2 := by cases csvOrPrint <;> decide
  apply (length_numbers_le _ _ _ _).trans
  omega

/-- A line is shorter than the 75 bytes there are for it. -/
theorem length_line_le (csvOrPrint : InternalState) (idleTicks uptimeTicks : UInt64)
    (task : TaskStatus) : (line csvOrPrint idleTicks uptimeTicks task).length ≤ 60 := by
  have hname := length_lineName_le csvOrPrint task
  have hnumbers := length_lineNumbers_le csvOrPrint idleTicks uptimeTicks task
  have hend : (ascii "\n").length = 1 ∧ (ascii "\r").length = 1 := by decide
  simp only [line, List.length_append, hend]
  omega

theorem length_lines_le (csvOrPrint : InternalState) (idleTicks uptimeTicks : UInt64)
    (tasks : List TaskStatus) :
    (tasks.flatMap (line csvOrPrint idleTicks uptimeTicks)).length ≤ 60 * tasks.length := by
  induction tasks with
  | nil => exact Nat.le_refl _
  | cons task tasks ih =>
      have hline := length_line_le csvOrPrint idleTicks uptimeTicks task
      rw [List.flatMap_cons, List.length_append, List.length_cons]
      omega

/-- The text fits, with room to spare for the zeros that are printed ahead. -/
theorem length_report_lt (csvOrPrint : InternalState) (uptimeTicks idleTicks : UInt64)
    (loggerTime : TimeOfDay) (t : Tasks) :
    (report csvOrPrint uptimeTicks idleTicks loggerTime t.listed).length < statsSize t.numberOfTasks := by
  have htime := length_timeText_le loggerTime
  have hlines := length_lines_le csvOrPrint idleTicks (uptimeTicks / 100) t.listed
  have hlisted := t.length_listed_le
  have hcolumns : (infoColumn.take 50).length = 42 ∧ (headerColumn.take 70).length = 59 := by decide
  simp only [report, statsSize, List.length_append, hcolumns, List.length_singleton]
  omega

/-! ## Safety -/

/-- The task can be printed: the divisor is not 0, and a name that is used as a format needs no
    arguments. -/
def Printable (csvOrPrint : InternalState) (uptimeTicks : UInt64) (task : TaskStatus) : Prop :=
  100 ≤ uptimeTicks.toNat ∧
    (csvOrPrint = .generatingStatsPrint → unformatted task.pcTaskName.chars ≠ none)

variable {size : Nat}

theorem appends_writeHeader (loggerTime : TimeOfDay) :
    Appends (writeHeader loggerTime : Printer size)
      (timeText loggerTime ++ (infoColumn.take 50 ++ headerColumn.take 70)) :=
  appends_then (appends_sprintf _) (appends_then (appends_copy _) (appends_copy _))

theorem div_hundred_ne_zero_iff (uptimeTicks : UInt64) :
    uptimeTicks / 100 ≠ 0 ↔ 100 ≤ uptimeTicks.toNat := by
  rw [ne_eq, ← UInt64.toNat_inj, UInt64.toNat_div]
  show ¬ uptimeTicks.toNat / 100 = 0 ↔ _
  omega

theorem divide_ok {a b : UInt64} (h : b ≠ 0) : divide a b = .ok (a / b) := if_neg h

theorem divide_zero {a b : UInt64} (h : b = 0) : divide a b = .error .divisionByZero := if_pos h

/-- The loop writes spaces behind what stands at the index. -/
theorem starts_padName (left : Nat) {p : Page size} {shown text : List UInt8}
    (hindex : p.index = shown.length) (h : p.Starts (shown ++ text))
    (hroom : shown.length + text.length + left ≤ size) :
    ∃ p', padName left text.length p = .ok p' ∧
      p'.Starts (shown ++ (text ++ List.replicate left 0x20)) ∧ p'.index = p.index := by
  induction left generalizing p text with
  | zero => exact ⟨p, rfl, by rwa [List.replicate_zero, List.append_nil], rfl⟩
  | succ left ih =>
      obtain ⟨p₁, hput, hstarts, hindex₁⟩ := h.put [0x20]
        (by rw [List.length_append, List.length_singleton]; omega)
      rw [List.append_assoc] at hstarts
      have hlength : (text ++ [0x20]).length = text.length + 1 := by simp
      obtain ⟨p', hrest, hstarts', hindex'⟩ :=
        ih (hindex₁.trans hindex) hstarts (by rw [hlength]; omega)
      refine ⟨p', ?_, ?_, hindex'.trans hindex₁⟩
      · unfold padName
        rw [hindex, ← List.length_append, hput, ← hlength]
        exact hrest
      · rwa [List.append_assoc, List.singleton_append, ← List.replicate_succ] at hstarts'

/-- A name that can be a format is written up to the column, with a zero behind it. -/
theorem starts_writePaddedName {pcTaskName : TaskName} {text : List UInt8}
    (htext : unformatted pcTaskName.chars = some text) {p : Page size} {shown : List UInt8}
    (h : p.Shows shown) (hroom : shown.length + 25 ≤ size) :
    ∃ p', writePaddedName pcTaskName p = .ok p' ∧ p'.Starts (shown ++ paddedName text) ∧
      p'.index = shown.length := by
  have hlt : text.length < 24 := (length_unformatted_le htext).trans_lt pcTaskName.length_lt
  obtain ⟨p₁, hput, hstarts, hindex₁⟩ := h.starts.put (text ++ [0])
    (by rw [List.length_append, List.length_singleton]; omega)
  have hshown : p₁.Starts (shown ++ text) :=
    hstarts.mono ((List.prefix_append_right_inj shown).mpr (List.prefix_append _ _))
  -- the zero behind the name is where the first space goes
  obtain ⟨p₂, hpad, hpadded, hindex₂⟩ := starts_padName (24 - text.length)
    (hindex₁.trans h.index) hshown (by omega)
  have hlength : (shown ++ (text ++ List.replicate (24 - text.length) 0x20)).length =
      shown.length + 24 := by
    rw [List.length_append, List.length_append, List.length_replicate]
    omega
  obtain ⟨p₃, hzero, hstarts₃, hindex₃⟩ := hpadded.put [0]
    (by rw [hlength, List.length_singleton]; omega)
  have hindex : p₂.index = shown.length := hindex₂.trans (hindex₁.trans h.index)
  refine ⟨p₃, ?_, hstarts₃.mono (List.prefix_append _ _), hindex₃.trans hindex⟩
  unfold writePaddedName andThen configMaxTaskNameLen
  rw [htext]
  dsimp only
  rw [limited_of_lt hlt, h.index, hput]
  show (padName (24 - text.length) text.length p₁).bind _ = _
  rw [hpad]
  show p₂.put (p₂.index + max text.length 24) [0] = _
  rw [hindex, Nat.max_eq_right hlt.le, ← hlength]
  exact hzero

theorem appends_writeDebugStatLine {task : TaskStatus} {idleTicks uptimeTicks : UInt64}
    (huptime : uptimeTicks ≠ 0) (hname : unformatted task.pcTaskName.chars ≠ none) :
    Appends (writeDebugStatLine task idleTicks uptimeTicks : Printer size)
      (lineName .generatingStatsPrint task ++
        lineNumbers .generatingStatsPrint idleTicks uptimeTicks task) := by
  obtain ⟨text, htext⟩ := Option.ne_none_iff_exists'.mp hname
  have hpadded : lineName .generatingStatsPrint task = paddedName text := by
    unfold lineName
    rw [if_neg (by decide), htext]
    rfl
  have hcolumn : (paddedName text).length = configMaxTaskNameLen := by
    have hlt : text.length < 24 := (length_unformatted_le htext).trans_lt task.pcTaskName.length_lt
    unfold paddedName configMaxTaskNameLen
    rw [List.length_append, List.length_replicate]
    omega
  have hnumbers := length_lineNumbers_le .generatingStatsPrint idleTicks uptimeTicks task
  rw [hpadded]
  intro p shown hshows hroom
  rw [List.length_append, hcolumn] at hroom
  unfold configMaxTaskNameLen at hcolumn hroom
  obtain ⟨p₁, hwritten, hstarts, hindex⟩ := starts_writePaddedName htext hshows (by omega)
  -- the index moves on to the column, and the numbers follow there
  have hshows₁ : (skip 24 p₁).Shows (shown ++ paddedName text) := by
    refine ⟨hstarts, ?_⟩
    show p₁.index + 24 = _
    rw [hindex, List.length_append, hcolumn]
  have hlimit : (lineNumbers .generatingStatsPrint idleTicks uptimeTicks task).length < 24 + 64 := by
    omega
  obtain ⟨p', hprinted, hshows'⟩ := appends_snprintf hlimit _ _ hshows₁
    (by rw [List.length_append, hcolumn]; omega)
  refine ⟨p', ?_, by rwa [← List.append_assoc]⟩
  unfold writeDebugStatLine andThen
  rw [hwritten]
  show (divide (task.ticks idleTicks).dividend uptimeTicks).bind _ = _
  rw [divide_ok huptime]
  dsimp only [Except.bind]
  exact hprinted

theorem appends_writeCsvStatLine {task : TaskStatus} {idleTicks uptimeTicks : UInt64}
    (huptime : uptimeTicks ≠ 0) :
    Appends (writeCsvStatLine task idleTicks uptimeTicks : Printer size)
      (lineName .generatingStatsCsv task ++
        lineNumbers .generatingStatsCsv idleTicks uptimeTicks task) := by
  have hline : (writeCsvStatLine task idleTicks uptimeTicks : Printer size) =
      snprintf (configMaxTaskNameLen + 64) (lineName .generatingStatsCsv task ++
        lineNumbers .generatingStatsCsv idleTicks uptimeTicks task) := by
    funext p
    unfold writeCsvStatLine
    dsimp only
    rw [divide_ok huptime]
    rfl
  have hname := length_lineName_le .generatingStatsCsv task
  have hnumbers := length_lineNumbers_le .generatingStatsCsv idleTicks uptimeTicks task
  rw [hline]
  apply appends_snprintf
  rw [List.length_append]
  unfold configMaxTaskNameLen
  omega

theorem appends_writeLine {csvOrPrint : InternalState} {uptimeTicks : UInt64} {task : TaskStatus}
    (h : Printable csvOrPrint uptimeTicks task) (idleTicks : UInt64) :
    Appends (writeLine csvOrPrint idleTicks (uptimeTicks / 100) task : Printer size)
      (line csvOrPrint idleTicks (uptimeTicks / 100) task) := by
  have huptime : uptimeTicks / 100 ≠ 0 := (div_hundred_ne_zero_iff uptimeTicks).mpr h.1
  refine appends_then ?_ (appends_then (appends_copy _) (appends_copy _))
  cases csvOrPrint with
  | generatingStatsCsv => exact appends_writeCsvStatLine huptime
  | generatingStatsPrint => exact appends_writeDebugStatLine huptime (h.2 rfl)

/-- Every line that is printed is printable. -/
theorem printable_of_ok {csvOrPrint : InternalState} {idleTicks uptimeTicks : UInt64}
    {task : TaskStatus} {p p' : Page size}
    (h : writeLine csvOrPrint idleTicks (uptimeTicks / 100) task p = .ok p') :
    Printable csvOrPrint uptimeTicks task := by
  obtain ⟨q, hline, -⟩ := ok_of_andThen h
  rw [Printable, ← div_hundred_ne_zero_iff]
  cases csvOrPrint with
  | generatingStatsCsv =>
    rw [if_pos rfl] at hline
    refine ⟨fun hzero => ?_, fun hprint => nomatch hprint⟩
    unfold writeCsvStatLine at hline
    dsimp only at hline
    rw [divide_zero hzero] at hline
    cases hline
  | generatingStatsPrint =>
    rw [if_neg (by decide)] at hline
    obtain ⟨q', hname, hnumbers⟩ := ok_of_andThen hline
    constructor
    · intro hzero
      dsimp only at hnumbers
      rw [divide_zero hzero] at hnumbers
      cases hnumbers
    · intro _ hnone
      unfold writePaddedName at hname
      rw [hnone] at hname
      cases hname

/-- A generation whose tasks are printable leaves the report. -/
theorem performStatsGeneration_report {csvOrPrint : InternalState} {uptimeTicks : UInt64} {t : Tasks}
    (h : ∀ task ∈ t.listed, Printable csvOrPrint uptimeTicks task) (idleTicks : UInt64)
    (loggerTime : TimeOfDay) (p : Page (statsSize t.numberOfTasks)) :
    ∃ p', performStatsGeneration csvOrPrint uptimeTicks idleTicks loggerTime t.taskStatArray p =
        .ok p' ∧
      p'.Shows (report csvOrPrint uptimeTicks idleTicks loggerTime t.listed) := by
  have hlines : ∀ task ∈ t.listed, Appends
      (writeLine csvOrPrint idleTicks (uptimeTicks / 100) task : Printer (statsSize t.numberOfTasks))
      (line csvOrPrint idleTicks (uptimeTicks / 100) task) :=
    fun task htask => appends_writeLine (h task htask) idleTicks
  have happends := appends_then (appends_writeHeader loggerTime)
    (appends_then (appends_all hlines) (appends_copy [0]))
  have hroom : ([] : List UInt8).length +
      (report csvOrPrint uptimeTicks idleTicks loggerTime t.listed).length <
        statsSize t.numberOfTasks := by
    rw [List.length_nil, Nat.zero_add]
    exact length_report_lt csvOrPrint uptimeTicks idleTicks loggerTime t
  obtain ⟨p', hprinted, hshows⟩ := happends { p with index := 0 } [] ⟨List.nil_prefix, rfl⟩ hroom
  rw [List.nil_append] at hshows
  refine ⟨p', ?_, hshows⟩
  unfold performStatsGeneration
  rw [if_neg (statsSize_ne_zero t.numberOfTasks)]
  exact hprinted

/-- A generation that is through has printable tasks only. -/
theorem printable_of_generation {csvOrPrint : InternalState} {uptimeTicks idleTicks : UInt64}
    {loggerTime : TimeOfDay} {t : Tasks} {p p' : Page (statsSize t.numberOfTasks)}
    (h : performStatsGeneration csvOrPrint uptimeTicks idleTicks loggerTime t.taskStatArray p = .ok p') :
    ∀ task ∈ t.listed, Printable csvOrPrint uptimeTicks task := by
  intro task htask
  unfold performStatsGeneration at h
  rw [if_neg (statsSize_ne_zero t.numberOfTasks)] at h
  obtain ⟨p₁, -, hbehind⟩ := ok_of_andThen h
  obtain ⟨p₂, hlines, -⟩ := ok_of_andThen hbehind
  obtain ⟨q, q', hline⟩ := ok_of_all hlines task htask
  exact printable_of_ok hline

/-- **Safe statistics.** A generation writes nothing behind the vector, never divides by zero and uses no
    name that asks for arguments as a format exactly if no task is listed, or the run time is 100 ticks at
    least and, in the print for the console, the names of the listed tasks have no such directives. -/
theorem generation_safe_iff (t : Tasks) (csvOrPrint : InternalState) (c : Counters)
    (currentCounter currentIdleCounter : UInt32) (loggerTime : TimeOfDay)
    (p : Page (statsSize t.numberOfTasks)) :
    (∃ p', performStatsGeneration csvOrPrint (c.getTotalRunTimeCounter currentCounter)
        (c.getTotalIdleRunTimeCounter currentIdleCounter) loggerTime t.taskStatArray p = .ok p') ↔
      ∀ task ∈ t.listed, Printable csvOrPrint (c.getTotalRunTimeCounter currentCounter) task := by
  constructor
  · rintro ⟨p', h⟩
    exact printable_of_generation h
  · intro h
    obtain ⟨p', hprinted, -⟩ := performStatsGeneration_report h _ loggerTime p
    exact ⟨p', hprinted⟩

theorem length_lt_core : (ascii "CORE").length < configMaxTaskNameLen := by decide

theorem zero_notMem_core : (0 : UInt8) ∉ ascii "CORE" := by decide

theorem length_lt_directive : (ascii "%s").length < configMaxTaskNameLen := by decide

theorem zero_notMem_directive : (0 : UInt8) ∉ ascii "%s" := by decide

def coreName : TaskName := ⟨ascii "CORE", length_lt_core, zero_notMem_core⟩

def directiveName : TaskName := ⟨ascii "%s", length_lt_directive, zero_notMem_directive⟩

/-- A task with no time on its account. -/
def taskNamed (name : TaskName) : TaskStatus := ⟨name, 0, 400⟩

/-- One task was counted, and there is no other. -/
def only (name : TaskName) : Tasks :=
  (Tasks.initializeAfterTaskCreation 1).uxTaskGetSystemState [taskNamed name]

/-- The generation for one task, on the vector as it is made. -/
def generateFor (name : TaskName) (csvOrPrint : InternalState) (currentCounter : UInt32) :
    Except Fault (Page (statsSize (only name).numberOfTasks)) :=
  performStatsGeneration csvOrPrint (Counters.initial.getTotalRunTimeCounter currentCounter)
    (Counters.initial.getTotalIdleRunTimeCounter 0) ⟨2020, 1, 1, 0, 0, 0⟩ (only name).taskStatArray
    ⟨List.replicate _ 0, 0, List.length_replicate⟩

/-- **Statistics too early.** The counter shows 99 ticks, and the run times are divided by 0. Later, a
    name with a directive is printed. -/
theorem early_statistics_fail :
    (¬ ∃ p', generateFor coreName .generatingStatsCsv 99 = .ok p') ∧
    (¬ ∃ p', generateFor directiveName .generatingStatsPrint 100 = .ok p') ∧
    ¬ ∀ (t : Tasks) (csvOrPrint : InternalState) (c : Counters)
      (currentCounter currentIdleCounter : UInt32) (loggerTime : TimeOfDay)
      (p : Page (statsSize t.numberOfTasks)),
      ∃ p', performStatsGeneration csvOrPrint (c.getTotalRunTimeCounter currentCounter)
        (c.getTotalIdleRunTimeCounter currentIdleCounter) loggerTime t.taskStatArray p = .ok p' := by
  have hearly : ¬ ∃ p', generateFor coreName .generatingStatsCsv 99 = .ok p' := by
    rintro ⟨p', h⟩
    have huptime := (printable_of_generation h (taskNamed coreName) List.mem_cons_self).1
    exact absurd huptime (by decide)
  have hdirective : ¬ ∃ p', generateFor directiveName .generatingStatsPrint 100 = .ok p' := by
    rintro ⟨p', h⟩
    have hname := (printable_of_generation h (taskNamed directiveName) List.mem_cons_self).2 rfl
    exact absurd hname (by decide)
  exact ⟨hearly, hdirective, fun h => hearly (h (only coreName) _ _ _ _ _ _)⟩

/-! ## The text that is sent -/

/-- The task that sends what a generation left. -/
def sending {size : Nat} {p : Page size} {text : List UInt8} (h : p.Shows text)
    (csvCounter unset : UInt8) : SystemStateTask.Task :=
  ⟨p.buffer, p.index, by
    rw [h.index, p.length_eq]
    exact h.starts.length_le, csvCounter, unset⟩

/-- What is cut into parts and sent is the report. -/
theorem sending_stats {size : Nat} {p : Page size} {text : List UInt8} (h : p.Shows text)
    (csvCounter unset : UInt8) : (sending h csvCounter unset).stats = text := by
  show p.buffer.take p.index = text
  rw [h.index]
  exact (List.prefix_iff_eq_take.mp h.starts).symm

end StatsGeneration
end Obsw
