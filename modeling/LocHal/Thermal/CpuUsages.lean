import LocHal.Lib.Numeral
import Mathlib.Tactic.SplitIfs

/-!
# Times of the CPUs (`thermal/thermal.c`)

`get_cpu_usages` goes through the lines of `/proc/stat`, reads the number and the times of a CPU
from each line that begins with one, and looks up in a file of that CPU whether it is online.

* `length_getCpuUsages_le`: whatever is in the files, no more than `CPU_NUM` records are written.
* `getCpuUsages_stat`: of the lines that the kernel writes it makes the records of the times that
  are in them, and it succeeds exactly if there are `CPU_NUM` lines of CPUs and the file of each CPU
  holds a number.  A record is named after the place of its line, not after its CPU.
-/

namespace LocHal
namespace Thermal

/-- `CPU_NUM`. -/
def cpuNum : ℕ := 4

/-- `CPU_LABEL`. -/
def cpuLabel : List String := ["CPU0", "CPU1", "CPU2", "CPU3"]

/-- The text that the line of a CPU begins with. -/
def cpuMark : List Char := ['c', 'p', 'u']

/-- `EIO`. -/
def eio : ℤ := 5

/-! ## The records -/

/-- `cpu_usage_t`. -/
structure CpuUsage where
  name : String
  active : UInt64
  total : UInt64
  isOnline : Bool
deriving DecidableEq, Repr

/-- What `sscanf` reads from the line of a CPU. -/
structure CpuLine where
  cpuNum : ℤ
  user : UInt64
  nice : UInt64
  system : UInt64
  idle : UInt64
deriving DecidableEq, Repr

/-- Whether the line is not skipped. -/
def isCpuLine (line : List Char) : Bool :=
  let s := beforeNul line
  4 ≤ s.length && cpuMark.isPrefixOf s && (s.drop 3).head?.any Char.isDigit

/-- The `sscanf` of a line that is not skipped, where all five are read. -/
def scanCpuLine (line : List Char) : Option CpuLine := do
  let (cpuNum, s) ← scanInt ((beforeNul line).drop 3)
  let (user, s) ← scanUInt64 s
  let (nice, s) ← scanUInt64 s
  let (system, s) ← scanUInt64 s
  let (idle, _) ← scanUInt64 s
  return ⟨cpuNum, user, nice, system, idle⟩

/-- The files that are read: the lines of `CPU_USAGE_FILE`, and the text of `CPU_ONLINE_FILE_FORMAT`
for each CPU; there is none of a file that cannot be opened. -/
structure Files where
  stat : Option (List (List Char))
  online : ℤ → Option (List Char)

/-- Why `get_cpu_usages` fails. -/
inductive Failure where
  | notOpened
  | notRead
  | incorrectFormat
deriving DecidableEq, Repr

/-- What is returned at a failure. -/
def Failure.result (errno : ℕ) : Failure → ℤ
  | notOpened => -errno
  | notRead => if errno ≠ 0 then -errno else -eio
  | incorrectFormat => -eio

lemma Failure.result_le (errno : ℕ) (failure : Failure) : failure.result errno ≤ 0 := by
  have hle : -(errno : ℤ) ≤ 0 := by omega
  cases failure with
  | notOpened => exact hle
  | notRead =>
      rw [result]
      split_ifs
      · exact hle
      · decide
  | incorrectFormat => exact (by decide : -eio ≤ 0)

/-- The record of a line, the one after `size` others. -/
def CpuLine.usage (cpu : CpuLine) (size : ℕ) (online : ℤ) : CpuUsage :=
  let active := cpu.user + cpu.nice + cpu.system
  ⟨cpuLabel.getD size "", active, active + cpu.idle, online ≠ 0⟩

/-- The loop of `get_cpu_usages` from where `size` records have been written, with the records that
it writes and how it ends. -/
def usageLoop (online : ℤ → Option (List Char)) :
    ℕ → List (List Char) → List CpuUsage × Except Failure ℕ
  | size, [] => ([], if size ≠ cpuNum then .error .incorrectFormat else .ok cpuNum)
  | size, line :: lines =>
      if !isCpuLine line then usageLoop online size lines
      else match scanCpuLine line with
        | none => ([], .error .notRead)
        | some cpu =>
            if size = cpuNum then ([], .error .notRead)
            else match online cpu.cpuNum with
              | none => ([], .error .notOpened)
              | some text =>
                  match scanInt text with
                  | none => ([], .error .notRead)
                  | some (value, _) =>
                      let later := usageLoop online (size + 1) lines
                      (cpu.usage size value :: later.1, later.2)

/-- `get_cpu_usages`, with the `errno` that a failure leaves: the records that are written to `list`
if there is one, and what is returned. -/
def getCpuUsages (files : Files) (errno : ℕ) (list : Bool) : List CpuUsage × ℤ :=
  if !list then ([], cpuNum)
  else match files.stat with
    | none => ([], Failure.result errno .notOpened)
    | some lines =>
        let done := usageLoop files.online 0 lines
        (done.1, match done.2 with
          | .ok result => result
          | .error failure => failure.result errno)

section Bounds

variable (online : ℤ → Option (List Char))

lemma usageLoop_skip {line : List Char} (h : isCpuLine line = false) (size : ℕ)
    (lines : List (List Char)) :
    usageLoop online size (line :: lines) = usageLoop online size lines := by
  rw [usageLoop, h]
  rfl

lemma length_usageLoop_le {size : ℕ} (hsize : size ≤ cpuNum) (lines : List (List Char)) :
    size + (usageLoop online size lines).1.length ≤ cpuNum := by
  induction lines generalizing size with
  | nil => exact hsize
  | cons line lines ih =>
      cases hline : isCpuLine line with
      | false =>
          rw [usageLoop_skip online hline]
          exact ih hsize
      | true =>
          simp only [usageLoop, hline, Bool.not_true, Bool.false_eq_true, if_false]
          split
          · exact hsize
          · split
            · exact hsize
            · split
              · exact hsize
              · split
                · exact hsize
                · have hnext : size + 1 ≤ cpuNum := by omega
                  have hlater := ih hnext
                  rw [List.length_cons]
                  omega

/-- Whatever is in the files, nothing is written behind the end of `list`. -/
theorem length_getCpuUsages_le (files : Files) (errno : ℕ) (list : Bool) :
    (getCpuUsages files errno list).1.length ≤ cpuNum := by
  rw [getCpuUsages]
  split_ifs
  · exact Nat.zero_le _
  · split
    · exact Nat.zero_le _
    · rename_i lines _
      have hloop := length_usageLoop_le files.online (Nat.zero_le cpuNum) lines
      rwa [Nat.zero_add] at hloop

end Bounds

/-! ## What the kernel writes -/

section Fields

variable {rest : List Char}

/-- A number after a space, and what follows it. -/
def field (u : UInt64) (rest : List Char) : List Char := ' ' :: (Nat.toDigits 10 u.toNat ++ rest)

lemma endsNumber_field (u : UInt64) (rest : List Char) : EndsNumber (field u rest) := by
  intro c hc
  obtain rfl : ' ' = c := Option.some.inj hc
  rfl

lemma scanUInt64_field (u : UInt64) (h : EndsNumber rest) :
    scanUInt64 (field u rest) = some (u, rest) := by
  have hfits : ¬ 2 ^ 64 ≤ u.toNat := Nat.not_le_of_lt u.toNat_lt
  rw [scanUInt64, field, scanNumber_space, scanNumber_toDigits u.toNat h]
  simp only [Option.map_some, Bool.false_eq_true, if_false, if_neg hfits, UInt64.ofNat_toNat]

lemma beforeNul_field (u : UInt64) (rest : List Char) :
    beforeNul (field u rest) = field u (beforeNul rest) := by
  rw [field, beforeNul, List.takeWhile_cons_of_pos (by decide)]
  exact congrArg _ (beforeNul_toDigits u.toNat rest)

end Fields

/-- The times of a running CPU, and what its line goes on with. -/
structure CpuTimes where
  number : ℕ
  user : UInt64
  nice : UInt64
  system : UInt64
  idle : UInt64
  more : List Char
  number_lt : number < 2 ^ 31
  endsNumber : EndsNumber more

namespace CpuTimes

variable (t : CpuTimes) (online : ℤ → Option (List Char))

/-- The line of a CPU. -/
def text : List Char :=
  cpuMark ++ (Nat.toDigits 10 t.number ++
    field t.user (field t.nice (field t.system (field t.idle t.more))))

/-- What is scanned from the line. -/
def scanned : CpuLine := ⟨t.number, t.user, t.nice, t.system, t.idle⟩

/-- The number in the CPU's own file, if it is there and begins with one. -/
def online? : Option ℤ := (online t.number).bind fun text => (scanInt text).map Prod.fst

/-- The record of the CPU, the one after `size` others. -/
def usage (size : ℕ) : CpuUsage := t.scanned.usage size ((t.online? online).getD 0)

lemma beforeNul_text : beforeNul t.text = cpuMark ++ (Nat.toDigits 10 t.number ++
    field t.user (field t.nice (field t.system (field t.idle (beforeNul t.more))))) := by
  have hcpu : ∀ c ∈ cpuMark, decide (c ≠ '\x00') = true := by simp [cpuMark]
  rw [beforeNul, text, List.takeWhile_append_of_pos hcpu]
  have hrest := beforeNul_toDigits t.number
    (field t.user (field t.nice (field t.system (field t.idle t.more))))
  rw [beforeNul_field, beforeNul_field, beforeNul_field, beforeNul_field] at hrest
  exact congrArg _ hrest

lemma isCpuLine_text : isCpuLine t.text = true := by
  obtain ⟨c, cs, hcs, hc⟩ := isDigit_head_toDigits t.number
  rw [isCpuLine, beforeNul_text, hcs]
  simp [cpuMark, hc]

lemma scanCpuLine_text : scanCpuLine t.text = some t.scanned := by
  have hdrop : (beforeNul t.text).drop 3 = Nat.toDigits 10 t.number ++
      field t.user (field t.nice (field t.system (field t.idle (beforeNul t.more)))) := by
    rw [beforeNul_text]
    rfl
  rw [scanCpuLine, hdrop, scanInt_toDigits t.number_lt (endsNumber_field _ _)]
  simp only [Option.bind_eq_bind, Option.bind_some, scanUInt64_field _ (endsNumber_field _ _),
    scanUInt64_field _ t.endsNumber.beforeNul]
  rfl

end CpuTimes

/-- A line of `/proc/stat`. -/
inductive StatLine where
  | cpu (times : CpuTimes)
  | other (text : List Char) (hother : isCpuLine text = false)

/-- The line itself. -/
def StatLine.text : StatLine → List Char
  | cpu times => times.text
  | other text _ => text

/-- The times in the line. -/
def StatLine.times : StatLine → Option CpuTimes
  | cpu times => some times
  | other _ _ => none

section Stat

variable (online : ℤ → Option (List Char))

/-- The running CPUs. -/
def running (stat : List StatLine) : List CpuTimes := stat.filterMap StatLine.times

/-- The records of CPUs, the ones after `size` others: as many as there are places for, up to the
first CPU whose own file cannot be read. -/
def records (size : ℕ) (cpus : List CpuTimes) : List CpuUsage :=
  ((cpus.take (cpuNum - size)).takeWhile fun t => (t.online? online).isSome).mapIdx
    fun i t => t.usage online (size + i)

lemma records_cons {size : ℕ} (hsize : size < cpuNum) (t : CpuTimes) (cpus : List CpuTimes) :
    records online size (t :: cpus) = if (t.online? online).isSome then
      t.usage online size :: records online (size + 1) cpus else [] := by
  have htake : cpuNum - size = cpuNum - (size + 1) + 1 := by omega
  rw [records, htake, List.take_succ_cons, List.takeWhile_cons]
  split_ifs
  · rw [List.mapIdx_cons, records]
    simp only [Nat.add_assoc, Nat.add_comm 1]
    rfl
  · rfl

/-- The loop at the line of a CPU that there is a place for. -/
lemma usageLoop_text (t : CpuTimes) {size : ℕ} (hsize : size < cpuNum)
    (lines : List (List Char)) : usageLoop online size (t.text :: lines) =
      match t.online? online with
      | none => ([], .error (if (online t.number).isSome then .notRead else .notOpened))
      | some value =>
          (t.scanned.usage size value :: (usageLoop online (size + 1) lines).1,
            (usageLoop online (size + 1) lines).2) := by
  have hnumber : t.scanned.cpuNum = t.number := rfl
  have hplace : ¬ size = cpuNum := Nat.ne_of_lt hsize
  simp only [usageLoop, t.isCpuLine_text, t.scanCpuLine_text, if_neg hplace, Bool.not_true,
    Bool.false_eq_true, if_false, CpuTimes.online?, hnumber]
  cases honline : online t.number with
  | none => rfl
  | some text =>
      cases hvalue : scanInt text with
      | none => simp [hvalue]
      | some value => simp [hvalue]

/-- The loop, over lines that the kernel writes. -/
lemma usageLoop_stat {size : ℕ} (hsize : size ≤ cpuNum) (stat : List StatLine) :
    (usageLoop online size (stat.map StatLine.text)).1 = records online size (running stat) ∧
      ((usageLoop online size (stat.map StatLine.text)).2 = .ok cpuNum ↔
        size + (running stat).length = cpuNum ∧
          ∀ t ∈ running stat, (t.online? online).isSome = true) := by
  induction stat generalizing size with
  | nil =>
      refine ⟨by simp [usageLoop, records, running], ?_⟩
      by_cases hfull : size = cpuNum
      · simp [usageLoop, running, hfull]
      · simp [usageLoop, running, hfull]
  | cons line stat ih =>
      cases line with
      | other text hother =>
          have hskip := usageLoop_skip online hother size (stat.map StatLine.text)
          rw [List.map_cons, StatLine.text, hskip]
          exact ih hsize
      | cpu t =>
          have hrunning : running (.cpu t :: stat) = t :: running stat := rfl
          rw [hrunning, List.map_cons, StatLine.text]
          by_cases hfull : size = cpuNum
          · -- one CPU too many
            subst hfull
            have hloop : usageLoop online cpuNum (t.text :: stat.map StatLine.text) =
                ([], .error .notRead) := by
              simp [usageLoop, t.isCpuLine_text, t.scanCpuLine_text]
            rw [hloop]
            refine ⟨by simp [records], iff_of_false (fun h => by cases h) fun h => ?_⟩
            have hlength := h.1
            rw [List.length_cons] at hlength
            omega
          · have hlt : size < cpuNum := by omega
            rw [usageLoop_text online t hlt, records_cons online hlt, List.forall_mem_cons]
            cases honline : t.online? online with
            | none => simp
            | some value =>
                have hnext : size + 1 ≤ cpuNum := by omega
                obtain ⟨hrecords, hend⟩ := ih hnext
                refine ⟨?_, ?_⟩
                · simp [hrecords, CpuTimes.usage, honline]
                · simp only [Option.isSome_some, true_and, List.length_cons]
                  rw [hend]
                  exact and_congr_left' (by omega)

/-- **The times of the CPUs.**  Of a `/proc/stat` as the kernel writes it, `get_cpu_usages` makes
the records of the running CPUs in the order of their lines, each with the sums of the times in its
line modulo `2 ^ 64`, until a CPU's own file cannot be read; and it returns `CPU_NUM` exactly if
there are as many running CPUs and the file of each of them can be read. -/
theorem getCpuUsages_stat (stat : List StatLine) (errno : ℕ) :
    (getCpuUsages ⟨some (stat.map StatLine.text), online⟩ errno true).1 =
        records online 0 (running stat) ∧
      ((getCpuUsages ⟨some (stat.map StatLine.text), online⟩ errno true).2 = cpuNum ↔
        (running stat).length = cpuNum ∧
          ∀ t ∈ running stat, (t.online? online).isSome = true) := by
  obtain ⟨hrecords, hend⟩ := usageLoop_stat online (Nat.zero_le cpuNum) stat
  rw [Nat.zero_add] at hend
  refine ⟨hrecords, Iff.trans ?_ hend⟩
  simp only [getCpuUsages, Bool.not_true, Bool.false_eq_true, if_false]
  cases (usageLoop online 0 (stat.map StatLine.text)).2 with
  | ok result => simp
  | error failure =>
      refine iff_of_false (fun hresult => ?_) (fun h => by cases h)
      have hresult : failure.result errno = cpuNum := hresult
      have hle := failure.result_le errno
      rw [hresult] at hle
      exact absurd hle (by decide)

/-- One CPU after a hundred ticks, of which it has been idle for these. -/
def sampleTimes (number : ℕ) (hnumber : number < 2 ^ 31) (idle : UInt64) : CpuTimes :=
  ⟨number, 90 - idle, 4, 6, idle, [' ', '0', '\n'], hnumber, by simp [EndsNumber]⟩

/-- A `/proc/stat`: the sums over all CPUs, the four CPUs and the interrupts. -/
def sampleStat : List StatLine :=
  [.other "cpu  160 16 24 200 0\n".toList (by decide), .cpu (sampleTimes 0 (by decide) 20),
    .cpu (sampleTimes 1 (by decide) 40), .cpu (sampleTimes 2 (by decide) 60),
    .cpu (sampleTimes 3 (by decide) 80), .other "intr 7 1\n".toList (by decide)]

example : sampleStat.map StatLine.text =
    ["cpu  160 16 24 200 0\n".toList, "cpu0 70 4 6 20 0\n".toList, "cpu1 50 4 6 40 0\n".toList,
      "cpu2 30 4 6 60 0\n".toList, "cpu3 10 4 6 80 0\n".toList, "intr 7 1\n".toList] := by
  decide

/-- The third of them is off. -/
example : getCpuUsages ⟨some (sampleStat.map StatLine.text),
      fun number => some (if number = 2 then ['0', '\n'] else ['1', '\n'])⟩ 0 true =
    ([⟨"CPU0", 80, 100, true⟩, ⟨"CPU1", 60, 100, true⟩, ⟨"CPU2", 40, 100, false⟩,
      ⟨"CPU3", 20, 100, true⟩], 4) := by
  decide +kernel

end Stat

end Thermal
end LocHal
