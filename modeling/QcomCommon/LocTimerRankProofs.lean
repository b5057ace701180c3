import Mathlib.Order.Defs.Unbundled
import Mathlib.Algebra.Group.Nat.Defs
import Mathlib.Algebra.Group.Int.Defs
import QcomCommon.LocTimerOnceProofs

/-! # The order of timers

    `LocTimer::start` adds milliseconds to a reading of the clock, and a
    timer ranks by the difference of two deadlines, cut to an `int`.  For
    readings that count from the boot nothing overflows, with members of 32
    bits or more, the deadline is the exact sum, and the ranking is that of
    the sums (`timers_ordered`). -/

namespace QcomTimer

open QcomHeap LocHeapNode

/-! ## Arithmetic of a width -/

/-- A result that is not negative, where the signed type of a width has
    it. -/
def inSigned (bits n : Nat) : Option Nat :=
  if n < 2 ^ (bits - 1) then some n else none

/-- A result in `unsigned int`. -/
def inUnsigned (n : Nat) : Option Nat :=
  if n < 2 ^ 32 then some n else none

/-- A difference, where the signed type of a width has it. -/
def inSignedInt (bits : Nat) (x : Int) : Option Int :=
  if -2 ^ (bits - 1) ≤ x ∧ x < 2 ^ (bits - 1) then some x else none

/-- A signed type of 32 bits or more holds it. -/
theorem inSigned_eq {bits n : Nat} (hbits : 32 ≤ bits) (hn : n < 2147483648) :
    inSigned bits n = some n := by
  have hpow : 2 ^ 31 ≤ 2 ^ (bits - 1) :=
    Nat.pow_le_pow_right (by decide) (by omega)
  exact if_pos (by omega)

theorem inUnsigned_eq {n : Nat} (hn : n < 4294967296) :
    inUnsigned n = some n := if_pos hn

/-- So it holds what an `int` does. -/
theorem inSignedInt_eq {bits : Nat} {x : Int} (hbits : 32 ≤ bits)
    (hlo : -2147483648 ≤ x) (hhi : x < 2147483648) :
    inSignedInt bits x = some x := by
  have hpow : 2 ^ 31 ≤ 2 ^ (bits - 1) :=
    Nat.pow_le_pow_right (by decide) (by omega)
  have hcast : (2 : Int) ^ (bits - 1) = ((2 ^ (bits - 1) : Nat) : Int) :=
    (Int.natCast_pow 2 (bits - 1)).symm
  refine if_pos ?_
  rw [hcast]
  constructor <;> omega

/-- The deadline of `LocTimer::start`, each operation in its type: the sums
    with an `unsigned int` may be in an unsigned type of the width, and come
    back to the signed one. -/
def startTime (secBits nsecBits : Nat) (now : Timespec) (timeOutInMs : UInt32) :
    Option Timespec := do
  let secs ← inUnsigned (timeOutInMs.toNat / 1000)
  let tv_sec ← inSigned secBits (now.tv_sec + secs)
  let msecs ← inUnsigned (timeOutInMs.toNat % 1000)
  let nsecs ← inUnsigned (msecs * 1000000)
  let tv_nsec ← inSigned nsecBits (now.tv_nsec + nsecs)
  if 1000000000 ≤ tv_nsec then
    let carry ← inSigned nsecBits (tv_nsec / 1000000000)
    let tv_sec ← inSigned secBits (tv_sec + carry)
    let tv_nsec ← inSigned nsecBits (tv_nsec % 1000000000)
    some ⟨tv_sec, tv_nsec⟩
  else some ⟨tv_sec, tv_nsec⟩

/-- `LocTimerDelegate::ranks`, each difference in its type. -/
def ranksTime (secBits nsecBits : Nat) (this timer : Timespec) : Option Int := do
  let sec ← inSignedInt secBits ((timer.tv_sec : Int) - this.tv_sec)
  if toInt sec = 0 then
    let nsec ← inSignedInt nsecBits ((timer.tv_nsec : Int) - this.tv_nsec)
    some (toInt nsec)
  else some (toInt sec)

/-- A time in nanoseconds. -/
def Timespec.nanos (t : Timespec) : Nat := t.tv_sec * 1000000000 + t.tv_nsec

/-! ## Started timers -/

/-- A timer that was started at a reading of the clock. -/
structure StartedTimer where
  addr : Nat
  boot : Timespec
  timeOutInMs : UInt32
  clock : BootClock boot
  normal : boot.tv_nsec < 1000000000

/-- Its delegate. -/
def StartedTimer.delegate (t : StartedTimer) : DelegateRef :=
  ⟨t.addr, futureTime t.boot t.timeOutInMs⟩

/-- When it is due. -/
def StartedTimer.due (t : StartedTimer) : Nat :=
  t.boot.nanos + t.timeOutInMs.toNat * 1000000

/-- The deadline is the time of the start and the time-out. -/
theorem StartedTimer.futureTime_eq (t : StartedTimer) :
    (futureTime t.boot t.timeOutInMs).nanos = t.due ∧
      (futureTime t.boot t.timeOutInMs).tv_nsec < 1000000000 := by
  have hnormal := t.normal
  rw [futureTime, StartedTimer.due, Timespec.nanos, Timespec.nanos]
  split
  · simp only
    omega
  · simp only
    omega

/-- The delegate of a timer that was started fits. -/
theorem StartedTimer.fits (t : StartedTimer) : Fits t.delegate := by
  have hclock : t.boot.tv_sec + 4294968 < 2147483648 := t.clock
  have hms : t.timeOutInMs.toNat < 4294967296 := t.timeOutInMs.toNat_lt
  obtain ⟨hnanos, hnormal⟩ := t.futureTime_eq
  have hboot := t.normal
  rw [StartedTimer.due, Timespec.nanos, Timespec.nanos] at hnanos
  refine ⟨?_, hnormal⟩
  show (futureTime t.boot t.timeOutInMs).tv_sec < 2147483648
  omega

/-- **THE DEADLINE** is computed without an overflow. -/
theorem StartedTimer.startTime_eq (t : StartedTimer) {secBits nsecBits : Nat}
    (hsec : 32 ≤ secBits) (hnsec : 32 ≤ nsecBits) :
    startTime secBits nsecBits t.boot t.timeOutInMs
      = some t.delegate.mFutureTime := by
  have hclock : t.boot.tv_sec + 4294968 < 2147483648 := t.clock
  have hms : t.timeOutInMs.toNat < 4294967296 := t.timeOutInMs.toNat_lt
  have hnormal := t.normal
  have h1 := inUnsigned_eq (n := t.timeOutInMs.toNat / 1000) (by omega)
  have h2 := inSigned_eq hsec (n := t.boot.tv_sec + t.timeOutInMs.toNat / 1000)
    (by omega)
  have h3 := inUnsigned_eq (n := t.timeOutInMs.toNat % 1000) (by omega)
  have h4 := inUnsigned_eq (n := t.timeOutInMs.toNat % 1000 * 1000000) (by omega)
  have h5 := inSigned_eq hnsec
    (n := t.boot.tv_nsec + t.timeOutInMs.toNat % 1000 * 1000000) (by omega)
  show _ = some (futureTime t.boot t.timeOutInMs)
  rw [startTime, h1, Option.bind_eq_bind, Option.bind_some, h2,
    Option.bind_some, h3, Option.bind_some, h4, Option.bind_some, h5,
    Option.bind_some, futureTime]
  by_cases hcarry : 1000000000
      ≤ t.boot.tv_nsec + t.timeOutInMs.toNat % 1000 * 1000000
  · rw [if_pos hcarry, if_pos hcarry, inSigned_eq hnsec (by omega),
      Option.bind_some, inSigned_eq hsec (by omega), Option.bind_some,
      inSigned_eq hnsec (by omega), Option.bind_some]
  · rw [if_neg hcarry, if_neg hcarry]

/-- **THE RANK** is computed without an overflow, and is the cut one. -/
theorem ranksTime_eq {secBits nsecBits : Nat} (hsec : 32 ≤ secBits)
    (hnsec : 32 ≤ nsecBits) {a b : DelegateRef} (ha : Fits a) (hb : Fits b) :
    ranksTime secBits nsecBits a.mFutureTime b.mFutureTime
      = some (LocRankable.ranks a b) := by
  obtain ⟨has, han⟩ := ha
  obtain ⟨hbs, hbn⟩ := hb
  have h1 := inSignedInt_eq hsec (x := (b.mFutureTime.tv_sec : Int)
    - a.mFutureTime.tv_sec) (by omega) (by omega)
  have h2 := inSignedInt_eq hnsec (x := (b.mFutureTime.tv_nsec : Int)
    - a.mFutureTime.tv_nsec) (by omega) (by omega)
  show _ = some (ranks a.mFutureTime b.mFutureTime)
  simp only [ranksTime, h1, h2, Option.bind_eq_bind, Option.bind_some, ranks]
  split <;> rfl

/-- The sooner of two normal times has fewer nanoseconds. -/
theorem nanos_le_iff {a b : Timespec} (ha : a.tv_nsec < 1000000000)
    (hb : b.tv_nsec < 1000000000) : a.nanos ≤ b.nanos ↔ a ≤ b := by
  show _ ↔ a.tv_sec < b.tv_sec ∨ a.tv_sec = b.tv_sec ∧ a.tv_nsec ≤ b.tv_nsec
  rw [Timespec.nanos, Timespec.nanos]
  omega

/-- A timer goes out first if it is due first. -/
theorem StartedTimer.outRanks_iff (s t : StartedTimer) :
    outRanks s.delegate t.delegate = true ↔ s.due < t.due := by
  have hnot := outRanks_eq_false ranked_fits s.fits t.fits
  have hle := nanos_le_iff t.fits.2 s.fits.2
  rw [← hle] at hnot
  have hs : s.delegate.mFutureTime.nanos = s.due := s.futureTime_eq.1
  have ht : t.delegate.mFutureTime.nanos = t.due := t.futureTime_eq.1
  rw [hs, ht, ← not_lt] at hnot
  rw [← Bool.not_eq_false]
  exact (not_congr hnot).trans not_not

/-- **TIMERS ARE ORDERED** by when they are due: for any two timers, with
    members of any width from 32 bits on, the deadlines are computed without
    an overflow, normal, and the exact sums; so are the ranks, and the first
    outranks the second if and only if it is due before.  That is a strict
    weak order. -/
theorem timers_ordered {secBits nsecBits : Nat} (hsec : 32 ≤ secBits)
    (hnsec : 32 ≤ nsecBits) :
    (∀ s t : StartedTimer, ∃ deadline deadline' rank,
      startTime secBits nsecBits s.boot s.timeOutInMs = some deadline ∧
      startTime secBits nsecBits t.boot t.timeOutInMs = some deadline' ∧
      deadline.tv_nsec < 1000000000 ∧ deadline'.tv_nsec < 1000000000 ∧
      deadline.nanos = s.boot.nanos + s.timeOutInMs.toNat * 1000000 ∧
      deadline'.nanos = t.boot.nanos + t.timeOutInMs.toNat * 1000000 ∧
      ranksTime secBits nsecBits deadline deadline' = some rank ∧
      (0 < rank ↔ s.boot.nanos + s.timeOutInMs.toNat * 1000000
        < t.boot.nanos + t.timeOutInMs.toNat * 1000000) ∧
      (outRanks ⟨s.addr, deadline⟩ (⟨t.addr, deadline'⟩ : DelegateRef) = true ↔
        0 < rank)) ∧
    IsStrictWeakOrder StartedTimer
      (fun s t => outRanks s.delegate t.delegate = true) := by
  constructor
  · intro s t
    have hdecide : outRanks s.delegate t.delegate = true ↔
        0 < LocRankable.ranks s.delegate t.delegate := decide_eq_true_iff
    exact ⟨_, _, _, s.startTime_eq hsec hnsec, t.startTime_eq hsec hnsec,
      s.fits.2, t.fits.2, s.futureTime_eq.1, t.futureTime_eq.1,
      ranksTime_eq hsec hnsec s.fits t.fits,
      hdecide.symm.trans (s.outRanks_iff t), hdecide⟩
  · simp only [StartedTimer.outRanks_iff]
    exact {
      irrefl := fun s => Nat.lt_irrefl s.due
      trans := fun _ _ _ hab hbc => Nat.lt_trans hab hbc
      incomp_trans := fun a b c hab hbc => by omega }

/-- The longest time-outs at the latest readings, a millisecond apart. -/
theorem timers_ordered_longest :
    ∃ deadline deadline' rank,
      startTime 32 32 ⟨2143188679, 0⟩ 4294967295 = some deadline ∧
      startTime 32 32 ⟨2143188679, 1000000⟩ 4294967295 = some deadline' ∧
      ranksTime 32 32 deadline deadline' = some rank ∧ 0 < rank := by
  obtain ⟨deadline, deadline', rank, hs, ht, -, -, -, -, hrank, hiff, -⟩ :=
    (timers_ordered (Nat.le_refl 32)
      (Nat.le_refl 32)).1
      ⟨0, ⟨2143188679, 0⟩, 4294967295, by decide, by decide⟩
      ⟨1, ⟨2143188679, 1000000⟩, 4294967295, by decide, by decide⟩
  exact ⟨deadline, deadline', rank, hs, ht, hrank, hiff.mpr (by decide)⟩

end QcomTimer
