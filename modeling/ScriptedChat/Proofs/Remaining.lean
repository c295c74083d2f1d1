import Mathlib.Algebra.Ring.Int.Defs
import Mathlib.Algebra.Ring.Nat
import ScriptedChat.Stopwatch

/-!
# What is left of a countdown

The start of a countdown and the moment that it is asked about are signed words, and both may be
anything: a start may have been written into a file by hand, and a clock may be set back or be far off.
The time that has passed is their difference as words, which stays at the end of the range when the
exact difference lies beyond it, and counts as none when it is negative.  That is the exact difference
of two integers, cut down at nothing and at the greatest word (`Stopwatch.elapsed_eq_words`).

From there on what is left of a countdown is arithmetic.  A timeout may be longer than a signed word can
say.  As what has passed never is, such a countdown does not come to its end.

* `Stopwatch.difference`, `Stopwatch.toInt_difference`: the difference of two signed words.
* `Stopwatch.remainingAt_eq_max`: what is left.
* `Stopwatch.remainingAt_antitone`, `Stopwatch.remainingAt_add`: it gets less, and by how much.
* `Stopwatch.remainingAt_eq_zero_iff`, `Stopwatch.remainingAt_pos`: when there is nothing left.
* `Stopwatch.remainingAt_exact`: all of this, for any start and any two moments.
-/

namespace ScriptedChat
namespace Stopwatch

/-! ## Differences of words -/

/-- The difference of two signed words, or the end of their range on the side where it lies beyond.
Whether it does is found out without leaving the range. -/
def difference (a b : Int64) : Int64 :=
  if 0 ≤ b then
    if Int64.minValue + b ≤ a then a - b else Int64.minValue
  else
    if a ≤ Int64.maxValue + b then a - b else Int64.maxValue

theorem toInt_difference (a b : Int64) :
    (difference a b).toInt = max (-2 ^ 63) (min (2 ^ 63 - 1) (a.toInt - b.toInt)) := by
  have hmin : Int64.minValue.toInt = -2 ^ 63 := by decide
  have hmax : Int64.maxValue.toInt = 2 ^ 63 - 1 := by decide
  have hzero : (0 : Int64).toInt = 0 := by decide
  have ha := a.le_toInt
  have ha' := a.toInt_lt
  have hb := b.le_toInt
  have hb' := b.toInt_lt
  unfold difference
  simp only [Int64.le_iff_toInt_le, Int64.toInt_add, hmin, hmax, hzero]
  by_cases hsign : 0 ≤ b.toInt
  · rw [if_pos hsign, Int.bmod_eq_of_le (by omega) (by omega)]
    split
    · rw [Int64.toInt_sub, Int.bmod_eq_of_le (by omega) (by omega)]
      omega
    · rw [hmin]
      omega
  · rw [if_neg hsign, Int.bmod_eq_of_le (by omega) (by omega)]
    split
    · rw [Int64.toInt_sub, Int.bmod_eq_of_le (by omega) (by omega)]
      omega
    · rw [hmax]
      omega

/-- **The time that has passed is computed in words**, and is exact. -/
theorem elapsed_eq_words (start now : Int64) :
    elapsed start.toInt now.toInt = (difference now start).toNatClampNeg := by
  have hdiff := toInt_difference now start
  rw [Int64.toNatClampNeg, hdiff, elapsed]
  omega

theorem elapsed_eq_clamp (start now : Int) :
    (elapsed start now : Int) = min (max (now - start) 0) (2 ^ 63 - 1) := by
  rw [elapsed]
  omega

/-! ## What is left -/

variable {w : Stopwatch} {now later : Int}

theorem remainingAt_of_done (h : w.done = true) (now : Int) : w.remainingAt now = 0 := if_pos h

theorem remainingAt_of_not_done (h : w.done = false) (now : Int) :
    w.remainingAt now = w.span - elapsed w.start.toInt now * nanosPerMilli :=
  if_neg (Bool.eq_false_iff.mp h)

/-- **What is left is the timeout without what has passed**, and nothing if more has passed. -/
theorem remainingAt_eq_max (h : w.done = false) (now : Int) :
    (w.remainingAt now : Int)
      = max 0 (w.span - min (max (now - w.start.toInt) 0) (2 ^ 63 - 1) * 1000000) := by
  rw [remainingAt_of_not_done h, ← elapsed_eq_clamp, nanosPerMilli]
  omega

theorem remainingAt_le_span (w : Stopwatch) (now : Int) : w.remainingAt now ≤ w.span := by
  cases h : w.done with
  | true =>
    rw [remainingAt_of_done h]
    exact Nat.zero_le _
  | false =>
    rw [remainingAt_of_not_done h]
    exact Nat.sub_le _ _

theorem elapsed_mono (start : Int) (h : now ≤ later) : elapsed start now ≤ elapsed start later := by
  rw [elapsed, elapsed]
  omega

/-- **What is left never gets more.** -/
theorem remainingAt_antitone (w : Stopwatch) (h : now ≤ later) :
    w.remainingAt later ≤ w.remainingAt now := by
  cases hdone : w.done with
  | true =>
    rw [remainingAt_of_done hdone]
    exact Nat.zero_le _
  | false =>
    rw [remainingAt_of_not_done hdone, remainingAt_of_not_done hdone]
    exact Nat.sub_le_sub_left (Nat.mul_le_mul_right _ (elapsed_mono _ h)) _

/-- What has passed between two moments since the start is the time between them, as long as what has
passed since the start fits into a signed word. -/
theorem elapsed_sub_elapsed {start : Int} (hstart : start ≤ now) (h : now ≤ later)
    (hword : later - start < 2 ^ 63) :
    (elapsed start later - elapsed start now : Nat) = later - now := by
  rw [elapsed, elapsed]
  omega

/-- **Between the start and the end, what is left gets less by what has passed.** -/
theorem remainingAt_add (hdone : w.done = false) (hstart : w.start.toInt ≤ later) (h : now ≤ later)
    (hend : later * 1000000 ≤ w.start.toInt * 1000000 + w.span) :
    w.remainingAt now = w.remainingAt later
      + (elapsed w.start.toInt later - elapsed w.start.toInt now) * nanosPerMilli := by
  have hmono := elapsed_mono w.start.toInt h
  -- what has passed is at most the exact difference, which is at most the timeout
  have hpassed : elapsed w.start.toInt later * nanosPerMilli ≤ w.span := by
    have hle : (elapsed w.start.toInt later : Int) ≤ later - w.start.toInt := by
      rw [elapsed]
      omega
    rw [nanosPerMilli]
    omega
  rw [nanosPerMilli] at hpassed
  rw [remainingAt_of_not_done hdone, remainingAt_of_not_done hdone, nanosPerMilli]
  omega

/-- **When there is nothing left**: from the exact end on, if the countdown takes some time and no more
milliseconds than a signed word holds. -/
theorem remainingAt_eq_zero_iff (hdone : w.done = false) (hpos : 0 < w.span)
    (hspan : w.span ≤ (2 ^ 63 - 1) * 1000000) :
    w.remainingAt now = 0 ↔ w.start.toInt * 1000000 + w.span ≤ now * 1000000 := by
  rw [remainingAt_of_not_done hdone, elapsed, nanosPerMilli]
  omega

/-- A countdown that takes longer than a signed word can say does not come to its end. -/
theorem remainingAt_pos (hdone : w.done = false) (hspan : (2 ^ 63 - 1) * 1000000 < w.span) :
    0 < w.remainingAt now := by
  rw [remainingAt_of_not_done hdone, elapsed, nanosPerMilli]
  omega

/-- **What is left of a countdown is exact**, whatever its start and the moments are. -/
theorem remainingAt_exact (w : Stopwatch) (now later : Int64) :
    -- the time that has passed is computed in words, and is the exact one cut down
    elapsed w.start.toInt now.toInt = (difference now w.start).toNatClampNeg
    ∧ (elapsed w.start.toInt now.toInt : Int)
      = min (max (now.toInt - w.start.toInt) 0) (2 ^ 63 - 1)
    -- what is left
    ∧ (w.done = true → w.remainingAt now.toInt = 0)
    ∧ (w.done = false → (w.remainingAt now.toInt : Int)
      = max 0 (w.span - min (max (now.toInt - w.start.toInt) 0) (2 ^ 63 - 1) * 1000000))
    ∧ w.remainingAt now.toInt ≤ w.span
    -- it never gets more, and between start and end it gets less by what has passed
    ∧ (now ≤ later → w.remainingAt later.toInt ≤ w.remainingAt now.toInt)
    ∧ (w.done = false → w.start ≤ now → now ≤ later →
      later.toInt * 1000000 ≤ w.start.toInt * 1000000 + w.span →
      w.remainingAt now.toInt = w.remainingAt later.toInt
          + (elapsed w.start.toInt later.toInt - elapsed w.start.toInt now.toInt) * 1000000
        ∧ (later.toInt - w.start.toInt < 2 ^ 63 →
          (elapsed w.start.toInt later.toInt - elapsed w.start.toInt now.toInt : Nat)
            = later.toInt - now.toInt))
    -- when there is nothing left
    ∧ (w.done = false → 0 < w.span → w.span ≤ (2 ^ 63 - 1) * 1000000 →
      (w.remainingAt now.toInt = 0 ↔
        w.start.toInt * 1000000 + w.span ≤ now.toInt * 1000000)) := by
  refine ⟨elapsed_eq_words w.start now, elapsed_eq_clamp _ _, fun h => remainingAt_of_done h _,
    fun h => remainingAt_eq_max h _, remainingAt_le_span w _, fun h => ?_, fun hdone hstart h hend => ?_,
    fun hdone hpos hspan => remainingAt_eq_zero_iff hdone hpos hspan⟩
  · exact remainingAt_antitone w (Int64.le_iff_toInt_le.mp h)
  · have hstart' := Int64.le_iff_toInt_le.mp hstart
    have h' := Int64.le_iff_toInt_le.mp h
    exact ⟨remainingAt_add hdone (Int.le_trans hstart' h') h' hend,
      fun hword => elapsed_sub_elapsed hstart' h' hword⟩

/-- A countdown that starts with the first moment there is, and takes as long as a signed word can say.
One millisecond before its end just that is left; at its end, which is long before the last moment, and
from then on there is nothing left. -/
theorem remainingAt_from_first_moment :
    let w : Stopwatch := ⟨Int64.minValue, (2 ^ 63 - 1) * 1000000, false, false, none⟩
    w.remainingAt Int64.minValue.toInt = w.span
      ∧ w.remainingAt (-2 : Int64).toInt = 1000000
      ∧ w.remainingAt (-1 : Int64).toInt = 0
      ∧ w.remainingAt Int64.maxValue.toInt = 0
      ∧ w.ring.remainingAt Int64.minValue.toInt = 0 := by
  intro w
  have hdone : w.done = false := rfl
  obtain ⟨-, -, -, hfirst, -⟩ := remainingAt_exact w Int64.minValue Int64.minValue
  obtain ⟨-, -, -, -, -, -, hbetween, -⟩ := remainingAt_exact w (-2) (-1)
  obtain ⟨-, -, -, -, -, hlast, -, hzero⟩ := remainingAt_exact w (-1) Int64.maxValue
  obtain ⟨-, -, hrung, -⟩ := remainingAt_exact w.ring Int64.minValue Int64.minValue
  have hwhole : (w.remainingAt Int64.minValue.toInt : Int) = w.span :=
    (hfirst hdone).trans (by decide)
  have hnone : w.remainingAt (-1 : Int64).toInt = 0 :=
    (hzero hdone (by decide) (Nat.le_refl _)).mpr (by decide)
  obtain ⟨hless, hword⟩ := hbetween hdone (by decide) (by decide) (by decide)
  have hmillisecond := hword (by decide)
  have hone : (-1 : Int64).toInt - (-2 : Int64).toInt = 1 := by decide
  refine ⟨Int.ofNat.inj hwhole, ?_, hnone, ?_, hrung rfl⟩
  · rw [hnone] at hless
    omega
  · exact Nat.le_zero.mp (hnone ▸ hlast (by decide))

end Stopwatch
end ScriptedChat
