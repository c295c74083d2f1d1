import ScriptedChat.Stopwatch

/-!
# How stopwatches begin

A stopwatch begins anew, or it goes on with what was kept of it.  What is kept of it then is what
was kept before, or that it starts now.

When it rings depends on what the clock can show (`Clock.IsReading`).  The moments of the calendar
are far from the ends of a signed word, so that the time between two of them is what it should
be, and a stopwatch that goes on is overdue exactly when its end has passed.  Otherwise its alarm
is set to its end, unless this is further away than the clock waits.

* `Stopwatch.Shows`: the stopwatch counts down what a state says.
* `Stopwatch.state_begin_options`, `Stopwatch.state_begin_fresh`: what is kept.
* `Stopwatch.begin_options`: when a stopwatch rings that goes on.
* `Stopwatch.alarm_begin_fresh`: when a fresh one rings.
-/

namespace ScriptedChat

/-- The clock shows milliseconds of the calendar, which has the years from -262143 to 262142. -/
def Clock.IsReading (t : Int) : Prop := -8334601228800000 ≤ t ∧ t ≤ 8210266876799999

/-- What the clock shows fits into a signed word. -/
theorem Clock.IsReading.toInt_ofInt {t : Int} (h : IsReading t) : (Int64.ofInt t).toInt = t := by
  obtain ⟨hlow, hhigh⟩ := h
  exact Int64.toInt_ofInt_of_le (by omega) (by omega)

/-- The moment at which a countdown ends. -/
def StopwatchState.ending (x : StopwatchState) : Int := x.start.toInt + x.timeout.toNat

namespace Stopwatch

/-! ## What is kept -/

theorem start_begin (o : StopwatchOptions) (now : Int) (ticket : Nat) :
    (begin o now ticket).start = o.start.getD (Int64.ofInt now) := by
  unfold begin
  dsimp only
  split
  · rfl
  split <;> rfl

theorem span_begin (o : StopwatchOptions) (now : Int) (ticket : Nat) :
    (begin o now ticket).span = o.span := by
  unfold begin
  dsimp only
  split
  · rfl
  split <;> rfl

theorem done_begin (o : StopwatchOptions) (now : Int) (ticket : Nat) :
    (begin o now ticket).done = o.done := by
  unfold begin
  dsimp only
  split
  · rfl
  split <;> rfl

/-- The stopwatch counts down what the state says. -/
structure Shows (x : StopwatchState) (w : Stopwatch) : Prop where
  start : w.start = x.start
  span : w.span = x.timeout.toNat * nanosPerMilli
  done : w.done = x.done

theorem shows_begin (x : StopwatchState) (now : Int) (ticket : Nat) :
    Shows x (begin x.options now ticket) where
  start := start_begin x.options now ticket
  span := span_begin x.options now ticket
  done := done_begin x.options now ticket

/-- What is kept of a stopwatch is what it shows. -/
theorem Shows.state_eq {x : StopwatchState} {w : Stopwatch} (h : Shows x w) : w.state = x := by
  have hlt := x.timeout.toNat_lt
  have hdiv : x.timeout.toNat * nanosPerMilli / nanosPerMilli = x.timeout.toNat :=
    Nat.mul_div_cancel _ (by decide)
  rw [state, h.start, h.span, h.done, hdiv, Nat.min_eq_left (by omega), UInt64.ofNat_toNat]

/-- **What is kept of a stopwatch that goes on** is what was kept of it. -/
theorem state_begin_options (x : StopwatchState) (now : Int) (ticket : Nat) :
    (begin x.options now ticket).state = x :=
  (shows_begin x now ticket).state_eq

/-- What is kept of a fresh stopwatch: it starts now. -/
theorem state_begin_fresh (seconds : Nat) (now : Int) (ticket : Nat) :
    (begin (StopwatchOptions.fresh seconds) now ticket).state.start = Int64.ofInt now
      ∧ (begin (StopwatchOptions.fresh seconds) now ticket).state.timeout
        = UInt64.ofNat (min (seconds * 1000) 0xFFFFFFFFFFFFFFFF) := by
  have hstart := start_begin (StopwatchOptions.fresh seconds) now ticket
  have hspan : (begin (StopwatchOptions.fresh seconds) now ticket).span = seconds * 1000000000 :=
    span_begin (StopwatchOptions.fresh seconds) now ticket
  have hdiv : seconds * 1000000000 / nanosPerMilli = seconds * 1000 := by
    rw [nanosPerMilli]
    omega
  refine ⟨hstart, ?_⟩
  rw [state, hspan, hdiv]

/-! ## When it rings -/

/-- What has passed since a start that is not in the future. -/
theorem elapsed_of_le {start now : Int} (hstart : Clock.IsReading start)
    (hnow : Clock.IsReading now) (h : start ≤ now) : (elapsed start now : Int) = now - start := by
  obtain ⟨hlow, -⟩ := hstart
  obtain ⟨-, hhigh⟩ := hnow
  unfold elapsed
  omega

/-- The wait for some whole milliseconds. -/
theorem wake_millis (now : Int) (n : Nat) :
    Clock.wake now (n * nanosPerMilli) = now + (min n Clock.longestWait : Nat) := by
  have hdiv : (n * nanosPerMilli + (nanosPerMilli - 1)) / nanosPerMilli = n := by
    rw [nanosPerMilli]
    omega
  rw [Clock.wake, hdiv]

/-- What is left of a stopwatch that is not done. -/
theorem Shows.remainingAt_eq {x : StopwatchState} {now : Int} {w : Stopwatch} (h : Shows x w)
    (hdone : x.done = false) (hreading : Clock.IsReading x.start.toInt)
    (hnow : Clock.IsReading now) (hle : x.start.toInt ≤ now) :
    w.remainingAt now = (x.ending - now).toNat * nanosPerMilli := by
  have helapsed := elapsed_of_le hreading hnow hle
  have hleft : x.timeout.toNat - elapsed x.start.toInt now = (x.ending - now).toNat := by
    rw [StopwatchState.ending]
    omega
  rw [remainingAt, if_neg (by rw [h.done, hdone]; decide), h.span, h.start, ← Nat.sub_mul, hleft]

/-- **How a stopwatch goes on** that was not done: it is overdue if its end has passed, and its
alarm is set otherwise. -/
theorem begin_options {x : StopwatchState} {now : Int} (hdone : x.done = false)
    (hreading : Clock.IsReading x.start.toInt) (hnow : Clock.IsReading now)
    (hle : x.start.toInt ≤ now) (ticket : Nat) :
    (begin x.options now ticket).isOverdue = decide (x.ending ≤ now)
      ∧ (begin x.options now ticket).alarm
        = if x.ending ≤ now then none
          else some ⟨min x.ending (now + Clock.longestWait), ticket⟩ := by
  have hoptions : x.options = ⟨some x.start, x.timeout.toNat * nanosPerMilli, false⟩ := by
    rw [StopwatchState.options, hdone]
  rw [begin, hoptions]
  dsimp only
  have hshows : Shows x ⟨x.start, x.timeout.toNat * nanosPerMilli, false, false, none⟩ :=
    ⟨rfl, rfl, hdone.symm⟩
  rw [if_neg Bool.false_ne_true, Option.getD_some,
    hshows.remainingAt_eq hdone hreading hnow hle]
  by_cases hend : x.ending ≤ now
  · have hzero : (x.ending - now).toNat = 0 := by omega
    rw [hzero, Nat.zero_mul, if_pos hend, decide_eq_true hend]
    exact ⟨rfl, rfl⟩
  · have hleft : (x.ending - now).toNat * nanosPerMilli ≠ 0 := by
      rw [nanosPerMilli]
      omega
    have htime : Clock.wake now ((x.ending - now).toNat * nanosPerMilli)
        = min x.ending (now + Clock.longestWait) := by
      rw [wake_millis]
      omega
    rw [if_neg hend, decide_eq_false hend, htime, if_neg]
    · exact ⟨rfl, rfl⟩
    · rw [Option.isSome_some, Bool.true_and, beq_iff_eq]
      exact hleft

/-- A stopwatch that is done when it begins is not overdue. -/
theorem overdue_begin_of_done {o : StopwatchOptions} (h : o.done = true) (now : Int)
    (ticket : Nat) : (begin o now ticket).overdue = false := by
  rw [begin]
  dsimp only
  rw [h]
  rfl

/-- A stopwatch that is done when it begins does not ring. -/
theorem alarm_begin_of_done {o : StopwatchOptions} (h : o.done = true) (now : Int)
    (ticket : Nat) : (begin o now ticket).alarm = none := by
  rw [begin]
  dsimp only
  rw [h]
  rfl

/-- When a stopwatch rings that starts now. -/
theorem alarm_begin_none {now : Int} (hnow : Clock.IsReading now) (span ticket : Nat) :
    (begin ⟨none, span, false⟩ now ticket).alarm = some ⟨Clock.wake now span, ticket⟩ := by
  have helapsed : elapsed (Int64.ofInt now).toInt now = 0 := by
    rw [hnow.toInt_ofInt, elapsed]
    omega
  rw [begin]
  dsimp only
  rw [if_neg Bool.false_ne_true, Option.isSome_none, Bool.false_and, if_neg Bool.false_ne_true,
    remainingAt, if_neg Bool.false_ne_true, Option.getD_none, helapsed, Nat.zero_mul, Nat.sub_zero]

/-- **When a fresh stopwatch rings.** -/
theorem alarm_begin_fresh {now : Int} (hnow : Clock.IsReading now) (seconds ticket : Nat) :
    (begin (StopwatchOptions.fresh seconds) now ticket).alarm
      = some ⟨Clock.wake now (seconds * 1000000000), ticket⟩ :=
  alarm_begin_none hnow (seconds * 1000000000) ticket

end Stopwatch
end ScriptedChat
