import ScriptedChat.Clock
import ScriptedChat.Json.Decode
import ScriptedChat.Json.Writer

/-!
# Stopwatches

A stopwatch counts down once.  Its start is a moment of the calendar, not of the process,
so that a countdown goes on while nobody runs it: what is kept on disk (`StopwatchState`)
is when it started, how long it takes, and whether it is over.

## Restoring

```
over                        never rings
restored after its end      never rings, and is overdue
otherwise                   rings when the remaining time has passed
```

A stopwatch that is overdue leaves it to its owner what to do, who then says that it is
done.  A *fresh* stopwatch starts now and is never overdue: even one that takes no time
rings.  One that takes longer than the longest wait of the clock (`Clock.wake`) rings
early, at the end of that.

## Alarms

A stopwatch that will ring has an `Alarm`.  The clock that all stopwatches share looks at
nothing else: alarms that fall on the same millisecond ring in the order of their
tickets, which are given out in the order in which they are set.

* `StopwatchState`: what is kept, and its JSON form.
* `Stopwatch.begin`, `remainingAt`, `ring`, `markDone`, `stop`: the life of a stopwatch.
-/

namespace ScriptedChat

/-- What is kept of a stopwatch. -/
structure StopwatchState where
  /-- The millisecond of the epoch at which the countdown began. -/
  start : Int64
  /-- How many milliseconds it takes. -/
  timeout : UInt64
  /-- The countdown is over, or has been dealt with. -/
  done : Bool
  deriving DecidableEq, Repr

namespace StopwatchState

/-- The names of the fields in JSON. -/
def fieldNames : List String := ["start", "timeout", "done"]

/-- The state as JSON. -/
def toJson (s : StopwatchState) : Json :=
  .object
    [("start", .int s.start.toInt), ("timeout", .int s.timeout.toNat), ("done", .bool s.done)]

/-- The state that a JSON value gives.  A countdown that does not say so is not over. -/
def ofJson? (v : Json) : Option StopwatchState := do
  match ← v.fields? fieldNames with
  | [start, timeout, done] =>
    let start ← Json.required Json.asSigned? start
    let timeout ← Json.required Json.asUnsigned? timeout
    let done ← Json.orElse Json.asBool? false done
    return { start := Int64.ofInt start, timeout := UInt64.ofNat timeout.toNat, done }
  | _ => none

/-- The state that a text gives. -/
def ofText? (s : String) : Option StopwatchState := (Json.parse s.toList).bind ofJson?

/-- The state as text. -/
def toText (s : StopwatchState) : String := s.toJson.toText

end StopwatchState

/-- A ringing that is to come. -/
structure Alarm where
  /-- The millisecond of the epoch. -/
  time : Int
  /-- The place among the alarms of one millisecond. -/
  ticket : Nat
  deriving DecidableEq, Repr

namespace Alarm

/-- The order in which alarms ring. -/
def before (a b : Alarm) : Bool :=
  decide (a.time < b.time) || (a.time == b.time && decide (a.ticket ≤ b.ticket))

end Alarm

/-- How a stopwatch is to begin. -/
structure StopwatchOptions where
  /-- The start of a countdown that is restored; a fresh one starts now. -/
  start : Option Int64
  /-- How many nanoseconds it takes. -/
  span : Nat
  done : Bool
  deriving DecidableEq, Repr

/-- A fresh countdown of some seconds. -/
def StopwatchOptions.fresh (seconds : Nat) : StopwatchOptions :=
  ⟨none, seconds * 1000000000, false⟩

/-- The countdown that a state is kept of. -/
def StopwatchState.options (s : StopwatchState) : StopwatchOptions :=
  ⟨some s.start, s.timeout.toNat * nanosPerMilli, s.done⟩

/-- A stopwatch. -/
structure Stopwatch where
  start : Int64
  /-- How many nanoseconds it takes. -/
  span : Nat
  done : Bool
  /-- It was restored after its end and has not been dealt with. -/
  overdue : Bool
  alarm : Option Alarm
  deriving DecidableEq, Repr

namespace Stopwatch

/-- The milliseconds from one moment to another, at least none and at most as many as a
signed word holds. -/
def elapsed (start now : Int) : Nat := (min (max (now - start) 0) 0x7FFFFFFFFFFFFFFF).toNat

/-- The nanoseconds left at a moment.  Nothing is left of a stopwatch that is done. -/
def remainingAt (w : Stopwatch) (now : Int) : Nat :=
  if w.done then 0 else w.span - elapsed w.start.toInt now * nanosPerMilli

/-- A stopwatch that begins now.  The ticket is for its alarm. -/
def begin (o : StopwatchOptions) (now : Int) (ticket : Nat) : Stopwatch :=
  let w : Stopwatch :=
    { start := o.start.getD (Int64.ofInt now)
      span := o.span
      done := o.done
      overdue := false
      alarm := none }
  if o.done then w
  else
    let left := w.remainingAt now
    if o.start.isSome && left == 0 then { w with overdue := true }
    else { w with alarm := some ⟨Clock.wake now left, ticket⟩ }

/-- The stopwatch after it has rung. -/
def ring (w : Stopwatch) : Stopwatch := { w with done := true, alarm := none }

/-- It was restored after its end and nobody has dealt with it. -/
def isOverdue (w : Stopwatch) : Bool := w.overdue && !w.done

/-- It will ring. -/
def isPending (w : Stopwatch) : Bool := w.alarm.isSome && !w.done

/-- The stopwatch after its owner has dealt with it.  An alarm that is set still rings. -/
def markDone (w : Stopwatch) : Stopwatch := { w with done := true, overdue := false }

/-- What is to be kept.  A timeout that is too long for a word is kept as the longest. -/
def state (w : Stopwatch) : StopwatchState :=
  { start := w.start
    timeout := UInt64.ofNat (min (w.span / nanosPerMilli) 0xFFFFFFFFFFFFFFFF)
    done := w.done }

/-- The stopwatch without its alarm.  It is not done, and can be restored. -/
def stop (w : Stopwatch) : Stopwatch := { w with alarm := none }

/-- It rings at a moment, or has an alarm that is past. -/
def ringsBy (w : Stopwatch) (now : Int) : Bool := w.alarm.any fun a => decide (a.time ≤ now)

end Stopwatch

end ScriptedChat
