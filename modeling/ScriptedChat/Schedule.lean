import ScriptedChat.Clock
import ScriptedChat.Scenario.Basic

/-!
# Announcements

A step with a date is announced once, when its moment comes, to whoever plays the
scenario.  When the scenario is started, an announcement is set for every step whose
moment is still to come; the others are never announced.

The clock has milliseconds.  A moment between two of them is announced at the later one,
one that is further away than the clock waits (`Clock.wake`) at the end of the longest wait,
and steps of the same millisecond are announced in the order of the script.

* `Announcement`, `Schedule`: what is to come.
* `Schedule.ofScenario`: what is set at the start.
* `Schedule.due`, `Schedule.after`: what comes by a moment, and what is left then.
-/

namespace ScriptedChat

/-- A step that is to be announced at a millisecond of the epoch. -/
structure Announcement where
  step : String
  time : Int
  deriving DecidableEq, Repr

/-- The announcements to come, in the order of the script. -/
abbrev Schedule := List Announcement

namespace Schedule

/-- The announcement of a step with a date, if its moment is after `now`. -/
def announcement? (now : Int) (step : String × Calendar.Moment) : Option Announcement :=
  let nanos := step.snd.nanosSince (Calendar.Moment.ofMillis now)
  if 0 < nanos then some ⟨step.fst, Clock.wake now nanos.toNat⟩ else none

/-- What is set when a scenario is started. -/
def ofScenario (s : Scenario) (now : Int) : Schedule :=
  s.scheduled.filterMap (announcement? now)

/-- Puts an announcement behind those that are not later. -/
def insertByTime (a : Announcement) : List Announcement → List Announcement
  | [] => [a]
  | b :: bs => if a.time < b.time then a :: b :: bs else b :: insertByTime a bs

/-- The announcements by time; at one time they keep their order. -/
def byTime (s : Schedule) : List Announcement :=
  s.foldl (fun sorted a => insertByTime a sorted) []

/-- What is announced by a moment, in order. -/
def due (s : Schedule) (now : Int) : List String :=
  (byTime (s.filter fun a => a.time ≤ now)).map Announcement.step

/-- What is left after a moment. -/
def after (s : Schedule) (now : Int) : Schedule := s.filter fun a => now < a.time

end Schedule
end ScriptedChat
