import ScriptedChat.Chat.World
import ScriptedChat.Text.Quoted

/-!
# Chats

A chat is one conversation: the step it is on, the referral code it came with, whether
its messages arrive, and one timer for each delayed action of the step, in the order of
those actions.

## Generations

A timer that rings does nothing to its chat.  It leaves a note (`Elapsed`), which is
handled when its turn comes.  Meanwhile the chat may have moved on, so a note says by
which *generation* of timers it was left: the generation grows with every move, and a note
of another generation is void.

## Handled timers

A timer counts as done, in what is kept of it, when its note has been handled and not when
it rings.  So a note that is lost with the process is left again by the next one, for a
timer that is restored after its end.

* `Elapsed`, `ActionTimer`, `Chat`.
* `Chat.record`: what is kept.
* `armTimers`: the timers of the actions of a step.
* `Chat.ring`: what the clock does to a chat.
-/

namespace ScriptedChat

/-- A note that a timer has rung: the `slot`-th timer of a generation of a chat. -/
structure Elapsed where
  chat : String
  generation : Nat
  slot : Nat
  deriving DecidableEq, Repr

/-- The timer of a delayed action. -/
structure ActionTimer where
  action : Action
  watch : Stopwatch
  /-- What the action does has been done. -/
  handled : Bool
  deriving DecidableEq, Repr

/-- What is kept of a timer: it is done if it has been handled. -/
def ActionTimer.state (t : ActionTimer) : StopwatchState := { t.watch.state with done := t.handled }

/-- A conversation. -/
structure Chat where
  id : String
  stepId : Option String
  refId : Option String
  active : Bool
  /-- One for each delayed action of the step. -/
  timers : List ActionTimer
  /-- How often the chat has moved since it was created or restored. -/
  generation : Nat
  deriving DecidableEq, Repr

/-- The timers of some actions, which begin now.  A timer of which a state is kept goes on
with it, and the others are fresh. -/
def armTimers (now : Int) : Nat → List Action → List StopwatchState → List ActionTimer
  | _, [], _ => []
  | ticket, a :: as, [] =>
    { action := a
      watch := Stopwatch.begin (StopwatchOptions.fresh a.delay) now ticket
      handled := false } :: armTimers now (ticket + 1) as []
  | ticket, a :: as, s :: ss =>
    { action := a
      watch := Stopwatch.begin s.options now ticket
      handled := s.done } :: armTimers now (ticket + 1) as ss

namespace Chat

/-- The step that a scenario starts at. -/
def opening (scenario : Scenario) (id : String) (ref : Option String) : Chat :=
  { id, stepId := some scenario.entry.id, refId := ref, active := true, timers := [],
    generation := 0 }

/-- What is kept of a chat. -/
def record (c : Chat) : ChatRecord :=
  { chatId := c.id
    stepId := c.stepId
    refId := c.refId
    active := c.active
    timers := c.timers.map ActionTimer.state }

/-- The id of the step as it is named to the user. -/
def stepLabel (c : Chat) : String := c.stepId.getD ""

/-- The step it is on, if the scenario has it.  A chat without a step looks for the step
without an id. -/
def step? (c : Chat) (scenario : Scenario) : Option Step := scenario.step? c.stepLabel

/-- The note of a timer. -/
def note (c : Chat) (slot : Nat) : Elapsed := ⟨c.id, c.generation, slot⟩

/-- The chat of a record, with its timers going on from `now`, which take tickets from
`tickets` on. -/
def ofRecord (scenario : Scenario) (r : ChatRecord) (now : Int) (tickets : Nat) : Chat :=
  let c : Chat :=
    { id := r.chatId, stepId := r.stepId, refId := r.refId, active := r.active, timers := [],
      generation := 0 }
  match c.step? scenario with
  | some step => { c with timers := armTimers now tickets step.delayedActions r.timers }
  | none => c

/-- The notes of the timers that were restored after their end. -/
def overdueNotes (c : Chat) : List Elapsed :=
  (c.timers.zipIdx.filter fun t => t.1.watch.isOverdue).map fun t => c.note t.2

/-- The timer that a note is of, if it has not been handled.  A note of another generation
is void. -/
def awaited? (c : Chat) (n : Elapsed) : Option ActionTimer :=
  if n.generation = c.generation then (c.timers[n.slot]?).filter fun t => !t.handled else none

/-- What the clock does to a timer. -/
def ringTimer (now : Int) (t : ActionTimer) : ActionTimer :=
  if t.watch.ringsBy now then { t with watch := t.watch.ring } else t

/-- The chat after its alarms up to `now` have rung. -/
def ring (c : Chat) (now : Int) : Chat := { c with timers := c.timers.map (ringTimer now) }

/-- The alarms that ring by `now`, each with the note that it leaves. -/
def ringing (c : Chat) (now : Int) : List (Alarm × Elapsed) :=
  c.timers.zipIdx.filterMap fun t =>
    match t.1.watch.alarm with
    | some a => if a.time ≤ now then some (a, c.note t.2) else none
    | none => none

/-- The alarms that are to ring. -/
def alarms (c : Chat) : List Alarm := c.timers.filterMap fun t => t.watch.alarm

/-- A text that may be absent, as a message shows it. -/
def describeText : Option String → String
  | some s => "Some(" ++ Text.quoted s ++ ")"
  | none => "None"

/-- The chat in one line, for those who look for a fault. -/
def describe (c : Chat) : String :=
  "Chat \x7b chat_id: " ++ Text.quoted c.id
    ++ ", step_id: " ++ describeText c.stepId
    ++ ", ref_id: " ++ describeText c.refId
    ++ ", active: " ++ (if c.active then "true" else "false")
    ++ ", timers: " ++ toString c.timers.length
    ++ ", generation: " ++ toString c.generation ++ " \x7d"

end Chat

end ScriptedChat
