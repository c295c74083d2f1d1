import ScriptedChat.Bot.Basic

/-!
# The life of a bot

Time passes between what a bot does, and never while it does something.  When the clock
moves on, it stops at every alarm and every announcement on its way, in order.  A bot that
is awake handles what comes up before the clock moves on; one that is not lets it wait.

* `Bot.ringAll`: what comes up at one moment.
* `Bot.settle`: everything that waits is handled.
* `Bot.passTo`, `Bot.runUntil`: the clock moves on, for a bot that is not awake and for
  one that is.
-/

namespace ScriptedChat
namespace Bot

variable {τ : Type}

/-- The notes that the alarms of all chats leave up to a moment, in the order in which the
alarms ring. -/
def ringingNotes (b : Bot) (now : Int) : List Elapsed :=
  ((b.chats.flatMap fun p => p.2.ringing now).mergeSort fun x y => x.1.before y.1).map (·.2)

/-- The bot after everything up to a moment has come up. -/
def ringAll (b : Bot) (now : Int) : Bot :=
  { b with
    queue := b.queue ++ b.ringingNotes now
    chats := b.chats.map fun p => (p.1, p.2.ring now)
    announced := b.announced ++ b.schedule.due now
    schedule := b.schedule.after now }

/-- The moments at which something is to come up. -/
def deadlines (b : Bot) : List Int :=
  (b.chats.flatMap fun p => p.2.alarms.map Alarm.time) ++ b.schedule.map Announcement.time

/-- The first moment after `now` and not after `limit` at which something comes up. -/
def nextDeadline? (b : Bot) (now limit : Int) : Option Int :=
  (b.deadlines.filter fun t => now < t ∧ t ≤ limit).min?

/-- Moves the clock, and lets come up what does.  Nothing is handled. -/
def passTo (t : Int) (s : Stage τ) : Stage τ :=
  { bot := s.bot.ringAll t, world := { s.world with now := t } }

theorem nextDeadline?_bounds {b : Bot} {now limit t : Int}
    (h : b.nextDeadline? now limit = some t) : now < t ∧ t ≤ limit := by
  have := List.min?_mem h
  simpa using (List.mem_filter.1 this).2

variable [Transport τ]

/-- Shows the steps that have been announced. -/
def showAnnounced : StateM (Stage τ) Unit := do
  let steps := (← get).bot.announced
  modify fun s => { s with bot := { s.bot with announced := [] } }
  steps.forM broadcast

/-- Handles everything that waits. -/
def settle : StateM (Stage τ) Unit := do
  drain
  showAnnounced

/-- Moves the clock of a bot that is awake to `limit`, with at most `fuel` stops. -/
def runFor : Nat → Int → Stage τ → Stage τ
  | 0, limit, s => passTo limit s
  | fuel + 1, limit, s =>
    match s.bot.nextDeadline? s.world.now limit with
    | none => passTo limit s
    | some t => runFor fuel limit (settle (passTo t s)).2

/-- Moves the clock of a bot that is awake.  It stops at most once in every millisecond. -/
def runUntil (limit : Int) (s : Stage τ) : Stage τ :=
  runFor (limit - s.world.now).toNat limit s

end Bot
end ScriptedChat
