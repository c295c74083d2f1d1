import ScriptedChat.Console.Report
import ScriptedChat.Console.Settings
import ScriptedChat.Console.Environment
import ScriptedChat.Bot.Loop
import ScriptedChat.Telegram.Poller
import ScriptedChat.Telegram.Script

/-!
# Running a bot

The command `run` brings everything together: settings, token, service, chats, scenario.
Once all is there, a poller and the bot work side by side, through the channel between
them, until the program is interrupted; then the bot is shut down.

## The interrupt

The network is one by script, so it is known when nothing more is going to happen by
itself: a request for updates waits for ever.  The program is interrupted then, as soon as
so many other requests have been made, or when nothing is left to wait for.

* `Service`: the poller and the bot at work.
* `Service.serve`: until the interrupt.
* `run`: the command.
-/

namespace ScriptedChat
namespace Console

open Telegram

/-- The connection that everything goes through. -/
abbrev Link := Connection Script

/-- A bot at work, and the poller that brings what users do. -/
structure Service where
  stage : Stage Link
  poller : Poller
  channel : Channel

namespace Service

/-- Room in the channel. -/
def capacity : Nat := 256

/-- The poller with its channel and the connection of the bot. -/
def polling (s : Service) : Polling Script := ⟨s.poller, s.channel, s.stage.world.transport⟩

/-- The service after the poller has gone on. -/
def withPolling (s : Service) (p : Polling Script) : Service :=
  { stage := { s.stage with world := { s.stage.world with transport := p.connection } }
    poller := p.poller
    channel := p.channel }

/-- Lets the poller go on until it has to wait. -/
def poll (fuel : Nat) (s : Service) : Service :=
  s.withPolling (s.polling.run s.stage.world.now fuel)

/-- Handles what is in the channel. -/
def receive (s : Service) : Service :=
  let stage := s.channel.waiting.foldl (fun st e => (Bot.quietly (Bot.handle e) st).2) s.stage
  { s with stage, channel := { s.channel with waiting := [] } }

/-- Does everything that can be done at once, in at most `fuel` rounds. -/
def work : Nat → Service → Service
  | 0, s => s
  | fuel + 1, s =>
    let s := { s with stage := (Bot.settle s.stage).2 }
    let s := s.poll (fuel + 1)
    if s.channel.waiting.isEmpty then s else work fuel s.receive

/-- Whether a post asks for updates. -/
def asksForUpdates (p : HttpPost) : Bool := Script.methodOf p == "getUpdates"

/-- How many other requests have been made. -/
def calls (s : Service) : Nat :=
  (s.stage.world.transport.posts.filter fun p => !asksForUpdates p).length

/-- A request for updates waits for ever. -/
def isIdle (s : Service) : Bool :=
  match s.poller.phase with
  | .awaiting none => true
  | _ => false

/-- The next moment at which something happens by itself. -/
def nextMoment? (s : Service) : Option Int :=
  ((s.polling.wake?.toList ++ s.stage.bot.deadlines).filter fun t =>
    s.stage.world.now < t).min?

/-- Works until the interrupt, which comes after `interruptAfter` requests, with at most
`fuel` moves of the clock. -/
def serve (interruptAfter : Nat) : Nat → Service → Service
  | 0, s => s
  | fuel + 1, s =>
    let s := s.work (fuel + 1)
    if s.isIdle && decide (interruptAfter ≤ s.calls) then s
    else
      match s.nextMoment? with
      | none => s
      | some t => serve interruptAfter fuel { s with stage := Bot.passTo t s.stage }

end Service

/-- What the command `run` needs from outside. -/
structure Surroundings where
  now : Int
  zone : Calendar.Zone
  disk : Disk
  /-- The variables that are set. -/
  known : Variables
  network : Script
  /-- How many requests are made before the interrupt. -/
  interruptAfter : Nat

/-- A client for the token of a bot. -/
def makeClient (d : Disk) (directory : Path) (vars : Variables) (settings : Settings) :
    Except Failure Client :=
  match Environment.resolveToken d directory vars with
  | none =>
    .error
      { context :=
          "no bot token: create " ++ (directory.join Environment.tokenName).text ++ " or set "
            ++ Environment.tokenVariable
        causes := [] }
  | some token =>
    match Client.ofToken token with
    | .ok client => .ok { client with parseMode := settings.parseMode }
    | .error e => .error ⟨"failed to create Telegram transport", deliveryCauses e⟩

/-- Rounds of work that are enough for a script. -/
def enoughFuel (s : Script) : Nat := 8 * s.size + 1000

/-- What the command does in the world. -/
abbrev RunAction (α : Type) : Type := ExceptT Failure (StateM (World Link)) α

/-- Does something, of which a failure is told with what was being done. -/
def within {α : Type} (context : String) (action : WorldAction Link α) : RunAction α :=
  ExceptT.mk fun w =>
    match action.run w with
    | (.ok a, w) => (.ok a, w)
    | (.error e, w) => (.error ⟨context, causesOf e⟩, w)

/-- Asks the service who the bot is. -/
def verify : WorldAction Link String := do
  let w ← get
  let (result, transport) := w.transport.getMe
  set { w with transport }
  match result with
  | .ok name => return name
  | .error e => throw (.delivery e)

/-- Shuts the bot down. -/
def shutDown (s : Service) : RunAction Unit :=
  ExceptT.mk fun _ =>
    match Bot.shutdown.run s.stage with
    | (.ok (), t) => (.ok (), t.world)
    | (.error e, t) => (.error ⟨"failed to flush chat state", causesOf e⟩, t.world)

/-- Runs the bot of a directory, once there is a client. -/
def runBot (u : Surroundings) (directory : Path) (settings : Settings) (pollTimeout : Nat) :
    RunAction Unit := do
  let _ ← within "failed to verify bot token with Telegram" verify
  let store ← within "failed to open chat history"
    (World.onDisk (Store.open (directory.join settings.history)))
  let bot ← within "failed to load scenario"
    (Bot.load u.zone (directory.join settings.scenario) store)
  -- A menu that cannot be made known is no reason to stop.
  let _ ← ExceptT.lift (Bot.publishMenu bot.setting : WorldAction Link Unit).run
  let service : Service :=
    { stage := ⟨bot, ← get⟩
      poller := Poller.new pollTimeout
      channel := Channel.empty Service.capacity }
  shutDown (service.serve u.interruptAfter (enoughFuel u.network))

/-- The command `run`.  Gives what is on the disk afterwards and all posts that were made,
too. -/
def run (u : Surroundings) (directory : Path) (pollTimeout : Option Nat) :
    Outcome × Disk × List HttpPost :=
  let settings := Settings.load u.disk directory
  match makeClient u.disk directory u.known settings with
  | .error f => (.failure f, u.disk, [])
  | .ok client =>
    let w : World Link :=
      { now := u.now, disk := u.disk, transport := ⟨client, u.network, []⟩, outbox := [],
        tickets := 0 }
    let (result, w) :=
      (runBot u directory settings (pollTimeout.getD settings.pollTimeout)).run w
    (Outcome.ofExcept (result.map fun _ => ""), w.disk, w.transport.posts)

end Console
end ScriptedChat
