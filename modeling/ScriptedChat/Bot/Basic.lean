import ScriptedChat.Chat.Play
import ScriptedChat.Schedule

/-!
# Bots

A bot plays one scenario with many chats.  Whatever happens is handed to the chat it is
for, one thing after the other, and a chat that fails stops nobody else.

Three sources make things happen: users, who write; the timers of chats, whose notes wait
in a queue; and the schedule, which announces steps to all chats.

## How a bot begins and ends

At the start every chat that is kept is restored, and one that cannot be read is left
out.  At the end the notes that still wait are handled, then every chat is kept, then all
timers are given up.

* `Bot`, `Bot.start`, `Bot.load`.
* `Bot.handle`, `Bot.handleNote`, `Bot.broadcast`: the three sources.
* `Bot.shutdown`.
-/

namespace ScriptedChat

/-- A bot. -/
structure Bot where
  setting : Setting
  /-- The chats by the name of their directory. -/
  chats : List (String × Chat)
  /-- The notes that wait, in the order in which they were left. -/
  queue : List Elapsed
  /-- The announcements to come. -/
  schedule : Schedule
  /-- The steps that have been announced and wait to be shown. -/
  announced : List String

/-- A bot in the world. -/
structure Stage (τ : Type) where
  bot : Bot
  world : World τ

/-- What a bot does. -/
abbrev BotAction (τ α : Type) : Type := ExceptT EngineError (StateM (Stage τ)) α

namespace Bot

variable {τ : Type}

/-- The chat under a key. -/
def chat? (b : Bot) (key : String) : Option Chat := Keyed.find? key b.chats

/-- The bot with a chat under a key. -/
def withChat (b : Bot) (key : String) (c : Chat) : Bot :=
  { b with chats := Keyed.insert key c b.chats }

/-- An action of the chat under a key, which is `c`. -/
def onChat {α : Type} (key : String) (c : Chat) (action : ChatAction τ α) : BotAction τ α :=
  ExceptT.mk fun s =>
    match action.run ⟨c, s.world⟩ with
    | (result, t) => (result, { bot := s.bot.withChat key t.chat, world := t.world })

/-- An action in the world. -/
def onWorld {α : Type} (action : WorldAction τ α) : BotAction τ α :=
  ExceptT.mk fun s =>
    match action.run s.world with
    | (result, world) => (result, { s with world })

/-! ## Beginning -/

/-- Restores the chat under a key, if its record can be read. -/
def restoreChat (key : String) (b : Bot) : StateM (World τ) Bot := do
  match b.setting.store.load key (← get).disk with
  | .error _ => return b
  | .ok r =>
    let (chat, notes) ← Chat.restore b.setting r
    return { b.withChat key chat with queue := b.queue ++ notes }

/-- A bot with all the chats that are kept. -/
def start (g : Setting) : WorldAction τ Bot := do
  let w ← get
  let b : Bot :=
    { setting := g, chats := [], queue := [],
      schedule := Schedule.ofScenario g.scenario w.now, announced := [] }
  match g.store.chats w.disk with
  | .error e => throw (.store e)
  | .ok keys => ExceptT.lift (keys.foldlM (fun b key => restoreChat key b) b)

/-- A bot that plays the scenario in a file. -/
def load (zone : Calendar.Zone) (path : Path) (store : Store) : WorldAction τ Bot := do
  match (← get).disk.readText path with
  | .error e => throw (.scenarioRead path e)
  | .ok text =>
    match Scenario.ofText zone text with
    | .error e => throw (.scenario e)
    | .ok scenario => start { scenario, store }

/-! ## What happens -/

/-- The command with which a user comes from somewhere. -/
def startCommand : List Char := "/start".toList

/-- The referral code that a text carries: the last word of a `/start` with words
after it. -/
def referral? (text : String) : Option String :=
  match Text.words text.toList with
  | [] => none
  | first :: rest =>
    if first = startCommand then rest.getLast?.map String.ofList else none

/-- Makes the menu of the scenario known to the service. -/
def publishMenu [Transport τ] (g : Setting) : WorldAction τ Unit := do
  let (result, world) := World.post (.commands g.scenario.menu) (← get)
  set world
  match result with
  | .ok () => return ()
  | .error e => throw (.delivery e)

variable [Transport τ]

/-- Answers the press of a button.  Whether the answer arrives does not matter. -/
def answerPress (press : Option String) : BotAction τ Unit :=
  match press with
  | none => return ()
  | some p => modify fun s => { s with world := (World.post (.answer p) s.world).2 }

/-- What a chat does when something was written in it. -/
def respond (g : Setting) (text : String) : ChatAction τ Unit := do
  Chat.markReachable g
  Chat.writeLog g text
  match referral? text with
  | some code => Chat.applyRef g code
  | none => Chat.handleText g text

/-- What a chat does when it is new. -/
def welcome (g : Setting) (text : String) (sender : Sender) : ChatAction τ Unit := do
  Chat.writeFirstContact g text sender
  let _ ← Chat.moveTo g g.scenario.entry.id
  Chat.showStep g

/-- Hands what a user did to its chat, which is made if there is none yet. -/
def handle (e : Inbound) : BotAction τ Unit := do
  answerPress e.press
  let text := String.ofList (Text.trim e.text.toList)
  if text.isEmpty then return ()
  else
    let b := (← get).bot
    match b.chat? e.chat with
    | some c => onChat e.chat c (respond b.setting text)
    | none =>
      let c ← onWorld (Chat.create b.setting e.chat (referral? text))
      onChat e.chat c (welcome b.setting text e.sender)

/-- Hands a note to the chat that left it. -/
def handleNote (n : Elapsed) : BotAction τ Unit := do
  let b := (← get).bot
  match b.chat? n.chat with
  | some c => onChat n.chat c (Chat.handleNote b.setting n)
  | none => return ()

/-- Does something, and lets nobody know if it failed. -/
def quietly {α : Type} (action : BotAction τ α) : StateM (Stage τ) Unit := do
  let _ ← action.run

/-- Moves every chat to a step and shows it. -/
def broadcast (step : String) : StateM (Stage τ) Unit := do
  let b := (← get).bot
  b.chats.forM fun p => quietly (onChat p.1 p.2 (Chat.goTo b.setting step))

/-- Handles the notes that wait. -/
def drain : StateM (Stage τ) Unit := do
  let b := (← get).bot
  modify fun s => { s with bot := { s.bot with queue := [] } }
  b.queue.forM fun n => quietly (handleNote n)

/-- The first failure of two. -/
def firstFailure : Except EngineError Unit → Except EngineError Unit → Except EngineError Unit
  | .error e, _ => .error e
  | .ok (), r => r

/-- Keeps the chats, as many as can be kept, and tells the first failure. -/
def flush (g : Setting) : List (String × Chat) → StateM (World τ) (Except EngineError Unit)
  | [] => return .ok ()
  | (_, c) :: chats => do
    let here ← World.onDisk (g.store.save c.record)
    let others ← flush g chats
    return firstFailure here others

/-- The bot without timers. -/
def stopAll (b : Bot) : Bot :=
  { b with chats := b.chats.map fun p => (p.1, (Chat.stopTimers p.2).2) }

/-- Keeps every chat, and gives up all timers. -/
def close : BotAction τ Unit :=
  ExceptT.mk fun s =>
    let (result, world) := flush s.bot.setting s.bot.chats s.world
    (result, { bot := s.bot.stopAll, world })

/-- Ends the bot: handles what waits, and closes it. -/
def shutdown : BotAction τ Unit := do
  ExceptT.lift drain
  close

end Bot

end ScriptedChat
