import ScriptedChat.Chat.Basic
import ScriptedChat.Chat.Menu

/-!
# Playing a scenario

What a chat does is driven from outside: by what its user writes, by the notes of its
timers, by an announcement to all chats.  Each of these is one action, and no other one
comes in between.

## Moving

To move to a step is to give up the timers of the old step, to start those of the new one,
and to keep the chat.  A move to a step that the scenario does not have changes nothing.

## Failures

A message that does not arrive is not a failure of the chat: it is as if it had arrived,
except that a chat whose recipient cannot be reached any more becomes inactive.  The
failures that are reported are those of the disk.

* `Chat.create`, `Chat.restore`: how a chat begins.
* `Chat.moveTo`, `Chat.showStep`, `Chat.send`: what actions are made of.
* `Chat.handleText`, `Chat.handleNote`, `Chat.applyRef`, `Chat.markReachable`: what comes
  from outside.
-/

namespace ScriptedChat

/-- A chat in the world. -/
structure Scene (τ : Type) where
  chat : Chat
  world : World τ

/-- What a chat does. -/
abbrev ChatAction (τ α : Type) : Type := ExceptT EngineError (StateM (Scene τ)) α

namespace Chat

variable {τ : Type}

/-- An action on the disk. -/
def onDisk {α : Type} (action : DiskAction α) : ChatAction τ α :=
  ExceptT.mk fun s =>
    match (World.onDisk action).run s.world with
    | (result, world) => (result, { s with world })

/-- Changes the chat. -/
def update (f : Chat → Chat) : ChatAction τ Unit := modify fun s => { s with chat := f s.chat }

/-! ## What is kept -/

/-- Keeps the chat as it is. -/
def save (g : Setting) : ChatAction τ Unit := do
  onDisk (g.store.save (← get).chat.record)

/-- Adds a line to the log of the chat. -/
def writeLog (g : Setting) (text : String) : ChatAction τ Unit := do
  let s ← get
  onDisk (g.store.appendLog s.chat.id s.world.now text)

/-- Adds the first thing that was written in a chat to its log, and who wrote it. -/
def writeFirstContact (g : Setting) (text : String) (sender : Sender) : ChatAction τ Unit :=
  writeLog g (text ++ " " ++ sender.toText)

/-! ## Beginning -/

/-- A new chat at the step at which the scenario starts.  It is kept, but it does not move
to the step and shows nothing. -/
def create (g : Setting) (id : String) (ref : Option String) : WorldAction τ Chat := do
  let chat := opening g.scenario id ref
  World.onDisk (g.store.save chat.record)
  return chat

/-- The chat of a record, and the notes of the timers whose end has passed. -/
def restore (g : Setting) (r : ChatRecord) : StateM (World τ) (Chat × List Elapsed) := do
  let w ← get
  let chat := ofRecord g.scenario r w.now w.tickets
  set { w with tickets := w.tickets + chat.timers.length }
  return (chat, chat.overdueNotes)

/-! ## Moving and showing -/

/-- Gives up all timers, and tells what their stopwatches showed. -/
def stopTimers (c : Chat) : List StopwatchState × Chat :=
  (c.timers.map fun t => t.watch.state, { c with timers := [] })

/-- The scene after a move to a step, before it is kept. -/
def enterStep (step : Step) (s : Scene τ) : Scene τ :=
  let timers := armTimers s.world.now s.world.tickets step.delayedActions []
  { chat :=
      { s.chat with
        stepId := some step.id, timers, generation := s.chat.generation + 1 }
    world := { s.world with tickets := s.world.tickets + timers.length } }

/-- Moves to a step.  Tells whether the scenario has it. -/
def moveTo (g : Setting) (id : String) : ChatAction τ Bool := do
  match g.scenario.step? id with
  | none => return false
  | some step =>
    modify (enterStep step)
    save g
    return true

/-- The chat after the note of its `slot`-th timer has been taken up. -/
def markHandled (slot : Nat) (timer : ActionTimer) (c : Chat) : Chat :=
  { c with
    timers := c.timers.set slot { timer with handled := true, watch := timer.watch.markDone } }

variable [Transport τ]

/-- Sends a message. -/
def send (g : Setting) (text : String) (buttons : Option (List String)) :
    ChatAction τ Unit := do
  let s ← get
  let (result, world) := World.post (.message s.chat.id text buttons) s.world
  set { s with world }
  match result with
  | .ok () => return ()
  | .error e =>
    if e.isUnreachable && s.chat.active then
      update fun c => { c with active := false }
      save g

/-- Shows the step: its text, with its buttons as the keyboard. -/
def showStep (g : Setting) : ChatAction τ Unit := do
  let c := (← get).chat
  match c.step? g.scenario with
  | some step => send g step.text (some step.buttons)
  | none => send g ("Step " ++ c.stepLabel ++ " is not found") none

/-- Moves to a step and shows it, if the scenario has it. -/
def goTo (g : Setting) (id : String) : ChatAction τ Unit := do
  if ← moveTo g id then showStep g

/-! ## What comes from outside -/

/-- The reply to a text that means nothing at the step. -/
def savedReply : String := "_Your message has been saved_"

/-- Sends a text, if there is one. -/
def sendText (g : Setting) (text : String) : ChatAction τ Unit :=
  if text.isEmpty then return () else send g text none

/-- Does what an action that a user has chosen refers to. -/
def follow (g : Setting) (r : Reference) : ChatAction τ Unit := do
  sendText g r.text
  match r.step with
  | some id => goTo g id
  | none => return ()

/-- A text for the step: the label of one of its actions, or something to be acknowledged
only. -/
def handleInput (g : Setting) (text : String) : ChatAction τ Unit := do
  let c := (← get).chat
  match c.step? g.scenario with
  | none => send g ("Step [" ++ c.stepLabel ++ "] is not found") none
  | some step =>
    match step.action? text with
    | none => send g savedReply none
    | some action => follow g action.reference

/-- A command that is known in every scenario. -/
def runMenu (g : Setting) : MenuCommand → ChatAction τ Unit
  | .restart => do
    let _ ← moveTo g g.scenario.entry.id
    showStep g
  | .status => do
    send g (statusText (← get).chat.refId) none
  | .about => send g (aboutText g.scenario.name g.scenario.description) none

/-- A text that a user wrote. -/
def handleText (g : Setting) (text : String) : ChatAction τ Unit :=
  if text.toList.head? = some '/' then
    match MenuCommand.ofText? text with
    | some command => runMenu g command
    | none => return ()
  else handleInput g text

/-- Does what the action of a timer refers to.  A target that names no step of the
scenario is a message as a whole. -/
def runAction (g : Setting) (a : Action) : ChatAction τ Unit :=
  match a.reference.step.bind g.scenario.step? with
  | some step => do
    sendText g a.reference.text
    let _ ← moveTo g step.id
    showStep g
  | none => do
    send g a.target none
    save g

/-- A note that a timer has rung.  A note that is void changes nothing. -/
def handleNote (g : Setting) (n : Elapsed) : ChatAction τ Unit := do
  match (← get).chat.awaited? n with
  | none => return ()
  | some timer =>
    update (markHandled n.slot timer)
    runAction g timer.action

omit [Transport τ]

/-- A referral code.  The first one stays; every one is logged. -/
def applyRef (g : Setting) (code : String) : ChatAction τ Unit := do
  writeLog g (Json.toText (.object [("refId", .text code)]))
  if (← get).chat.refId.isNone then
    update fun c => { c with refId := some code }
    save g

/-- What is written in a chat shows that it can be reached. -/
def markReachable (g : Setting) : ChatAction τ Unit := do
  if !(← get).chat.active then
    update fun c => { c with active := true }
    save g

end Chat

end ScriptedChat
