import ScriptedChat.Store.Basic
import ScriptedChat.Transport.Basic
import ScriptedChat.Scenario.Parser

/-!
# What chats share

Chats share a clock, a disk and a transport.  Time does not pass while a chat does
something; it only passes between two things (`ScriptedChat.Bot.Loop`).

What is done can fail, and what was done before the failure stays done.  So an action is
a function from the world before it to its result *and* the world after it.

* `World`: the clock, the disk, the transport, and all requests so far.
* `EngineError`: why something was not done.
* `WorldAction`, `World.onDisk`, `World.post`: actions.
-/

namespace ScriptedChat

/-- What all chats of a bot share. -/
structure World (τ : Type) where
  /-- The millisecond of the epoch. -/
  now : Int
  disk : Disk
  transport : τ
  /-- All requests so far, whether they arrived or not. -/
  outbox : List Request
  /-- The ticket of the next alarm. -/
  tickets : Nat

/-- Why something was not done. -/
inductive EngineError where
  /-- The file of the scenario could not be read. -/
  | scenarioRead (path : Path) (cause : IoError)
  /-- It is no scenario. -/
  | scenario (error : ScenarioError)
  | store (error : StoreError)
  | delivery (error : DeliveryError)
  deriving DecidableEq, Repr

/-- What is done in the world. -/
abbrev WorldAction (τ α : Type) : Type := ExceptT EngineError (StateM (World τ)) α

/-- What a chat needs to know: the scenario it plays, and where it is kept. -/
structure Setting where
  scenario : Scenario
  store : Store
  deriving Repr

namespace World

variable {τ : Type}

/-- An action on the disk. -/
def onDisk {α : Type} (action : DiskAction α) : WorldAction τ α :=
  ExceptT.mk fun w =>
    match action.run w.disk with
    | (.ok a, disk) => (.ok a, { w with disk })
    | (.error e, disk) => (.error (.store e), { w with disk })

/-- Posts a request, and tells what became of it. -/
def post [Transport τ] (request : Request) (w : World τ) :
    Except DeliveryError Unit × World τ :=
  let (result, transport) := Transport.post request w.transport
  (result, { w with transport, outbox := w.outbox ++ [request] })

end World

end ScriptedChat
