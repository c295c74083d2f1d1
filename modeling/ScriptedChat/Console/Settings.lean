import ScriptedChat.Toml.Document
import ScriptedChat.Disk

/-!
# Settings

The directory of a bot may hold a file with settings, in its section `[bot]`.  A setting
that is not there, and one that makes no sense, has its default; a file that is not well
formed counts as no file.

* `Settings`, `Settings.default`, `Settings.load`.
-/

namespace ScriptedChat

/-- What can be set for a bot. -/
structure Settings where
  /-- How many seconds the service may wait for updates. -/
  pollTimeout : Nat
  /-- How messages are marked up; without it they are plain. -/
  parseMode : Option String
  /-- The file of the scenario, in the directory of the bot. -/
  scenario : String
  /-- The directory of the chats, in the directory of the bot. -/
  history : String
  deriving DecidableEq, Repr

namespace Settings

/-- The name of the file. -/
def fileName : String := "metabot.toml"

/-- What holds if nothing is set. -/
def default : Settings := ⟨30, some "Markdown", "scenario.md", "history"⟩

/-- The text under a key. -/
def text? (t : Toml.Table) (key : String) : Option String :=
  match t.find? key with
  | some (.scalar (.text s)) => some s
  | _ => none

/-- The integer under a key, if it is not negative. -/
def natural? (t : Toml.Table) (key : String) : Option Nat :=
  match t.find? key with
  | some (.scalar (.integer n)) => if 0 ≤ n then some n.toNat else none
  | _ => none

/-- The mark-up that a text asks for.  The empty text asks for none. -/
def markup (s : String) : Option String := if s.isEmpty then none else some s

/-- The settings of a section. -/
def ofTable (t : Toml.Table) : Settings :=
  { pollTimeout := (natural? t "poll_timeout").getD default.pollTimeout
    parseMode := ((text? t "parse_mode").map markup).getD default.parseMode
    scenario := (text? t "scenario").getD default.scenario
    history := (text? t "history").getD default.history }

/-- The settings of a file. -/
def ofText (text : String) : Settings :=
  match (Toml.ofText? text).bind fun t => t.find? "bot" with
  | some (.table _ section?) => ofTable section?
  | _ => default

/-- The settings in the directory of a bot. -/
def load (d : Disk) (directory : Path) : Settings :=
  match d.readText (directory.join fileName) with
  | .ok text => ofText text
  | .error _ => default

end Settings

end ScriptedChat
