/-!
# Command lines

```
metabot [--log-level <LOG_LEVEL>] run <BOT_DIR> [--poll-timeout <SECONDS>]
metabot [--log-level <LOG_LEVEL>] check <SCENARIO>
metabot [--log-level <LOG_LEVEL>] status <BOT_DIR>
```

The log level may also come after the command, and then counts more.  Every command knows
`--help` and `-h`, the program as a whole also `--version`, `-V` and `help`.

## How arguments are read

They are read from the left, and the first thing that is wrong ends the reading.  A value
is looked at only when the next option or value begins, or at the end, so a word that is
unknown altogether is noticed before a value that makes no sense.  A value just before a
command waits until all that comes after the command has been read.  After `--` nothing is an
option.

* `HelpTopic`, `UsageError`: what is asked for instead of a command, or can be wrong.
* `Command`, `Arguments`, `Arguments.ofList`.
-/

namespace ScriptedChat
namespace Console

/-- The commands by name. -/
inductive CommandName where
  | run
  | check
  | status
  deriving DecidableEq, Repr

/-- The command with a name. -/
def CommandName.ofText? : String → Option CommandName
  | "run" => some .run
  | "check" => some .check
  | "status" => some .status
  | _ => none

/-- What help can be asked for. -/
inductive HelpTopic where
  /-- The program as a whole, in brief or at length. -/
  | program (brief : Bool)
  | command (name : CommandName)
  /-- The help itself. -/
  | help
  deriving DecidableEq, Repr

/-- The topic of an option that asks for help, after a command or before one. -/
def HelpTopic.of (command : Option CommandName) (brief : Bool) : HelpTopic :=
  match command with
  | some name => .command name
  | none => .program brief

/-- Why there is nothing to be done. -/
inductive UsageError where
  /-- Help was asked for. -/
  | displayHelp (topic : HelpTopic)
  /-- The version was asked for. -/
  | displayVersion
  /-- There is nothing at all. -/
  | nothingGiven
  /-- There is no command. -/
  | missingCommand
  /-- The command lacks what it is about. -/
  | missingRequired
  /-- An option has no value, or an empty one. -/
  | invalidValue
  /-- A value is no number. -/
  | valueValidation
  | unknownArgument
  /-- An option is given twice. -/
  | argumentConflict
  /-- No command has this name. -/
  | invalidCommand
  /-- An option that takes no value has one. -/
  | tooManyValues
  deriving DecidableEq, Repr

/-- What can be done. -/
inductive Command where
  /-- Plays the scenario of a directory until it is interrupted. -/
  | run (directory : String) (pollTimeout : Option Nat)
  /-- Shows what is in a scenario. -/
  | check (scenario : String)
  /-- Lists the chats of a directory. -/
  | status (directory : String)
  deriving DecidableEq, Repr

/-- What a command line says. -/
structure Arguments where
  logLevel : String
  command : Command
  deriving DecidableEq, Repr

/-- The word that asks for help. -/
def helpWord : String := "help"

/-- Whether a word is the name of a command, or asks for help. -/
def isCommandWord (w : String) : Bool := w == helpWord || (CommandName.ofText? w).isSome

/-- What takes a value. -/
inductive Slot where
  | logLevel
  | pollTimeout
  /-- What the command is about. -/
  | subject
  deriving DecidableEq, Repr

/-- The values that have been looked at. -/
structure Given where
  logLevel : Option String := none
  pollTimeout : Option Nat := none
  subject : Option String := none
  deriving DecidableEq, Repr

/-- A decimal number of an unsigned word, which may have a plus sign. -/
def readCount? (s : String) : Option Nat :=
  let ds := match s.toList with
    | '+' :: ds => ds
    | ds => ds
  if ds.isEmpty || !ds.all Char.isDigit then none
  else
    let n := ds.foldl (fun n c => n * 10 + (c.toNat - '0'.toNat)) 0
    if n < 0x10000000000000000 then some n else none

/-- Looks at a value. -/
def Given.put (g : Given) (slot : Slot) (value : Option String) : Except UsageError Given :=
  match value with
  | none => .error .invalidValue
  | some v =>
    match slot with
    | .logLevel =>
      if g.logLevel.isSome then .error .argumentConflict else .ok { g with logLevel := some v }
    | .pollTimeout =>
      if g.pollTimeout.isSome then .error .argumentConflict
      else
        match readCount? v with
        | some n => .ok { g with pollTimeout := some n }
        | none => .error .valueValidation
    | .subject =>
      if v.isEmpty then .error .invalidValue else .ok { g with subject := some v }

/-- Arguments that have been read in part. -/
structure Scan where
  given : Given := {}
  /-- The value that has not been looked at, or that is still to come. -/
  pending : Option (Slot × Option String) := none
  /-- After `--`. -/
  trailing : Bool := false
  /-- What the command is about has been read. -/
  hasSubject : Bool := false

namespace Scan

/-- A value is still to come. -/
def awaits (s : Scan) : Bool :=
  match s.pending with
  | some (_, none) => true
  | _ => false

/-- Looks at the value that has not been looked at. -/
def settle (s : Scan) : Except UsageError Scan :=
  match s.pending with
  | none => .ok s
  | some (slot, value) => return { s with given := ← s.given.put slot value, pending := none }

/-- Reads the value of an option that stands in the same word, or awaits it. -/
def option (s : Scan) (slot : Slot) (value : Option String) : Except UsageError Scan := do
  let s ← s.settle
  match value with
  | some v => return { s with given := ← s.given.put slot (some v) }
  | none => return { s with pending := some (slot, none) }

/-- Ends the reading for a word that takes no value. -/
def stop (s : Scan) (why : UsageError) : Except UsageError Scan := do
  let _ ← s.settle
  .error why

/-- Reads a long option.  The program as a whole is no command. -/
def longOption (s : Scan) (command : Option CommandName) (name : String)
    (value : Option String) : Except UsageError Scan :=
  if name = "log-level" then s.option .logLevel value
  else if name = "poll-timeout" ∧ command = some .run then s.option .pollTimeout value
  else if name = "help" ∨ (name = "version" ∧ command = none) then
    if value.isSome then .error .tooManyValues
    else s.stop (if name = "help" then .displayHelp (.of command false) else .displayVersion)
  else .error .unknownArgument

/-- Reads a short option. -/
def shortOption (s : Scan) (command : Option CommandName) (letter : Char) :
    Except UsageError Scan :=
  if letter = 'h' then s.stop (.displayHelp (.of command true))
  else if letter = 'V' ∧ command = none then s.stop .displayVersion
  else .error .unknownArgument

/-- The name and the value of a long option, after its two hyphens. -/
def splitOption (s : List Char) : String × Option String :=
  match s.dropWhile (· != '=') with
  | _ :: value => (String.ofList (s.takeWhile (· != '=')), some (String.ofList value))
  | [] => (String.ofList s, none)

/-- Reads a word that is no option and no value of one. -/
def plain (s : Scan) (command : Option CommandName) (w : String) : Except UsageError Scan :=
  match command with
  | none =>
    if s.trailing && isCommandWord w then .error .unknownArgument else .error .invalidCommand
  | some _ =>
    if s.hasSubject then .error .unknownArgument
    else do
      let s ← s.settle
      return { s with pending := some (.subject, some w), hasSubject := true }

/-- Reads one argument. -/
def step (command : Option CommandName) (s : Scan) (w : String) : Except UsageError Scan :=
  if s.trailing then s.plain command w
  else
    match w.toList with
    | ['-', '-'] => .ok { s with trailing := true }
    | '-' :: '-' :: rest =>
      let (name, value) := splitOption rest
      s.longOption command name value
    | '-' :: letter :: _ => s.shortOption command letter
    | _ =>
      match s.pending with
      | some (slot, none) => .ok { s with pending := some (slot, some w) }
      | _ => s.plain command w

end Scan

/-- The help that the words after `help` ask for: that of a command, or without a word that of
the program. -/
def readHelp : List String → UsageError
  | [] => .displayHelp (.program false)
  | [w] =>
    if w = helpWord then .displayHelp .help
    else
      match CommandName.ofText? w with
      | some name => .displayHelp (.command name)
      | none => .invalidCommand
  | _ :: _ :: _ => .invalidCommand

/-- Reads what comes after the name of a command, and gives what it says about the log level,
too. -/
def readCommand (name : CommandName) (args : List String) :
    Except UsageError (Command × Option String) := do
  let s ← args.foldlM (Scan.step (some name)) {}
  let given := (← s.settle).given
  match given.subject with
  | none => .error .missingRequired
  | some subject =>
    let command := match name with
      | .run => .run subject given.pollTimeout
      | .check => .check subject
      | .status => .status subject
    return (command, given.logLevel)

/-- The log level if nothing is said about it. -/
def defaultLogLevel : String := "info"

/-- Reads arguments up to the name of a command, and what comes after it. -/
def readProgram : Scan → List String → Except UsageError Arguments
  | s, [] => do
    let s ← s.settle
    if s.given.logLevel.isNone then .error .nothingGiven else .error .missingCommand
  | s, w :: ws =>
    if s.trailing || s.awaits then do readProgram (← s.step none w) ws
    else if w = helpWord then .error (readHelp ws)
    else
      match CommandName.ofText? w with
      | some name => do
        let (command, logLevel) ← readCommand name ws
        let above := (← s.settle).given.logLevel
        return { logLevel := (logLevel.orElse fun _ => above).getD defaultLogLevel, command }
      | none => do readProgram (← s.step none w) ws

/-- What a command line says, without the name of the program. -/
def Arguments.ofList (args : List String) : Except UsageError Arguments := readProgram {} args

end Console
end ScriptedChat
