import ScriptedChat.Console.Help
import ScriptedChat.Console.LogFilter
import ScriptedChat.Console.Overview
import ScriptedChat.Console.Service

/-!
# The program

What the program does is a function of its arguments and its surroundings.

* `perform`: a command.
* `start`: the program, from its arguments on.
-/

namespace ScriptedChat
namespace Console

/-- What comes of arguments that say nothing to be done.  Help and version are what was
asked for; everything else is a failure. -/
def showUsage (h : Highlighting) (e : UsageError) : Outcome :=
  match e with
  | .displayHelp _ => .success (e.message h)
  | .displayVersion => .success (e.message h)
  | _ => ⟨2, "", e.message h⟩

/-- Does what a command says. -/
def perform (u : Surroundings) : Command → Outcome × Disk × List Telegram.HttpPost
  | .check scenario => (.ofExcept (check u.zone u.disk ⟨scenario⟩), u.disk, [])
  | .status directory => (.ofExcept (status u.disk ⟨directory⟩), u.disk, [])
  | .run directory pollTimeout => run u ⟨directory⟩ pollTimeout

/-- The program.  It first reads the file that adds to its variables, and before a command is
done it tells what is wrong with the log filter. -/
def start (u : Surroundings) (args : List String) : Outcome × Disk × List Telegram.HttpPost :=
  let u := { u with known := Environment.load u.disk u.known }
  match Arguments.ofList args with
  | .error e => (showUsage (.of u.known) e, u.disk, [])
  | .ok a =>
    let (outcome, disk, posts) := perform u a.command
    (outcome.after (LogFilter.report u.known a.logLevel), disk, posts)

end Console
end ScriptedChat
