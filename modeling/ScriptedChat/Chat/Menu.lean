/-!
# Built-in commands

A text that starts with a slash is a command.  Three commands are known in every
scenario; they are matched as a whole, and every other command is ignored.

* `MenuCommand`, `MenuCommand.ofText?`, `MenuCommand.name`.
* `statusText`, `aboutText`: the replies.
-/

namespace ScriptedChat

/-- A command that is known in every scenario. -/
inductive MenuCommand where
  /-- Go back to the step at which the scenario starts. -/
  | restart
  /-- Show the referral code. -/
  | status
  /-- Show what the scenario is. -/
  | about
  deriving DecidableEq, Repr

namespace MenuCommand

/-- The command as it is written. -/
def name : MenuCommand → String
  | restart => "/restart"
  | status => "/status"
  | about => "/about"

/-- The command of a text. -/
def ofText? (s : String) : Option MenuCommand :=
  [restart, status, about].find? fun c => c.name == s

end MenuCommand

/-- The reply that shows the referral code. -/
def statusText (ref : Option String) : String :=
  "Reference code: *" ++ ref.getD "none" ++ "*"

/-- The reply that shows what the scenario is. -/
def aboutText (name description : String) : String := "*" ++ name ++ "*\n\n" ++ description

end ScriptedChat
