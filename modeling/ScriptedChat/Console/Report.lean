import ScriptedChat.Chat.World

/-!
# Reports

A command that fails says what it was doing, and then the causes: what went wrong, what
was behind that, and so on.  One cause stands alone, and several are numbered.  The lines
of a cause stand below each other.

An error that tells its own cause in its message has that cause listed once more.

* `Failure`: what a command was doing, and the causes.
* `causesOf`: the causes of an error.
* `Failure.report`: the text.
-/

namespace ScriptedChat
namespace Console

/-- Why a command failed. -/
structure Failure where
  /-- What it was doing. -/
  context : String
  /-- What went wrong, and what was behind it. -/
  causes : List String
  deriving DecidableEq, Repr

/-- The causes of a failure of the store. -/
def storeCauses (e : StoreError) : List String := e.message :: e.cause?.toList

/-- The causes of a failed delivery. -/
def deliveryCauses (e : DeliveryError) : List String :=
  match e with
  | .http _ reason => [e.message, reason]
  | _ => [e.message]

/-- The causes of an error of a bot. -/
def causesOf : EngineError → List String
  | .scenarioRead path cause =>
    ["failed to read scenario " ++ path.text ++ ": " ++ cause.message, cause.message]
  | .scenario e => [e.message]
  | .store e => storeCauses e
  | .delivery e => deliveryCauses e

/-- A text with something before its first line and something else before the others. -/
def indent (first other : String) (text : String) : String :=
  match (Text.pieces ['\n'] text.toList).map String.ofList with
  | [] => first
  | line :: lines => first ++ line ++ String.join (lines.map fun l => "\n" ++ other ++ l)

/-- The causes of a failure, one below the other. -/
def listCauses (causes : List String) : List String :=
  match causes with
  | [cause] => [indent "    " "    " cause]
  | causes =>
    causes.zipIdx.map fun p => indent ("    " ++ toString p.2 ++ ": ") "       " p.1

namespace Failure

/-- The text that tells a failure. -/
def report (f : Failure) : String :=
  let causes :=
    if f.causes.isEmpty then ""
    else "\n\nCaused by:" ++ String.join ((listCauses f.causes).map fun c => "\n" ++ c)
  "Error: " ++ f.context ++ causes ++ "\n"

end Failure

/-- What a command leaves behind on the screen, and the code that it exits with. -/
structure Outcome where
  exit : Nat
  stdout : String
  stderr : String
  deriving DecidableEq, Repr

namespace Outcome

/-- All went well. -/
def success (stdout : String) : Outcome := ⟨0, stdout, ""⟩

/-- It failed. -/
def failure (f : Failure) : Outcome := ⟨1, "", f.report⟩

/-- What comes of a command that says something or fails. -/
def ofExcept : Except Failure String → Outcome
  | .ok s => success s
  | .error f => failure f

/-- What a command leaves behind after warnings. -/
def after (warnings : String) (o : Outcome) : Outcome := { o with stderr := warnings ++ o.stderr }

end Outcome

end Console
end ScriptedChat
