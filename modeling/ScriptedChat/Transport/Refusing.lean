import ScriptedChat.Transport.Basic
import ScriptedChat.Keyed

/-!
# A transport that refuses

A service that carries every request, except for those that it was told to refuse.  What
it refuses is said by a key and a code: the key is the id of a chat, or names one of the
two other kinds of requests.

* `Refusing`, `Refusing.set`.
-/

namespace ScriptedChat

/-- The codes with which requests are refused, by key. -/
structure Refusing where
  codes : List (String × Int)
  deriving DecidableEq, Repr

namespace Refusing

/-- Refuses nothing. -/
def nothing : Refusing := ⟨[]⟩

/-- Refuses the requests of a key from now on, or carries them again. -/
def set (r : Refusing) (key : String) : Option Int → Refusing
  | some code => ⟨Keyed.insert key code r.codes⟩
  | none => ⟨r.codes.filter fun p => p.1 ≠ key⟩

/-- The key of a request. -/
def key : Request → String
  | .message chat _ _ => chat
  | .commands _ => "commands"
  | .answer _ => "callback"

/-- The name of the method that a request calls. -/
def method : Request → String
  | .message _ _ _ => "sendMessage"
  | .commands _ => "setMyCommands"
  | .answer _ => "answerCallbackQuery"

instance : Transport Refusing where
  post request r :=
    match Keyed.find? (key request) r.codes with
    | some code => (.error (.api (method request) code "refused"), r)
    | none => (.ok (), r)

end Refusing

end ScriptedChat
