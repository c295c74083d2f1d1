import ScriptedChat.Telegram.Client
import ScriptedChat.Keyed

/-!
# A network by script

A network whose answers are written down in advance: a queue of replies for each method.
When a queue is empty, a request for updates is never answered, and every other one is
answered with an empty result.

* `ScriptedReply`, `Script`, `Script.left`, `Script.add`.
* `ScriptedReply.ofJson`, `Script.ofJson`: how they are written down.
-/

namespace ScriptedChat
namespace Telegram

/-- A reply as it is written down: what comes back, and after how many milliseconds. -/
inductive ScriptedReply where
  /-- The body of an answer. -/
  | body (delay : Nat) (text : String)
  /-- The network fails, for a reason. -/
  | failure (delay : Nat) (reason : String)
  deriving DecidableEq, Repr

/-- The reply to a post to an address, which an error tells. -/
def ScriptedReply.toReply (url : String) : ScriptedReply → Reply
  | body delay text => .after delay (.body text)
  | failure delay reason => .after delay (.failed ⟨reason, some url⟩)

/-- Reads a reply.  The member `delay` says how many milliseconds it takes.  A body stands
under `json` or, as the text it is, under `text`; a reason for failing stands under
`fail`. -/
def ScriptedReply.ofJson (v : Json) : ScriptedReply :=
  let delay := (((v.field? "delay").bind Json.asInt?).getD 0).toNat
  let text (name : String) : Option String := (v.field? name).bind Json.asText?
  match v.field? "json", text "text" with
  | some w, _ => .body delay w.toText
  | none, some t => .body delay t
  | none, none => .failure delay ((text "fail").getD "")

/-- The replies to come, by method. -/
structure Script where
  queues : List (String × List ScriptedReply)
  deriving DecidableEq, Repr

namespace Script

/-- The method that a post calls: the last part of its address. -/
def methodOf (p : HttpPost) : String :=
  String.ofList (((Text.pieces ['/'] p.url.toList).getLast?).getD [])

/-- The replies to come for a method. -/
def left (s : Script) (method : String) : List ScriptedReply :=
  (Keyed.find? method s.queues).getD []

/-- The script with more replies for a method. -/
def add (s : Script) (method : String) (replies : List ScriptedReply) : Script :=
  ⟨Keyed.insert method (s.left method ++ replies) s.queues⟩

/-- Reads a script: an object with an array of replies for each method. -/
def ofJson : Json → Script
  | .object ms =>
    ms.foldl (fun s m => s.add m.1 ((m.2.asArray?.getD []).map ScriptedReply.ofJson)) ⟨[]⟩
  | _ => ⟨[]⟩

/-- The answer to everything that nothing is written down for. -/
def emptyResult : Reply := .after 0 (.body "\x7b\"ok\":true,\"result\":\x7b\x7d\x7d")

/-- How many replies are left. -/
def size (s : Script) : Nat := s.queues.foldl (fun n q => n + q.2.length) 0

instance : Network Script where
  exchange p s :=
    let method := methodOf p
    match s.left method with
    | r :: rs => (r.toReply p.url, ⟨Keyed.insert method rs s.queues⟩)
    | [] => (if method = "getUpdates" then .never else emptyResult, s)

end Script

end Telegram
end ScriptedChat
