import ScriptedChat.Transport.Basic

/-!
# Updates

What users do comes as *updates*.  Two kinds are of interest: a message with a text, and
the press of a button.  An update with a `callback_query` is a press, whatever else is in
it.  An update that lacks what is needed is passed over; a sender that cannot be read is
nobody in particular.

A chat is named by its number, so its id is always a plain name.

* `readSender`, `readPress?`, `readMessage?`.
* `readUpdate?`: any update.
* `updateId?`: its number.
-/

namespace ScriptedChat
namespace Telegram

/-- The id of the chat with a number. -/
def chatName (n : Int) : String := String.ofList (Json.writeInt n)

/-- The sender, or nobody in particular. -/
def readSender (from? : Option Json) : Sender :=
  (from?.bind Sender.ofJson?).getD Sender.unknown

/-- The press of a button. -/
def readPress? (query : Json) : Option Inbound := do
  let chat ← (query.at? ["message", "chat", "id"]).bind Json.asSigned?
  let press ← (query.field? "id").bind Json.asText?
  return {
    chat := chatName chat
    text := ((query.field? "data").bind Json.asText?).getD ""
    sender := readSender (query.field? "from")
    press := some press }

/-- A message with a text. -/
def readMessage? (message : Json) : Option Inbound := do
  let text ← (message.field? "text").bind Json.asText?
  let chat ← (message.at? ["chat", "id"]).bind Json.asSigned?
  let sender := readSender (message.field? "from")
  return { chat := chatName chat, text, sender, press := none }

/-- What a user did, if an update tells it. -/
def readUpdate? (update : Json) : Option Inbound :=
  match update.field? "callback_query" with
  | some query => readPress? query
  | none => (update.field? "message").bind readMessage?

/-- The number of an update. -/
def updateId? (update : Json) : Option Int64 :=
  ((update.field? "update_id").bind Json.asSigned?).map Int64.ofInt

end Telegram
end ScriptedChat
