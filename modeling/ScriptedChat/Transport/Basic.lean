import ScriptedChat.Json.Decode
import ScriptedChat.Json.Writer
import ScriptedChat.Scenario.Basic

/-!
# Transports

A bot talks to its chats through a *transport*: some messaging service that carries
requests, and brings what users write.  Whatever the service is, a request is a message
for a chat, the menu of the bot, or the answer to the press of a button, and it either
arrives or fails for a reason.

One reason is special: a service that refuses a message with code 403 says that the
recipient cannot be reached any more.

* `Sender`, `Inbound`: who wrote, and what.
* `Request`, `DeliveryError`, `Transport`: what is sent, and what can go wrong.
-/

namespace ScriptedChat

/-! ## What comes in -/

/-- Who wrote something. -/
structure Sender where
  id : Int64
  isBot : Bool
  firstName : String
  lastName : Option String
  username : Option String
  languageCode : Option String
  deriving DecidableEq, Repr

namespace Sender

/-- Somebody about whom nothing is known. -/
def unknown : Sender := ⟨0, false, "", none, none, none⟩

/-- The names of the fields in JSON. -/
def fieldNames : List String :=
  ["id", "is_bot", "first_name", "last_name", "username", "language_code"]

/-- The sender as JSON. -/
def toJson (s : Sender) : Json :=
  .object
    ([ ("id", .int s.id.toInt), ("is_bot", .bool s.isBot), ("first_name", .text s.firstName) ]
      ++ Json.optionalMember "last_name" s.lastName ++ Json.optionalMember "username" s.username
      ++ Json.optionalMember "language_code" s.languageCode)

/-- The sender that a JSON value gives.  Only the id has to be there. -/
def ofJson? (v : Json) : Option Sender := do
  match ← v.fields? fieldNames with
  | [id, isBot, firstName, lastName, username, languageCode] =>
    return {
      id := Int64.ofInt (← Json.required Json.asSigned? id)
      isBot := ← Json.orElse Json.asBool? false isBot
      firstName := ← Json.orElse Json.asText? "" firstName
      lastName := ← Json.optional Json.asText? lastName
      username := ← Json.optional Json.asText? username
      languageCode := ← Json.optional Json.asText? languageCode }
  | _ => none

/-- The sender that a text gives. -/
def ofText? (s : String) : Option Sender := (Json.parse s.toList).bind ofJson?

/-- The sender as text. -/
def toText (s : Sender) : String := s.toJson.toText

end Sender

/-- Something a user did: a message, or the press of a button. -/
structure Inbound where
  chat : String
  /-- The text of the message, or what the button carries. -/
  text : String
  sender : Sender
  /-- The press, if it was one, which the service wants answered. -/
  press : Option String
  deriving DecidableEq, Repr

/-! ## What goes out -/

/-- What a transport can be asked to do. -/
inductive Request where
  /-- Sends a text to a chat.  With buttons, they replace the keyboard of the chat, and an
  empty list removes it. -/
  | message (chat text : String) (buttons : Option (List String))
  /-- Makes the menu of the bot known. -/
  | commands (menu : List MenuItem)
  /-- Answers the press of a button. -/
  | answer (press : String)
  deriving DecidableEq, Repr

/-- Why a request failed. -/
inductive DeliveryError where
  /-- The service was not reached. -/
  | http (method reason : String)
  /-- The service refused. -/
  | api (method : String) (code : Int) (description : String)
  /-- The service answered something that is no answer. -/
  | invalidResponse (method reason : String)
  /-- There are no credentials for the service. -/
  | authRequired (transport : String)
  deriving DecidableEq, Repr

namespace DeliveryError

/-- What is said about a failure. -/
def message : DeliveryError → String
  | http method reason => "request to `" ++ method ++ "` failed: " ++ reason
  | api method code description =>
    "`" ++ method ++ "` returned API error (code " ++ toString code ++ "): " ++ description
  | invalidResponse method reason => "invalid response from `" ++ method ++ "`: " ++ reason
  | authRequired transport => "authentication required for transport `" ++ transport ++ "`"

/-- The code of a refusal that is for good. -/
def forbidden : Int := 403

/-- The recipient cannot be reached any more. -/
def isUnreachable : DeliveryError → Bool
  | api _ code _ => code == forbidden
  | _ => false

end DeliveryError

/-- A service that carries requests.  It may change with every one. -/
class Transport (τ : Type) where
  /-- What becomes of a request, and of the service. -/
  post : Request → τ → Except DeliveryError Unit × τ

end ScriptedChat
