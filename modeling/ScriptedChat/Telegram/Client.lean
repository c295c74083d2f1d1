import ScriptedChat.Transport.Basic
import ScriptedChat.Text.Split

/-!
# The Telegram Bot API

Every method of the service is called by posting a JSON body to an address that is made of
the bot's token and the method's name.  What comes back is an object that says whether it
went well (`ok`), and then has a `result`, or else a code and a description.

## The token is a secret

The token is part of the address, so an error of the network, which knows the address it
was about, must not be shown as it is: `HttpError.withoutUrl`.

* `Client`: the token, and how messages are marked up.
* `Network`, `Connection`: what carries posts, and a client that uses it.
* `messageBody`, `commandsBody`, `answerBody`, `updatesBody`: what is posted.
* `checkReply`, `readAnswer`: what comes back.
-/

namespace ScriptedChat
namespace Telegram

/-! ## The network -/

/-- A post: where to, who says so, and what. -/
structure HttpPost where
  url : String
  agent : String
  body : Json
  deriving Repr

/-- An error of the network, with the address that it was about. -/
structure HttpError where
  reason : String
  url : Option String
  deriving DecidableEq, Repr

namespace HttpError

/-- What is said about an error. -/
def message (e : HttpError) : String :=
  match e.url with
  | some url => e.reason ++ " for url (" ++ url ++ ")"
  | none => e.reason

/-- The error without the address. -/
def withoutUrl (e : HttpError) : HttpError := { e with url := none }

end HttpError

/-- What comes back. -/
inductive Answer where
  | body (text : String)
  | failed (error : HttpError)
  deriving DecidableEq, Repr

/-- When it comes back: some milliseconds later, or never. -/
inductive Reply where
  | after (delay : Nat) (answer : Answer)
  | never
  deriving DecidableEq, Repr

/-- What carries posts.  It may change with every one. -/
class Network (ν : Type) where
  exchange : HttpPost → ν → Reply × ν

/-! ## Clients -/

/-- The address of the service. -/
def baseUrl : String := "https://api.telegram.org/bot"

/-- Who posts. -/
def userAgent : String := "Metabot/0.1.0"

/-- The name of the service. -/
def serviceName : String := "telegram"

/-- A bot as the service knows it. -/
structure Client where
  token : String
  /-- How messages are marked up; without it they are plain. -/
  parseMode : Option String
  deriving DecidableEq, Repr

namespace Client

/-- A client for a token.  Blanks around it do not count. -/
def ofToken (token : String) : Except DeliveryError Client :=
  let s := Text.trim token.toList
  if s.isEmpty then .error (.authRequired serviceName)
  else .ok { token := String.ofList s, parseMode := some "Markdown" }

/-- The address of a method. -/
def url (c : Client) (method : String) : String := baseUrl ++ c.token ++ "/" ++ method

/-- The post that calls a method. -/
def post (c : Client) (method : String) (body : Json) : HttpPost :=
  ⟨c.url method, userAgent, body⟩

end Client

/-! ## What is posted -/

/-- The keyboard that some buttons make up: one row, or none at all. -/
def keyboard : List String → Json
  | [] => .object [("remove_keyboard", .bool true)]
  | labels =>
    .object
      [ ("keyboard", .array [.array (labels.map Json.text)])
      , ("resize_keyboard", .bool true) ]

/-- The body of a message. -/
def messageBody (chat text : String) (buttons : Option (List String))
    (parseMode : Option String) : Json :=
  .object
    ([("chat_id", .text chat)] ++ Json.optionalMember "parse_mode" parseMode
      ++ (buttons.toList.map fun labels => ("reply_markup", keyboard labels))
      ++ [("text", .text text)])

/-- A command without the slashes it starts with. -/
def bareCommand (command : String) : String :=
  String.ofList (command.toList.dropWhile fun c => c == '/')

/-- The body that makes a menu known. -/
def commandsBody (menu : List MenuItem) : Json :=
  .object
    [("commands",
      .array (menu.map fun item =>
        .object
          [ ("command", .text (bareCommand item.command))
          , ("description", .text item.description) ]))]

/-- The body that answers the press of a button. -/
def answerBody (press : String) : Json := .object [("callback_query_id", .text press)]

/-- The body that asks for updates from an offset on, for which the service may wait some
seconds. -/
def updatesBody (offset : Int) (timeout : Nat) : Json :=
  .object
    [ ("allowed_updates", .array [.text "message", .text "callback_query"])
    , ("offset", .int offset)
    , ("timeout", .int timeout) ]

/-! ## What comes back -/

/-- Whether a reply says that it went well. -/
def checkReply (reply : Json) (method : String) : Except DeliveryError Unit :=
  if (reply.field? "ok").bind Json.asBool? = some true then .ok ()
  else
    .error
      (.api method (((reply.field? "error_code").bind Json.asSigned?).getD (-1))
        (((reply.field? "description").bind Json.asText?).getD "unknown error"))

/-- The result that an answer to a post of a method gives.  The address is known to the
network only. -/
def readAnswer (method url : String) : Answer → Except DeliveryError Json
  | .failed e => .error (.http method e.withoutUrl.message)
  | .body text =>
    match Json.ofText? text with
    | none =>
      let e : HttpError := ⟨"error decoding response body", some url⟩
      .error (.invalidResponse method e.withoutUrl.message)
    | some reply => do
      checkReply reply method
      return (reply.field? "result").getD .null

/-- The name of the bot, in the result of `getMe`. -/
def readUserName (result : Json) : Except DeliveryError String :=
  match (result.field? "username").bind Json.asText? with
  | some name => .ok name
  | none => .error (.invalidResponse "getMe" "missing `username`")

/-- The updates, in the result of `getUpdates`. -/
def readUpdates (result : Json) : Except DeliveryError (List Json) :=
  match result with
  | .array updates => .ok updates
  | other => .error (.invalidResponse "getUpdates" ("expected an array, got " ++ other.toText))

/-! ## Connections -/

/-- A client with its network, and all posts so far. -/
structure Connection (ν : Type) where
  client : Client
  network : ν
  posts : List HttpPost

namespace Connection

variable {ν : Type} [Network ν]

/-- Posts the body of a method. -/
def post (method : String) (body : Json) (c : Connection ν) : Reply × Connection ν :=
  let p := c.client.post method body
  let (reply, network) := Network.exchange p c.network
  (reply, { c with network, posts := c.posts ++ [p] })

/-- Calls a method and waits for its result. -/
def call (method : String) (body : Json) (c : Connection ν) :
    Except DeliveryError Json × Connection ν :=
  match c.post method body with
  | (.after _ answer, d) => (readAnswer method (c.client.url method) answer, d)
  | (.never, d) => (.error (.http method "no answer"), d)

/-- The name of the bot. -/
def getMe (c : Connection ν) : Except DeliveryError String × Connection ν :=
  let (result, d) := c.call "getMe" (.object [])
  (result.bind readUserName, d)

/-- The updates from an offset on. -/
def getUpdates (offset : Int) (timeout : Nat) (c : Connection ν) :
    Except DeliveryError (List Json) × Connection ν :=
  let (result, d) := c.call "getUpdates" (updatesBody offset timeout)
  (result.bind readUpdates, d)

/-- The method and the body that a request is posted with. -/
def methodAndBody (c : Client) : Request → String × Json
  | .message chat text buttons => ("sendMessage", messageBody chat text buttons c.parseMode)
  | .commands menu => ("setMyCommands", commandsBody menu)
  | .answer press => ("answerCallbackQuery", answerBody press)

instance : Transport (Connection ν) where
  post request c :=
    let (method, body) := methodAndBody c.client request
    let (result, d) := c.call method body
    (result.map fun _ => (), d)

end Connection

end Telegram
end ScriptedChat
