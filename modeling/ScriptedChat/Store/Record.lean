import ScriptedChat.Json.Diagnosis
import ScriptedChat.Stopwatch

/-!
# Chat records

What is kept of a chat: the step it is on, the referral code it came with, whether it can
be reached, and the stopwatches of the delayed actions of its step, in the order of those
actions.

In JSON a code or a step that is not there is left out.  A record that says nothing about
it is active and has no timers.

* `ChatRecord`, `ChatRecord.toJson`, `ChatRecord.ofJson?`, `ChatRecord.ofText?`.
* `ChatRecord.fault`: what is wrong with a text that is no record.
-/

namespace ScriptedChat

/-- What is kept of a chat. -/
structure ChatRecord where
  chatId : String
  /-- The step it is on. -/
  stepId : Option String
  /-- The referral code. -/
  refId : Option String
  /-- Messages to it arrive, as far as is known. -/
  active : Bool
  /-- One for each delayed action of the step. -/
  timers : List StopwatchState
  deriving DecidableEq, Repr

namespace ChatRecord

/-- The record of a chat about which nothing is known yet. -/
def new (chatId : String) : ChatRecord := ⟨chatId, none, none, true, []⟩

/-- The names of the fields in JSON. -/
def fieldNames : List String := ["chatId", "stepId", "refId", "active", "timers"]

/-- The record as JSON. -/
def toJson (r : ChatRecord) : Json :=
  .object
    ([("chatId", .text r.chatId)] ++ Json.optionalMember "stepId" r.stepId
      ++ Json.optionalMember "refId" r.refId
      ++ [ ("active", .bool r.active)
         , ("timers", .array (r.timers.map StopwatchState.toJson)) ])

/-- The record that a JSON value gives. -/
def ofJson? (v : Json) : Option ChatRecord := do
  match ← v.fields? fieldNames with
  | [chatId, stepId, refId, active, timers] =>
    return {
      chatId := ← Json.required Json.asText? chatId
      stepId := ← Json.optional Json.asText? stepId
      refId := ← Json.optional Json.asText? refId
      active := ← Json.orElse Json.asBool? true active
      timers := ← Json.orElse (Json.asList? StopwatchState.ofJson?) [] timers }
  | _ => none

/-- The record that a text gives. -/
def ofText? (s : String) : Option ChatRecord := (Json.parse s.toList).bind ofJson?

/-- The record as text. -/
def toText (r : ChatRecord) : String := r.toJson.toText

end ChatRecord

/-! ## What is wrong with a text -/

/-- Checks the state of a stopwatch. -/
def StopwatchState.check : Json.Check :=
  Json.checkStructure "StopwatchState"
    [ ⟨"start", true, Json.checkSigned⟩
    , ⟨"timeout", true, Json.checkUnsigned⟩
    , ⟨"done", false, Json.checkBool⟩ ]

/-- Checks a record. -/
def ChatRecord.check : Json.Check :=
  Json.checkStructure "ChatRecord"
    [ ⟨"chatId", true, Json.checkText⟩
    , ⟨"stepId", false, Json.checkOptional Json.checkText⟩
    , ⟨"refId", false, Json.checkOptional Json.checkText⟩
    , ⟨"active", false, Json.checkBool⟩
    , ⟨"timers", false, Json.checkList StopwatchState.check⟩ ]

/-- The first thing that is wrong with a text that is no record. -/
def ChatRecord.fault (s : String) : String := (Json.diagnose? ChatRecord.check s.toList).getD ""

end ScriptedChat
