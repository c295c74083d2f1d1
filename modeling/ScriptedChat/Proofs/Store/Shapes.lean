import ScriptedChat.Proofs.Store.RecordText
import ScriptedChat.Transport.Basic

/-!
# What is read is what was written

Three shapes are written as JSON and read again: the record of a chat, the state of a stopwatch,
which is a part of it, and the sender of a message, which goes into the log.  Each is read back as
it was, whatever the texts and the numbers in it are.

A record can be written in other ways than ours: without the members that have a default, with
members that nobody knows, in any order, or as an array.  What such a text gives is written in our
way from then on, and this text gives the same.

* `Sender.ofText?_toText`, `StopwatchState.ofText?_toText`: reading undoes writing.
* `ChatRecord.ofJson?_congr`, `ChatRecord.ofJson?_array`, `ChatRecord.ofJson?_chatId`: other ways to
  write a record.
* `Store.written_shapes_are_read_back`: all three shapes, and every text that gives a record.
-/

namespace ScriptedChat

namespace Json

/-- The fields of a structure are those of the members with their names.  Neither other members nor
the order of the names make a difference. -/
theorem fields?_congr {names : List String} {ms ms' : List (String × Json)}
    (h : ∀ n ∈ names, ms.filter (fun m => m.1 == n) = ms'.filter (fun m => m.1 == n)) :
    (object ms).fields? names = (object ms').fields? names := by
  have hcount : ∀ n ∈ names, occurrences n ms = occurrences n ms' := by
    intro n hn
    simp only [occurrences, List.countP_eq_length_filter, h n hn]
  have hfind : ∀ n ∈ names, ms.find? (fun m => m.1 == n) = ms'.find? (fun m => m.1 == n) := by
    intro n hn
    rw [← List.head?_filter, ← List.head?_filter, h n hn]
  have hall : (names.all fun n => occurrences n ms ≤ 1)
      = names.all fun n => occurrences n ms' ≤ 1 := by
    rw [Bool.eq_iff_iff, List.all_eq_true, List.all_eq_true]
    exact forall₂_congr fun n hn => by rw [hcount n hn]
  have hmap : (names.map fun n => (ms.find? fun m => m.1 == n).map (·.2))
      = names.map fun n => (ms'.find? fun m => m.1 == n).map (·.2) :=
    List.map_congr_left fun n hn => by rw [hfind n hn]
  simp only [fields?, hall, hmap]

/-- An optional text is read back from its member. -/
theorem optional_asText? (s : Option String) : optional asText? (s.map text) = some s := by
  cases s <;> rfl

end Json

/-! ## The shapes -/

theorem StopwatchState.ofText?_toText (s : StopwatchState) : ofText? s.toText = some s := by
  rw [ofText?, toText, Json.parse_toText (isWritable_toJson s 126), Option.bind_some,
    ofJson?_toJson]

namespace Sender

theorem ofJson?_toJson (s : Sender) : ofJson? s.toJson = some s := by
  obtain ⟨id, isBot, firstName, lastName, username, languageCode⟩ := s
  have hid : Json.required Json.asSigned? (some (.int id.toInt)) = some id.toInt := by
    rw [Json.required, Option.bind_some, Json.asSigned?_int (fitsSigned_toInt id)]
  have hfields : (toJson ⟨id, isBot, firstName, lastName, username, languageCode⟩).fields? fieldNames
      = some [some (.int id.toInt), some (.bool isBot), some (.text firstName), lastName.map .text,
          username.map .text, languageCode.map .text] := by
    cases lastName <;> cases username <;> cases languageCode <;> rfl
  simp [ofJson?, hfields, hid, Json.orElse, Json.asBool?, Json.asText?, Json.optional_asText?]

theorem isWritable_toJson (s : Sender) (room : Nat) : s.toJson.isWritable (room + 1) = true := by
  obtain ⟨id, isBot, firstName, lastName, username, languageCode⟩ := s
  cases lastName <;> cases username <;> cases languageCode <;>
    simp [toJson, Json.optionalMember, Json.isWritable, Json.areWritableMembers, fitsSigned_toInt]

theorem ofText?_toText (s : Sender) : ofText? s.toText = some s := by
  rw [ofText?, toText, Json.parse_toText (isWritable_toJson s 126), Option.bind_some,
    ofJson?_toJson]

end Sender

/-! ## Other ways to write a record -/

namespace ChatRecord

/-- Two objects give the same record if they have the same members under the names of its fields. -/
theorem ofJson?_congr {ms ms' : List (String × Json)}
    (h : ∀ n ∈ fieldNames, ms.filter (fun m => m.1 == n) = ms'.filter (fun m => m.1 == n)) :
    ofJson? (.object ms) = ofJson? (.object ms') := by
  rw [ofJson?, ofJson?, Json.fields?_congr h]

/-- A record may be written as the array of its fields. -/
theorem ofJson?_array (r : ChatRecord) :
    ofJson? (.array [.text r.chatId, (r.stepId.map .text).getD .null,
      (r.refId.map .text).getD .null, .bool r.active,
      .array (r.timers.map StopwatchState.toJson)]) = some r := by
  have htimers := Json.asList?_map StopwatchState.ofJson?_toJson r.timers
  obtain ⟨chatId, stepId, refId, active, timers⟩ := r
  cases stepId <;> cases refId <;>
    simp [ofJson?, Json.fields?, fieldNames, Json.required, Json.optional, Json.orElse,
      Json.asText?, Json.asBool?, htimers]

/-- An object that only has an id gives a new record. -/
theorem ofJson?_chatId (chatId : String) :
    ofJson? (.object [("chatId", .text chatId)]) = some (new chatId) := rfl

end ChatRecord

/-! ## All of them -/

/-- **What is written is read back as it was**: every record, every sender and every state of a
stopwatch.  And a text that gives a record, in whatever way it is written, gives the same one when
it has been read, written and read again. -/
theorem Store.written_shapes_are_read_back :
    (∀ r : ChatRecord, ChatRecord.ofText? r.toText = some r)
      ∧ (∀ s : Sender, Sender.ofText? s.toText = some s)
      ∧ (∀ s : StopwatchState, StopwatchState.ofText? s.toText = some s)
      ∧ ∀ text : String, ((ChatRecord.ofText? text).bind fun r => ChatRecord.ofText? r.toText)
          = ChatRecord.ofText? text := by
  refine ⟨ChatRecord.ofText?_toText, Sender.ofText?_toText, StopwatchState.ofText?_toText,
    fun text => ?_⟩
  cases ChatRecord.ofText? text with
  | none => rfl
  | some r => exact ChatRecord.ofText?_toText r

/-- A text with its members in another order, one that nobody knows, and none about activity. -/
example : ChatRecord.ofText? "\x7b\"refId\": \"abc\", \"x\": [1e9], \"chatId\": \"7\"\x7d"
    = some ⟨"7", none, some "abc", true, []⟩ := by decide +kernel

end ScriptedChat
