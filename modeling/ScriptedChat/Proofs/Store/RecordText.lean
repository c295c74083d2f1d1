import ScriptedChat.Proofs.Json.RoundTrip
import ScriptedChat.Store.Record

/-!
# A record is what its text says

A record that is written is read back as it was.  The text of a value is the value
(`Json.parse_toText`), so what is left are two facts about values: what a record is written
as can be written at all, and it decodes to the record.

Both hold without a word about the texts in the record, about its moments, or about how
many timers it has.

* `StopwatchState.ofJson?_toJson`, `ChatRecord.ofJson?_toJson`: decoding undoes encoding.
* `ChatRecord.ofText?_toText`: reading undoes writing.
-/

namespace ScriptedChat

theorem fitsSigned_toInt (n : Int64) : fitsSigned n.toInt = true := by
  have hlow := n.le_toInt
  have hhigh := n.toInt_lt
  simp only [fitsSigned, Bool.and_eq_true, decide_eq_true_eq]
  omega

theorem fitsUnsigned_toNat (n : UInt64) : fitsUnsigned (n.toNat : Int) = true := by
  have hlt := n.toNat_lt
  simp only [fitsUnsigned, Bool.and_eq_true, decide_eq_true_eq]
  omega

namespace Json

theorem asSigned?_int {n : Int} (hn : fitsSigned n = true) : asSigned? (.int n) = some n :=
  Option.filter_eq_some_iff.mpr ⟨rfl, hn⟩

theorem asUnsigned?_int {n : Int} (hn : fitsUnsigned n = true) : asUnsigned? (.int n) = some n :=
  Option.filter_eq_some_iff.mpr ⟨rfl, hn⟩

/-- Items that are encoded one by one are decoded one by one. -/
theorem asList?_map {α : Type} {decode : Json → Option α} {encode : α → Json}
    (h : ∀ a, decode (encode a) = some a) (l : List α) :
    asList? decode (.array (l.map encode)) = some l := by
  show (l.map encode).mapM decode = some l
  induction l with
  | nil => rfl
  | cons a l ih => rw [List.map_cons, List.mapM_cons, h, ih]; rfl

theorem areWritable_map {α : Type} {encode : α → Json} {room : Nat}
    (h : ∀ a, (encode a).isWritable room = true) (l : List α) :
    areWritable room (l.map encode) = true := by
  induction l with
  | nil => rfl
  | cons a l ih => rw [List.map_cons, areWritable, h, ih]; rfl

end Json

namespace StopwatchState

theorem ofJson?_toJson (s : StopwatchState) : ofJson? s.toJson = some s := by
  obtain ⟨start, timeout, done⟩ := s
  have hfields : (toJson ⟨start, timeout, done⟩).fields? fieldNames
      = some [some (.int start.toInt), some (.int timeout.toNat), some (.bool done)] := rfl
  have hstart : Json.required Json.asSigned? (some (.int start.toInt)) = some start.toInt := by
    rw [Json.required, Option.bind_some, Json.asSigned?_int (fitsSigned_toInt start)]
  have htimeout : Json.required Json.asUnsigned? (some (.int timeout.toNat))
      = some (timeout.toNat : Int) := by
    rw [Json.required, Option.bind_some, Json.asUnsigned?_int (fitsUnsigned_toNat timeout)]
  have hdone : Json.orElse Json.asBool? false (some (.bool done)) = some done := rfl
  rw [ofJson?, hfields]
  simp only [Option.bind_eq_bind, Option.bind_some]
  rw [hstart, htimeout, hdone]
  simp only [Option.bind_some, Option.pure_def, Int.toNat_natCast, Int64.ofInt_toInt,
    UInt64.ofNat_toNat]

theorem isWritable_toJson (s : StopwatchState) (room : Nat) :
    s.toJson.isWritable (room + 1) = true := by
  simp [toJson, Json.isWritable, Json.areWritableMembers, fitsSigned_toInt, fitsUnsigned_toNat]

end StopwatchState

namespace ChatRecord

theorem ofJson?_toJson (r : ChatRecord) : ofJson? r.toJson = some r := by
  have htimers := Json.asList?_map StopwatchState.ofJson?_toJson r.timers
  obtain ⟨chatId, stepId, refId, active, timers⟩ := r
  have hfields : (ChatRecord.toJson ⟨chatId, stepId, refId, active, timers⟩).fields? fieldNames
      = some [some (.text chatId), stepId.map .text, refId.map .text, some (.bool active),
          some (.array (timers.map StopwatchState.toJson))] := by
    cases stepId <;> cases refId <;> rfl
  cases stepId <;> cases refId <;>
    simp [ofJson?, hfields, Json.required, Json.optional, Json.orElse, Json.asText?, Json.asBool?,
      htimers]

theorem isWritable_toJson (r : ChatRecord) (room : Nat) :
    r.toJson.isWritable (room + 3) = true := by
  have htimers := Json.areWritable_map (fun s => StopwatchState.isWritable_toJson s room) r.timers
  obtain ⟨chatId, stepId, refId, active, timers⟩ := r
  cases stepId <;> cases refId <;>
    simp [toJson, Json.optionalMember, Json.isWritable, Json.areWritableMembers, htimers]

/-- **A record is read back from its text as it was.** -/
theorem ofText?_toText (r : ChatRecord) : ofText? r.toText = some r := by
  rw [ofText?, toText, Json.parse_toText (isWritable_toJson r 124), Option.bind_some,
    ofJson?_toJson]

end ChatRecord

end ScriptedChat
