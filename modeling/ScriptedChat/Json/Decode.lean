import ScriptedChat.Json.Reader

/-!
# Structures in JSON

A structure is read from an object with the names of its fields, where other names do not
count and no field may come twice.  It may also be written as an array of its fields in
order, of which the last ones may be left out.

What a field may hold is decided by a *decoder*, a partial function on values.  A field
that is not there, and one that holds `null`, are two different things.

* `fields?`: the fields of a structure, in order.
* `required`, `optional`, `orElse`: a field that has to be there, one that may be absent or
  `null`, and one with a default.
* `optionalMember`: what is written of an optional field.
* `asList?`: an array whose items are decoded one by one.
-/

namespace ScriptedChat
namespace Json

/-- How often a name occurs. -/
def occurrences (name : String) (members : List (String × Json)) : Nat :=
  members.countP (·.1 == name)

/-- The fields of a structure with these names, each with its value if it is there. -/
def fields? (names : List String) : Json → Option (List (Option Json))
  | .object members =>
    if names.all fun n => occurrences n members ≤ 1 then
      some (names.map fun n => (members.find? (·.1 == n)).map (·.2))
    else none
  | .array items =>
    if items.length ≤ names.length then
      some (items.map some ++ List.replicate (names.length - items.length) none)
    else none
  | _ => none

variable {α : Type}

/-- A field that has to be there. -/
def required (decode : Json → Option α) (field : Option Json) : Option α :=
  field.bind decode

/-- A field that may be absent or `null`. -/
def optional (decode : Json → Option α) : Option Json → Option (Option α)
  | none => some none
  | some .null => some none
  | some v => (decode v).map some

/-- A field with a default. -/
def orElse (decode : Json → Option α) (default : α) : Option Json → Option α
  | none => some default
  | some v => decode v

/-- A member of an object that is left out if there is nothing to say. -/
def optionalMember (name : String) (value : Option String) : List (String × Json) :=
  value.toList.map fun s => (name, .text s)

/-- An array whose items can all be decoded. -/
def asList? (decode : Json → Option α) (v : Json) : Option (List α) :=
  v.asArray?.bind fun items => items.mapM decode

end Json
end ScriptedChat
