import ScriptedChat.Keyed

/-!
# JSON values

Chat records, the requests to a messaging service and its replies are JSON.  A value is
kept as it was written: the members of an object stand in their order, and a name may
come twice.

## Numbers

A number without a fraction and an exponent is an integer if it fits a signed or an
unsigned word of 64 bits.  Every other number is a binary floating-point number, kept as
its bits.

## Values that are well formed but cannot be had

A text may be well formed and still not stand for anything: a string with half of a
surrogate pair, a number that is too large for a float, a nest of containers that is too
deep.  Where such a text stands at a place that nobody reads, it does no harm.  So it is
read as `foreign`, and `isSound` tells whether a value is free of it.

* `Json`: the values.
* `isSound`: nothing foreign in it.
* `canonical`: members sorted by name, each name once.
* `field?`, `at?`, `asText?`, `asInt?`, `asBool?`: parts of a value.
-/

namespace ScriptedChat

/-- A JSON value. -/
inductive Json where
  | null
  | bool (value : Bool)
  /-- An integer of 64 bits, signed or unsigned. -/
  | int (value : Int)
  /-- The bits of a binary floating-point number. -/
  | real (bits : UInt64)
  | text (value : String)
  | array (items : List Json)
  | object (members : List (String × Json))
  /-- A well-formed text that stands for no value. -/
  | foreign
  deriving Inhabited, Repr

namespace Json

mutual

/-- Nothing in the value is foreign. -/
def isSound : Json → Bool
  | .foreign => false
  | .array items => areSound items
  | .object members => areSoundMembers members
  | _ => true

/-- Nothing in the items is foreign. -/
def areSound : List Json → Bool
  | [] => true
  | v :: vs => v.isSound && areSound vs

/-- Nothing in the members is foreign. -/
def areSoundMembers : List (String × Json) → Bool
  | [] => true
  | (_, v) :: ms => v.isSound && areSoundMembers ms

end

/-- The members by name, the last of each name. -/
def sortMembers (members : List (String × Json)) : List (String × Json) :=
  members.foldl (fun sorted m => Keyed.insert m.1 m.2 sorted) []

mutual

/-- The value with the members of every object sorted by name, where the last one of a
name stands for all of them. -/
def canonical : Json → Json
  | .array items => .array (canonicalItems items)
  | .object members => .object (sortMembers (canonicalMembers members))
  | v => v

/-- The items, each in canonical form. -/
def canonicalItems : List Json → List Json
  | [] => []
  | v :: vs => v.canonical :: canonicalItems vs

/-- The members in their order, each value in canonical form. -/
def canonicalMembers : List (String × Json) → List (String × Json)
  | [] => []
  | (n, v) :: ms => (n, v.canonical) :: canonicalMembers ms

end

/-! ## Parts -/

/-- The value of a member of an object. -/
def field? (v : Json) (name : String) : Option Json :=
  match v with
  | .object members => (members.find? (·.1 == name)).map (·.2)
  | _ => none

/-- The value at the end of a path of names. -/
def at? (v : Json) : List String → Option Json
  | [] => some v
  | name :: path => (v.field? name).bind fun w => w.at? path

/-- The text, if the value is one. -/
def asText? : Json → Option String
  | .text s => some s
  | _ => none

/-- The truth value, if the value is one. -/
def asBool? : Json → Option Bool
  | .bool b => some b
  | _ => none

/-- The integer, if the value is one. -/
def asInt? : Json → Option Int
  | .int n => some n
  | _ => none

/-- The items, if the value is an array. -/
def asArray? : Json → Option (List Json)
  | .array items => some items
  | _ => none

end Json

/-- The integers of a signed word. -/
def fitsSigned (n : Int) : Bool :=
  decide (-0x8000000000000000 ≤ n) && decide (n < 0x8000000000000000)

/-- The integers of an unsigned word. -/
def fitsUnsigned (n : Int) : Bool := decide (0 ≤ n) && decide (n < 0x10000000000000000)

namespace Json

/-- The integer, if the value is one of a signed word. -/
def asSigned? (v : Json) : Option Int := v.asInt?.filter fitsSigned

/-- The integer, if the value is one of an unsigned word. -/
def asUnsigned? (v : Json) : Option Int := v.asInt?.filter fitsUnsigned

end Json

end ScriptedChat
