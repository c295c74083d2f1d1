import ScriptedChat.Json.Token

/-!
# Reading JSON

A text is read token by token.  What has been read is a stack of the containers that are
open, innermost first; a token is either put into the innermost one or opens or closes
one.  So a reader is the fold of `step` over the tokens, and `parse` asks that it ends
with one whole value.

A container that stands too deep, and an object with a name that is foreign, are
`foreign` when they close.

* `Place`: what may come next.
* `step`: one token.
* `parse`: the value of a text, as it is written.
* `ofText?`: the value of a text, in canonical form and with nothing foreign in it.
-/

namespace ScriptedChat
namespace Json

/-- A container that is open.  What is in it is listed last first. -/
inductive Container where
  | array (items : List Json)
  /-- A member whose value is being read has its name in `name`. -/
  | object (members : List (Option String × Json)) (name : Option String)
  deriving Repr

/-- What may come next. -/
inductive Place where
  /-- A value. -/
  | value
  /-- The first item of an array, or its end. -/
  | firstItem
  /-- The first name of an object, or its end. -/
  | firstName
  /-- A name. -/
  | name
  /-- The colon between a name and its value. -/
  | colon
  /-- A comma, or the end of the container. -/
  | next
  /-- Nothing. -/
  | done
  deriving DecidableEq, Repr

/-- A text that has been read in part. -/
structure Reading where
  place : Place
  /-- The open containers, innermost first. -/
  containers : List Container
  /-- The value that was read last. -/
  result : Json
  deriving Repr

/-- The depth from which on a container is foreign. -/
def maxDepth : Nat := 128

/-- The members, unless there is a foreign name. -/
def membersOf? : List (Option String × Json) → Option (List (String × Json))
  | [] => some []
  | (name, v) :: ms => do
    let n ← name
    return (n, v) :: (← membersOf? ms)

/-- The value of a container that closes. -/
def Container.close : Container → Json
  | .array items => .array items.reverse
  | .object members _ =>
    match membersOf? members.reverse with
    | some ms => .object ms
    | none => .foreign

/-- The container with one value more. -/
def Container.put (v : Json) : Container → Container
  | .array items => .array (v :: items)
  | .object members name => .object ((name, v) :: members) name

/-- Puts a whole value into the innermost container. -/
def deliver (v : Json) : List Container → Reading
  | [] => ⟨.done, [], v⟩
  | c :: cs => ⟨.next, c.put v :: cs, v⟩

/-- Closes the innermost container. -/
def closeInnermost : List Container → Option Reading
  | [] => none
  | c :: cs =>
    some (deliver (if maxDepth ≤ cs.length + 1 then .foreign else c.close) cs)

/-- Reads a token where a value has to stand. -/
def readValueToken (cs : List Container) : Token → Option Reading
  | .openArray => some ⟨.firstItem, .array [] :: cs, .null⟩
  | .openObject => some ⟨.firstName, .object [] none :: cs, .null⟩
  | .text (some s) => some (deliver (.text s) cs)
  | .text none => some (deliver .foreign cs)
  | .scalar v => some (deliver v cs)
  | _ => none

/-- Reads a token where a name has to stand. -/
def readNameToken (cs : List Container) (t : Token) : Option Reading :=
  match cs, t with
  | .object members _ :: cs, .text name => some ⟨.colon, .object members name :: cs, .null⟩
  | _, _ => none

/-- Reads one token. -/
def step (r : Reading) (t : Token) : Option Reading :=
  match r.place, t with
  | .value, t => readValueToken r.containers t
  | .firstItem, .closeArray => closeInnermost r.containers
  | .firstItem, t => readValueToken r.containers t
  | .firstName, .closeObject => closeInnermost r.containers
  | .firstName, t => readNameToken r.containers t
  | .name, t => readNameToken r.containers t
  | .colon, .colon => some ⟨.value, r.containers, .null⟩
  | .next, t =>
    match r.containers, t with
    | .array _ :: _, .comma => some ⟨.value, r.containers, .null⟩
    | .array _ :: _, .closeArray => closeInnermost r.containers
    | .object _ _ :: _, .comma => some ⟨.name, r.containers, .null⟩
    | .object _ _ :: _, .closeObject => closeInnermost r.containers
    | _, _ => none
  | _, _ => none

/-- Before the first token. -/
def start : Reading := ⟨.value, [], .null⟩

/-- The value of a text, as it is written. -/
def parse (s : List Char) : Option Json := do
  let tokens ← Token.ofChars? s
  let r ← tokens.foldlM step start
  if r.place = .done then some r.result else none

/-- The value of a text in canonical form, if it has one. -/
def ofText? (s : String) : Option Json := do
  let v ← parse s.toList
  if v.isSound then some v.canonical else none

end Json
end ScriptedChat
