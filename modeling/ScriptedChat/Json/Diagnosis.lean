import ScriptedChat.Json.Token
import ScriptedChat.Json.Writer
import ScriptedChat.Text.Quoted

/-!
# What is wrong with a text

`Json.parse` and the decoders say whether a text is the JSON of a structure.  When it is
not, a person wants to know what is wrong and where.  A *check* goes through a text from the
left, as the structure wants it, and stops at the first thing that is wrong (`Finding`).

Where a check stops is told by what is left of the text, in bytes; `position` turns it into
a line and a column.

## Values that nobody reads

The value of a member that no field has the name of is passed over.  It has to be well
formed, and nothing else is asked of it: its numbers may be too large, and its strings may
hold half of a surrogate pair.

* `Fault`, `Fault.message`, `Finding`: what is wrong, and where.
* `checkText`, `checkBool`, `checkInteger`, `checkOptional`, `checkList`, `checkStructure`:
  the checks of values.
* `diagnose?`: the first thing that is wrong with a whole text, in words.
-/

namespace ScriptedChat
namespace Json

/-- What is wrong at a place of a text. -/
inductive Fault where
  | endInArray
  | endInObject
  | endInString
  | endBeforeValue
  | noColon
  | noArrayEnd
  | noObjectEnd
  | noWord
  | noValue
  | badEscape
  | badNumber
  | numberTooLarge
  | controlInString
  | nameNotText
  | loneHalf
  | escapeEnds
  | trailingComma
  | trailingText
  | wrongType (found wanted : String)
  | wrongValue (found wanted : String)
  | wrongLength (length : Nat) (wanted : String)
  | missingField (name : String)
  | duplicateField (name : String)
  deriving DecidableEq, Repr

/-- What is said about a fault. -/
def Fault.message : Fault → String
  | endInArray => "EOF while parsing a list"
  | endInObject => "EOF while parsing an object"
  | endInString => "EOF while parsing a string"
  | endBeforeValue => "EOF while parsing a value"
  | noColon => "expected `:`"
  | noArrayEnd => "expected `,` or `]`"
  | noObjectEnd => "expected `,` or `\x7d`"
  | noWord => "expected ident"
  | noValue => "expected value"
  | badEscape => "invalid escape"
  | badNumber => "invalid number"
  | numberTooLarge => "number out of range"
  | controlInString => "control character (\\u0000-\\u001F) found while parsing a string"
  | nameNotText => "key must be a string"
  | loneHalf => "lone leading surrogate in hex escape"
  | escapeEnds => "unexpected end of hex escape"
  | trailingComma => "trailing comma"
  | trailingText => "trailing characters"
  | wrongType found wanted => "invalid type: " ++ found ++ ", expected " ++ wanted
  | wrongValue found wanted => "invalid value: " ++ found ++ ", expected " ++ wanted
  | wrongLength length wanted => "invalid length " ++ toString length ++ ", expected " ++ wanted
  | missingField name => "missing field `" ++ name ++ "`"
  | duplicateField name => "duplicate field `" ++ name ++ "`"

/-- What is wrong, and how many bytes of the text come after the place where it is. -/
structure Finding where
  fault : Fault
  left : Nat
  deriving DecidableEq, Repr

/-- A check gives what is left of the text, or finds something. -/
abbrev Check : Type := List Char → Except Finding (List Char)

/-- The bytes of a text. -/
def byteCount (s : List Char) : Nat := s.foldl (fun n c => n + c.utf8Size) 0

/-- Finds a fault before a text. -/
def before {α : Type} (f : Fault) (s : List Char) : Except Finding α :=
  .error ⟨f, byteCount s⟩

/-- Finds a fault in the first byte of a text. -/
def within {α : Type} (f : Fault) (s : List Char) : Except Finding α :=
  .error ⟨f, byteCount s - 1⟩

/-- The text without the blanks between tokens that it starts with. -/
def skipGap (s : List Char) : List Char := s.dropWhile isGap

/-! ## Strings -/

/-- Checks four hexadecimal digits, which are four bytes. -/
def checkQuad (s : List Char) : Except Finding (Nat × List Char) :=
  if byteCount s < 4 then .error ⟨.endInString, 0⟩
  else
    match s with
    | a :: b :: c :: d :: rest =>
      match hexQuad? a b c d with
      | some n => .ok (n, rest)
      | none => .error ⟨.badEscape, byteCount s - 4⟩
    | _ => .error ⟨.badEscape, byteCount s - 4⟩

/-- Checks the second half of a surrogate pair. -/
def checkLowHalf : Check
  | [] => before .endInString []
  | '\\' :: [] => before .endInString []
  | '\\' :: 'u' :: s => do
    let (n, s) ← checkQuad s
    if isLowHalf n then return s else before .loneHalf s
  | '\\' :: s => within .escapeEnds s
  | s => within .escapeEnds s

/-- Checks an escape, after its backslash. -/
def checkEscape (unread : Bool) : Check
  | [] => before .endInString []
  | 'u' :: s => do
    let (n, s) ← checkQuad s
    if unread then return s
    else if isLowHalf n then before .loneHalf s
    else if isHighHalf n then checkLowHalf s
    else return s
  | c :: s => if (shortEscape? c).isSome then .ok s else within .badEscape (c :: s)

/-- Checks a string after its opening quote, with at most `fuel` characters and escapes. -/
def checkString (unread : Bool) : Nat → Check
  | 0, s => before .endInString s
  | _, [] => before .endInString []
  | fuel + 1, c :: s =>
    if c = '"' then .ok s
    else if c = '\\' then do checkString unread fuel (← checkEscape unread s)
    else if c < ' ' then
      if unread then before .controlInString (c :: s) else within .controlInString (c :: s)
    else checkString unread fuel s

/-! ## Words and numbers -/

/-- Checks that the characters of a word come next. -/
def checkWord : List Char → Check
  | [], s => .ok s
  | _ :: _, [] => before .endBeforeValue []
  | c :: cs, d :: s => if c = d then checkWord cs s else within .noWord (d :: s)

/-- What is wrong with a number that the text ends in. -/
def endInNumber (unread : Bool) : Fault := if unread then .badNumber else .endBeforeValue

/-- The largest exponent that is counted. -/
def exponentLimit : Nat := 0x7fffffff

/-- Checks the digits of an exponent with which a number grows.  A number with more than the
largest exponent is too large at the digit that shows it. -/
def checkGrowth : Nat → Check
  | _, [] => .ok []
  | n, c :: s =>
    if c.isDigit then
      let m := n * 10 + digitValue c
      if exponentLimit < m then before .numberTooLarge s else checkGrowth m s
    else .ok (c :: s)

/-- Checks the exponent of a number, if there is one.  A zero does not grow, and neither does
a number with a negative exponent. -/
def checkExponent (unread zero : Bool) : Check
  | [] => .ok []
  | c :: s =>
    if c = 'e' ∨ c = 'E' then
      let (grows, s) := match s with
        | '+' :: s => (!zero, s)
        | '-' :: s => (false, s)
        | s => (!zero, s)
      match s with
      | [] => before (endInNumber unread) []
      | d :: s =>
        if d.isDigit then
          if grows && !unread then checkGrowth 0 (d :: s) else .ok (s.dropWhile Char.isDigit)
        else within .badNumber (d :: s)
    else .ok (c :: s)

/-- Checks the fraction and the exponent of a number. -/
def checkFraction (unread zero : Bool) : Check
  | '.' :: s =>
    match s with
    | [] => before (endInNumber unread) []
    | d :: s =>
      if d.isDigit then checkExponent unread zero (s.dropWhile Char.isDigit)
      else within .badNumber (d :: s)
  | s => checkExponent unread zero s

/-- Whether the significand that a text starts with is zero. -/
def isZeroSignificand (s : List Char) : Bool :=
  (s.takeWhile fun c => c.isDigit || c == '.').all fun c => c == '0' || c == '.'

/-- Checks a number after its sign. -/
def checkNumber (unread : Bool) : Check
  | [] => before (endInNumber unread) []
  | c :: s =>
    let zero := isZeroSignificand (c :: s)
    if c = '0' then
      match s with
      | d :: t => if d.isDigit then within .badNumber (d :: t) else checkFraction unread zero s
      | [] => .ok []
    else if c.isDigit then checkFraction unread zero (s.dropWhile Char.isDigit)
    else within .badNumber (c :: s)

/-- Checks a number, and gives its value, too. -/
def checkNumeral (s : List Char) : Except Finding (Json × List Char) := do
  let rest ← match s with
    | '-' :: t => checkNumber false t
    | t => checkNumber false t
  match Numeral.read? s with
  | none => before .badNumber s
  | some (n, _) =>
    match n.value with
    | .foreign => before .numberTooLarge rest
    | v => .ok (v, rest)

/-- A character that a number starts with. -/
def startsNumber (c : Char) : Bool := c == '-' || c.isDigit

/-! ## Values that nobody reads -/

/-- Where a check of a value that nobody reads has come to. -/
inductive Spot where
  /-- Before a value. -/
  | value
  /-- After the bracket that opens a container. -/
  | opened
  /-- After a value. -/
  | ended

/-- The fault of a text that ends in a container. -/
def endInside (isObject : Bool) : Fault := if isObject then .endInObject else .endInArray

/-- The fault of a container that neither goes on nor ends. -/
def noEndOf (isObject : Bool) : Fault := if isObject then .noObjectEnd else .noArrayEnd

/-- Checks what has to stand before the next value of a container: in an object its name and
a colon. -/
def checkName (isObject : Bool) (s : List Char) : Except Finding (List Char) :=
  if isObject then
    match skipGap s with
    | [] => before .endInObject []
    | '"' :: s => do
      match skipGap (← checkString true (s.length + 1) s) with
      | [] => before .endInObject []
      | ':' :: s => return s
      | s => within .noColon s
    | s => within .nameNotText s
  else .ok s

/-- Checks a value without parts that nobody reads. -/
def checkUnreadScalar (c : Char) (s : List Char) : Except Finding (List Char) :=
  if c = 'n' then checkWord "ull".toList s
  else if c = 't' then checkWord "rue".toList s
  else if c = 'f' then checkWord "alse".toList s
  else if c = '"' then checkString true (s.length + 1) s
  else if c = '-' then checkNumber true s
  else if c.isDigit then checkNumber true (c :: s)
  else within .noValue (c :: s)

/-- Checks a value that nobody reads, from a spot in the containers that are open, of which
`true` is an object.  Every second step of `fuel` takes a character. -/
def checkUnread : Nat → Spot → List Bool → Check
  | 0, _, _, s => .ok s
  | fuel + 1, .value, around, s =>
    match skipGap s with
    | [] => before .endBeforeValue []
    | '[' :: s => checkUnread fuel .opened (false :: around) s
    | '\x7b' :: s => checkUnread fuel .opened (true :: around) s
    | c :: s => do checkUnread fuel .ended around (← checkUnreadScalar c s)
  | _, .opened, [], s => .ok s
  | fuel + 1, .opened, isObject :: around, s =>
    match skipGap s with
    | [] => before (endInside isObject) []
    | c :: s =>
      if c = (if isObject then '\x7d' else ']') then checkUnread fuel .ended around s
      else do checkUnread fuel .value (isObject :: around) (← checkName isObject (c :: s))
  | _, .ended, [], s => .ok s
  | fuel + 1, .ended, isObject :: around, s =>
    match skipGap s with
    | [] => before (endInside isObject) []
    | c :: s =>
      if c = (if isObject then '\x7d' else ']') then checkUnread fuel .ended around s
      else if c = ',' then do
        checkUnread fuel .value (isObject :: around) (← checkName isObject s)
      else within (noEndOf isObject) (c :: s)

/-! ## Values of a kind -/

/-- A number as a message shows it. -/
def describeNumber : Json → String
  | .int n => "integer `" ++ String.ofList (writeInt n) ++ "`"
  | .real bits => "floating point `" ++ String.ofList (writeReal bits) ++ "`"
  | _ => "null"

/-- What is found where a value of another kind was wanted. -/
def otherKind {α : Type} (wanted : String) (s : List Char) : Except Finding α :=
  match s with
  | [] => within .noValue []
  | c :: t =>
    if c = 'n' then do before (.wrongType "null" wanted) (← checkWord "ull".toList t)
    else if c = 't' then do
      before (.wrongType "boolean `true`" wanted) (← checkWord "rue".toList t)
    else if c = 'f' then do
      before (.wrongType "boolean `false`" wanted) (← checkWord "alse".toList t)
    else if startsNumber c then do
      let (v, rest) ← checkNumeral (c :: t)
      before (.wrongType (describeNumber v) wanted) rest
    else if c = '"' then do
      let rest ← checkString false (t.length + 1) t
      let value := match readString? t with
        | some (.text (some value), _) => value
        | _ => ""
      before (.wrongType ("string " ++ Text.quoted value) wanted) rest
    else if c = '[' then before (.wrongType "sequence" wanted) s
    else if c = '\x7b' then before (.wrongType "map" wanted) s
    else within .noValue s

/-- Checks a string. -/
def checkText : Check := fun s =>
  match skipGap s with
  | [] => before .endBeforeValue []
  | '"' :: s => checkString false (s.length + 1) s
  | s => otherKind "a string" s

/-- Checks a truth value. -/
def checkBool : Check := fun s =>
  match skipGap s with
  | [] => before .endBeforeValue []
  | 't' :: s => checkWord "rue".toList s
  | 'f' :: s => checkWord "alse".toList s
  | s => otherKind "a boolean" s

/-- Checks an integer in some range, which has a name. -/
def checkInteger (fits : Int → Bool) (name : String) : Check := fun s =>
  match skipGap s with
  | [] => before .endBeforeValue []
  | c :: s =>
    if startsNumber c then do
      let (v, rest) ← checkNumeral (c :: s)
      match v.asInt? with
      | some n => if fits n then return rest else before (.wrongValue (describeNumber v) name) rest
      | none => before (.wrongType (describeNumber v) name) rest
    else otherKind name (c :: s)

/-- Checks an integer of a signed word. -/
def checkSigned : Check := checkInteger fitsSigned "i64"

/-- Checks an integer of an unsigned word. -/
def checkUnsigned : Check := checkInteger fitsUnsigned "u64"

/-- Checks a value that may be `null`. -/
def checkOptional (value : Check) : Check := fun s =>
  match skipGap s with
  | 'n' :: s => checkWord "ull".toList s
  | s => value s

/-- Whether an array has one more item, and the text from that on.  The items are separated
by commas. -/
def checkNextItem (first : Bool) (s : List Char) : Except Finding (Bool × List Char) :=
  match skipGap s with
  | [] => before .endInArray []
  | ']' :: s => .ok (false, ']' :: s)
  | c :: s =>
    if first then .ok (true, c :: s)
    else if c = ',' then
      match skipGap s with
      | [] => before .endBeforeValue []
      | ']' :: s => within .trailingComma (']' :: s)
      | s => .ok (true, s)
    else within .noArrayEnd (c :: s)

/-- Checks the items of an array, with at most `fuel` of them, and its end. -/
def checkItems (value : Check) : Nat → Bool → Check
  | 0, _, s => .ok s
  | fuel + 1, first, s => do
    match ← checkNextItem first s with
    | (true, s) => checkItems value fuel false (← value s)
    | (false, s) => return s.drop 1

/-- Checks an array of values. -/
def checkList (value : Check) : Check := fun s =>
  match skipGap s with
  | [] => before .endBeforeValue []
  | '[' :: s => checkItems value (s.length + 1) true s
  | s => otherKind "a sequence" s

/-! ## Structures -/

/-- A field as a check sees it. -/
structure FieldCheck where
  name : String
  required : Bool
  value : Check

/-- What the fields of a structure are called together. -/
def kindName (name : String) : String := "struct " ++ name

/-- The same, with their number. -/
def kindWithLength (name : String) (count : Nat) : String :=
  kindName name ++ " with " ++ toString count ++ (if count = 1 then " element" else " elements")

/-- Checks the end of an array that has an item for every field. -/
def checkFullEnd (s : List Char) : Except Finding (List Char) :=
  match skipGap s with
  | [] => before .endInArray []
  | ']' :: s => .ok s
  | ',' :: s =>
    match skipGap s with
    | ']' :: s => within .trailingComma (']' :: s)
    | s => within .trailingText s
  | s => within .trailingText s

/-- Checks the fields of a structure that is written as an array, of which `index` have been
read. -/
def checkArrayFields (wanted : String) : List FieldCheck → Nat → Check
  | [], _, s => checkFullEnd s
  | f :: fs, index, s => do
    match ← checkNextItem (index == 0) s with
    | (true, s) => checkArrayFields wanted fs (index + 1) (← f.value s)
    | (false, s) =>
      match (f :: fs).zipIdx.find? fun p => p.1.required with
      | some (_, skipped) => before (.wrongLength (index + skipped) wanted) (s.drop 1)
      | none => return s.drop 1

/-- Whether an object has one more member, and the text from its name on.  The members are
separated by commas. -/
def checkNextMember (first : Bool) (s : List Char) : Except Finding (Bool × List Char) :=
  match skipGap s with
  | [] => before .endInObject []
  | '\x7d' :: s => .ok (false, s)
  | c :: s =>
    if first then if c = '"' then .ok (true, s) else within .nameNotText (c :: s)
    else if c = ',' then
      match skipGap s with
      | [] => before .endBeforeValue []
      | '"' :: s => .ok (true, s)
      | '\x7d' :: s => within .trailingComma ('\x7d' :: s)
      | s => within .nameNotText s
    else within .noObjectEnd (c :: s)

/-- Finds that a field comes a second time.  An object that could end there is taken to have
ended. -/
def duplicate (name : String) (s : List Char) : Except Finding (List Char) :=
  match skipGap s with
  | '\x7d' :: s => before (.duplicateField name) s
  | s => before (.duplicateField name) s

/-- Checks the colon after a name. -/
def checkColon (s : List Char) : Except Finding (List Char) :=
  match skipGap s with
  | [] => before .endInObject []
  | ':' :: s => .ok s
  | s => within .noColon s

/-- Checks the members of a structure that is written as an object, with at most `fuel` of
them.  The fields named in `seen` have been read. -/
def checkMembers (fields : List FieldCheck) : Nat → List String → Bool → Check
  | 0, _, _, s => .ok s
  | fuel + 1, seen, first, s => do
    match ← checkNextMember first s with
    | (false, s) =>
      match fields.find? fun f => f.required && !seen.contains f.name with
      | some f => before (.missingField f.name) s
      | none => return s
    | (true, s) =>
      let rest ← checkString false (s.length + 1) s
      let name := match readString? s with
        | some (.text (some name), _) => name
        | _ => ""
      match fields.find? fun f => f.name == name with
      | none => do
        let s ← checkColon rest
        checkMembers fields fuel seen false (← checkUnread (2 * s.length + 2) .value [] s)
      | some f =>
        if seen.contains name then duplicate name rest
        else do
          let s ← checkColon rest
          checkMembers fields fuel (name :: seen) false (← f.value s)

/-- Checks a structure. -/
def checkStructure (name : String) (fields : List FieldCheck) : Check := fun s =>
  match skipGap s with
  | [] => before .endBeforeValue []
  | '[' :: s => checkArrayFields (kindWithLength name fields.length) fields 0 s
  | '\x7b' :: s => checkMembers fields (s.length + 1) [] true s
  | s => otherKind (kindName name) s

/-! ## Whole texts -/

/-- Checks that nothing is left. -/
def checkEnd (s : List Char) : Except Finding (List Char) :=
  match skipGap s with
  | [] => .ok []
  | s => within .trailingText s

/-- The line and the column after some bytes of a text, counted on from a line and a
column. -/
def position (line column : Nat) : Nat → List Char → Nat × Nat
  | 0, _ => (line, column)
  | n, [] => (line, column + n)
  | n, c :: s =>
    if c = '\n' then position (line + 1) 0 (n - 1) s
    else position line (column + min n c.utf8Size) (n - c.utf8Size) s
termination_by _ s => s.length

/-- What is said about a finding in a text. -/
def Finding.message (f : Finding) (s : List Char) : String :=
  let (line, column) := position 1 0 (byteCount s - f.left) s
  f.fault.message ++ " at line " ++ toString line ++ " column " ++ toString column

/-- The first thing that is wrong with a whole text, in words. -/
def diagnose? (check : Check) (s : List Char) : Option String :=
  match check s >>= checkEnd with
  | .ok _ => none
  | .error f => some (f.message s)

end Json
end ScriptedChat
