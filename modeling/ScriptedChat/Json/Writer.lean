import ScriptedChat.Json.Basic
import ScriptedChat.Decimal.Shortest

/-!
# Writing JSON

Values are written without blanks.  In a string only what has to be escaped is escaped:
the quote, the backslash and the control characters.

A float is written with the fewest digits that read back; it is positional as long as its
point stands close to its digits, and always shows a point or an exponent.

* `writeText`, `writeReal`: strings and floats.
* `render`, `toText`: a whole value.
-/

namespace ScriptedChat
namespace Json

/-- A hexadecimal digit. -/
def hexDigit (n : Nat) : Char := if n < 10 then Char.ofNat (48 + n) else Char.ofNat (87 + n)

/-- The spelling of a character in a string. -/
def escape (c : Char) : List Char :=
  if c = '"' then ['\\', '"']
  else if c = '\\' then ['\\', '\\']
  else if c = '\x08' then ['\\', 'b']
  else if c = '\x0c' then ['\\', 'f']
  else if c = '\n' then ['\\', 'n']
  else if c = '\r' then ['\\', 'r']
  else if c = '\t' then ['\\', 't']
  else if c.toNat < 32 then
    ['\\', 'u', '0', '0', hexDigit (c.toNat / 16), hexDigit (c.toNat % 16)]
  else [c]

/-- A string with its quotes. -/
def writeText (s : String) : List Char := '"' :: s.toList.flatMap escape ++ ['"']

/-- The decimal digits of an integer, with its sign. -/
def writeInt (n : Int) : List Char :=
  if n < 0 then '-' :: Nat.toDigits 10 n.natAbs else Nat.toDigits 10 n.natAbs

/-- An exponent, which always has a sign. -/
def writeExponent (e : Int) : List Char :=
  if e < 0 then 'e' :: writeInt e else 'e' :: '+' :: writeInt e

/-- Digits with a point and, where the point is far from them, an exponent. -/
def writeDigits (d : Decimal.Digits) : List Char :=
  let ds := Nat.toDigits 10 d.digits
  let point : Int := ds.length + d.exponent
  if 0 ≤ d.exponent ∧ point ≤ 16 then
    ds ++ List.replicate d.exponent.toNat '0' ++ ['.', '0']
  else if 0 < point ∧ point ≤ 16 then
    ds.take point.toNat ++ ['.'] ++ ds.drop point.toNat
  else if -5 < point ∧ point ≤ 0 then
    ['0', '.'] ++ List.replicate point.natAbs '0' ++ ds
  else
    let fraction := if ds.length = 1 then ds else ds.take 1 ++ ['.'] ++ ds.drop 1
    fraction ++ writeExponent (point - 1)

/-- A finite float. -/
def writeReal (bits : UInt64) : List Char :=
  let sign := if 0x8000000000000000 ≤ bits.toNat then ['-'] else []
  sign ++ writeDigits (Decimal.shortest (Decimal.Binary.ofBits bits))

mutual

/-- A value as text.  What is foreign is written as nothing. -/
def render : Json → List Char
  | .null => "null".toList
  | .bool true => "true".toList
  | .bool false => "false".toList
  | .int n => writeInt n
  | .real bits => writeReal bits
  | .text s => writeText s
  | .array items => '[' :: renderItems items ++ [']']
  | .object members => '\x7b' :: renderMembers members ++ ['\x7d']
  | .foreign => []

/-- The items of an array with commas between them. -/
def renderItems : List Json → List Char
  | [] => []
  | [v] => v.render
  | v :: vs => v.render ++ ',' :: renderItems vs

/-- The members of an object with commas between them. -/
def renderMembers : List (String × Json) → List Char
  | [] => []
  | [(n, v)] => writeText n ++ ':' :: v.render
  | (n, v) :: ms => writeText n ++ ':' :: v.render ++ ',' :: renderMembers ms

end

/-- A value as text. -/
def toText (v : Json) : String := String.ofList v.render

end Json
end ScriptedChat
