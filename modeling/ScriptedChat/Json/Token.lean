import ScriptedChat.Json.Basic

/-!
# JSON tokens

A JSON text is a sequence of tokens with blanks between them: punctuation, strings,
numbers and the three words.

## Strings

A string is first read as *units*: the code points of its characters, and the numbers of
its `\u` escapes as they are.  Two units that are the halves of a surrogate pair, one
directly after the other, are then one character.  A half that stands alone makes the
string foreign, but its text well formed.

## Numbers

A number is a significand of digits and an exponent.  A number that is no integer of 64
bits takes its leading digits, as many as fit a word, as its significand; the rest only
count.  The result is that significand times or divided by a power of ten, rounded at
each operation.

* `Token`: the tokens.
* `readString?`, `Numeral.read?`: the two kinds that need more than one character.
* `Token.ofChars?`: the tokens of a text.
-/

namespace ScriptedChat
namespace Json

/-- A token of a JSON text. -/
inductive Token where
  | openArray
  | closeArray
  | openObject
  | closeObject
  | comma
  | colon
  /-- A string; none if it is foreign. -/
  | text (value : Option String)
  /-- A number or a word. -/
  | scalar (value : Json)
  deriving Repr

/-- A blank between tokens. -/
def isGap (c : Char) : Bool := c == ' ' || c == '\n' || c == '\t' || c == '\r'

/-! ## Strings -/

/-- The value of a hexadecimal digit of either case. -/
def hexValue? (c : Char) : Option Nat :=
  if '0' ≤ c ∧ c ≤ '9' then some (c.toNat - '0'.toNat)
  else if 'a' ≤ c ∧ c ≤ 'f' then some (c.toNat - 'a'.toNat + 10)
  else if 'A' ≤ c ∧ c ≤ 'F' then some (c.toNat - 'A'.toNat + 10)
  else none

/-- The number of four hexadecimal digits. -/
def hexQuad? (a b c d : Char) : Option Nat := do
  let a ← hexValue? a
  let b ← hexValue? b
  let c ← hexValue? c
  let d ← hexValue? d
  return ((a * 16 + b) * 16 + c) * 16 + d

/-- What a short escape stands for. -/
def shortEscape? : Char → Option Char
  | '"' => some '"'
  | '\\' => some '\\'
  | '/' => some '/'
  | 'b' => some '\x08'
  | 'f' => some '\x0c'
  | 'n' => some '\n'
  | 'r' => some '\r'
  | 't' => some '\t'
  | _ => none

/-- Reads the units of a string up to and with the quote that closes it.  A control
character has to be written as an escape. -/
def readUnits? : List Char → Option (List Nat × List Char)
  | [] => none
  | '"' :: s => some ([], s)
  | '\\' :: 'u' :: a :: b :: c :: d :: s => do
    let unit ← hexQuad? a b c d
    let (units, rest) ← readUnits? s
    return (unit :: units, rest)
  | '\\' :: c :: s => do
    let e ← shortEscape? c
    let (units, rest) ← readUnits? s
    return (e.toNat :: units, rest)
  | c :: s => do
    guard (' ' ≤ c ∧ c ≠ '\\')
    let (units, rest) ← readUnits? s
    return (c.toNat :: units, rest)

/-- The first half of a surrogate pair. -/
def isHighHalf (n : Nat) : Bool := decide (0xD800 ≤ n) && decide (n ≤ 0xDBFF)

/-- The second half of a surrogate pair. -/
def isLowHalf (n : Nat) : Bool := decide (0xDC00 ≤ n) && decide (n ≤ 0xDFFF)

/-- The characters of units, if every half of a pair has its other half. -/
def joinUnits? : List Nat → Option (List Char)
  | [] => some []
  | [n] => if isHighHalf n || isLowHalf n then none else some [Char.ofNat n]
  | n :: m :: units =>
    if isHighHalf n then
      if isLowHalf m then
        (joinUnits? units).map
          (Char.ofNat (0x10000 + (n - 0xD800) * 0x400 + (m - 0xDC00)) :: ·)
      else none
    else if isLowHalf n then none
    else (joinUnits? (m :: units)).map (Char.ofNat n :: ·)

/-- Reads a string after its opening quote. -/
def readString? (s : List Char) : Option (Token × List Char) :=
  (readUnits? s).map fun p => (.text ((joinUnits? p.1).map String.ofList), p.2)

/-! ## Numbers -/

/-- A number as it is written. -/
structure Numeral where
  negative : Bool
  /-- The digits before the point. -/
  whole : List Nat
  /-- The digits after the point, if there is one. -/
  fraction : Option (List Nat)
  exponent : Option Int
  deriving DecidableEq, Repr

/-- The value of a decimal digit. -/
def digitValue (c : Char) : Nat := c.toNat - '0'.toNat

/-- Reads digits, one at least. -/
def readDigits? (s : List Char) : Option (List Nat × List Char) :=
  match s.takeWhile Char.isDigit with
  | [] => none
  | ds => some (ds.map digitValue, s.dropWhile Char.isDigit)

/-- Reads the digits before the point.  Only zero itself starts with a zero. -/
def readWhole? : List Char → Option (List Nat × List Char)
  | '0' :: s => some ([0], s)
  | s => readDigits? s

/-- Reads a point and the digits after it. -/
def readFraction? : List Char → Option (Option (List Nat) × List Char)
  | '.' :: s => (readDigits? s).map fun p => (some p.1, p.2)
  | s => some (none, s)

/-- The number of a list of digits. -/
def digitsValue (ds : List Nat) : Nat := ds.foldl (fun n d => n * 10 + d) 0

/-- Reads the sign and the digits of an exponent. -/
def readPower? : List Char → Option (Int × List Char)
  | '-' :: s => (readDigits? s).map fun p => (-(digitsValue p.1 : Int), p.2)
  | '+' :: s => (readDigits? s).map fun p => (digitsValue p.1, p.2)
  | s => (readDigits? s).map fun p => (digitsValue p.1, p.2)

/-- Reads an exponent with its letter. -/
def readExponent? : List Char → Option (Option Int × List Char)
  | 'e' :: s => (readPower? s).map fun p => (some p.1, p.2)
  | 'E' :: s => (readPower? s).map fun p => (some p.1, p.2)
  | s => some (none, s)

/-- Reads a number. -/
def Numeral.read? (s : List Char) : Option (Numeral × List Char) := do
  let (negative, s) := match s with
    | '-' :: s => (true, s)
    | s => (false, s)
  let (whole, s) ← readWhole? s
  let (fraction, s) ← readFraction? s
  let (exponent, s) ← readExponent? s
  return ({ negative, whole, fraction, exponent }, s)

/-- Adds digits to a significand as long as it fits a word.  The digits that are left are
the second part. -/
def extend (significand : Nat) : List Nat → Nat × List Nat
  | [] => (significand, [])
  | d :: ds =>
    let n := significand * 10 + d
    if n < 0x10000000000000000 then extend n ds else (significand, d :: ds)

/-- A power of ten as a float. -/
def powerOfTen (n : Nat) : Float := Float.ofScientific 1 false n

/-- A significand times a power of ten as a float, if it is not too large. -/
def scaled? (significand : Nat) (exponent : Int) : Option Float :=
  let f := significand.toUInt64.toFloat
  if 0 ≤ exponent then
    if exponent ≤ 308 then
      let g := f * powerOfTen exponent.toNat
      if g.isInf then none else some g
    else if significand = 0 then some f
    else none
  else if -308 ≤ exponent then some (f / powerOfTen exponent.natAbs)
  else if -616 ≤ exponent then
    some (f / powerOfTen 308 / powerOfTen (exponent.natAbs - 308))
  else some 0

/-- The value of a number as a float. -/
def Numeral.real (n : Numeral) : Json :=
  let (s, left) := extend 0 n.whole
  let fraction := n.fraction.getD []
  let (s, unread) := extend s fraction
  let exponent : Int :=
    left.length - (fraction.length - unread.length : Nat) + n.exponent.getD 0
  match scaled? s exponent with
  | some f => .real (if n.negative then -f else f).toBits
  | none => .foreign

/-- The value of a number. -/
def Numeral.value (n : Numeral) : Json :=
  let whole : Int := digitsValue n.whole
  let m := if n.negative then -whole else whole
  if n.fraction = none ∧ n.exponent = none ∧ ¬(n.negative = true ∧ whole = 0)
      ∧ (fitsSigned m || fitsUnsigned m) then
    .int m
  else n.real

/-! ## Tokens -/

/-- The words that are values. -/
def word? (s : List Char) : Option Json :=
  if s = "null".toList then some .null
  else if s = "true".toList then some (.bool true)
  else if s = "false".toList then some (.bool false)
  else none

/-- Reads one token that starts with a character, and gives the rest of the text. -/
def Token.read? (c : Char) (s : List Char) : Option (Token × List Char) :=
  match c with
  | '[' => some (.openArray, s)
  | ']' => some (.closeArray, s)
  | '\x7b' => some (.openObject, s)
  | '\x7d' => some (.closeObject, s)
  | ',' => some (.comma, s)
  | ':' => some (.colon, s)
  | '"' => readString? s
  | c =>
    if c.isAlpha then
      (word? (c :: s.takeWhile Char.isAlpha)).map fun v =>
        (.scalar v, s.dropWhile Char.isAlpha)
    else (Numeral.read? (c :: s)).map fun p => (.scalar p.1.value, p.2)

/-- Reads all tokens, with at most `fuel` of them. -/
def Token.readAll? : Nat → List Char → Option (List Token)
  | fuel, s =>
    match fuel, s.dropWhile isGap with
    | _, [] => some []
    | 0, _ :: _ => none
    | fuel + 1, c :: s => do
      let (token, rest) ← Token.read? c s
      let tokens ← readAll? fuel rest
      return token :: tokens

/-- The tokens of a text.  Every token takes a character, so there are no more tokens than
characters. -/
def Token.ofChars? (s : List Char) : Option (List Token) := Token.readAll? s.length s

end Json
end ScriptedChat
