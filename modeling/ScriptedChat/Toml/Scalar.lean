import ScriptedChat.Json.Token
import ScriptedChat.Calendar.Date

/-!
# TOML scalars

A configuration file is written in TOML 1.0.  This module reads the values that have no
parts: strings of four kinds, integers, floats, dates and the two truth values.  Only
strings and integers are of interest, but a file is refused as a whole when anything in it
is not well formed, so every kind is read in full.

* `isPlain`: the characters that may stand in a comment or a string.
* `readBasic?`, `readLiteral?`, `readMultiBasic?`, `readMultiLiteral?`: the strings.
* `readBare?`: everything that stands without quotes.
-/

namespace ScriptedChat
namespace Toml

/-- A value without parts. -/
inductive Scalar where
  | text (value : String)
  | integer (value : Int)
  /-- A float, a date or a truth value. -/
  | other
  deriving DecidableEq, Repr

/-- A blank within a line. -/
def isGap (c : Char) : Bool := c == ' ' || c == '\t'

/-- A character that may stand in a comment: no control but the tab. -/
def isPlain (c : Char) : Bool := c == '\t' || (' ' ≤ c && c ≤ '~') || 0x80 ≤ c.toNat

/-! ## Strings -/

/-- The character of a code point, if it is one. -/
def scalarValue? (n : Nat) : Option Char := if n.isValidChar then some (Char.ofNat n) else none

/-- What an escape of one letter stands for. -/
def escaped? : Char → Option Char
  | 'b' => some '\x08'
  | 't' => some '\t'
  | 'n' => some '\n'
  | 'f' => some '\x0c'
  | 'r' => some '\r'
  | '"' => some '"'
  | '\\' => some '\\'
  | _ => none

/-- Puts a character before what has been read. -/
def prepend (c : Char) (r : Option (List Char × List Char)) : Option (List Char × List Char) :=
  r.map fun p => (c :: p.1, p.2)

/-- Reads a string in double quotes, after the first of them. -/
def readBasic? : List Char → Option (List Char × List Char)
  | [] => none
  | '"' :: s => some ([], s)
  | '\\' :: 'u' :: a :: b :: c :: d :: s => do
    prepend (← scalarValue? (← Json.hexQuad? a b c d)) (readBasic? s)
  | '\\' :: 'U' :: a :: b :: c :: d :: e :: f :: g :: h :: s => do
    let high ← Json.hexQuad? a b c d
    let low ← Json.hexQuad? e f g h
    prepend (← scalarValue? (high * 65536 + low)) (readBasic? s)
  | '\\' :: c :: s => do prepend (← escaped? c) (readBasic? s)
  | c :: s => if isPlain c ∧ c ≠ '\\' then prepend c (readBasic? s) else none

/-- Reads a string in single quotes, after the first of them. -/
def readLiteral? : List Char → Option (List Char × List Char)
  | [] => none
  | '\'' :: s => some ([], s)
  | c :: s => if isPlain c then prepend c (readLiteral? s) else none

/-- The quotes that belong to a string and the text after its end, if at least three
quotes `q` come next.  Up to two of them are part of the string. -/
def readClosing? (q : Char) (s : List Char) : Option (List Char × List Char) :=
  let n := (s.takeWhile (· == q)).length
  if 3 ≤ n then
    let kept := min (n - 3) 2
    some (List.replicate kept q, s.drop (kept + 3))
  else none

/-- What is skipped after a backslash at the end of a line. -/
inductive Skipping where
  | nothing
  /-- Blanks up to the end of the line. -/
  | lineEnd
  /-- Blanks and line ends. -/
  | blanks
  deriving DecidableEq, Repr

/-- Reads a string in three double quotes, after the first three and the line end that may
follow them. -/
def readMultiBasic? : Skipping → List Char → Option (List Char × List Char)
  | _, [] => none
  | .lineEnd, '\n' :: s => readMultiBasic? .blanks s
  | .lineEnd, '\r' :: '\n' :: s => readMultiBasic? .blanks s
  | .lineEnd, c :: s => if isGap c then readMultiBasic? .lineEnd s else none
  | .blanks, ' ' :: s => readMultiBasic? .blanks s
  | .blanks, '\t' :: s => readMultiBasic? .blanks s
  | .blanks, '\n' :: s => readMultiBasic? .blanks s
  | .blanks, '\r' :: '\n' :: s => readMultiBasic? .blanks s
  | _, '"' :: s =>
    match readClosing? '"' ('"' :: s) with
    | some r => some r
    | none => prepend '"' (readMultiBasic? .nothing s)
  | _, '\r' :: '\n' :: s => prepend '\n' (readMultiBasic? .nothing s)
  | _, '\n' :: s => prepend '\n' (readMultiBasic? .nothing s)
  | _, '\\' :: 'u' :: a :: b :: c :: d :: s => do
    prepend (← scalarValue? (← Json.hexQuad? a b c d)) (readMultiBasic? .nothing s)
  | _, '\\' :: 'U' :: a :: b :: c :: d :: e :: f :: g :: h :: s => do
    let high ← Json.hexQuad? a b c d
    let low ← Json.hexQuad? e f g h
    prepend (← scalarValue? (high * 65536 + low)) (readMultiBasic? .nothing s)
  | _, '\\' :: '\n' :: s => readMultiBasic? .blanks s
  | _, '\\' :: '\r' :: '\n' :: s => readMultiBasic? .blanks s
  | _, '\\' :: c :: s =>
    if isGap c then readMultiBasic? .lineEnd s
    else do prepend (← escaped? c) (readMultiBasic? .nothing s)
  | _, c :: s => if isPlain c ∧ c ≠ '\\' then prepend c (readMultiBasic? .nothing s) else none

/-- Reads a string in three single quotes, after the first three and the line end that may
follow them. -/
def readMultiLiteral? : List Char → Option (List Char × List Char)
  | [] => none
  | '\'' :: s =>
    match readClosing? '\'' ('\'' :: s) with
    | some r => some r
    | none => prepend '\'' (readMultiLiteral? s)
  | '\r' :: '\n' :: s => prepend '\n' (readMultiLiteral? s)
  | '\n' :: s => prepend '\n' (readMultiLiteral? s)
  | c :: s => if isPlain c then prepend c (readMultiLiteral? s) else none

/-- The text without the line end it may start with. -/
def dropLineEnd : List Char → List Char
  | '\n' :: s => s
  | '\r' :: '\n' :: s => s
  | s => s

/-- Reads a string of any kind. -/
def readString? : List Char → Option (List Char × List Char)
  | '"' :: '"' :: '"' :: s => readMultiBasic? .nothing (dropLineEnd s)
  | '"' :: s => readBasic? s
  | '\'' :: '\'' :: '\'' :: s => readMultiLiteral? (dropLineEnd s)
  | '\'' :: s => readLiteral? s
  | _ => none

/-! ## Numbers -/

/-- Reads digits, of which any two may have an underscore between them. -/
def readDigits? (isDigit : Char → Bool) : List Char → Option (List Char × List Char)
  | [] => none
  | c :: s =>
    if !isDigit c then none
    else
      match s with
      | '_' :: s => prepend c (readDigits? isDigit s)
      | s =>
        match readDigits? isDigit s with
        | some r => some (c :: r.1, r.2)
        | none => some ([c], s)

/-- The number of some digits in a base. -/
def number (base : Nat) (digits : List Char) : Nat :=
  digits.foldl (fun n c => n * base + (Json.hexValue? c).getD 0) 0

/-- Takes a sign. -/
def readSign : List Char → Bool × List Char
  | '-' :: s => (true, s)
  | '+' :: s => (false, s)
  | s => (false, s)

/-- Reads the digits of a decimal number, which start with a zero only if that is all. -/
def readWhole? : List Char → Option (List Char × List Char)
  | '0' :: s => some (['0'], s)
  | s => readDigits? Char.isDigit s

/-- A number in a base other than ten, after its two first characters. -/
def readBased? (base : Nat) (s : List Char) : Option Int := do
  let isDigit (c : Char) : Bool := (Json.hexValue? c).any fun d => d < base
  let (digits, rest) ← readDigits? isDigit s
  guard rest.isEmpty
  return number base digits

/-- An integer, if the text is one and fits a word. -/
def integer? (s : List Char) : Option Int := do
  let n ← match s with
    | '0' :: 'x' :: s => readBased? 16 s
    | '0' :: 'o' :: s => readBased? 8 s
    | '0' :: 'b' :: s => readBased? 2 s
    | s => do
      let (negative, s) := readSign s
      let (digits, rest) ← readWhole? s
      guard rest.isEmpty
      let n : Int := number 10 digits
      some (if negative then -n else n)
  guard (fitsSigned n)
  return n

/-- Reads the digits after a point. -/
def readFraction? : List Char → Option (List Char × List Char)
  | '.' :: s => readDigits? Char.isDigit s
  | s => some ([], s)

/-- Reads an exponent. -/
def readExponent? : List Char → Option (Int × List Char)
  | [] => some (0, [])
  | c :: s =>
    if c = 'e' ∨ c = 'E' then do
      let (negative, s) := readSign s
      let (digits, rest) ← readDigits? Char.isDigit s
      let n : Int := number 10 digits
      return (if negative then -n else n, rest)
    else some (0, c :: s)

/-- The least number that is rounded to no float. -/
def floatLimit : Nat := (Nat.pow 2 54 - 1) * Nat.pow 2 970

/-- Whether `n * 10 ^ e` is too large for a float. -/
def tooLarge (n : Nat) (e : Int) : Bool :=
  let digits : Int := (Nat.toDigits 10 n).length
  if n = 0 ∨ digits + e < 300 then false
  else if 320 < digits + e then true
  else if 0 ≤ e then floatLimit ≤ n * Nat.pow 10 e.toNat
  else floatLimit * Nat.pow 10 e.natAbs ≤ n

/-- Whether a text is a float. -/
def isFloat (s : List Char) : Bool :=
  let (negative, s) := readSign s
  if s = "inf".toList ∨ s = "nan".toList then true
  else
    ((do
      let (whole, s) ← readWhole? s
      guard (!s.isEmpty)
      let (fraction, s) ← readFraction? s
      let (e, s) ← readExponent? s
      guard s.isEmpty
      guard (negative || !tooLarge (number 10 (whole ++ fraction)) (e - fraction.length))
      return ()) : Option Unit).isSome

/-! ## Dates -/

/-- Reads exactly `n` digits. -/
def readField? (n : Nat) (s : List Char) : Option (Nat × List Char) :=
  let ds := s.take n
  if ds.length = n ∧ ds.all Char.isDigit then some (number 10 ds, s.drop n) else none

/-- Takes one character. -/
def readMark? (m : Char) : List Char → Option (List Char)
  | c :: s => if c = m then some s else none
  | [] => none

/-- Reads a date. -/
def readDate? (s : List Char) : Option (List Char) := do
  let (year, s) ← readField? 4 s
  let (month, s) ← readField? 2 (← readMark? '-' s)
  let (day, s) ← readField? 2 (← readMark? '-' s)
  guard (1 ≤ month ∧ month ≤ 12 ∧ 1 ≤ day ∧ day ≤ Calendar.monthLength year month)
  return s

/-- Reads a time of the day. -/
def readTime? (s : List Char) : Option (List Char) := do
  let (hour, s) ← readField? 2 s
  let (minute, s) ← readField? 2 (← readMark? ':' s)
  let (second, s) ← readField? 2 (← readMark? ':' s)
  guard (hour ≤ 23 ∧ minute ≤ 59 ∧ second ≤ 60)
  match s with
  | '.' :: s =>
    guard ((s.takeWhile Char.isDigit).length ≠ 0)
    return s.dropWhile Char.isDigit
  | s => return s

/-- Whether a text is an offset, or nothing. -/
def isOffset : List Char → Bool
  | [] => true
  | ['Z'] => true
  | ['z'] => true
  | c :: s =>
    ((do
      guard (c = '+' ∨ c = '-')
      let (hour, s) ← readField? 2 s
      let (minute, s) ← readField? 2 (← readMark? ':' s)
      guard (hour ≤ 23 ∧ minute ≤ 59 ∧ s = [])
      return ()) : Option Unit).isSome

/-- Whether a text is a time of the day, which may have an offset. -/
def isTime (s : List Char) (offset : Bool) : Bool :=
  match readTime? s with
  | some rest => if offset then isOffset rest else rest.isEmpty
  | none => false

/-- Whether a text is a date, a time, or both. -/
def isDateTime (s : List Char) : Bool :=
  isTime s false
    || match readDate? s with
      | some [] => true
      | some (c :: rest) => (c = 'T' || c = 't') && isTime rest true
      | none => false

/-! ## Without quotes -/

/-- A character of a value without quotes. -/
def isBareChar (c : Char) : Bool :=
  c.isAlphanum || c == '+' || c == '-' || c == '_' || c == '.' || c == ':'

/-- The value of a word without quotes. -/
def bare? (w : List Char) : Option Scalar :=
  if w = "true".toList ∨ w = "false".toList then some .other
  else
    match integer? w with
    | some n => some (.integer n)
    | none => if isFloat w || isDateTime w then some .other else none

/-- Reads a value without quotes.  A date and a time may have a blank between them. -/
def readBare? (s : List Char) : Option (Scalar × List Char) := do
  let w := s.takeWhile isBareChar
  let rest := s.dropWhile isBareChar
  let v ← bare? w
  match rest with
  | ' ' :: more =>
    if readDate? w = some [] ∧ isTime (more.takeWhile isBareChar) true then
      return (v, more.dropWhile isBareChar)
    else return (v, rest)
  | rest => return (v, rest)

end Toml
end ScriptedChat
