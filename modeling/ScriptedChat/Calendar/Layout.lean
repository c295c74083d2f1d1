import ScriptedChat.Calendar.Zone

/-!
# Reading dates

The heading of a scheduled step gives its time in one of three ways, tried in this order:

* as RFC 3339 writes it, with an offset (`2024-09-10T10:00:00+02:00`);
* as a local clock face, with or without seconds (`2024-09-10 10:00`);
* as a bare date, which means midnight in universal time.

## Layouts

The local forms and the bare date are *layouts*: lists of items that are read one after
another.  A number may be preceded by blanks and has at most as many digits as its field
allows, except that a year with a sign may have any number; a gap is any number of blanks,
even none; a mark has to be there as it is.  Nothing may be left over.  RFC 3339 is
stricter: every field has its exact width.
-/

namespace ScriptedChat
namespace Calendar

open Text (isBlank trimStart)

/-- A field of a clock face. -/
inductive Field where
  | year
  | month
  | day
  | hour
  | minute
  | second
  deriving DecidableEq, Repr

/-- An item of a layout. -/
inductive Item where
  | number (field : Field)
  | mark (c : Char)
  | gap
  deriving DecidableEq, Repr

/-- The fields read so far.  A layout without seconds leaves them at zero. -/
structure Fields where
  year : Int := 0
  month : Nat := 0
  day : Nat := 0
  hour : Nat := 0
  minute : Nat := 0
  second : Nat := 0
  deriving DecidableEq, Repr

/-- Stores the number read for a field. -/
def Fields.put (f : Fields) (value : Int) : Field → Fields
  | .year => { f with year := value }
  | .month => { f with month := value.toNat }
  | .day => { f with day := value.toNat }
  | .hour => { f with hour := value.toNat }
  | .minute => { f with minute := value.toNat }
  | .second => { f with second := value.toNat }

/-- Reads one or more digits, at most `most` of them. -/
def readDigits? (most : Nat) (s : List Char) : Option (Nat × List Char) :=
  match (s.take most).takeWhile Char.isDigit with
  | [] => none
  | ds =>
    some (ds.foldl (fun n c => n * 10 + (c.toNat - '0'.toNat)) 0, s.drop ds.length)

/-- Reads the number of a field. -/
def Field.read? (field : Field) (s : List Char) : Option (Int × List Char) :=
  match field, trimStart s with
  | .year, '-' :: s => (readDigits? s.length s).map fun p => (-p.1, p.2)
  | .year, '+' :: s => (readDigits? s.length s).map fun p => (p.1, p.2)
  | .year, s => (readDigits? 4 s).map fun p => (p.1, p.2)
  | _, s => (readDigits? 2 s).map fun p => (p.1, p.2)

/-- Reads a whole text as the items of a layout. -/
def readLayout? : List Item → List Char → Fields → Option Fields
  | [], [], f => some f
  | [], _ :: _, _ => none
  | .number field :: items, s, f =>
    match field.read? s with
    | some (value, s) => readLayout? items s (f.put value field)
    | none => none
  | .mark c :: items, s, f =>
    match s with
    | d :: s => if d = c then readLayout? items s f else none
    | [] => none
  | .gap :: items, s, f => readLayout? items (trimStart s) f

/-- The clock face that fields make up, if there is one.  A second of 60 is the leap
second after the 59th. -/
def Fields.clockFace? (f : Fields) (nano : Nat) : Option ClockFace :=
  let date : Date := ⟨f.year, f.month, f.day⟩
  if date.isValid && f.hour < 24 && f.minute < 60 && f.second ≤ 60 then
    let leap := f.second = 60
    some
      { date
        second := f.hour * 3600 + f.minute * 60 + (if leap then 59 else f.second)
        nano := nano + (if leap then 1000000000 else 0) }
  else none

/-- `year-month-day`. -/
def dateItems : List Item :=
  [.number .year, .mark '-', .number .month, .mark '-', .number .day]

/-- `hour:minute`. -/
def timeItems : List Item := [.number .hour, .mark ':', .number .minute]

/-- `:second`. -/
def secondItems : List Item := [.mark ':', .number .second]

/-- The layouts of a local clock face, in the order in which they are tried. -/
def localLayouts : List (List Item) :=
  [ dateItems ++ [.gap] ++ timeItems ++ secondItems
  , dateItems ++ [.gap] ++ timeItems
  , dateItems ++ [.mark 'T'] ++ timeItems ++ secondItems
  , dateItems ++ [.mark 'T'] ++ timeItems ]

/-- The moment of a text in one local layout, if it is so written and its moment exists. -/
def readLocal? (zone : Zone) (s : List Char) (layout : List Item) : Option Moment := do
  let fields ← readLayout? layout s {}
  let face ← fields.clockFace? 0
  Moment.ofLocal? face (← zone.offset? face)

/-- Midnight, in universal time, of a bare date. -/
def readDay? (s : List Char) : Option Moment := do
  let fields ← readLayout? dateItems s {}
  let face ← fields.clockFace? 0
  return { day := face.date.dayNumber, second := 0, nano := 0 }

/-! ## RFC 3339 -/

/-- Reads exactly `n` digits. -/
def readExactly? (n : Nat) (s : List Char) : Option (Nat × List Char) := do
  guard (n ≤ s.length ∧ (s.take n).all Char.isDigit)
  readDigits? n s

/-- Reads the nanoseconds after a point.  Digits after the ninth are read and count for
nothing. -/
def readFraction? : List Char → Option (Nat × List Char)
  | '.' :: s => do
    let ds := s.takeWhile Char.isDigit
    guard (ds ≠ [])
    let (n, _) ← readDigits? 9 s
    return (n * Nat.pow 10 (9 - min 9 ds.length), s.dropWhile Char.isDigit)
  | s => some (0, s)

/-- Reads an offset, which has to be the end of the text.  The minus sign `U+2212` is as
good as a hyphen. -/
def readOffset? : List Char → Option Int
  | ['Z'] => some 0
  | ['z'] => some 0
  | sign :: s => do
    guard (sign = '+' ∨ sign = '-' ∨ sign = '\u2212')
    let (h, s) ← readExactly? 2 s
    let s ← Text.dropPrefix? [':'] s
    let (m, s) ← readExactly? 2 s
    guard (s = [] ∧ h < 24 ∧ m < 60)
    let seconds : Int := (h * 3600 + m * 60 : Nat)
    return if sign = '+' then seconds else -seconds
  | [] => none

/-- The moment of a text that RFC 3339 allows. -/
def readRfc3339? (s : List Char) : Option Moment := do
  let (year, s) ← readExactly? 4 s
  let s ← Text.dropPrefix? ['-'] s
  let (month, s) ← readExactly? 2 s
  let s ← Text.dropPrefix? ['-'] s
  let (day, s) ← readExactly? 2 s
  match s with
  | [] => none
  | sep :: s =>
    guard (sep = 'T' ∨ sep = 't' ∨ sep = ' ')
    let (hour, s) ← readExactly? 2 s
    let s ← Text.dropPrefix? [':'] s
    let (minute, s) ← readExactly? 2 s
    let s ← Text.dropPrefix? [':'] s
    let (second, s) ← readExactly? 2 s
    let (nano, s) ← readFraction? s
    let offset ← readOffset? s
    let face ← Fields.clockFace? { year, month, day, hour, minute, second } nano
    Moment.ofLocal? face offset

/-! ## Any of them -/

/-- A text that gives no date. -/
structure InvalidDate where
  text : String
  deriving DecidableEq, Repr

/-- What is said about a text that gives no date. -/
def InvalidDate.message (e : InvalidDate) : String :=
  "invalid date `" ++ e.text
    ++ "`: expected RFC 3339, `YYYY-MM-DD HH:MM[:SS]` or `YYYY-MM-DD`"

/-- The moment of a trimmed text. -/
def readMoment? (zone : Zone) (s : List Char) : Option Moment :=
  (readRfc3339? s).orElse fun _ =>
    (localLayouts.findSome? (readLocal? zone s)).orElse fun _ => readDay? s

/-- The moment that a text gives in a zone.  Blanks around it do not count. -/
def Moment.ofText (zone : Zone) (text : String) : Except InvalidDate Moment :=
  let s := Text.trim text.toList
  match readMoment? zone s with
  | some m => .ok m
  | none => .error ⟨String.ofList s⟩

/-! ## Writing -/

/-- A number with at least `width` digits. -/
def padded (width n : Nat) : List Char :=
  let ds := Nat.toDigits 10 n
  List.replicate (width - ds.length) '0' ++ ds

/-- A year has four digits, and a sign if it is before year 0 or after year 9999. -/
def writeYear (y : Int) : List Char :=
  if 0 ≤ y ∧ y ≤ 9999 then padded 4 y.toNat
  else (if y < 0 then '-' else '+') :: padded 4 y.natAbs

/-- `year-month-dayThour:minute:second`. -/
def Moment.writeSeconds (m : Moment) : List Char :=
  let d := Date.ofDayNumber m.day
  let leap := if 1000000000 ≤ m.nano then 1 else 0
  writeYear d.year ++ ['-'] ++ padded 2 d.month ++ ['-'] ++ padded 2 d.day ++ ['T']
    ++ padded 2 (m.second / 3600) ++ [':'] ++ padded 2 (m.second / 60 % 60) ++ [':']
    ++ padded 2 (m.second % 60 + leap)

/-- The point and the digits after it: none, or 3, 6 or 9, as few as are exact. -/
def writeFraction (nano : Nat) : List Char :=
  if nano = 0 then []
  else if nano % 1000000 = 0 then '.' :: padded 3 (nano / 1000000)
  else if nano % 1000 = 0 then '.' :: padded 6 (nano / 1000)
  else '.' :: padded 9 nano

/-- A moment in universal time, as RFC 3339 writes it. -/
def Moment.toText (m : Moment) : String :=
  String.ofList
    (m.writeSeconds ++ writeFraction (m.nano % 1000000000) ++ ['+', '0', '0', ':', '0', '0'])

end Calendar
end ScriptedChat
