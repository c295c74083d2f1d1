import ScriptedChat.Calendar.Date
import ScriptedChat.Text.Split

/-!
# Local zones

A zone tells how far a local clock is ahead of universal time.  It is written as in the
`TZ` variable of a POSIX system: a name and the hours *behind* universal time
(`CCC+3:45`), and for a zone with summer time a second name and the days on which the
clock changes (`EST5EDT,M3.2.0,M11.1.0`: the second Sunday of March and the first
Sunday of November).

## Clock faces without a moment, and with two

When summer time begins, the clock skips a stretch, and a face in it belongs to no
moment.  When it ends, a stretch is shown twice, and `Zone.offset?` reads a face in it as
standard time.  In the northern half of the world the second at which the clock is put
forward is still read as standard time, too.
-/

namespace ScriptedChat
namespace Calendar

/-- A day of the year given by a weekday: `week` 1 to 4 counts that weekday from the
start of the month and 5 means its last one.  Sunday is weekday 0.  `second` is the time of
the day on the clock that is shown until then. -/
structure ChangeDay where
  month : Nat
  week : Nat
  weekday : Nat
  second : Int
  deriving DecidableEq, Repr

/-- Summer time: the offset while it lasts, and the days on which it begins and ends. -/
structure Summer where
  offset : Int
  begins : ChangeDay
  ends : ChangeDay
  deriving DecidableEq, Repr

/-- A local zone.  Offsets are seconds ahead of universal time. -/
structure Zone where
  offset : Int
  summer : Option Summer
  deriving DecidableEq, Repr

/-- Universal time. -/
def Zone.universal : Zone := ⟨0, none⟩

/-! ## Offsets -/

/-- The number of the day on which a change falls in a year. -/
def ChangeDay.dayIn (c : ChangeDay) (year : Int) : Int :=
  let first := Date.dayNumber ⟨year, c.month, 1⟩
  -- 1 January 1970 was a Thursday.
  let firstWeekday := (first + 4) % 7
  let day := first + ((c.weekday : Int) - firstWeekday) % 7 + 7 * ((c.week : Int) - 1)
  if day < first + monthLength year c.month then day else day - 7

/-- The clock second, counted from 1970 on that clock, at which a change falls. -/
def ChangeDay.secondIn (c : ChangeDay) (year : Int) : Int :=
  c.dayIn year * daySeconds + c.second

/-- The offset that a local clock face is read with, if its moment exists. -/
def Zone.offset? (z : Zone) (f : ClockFace) : Option Int :=
  match z.summer with
  | none => some z.offset
  | some s =>
    let ahead := s.offset - z.offset
    let now := f.seconds
    let begins := s.begins.secondIn f.date.year
    let ends := s.ends.secondIn f.date.year
    if ahead ≤ 0 then some z.offset
    else if begins < ends then
      if now ≤ begins then some z.offset
      else if now < begins + ahead then none
      else if now < ends - ahead then some s.offset
      else some z.offset
    else
      if now < ends - ahead then some s.offset
      else if now ≤ ends ∨ now < begins then some z.offset
      else if now < begins + ahead then none
      else some s.offset

/-! ## Reading a zone -/

/-- A number of one or more decimal digits, and the text after it. -/
def readNatural? (s : List Char) : Option (Nat × List Char) :=
  match s.takeWhile Char.isDigit with
  | [] => none
  | ds => some (ds.foldl (fun n c => n * 10 + (c.toNat - '0'.toNat)) 0, s.dropWhile Char.isDigit)

/-- `hh`, `hh:mm` or `hh:mm:ss`, in seconds. -/
def readTime? (s : List Char) : Option (Int × List Char) := do
  let (h, s) ← readNatural? s
  match s with
  | ':' :: s =>
    let (m, s) ← readNatural? s
    match s with
    | ':' :: s =>
      let (sec, s) ← readNatural? s
      return ((h * 3600 + m * 60 + sec : Nat), s)
    | s => return ((h * 3600 + m * 60 : Nat), s)
  | s => return ((h * 3600 : Nat), s)

/-- A time with an optional sign. -/
def readSignedTime? : List Char → Option (Int × List Char)
  | '-' :: s => (readTime? s).map fun p => (-p.1, p.2)
  | '+' :: s => readTime? s
  | s => readTime? s

/-- `Mm.w.d`, with an optional `/time`; a change without a time falls at two o'clock. -/
def readChangeDay? : List Char → Option (ChangeDay × List Char)
  | 'M' :: s => do
    let (month, s) ← readNatural? s
    let s ← Text.dropPrefix? ['.'] s
    let (week, s) ← readNatural? s
    let s ← Text.dropPrefix? ['.'] s
    let (weekday, s) ← readNatural? s
    guard (1 ≤ month ∧ month ≤ 12 ∧ 1 ≤ week ∧ week ≤ 5 ∧ weekday ≤ 6)
    match s with
    | '/' :: s =>
      let (second, s) ← readSignedTime? s
      return (⟨month, week, weekday, second⟩, s)
    | s => return (⟨month, week, weekday, 7200⟩, s)
  | _ => none

/-- The letters of a zone's name, at least three. -/
def readName? (s : List Char) : Option (List Char) :=
  if 3 ≤ (s.takeWhile Char.isAlpha).length then some (s.dropWhile Char.isAlpha) else none

/-- The summer time that follows the standard offset.  Without an offset of its own it
is one hour ahead of standard time. -/
def readSummer? (standard : Int) (s : List Char) : Option Summer := do
  let s ← readName? s
  let (offset, s) ←
    match s with
    | ',' :: _ => some (standard + 3600, s)
    | s => (readSignedTime? s).map fun p => (-p.1, p.2)
  let s ← Text.dropPrefix? [','] s
  let (begins, s) ← readChangeDay? s
  let s ← Text.dropPrefix? [','] s
  let (ends, s) ← readChangeDay? s
  guard s.isEmpty
  return { offset, begins, ends }

/-- The zone written by a `TZ` text. -/
def Zone.ofText? (text : String) : Option Zone := do
  let s ← readName? text.toList
  let (behind, s) ← readSignedTime? s
  match s with
  | [] => return { offset := -behind, summer := none }
  | s => return { offset := -behind, summer := some (← readSummer? (-behind) s) }

end Calendar
end ScriptedChat
