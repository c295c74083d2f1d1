import ScriptedChat.Toml.Table

/-!
# Dates that are written as tables

A table can stand for a date: its first key is `dateKey`, and the text under it is the date.
The rest of such a table says nothing.  A table that starts with that key and has no date
under it is a mistake.  In any other place the key is a key like all others, and the table of
a whole file is never a date.

The text of a date is read less strictly than a date without quotes: there may be an hour 24,
a date may have an offset without a time, and an offset may be a whole day.

* `isDateText`: whether a text is a date.
* `Node.settle?`: a value whose tables that stand for dates are dates.
-/

namespace ScriptedChat
namespace Toml

/-- The key that a table which stands for a date starts with. -/
def dateKey : String := "$__toml_private_datetime"

/-! ## The text of a date -/

/-- Reads a time of the day, up to the end of the hour 24. -/
def readLooseTime? (s : List Char) : Option (List Char) := do
  let (hour, s) ← readField? 2 s
  let (minute, s) ← readField? 2 (← readMark? ':' s)
  let (second, s) ← readField? 2 (← readMark? ':' s)
  guard (hour ≤ 24 ∧ minute ≤ 59 ∧ second ≤ 60)
  match s with
  | '.' :: s =>
    guard ((s.takeWhile Char.isDigit).length ≠ 0)
    return s.dropWhile Char.isDigit
  | s => return s

/-- Whether a text is an offset of a day at most, or nothing. -/
def isLooseOffset : List Char → Bool
  | [] => true
  | ['Z'] => true
  | ['z'] => true
  | c :: s =>
    ((do
      guard (c = '+' ∨ c = '-')
      let (hour, s) ← readField? 2 s
      let (minute, s) ← readField? 2 (← readMark? ':' s)
      guard (hour * 60 + minute ≤ 1440 ∧ s = [])
      return ()) : Option Unit).isSome

/-- A letter or blank between a date and a time. -/
def startsTime (c : Char) : Bool := c == 'T' || c == 't' || c == ' '

/-- Whether a text is a date, a time, or both.  A time without a date has no offset. -/
def isDateText (s : List Char) : Bool :=
  if s[2]? = some ':' then readLooseTime? s = some []
  else
    match readDate? s with
    | none => false
    | some [] => true
    | some (c :: rest) =>
      if startsTime c then (readLooseTime? rest).any isLooseOffset else isLooseOffset (c :: rest)

/-! ## Values -/

/-- The text under the key that a table starts with, if that is the key of a date. -/
def dateEntry? : Table → Option Node
  | (key, n) :: _ => if key = dateKey then some n else none
  | [] => none

/-- Whether a value is the text of a date. -/
def Node.isDate : Node → Bool
  | .scalar (.text s) => isDateText s.toList
  | _ => false

/-- A table after its values have been settled, if they could be, and if it is no date. -/
def settledTable? (kind : Kind) (t : Table) (settled : Option Table) : Option Node :=
  match dateEntry? t with
  | some n => if n.isDate then some (.scalar .other) else none
  | none => settled.map (.table kind)

mutual

/-- The value in which every table that stands for a date is one.  There is none if a table
starts like a date and is none. -/
def Node.settle? : Node → Option Node
  | .scalar v => some (.scalar v)
  | .array items => (settleItems? items).map .array
  | .table kind entries => settledTable? kind entries (settleEntries? entries)
  | .tables elements => (settleElements? elements).map .array

/-- The values of an array, settled. -/
def settleItems? : List Node → Option (List Node)
  | [] => some []
  | n :: ns => do return (← n.settle?) :: (← settleItems? ns)

/-- The values of a table, settled. -/
def settleEntries? : List (String × Node) → Option (List (String × Node))
  | [] => some []
  | (key, n) :: rest => do return (key, ← n.settle?) :: (← settleEntries? rest)

/-- Tables that were opened under one key, settled. -/
def settleElements? : List (List (String × Node)) → Option (List Node)
  | [] => some []
  | t :: ts => do
    return (← settledTable? .opened t (settleEntries? t)) :: (← settleElements? ts)

end

end Toml
end ScriptedChat
