import ScriptedChat.Text.Blank

/-!
# Durations

A script writes a duration as a run of `<digits><unit>` groups, such as `2h30m`, with
units `d`, `h`, `m` and `s`.  Groups may be spread over several words, and words that are
no run of groups are skipped, so a whole label annotation such as `unread 10m` can be
read as a duration.

A duration is a number of seconds below `2 ^ 64`.  What would be longer is `longest`: the
arithmetic below never leaves that range, however many digits, groups or words there are.

* `wordSeconds`: the seconds of one word, if it is a run of groups.
* `Duration.ofText`: the seconds of a text.
-/

namespace ScriptedChat
namespace Duration

open Text (words)

/-- The longest duration, in seconds. -/
def longest : Nat := 0xFFFFFFFFFFFFFFFF

/-- Addition that stays at `longest` instead of passing it. -/
def plus (a b : Nat) : Nat := min longest (a + b)

/-- Multiplication that stays at `longest` instead of passing it. -/
def times (a b : Nat) : Nat := min longest (a * b)

/-- The seconds of one unit. -/
def unitSeconds : Char → Option Nat
  | 'd' => some 86400
  | 'h' => some 3600
  | 'm' => some 60
  | 's' => some 1
  | _ => none

/-- The value of a decimal digit. -/
def digit? (c : Char) : Option Nat :=
  if '0' ≤ c ∧ c ≤ '9' then some (c.toNat - '0'.toNat) else none

/-- Reads a word on from `total` seconds and the digits of an unfinished group.  A group
without digits, a letter that is no unit and digits without a unit all make the word
unreadable. -/
def readGroups (total : Nat) : Option Nat → List Char → Option Nat
  | none, [] => some total
  | some _, [] => none
  | number, c :: s =>
    match digit? c with
    | some d => readGroups total (some (plus (times (number.getD 0) 10) d)) s
    | none =>
      match number, unitSeconds c with
      | some n, some u => readGroups (plus total (times n u)) none s
      | _, _ => none

/-- The seconds of a word, if it is a run of groups. -/
def wordSeconds (w : List Char) : Option Nat := readGroups 0 none w

/-- The seconds a text stands for.  Words that are no duration add nothing. -/
def ofChars (s : List Char) : Nat := ((words s).filterMap wordSeconds).foldl plus 0

/-- The seconds a text stands for. -/
def ofText (s : String) : Nat := ofChars s.toList

end Duration
end ScriptedChat
