import ScriptedChat.Console.Arguments
import ScriptedChat.Console.Environment

/-!
# Log filters

What is logged is said by *directives* with commas between them.  A directive is a level, or
names what it is about and then may give a level:

```
info
target
target=debug
[span]
target[span{field=value}]=trace
```

A variable may hold a filter, which counts if all its directives are well formed.  Otherwise
the log level of the command line is the filter; of that one, every directive that is not well
formed is ignored, and the user is told so.

## How a directive is read

Character by character, through the parts that can follow each other (`Part`).  Blanks around
a directive do not count for its parts.  Its level, however, is cut out of the text with all its
blanks, at the place that it has without those at the start.

* `DirectiveError`, `directiveError?`: what is wrong with a directive.
* `LogFilter.warnings`: what the user is told about a filter.
* `LogFilter.report`: the same for the one that counts.
-/

namespace ScriptedChat
namespace Console

/-- What is wrong with a directive. -/
inductive DirectiveError where
  | malformed
  /-- What should be a level is none. -/
  | badLevel
  deriving DecidableEq, Repr

/-- What is said about it. -/
def DirectiveError.message : DirectiveError → String
  | malformed => "invalid filter directive"
  | badLevel =>
    "error parsing level filter: expected one of \"off\", \"error\", \"warn\", \"info\", "
      ++ "\"debug\", \"trace\", or a number 0-5"

/-- The names of the levels. -/
def levelNames : List String := ["off", "error", "warn", "info", "debug", "trace"]

/-- Whether a text is a level: a name in any case, or a number. -/
def isLevel (s : String) : Bool :=
  levelNames.contains (String.ofList (s.toList.map Char.toLower))
    || (readCount? s).any fun n => decide (n < levelNames.length)

/-- The parts of a directive before its level. -/
inductive Part where
  | start
  /-- A level or a target. -/
  | word
  | span
  /-- A field, of which something has been read or nothing. -/
  | field (isEmpty : Bool)
  /-- After the fields. -/
  | fields
  /-- After a span. -/
  | spanEnd
  deriving DecidableEq, Repr

namespace Part

/-- A character that a level or a target may start with. -/
def startsWord (c : Char) : Bool :=
  c == '-' || c == ':' || c == '_' || Text.isAlphanumeric c

/-- The part after a character that does not begin the level. -/
def next? : Part → Char → Option Part
  | start, c => if c = '[' then some span else if startsWord c then some word else none
  | word, c => some (if c = '[' then span else word)
  | span, c => some (if c = ']' then spanEnd else if c = '\x7b' then field true else span)
  | field isEmpty, c =>
    if c = '\x7d' then (if isEmpty then none else some fields) else some (field false)
  | fields, c => if c = ']' then some spanEnd else none
  | spanEnd, _ => none

/-- Whether an equals sign begins the level. -/
def mayHaveLevel : Part → Bool
  | word => true
  | spanEnd => true
  | _ => false

/-- Whether a directive may end, without a level. -/
def mayEnd : Part → Bool := mayHaveLevel

end Part

/-- Where the level of a directive starts, if there is one, when reading goes on at some
place, or nothing if the directive is malformed. -/
def findLevel? : Part → Nat → List Char → Option (Option Nat)
  | part, _, [] => if part.mayEnd then some none else none
  | part, place, c :: s =>
    if c = '=' ∧ part.mayHaveLevel then some (some (place + 1))
    else (part.next? c).bind fun part => findLevel? part (place + 1) s

/-- What is wrong with a directive.  A level may be left out, also after an equals sign. -/
def directiveError? (directive : String) : Option DirectiveError :=
  match findLevel? .start 0 (Text.trim directive.toList) with
  | none => some .malformed
  | some none => none
  | some (some place) =>
    let level := String.ofList (directive.toList.drop place)
    if level.isEmpty || isLevel level then none else some .badLevel

namespace LogFilter

/-- The variable of the filter. -/
def variableName : String := "RUST_LOG"

/-- The directives of a filter.  Empty ones do not count. -/
def directives (filter : String) : List String :=
  ((Text.pieces [','] filter.toList).map String.ofList).filter fun s => !s.isEmpty

/-- Whether all directives of a filter are well formed. -/
def isWellFormed (filter : String) : Bool :=
  (directives filter).all fun s => (directiveError? s).isNone

/-- What the user is told about the directives of a filter that are ignored. -/
def warnings (filter : String) : String :=
  String.join ((directives filter).filterMap fun s =>
    (directiveError? s).map fun e => "ignoring `" ++ s ++ "`: " ++ e.message ++ "\n")

/-- What the user is told, with some variables and a log level of the command line. -/
def report (vars : Variables) (logLevel : String) : String :=
  if (Keyed.find? variableName vars).any isWellFormed then "" else warnings logLevel

theorem warnings_of_isWellFormed {filter : String} (h : isWellFormed filter = true) :
    warnings filter = "" := by
  have hnil : (directives filter).filterMap (fun s =>
      (directiveError? s).map fun e => "ignoring `" ++ s ++ "`: " ++ e.message ++ "\n") = [] := by
    rw [List.filterMap_eq_nil_iff]
    intro s hs
    have := List.all_eq_true.1 h s hs
    simp [Option.isNone_iff_eq_none.1 this]
  simp [warnings, hnil]

end LogFilter

end Console
end ScriptedChat
