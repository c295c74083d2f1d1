import ScriptedChat.Disk
import ScriptedChat.Keyed
import ScriptedChat.Text.Alphanumeric

/-!
# The environment

A program is started with variables.  A file in the directory in which it is started may
add to them, but does not change those that are there.

## The file

Each line assigns a text to a name:

```
# a comment
NAME=plain text up to a blank   # a comment
export OTHER='nothing is special between these'
THIRD="with \" and $NAME"
```

A line that is left open --- by a quote, a backslash or a blank at its end --- goes on in
the next one.  The first line that is not well formed, or is no text at all, ends the
reading; what was assigned before it stays.

* `Variables`: the variables by name.
* `physicalLines`, `logicalLines`: the lines of the file.
* `readAssignment?`, `readValue?`: the parts of a line.
* `load`: the variables after the file has been read.
* `resolveToken`: the token of a bot.
-/

namespace ScriptedChat

/-- The variables by name. -/
abbrev Variables := List (String × String)

namespace Environment

open Text (isAlphanumeric isBlank trimStart trimEnd)

/-! ## Lines -/

/-- How far a line is open. -/
inductive Opening where
  | closed
  | blank
  | escape
  /-- In single quotes, and directly after a backslash in them. -/
  | strong (escape : Bool)
  /-- In double quotes, and directly after a backslash in them. -/
  | weak (escape : Bool)
  deriving DecidableEq, Repr

/-- What a character outside of quotes does. -/
def Opening.start (c : Char) : Opening :=
  if c = '\\' then .escape
  else if c = '"' then .weak false
  else if c = '\'' then .strong false
  else .closed

/-- What a character does to a line that is open so far. -/
def Opening.next (o : Opening) (c : Char) : Opening :=
  match o with
  | .closed => if isBlank c ∧ c ≠ '\n' ∧ c ≠ '\r' then .blank else .start c
  | .blank => .start c
  | .escape => .closed
  | .strong true => .strong false
  | .strong false => if c = '\\' then .strong true else if c = '\'' then .closed else .strong false
  | .weak true => .weak false
  | .weak false => if c = '\\' then .weak true else if c = '"' then .closed else .weak false

/-- The part of a line before a comment, and how far it is open then.  A comment follows a
blank, and closes the line. -/
def scan : Opening → List Char → List Char × Option Opening
  | o, [] => ([], some o)
  | o, c :: s =>
    if o = .blank ∧ c = '#' then ([], none)
    else
      let (line, rest) := scan (o.next c) s
      (c :: line, rest)

/-- The text without the line end at its end. -/
def dropLineEnd (s : List Char) : List Char :=
  if s.getLast? = some '\n' then Text.dropSuffix '\r' s.dropLast else s

/-- The byte that ends a line. -/
def lineFeed : UInt8 := 10

/-- The lines of a file in bytes, each with its line end. -/
def byteLines : List UInt8 → List (List UInt8)
  | [] => []
  | b :: s =>
    if b = lineFeed then [b] :: byteLines s
    else
      match byteLines s with
      | [] => [[b]]
      | l :: ls => (b :: l) :: ls

/-- The lines of a file, each with its line end.  There is nothing in the place of a line
that is no text.  No character but the line end has the byte of the line end in it, so that
lines can be cut before they are read. -/
def physicalLines (content : List UInt8) : List (Option (List Char)) :=
  (byteLines content).map fun l =>
    (String.fromUTF8? (ByteArray.mk l.toArray)).map String.toList

/-- The lines of a file, where a line that is left open goes on in the next one.  There is
nothing in the place of a line that is no text, and at the end in that of a line that is
open still. -/
def logicalLines : List Char → Opening → List (Option (List Char)) → List (Option (List Char))
  | _, o, [] => if o = .closed then [] else [none]
  | _, _, none :: ls => none :: logicalLines [] .closed ls
  | before, o, some l :: ls =>
    if (trimStart (before ++ l)).head? = some '#' then some [] :: logicalLines [] .closed ls
    else
      match scan o l with
      | (line, none) => some (before ++ line) :: logicalLines [] .closed ls
      | (_, some .closed) => some (dropLineEnd (before ++ l)) :: logicalLines [] .closed ls
      | (_, some o) => logicalLines (before ++ l) o ls

/-! ## Values -/

/-- How far a name that is to be replaced has been read. -/
inductive Naming where
  | outside
  /-- After a dollar sign. -/
  | bare (name : List Char)
  /-- After a dollar sign and a brace. -/
  | braced (name : List Char)
  deriving DecidableEq, Repr

/-- Where a character of a value stands. -/
inductive Place where
  | plain
  /-- In single quotes. -/
  | strong
  /-- In double quotes. -/
  | weak
  /-- After the end of the value. -/
  | ending
  deriving DecidableEq, Repr

/-- What an escape stands for. -/
def escaped? (c : Char) : Option Char :=
  if c = 'n' then some '\n'
  else if c = '\\' ∨ c = '\'' ∨ c = '"' ∨ c = '$' ∨ c = ' ' then some c
  else none

/-- What a character does outside of single quotes and escapes, and where the next one
stands. -/
def readPlain (place : Place) (c : Char) : List Char × Place × Bool :=
  match place with
  | .weak =>
    if c = '"' then ([], .plain, false)
    else if c = '\\' then ([], .weak, true)
    else ([c], .weak, false)
  | place =>
    if c = '\'' then ([], .strong, false)
    else if c = '"' then ([], .weak, false)
    else if c = '\\' then ([], place, true)
    else if c = ' ' ∨ c = '\t' then ([], .ending, false)
    else ([c], place, false)

/-- Reads a value on.  `value` tells what a name stands for, and `escape` that a backslash
came just before. -/
def readValue? (value : List Char → List Char) :
    Place → Naming → Bool → List Char → Option (List Char)
  | place, .outside, _, [] => if place = .strong ∨ place = .weak then none else some []
  | place, .bare name, _, [] =>
    if place = .strong ∨ place = .weak then none else some (value name)
  | _, .braced _, _, [] => none
  | place, ref, escape, c :: s =>
    if place = .ending then
      if c = ' ' ∨ c = '\t' then readValue? value .ending ref false s
      else if c = '#' then
        match ref with
        | .outside => some []
        | .bare name => some (value name)
        | .braced _ => none
      else none
    else if escape then do
      let e ← escaped? c
      return e :: (← readValue? value place ref false s)
    else if place = .strong then
      if c = '\'' then readValue? value .plain ref false s
      else do return c :: (← readValue? value .strong ref false s)
    else
      match ref with
      | .bare name =>
        if isAlphanumeric c then readValue? value place (.bare (name ++ [c])) false s
        else if c = '\x7b' ∧ name = [] then readValue? value place (.braced []) false s
        else if c = '$' then do
          return value name ++ (← readValue? value place (.bare []) false s)
        else do return value name ++ c :: (← readValue? value place .outside false s)
      | .braced name =>
        if c = '\x7d' then do return value name ++ (← readValue? value place .outside false s)
        else readValue? value place (.braced (name ++ [c])) false s
      | .outside =>
        if c = '$' then readValue? value place (.bare []) false s
        else
          let (out, place, escape) := readPlain place c
          do return out ++ (← readValue? value place .outside escape s)

/-! ## Assignments -/

/-- Reads a name. -/
def readName? (s : List Char) : Option (List Char × List Char) :=
  match s with
  | c :: _ =>
    if c.isAlpha ∨ c = '_' then
      let isPart (d : Char) : Bool := d.isAlphanum || d == '_' || d == '.'
      some (s.takeWhile isPart, s.dropWhile isPart)
    else none
  | [] => none

/-- Takes an equals sign. -/
def readEquals? : List Char → Option (List Char)
  | '=' :: s => some s
  | _ => none

/-- Reads the name that a line assigns to, and what follows the equals sign.  The word
`export` may come before the name, and may be a name. -/
def readTarget? (s : List Char) : Option (List Char × List Char) := do
  let (name, s) ← readName? s
  let s := trimStart s
  match readEquals? s with
  | some s => return (name, trimStart s)
  | none =>
    guard (name = "export".toList)
    let (name, s) ← readName? s
    let s ← readEquals? (trimStart s)
    return (name, trimStart s)

/-- What a line assigns, if anything. -/
inductive Assignment where
  | nothing
  | assign (name value : String)
  deriving DecidableEq, Repr

/-- Reads a line. -/
def readAssignment? (value : List Char → List Char) (line : List Char) : Option Assignment :=
  let s := trimStart (trimEnd line)
  if s.isEmpty ∨ s.head? = some '#' then some .nothing
  else do
    let (name, s) ← readTarget? s
    let name := String.ofList name
    if s.isEmpty ∨ s.head? = some '#' then return .assign name ""
    else return .assign name (String.ofList (← readValue? value .plain .outside false s))

/-- The variables after some lines.  What a line refers to is a variable, or else was
assigned by an earlier line. -/
def readLines : Variables → Variables → List (Option (List Char)) → Variables
  | vars, _, [] => vars
  | vars, _, none :: _ => vars
  | vars, assigned, some line :: ls =>
    let value (name : List Char) : List Char :=
      let name := String.ofList name
      (((Keyed.find? name vars).orElse fun _ => Keyed.find? name assigned).getD "").toList
    match readAssignment? value line with
    | none => vars
    | some .nothing => readLines vars assigned ls
    | some (.assign name v) =>
      let vars := if (Keyed.find? name vars).isSome then vars else Keyed.insert name v vars
      readLines vars (Keyed.insert name v assigned) ls

/-- The name of the file. -/
def fileName : Path := ⟨".env"⟩

/-- The content without the mark that a text may start with. -/
def dropMark : List UInt8 → List UInt8
  | 0xEF :: 0xBB :: 0xBF :: s => s
  | s => s

/-- The variables after the file has been read, if there is one. -/
def load (d : Disk) (vars : Variables) : Variables :=
  match d.readBytes fileName with
  | .ok content =>
    readLines vars [] (logicalLines [] .closed (physicalLines (dropMark content.toList)))
  | .error _ => vars

/-! ## The token -/

/-- The name of the file of the token, in the directory of a bot. -/
def tokenName : String := ".token"

/-- The name of the variable of the token. -/
def tokenVariable : String := "TELEGRAM_BOT_TOKEN"

/-- The token of a bot: what is in its file, without the blanks around it, or else what the
variable says, if that is not empty. -/
def resolveToken (d : Disk) (directory : Path) (vars : Variables) : Option String :=
  let fromFile : Option String :=
    match d.readText (directory.join tokenName) with
    | .ok text =>
      let s := Text.trim text.toList
      if s.isEmpty then none else some (String.ofList s)
    | .error _ => none
  fromFile.orElse fun _ => (Keyed.find? tokenVariable vars).filter fun s => !s.isEmpty

end Environment

end ScriptedChat
