import ScriptedChat.Toml.DateTable

/-!
# TOML files

A file is read line by line.  A line is blank or holds a heading or an assignment, and may
end with a comment.  A value may go over several lines, if it is an array or a string that
allows it.

* `readKey?`, `readValue?`: the parts of a line.
* `Toml.ofText?`: the table of a file.
-/

namespace ScriptedChat
namespace Toml

/-- A character of a key without quotes. -/
def isKeyChar (c : Char) : Bool := c.isAlphanum || c == '-' || c == '_'

/-- Reads one part of a key. -/
def readKeyPart? : List Char → Option (String × List Char)
  | '"' :: s => (readBasic? s).map fun p => (String.ofList p.1, p.2)
  | '\'' :: s => (readLiteral? s).map fun p => (String.ofList p.1, p.2)
  | s =>
    match s.takeWhile isKeyChar with
    | [] => none
    | cs => some (String.ofList cs, s.dropWhile isKeyChar)

/-- Reads the parts of a key, which dots separate, with at most `fuel` of them.  Blanks
around a part do not count. -/
def readParts? : Nat → List Char → Option (List String × List Char)
  | 0, _ => none
  | fuel + 1, s => do
    let (part, s) ← readKeyPart? (s.dropWhile isGap)
    match s.dropWhile isGap with
    | '.' :: s =>
      let (parts, s) ← readParts? fuel s
      return (part :: parts, s)
    | s => return ([part], s)

/-- How deep keys and values may be nested. -/
def depthLimit : Nat := 80

/-- Reads a key: the path to a table, and the last part. -/
def readKey? (s : List Char) : Option (List String × String × List Char) := do
  let (parts, s) ← readParts? depthLimit s
  guard (parts.length < depthLimit)
  let last ← parts.getLast?
  return (parts.dropLast, last, s)

/-- Skips a comment up to the end of its line. -/
def skipComment (s : List Char) : List Char :=
  match s with
  | '#' :: s => s.dropWhile isPlain
  | s => s

/-- Skips blanks, line ends and comments, which may stand between the items of an
array. -/
def skipSpace : Bool → List Char → List Char
  | _, [] => []
  | _, '\n' :: s => skipSpace false s
  | _, '\r' :: '\n' :: s => skipSpace false s
  | true, c :: s => if isPlain c then skipSpace true s else c :: s
  | false, c :: s =>
    if isGap c then skipSpace false s else if c = '#' then skipSpace true s else c :: s

mutual

/-- Reads a value that may have `depth` more levels.  Each value, item and member takes one
of `fuel`. -/
def readValue? : Nat → Nat → List Char → Option (Node × List Char)
  | 0, _, _ => none
  | fuel + 1, depth, s =>
    match s with
    | '[' :: s =>
      match depth with
      | 0 => none
      | depth + 1 => (readItems? fuel depth (skipSpace false s)).map fun p => (.array p.1, p.2)
    | '\x7b' :: s =>
      match depth with
      | 0 => none
      | depth + 1 =>
        match s.dropWhile isGap with
        | '\x7d' :: s => some (.table .inline [], s)
        | s => readMembers? fuel depth [] s
    | '"' :: _ => (readString? s).map fun p => (.scalar (.text (String.ofList p.1)), p.2)
    | '\'' :: _ => (readString? s).map fun p => (.scalar (.text (String.ofList p.1)), p.2)
    | s => (readBare? s).map fun p => (.scalar p.1, p.2)

/-- Reads the items of an array up to and with its end. -/
def readItems? : Nat → Nat → List Char → Option (List Node × List Char)
  | 0, _, _ => none
  | fuel + 1, depth, s =>
    match s with
    | ']' :: s => some ([], s)
    | s => do
      let (v, s) ← readValue? fuel depth s
      match skipSpace false s with
      | ',' :: s =>
        let (vs, s) ← readItems? fuel depth (skipSpace false s)
        return (v :: vs, s)
      | ']' :: s => return ([v], s)
      | _ => none

/-- Reads the members of an inline table up to and with its end. -/
def readMembers? : Nat → Nat → Table → List Char → Option (Node × List Char)
  | 0, _, _, _ => none
  | fuel + 1, depth, t, s => do
    let (path, key, s) ← readKey? s
    let s ← readMark? '=' s
    let (v, s) ← readValue? fuel depth (s.dropWhile isGap)
    let t ← t.assign? path key v
    match s.dropWhile isGap with
    | ',' :: s => readMembers? fuel depth t s
    | '\x7d' :: s => return (.table .inline t, s)
    | _ => none

end

/-- Reads the end of a line, which may have a comment before it. -/
def readLineEnd? (s : List Char) : Option (List Char) :=
  match skipComment (s.dropWhile isGap) with
  | [] => some []
  | '\n' :: s => some s
  | '\r' :: '\n' :: s => some s
  | _ => none

/-- A file that has been read in part: its tables, and the path to the one that was opened
last. -/
structure Progress where
  root : Table
  current : List String

/-- Reads what a line starts with. -/
def readLine? (r : Progress) (s : List Char) : Option (Progress × List Char) :=
  match s with
  | '[' :: '[' :: s => do
    let (path, key, s) ← readKey? s
    let s ← readMark? ']' (← readMark? ']' s)
    return (⟨← r.root.openElement? path key, path ++ [key]⟩, s)
  | '[' :: s => do
    let (path, key, s) ← readKey? s
    let s ← readMark? ']' s
    return (⟨← r.root.open? path key, path ++ [key]⟩, s)
  | s => do
    let (path, key, s) ← readKey? s
    let s ← readMark? '=' s
    let (v, s) ← readValue? (s.length + 1) (depthLimit - 1) (s.dropWhile isGap)
    return ({ r with root := ← r.root.assignIn? r.current path key v }, s)

/-- Whether nothing but a comment is left of a line. -/
def isLineEnd : List Char → Bool
  | [] => true
  | c :: _ => c == '#' || c == '\n' || c == '\r'

/-- Reads the lines of a file, with at most `fuel` of them. -/
def readLines? : Nat → Progress → List Char → Option Progress
  | _, r, [] => some r
  | 0, _, _ :: _ => none
  | fuel + 1, r, s => do
    let s := s.dropWhile isGap
    if isLineEnd s then readLines? fuel r (← readLineEnd? s)
    else
      let (r, s) ← readLine? r s
      readLines? fuel r (← readLineEnd? s)

/-- The text without the mark that it may start with. -/
def dropMark : List Char → List Char
  | '\uFEFF' :: s => s
  | s => s

/-- The table of a file. -/
def ofText? (text : String) : Option Table :=
  let s := dropMark text.toList
  (readLines? s.length ⟨[], []⟩ s).bind fun r => settleEntries? r.root

end Toml
end ScriptedChat
