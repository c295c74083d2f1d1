import ScriptedChat.Text.Split

/-!
# Files

The files a bot works on are a tree of directories.  It is kept flat: a list of entries,
each under the names that lead to it.  The top directory has no entry and is always there.

## Paths

A path is a text.  It is cut into names at its slashes; a slash at the end asks for a
directory and counts as the name `.`, except where a directory is made.  Walking along the
names goes through directories only, and `..` goes one up.  Neither a name nor a path may be
too long.

## Writing that fails

A write can fail for what is in its way: a missing directory, a file where a directory
has to be.  It can also fail because the disk refuses it.  Which writes will be refused
is part of the disk (`refusals`), so that what happens then can be spoken about; a file
that was being written then holds the first bytes of its new content.

* `IoError`: why an operation failed, and `message`.
* `Path`, `Disk`: paths and disks.
* `Disk.readBytes`, `readText`, `list`: what is there.
* `Disk.makeDirectories`, `write`, `append`, `rename`, `remove`: changes.
-/

namespace ScriptedChat

/-- Why an operation on files failed. -/
inductive IoError where
  | notFound
  | notDirectory
  | isDirectory
  | alreadyExists
  | nameTooLong
  | nulInName
  | notText
  | noSpace
  deriving DecidableEq, Repr

/-- What is said about a failure. -/
def IoError.message : IoError → String
  | notFound => "No such file or directory (os error 2)"
  | notDirectory => "Not a directory (os error 20)"
  | isDirectory => "Is a directory (os error 21)"
  | alreadyExists => "File exists (os error 17)"
  | nameTooLong => "File name too long (os error 36)"
  | nulInName => "file name contained an unexpected NUL byte"
  | notText => "stream did not contain valid UTF-8"
  | noSpace => "No space left on device (os error 28)"

/-! ## Paths -/

/-- A path as it is written. -/
structure Path where
  text : String
  deriving DecidableEq, Repr

namespace Path

/-- The path of something in a directory.  A path that starts at the top stays as it
is. -/
def join (p : Path) (s : String) : Path :=
  if s.startsWith "/" then ⟨s⟩
  else if p.text.isEmpty || p.text.endsWith "/" then ⟨p.text ++ s⟩
  else ⟨p.text ++ "/" ++ s⟩

/-- The parts of a path between its slashes. -/
def parts (p : Path) : List String := (Text.pieces ['/'] p.text.toList).map String.ofList

/-- The path that has some parts. -/
def ofParts (parts : List String) : Path :=
  ⟨String.ofList (Text.joinWith ['/'] (parts.map String.toList))⟩

/-- A part that leads nowhere. -/
def isIdle (part : String) : Bool := part == "" || part == "."

/-- Parts without those at their end that lead nowhere. -/
def dropIdleEnd (parts : List String) : List String := (parts.reverse.dropWhile isIdle).reverse

/-- The path of the directory that something is in.  Parts at the end that lead nowhere do
not count; one at the start does. -/
def parent (p : Path) : Path :=
  match p.parts with
  | [] => ⟨""⟩
  | first :: more =>
    match dropIdleEnd more with
    | [] => ⟨""⟩
    | more =>
      match dropIdleEnd more.dropLast with
      | [] => ⟨if first = "" then "/" else first⟩
      | more => ofParts (first :: more)

/-- The names of a path. -/
def names (p : Path) : List String := p.parts.filter fun n => n ≠ ""

/-- The names that are walked along, with one more for a slash at the end. -/
def steps (p : Path) : List String :=
  let parts := p.parts
  if parts.length > 1 ∧ parts.getLast? = some "" then p.names ++ ["."] else p.names

end Path

/-! ## Disks -/

/-- What is at a place. -/
inductive Entry where
  | file (content : ByteArray)
  | directory
  deriving Inhabited

/-- Where something is: the names from the top directory on. -/
abbrev Place := List String

/-- A tree of files, and the writes that will be refused. -/
structure Disk where
  entries : List (Place × Entry)
  /-- One for each write to come: whether it is refused, and after how many bytes.  After
  these, none is. -/
  refusals : List (Option Nat)
  deriving Inhabited

namespace Disk

/-- An empty disk on which every write succeeds. -/
def empty : Disk := ⟨[], []⟩

/-- What is at a place. -/
def entry? (d : Disk) (p : Place) : Option Entry :=
  if p = [] then some .directory else (d.entries.find? (·.1 = p)).map (·.2)

/-- The disk with something at a place. -/
def put (d : Disk) (p : Place) (e : Entry) : Disk :=
  { d with entries := (p, e) :: d.entries.filter fun x => x.1 ≠ p }

/-- The disk with nothing at a place and below it. -/
def erase (d : Disk) (p : Place) : Disk :=
  { d with entries := d.entries.filter fun x => !p.isPrefixOf x.1 }

/-- The disk with nothing below a place. -/
def eraseBelow (d : Disk) (p : Place) : Disk :=
  { d with entries := d.entries.filter fun x => x.1 = p || !p.isPrefixOf x.1 }

/-- The longest name, in bytes. -/
def longestName : Nat := 255

/-- Goes from a directory to what one name in it leads to.  The result is a place; there
need be nothing at it. -/
def enter (d : Disk) (p : Place) (name : String) : Except IoError Place :=
  match d.entry? p with
  | none => .error .notFound
  | some (.file _) => .error .notDirectory
  | some .directory =>
    if name = "." then .ok p
    else if name = ".." then .ok p.dropLast
    else if longestName < name.utf8ByteSize then .error .nameTooLong
    else .ok (p ++ [name])

/-- The longest path, in bytes. -/
def longestPath : Nat := 4095

/-- The place that some names of a path lead to. -/
def walk (d : Disk) (p : Path) (names : List String) : Except IoError Place :=
  if p.text.toList.contains '\x00' then .error .nulInName
  else if p.text.isEmpty then .error .notFound
  else if longestPath < p.text.utf8ByteSize then .error .nameTooLong
  else names.foldlM d.enter []

/-- The place that a path leads to. -/
def locate (d : Disk) (p : Path) : Except IoError Place := d.walk p p.steps

/-- What a path leads to. -/
def lookup (d : Disk) (p : Path) : Except IoError Entry := do
  match d.entry? (← d.locate p) with
  | some e => .ok e
  | none => .error .notFound

/-- Whether a path leads to a directory. -/
def isDirectory (d : Disk) (p : Path) : Bool :=
  match d.lookup p with
  | .ok .directory => true
  | _ => false

/-! ## Reading -/

/-- The content of a file. -/
def readBytes (d : Disk) (p : Path) : Except IoError ByteArray := do
  match ← d.lookup p with
  | .file content => .ok content
  | .directory => .error .isDirectory

/-- The content of a file that is text. -/
def readText (d : Disk) (p : Path) : Except IoError String := do
  match String.fromUTF8? (← d.readBytes p) with
  | some s => .ok s
  | none => .error .notText

/-- The names in a directory, and what each one leads to, in no particular order. -/
def list (d : Disk) (p : Path) : Except IoError (List (String × Entry)) := do
  let place ← d.locate p
  match d.entry? place with
  | none => .error .notFound
  | some (.file _) => .error .notDirectory
  | some .directory =>
    .ok (d.entries.filterMap fun x =>
      match x.1.getLast? with
      | some name => if x.1 = place ++ [name] then some (name, x.2) else none
      | none => none)

/-! ## Writing

Every operation gives the disk it leaves behind, also when it fails. -/

/-- Whether the next write is refused, and the disk after that is known. -/
def nextRefusal (d : Disk) : Option Nat × Disk :=
  match d.refusals with
  | [] => (none, d)
  | r :: rs => (r, { d with refusals := rs })

/-- Makes one directory, in one that is there.  A slash at the end does not count. -/
def makeDirectory (d : Disk) (p : Path) : Except IoError Unit × Disk :=
  match d.walk p p.names with
  | .error e => (.error e, d)
  | .ok place =>
    match d.entry? place with
    | some _ => (.error .alreadyExists, d)
    | none =>
      match d.nextRefusal with
      | (none, d) => (.ok (), d.put place .directory)
      | (some _, d) => (.error .noSpace, d)

/-- The result of making a directory, which is no failure if the directory is there. -/
def unlessThere (p : Path) : Except IoError Unit × Disk → Except IoError Unit × Disk
  | (.ok (), d) => (.ok (), d)
  | (.error e, d) => (if d.isDirectory p then .ok () else .error e, d)

/-- Makes a directory and at most `fuel` of those it is in.  Where the directory around it is
missing, that one is made first, and then this one is tried again. -/
def makeUpTo : Nat → Path → Disk → Except IoError Unit × Disk
  | 0, _, d => (.ok (), d)
  | fuel + 1, p, d =>
    if p.text.isEmpty then (.ok (), d)
    else
      match d.makeDirectory p with
      | (.error .notFound, d) =>
        match makeUpTo fuel p.parent d with
        | (.ok (), d) => unlessThere p (d.makeDirectory p)
        | (.error e, d) => (.error e, d)
      | result => unlessThere p result

/-- Makes a directory and those it is in. -/
def makeDirectories (d : Disk) (p : Path) : Except IoError Unit × Disk :=
  makeUpTo (p.names.length + 1) p d

/-- The place of a file that can be written at a path, and what is in it now. -/
def target (d : Disk) (p : Path) : Except IoError (Place × ByteArray) := do
  let place ← d.locate p
  match d.entry? place with
  | some (.file content) => .ok (place, content)
  | some .directory => .error .isDirectory
  | none =>
    match d.entry? place.dropLast with
    | some .directory => .ok (place, ByteArray.empty)
    | some (.file _) => .error .notDirectory
    | none => .error .notFound

/-- Puts `new` after `old` into the file at a place, as far as the disk accepts it. -/
def store (d : Disk) (p : Place) (old new : ByteArray) : Except IoError Unit × Disk :=
  match d.nextRefusal with
  | (none, d) => (.ok (), d.put p (.file (old ++ new)))
  | (some n, d) => (.error .noSpace, d.put p (.file (old ++ new.extract 0 n)))

/-- Gives a file a new content. -/
def write (d : Disk) (p : Path) (content : ByteArray) : Except IoError Unit × Disk :=
  match d.target p with
  | .error e => (.error e, d)
  | .ok (place, _) => d.store place ByteArray.empty content

/-- Adds to the end of a file. -/
def append (d : Disk) (p : Path) (content : ByteArray) : Except IoError Unit × Disk :=
  match d.target p with
  | .error e => (.error e, d)
  | .ok (place, old) => d.store place old content

/-- Gives a file another name.  A file of that name is replaced at once. -/
def rename (d : Disk) (source dest : Path) : Except IoError Unit × Disk :=
  let plan : Except IoError (Place × Place × Entry) := do
    let s ← d.locate source
    let (t, _) ← d.target dest
    match d.entry? s with
    | some (.file content) => .ok (s, t, .file content)
    | some .directory => .error .isDirectory
    | none => .error .notFound
  match plan with
  | .error e => (.error e, d)
  | .ok (s, t, e) =>
    match d.nextRefusal with
    | (none, d) => (.ok (), (d.erase s).put t e)
    | (some _, d) => (.error .noSpace, d)

/-- Removes a file, or a directory with all that is in it.  A directory that the path does not
end with the name of is only emptied. -/
def remove (d : Disk) (p : Path) : Disk :=
  match d.locate p with
  | .error _ => d
  | .ok place =>
    match p.names.getLast? with
    | some name => if name = "." ∨ name = ".." then d.eraseBelow place else d.erase place
    | none => d.eraseBelow place

/-- The files of the disk. -/
def files (d : Disk) : List (Place × ByteArray) :=
  d.entries.filterMap fun x =>
    match x.2 with
    | .file content => some (x.1, content)
    | .directory => none

end Disk

end ScriptedChat
