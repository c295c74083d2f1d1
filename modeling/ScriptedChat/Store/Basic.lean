import ScriptedChat.Store.Record
import ScriptedChat.Disk
import ScriptedChat.Calendar.Layout
import ScriptedChat.Text.Quoted

/-!
# The store

Every chat has a directory of its own below the root of the store, named by the chat's
id.  It holds two files:

* `state.json`, the chat's record;
* `messages.log`, what was said, one line after the other, each with the second at which
  it was written.

## Replacing a record

A record is never written in place.  The new one is written to `state.json.tmp`, which
then takes the name of the old one, so that whoever reads `state.json` finds a whole
record at any time, whatever happens on the way.

## Ids

An id that is no plain name of a directory is refused before anything is touched: the
empty one, those that lead out of the directory, and those with a separator or a null
character in them.

* `Store.load`, `save`, `appendLog`, `chats`: what can be done.
* `StoreError`, `StoreError.message`, `StoreError.cause?`: why it was not done.
-/

namespace ScriptedChat

/-- Why the store did not do something. -/
inductive StoreError where
  /-- The files could not be read or written. -/
  | io (path : Path) (cause : IoError)
  /-- The text of a record is no record. -/
  | malformed (text : String)
  /-- There is no record. -/
  | notFound (chat : String)
  /-- The id cannot be the name of a directory. -/
  | invalidChatId (chat : String)
  deriving DecidableEq, Repr

namespace StoreError

/-- What is said about a store error. -/
def message : StoreError → String
  | io path cause => "io error at " ++ path.text ++ ": " ++ cause.message
  | malformed text => "json error: " ++ ChatRecord.fault text
  | notFound chat => "no state record for chat " ++ chat
  | invalidChatId chat => "invalid chat id: " ++ Text.quoted chat

/-- What is behind a store error, if something is. -/
def cause? : StoreError → Option String
  | io _ cause => some cause.message
  | malformed text => some (ChatRecord.fault text)
  | _ => none

end StoreError

/-- What can fail with a store error, and changes the disk in any case. -/
abbrev DiskAction (α : Type) : Type := ExceptT StoreError (StateM Disk) α

/-- A store: the directory that the directories of the chats are in. -/
structure Store where
  root : Path
  deriving DecidableEq, Repr

namespace Store

/-- The name of the file of the record. -/
def recordName : String := "state.json"

/-- The name under which a record is written before it takes the place of the old one. -/
def draftName : String := "state.json.tmp"

/-- The name of the file of what was said. -/
def logName : String := "messages.log"

/-- Whether an id can be the name of a directory. -/
def isValidId (chat : String) : Bool :=
  !(chat == "" || chat == "." || chat == ".."
    || chat.toList.any fun c => c == '/' || c == '\\' || c == '\x00')

/-- The directory of a chat. -/
def directory (s : Store) (chat : String) : Except StoreError Path :=
  if isValidId chat then .ok (s.root.join chat) else .error (.invalidChatId chat)

/-- Does something with the disk, for a path that an error is about. -/
def attempt (path : Path) (op : Disk → Except IoError Unit × Disk) : DiskAction Unit :=
  ExceptT.mk fun d =>
    match op d with
    | (.ok (), d) => (.ok (), d)
    | (.error e, d) => (.error (.io path e), d)

/-- Opens a store, and makes its root if it is not there. -/
def «open» (root : Path) : DiskAction Store := do
  attempt root (·.makeDirectories root)
  return { root }

/-- The ids of the chats with a directory, in order. -/
def chats (s : Store) (d : Disk) : Except StoreError (List String) :=
  match d.list s.root with
  | .error e => .error (.io s.root e)
  | .ok entries =>
    .ok
      ((entries.filterMap fun x =>
          match x.2 with
          | .directory => some x.1
          | .file _ => none).mergeSort fun a b => decide (a ≤ b))

/-- The record of a chat. -/
def load (s : Store) (chat : String) (d : Disk) : Except StoreError ChatRecord := do
  let path := (← s.directory chat).join recordName
  match d.readText path with
  | .ok text =>
    match ChatRecord.ofText? text with
    | some r => .ok r
    | none => .error (.malformed text)
  | .error .notFound => .error (.notFound chat)
  | .error e => .error (.io path e)

/-- Keeps a record in the place of the one there was. -/
def save (s : Store) (r : ChatRecord) : DiskAction Unit := do
  let dir ← s.directory r.chatId
  attempt dir (·.makeDirectories dir)
  let draft := dir.join draftName
  let path := dir.join recordName
  attempt draft (·.write draft r.toText.toUTF8)
  attempt path (·.rename draft path)

/-- A line of the log. -/
def logLine (now : Int) (text : String) : String :=
  String.ofList (Calendar.Moment.ofMillis now).writeSeconds ++ " " ++ text ++ "\n"

/-- Adds a line to the log of a chat. -/
def appendLog (s : Store) (chat : String) (now : Int) (text : String) : DiskAction Unit := do
  let dir ← s.directory chat
  attempt dir (·.makeDirectories dir)
  let path := dir.join logName
  attempt path (·.append path (logLine now text).toUTF8)

end Store

end ScriptedChat
