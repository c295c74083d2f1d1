import ScriptedChat.Console.Program

/-!
# The command line

Everything the program decides is in `Console.start`, a function of the arguments and the
surroundings.  What is left for this module is to gather the surroundings, and to bring
what comes out back to where it belongs.

## The network

There is no network here but one by script.  For the command `run` the script is read from
standard input: a JSON object with the members

* `now`, the time on the clock at the start, in milliseconds;
* `replies`, the replies of the service, by method;
* `interrupt_after`, how many requests are made before the interrupt.

The clock goes by the script, too: it jumps to the next moment at which something happens.
-/

namespace ScriptedChat
namespace Outside

open Console

/-- The variables that are looked at. -/
def variableNames : List String :=
  [ Environment.tokenVariable, LogFilter.variableName, Highlighting.offVariable
  , Highlighting.onVariable, "TZ", "HOME", "USER" ]

/-- The variables that are set. -/
def readVariables : IO Variables :=
  variableNames.filterMapM fun name => do
    return (← IO.getEnv name).map fun value => (name, value)

/-- Puts what is at a path outside on a disk, at the same path.  What cannot be read is left
out. -/
partial def copyIn (path : Path) (d : Disk) : IO Disk := do
  let place := (← IO.currentDir) / path.text
  try
    if ← place.isDir then
      (← place.readDir).foldlM (fun d e => copyIn (path.join e.fileName) d)
        (d.makeDirectories path).2
    else
      let content ← IO.FS.readBinFile place
      return ((d.makeDirectories path.parent).2.write path content).2
  catch _ => return d

/-- A disk with what a command may read, if there is one.  Where the scenario and the chats of
a bot are is known once its settings are there. -/
def readDisk : Option Command → IO Disk
  | none => return Disk.empty
  | some (.check scenario) => copyIn ⟨scenario⟩ Disk.empty
  | some (.status directory) => readDirectory ⟨directory⟩
  | some (.run directory _) => readDirectory ⟨directory⟩
where
  readDirectory (directory : Path) : IO Disk := do
    let d ← copyIn (directory.join Settings.fileName) Disk.empty
    let d ← copyIn (directory.join Environment.tokenName) d
    let settings := Settings.load d directory
    let d ← copyIn (directory.join settings.scenario) d
    copyIn (directory.join settings.history) d

/-- The path of a place, as seen from the directory that a path of the command starts
at. -/
def pathOf (lead : String) (p : Place) : String := lead ++ "/".intercalate p

/-- Brings the directories and files that are new or changed on a disk back outside. -/
def copyOut (lead : String) (old new : Disk) : IO Unit := do
  let top ← IO.currentDir
  for (p, e) in new.entries.reverse do
    let place := top / pathOf lead p
    match e, old.entry? p with
    | .directory, none => IO.FS.createDirAll place
    | .file content, some (.file before) =>
      unless before.data = content.data do IO.FS.writeBinFile place content
    | .file content, _ => IO.FS.writeBinFile place content
    | _, _ => pure ()

/-- The member of a script that is a number. -/
def number (v : Json) (name : String) : Int := ((v.field? name).bind Json.asInt?).getD 0

/-- What the script on standard input says, which only the command `run` needs. -/
def readScript : Option Command → IO Json
  | some (.run _ _) => do return (Json.ofText? (← (← IO.getStdin).readToEnd)).getD .null
  | _ => return .null

/-- The surroundings of a command, or of arguments that say nothing to be done. -/
def surroundings (command : Option Command) : IO Surroundings := do
  let known ← readVariables
  let disk ← copyIn Environment.fileName (← readDisk command)
  let script ← readScript command
  let zone := (Keyed.find? "TZ" known).bind Calendar.Zone.ofText?
  return {
    now := number script "now"
    zone := zone.getD Calendar.Zone.universal
    disk
    known
    network := Telegram.Script.ofJson ((script.field? "replies").getD .null)
    interruptAfter := (number script "interrupt_after").toNat }

/-- What the paths of a command start with, if they start at the top of all files. -/
def leadOf : Option Command → String
  | none => ""
  | some (.check path) => lead path
  | some (.status path) => lead path
  | some (.run path _) => lead path
where
  lead (path : String) : String := if path.startsWith "/" then "/" else ""

end Outside
end ScriptedChat

open ScriptedChat in
/-- Does what the arguments say. -/
def main (args : List String) : IO UInt32 := do
  let command := match Console.Arguments.ofList args with
    | .ok a => some a.command
    | .error _ => none
  let u ← Outside.surroundings command
  let (outcome, disk, _) := Console.start u args
  Outside.copyOut (Outside.leadOf command) u.disk disk
  IO.print outcome.stdout
  IO.eprint outcome.stderr
  return outcome.exit.toUInt32
