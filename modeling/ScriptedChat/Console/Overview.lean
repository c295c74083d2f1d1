import ScriptedChat.Console.Report
import ScriptedChat.Console.Settings

/-!
# What is there

Two commands look and do nothing: `check` shows what is in a scenario, and `status` lists
the chats of a bot.

* `showScenario`, `check`.
* `showChats`, `status`.
-/

namespace ScriptedChat
namespace Console

/-- A text with blanks after it, so that it has at least `width` characters. -/
def padTo (width : Nat) (s : String) : String :=
  s ++ String.ofList (List.replicate (width - s.length) ' ')

/-- A line with its end. -/
def line (s : String) : String := s ++ "\n"

/-! ## Scenarios -/

/-- The text with two blanks before every line but the first. -/
def indentLines (s : String) : String := indent "" "  " s

/-- What is said about a step in brackets. -/
def tags (s : Step) : List String :=
  match s.cue with
  | .none => []
  | .immediate => ["entry"]
  | .dated m => ["scheduled " ++ m.toText]

/-- The lines about a step. -/
def showStep (s : Step) : String :=
  let heading :=
    if (tags s).isEmpty then "    " ++ s.id
    else "    " ++ s.id ++ " [" ++ ", ".intercalate (tags s) ++ "]"
  let buttons :=
    if s.buttons.isEmpty then "" else line ("      buttons: " ++ " | ".intercalate s.buttons)
  let delayed := s.delayedActions.map fun a =>
    line ("      after " ++ toString a.delay ++ "s: " ++ a.target)
  line heading ++ buttons ++ String.join delayed

/-- The lines about a scenario. -/
def showScenario (s : Scenario) : String :=
  let description :=
    if s.description.isEmpty then "" else line ("  " ++ indentLines s.description)
  let menu :=
    if s.menu.isEmpty then ""
    else
      line "  Menu:"
        ++ String.join (s.menu.map fun item =>
          line ("    " ++ padTo 16 item.command ++ " " ++ item.description))
        ++ line ""
  line "" ++ line ("  Scenario: " ++ s.name) ++ description ++ line "" ++ menu
    ++ line ("  Steps (" ++ toString s.steps.length ++ ", entry: " ++ s.entry.id ++ "):")
    ++ String.join (s.steps.map showStep) ++ line ""

/-- Shows the scenario in a file. -/
def check (zone : Calendar.Zone) (d : Disk) (path : Path) : Except Failure String :=
  match d.readText path with
  | .error e => .error ⟨"failed to read " ++ path.text, [e.message]⟩
  | .ok text =>
    match Scenario.ofText zone text with
    | .error e => .error ⟨"failed to parse " ++ path.text, [e.message]⟩
    | .ok s => .ok (showScenario s)

/-! ## Chats -/

/-- A line of the table of chats. -/
def row (chat step ref active timers : String) : String :=
  line ("  " ++ padTo 16 chat ++ " " ++ padTo 16 step ++ " " ++ padTo 12 ref ++ " "
    ++ padTo 8 active ++ " " ++ timers)

/-- The line of a chat: its record, or why there is none. -/
def showChat (chat : String) : Except StoreError ChatRecord → String
  | .ok r =>
    let pending := (r.timers.filter fun t => !t.done).length
    row r.chatId (r.stepId.getD "-") (r.refId.getD "-") (if r.active then "yes" else "no")
      (toString pending ++ "/" ++ toString r.timers.length)
  | .error e => line ("  " ++ padTo 16 chat ++ " unreadable: " ++ e.message)

/-- The table of the chats of a store. -/
def showChats (s : Store) (d : Disk) (chats : List String) : String :=
  line "" ++ row "CHAT" "STEP" "REF" "ACTIVE" "TIMERS"
    ++ String.join (chats.map fun chat => showChat chat (s.load chat d))
    ++ line "" ++ line ("  " ++ toString chats.length ++ " chat(s)")

/-- Lists the chats of a bot. -/
def status (d : Disk) (directory : Path) : Except Failure String :=
  let history := directory.join (Settings.load d directory).history
  if !d.isDirectory history then
    .ok (line ("  No chats yet (" ++ history.text ++ " does not exist)."))
  else
    let s : Store := ⟨history⟩
    match s.chats d with
    | .ok chats => .ok (showChats s d chats)
    | .error e => .error ⟨"failed to list chats", storeCauses e⟩

end Console
end ScriptedChat
