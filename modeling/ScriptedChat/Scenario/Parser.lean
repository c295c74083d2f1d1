import ScriptedChat.Scenario.Basic
import ScriptedChat.Calendar.Layout

/-!
# Reading a scenario

A script is a markdown text.  The marker `## Step ` cuts it into *blocks*; the first block
that is not blank describes the scenario as a whole, and every other one is a step:

```
# Onboarding                          the name
Walks new users through signup.       the description
+ /restart: Start over                an entry of the menu

## Step 1 (immediate)                 where a conversation starts
Welcome! Ready?
+ Yes: (2) Great.                     a button that leads to step 2
+ (unread 1h): (reminder)             a delayed action

## Step finale (2030-01-01 12:00)     shown to all chats at a moment
```

The first line of a block is its heading.  A line whose first characters that are no
blanks are `+ ` is an action, with its label before the first colon; every other line is
text.

## What is refused

Nothing is repaired.  An action without a colon, or with a target that opens a step id and
does not close it, ends the reading with the first such line (`ScenarioError`).  A script
without steps, or without a step to start at, is refused after that.  A step id or a label
that comes again takes the place of the earlier one.

* `readTarget`, `readAction`, `readHeading`, `readLine`, `readBlock`: the parts of a script.
* `Scenario.ofText`: a whole script.
-/

namespace ScriptedChat

open Text

/-- Why a script is no scenario. -/
inductive ScenarioError where
  | noSteps
  | missingEntry
  | missingColon (step line : String)
  | unclosedTarget (step target : String)
  deriving DecidableEq, Repr

/-- What is said about a script that is no scenario. -/
def ScenarioError.message : ScenarioError → String
  | noSteps => "scenario has no steps after the metadata block"
  | missingEntry => "scenario has no entry step: mark one heading with `(immediate)`"
  | missingColon step line =>
    "action line in step `" ++ step ++ "` is missing a colon: `" ++ line ++ "`"
  | unclosedTarget step target =>
    "action target in step `" ++ step ++ "` has an unclosed step reference: `" ++ target ++ "`"

namespace Scenario

/-- What stands before the heading of every step. -/
def stepMarker : List Char := "## Step ".toList

/-- What an action line starts with. -/
def actionMarker : List Char := ['+', ' ']

/-- What the heading of a step to start at says in its parentheses. -/
def entryWord : List Char := "immediate".toList

/-- The parts of a target, which has no blanks around it.  A step id is in parentheses at
the start, and an id of blanks names no step. -/
def readTarget (step : String) (target : List Char) : Except ScenarioError Reference :=
  match target with
  | '(' :: inner =>
    match cutAt? ')' inner with
    | some (id, rest) =>
      let id := trim id
      .ok
        { step := if id.isEmpty then none else some (String.ofList id)
          text := String.ofList (trim rest) }
    | none => .error (.unclosedTarget step (String.ofList target))
  | target => .ok { step := none, text := String.ofList target }

/-- The action of a line, without the marker and the blanks around it. -/
def readAction (step : String) (line : List Char) : Except ScenarioError Action :=
  match cutAt? ':' line with
  | some (label, target) => do
    let target := trim target
    let reference ← readTarget step target
    return { name := String.ofList (trim label), target := String.ofList target, reference }
  | none => .error (.missingColon step (String.ofList line))

/-- The cue that a heading gives in parentheses.  What is neither the entry word nor a
date gives none. -/
def readCue (zone : Calendar.Zone) (remark : List Char) : Cue :=
  let s := trim (dropSuffix ')' (trim remark))
  if s = entryWord then .immediate
  else
    match Calendar.readMoment? zone s with
    | some m => .dated m
    | none => .none

/-- The step that a heading opens, with nothing in it yet. -/
def readHeading (zone : Calendar.Zone) (heading : List Char) : Step :=
  let heading := trim heading
  match cutAt? '(' heading with
  | some (title, remark) =>
    { id := String.ofList (trim title), cue := readCue zone remark, body := [], actions := [],
      buttons := [] }
  | none => { id := String.ofList heading, cue := .none, body := [], actions := [], buttons := [] }

/-- What a line of a block says. -/
inductive Line where
  | text (line : String)
  | action (a : Action)
  deriving DecidableEq, Repr

namespace Line

/-- The text of a line that is no action. -/
def text? : Line → Option String
  | text line => some line
  | action _ => none

/-- The action of a line. -/
def action? : Line → Option Action
  | text _ => none
  | action a => some a

end Line

/-- Reads a line of the block of a step. -/
def readLine (step : String) (line : List Char) : Except ScenarioError Line :=
  match dropPrefix? actionMarker (trim line) with
  | some action => .action <$> readAction step (trim action)
  | none => .ok (.text (String.ofList (trimEnd line)))

/-- The step that a heading has opened, with what a line says. -/
def addLine (step : Step) : Line → Step
  | .text line => { step with body := step.body ++ [line] }
  | .action a => step.insertAction a

/-- The step that a heading has opened, with what its lines say. -/
def fill (step : Step) (ls : List Line) : Step := ls.foldl addLine step

/-- The step of a block. -/
def readBlock (zone : Calendar.Zone) (block : List Char) : Except ScenarioError Step :=
  let (heading, rest) := (cutAt? '\n' block).getD (block, [])
  let step := readHeading zone heading
  fill step <$> (lines (trim rest)).mapM (readLine step.id)

/-- The blocks of a script, without those of blanks only. -/
def blocks (text : List Char) : List (List Char) :=
  (pieces stepMarker text).filter fun block => !isAllBlank block

/-- The steps of some blocks.  A block whose step id came before takes that step's
place. -/
def readSteps (zone : Calendar.Zone) (blocks : List (List Char)) :
    Except ScenarioError (List Step) :=
  blocks.foldlM (fun steps block => (putBy Step.id · steps) <$> readBlock zone block) []

/-- The scenario that the first block and the steps make up. -/
def assemble (about : Step) (steps : List Step) : Except ScenarioError Scenario :=
  if steps.isEmpty then .error .noSteps
  else
    match (steps.filter Step.isEntry).getLast? with
    | some entry =>
      .ok
        { name := String.ofList (trim (about.id.toList.dropWhile (· == '#')))
          description := about.text
          menu := about.actions.map fun a => ⟨a.name, a.target⟩
          steps, entry }
    | none => .error .missingEntry

/-- The scenario of a script.  Dates without an offset are read in `zone`. -/
def ofText (zone : Calendar.Zone) (text : String) : Except ScenarioError Scenario :=
  match blocks text.toList with
  | [] => .error .noSteps
  | first :: rest => do
    let about ← readBlock zone first
    let steps ← readSteps zone rest
    assemble about steps

end Scenario
end ScriptedChat
