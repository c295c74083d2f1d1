import ScriptedChat.Duration
import ScriptedChat.Keyed
import ScriptedChat.Calendar.Date
import ScriptedChat.Text.Split

/-!
# Scenarios

A scenario is a conversation written down in advance.  It consists of *steps*; a chat is on
one step at a time.  A step has a text, which is shown when the chat comes to it, and
*actions*, which lead on.

## Actions

An action has a label and a target.  A plain label is a button of the keyboard that is
shown with the step.  A label that starts with a parenthesis is an *annotation*: it is no
button, and the duration written in it, if any, is the delay after which the action runs by
itself.  The target says what the action does: it may name a step to go to and a message to
send, or it is a message as a whole.

All that an action is, is therefore in its label and its target: `isButton`,
`isUnread` and `delay` are read off the label and are not stored beside it.

## Steps

The heading of a step may say when the step comes up (`Cue`): at the start of every
conversation, or for all chats at a moment of the calendar.  It cannot say both.

A step is filled with one action after the other.  The labels of its keyboard are noted down
on the way, each when its button comes up for the first time.  Steps are looked up in an index
of their ids.

* `Action`, `Step`, `Scenario`: the parts of a scenario.
* `putBy`: a list in which a later entry takes the place of an earlier one of its key.
* `Step.insertAction`: a step with one more action.
* `Step.action?`, `Scenario.step?`: look-up by label and by id.
* `Step.delayedActions`, `Scenario.scheduled`: the parts that are acted on.
-/

namespace ScriptedChat

/-- What an action does: the step it goes to, if it names one, and the message it sends,
if that is not empty. -/
structure Reference where
  step : Option String
  text : String
  deriving DecidableEq, Repr

/-- An action of a step. -/
structure Action where
  /-- The label as written, without the blanks around it. -/
  name : String
  /-- The target as written, without the blanks around it. -/
  target : String
  /-- The parts of the target. -/
  reference : Reference
  deriving DecidableEq, Repr

namespace Action

/-- A label in parentheses. -/
def isAnnotated (a : Action) : Bool := a.name.toList.head? == some '('

/-- Plain labels are buttons. -/
def isButton (a : Action) : Bool := !a.isAnnotated

/-- The label starts with `(unread`. -/
def isUnread (a : Action) : Bool := "(unread".toList.isPrefixOf a.name.toList

/-- The text between the parenthesis that opens an annotation and the next one that
closes, or the end of the label. -/
def remark (name : List Char) : List Char := Text.before ')' (name.drop 1)

/-- The delay, in seconds, after which the action runs by itself; zero if it does not. -/
def delay (a : Action) : Nat :=
  if a.isAnnotated then Duration.ofChars (remark a.name.toList) else 0

/-- The action runs by itself. -/
def isDelayed (a : Action) : Bool := a.delay != 0

/-- Only annotated actions have a delay. -/
theorem isAnnotated_of_isDelayed {a : Action} (h : a.isDelayed = true) :
    a.isAnnotated = true := by
  by_cases ha : a.isAnnotated = true
  · exact ha
  · simp [isDelayed, delay, ha] at h

end Action

/-- When a step comes up by itself. -/
inductive Cue where
  /-- Only when an action leads to it. -/
  | none
  /-- At the start of every conversation. -/
  | immediate
  /-- For every chat, at a moment. -/
  | dated (moment : Calendar.Moment)
  deriving DecidableEq, Repr

/-- One state of a conversation. -/
structure Step where
  id : String
  cue : Cue
  /-- The lines of the text. -/
  body : List String
  actions : List Action
  /-- The labels of the keyboard.  Where nothing else is said, they are those of the buttons. -/
  buttons : List String := (actions.filter Action.isButton).map Action.name
  deriving DecidableEq, Repr

/-- An entry of the command menu. -/
structure MenuItem where
  command : String
  description : String
  deriving DecidableEq, Repr

/-- A whole conversation.  `entry` is the step at which it starts. -/
structure Scenario where
  name : String
  description : String
  menu : List MenuItem
  steps : List Step
  entry : Step
  deriving DecidableEq, Repr

/-- The list with `a` in the place of the first entry that has its key, or at the end if
there is none. -/
def putBy {α κ : Type} [DecidableEq κ] (key : α → κ) (a : α) : List α → List α
  | [] => [a]
  | b :: bs => if key b = key a then a :: bs else b :: putBy key a bs

/-- The keys of a list that has been put to, when the key was there. -/
theorem map_putBy_of_mem {α κ : Type} [DecidableEq κ] {key : α → κ} {a : α} {l : List α}
    (h : key a ∈ l.map key) : (putBy key a l).map key = l.map key := by
  induction l with
  | nil => simp at h
  | cons b bs ih =>
    by_cases hb : key b = key a
    · simp [putBy, hb]
    · simp only [List.map_cons, List.mem_cons, Ne.symm hb, false_or] at h
      simp [putBy, hb, ih h]

/-- The keys of a list that has been put to, when the key is new. -/
theorem map_putBy_of_notMem {α κ : Type} [DecidableEq κ] {key : α → κ} {a : α}
    {l : List α} (h : key a ∉ l.map key) :
    (putBy key a l).map key = l.map key ++ [key a] := by
  induction l with
  | nil => rfl
  | cons b bs ih =>
    simp only [List.map_cons, List.mem_cons, not_or] at h
    simp [putBy, Ne.symm h.1, ih h.2]

/-- Putting keeps the keys of a list distinct. -/
theorem nodup_map_putBy {α κ : Type} [DecidableEq κ] {key : α → κ} {a : α} {l : List α}
    (h : (l.map key).Nodup) : ((putBy key a l).map key).Nodup := by
  by_cases ha : key a ∈ l.map key
  · rwa [map_putBy_of_mem ha]
  · rw [map_putBy_of_notMem ha, List.nodup_append]
    refine ⟨h, by simp, ?_⟩
    intro x hx y hy
    simp only [List.mem_singleton] at hy
    subst hy
    intro hxy
    exact ha (hxy ▸ hx)

namespace Step

/-- The conversation starts here. -/
def isEntry (s : Step) : Bool := s.cue == .immediate

/-- The moment at which every chat is moved to the step. -/
def scheduledAt? (s : Step) : Option Calendar.Moment :=
  match s.cue with
  | .dated m => some m
  | _ => none

/-- The action with a label. -/
def action? (s : Step) (name : String) : Option Action := s.actions.find? (·.name == name)

/-- The actions that run by themselves, in the order of the script. -/
def delayedActions (s : Step) : List Action := s.actions.filter Action.isDelayed

/-- The step with one more action.  A label that comes again gives the earlier action a new
meaning, and its button stays where it is. -/
def insertAction (s : Step) (a : Action) : Step :=
  { s with
    buttons := if a.isButton && !s.buttons.contains a.name then s.buttons ++ [a.name] else s.buttons
    actions := putBy Action.name a s.actions }

/-- The text that is shown. -/
def text (s : Step) : String :=
  String.ofList (Text.joinWith ['\n'] (s.body.map String.toList))

end Step

namespace Scenario

/-- The places of the steps, by id.  Of several steps with one id the last one counts. -/
def index (s : Scenario) : List (String × Nat) :=
  Keyed.ofList (s.steps.zipIdx.map fun p => (p.1.id, p.2))

/-- The step with an id. -/
def step? (s : Scenario) (id : String) : Option Step :=
  (Keyed.find? id s.index).bind fun i => s.steps[i]?

/-- The steps that come up at a moment, in the order of the script. -/
def scheduled (s : Scenario) : List (String × Calendar.Moment) :=
  s.steps.filterMap fun step => step.scheduledAt?.map fun m => (step.id, m)

end Scenario

end ScriptedChat
