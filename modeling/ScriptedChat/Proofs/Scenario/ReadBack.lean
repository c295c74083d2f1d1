import Mathlib.Tactic.MkIffOfInductiveProp
import ScriptedChat.Proofs.Scenario.Faults

/-!
# Scripts are read as they were written

A scenario is thought up as a name, a description, a menu and steps, with texts and actions
(`Draft`), and is then written down as a script.  Reading a script is five cuts, one inside the
other: at the marker of headings, at line ends, at a parenthesis, at a colon, at the parenthesis
that closes.  Each of them trims what it cuts.  So a draft is found again if no text has blanks
that count at its ends, and no text has the character at which it would be cut.

* `Draft`, `Draft.text`, `Draft.scenario`: a draft, its script, and the scenario that is meant.
* `Draft.WellFormed`: what its texts must not have.
* `readLine_line`: an action is found again.
* `readBlock_writeBlock`: a block is found again.
* `blocks_text`: the blocks are found again.
* `ofText_text`: **the scenario that is meant is the one that is read**.
-/

namespace ScriptedChat
namespace Scenario

open Text

/-! ## Drafts -/

/-- What an action does: it sends a text, or goes to a step and sends a text, which may be
empty. -/
inductive TargetDraft where
  | plain (text : List Char)
  | goTo (id text : List Char)

namespace TargetDraft

/-- The target as it is written. -/
def line : TargetDraft → List Char
  | plain text => text
  | goTo id text => '(' :: id ++ [')', ' '] ++ text

/-- The target without the blank that an empty text leaves at its end. -/
def trimmed : TargetDraft → List Char
  | plain text => text
  | goTo id [] => '(' :: id ++ [')']
  | goTo id (c :: text) => '(' :: id ++ [')', ' '] ++ c :: text

/-- What is meant by it. -/
def reference : TargetDraft → Reference
  | plain text => { step := none, text := String.ofList text }
  | goTo id text => { step := some (String.ofList id), text := String.ofList text }

/-- A text does not look like a step id, and a step id ends where it is closed. -/
def WellFormed : TargetDraft → Prop
  | plain text => '\n' ∉ text ∧ trim text = text ∧ text.head? ≠ some '('
  | goTo id text => ('\n' ∉ id ∧ trim id = id ∧ id ≠ [] ∧ ')' ∉ id) ∧ '\n' ∉ text ∧ trim text = text

instance : (t : TargetDraft) → Decidable t.WellFormed
  | plain _ => inferInstanceAs (Decidable (_ ∧ _))
  | goTo _ _ => inferInstanceAs (Decidable (_ ∧ _))

end TargetDraft

/-- An action, or an entry of the menu. -/
structure ActionDraft where
  label : List Char
  target : TargetDraft

namespace ActionDraft

/-- The line of an action. -/
def line (a : ActionDraft) : List Char := actionMarker ++ a.label ++ [':', ' '] ++ a.target.line

/-- The action that is meant. -/
def action (a : ActionDraft) : Action :=
  { name := String.ofList a.label
    target := String.ofList a.target.trimmed
    reference := a.target.reference }

/-- A label ends at its colon. -/
@[mk_iff]
structure WellFormed (a : ActionDraft) : Prop where
  label_line : '\n' ∉ a.label
  label_trim : trim a.label = a.label
  label_colon : ':' ∉ a.label
  target : a.target.WellFormed

instance (a : ActionDraft) : Decidable a.WellFormed :=
  decidable_of_iff _ (wellFormed_iff a).symm

end ActionDraft

/-- When a step comes up by itself. -/
inductive Timing where
  | none
  | immediate
  | dated (text : List Char)
  deriving DecidableEq

namespace Timing

/-- What is written behind the id of a step. -/
def suffix : Timing → List Char
  | none => []
  | immediate => [' ', '('] ++ entryWord ++ [')']
  | dated text => [' ', '('] ++ text ++ [')']

/-- The cue of a date, if it is one. -/
def dateCue : Except Calendar.InvalidDate Calendar.Moment → Cue
  | .ok m => .dated m
  | .error _ => .none

/-- What is meant by it. -/
def cue (zone : Calendar.Zone) : Timing → Cue
  | none => .none
  | immediate => .immediate
  | dated text => dateCue (Calendar.Moment.ofText zone (String.ofList text))

/-- A date is one. -/
def WellFormed (zone : Calendar.Zone) : Timing → Prop
  | dated text => '\n' ∉ text ∧ trim text = text ∧
    ∃ m, Calendar.Moment.ofText zone (String.ofList text) = .ok m
  | _ => True

end Timing

/-- The lines of a text that stands between a heading and its actions: no line looks like an
action, and there are no blank lines around the text, and no blanks before it. -/
structure IsBody (body : List (List Char)) : Prop where
  lines : ∀ l ∈ body, '\n' ∉ l ∧ trimEnd l = l ∧ ¬ actionMarker <+: trim l
  first : ∀ l, body.head? = some l → trim l ≠ [] ∧ trimStart l = l
  last : ∀ l, body.getLast? = some l → trim l ≠ []

/-- A block: its heading, its text, its actions, and a blank line. -/
def writeBlock (heading : List Char) (body : List (List Char)) (actions : List ActionDraft) :
    List Char :=
  heading ++ '\n' :: ((body ++ actions.map ActionDraft.line).flatMap (· ++ ['\n']) ++ ['\n'])

/-- A step. -/
structure StepDraft where
  id : List Char
  timing : Timing
  body : List (List Char)
  actions : List ActionDraft

namespace StepDraft

/-- The block of a step, without the marker. -/
def text (s : StepDraft) : List Char := writeBlock (s.id ++ s.timing.suffix) s.body s.actions

/-- The step that is meant. -/
def step (zone : Calendar.Zone) (s : StepDraft) : Step :=
  { id := String.ofList s.id
    cue := s.timing.cue zone
    body := s.body.map String.ofList
    actions := s.actions.map ActionDraft.action
    buttons := (s.actions.filter fun a => a.label.head? ≠ some '(').map
      fun a => String.ofList a.label }

/-- An id ends where the parenthesis opens, and no label comes twice. -/
structure WellFormed (zone : Calendar.Zone) (s : StepDraft) : Prop where
  id_line : '\n' ∉ s.id
  id_trim : trim s.id = s.id
  id_ne : s.id ≠ []
  id_paren : '(' ∉ s.id
  timing : s.timing.WellFormed zone
  body : IsBody s.body
  actions : ∀ a ∈ s.actions, a.WellFormed
  labels_nodup : (s.actions.map ActionDraft.label).Nodup

end StepDraft

/-- A whole scenario. -/
structure Draft where
  name : List Char
  description : List (List Char)
  menu : List ActionDraft
  steps : List StepDraft

namespace Draft

/-- The first block. -/
def about (d : Draft) : List Char := writeBlock (['#', ' '] ++ d.name) d.description d.menu

/-- The steps as they are written. -/
def stepTexts (steps : List StepDraft) : List Char := steps.flatMap fun s => stepMarker ++ s.text

/-- The script. -/
def text (d : Draft) : List Char := d.about ++ stepTexts d.steps

/-- The scenario that is meant, if it starts at a step. -/
def scenario (zone : Calendar.Zone) (d : Draft) (entry : StepDraft) : Scenario :=
  { name := String.ofList d.name
    description := String.ofList (joinWith ['\n'] d.description)
    menu := d.menu.map fun a => ⟨String.ofList a.label, String.ofList a.target.trimmed⟩
    steps := d.steps.map (StepDraft.step zone)
    entry := entry.step zone }

/-- The script can be cut apart again.  (Nothing is asked of a name that begins with `#`: the
blank before it keeps it.) -/
structure WellFormed (zone : Calendar.Zone) (d : Draft) : Prop where
  name_line : '\n' ∉ d.name
  name_trim : trim d.name = d.name
  name_paren : '(' ∉ d.name
  description : IsBody d.description
  menu : ∀ a ∈ d.menu, a.WellFormed
  commands_nodup : (d.menu.map ActionDraft.label).Nodup
  steps : ∀ s ∈ d.steps, s.WellFormed zone
  ids_nodup : (d.steps.map StepDraft.id).Nodup
  entry : ∃ s ∈ d.steps, s.timing = .immediate
  /-- The marker occurs before headings only. -/
  marker : ∀ pre post, d.text = pre ++ stepMarker ++ post →
    ∃ front back, d.steps = front ++ back ∧ back ≠ [] ∧ pre = d.about ++ stepTexts front

end Draft

variable {zone : Calendar.Zone} {id : String}

/-! ## Actions -/

theorem isBlank_space : isBlank ' ' = true := rfl

/-- What is left of a text behind a blank. -/
theorem trimEnd_space {t : List Char} (ht : trim t = t) :
    trimEnd (' ' :: t) = if t = [] then [] else ' ' :: t := by
  split
  · rename_i h
    rw [h]
    rfl
  · rename_i h
    have hend : trimEnd t = t := trimEnd_eq_self (trim_eq_self_iff.mp ht).2
    rw [← List.singleton_append, trimEnd_append _ (by rwa [hend]), hend]

theorem TargetDraft.trim_line {t : TargetDraft} (h : t.WellFormed) : trim t.line = t.trimmed := by
  cases t with
  | plain text => exact h.2.1
  | goTo id text =>
    have hline : (goTo id text).line = ('(' :: id) ++ ')' :: ' ' :: text := by simp [line]
    have hstart : ∀ c, (goTo id text).line.head? = some c → isBlank c = false := by
      rintro c ⟨⟩
      rfl
    rw [trim_eq_trimEnd hstart, hline, trimEnd_append_cons rfl, trimEnd_space h.2.2]
    cases text <;> simp [trimmed]

/-- **A target is found again.** -/
theorem readTarget_trimmed {t : TargetDraft} (h : t.WellFormed) :
    readTarget id t.trimmed = .ok t.reference := by
  cases t with
  | plain text =>
    rw [TargetDraft.trimmed, readTarget]
    · rfl
    · rintro inner rfl
      exact h.2.2 rfl
  | goTo gid text =>
    obtain ⟨⟨-, htrim, hne, hparen⟩, -, htext⟩ := h
    obtain ⟨rest, hrest, heq⟩ : ∃ rest, (TargetDraft.goTo gid text).trimmed
        = '(' :: (gid ++ ')' :: rest) ∧ trim rest = text := by
      cases text with
      | nil => exact ⟨[], rfl, rfl⟩
      | cons c text =>
        refine ⟨' ' :: c :: text, by simp [TargetDraft.trimmed], ?_⟩
        rw [trim_cons_of_isBlank isBlank_space, htext]
    rw [hrest, readTarget, cutAt?_eq_some.mpr ⟨rfl, hparen⟩]
    dsimp only
    rw [htrim, heq, if_neg (by simpa using hne)]
    rfl

/-- The text of an action, as it is left when the line is trimmed. -/
def ActionDraft.rest (a : ActionDraft) : List Char :=
  a.label ++ ':' :: trimEnd (' ' :: a.target.line)

theorem ActionDraft.line_eq (a : ActionDraft) :
    a.line = (actionMarker ++ a.label) ++ ':' :: ' ' :: a.target.line := by
  simp [line]

/-- The line of an action is recognized. -/
theorem actionText?_line {a : ActionDraft} (h : a.WellFormed) :
    actionText? a.line = some a.rest := by
  have hstart : ∀ c, a.line.head? = some c → isBlank c = false := by
    rintro c ⟨⟩
    rfl
  rw [actionText?_eq_some_iff]
  refine ⟨a.rest, ?_, ?_⟩
  · rw [trim_eq_trimEnd hstart, a.line_eq, trimEnd_append_cons rfl, List.append_assoc]
    rfl
  · have hrest : ∀ c, a.rest.head? = some c → isBlank c = false := fun c =>
      isBlank_of_head?_append h.label_trim rfl _
    rw [trim_eq_trimEnd hrest, ActionDraft.rest, trimEnd_append_cons rfl, trimEnd_trimEnd]

/-- **An action is found again.** -/
theorem readLine_line {a : ActionDraft} (h : a.WellFormed) :
    readLine id a.line = .ok (.action a.action) := by
  have htarget : trim (trimEnd (' ' :: a.target.line)) = a.target.trimmed := by
    rw [trim_trimEnd, trim_cons_of_isBlank isBlank_space, TargetDraft.trim_line h.target]
  rw [readLine_of_action (actionText?_line h), readAction, ActionDraft.rest,
    cutAt?_eq_some.mpr ⟨rfl, h.label_colon⟩]
  dsimp only
  rw [htarget, readTarget_trimmed h.target, h.label_trim]
  rfl

/-! ## Blocks -/

/-- A line of a text is found again. -/
theorem readLine_body {l : List Char} (htrim : trimEnd l = l)
    (hmarker : ¬ actionMarker <+: trim l) :
    readLine id l = .ok (.text (String.ofList l)) := by
  have hnone : actionText? l = none := by
    rw [Option.eq_none_iff_forall_ne_some]
    intro text htext
    obtain ⟨rest, hrest, -⟩ := actionText?_eq_some_iff.mp htext
    exact hmarker ⟨rest, hrest.symm⟩
  rw [readLine_of_text hnone, htrim]

section Block

variable {heading : List Char} {body : List (List Char)} {actions : List ActionDraft}

theorem TargetDraft.WellFormed.line {t : TargetDraft} (h : t.WellFormed) : '\n' ∉ t.line := by
  cases t with
  | plain text => exact h.1
  | goTo id text =>
    obtain ⟨⟨hid, -⟩, htext, -⟩ := h
    simp [TargetDraft.line, hid, htext]

theorem ActionDraft.WellFormed.line {a : ActionDraft} (h : a.WellFormed) : '\n' ∉ a.line := by
  simp [ActionDraft.line, actionMarker, h.label_line, h.target.line]

/-- The lines after the heading. -/
def rows (body : List (List Char)) (actions : List ActionDraft) : List (List Char) :=
  body ++ actions.map ActionDraft.line

theorem rows_line (hbody : IsBody body) (hactions : ∀ a ∈ actions, a.WellFormed) :
    ∀ l ∈ rows body actions, '\n' ∉ l := by
  intro l hl
  rcases List.mem_append.mp hl with hl | hl
  · exact (hbody.lines l hl).1
  · obtain ⟨a, ha, rfl⟩ := List.mem_map.mp hl
    exact (hactions a ha).line

/-- The first line after the heading does not begin with a blank. -/
theorem rows_head (hbody : IsBody body) {l : List Char} (hl : (rows body actions).head? = some l) :
    ∃ c rest, l = c :: rest ∧ isBlank c = false := by
  rw [rows, List.head?_append] at hl
  cases hfirst : body.head? with
  | none =>
    rw [hfirst, Option.none_or, List.head?_map, Option.map_eq_some_iff] at hl
    obtain ⟨a, -, rfl⟩ := hl
    exact ⟨'+', _, rfl, rfl⟩
  | some l' =>
    rw [hfirst] at hl
    obtain rfl : l' = l := Option.some.inj hl
    obtain ⟨hne, hstart⟩ := hbody.first l' hfirst
    cases l' with
    | nil => exact absurd rfl hne
    | cons c rest => exact ⟨c, rest, rfl, isBlank_of_head?_trimStart (by rw [hstart]; rfl)⟩

/-- The last line after the heading is not blank. -/
theorem rows_last (hbody : IsBody body) {l : List Char}
    (hl : (rows body actions).getLast? = some l) : trimEnd l ≠ [] := by
  rw [rows, List.getLast?_append] at hl
  cases hlast : (actions.map ActionDraft.line).getLast? with
  | none =>
    rw [hlast, Option.none_or] at hl
    intro h
    apply hbody.last l hl
    rw [← trim_trimEnd, h, trim_nil]
  | some l' =>
    rw [hlast] at hl
    obtain rfl : l' = l := Option.some.inj hl
    obtain ⟨a, -, rfl⟩ := List.mem_map.mp (List.mem_of_getLast? hlast)
    exact trimEnd_ne_nil (c := '+') List.mem_cons_self rfl

/-- What stands after the heading does not begin with a blank. -/
theorem rows_start (hbody : IsBody body) {init : List (List Char)} {last : List Char}
    (hrows : rows body actions = init ++ [last]) {c : Char}
    (hc : (init.flatMap (· ++ ['\n']) ++ last).head? = some c) : isBlank c = false := by
  cases init with
  | nil =>
    obtain ⟨d, rest, rfl, hd⟩ := rows_head hbody (l := last) (by rw [hrows]; rfl)
    exact Option.some.inj hc ▸ hd
  | cons l init =>
    obtain ⟨d, rest, rfl, hd⟩ := rows_head hbody (l := l) (by rw [hrows]; rfl)
    exact Option.some.inj hc ▸ hd

/-- The lines after the heading are found again, but for blanks at the end of the last one. -/
theorem map_readLine_rows (hbody : IsBody body) (hactions : ∀ a ∈ actions, a.WellFormed)
    (id : String) :
    (lines (trim ((rows body actions).flatMap (· ++ ['\n']) ++ ['\n']))).map (readLine id)
      = (rows body actions).map (readLine id) := by
  rcases List.eq_nil_or_concat' (rows body actions) with hnil | ⟨init, last, hrows⟩
  · rw [hnil]
    rfl
  · have hline := rows_line hbody hactions
    have hlast : (rows body actions).getLast? = some last := by
      rw [hrows, List.getLast?_concat]
    rw [hrows] at hline ⊢
    rw [lines_trim_flatMap (fun l hl => hline l (List.mem_append_left _ hl))
      (hline last (List.mem_append_right _ (List.mem_singleton_self last))) (rows_last hbody hlast)
      fun _ => rows_start hbody hrows,
      List.map_append, List.map_append, List.map_singleton, List.map_singleton, readLine_trimEnd]

/-- What the lines of a block say. -/
def saying (body : List (List Char)) (actions : List ActionDraft) : List Line :=
  body.map (fun l => .text (String.ofList l)) ++ actions.map fun a => .action a.action

theorem filterMap_saying :
    (saying body actions).filterMap Line.text? = body.map String.ofList ∧
      (saying body actions).filterMap Line.action? = actions.map ActionDraft.action := by
  simp [saying, List.filterMap_append, List.filterMap_map, Function.comp_def]

theorem readLine_rows (hbody : IsBody body) (hactions : ∀ a ∈ actions, a.WellFormed)
    (id : String) :
    (rows body actions).map (readLine id) = (saying body actions).map Except.ok := by
  rw [rows, saying, List.map_append, List.map_append, List.map_map, List.map_map, List.map_map]
  congr 1
  · refine List.map_congr_left fun l hl => ?_
    obtain ⟨-, htrim, hmarker⟩ := hbody.lines l hl
    exact readLine_body htrim hmarker
  · exact List.map_congr_left fun a ha => readLine_line (hactions a ha)

/-- The labels of actions that are found again are distinct if they were. -/
theorem names_nodup (hnodup : (actions.map ActionDraft.label).Nodup) :
    ((actions.map ActionDraft.action).map Action.name).Nodup := by
  have hnames : (actions.map ActionDraft.action).map Action.name
      = (actions.map ActionDraft.label).map String.ofList := by
    rw [List.map_map, List.map_map]
    rfl
  rw [hnames]
  exact hnodup.map fun _ _ h => String.ofList_inj.mp h

/-- The keyboard of actions that are found again. -/
theorem filter_isPlain_names (actions : List ActionDraft) :
    ((actions.map ActionDraft.action).map Action.name).filter isPlain
      = (actions.filter fun a => a.label.head? ≠ some '(').map fun a => String.ofList a.label := by
  rw [List.map_map, List.filter_map]
  refine congrArg (List.map _) (List.filter_congr fun a _ => ?_)
  rw [Bool.eq_iff_iff]
  simp [isPlain, ActionDraft.action]

/-- A heading with the lines after it. -/
theorem fill_saying {step : Step} (hstep : step.body = [] ∧ step.actions = [] ∧ step.buttons = [])
    (hnodup : (actions.map ActionDraft.label).Nodup) :
    fill step (saying body actions)
      = { step with
          body := body.map String.ofList
          actions := actions.map ActionDraft.action
          buttons := (actions.filter fun a => a.label.head? ≠ some '(').map
            fun a => String.ofList a.label } := by
  obtain ⟨hbody₀, hactions₀, hbuttons₀⟩ := hstep
  obtain ⟨hid, hcue, hbody, hactions⟩ := fill_fields step hactions₀ (saying body actions)
  have hkept : Kept step := ⟨by rw [hactions₀]; exact List.nodup_nil,
    by rw [hactions₀, hbuttons₀]; rfl⟩
  have hbuttons := (hkept.fill (saying body actions)).buttons
  rw [hbody₀, List.nil_append, filterMap_saying.1] at hbody
  rw [filterMap_saying.2, putAll_of_nodup (names_nodup hnodup)] at hactions
  rw [hactions, filter_isPlain_names] at hbuttons
  generalize fill step (saying body actions) = filled at *
  cases filled
  dsimp only at *
  rw [hid, hcue, hbody, hactions, hbuttons]

/-- **A block is found again.** -/
theorem readBlock_writeBlock (zone : Calendar.Zone) (hheading : '\n' ∉ heading)
    (hbody : IsBody body) (hactions : ∀ a ∈ actions, a.WellFormed)
    (hnodup : (actions.map ActionDraft.label).Nodup) :
    readBlock zone (writeBlock heading body actions) = .ok
      { readHeading zone heading with
        body := body.map String.ofList
        actions := actions.map ActionDraft.action
        buttons := (actions.filter fun a => a.label.head? ≠ some '(').map
          fun a => String.ofList a.label } := by
  have hlater : laterLines (writeBlock heading body actions)
      = lines (trim ((rows body actions).flatMap (· ++ ['\n']) ++ ['\n'])) := by
    rw [laterLines, writeBlock, cutAt?_eq_some.mpr ⟨rfl, hheading⟩]
    rfl
  have hread := mapM_eq_ok_iff.mpr ((map_readLine_rows hbody hactions
    (blockId (writeBlock heading body actions))).trans (readLine_rows hbody hactions _))
  rw [readBlock_eq, hlater, hread, writeBlock, before_append_cons hheading,
    ← fill_saying (readHeading_empty zone heading) hnodup]
  rfl

end Block

/-! ## Headings -/

/-- The entry word is no date. -/
theorem readMoment?_entryWord (zone : Calendar.Zone) :
    Calendar.readMoment? zone entryWord = none := by
  rfl

/-- A date that is accepted is read as its moment. -/
theorem readMoment?_of_ofText {t : List Char} {m : Calendar.Moment} (ht : trim t = t)
    (hm : Calendar.Moment.ofText zone (String.ofList t) = .ok m) :
    Calendar.readMoment? zone t = some m := by
  unfold Calendar.Moment.ofText at hm
  rw [String.toList_ofList, ht] at hm
  dsimp only at hm
  cases hread : Calendar.readMoment? zone t with
  | none => rw [hread] at hm; cases hm
  | some m' => rw [hread] at hm; rw [Except.ok.inj hm]

/-- What is written in parentheses behind an id. -/
theorem readCue_concat (zone : Calendar.Zone) {t : List Char} (ht : trim t = t) :
    readCue zone (t ++ [')'])
      = if t = entryWord then .immediate
        else (Calendar.readMoment? zone t).elim .none .dated := by
  have hself : trim (t ++ [')']) = t ++ [')'] := by
    refine trim_eq_self_iff.mpr ⟨fun c => isBlank_of_head?_append ht rfl [], fun c hc => ?_⟩
    rw [List.getLast?_concat] at hc
    obtain rfl := Option.some.inj hc
    rfl
  have hdrop : dropSuffix ')' (t ++ [')']) = t := by
    rw [dropSuffix, List.getLast?_concat, if_pos rfl, List.dropLast_concat]
  rw [readCue, hself, hdrop, ht]
  cases Calendar.readMoment? zone t <;> rfl

/-- A heading with something in parentheses. -/
theorem readHeading_paren (zone : Calendar.Zone) {id t : List Char} (hid : trim id = id)
    (hne : id ≠ []) (hparen : '(' ∉ id) :
    readHeading zone (id ++ ([' ', '('] ++ t ++ [')']))
      = { id := String.ofList id, cue := readCue zone (t ++ [')']), body := [], actions := [],
          buttons := [] } := by
  have hheading : id ++ ([' ', '('] ++ t ++ [')']) = (id ++ [' ']) ++ '(' :: (t ++ [')']) := by simp
  have hself : trim (id ++ ([' ', '('] ++ t ++ [')'])) = id ++ ([' ', '('] ++ t ++ [')']) := by
    refine trim_eq_self_iff.mpr ⟨fun c hc => ?_, fun c hc => ?_⟩
    · rw [List.head?_append_of_ne_nil _ hne] at hc
      exact (trim_eq_self_iff.mp hid).1 c hc
    · rw [← List.append_assoc, List.getLast?_concat] at hc
      obtain rfl := Option.some.inj hc
      rfl
  rw [readHeading, hself, hheading, cutAt?_eq_some.mpr ⟨rfl, by simp [hparen]⟩]
  dsimp only
  rw [trim_concat_of_isBlank isBlank_space, hid]

/-- A heading with nothing in parentheses. -/
theorem readHeading_of_notMem (zone : Calendar.Zone) {heading : List Char}
    (hparen : '(' ∉ trim heading) :
    readHeading zone heading
      = { id := String.ofList (trim heading), cue := .none, body := [], actions := [],
          buttons := [] } := by
  rw [readHeading, cutAt?_eq_none.mpr hparen]

/-- **The heading of a step is found again.** -/
theorem readHeading_suffix {s : StepDraft} (h : s.WellFormed zone) :
    readHeading zone (s.id ++ s.timing.suffix)
      = { id := String.ofList s.id, cue := s.timing.cue zone, body := [], actions := [],
          buttons := [] } := by
  have htiming := h.timing
  cases hs : s.timing with
  | none =>
    rw [Timing.suffix, List.append_nil,
      readHeading_of_notMem zone (by rw [h.id_trim]; exact h.id_paren), h.id_trim]
    rfl
  | immediate =>
    have hword : trim entryWord = entryWord := by decide
    rw [Timing.suffix, readHeading_paren zone h.id_trim h.id_ne h.id_paren,
      readCue_concat zone hword, if_pos rfl]
    rfl
  | dated t =>
    rw [hs] at htiming
    obtain ⟨-, htrim, m, hm⟩ := htiming
    have hread := readMoment?_of_ofText htrim hm
    have hne : t ≠ entryWord := by
      rintro rfl
      rw [readMoment?_entryWord] at hread
      cases hread
    rw [Timing.suffix, readHeading_paren zone h.id_trim h.id_ne h.id_paren,
      readCue_concat zone htrim, if_neg hne, hread, Timing.cue, hm]
    rfl

theorem StepDraft.WellFormed.heading {s : StepDraft} (h : s.WellFormed zone) :
    '\n' ∉ s.id ++ s.timing.suffix := by
  have htiming := h.timing
  cases hs : s.timing with
  | none => simp [Timing.suffix, h.id_line]
  | immediate =>
    have hword : '\n' ∉ entryWord := by decide
    simp [Timing.suffix, h.id_line, hword]
  | dated t =>
    rw [hs] at htiming
    simp [Timing.suffix, h.id_line, htiming.1]

/-- **A step is found again.** -/
theorem readBlock_text {s : StepDraft} (h : s.WellFormed zone) :
    readBlock zone s.text = .ok (s.step zone) := by
  rw [StepDraft.text, readBlock_writeBlock zone h.heading h.body h.actions h.labels_nodup,
    readHeading_suffix h]
  rfl

/-! ## Scripts -/

theorem Draft.WellFormed.trim_name {d : Draft} (h : d.WellFormed zone) :
    '(' ∉ trim (['#', ' '] ++ d.name) ∧
      trim ((trim (['#', ' '] ++ d.name)).dropWhile (· == '#')) = d.name := by
  cases hname : d.name with
  | nil => decide
  | cons c rest =>
    have hparen := h.name_paren
    have htrim := h.name_trim
    rw [hname] at hparen htrim
    have hself : trim (['#', ' '] ++ c :: rest) = ['#', ' '] ++ c :: rest := by
      refine trim_eq_self_iff.mpr ⟨?_, fun d hd => ?_⟩
      · rintro d ⟨⟩
        rfl
      · rw [List.getLast?_append_of_ne_nil _ (List.cons_ne_nil c rest)] at hd
        exact (trim_eq_self_iff.mp htrim).2 d hd
    rw [hself]
    refine ⟨by simpa using hparen, ?_⟩
    exact (trim_cons_of_isBlank isBlank_space _).trans htrim

/-- The first block, read like that of a step. -/
def Draft.aboutStep (d : Draft) : Step :=
  { id := String.ofList (trim (['#', ' '] ++ d.name))
    cue := .none
    body := d.description.map String.ofList
    actions := d.menu.map ActionDraft.action
    buttons := (d.menu.filter fun a => a.label.head? ≠ some '(').map
      fun a => String.ofList a.label }

/-- **The first block is found again.** -/
theorem readBlock_about {d : Draft} (h : d.WellFormed zone) :
    readBlock zone d.about = .ok d.aboutStep := by
  rw [Draft.about, readBlock_writeBlock zone (by simp [h.name_line]) h.description h.menu
    h.commands_nodup, readHeading_of_notMem zone h.trim_name.1]
  rfl

/-- A text is not blank if its first character is not. -/
theorem isAllBlank_eq_false {c : Char} (t : List Char) (hc : isBlank c = false) :
    isAllBlank (c :: t) = false := by
  rw [isAllBlank, List.all_cons, hc, Bool.false_and]

/-- **The blocks are found again.** -/
theorem blocks_text {d : Draft} (h : d.WellFormed zone) :
    blocks d.text = d.about :: d.steps.map StepDraft.text := by
  have hpieces : pieces stepMarker d.text = d.about :: d.steps.map StepDraft.text := by
    have htext : d.text = d.about ++ (d.steps.map StepDraft.text).flatMap (stepMarker ++ ·) := by
      rw [List.flatMap_map]
      rfl
    rw [htext]
    refine pieces_append_flatMap (by decide) _ _ fun pre post heq => ?_
    obtain ⟨front, back, hsteps, hback, hpre⟩ := h.marker pre post (htext.trans heq)
    refine ⟨front.map StepDraft.text, back.map StepDraft.text, ?_, ?_, ?_⟩
    · rw [hsteps, List.map_append]
    · rwa [Ne, List.map_eq_nil_iff]
    · rw [List.flatMap_map]
      exact hpre
  rw [blocks, hpieces, List.filter_eq_self]
  intro block hblock
  rw [Bool.not_eq_true']
  rcases List.mem_cons.mp hblock with rfl | hblock
  · exact isAllBlank_eq_false _ rfl
  · obtain ⟨s, hs, rfl⟩ := List.mem_map.mp hblock
    obtain ⟨c, rest, hid⟩ := List.exists_cons_of_ne_nil (h.steps s hs).id_ne
    have hc := (trim_eq_self_iff.mp (h.steps s hs).id_trim).1 c (by rw [hid]; rfl)
    rw [StepDraft.text, writeBlock, hid]
    exact isAllBlank_eq_false _ hc

theorem isEntry_step {s : StepDraft} :
    (s.step zone).isEntry = true ↔ s.timing = .immediate := by
  rw [Step.isEntry, beq_iff_eq, StepDraft.step]
  cases s.timing with
  | none => exact iff_of_false Cue.noConfusion Timing.noConfusion
  | immediate => exact iff_of_true rfl rfl
  | dated t =>
    refine iff_of_false ?_ Timing.noConfusion
    rw [Timing.cue]
    cases Calendar.Moment.ofText zone (String.ofList t) <;> exact Cue.noConfusion

/-- The steps that are marked are found again, and with them the last one. -/
theorem getLast?_filter_isEntry (steps : List StepDraft) :
    ((steps.map (StepDraft.step zone)).filter Step.isEntry).getLast?
      = ((steps.filter fun s => s.timing = .immediate).getLast?).map (StepDraft.step zone) := by
  rw [List.filter_map, List.getLast?_map]
  refine congrArg (Option.map _) (congrArg List.getLast? (List.filter_congr fun s _ => ?_))
  rw [Function.comp_apply, Bool.eq_iff_iff, isEntry_step, decide_eq_true_iff]

/-- **The scenario that is meant is the one that is read.**  It starts at the last of the steps
that are marked. -/
theorem ofText_text {d : Draft} (h : d.WellFormed zone) :
    ∃ entry, (d.steps.filter fun s => s.timing = .immediate).getLast? = some entry ∧
      ofText zone (String.ofList d.text) = .ok (d.scenario zone entry) := by
  obtain ⟨entry, hentry⟩ : ∃ entry,
      (d.steps.filter fun s => s.timing = .immediate).getLast? = some entry := by
    obtain ⟨s, hs, himm⟩ := h.entry
    have hmem : s ∈ d.steps.filter fun s => s.timing = .immediate :=
      List.mem_filter.mpr ⟨hs, decide_eq_true himm⟩
    exact ⟨_, List.getLast?_eq_some_getLast (List.ne_nil_of_mem hmem)⟩
  refine ⟨entry, hentry, ?_⟩
  have hread : (blocks (String.ofList d.text).toList).map (readBlock zone)
      = (d.aboutStep :: d.steps.map (StepDraft.step zone)).map Except.ok := by
    rw [String.toList_ofList, blocks_text h, List.map_cons, readBlock_about h, List.map_cons,
      List.map_map, List.map_map]
    exact congrArg _ (List.map_congr_left fun s hs => readBlock_text (h.steps s hs))
  have hids : ((d.steps.map (StepDraft.step zone)).map Step.id).Nodup := by
    rw [List.map_map]
    have hmap : d.steps.map (Step.id ∘ StepDraft.step zone)
        = (d.steps.map StepDraft.id).map String.ofList := by
      rw [List.map_map]
      rfl
    rw [hmap]
    exact h.ids_nodup.map fun _ _ heq => String.ofList_inj.mp heq
  have hne : (d.steps.map (StepDraft.step zone)).isEmpty = false := by
    obtain ⟨s, hs, -⟩ := h.entry
    rw [List.isEmpty_eq_false_iff]
    exact List.ne_nil_of_mem (List.mem_map_of_mem hs)
  have hname : trim (d.aboutStep.id.toList.dropWhile (· == '#')) = d.name := by
    rw [Draft.aboutStep, String.toList_ofList, h.trim_name.2]
  have hdescription : d.aboutStep.body.map String.toList = d.description := by
    rw [Draft.aboutStep, List.map_map]
    exact (List.map_congr_left fun l _ => String.toList_ofList).trans (List.map_id' _)
  have hmenu : d.aboutStep.actions.map (fun a => MenuItem.mk a.name a.target)
      = d.menu.map fun a => ⟨String.ofList a.label, String.ofList a.target.trimmed⟩ :=
    List.map_map
  rw [ofText_of_read hread, putAll_of_nodup hids, assemble, hne, getLast?_filter_isEntry, hentry]
  dsimp only [Option.map_some]
  rw [if_neg Bool.false_ne_true, hname, Step.text, hdescription, hmenu]
  rfl

/-- A step to start at. -/
def tourStart : StepDraft :=
  { id := "1".toList
    timing := .immediate
    body := ["Ready?".toList]
    actions := [⟨"Yes".toList, .goTo "2".toList []⟩,
      ⟨"(1h)".toList, .goTo "2".toList "Time is up".toList⟩] }

/-- A draft with each kind of heading and of target. -/
def tourDraft : Draft :=
  { name := "Tour".toList
    description := ["Shows".toList, [], "  around".toList]
    menu := [⟨"/restart".toList, .plain "Again".toList⟩]
    steps :=
      [ tourStart
      , { id := "2".toList, timing := .dated "2030-01-01".toList, body := []
          actions := [⟨[], .plain []⟩] }
      , { id := "the end".toList, timing := .none, body := ["Bye".toList], actions := [] } ] }

/-- In the script of the draft the marker occurs before headings only. -/
theorem marker_tourDraft (pre post : List Char) (h : tourDraft.text = pre ++ stepMarker ++ post) :
    ∃ front back, tourDraft.steps = front ++ back ∧ back ≠ [] ∧
      pre = tourDraft.about ++ Draft.stepTexts front := by
  have hplaces : ∀ n < tourDraft.text.length + 1, stepMarker <+: tourDraft.text.drop n →
      ∃ k < 3, tourDraft.text.take n
        = tourDraft.about ++ Draft.stepTexts (tourDraft.steps.take k) := by
    decide +kernel
  have hlength := congrArg List.length h
  rw [List.length_append, List.length_append] at hlength
  obtain ⟨k, hk, htake⟩ := hplaces pre.length (by omega) ⟨post, by
    rw [h, List.append_assoc, List.drop_left]⟩
  rw [h, List.append_assoc, List.take_left] at htake
  refine ⟨_, _, (List.take_append_drop k tourDraft.steps).symm, ?_, htake⟩
  rw [Ne, List.drop_eq_nil_iff, Nat.not_le]
  exact hk

theorem wellFormed_tourDraft : tourDraft.WellFormed .universal where
  name_line := by decide
  name_trim := by decide
  name_paren := by decide
  description := ⟨by decide, by decide, by decide⟩
  menu := by decide
  commands_nodup := by decide
  steps := by
    have hdate : Timing.WellFormed .universal (.dated "2030-01-01".toList) :=
      ⟨by decide, by decide, _, rfl⟩
    refine List.forall_mem_cons.mpr ⟨?_, List.forall_mem_cons.mpr ⟨?_, ?_⟩⟩
    · exact ⟨by decide, by decide, by decide, by decide, trivial, ⟨by decide, by decide, by decide⟩,
        by decide, by decide⟩
    · exact ⟨by decide, by decide, by decide, by decide, hdate, ⟨by decide, by decide, by decide⟩,
        by decide, by decide⟩
    · refine List.forall_mem_singleton.mpr ?_
      exact ⟨by decide, by decide, by decide, by decide, trivial, ⟨by decide, by decide, by decide⟩,
        by decide, by decide⟩
  ids_nodup := by decide
  entry := ⟨tourStart, List.mem_cons_self, rfl⟩
  marker := marker_tourDraft

/-- The draft is read as it was written. -/
theorem ofText_tourDraft :
    ofText .universal (String.ofList tourDraft.text)
      = .ok (tourDraft.scenario .universal tourStart) := by
  obtain ⟨entry, hentry, hread⟩ := ofText_text wellFormed_tourDraft
  obtain rfl : tourStart = entry := Option.some.inj hentry
  exact hread

end Scenario
end ScriptedChat
