import ScriptedChat.Proofs.Scenario.Replacing
import ScriptedChat.Proofs.Text.Cut
import ScriptedChat.Scenario.Parser

/-!
# Reading a block

What a block says is settled by its first line and by its *action lines*: the later lines that,
trimmed, start with the action marker.  `actionTexts` lists their texts, and the id of the block
is `blockId`.  Both are said here without a word about how a block is read, which trims the
later lines as a whole before it cuts them apart.

* `refusal?_readBlock`: a block is refused for its first action line that is refused.
* `readBlock_eq_ok`: if none is, the step has the id of the block, its text is that of the other
  lines, and its actions are those of the action lines, a later one in the place of an earlier
  one of its label.
* `Kept`: in a step that is filled line by line, labels are distinct, and its keyboard
  is that of its actions.
-/

namespace ScriptedChat

/-! ## Refusals -/

section Refusal

variable {ε α β : Type} {e : ε} {x : Except ε α} {f : α → Except ε β}

/-- What is refused, if anything is. -/
def refusal? : Except ε α → Option ε
  | .error e => some e
  | .ok _ => none

@[simp] theorem refusal?_error (e : ε) : refusal? (.error e : Except ε α) = some e := rfl

@[simp] theorem refusal?_ok (a : α) : refusal? (.ok a : Except ε α) = none := rfl

theorem refusal?_eq_some_iff : refusal? x = some e ↔ x = .error e := by
  cases x <;> simp

theorem refusal?_eq_none_iff : refusal? x = none ↔ ∃ a, x = .ok a := by
  cases x <;> simp

/-- What an entry gives that is not refused. -/
theorem eq_ok_of_toOption {a : α} {x : Except ε α} (h : x.toOption = some a) : x = .ok a := by
  cases x with
  | error e => cases h
  | ok b => exact congrArg Except.ok (Option.some.inj h)

@[simp] theorem refusal?_map (g : α → β) (x : Except ε α) : refusal? (g <$> x) = refusal? x := by
  cases x <;> rfl

/-- **A traversal is refused for the first entry that is refused.** -/
theorem refusal?_mapM (f : α → Except ε β) (l : List α) :
    refusal? (l.mapM f) = l.findSome? fun a => refusal? (f a) := by
  induction l with
  | nil => rfl
  | cons a l ih =>
    rw [List.mapM_cons, List.findSome?_cons, ← ih]
    cases hf : f a with
    | error e => rfl
    | ok b => cases l.mapM f <;> rfl

/-- **A traversal succeeds with what each of its entries gives.** -/
theorem mapM_eq_ok_iff {l : List α} {bs : List β} :
    l.mapM f = .ok bs ↔ l.map f = bs.map Except.ok := by
  induction l generalizing bs with
  | nil => cases bs <;> simp [pure, Except.pure]
  | cons a l ih =>
    rw [List.mapM_cons, List.map_cons]
    constructor
    · intro h
      cases ha : f a with
      | error e => rw [ha] at h; cases h
      | ok b =>
        cases hl : l.mapM f with
        | error e => rw [ha, hl] at h; cases h
        | ok rest =>
          rw [ha, hl] at h
          obtain rfl : b :: rest = bs := Except.ok.inj h
          rw [List.map_cons, ih.mp hl]
    · intro h
      cases bs with
      | nil => cases h
      | cons b rest =>
        rw [List.map_cons, List.cons.injEq] at h
        rw [h.1, ih.mpr h.2]
        rfl

end Refusal

namespace Scenario

open Text

variable {zone : Calendar.Zone} {block line : List Char} {id : String}

/-! ## What a block is made of -/

/-- The id that a heading gives. -/
def headingId (heading : List Char) : String := String.ofList (trim (before '(' (trim heading)))

/-- The id of a block. -/
def blockId (block : List Char) : String := headingId (before '\n' block)

/-- The text of an action line, without the marker and the blanks around it. -/
def actionText? (line : List Char) : Option (List Char) :=
  (dropPrefix? actionMarker (trim line)).map trim

/-- The texts of the action lines of a block.  Its first line is none of them. -/
def actionTexts (block : List Char) : List (List Char) :=
  (block.splitOn '\n').tail.filterMap actionText?

/-- The label in the text of an action line. -/
def label (text : List Char) : String := String.ofList (trim (before ':' text))

/-- There are no blanks around a label. -/
theorem trim_label (text : List Char) : trim (label text).toList = (label text).toList := by
  rw [label, String.toList_ofList, trim_trim]

theorem actionText?_eq_some_iff {text : List Char} :
    actionText? line = some text ↔ ∃ rest, trim line = actionMarker ++ rest ∧ trim rest = text := by
  simp only [actionText?, Option.map_eq_some_iff, dropPrefix?_eq_some]

theorem readHeading_id (zone : Calendar.Zone) (heading : List Char) :
    (readHeading zone heading).id = headingId heading := by
  rw [readHeading, headingId]
  cases hcut : cutAt? '(' (trim heading) with
  | none =>
    rw [before_of_notMem (cutAt?_eq_none.mp hcut), trim_trim]
  | some p =>
    obtain ⟨hs, ha⟩ := cutAt?_eq_some.mp hcut
    rw [hs, before_append_cons ha]

/-- A heading opens a step with nothing in it. -/
theorem readHeading_empty (zone : Calendar.Zone) (heading : List Char) :
    (readHeading zone heading).body = [] ∧ (readHeading zone heading).actions = [] ∧
      (readHeading zone heading).buttons = [] := by
  rw [readHeading]
  split <;> exact ⟨rfl, rfl, rfl⟩

/-- The text of an action line that is not refused: a label and a target, cut apart at the first
colon. -/
theorem readAction_eq_ok {text : List Char} {a : Action} (h : readAction id text = .ok a) :
    ∃ label target r, cutAt? ':' text = some (label, target) ∧
      readTarget id (trim target) = .ok r ∧
      a = { name := String.ofList (trim label), target := String.ofList (trim target),
            reference := r } := by
  rw [readAction] at h
  cases hcut : cutAt? ':' text with
  | none => rw [hcut] at h; cases h
  | some p =>
    rw [hcut] at h
    dsimp only at h
    cases href : readTarget id (trim p.2) with
    | error e => rw [href] at h; cases h
    | ok r =>
      rw [href] at h
      exact ⟨p.1, p.2, r, rfl, href, (Except.ok.inj h).symm⟩

/-- The label that an action line is read with. -/
theorem name_of_readAction {text : List Char} {a : Action} (h : readAction id text = .ok a) :
    a.name = label text := by
  obtain ⟨l, target, r, hcut, -, rfl⟩ := readAction_eq_ok h
  obtain ⟨hs, ha⟩ := cutAt?_eq_some.mp hcut
  rw [label, hs, before_append_cons ha]

/-- What an action refers to is read off its target as it is kept. -/
theorem reference_of_readAction {text : List Char} {a : Action} (h : readAction id text = .ok a) :
    readTarget id a.target.toList = .ok a.reference := by
  obtain ⟨-, target, r, -, href, rfl⟩ := readAction_eq_ok h
  rw [String.toList_ofList, href]

/-- A target that does not begin with a parenthesis is a message as a whole. -/
theorem readTarget_of_head? {target : List Char} (h : target.head? ≠ some '(') :
    readTarget id target = .ok { step := none, text := String.ofList target } := by
  cases target with
  | nil => rfl
  | cons c target =>
    have hc : c ≠ '(' := fun hc => h (congrArg some hc)
    rw [readTarget.eq_2]
    exact fun inner hinner => hc (List.cons.inj hinner).1

/-! ## Lines -/

@[simp] theorem Line.text?_text (t : String) : (Line.text t).text? = some t := rfl

@[simp] theorem Line.text?_action (a : Action) : (Line.action a).text? = none := rfl

@[simp] theorem Line.action?_text (t : String) : (Line.text t).action? = none := rfl

@[simp] theorem Line.action?_action (a : Action) : (Line.action a).action? = some a := rfl

theorem readLine_of_action {text : List Char} (h : actionText? line = some text) :
    readLine id line = .action <$> readAction id text := by
  obtain ⟨rest, hline, rfl⟩ := actionText?_eq_some_iff.mp h
  rw [readLine, dropPrefix?_eq_some.mpr hline]

theorem readLine_of_text (h : actionText? line = none) :
    readLine id line = .ok (.text (String.ofList (trimEnd line))) := by
  rw [readLine, Option.map_eq_none_iff.mp h]

/-- A line that is not refused is text, or an action line whose action is not refused. -/
theorem readLine_eq_ok {r : Line} (h : readLine id line = .ok r) :
    (actionText? line = none ∧ r = .text (String.ofList (trimEnd line))) ∨
      ∃ text a, actionText? line = some text ∧ readAction id text = .ok a ∧ r = .action a := by
  cases htext : actionText? line with
  | none =>
    rw [readLine_of_text htext, Except.ok.injEq] at h
    exact Or.inl ⟨rfl, h.symm⟩
  | some text =>
    rw [readLine_of_action htext] at h
    cases ha : readAction id text with
    | error e => rw [ha] at h; cases h
    | ok a =>
      rw [ha] at h
      exact Or.inr ⟨text, a, rfl, ha, (Except.ok.inj h).symm⟩

theorem refusal?_readLine (id : String) (line : List Char) :
    refusal? (readLine id line) = (actionText? line).bind fun t => refusal? (readAction id t) := by
  cases h : actionText? line with
  | none => rw [readLine_of_text h, refusal?_ok, Option.bind_none]
  | some text => rw [readLine_of_action h, refusal?_map, Option.bind_some]

/-- Whether blanks at its end were trimmed makes no difference to a line. -/
theorem readLine_trimEnd (id : String) (l : List Char) :
    readLine id (trimEnd l) = readLine id l := by
  have htext : actionText? (trimEnd l) = actionText? l := by
    rw [actionText?, actionText?, trim_trimEnd]
  cases h : actionText? l with
  | none => rw [readLine_of_text h, readLine_of_text (htext.trans h), trimEnd_trimEnd]
  | some text => rw [readLine_of_action h, readLine_of_action (htext.trans h)]

/-- The actions among the lines that have been read are those of the action lines. -/
theorem map_readAction {ls : List (List Char)} {read : List Line}
    (h : ls.map (readLine id) = read.map Except.ok) :
    (ls.filterMap actionText?).map (readAction id)
      = (read.filterMap Line.action?).map Except.ok := by
  induction ls generalizing read with
  | nil =>
    rw [List.map_nil, eq_comm, List.map_eq_nil_iff] at h
    rw [h]
    rfl
  | cons l ls ih =>
    cases read with
    | nil => cases h
    | cons r read =>
      rw [List.map_cons, List.map_cons, List.cons.injEq] at h
      obtain ⟨hl, hls⟩ := h
      rcases readLine_eq_ok hl with ⟨htext, rfl⟩ | ⟨text, a, htext, ha, rfl⟩
      · rw [List.filterMap_cons_none htext, ih hls,
          List.filterMap_cons_none (Line.action?_text _)]
      · rw [List.filterMap_cons_some htext, List.filterMap_cons_some (Line.action?_action a),
          List.map_cons, List.map_cons, ha, ih hls]

/-- The text among the lines that have been read is that of the lines that are no actions. -/
theorem filterMap_text? {ls : List (List Char)} {read : List Line}
    (h : ls.map (readLine id) = read.map Except.ok) :
    read.filterMap Line.text?
      = (ls.filter fun l => (actionText? l).isNone).map fun l => String.ofList (trimEnd l) := by
  induction ls generalizing read with
  | nil =>
    rw [List.map_nil, eq_comm, List.map_eq_nil_iff] at h
    rw [h]
    rfl
  | cons l ls ih =>
    cases read with
    | nil => cases h
    | cons r read =>
      rw [List.map_cons, List.map_cons, List.cons.injEq] at h
      obtain ⟨hl, hls⟩ := h
      rcases readLine_eq_ok hl with ⟨htext, rfl⟩ | ⟨text, a, htext, -, rfl⟩
      · rw [List.filterMap_cons_some (Line.text?_text _), ih hls,
          List.filter_cons_of_pos (by rw [htext]; rfl), List.map_cons]
      · rw [List.filterMap_cons_none (Line.text?_action a), ih hls,
          List.filter_cons_of_neg (by rw [htext]; exact Bool.false_ne_true)]

/-! ## Filling a step -/

theorem fill_concat (step : Step) (read : List Line) (r : Line) :
    fill step (read ++ [r]) = addLine (fill step read) r :=
  List.foldl_concat ..

/-- Lines change neither the id nor the cue, and the actions are put in one after the other. -/
theorem fill_fields (step : Step) (hstep : step.actions = []) (read : List Line) :
    (fill step read).id = step.id ∧ (fill step read).cue = step.cue ∧
      (fill step read).body = step.body ++ read.filterMap Line.text? ∧
      (fill step read).actions = putAll Action.name (read.filterMap Line.action?) := by
  induction read using List.reverseRecOn with
  | nil => exact ⟨rfl, rfl, (List.append_nil _).symm, hstep⟩
  | append_singleton read r ih =>
    obtain ⟨hid, hcue, hbody, hactions⟩ := ih
    rw [fill_concat, List.filterMap_append, List.filterMap_append]
    cases r with
    | text t =>
      refine ⟨hid, hcue, by simp [addLine, hbody], ?_⟩
      rw [List.filterMap_cons_none (Line.action?_text t), List.filterMap_nil, List.append_nil,
        ← hactions]
      rfl
    | action a =>
      refine ⟨hid, hcue, by simp [addLine, Step.insertAction, hbody], ?_⟩
      rw [List.filterMap_cons_some (Line.action?_action a), List.filterMap_nil, putAll_concat,
        ← hactions]
      rfl

/-- A label that is shown as a button: it does not start with a bracket. -/
def isPlain (name : String) : Bool := !(name.toList.head? == some '(')

/-- A step as it is filled: labels are distinct, and its keyboard is that of its actions. -/
structure Kept (step : Step) : Prop where
  names_nodup : (step.actions.map Action.name).Nodup
  buttons : step.buttons = (step.actions.map Action.name).filter isPlain

theorem Kept.insertAction {step : Step} (h : Kept step) (a : Action) :
    Kept (step.insertAction a) := by
  refine ⟨nodup_map_putBy h.names_nodup, ?_⟩
  rw [Step.insertAction]
  dsimp only
  have hplain : a.isButton = isPlain a.name := rfl
  by_cases ha : a.name ∈ step.actions.map Action.name
  · -- A known label: it is on the keyboard already if it is plain.
    rw [map_putBy_of_mem ha, h.buttons, if_neg]
    rw [hplain, Bool.and_eq_true, Bool.not_eq_true', List.contains_eq_mem, decide_eq_false_iff_not]
    rintro ⟨hp, hnot⟩
    exact hnot (List.mem_filter.mpr ⟨ha, hp⟩)
  · rw [map_putBy_of_notMem ha, h.buttons, List.filter_append]
    by_cases hp : isPlain a.name = true
    · rw [if_pos, List.filter_cons_of_pos hp, List.filter_nil]
      rw [hplain, hp, Bool.true_and, Bool.not_eq_true', List.contains_eq_mem,
        decide_eq_false_iff_not]
      exact fun hmem => ha (List.mem_filter.mp hmem).1
    · rw [if_neg (by simp [hplain, hp]), List.filter_cons_of_neg hp, List.filter_nil,
        List.append_nil]

theorem Kept.addLine {step : Step} (h : Kept step) : ∀ r : Line, Kept (addLine step r)
  | .text _ => ⟨h.names_nodup, h.buttons⟩
  | .action a => h.insertAction a

theorem Kept.fill {step : Step} (h : Kept step) (read : List Line) : Kept (fill step read) := by
  induction read generalizing step with
  | nil => exact h
  | cons r read ih => exact ih (h.addLine r)

theorem kept_readHeading (zone : Calendar.Zone) (heading : List Char) :
    Kept (readHeading zone heading) := by
  obtain ⟨-, hactions, hbuttons⟩ := readHeading_empty zone heading
  exact ⟨by rw [hactions]; exact List.nodup_nil, by rw [hactions, hbuttons]; rfl⟩

/-! ## Blocks -/

/-- The lines of a block after its first, as they are read. -/
def laterLines (block : List Char) : List (List Char) :=
  lines (trim ((cutAt? '\n' block).getD (block, [])).2)

theorem readBlock_eq (zone : Calendar.Zone) (block : List Char) :
    readBlock zone block
      = fill (readHeading zone (before '\n' block)) <$>
          (laterLines block).mapM (readLine (blockId block)) := by
  rw [blockId, ← readHeading_id zone, ← cutAt?_getD_fst]
  rfl

/-- No action line is lost when the later lines are trimmed as a whole. -/
theorem filterMap_laterLines {β : Type} (g : List Char → Option β) (block : List Char) :
    (laterLines block).filterMap (fun l => (actionText? l).bind g)
      = (actionTexts block).filterMap g := by
  let f : List Char → Option β := fun l => ((dropPrefix? actionMarker l).map trim).bind g
  have hf : f [] = none := rfl
  rw [actionTexts, List.filterMap_filterMap]
  exact (filterMap_lines_trim hf _).trans (filterMap_tail_splitOn hf block).symm

/-- **A block is refused for its first action line that is refused.** -/
theorem refusal?_readBlock (zone : Calendar.Zone) (block : List Char) :
    refusal? (readBlock zone block)
      = (actionTexts block).findSome? fun t => refusal? (readAction (blockId block) t) := by
  rw [readBlock_eq, refusal?_map, refusal?_mapM, ← List.head?_filterMap, ← List.head?_filterMap,
    ← filterMap_laterLines]
  simp only [refusal?_readLine]

/-- The text of a block: its later lines that are no actions. -/
def bodyLines (block : List Char) : List String :=
  ((laterLines block).filter fun l => (actionText? l).isNone).map fun l => String.ofList (trimEnd l)

/-- **What a block says if it is not refused.** -/
theorem readBlock_eq_ok {step : Step} (h : readBlock zone block = .ok step) :
    step.id = blockId block ∧ step.cue = (readHeading zone (before '\n' block)).cue ∧
      step.body = bodyLines block ∧ Kept step ∧
      ∃ acts, (actionTexts block).map (readAction (blockId block)) = acts.map Except.ok ∧
        step.actions = putAll Action.name acts := by
  rw [readBlock_eq] at h
  cases hread : (laterLines block).mapM (readLine (blockId block)) with
  | error e => rw [hread] at h; cases h
  | ok read =>
    rw [hread] at h
    obtain rfl := Except.ok.inj h
    rw [mapM_eq_ok_iff] at hread
    obtain ⟨hbody₀, hactions₀, -⟩ := readHeading_empty zone (before '\n' block)
    obtain ⟨hid, hcue, hbody, hacts⟩ :=
      fill_fields (readHeading zone (before '\n' block)) hactions₀ read
    refine ⟨hid.trans (readHeading_id zone _), hcue, ?_, (kept_readHeading zone _).fill read,
      read.filterMap Line.action?, ?_, hacts⟩
    · rw [hbody, hbody₀, List.nil_append, filterMap_text? hread, bodyLines]
    · have hlines := filterMap_laterLines some block
      simp only [Option.bind_fun_some, List.filterMap_some] at hlines
      rw [← hlines]
      exact map_readAction hread

end Scenario
end ScriptedChat
