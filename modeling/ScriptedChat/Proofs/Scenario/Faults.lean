import ScriptedChat.Proofs.Scenario.Block

/-!
# Which scripts are refused, and for what

A script is read from its beginning, and the first action line with a defect ends the reading.
What is missing as a whole, steps or a step to start at, is noticed only after that.  This
module says which scripts are refused in terms of their texts alone.

* `Defect`: what may be wrong with the text of an action line.
* `FirstDefect`: the first defect, in the order of the script.
* `Verdict`: the four kinds of scripts that are refused, and those that are accepted.
* `verdict_iff`: reading a script gives its verdict.

A defect counts even where the block is one that a later block of its id replaces, and in the
first block, which is no step.  A step to start at counts only if it is not replaced.
-/

namespace ScriptedChat
namespace Scenario

open Text

variable {zone : Calendar.Zone} {text : List Char} {id : String} {e : ScenarioError}

/-! ## Defects -/

/-- What is wrong with the text of an action line in the block of an id. -/
inductive Defect (id : String) : List Char → ScenarioError → Prop
  /-- There is no colon. -/
  | noColon {text : List Char} (hcolon : ':' ∉ text) :
    Defect id text (.missingColon id (String.ofList text))
  /-- The target, which is what follows the first colon, opens a step id and does not close
  it. -/
  | unclosed {label target : List Char} (hlabel : ':' ∉ label)
    (hopen : (trim target).head? = some '(') (hclose : ')' ∉ trim target) :
    Defect id (label ++ ':' :: target) (.unclosedTarget id (String.ofList (trim target)))

/-- What is wrong with a target. -/
theorem refusal?_readTarget (id : String) (target : List Char) :
    refusal? (readTarget id target) = some e ↔
      target.head? = some '(' ∧ ')' ∉ target ∧ e = .unclosedTarget id (String.ofList target) := by
  unfold readTarget
  split
  · rename_i inner
    have hmem : ')' ∉ '(' :: inner ↔ ')' ∉ inner := by simp
    rw [hmem]
    cases hcut : cutAt? ')' inner with
    | none => simp [cutAt?_eq_none.mp hcut, eq_comm]
    | some p =>
      obtain ⟨hs, -⟩ := cutAt?_eq_some.mp hcut
      simp [hs]
  · rename_i target hopen
    refine iff_of_false (by simp) ?_
    rintro ⟨hhead, -⟩
    obtain ⟨inner, rfl⟩ := List.head?_eq_some_iff.mp hhead
    exact hopen inner rfl

/-- **An action is refused if and only if its line has a defect.** -/
theorem refusal?_readAction : refusal? (readAction id text) = some e ↔ Defect id text e := by
  unfold readAction
  split
  · rename_i label target hcut
    obtain ⟨rfl, hlabel⟩ := cutAt?_eq_some.mp hcut
    have hbind : ∀ (x : Except ScenarioError Reference) (g : Reference → Action),
        refusal? (x >>= fun r => pure (g r)) = refusal? x := fun x g => by cases x <;> rfl
    rw [hbind, refusal?_readTarget]
    constructor
    · rintro ⟨hopen, hclose, rfl⟩
      exact .unclosed hlabel hopen hclose
    · generalize hline : label ++ ':' :: target = line
      rintro (hcolon | ⟨hlabel', hopen, hclose⟩)
      · rw [← hline] at hcolon
        exact absurd (List.mem_append_right _ List.mem_cons_self) hcolon
      · have hcut' := cutAt?_eq_some.mpr ⟨hline.symm, hlabel⟩
        rw [cutAt?_eq_some.mpr ⟨rfl, hlabel'⟩] at hcut'
        obtain ⟨-, rfl⟩ := Prod.mk.inj (Option.some.inj hcut')
        exact ⟨hopen, hclose, rfl⟩
  · rename_i hcut
    have hcolon := cutAt?_eq_none.mp hcut
    rw [refusal?_error, Option.some.injEq]
    constructor
    · rintro rfl
      exact .noColon hcolon
    · rintro (- | -)
      · rfl
      · exact absurd (List.mem_append_right _ List.mem_cons_self) hcolon

/-- The action lines of a script in their order, each with the id of its block. -/
def actionLines (text : List Char) : List (String × List Char) :=
  (blocks text).flatMap fun block => (actionTexts block).map (Prod.mk (blockId block))

/-- An action line with no defect. -/
def SoundLine (line : String × List Char) : Prop := ∀ e, ¬ Defect line.1 line.2 e

/-- The first of the action lines of a script that has a defect has this one. -/
def FirstDefect (text : List Char) (e : ScenarioError) : Prop :=
  ∃ front line back, actionLines text = front ++ line :: back ∧ (∀ l ∈ front, SoundLine l) ∧
    Defect line.1 line.2 e

theorem soundLine_iff {line : String × List Char} :
    SoundLine line ↔ refusal? (readAction line.1 line.2) = none := by
  rw [SoundLine, Option.eq_none_iff_forall_ne_some]
  simp only [ne_eq, refusal?_readAction]

theorem firstDefect_iff :
    FirstDefect text e ↔
      ((actionLines text).findSome? fun l => refusal? (readAction l.1 l.2)) = some e := by
  rw [List.findSome?_eq_some_iff, FirstDefect]
  simp only [soundLine_iff, ← refusal?_readAction]
  constructor
  · rintro ⟨front, line, back, h, hfront, hline⟩
    exact ⟨front, line, back, h, hline, hfront⟩
  · rintro ⟨front, line, back, h, hline, hfront⟩
    exact ⟨front, line, back, h, hfront, hline⟩

/-- The blocks are refused for the first action line that has a defect. -/
theorem findSome?_refusal (zone : Calendar.Zone) (text : List Char) :
    ((blocks text).findSome? fun b => refusal? (readBlock zone b))
      = (actionLines text).findSome? fun l => refusal? (readAction l.1 l.2) := by
  rw [actionLines]
  induction blocks text with
  | nil => rfl
  | cons b bs ih =>
    rw [List.findSome?_cons, List.flatMap_cons, List.findSome?_append, List.findSome?_map, ih,
      refusal?_readBlock]
    dsimp only [Function.comp_def]
    cases (actionTexts b).findSome? fun t => refusal? (readAction (blockId b) t) <;> rfl

/-- If no action line has a defect, every block can be read. -/
theorem exists_read (zone : Calendar.Zone) (hsound : ∀ l ∈ actionLines text, SoundLine l) :
    ∃ read : List Step, (blocks text).map (readBlock zone) = read.map Except.ok := by
  simp only [soundLine_iff] at hsound
  simp only [← mapM_eq_ok_iff]
  rw [← refusal?_eq_none_iff, refusal?_mapM, findSome?_refusal, List.findSome?_eq_none_iff]
  exact hsound

/-! ## Steps to start at -/

/-- The heading says, in its parentheses, that conversations start here. -/
def IsImmediate (heading : List Char) : Prop :=
  ∃ title remark, trim heading = title ++ '(' :: remark ∧ '(' ∉ title ∧
    trim (dropSuffix ')' (trim remark)) = entryWord

theorem readCue_eq_immediate_iff {remark : List Char} :
    readCue zone remark = .immediate ↔ trim (dropSuffix ')' (trim remark)) = entryWord := by
  unfold readCue
  dsimp only
  split
  · rename_i h
    exact iff_of_true rfl h
  · rename_i h
    refine iff_of_false ?_ h
    split <;> exact Cue.noConfusion

/-- What marks a step as one to start at. -/
theorem readHeading_isEntry_iff (zone : Calendar.Zone) {heading : List Char} :
    (readHeading zone heading).isEntry = true ↔ IsImmediate heading := by
  rw [Step.isEntry, beq_iff_eq, readHeading, IsImmediate]
  cases hcut : cutAt? '(' (trim heading) with
  | none =>
    refine iff_of_false Cue.noConfusion ?_
    rintro ⟨title, remark, h, -⟩
    rw [h] at hcut
    exact cutAt?_eq_none.mp hcut (List.mem_append_right _ List.mem_cons_self)
  | some p =>
    dsimp only
    rw [readCue_eq_immediate_iff]
    constructor
    · intro h
      obtain ⟨hs, ha⟩ := cutAt?_eq_some.mp hcut
      exact ⟨p.1, p.2, hs, ha, h⟩
    · rintro ⟨title, remark, hs, ha, h⟩
      rw [cutAt?_eq_some.mpr ⟨hs, ha⟩, Option.some.injEq] at hcut
      rwa [← hcut]

theorem isEntry_of_readBlock {block : List Char} {step : Step}
    (h : readBlock zone block = .ok step) :
    step.isEntry = true ↔ IsImmediate (before '\n' block) := by
  rw [← readHeading_isEntry_iff zone, Step.isEntry, Step.isEntry, (readBlock_eq_ok h).2.1]

/-- The script has a step to start at: a block after the first, the last one of its id, whose
heading says so. -/
def HasEntry (text : List Char) : Prop :=
  ∃ block, IsLastOf blockId (blocks text).tail block ∧ IsImmediate (before '\n' block)

/-! ## Verdicts -/

/-- What a script is refused for, if it is. -/
inductive Verdict (text : List Char) : Option ScenarioError → Prop
  /-- Some action line has a defect, and the first such line this one. -/
  | defect {e : ScenarioError} (h : FirstDefect text e) : Verdict text (some e)
  /-- There are no blocks after the first. -/
  | noSteps (hsound : ∀ l ∈ actionLines text, SoundLine l) (hfew : (blocks text).length < 2) :
    Verdict text (some .noSteps)
  /-- There is no step to start at. -/
  | missingEntry (hsound : ∀ l ∈ actionLines text, SoundLine l)
    (hsteps : 2 ≤ (blocks text).length) (hentry : ¬ HasEntry text) :
    Verdict text (some .missingEntry)
  /-- Nothing is wrong. -/
  | accepted (hsound : ∀ l ∈ actionLines text, SoundLine l)
    (hsteps : 2 ≤ (blocks text).length) (hentry : HasEntry text) : Verdict text none

theorem readSteps_eq (zone : Calendar.Zone) (bs : List (List Char)) :
    readSteps zone bs = putAll Step.id <$> bs.mapM (readBlock zone) := by
  have hfrom : ∀ steps : List Step,
      bs.foldlM (fun steps b => (putBy Step.id · steps) <$> readBlock zone b) steps
        = (fun read => read.foldl (fun steps s => putBy Step.id s steps) steps) <$>
            bs.mapM (readBlock zone) := by
    induction bs with
    | nil => exact fun _ => rfl
    | cons b bs ih =>
      intro steps
      rw [List.foldlM_cons, List.mapM_cons]
      cases readBlock zone b with
      | error e => rfl
      | ok s =>
        refine (ih (putBy Step.id s steps)).trans ?_
        cases bs.mapM (readBlock zone) <;> rfl
  exact hfrom []

/-- A script with a block that cannot be read is refused for the first such block. -/
theorem ofText_of_refusal {text : String}
    (h : ((blocks text.toList).findSome? fun b => refusal? (readBlock zone b)) = some e) :
    ofText zone text = .error e := by
  rw [ofText]
  cases hbs : blocks text.toList with
  | nil => rw [hbs] at h; cases h
  | cons b bs =>
    rw [hbs, List.findSome?_cons] at h
    dsimp only
    cases hb : readBlock zone b with
    | error e' =>
      rw [hb] at h
      obtain rfl : e' = e := Option.some.inj h
      rfl
    | ok about =>
      rw [hb, refusal?_ok, ← refusal?_mapM, refusal?_eq_some_iff] at h
      rw [readSteps_eq, h]
      rfl

/-- A script whose blocks can be read is made up of them. -/
theorem ofText_of_read {text : String} {about : Step} {rest : List Step}
    (h : (blocks text.toList).map (readBlock zone) = (about :: rest).map Except.ok) :
    ofText zone text = assemble about (putAll Step.id rest) := by
  obtain ⟨b, bs, hbs, hb, hrest⟩ := List.map_eq_cons_iff.mp h
  rw [ofText, hbs]
  dsimp only
  rw [hb, readSteps_eq, mapM_eq_ok_iff.mpr hrest]
  rfl

/-- The steps that are kept of the blocks that have been read. -/
theorem exists_isEntry_iff {bs : List (List Char)} {rest : List Step}
    (h : bs.map (readBlock zone) = rest.map Except.ok) :
    (∃ step ∈ putAll Step.id rest, step.isEntry = true) ↔
      ∃ block, IsLastOf blockId bs block ∧ IsImmediate (before '\n' block) := by
  have hkey : ∀ b step, readBlock zone b = .ok step → step.id = blockId b := fun _ _ hb =>
    (readBlock_eq_ok hb).1
  simp only [mem_putAll_iff, isLastOf_of_map_eq h hkey]
  constructor
  · rintro ⟨step, ⟨b, hlast, hb⟩, hentry⟩
    exact ⟨b, hlast, (isEntry_of_readBlock hb).mp hentry⟩
  · rintro ⟨b, hlast, himm⟩
    have hmem : readBlock zone b ∈ rest.map Except.ok := h ▸ List.mem_map_of_mem hlast.mem
    obtain ⟨step, -, hstep⟩ := List.mem_map.mp hmem
    exact ⟨step, ⟨b, hlast, hstep.symm⟩, (isEntry_of_readBlock hstep.symm).mpr himm⟩

theorem putAll_eq_nil_iff {rest : List Step} : putAll Step.id rest = [] ↔ rest = [] := by
  rw [List.eq_nil_iff_forall_not_mem]
  simp only [mem_putAll_iff]
  constructor
  · intro h
    induction rest using List.reverseRecOn with
    | nil => rfl
    | append_singleton rest s => exact absurd (isLastOf_concat_self Step.id rest s) (h s)
  · rintro rfl a ha
    exact absurd ha.mem List.not_mem_nil

/-- What is refused of steps that have been read. -/
theorem refusal?_assemble (about : Step) (steps : List Step) :
    (steps = [] → assemble about steps = .error .noSteps) ∧
      (steps ≠ [] → (¬ ∃ step ∈ steps, step.isEntry = true) →
        assemble about steps = .error .missingEntry) ∧
      (steps ≠ [] → (∃ step ∈ steps, step.isEntry = true) → ∃ s, assemble about steps = .ok s) := by
  unfold assemble
  refine ⟨fun h => by rw [h]; rfl, fun hne hno => ?_, fun hne ⟨step, hmem, hentry⟩ => ?_⟩
  · rw [if_neg (by simpa using hne), List.filter_eq_nil_iff.mpr fun s hs he => hno ⟨s, hs, he⟩]
    rfl
  · rw [if_neg (by simpa using hne)]
    cases hlast : (steps.filter Step.isEntry).getLast? with
    | none =>
      rw [List.getLast?_eq_none_iff, List.filter_eq_nil_iff] at hlast
      exact absurd hentry (hlast step hmem)
    | some entry => exact ⟨_, rfl⟩

/-- Two blocks or more that can be read leave steps. -/
theorem read_of_two (zone : Calendar.Zone) (hsound : ∀ l ∈ actionLines text, SoundLine l)
    (hmany : 2 ≤ (blocks text).length) :
    ∃ about rest, (blocks text).map (readBlock zone) = (about :: rest).map Except.ok ∧
      putAll Step.id rest ≠ [] ∧
      ((∃ step ∈ putAll Step.id rest, step.isEntry = true) ↔ HasEntry text) := by
  obtain ⟨read, hread⟩ := exists_read zone hsound
  have hlength := congrArg List.length hread
  rw [List.length_map, List.length_map] at hlength
  obtain ⟨about, rest, rfl⟩ : ∃ about rest, read = about :: rest :=
    List.exists_cons_of_length_pos (by omega)
  refine ⟨about, rest, hread, ?_, ?_⟩
  · rw [Ne, putAll_eq_nil_iff]
    rintro rfl
    rw [List.length_singleton] at hlength
    omega
  · obtain ⟨b, bs, hbs, -, hrest⟩ := List.map_eq_cons_iff.mp hread
    rw [exists_isEntry_iff hrest, HasEntry, hbs, List.tail_cons]

/-- Reading a script gives its verdict. -/
theorem refusal?_of_verdict {text : String} {v : Option ScenarioError}
    (h : Verdict text.toList v) : refusal? (ofText zone text) = v := by
  cases h with
  | defect h =>
    refine refusal?_eq_some_iff.mpr (ofText_of_refusal ?_)
    rw [findSome?_refusal]
    exact firstDefect_iff.mp h
  | noSteps hsound hfew =>
    obtain ⟨read, hread⟩ := exists_read zone hsound
    cases read with
    | nil =>
      rw [ofText, List.map_eq_nil_iff.mp hread]
      rfl
    | cons about rest =>
      have hlength := congrArg List.length hread
      rw [List.length_map, List.length_map, List.length_cons] at hlength
      have hrest : rest = [] := List.eq_nil_of_length_eq_zero (by omega)
      rw [ofText_of_read hread, (refusal?_assemble about _).1 (putAll_eq_nil_iff.mpr hrest),
        refusal?_error]
  | missingEntry hsound hmany hentry =>
    obtain ⟨about, rest, hread, hne, hiff⟩ := read_of_two zone hsound hmany
    rw [ofText_of_read hread, (refusal?_assemble about _).2.1 hne (mt hiff.mp hentry),
      refusal?_error]
  | accepted hsound hmany hentry =>
    obtain ⟨about, rest, hread, hne, hiff⟩ := read_of_two zone hsound hmany
    obtain ⟨s, hs⟩ := (refusal?_assemble about _).2.2 hne (hiff.mpr hentry)
    rw [ofText_of_read hread, hs, refusal?_ok]

/-- Every script has a verdict. -/
theorem exists_verdict (text : List Char) : ∃ v, Verdict text v := by
  by_cases hsound : ∀ l ∈ actionLines text, SoundLine l
  · by_cases hmany : 2 ≤ (blocks text).length
    · by_cases hentry : HasEntry text
      · exact ⟨_, .accepted hsound hmany hentry⟩
      · exact ⟨_, .missingEntry hsound hmany hentry⟩
    · exact ⟨_, .noSteps hsound (by omega)⟩
  · have hsome : (actionLines text).findSome? (fun l => refusal? (readAction l.1 l.2)) ≠ none := by
      rw [Ne, List.findSome?_eq_none_iff]
      simpa only [soundLine_iff] using hsound
    obtain ⟨e, he⟩ := Option.ne_none_iff_exists'.mp hsome
    exact ⟨_, .defect (firstDefect_iff.mpr he)⟩

/-- **A script is refused exactly for its first defect, or else for what is missing as a
whole, and is accepted otherwise.** -/
theorem ofText_gives_verdict (zone : Calendar.Zone) (text : String) :
    (∀ e, ofText zone text = .error e ↔ Verdict text.toList (some e)) ∧
      ((∃ s, ofText zone text = .ok s) ↔ Verdict text.toList none) := by
  obtain ⟨v, hv⟩ := exists_verdict text.toList
  have hiff : ∀ v', refusal? (ofText zone text) = v' ↔ Verdict text.toList v' := by
    refine fun v' => ⟨fun h => ?_, refusal?_of_verdict⟩
    rw [← h, refusal?_of_verdict hv]
    exact hv
  exact ⟨fun e => refusal?_eq_some_iff.symm.trans (hiff _),
    refusal?_eq_none_iff.symm.trans (hiff _)⟩

end Scenario
end ScriptedChat
