import ScriptedChat.Proofs.Chat.Going
import ScriptedChat.Proofs.Scenario.Faults
import ScriptedChat.Proofs.Scenario.Lookup

/-!
# What can be relied on in a scenario that has been read

Whoever plays a scenario goes by it without checking it: the step to start at is looked up by
its id, timers are numbered by the places of actions, keyboards are shown as they are stored.
All of this is put together on the way by replacing, noting down and indexing.  Here it is
said, for every script that is accepted, what comes out.

* `Reading`: a step, in terms of its block.
* `IsLastAction`, `action_of_mem_buttons`: what a label on its keyboard stands for.
* `WellFormed`: a scenario, in terms of the blocks of its script after the first.
* `wellFormed_of_ofText`: every scenario that is read is well formed.
-/

namespace ScriptedChat
namespace Scenario

open Text

variable {zone : Calendar.Zone} {block : List Char} {step : Step} {s : Scenario}

/-! ## Steps -/

/-- The step is that of the block. -/
structure Reading (zone : Calendar.Zone) (block : List Char) (step : Step) : Prop where
  id : step.id = blockId block
  cue : step.cue = (readHeading zone (before '\n' block)).cue
  body : step.body = bodyLines block
  /-- No label comes twice. -/
  names_nodup : (step.actions.map Action.name).Nodup
  /-- A label stands where it came first ... -/
  names : step.actions.map Action.name = ((actionTexts block).map label).eraseDups
  /-- ... and means what its last line says. -/
  mem_actions : ∀ a, a ∈ step.actions ↔
    ∃ text, IsLastOf label (actionTexts block) text ∧ readAction (blockId block) text = .ok a
  action?_eq_some : ∀ name a, step.action? name = some a ↔ a ∈ step.actions ∧ a.name = name
  /-- The keyboard has the labels that are not in parentheses, in the order of the actions ... -/
  buttons : step.buttons =
    (step.actions.filter fun a => a.name.toList.head? ≠ some '(').map Action.name
  /-- ... none of them twice ... -/
  buttons_nodup : step.buttons.Nodup
  /-- ... and none of an action that runs by itself. -/
  notMem_buttons : ∀ a ∈ step.actions, a.isDelayed = true → a.name ∉ step.buttons

/-- Where labels are distinct, every action is found under its own. -/
theorem action?_eq_some_iff (hnodup : (step.actions.map Action.name).Nodup) {name : String}
    {a : Action} : step.action? name = some a ↔ a ∈ step.actions ∧ a.name = name := by
  rw [Step.action?]
  constructor
  · intro h
    exact ⟨List.mem_of_find?_eq_some h, by simpa using List.find?_some h⟩
  · rintro ⟨hmem, rfl⟩
    cases hfind : step.actions.find? fun b => b.name == a.name with
    | none => exact absurd (beq_self_eq_true a.name) (List.find?_eq_none.mp hfind a hmem)
    | some b =>
      have hb : b.name = a.name := by simpa using List.find?_some hfind
      rw [List.inj_on_of_nodup_map hnodup (List.mem_of_find?_eq_some hfind) hmem hb]

theorem isPlain_iff {name : String} : isPlain name = true ↔ name.toList.head? ≠ some '(' := by
  rw [isPlain, Bool.not_eq_true', beq_eq_false_iff_ne]

/-- The keyboard of a step that has been filled. -/
theorem Kept.buttons_eq (h : Kept step) :
    step.buttons
      = (step.actions.filter fun a => a.name.toList.head? ≠ some '(').map Action.name := by
  rw [h.buttons, List.filter_map]
  refine congrArg (List.map Action.name) (List.filter_congr fun a _ => ?_)
  rw [Function.comp_apply, Bool.eq_iff_iff, isPlain_iff, decide_eq_true_iff]

/-- An action that runs by itself has its label in parentheses, so it is not on the keyboard. -/
theorem Kept.notMem_buttons (h : Kept step) {a : Action} (ha : a.isDelayed = true) :
    a.name ∉ step.buttons := by
  intro hmem
  rw [h.buttons] at hmem
  have hplain := isPlain_iff.mp (List.mem_filter.mp hmem).2
  exact hplain (beq_iff_eq.mp (Action.isAnnotated_of_isDelayed ha))

/-- **A block that is not refused gives its step.** -/
theorem reading_of_readBlock (h : readBlock zone block = .ok step) : Reading zone block step := by
  obtain ⟨hid, hcue, hbody, hkept, acts, hacts, hactions⟩ := readBlock_eq_ok h
  have hname : ∀ text a, readAction (blockId block) text = .ok a → a.name = label text :=
    fun _ _ => name_of_readAction
  refine ⟨hid, hcue, hbody, hkept.names_nodup, ?_, fun a => ?_,
    fun name a => action?_eq_some_iff hkept.names_nodup, hkept.buttons_eq, ?_,
    fun a _ => hkept.notMem_buttons⟩
  · rw [hactions, map_putAll, map_key_of_map_eq hacts hname]
  · rw [hactions, mem_putAll_iff, isLastOf_of_map_eq hacts hname]
  · rw [hkept.buttons]
    exact hkept.names_nodup.filter _

/-- What an action of a step refers to is what its target says. -/
theorem reference_of_mem_actions (h : readBlock zone block = .ok step) {a : Action}
    (ha : a ∈ step.actions) : readTarget (blockId block) a.target.toList = .ok a.reference := by
  obtain ⟨text, -, htext⟩ := ((reading_of_readBlock h).mem_actions a).mp ha
  exact reference_of_readAction htext

/-- If the target does not begin with a parenthesis, it is a message as a whole. -/
theorem reference_of_plain (h : readBlock zone block = .ok step) {a : Action}
    (ha : a ∈ step.actions) (hplain : a.target.toList.head? ≠ some '(') :
    a.reference = ⟨none, a.target⟩ := by
  have href := reference_of_mem_actions h ha
  rw [readTarget_of_head? hplain, String.ofList_toList] at href
  exact (Except.ok.inj href).symm

/-- Of all that a block says about a label, the action is what it says last. -/
def IsLastAction (block : List Char) (name : String) (a : Action) : Prop :=
  ∃ text, IsLastOf label (actionTexts block) text ∧ label text = name
    ∧ readAction (blockId block) text = .ok a

/-- **A label on the keyboard stands for what the block says last about it**, and this is found under
it. -/
theorem action_of_mem_buttons (h : readBlock zone block = .ok step) {name : String}
    (hname : name ∈ step.buttons) :
    ∃ a, IsLastAction block name a ∧ a ∈ step.actions ∧ step.action? name = some a := by
  have hreading := reading_of_readBlock h
  rw [hreading.buttons] at hname
  obtain ⟨a, hbutton, rfl⟩ := List.mem_map.mp hname
  have hmem : a ∈ step.actions := (List.mem_filter.mp hbutton).1
  obtain ⟨text, hlast, hread⟩ := (hreading.mem_actions a).mp hmem
  exact ⟨a, ⟨text, hlast, (name_of_readAction hread).symm, hread⟩, hmem,
    (hreading.action?_eq_some _ _).mpr ⟨hmem, rfl⟩⟩

/-- There are no blanks around it. -/
theorem IsLastAction.trim_name {name : String} {a : Action} (h : IsLastAction block name a) :
    trim name.toList = name.toList := by
  obtain ⟨text, -, rfl, -⟩ := h
  exact trim_label text

/-! ## Scenarios -/

/-- The scenario is one that can be played, and its steps are those of the blocks. -/
structure WellFormed (zone : Calendar.Zone) (bs : List (List Char)) (s : Scenario) : Prop where
  /-- No id comes twice. -/
  ids_nodup : (s.steps.map Step.id).Nodup
  /-- An id stands where it came first ... -/
  ids : s.steps.map Step.id = (bs.map blockId).eraseDups
  /-- ... and its step is that of its last block. -/
  mem_steps : ∀ step, step ∈ s.steps ↔
    ∃ block, IsLastOf blockId bs block ∧ readBlock zone block = .ok step
  reading : ∀ step ∈ s.steps, ∃ block, IsLastOf blockId bs block ∧ Reading zone block step
  /-- Every step is found under its id ... -/
  step?_eq_some : ∀ id step, s.step? id = some step ↔ step ∈ s.steps ∧ step.id = id
  /-- ... and nothing under any other text. -/
  step?_eq_none : ∀ id, s.step? id = none ↔ id ∉ s.steps.map Step.id
  /-- The step to start at is one of the steps, ... -/
  entry_mem : ∃ i : Nat, s.steps[i]? = some s.entry
  /-- ... marked as such, ... -/
  entry_immediate : s.entry.isEntry = true
  /-- ... and found under its id, ... -/
  step?_entry : s.step? s.entry.id = some s.entry
  /-- ... so a move to it is never refused, and ends on it. -/
  moveTo_entry : ∀ (τ : Type) (g : Setting) (t : Scene τ), g.scenario = s →
    ((Chat.moveTo g s.entry.id).run t).1 ≠ .ok false ∧
      ((Chat.moveTo g s.entry.id).run t).2.chat.stepId = some s.entry.id
  /-- No step both starts conversations and comes up at a moment. -/
  not_both : ∀ step ∈ s.steps, ¬ (step.isEntry = true ∧ step.scheduledAt?.isSome = true)

/-- What a scenario that is accepted is made of. -/
theorem parts_of_ofText {text : String} (h : ofText zone text = .ok s) :
    ∃ about rest, (blocks text.toList).map (readBlock zone) = (about :: rest).map Except.ok ∧
      s.steps = putAll Step.id rest ∧ (s.steps.filter Step.isEntry).getLast? = some s.entry := by
  have hread : ∃ read, (blocks text.toList).mapM (readBlock zone) = .ok read := by
    rw [← refusal?_eq_none_iff, refusal?_mapM, Option.eq_none_iff_forall_ne_some]
    intro e he
    rw [ofText_of_refusal he] at h
    cases h
  obtain ⟨read, hread⟩ := hread
  rw [mapM_eq_ok_iff] at hread
  cases read with
  | nil =>
    rw [ofText, List.map_eq_nil_iff.mp hread] at h
    cases h
  | cons about rest =>
    refine ⟨about, rest, hread, ?_⟩
    rw [ofText_of_read hread, assemble] at h
    split at h
    · cases h
    · split at h
      · rename_i entry hlast
        obtain rfl := Except.ok.inj h
        exact ⟨rfl, hlast⟩
      · cases h

/-- A step that is found is that of the last block with its id. -/
theorem lastBlock_of_step? {text id : String} (h : ofText zone text = .ok s)
    (hstep : s.step? id = some step) :
    ∃ block, IsLastOf blockId (blocks text.toList).tail block
      ∧ readBlock zone block = .ok step ∧ blockId block = id := by
  obtain ⟨about, rest, hread, hsteps, -⟩ := parts_of_ofText h
  obtain ⟨first, later, hblocks, -, hlater⟩ := List.map_eq_cons_iff.mp hread
  have hkey : ∀ b step, readBlock zone b = .ok step → step.id = blockId b := fun _ _ hb =>
    (readBlock_eq_ok hb).1
  have hnodup : (s.steps.map Step.id).Nodup := hsteps ▸ nodup_map_putAll Step.id rest
  obtain ⟨hmem, hid⟩ := (step?_eq_some_iff hnodup).mp hstep
  rw [hsteps, mem_putAll_iff, isLastOf_of_map_eq hlater hkey] at hmem
  obtain ⟨block, hlast, hblock⟩ := hmem
  rw [hblocks, List.tail_cons]
  exact ⟨block, hlast, hblock, (hkey block step hblock).symm.trans hid⟩

/-- A move to a step that the scenario has is made, even if it cannot be kept. -/
theorem moveTo_of_step? {τ : Type} {g : Setting} {id : String} (h : g.scenario.step? id = some step)
    (t : Scene τ) :
    ((Chat.moveTo g id).run t).1 ≠ .ok false ∧
      ((Chat.moveTo g id).run t).2.chat.stepId = some step.id := by
  have hchat := Chat.chat_save g (Chat.enterStep step t)
  rw [Chat.moveTo_run_of_some h]
  generalize (Chat.save g).run (Chat.enterStep step t) = saved at hchat ⊢
  obtain ⟨_ | _, u⟩ := saved
  · exact ⟨nofun, congrArg Chat.stepId hchat⟩
  · exact ⟨nofun, congrArg Chat.stepId hchat⟩

/-- **Every scenario that is read is well formed.** -/
theorem wellFormed_of_ofText {text : String} (h : ofText zone text = .ok s) :
    WellFormed zone (blocks text.toList).tail s := by
  obtain ⟨about, rest, hread, hsteps, hlast⟩ := parts_of_ofText h
  obtain ⟨b, bs, hbs, -, hrest⟩ := List.map_eq_cons_iff.mp hread
  rw [hbs, List.tail_cons]
  have hkey : ∀ b step, readBlock zone b = .ok step → step.id = blockId b := fun _ _ hb =>
    (readBlock_eq_ok hb).1
  have hnodup : (s.steps.map Step.id).Nodup := hsteps ▸ nodup_map_putAll Step.id rest
  obtain ⟨hmem, hentry⟩ := List.mem_filter.mp (List.mem_of_getLast? hlast)
  have hstep : s.step? s.entry.id = some s.entry := (step?_eq_some_iff hnodup).mpr ⟨hmem, rfl⟩
  have hsteps_iff : ∀ step, step ∈ s.steps ↔
      ∃ block, IsLastOf blockId bs block ∧ readBlock zone block = .ok step := fun step => by
    rw [hsteps, mem_putAll_iff, isLastOf_of_map_eq hrest hkey]
  exact {
    ids_nodup := hnodup
    ids := by rw [hsteps, map_putAll, map_key_of_map_eq hrest hkey]
    mem_steps := hsteps_iff
    reading := fun step hstep =>
      let ⟨block, hlastOf, hblock⟩ := (hsteps_iff step).mp hstep
      ⟨block, hlastOf, reading_of_readBlock hblock⟩
    step?_eq_some := fun _ _ => step?_eq_some_iff hnodup
    step?_eq_none := fun _ => step?_eq_none_iff
    entry_mem := List.mem_iff_getElem?.mp hmem
    entry_immediate := hentry
    step?_entry := hstep
    moveTo_entry := fun _ _ t hg => moveTo_of_step? (hg ▸ hstep) t
    not_both := by
      rintro step - ⟨hentry, hdated⟩
      rw [Step.isEntry, beq_iff_eq] at hentry
      rw [Step.scheduledAt?, hentry] at hdated
      cases hdated }

/-- A script in which a step comes again, and in it a label. -/
def tour : String :=
  "# Tour\n## Step 1 (immediate)\nHello\n\n## Step 2\nBye\n\n" ++
    "## Step 1 (immediate)\nHello again\n+ Yes: (2)\n+ (1h): Late\n+ Yes: (1) Once more\n"

/-- The step that comes again has its place, and the label that comes again is on the keyboard
once. -/
theorem wellFormed_tour : ∃ s, ofText .universal tour = .ok s ∧
    WellFormed .universal (blocks tour.toList).tail s ∧ s.steps.map Step.id = ["1", "2"] ∧
    s.entry.text = "Hello again" ∧ s.entry.buttons = ["Yes"] := by
  have hread : (ofText .universal tour).toOption.map (fun s => (s.steps.map Step.id,
      s.entry.text, s.entry.buttons)) = some (["1", "2"], "Hello again", ["Yes"]) := by
    decide +kernel
  cases h : ofText .universal tour with
  | error e => rw [h] at hread; cases hread
  | ok s =>
    rw [h] at hread
    have hread := Option.some.inj hread
    rw [Prod.mk.injEq, Prod.mk.injEq] at hread
    obtain ⟨hids, htext, hbuttons⟩ := hread
    exact ⟨s, rfl, wellFormed_of_ofText h, hids, htext, hbuttons⟩

end Scenario
end ScriptedChat
