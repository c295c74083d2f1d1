import ScriptedChat.Proofs.Bot.Saving
import ScriptedChat.Proofs.Chat.Failing
import ScriptedChat.Proofs.Scenario.WellFormed

/-!
# Where an action leads

An action of a step is done in one of two ways.  Its label is written in the chat, and then what it
refers to is followed (`Chat.follow`).  Or its timer rings, and when the note is handled the action is
run (`Chat.runAction`).  The two go about it differently.  The first one sends the text that is
referred to, and then looks for the step; the second one looks for the step, and sends the whole
target if there is none.

## What becomes of a scene

Messages on the way may be refused for good, and then the chat becomes inactive and is kept as such.
So of the scene that is left it is said which one it would be if nothing had been sent, which requests
were posted, and that the chat has heeded what became of them (`Chat.Tells`).  Nothing else but the
disk is left open by this.  So two scenes that are told of the same one, with the same requests, differ
in their disks at most.

When the chat moves, all timers are given up.  So it makes no difference afterwards that the timer
that has rung was marked before.

* `Chat.Tells`, `Chat.tells_send`, `Chat.Tells.eq`: scenes that differ in what was sent.
* `Chat.messages`, `Chat.destination`, `Chat.tells_follow`: where a reference leads.
* `Chat.tells_runAction`: where the action of a timer leads.
* `Chat.timer_and_label_do_the_same`: **it makes no difference whether a timer rings or its label is
  written**.
-/

namespace ScriptedChat

variable {τ : Type} {g : Setting}

namespace Chat

/-! ## What becomes of a scene -/

section

variable [Transport τ] {s t u : Scene τ} {qs rs : List Request}

/-- The scene is what another one becomes when some requests are posted and what becomes of them is
heeded.  Of the disk nothing is said. -/
structure Tells (qs : List Request) (s t : Scene τ) : Prop where
  posted : World.Posted qs s.world t.world
  now : t.world.now = s.world.now
  tickets : t.world.tickets = s.world.tickets
  chat : t.chat = { s.chat with active := t.chat.active }
  active : t.chat.active = false
    ↔ s.chat.active = false ∨ Refused s.chat.id (s.world.answers t.world)

namespace Tells

theorem id (h : Tells qs s t) : t.chat.id = s.chat.id := by rw [h.chat]

theorem stepId (h : Tells qs s t) : t.chat.stepId = s.chat.stepId := by rw [h.chat]

theorem step? (h : Tells qs s t) (scenario : Scenario) :
    t.chat.step? scenario = s.chat.step? scenario := by rw [h.chat]; rfl

theorem trans (h : Tells qs s t) (h' : Tells rs t u) : Tells (qs ++ rs) s u where
  posted := h.posted.trans h'.posted
  now := h'.now.trans h.now
  tickets := h'.tickets.trans h.tickets
  chat := by rw [h'.chat, h.chat]
  active := by
    rw [h.posted.answers_trans h'.posted, refused_append, h'.active, h.active, h.id, or_assoc]

/-- To enter a step afterwards is the same as before. -/
theorem enterStep (h : Tells qs s t) (step : Step) :
    Tells qs (Chat.enterStep step s) (Chat.enterStep step t) where
  posted := ⟨h.posted.outbox, h.posted.transport⟩
  now := h.now
  tickets := by
    rw [Chat.enterStep, Chat.enterStep]
    dsimp only
    rw [h.now, h.tickets]
  chat := by
    rw [Chat.enterStep, Chat.enterStep]
    dsimp only
    rw [h.now, h.tickets, h.chat]
  active := h.active

/-- Whether nobody could be reached is told by the requests. -/
theorem active_eq {s' : Scene τ} (h : Tells qs s t) (h' : Tells qs s' u)
    (hid : s'.chat.id = s.chat.id) (hactive : s'.chat.active = s.chat.active)
    (htransport : s'.world.transport = s.world.transport) : u.chat.active = t.chat.active := by
  rw [Bool.eq_iff_iff, ← not_iff_not, Bool.not_eq_true, Bool.not_eq_true, h'.active, h.active,
    h'.posted.answers_eq, h.posted.answers_eq, hid, hactive, htransport]

/-- **What is told of the same scene with the same requests differs in the disk at most.** -/
theorem eq (h : Tells qs s t) (h' : Tells qs s u) :
    u.chat = t.chat ∧ u.world = { t.world with disk := u.world.disk } := by
  refine ⟨?_, ?_⟩
  · rw [h'.chat, h.chat, h.active_eq h' rfl rfl rfl]
  · obtain ⟨c, ⟨now, disk, transport, outbox, tickets⟩⟩ := u
    obtain ⟨⟨houtbox, htransport⟩, hnow, htickets, -, -⟩ := h'
    dsimp only at houtbox htransport hnow htickets ⊢
    rw [houtbox, htransport, hnow, htickets, h.posted.outbox, h.posted.transport, h.now, h.tickets]

end Tells

/-- To keep a chat changes the disk only. -/
theorem tells_save (g : Setting) (s : Scene τ) : Tells [] s ((Chat.save g).run s).2 := by
  have hactive := (heeds_save g s).active
  rw [save_run_snd] at hactive ⊢
  exact ⟨.nil rfl rfl, rfl, rfl, rfl, hactive⟩

/-- A message is posted, and heeded. -/
theorem tells_send (g : Setting) (text : String) (buttons : Option (List String)) (s : Scene τ) :
    Tells [.message s.chat.id text buttons] s ((Chat.send g text buttons).run s).2 := by
  have hactive := (heeds_send g text buttons s).active
  have hposted := World.Posted.post (.message s.chat.id text buttons) s.world
  by_cases h : IsRefused s text buttons
  · rw [send_of_isRefused g h, save_run_snd] at hactive ⊢
    exact ⟨⟨hposted.outbox, hposted.transport⟩, rfl, rfl, rfl, hactive⟩
  · rw [send_of_not_isRefused g h] at hactive ⊢
    exact ⟨hposted, rfl, rfl, rfl, hactive⟩

/-- The message of a text, if there is one. -/
def saying (id text : String) : List Request :=
  if text.isEmpty then [] else [.message id text none]

theorem tells_sendText (g : Setting) (text : String) (s : Scene τ) :
    Tells (saying s.chat.id text) s ((Chat.sendText g text).run s).2 := by
  rw [saying, Chat.sendText]
  split
  · exact ⟨.nil rfl rfl, rfl, rfl, rfl, ((isSendCourse_heeds g).refl s).active⟩
  · exact tells_send g text none s

/-! ## Where a reference leads -/

/-- The step that a reference leads to, if the scenario has it. -/
def next? (g : Setting) (r : Reference) : Option Step := r.step.bind g.scenario.step?

/-- The scene at the place that a reference leads to. -/
def destination (g : Setting) (r : Reference) (s : Scene τ) : Scene τ :=
  match next? g r with
  | some step => Chat.enterStep step s
  | none => s

/-- To go there afterwards is the same as before. -/
theorem Tells.destination (h : Tells qs s t) (r : Reference) :
    Tells qs (Chat.destination g r s) (Chat.destination g r t) := by
  rw [Chat.destination, Chat.destination]
  split
  · exact h.enterStep _
  · exact h

/-- What is sent on the way: the text that is referred to, and the step that is shown. -/
def messages (g : Setting) (r : Reference) (id : String) : List Request :=
  saying id r.text ++ ((next? g r).map fun step => .message id step.text (some step.buttons)).toList

/-- Without a step to go to, there is the text at most. -/
theorem messages_of_nowhere {r : Reference} (hnext : next? g r = none) (id : String) :
    messages g r id = saying id r.text := by
  rw [messages, hnext, Option.map_none, Option.toList_none, List.append_nil]

/-- A chat that has said something, has moved, and has shown its step. -/
theorem tells_arrival {text id : String} {step : Step} {moved : Bool}
    (hstep : g.scenario.step? id = some step) {v : Scene τ}
    (hsend : (Chat.sendText g text).run s = (.ok (), u))
    (hmove : (Chat.moveTo g id).run u = (.ok moved, v))
    (hshow : (Chat.showStep g).run v = (.ok (), t)) :
    Tells (saying s.chat.id text ++ [.message s.chat.id step.text (some step.buttons)])
      (Chat.enterStep step s) t := by
  have hsaid := tells_sendText g text s
  rw [hsend] at hsaid
  have hsaved := tells_save g (Chat.enterStep step u)
  have hmoved := moveTo_run_snd hstep u
  rw [hmove] at hmoved
  rw [← hmoved] at hsaved
  have hthere := (hsaid.enterStep step).trans hsaved
  have hself : v.chat.step? g.scenario = some step := by
    have hlabel : v.chat.stepLabel = step.id := by
      rw [stepLabel, hthere.stepId]
      rfl
    rw [step?, hlabel, step?_id hstep, hstep]
  have hshown := tells_send g step.text (some step.buttons) v
  rw [← showStep_run g hself, hshow] at hshown
  have hid : v.chat.id = s.chat.id := hthere.id
  rw [hid] at hshown
  rw [List.append_nil] at hthere
  exact hthere.trans hshown

/-- **Where a reference leads that is followed.** -/
theorem tells_follow {r : Reference} (hrun : (Chat.follow g r).run s = (.ok (), t)) :
    Tells (messages g r s.chat.id) (destination g r s) t := by
  obtain ⟨_, u, hsend, hrest⟩ := Action.of_run_bind_ok hrun
  have hsaid := tells_sendText g r.text s
  rw [hsend] at hsaid
  cases hnext : next? g r with
  | none =>
    -- There is no step to go to, or the scenario does not have it.
    rw [messages_of_nowhere hnext, destination, hnext]
    have hstays : t = u := by
      cases hid : r.step with
      | none =>
        rw [hid] at hrest
        cases hrest
        rfl
      | some id =>
        rw [next?, hid, Option.bind_some] at hnext
        rw [hid] at hrest
        obtain ⟨moved, v, hmove, hrest⟩ := Action.of_run_bind_ok hrest
        rw [moveTo_run_of_none hnext] at hmove
        cases hmove
        cases hrest
        rfl
    exact hstays ▸ hsaid
  | some step =>
    rw [messages, destination, hnext]
    obtain ⟨id, hid, hstep⟩ := Option.bind_eq_some_iff.mp hnext
    rw [hid] at hrest
    obtain ⟨moved, v, hmove, hshow⟩ := Action.of_run_bind_ok hrest
    obtain rfl : moved = true := by
      rw [moveTo_run_of_some hstep] at hmove
      split at hmove <;> cases hmove
      rfl
    exact tells_arrival hstep hsend hmove hshow

/-- **Where the action of a timer leads.**  A target that names no step of the scenario is a message
as a whole. -/
theorem tells_runAction {a : Action} (hrun : (Chat.runAction g a).run s = (.ok (), t)) :
    (∀ step, next? g a.reference = some step →
        Tells (messages g a.reference s.chat.id) (Chat.enterStep step s) t)
      ∧ (next? g a.reference = none → Tells [.message s.chat.id a.target none] s t) := by
  rw [Chat.runAction] at hrun
  split at hrun
  · rename_i step hstep
    have hnext : next? g a.reference = some step := hstep
    constructor
    · intro step' hstep'
      obtain rfl := Option.some.inj (hnext.symm.trans hstep')
      obtain ⟨id, -, hid⟩ := Option.bind_eq_some_iff.mp hnext
      have hself : g.scenario.step? step.id = some step := by rw [step?_id hid, hid]
      obtain ⟨_, u, hsend, hrest⟩ := Action.of_run_bind_ok hrun
      obtain ⟨moved, v, hmove, hshow⟩ := Action.of_run_bind_ok hrest
      rw [messages, hnext]
      exact tells_arrival hself hsend hmove hshow
    · intro hnone
      rw [hnext] at hnone
      cases hnone
  · rename_i hstep
    have hnext : next? g a.reference = none := hstep
    constructor
    · intro step' hstep'
      rw [hnext] at hstep'
      cases hstep'
    · intro _
      obtain ⟨_, u, hsend, hsave⟩ := Action.of_run_bind_ok hrun
      have hsent := tells_send g a.target none s
      have hkept := tells_save g u
      rw [hsend] at hsent
      rw [hsave] at hkept
      exact hsent.trans hkept

/-! ## Timers and labels -/

/-- The label of an action is written at its step. -/
theorem handleInput_run {step : Step} {text : String} {a : Action}
    (hstep : s.chat.step? g.scenario = some step) (ha : step.action? text = some a) :
    (Chat.handleInput g text).run s = (Chat.follow g a.reference).run s := by
  rw [Chat.handleInput, Action.run_get_bind]
  dsimp only
  rw [hstep]
  dsimp only
  rw [ha]

/-- Then the chat goes where the action leads. -/
theorem tells_handleInput {step : Step} {text : String} {a : Action}
    (hstep : s.chat.step? g.scenario = some step) (ha : step.action? text = some a)
    (hrun : (Chat.handleInput g text).run s = (.ok (), t)) :
    Tells (messages g a.reference s.chat.id) (destination g a.reference s) t := by
  rw [handleInput_run hstep ha] at hrun
  exact tells_follow hrun

/-- So it does with the note of a timer.  On the way to a step the timers are given up, so it does
not matter there that this one was marked before. -/
theorem tells_handleNote {n : Elapsed} {x : ActionTimer} (hx : s.chat.awaited? n = some x)
    (hrun : (Chat.handleNote g n).run s = (.ok (), t)) :
    (∀ step, next? g x.action.reference = some step →
        Tells (messages g x.action.reference s.chat.id) (Chat.enterStep step s) t)
      ∧ (next? g x.action.reference = none →
        Tells [.message s.chat.id x.action.target none]
          { s with chat := markHandled n.slot x s.chat } t) := by
  rw [handleNote_run, hx] at hrun
  exact tells_runAction hrun

/-- A message as a whole leads nowhere, and is all that is sent. -/
theorem messages_of_plain {text : String} (htext : text ≠ "") (id : String) :
    next? g ⟨none, text⟩ = none ∧ messages g ⟨none, text⟩ id = [.message id text none] := by
  have hempty : ¬text.isEmpty = true := by simpa using htext
  have hnowhere : next? g ⟨none, text⟩ = none := rfl
  refine ⟨hnowhere, ?_⟩
  rw [messages_of_nowhere hnowhere, saying, if_neg hempty]

/-- A chat that has moved is not what it was. -/
theorem Tells.ne_of_enterStep {next : Step} (h : Tells qs (Chat.enterStep next s) t) :
    t.chat ≠ s.chat := by
  intro hsame
  have hgeneration := congrArg Chat.generation (h.chat.symm.trans hsame)
  exact Nat.succ_ne_self s.chat.generation hgeneration

/-- Nor is a chat of which an open timer was marked. -/
theorem Tells.ne_of_markHandled {slot : Nat} {x : ActionTimer} (hx : s.chat.timers[slot]? = some x)
    (hopen : x.handled = false)
    (h : Tells qs { s with chat := markHandled slot x s.chat } t) : t.chat ≠ s.chat := by
  intro hsame
  have hlt : slot < s.chat.timers.length := (List.getElem?_eq_some_iff.mp hx).1
  have hdone := congrArg (·.timers[slot]?) (h.chat.symm.trans hsame)
  dsimp only [markHandled] at hdone
  rw [List.getElem?_set_self hlt, hx, Option.some.injEq] at hdone
  have hhandled := congrArg ActionTimer.handled hdone
  rw [hopen] at hhandled
  cases hhandled

/-- **It makes no difference whether a timer rings or its label is written.**

Take an action of the step that a chat is on, with a timer whose note has not been handled, and a
store that works for the chat.  If the action leads to a step, both ways post the same requests and
end with the same chat, and this is what is loaded for it.  If its target is a message as a whole, it
is the only request in both.  Then the chat is as it was, but for its activity and for the timer that
has rung, which is done. -/
theorem timer_and_label_do_the_same {zone : Calendar.Zone} {text : String}
    (htext : Scenario.ofText zone text = .ok g.scenario) {c : Chat} {step : Step}
    (hstep : c.step? g.scenario = some step) {slot : Nat} {x : ActionTimer}
    (hx : c.timers[slot]? = some x) (haction : x.action ∈ step.delayedActions)
    (hopen : x.handled = false) {w : World τ} (hworks : g.store.Works c.id w.disk) :
    ∃ rung typed : Scene τ,
      (Chat.handleNote g (c.note slot)).run ⟨c, w⟩ = (.ok (), rung)
        ∧ (Chat.handleInput g x.action.name).run ⟨c, w⟩ = (.ok (), typed)
        ∧ (∀ next, next? g x.action.reference = some next →
          rung.chat = typed.chat ∧ rung.world = { typed.world with disk := rung.world.disk }
            ∧ Tells (messages g x.action.reference c.id) (Chat.enterStep next ⟨c, w⟩) typed
            ∧ IsSaved g rung ∧ IsSaved g typed)
        ∧ (x.action.target ≠ "" → x.action.target.toList.head? ≠ some '(' →
          Tells [.message c.id x.action.target none] ⟨markHandled slot x c, w⟩ rung
            ∧ Tells [.message c.id x.action.target none] ⟨c, w⟩ typed
            ∧ rung.chat.active = typed.chat.active
            ∧ rung.chat.record.timers
                = c.record.timers.set slot { x.state with done := true }
            ∧ IsSaved g rung ∧ KeepsChanges g False ⟨c, w⟩ typed) := by
  obtain ⟨block, -, hblock, -⟩ := Scenario.lastBlock_of_step? htext hstep
  have hmem : x.action ∈ step.actions := (List.mem_filter.mp haction).1
  have hfound : step.action? x.action.name = some x.action :=
    ((Scenario.reading_of_readBlock hblock).action?_eq_some _ _).mpr ⟨hmem, rfl⟩
  obtain ⟨rung, hrung, -⟩ := exists_run_of_works (s := ⟨c, w⟩)
    ((isFailCourse_works g).handleNote (c.note slot)) hworks
  obtain ⟨typed, htyped, -⟩ := exists_run_of_works (s := ⟨c, w⟩)
    ((isFailCourse_works g).handleInput x.action.name) hworks
  have hawaited : c.awaited? (c.note slot) = some x := awaited?_eq_some.mpr ⟨rfl, hx, hopen⟩
  have hled := tells_handleNote hawaited hrung
  have htold := tells_handleInput hstep hfound htyped
  have hsettled := Settled.of_ok
    ((isSoloCourse_settled g ⟨c, w⟩).isPairCourse.handleNote (c.note slot)) hworks.holds hrung
  have hkeeps : KeepsChanges g False ⟨c, w⟩ typed := keepsChanges_of_talks hworks.holds
    ((isSoloCourse_settled g ⟨c, w⟩).isPairCourse.handleInput x.action.name)
    ((isTalkCourse_talks g).handleInput x.action.name) htyped
  refine ⟨rung, typed, hrung, htyped, fun next hnext => ?_, fun hne hplain => ?_⟩
  · rw [destination, hnext] at htold
    have hrung' := hled.1 next hnext
    obtain ⟨hchat, hworld⟩ := htold.eq hrung'
    exact ⟨hchat, hworld, htold, hsettled.isSaved (Or.inr hrung'.ne_of_enterStep),
      hkeeps.saved (Or.inr htold.ne_of_enterStep)⟩
  · have hreference : x.action.reference = ⟨none, x.action.target⟩ :=
      Scenario.reference_of_plain hblock hmem hplain
    obtain ⟨hnowhere, hmessage⟩ := messages_of_plain (g := g) hne c.id
    rw [← hreference] at hnowhere hmessage
    rw [destination, hnowhere, hmessage] at htold
    have hrung' := hled.2 hnowhere
    have htimers : rung.chat.record.timers
        = c.record.timers.set slot { x.state with done := true } := by
      rw [timers_record, hrung'.chat, timers_record]
      exact states_markHandled c slot x
    exact ⟨hrung', htold, htold.active_eq hrung' rfl rfl rfl, htimers,
      hsettled.isSaved (Or.inr (Tells.ne_of_markHandled (s := ⟨c, w⟩) hx hopen hrung')), hkeeps⟩

end

end Chat

namespace Bot

/-- The script of a scenario with two timers. -/
def reminderScript : String :=
  "# Reminders\n## Step 1 (immediate)\nHello\n+ (1h): (2)\n+ (2h): Still there?\n## Step 2\nLater"

theorem ofText_reminderScript :
    Scenario.ofText .universal reminderScript = .ok (reminding "(1h)").scenario :=
  eq_ok_of_toOption (by decide +kernel)

/-- The store of a world with nothing in it works. -/
theorem works_newWorld : ({ root := ⟨"/"⟩ } : Store).Works "42" newWorld.disk := by
  have hopen : (Store.open ⟨"/"⟩).run Disk.empty = (.ok ⟨⟨"/"⟩⟩, Disk.empty) := by
    with_unfolding_all rfl
  have hempty : Disk.empty.list ⟨"/"⟩ = .ok [] := by with_unfolding_all rfl
  obtain ⟨q, -, hready⟩ := Store.ready_of_open Disk.isTree_empty hopen hempty rfl
  exact hready.works (by decide) (by unfold Store.Short; decide)

/-- The timer of an hour that leads to the next step. -/
def hourTimer : ActionTimer :=
  ⟨⟨"(1h)", "(2)", ⟨some "2", ""⟩⟩, Stopwatch.begin (StopwatchOptions.fresh 3600) 0 0, false⟩

/-- A chat at the first step of this scenario. -/
def atFirstStep : Chat :=
  { id := "42", stepId := some "1", refId := none, active := true
    timers := armTimers 0 0 (reminding "(1h)").scenario.entry.delayedActions [], generation := 1 }

/-- Its first timer leads to the next step, which is shown, and so does the label. -/
theorem timer_and_label_of_hour : ∃ rung typed : Scene Refusing,
    (Chat.handleNote (reminding "(1h)") (atFirstStep.note 0)).run ⟨atFirstStep, newWorld⟩
        = (.ok (), rung)
      ∧ (Chat.handleInput (reminding "(1h)") "(1h)").run ⟨atFirstStep, newWorld⟩ = (.ok (), typed)
      ∧ rung.chat = typed.chat ∧ typed.chat.stepId = some "2"
      ∧ typed.world.outbox = [.message "42" "Later" (some [])] := by
  have hstep : atFirstStep.step? (reminding "(1h)").scenario
      = some (reminding "(1h)").scenario.entry := by decide +kernel
  have hx : atFirstStep.timers[0]? = some hourTimer := by decide +kernel
  have haction : hourTimer.action ∈ (reminding "(1h)").scenario.entry.delayedActions := by
    decide +kernel
  obtain ⟨rung, typed, hrung, htyped, hled, -⟩ := Chat.timer_and_label_do_the_same (w := newWorld)
    ofText_reminderScript hstep hx haction rfl works_newWorld
  have hnext : Chat.next? (reminding "(1h)") hourTimer.action.reference
      = some { id := "2", cue := .none, body := ["Later"], actions := [] } := by decide +kernel
  obtain ⟨hchat, -, htold, -⟩ := hled _ hnext
  refine ⟨rung, typed, hrung, htyped, hchat, htold.stepId, ?_⟩
  rw [htold.posted.outbox]
  decide +kernel

end Bot
end ScriptedChat
