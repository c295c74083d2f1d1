import ScriptedChat.Proofs.Bot.Closing
import ScriptedChat.Proofs.Bot.Failures
import ScriptedChat.Proofs.Bot.Phases
import ScriptedChat.Proofs.Chat.Following

/-!
# What a bot says

A script is written by somebody, and may leave things out: a step may have no text, and the target of an
action may be empty.  A service does not take an empty message.  Where an action is chosen or leads to a
step, its text is left out if there is none (`Chat.sendText`).  Two messages are sent without looking:
the text of a step that is shown, which may only have a keyboard, and the target of a timer that leads
to no step.

Everything else that is said is not empty, whoever writes what, because it is looked at first, or begins
with words of its own (`Chat.Utterance`).  So what can be said in a run is known from the scenario.  For the target of a timer
this takes an invariant: at every moment each timer has an action of some step (`Chat.isTimerLaw_origin`).

The other way round, every step can be announced, and every timer of it rings some time.  So a script
with such a gap is accepted, and its bot says nothing to somebody.

* `World.Says`, `Chat.Voices`, `Chat.isSpeechCourse_voices`: what is said meanwhile.
* `Bot.Spoken`, `Bot.Scripted`, `Bot.Scripted.says_after`: what a bot says.
* `Bot.canSayNothing_of_step`, `Bot.canSayNothing_of_timer`: gaps that are heard.
* `Bot.says_nothing_iff_script_has_gap`: both directions.
-/

namespace ScriptedChat

/-! ## What is said -/

namespace World

variable {τ : Type} [Transport τ] {A : String → Option (List String) → Prop} {w w' w'' : World τ}

/-- Between two worlds some requests were posted, and all messages among them may be said. -/
def Says (A : String → Option (List String) → Prop) (w w' : World τ) : Prop :=
  ∃ qs, Posted qs w w' ∧ ∀ id text buttons, .message id text buttons ∈ qs → A text buttons

namespace Says

theorem nil (houtbox : w'.outbox = w.outbox) (htransport : w'.transport = w.transport) :
    Says A w w' :=
  ⟨[], .nil houtbox htransport, fun _ _ _ h => absurd h List.not_mem_nil⟩

theorem trans (h : Says A w w') (h' : Says A w' w'') : Says A w w'' := by
  obtain ⟨qs, hqs, hsaid⟩ := h
  obtain ⟨rs, hrs, hsaid'⟩ := h'
  refine ⟨qs ++ rs, hqs.trans hrs, fun id text buttons hmem => ?_⟩
  rcases List.mem_append.mp hmem with hmem | hmem
  · exact hsaid id text buttons hmem
  · exact hsaid' id text buttons hmem

theorem answered (press : Option String) (w : World τ) : Says A w (Bot.answered press w) := by
  obtain ⟨qs, hqs, hno⟩ := Bot.posted_answered press w
  exact ⟨qs, hqs, fun id text buttons hmem => absurd hmem (hno id text buttons)⟩

end Says

end World

namespace Chat

variable {τ : Type} {g : Setting} {A : String → Option (List String) → Prop} {s t u : Scene τ}

section

variable [Transport τ]

/-- All that a chat has said between two scenes may be said. -/
def Voices (A : String → Option (List String) → Prop) (s t : Scene τ) : Prop :=
  World.Says A s.world t.world

theorem voices_of_world (houtbox : t.world.outbox = s.world.outbox)
    (htransport : t.world.transport = s.world.transport) : Voices A s t := .nil houtbox htransport

theorem Voices.trans (h : Voices A s t) (h' : Voices A t u) : Voices A s u := World.Says.trans h h'

theorem voices_save (g : Setting) : Follows (Voices A : Scene τ → Scene τ → Prop) (Chat.save g) := by
  intro s
  rw [save_run_snd]
  exact voices_of_world rfl rfl

theorem voices_writeLog (g : Setting) (text : String) :
    Follows (Voices A : Scene τ → Scene τ → Prop) (Chat.writeLog g text) := by
  intro s
  rw [writeLog_run_snd]
  exact voices_of_world rfl rfl

theorem voices_moveTo (g : Setting) (id : String) :
    Follows (Voices A : Scene τ → Scene τ → Prop) (Chat.moveTo g id) := by
  intro s
  cases hstep : g.scenario.step? id with
  | none =>
    rw [moveTo_run_of_none hstep]
    exact voices_of_world rfl rfl
  | some step =>
    rw [moveTo_run_snd hstep]
    have henter : Voices A s (Chat.enterStep step s) := voices_of_world rfl rfl
    exact henter.trans (voices_save g _)

theorem voices_applyRef (g : Setting) (code : String) :
    Follows (Voices A : Scene τ → Scene τ → Prop) (Chat.applyRef g code) := by
  intro s
  have hlog : Voices A s _ := voices_writeLog g (Json.toText (.object [("refId", .text code)])) s
  rw [applyRef_run]
  generalize (Chat.writeLog g (Json.toText (.object [("refId", .text code)]))).run s = logged
    at hlog ⊢
  obtain ⟨_ | _, t⟩ := logged
  · exact hlog
  · dsimp only at hlog ⊢
    split
    · exact hlog.trans (voices_save g { t with chat := { t.chat with refId := some code } })
    · exact hlog

theorem voices_send (g : Setting) {text : String} {buttons : Option (List String)}
    (h : A text buttons) :
    Follows (Voices A : Scene τ → Scene τ → Prop) (Chat.send g text buttons) := by
  intro s
  refine ⟨_, (tells_send g text buttons s).posted, fun id text' buttons' hmem => ?_⟩
  cases List.mem_singleton.mp hmem
  exact h

/-- **What a chat says when it answers may be said**, if its utterances may. -/
theorem isSpeechCourse_voices (hA : ∀ {text buttons}, Utterance g text buttons → A text buttons) :
    IsSpeechCourse g (Voices A : Scene τ → Scene τ → Prop) where
  refl _ := voices_of_world rfl rfl
  trans := Voices.trans
  send h := voices_send g (hA h)
  moveTo := voices_moveTo g

variable (hA : ∀ {text buttons}, Utterance g text buttons → A text buttons)
include hA

theorem voices_respond (text : String) :
    Follows (Voices A : Scene τ → Scene τ → Prop) (Bot.respond g text) := by
  have hreach : Follows (Voices A : Scene τ → Scene τ → Prop) (Chat.markReachable g) := by
    intro s
    rw [markReachable_run]
    split
    · exact voices_of_world rfl rfl
    · exact voices_save g { s with chat := { s.chat with active := true } }
  refine Follows.bind Voices.trans hreach fun _ => ?_
  refine Follows.bind Voices.trans (voices_writeLog g text) fun _ => ?_
  split
  · exact voices_applyRef g _
  · exact (isSpeechCourse_voices hA).handleText text

theorem voices_welcome (text : String) (sender : Sender) :
    Follows (Voices A : Scene τ → Scene τ → Prop) (Bot.welcome g text sender) :=
  Follows.bind Voices.trans (voices_writeLog g _) fun _ =>
    Follows.bind Voices.trans (voices_moveTo g _) fun _ => (isSpeechCourse_voices hA).showStep

/-- The action of a timer may say its target, too. -/
theorem voices_runAction {a : Action} (ha : A a.target none) :
    Follows (Voices A : Scene τ → Scene τ → Prop) (Chat.runAction g a) := by
  rw [Chat.runAction]
  split
  · exact Follows.bind Voices.trans ((isSpeechCourse_voices hA).sendText _) fun _ =>
      Follows.bind Voices.trans (voices_moveTo g _) fun _ => (isSpeechCourse_voices hA).showStep
  · exact Follows.bind Voices.trans (voices_send g ha) fun _ => voices_save g

theorem voices_handleNote {c : Chat} (hc : c.Abides fun x => A x.action.target none) (n : Elapsed)
    (w : World τ) : Voices A ⟨c, w⟩ ((Chat.handleNote g n).run ⟨c, w⟩).2 := by
  rw [handleNote_run]
  cases hx : c.awaited? n with
  | none => exact voices_of_world rfl rfl
  | some x =>
    have hmem : x ∈ c.timers := List.mem_of_getElem? (awaited?_eq_some.mp hx).2.1
    exact voices_runAction hA (hc x hmem) ⟨markHandled n.slot x c, w⟩

end

/-- **Every timer has a delayed action of some step**, whatever happens to it. -/
theorem isTimerLaw_origin (scenario : Scenario) :
    IsTimerLaw scenario fun x => ∃ step ∈ scenario.steps, x.action ∈ step.delayedActions where
  arm hstep ha _ _ _ := ⟨_, hstep, (ActionTimer.action_arm _ _ _ _).symm ▸ ha⟩
  ring _ h := h
  handle _ h := h

end Chat

namespace Bot

variable {τ : Type} {g : Setting} {s t : Stage τ}

/-! ## What a bot says -/

/-- What can be said in a run: what chats say when they answer, and the targets of timers. -/
inductive Spoken (g : Setting) : String → Option (List String) → Prop where
  | utterance {text : String} {buttons : Option (List String)} (h : Chat.Utterance g text buttons) :
      Spoken g text buttons
  | target {step : Step} {a : Action} (hstep : step ∈ g.scenario.steps)
      (ha : a ∈ step.delayedActions) : Spoken g a.target none

/-- A script leaves the text of a step out, or the target of a timer. -/
def HasGap (scenario : Scenario) : Prop :=
  ∃ step ∈ scenario.steps, step.text = "" ∨ ∃ a ∈ step.delayedActions, a.target = ""

/-- What is empty of it is the text of a step, with its keyboard, or the target of a timer. -/
theorem Spoken.of_empty {buttons : Option (List String)} (h : Spoken g "" buttons) :
    (∃ step ∈ g.scenario.steps, step.text = "" ∧ buttons = some step.buttons)
      ∨ ∃ step ∈ g.scenario.steps, ∃ a ∈ step.delayedActions, a.target = "" ∧ buttons = none := by
  generalize hempty : "" = text at h
  cases h with
  | utterance h =>
    cases h with
    | @step step hstep => exact Or.inl ⟨step, hstep, rfl, rfl⟩
    | text hne => exact absurd hempty.symm hne
  | @target step a hstep ha => exact Or.inr ⟨step, hstep, a, ha, rfl, rfl⟩

/-- A bot that goes by its script. -/
structure Scripted (g : Setting) (s : Stage τ) : Prop where
  sorted : Keyed.IsSorted s.bot.chats
  setting : s.bot.setting = g
  timers : Abides (fun x => ∃ step ∈ g.scenario.steps, x.action ∈ step.delayedActions) s

theorem scripted_start {w w' : World τ} {b : Bot} (h : (start g).run w = (.ok b, w')) :
    Scripted g ⟨b, w'⟩ := by
  obtain ⟨keys, -, -, -, hsetting, -⟩ := of_start h
  exact ⟨sorted_start h, hsetting, abides_start (Chat.isTimerLaw_origin g.scenario) h⟩

section

variable [Transport τ]

namespace Scripted

theorem act (h : Scripted g s) (d : Deed) : Scripted g (d.act.run s).2 := by
  have hworks := works_act h.sorted h.setting d
  obtain ⟨hsorted, hsetting⟩ := works_kept hworks h.sorted
  exact ⟨hsorted, hsetting.trans h.setting,
    works_abides (Chat.isTimerLaw_origin g.scenario) hworks h.sorted h.timers⟩

theorem after (h : Scripted g s) (ds : List Deed) : Scripted g (after ds s) := by
  induction ds generalizing s with
  | nil => exact h
  | cons d ds ih => exact ih (h.act d)

/-- What is said in a deed for one chat. -/
theorem says_deal (h : Scripted g s) {d : Deed} {key : String} (hd : d.chat? = some key) :
    World.Says (Spoken g) s.world (d.deal g (plot s key)).2.world := by
  have hplay : ∀ {c : Chat} {w : World τ} {x : ChatAction τ Unit},
      Chat.Voices (Spoken g) ⟨c, w⟩ (x.run ⟨c, w⟩).2 →
      World.Says (Spoken g) w (Plot.play c w x).2.world := fun hx => hx
  cases d with
  | receive e =>
    refine (World.Says.answered e.press s.world).trans ?_
    by_cases htext : Text.trim e.text.toList = []
    · rw [deal_of_blank g htext]
      exact .nil rfl rfl
    rw [plot]
    cases s.bot.chat? key with
    | some c =>
      rw [deal_of_known g htext]
      exact hplay (Chat.voices_respond .utterance (said e) _)
    | none =>
      rw [deal_of_unseen g htext, Chat.create_run]
      rcases (g.store.save (Chat.opening g.scenario e.chat (referral? (said e))).record).run
          (answered e.press s.world).disk with ⟨_ | _, disk⟩
      · exact .nil rfl rfl
      · have hmade : World.Says (Spoken g) (answered e.press s.world)
            { answered e.press s.world with disk } := .nil rfl rfl
        exact hmade.trans (hplay (Chat.voices_welcome .utterance (said e) e.sender _))
  | note n =>
    rw [deal_note, Plot.visit, plot]
    cases hc : s.bot.chat? key with
    | none => exact .nil rfl rfl
    | some c =>
      refine hplay (Chat.voices_handleNote .utterance (fun x hx => ?_) n s.world)
      obtain ⟨step, hstep, ha⟩ := h.timers key c hc x hx
      exact .target hstep ha
  | announce k step =>
    rw [deal_announce, Plot.visit, plot]
    cases s.bot.chat? key with
    | none => exact .nil rfl rfl
    | some c => exact hplay ((Chat.isSpeechCourse_voices .utterance).goTo step _)
  | _ => cases hd

theorem says_act (h : Scripted g s) (d : Deed) :
    World.Says (Spoken g) s.world (d.act.run s).2.world := by
  cases hkey : d.chat? with
  | none =>
    have hidle := posted_idle s hkey
    exact ⟨[], hidle, fun _ _ _ hmem => absurd hmem List.not_mem_nil⟩
  | some key =>
    rw [world_act h.sorted h.setting hkey]
    exact h.says_deal hkey

/-- **What is said in any row of deeds.** -/
theorem says_after (h : Scripted g s) (ds : List Deed) :
    World.Says (Spoken g) s.world (Bot.after ds s).world := by
  induction ds generalizing s with
  | nil => exact .nil rfl rfl
  | cons d ds ih => exact (h.says_act d).trans (ih (h.act d))

end Scripted

/-! ## Gaps that are heard -/

/-- Some deeds can be done next in which something empty is said. -/
def CanSayNothing (s : Stage τ) : Prop :=
  ∃ ds qs, World.Posted qs s.world (after ds s).world ∧ ∃ k buttons, .message k "" buttons ∈ qs

theorem canSayNothing_of_act {d : Deed} {qs : List Request}
    (hqs : World.Posted qs s.world (d.act.run s).2.world) (h : CanSayNothing (d.act.run s).2) :
    CanSayNothing s := by
  obtain ⟨ds, rs, hrs, k, buttons, hmem⟩ := h
  exact ⟨d :: ds, qs ++ rs, hqs.trans hrs, k, buttons, List.mem_append_right qs hmem⟩

variable {k : String} {c : Chat} {step : Step}

/-- A step is announced, and shown to a chat for which the store works. -/
theorem announce_run (h : Scripted g s) (hc : s.bot.chat? k = some c)
    (hworks : g.store.Works c.id s.world.disk) (hstep : g.scenario.step? step.id = some step) :
    ∃ t : Scene τ, ((Deed.announce k step.id).act.run s).2.bot.chat? k = some t.chat
      ∧ ((Deed.announce k step.id).act.run s).2.world = t.world
      ∧ Chat.Tells [.message c.id step.text (some step.buttons)] (Chat.enterStep step ⟨c, s.world⟩) t
      ∧ g.store.Works t.chat.id t.world.disk := by
  obtain ⟨t, hrun, hnext⟩ := Chat.exists_run_of_works (s := ⟨c, s.world⟩)
    ((Chat.isFailCourse_works g).goTo step.id) hworks
  have hplot : plot ((Deed.announce k step.id).act.run s).2 k = ⟨some t.chat, t.world⟩ := by
    rw [plot_act h.sorted h.setting rfl, deal_announce, Plot.visit, plot, hc]
    dsimp only
    rw [Plot.play, hrun]
  refine ⟨t, congrArg Plot.chat hplot, congrArg Plot.world hplot, ?_, hnext⟩
  -- To go to a step is to follow a reference without a text.
  have hfollow : (Chat.follow g ⟨some step.id, ""⟩).run ⟨c, s.world⟩ = (.ok (), t) := hrun
  have hnext? : Chat.next? g ⟨some step.id, ""⟩ = some step := hstep
  have htold := Chat.tells_follow hfollow
  rw [Chat.messages, Chat.destination, hnext?] at htold
  exact htold

/-- The text of the step is sent then. -/
theorem posted_announce (h : Scripted g s) (hc : s.bot.chat? k = some c)
    (hworks : g.store.Works c.id s.world.disk) (hstep : g.scenario.step? step.id = some step) :
    World.Posted [.message c.id step.text (some step.buttons)] s.world
      ((Deed.announce k step.id).act.run s).2.world := by
  obtain ⟨t, -, hworld, htold, -⟩ := announce_run h hc hworks hstep
  rw [hworld]
  exact ⟨htold.posted.outbox, htold.posted.transport⟩

/-- If the step has no text, nothing is said, with its keyboard. -/
theorem canSayNothing_of_step (h : Scripted g s) (hc : s.bot.chat? k = some c)
    (hworks : g.store.Works c.id s.world.disk) (hstep : g.scenario.step? step.id = some step)
    (htext : step.text = "") : CanSayNothing s := by
  have hposted := posted_announce h hc hworks hstep
  rw [htext] at hposted
  exact ⟨[.announce k step.id], _, hposted, c.id, some step.buttons, List.mem_singleton_self _⟩

omit [Transport τ] in
/-- The timer of a note is there before and after it rings. -/
theorem awaited?_ringAt {slot : Nat} {x : ActionTimer} (hx : c.timers[slot]? = some x)
    (hopen : x.handled = false) :
    ∃ y, (ringAt slot c).1.awaited? (c.note slot) = some y ∧ y.action = x.action := by
  have hlt : slot < c.timers.length := (List.getElem?_eq_some_iff.mp hx).1
  rw [ringAt, hx]
  dsimp only
  split
  · exact ⟨x, Chat.awaited?_eq_some.mpr ⟨rfl, hx, hopen⟩, rfl⟩
  · exact ⟨_, Chat.awaited?_eq_some.mpr ⟨rfl, List.getElem?_set_self hlt, hopen⟩, rfl⟩

omit [Transport τ] in
theorem id_ringAt (slot : Nat) (c : Chat) : (ringAt slot c).1.id = c.id := by
  rw [ringAt]
  split
  · split <;> rfl
  · rfl

/-- A note is taken up, and the target of its timer is empty. -/
theorem canSayNothing_of_note (h : Scripted g s) {n : Elapsed} {x : ActionTimer}
    (hc : s.bot.chat? n.chat = some c) (hworks : g.store.Works c.id s.world.disk)
    (hx : c.awaited? n = some x) (hreference : x.action.reference = ⟨none, ""⟩)
    (htarget : x.action.target = "") : CanSayNothing s := by
  obtain ⟨t, hrun, -⟩ := Chat.exists_run_of_works (s := ⟨c, s.world⟩)
    ((Chat.isFailCourse_works g).handleNote n) hworks
  have hnowhere : Chat.next? g x.action.reference = none := by
    rw [hreference]
    rfl
  have htold := (Chat.tells_handleNote hx hrun).2 hnowhere
  rw [htarget] at htold
  have hworld : ((Deed.note n).act.run s).2.world = t.world := by
    rw [world_act h.sorted h.setting rfl, deal_note, Plot.visit, plot, hc]
    dsimp only
    rw [Plot.play, hrun]
  refine ⟨[.note n], [.message c.id "" none], ?_, c.id, none, List.mem_singleton_self _⟩
  rw [after, List.foldl_cons, List.foldl_nil, hworld]
  exact ⟨htold.posted.outbox, htold.posted.transport⟩

/-- If the target of a timer of the step is empty, nothing is said when it has rung. -/
theorem canSayNothing_of_timer (h : Scripted g s) (hc : s.bot.chat? k = some c) (hid : c.id = k)
    (hworks : g.store.Works c.id s.world.disk) (hstep : g.scenario.step? step.id = some step)
    {a : Action} (ha : a ∈ step.delayedActions) (hreference : a.reference = ⟨none, ""⟩)
    (htarget : a.target = "") : CanSayNothing s := by
  obtain ⟨t, hchat, hworld, htold, hnext⟩ := announce_run h hc hworks hstep
  -- The chat has a timer for the action, which begins now ...
  obtain ⟨slot, hslot⟩ := List.mem_iff_getElem?.mp ha
  have htimers : t.chat.timers = armTimers s.world.now s.world.tickets step.delayedActions [] := by
    rw [htold.chat]
    rfl
  have hx : t.chat.timers[slot]?
      = some (ActionTimer.arm s.world.now (s.world.tickets + slot) a none) := by
    rw [htimers, getElem?_armTimers, hslot, List.getElem?_nil, Option.map_some]
  obtain ⟨x, hawaited, haction⟩ := awaited?_ringAt hx rfl
  rw [ActionTimer.action_arm] at haction
  -- ... and rings, which leaves the world alone.
  have hshown := h.act (.announce k step.id)
  refine canSayNothing_of_act (posted_announce h hc hworks hstep) ?_
  generalize ((Deed.announce k step.id).act.run s).2 = v at hworld hshown hchat
  refine canSayNothing_of_act (d := .ring k slot) (.nil rfl rfl) ?_
  have hrung : (v.bot.ringOne k slot).chat? t.chat.id = some (ringAt slot t.chat).1 := by
    rw [htold.id.trans hid, chat?_ringOne hshown.sorted, if_pos rfl, hchat, Option.map_some]
  refine canSayNothing_of_note (n := t.chat.note slot) (hshown.act (.ring k slot)) hrung ?_ hawaited
    ?_ ?_
  · show g.store.Works _ v.world.disk
    rw [id_ringAt, hworld]
    exact hnext
  · rw [haction, hreference]
  · rw [haction, htarget]

/-- Somebody writes for whom there is no chat yet, and for whom the store works. -/
theorem receive_run (h : Scripted g s) {e : Inbound} (he : Text.trim e.text.toList ≠ [])
    (hnone : s.bot.chat? e.chat = none) (hworks : g.store.Works e.chat s.world.disk) :
    ∃ t : Scene τ, ((Deed.receive e).act.run s).2.bot.chat? e.chat = some t.chat
      ∧ ((Deed.receive e).act.run s).2.world = t.world
      ∧ t.chat.id = e.chat ∧ g.store.Works t.chat.id t.world.disk := by
  have hworks' : g.store.Works e.chat (answered e.press s.world).disk := by
    rw [disk_answered]
    exact hworks
  obtain ⟨hok, hkept⟩ :=
    hworks'.save (r := (Chat.opening g.scenario e.chat (referral? (said e))).record) rfl
  rw [chat?_act h.sorted h.setting rfl, if_pos rfl, world_act h.sorted h.setting rfl, plot, hnone,
    deal_of_unseen g he, Chat.create_run]
  generalize (g.store.save _).run _ = saved at hok hkept ⊢
  obtain ⟨_ | _, disk⟩ := saved
  · cases hok
  · dsimp only at hkept ⊢
    obtain ⟨t, hrun, hnext⟩ := Chat.exists_run_of_works
      (s := ⟨Chat.opening g.scenario e.chat (referral? (said e)),
        { answered e.press s.world with disk }⟩)
      ((Chat.isFailCourse_works g).welcome (said e) e.sender) hkept
    have hgoes := (Chat.isCourse_goesOn g).welcome (said e) e.sender
      ⟨Chat.opening g.scenario e.chat (referral? (said e)), { answered e.press s.world with disk }⟩
    rw [hrun] at hgoes
    rw [Plot.play, hrun]
    exact ⟨t, rfl, rfl, hgoes.id, hnext⟩

/-! ## Both directions -/

/-- A script that has been read has a gap: then something empty is said some time. -/
theorem canSayNothing_of_hasGap {zone : Calendar.Zone} {text : String}
    (htext : Scenario.ofText zone text = .ok g.scenario) (h : Scripted g s) (hk : s.bot.IsNamed k)
    (hworks : g.store.Works k s.world.disk) (hgap : HasGap g.scenario) : CanSayNothing s := by
  obtain ⟨step, hmem, hgap⟩ := hgap
  have hstep : g.scenario.step? step.id = some step :=
    ((Scenario.wellFormed_of_ofText htext).step?_eq_some _ _).mpr ⟨hmem, rfl⟩
  obtain ⟨block, -, hblock, -⟩ := Scenario.lastBlock_of_step? htext hstep
  -- A chat that is there is shown the step, or its timer rings.
  have hthere : ∀ {u : Stage τ} {c : Chat}, Scripted g u → u.bot.chat? k = some c → c.id = k →
      g.store.Works c.id u.world.disk → CanSayNothing u := by
    intro u c hu hc hid hworks
    rcases hgap with hempty | ⟨a, ha, htarget⟩
    · exact canSayNothing_of_step hu hc hworks hstep hempty
    · have hplain : a.target.toList.head? ≠ some '(' := by
        rw [htarget]
        exact nofun
      have hreference := Scenario.reference_of_plain hblock (List.mem_filter.mp ha).1 hplain
      rw [htarget] at hreference
      exact canSayNothing_of_timer hu hc hid hworks hstep ha hreference htarget
  cases hc : s.bot.chat? k with
  | some c =>
    have hid : c.id = k := hk c hc
    exact hthere h hc hid (hid.symm ▸ hworks)
  | none =>
    -- Otherwise somebody writes first.
    obtain ⟨e, rfl, he⟩ : ∃ e : Inbound, e.chat = k ∧ Text.trim e.text.toList ≠ [] :=
      ⟨⟨k, "Hi", .unknown, none⟩, rfl, (by decide : Text.trim "Hi".toList ≠ [])⟩
    obtain ⟨t, hchat, hworld, hid, hnext⟩ := receive_run h he hc hworks
    obtain ⟨qs, hqs, -⟩ := h.says_act (.receive e)
    refine canSayNothing_of_act hqs (hthere (h.act (.receive e)) hchat hid ?_)
    rw [hworld]
    exact hnext

/-- What is said then is said in a script that has a gap. -/
theorem hasGap_of_canSayNothing (h : Scripted g s) (hsilence : CanSayNothing s) :
    HasGap g.scenario := by
  obtain ⟨ds, qs, hqs, k, buttons, hmem⟩ := hsilence
  obtain ⟨qs', hqs', hspoken⟩ := h.says_after ds
  have hsame : qs = qs' := List.append_cancel_left (hqs.outbox.symm.trans hqs'.outbox)
  rcases (hspoken k "" buttons (hsame ▸ hmem)).of_empty with ⟨step, hstep, htext, -⟩ |
    ⟨step, hstep, a, ha, htarget, -⟩
  · exact ⟨step, hstep, Or.inl htext⟩
  · exact ⟨step, hstep, Or.inr ⟨a, ha, htarget⟩⟩

omit [Transport τ] in
/-- A bot that starts changes nothing but the tickets. -/
theorem world_start {w w' : World τ} {b : Bot} (h : (start g).run w = (.ok b, w')) :
    w' = { w with tickets := w'.tickets } := by
  obtain ⟨keys, hkeys⟩ := chats_of_start h
  obtain ⟨b', tickets, hrun, -⟩ := start_run (g := g) hkeys
  rw [hrun] at h
  cases h
  rfl

/-- **A bot says nothing to somebody if and only if its script has a gap.**  This is about any start and
any row of deeds after it.

An empty message is either a step without a text, which is sent with the keyboard of the step, or the
target of a timer, which is sent without one.  When the bot is closed nothing is sent at all.  And if
the script has a gap, and the store works for some chat, deeds can follow in which an empty message is
sent, whatever has been done before. -/
theorem says_nothing_iff_script_has_gap {zone : Calendar.Zone} {text : String}
    (htext : Scenario.ofText zone text = .ok g.scenario) {w w' : World τ} {b : Bot}
    (hstart : (start g).run w = (.ok b, w')) (ds : List Deed) :
    (∃ qs, World.Posted qs w (after ds ⟨b, w'⟩).world
      ∧ ∀ k buttons, .message k "" buttons ∈ qs →
        (∃ step ∈ g.scenario.steps, step.text = "" ∧ buttons = some step.buttons)
          ∨ ∃ step ∈ g.scenario.steps, ∃ a ∈ step.delayedActions, a.target = "" ∧ buttons = none)
    ∧ (close.run (after ds ⟨b, w'⟩)).2.world.outbox = (after ds ⟨b, w'⟩).world.outbox
    ∧ ∀ k, (after ds ⟨b, w'⟩).bot.IsNamed k → g.store.Works k (after ds ⟨b, w'⟩).world.disk →
      (CanSayNothing (after ds ⟨b, w'⟩) ↔ HasGap g.scenario) := by
  have hscripted : Scripted g ⟨b, w'⟩ := scripted_start hstart
  have hlater : Scripted g (after ds ⟨b, w'⟩) := hscripted.after ds
  refine ⟨?_, ?_, fun k hk hworks => ⟨hasGap_of_canSayNothing hlater,
    canSayNothing_of_hasGap htext hlater hk hworks⟩⟩
  · obtain ⟨qs, hqs, hspoken⟩ := hscripted.says_after ds
    have hbefore : World.Posted [] w w' := by
      rw [world_start hstart]
      exact .nil rfl rfl
    exact ⟨qs, hbefore.trans hqs, fun k buttons hmem => (hspoken k "" buttons hmem).of_empty⟩
  · rw [close_run]
    exact outbox_flush _ _ _

end

/-- A script with both gaps: its step has a button and no text, and a timer without a target. -/
def gappyScript : String := "# Gaps\n## Step 1 (immediate)\n+ Yes: (1)\n+ (1h):"

/-- What comes of it. -/
def gappy : Setting :=
  let entry : Step :=
    { id := "1", cue := .immediate, body := []
      actions := [⟨"Yes", "(1)", ⟨some "1", ""⟩⟩, ⟨"(1h)", "", ⟨none, ""⟩⟩] }
  { scenario := { name := "Gaps", description := "", menu := [], steps := [entry], entry }
    store := ⟨⟨"/"⟩⟩ }

/-- The script is accepted.  Whoever writes is sent an empty message with a keyboard, and after an hour
one without. -/
theorem says_nothing_of_gappyScript :
    Scenario.ofText .universal gappyScript = .ok gappy.scenario
      ∧ CanSayNothing (⟨newBot gappy, newWorld⟩ : Stage Refusing)
      ∧ (after [.receive (partingWord "42"), .ring "42" 0, .note ⟨"42", 1, 0⟩]
          (⟨newBot gappy, newWorld⟩ : Stage Refusing)).world.outbox
        = [.message "42" "" (some ["Yes"]), .message "42" "" none] := by
  have hread : Scenario.ofText .universal gappyScript = .ok gappy.scenario :=
    eq_ok_of_toOption (by decide +kernel)
  have hstart : (start gappy).run newWorld = (.ok (newBot gappy), newWorld) :=
    start_of_chats_nil chats_newWorld
  obtain ⟨-, -, hiff⟩ := says_nothing_iff_script_has_gap hread hstart []
  have hnamed : (newBot gappy).IsNamed "42" := nofun
  have hgap : HasGap gappy.scenario := ⟨gappy.scenario.entry, List.mem_singleton_self _, Or.inl rfl⟩
  exact ⟨hread, (hiff "42" hnamed works_newWorld).mpr hgap, by decide +kernel⟩

end Bot
end ScriptedChat
