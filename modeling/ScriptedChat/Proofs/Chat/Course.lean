import Mathlib.Logic.Relation
import ScriptedChat.Bot.Basic
import ScriptedChat.Proofs.Action
import ScriptedChat.Proofs.Scenario.Lookup

/-!
# What chats do, step by step

Everything that a chat does is made of seven small steps: it keeps its record, it adds to its
log, it sends a message, its activity changes, it takes a referral code if it has none, and it
moves.  (The seventh, taking up the note of a timer, is done by `Chat.handleNote` alone.)

So what is to be said about scenes before and after is said about the steps.  A relation
between scenes that holds across each of them, and that can be composed, is a *course*
(`Chat.IsCourse`), and every action of a chat follows every course, whether it fails or not.

The activity of a chat changes in two places: when a message is sent, and when something is
written in the chat.  A relation that has to do with it may hold across the whole of the former and
not across the latter (`Chat.IsSendCourse`).  Then it holds across every action but the one that a
chat answers with.

While a chat plays its scenario it does still less: it neither adds to its log nor takes a code.  A
relation that has to do with the log may hold across what is left (`Chat.IsPlayCourse`).  While it
answers a text it never keeps itself without a reason: it is kept when it has moved, or has become
inactive.  A relation that has to do with what is kept may hold across these as a whole
(`Chat.IsTalkCourse`).  What it says then is a step with its keyboard, or a text that is not empty
(`Chat.Utterance`), so a relation that has to do with what is said need not hold across any other
message (`Chat.IsSpeechCourse`).

What is to be said about every moment in the middle of an action is said about the scenes between
the small steps (`Chat.Passes`).

* `Chat.Follows`, `Chat.IsCourse`, `Chat.IsSendCourse`, `Chat.IsPlayCourse`, `Chat.IsTalkCourse`,
  `Chat.IsSpeechCourse`: actions and courses.
* `Chat.SmallStep`, `Chat.Passes`: the small steps one by one.
* `Chat.IsSpeechCourse.showStep`, `handleText`, `Chat.IsPlayCourse.moveTo`, `runAction`: what follows.
* `Chat.IsSendCourse.applyRef`, `welcome`, `Chat.IsCourse.respond`: what follows from more.
* `Chat.IsRefused`, `Chat.send_of_isRefused`: messages that are refused for good.
* `Chat.handleNote_run`: a note is void, or it is taken up and its action is run.
-/

namespace ScriptedChat
namespace Chat

variable {τ α β : Type}

/-- The action takes every scene to a related one, whether it fails or not. -/
def Follows (R : Scene τ → Scene τ → Prop) (x : ChatAction τ α) : Prop := ∀ s, R s (x.run s).2

/-- A relation that holds across each of the small steps, and across any number of them. -/
structure IsCourse (g : Setting) [Transport τ] (R : Scene τ → Scene τ → Prop) : Prop where
  refl : ∀ s, R s s
  trans : ∀ {s t u}, R s t → R t u → R s u
  save : Follows R (Chat.save g)
  writeLog : ∀ text, Follows R (Chat.writeLog g text)
  post : ∀ (s : Scene τ) text buttons,
    R s { s with world := (World.post (.message s.chat.id text buttons) s.world).2 }
  setActive : ∀ (s : Scene τ) b, R s { s with chat := { s.chat with active := b } }
  setRef : ∀ (s : Scene τ) code, s.chat.refId = none →
    R s { s with chat := { s.chat with refId := some code } }
  enterStep : ∀ (s : Scene τ) {id step}, g.scenario.step? id = some step →
    R s (Chat.enterStep step s)

/-- A relation that holds across everything that a chat does, if to send a message is one step,
other than to become active again. -/
structure IsSendCourse (g : Setting) [Transport τ] (R : Scene τ → Scene τ → Prop) : Prop where
  refl : ∀ s, R s s
  trans : ∀ {s t u}, R s t → R t u → R s u
  save : Follows R (Chat.save g)
  writeLog : ∀ text, Follows R (Chat.writeLog g text)
  send : ∀ text buttons, Follows R (Chat.send g text buttons)
  setRef : ∀ (s : Scene τ) code, s.chat.refId = none →
    R s { s with chat := { s.chat with refId := some code } }
  enterStep : ∀ (s : Scene τ) {id step}, g.scenario.step? id = some step →
    R s (Chat.enterStep step s)

/-- A relation that holds across everything that a chat does while it plays its scenario. -/
structure IsPlayCourse (g : Setting) [Transport τ] (R : Scene τ → Scene τ → Prop) : Prop where
  refl : ∀ s, R s s
  trans : ∀ {s t u}, R s t → R t u → R s u
  save : Follows R (Chat.save g)
  send : ∀ text buttons, Follows R (Chat.send g text buttons)
  enterStep : ∀ (s : Scene τ) {id step}, g.scenario.step? id = some step →
    R s (Chat.enterStep step s)

/-- A relation that holds across everything that a chat does while it answers a text, if to send a
message and to move are one step each. -/
structure IsTalkCourse (g : Setting) [Transport τ] (R : Scene τ → Scene τ → Prop) : Prop where
  refl : ∀ s, R s s
  trans : ∀ {s t u}, R s t → R t u → R s u
  send : ∀ text buttons, Follows R (Chat.send g text buttons)
  moveTo : ∀ id, Follows R (Chat.moveTo g id)

/-- What a chat says when it answers a text: a step with its keyboard, or a text that is not empty. -/
inductive Utterance (g : Setting) : String → Option (List String) → Prop where
  | step {step : Step} (h : step ∈ g.scenario.steps) : Utterance g step.text (some step.buttons)
  | text {text : String} (h : text ≠ "") : Utterance g text none

/-- A relation that holds across everything that a chat does while it answers a text, if only such
messages are looked at as are sent then. -/
structure IsSpeechCourse (g : Setting) [Transport τ] (R : Scene τ → Scene τ → Prop) : Prop where
  refl : ∀ s, R s s
  trans : ∀ {s t u}, R s t → R t u → R s u
  send : ∀ {text buttons}, Utterance g text buttons → Follows R (Chat.send g text buttons)
  moveTo : ∀ id, Follows R (Chat.moveTo g id)

/-- One of the small steps.  A message leaves the disk as it is, whatever becomes of it. -/
inductive SmallStep (g : Setting) (s : Scene τ) : Scene τ → Prop where
  | save : SmallStep g s ((Chat.save g).run s).2
  | writeLog (text : String) : SmallStep g s ((Chat.writeLog g text).run s).2
  | post (w : World τ) (hw : w.disk = s.world.disk) : SmallStep g s { s with world := w }
  | setActive (b : Bool) : SmallStep g s { s with chat := { s.chat with active := b } }
  | setRef (code : String) (h : s.chat.refId = none) :
      SmallStep g s { s with chat := { s.chat with refId := some code } }
  | enterStep {id : String} {step : Step} (h : g.scenario.step? id = some step) :
      SmallStep g s (Chat.enterStep step s)

/-- A scene comes to another one by small steps. -/
def Passes (g : Setting) : Scene τ → Scene τ → Prop := Relation.ReflTransGen (SmallStep g)

/-! ## What single actions come to -/

theorem run_update_bind (f : Chat → Chat) (x : ChatAction τ α) (s : Scene τ) :
    (update f >>= fun _ => x).run s = x.run { s with chat := f s.chat } := rfl

theorem moveTo_run_of_none {g : Setting} {id : String} (h : g.scenario.step? id = none)
    (s : Scene τ) : (moveTo g id).run s = (.ok false, s) := by
  rw [moveTo, h]
  rfl

theorem moveTo_run_of_some {g : Setting} {id : String} {step : Step}
    (h : g.scenario.step? id = some step) (s : Scene τ) :
    (moveTo g id).run s
      = match (Chat.save g).run (enterStep step s) with
        | (.ok (), t) => (.ok true, t)
        | (.error e, t) => (.error e, t) := by
  rw [moveTo, h]
  dsimp only
  rw [Action.run_modify_bind, Action.run_bind]
  rcases (Chat.save g).run (enterStep step s) with ⟨_ | _, t⟩ <;> rfl

theorem applyRef_run (g : Setting) (code : String) (s : Scene τ) :
    (applyRef g code).run s
      = match (Chat.writeLog g (Json.toText (.object [("refId", .text code)]))).run s with
        | (.ok (), t) =>
          if t.chat.refId.isNone then
            (Chat.save g).run { t with chat := { t.chat with refId := some code } }
          else (.ok (), t)
        | (.error e, t) => (.error e, t) := by
  rw [applyRef, Action.run_bind]
  rcases (Chat.writeLog g (Json.toText (.object [("refId", .text code)]))).run s
    with ⟨_ | _, t⟩
  · rfl
  · dsimp only
    rw [Action.run_get_bind]
    split
    · rw [run_update_bind]
    · rfl

theorem markReachable_run (g : Setting) (s : Scene τ) :
    (markReachable g).run s
      = if s.chat.active then (.ok (), s)
        else (Chat.save g).run { s with chat := { s.chat with active := true } } := by
  rw [markReachable, Action.run_get_bind]
  cases s.chat.active
  · rw [if_pos Bool.not_false, run_update_bind, if_neg Bool.false_ne_true]
  · rfl

section

variable [Transport τ] (g : Setting)

theorem send_run (text : String) (buttons : Option (List String)) (s : Scene τ) :
    (send g text buttons).run s
      = match World.post (.message s.chat.id text buttons) s.world with
        | (.ok (), world) => (.ok (), { s with world })
        | (.error e, world) =>
          if e.isUnreachable && s.chat.active then
            (Chat.save g).run ⟨{ s.chat with active := false }, world⟩
          else (.ok (), { s with world }) := by
  rw [send, Action.run_get_bind]
  rcases World.post (.message s.chat.id text buttons) s.world with ⟨e | _, world⟩
  · dsimp only
    rw [Action.run_set_bind]
    split
    · rw [run_update_bind]
    · rfl
  · rfl

/-- A message is refused for good, and the chat has been active until then. -/
def IsRefused (s : Scene τ) (text : String) (buttons : Option (List String)) : Prop :=
  s.chat.active = true
    ∧ ∃ e, (World.post (.message s.chat.id text buttons) s.world).1 = .error e
      ∧ e.isUnreachable = true

/-- The scene after a message was posted, whatever became of it. -/
def posted (s : Scene τ) (text : String) (buttons : Option (List String)) : Scene τ :=
  { s with world := (World.post (.message s.chat.id text buttons) s.world).2 }

/-- A chat becomes inactive with the first message that is refused for good, and is kept as
such. -/
theorem send_of_isRefused {s : Scene τ} {text : String}
    {buttons : Option (List String)} (h : IsRefused s text buttons) :
    (send g text buttons).run s
      = (Chat.save g).run
        { posted s text buttons with chat := { s.chat with active := false } } := by
  obtain ⟨hactive, e, he, hunreachable⟩ := h
  rw [send_run, posted]
  generalize World.post (.message s.chat.id text buttons) s.world = p at he ⊢
  obtain ⟨r, w⟩ := p
  dsimp only at he
  subst he
  dsimp only
  rw [hunreachable, hactive]
  rfl

/-- Nothing comes of any other message. -/
theorem send_of_not_isRefused {s : Scene τ} {text : String}
    {buttons : Option (List String)} (h : ¬IsRefused s text buttons) :
    (send g text buttons).run s = (.ok (), posted s text buttons) := by
  rw [IsRefused] at h
  rw [send_run, posted]
  generalize World.post (.message s.chat.id text buttons) s.world = p at h ⊢
  obtain ⟨e | _, w⟩ := p
  · dsimp only
    rw [if_neg]
    intro hboth
    rw [Bool.and_eq_true] at hboth
    exact h ⟨hboth.2, e, rfl, hboth.1⟩
  · rfl

/-- A chat shows the step that it is on. -/
theorem showStep_run {s : Scene τ} {step : Step} (h : s.chat.step? g.scenario = some step) :
    (showStep g).run s = (send g step.text (some step.buttons)).run s := by
  rw [showStep, Action.run_get_bind]
  dsimp only
  rw [h]

/-- A note is void, or it is taken up and its action is run. -/
theorem handleNote_run (n : Elapsed) (s : Scene τ) :
    (handleNote g n).run s
      = match s.chat.awaited? n with
        | none => (.ok (), s)
        | some t => (runAction g t.action).run { s with chat := markHandled n.slot t s.chat } := by
  rw [handleNote, Action.run_get_bind]
  cases s.chat.awaited? n with
  | none => rfl
  | some t => rw [run_update_bind]

end

/-! ## Courses -/

/-- A text that begins with something is not empty. -/
theorem append_ne_empty {a : String} (ha : a ≠ "") (b : String) : a ++ b ≠ "" := fun h =>
  ha (String.append_eq_empty_iff.mp h).1

section

variable {R : Scene τ → Scene τ → Prop}

/-- One action after the other. -/
theorem Follows.bind {x : ChatAction τ α} {f : α → ChatAction τ β}
    (htrans : ∀ {s t u}, R s t → R t u → R s u) (hx : Follows R x) (hf : ∀ a, Follows R (f a)) :
    Follows R (x >>= f) := by
  intro s
  have hs := hx s
  rw [Action.run_bind]
  generalize x.run s = r at hs ⊢
  obtain ⟨e | a, t⟩ := r
  · exact hs
  · exact htrans hs (hf a t)

/-- An action that reads the scene first. -/
theorem Follows.get_bind {f : Scene τ → ChatAction τ α} (hf : ∀ s, R s ((f s).run s).2) :
    Follows R (get >>= f) := hf

namespace IsSpeechCourse

variable {g : Setting} [Transport τ] (h : IsSpeechCourse g R)
include h

theorem pure (a : α) : Follows R (Pure.pure a : ChatAction τ α) := h.refl

theorem sendText (text : String) : Follows R (Chat.sendText g text) := by
  rw [Chat.sendText]
  split
  · exact h.pure ()
  · rename_i hempty
    exact h.send (.text fun htext => hempty (String.isEmpty_iff.mpr htext))

theorem showStep : Follows R (Chat.showStep g) := by
  refine Follows.get_bind fun s => ?_
  dsimp only
  split
  · rename_i step hstep
    exact h.send (.step (Scenario.mem_of_step? hstep).1) s
  · exact h.send (.text (append_ne_empty (append_ne_empty (by decide) _) _)) s

theorem goTo (id : String) : Follows R (Chat.goTo g id) := by
  refine Follows.bind h.trans (h.moveTo id) fun moved => ?_
  split
  · exact h.showStep
  · exact h.pure ()

theorem follow (r : Reference) : Follows R (Chat.follow g r) := by
  refine Follows.bind h.trans (h.sendText r.text) fun _ => ?_
  split
  · exact h.goTo _
  · exact h.pure ()

theorem handleInput (text : String) : Follows R (Chat.handleInput g text) := by
  refine Follows.get_bind fun s => ?_
  dsimp only
  split
  · exact h.send (.text (append_ne_empty (append_ne_empty (by decide) _) _)) s
  split
  · exact h.send (.text (by decide)) s
  · exact h.follow _ s

theorem runMenu (command : MenuCommand) : Follows R (Chat.runMenu g command) := by
  cases command with
  | restart => exact Follows.bind h.trans (h.moveTo _) fun _ => h.showStep
  | status =>
    refine Follows.get_bind fun s => h.send (.text ?_) s
    exact append_ne_empty (append_ne_empty (by decide) _) _
  | about =>
    refine h.send (.text ?_)
    exact append_ne_empty (append_ne_empty (append_ne_empty (by decide) _) _) _

theorem handleText (text : String) : Follows R (Chat.handleText g text) := by
  rw [Chat.handleText]
  split
  · split
    · exact h.runMenu _
    · exact h.pure ()
  · exact h.handleInput text

end IsSpeechCourse

namespace IsTalkCourse

variable {g : Setting} [Transport τ] (h : IsTalkCourse g R)
include h

/-- What holds across every message holds across those that are sent. -/
theorem isSpeechCourse : IsSpeechCourse g R where
  refl := h.refl
  trans := h.trans
  send _ := h.send _ _
  moveTo := h.moveTo

theorem sendText (text : String) : Follows R (Chat.sendText g text) := h.isSpeechCourse.sendText text

theorem showStep : Follows R (Chat.showStep g) := h.isSpeechCourse.showStep

theorem goTo (id : String) : Follows R (Chat.goTo g id) := h.isSpeechCourse.goTo id

theorem handleInput (text : String) : Follows R (Chat.handleInput g text) :=
  h.isSpeechCourse.handleInput text

theorem handleText (text : String) : Follows R (Chat.handleText g text) :=
  h.isSpeechCourse.handleText text

end IsTalkCourse

namespace IsPlayCourse

variable {g : Setting} [Transport τ] (h : IsPlayCourse g R)
include h

theorem moveTo (id : String) : Follows R (Chat.moveTo g id) := by
  intro s
  cases hstep : g.scenario.step? id with
  | none =>
    rw [moveTo_run_of_none hstep]
    exact h.refl s
  | some step =>
    have hsave := h.save (Chat.enterStep step s)
    have henter := h.enterStep s hstep
    rw [moveTo_run_of_some hstep]
    generalize (Chat.save g).run (Chat.enterStep step s) = r at hsave ⊢
    obtain ⟨_ | _, t⟩ := r
    · exact h.trans henter hsave
    · exact h.trans henter hsave

/-- To move is to enter the step and to keep the chat. -/
theorem isTalkCourse : IsTalkCourse g R where
  refl := h.refl
  trans := h.trans
  send := h.send
  moveTo := h.moveTo

theorem sendText (text : String) : Follows R (Chat.sendText g text) := h.isTalkCourse.sendText text

theorem showStep : Follows R (Chat.showStep g) := h.isTalkCourse.showStep

theorem goTo (id : String) : Follows R (Chat.goTo g id) := h.isTalkCourse.goTo id

theorem handleText (text : String) : Follows R (Chat.handleText g text) :=
  h.isTalkCourse.handleText text

theorem runAction (a : Action) : Follows R (Chat.runAction g a) := by
  rw [Chat.runAction]
  split
  · exact Follows.bind h.trans (h.sendText _) fun _ =>
      Follows.bind h.trans (h.moveTo _) fun _ => h.showStep
  · exact Follows.bind h.trans (h.send _ _) fun _ => h.save

end IsPlayCourse

namespace IsSendCourse

variable {g : Setting} [Transport τ] (h : IsSendCourse g R)
include h

/-- What holds across more holds while a chat plays its scenario. -/
theorem isPlayCourse : IsPlayCourse g R where
  refl := h.refl
  trans := h.trans
  save := h.save
  send := h.send
  enterStep := h.enterStep

theorem goTo (id : String) : Follows R (Chat.goTo g id) := h.isPlayCourse.goTo id

theorem handleText (text : String) : Follows R (Chat.handleText g text) :=
  h.isPlayCourse.handleText text

theorem runAction (a : Action) : Follows R (Chat.runAction g a) := h.isPlayCourse.runAction a

theorem applyRef (code : String) : Follows R (Chat.applyRef g code) := by
  intro s
  have hlog := h.writeLog (Json.toText (.object [("refId", .text code)])) s
  rw [applyRef_run]
  generalize (Chat.writeLog g (Json.toText (.object [("refId", .text code)]))).run s = r
    at hlog ⊢
  obtain ⟨_ | _, t⟩ := r
  · exact hlog
  · dsimp only at hlog ⊢
    split
    · rename_i hnone
      exact h.trans hlog (h.trans (h.setRef t code (Option.isNone_iff_eq_none.mp hnone)) (h.save _))
    · exact hlog

theorem welcome (text : String) (sender : Sender) : Follows R (Bot.welcome g text sender) :=
  Follows.bind h.trans (h.writeLog _) fun _ =>
    Follows.bind h.trans (h.isPlayCourse.moveTo _) fun _ => h.isPlayCourse.showStep

end IsSendCourse

namespace IsCourse

variable {g : Setting} [Transport τ] (h : IsCourse g R)
include h

theorem send (text : String) (buttons : Option (List String)) :
    Follows R (Chat.send g text buttons) := by
  intro s
  have hpost := h.post s text buttons
  rw [send_run]
  generalize World.post (.message s.chat.id text buttons) s.world = r at hpost ⊢
  obtain ⟨e | _, world⟩ := r
  · dsimp only at hpost ⊢
    split
    · have hactive := h.setActive { s with world } false
      exact h.trans hpost (h.trans hactive (h.save _))
    · exact hpost
  · exact hpost

theorem markReachable : Follows R (Chat.markReachable g) := by
  intro s
  rw [markReachable_run]
  split
  · exact h.refl s
  · exact h.trans (h.setActive s true) (h.save _)

/-- Across a message a course holds, whatever becomes of it. -/
theorem isSendCourse : IsSendCourse g R where
  refl := h.refl
  trans := h.trans
  save := h.save
  writeLog := h.writeLog
  send := h.send
  setRef := h.setRef
  enterStep := h.enterStep

theorem sendText (text : String) : Follows R (Chat.sendText g text) :=
  h.isSendCourse.isPlayCourse.sendText text

theorem showStep : Follows R (Chat.showStep g) := h.isSendCourse.isPlayCourse.showStep

theorem goTo (id : String) : Follows R (Chat.goTo g id) := h.isSendCourse.goTo id

theorem runAction (a : Action) : Follows R (Chat.runAction g a) := h.isSendCourse.runAction a

theorem welcome (text : String) (sender : Sender) : Follows R (Bot.welcome g text sender) :=
  h.isSendCourse.welcome text sender

/-- What is written in a chat is answered by it. -/
theorem respond (text : String) : Follows R (Bot.respond g text) := by
  refine Follows.bind h.trans h.markReachable fun _ => ?_
  refine Follows.bind h.trans (h.writeLog text) fun _ => ?_
  split
  · exact h.isSendCourse.applyRef _
  · exact h.isSendCourse.handleText text

end IsCourse

end

end Chat
end ScriptedChat
