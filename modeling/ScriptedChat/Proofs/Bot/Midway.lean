import ScriptedChat.Proofs.Bot.InStep

/-!
# In the middle of a note

A chat that takes up a note marks its timer first, and keeps itself when the action of the timer
has been run.  Both are meant to come to disk together, so that a bot that is cut off in between
takes up the note once more.

What is between them is said by the scenes that the action passes through (`Chat.points`): it is
made of parts, and each of them writes the record once or not at all (`Chat.writes_once`).  A
record is replaced at once or not at all, so what can be loaded while a part is at work is what was
loaded before it or what is loaded after it.

## Cut short

For an action that leads to a step, the first part sends a text.  If this is refused for good, the
chat becomes inactive and is kept as such, and so the mark comes to disk before the chat has moved.
This is the only way in which it does (`Chat.shownDone_midway_iff`).  If the bot is cut off there,
or the move cannot be kept, the timer is done, and the chat is where it was.

* `Chat.parts`, `Chat.points`, `Chat.getLast?_points`, `Chat.writes_once`: the middle of a note.
* `Chat.ShownDone`: what is loaded shows a timer as done.
* `Chat.shownDone_midway_iff`: when it does so before the action has been run.
-/

namespace ScriptedChat
namespace Chat

variable {τ : Type}

/-! ## The middle of a note -/

section

variable [Transport τ]

/-- Moves to a step, and does not tell whether there is one. -/
def move (g : Setting) (id : String) : ChatAction τ Unit := do
  let _ ← moveTo g id

omit [Transport τ] in
/-- To move to a step that there is, is to keep the chat there. -/
theorem run_move {id : String} {step : Step} (hstep : g.scenario.step? id = some step)
    (s : Scene τ) :
    (move g id).run s = (Chat.save g).run (enterStep step s) := by
  rw [move, Action.run_bind, moveTo_run_of_some hstep]
  rcases (Chat.save g).run (enterStep step s) with ⟨e | _, t⟩ <;> rfl

/-- What the action of a timer is made of, one part after the other. -/
def parts (g : Setting) (a : Action) : List (ChatAction τ Unit) :=
  match a.reference.step.bind g.scenario.step? with
  | some step =>
    [sendText g a.reference.text, move g step.id, showStep g]
  | none => [send g a.target none, Chat.save g]

/-- The scenes after each of some actions, up to the first one that fails. -/
def reached : List (ChatAction τ Unit) → Scene τ → List (Scene τ)
  | [], _ => []
  | x :: xs, s =>
    match x.run s with
    | (.ok _, t) => t :: reached xs t
    | (.error _, t) => [t]

/-- The scene when a timer has been marked, and its action has not been run. -/
def marked (n : Elapsed) (x : ActionTimer) (s : Scene τ) : Scene τ :=
  { s with chat := markHandled n.slot x s.chat }

/-- The scenes that a chat passes through when it handles a note. -/
def points (g : Setting) (n : Elapsed) (s : Scene τ) : List (Scene τ) :=
  match s.chat.awaited? n with
  | none => [s]
  | some x => marked n x s :: reached (parts g x.action) (marked n x s)

omit [Transport τ] in
/-- The scene that some actions leave, one after the other, is the last one reached. -/
theorem getLast?_reached_cons (x : ChatAction τ Unit) (xs : List (ChatAction τ Unit))
    (s : Scene τ) :
    (reached (x :: xs) s).getLast?.getD s
      = match x.run s with
        | (.ok _, t) => (reached xs t).getLast?.getD t
        | (.error _, t) => t := by
  rw [reached]
  rcases x.run s with ⟨e | _, t⟩
  · rfl
  · rw [List.getLast?_cons]
    rfl

/-- **The last of the scenes is the one that the note leaves.** -/
theorem getLast?_points (g : Setting) (n : Elapsed) (s : Scene τ) :
    (points g n s).getLast? = some ((handleNote g n).run s).2 := by
  rw [points, handleNote_run]
  cases s.chat.awaited? n with
  | none => rfl
  | some x =>
    dsimp only
    rw [List.getLast?_cons, parts, runAction]
    cases x.action.reference.step.bind g.scenario.step? with
    | none =>
      dsimp only
      rw [getLast?_reached_cons, ← marked, Action.run_bind]
      rcases (send g x.action.target none).run (marked n x s) with ⟨e | _, t⟩
      · rfl
      · dsimp only
        rw [getLast?_reached_cons]
        rcases (Chat.save g).run t with ⟨e | _, u⟩ <;> rfl
    | some step =>
      dsimp only
      rw [getLast?_reached_cons, ← marked, Action.run_bind]
      rcases (sendText g x.action.reference.text).run (marked n x s) with ⟨e | _, t⟩
      · rfl
      · dsimp only
        rw [getLast?_reached_cons, move, Action.run_bind, Action.run_bind]
        rcases (moveTo g step.id).run t with ⟨e | _, u⟩
        · rfl
        · show some ((reached [showStep g] u).getLast?.getD u) = some ((showStep g).run u).2
          rw [getLast?_reached_cons]
          rcases (showStep g).run u with ⟨e | _, v⟩ <;> rfl

/-- The record of some chat was written, or nothing was. -/
def WritesOnce (g : Setting) (d d' : Disk) : Prop :=
  d' = d ∨ ∃ r, d' = ((g.store.save r).run d).2

omit [Transport τ] in
theorem writesOnce_save (g : Setting) (s : Scene τ) :
    WritesOnce g s.world.disk ((Chat.save g).run s).2.world.disk := by
  rw [save_run_snd]
  exact Or.inr ⟨_, rfl⟩

theorem writesOnce_send (g : Setting) (text : String) (buttons : Option (List String))
    (s : Scene τ) : WritesOnce g s.world.disk ((send g text buttons).run s).2.world.disk := by
  by_cases h : IsRefused s text buttons
  · rw [send_of_isRefused g h]
    exact writesOnce_save g { posted s text buttons with chat := { s.chat with active := false } }
  · rw [send_of_not_isRefused g h]
    exact Or.inl rfl

/-- **No part of an action writes a record twice.** -/
theorem writes_once {g : Setting} {a : Action} {x : ChatAction τ Unit} (hx : x ∈ parts g a)
    (s : Scene τ) : WritesOnce g s.world.disk (x.run s).2.world.disk := by
  rw [parts] at hx
  cases hstep : a.reference.step.bind g.scenario.step? with
  | none =>
    rw [hstep] at hx
    rcases List.mem_cons.mp hx with rfl | hx
    · exact writesOnce_send g a.target none s
    · obtain rfl := List.mem_singleton.mp hx
      exact writesOnce_save g s
  | some step =>
    obtain ⟨id, -, hid⟩ := Option.bind_eq_some_iff.mp hstep
    have hself : g.scenario.step? step.id = some step := by rw [step?_id hid, hid]
    rw [hstep] at hx
    rcases List.mem_cons.mp hx with rfl | hx
    · rw [sendText]
      split
      · exact Or.inl rfl
      · exact writesOnce_send g a.reference.text none s
    rcases List.mem_cons.mp hx with rfl | hx
    · have hsave := writesOnce_save g (enterStep step s)
      rw [run_move hself]
      exact hsave
    · obtain rfl := List.mem_singleton.mp hx
      rw [showStep, Action.run_get_bind]
      dsimp only
      split
      · exact writesOnce_send g _ _ s
      · exact writesOnce_send g _ _ s

end

/-! ## What is loaded in the middle -/

/-- A record shows a timer as done, on the step that a chat is on. -/
def Shows (c : Chat) (slot : Nat) (r : ChatRecord) : Prop :=
  r.stepId = c.stepId ∧ ∃ x, r.timers[slot]? = some x ∧ x.done = true

/-- What is loaded for a chat shows a timer as done. -/
def ShownDone (g : Setting) (c : Chat) (slot : Nat) (d : Disk) : Prop :=
  ∃ r, g.store.load c.id d = .ok r ∧ Shows c slot r

variable {g : Setting} {c : Chat} {slot : Nat}

theorem shownDone_congr {d d' : Disk} (h : g.store.loaded? c.id d' = g.store.loaded? c.id d) :
    ShownDone g c slot d' ↔ ShownDone g c slot d := by
  simp only [ShownDone, ← Store.loaded?_eq_some, h]

/-- To mark a timer is what a record shows. -/
theorem shows_marked {s : Scene τ} {n : Elapsed} {x : ActionTimer}
    (hx : s.chat.awaited? n = some x) : Shows s.chat n.slot (marked n x s).chat.record := by
  obtain ⟨-, hslot, -⟩ := awaited?_eq_some.mp hx
  obtain ⟨hlt, -⟩ := List.getElem?_eq_some_iff.mp hslot
  refine ⟨rfl, { x.state with done := true }, ?_, rfl⟩
  rw [timers_record, marked, states_markHandled, List.getElem?_set_self]
  rw [List.length_map]
  exact hlt

/-- No record of a chat that has just moved shows a timer as done. -/
theorem not_shows_enterStep {id : String} {step : Step} (hstep : g.scenario.step? id = some step)
    (s : Scene τ) : ¬Shows c slot (enterStep step s).chat.record := by
  rintro ⟨-, x, hx, hdone⟩
  rw [((moved_enterStep hstep s).fresh (List.mem_of_getElem? hx)).2] at hdone
  cases hdone

/-- When the chat has been kept, its record is what is loaded, and otherwise it is the one that
was loaded before. -/
theorem shownDone_save (slot : Nat) {s : Scene τ} (hs : g.store.Holds s.world.disk)
    (hid : s.chat.id = c.id) :
    g.store.Holds ((Chat.save g).run s).2.world.disk
      ∧ (((Chat.save g).run s).1 = .ok () →
          g.store.load c.id ((Chat.save g).run s).2.world.disk = .ok s.chat.record)
      ∧ (((Chat.save g).run s).1 ≠ .ok () →
          (ShownDone g c slot ((Chat.save g).run s).2.world.disk
            ↔ ShownDone g c slot s.world.disk)) := by
  have hsaves := Store.saves hs s.chat.record
  rw [save_run]
  generalize (g.store.save s.chat.record).run s.world.disk = p at hsaves ⊢
  obtain ⟨e | _, d⟩ := p
  · refine ⟨hsaves.spares.holds, fun hok => (by cases hok), fun _ => shownDone_congr ?_⟩
    rw [← hid]
    exact hsaves.loaded e rfl
  · refine ⟨hsaves.spares.holds, fun _ => ?_, fun hno => absurd rfl hno⟩
    rw [← hid]
    exact hsaves.load rfl

variable [Transport τ]

/-- A chat that shows nothing does not come to show something by a message. -/
theorem not_shownDone_send {s : Scene τ} (hs : g.store.Holds s.world.disk)
    (hid : s.chat.id = c.id) (hrecord : ¬Shows c slot s.chat.record)
    (hbefore : ¬ShownDone g c slot s.world.disk) (text : String)
    (buttons : Option (List String)) :
    ¬ShownDone g c slot ((send g text buttons).run s).2.world.disk := by
  by_cases h : IsRefused s text buttons
  · rw [send_of_isRefused g h]
    obtain ⟨-, hkept, hlost⟩ := shownDone_save slot
      (s := { posted s text buttons with chat := { s.chat with active := false } }) hs hid
    by_cases hok : ((Chat.save g).run
        { posted s text buttons with chat := { s.chat with active := false } }).1 = .ok ()
    · rintro ⟨r, hr, hshows⟩
      rw [hkept hok] at hr
      rw [← Except.ok.inj hr] at hshows
      exact hrecord hshows
    · rw [hlost hok]
      exact hbefore
  · rw [send_of_not_isRefused g h]
    exact hbefore

/-- After a message, what is loaded for a chat that has been kept is what was kept of it, apart from
its activity. -/
theorem load_send {s : Scene τ} (hs : g.store.Holds s.world.disk) (hid : s.chat.id = c.id)
    (hload : g.store.load c.id s.world.disk = .ok s.chat.record) {text : String}
    {buttons : Option (List String)} (hok : ((send g text buttons).run s).1 = .ok ()) :
    ∃ active, g.store.load c.id ((send g text buttons).run s).2.world.disk
      = .ok { s.chat with active }.record := by
  by_cases h : IsRefused s text buttons
  · rw [send_of_isRefused g h] at hok ⊢
    obtain ⟨-, hkept, -⟩ := shownDone_save 0
      (s := { posted s text buttons with chat := { s.chat with active := false } }) hs hid
    exact ⟨false, hkept hok⟩
  · rw [send_of_not_isRefused g h]
    exact ⟨s.chat.active, hload⟩

/-! ## Cut short -/

/-- The text that comes before a step is refused for good, and the chat can be kept as inactive. -/
def IsCutShort (g : Setting) (a : Action) (s : Scene τ) : Prop :=
  a.reference.text.isEmpty = false ∧ IsRefused s a.reference.text none
    ∧ ((sendText g a.reference.text).run s).1 = .ok ()

/-- The text before a step brings a mark to disk if and only if the action is cut short there. -/
theorem shownDone_sendText {s : Scene τ} (hs : g.store.Holds s.world.disk)
    (hid : s.chat.id = c.id) (hrecord : Shows c slot s.chat.record)
    (hbefore : ¬ShownDone g c slot s.world.disk) (a : Action) :
    ShownDone g c slot ((sendText g a.reference.text).run s).2.world.disk
      ↔ IsCutShort g a s := by
  rw [IsCutShort, sendText]
  cases htext : a.reference.text.isEmpty with
  | true => exact ⟨fun h => absurd h hbefore, fun h => by cases h.1⟩
  | false =>
    rw [if_neg Bool.false_ne_true]
    by_cases h : IsRefused s a.reference.text none
    · rw [send_of_isRefused g h]
      obtain ⟨-, hkept, hlost⟩ := shownDone_save slot
        (s := { posted s a.reference.text none with chat := { s.chat with active := false } })
        hs hid
      by_cases hok : ((Chat.save g).run
          { posted s a.reference.text none with chat := { s.chat with active := false } }).1
            = .ok ()
      · exact ⟨fun _ => ⟨rfl, h, hok⟩, fun _ => ⟨_, hkept hok, hrecord⟩⟩
      · rw [hlost hok]
        exact ⟨fun hshown => absurd hshown hbefore, fun hcut => absurd hcut.2.2 hok⟩
    · rw [send_of_not_isRefused g h]
      exact ⟨fun hshown => absurd hshown hbefore, fun hcut => absurd hcut.2.1 h⟩

/-- What comes after the text shows no mark that has not been there before. -/
theorem not_shownDone_reached {id : String} {step : Step}
    (hstep : g.scenario.step? id = some step) {s u : Scene τ} (hs : g.store.Holds s.world.disk)
    (hid : s.chat.id = c.id)
    (hu : u ∈ reached [move g id, showStep g] s)
    (hshown : ShownDone g c slot u.world.disk) : ShownDone g c slot s.world.disk := by
  have hfresh : ¬Shows c slot (enterStep step s).chat.record := not_shows_enterStep hstep s
  have hchat := chat_save g (enterStep step s)
  obtain ⟨hholds, hkept, hlost⟩ := shownDone_save slot (s := enterStep step s) hs hid
  rw [reached, run_move hstep] at hu
  generalize (Chat.save g).run (enterStep step s) = p at hu hchat hholds hkept hlost
  obtain ⟨e | _, t⟩ := p
  · obtain rfl := List.mem_singleton.mp hu
    exact (hlost fun h => by cases h).mp hshown
  · exfalso
    have hnot : ¬ShownDone g c slot t.world.disk := by
      rintro ⟨r, hr, hshows⟩
      rw [hkept rfl] at hr
      exact hfresh (Except.ok.inj hr ▸ hshows)
    rcases List.mem_cons.mp hu with rfl | hu
    · exact hnot hshown
    -- The step is shown by one message.
    have hshow : ∀ v ∈ reached [showStep g] t, v = ((showStep g).run t).2 := by
      intro v hv
      rw [reached] at hv
      generalize (showStep g).run t = p at hv ⊢
      obtain ⟨e | _, w⟩ := p
      · exact List.mem_singleton.mp hv
      · exact List.mem_singleton.mp hv
    have hsend := not_shownDone_send (c := c) (s := t) hholds
      ((congrArg Chat.id hchat).trans hid) (hchat ▸ hfresh) hnot
    rw [hshow u hu, showStep, Action.run_get_bind] at hshown
    dsimp only at hshown
    split at hshown
    · exact hsend _ _ hshown
    · exact hsend _ _ hshown

/-- After an action that leads to a step and has not failed, what is loaded is that the chat is
there, and that none of its timers is done. -/
theorem load_runAction {a : Action} {step : Step}
    (hstep : a.reference.step.bind g.scenario.step? = some step) {s : Scene τ}
    (hs : g.store.Holds s.world.disk) (hid : s.chat.id = c.id)
    (hok : ((runAction g a).run s).1 = .ok ()) :
    ∃ r, g.store.load c.id ((runAction g a).run s).2.world.disk = .ok r
      ∧ r.stepId = some step.id ∧ ∀ x ∈ r.timers, x.done = false := by
  obtain ⟨id, -, hfound⟩ := Option.bind_eq_some_iff.mp hstep
  have hself : g.scenario.step? step.id = some step := by rw [step?_id hfound, hfound]
  have htext := (isCourse_goesOn g).sendText a.reference.text s
  rw [runAction, hstep] at hok ⊢
  dsimp only at hok ⊢
  rw [Action.run_bind] at hok ⊢
  generalize (sendText g a.reference.text).run s = p at hok htext ⊢
  obtain ⟨e | _, t⟩ := p
  · cases hok
  have hchat := chat_save g (enterStep step t)
  obtain ⟨hholds, hkept, -⟩ := shownDone_save 0 (s := enterStep step t)
    (htext.disk hs).holds (htext.id.trans hid)
  dsimp only at hok ⊢
  rw [Action.run_bind, moveTo_run_of_some hself] at hok ⊢
  generalize (Chat.save g).run (enterStep step t) = p at hok hchat hholds hkept ⊢
  obtain ⟨e | _, u⟩ := p
  · cases hok
  dsimp only at hok hchat hholds hkept ⊢
  -- What was kept is what is shown, whatever becomes of the message.
  have hshow : ∃ text buttons, (showStep g).run u = (send g text buttons).run u := by
    rw [showStep, Action.run_get_bind]
    dsimp only
    split
    · exact ⟨_, _, rfl⟩
    · exact ⟨_, _, rfl⟩
  obtain ⟨text, buttons, hsend⟩ := hshow
  rw [hsend] at hok ⊢
  obtain ⟨active, hload⟩ := load_send (c := c) hholds
    ((congrArg Chat.id hchat).trans (htext.id.trans hid)) ((hkept rfl).trans (by rw [hchat])) hok
  refine ⟨_, hload, ?_, fun x hx => ?_⟩
  · rw [hchat]
    rfl
  · rw [hchat] at hx
    exact ((moved_enterStep hself t).fresh hx).2

/-- If the move cannot be kept after the text was refused for good, the note leaves the timer as
done, on the old step. -/
theorem shownDone_of_lost {a : Action} {step : Step}
    (hstep : a.reference.step.bind g.scenario.step? = some step) {s : Scene τ}
    (hs : g.store.Holds s.world.disk) (hid : s.chat.id = c.id)
    (hrecord : Shows c slot s.chat.record) (hbefore : ¬ShownDone g c slot s.world.disk)
    (hcut : IsCutShort g a s)
    (hlost : ((move g step.id).run ((sendText g a.reference.text).run s).2).1 ≠ .ok ()) :
    ShownDone g c slot ((runAction g a).run s).2.world.disk := by
  obtain ⟨id, -, hfound⟩ := Option.bind_eq_some_iff.mp hstep
  have hself : g.scenario.step? step.id = some step := by rw [step?_id hfound, hfound]
  have htext : GoesOn g s ((sendText g a.reference.text).run s).2 :=
    (isCourse_goesOn g).sendText a.reference.text s
  have hshown := (shownDone_sendText hs hid hrecord hbefore a).mpr hcut
  have hok := hcut.2.2
  rw [runAction, hstep]
  dsimp only
  rw [Action.run_bind]
  generalize (sendText g a.reference.text).run s = p at htext hlost hshown hok ⊢
  obtain ⟨r, t⟩ := p
  obtain rfl : r = .ok () := hok
  obtain ⟨-, -, hkept⟩ := shownDone_save slot (s := enterStep step t)
    (htext.disk hs).holds (htext.id.trans hid)
  dsimp only at hlost hshown ⊢
  rw [run_move hself] at hlost
  rw [Action.run_bind, moveTo_run_of_some hself]
  generalize (Chat.save g).run (enterStep step t) = p at hlost hkept ⊢
  obtain ⟨e | _, u⟩ := p
  · exact (hkept hlost).mpr hshown
  · exact absurd rfl hlost

/-- **When a timer is shown as done too early.**  A chat takes up a note, and what is loaded for it
does not show the timer as done yet.

If the action of the timer leads to a step, then there is a point at which what is loaded shows the
timer as done, on the old step, if and only if the text before the step is refused for good while
the chat is active, and the chat can be kept as inactive.  If the move cannot be kept then, this is
what the note leaves.  When the note has been handled without a failure, what is loaded is that the
chat is on the new step.

If the action leads to no step, it is a message, and the message has been posted whenever the timer
is shown as done. -/
theorem shownDone_midway_iff {s : Scene τ} {n : Elapsed} {x : ActionTimer}
    (hs : g.store.Holds s.world.disk) (hx : s.chat.awaited? n = some x)
    (hbefore : ¬ShownDone g s.chat n.slot s.world.disk) :
    (∀ step, x.action.reference.step.bind g.scenario.step? = some step →
      ((∃ u ∈ points g n s, ShownDone g s.chat n.slot u.world.disk)
          ↔ IsCutShort g x.action (marked n x s))
        ∧ (IsCutShort g x.action (marked n x s) →
          ((move g step.id).run
            ((sendText g x.action.reference.text).run (marked n x s)).2).1 ≠ .ok () →
          ShownDone g s.chat n.slot ((handleNote g n).run s).2.world.disk)
        ∧ (((handleNote g n).run s).1 = .ok () →
          ∃ r, g.store.load s.chat.id ((handleNote g n).run s).2.world.disk = .ok r
            ∧ r.stepId = some step.id ∧ ∀ y ∈ r.timers, y.done = false))
      ∧ (x.action.reference.step.bind g.scenario.step? = none →
        ∀ u ∈ points g n s, ShownDone g s.chat n.slot u.world.disk →
          u.world.outbox = s.world.outbox ++ [.message s.chat.id x.action.target none]) := by
  have hpoints : points g n s = marked n x s :: reached (parts g x.action) (marked n x s) := by
    rw [points, hx]
  rw [hpoints]
  refine ⟨fun step hstep => ⟨?_, fun hcut hlost => ?_, fun hok => ?_⟩, fun hnone u hu hshown => ?_⟩
  · obtain ⟨id, -, hfound⟩ := Option.bind_eq_some_iff.mp hstep
    have hself : g.scenario.step? step.id = some step := by rw [step?_id hfound, hfound]
    have htext := shownDone_sendText (s := marked n x s) hs rfl (shows_marked hx) hbefore x.action
    have hcourse : GoesOn g (marked n x s)
        ((sendText g x.action.reference.text).run (marked n x s)).2 :=
      (isCourse_goesOn g).sendText x.action.reference.text (marked n x s)
    have hfirst : (parts g x.action : List (ChatAction τ Unit))
        = [sendText g x.action.reference.text, move g step.id, showStep g] := by
      rw [parts, hstep]
    rw [hfirst, reached, ← htext]
    generalize (sendText g x.action.reference.text).run (marked n x s) = p at hcourse ⊢
    obtain ⟨r, t⟩ := p
    constructor
    · rintro ⟨u, hu, hshown⟩
      rcases List.mem_cons.mp hu with rfl | hu
      · exact absurd hshown hbefore
      cases r with
      | error e =>
        obtain rfl := List.mem_singleton.mp hu
        exact hshown
      | ok _ =>
        rcases List.mem_cons.mp hu with rfl | hu
        · exact hshown
        · exact not_shownDone_reached hself (hcourse.disk hs).holds hcourse.id hu hshown
    · intro hshown
      refine ⟨t, List.mem_cons_of_mem _ ?_, hshown⟩
      cases r with
      | error e => exact List.mem_singleton_self t
      | ok _ => exact List.mem_cons_self ..
  · rw [handleNote_run, hx]
    exact shownDone_of_lost hstep (s := marked n x s) hs rfl (shows_marked hx) hbefore hcut hlost
  · rw [handleNote_run, hx] at hok ⊢
    exact load_runAction hstep (s := marked n x s) hs rfl hok
  · rcases List.mem_cons.mp hu with rfl | hu
    · exact absurd hshown hbefore
    have hposted : ((send g x.action.target none).run (marked n x s)).2.world.outbox
        = s.world.outbox ++ [.message s.chat.id x.action.target none] := by
      by_cases h : IsRefused (marked n x s) x.action.target none
      · rw [send_of_isRefused g h, save_run_snd]
        rfl
      · rw [send_of_not_isRefused g h]
        rfl
    have hfirst : (parts g x.action : List (ChatAction τ Unit))
        = [send g x.action.target none, Chat.save g] := by
      rw [parts, hnone]
    rw [hfirst, reached] at hu
    generalize (send g x.action.target none).run (marked n x s) = p at hu hposted
    obtain ⟨e | _, t⟩ := p
    · obtain rfl := List.mem_singleton.mp hu
      exact hposted
    · rcases List.mem_cons.mp hu with rfl | hu
      · exact hposted
      · have hkeep := save_run_snd g t
        rw [reached] at hu
        generalize (Chat.save g).run t = p at hu hkeep
        obtain ⟨e | _, v⟩ := p
        · obtain rfl := List.mem_singleton.mp hu
          rw [show u = _ from hkeep]
          exact hposted
        · obtain rfl := List.mem_singleton.mp hu
          rw [show u = _ from hkeep]
          exact hposted

/-! ## A chat that cannot be reached when its time is up -/

/-- An action that says something when its time is up, and leads on. -/
def leaving : Action := ⟨"(1h)", "(2) Time is up", ⟨some "2", "Time is up"⟩⟩

/-- The step that it leads to. -/
def goodbye : Step := { id := "2", cue := .none, body := ["Goodbye"], actions := [] }

/-- A scenario whose first step has this action. -/
def parting : Setting :=
  let entry : Step :=
    { id := "1", cue := .immediate, body := ["Hello"], actions := [leaving] }
  { scenario :=
      { name := "Parting", description := "", menu := [], steps := [entry, goodbye], entry }
    store := ⟨⟨"/"⟩⟩ }

/-- Its timer, in a chat that came to the first step when the epoch began. -/
def leavingTimer : ActionTimer :=
  { action := leaving
    watch :=
      { start := 0, span := 3600000000000, done := false, overdue := false
        alarm := some ⟨3600000, 0⟩ }
    handled := false }

/-- Somebody has written to the bot, and cannot be reached any more.  The next record can be
written, and the one after it cannot. -/
def deserted : Scene Refusing :=
  let s := Bot.after [.receive ⟨"42", "Hi", ⟨42, false, "Ann", none, none, none⟩, none⟩]
    ⟨Bot.newBot parting, Bot.newWorld⟩
  { chat := (s.bot.chat? "42").getD (opening parting.scenario "42" none)
    world :=
      { s.world with
        transport := ⟨[("42", DeliveryError.forbidden)]⟩
        disk := { s.world.disk with refusals := [none, none, some 0] } } }

theorem start_parting :
    (Bot.start parting).run Bot.newWorld = (.ok (Bot.newBot parting), Bot.newWorld) :=
  Bot.start_of_chats_nil Bot.chats_newWorld

theorem holds_deserted : parting.store.Holds deserted.world.disk := by
  let hello : Bot.Deed := .receive ⟨"42", "Hi", ⟨42, false, "Ann", none, none, none⟩, none⟩
  have hno : ¬StoreFailed (hello.act.run ⟨Bot.newBot parting, Bot.newWorld⟩).1 := by
    have hok : (hello.act.run ⟨Bot.newBot parting, Bot.newWorld⟩).1 = .ok () := by decide +kernel
    rw [hok]
    rintro ⟨e, he⟩
    cases he
  obtain ⟨-, -, -, hlast⟩ := Bot.pair_inStep parting (Bot.IsWhole parting Bot.newWorld.disk _) hello
    _ _ ⟨rfl, Bot.inStep_start Disk.isTree_empty
      (Bot.inPlace_of_chats_nil Disk.isTree_empty Bot.chats_newWorld) start_parting⟩
    fun _ => ⟨hno, hno⟩
  obtain ⟨htree, q, hq⟩ := hlast.holds
  have hwithin := Disk.Within.refusals (q := q) htree [none, none, some 0]
  exact ⟨hwithin.tree, q, hq.mono hwithin.directories⟩

/-- The text that time is up is refused for good, and the chat is kept as inactive, with its timer
done.  The move to the second step cannot be kept, and so the chat stays on the first one for good,
without a timer that could lead on. -/
theorem mark_before_move_of_deserted :
    deserted.chat.stepId = some "1"
      ∧ (∃ u ∈ points parting ⟨"42", 1, 0⟩ deserted,
        ShownDone parting deserted.chat 0 u.world.disk)
      ∧ ShownDone parting deserted.chat 0
        ((handleNote parting ⟨"42", 1, 0⟩).run deserted).2.world.disk := by
  have hid : deserted.chat.id = "42" := by decide +kernel
  have hx : deserted.chat.awaited? ⟨"42", 1, 0⟩ = some leavingTimer := by decide +kernel
  have hstep : leavingTimer.action.reference.step.bind parting.scenario.step? = some goodbye := rfl
  have hbefore : ¬ShownDone parting deserted.chat 0 deserted.world.disk := by
    have hkept : (parting.store.loaded? "42" deserted.world.disk).map ChatRecord.timers
        = some [⟨0, 3600000, false⟩] := by decide +kernel
    rintro ⟨r, hr, -, y, hy, hdone⟩
    rw [hid, ← Store.loaded?_eq_some] at hr
    rw [hr, Option.map_some, Option.some.injEq] at hkept
    rw [hkept] at hy
    cases hy
    cases hdone
  have hcut : IsCutShort parting leavingTimer.action
      (marked ⟨"42", 1, 0⟩ leavingTimer deserted) := by
    refine ⟨rfl, ⟨by decide +kernel, .api "sendMessage" 403 "refused", ?_, rfl⟩, ?_⟩
    · decide +kernel
    · decide +kernel
  have hlost : ((move parting goodbye.id).run ((sendText parting leaving.reference.text).run
      (marked ⟨"42", 1, 0⟩ leavingTimer deserted)).2).1 ≠ .ok () := by decide +kernel
  obtain ⟨hleading, -⟩ := shownDone_midway_iff holds_deserted hx hbefore
  obtain ⟨hiff, hstays, -⟩ := hleading goodbye hstep
  exact ⟨by decide +kernel, hiff.mpr hcut, hstays hcut hlost⟩

end Chat
end ScriptedChat
