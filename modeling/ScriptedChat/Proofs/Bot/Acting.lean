import ScriptedChat.Proofs.Bot.History
import ScriptedChat.Proofs.Chat.Following

/-!
# What timers do

The ledger of a history tells which timers were entered.  That is only worth something if a timer
that is entered does what its action says, and if no other timer does anything.  Both are shown
here, for every note and at every stage of a history.

## Acting

What the action of a timer brings about is said by the scenes before and after, and not by the
function that runs it (`Chat.Effect`).  If the target is a step of the scenario, the text that it
refers to and the step are sent, and the chat has moved there.  Otherwise the target is sent as a
message, and the timer is marked.  Either way the chat that results is what can be loaded.

A timer *acts* when its note is handled with this effect (`Bot.Acts`).  It is then one of those
that its chat has, its action is the one in its place at the step that the chat is on, and nobody
else does anything.  It can stop halfway if the store fails, and for no other reason.

## Once

For every note there are two cases.  The timer is not in the ledger, it is entered, and it acts.
Or nothing is entered, nothing changes, and nothing is sent; and that is so for a timer that its
chat has only if it is in the ledger already (`Bot.Recorded.acts_or_rests`).

So the timers in the ledger are those that have acted: there was a stage at which the timer was not
in there and acted, and everything else came afterwards (`Bot.HasActed`).

* `Chat.Effect`, `Chat.effect_handleNote`: what the action of a timer brings about.
* `Bot.Acts`, `Bot.Recorded.acts`: when a timer acts.
* `Bot.HasActed`, `Bot.History.mem_acted_iff`: where the entries of the ledger come from.
* `Bot.timers_act_once`: **every timer acts at most once, and what is kept tells whether it did**.
-/

namespace ScriptedChat

variable {τ : Type} [Transport τ] {g : Setting}

/-! ## Acting -/

namespace Chat

/-- What the action of the timer in a slot brings about. -/
structure Effect (g : Setting) (slot : Nat) (x : ActionTimer) (s t : Scene τ) : Prop where
  /-- Where there is a step to go to, the way there is told, and the chat has moved to it. -/
  moves : ∀ step, next? g x.action.reference = some step →
    Tells (messages g x.action.reference s.chat.id) (Chat.enterStep step s) t
  /-- Where there is none, the target is told, and the timer is marked. -/
  stays : next? g x.action.reference = none →
    Tells [.message s.chat.id x.action.target none]
      { s with chat := markHandled slot x s.chat } t
  /-- The chat is kept as it is then. -/
  saved : IsSaved g t

/-- The action of a timer whose note is taken up has its effect, unless something fails. -/
theorem effect_handleNote {s t : Scene τ} {n : Elapsed} {x : ActionTimer}
    (hs : g.store.Holds s.world.disk) (hx : s.chat.awaited? n = some x)
    (hrun : (Chat.handleNote g n).run s = (.ok (), t)) : Effect g n.slot x s t := by
  obtain ⟨hmoves, hstays⟩ := tells_handleNote hx hrun
  refine ⟨hmoves, hstays, (keepsChanges_handleNote hs hrun).saved (Or.inr ?_)⟩
  obtain ⟨-, hslot, hopen⟩ := awaited?_eq_some.mp hx
  cases hnext : next? g x.action.reference with
  | none => exact (hstays hnext).ne_of_markHandled hslot hopen
  | some step => exact (hmoves step hnext).ne_of_enterStep

/-- Only the store can be the reason why a note could not be handled, ... -/
theorem storeFailed_handleNote {s t : Scene τ} {n : Elapsed} {r : Except EngineError Unit}
    (hrun : (Chat.handleNote g n).run s = (r, t)) (hr : r ≠ .ok ()) : StoreFailed r := by
  obtain ⟨-, hfails⟩ := (isFailCourse_store g).handleNote n s trivial
  rw [hrun] at hfails
  cases r with
  | ok _ => exact absurd rfl hr
  | error e =>
    obtain ⟨cause, rfl⟩ := hfails e rfl
    exact ⟨cause, rfl⟩

/-- ... and it is none if it works for the chat. -/
theorem handleNote_of_works {s t : Scene τ} {n : Elapsed} {r : Except EngineError Unit}
    (hrun : (Chat.handleNote g n).run s = (r, t))
    (hworks : g.store.Works s.chat.id s.world.disk) : r = .ok () := by
  obtain ⟨u, hok, -⟩ := exists_run_of_works ((isFailCourse_works g).handleNote n) hworks
  exact congrArg Prod.fst (hrun.symm.trans hok)

end Chat

namespace Bot

/-- The timer `x` of the chat `c` is the one that a note is of, and it acts when the note is
handled, with the result `r`, so that the scene of the chat is `t`. -/
structure Acting (g : Setting) (s : Stage τ) (n : Elapsed) (c : Chat) (x : ActionTimer)
    (r : Except EngineError Unit) (t : Scene τ) : Prop where
  chat : s.bot.chat? n.chat = some c
  generation : n.generation = c.generation
  timer : c.timers[n.slot]? = some x
  /-- Its action is the one in its place at the step that the chat is on. -/
  action : ∃ step, c.step? g.scenario = some step ∧ step.delayedActions[n.slot]? = some x.action
  /-- Only this chat does anything. -/
  run : (handleNote n).run s = (r, put s n.chat t)
  effect : r = .ok () → Chat.Effect g n.slot x ⟨c, s.world⟩ t
  /-- Nothing but the store can get in the way, ... -/
  failure : r ≠ .ok () → StoreFailed r
  /-- ... and not if it works for the chat. -/
  works : g.store.Works n.chat s.world.disk → r = .ok ()

/-- The timer that a note is of acts when the note is handled. -/
def Acts (g : Setting) (s : Stage τ) (n : Elapsed) : Prop := ∃ c x r t, Acting g s n c x r t

/-- A note that is not void is of a timer that acts. -/
theorem Recorded.acts {s : Stage τ} {l : Ledger} (h : Recorded g s l) {n : Elapsed} {c : Chat}
    {x : ActionTimer} (hc : s.bot.chat? n.chat = some c) (hx : c.awaited? n = some x) :
    Acts g s n := by
  obtain ⟨hgeneration, hslot, -⟩ := Chat.awaited?_eq_some.mp hx
  obtain ⟨r, t, hplay⟩ : ∃ r t, (Chat.handleNote g n).run ⟨c, s.world⟩ = (r, t) := ⟨_, _, rfl⟩
  refine ⟨c, x, r, t, hc, hgeneration, hslot, h.sound.action hc hslot, ?_, fun hok => ?_,
    Chat.storeFailed_handleNote hplay, fun hworks => ?_⟩
  · rw [handleNote_run, hc]
    dsimp only
    rw [onChat_run, h.sound.setting, hplay]
  · rw [hok] at hplay
    exact Chat.effect_handleNote (s := ⟨c, s.world⟩) h.holds hx hplay
  · refine Chat.handleNote_of_works hplay ?_
    show g.store.Works c.id s.world.disk
    rw [h.sound.ids n.chat c hc]
    exact hworks

/-! ## Once -/

end Bot

/-- A timer as it is entered in the ledger, by a note of it. -/
def Ledger.entry (l : Ledger) (n : Elapsed) : String × Nat × Nat :=
  (n.chat, l.moves n.chat + n.generation, n.slot)

/-- If nothing is different afterwards, nothing was entered. -/
theorem Ledger.eq_none_of_enter {l : Ledger} {n : Option Elapsed} (h : l.enter n = l) :
    n = none := by
  cases n with
  | none => rfl
  | some n =>
    have hlength := congrArg (fun l : Ledger => l.acted.length) h
    exact absurd hlength (Nat.succ_ne_self _)

namespace Bot

/-- A deed that takes up a note is to handle it. -/
theorem Deed.eq_note_of_taken? {b : Bot} {d : Deed} {n : Elapsed} (h : d.taken? b = some n) :
    d = .note n := by
  cases d with
  | note m =>
    rw [Deed.taken?] at h
    split at h
    · cases h
      rfl
    · cases h
  | _ => cases h

/-- The timer that a note is of is one of those that its chat has. -/
def IsArmed (b : Bot) (n : Elapsed) : Prop :=
  ∃ c, b.chat? n.chat = some c ∧ n.generation = c.generation ∧ n.slot < c.timers.length

/-- **A timer that is not in the ledger acts, and any other note is void.** -/
theorem Recorded.acts_or_rests {s : Stage τ} {l : Ledger} (h : Recorded g s l) (n : Elapsed) :
    (l.entry n ∉ l.acted ∧ (Deed.note n).taken? s.bot = some n ∧ Acts g s n)
      ∨ ((Deed.note n).taken? s.bot = none ∧ (handleNote n).run s = (.ok (), s)
        ∧ (s.bot.IsArmed n → l.entry n ∈ l.acted)) := by
  cases ha : s.bot.awaited? n with
  | some x =>
    obtain ⟨c, hc, hx⟩ := Option.bind_eq_some_iff.mp ha
    have htaken : (Deed.note n).taken? s.bot = some n := by rw [Deed.taken?, ha]; rfl
    exact Or.inl ⟨(h.books n.chat c hc).notMem hx, htaken, h.acts hc hx⟩
  | none =>
    have htaken : (Deed.note n).taken? s.bot = none := by rw [Deed.taken?, ha]; rfl
    refine Or.inr ⟨htaken, handleNote_of_void h.sound.sorted ha, ?_⟩
    rintro ⟨c, hc, hgeneration, hlt⟩
    -- A note that is void although its timer is there is of a timer that is done.
    rw [Ledger.entry, hgeneration, (h.books n.chat c hc).agrees n.slot, Chat.isDone_iff_handled]
    refine ⟨c.timers[n.slot], List.getElem?_eq_getElem hlt, ?_⟩
    rw [← Bool.not_eq_false]
    intro hopen
    rw [awaited?, hc, Option.bind_some,
      Chat.awaited?_eq_some.mpr ⟨hgeneration, List.getElem?_eq_getElem hlt, hopen⟩] at ha
    cases ha

section

variable {s : Stage τ} {l : Ledger} {n : Elapsed}

/-- What is entered acts, and was not entered before. -/
theorem Recorded.acts_of_taken? (h : Recorded g s l)
    (hn : (Deed.note n).taken? s.bot = some n) : l.entry n ∉ l.acted ∧ Acts g s n := by
  rcases h.acts_or_rests n with ⟨hnew, -, hacts⟩ | ⟨hvoid, -, -⟩
  · exact ⟨hnew, hacts⟩
  · rw [hn] at hvoid
    cases hvoid

/-- What acts, and was not entered before, is entered. -/
theorem Recorded.taken?_of_acts (h : Recorded g s l) (hnew : l.entry n ∉ l.acted)
    (hacts : Acts g s n) : (Deed.note n).taken? s.bot = some n := by
  rcases h.acts_or_rests n with ⟨-, htaken, -⟩ | ⟨-, -, harmed⟩
  · exact htaken
  · obtain ⟨c, x, r, t, hacting⟩ := hacts
    have hlt : n.slot < c.timers.length := (List.getElem?_eq_some_iff.mp hacting.timer).1
    exact absurd (harmed ⟨c, hacting.chat, hacting.generation, hlt⟩) hnew

end

/-! ## Where the entries of the ledger come from -/

section

variable {smooth : Prop} {s₀ s : Stage τ} {l₀ l : Ledger}

/-- What can come after a stage of a history, in the same life or a later one. -/
inductive Afterwards (g : Setting) (smooth : Prop) (s₀ : Stage τ) (l₀ : Ledger) :
    Stage τ → Ledger → Prop where
  | refl : Afterwards g smooth s₀ l₀ s₀ l₀
  | done {s : Stage τ} {l : Ledger} (h : Afterwards g smooth s₀ l₀ s l) (d : Deed)
      (hnow : Clock.IsReading (d.clock s.world.now))
      (hok : smooth → ∀ e, d = .receive e → (d.act.run s).1 = .ok ()) :
      Afterwards g smooth s₀ l₀ (d.act.run s).2 (l.enter (d.taken? s.bot))
  | restarted {s s' : Stage τ} {l : Ledger} {w w' : World τ} {b : Bot}
      (h : Afterwards g smooth s₀ l₀ s l) (hclose : close.run s = (.ok (), s'))
      (hdisk : w.disk = s'.world.disk) (hnow : Clock.IsReading w.now)
      (hstart : (start g).run w = (.ok b, w')) :
      Afterwards g smooth s₀ l₀ ⟨b, w'⟩ (l.carry s.bot)

/-- Nothing is ever taken out of the ledger. -/
theorem Afterwards.acted_subset (h : Afterwards g smooth s₀ l₀ s l) : l₀.acted ⊆ l.acted := by
  induction h with
  | refl => exact List.Subset.refl _
  | @done s l _ d _ _ ih =>
    cases d.taken? s.bot with
    | none => exact ih
    | some n => exact List.subset_cons_of_subset _ ih
  | restarted _ _ _ _ _ ih => exact ih

/-- In the history that has come to this stage, there was a note of the timer of an entry, with
which this timer has acted, and it was not in the ledger before. -/
def HasActed (g : Setting) (smooth : Prop) (s : Stage τ) (l : Ledger) (e : String × Nat × Nat) :
    Prop :=
  ∃ s₀ l₀ n, History g smooth s₀ l₀ ∧ l₀.entry n = e ∧ e ∉ l₀.acted ∧ Acts g s₀ n
    ∧ Afterwards g smooth ((Deed.note n).act.run s₀).2 (l₀.enter ((Deed.note n).taken? s₀.bot)) s l

/-- **The ledger holds the timers that have acted, and no others.** -/
theorem History.mem_acted_iff (h : History g smooth s l) (e : String × Nat × Nat) :
    e ∈ l.acted ↔ HasActed g smooth s l e := by
  constructor
  · intro he
    induction h with
    | opened => cases he
    | @done s l h d hnow hok ih =>
      have hold : e ∈ l.acted →
          HasActed g smooth (d.act.run s).2 (l.enter (d.taken? s.bot)) e := by
        intro he
        obtain ⟨s₀, l₀, n, hpast, hentry, hnew, hacts, hlater⟩ := ih he
        exact ⟨s₀, l₀, n, hpast, hentry, hnew, hacts, hlater.done d hnow hok⟩
      cases hn : d.taken? s.bot with
      | none =>
        rw [hn] at he hold
        exact hold he
      | some n =>
        rw [hn] at he hold
        rcases List.mem_cons.mp he with rfl | he
        · -- This is the deed that the entry comes from.
          obtain rfl := Deed.eq_note_of_taken? hn
          obtain ⟨hnew, hacts⟩ := h.recorded.acts_of_taken? hn
          rw [← hn]
          exact ⟨s, l, n, h, rfl, hnew, hacts, .refl⟩
        · exact hold he
    | @restarted s s' l w w' b h hclose hdisk hnow hstart ih =>
      obtain ⟨s₀, l₀, n, hpast, hentry, hnew, hacts, hlater⟩ := ih he
      exact ⟨s₀, l₀, n, hpast, hentry, hnew, hacts, hlater.restarted hclose hdisk hnow hstart⟩
  · rintro ⟨s₀, l₀, n, hpast, rfl, hnew, hacts, hlater⟩
    rw [hpast.recorded.taken?_of_acts hnew hacts] at hlater
    exact hlater.acted_subset (List.mem_cons_self ..)

end

/-! ## Every timer acts at most once -/

omit [Transport τ] in
/-- A timer that has rung, and whose note has not been handled, is not kept as done. -/
theorem Recorded.rung_not_done {s s' : Stage τ} {l : Ledger} (h : Recorded g s l)
    (hclose : close.run s = (.ok (), s')) {k : String} {c : Chat} {slot : Nat} {t : ActionTimer}
    (hc : s.bot.chat? k = some c) (ht : c.timers[slot]? = some t) (hopen : t.handled = false) :
    ∃ (r : ChatRecord) (x : StopwatchState), g.store.load k s'.world.disk = .ok r
      ∧ r.timers[slot]? = some x ∧ x.done = false := by
  refine ⟨c.record, t.state, (h.load_iff hclose k _).mpr ⟨c, hc, rfl⟩, ?_, hopen⟩
  rw [Chat.timers_record, List.getElem?_map, ht]
  rfl

/-- **Every timer acts at most once, over all lives.**  Whatever has happened, the ledger holds no
timer twice, and it holds those timers that have acted, with the effect that their action has.  A
timer that is not in it acts when a note of it is handled, and is entered; any other note changes
nothing and sends nothing, and if its timer is one that the chat has, this has acted before.

When a bot is closed, at whatever moment, every timer is kept as done if it has acted, and only
then.  In particular a stopwatch that has rung is not kept as done as long as its note has not been
handled.  When a bot is ended, the notes that wait are handled before that, and this is part of the
same history. -/
theorem timers_act_once {smooth : Prop} {s : Stage τ} {l : Ledger} (h : History g smooth s l) :
    l.acted.Nodup
      ∧ (∀ e, e ∈ l.acted ↔ HasActed g smooth s l e)
      ∧ (∀ n, (l.entry n ∉ l.acted ∧ l.enter ((Deed.note n).taken? s.bot) = l.enter (some n)
            ∧ Acts g s n)
          ∨ (l.enter ((Deed.note n).taken? s.bot) = l ∧ (handleNote n).run s = (.ok (), s)
            ∧ (s.bot.IsArmed n → l.entry n ∈ l.acted)))
      ∧ (∀ s', close.run s = (.ok (), s') →
          Tells g l s.bot s'.world.disk
            ∧ ∀ k c (slot : Nat) (t : ActionTimer), s.bot.chat? k = some c →
                c.timers[slot]? = some t →
                t.watch.done = true → t.handled = false →
                ∃ (r : ChatRecord) (x : StopwatchState), g.store.load k s'.world.disk = .ok r
                  ∧ r.timers[slot]? = some x ∧ x.done = false)
      ∧ ∀ s', shutdown.run s = (.ok (), s') →
          History g smooth (Bot.after (drainDeeds s.bot) s) (through (drainDeeds s.bot) s l)
            ∧ (through (drainDeeds s.bot) s l).acted.Nodup
            ∧ Tells g (through (drainDeeds s.bot) s l) (Bot.after (drainDeeds s.bot) s).bot
                s'.world.disk := by
  have hrecorded := h.recorded
  refine ⟨hrecorded.nodup, h.mem_acted_iff, fun n => ?_, fun s' hclose =>
    ⟨hrecorded.tells hclose, fun k c slot t hc ht _ hopen =>
      hrecorded.rung_not_done hclose hc ht hopen⟩, fun s' hshutdown => ?_⟩
  · rcases hrecorded.acts_or_rests n with ⟨hnew, htaken, hacts⟩ | ⟨hvoid, hrests, harmed⟩
    · exact Or.inl ⟨hnew, congrArg l.enter htaken, hacts⟩
    · exact Or.inr ⟨congrArg l.enter hvoid, hrests, harmed⟩
  · rw [shutdown_run] at hshutdown
    have hdrained := h.drained.recorded
    exact ⟨h.drained, hdrained.nodup, hdrained.tells hshutdown⟩

/-- The stage at which the first timer has rung, and its note waits. -/
def hourRung : Stage Refusing := after [.ring "42" 0] (greeted "(1h)")

theorem history_hourRung : History (reminding "(1h)") True hourRung Ledger.blank :=
  (history_greeted "(1h)" (by decide +kernel)).after fun d hd => by
    rw [List.mem_singleton.mp hd]
    exact trivial

/-- The chat and its timer then. -/
theorem chat_hourRung : ∃ c x, hourRung.bot.chat? "42" = some c ∧ c.id = "42"
    ∧ c.timers[0]? = some x ∧ x.action = ⟨"(1h)", "(2)", ⟨some "2", ""⟩⟩
    ∧ x.watch.done = true ∧ x.handled = false := by
  have hfacts : (hourRung.bot.chat? "42").map
      (fun c => (c.id, c.timers[0]?.map fun x => (x.action, x.watch.done, x.handled)))
        = some ("42", some (⟨"(1h)", "(2)", ⟨some "2", ""⟩⟩, true, false)) := by decide +kernel
  obtain ⟨c, hc, hfacts⟩ := Option.map_eq_some_iff.mp hfacts
  obtain ⟨hid, htimer⟩ := Prod.mk.inj hfacts
  obtain ⟨x, hx, hfacts⟩ := Option.map_eq_some_iff.mp htimer
  obtain ⟨haction, hflags⟩ := Prod.mk.inj hfacts
  obtain ⟨hdone, hopen⟩ := Prod.mk.inj hflags
  exact ⟨c, x, hc, hid, hx, haction, hdone, hopen⟩

/-- If the bot is closed then, the timer is kept as not done.  If the note is handled, the next step
is sent, and the chat is there and kept so.  If the bot is ended, this comes first, and the timer is
entered. -/
theorem rung_timer_of_greeted :
    (close.run hourRung).1 = .ok ()
      ∧ (∃ (r : ChatRecord) (x : StopwatchState),
          (reminding "(1h)").store.load "42" (close.run hourRung).2.world.disk = .ok r
            ∧ r.timers[0]? = some x ∧ x.done = false)
      ∧ (∃ t : Scene Refusing,
          (handleNote ⟨"42", 1, 0⟩).run hourRung = (.ok (), put hourRung "42" t)
          ∧ t.world.outbox = hourRung.world.outbox ++ [.message "42" "Later" (some [])]
          ∧ t.chat.stepId = some "2"
          ∧ (reminding "(1h)").store.load "42" t.world.disk = .ok t.chat.record)
      ∧ (through (drainDeeds hourRung.bot) hourRung Ledger.blank).acted = [("42", 1, 0)] := by
  obtain ⟨-, -, hnotes, hclosed, -⟩ := timers_act_once history_hourRung
  obtain ⟨c, x, hc, hid, hx, haction, hdone, hopen⟩ := chat_hourRung
  have hclose : (close.run hourRung).1 = .ok () := by decide +kernel
  refine ⟨hclose, (hclosed _ (Prod.ext hclose rfl)).2 "42" c 0 x hc hx hdone hopen, ?_,
    by decide +kernel⟩
  -- The note is not void, so the timer acts, and nothing fails.
  have htaken : (Deed.note ⟨"42", 1, 0⟩).taken? hourRung.bot ≠ none := by decide +kernel
  have hok : ((handleNote ⟨"42", 1, 0⟩).run hourRung).1 = .ok () := by decide +kernel
  obtain ⟨-, -, c', x', r, t, hacting⟩ := (hnotes ⟨"42", 1, 0⟩).resolve_right fun hvoid =>
    htaken (Ledger.eq_none_of_enter hvoid.1)
  obtain rfl : c = c' := Option.some.inj (hc.symm.trans hacting.chat)
  obtain rfl : x = x' := Option.some.inj (hx.symm.trans hacting.timer)
  obtain rfl : r = .ok () := by
    rw [hacting.run] at hok
    exact hok
  have heffect := hacting.effect rfl
  have htold := heffect.moves { id := "2", cue := .none, body := ["Later"], actions := [] } (by
    rw [haction]
    decide +kernel)
  have hkey : t.chat.id = "42" := htold.id.trans hid
  refine ⟨t, hacting.run, ?_, htold.stepId, ?_⟩
  · rw [htold.posted.outbox, haction, hid]
    rfl
  · rw [← hkey]
    exact heffect.saved

end Bot
end ScriptedChat
