import ScriptedChat.Proofs.Bot.Life
import ScriptedChat.Proofs.Bot.Working

/-!
# The phases of a timer

A timer runs until it rings.  It leaves a note then, and is handled when the note is taken up.  One that
was restored after its end is overdue and never rings; its note is left when the bot starts.  So a timer
is in one of four phases (`TimerPhase`), and which one it is shows in what it is made of
(`ActionTimer.IsIn`).

What is to be said about every timer at every moment is said about the three things that can happen to
one: it is armed, it rings, it is handled (`Chat.IsTimerLaw`).

## Two ways to write the timers down

The record of a chat has a timer as done when it has been *handled*.  Whoever stops the timers of a chat
is given their stopwatches as they are, and a stopwatch is done when it has *rung*.  The two differ in
one phase, in which a timer has rung and its note has not been taken up.  What is given then says that
the timer is done, and whoever keeps that has lost the note: a timer that is restored from it counts as
handled, while one that is restored from the record is overdue or still runs.

* `Chat.IsTimerLaw`, `Bot.Meanwhile.abides`: what holds of all timers.
* `TimerPhase`, `ActionTimer.IsIn`, `Chat.isTimerLaw_phase`: the phases.
* `Chat.stopTimers_eq_iff`: when the two are the same.
* `Bot.stopTimers_forgets_what_has_rung`: what is lost and what is not.
-/

namespace ScriptedChat

/-! ## What holds of all timers -/

namespace Chat

variable {τ : Type} {g : Setting} {scenario : Scenario} {P : ActionTimer → Prop} {c : Chat}

/-- Something that holds of a timer when it is armed, and that nothing that happens to it ends.  A timer
is handled once. -/
structure IsTimerLaw (scenario : Scenario) (P : ActionTimer → Prop) : Prop where
  arm : ∀ {step : Step} {a : Action}, step ∈ scenario.steps → a ∈ step.delayedActions →
    ∀ now ticket kept, P (ActionTimer.arm now ticket a kept)
  ring : ∀ {x : ActionTimer}, x.watch.alarm.isSome → P x → P { x with watch := x.watch.ring }
  handle : ∀ {x : ActionTimer}, x.handled = false → P x →
    P { x with handled := true, watch := x.watch.markDone }

/-- It holds of all timers of a chat. -/
def Abides (P : ActionTimer → Prop) (c : Chat) : Prop := ∀ x ∈ c.timers, P x

theorem abides_of_timers_nil (h : c.timers = []) : c.Abides P := fun _ hx => by
  rw [h] at hx
  cases hx

theorem Abides.set (h : c.Abides P) (slot : Nat) {x : ActionTimer} (hx : P x) :
    Abides P { c with timers := c.timers.set slot x } := by
  intro y hy
  rcases List.mem_or_eq_of_mem_set hy with hy | rfl
  · exact h y hy
  · exact hx

namespace IsTimerLaw

variable (h : IsTimerLaw scenario P)
include h

theorem armTimers {step : Step} (hstep : step ∈ scenario.steps) (now : Int) (ticket : Nat)
    (kept : List StopwatchState) :
    ∀ x ∈ ScriptedChat.armTimers now ticket step.delayedActions kept, P x := by
  intro x hx
  obtain ⟨i, hi⟩ := List.mem_iff_getElem?.mp hx
  rw [getElem?_armTimers] at hi
  obtain ⟨a, ha, rfl⟩ := Option.map_eq_some_iff.mp hi
  exact h.arm hstep (List.mem_of_getElem? ha) _ _ _

theorem ofRecord (r : ChatRecord) (now : Int) (tickets : Nat) :
    (Chat.ofRecord scenario r now tickets).Abides P := by
  rw [Abides, timers_ofRecord, delayed]
  split
  · rename_i step hstep
    exact h.armTimers (Scenario.mem_of_step? hstep).1 _ _ _
  · intro x hx
    cases hx

theorem enterStep {s : Scene τ} {id : String} {step : Step} (hstep : scenario.step? id = some step) :
    (Chat.enterStep step s).chat.Abides P :=
  h.armTimers (Scenario.mem_of_step? hstep).1 _ _ _

theorem markHandled {n : Elapsed} {x : ActionTimer} (hx : c.awaited? n = some x) (hc : c.Abides P) :
    (Chat.markHandled n.slot x c).Abides P := by
  obtain ⟨-, hslot, hhandled⟩ := awaited?_eq_some.mp hx
  exact hc.set _ (h.handle hhandled (hc x (List.mem_of_getElem? hslot)))

theorem ringAt (slot : Nat) (hc : c.Abides P) : (Bot.ringAt slot c).1.Abides P := by
  rw [Bot.ringAt]
  split
  · rename_i x hx
    split
    · exact hc
    · rename_i hset
      have halarm : x.watch.alarm.isSome := by
        rwa [Option.isNone_iff_eq_none, ← ne_eq, Option.ne_none_iff_isSome] at hset
      exact hc.set _ (h.ring halarm (hc x (List.mem_of_getElem? hx)))
  · exact hc

theorem ringChat (now : Int) (hc : c.Abides P) : (c.ring now).Abides P := by
  intro y hy
  obtain ⟨x, hx, rfl⟩ := List.mem_map.mp hy
  rw [ringTimer]
  split
  · rename_i hrings
    have halarm : x.watch.alarm.isSome := by
      rw [Stopwatch.ringsBy] at hrings
      cases halarm : x.watch.alarm with
      | none =>
        rw [halarm] at hrings
        cases hrings
      | some a => rfl
    exact h.ring halarm (hc x hx)
  · exact hc x hx

end IsTimerLaw

/-- **What a small step of a chat does to its timers.** -/
theorem SmallStep.abides {s t : Scene τ} (hP : IsTimerLaw g.scenario P) (h : SmallStep g s t)
    (hc : s.chat.Abides P) : t.chat.Abides P := by
  cases h with
  | save =>
    rw [chat_save]
    exact hc
  | writeLog text =>
    rw [chat_writeLog]
    exact hc
  | post w hw => exact hc
  | setActive b => exact hc
  | setRef code hnone => exact hc
  | enterStep hstep => exact hP.enterStep hstep

end Chat

namespace Bot

variable {τ : Type} [Transport τ] {g : Setting} {P : ActionTimer → Prop} {s t : Stage τ}

/-- It holds of all timers of a bot. -/
def Abides (P : ActionTimer → Prop) (s : Stage τ) : Prop :=
  ∀ k c, s.bot.chat? k = some c → c.Abides P

omit [Transport τ] in
theorem abides_put (hs : Abides P s) {k : String} {v : Scene τ} (hv : v.chat.Abides P) :
    Abides P (put s k v) := by
  intro k' c hc
  rcases chat?_put_eq_some.mp hc with ⟨-, rfl⟩ | ⟨-, hc⟩
  · exact hv
  · exact hs k' c hc

/-- **A small step of a bot keeps what holds of all timers.** -/
theorem Works.abides (hP : Chat.IsTimerLaw g.scenario P) (h : Works g s t)
    (hsorted : Keyed.IsSorted s.bot.chats) (hs : Abides P s) : Abides P t := by
  cases h with
  | @unattended d hd =>
    cases d with
    | take => exact hs
    | takeAnnouncement => exact hs
    | ring key slot =>
      intro k c hc
      have hc' : (s.bot.ringOne key slot).chat? k = some c := hc
      rw [chat?_ringOne hsorted] at hc'
      split at hc'
      · obtain ⟨c₀, hc₀, rfl⟩ := Option.map_eq_some_iff.mp hc'
        exact hP.ringAt slot (hs key c₀ hc₀)
      · exact hs k c hc'
    | pass now =>
      intro k c hc
      have hc' : (s.bot.ringAll now).chat? k = some c := hc
      rw [chat?_ringAll] at hc'
      obtain ⟨c₀, hc₀, rfl⟩ := Option.map_eq_some_iff.mp hc'
      exact hP.ringChat now (hs k c₀ hc₀)
    | _ => cases hd
  | answers press => exact hs
  | goes hc hstep => exact abides_put hs (hstep.abides hP (hs _ _ hc))
  | takes hc hx => exact abides_put hs (hP.markHandled hx (hs _ _ hc))
  | greets hk hw => exact abides_put hs (Chat.abides_of_timers_nil rfl)
  | refuses hw => exact hs

omit [Transport τ] in
theorem abides_start (hP : Chat.IsTimerLaw g.scenario P) {w w' : World τ} {b : Bot}
    (h : (start g).run w = (.ok b, w')) : Abides P ⟨b, w'⟩ := by
  intro k c hc
  obtain ⟨r, ticket, -, rfl⟩ := load_of_chat?_start h hc
  exact hP.ofRecord r w.now ticket

theorem works_abides (hP : Chat.IsTimerLaw g.scenario P) (h : Relation.ReflTransGen (Works g) s t)
    (hsorted : Keyed.IsSorted s.bot.chats) (hs : Abides P s) : Abides P t := by
  induction h with
  | refl => exact hs
  | tail hbefore hstep ih => exact hstep.abides hP (works_kept hbefore hsorted).1 ih

/-- **What holds of all timers at any moment** of a bot, from its start on. -/
theorem Meanwhile.abides (hP : Chat.IsTimerLaw g.scenario P) {w w' : World τ} {b : Bot}
    (hstart : (start g).run w = (.ok b, w')) (h : Meanwhile g ⟨b, w'⟩ t) : Abides P t := by
  have hsorted : Keyed.IsSorted b.chats := sorted_start hstart
  obtain ⟨keys, -, -, -, hsetting, -⟩ := of_start hstart
  exact works_abides hP (h.works hsorted hsetting) hsorted (abides_start hP hstart)

end Bot

/-! ## The phases -/

/-- The phases of a timer. -/
inductive TimerPhase where
  /-- It will ring. -/
  | running
  /-- It was restored after its end. -/
  | overdue
  /-- It has rung, and its note has not been taken up. -/
  | rung
  /-- Its note has been taken up. -/
  | handled
  deriving DecidableEq, Repr

namespace ActionTimer

variable {x : ActionTimer} {p q : TimerPhase}

/-- The timer is in a phase. -/
def IsIn (x : ActionTimer) : TimerPhase → Prop
  | .running =>
    x.handled = false ∧ x.watch.done = false ∧ x.watch.overdue = false ∧ x.watch.alarm.isSome = true
  | .overdue =>
    x.handled = false ∧ x.watch.done = false ∧ x.watch.overdue = true ∧ x.watch.alarm.isSome = false
  | .rung =>
    x.handled = false ∧ x.watch.done = true ∧ x.watch.overdue = false ∧ x.watch.alarm.isSome = false
  | .handled => x.handled = true ∧ x.watch.done = true ∧ x.watch.overdue = false

instance (x : ActionTimer) : (p : TimerPhase) → Decidable (x.IsIn p)
  | .running => inferInstanceAs (Decidable (_ ∧ _))
  | .overdue => inferInstanceAs (Decidable (_ ∧ _))
  | .rung => inferInstanceAs (Decidable (_ ∧ _))
  | .handled => inferInstanceAs (Decidable (_ ∧ _))

theorem IsIn.unique (h : x.IsIn p) (h' : x.IsIn q) : p = q := by
  cases p <;> cases q <;> simp_all [IsIn]

/-- What is kept of a timer that has been handled makes it handled again. -/
theorem isIn_handled_arm {s : StopwatchState} (hs : s.done = true) (now : Int) (ticket : Nat)
    (a : Action) : (arm now ticket a (some s)).IsIn .handled :=
  ⟨hs, (Stopwatch.done_begin s.options now ticket).trans hs,
    Stopwatch.overdue_begin_of_done hs now ticket⟩

/-- A stopwatch that begins and is not done is overdue, or has an alarm. -/
theorem isIn_of_begin {o : StopwatchOptions} (ho : o.done = false) (now : Int) (ticket : Nat)
    (hx : x.watch = Stopwatch.begin o now ticket) (hhandled : x.handled = false) :
    x.IsIn .running ∨ x.IsIn .overdue := by
  have hdone : x.watch.done = false := by rw [hx, Stopwatch.done_begin, ho]
  rw [Stopwatch.begin, ho] at hx
  dsimp only at hx
  rw [if_neg Bool.false_ne_true] at hx
  split at hx
  · exact Or.inr ⟨hhandled, hdone, by rw [hx], by rw [hx]; rfl⟩
  · exact Or.inl ⟨hhandled, hdone, by rw [hx], by rw [hx]; rfl⟩

/-- What is kept of any other timer makes it run again, or overdue. -/
theorem isIn_arm {s : StopwatchState} (hs : s.done = false) (now : Int) (ticket : Nat) (a : Action) :
    (arm now ticket a (some s)).IsIn .running ∨ (arm now ticket a (some s)).IsIn .overdue :=
  isIn_of_begin (o := s.options) hs now ticket rfl hs

theorem exists_isIn_arm (now : Int) (ticket : Nat) (a : Action) (kept : Option StopwatchState) :
    ∃ p, (arm now ticket a kept).IsIn p := by
  have hfound : ∀ {x : ActionTimer}, x.IsIn .running ∨ x.IsIn .overdue → ∃ p, x.IsIn p := by
    rintro x (h | h)
    · exact ⟨_, h⟩
    · exact ⟨_, h⟩
  cases kept with
  | none => exact hfound (isIn_of_begin (o := .fresh a.delay) rfl now ticket rfl rfl)
  | some s =>
    cases hs : s.done with
    | false => exact hfound (isIn_arm hs now ticket a)
    | true => exact ⟨_, isIn_handled_arm hs now ticket a⟩

/-- A timer that rings has been running, unless it had been handled before. -/
theorem IsIn.ring (halarm : x.watch.alarm.isSome) (h : x.IsIn p) :
    p = .running ∧ IsIn { x with watch := x.watch.ring } .rung
      ∨ p = .handled ∧ IsIn { x with watch := x.watch.ring } .handled := by
  cases p with
  | running =>
    obtain ⟨hhandled, -, hoverdue, -⟩ := h
    exact Or.inl ⟨rfl, hhandled, rfl, hoverdue, rfl⟩
  | overdue =>
    obtain ⟨-, -, -, hnone⟩ := h
    rw [hnone] at halarm
    cases halarm
  | rung =>
    obtain ⟨-, -, -, hnone⟩ := h
    rw [hnone] at halarm
    cases halarm
  | handled =>
    obtain ⟨hhandled, -, hoverdue⟩ := h
    exact Or.inr ⟨rfl, hhandled, rfl, hoverdue⟩

end ActionTimer

/-- **Every timer is in some phase**, whatever happens to it. -/
theorem Chat.isTimerLaw_phase (scenario : Scenario) :
    IsTimerLaw scenario fun x => ∃ p, x.IsIn p where
  arm _ _ now ticket kept := ActionTimer.exists_isIn_arm now ticket _ kept
  ring halarm := by
    rintro ⟨p, hp⟩
    rcases hp.ring halarm with ⟨-, h⟩ | ⟨-, h⟩
    · exact ⟨_, h⟩
    · exact ⟨_, h⟩
  handle _ _ := ⟨.handled, rfl, rfl, rfl⟩

/-! ## What is kept and what is given -/

namespace ActionTimer

variable {x : ActionTimer} {p : TimerPhase}

/-- What is kept of a timer is its stopwatch as it is, unless it has rung and has not been handled. -/
theorem state_eq_watch_state (h : x.IsIn p) (hp : p ≠ .rung) : x.watch.state = x.state := by
  have hdone : x.watch.done = x.handled := by
    cases p with
    | running => rw [h.2.1, h.1]
    | overdue => rw [h.2.1, h.1]
    | rung => exact absurd rfl hp
    | handled => rw [h.2.1, h.1]
  rw [state, ← hdone]
  rfl

/-- What is kept of one that has is not done, while its stopwatch is. -/
theorem state_of_rung (h : x.IsIn .rung) :
    x.state.done = false ∧ x.watch.state = { x.state with done := true } := by
  refine ⟨h.1, ?_⟩
  rw [state, ← h.2.1]
  rfl

end ActionTimer

namespace Chat

theorem stopTimers_fst (c : Chat) : (stopTimers c).1 = c.timers.map fun x => x.watch.state := rfl

/-- **Whoever stops the timers is given what is kept of them, if and only if none of them has rung
without being handled.** -/
theorem stopTimers_eq_iff {c : Chat} (hc : c.Abides fun x => ∃ p, x.IsIn p) :
    (stopTimers c).1 = c.record.timers ↔ ∀ x ∈ c.timers, ¬x.IsIn .rung := by
  rw [stopTimers_fst, timers_record, List.map_inj_left]
  refine forall₂_congr fun x hx => ?_
  constructor
  · intro heq hrung
    obtain ⟨hkept, hgiven⟩ := ActionTimer.state_of_rung hrung
    rw [← heq, hgiven] at hkept
    cases hkept
  · intro hrung
    obtain ⟨p, hp⟩ := hc x hx
    exact ActionTimer.state_eq_watch_state hp fun h => hrung (h ▸ hp)

end Chat

namespace Bot

variable {τ : Type} [Transport τ] {g : Setting}

/-- **What is lost when the timers of a chat are stopped, and what is not.**  This is about every chat
at every moment of a bot, also in the middle of a deed.

Each timer is in one phase.  What is given is what the record has, if and only if no timer has rung
without being handled.  In any case it is the same timer for timer, but that one that has rung counts
as done in what is given.

If the timers are restored from what is given, one that has been handled stays handled, and one that has
rung counts as handled, too.  From the record the latter runs again, or is overdue. -/
theorem stopTimers_forgets_what_has_rung {w w' : World τ} {b : Bot}
    (hstart : (start g).run w = (.ok b, w')) {s : Stage τ} (hs : Meanwhile g ⟨b, w'⟩ s) {k : String}
    {c : Chat} (hc : s.bot.chat? k = some c) :
    (∀ x ∈ c.timers, ∃! p, x.IsIn p)
    ∧ ((Chat.stopTimers c).1 = c.record.timers ↔ ∀ x ∈ c.timers, ¬x.IsIn .rung)
    ∧ ∀ (slot : Nat) (x : ActionTimer), c.timers[slot]? = some x →
      ∃ kept given, c.record.timers[slot]? = some kept ∧ (Chat.stopTimers c).1[slot]? = some given
        ∧ (¬x.IsIn .rung → given = kept)
        ∧ (x.IsIn .rung → kept.done = false ∧ given = { kept with done := true })
        ∧ ∀ now ticket a,
          (x.IsIn .handled → (ActionTimer.arm now ticket a (some given)).IsIn .handled)
          ∧ (x.IsIn .rung → (ActionTimer.arm now ticket a (some given)).IsIn .handled
            ∧ ((ActionTimer.arm now ticket a (some kept)).IsIn .running
              ∨ (ActionTimer.arm now ticket a (some kept)).IsIn .overdue)) := by
  have hphases : c.Abides fun x => ∃ p, x.IsIn p :=
    hs.abides (Chat.isTimerLaw_phase g.scenario) hstart k c hc
  refine ⟨fun x hx => ?_, Chat.stopTimers_eq_iff hphases, fun slot x hx => ?_⟩
  · obtain ⟨p, hp⟩ := hphases x hx
    exact ⟨p, hp, fun q hq => hq.unique hp⟩
  · obtain ⟨p, hp⟩ := hphases x (List.mem_of_getElem? hx)
    refine ⟨x.state, x.watch.state, ?_, ?_, fun hrung => ?_, fun hrung => ?_, fun now ticket a => ?_⟩
    · rw [Chat.timers_record, List.getElem?_map, hx, Option.map_some]
    · rw [Chat.stopTimers_fst, List.getElem?_map, hx, Option.map_some]
    · exact ActionTimer.state_eq_watch_state hp fun h => hrung (h ▸ hp)
    · exact ActionTimer.state_of_rung hrung
    · refine ⟨fun hhandled => ?_, fun hrung => ⟨?_, ?_⟩⟩
      · exact ActionTimer.isIn_handled_arm hhandled.2.1 now ticket a
      · exact ActionTimer.isIn_handled_arm hrung.2.1 now ticket a
      · exact ActionTimer.isIn_arm hrung.1 now ticket a

/-- The first of two timers has rung, and its note waits.  Whoever stops them is told that it is done,
and would not hear of it again. -/
theorem stopTimers_of_greeted :
    ∃ c x kept given, (after [.ring "42" 0] (greeted "(1h)")).bot.chat? "42" = some c
      ∧ c.timers[0]? = some x ∧ x.IsIn .rung
      ∧ c.record.timers[0]? = some kept ∧ (Chat.stopTimers c).1[0]? = some given
      ∧ kept.done = false ∧ given = { kept with done := true }
      ∧ (Chat.stopTimers c).1 ≠ c.record.timers
      ∧ (ActionTimer.arm 7200000 0 x.action (some given)).IsIn .handled
      ∧ ((ActionTimer.arm 7200000 0 x.action (some kept)).IsIn .running
        ∨ (ActionTimer.arm 7200000 0 x.action (some kept)).IsIn .overdue) := by
  have hsome : ((after [.ring "42" 0] (greeted "(1h)")).bot.chat? "42").bind
      (fun c => c.timers[0]?.filter fun x => decide (x.IsIn .rung)) ≠ none := by decide +kernel
  obtain ⟨x, hfound⟩ := Option.ne_none_iff_exists'.mp hsome
  obtain ⟨c, hc, hfound⟩ := Option.bind_eq_some_iff.mp hfound
  obtain ⟨hx, hrung⟩ := Option.filter_eq_some_iff.mp hfound
  have hrung : x.IsIn .rung := of_decide_eq_true hrung
  have hmeanwhile : Meanwhile (reminding "(1h)") ⟨newBot (reminding "(1h)"), newWorld⟩
      (after [.ring "42" 0] (greeted "(1h)")) := (Meanwhile.refl.after _).after _
  obtain ⟨-, hsame, hslots⟩ :=
    stopTimers_forgets_what_has_rung (start_newWorld "(1h)") hmeanwhile hc
  obtain ⟨kept, given, hkept, hgiven, -, hdiffer, hrestored⟩ := hslots 0 x hx
  obtain ⟨hnot, hdone⟩ := hdiffer hrung
  obtain ⟨hlost, hagain⟩ := (hrestored 7200000 0 x.action).2 hrung
  refine ⟨c, x, kept, given, hc, hx, hrung, hkept, hgiven, hnot, hdone, fun heq => ?_, hlost, hagain⟩
  exact hsame.mp heq x (List.mem_of_getElem? hx) hrung

end Bot
end ScriptedChat
