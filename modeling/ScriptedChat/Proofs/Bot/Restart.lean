import ScriptedChat.Proofs.Bot.History

/-!
# What a restart does

A bot that is ended and started again has the chats that it had, and each of them is as it was:
on its step, with its referral code, with its timers.  A timer that has not been handled goes on.
If its end has passed in the meantime, a note of it waits from the start; otherwise its alarm is
set to its end (`Bot.Resumes`).

There is one exception.  No wait of the clock is longer than `Clock.longestWait`, and that holds
for what is left of a timer at a restart too: an end that is further away than that is not waited
for, and the alarm rings early.

* `ActionTimer.watch_arm`: how a timer goes on.
* `Bot.Resumes`, `Bot.resumes_of_close`: a bot goes on as the one that was closed.
* `Bot.restart_resumes`: what is on the disk after an orderly end is enough to go on.
-/

namespace ScriptedChat

/-! ## Timers that go on -/

namespace Chat

/-- The timers of a chat that was kept and restored are those that it had, and each goes on with
what was kept of it. -/
theorem timer_ofRecord_record {scenario : Scenario} {c : Chat} (h : c.Mirrors scenario)
    {now : Int} {tickets slot : Nat} {t : ActionTimer}
    (ht : (ofRecord scenario c.record now tickets).timers[slot]? = some t) :
    ∃ a x, c.record.timers[slot]? = some x ∧ t = ActionTimer.arm now (tickets + slot) a (some x)
      ∧ t.state = x := by
  rw [timers_ofRecord, getElem?_armTimers] at ht
  obtain ⟨a, ha, rfl⟩ := Option.map_eq_some_iff.mp ht
  have hstep := (fields_ofRecord scenario c.record now tickets).2.1
  have hlength : c.record.timers.length
      = ((ofRecord scenario c.record now tickets).delayed scenario).length := by
    rw [delayed_congr (c := c) hstep, ← h, timers_record, List.length_map, List.length_map]
  have hlt : slot < c.record.timers.length := by
    rw [hlength]
    exact (List.getElem?_eq_some_iff.mp ha).1
  refine ⟨a, c.record.timers[slot], List.getElem?_eq_getElem hlt, ?_, ?_⟩
  · rw [List.getElem?_eq_getElem hlt]
  · rw [List.getElem?_eq_getElem hlt]
    exact ActionTimer.state_arm now (tickets + slot) a c.record.timers[slot]

end Chat

/-- A timer that goes on is overdue, or its alarm is set. -/
theorem ActionTimer.watch_arm {x : StopwatchState} {now : Int}
    (hreading : x.done = false → Clock.IsReading x.start.toInt ∧ x.start.toInt ≤ now)
    (hnow : Clock.IsReading now) (ticket : Nat) (a : Action) :
    ((ActionTimer.arm now ticket a (some x)).watch.isOverdue = true
        ↔ x.done = false ∧ x.ending ≤ now)
      ∧ (x.done = false → now < x.ending →
          (ActionTimer.arm now ticket a (some x)).watch.alarm
            = some ⟨min x.ending (now + Clock.longestWait), ticket⟩) := by
  rw [ActionTimer.arm]
  dsimp only
  cases hdone : x.done with
  | true =>
    have hbegin : (Stopwatch.begin x.options now ticket).overdue = false :=
      Stopwatch.overdue_begin_of_done hdone now ticket
    refine ⟨?_, fun hfalse => by cases hfalse⟩
    rw [Stopwatch.isOverdue, hbegin]
    simp
  | false =>
    obtain ⟨hstart, hle⟩ := hreading hdone
    obtain ⟨hoverdue, halarm⟩ := Stopwatch.begin_options hdone hstart hnow hle ticket
    refine ⟨?_, fun _ hlt => ?_⟩
    · rw [hoverdue, decide_eq_true_eq]
      exact (and_iff_right rfl).symm
    · rw [halarm, if_neg (by omega)]

namespace Bot

variable {τ : Type}

/-! ## Chats that have come to a step -/

/-- Every chat has the timers of its step. -/
def AllMirror (g : Setting) (b : Bot) : Prop :=
  ∀ k c, b.chat? k = some c → c.Mirrors g.scenario

/-- Across a turn all chats keep having the timers of their steps, unless one was made and could
not be welcomed. -/
theorem AllMirror.turn {g : Setting} {s s' : Stage τ} {now : Int} {n : Option Elapsed}
    {r : Except EngineError Unit} (h : AllMirror g s.bot) (hs : Turn g s now n r s')
    (hr : r = .ok () ∨ ∀ k, s.bot.chat? k = none → s'.bot.chat? k = none) :
    AllMirror g s'.bot := by
  intro k c' hc'
  cases hs with
  | idle hidle =>
    obtain ⟨c, hc, -, hstayed⟩ := hidle.back hc'
    exact hstayed.mirrors (h k c hc)
  | @goes _ k₀ c w t hc hw hnow hgoes =>
    rcases chat?_put_eq_some.mp hc' with ⟨-, rfl⟩ | ⟨-, hc'⟩
    · exact hgoes.mirrors (h k₀ c hc)
    · exact h k c' hc'
  | @takes _ n c t u hc ht hgoes =>
    rcases chat?_put_eq_some.mp hc' with ⟨-, rfl⟩ | ⟨-, hc'⟩
    · refine hgoes.mirrors ?_
      show Chat.Mirrors g.scenario (Chat.markHandled n.slot t c)
      rw [Chat.Mirrors, Chat.actions_markHandled (Chat.awaited?_eq_some.mp ht).2.1]
      exact h n.chat c hc
    · exact h k c' hc'
  | @greets _ k₀ ref w t hk hw hnow hgoes hwelcomed =>
    rcases chat?_put_eq_some.mp hc' with ⟨-, rfl⟩ | ⟨-, hc'⟩
    · rcases hr with hok | hnone
      · exact hwelcomed hok
      · have hput := hnone k₀ hk
        rw [chat?_put, if_pos rfl] at hput
        cases hput
    · exact h k c' hc'
  | refuses hw hnow => exact h k c' hc'

section

variable [Transport τ]

/-- Nobody comes who was not there before, unless something comes in. -/
theorem chat?_act_of_none {s : Stage τ} (hs : Keyed.IsSorted s.bot.chats) {d : Deed}
    (hd : ∀ e, d ≠ .receive e) {k : String} (hk : s.bot.chat? k = none) :
    (d.act.run s).2.bot.chat? k = none := by
  have hput : ∀ (k₀ : String) (t : Scene τ), (s.bot.chat? k₀).isSome →
      (put s k₀ t).bot.chat? k = none := by
    intro k₀ t hsome
    rw [chat?_put, if_neg, hk]
    rintro rfl
    rw [hk] at hsome
    cases hsome
  cases d with
  | receive e => exact absurd rfl (hd e)
  | note n =>
    rw [Deed.act, handleNote_run]
    cases hc : s.bot.chat? n.chat with
    | none => exact hk
    | some c =>
      dsimp only
      rw [onChat_run]
      exact hput n.chat _ (by rw [hc]; rfl)
  | take => exact hk
  | announce key step =>
    rw [Deed.act, Action.run_get_bind]
    dsimp only
    cases hc : s.bot.chat? key with
    | none => exact hk
    | some c =>
      dsimp only
      rw [onChat_run]
      exact hput key _ (by rw [hc]; rfl)
  | takeAnnouncement => exact hk
  | ring key slot => exact (idle_ringOne hs key slot).absent k hk
  | pass t => exact (idle_passTo hs t).absent k hk

/-- **In a smooth history every chat has the timers of its step.** -/
theorem History.allMirror {g : Setting} {s : Stage τ} {l : Ledger} (h : History g True s l) :
    AllMirror g s.bot := by
  induction h with
  | opened htree hempty hnow h =>
    intro k c hc
    obtain ⟨r, ticket, -, rfl⟩ := load_of_chat?_start h hc
    exact Chat.mirrors_ofRecord g.scenario r _ ticket
  | @done s l h d hnow hok ih =>
    have hsound := h.recorded.sound
    refine ih.turn (turn_act hsound.sorted hsound.setting d) ?_
    by_cases hd : ∀ e, d ≠ .receive e
    · exact Or.inr fun k => chat?_act_of_none hsound.sorted hd
    · push Not at hd
      obtain ⟨e, he⟩ := hd
      exact Or.inl (hok trivial e he)
  | restarted h hclose hdisk hnow hstart ih =>
    intro k c hc
    obtain ⟨r, ticket, -, rfl⟩ := load_of_chat?_start hstart hc
    exact Chat.mirrors_ofRecord g.scenario r _ ticket

end

/-! ## Going on -/

/-- A bot that has just been started goes on where another one ended. -/
structure Resumes (now : Int) (b₀ b : Bot) : Prop where
  /-- The same chats are there. -/
  chats : ∀ k, (b.chat? k).isSome = (b₀.chat? k).isSome
  /-- Every chat is as it was. -/
  records : ∀ k c₀ c, b₀.chat? k = some c₀ → b.chat? k = some c → c.record = c₀.record
  /-- Generations are counted from the start. -/
  generations : ∀ k c, b.chat? k = some c → c.generation = 0
  /-- No note waits twice. -/
  nodup : b.queue.Nodup
  /-- The notes that wait are those of the timers that are not done and whose end has passed. -/
  queue : ∀ n, n ∈ b.queue ↔ ∃ c x, b.chat? n.chat = some c ∧ n.generation = c.generation
    ∧ c.record.timers[n.slot]? = some x ∧ x.done = false ∧ x.ending ≤ now
  /-- Every other timer that is not done rings at its end, or at the end of the longest wait. -/
  armed : ∀ k c (slot : Nat) (t : ActionTimer), b.chat? k = some c → c.timers[slot]? = some t →
    t.state.done = false → now < t.state.ending →
    t.watch.alarm.map Alarm.time = some (min t.state.ending (now + Clock.longestWait))

/-- What a timer of a restored chat does, by what was kept of it. -/
theorem watch_of_restart {g : Setting} {s s' : Stage τ} {l : Ledger} (h : Recorded g s l)
    (hmirrors : AllMirror g s.bot) (hclose : close.run s = (.ok (), s')) {w w' : World τ} {b : Bot}
    (hdisk : w.disk = s'.world.disk) (hstart : (start g).run w = (.ok b, w'))
    (hnow : Clock.IsReading w.now)
    (hstarts : ∀ k c, s.bot.chat? k = some c → ∀ x ∈ c.record.timers, x.start.toInt ≤ w.now)
    {k : String} {c : Chat} {slot : Nat} {t : ActionTimer} (hc : b.chat? k = some c)
    (ht : c.timers[slot]? = some t) :
    (t.watch.isOverdue = true ↔ t.state.done = false ∧ t.state.ending ≤ w.now)
      ∧ (t.state.done = false → w.now < t.state.ending →
        t.watch.alarm.map Alarm.time
          = some (min t.state.ending (w.now + Clock.longestWait))) := by
  obtain ⟨c₀, ticket, hc₀, rfl⟩ := h.chat?_restart hclose hdisk hstart hc
  obtain ⟨a, x, hx, rfl, hstate⟩ := Chat.timer_ofRecord_record (hmirrors k c₀ hc₀) ht
  have hmem : x ∈ c₀.record.timers := List.mem_of_getElem? hx
  obtain ⟨hoverdue, halarm⟩ := ActionTimer.watch_arm (x := x) (fun _ =>
    ⟨h.starts k c₀ hc₀ x hmem, hstarts k c₀ hc₀ x hmem⟩) hnow (ticket + slot) a
  rw [hstate]
  refine ⟨hoverdue, fun hdone hlt => ?_⟩
  rw [halarm hdone hlt]
  rfl

/-- **A bot goes on as the one that was closed.** -/
theorem resumes_of_close {g : Setting} {s s' : Stage τ} {l : Ledger} (h : Recorded g s l)
    (hmirrors : AllMirror g s.bot) (hclose : close.run s = (.ok (), s')) {w : World τ}
    (hdisk : w.disk = s'.world.disk) (hnow : Clock.IsReading w.now)
    (hstarts : ∀ k c, s.bot.chat? k = some c → ∀ x ∈ c.record.timers, x.start.toInt ≤ w.now) :
    ∃ b w', (start g).run w = (.ok b, w') ∧ Resumes w.now s.bot b := by
  have hkeeps := close_ok h.sound.sorted h.sound.setting h.sound.ids h.holds hclose
  have hholds : g.store.Holds w.disk := hdisk ▸ hkeeps.holds
  have hplace : InPlace g w.disk := hdisk ▸ h.inPlace hclose
  obtain ⟨keys, hkeys, -, -⟩ := Store.chats_of_holds hholds
  obtain ⟨b, tickets, hstart, -, -, -⟩ := start_run (g := g) hkeys
  have hback : ∀ {k c}, b.chat? k = some c → ∃ c₀ ticket, s.bot.chat? k = some c₀
      ∧ c = Chat.ofRecord g.scenario c₀.record w.now ticket :=
    fun hc => h.chat?_restart hclose hdisk hstart hc
  have htimer {k : String} {c : Chat} {slot : Nat} {t : ActionTimer} (hc : b.chat? k = some c)
      (ht : c.timers[slot]? = some t) :=
    watch_of_restart h hmirrors hclose hdisk hstart hnow hstarts hc ht
  obtain ⟨hnodup, hqueue⟩ := queue_start hstart hholds hplace
  refine ⟨b, _, hstart, ⟨fun k => ?_, fun k c₀ c hc₀ hc => ?_, fun k c hc => ?_, hnodup,
    fun n => ?_, fun k c slot t hc ht => (htimer hc ht).2⟩⟩
  · cases hc₀ : s.bot.chat? k with
    | some c₀ => exact h.isSome_chat?_restart hclose hdisk hstart hc₀
    | none =>
      rw [Option.isSome_none, ← Bool.not_eq_true, Option.isSome_iff_exists]
      rintro ⟨c, hc⟩
      obtain ⟨c₀, -, hc₀', -⟩ := hback hc
      rw [hc₀] at hc₀'
      cases hc₀'
  · obtain ⟨c₁, ticket, hc₁, rfl⟩ := hback hc
    rw [hc₀, Option.some.injEq] at hc₁
    subst hc₁
    exact Chat.record_ofRecord_record (hmirrors k c₀ hc₀) w.now ticket
  · obtain ⟨c₀, ticket, -, rfl⟩ := hback hc
    exact (Chat.fields_ofRecord g.scenario c₀.record w.now ticket).2.2.2.2
  · rw [hqueue n]
    constructor
    · rintro ⟨k, c, hc, hn⟩
      obtain ⟨slot, t, rfl, ht, hoverdue⟩ := Chat.mem_overdueNotes.mp hn
      have hid : c.id = k := (sound_start hplace hstart).ids k c hc
      obtain ⟨hdone, hend⟩ := (htimer hc ht).1.mp hoverdue
      refine ⟨c, t.state, ?_, rfl, ?_, hdone, hend⟩
      · show b.chat? c.id = some c
        rw [hid]
        exact hc
      · show c.record.timers[slot]? = some t.state
        rw [Chat.timers_record, List.getElem?_map, ht]
        rfl
    · rintro ⟨c, x, hc, hgeneration, hx, hdone, hend⟩
      rw [Chat.timers_record, List.getElem?_map] at hx
      obtain ⟨t, ht, rfl⟩ := Option.map_eq_some_iff.mp hx
      refine ⟨n.chat, c, hc, Chat.mem_overdueNotes.mpr ⟨n.slot, t, ?_, ht, ?_⟩⟩
      · have hid : c.id = n.chat := (sound_start hplace hstart).ids n.chat c hc
        rw [Chat.note, hid, ← hgeneration]
      · exact (htimer hc ht).1.mpr ⟨hdone, hend⟩

/-- **A restart makes no difference**, apart from the longest wait.  If a bot was ended in good
order, one that is started later on has the same chats, each of them as it was kept and as it was
when the last note had been handled.  A note waits for every timer that is not done and whose end
has passed, once, and for no other timer; the alarm of every other timer that is not done is set
to its end, however much later it is, or to the end of the longest wait if that is sooner. -/
theorem restart_resumes [Transport τ] {g : Setting} {s s' : Stage τ} {l : Ledger}
    (h : History g True s l) (hshutdown : shutdown.run s = (.ok (), s')) {w : World τ}
    (hdisk : w.disk = s'.world.disk) (hnow : Clock.IsReading w.now)
    (hstarts : ∀ k r, g.store.load k w.disk = .ok r → ∀ x ∈ r.timers, x.start.toInt ≤ w.now) :
    ∃ b w', (start g).run w = (.ok b, w')
      ∧ (∀ k r, g.store.load k w.disk = .ok r ↔ ∃ c, b.chat? k = some c ∧ c.record = r)
      ∧ Resumes w.now (after (drainDeeds s.bot) s).bot b := by
  rw [shutdown_run] at hshutdown
  have hrecorded := h.drained.recorded
  have hload := hrecorded.load_iff hshutdown
  have hstarts' : ∀ k c, (after (drainDeeds s.bot) s).bot.chat? k = some c →
      ∀ x ∈ c.record.timers, x.start.toInt ≤ w.now := by
    intro k c hc
    refine hstarts k c.record ?_
    rw [hdisk, hload k]
    exact ⟨c, hc, rfl⟩
  obtain ⟨b, w', hstart, hresumes⟩ :=
    resumes_of_close hrecorded h.drained.allMirror hshutdown hdisk hnow hstarts'
  refine ⟨b, w', hstart, fun k r => ?_, hresumes⟩
  rw [hdisk, hload k]
  constructor
  · rintro ⟨c₀, hc₀, rfl⟩
    have hsome := hresumes.chats k
    rw [hc₀] at hsome
    obtain ⟨c, hc⟩ := Option.isSome_iff_exists.mp hsome
    exact ⟨c, hc, hresumes.records k c₀ c hc₀ hc⟩
  · rintro ⟨c, hc, rfl⟩
    have hsome := hresumes.chats k
    rw [hc] at hsome
    obtain ⟨c₀, hc₀⟩ := Option.isSome_iff_exists.mp hsome.symm
    exact ⟨c₀, hc₀, (hresumes.records k c₀ c hc₀ hc).symm⟩

/-- All timers of a bot were started by some moment. -/
def startsBy (now : Int) (b : Bot) : Bool :=
  b.chats.all fun p => p.2.record.timers.all fun x => x.start.toInt ≤ now

theorem le_of_startsBy {now : Int} {b : Bot} (h : startsBy now b = true) {k : String} {c : Chat}
    (hc : b.chat? k = some c) : ∀ x ∈ c.record.timers, x.start.toInt ≤ now := by
  intro x hx
  have hchat := List.all_eq_true.mp h (k, c) (Keyed.mem_of_find? hc)
  exact of_decide_eq_true (List.all_eq_true.mp hchat x hx)

/-- The timer in a place of the chat under a key, as it is kept. -/
def kept? (b : Bot) (k : String) (slot : Nat) : Option StopwatchState :=
  (b.chat? k).bind fun c => c.record.timers[slot]?

/-- What was kept of a timer is kept of it after a restart. -/
theorem Resumes.kept {now : Int} {b₀ b : Bot} (h : Resumes now b₀ b) {k : String} {slot : Nat}
    {x : StopwatchState} (hx : kept? b₀ k slot = some x) :
    ∃ c t, b.chat? k = some c ∧ c.timers[slot]? = some t ∧ t.state = x := by
  obtain ⟨c₀, hc₀, hslot⟩ := Option.bind_eq_some_iff.mp hx
  have hsome := h.chats k
  rw [hc₀] at hsome
  obtain ⟨c, hc⟩ := Option.isSome_iff_exists.mp hsome
  rw [← h.records k c₀ c hc₀ hc, Chat.timers_record, List.getElem?_map] at hslot
  obtain ⟨t, ht, hstate⟩ := Option.map_eq_some_iff.mp hslot
  exact ⟨c, t, hc, ht, hstate⟩

/-- Somebody has written to the bot, and what waits has been handled. -/
def settled (label : String) : Stage Refusing :=
  after (drainDeeds (greeted label).bot) (greeted label)

/-- Somebody wrote, and the bot was ended at once.  When it is started an hour and a half later,
the note of the first timer waits, and the second one rings half an hour after that. -/
theorem resumed_timers_of_greeted :
    ∃ (b : Bot) (w' : World Refusing) (c : Chat) (t : ActionTimer),
      (start (reminding "(1h)")).run { newWorld with
          now := 5400000, disk := (shutdown.run (greeted "(1h)")).2.world.disk } = (.ok b, w')
        ∧ ⟨"42", 0, 0⟩ ∈ b.queue ∧ b.chat? "42" = some c ∧ c.timers[1]? = some t
        ∧ t.watch.alarm.map Alarm.time = some 7200000 := by
  have hgreeted := history_greeted "(1h)" (by decide +kernel)
  have hshutdown : (shutdown.run (greeted "(1h)")).1 = .ok () := by decide +kernel
  have hnow : Clock.IsReading 5400000 := by constructor <;> decide
  have hstarts : startsBy 5400000 (settled "(1h)").bot = true := by decide +kernel
  have hfirst : kept? (settled "(1h)").bot "42" 0 = some ⟨0, 3600000, false⟩ := by decide +kernel
  have hsecond : kept? (settled "(1h)").bot "42" 1 = some ⟨0, 7200000, false⟩ := by
    decide +kernel
  obtain ⟨b, w', hstart, -, hresumes⟩ := restart_resumes hgreeted (Prod.ext hshutdown rfl)
    (w := { newWorld with
      now := 5400000, disk := (shutdown.run (greeted "(1h)")).2.world.disk }) rfl hnow
    fun k r hr => by
      have hload := hgreeted.drained.recorded.load_iff
        ((shutdown_run (greeted "(1h)")).symm.trans (Prod.ext hshutdown rfl)) k r
      obtain ⟨c, hc, rfl⟩ := hload.mp hr
      exact le_of_startsBy hstarts hc
  obtain ⟨c, t, hc, ht, hstate⟩ := hresumes.kept hsecond
  obtain ⟨c', t', hc', ht', hstate'⟩ := hresumes.kept hfirst
  refine ⟨b, w', c, t, hstart, (hresumes.queue _).mpr ⟨c', t'.state, hc', ?_, ?_, ?_, ?_⟩, hc, ht,
    ?_⟩
  · exact (hresumes.generations "42" c' hc').symm
  · rw [Chat.timers_record, List.getElem?_map, ht']
    rfl
  · rw [hstate']
  · rw [hstate']
    decide
  · rw [hresumes.armed "42" c 1 t hc ht (by rw [hstate]) (by rw [hstate]; decide), hstate]
    decide

/-- A timer may take longer than the longest wait.  Somebody wrote, and the bot was ended and
started again at once: the timer that takes 20000 days rings after thirty years. -/
theorem long_timer_rings_early :
    ∃ (s' : Stage Refusing) (b : Bot) (w' : World Refusing) (c : Chat) (t : ActionTimer),
      History (reminding "(20000d)") True (greeted "(20000d)") Ledger.blank
        ∧ shutdown.run (greeted "(20000d)") = (.ok (), s')
        ∧ (start (reminding "(20000d)")).run { newWorld with disk := s'.world.disk } = (.ok b, w')
        ∧ b.chat? "42" = some c ∧ c.timers[0]? = some t ∧ t.state.done = false
        ∧ newWorld.now < t.state.ending
        ∧ t.watch.alarm.map Alarm.time ≠ some t.state.ending := by
  have hgreeted := history_greeted "(20000d)" (by decide +kernel)
  have hshutdown : (shutdown.run (greeted "(20000d)")).1 = .ok () := by decide +kernel
  have hstarts : startsBy 0 (settled "(20000d)").bot = true := by decide +kernel
  have hkept : kept? (settled "(20000d)").bot "42" 0 = some ⟨0, 1728000000000, false⟩ := by
    decide +kernel
  have hrun := Prod.ext (y := ((.ok () : Except EngineError Unit), _)) hshutdown rfl
  obtain ⟨b, w', hstart, hresumes⟩ := resumes_of_close hgreeted.drained.recorded
    hgreeted.drained.allMirror ((shutdown_run (greeted "(20000d)")).symm.trans hrun)
    (w := { newWorld with disk := (shutdown.run (greeted "(20000d)")).2.world.disk }) rfl
    isReading_zero fun k c hc => le_of_startsBy hstarts hc
  obtain ⟨c, t, hc, ht, hstate⟩ := hresumes.kept hkept
  have hdone : t.state.done = false := by rw [hstate]
  have hlt : newWorld.now < t.state.ending := by
    rw [hstate]
    decide
  refine ⟨_, b, w', c, t, hgreeted, hrun, hstart, hc, ht, hdone, hlt, ?_⟩
  rw [hresumes.armed "42" c 0 t hc ht hdone hlt, hstate]
  decide

end Bot
end ScriptedChat
