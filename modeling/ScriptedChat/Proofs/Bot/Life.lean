import ScriptedChat.Proofs.Bot.Ending
import ScriptedChat.Proofs.Bot.Start
import ScriptedChat.Transport.Refusing

/-!
# The life of a bot

A bot is started, then deeds are done in any order, whether they fail or not, and now and then
it may be closed.  The stages of such a life are `Bot.Lifetime`; what can come after a stage is
`Bot.Later`.

## What holds throughout

Every chat is kept under its own id, no key comes twice, and a note that waits is of a chat that
is there and of a generation that this chat has reached (`Bot.Sound`).  A chat that has timers
has those of its step.  A start brings this about, where every record lies in the directory of
its chat, and every turn keeps it.

## Notes that are spent

A note is *spent* when its chat has moved on to another generation, or has handled the timer
(`Chat.IsSpent`).  A spent note is void, and a note that was spent once stays so: moving on makes
the generation larger, and as long as it is the same no timer that has been handled is taken
back.

* `Bot.Lifetime`, `Bot.Later`, `Bot.Sound`.
* `Bot.Lifetime.sound`: what holds throughout.
* `Bot.Later.isSpent`: a spent note stays spent.
* `Bot.Lifetime.armed`: the timers of a chat were all started at its last move.
* `Bot.superseded_notes_are_void`: what a note can do at all.
-/

namespace ScriptedChat

/-! ## Notes that are spent -/

/-- The note is of an earlier generation, or of a timer that has been handled or is not there. -/
def Chat.IsSpent (c : Chat) (n : Elapsed) : Prop :=
  n.generation < c.generation
    ∨ n.generation = c.generation ∧ ∀ t, c.timers[n.slot]? = some t → t.handled = true

namespace Chat

/-- A note is void for a chat if it is spent, and only then, unless it is of a generation that is
still to come. -/
theorem IsSpent.awaited? {c : Chat} {n : Elapsed} (h : c.IsSpent n) : c.awaited? n = none := by
  rw [← Option.not_isSome_iff_eq_none, Option.isSome_iff_exists]
  rintro ⟨t, ht⟩
  obtain ⟨hgeneration, hslot, hhandled⟩ := awaited?_eq_some.mp ht
  rcases h with hlt | ⟨-, hall⟩
  · omega
  · rw [hall t hslot] at hhandled
    cases hhandled

theorem isSpent_of_awaited? {c : Chat} {n : Elapsed} (hle : n.generation ≤ c.generation)
    (h : c.awaited? n = none) : c.IsSpent n := by
  rcases Nat.lt_or_eq_of_le hle with hlt | heq
  · exact Or.inl hlt
  · refine Or.inr ⟨heq, fun t ht => ?_⟩
    rw [← Bool.not_eq_false]
    intro hhandled
    have := awaited?_eq_some.mpr ⟨heq, ht, hhandled⟩
    rw [h] at this
    cases this

/-- What a chat has handled, as it shows in what is kept of it. -/
theorem handled_of_state {c : Chat} {slot : Nat} :
    (∀ t, c.timers[slot]? = some t → t.handled = true)
      ↔ ∀ x, c.record.timers[slot]? = some x → x.done = true := by
  rw [timers_record, List.getElem?_map]
  constructor
  · intro h x hx
    obtain ⟨t, ht, rfl⟩ := Option.map_eq_some_iff.mp hx
    exact h t ht
  · intro h t ht
    exact h t.state (Option.map_eq_some_iff.mpr ⟨t, ht, rfl⟩)

/-- A note that is spent stays so while its chat stays where it is. -/
theorem Stayed.isSpent {c c' : Chat} (h : Stayed c c') {n : Elapsed} (hn : c.IsSpent n) :
    c'.IsSpent n := by
  rcases hn with hlt | ⟨heq, hall⟩
  · exact Or.inl (h.generation ▸ hlt)
  · refine Or.inr ⟨h.generation ▸ heq, ?_⟩
    rw [handled_of_state, timers_record, h.states, ← timers_record, ← handled_of_state]
    exact hall

/-- Every note of a chat is spent once it has moved. -/
theorem Moved.isSpent {scenario : Scenario} {now : Int} {c c' : Chat}
    (h : Moved scenario now c c') {n : Elapsed} (hn : n.generation ≤ c.generation) :
    c'.IsSpent n := Or.inl (Nat.lt_of_le_of_lt hn h.generation)

theorem IsSpent.le {c : Chat} {n : Elapsed} (h : c.IsSpent n) : n.generation ≤ c.generation := by
  rcases h with hlt | ⟨heq, -⟩ <;> omega

/-- What is spent stays so, however a chat goes on. -/
theorem GoesOn.isSpent {τ : Type} {g : Setting} {s s' : Scene τ} (h : GoesOn g s s') {n : Elapsed}
    (hn : s.chat.IsSpent n) : s'.chat.IsSpent n := by
  rcases h.timers with hstayed | hmoved
  · exact hstayed.isSpent hn
  · exact hmoved.isSpent hn.le

/-- To take up one note makes it spent, and leaves others spent. -/
theorem isSpent_markHandled {c : Chat} {n m : Elapsed} {t : ActionTimer}
    (ht : c.awaited? n = some t) (hm : m = n ∨ c.IsSpent m) :
    (markHandled n.slot t c).IsSpent m := by
  obtain ⟨hgeneration, -, -⟩ := awaited?_eq_some.mp ht
  have hset : ∀ slot x, (markHandled n.slot t c).timers[slot]? = some x →
      x.handled = true ∨ n.slot ≠ slot ∧ c.timers[slot]? = some x := by
    intro slot x hx
    rw [markHandled, List.getElem?_set] at hx
    split at hx
    · split at hx
      · cases hx
        exact Or.inl rfl
      · cases hx
    · rename_i hslot
      exact Or.inr ⟨hslot, hx⟩
  rcases hm with rfl | hm
  · refine Or.inr ⟨hgeneration, fun x hx => ?_⟩
    rcases hset m.slot x hx with hx | ⟨hne, -⟩
    · exact hx
    · exact absurd rfl hne
  · rcases hm with hlt | ⟨heq, hall⟩
    · exact Or.inl hlt
    · refine Or.inr ⟨heq, fun x hx => ?_⟩
      rcases hset m.slot x hx with hx | ⟨-, hx⟩
      · exact hx
      · exact hall x hx

end Chat

namespace Bot

variable {τ : Type}

/-! ## Lives -/

/-- Every record lies in the directory of its chat. -/
def InPlace (g : Setting) (d : Disk) : Prop := ∀ k r, g.store.load k d = .ok r → r.chatId = k

/-- Where no chat is listed, there is no record. -/
theorem load_of_chats_nil {g : Setting} {d : Disk} (h : d.IsTree)
    (hk : g.store.chats d = .ok []) (k : String) (r : ChatRecord) :
    g.store.load k d ≠ .ok r := by
  intro hr
  obtain ⟨keys, hkeys, -, hlisted⟩ := Store.chats_of_holds (Store.holds_of_chats h hk)
  rw [hk] at hkeys
  rw [← Except.ok.inj hkeys] at hlisted
  exact List.not_mem_nil (hlisted k r hr)

theorem inPlace_of_chats_nil {g : Setting} {d : Disk} (h : d.IsTree)
    (hk : g.store.chats d = .ok []) : InPlace g d :=
  fun k r hr => absurd hr (load_of_chats_nil h hk k r)

/-- What a bot can come to, from its start on. -/
inductive Lifetime (g : Setting) [Transport τ] : Stage τ → Prop where
  | started {w w' : World τ} {b : Bot} (hplace : InPlace g w.disk)
      (h : (start g).run w = (.ok b, w')) : Lifetime g ⟨b, w'⟩
  | done {s : Stage τ} (h : Lifetime g s) (d : Deed) : Lifetime g (d.act.run s).2
  | closed {s : Stage τ} (h : Lifetime g s) : Lifetime g (close.run s).2

/-- What can come after a stage, in the same life. -/
inductive Later [Transport τ] (s : Stage τ) : Stage τ → Prop where
  | refl : Later s s
  | done {t : Stage τ} (h : Later s t) (d : Deed) : Later s (d.act.run t).2
  | closed {t : Stage τ} (h : Later s t) : Later s (close.run t).2

/-- What holds throughout a life. -/
structure Sound (g : Setting) (b : Bot) : Prop where
  setting : b.setting = g
  sorted : Keyed.IsSorted b.chats
  ids : ∀ k c, b.chat? k = some c → c.id = k
  queue : ∀ n ∈ b.queue, ∃ c, b.chat? n.chat = some c ∧ n.generation ≤ c.generation
  timers : ∀ k c, b.chat? k = some c → c.timers = [] ∨ c.Mirrors g.scenario

/-- A bot is sound after a start. -/
theorem sound_start {g : Setting} {w w' : World τ} {b : Bot} (hplace : InPlace g w.disk)
    (h : (start g).run w = (.ok b, w')) : Sound g b := by
  obtain ⟨-, -, -, -, hsetting, -, -⟩ := of_start h
  refine ⟨hsetting, sorted_start h, fun k c hc => ?_, fun n hn => ?_, fun k c hc => ?_⟩
  · obtain ⟨r, ticket, hr, rfl⟩ := load_of_chat?_start h hc
    exact (Chat.fields_ofRecord g.scenario r w.now ticket).1.trans (hplace k r hr)
  · obtain ⟨hzero, c, hc, -⟩ := chat?_of_mem_queue_start h hplace hn
    exact ⟨c, hc, by omega⟩
  · obtain ⟨r, ticket, -, rfl⟩ := load_of_chat?_start h hc
    exact Or.inr (Chat.mirrors_ofRecord g.scenario r w.now ticket)

/-- A chat that stays without timers, or with those of its step, does so. -/
theorem timers_of_stayed {scenario : Scenario} {c c' : Chat} (h : Chat.Stayed c c')
    (hc : c.timers = [] ∨ c.Mirrors scenario) : c'.timers = [] ∨ c'.Mirrors scenario := by
  refine hc.imp (fun hnil => ?_) h.mirrors
  have hactions := h.actions
  rw [hnil, List.map_nil] at hactions
  exact List.map_eq_nil_iff.mp hactions

/-- What a chat that stays or moves has for timers. -/
theorem timers_of_goesOn {g : Setting} {s s' : Scene τ} (h : Chat.GoesOn g s s')
    (hs : s.chat.timers = [] ∨ s.chat.Mirrors g.scenario) :
    s'.chat.timers = [] ∨ s'.chat.Mirrors g.scenario := by
  rcases h.timers with hstayed | hmoved
  · exact timers_of_stayed hstayed hs
  · exact Or.inr hmoved.mirrors

theorem generation_of_goesOn {g : Setting} {s s' : Scene τ} (h : Chat.GoesOn g s s') :
    s.chat.generation ≤ s'.chat.generation := by
  rcases h.timers with hstayed | hmoved
  · exact Nat.le_of_eq hstayed.generation.symm
  · exact Nat.le_of_lt hmoved.generation

/-- A bot stays sound when one of its chats, or a new one, goes on. -/
theorem Sound.put {g : Setting} {s : Stage τ} (h : Sound g s.bot) {k : String} {c : Chat}
    {w : World τ} {t : Scene τ} (hid : c.id = k)
    (htimers : c.timers = [] ∨ c.Mirrors g.scenario)
    (hgeneration : ∀ c₀, s.bot.chat? k = some c₀ → c₀.generation ≤ c.generation)
    (ht : Chat.GoesOn g ⟨c, w⟩ t) : Sound g (put s k t).bot := by
  refine ⟨h.setting, sorted_put h.sorted k t, fun k' c' hc' => ?_, fun n hn => ?_,
    fun k' c' hc' => ?_⟩
  · rcases chat?_put_eq_some.mp hc' with ⟨rfl, rfl⟩ | ⟨-, hc'⟩
    · exact ht.id.trans hid
    · exact h.ids k' c' hc'
  · obtain ⟨c₀, hc₀, hle⟩ := h.queue n hn
    rw [chat?_put]
    by_cases hk : n.chat = k
    · rw [if_pos hk]
      rw [hk] at hc₀
      have hc := hgeneration c₀ hc₀
      have ht' := generation_of_goesOn ht
      exact ⟨t.chat, rfl, by dsimp only at ht'; omega⟩
    · rw [if_neg hk]
      exact ⟨c₀, hc₀, hle⟩
  · rcases chat?_put_eq_some.mp hc' with ⟨-, rfl⟩ | ⟨-, hc'⟩
    · exact timers_of_goesOn ht htimers
    · exact h.timers k' c' hc'

/-- Nobody comes out of idleness who was not there before. -/
theorem Idle.back {s s' : Stage τ} (hs : Idle s s') {k : String} {c' : Chat}
    (hc' : s'.bot.chat? k = some c') :
    ∃ c, s.bot.chat? k = some c ∧ c'.id = c.id ∧ Chat.Stayed c c' := by
  cases hc : s.bot.chat? k with
  | none =>
    rw [hs.absent k hc] at hc'
    cases hc'
  | some c =>
    obtain ⟨c'', hc'', hid, hstayed⟩ := hs.present k c hc
    rw [hc', Option.some.injEq] at hc''
    subst hc''
    exact ⟨c, rfl, hid, hstayed⟩

theorem Sound.idle {g : Setting} {s s' : Stage τ} (h : Sound g s.bot) (hs : Idle s s') :
    Sound g s'.bot := by
  refine ⟨hs.setting.trans h.setting, hs.sorted, fun k c' hc' => ?_, fun n hn => ?_,
    fun k c' hc' => ?_⟩
  · obtain ⟨c, hc, hid, -⟩ := hs.back hc'
    exact hid.trans (h.ids k c hc)
  · have hn' : ∃ c, s.bot.chat? n.chat = some c ∧ n.generation ≤ c.generation := by
      rcases hs.queue n hn with hn | ⟨k, c, slot, hc, rfl⟩
      · exact h.queue n hn
      · refine ⟨c, ?_, Nat.le_refl _⟩
        show s.bot.chat? c.id = some c
        rw [h.ids k c hc]
        exact hc
    obtain ⟨c, hc, hle⟩ := hn'
    obtain ⟨c', hc', -, hstayed⟩ := hs.present _ c hc
    exact ⟨c', hc', hstayed.generation ▸ hle⟩
  · obtain ⟨c, hc, -, hstayed⟩ := hs.back hc'
    exact timers_of_stayed hstayed (h.timers k c hc)

/-- To take up a note leaves a chat with the timers that it should have. -/
theorem timers_markHandled {scenario : Scenario} {c : Chat} {n : Elapsed} {t : ActionTimer}
    (ht : c.awaited? n = some t) (h : c.timers = [] ∨ c.Mirrors scenario) :
    (Chat.markHandled n.slot t c).timers = []
      ∨ (Chat.markHandled n.slot t c).Mirrors scenario := by
  obtain ⟨-, hslot, -⟩ := Chat.awaited?_eq_some.mp ht
  rcases h with hnil | hmirrors
  · rw [hnil] at hslot
    cases hslot
  · right
    rw [Chat.Mirrors, Chat.actions_markHandled hslot]
    exact hmirrors

/-- **A bot that is sound stays sound.** -/
theorem Sound.turn {g : Setting} {s s' : Stage τ} {now : Int} {n : Option Elapsed}
    {r : Except EngineError Unit} (h : Sound g s.bot) (hs : Turn g s now n r s') :
    Sound g s'.bot := by
  cases hs with
  | idle hidle => exact h.idle hidle
  | @goes _ k c w t hc hw hnow hgoes =>
    refine h.put (h.ids k c hc) (h.timers k c hc) (fun c₀ hc₀ => ?_) hgoes
    rw [hc, Option.some.injEq] at hc₀
    exact Nat.le_of_eq (congrArg Chat.generation hc₀.symm)
  | @takes _ n c t u hc ht hgoes =>
    refine h.put (c := Chat.markHandled n.slot t c) (h.ids n.chat c hc)
      (timers_markHandled ht (h.timers n.chat c hc)) (fun c₀ hc₀ => ?_) hgoes
    rw [hc, Option.some.injEq] at hc₀
    have hgeneration : c₀.generation = c.generation := congrArg Chat.generation hc₀.symm
    exact Nat.le_of_eq hgeneration
  | @greets _ k ref w t hk hw hnow hgoes hr =>
    refine h.put (c := Chat.opening g.scenario k ref) rfl (Or.inl rfl) (fun c₀ hc₀ => ?_) hgoes
    rw [hk] at hc₀
    cases hc₀
  | refuses hw hnow => exact ⟨h.setting, h.sorted, h.ids, h.queue, h.timers⟩

/-- Where there is a timer, its action is the one in its place at the step that the chat is on. -/
theorem Sound.action {g : Setting} {b : Bot} (h : Sound g b) {k : String} {c : Chat} {slot : Nat}
    {t : ActionTimer} (hc : b.chat? k = some c) (ht : c.timers[slot]? = some t) :
    ∃ step, c.step? g.scenario = some step ∧ step.delayedActions[slot]? = some t.action := by
  have hmirrors : c.Mirrors g.scenario := by
    refine (h.timers k c hc).resolve_left fun hnil => ?_
    rw [hnil] at ht
    cases ht
  have haction : (c.delayed g.scenario)[slot]? = some t.action := by
    rw [← hmirrors, List.getElem?_map, ht]
    rfl
  rw [Chat.delayed] at haction
  split at haction
  · exact ⟨_, ‹_›, haction⟩
  · cases haction

/-- A bot stays sound whatever is done. -/
theorem Sound.act [Transport τ] {g : Setting} {s : Stage τ} (h : Sound g s.bot) (d : Deed) :
    Sound g (d.act.run s).2.bot := h.turn (turn_act h.sorted h.setting d)

theorem Sound.after [Transport τ] {g : Setting} {s : Stage τ} (h : Sound g s.bot)
    (ds : List Deed) : Sound g (Bot.after ds s).bot := by
  induction ds generalizing s with
  | nil => exact h
  | cons d ds ih => exact ih (h.act d)

theorem chat?_stopAll (b : Bot) (k : String) :
    b.stopAll.chat? k = (b.chat? k).map fun c => { c with timers := [] } :=
  Keyed.find?_map (fun (_ : String) (c : Chat) => (Chat.stopTimers c).2) k b.chats

/-- A bot that is closed is sound. -/
theorem Sound.stopAll {g : Setting} {b : Bot} (h : Sound g b) : Sound g b.stopAll := by
  refine ⟨h.setting, Keyed.isSorted_map (fun (_ : String) (c : Chat) => (Chat.stopTimers c).2)
    h.sorted, fun k c hc => ?_, fun n hn => ?_, fun k c hc => ?_⟩
  · rw [chat?_stopAll, Option.map_eq_some_iff] at hc
    obtain ⟨c₀, hc₀, rfl⟩ := hc
    exact h.ids k c₀ hc₀
  · obtain ⟨c, hc, hle⟩ := h.queue n hn
    refine ⟨{ c with timers := [] }, ?_, hle⟩
    rw [chat?_stopAll, hc]
    rfl
  · rw [chat?_stopAll, Option.map_eq_some_iff] at hc
    obtain ⟨c₀, -, rfl⟩ := hc
    exact Or.inl rfl

section

variable [Transport τ]

/-- **What holds throughout a life.** -/
theorem Lifetime.sound {g : Setting} {s : Stage τ} (h : Lifetime g s) : Sound g s.bot := by
  induction h with
  | started hplace h => exact sound_start hplace h
  | done _ d ih => exact ih.act d
  | closed _ ih =>
    rw [close_run]
    exact ih.stopAll

/-- A life goes on with a row of deeds. -/
theorem Lifetime.after {g : Setting} {s : Stage τ} (h : Lifetime g s) (ds : List Deed) :
    Lifetime g (after ds s) := by
  induction ds generalizing s with
  | nil => exact h
  | cons d ds ih => exact ih (h.done d)

/-- A life goes on with what comes later. -/
theorem Lifetime.later {g : Setting} {s t : Stage τ} (h : Lifetime g s) (l : Later s t) :
    Lifetime g t := by
  induction l with
  | refl => exact h
  | done _ d ih => exact ih.done d
  | closed _ ih => exact ih.closed

/-! What a bot does by itself keeps it in its life. -/

theorem Lifetime.drain {g : Setting} {s : Stage τ} (h : Lifetime g s) :
    Lifetime g (drain.run s).2 := by
  rw [drain_run]
  exact h.after (drainDeeds s.bot)

theorem Lifetime.broadcast {g : Setting} {s : Stage τ} (h : Lifetime g s) (step : String) :
    Lifetime g ((broadcast step).run s).2 := by
  rw [broadcast_run h.sound.sorted]
  exact h.after _

theorem Lifetime.runUntil {g : Setting} {s : Stage τ} (h : Lifetime g s) (limit : Int) :
    Lifetime g (runUntil limit s) := by
  obtain ⟨ds, hds⟩ := runUntil_deeds h.sound.sorted limit
  rw [hds]
  exact h.after ds

theorem Lifetime.shutdown {g : Setting} {s : Stage τ} (h : Lifetime g s) :
    Lifetime g (shutdown.run s).2 := by
  rw [shutdown_run]
  exact (h.after (drainDeeds s.bot)).closed

end

/-! ## What becomes of a note -/

/-- A chat is of no earlier generation than it was, and what was spent is spent. -/
structure Onward (c c' : Chat) : Prop where
  generation : c.generation ≤ c'.generation
  isSpent : ∀ n, c.IsSpent n → c'.IsSpent n

theorem Onward.refl (c : Chat) : Onward c c := ⟨Nat.le_refl _, fun _ h => h⟩

theorem Onward.trans {c c' c'' : Chat} (h : Onward c c') (h' : Onward c' c'') : Onward c c'' :=
  ⟨Nat.le_trans h.generation h'.generation, fun n hn => h'.isSpent n (h.isSpent n hn)⟩

theorem onward_of_stayed {c c' : Chat} (h : Chat.Stayed c c') : Onward c c' :=
  ⟨Nat.le_of_eq h.generation.symm, fun _ hn => h.isSpent hn⟩

theorem onward_of_goesOn {g : Setting} {s s' : Scene τ} (h : Chat.GoesOn g s s') :
    Onward s.chat s'.chat := ⟨generation_of_goesOn h, fun _ hn => h.isSpent hn⟩

/-- Across a turn a chat that is there goes on. -/
theorem Turn.onward {g : Setting} {s s' : Stage τ} {now : Int} {m : Option Elapsed}
    {r : Except EngineError Unit} (hs : Turn g s now m r s') {k : String} {c : Chat}
    (hc : s.bot.chat? k = some c) : ∃ c', s'.bot.chat? k = some c' ∧ Onward c c' := by
  have hput : ∀ (k₀ : String) (t : Scene τ), (k = k₀ → Onward c t.chat) →
      ∃ c', (put s k₀ t).bot.chat? k = some c' ∧ Onward c c' := by
    intro k₀ t ht
    rw [chat?_put]
    by_cases hk : k = k₀
    · rw [if_pos hk]
      exact ⟨t.chat, rfl, ht hk⟩
    · rw [if_neg hk]
      exact ⟨c, hc, Onward.refl c⟩
  cases hs with
  | idle hidle =>
    obtain ⟨c', hc', -, hstayed⟩ := hidle.present k c hc
    exact ⟨c', hc', onward_of_stayed hstayed⟩
  | @goes _ k₀ c₀ w t hc₀ hw hnow hgoes =>
    refine hput k₀ t fun hk => ?_
    rw [← hk, hc, Option.some.injEq] at hc₀
    rw [hc₀]
    exact onward_of_goesOn hgoes
  | @takes _ n c₀ x u hc₀ hx hgoes =>
    refine hput n.chat u fun hk => ?_
    rw [← hk, hc, Option.some.injEq] at hc₀
    have hmark : Onward c (Chat.markHandled n.slot x c₀) := by
      rw [hc₀]
      exact ⟨Nat.le_refl _, fun _ hn => Chat.isSpent_markHandled hx (Or.inr hn)⟩
    exact hmark.trans (onward_of_goesOn hgoes)
  | @greets _ k₀ ref w t hk₀ hw hnow hgoes hr =>
    refine hput k₀ t fun hk => ?_
    rw [← hk, hc] at hk₀
    cases hk₀
  | refuses hw hnow => exact ⟨c, hc, Onward.refl c⟩

/-- A chat that is there stays there. -/
theorem isSome_chat?_act [Transport τ] {g : Setting} {s : Stage τ} (h : AtWork g s) {k : String}
    (hk : (s.bot.chat? k).isSome) (d : Deed) : ((d.act.run s).2.bot.chat? k).isSome := by
  obtain ⟨c, hc⟩ := Option.isSome_iff_exists.mp hk
  obtain ⟨c', hc', -⟩ := (turn_act h.sorted h.setting d).onward hc
  exact Option.isSome_iff_exists.mpr ⟨c', hc'⟩

/-- Whatever is done, a chat that is there goes on. -/
theorem Sound.onward_after [Transport τ] {g : Setting} {s : Stage τ} (h : Sound g s.bot)
    (ds : List Deed) {k : String} {c : Chat} (hc : s.bot.chat? k = some c) :
    ∃ c', (Bot.after ds s).bot.chat? k = some c' ∧ Onward c c' := by
  induction ds generalizing s c with
  | nil => exact ⟨c, hc, Onward.refl c⟩
  | cons d ds ih =>
    obtain ⟨c₁, hc₁, h₁⟩ := (turn_act h.sorted h.setting d).onward hc
    obtain ⟨c₂, hc₂, h₂⟩ := ih (h.act d) hc₁
    exact ⟨c₂, hc₂, h₁.trans h₂⟩

/-- A note that was taken up is spent. -/
theorem Turn.isSpent_of_taken {g : Setting} {s s' : Stage τ} {now : Int} {n : Elapsed}
    {r : Except EngineError Unit} (hs : Turn g s now (some n) r s') :
    ∃ c', s'.bot.chat? n.chat = some c' ∧ c'.IsSpent n := by
  cases hs with
  | @takes _ _ c x u hc hx hgoes =>
    refine ⟨u.chat, ?_, ?_⟩
    · rw [chat?_put, if_pos rfl]
    · exact hgoes.isSpent (Chat.isSpent_markHandled hx (Or.inl rfl))

/-- The timers of a chat are those of the chat that it was. -/
structure Continues (c c' : Chat) : Prop where
  generation : c'.generation = c.generation
  step : c'.stepId = c.stepId
  actions : c'.timers.map ActionTimer.action = c.timers.map ActionTimer.action

theorem Continues.trans {c c' c'' : Chat} (h : Continues c c') (h' : Continues c' c'') :
    Continues c c'' :=
  ⟨h'.generation.trans h.generation, h'.step.trans h.step, h'.actions.trans h.actions⟩

theorem continues_of_stayed {c c' : Chat} (h : Chat.Stayed c c') : Continues c c' :=
  ⟨h.generation, h.step, h.actions⟩

/-- The timers of a chat have just been started, all of them at one moment, for the delayed
actions of its step; if the chat was there before, this was a move. -/
structure Rearmed (g : Setting) (now : Int) (before : Option Chat) (c : Chat) : Prop where
  generation : ∀ c₀, before = some c₀ → c₀.generation < c.generation
  mirrors : c.Mirrors g.scenario
  states : c.timers.map ActionTimer.state = (c.delayed g.scenario).map (freshState now)

/-- How the timers of a chat that goes on came about. -/
theorem rearmed_of_goesOn {g : Setting} {s s' : Scene τ} (h : Chat.GoesOn g s s')
    {before : Option Chat} (hbefore : ∀ c, before = some c → c.generation = s.chat.generation) :
    Continues s.chat s'.chat ∨ Rearmed g s.world.now before s'.chat := by
  rcases h.timers with hstayed | hmoved
  · exact Or.inl (continues_of_stayed hstayed)
  · refine Or.inr ⟨fun c hc => ?_, hmoved.mirrors, hmoved.states⟩
    rw [hbefore c hc]
    exact hmoved.generation

/-- The timers of a chat are those that it had, or they have just been started. -/
theorem Turn.armed {g : Setting} {s s' : Stage τ} {now : Int} {m : Option Elapsed}
    {r : Except EngineError Unit} (hs : Turn g s now m r s') {k : String} {c' : Chat}
    (hc' : s'.bot.chat? k = some c') (htimers : c'.timers ≠ []) :
    (∃ c, s.bot.chat? k = some c ∧ Continues c c')
      ∨ Rearmed g s.world.now (s.bot.chat? k) c' := by
  cases hs with
  | idle hidle =>
    obtain ⟨c, hc, -, hstayed⟩ := hidle.back hc'
    exact Or.inl ⟨c, hc, continues_of_stayed hstayed⟩
  | @goes _ k₀ c₀ w t hc₀ hw hnow hgoes =>
    rcases chat?_put_eq_some.mp hc' with ⟨rfl, rfl⟩ | ⟨-, hc'⟩
    · rw [← hnow]
      refine (rearmed_of_goesOn hgoes fun c hc => ?_).imp_left fun h => ⟨c₀, hc₀, h⟩
      rw [hc₀, Option.some.injEq] at hc
      exact congrArg Chat.generation hc.symm
    · exact Or.inl ⟨c', hc', continues_of_stayed (Chat.Stayed.refl c')⟩
  | @takes _ n c₀ x u hc₀ hx hgoes =>
    rcases chat?_put_eq_some.mp hc' with ⟨rfl, rfl⟩ | ⟨-, hc'⟩
    · have hmark : Continues c₀ (Chat.markHandled n.slot x c₀) :=
        ⟨rfl, rfl, Chat.actions_markHandled (Chat.awaited?_eq_some.mp hx).2.1⟩
      refine (rearmed_of_goesOn hgoes fun c hc => ?_).imp_left fun h => ⟨c₀, hc₀, hmark.trans h⟩
      rw [hc₀, Option.some.injEq] at hc
      have hgeneration : c.generation = c₀.generation := congrArg Chat.generation hc.symm
      exact hgeneration
    · exact Or.inl ⟨c', hc', continues_of_stayed (Chat.Stayed.refl c')⟩
  | @greets _ k₀ ref w t hk₀ hw hnow hgoes hr =>
    rcases chat?_put_eq_some.mp hc' with ⟨rfl, rfl⟩ | ⟨-, hc'⟩
    · rw [← hnow]
      refine (rearmed_of_goesOn hgoes fun c hc => ?_).elim (fun h => ?_) Or.inr
      · rw [hk₀] at hc
        cases hc
      · -- A new chat has no timers before it moves.
        exact absurd (List.map_eq_nil_iff.mp h.actions) htimers
    · exact Or.inl ⟨c', hc', continues_of_stayed (Chat.Stayed.refl c')⟩
  | refuses hw hnow => exact Or.inl ⟨c', hc', continues_of_stayed (Chat.Stayed.refl c')⟩

section

variable [Transport τ]

/-- What was later is still there, and has gone on. -/
theorem Later.onward {g : Setting} {s t : Stage τ} (h : Lifetime g s) (l : Later s t) {k : String}
    {c : Chat} (hc : s.bot.chat? k = some c) : ∃ c', t.bot.chat? k = some c' ∧ Onward c c' := by
  induction l with
  | refl => exact ⟨c, hc, Onward.refl c⟩
  | done l d ih =>
    obtain ⟨c₁, hc₁, h₁⟩ := ih
    have hsound := (h.later l).sound
    obtain ⟨c₂, hc₂, h₂⟩ := (turn_act hsound.sorted hsound.setting d).onward hc₁
    exact ⟨c₂, hc₂, h₁.trans h₂⟩
  | closed l ih =>
    obtain ⟨c₁, hc₁, h₁⟩ := ih
    refine ⟨{ c₁ with timers := [] }, ?_, h₁.trans ⟨Nat.le_refl _, fun n hn => ?_⟩⟩
    · rw [close_run, chat?_stopAll, hc₁]
      rfl
    · rcases hn with hlt | ⟨heq, -⟩
      · exact Or.inl hlt
      · exact Or.inr ⟨heq, fun t ht => by cases ht⟩

/-- A note that is spent is void for the bot. -/
theorem handleNote_of_isSpent {s : Stage τ} (hs : Keyed.IsSorted s.bot.chats) {n : Elapsed}
    {c : Chat} (hc : s.bot.chat? n.chat = some c) (h : c.IsSpent n) :
    (handleNote n).run s = (.ok (), s) := by
  refine handleNote_of_void hs ?_
  rw [awaited?, hc]
  exact h.awaited?

/-- A note that was handled is spent, whatever the world is like. -/
theorem Sound.isSpent_handleNote {g : Setting} {s : Stage τ} (h : Sound g s.bot) {n : Elapsed}
    {c : Chat} (hc : s.bot.chat? n.chat = some c) (hle : n.generation ≤ c.generation) :
    ∃ c', ((handleNote n).run s).2.bot.chat? n.chat = some c' ∧ c'.IsSpent n := by
  have hturn := turn_note h.sorted h.setting n
  rw [Deed.taken?] at hturn
  split at hturn
  · exact hturn.isSpent_of_taken
  · rename_i hvoid
    have hspent : c.IsSpent n := by
      rw [awaited?, hc, Option.bind_some, Option.not_isSome_iff_eq_none] at hvoid
      exact Chat.isSpent_of_awaited? hle hvoid
    obtain ⟨c', hc', honward⟩ := hturn.onward hc
    exact ⟨c', hc', honward.isSpent n hspent⟩

/-- A note that was handled is spent. -/
theorem isSpent_handleNote {g : Setting} {s : Stage τ} (h : Lifetime g s) {n : Elapsed} {c : Chat}
    (hc : s.bot.chat? n.chat = some c) (hle : n.generation ≤ c.generation) :
    ∃ c', ((handleNote n).run s).2.bot.chat? n.chat = some c' ∧ c'.IsSpent n :=
  h.sound.isSpent_handleNote hc hle

/-! ## Where timers come from -/

/-- The timers of the chat under a key have just been started: the bot was restored, or a deed
has moved the chat. -/
inductive JustArmed (g : Setting) (k : String) (c : Chat) : Stage τ → Prop where
  | restored {w w' : World τ} {b : Bot} (hplace : InPlace g w.disk)
      (h : (start g).run w = (.ok b, w')) (hc : b.chat? k = some c) : JustArmed g k c ⟨b, w'⟩
  | moved {s : Stage τ} (h : Lifetime g s) (d : Deed)
      (hc : (d.act.run s).2.bot.chat? k = some c)
      (hr : Rearmed g s.world.now (s.bot.chat? k) c) : JustArmed g k c (d.act.run s).2

/-- **The timers of a chat were started by its last move**, or by its restoring if there was none:
since then it has been on the same step, in the same generation, with the same timers. -/
theorem Lifetime.armed {g : Setting} {s : Stage τ} (h : Lifetime g s) {k : String} {c : Chat}
    (hc : s.bot.chat? k = some c) (htimers : c.timers ≠ []) :
    ∃ s₀ c₀, JustArmed g k c₀ s₀ ∧ Later s₀ s ∧ Continues c₀ c := by
  induction h generalizing c with
  | @started w w' b hplace h =>
    exact ⟨_, c, .restored hplace h hc, .refl, continues_of_stayed (Chat.Stayed.refl c)⟩
  | @done s h d ih =>
    rcases (turn_act h.sound.sorted h.sound.setting d).armed hc htimers with
      ⟨c₁, hc₁, hcont⟩ | hrearmed
    · have htimers₁ : c₁.timers ≠ [] := by
        intro hnil
        have := hcont.actions
        rw [hnil, List.map_nil, List.map_eq_nil_iff] at this
        exact htimers this
      obtain ⟨s₀, c₀, harmed, hlater, hcont₀⟩ := ih hc₁ htimers₁
      exact ⟨s₀, c₀, harmed, hlater.done d, hcont₀.trans hcont⟩
    · exact ⟨_, c, .moved h d hc hrearmed, .refl, continues_of_stayed (Chat.Stayed.refl c)⟩
  | closed h ih =>
    rw [close_run, chat?_stopAll, Option.map_eq_some_iff] at hc
    obtain ⟨c₁, -, rfl⟩ := hc
    exact absurd rfl htimers

/-! ## What a note can do -/

/-- The note is of a timer that has been started by now, this one or an earlier one. -/
def HasArmed (b : Bot) (n : Elapsed) : Prop :=
  ∃ c, b.chat? n.chat = some c ∧ n.generation ≤ c.generation

/-- **A superseded timer never acts.**  At any stage of a life, a note changes nothing and sends
nothing, or it is of the generation of its chat and of a timer that has not been handled.  Then
the action that is run is the one of that timer, which is the action in its place among the
delayed actions of the step that the chat is on, and the timers of the chat were started by its
last move, or by its restoring if there was none.

All notes that wait are of timers that have been started.  Such a note does nothing at any later
stage if its chat has moved in the meantime, and nothing if it was handled before. -/
theorem superseded_notes_are_void {g : Setting} {s : Stage τ} (h : Lifetime g s) :
    (∀ n, (handleNote n).run s = (.ok (), s)
      ∨ ∃ c step a t, s.bot.chat? n.chat = some c ∧ c.id = n.chat ∧ n.generation = c.generation
          ∧ c.step? g.scenario = some step ∧ step.delayedActions[n.slot]? = some a
          ∧ c.timers[n.slot]? = some t ∧ t.action = a ∧ t.handled = false
          ∧ (handleNote n).run s
              = (onChat n.chat (Chat.markHandled n.slot t c) (Chat.runAction g a)).run s
          ∧ ∃ s₀ c₀, JustArmed g n.chat c₀ s₀ ∧ Later s₀ s ∧ Continues c₀ c)
      ∧ (∀ n ∈ s.bot.queue, s.bot.HasArmed n)
      ∧ (∀ n s' c c', s.bot.HasArmed n → Later s s' → s.bot.chat? n.chat = some c →
          s'.bot.chat? n.chat = some c' → c.generation < c'.generation →
          (handleNote n).run s' = (.ok (), s'))
      ∧ (∀ n s', s.bot.HasArmed n → Later ((handleNote n).run s).2 s' →
          (handleNote n).run s' = (.ok (), s')) := by
  have hsound := h.sound
  refine ⟨fun n => ?_, hsound.queue, fun n s' c c' hn hlater hc hc' hlt => ?_,
    fun n s' hn hlater => ?_⟩
  · cases ha : s.bot.awaited? n with
    | none => exact Or.inl (handleNote_of_void hsound.sorted ha)
    | some t =>
      right
      obtain ⟨c, hc, ht⟩ := Option.bind_eq_some_iff.mp ha
      obtain ⟨hgeneration, hslot, hhandled⟩ := Chat.awaited?_eq_some.mp ht
      have htimers : c.timers ≠ [] := by
        intro hnil
        rw [hnil] at hslot
        cases hslot
      obtain ⟨step, hstep, hdelayed⟩ := hsound.action hc hslot
      refine ⟨c, step, t.action, t, hc, hsound.ids n.chat c hc, hgeneration, hstep, hdelayed, hslot,
        rfl, hhandled, ?_, h.armed hc htimers⟩
      rw [handleNote_run, hc]
      dsimp only
      rw [onChat_run, onChat_run, Chat.handleNote_run, hsound.setting]
      dsimp only
      rw [ht]
  · obtain ⟨c₀, hc₀, hle⟩ := hn
    rw [hc, Option.some.injEq] at hc₀
    subst hc₀
    exact handleNote_of_isSpent (h.later hlater).sound.sorted hc'
      (Or.inl (Nat.lt_of_le_of_lt hle hlt))
  · obtain ⟨c, hc, hle⟩ := hn
    have hafter : Lifetime g ((handleNote n).run s).2 := h.done (.note n)
    obtain ⟨c₁, hc₁, hspent⟩ := isSpent_handleNote h hc hle
    obtain ⟨c₂, hc₂, honward⟩ := hlater.onward hafter hc₁
    exact handleNote_of_isSpent (hafter.later hlater).sound.sorted hc₂ (honward.isSpent n hspent)

end

/-! ## A chat with two timers -/

/-- A scenario whose first step has two timers.  The first one has a label of our choice and leads
on; the second one takes two hours. -/
def reminding (label : String) : Setting :=
  let entry : Step :=
    { id := "1", cue := .immediate, body := ["Hello"]
      actions :=
        [⟨label, "(2)", ⟨some "2", ""⟩⟩, ⟨"(2h)", "Still there?", ⟨none, "Still there?"⟩⟩] }
  let later : Step := { id := "2", cue := .none, body := ["Later"], actions := [] }
  { scenario :=
      { name := "Reminders", description := "", menu := [], steps := [entry, later], entry }
    store := ⟨⟨"/"⟩⟩ }

/-- A world with nothing in it. -/
def newWorld : World Refusing := ⟨0, Disk.empty, Refusing.nothing, [], 0⟩

/-- A bot that has no chats yet. -/
def newBot (g : Setting) : Bot :=
  { setting := g, chats := [], queue := [], schedule := [], announced := [] }

theorem chats_newWorld : ({ root := ⟨"/"⟩ } : Store).chats newWorld.disk = .ok [] := by
  decide +kernel

theorem start_newWorld (label : String) :
    (start (reminding label)).run newWorld = (.ok (newBot (reminding label)), newWorld) :=
  start_of_chats_nil chats_newWorld

/-- Somebody has written to the bot. -/
def greeted (label : String) : Stage Refusing :=
  after [.receive ⟨"42", "Hi", ⟨42, false, "Ann", none, none, none⟩, none⟩]
    ⟨newBot (reminding label), newWorld⟩

theorem lifetime_greeted (label : String) : Lifetime (reminding label) (greeted label) := by
  have hstarted : Lifetime (reminding label) ⟨newBot (reminding label), newWorld⟩ :=
    .started (inPlace_of_chats_nil Disk.isTree_empty chats_newWorld) (start_newWorld label)
  exact hstarted.after _

/-- Both timers have rung, and both notes wait.  When the first one is handled, the chat moves on,
and nothing comes of the second. -/
theorem superseded_note_of_greeted :
    let rung := after [.ring "42" 0, .ring "42" 1] (greeted "(1h)")
    let moved := ((handleNote ⟨"42", 1, 0⟩).run rung).2
    rung.bot.queue = [⟨"42", 1, 0⟩, ⟨"42", 1, 1⟩]
      ∧ (moved.bot.chat? "42").map Chat.stepId = some (some "2")
      ∧ (handleNote ⟨"42", 1, 1⟩).run moved = (.ok (), moved) := by
  intro rung moved
  have hrung : Lifetime (reminding "(1h)") rung := (lifetime_greeted "(1h)").after _
  have hqueue : rung.bot.queue = [⟨"42", 1, 0⟩, ⟨"42", 1, 1⟩] := by decide +kernel
  have hbefore : (rung.bot.chat? "42").map Chat.generation = some 1 := by decide +kernel
  have hafter : (moved.bot.chat? "42").map Chat.generation = some 2 := by decide +kernel
  obtain ⟨c, hc, hgeneration⟩ := Option.map_eq_some_iff.mp hbefore
  obtain ⟨c', hc', hgeneration'⟩ := Option.map_eq_some_iff.mp hafter
  obtain ⟨-, hwaits, hvoid, -⟩ := superseded_notes_are_void hrung
  refine ⟨hqueue, by decide +kernel, ?_⟩
  refine hvoid ⟨"42", 1, 1⟩ moved c c' (hwaits _ ?_) (Later.refl.done (.note ⟨"42", 1, 0⟩)) hc hc'
    ?_
  · rw [hqueue]
    exact List.mem_cons_of_mem _ (List.mem_singleton_self _)
  · omega

end Bot
end ScriptedChat
