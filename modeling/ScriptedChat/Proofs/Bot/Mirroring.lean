import ScriptedChat.Proofs.Bot.InStep
import ScriptedChat.Proofs.Bot.Referral
import ScriptedChat.Proofs.Bot.Working

/-!
# Timers and steps

What is kept of a timer does not say which action it is of.  It is found again by its place, so
the timers of a chat have to be those of the delayed actions of its step, one for each of them and
in their order, at every moment and in everything that is kept.

## What holds, and from when on

A chat that was restored has the timers of its step, whatever was kept of them, and a chat that
moves gets them, whether the move can be kept or not.  A new chat has no timers until it moves:
it is kept before that, and if it cannot be welcomed it stays as it is.  So what is said is said
about chats that were restored or have moved (`Bot.IsSettled`).

A note names a timer by its place, too.  As long as its chat has not moved, the place is one of a
timer that the chat has (`Chat.HasSlot`).

* `Chat.Proceeds`, `Bot.Progress`, `Bot.Works.progress`: what a small step does.
* `Bot.Mirrored`, `Bot.Meanwhile.mirrored`: what holds at any moment.
* `Bot.Meanwhile.kept`: where the records come from.
* `Chat.MovedTo`, `Chat.movedTo_moveTo`: the timers after a move.
* `Bot.timers_mirror_step`: the result.
-/

namespace ScriptedChat

/-! ## What a small step does to a chat -/

namespace Chat

variable {τ : Type} {g : Setting} {scenario : Scenario} {c c' : Chat}

/-- The chat has the timers that it had, or it has moved and has those of its step. -/
def Proceeds (scenario : Scenario) (c c' : Chat) : Prop :=
  Bot.Continues c c' ∨ c.generation < c'.generation ∧ c'.Mirrors scenario

theorem Proceeds.refl (scenario : Scenario) (c : Chat) : Proceeds scenario c c :=
  Or.inl ⟨rfl, rfl, rfl⟩

theorem Proceeds.generation (h : Proceeds scenario c c') : c.generation ≤ c'.generation := by
  rcases h with hcont | ⟨hlt, -⟩
  · exact Nat.le_of_eq hcont.generation.symm
  · exact Nat.le_of_lt hlt

/-- The timer of a note is there, unless the chat has moved since the note was left. -/
def HasSlot (c : Chat) (n : Elapsed) : Prop :=
  n.generation ≤ c.generation ∧ (n.generation = c.generation → n.slot < c.timers.length)

theorem Proceeds.hasSlot (h : Proceeds scenario c c') {n : Elapsed} (hn : c.HasSlot n) :
    c'.HasSlot n := by
  obtain ⟨hle, hslot⟩ := hn
  rcases h with ⟨hgeneration, -, hactions⟩ | ⟨hlt, -⟩
  · have hlength : c'.timers.length = c.timers.length := by
      simpa only [List.length_map] using congrArg List.length hactions
    rw [HasSlot, hgeneration, hlength]
    exact ⟨hle, hslot⟩
  · exact ⟨by omega, fun heq => by omega⟩

/-- **A small step leaves a chat where it is, or moves it.** -/
theorem SmallStep.proceeds {s t : Scene τ} (h : SmallStep g s t) :
    Proceeds g.scenario s.chat t.chat := by
  cases h with
  | save =>
    rw [chat_save]
    exact .refl _ _
  | writeLog text =>
    rw [chat_writeLog]
    exact .refl _ _
  | post w hw => exact .refl _ _
  | setActive b => exact Or.inl ⟨rfl, rfl, rfl⟩
  | setRef code hnone => exact Or.inl ⟨rfl, rfl, rfl⟩
  | enterStep hstep =>
    have hmoved := moved_enterStep hstep s
    exact Or.inr ⟨hmoved.generation, hmoved.mirrors⟩

theorem proceeds_markHandled {n : Elapsed} {x : ActionTimer} (hx : c.awaited? n = some x) :
    Proceeds scenario c (markHandled n.slot x c) :=
  Or.inl ⟨rfl, rfl, actions_markHandled (awaited?_eq_some.mp hx).2.1⟩

end Chat

/-! ## What a small step does to a bot -/

namespace Bot

variable {τ : Type} {g : Setting} {b₀ : Bot} {s t : Stage τ}

/-- The chat was there from the start, and so it was restored, or it has moved since it was
made. -/
def IsSettled (b₀ : Bot) (k : String) (c : Chat) : Prop :=
  (b₀.chat? k).isSome ∨ 0 < c.generation

theorem IsSettled.proceeds {k : String} {c c' : Chat} (h : IsSettled b₀ k c)
    (hc : Chat.Proceeds g.scenario c c') : IsSettled b₀ k c' :=
  h.imp_right fun hpos => Nat.lt_of_lt_of_le hpos hc.generation

/-- What a small step does to chats, notes and records.  A chat may be new; then it has not moved.
The record of a chat that is there is what it was, or the chat has just been kept. -/
structure Progress (g : Setting) (s t : Stage τ) : Prop where
  present : ∀ k c, s.bot.chat? k = some c →
    ∃ c', t.bot.chat? k = some c' ∧ Chat.Proceeds g.scenario c c'
  fresh : ∀ k c', s.bot.chat? k = none → t.bot.chat? k = some c' → c'.generation = 0
  queue : ∀ n ∈ t.bot.queue, n ∈ s.bot.queue
    ∨ ∃ k c slot, s.bot.chat? k = some c ∧ n = c.note slot ∧ slot < c.timers.length
  loaded : ∀ k c, s.bot.chat? k = some c →
    g.store.loaded? k t.world.disk = g.store.loaded? k s.world.disk
      ∨ g.store.loaded? k t.world.disk = some c.record

/-- Nothing is different in the chats and in what is loaded. -/
theorem Progress.of_same {w : World τ}
    (hloaded : ∀ k, g.store.loaded? k w.disk = g.store.loaded? k s.world.disk) :
    Progress g s { s with world := w } :=
  ⟨fun _ c hc => ⟨c, hc, .refl _ c⟩, fun _ _ hnone hc => absurd (hnone.symm.trans hc) nofun,
    fun _ hn => Or.inl hn, fun k _ _ => Or.inl (hloaded k)⟩

/-- One chat has gone on, and no other record is different. -/
theorem progress_put {k : String} {c : Chat} (hc : s.bot.chat? k = some c) {v : Scene τ}
    (hchat : Chat.Proceeds g.scenario c v.chat)
    (hspares : g.store.Spares k s.world.disk v.world.disk)
    (hloaded : g.store.loaded? k v.world.disk = g.store.loaded? k s.world.disk
      ∨ g.store.loaded? k v.world.disk = some c.record) : Progress g s (put s k v) := by
  refine ⟨fun k' c' hc' => ?_, fun k' c' hnone hc' => ?_, fun _ hn => Or.inl hn,
    fun k' c' hc' => ?_⟩
  · rw [chat?_put]
    split
    · rename_i hk
      rw [hk, hc, Option.some.injEq] at hc'
      exact ⟨v.chat, rfl, hc' ▸ hchat⟩
    · exact ⟨c', hc', .refl _ c'⟩
  · rcases chat?_put_eq_some.mp hc' with ⟨rfl, -⟩ | ⟨-, hc'⟩
    · exact absurd (hnone.symm.trans hc) nofun
    · exact absurd (hnone.symm.trans hc') nofun
  · show g.store.loaded? k' v.world.disk = _ ∨ g.store.loaded? k' v.world.disk = _
    by_cases hk : k' = k
    · rw [hk, hc, Option.some.injEq] at hc'
      rw [hk, ← hc']
      exact hloaded
    · left
      rw [Store.loaded?, Store.loaded?, hspares.others k' hk]

section

variable [Transport τ]

/-- **What a small step does.** -/
theorem Works.progress (h : Works g s t) (hs : Backed g.store s) : Progress g s t := by
  have hqueue : ∀ n ∈ t.bot.queue, n ∈ s.bot.queue
      ∨ ∃ k c slot, s.bot.chat? k = some c ∧ n = c.note slot ∧ slot < c.timers.length :=
    fun n => h.queue hs.sorted
  cases h with
  | @unattended d hd =>
    have hidle := idle_unattended hs.sorted hd
    refine ⟨fun k c hc => ?_, fun k c' hnone hc' => ?_, hqueue, fun k c hc => ?_⟩
    · obtain ⟨c', hc', -, hstayed⟩ := hidle.present k c hc
      exact ⟨c', hc', Or.inl (continues_of_stayed hstayed)⟩
    · exact absurd ((hidle.absent k hnone).symm.trans hc') nofun
    · exact Or.inl (congrArg (g.store.loaded? k) hidle.disk)
  | answers press =>
    exact Progress.of_same fun k => congrArg (g.store.loaded? k) (disk_answered press s.world)
  | @goes k c v hc hstep =>
    obtain ⟨-, -, hspares, hloaded⟩ := hstep.effect hs.holds
    dsimp only at hspares hloaded
    rw [hs.ids k c hc] at hspares hloaded
    exact progress_put hc hstep.proceeds hspares hloaded
  | @takes n c x hc hx =>
    exact progress_put hc (Chat.proceeds_markHandled hx) (Store.Spares.refl hs.holds _) (Or.inl rfl)
  | @greets k ref w hk hw =>
    have hsaves := Store.saves hs.holds (Chat.opening g.scenario k ref).record
    rw [hw] at hsaves
    have hother : ∀ k' c, s.bot.chat? k' = some c → k' ≠ k := by
      rintro k' c hc rfl
      exact absurd (hk.symm.trans hc) nofun
    refine ⟨fun k' c hc => ⟨c, ?_, .refl _ c⟩, fun k' c' hnone hc' => ?_, hqueue,
      fun k' c hc => Or.inl ?_⟩
    · rw [chat?_put, if_neg (hother k' c hc)]
      exact hc
    · rcases chat?_put_eq_some.mp hc' with ⟨-, rfl⟩ | ⟨-, hc'⟩
      · rfl
      · exact absurd (hnone.symm.trans hc') nofun
    · show g.store.loaded? k' w.disk = _
      rw [Store.loaded?, Store.loaded?, hsaves.spares.others k' (hother k' c hc)]
  | @refuses r e w hw =>
    have hsaves := Store.saves hs.holds r
    rw [hw] at hsaves
    exact Progress.of_same hsaves.loaded_all

/-! ## What holds at any moment -/

/-- What holds at any moment from the start on until the bot is closed. -/
structure Mirrored (g : Setting) (b₀ : Bot) (s : Stage τ) : Prop where
  setting : s.bot.setting = g
  backed : Backed g.store s
  restored : ∀ k, (b₀.chat? k).isSome → (s.bot.chat? k).isSome
  timers : ∀ k c, s.bot.chat? k = some c → IsSettled b₀ k c → c.Mirrors g.scenario
  queue : ∀ n ∈ s.bot.queue, ∃ c, s.bot.chat? n.chat = some c ∧ c.HasSlot n

omit [Transport τ] in
theorem mirrored_start {w w' : World τ} {b : Bot} (htree : w.disk.IsTree)
    (hplace : InPlace g w.disk) (h : (start g).run w = (.ok b, w')) : Mirrored g b ⟨b, w'⟩ := by
  obtain ⟨keys, hkeys, -, -, hsetting, -, -⟩ := of_start h
  have hholds := Store.holds_of_chats htree hkeys
  have hbacked := backed_start hholds hplace h
  refine ⟨hsetting, hbacked, fun _ hk => hk, fun k c hc _ => ?_, fun n hn => ?_⟩
  · obtain ⟨r, ticket, -, rfl⟩ := load_of_chat?_start h hc
    exact Chat.mirrors_ofRecord g.scenario r w.now ticket
  · obtain ⟨k, c, hc, hoverdue⟩ := ((queue_start h hholds hplace).2 n).mp hn
    obtain ⟨slot, x, rfl, hx, -⟩ := Chat.mem_overdueNotes.mp hoverdue
    have hid : c.id = k := hbacked.ids k c hc
    refine ⟨c, ?_, Nat.le_refl _, fun _ => (List.getElem?_eq_some_iff.mp hx).1⟩
    show b.chat? c.id = some c
    rw [hid]
    exact hc

omit [Transport τ] in
/-- The timer of a note that is there stays there. -/
theorem Progress.hasSlot (h : Progress g s t) {n : Elapsed}
    (hn : ∃ c, s.bot.chat? n.chat = some c ∧ c.HasSlot n) :
    ∃ c, t.bot.chat? n.chat = some c ∧ c.HasSlot n := by
  obtain ⟨c, hc, hslot⟩ := hn
  obtain ⟨c', hc', hchat⟩ := h.present n.chat c hc
  exact ⟨c', hc', hchat.hasSlot hslot⟩

/-- **What a small step keeps.** -/
theorem Works.mirrored (h : Works g s t) (hs : Mirrored g b₀ s) : Mirrored g b₀ t := by
  have hprogress := h.progress hs.backed
  refine ⟨(h.kept hs.backed.sorted).2.trans hs.setting,
    ((h.smallStep hs.backed.sorted).backed rfl hs.backed).1, fun k hk => ?_,
    fun k c' hc' hsettled => ?_, fun n hn => ?_⟩
  · obtain ⟨c, hc⟩ := Option.isSome_iff_exists.mp (hs.restored k hk)
    obtain ⟨c', hc', -⟩ := hprogress.present k c hc
    rw [hc']
    rfl
  · cases hc : s.bot.chat? k with
    | none =>
      -- A chat that has just been made was not restored, and has not moved.
      rcases hsettled with hk | hpos
      · have hsome := hs.restored k hk
        rw [hc] at hsome
        cases hsome
      · rw [hprogress.fresh k c' hc hc'] at hpos
        exact absurd hpos (Nat.lt_irrefl 0)
    | some c =>
      obtain ⟨c'', hc'', hchat⟩ := hprogress.present k c hc
      obtain rfl : c' = c'' := Option.some.inj (hc'.symm.trans hc'')
      rcases hchat with ⟨hgeneration, hstep, hactions⟩ | ⟨-, hmirrors⟩
      · rw [Chat.Mirrors, hactions, Chat.delayed_congr hstep]
        rw [IsSettled, hgeneration] at hsettled
        exact hs.timers k c hc hsettled
      · exact hmirrors
  · refine hprogress.hasSlot ?_
    rcases hprogress.queue n hn with hn | ⟨k, c, slot, hc, rfl, hslot⟩
    · exact hs.queue n hn
    · refine ⟨c, ?_, Nat.le_refl _, fun _ => hslot⟩
      show s.bot.chat? c.id = some c
      rw [hs.backed.ids k c hc]
      exact hc

theorem works_mirrored (h : Relation.ReflTransGen (Works g) s t) (hs : Mirrored g b₀ s) :
    Mirrored g b₀ t := by
  induction h with
  | refl => exact hs
  | tail _ hstep ih => exact hstep.mirrored ih

/-- **What holds while a bot is at work.** -/
theorem Meanwhile.mirrored (h : Meanwhile g s t) (hs : Mirrored g b₀ s) : Mirrored g b₀ t :=
  works_mirrored (h.works hs.backed.sorted hs.setting) hs

/-- A note that waits once is of a timer that is there, or void, at any later moment, whether it
still waits or not. -/
theorem Meanwhile.hasSlot (h : Meanwhile g s t) (hs : Mirrored g b₀ s) {n : Elapsed}
    (hn : n ∈ s.bot.queue) : ∃ c, t.bot.chat? n.chat = some c ∧ c.HasSlot n := by
  have hworks := h.works hs.backed.sorted hs.setting
  clear h
  induction hworks with
  | refl => exact hs.queue n hn
  | tail hbefore hstep ih => exact (hstep.progress (works_mirrored hbefore hs).backed).hasSlot ih

/-! ## Where the records come from -/

/-- The record of a chat was kept at some moment between two others, when the chat had the timers
of its step.  So the record has a timer for each delayed action of the step that it names: the
states of the timers of these actions, in their order. -/
def KeptBetween (g : Setting) (s t : Stage τ) (k : String) (r : ChatRecord) : Prop :=
  ∃ u c, Meanwhile g s u ∧ Meanwhile g u t ∧ u.bot.chat? k = some c ∧ c.Mirrors g.scenario
    ∧ r = c.record

/-- A record that was kept then has as many timers as its step has delayed actions. -/
theorem KeptBetween.length_timers {k : String} {r : ChatRecord} (h : KeptBetween g s t k r) :
    r.timers.length = (r.delayed g.scenario).length := by
  obtain ⟨u, c, -, -, -, hmirrors, rfl⟩ := h
  have hdelayed : c.record.delayed g.scenario = c.delayed g.scenario := rfl
  rw [hdelayed, ← hmirrors, Chat.timers_record, List.length_map, List.length_map]

/-- **The record of a chat that is settled is the one that was there, or it was kept since.** -/
theorem Meanwhile.kept (h : Meanwhile g s t) (hs : Mirrored g b₀ s) {k : String} {c : Chat}
    (hc : s.bot.chat? k = some c) (hsettled : IsSettled b₀ k c) {r : ChatRecord}
    (hr : g.store.load k t.world.disk = .ok r) :
    g.store.load k s.world.disk = .ok r ∨ KeptBetween g s t k r := by
  -- The chat is still there and settled, and its record is one of the two.
  have hworks : ∀ {t}, Relation.ReflTransGen (Works g) s t →
      (∃ c', t.bot.chat? k = some c' ∧ IsSettled b₀ k c')
        ∧ ∀ r, g.store.loaded? k t.world.disk = some r →
          g.store.loaded? k s.world.disk = some r ∨ KeptBetween g s t k r := by
    intro t ht
    induction ht with
    | refl => exact ⟨⟨c, hc, hsettled⟩, fun r hr => Or.inl hr⟩
    | @tail t u hbefore hstep ih =>
      obtain ⟨⟨c', hc', hsettled'⟩, hrecords⟩ := ih
      have hmirrored := works_mirrored hbefore hs
      have hprogress := hstep.progress hmirrored.backed
      obtain ⟨c'', hc'', hchat⟩ := hprogress.present k c' hc'
      refine ⟨⟨c'', hc'', hsettled'.proceeds hchat⟩, fun r hr => ?_⟩
      have hlater : Meanwhile g t u := .amid .refl hstep
      rcases hprogress.loaded k c' hc' with hsame | hkept
      · rw [hsame] at hr
        refine (hrecords r hr).imp_right ?_
        rintro ⟨v, c₁, hsv, hvt, hrest⟩
        exact ⟨v, c₁, hsv, hvt.trans hlater, hrest⟩
      · rw [hkept, Option.some.injEq] at hr
        exact Or.inr ⟨t, c', .of_works hbefore, hlater, hc', hmirrored.timers k c' hc' hsettled',
          hr.symm⟩
  obtain ⟨-, hrecords⟩ := hworks (h.works hs.backed.sorted hs.setting)
  simpa only [Store.loaded?_eq_some] using hrecords r (Store.loaded?_eq_some.mpr hr)

end

end Bot

/-! ## The timers after a move -/

/-- The timer of an action that begins now: it takes the delay of the action, and is not done. -/
structure ActionTimer.IsFresh (now : Int) (a : Action) (t : ActionTimer) : Prop where
  action : t.action = a
  start : t.watch.start = Int64.ofInt now
  span : t.watch.span = a.delay * 1000000000
  done : t.watch.done = false
  handled : t.handled = false

/-- The timers that are started for some actions, if none is kept, are fresh, and they are in the
order of the actions. -/
theorem forall₂_isFresh_armTimers (now : Int) (ticket : Nat) (as : List Action) :
    List.Forall₂ (ActionTimer.IsFresh now) as (armTimers now ticket as []) := by
  induction as generalizing ticket with
  | nil => exact .nil
  | cons a as ih =>
    refine .cons ⟨rfl, ?_, ?_, ?_, rfl⟩ (ih (ticket + 1))
    · exact Stopwatch.start_begin (StopwatchOptions.fresh a.delay) now ticket
    · exact Stopwatch.span_begin (StopwatchOptions.fresh a.delay) now ticket
    · exact Stopwatch.done_begin (StopwatchOptions.fresh a.delay) now ticket

namespace Chat

variable {τ : Type}

/-- The chat of a scene has moved to a step: its timers are fresh ones of the delayed actions of
the step, and nothing else in it is different. -/
structure MovedTo (g : Setting) (step : Step) (s t : Scene τ) : Prop where
  found : t.chat.step? g.scenario = some step
  timers : List.Forall₂ (ActionTimer.IsFresh s.world.now) step.delayedActions t.chat.timers
  states : t.chat.record.timers = step.delayedActions.map (freshState s.world.now)
  generation : t.chat.generation = s.chat.generation + 1
  id : t.chat.id = s.chat.id
  refId : t.chat.refId = s.chat.refId
  active : t.chat.active = s.chat.active

/-- **A move to a step that the scenario has comes about, whether it can be kept or not**, and
whatever the chat was like before. -/
theorem movedTo_moveTo {g : Setting} {id : String} {step : Step}
    (h : g.scenario.step? id = some step) (s : Scene τ) :
    MovedTo g step s ((moveTo g id).run s).2 := by
  have hchat : ((moveTo g id).run s).2.chat = (enterStep step s).chat := by
    rw [moveTo_run_of_some h, ← chat_save g (enterStep step s)]
    rcases (Chat.save g).run (enterStep step s) with ⟨e | _, t⟩ <;> rfl
  refine ⟨?_, ?_, ?_, ?_, ?_, ?_, ?_⟩ <;> rw [hchat]
  · show g.scenario.step? step.id = some step
    rw [step?_id h, h]
  · exact forall₂_isFresh_armTimers _ _ _
  · exact map_state_armTimers_nil _ _ _
  all_goals rfl

end Chat

namespace Bot

variable {τ : Type} {g : Setting}

/-! ## The result -/

/-- **The timers of a chat are those of its step.**  A bot is started where every record lies in
the directory of its chat.  Whatever is done, and whatever fails, at every moment until it is closed
a chat that was restored or has moved has one timer for each delayed action of the step that it is
on, and none if there is no such step, in the order of the script.

From then on, everything that is kept of such a chat was kept at such a moment: it lists the states
of these timers in their order, as many as its step has delayed actions.

A note that waits, and at any later moment is of the generation of its chat, is of a timer that the
chat has then.

A move to a step that there is leaves the chat with fresh timers of this step, all of which begin
now, whatever it had before and whether it could be kept or not.  Its id, its referral code and its
activity are what they were. -/
theorem timers_mirror_step [Transport τ] {w w' : World τ} {b : Bot} (htree : w.disk.IsTree)
    (hplace : InPlace g w.disk) (hstart : (start g).run w = (.ok b, w')) :
    (∀ s, Meanwhile g ⟨b, w'⟩ s →
      (∀ k c, s.bot.chat? k = some c → IsSettled b k c →
        c.timers.map ActionTimer.action = c.delayed g.scenario
          ∧ ∀ t r, Meanwhile g s t → g.store.load k t.world.disk = .ok r →
            g.store.load k s.world.disk = .ok r
              ∨ KeptBetween g s t k r ∧ r.timers.length = (r.delayed g.scenario).length)
        ∧ ∀ n ∈ s.bot.queue, ∀ t, Meanwhile g s t →
          ∃ c, t.bot.chat? n.chat = some c
            ∧ (n.generation = c.generation → n.slot < c.timers.length))
      ∧ ∀ (s : Scene τ) id step, g.scenario.step? id = some step →
        Chat.MovedTo g step s ((Chat.moveTo g id).run s).2 := by
  refine ⟨fun s hs => ?_, fun s id step hstep => Chat.movedTo_moveTo hstep s⟩
  have hmirrored : Mirrored g b s := hs.mirrored (mirrored_start htree hplace hstart)
  refine ⟨fun k c hc hsettled => ⟨hmirrored.timers k c hc hsettled, fun t r ht hr => ?_⟩,
    fun n hn t ht => ?_⟩
  · exact (ht.kept hmirrored hc hsettled hr).imp_right fun hkept => ⟨hkept, hkept.length_timers⟩
  · obtain ⟨c, hc, -, hslot⟩ := ht.hasSlot hmirrored hn
    exact ⟨c, hc, hslot⟩

/-- A world with an empty disk, which accepts four writes and no more. -/
def soonRefusing : World Refusing :=
  { newWorld with
    disk :=
      { newWorld.disk with refusals := List.replicate 4 none ++ List.replicate 20 (some 0) } }

/-- Somebody has written, and both timers have rung.  The new chat could be kept, and the first
line was added to its log, but the move to the first step could not be kept. -/
def unkept : Stage Refusing :=
  after [.receive ⟨"42", "Hi", ⟨42, false, "Ann", none, none, none⟩, none⟩, .ring "42" 0,
    .ring "42" 1] ⟨newBot (reminding "(1h)"), soonRefusing⟩

/-- The record knows nothing of the timers, but the chat has both of them, and so the notes that
wait are of timers that are there. -/
theorem timers_mirror_step_unkept :
    ((reminding "(1h)").store.loaded? "42" unkept.world.disk).map ChatRecord.timers = some []
      ∧ ∃ c, unkept.bot.chat? "42" = some c
        ∧ c.timers.map (fun x => x.action.name) = ["(1h)", "(2h)"]
        ∧ unkept.bot.queue = [c.note 0, c.note 1] ∧ 1 < c.timers.length := by
  have htree : soonRefusing.disk.IsTree := (Disk.Within.refusals (q := []) Disk.isTree_empty _).tree
  have hempty : (reminding "(1h)").store.chats soonRefusing.disk = .ok [] := by decide +kernel
  have hfields : (unkept.bot.chat? "42").map (fun c => (c.id, c.stepId, c.generation))
      = some ("42", some "1", 1) := by decide +kernel
  have hqueue : unkept.bot.queue = [⟨"42", 1, 0⟩, ⟨"42", 1, 1⟩] := by decide +kernel
  obtain ⟨c, hc, heq⟩ := Option.map_eq_some_iff.mp hfields
  obtain ⟨hid, hstep, hgeneration⟩ : c.id = "42" ∧ c.stepId = some "1" ∧ c.generation = 1 := by
    simpa only [Prod.mk.injEq] using heq
  obtain ⟨hlife, -⟩ := timers_mirror_step htree (inPlace_of_chats_nil htree hempty)
    (start_of_chats_nil hempty)
  obtain ⟨htimers, hnotes⟩ := hlife unkept (Meanwhile.refl.after _)
  obtain ⟨hactions, -⟩ := htimers "42" c hc (Or.inr (by omega))
  refine ⟨by decide +kernel, c, hc, ?_, ?_, ?_⟩
  · have hdelayed : (c.delayed (reminding "(1h)").scenario).map Action.name = ["(1h)", "(2h)"] := by
      rw [Chat.delayed, Chat.step?, Chat.stepLabel, hstep]
      decide +kernel
    rw [← hdelayed, ← hactions, List.map_map]
    rfl
  · rw [hqueue, Chat.note, Chat.note, hid, hgeneration]
  · obtain ⟨c', hc', hslot⟩ := hnotes ⟨"42", 1, 1⟩ (hqueue ▸ List.mem_cons_of_mem _
      (List.mem_singleton_self _)) unkept .refl
    obtain rfl : c = c' := Option.some.inj (hc.symm.trans hc')
    exact hslot hgeneration.symm

end Bot
end ScriptedChat
