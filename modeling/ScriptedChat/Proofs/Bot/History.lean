import ScriptedChat.Proofs.Bot.Ledger

/-!
# Histories

A history is made of the lives of one bot, one after the other, with any time between them.  It
begins with a store that has no chats.  Each life begins with a start, goes on with deeds in any
order, and ends when the bot is closed and all its chats could be kept.  The clock may show
anything that the calendar has, and each life may have another transport.

A history is *smooth* if nothing that comes in fails.  Then every chat that was made has come to
its first step.  Nothing else depends on that.

## What holds throughout

The chats that can be loaded are those that the bot has, each chat fits the ledger, and so does
everything that is not a chat: nothing was entered for it (`Bot.Recorded`).  The ledger holds no
timer twice, because a timer that is in it is done, and what is done is not taken up again.  What
becomes of the world when a timer is entered is another matter, and not told here.

* `Bot.History`, `Bot.Recorded`.
* `Bot.Recorded.turn`, `Bot.Recorded.restart`: what a turn keeps, and what a restart keeps.
* `Bot.History.recorded`: **what holds throughout a history**.
-/

namespace ScriptedChat
namespace Bot

variable {τ : Type}

/-- What a bot can come to in a history, and what was written down by then. -/
inductive History (g : Setting) (smooth : Prop) [Transport τ] : Stage τ → Ledger → Prop where
  /-- The first life begins, with a store that has no chats. -/
  | opened {w w' : World τ} {b : Bot} (htree : w.disk.IsTree)
      (hempty : g.store.chats w.disk = .ok []) (hnow : Clock.IsReading w.now)
      (h : (start g).run w = (.ok b, w')) : History g smooth ⟨b, w'⟩ Ledger.blank
  /-- Something happens. -/
  | done {s : Stage τ} {l : Ledger} (h : History g smooth s l) (d : Deed)
      (hnow : Clock.IsReading (d.clock s.world.now))
      (hok : smooth → ∀ e, d = .receive e → (d.act.run s).1 = .ok ()) :
      History g smooth (d.act.run s).2 (l.enter (d.taken? s.bot))
  /-- A life ends, and another one begins with what was kept. -/
  | restarted {s s' : Stage τ} {l : Ledger} {w w' : World τ} {b : Bot} (h : History g smooth s l)
      (hclose : close.run s = (.ok (), s')) (hdisk : w.disk = s'.world.disk)
      (hnow : Clock.IsReading w.now) (hstart : (start g).run w = (.ok b, w')) :
      History g smooth ⟨b, w'⟩ (l.carry s.bot)

/-! ## What is recorded -/

/-- All timers of a chat were started when the clock showed something. -/
def StartsRead (c : Chat) : Prop := ∀ x ∈ c.record.timers, Clock.IsReading x.start.toInt

/-- What holds of a bot and of the ledger throughout a history. -/
structure Recorded (g : Setting) (s : Stage τ) (l : Ledger) : Prop where
  sound : Sound g s.bot
  holds : g.store.Holds s.world.disk
  now : Clock.IsReading s.world.now
  /-- What can be loaded is of a chat that is there. -/
  known : ∀ k r, g.store.load k s.world.disk = .ok r → (s.bot.chat? k).isSome
  starts : ∀ k c, s.bot.chat? k = some c → StartsRead c
  nodup : l.acted.Nodup
  books : ∀ k c, s.bot.chat? k = some c → l.Books k c
  /-- Nothing was entered for what is not there. -/
  absent : ∀ k, s.bot.chat? k = none → ∀ m slot, (k, m, slot) ∉ l.acted

theorem startsRead_of_states {c c' : Chat} (h : c'.record.timers = c.record.timers)
    (hc : StartsRead c) : StartsRead c' := by
  intro x hx
  rw [h] at hx
  exact hc x hx

/-- Timers that were started now were started when the clock showed something. -/
theorem startsRead_of_fresh {now : Int} (hnow : Clock.IsReading now) {c : Chat} {as : List Action}
    (h : c.record.timers = as.map (freshState now)) : StartsRead c := by
  intro x hx
  rw [h] at hx
  obtain ⟨a, -, rfl⟩ := List.mem_map.mp hx
  have hstart : (freshState now a).start.toInt = now := hnow.toInt_ofInt
  rw [hstart]
  exact hnow

theorem startsRead_of_goesOn {g : Setting} {s s' : Scene τ} (h : Chat.GoesOn g s s')
    (hnow : Clock.IsReading s.world.now) (hs : StartsRead s.chat) : StartsRead s'.chat := by
  rcases h.timers with hstayed | hmoved
  · exact startsRead_of_states hstayed.states hs
  · exact startsRead_of_fresh hnow hmoved.states

/-- To take up a note changes the start of no timer. -/
theorem startsRead_markHandled {c : Chat} {n : Elapsed} {t : ActionTimer}
    (ht : c.awaited? n = some t) (hc : StartsRead c) :
    StartsRead (Chat.markHandled n.slot t c) := by
  obtain ⟨-, hslot, -⟩ := Chat.awaited?_eq_some.mp ht
  intro x hx
  rw [Chat.timers_record, Chat.states_markHandled] at hx
  rcases List.mem_or_eq_of_mem_set hx with hx | rfl
  · exact hc x hx
  · have hmem : t.state ∈ c.record.timers :=
      List.mem_map_of_mem (List.mem_of_getElem? hslot)
    exact hc t.state hmem

/-! ## What a turn keeps -/

/-- What was entered for other chats, and for those that are not there. -/
theorem notMem_enter {l : Ledger} {n : Elapsed} {k : String} (hk : k ≠ n.chat)
    (h : ∀ m slot, (k, m, slot) ∉ l.acted) (m slot : Nat) :
    (k, m, slot) ∉ (l.enter (some n)).acted := by
  intro hmem
  rcases List.mem_cons.mp hmem with heq | hmem
  · exact hk (congrArg Prod.fst heq)
  · exact h m slot hmem

/-- One chat is put there, and the ledger is what it was for all others. -/
theorem Recorded.put {g : Setting} {s : Stage τ} {l l' : Ledger} {k : String} {t : Scene τ}
    (h : Recorded g s l) (hsound : Sound g (put s k t).bot)
    (hnow : Clock.IsReading t.world.now)
    (hspares : g.store.Spares k s.world.disk t.world.disk) (hstarts : StartsRead t.chat)
    (hnodup : l'.acted.Nodup) (hbooks : l'.Books k t.chat)
    (hothers : ∀ k' c, k' ≠ k → s.bot.chat? k' = some c → l'.Books k' c)
    (habsent : ∀ k', k' ≠ k → s.bot.chat? k' = none → ∀ m slot, (k', m, slot) ∉ l'.acted) :
    Recorded g (put s k t) l' := by
  refine ⟨hsound, hspares.holds, hnow, fun k' r hr => ?_, fun k' c hc => ?_, hnodup,
    fun k' c hc => ?_, fun k' hk' => ?_⟩
  · rw [chat?_put]
    by_cases hk : k' = k
    · rw [if_pos hk]
      rfl
    · rw [if_neg hk]
      refine h.known k' r ?_
      rw [← hspares.others k' hk]
      exact hr
  · rcases chat?_put_eq_some.mp hc with ⟨-, rfl⟩ | ⟨-, hc⟩
    · exact hstarts
    · exact h.starts k' c hc
  · rcases chat?_put_eq_some.mp hc with ⟨rfl, rfl⟩ | ⟨hk, hc⟩
    · exact hbooks
    · exact hothers k' c hk hc
  · rw [chat?_put] at hk'
    split at hk'
    · cases hk'
    · rename_i hk
      exact habsent k' hk hk'

/-- **What a turn keeps.** -/
theorem Recorded.turn {g : Setting} {s s' : Stage τ} {l : Ledger} {now : Int} {n : Option Elapsed}
    {r : Except EngineError Unit} (h : Recorded g s l) (hs : Turn g s now n r s')
    (hnow : Clock.IsReading now) : Recorded g s' (l.enter n) := by
  have hsound : Sound g s'.bot := h.sound.turn hs
  have hread : Clock.IsReading s'.world.now := hs.clock ▸ hnow
  cases hs with
  | idle hidle =>
    refine ⟨hsound, hidle.disk ▸ h.holds, hread, fun k r hr => ?_, fun k c' hc' => ?_, h.nodup,
      fun k c' hc' => ?_, fun k hk => ?_⟩
    · rw [hidle.disk] at hr
      obtain ⟨c, hc⟩ := Option.isSome_iff_exists.mp (h.known k r hr)
      obtain ⟨c', hc', -, -⟩ := hidle.present k c hc
      rw [hc']
      rfl
    · obtain ⟨c, hc, -, hstayed⟩ := hidle.back hc'
      exact startsRead_of_states hstayed.states (h.starts k c hc)
    · obtain ⟨c, hc, -, hstayed⟩ := hidle.back hc'
      exact (h.books k c hc).stayed hstayed
    · refine h.absent k ?_
      cases hc : s.bot.chat? k with
      | none => rfl
      | some c =>
        obtain ⟨c', hc', -, -⟩ := hidle.present k c hc
        rw [hk] at hc'
        cases hc'
  | @goes _ k c w t hc hw hnow' hgoes =>
    have hid : c.id = k := h.sound.ids k c hc
    have hspares := hgoes.disk (hw ▸ h.holds)
    dsimp only at hspares
    rw [hid, hw] at hspares
    exact h.put hsound hread hspares
      (startsRead_of_goesOn hgoes (hnow' ▸ hnow) (h.starts k c hc)) h.nodup
      ((h.books k c hc).goesOn hgoes) (fun k' c' _ => h.books k' c') (fun k' _ => h.absent k')
  | @takes _ n c t u hc ht hgoes =>
    have hid : c.id = n.chat := h.sound.ids n.chat c hc
    have hspares := hgoes.disk h.holds
    have hid' : (Chat.markHandled n.slot t c).id = n.chat := hid
    dsimp only at hspares
    rw [hid'] at hspares
    have hbooks := h.books n.chat c hc
    refine h.put hsound hread hspares ?_ ?_ ((hbooks.enter_self ht).goesOn hgoes)
      (fun k' c' hk' hc' => (h.books k' c' hc').enter_other hk')
      (fun k' hk' hnone => notMem_enter hk' (h.absent k' hnone))
    · exact startsRead_of_goesOn hgoes hnow (startsRead_markHandled ht (h.starts n.chat c hc))
    · exact List.nodup_cons.mpr ⟨hbooks.notMem ht, h.nodup⟩
  | @greets _ k ref w t hk hw hnow' hgoes hr =>
    have hsaves := Store.saves h.holds (Chat.opening g.scenario k ref).record
    rw [hw] at hsaves
    have hspares := hsaves.spares
    have hspares' := hgoes.disk hspares.holds
    have hbooks : l.Books k (Chat.opening g.scenario k ref) :=
      Ledger.Books.of_absent (h.absent k hk) rfl
    have hstarts : StartsRead (Chat.opening g.scenario k ref) := fun x hx => by cases hx
    exact h.put hsound hread (hspares.trans hspares')
      (startsRead_of_goesOn hgoes (hnow' ▸ hnow) hstarts) h.nodup (hbooks.goesOn hgoes)
      (fun k' c' _ => h.books k' c') (fun k' _ => h.absent k')
  | @refuses e r₀ w hw hnow' =>
    have hsaves := Store.saves h.holds r₀
    rw [hw] at hsaves
    refine ⟨hsound, hsaves.spares.holds, hread, fun k r hr => ?_, h.starts, h.nodup, h.books,
      h.absent⟩
    refine h.known k r (Store.loaded?_eq_some.mp ?_)
    rw [← hsaves.loaded_all k]
    exact Store.loaded?_eq_some.mpr hr

/-! ## What a restart keeps -/

/-- When a bot was closed, what can be loaded is what was to be kept of its chats. -/
theorem Recorded.load_iff {g : Setting} {s s' : Stage τ} {l : Ledger} (h : Recorded g s l)
    (hclose : close.run s = (.ok (), s')) (k : String) (r : ChatRecord) :
    g.store.load k s'.world.disk = .ok r ↔ ∃ c, s.bot.chat? k = some c ∧ c.record = r := by
  have hkeeps := close_ok h.sound.sorted h.sound.setting h.sound.ids h.holds hclose
  constructor
  · intro hr
    cases hc : s.bot.chat? k with
    | none =>
      rw [hkeeps.load_of_none h.sound.sorted hc] at hr
      have hknown := h.known k r hr
      rw [hc] at hknown
      cases hknown
    | some c =>
      rw [hkeeps.load_chat? hc, Except.ok.injEq] at hr
      exact ⟨c, rfl, hr⟩
  · rintro ⟨c, hc, rfl⟩
    exact hkeeps.load_chat? hc

/-- What a bot that was closed has kept is in place. -/
theorem Recorded.inPlace {g : Setting} {s s' : Stage τ} {l : Ledger} (h : Recorded g s l)
    (hclose : close.run s = (.ok (), s')) : InPlace g s'.world.disk := by
  intro k r hr
  obtain ⟨c, hc, rfl⟩ := (h.load_iff hclose k r).mp hr
  exact h.sound.ids k c hc

/-- What is kept on a disk is what the bot has, and every timer is done there if and only if it
has acted. -/
def Tells (g : Setting) (l : Ledger) (b : Bot) (d : Disk) : Prop :=
  (∀ k r, g.store.load k d = .ok r ↔ ∃ c, b.chat? k = some c ∧ c.record = r)
    ∧ ∀ k c, b.chat? k = some c → ∀ slot x, c.record.timers[slot]? = some x →
        (x.done = true ↔ (k, l.moves k + c.generation, slot) ∈ l.acted)

/-- What is kept when a bot is closed tells which timers have acted. -/
theorem Recorded.tells {g : Setting} {s s' : Stage τ} {l : Ledger} (h : Recorded g s l)
    (hclose : close.run s = (.ok (), s')) : Tells g l s.bot s'.world.disk := by
  refine ⟨h.load_iff hclose, fun k c hc slot x hx => ?_⟩
  rw [(h.books k c hc).agrees slot]
  constructor
  · intro hdone
    exact ⟨x, hx, hdone⟩
  · rintro ⟨y, hy, hdone⟩
    rw [hx, Option.some.injEq] at hy
    rw [hy]
    exact hdone

section

variable {g : Setting} {s s' : Stage τ} {l : Ledger} {w w' : World τ} {b : Bot}
  (h : Recorded g s l) (hclose : close.run s = (.ok (), s')) (hdisk : w.disk = s'.world.disk)
  (hstart : (start g).run w = (.ok b, w'))
include h hclose hdisk hstart

/-- The chats of a bot that was started again are those that the bot before it had. -/
theorem Recorded.chat?_restart {k : String} {c : Chat} (hc : b.chat? k = some c) :
    ∃ c₀ ticket, s.bot.chat? k = some c₀
      ∧ c = Chat.ofRecord g.scenario c₀.record w.now ticket := by
  obtain ⟨r, ticket, hr, rfl⟩ := load_of_chat?_start hstart hc
  rw [hdisk] at hr
  obtain ⟨c₀, hc₀, rfl⟩ := (h.load_iff hclose k r).mp hr
  exact ⟨c₀, ticket, hc₀, rfl⟩

theorem Recorded.isSome_chat?_restart {k : String} {c : Chat} (hc : s.bot.chat? k = some c) :
    (b.chat? k).isSome := by
  have hkeeps := close_ok h.sound.sorted h.sound.setting h.sound.ids h.holds hclose
  have hholds : g.store.Holds w.disk := hdisk ▸ hkeeps.holds
  refine isSome_chat?_start hstart hholds (r := c.record) ?_
  rw [hdisk]
  exact hkeeps.load_chat? hc

/-- **What a restart keeps.** -/
theorem Recorded.restart (hnow : Clock.IsReading w.now) : Recorded g ⟨b, w'⟩ (l.carry s.bot) := by
  have hkeeps := close_ok h.sound.sorted h.sound.setting h.sound.ids h.holds hclose
  obtain ⟨keys, -, hdisk', hnow', -, -, -⟩ := of_start hstart
  have hplace : InPlace g w.disk := hdisk ▸ h.inPlace hclose
  have habsent : ∀ k, b.chat? k = none → s.bot.chat? k = none := by
    intro k hk
    cases hc : s.bot.chat? k with
    | none => rfl
    | some c =>
      have hsome := h.isSome_chat?_restart hclose hdisk hstart hc
      rw [hk] at hsome
      cases hsome
  refine ⟨sound_start hplace hstart, ?_, ?_, fun k r hr => ?_, fun k c hc => ?_, h.nodup,
    fun k c hc => ?_, fun k hk => h.absent k (habsent k hk)⟩
  · show g.store.Holds w'.disk
    rw [hdisk', hdisk]
    exact hkeeps.holds
  · show Clock.IsReading w'.now
    rw [hnow']
    exact hnow
  · have hr' : g.store.load k s'.world.disk = .ok r := by
      rw [← hdisk, ← hdisk']
      exact hr
    obtain ⟨c, hc, -⟩ := (h.load_iff hclose k r).mp hr'
    exact h.isSome_chat?_restart hclose hdisk hstart hc
  · obtain ⟨c₀, ticket, hc₀, rfl⟩ := h.chat?_restart hclose hdisk hstart hc
    rcases Chat.timers_ofRecord_record (h.sound.timers k c₀ hc₀) w.now ticket with
      hsame | ⟨-, as, hfresh⟩
    · exact startsRead_of_states hsame (h.starts k c₀ hc₀)
    · exact startsRead_of_fresh hnow hfresh
  · obtain ⟨c₀, ticket, hc₀, rfl⟩ := h.chat?_restart hclose hdisk hstart hc
    exact (h.books k c₀ hc₀).carry hc₀ (h.sound.timers k c₀ hc₀) w.now ticket

end

section

variable [Transport τ] {g : Setting} {smooth : Prop}

/-- **What holds throughout a history.** -/
theorem History.recorded {s : Stage τ} {l : Ledger} (h : History g smooth s l) :
    Recorded g s l := by
  induction h with
  | @opened w w' b htree hempty hnow h =>
    obtain ⟨keys, -, hdisk, hnow', -, -, -⟩ := of_start h
    have hnone : ∀ k, b.chat? k = none := by
      intro k
      rw [← Option.not_isSome_iff_eq_none, Option.isSome_iff_exists]
      rintro ⟨c, hc⟩
      obtain ⟨r, -, hr, -⟩ := load_of_chat?_start h hc
      exact load_of_chats_nil htree hempty k r hr
    have hsome : ∀ k c, b.chat? k ≠ some c := by
      intro k c hc
      rw [hnone k] at hc
      cases hc
    refine ⟨sound_start (inPlace_of_chats_nil htree hempty) h, ?_, ?_, fun k r hr => ?_,
      fun k c hc => absurd hc (hsome k c), List.nodup_nil, fun k c hc => absurd hc (hsome k c),
      fun k _ m slot => List.not_mem_nil⟩
    · show g.store.Holds w'.disk
      rw [hdisk]
      exact Store.holds_of_chats htree hempty
    · show Clock.IsReading w'.now
      rw [hnow']
      exact hnow
    · have hr' : g.store.load k w.disk = .ok r := by
        rw [← hdisk]
        exact hr
      exact absurd hr' (load_of_chats_nil htree hempty k r)
  | done _ d hnow _ ih => exact ih.turn (turn_act ih.sound.sorted ih.sound.setting d) hnow
  | restarted _ hclose hdisk hnow hstart ih => exact ih.restart hclose hdisk hstart hnow

/-- What is written down while a row of deeds is done. -/
def through : List Deed → Stage τ → Ledger → Ledger
  | [], _, l => l
  | d :: ds, s, l => through ds (d.act.run s).2 (l.enter (d.taken? s.bot))

/-- A deed for which time need not pass, and nothing need come in. -/
def Deed.IsOwn : Deed → Prop
  | .receive _ => False
  | .pass _ => False
  | _ => True

/-- A history goes on with deeds of the bot's own. -/
theorem History.after {s : Stage τ} {l : Ledger} (h : History g smooth s l) {ds : List Deed}
    (hds : ∀ d ∈ ds, d.IsOwn) : History g smooth (after ds s) (through ds s l) := by
  induction ds generalizing s l with
  | nil => exact h
  | cons d ds ih =>
    have hown : d.IsOwn := hds d (List.mem_cons_self ..)
    refine ih (h.done d ?_ fun _ e he => ?_) fun e he => hds e (List.mem_cons_of_mem d he)
    · have hclock : d.clock s.world.now = s.world.now := by
        cases d with
        | pass t => exact absurd hown id
        | _ => rfl
      rw [hclock]
      exact h.recorded.now
    · rw [he] at hown
      exact absurd hown id

theorem isOwn_of_mem_drainDeeds {b : Bot} {d : Deed} (hd : d ∈ drainDeeds b) : d.IsOwn := by
  rcases List.mem_append.mp hd with hd | hd
  · rw [List.eq_of_mem_replicate hd]
    exact trivial
  · obtain ⟨n, -, rfl⟩ := List.mem_map.mp hd
    exact trivial

/-- A history goes on with the handling of what waits. -/
theorem History.drained {s : Stage τ} {l : Ledger} (h : History g smooth s l) :
    History g smooth (Bot.after (drainDeeds s.bot) s) (through (drainDeeds s.bot) s l) :=
  h.after fun _ hd => isOwn_of_mem_drainDeeds hd

end

theorem isReading_zero : Clock.IsReading 0 := by
  constructor <;> decide

/-- The first life, in which somebody has written to the bot. -/
theorem history_greeted (label : String)
    (hok : ((Deed.receive ⟨"42", "Hi", ⟨42, false, "Ann", none, none, none⟩, none⟩).act.run
      (⟨newBot (reminding label), newWorld⟩ : Stage Refusing)).1 = .ok ()) :
    History (reminding label) True (greeted label) Ledger.blank := by
  have hopened : History (reminding label) True ⟨newBot (reminding label), newWorld⟩
      Ledger.blank :=
    History.opened Disk.isTree_empty chats_newWorld isReading_zero (start_newWorld label)
  refine hopened.done (.receive ⟨"42", "Hi", ⟨42, false, "Ann", none, none, none⟩, none⟩)
    isReading_zero fun _ e he => ?_
  cases he
  exact hok

end Bot
end ScriptedChat
