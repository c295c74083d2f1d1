import ScriptedChat.Proofs.Bot.Moments
import ScriptedChat.Proofs.Bot.Tickets

/-!
# A bot at work

From its start until it is closed a bot is at work: it does one deed after the other.  What is to
be said about every moment of this time, also in the middle of a deed, is said about small steps
(`Bot.Works`).  They are those of `Bot.SmallStep`, but here it is said exactly what happens while
no chat does anything, so that the notes that wait can be followed from one moment to the next.

* `Bot.Works`, `Bot.Works.smallStep`: small steps.
* `Bot.Works.queue`: where a note comes from.
* `Bot.works_act`: every deed comes about by small steps.
* `Bot.Meanwhile`, `Bot.Meanwhile.works`: what can come after a moment while the bot is at work.
-/

namespace ScriptedChat
namespace Bot

variable {τ : Type} {g : Setting} {s t u : Stage τ}

/-! ## Small steps -/

/-- One small step of a bot that is at work. -/
inductive Works (g : Setting) [Transport τ] (s : Stage τ) : Stage τ → Prop where
  /-- A deed is done that is for no chat. -/
  | unattended {d : Deed} (hd : d.chat? = none) : Works g s (d.act.run s).2
  /-- The press of a button is answered. -/
  | answers (press : Option String) : Works g s { s with world := answered press s.world }
  /-- One chat does a small step. -/
  | goes {k : String} {c : Chat} {v : Scene τ} (hc : s.bot.chat? k = some c)
      (h : Chat.SmallStep g ⟨c, s.world⟩ v) : Works g s (put s k v)
  /-- One chat takes up a note. -/
  | takes {n : Elapsed} {c : Chat} {x : ActionTimer} (hc : s.bot.chat? n.chat = some c)
      (hx : c.awaited? n = some x) :
      Works g s (put s n.chat ⟨Chat.markHandled n.slot x c, s.world⟩)
  /-- A new chat is made. -/
  | greets {k : String} {ref : Option String} {w : World τ} (hk : s.bot.chat? k = none)
      (hw : (g.store.save (Chat.opening g.scenario k ref).record).run s.world.disk
        = (.ok (), w.disk)) :
      Works g s (put s k ⟨Chat.opening g.scenario k ref, w⟩)
  /-- A new chat could not be kept, so it was not made. -/
  | refuses {r : ChatRecord} {e : StoreError} {w : World τ}
      (hw : (g.store.save r).run s.world.disk = (.error e, w.disk)) :
      Works g s { s with world := w }

/-- What can come after a moment while a bot is at work. -/
inductive Meanwhile (g : Setting) [Transport τ] (s : Stage τ) : Stage τ → Prop where
  | refl : Meanwhile g s s
  /-- A deed has been done. -/
  | done {t : Stage τ} (h : Meanwhile g s t) (d : Deed) : Meanwhile g s (d.act.run t).2
  /-- A moment in the middle of a deed. -/
  | amid {t u : Stage τ} (h : Meanwhile g s t) (hu : Works g t u) : Meanwhile g s u

section

variable [Transport τ]

/-- While a deed is done that is for no chat, nobody does anything. -/
theorem idle_unattended (hs : Keyed.IsSorted s.bot.chats) {d : Deed} (hd : d.chat? = none) :
    Idle s (d.act.run s).2 := by
  cases d with
  | take =>
    exact Idle.of_queue (b := { s.bot with queue := s.bot.queue.tail }) hs rfl rfl
      fun n => List.mem_of_mem_tail
  | takeAnnouncement =>
    exact Idle.of_queue (b := { s.bot with announced := s.bot.announced.tail }) hs rfl rfl
      fun n hn => hn
  | ring key slot => exact idle_ringOne hs key slot
  | pass t => exact idle_passTo hs t
  | _ => cases hd

/-- What is different while no chat does anything is left open in the small steps of
`Bot.SmallStep`. -/
theorem Works.smallStep (h : Works g s t) (hs : Keyed.IsSorted s.bot.chats) : SmallStep g s t := by
  cases h with
  | unattended hd => exact .idle (idle_unattended hs hd)
  | answers press => exact .idle (Idle.of_world hs (disk_answered press s.world))
  | goes hc h => exact .goes hc h
  | takes hc hx => exact .takes hc hx
  | greets hk hw => exact .greets hk hw
  | refuses hw => exact .refuses hw

theorem Works.kept (h : Works g s t) (hs : Keyed.IsSorted s.bot.chats) :
    Keyed.IsSorted t.bot.chats ∧ t.bot.setting = s.bot.setting := by
  cases h with
  | @unattended d hd =>
    have hidle := idle_unattended hs hd
    exact ⟨hidle.sorted, hidle.setting⟩
  | answers press => exact ⟨hs, rfl⟩
  | goes hc h => exact ⟨sorted_put hs _ _, rfl⟩
  | takes hc hx => exact ⟨sorted_put hs _ _, rfl⟩
  | greets hk hw => exact ⟨sorted_put hs _ _, rfl⟩
  | refuses hw => exact ⟨hs, rfl⟩

/-! ## Where a note comes from -/

omit [Transport τ] in
/-- The notes that are left while time passes are of timers of the chats. -/
theorem timer_of_mem_ringingNotes {b : Bot} (hb : Keyed.IsSorted b.chats) {now : Int} {n : Elapsed}
    (hn : n ∈ b.ringingNotes now) :
    ∃ k c slot, b.chat? k = some c ∧ n = c.note slot ∧ slot < c.timers.length := by
  obtain ⟨x, hx, rfl⟩ := List.mem_map.mp hn
  rw [(List.mergeSort_perm _ _).mem_iff, List.mem_flatMap] at hx
  obtain ⟨⟨k, c⟩, hp, hx⟩ := hx
  obtain ⟨slot, halarm, hnote⟩ := Chat.mem_ringing hx
  obtain ⟨y, hy, -⟩ := Option.bind_eq_some_iff.mp halarm
  exact ⟨k, c, slot, (Keyed.mem_iff_find? hb).mp hp, hnote, (List.getElem?_eq_some_iff.mp hy).1⟩

/-- **A note that waits has waited before, or it has just been left by a timer** of a chat that is
there. -/
theorem Works.queue (h : Works g s t) (hs : Keyed.IsSorted s.bot.chats) {n : Elapsed}
    (hn : n ∈ t.bot.queue) :
    n ∈ s.bot.queue
      ∨ ∃ k c slot, s.bot.chat? k = some c ∧ n = c.note slot ∧ slot < c.timers.length := by
  cases h with
  | @unattended d hd =>
    cases d with
    | take => exact Or.inl (List.mem_of_mem_tail hn)
    | takeAnnouncement => exact Or.inl hn
    | ring key slot =>
      have hn' : n ∈ (s.bot.ringOne key slot).queue := hn
      rw [ringOne_eq hs] at hn'
      cases hc : s.bot.chat? key with
      | none =>
        rw [hc] at hn'
        exact Or.inl hn'
      | some c =>
        rw [hc] at hn'
        refine (List.mem_append.mp hn').imp_right fun hn => ?_
        exact ⟨key, c, slot, hc, mem_ringAt hn⟩
    | pass t => exact (List.mem_append.mp hn).imp_right fun hn => timer_of_mem_ringingNotes hs hn
    | _ => cases hd
  | answers press => exact Or.inl hn
  | goes hc h => exact Or.inl hn
  | takes hc hx => exact Or.inl hn
  | greets hk hw => exact Or.inl hn
  | refuses hw => exact Or.inl hn

/-! ## Every deed comes about by small steps -/

/-- What a chat that is there goes through, its bot goes through. -/
theorem works_put (hs : Keyed.IsSorted s.bot.chats) {k : String} {c : Chat}
    (hc : s.bot.chat? k = some c) {v : Scene τ} (h : Chat.Passes g ⟨c, s.world⟩ v) :
    Relation.ReflTransGen (Works g) s (put s k v) := by
  induction h with
  | refl =>
    rw [put_of_chat? hs hc]
  | @tail v v' _ hstep ih =>
    have hv : (put s k v).bot.chat? k = some v.chat := by rw [chat?_put, if_pos rfl]
    rw [← put_put s k v v']
    exact ih.tail (.goes hv hstep)

/-- Something comes in. -/
theorem works_receive (hs : Keyed.IsSorted s.bot.chats) (hg : s.bot.setting = g) (e : Inbound) :
    Relation.ReflTransGen (Works g) s ((Deed.receive e).act.run s).2 := by
  have hanswers : Works g s { s with world := answered e.press s.world } := .answers e.press
  rw [act_run hs hg rfl]
  by_cases he : Text.trim e.text.toList = []
  · rw [deal_of_blank g he, Plot.answered, place_plot hs]
    exact .single hanswers
  refine .head hanswers ?_
  rw [plot]
  cases hc : s.bot.chat? e.chat with
  | some c =>
    rw [deal_of_known g he]
    exact works_put (s := { s with world := answered e.press s.world }) hs hc
      ((Chat.isCourse_goesOn g).respond (said e) _).passes
  | none =>
    rw [deal_of_unseen g he, Chat.create_run]
    rcases hsave : (g.store.save (Chat.opening g.scenario e.chat (referral? (said e))).record).run
        (answered e.press s.world).disk with ⟨e' | _, d⟩
    · exact .single (.refuses hsave)
    · refine .head
        (.greets (k := e.chat) (w := { answered e.press s.world with disk := d }) hc hsave) ?_
      -- The new chat is there, and goes on from the world in which it was kept.
      have hpasses := ((Chat.isCourse_goesOn g).welcome (said e) e.sender
        ⟨Chat.opening g.scenario e.chat (referral? (said e)),
          { answered e.press s.world with disk := d }⟩).passes
      have hworks := works_put (sorted_put (s := { s with world := answered e.press s.world }) hs
        e.chat ⟨Chat.opening g.scenario e.chat (referral? (said e)),
          { answered e.press s.world with disk := d }⟩) (by rw [chat?_put, if_pos rfl]) hpasses
      rw [put_put] at hworks
      exact hworks

/-- **Every deed comes about by small steps.** -/
theorem works_act (hs : Keyed.IsSorted s.bot.chats) (hg : s.bot.setting = g) (d : Deed) :
    Relation.ReflTransGen (Works g) s (d.act.run s).2 := by
  cases d with
  | receive e => exact works_receive hs hg e
  | note n =>
    cases ha : s.bot.awaited? n with
    | none =>
      rw [Deed.act, handleNote_of_void hs ha]
    | some x =>
      obtain ⟨c, hc, hx⟩ := Option.bind_eq_some_iff.mp ha
      rw [Deed.act, handleNote_run, hc]
      dsimp only
      rw [onChat_run, hg]
      have hpasses := (Chat.goesOn_handleNote (g := g) (s := ⟨c, s.world⟩) hx).passes
      have hworks := works_put (sorted_put hs n.chat ⟨Chat.markHandled n.slot x c, s.world⟩)
        (by rw [chat?_put, if_pos rfl]) hpasses
      rw [put_put] at hworks
      exact .head (.takes hc hx) hworks
  | announce key step =>
    rw [Deed.act, Action.run_get_bind]
    dsimp only
    cases hc : s.bot.chat? key with
    | none => exact .refl
    | some c =>
      dsimp only
      rw [onChat_run, hg]
      exact works_put hs hc ((Chat.isCourse_goesOn g).goTo step _).passes
  | take => exact .single (.unattended rfl)
  | takeAnnouncement => exact .single (.unattended rfl)
  | ring key slot => exact .single (.unattended rfl)
  | pass t => exact .single (.unattended rfl)

/-! ## While a bot is at work -/

theorem Meanwhile.of_works (h : Relation.ReflTransGen (Works g) s t) : Meanwhile g s t := by
  induction h with
  | refl => exact .refl
  | tail _ hstep ih => exact ih.amid hstep

theorem Meanwhile.trans (h : Meanwhile g s t) (h' : Meanwhile g t u) : Meanwhile g s u := by
  induction h' with
  | refl => exact h
  | done _ d ih => exact ih.done d
  | amid _ hu ih => exact ih.amid hu

/-- A row of deeds may come next. -/
theorem Meanwhile.after (h : Meanwhile g s t) (ds : List Deed) : Meanwhile g s (after ds t) := by
  induction ds generalizing t with
  | nil => exact h
  | cons d ds ih => exact ih (h.done d)

theorem works_kept (h : Relation.ReflTransGen (Works g) s t) (hs : Keyed.IsSorted s.bot.chats) :
    Keyed.IsSorted t.bot.chats ∧ t.bot.setting = s.bot.setting := by
  induction h with
  | refl => exact ⟨hs, rfl⟩
  | tail _ hstep ih =>
    obtain ⟨hsorted, hsetting⟩ := ih
    exact (hstep.kept hsorted).imp_right fun h => h.trans hsetting

/-- **What comes after a moment while a bot is at work comes about by small steps.** -/
theorem Meanwhile.works (h : Meanwhile g s t) (hs : Keyed.IsSorted s.bot.chats)
    (hg : s.bot.setting = g) : Relation.ReflTransGen (Works g) s t := by
  induction h with
  | refl => exact .refl
  | done _ d ih =>
    obtain ⟨hsorted, hsetting⟩ := works_kept ih hs
    exact ih.trans (works_act hsorted (hsetting.trans hg) d)
  | amid _ hu ih => exact ih.tail hu

end

end Bot
end ScriptedChat
