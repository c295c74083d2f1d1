import ScriptedChat.Proofs.Bot.Turn

/-!
# Rows of deeds

A bot that is awake does a lot at a time: it handles all notes that wait, shows a step to all
its chats, and does both whenever the clock stops.  All of this is a row of deeds, one after the
other (`Bot.after`), so that what is known of single deeds is known of it too.

An announcement to all chats is made of announcements to each of them.  It looks at the chats
once, before the first of them goes on; but no chat changes while another one goes on, so each of
them is found as it was.

* `Bot.AtWork`, `Bot.AtWork.turn`: what holds of a bot whatever it does.
* `Bot.after`: the stage after a row of deeds.
* `Bot.drain_run`, `Bot.broadcast_run`: the row that handles all notes, and the one that shows a
  step to all chats.
* `Bot.runUntil_deeds`: whatever a bot does while time passes is a row of deeds.
-/

namespace ScriptedChat
namespace Bot

variable {τ : Type}

/-- Across a turn the chats stay sorted, and the setting stays. -/
theorem Turn.kept {g : Setting} {s s' : Stage τ} {now : Int} {n : Option Elapsed}
    {r : Except EngineError Unit} (hs : Keyed.IsSorted s.bot.chats) (h : Turn g s now n r s') :
    Keyed.IsSorted s'.bot.chats ∧ s'.bot.setting = s.bot.setting := by
  cases h with
  | idle h => exact ⟨h.sorted, h.setting⟩
  | goes => exact ⟨sorted_put hs _ _, rfl⟩
  | takes => exact ⟨sorted_put hs _ _, rfl⟩
  | greets => exact ⟨sorted_put hs _ _, rfl⟩
  | refuses => exact ⟨hs, rfl⟩

/-- A bot at work in a setting: no key comes twice among its chats, and the store can be used. -/
structure AtWork (g : Setting) (s : Stage τ) : Prop where
  setting : s.bot.setting = g
  sorted : Keyed.IsSorted s.bot.chats
  holds : g.store.Holds s.world.disk

/-- **A bot at work stays so across a turn.** -/
theorem AtWork.turn {g : Setting} {s s' : Stage τ} {now : Int} {n : Option Elapsed}
    {r : Except EngineError Unit} (hs : AtWork g s) (h : Turn g s now n r s') : AtWork g s' := by
  obtain ⟨hsorted, hsetting⟩ := h.kept hs.sorted
  refine ⟨hsetting.trans hs.setting, hsorted, ?_⟩
  cases h with
  | idle h => exact h.disk ▸ hs.holds
  | goes _ hw _ h => exact (h.disk (hw ▸ hs.holds)).holds
  | takes _ _ h => exact (h.disk hs.holds).holds
  | @greets _ k ref w t _ hw _ h _ =>
    have hsaves := Store.saves hs.holds (Chat.opening g.scenario k ref).record
    rw [hw] at hsaves
    exact (h.disk hsaves.spares.holds).holds
  | @refuses e r w hw _ =>
    have hsaves := Store.saves hs.holds r
    rw [hw] at hsaves
    exact hsaves.spares.holds

/-- An action for each entry of a list, in a state. -/
theorem forM_run {σ α : Type} (f : α → StateM σ Unit) (l : List α) (s : σ) :
    (l.forM f : StateM σ Unit).run s = ((), l.foldl (fun s a => ((f a).run s).2) s) := by
  induction l generalizing s with
  | nil => rfl
  | cons a l ih =>
    have hrun : ((a :: l).forM f : StateM σ Unit).run s
        = (l.forM f : StateM σ Unit).run ((f a).run s).2 := rfl
    rw [hrun, ih, List.foldl_cons]

/-- What is done after looking at the state. -/
theorem get_bind_run {σ α : Type} (f : σ → StateM σ α) (s : σ) :
    (get >>= f : StateM σ α).run s = (f s).run s := rfl

/-- What is done after changing the state. -/
theorem modify_bind_run {σ α : Type} (f : σ → σ) (action : StateM σ α) (s : σ) :
    ((do modify f; action) : StateM σ α).run s = action.run (f s) := rfl

/-- What is done quietly is done all the same. -/
theorem quietly_run {α : Type} (action : BotAction τ α) (s : Stage τ) :
    (quietly action).run s = ((), (action.run s).2) := rfl

variable [Transport τ]

/-- The stage after some deeds, whether they failed or not. -/
def after (ds : List Deed) (s : Stage τ) : Stage τ := ds.foldl (fun s d => (d.act.run s).2) s

theorem after_cons (d : Deed) (ds : List Deed) (s : Stage τ) :
    after (d :: ds) s = after ds (d.act.run s).2 := rfl

theorem after_append (ds es : List Deed) (s : Stage τ) :
    after (ds ++ es) s = after es (after ds s) := List.foldl_append

/-- After some deeds the chats are sorted, and the setting is what it was. -/
theorem after_kept {s : Stage τ} (hs : Keyed.IsSorted s.bot.chats) (ds : List Deed) :
    Keyed.IsSorted (after ds s).bot.chats ∧ (after ds s).bot.setting = s.bot.setting := by
  induction ds generalizing s with
  | nil => exact ⟨hs, rfl⟩
  | cons d ds ih =>
    obtain ⟨hsorted, hsetting⟩ := (turn_act hs rfl d).kept hs
    obtain ⟨hsorted', hsetting'⟩ := ih hsorted
    exact ⟨hsorted', hsetting'.trans hsetting⟩

theorem AtWork.act {g : Setting} {s : Stage τ} (h : AtWork g s) (d : Deed) :
    AtWork g (d.act.run s).2 := h.turn (turn_act h.sorted h.setting d)

/-- A bot at work stays so whatever is done. -/
theorem AtWork.after {g : Setting} {s : Stage τ} (h : AtWork g s) (ds : List Deed) :
    AtWork g (after ds s) := by
  induction ds generalizing s with
  | nil => exact h
  | cons d ds ih => exact ih (h.act d)

/-! ## Handling what waits -/

/-- All notes are taken off the queue. -/
theorem after_take (s : Stage τ) :
    after (List.replicate s.bot.queue.length .take) s
      = { s with bot := { s.bot with queue := [] } } := by
  obtain ⟨⟨setting, chats, queue, schedule, announced⟩, world⟩ := s
  dsimp only
  induction queue with
  | nil => rfl
  | cons n queue ih =>
    rw [List.length_cons, List.replicate_succ, after_cons]
    exact ih

/-- All announcements are taken off their list. -/
theorem after_takeAnnouncement (s : Stage τ) :
    after (List.replicate s.bot.announced.length .takeAnnouncement) s
      = { s with bot := { s.bot with announced := [] } } := by
  obtain ⟨⟨setting, chats, queue, schedule, announced⟩, world⟩ := s
  dsimp only
  induction announced with
  | nil => rfl
  | cons n announced ih =>
    rw [List.length_cons, List.replicate_succ, after_cons]
    exact ih

/-- The deeds that handle the notes that wait. -/
def drainDeeds (b : Bot) : List Deed := List.replicate b.queue.length .take ++ b.queue.map .note

/-- **To handle what waits** is to take the notes off the queue and handle them one by one. -/
theorem drain_run (s : Stage τ) : drain.run s = ((), after (drainDeeds s.bot) s) := by
  rw [drain, get_bind_run]
  dsimp only
  rw [modify_bind_run, forM_run, drainDeeds, after_append, after_take, after, List.foldl_map]
  simp only [quietly_run, Deed.act]

/-! ## Announcing -/

/-- The chats of a list are shown a step, each as it is. -/
theorem foldl_goTo {g : Setting} (step : String) (l : List (String × Chat)) {s : Stage τ}
    (hs : s.bot.setting = g) (hl : ∀ p ∈ l, s.bot.chat? p.1 = some p.2)
    (hnodup : (l.map Prod.fst).Nodup) :
    l.foldl (fun s p => ((quietly (onChat p.1 p.2 (Chat.goTo g step))).run s).2) s
      = after (l.map fun p => .announce p.1 step) s := by
  induction l generalizing s with
  | nil => rfl
  | cons p l ih =>
    obtain ⟨hp, hnodup'⟩ := List.nodup_cons.mp hnodup
    have hfound : s.bot.chat? p.1 = some p.2 := hl p (List.mem_cons_self ..)
    have hact : ((Deed.announce p.1 step).act.run s).2
        = put s p.1 ((Chat.goTo g step).run ⟨p.2, s.world⟩).2 := by
      rw [Deed.act, Action.run_get_bind]
      dsimp only
      rw [hfound]
      dsimp only
      rw [onChat_run, hs]
    have hquietly : ((quietly (onChat p.1 p.2 (Chat.goTo g step))).run s).2
        = put s p.1 ((Chat.goTo g step).run ⟨p.2, s.world⟩).2 := by
      rw [quietly_run, onChat_run]
    rw [List.foldl_cons, List.map_cons, after_cons, hact, hquietly]
    refine ih hs (fun q hq => ?_) hnodup'
    -- The chat that has just been shown the step is none of those that are left.
    rw [chat?_put, if_neg, hl q (List.mem_cons_of_mem p hq)]
    intro hkey
    exact hp (hkey ▸ List.mem_map_of_mem hq)

/-- **To show a step to all chats** is to show it to one after the other. -/
theorem broadcast_run {s : Stage τ} (hs : Keyed.IsSorted s.bot.chats) (step : String) :
    (broadcast step).run s
      = ((), after (s.bot.chats.map fun p => .announce p.1 step) s) := by
  rw [broadcast, get_bind_run]
  dsimp only
  rw [forM_run, foldl_goTo step s.bot.chats rfl]
  · intro p hp
    exact (Keyed.mem_iff_find? hs).mp hp
  · exact hs.nodup_keys

/-- To show the steps that were announced is a row of deeds. -/
theorem showAnnounced_deeds {s : Stage τ} (hs : Keyed.IsSorted s.bot.chats) :
    ∃ ds, (showAnnounced.run s).2 = after ds s := by
  have hrow : ∀ (steps : List String) (t : Stage τ), Keyed.IsSorted t.bot.chats →
      ∃ ds, steps.foldl (fun t step => ((broadcast step).run t).2) t = after ds t := by
    intro steps
    induction steps with
    | nil => exact fun t _ => ⟨[], rfl⟩
    | cons step steps ih =>
      intro t ht
      rw [List.foldl_cons, broadcast_run ht]
      obtain ⟨ds, hds⟩ := ih _ (after_kept ht _).1
      exact ⟨_, hds.trans (after_append _ ds t).symm⟩
  obtain ⟨ds, hds⟩ := hrow s.bot.announced { s with bot := { s.bot with announced := [] } } hs
  rw [showAnnounced, get_bind_run]
  dsimp only
  rw [modify_bind_run, forM_run, hds, ← after_takeAnnouncement, ← after_append]
  exact ⟨_, rfl⟩

/-! ## While time passes -/

theorem settle_deeds {s : Stage τ} (hs : Keyed.IsSorted s.bot.chats) :
    ∃ ds, (settle.run s).2 = after ds s := by
  have hrun : settle.run s = showAnnounced.run (drain.run s).2 := rfl
  rw [hrun, drain_run]
  obtain ⟨ds, hds⟩ := showAnnounced_deeds (after_kept hs (drainDeeds s.bot)).1
  exact ⟨_, hds.trans (after_append _ ds s).symm⟩

/-- **Whatever a bot does while time passes is a row of deeds.** -/
theorem runUntil_deeds {s : Stage τ} (hs : Keyed.IsSorted s.bot.chats) (limit : Int) :
    ∃ ds, runUntil limit s = after ds s := by
  have hrow : ∀ (fuel : Nat) (t : Stage τ), Keyed.IsSorted t.bot.chats →
      ∃ ds, runFor fuel limit t = after ds t := by
    intro fuel
    induction fuel with
    | zero => exact fun t _ => ⟨[.pass limit], rfl⟩
    | succ fuel ih =>
      intro t ht
      rw [runFor]
      split
      · exact ⟨[.pass limit], rfl⟩
      · rename_i stop _
        obtain ⟨ds, hds⟩ := settle_deeds (idle_passTo ht stop).sorted
        have hsorted : Keyed.IsSorted (settle.run (passTo stop t)).2.bot.chats := by
          rw [hds]
          exact (after_kept (idle_passTo ht stop).sorted ds).1
        obtain ⟨es, hes⟩ := ih (settle.run (passTo stop t)).2 hsorted
        refine ⟨.pass stop :: (ds ++ es), ?_⟩
        rw [after_cons, after_append]
        have hpass : ((Deed.pass stop).act.run t).2 = passTo stop t := rfl
        rw [hpass, ← hds]
        exact hes
  exact hrow _ s hs

end Bot
end ScriptedChat
