import ScriptedChat.Proofs.Bot.Deeds

/-!
# The end of a bot

At its end a bot handles the notes that wait, keeps every chat, and gives up all timers.  The
chats are kept one after the other.  None of them is kept in the place of another one, so if
none of this failed, what is loaded for each of them is what was to be kept of it
(`Bot.Keeps`).

* `Bot.flush_ok`, `Bot.close_ok`: what is on the disk when the chats have been kept.
* `Bot.shutdown_run`: to end a bot is to do a row of deeds and to close it.
-/

namespace ScriptedChat
namespace Bot

variable {τ : Type}

/-- The chats that are on a disk are some chats: of each of them the record is there, and of
nobody else anything that was not there before. -/
structure Keeps (g : Setting) (chats : List (String × Chat)) (d d' : Disk) : Prop where
  holds : g.store.Holds d'
  load : ∀ p ∈ chats, g.store.load p.1 d' = .ok p.2.record
  others : ∀ k, k ∉ chats.map Prod.fst → g.store.load k d' = g.store.load k d

/-- Keeping one chat after the other. -/
theorem flush_cons (g : Setting) (p : String × Chat) (l : List (String × Chat)) (w : World τ) :
    flush g (p :: l) w
      = (firstFailure ((World.onDisk (g.store.save p.2.record)).run w).1
            (flush g l ((World.onDisk (g.store.save p.2.record)).run w).2).1,
          (flush g l ((World.onDisk (g.store.save p.2.record)).run w).2).2) := rfl

theorem firstFailure_eq_ok {r r' : Except EngineError Unit} :
    firstFailure r r' = .ok () ↔ r = .ok () ∧ r' = .ok () := by
  constructor
  · intro h
    cases r with
    | error e => cases h
    | ok _ => exact ⟨rfl, h⟩
  · rintro ⟨rfl, rfl⟩
    rfl

/-- **Chats that were kept are on the disk**, and nobody else has noticed. -/
theorem flush_ok {g : Setting} {l : List (String × Chat)} {w : World τ}
    (hw : g.store.Holds w.disk) (hids : ∀ p ∈ l, p.2.id = p.1)
    (hnodup : (l.map Prod.fst).Nodup) (h : (flush g l w).1 = .ok ()) :
    Keeps g l w.disk (flush g l w).2.disk := by
  induction l generalizing w with
  | nil => exact ⟨hw, fun _ hp => (by cases hp), fun _ _ => rfl⟩
  | cons p l ih =>
    obtain ⟨hp, hnodup'⟩ := List.nodup_cons.mp hnodup
    have hid : p.2.id = p.1 := hids p (List.mem_cons_self ..)
    obtain ⟨hspares, hload, -⟩ := Store.saves hw p.2.record
    rw [flush_cons, Chat.onWorldDisk_run] at h ⊢
    obtain ⟨hhere, hrest⟩ := firstFailure_eq_ok.mp h
    generalize (g.store.save p.2.record).run w.disk = r at hspares hload hhere hrest ⊢
    obtain ⟨e | _, d⟩ := r
    · cases hhere
    dsimp only at hrest hspares hload ⊢
    obtain ⟨hholds, hloads, hothers⟩ := ih (w := { w with disk := d }) hspares.holds
      (fun q hq => hids q (List.mem_cons_of_mem p hq)) hnodup' hrest
    refine ⟨hholds, fun q hq => ?_, fun k hk => ?_⟩
    · rcases List.mem_cons.mp hq with rfl | hq
      · rw [hothers q.1 hp, ← hid]
        exact hload rfl
      · exact hloads q hq
    · rw [List.map_cons, List.mem_cons, not_or] at hk
      have hne : k ≠ p.2.record.chatId := fun heq => hk.1 (heq.trans hid)
      rw [hothers k hk.2, hspares.others k hne]

/-- What closing a bot comes to. -/
theorem close_run (s : Stage τ) :
    close.run s
      = ((flush s.bot.setting s.bot.chats s.world).1,
          { bot := s.bot.stopAll, world := (flush s.bot.setting s.bot.chats s.world).2 }) := rfl

/-- **A bot that was closed has kept its chats**, if it could. -/
theorem close_ok {g : Setting} {s s' : Stage τ} (hs : Keyed.IsSorted s.bot.chats)
    (hg : s.bot.setting = g) (hids : ∀ k c, s.bot.chat? k = some c → c.id = k)
    (hw : g.store.Holds s.world.disk) (h : close.run s = (.ok (), s')) :
    Keeps g s.bot.chats s.world.disk s'.world.disk := by
  rw [close_run, hg] at h
  obtain ⟨hok, rfl⟩ := Prod.mk.inj h
  refine flush_ok hw (fun p hp => ?_) hs.nodup_keys hok
  exact hids p.1 p.2 ((Keyed.mem_iff_find? hs).mp hp)

/-- A chat that was kept is loaded under its key. -/
theorem Keeps.load_chat? {g : Setting} {b : Bot} {d d' : Disk} (h : Keeps g b.chats d d')
    {k : String} {c : Chat} (hc : b.chat? k = some c) : g.store.load k d' = .ok c.record :=
  h.load (k, c) (Keyed.mem_of_find? hc)

/-- What was not there is not kept. -/
theorem Keeps.load_of_none {g : Setting} {b : Bot} {d d' : Disk} (h : Keeps g b.chats d d')
    (hs : Keyed.IsSorted b.chats) {k : String} (hc : b.chat? k = none) :
    g.store.load k d' = g.store.load k d := by
  refine h.others k fun hk => ?_
  obtain ⟨p, hp, rfl⟩ := List.mem_map.mp hk
  have hfound := (Keyed.mem_iff_find? hs).mp hp
  rw [show Keyed.find? p.1 b.chats = none from hc] at hfound
  cases hfound

/-- To end a bot is to handle what waits, and to close it. -/
theorem shutdown_run [Transport τ] (s : Stage τ) :
    shutdown.run s = close.run (after (drainDeeds s.bot) s) := by
  have hlift : (ExceptT.lift drain : BotAction τ Unit).run s = (.ok (), (drain.run s).2) := rfl
  rw [shutdown, Action.run_bind_ok hlift, drain_run]

end Bot
end ScriptedChat
