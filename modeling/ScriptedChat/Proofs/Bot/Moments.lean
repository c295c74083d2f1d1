import ScriptedChat.Proofs.Bot.Ending
import ScriptedChat.Proofs.Bot.Life

/-!
# Every moment of a bot

A bot can be cut off at any moment, also in the middle of a deed.  What it leaves then is what is
on the disk, and the next bot starts from that.  So there is more to be said about than the stages
before and after deeds.

The moments in the middle of a deed are the stages between the small steps of the chat that is at
work (`Bot.SmallStep`).  Every deed comes about by small steps, and so does the closing of a bot.

## One life after the other

What can come after a stage is said across any number of starts (`Bot.Sequel`).  A bot may be
started again after every moment.  The next one may have another scenario, and the time may be
another one; only the store has to be the same, and nobody else may have touched it.  If a bot is
cut off while a file is written, then this write and all others after it were refused.  What the
disk will refuse in a life is not known before.

* `Bot.SmallStep`, `Bot.Passes`: small steps.
* `Bot.Turn.passes`, `Bot.passes_act`, `Bot.passes_close`: what comes about by small steps.
* `Bot.Sequel`: what can come after a stage.
-/

namespace ScriptedChat
namespace Bot

variable {τ : Type} {g : Setting}

/-! ## Small steps -/

/-- One small step of a bot. -/
inductive SmallStep (g : Setting) (s : Stage τ) : Stage τ → Prop where
  /-- Nobody does anything. -/
  | idle {t : Stage τ} (h : Idle s t) : SmallStep g s t
  /-- One chat does a small step. -/
  | goes {k : String} {c : Chat} {t : Scene τ} (hc : s.bot.chat? k = some c)
      (h : Chat.SmallStep g ⟨c, s.world⟩ t) : SmallStep g s (put s k t)
  /-- One chat takes up a note. -/
  | takes {n : Elapsed} {c : Chat} {t : ActionTimer} (hc : s.bot.chat? n.chat = some c)
      (ht : c.awaited? n = some t) :
      SmallStep g s (put s n.chat ⟨Chat.markHandled n.slot t c, s.world⟩)
  /-- A new chat is made. -/
  | greets {k : String} {ref : Option String} {w : World τ} (hk : s.bot.chat? k = none)
      (hw : (g.store.save (Chat.opening g.scenario k ref).record).run s.world.disk
        = (.ok (), w.disk)) :
      SmallStep g s (put s k ⟨Chat.opening g.scenario k ref, w⟩)
  /-- A new chat could not be kept, so it was not made. -/
  | refuses {r : ChatRecord} {e : StoreError} {w : World τ}
      (hw : (g.store.save r).run s.world.disk = (.error e, w.disk)) :
      SmallStep g s { s with world := w }
  /-- All timers are given up. -/
  | stops : SmallStep g s { s with bot := s.bot.stopAll }

/-- A stage comes to another one by small steps. -/
def Passes (g : Setting) : Stage τ → Stage τ → Prop := Relation.ReflTransGen (SmallStep g)

/-- To put one chat after the other under a key is to put the second one there. -/
theorem put_put (s : Stage τ) (k : String) (t u : Scene τ) : put (put s k t) k u = put s k u := by
  rw [put, put, put, withChat, withChat, withChat, Keyed.insert_insert]

/-- The small steps of a chat are small steps of its bot. -/
theorem passes_put (s : Stage τ) (k : String) {t u : Scene τ} (h : Chat.Passes g t u) :
    Passes g (put s k t) (put s k u) := by
  induction h with
  | refl => exact .refl
  | @tail v u _ hstep ih =>
    have hv : (put s k v).bot.chat? k = some v.chat := by rw [chat?_put, if_pos rfl]
    rw [← put_put s k v u]
    exact ih.tail (.goes hv hstep)

/-- **A turn comes about by small steps.** -/
theorem Turn.passes {s s' : Stage τ} (hs : Keyed.IsSorted s.bot.chats) {now : Int}
    {n : Option Elapsed} {r : Except EngineError Unit} (h : Turn g s now n r s') :
    Passes g s s' := by
  cases h with
  | idle hidle => exact .single (.idle hidle)
  | @goes _ k c w t hc hw hnow hgoes =>
    have hput : put { s with world := w } k ⟨c, w⟩ = { s with world := w } :=
      put_of_chat? (s := { s with world := w }) hs hc
    have hpasses := passes_put { s with world := w } k hgoes.passes
    rw [hput] at hpasses
    exact .head (.idle (Idle.of_world hs hw)) hpasses
  | @takes _ n c t u hc ht hgoes =>
    exact .head (.takes hc ht) (passes_put s n.chat hgoes.passes)
  | @greets _ k ref w t hk hw hnow hgoes hr =>
    exact .head (.greets hk hw) (passes_put s k hgoes.passes)
  | refuses hw hnow => exact .single (.refuses hw)

theorem passes_act [Transport τ] {s : Stage τ} (hs : Keyed.IsSorted s.bot.chats)
    (hg : s.bot.setting = g) (d : Deed) : Passes g s (d.act.run s).2 :=
  (turn_act hs hg d).passes hs

/-- Keeping the chats of a bot is done by small steps, and nothing else is different then. -/
theorem passes_flush {s : Stage τ} (hs : Keyed.IsSorted s.bot.chats) {l : List (String × Chat)}
    (hl : ∀ p ∈ l, s.bot.chat? p.1 = some p.2) :
    Passes g s { s with world := (flush g l s.world).2 } := by
  induction l generalizing s with
  | nil => exact .refl
  | cons p l ih =>
    have hp : s.bot.chat? p.1 = some p.2 := hl p (List.mem_cons_self ..)
    have hstep : SmallStep g s (put s p.1 ((Chat.save g).run ⟨p.2, s.world⟩).2) :=
      .goes hp .save
    have hput : put s p.1 ((Chat.save g).run ⟨p.2, s.world⟩).2
        = { s with world := ((World.onDisk (g.store.save p.2.record)).run s.world).2 } := by
      rw [Chat.save_run_snd, Chat.onWorldDisk_run_snd, put, withChat, Keyed.insert_of_find? hs hp]
    rw [hput] at hstep
    rw [flush_cons]
    exact .head hstep (ih hs fun q hq => hl q (List.mem_cons_of_mem p hq))

/-- **The closing of a bot comes about by small steps.** -/
theorem passes_close {s : Stage τ} (hs : Keyed.IsSorted s.bot.chats) (hg : s.bot.setting = g) :
    Passes g s (close.run s).2 := by
  rw [close_run, hg]
  refine .tail (passes_flush hs fun p hp => ?_) .stops
  exact (Keyed.mem_iff_find? hs).mp hp

/-! ## One life after the other -/

/-- What can come after a stage, some starts later. -/
inductive Sequel (st : Store) [Transport τ] (s : Stage τ) : Nat → Stage τ → Prop where
  | refl : Sequel st s 0 s
  /-- A deed has been done. -/
  | done {n : Nat} {t : Stage τ} (h : Sequel st s n t) (d : Deed) :
      Sequel st s n (d.act.run t).2
  /-- The bot has been closed. -/
  | closed {n : Nat} {t : Stage τ} (h : Sequel st s n t) : Sequel st s n (close.run t).2
  /-- A moment in the middle of a deed, or of the closing. -/
  | amid {n : Nat} {t u : Stage τ} (h : Sequel st s n t) (hu : SmallStep t.bot.setting t u) :
      Sequel st s n u
  /-- The bot is there no more, and another one has been started. -/
  | restarted {n : Nat} {t : Stage τ} {g : Setting} {w w' : World τ} {b : Bot}
      {refusals : List (Option Nat)} (h : Sequel st s n t) (hg : g.store = st)
      (hdisk : w.disk = { t.world.disk with refusals }) (hstart : (start g).run w = (.ok b, w')) :
      Sequel st s (n + 1) ⟨b, w'⟩

section

variable [Transport τ] {st : Store} {s t : Stage τ} {n : Nat}

/-- A row of deeds may come next. -/
theorem Sequel.after (h : Sequel st s n t) (ds : List Deed) : Sequel st s n (after ds t) := by
  induction ds generalizing t with
  | nil => exact h
  | cons d ds ih => exact ih (h.done d)

/-- The end of the bot may come next. -/
theorem Sequel.shutdown (h : Sequel st s n t) : Sequel st s n (shutdown.run t).2 := by
  rw [shutdown_run]
  exact (h.after (drainDeeds t.bot)).closed

end

end Bot
end ScriptedChat
