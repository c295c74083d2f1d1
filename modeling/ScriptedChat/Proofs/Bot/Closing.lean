import ScriptedChat.Proofs.Bot.Reachability
import ScriptedChat.Proofs.Bot.Single
import ScriptedChat.Proofs.Bot.Working
import ScriptedChat.Proofs.Store.Cutoff

/-!
# Ending a bot, whatever fails

At its end a bot handles the notes that wait, keeps every chat, and gives up all timers.  Any of
this may fail for some of the chats, and the others are served all the same.

## Handling what waits

While the notes are handled, stopwatches may still ring, and the notes that they leave are handled
in their turn (`Bot.Drains`).  Every note finds its chat and is spent then (`Bot.Drained`).  That
all notes are taken off the queue before the first one is handled makes no difference, as long as
no stopwatch rings in between (`Bot.drains_drain`).

## Keeping the chats

What came of keeping each chat is listed (`Bot.keptEach`).  The chats may be kept in any order, and
whichever of the writes are refused, the file of a chat depends on what came of keeping this chat
and on nothing else (`Bot.ClosesAll`).

* `Bot.Drains`, `Bot.Drains.drained`: the notes that wait, and those that are left meanwhile.
* `Bot.keptEach`, `Bot.file?_flush`: what came of keeping each chat.
* `Bot.closeIn`, `Bot.closesAll_closeIn`: keeping all chats, in any order.
* `Bot.shutdown_serves_every_chat`: the whole end.
* `Bot.misplaced_note_is_dropped`: a record in a directory that is not the one of its chat.
-/

namespace ScriptedChat
namespace Bot

variable {τ : Type} {g : Setting}

/-! ## What the clock does -/

/-- The deed is done by the clock: a stopwatch rings, or time passes. -/
def Deed.IsClockwork : Deed → Prop
  | .ring _ _ => True
  | .pass _ => True
  | _ => False

section

variable [Transport τ]

/-- What the clock does adds to the notes that wait. -/
theorem queue_clockwork {s : Stage τ} (h : Sound g s.bot) {ds : List Deed}
    (hds : ∀ d ∈ ds, d.IsClockwork) : s.bot.queue <+: (after ds s).bot.queue := by
  induction ds generalizing s with
  | nil => exact List.prefix_rfl
  | cons d ds ih =>
    have hfirst : s.bot.queue <+: (d.act.run s).2.bot.queue := by
      cases d with
      | ring key slot =>
        show s.bot.queue <+: (s.bot.ringOne key slot).queue
        rw [ringOne_eq h.sorted]
        cases s.bot.chat? key with
        | none => exact List.prefix_rfl
        | some c => exact List.prefix_append _ _
      | pass t => exact List.prefix_append _ _
      | _ => exact (hds _ List.mem_cons_self).elim
    rw [after_cons]
    exact hfirst.trans (ih (h.act d) fun d hd => hds d (List.mem_cons_of_mem _ hd))

/-- No deed makes a chat, unless something comes in. -/
theorem isSome_chat?_act_of_not_receive {s : Stage τ} (h : Sound g s.bot) {d : Deed}
    (hd : ∀ e, d ≠ .receive e) (k : String) :
    ((d.act.run s).2.bot.chat? k).isSome = (s.bot.chat? k).isSome := by
  cases hkey : d.chat? with
  | none =>
    have hidle := idle_unattended h.sorted hkey
    cases hc : s.bot.chat? k with
    | none => rw [hidle.absent k hc]
    | some c =>
      obtain ⟨c', hc', -⟩ := hidle.present k c hc
      rw [hc']
      rfl
  | some key =>
    rw [chat?_act h.sorted h.setting hkey]
    split
    · rename_i hk
      subst hk
      have hvisit : ∀ x, ((plot s k).visit x).2.chat.isSome = (s.bot.chat? k).isSome := by
        intro x
        rw [Plot.visit, plot]
        cases s.bot.chat? k <;> rfl
      cases d with
      | receive e => exact absurd rfl (hd e)
      | note n => exact hvisit _
      | announce key step => exact hvisit _
      | _ => cases hkey
    · rfl

theorem isSome_chat?_after_of_not_receive {s : Stage τ} (h : Sound g s.bot) {ds : List Deed}
    (hds : ∀ d ∈ ds, ∀ e, d ≠ .receive e) (k : String) :
    ((after ds s).bot.chat? k).isSome = (s.bot.chat? k).isSome := by
  induction ds generalizing s with
  | nil => rfl
  | cons d ds ih =>
    rw [after_cons, ih (h.act d) fun d hd => hds d (List.mem_cons_of_mem _ hd),
      isSome_chat?_act_of_not_receive h (hds d List.mem_cons_self)]

/-! ## Handling what waits -/

/-- The notes that wait are handled in the order in which they were left, until none waits.  After
each of them stopwatches may ring, and time may pass.  It is said which notes have been handled. -/
inductive Drains : Stage τ → List Elapsed → Stage τ → Prop where
  /-- No note waits. -/
  | done {s : Stage τ} (h : s.bot.queue = []) : Drains s [] s
  /-- The first note is handled, whether it fails or not. -/
  | next {s t : Stage τ} {n : Elapsed} {rest ns : List Elapsed} {ds : List Deed}
      (h : s.bot.queue = n :: rest) (hds : ∀ d ∈ ds, d.IsClockwork)
      (hrest : Drains (after (.take :: .note n :: ds) s) ns t) : Drains s (n :: ns) t

/-- What it comes to that some notes have been handled: none waits any more, those that waited were
the first ones, no chat has come or gone, and every note has found its chat and is spent. -/
structure Drained (g : Setting) (s : Stage τ) (ns : List Elapsed) (t : Stage τ) : Prop where
  sound : Sound g t.bot
  holds : g.store.Holds t.world.disk
  queue : t.bot.queue = []
  waited : s.bot.queue <+: ns
  chats : ∀ k, (t.bot.chat? k).isSome = (s.bot.chat? k).isSome
  onward : ∀ k c, s.bot.chat? k = some c → ∃ c', t.bot.chat? k = some c' ∧ Onward c c'
  spent : ∀ n ∈ ns, ∃ c, t.bot.chat? n.chat = some c ∧ c.id = n.chat ∧ c.IsSpent n

/-- **Every note is handled by its chat**, those that are left meanwhile too. -/
theorem Drains.drained {s t : Stage τ} {ns : List Elapsed} (h : Drains s ns t)
    (hs : Sound g s.bot) (hw : g.store.Holds s.world.disk) : Drained g s ns t := by
  induction h with
  | done h =>
    exact ⟨hs, hw, h, h ▸ List.prefix_rfl, fun _ => rfl, fun _ c hc => ⟨c, hc, Onward.refl c⟩,
      fun n hn => absurd hn List.not_mem_nil⟩
  | @next s t n rest ns ds hqueue hds _ ih =>
    -- The note is taken off the queue, then it is handled, then the clock goes on.
    let taken : Stage τ := (Deed.take.act.run s).2
    let handled : Stage τ := ((handleNote n).run taken).2
    have htaken : Sound g taken.bot := hs.act .take
    have hhandled : Sound g handled.bot := htaken.act (.note n)
    have hholds : g.store.Holds (after (.take :: .note n :: ds) s).world.disk :=
      (AtWork.after ⟨hs.setting, hs.sorted, hw⟩ _).holds
    obtain ⟨hsound', hholds', hempty, hwaited, hchats, honward, hspent⟩ :=
      ih (hhandled.after ds) hholds
    refine ⟨hsound', hholds', hempty, ?_, fun k => ?_, fun k c hc => ?_, fun m hm => ?_⟩
    · have hqueue' : handled.bot.queue = rest := by
        show ((Deed.note n).act.run taken).2.bot.queue = rest
        rw [queue_act htaken.sorted htaken.setting rfl]
        show s.bot.queue.tail = rest
        rw [hqueue]
        rfl
      have hrest : rest <+: ns := hqueue' ▸ (queue_clockwork hhandled hds).trans hwaited
      rw [hqueue]
      exact (List.prefix_cons_inj n).mpr hrest
    · rw [hchats]
      refine isSome_chat?_after_of_not_receive hs (fun d hd e heq => ?_) k
      subst heq
      rcases List.mem_cons.mp hd with hd | hd
      · cases hd
      rcases List.mem_cons.mp hd with hd | hd
      · cases hd
      · exact hds _ hd
    · obtain ⟨c₁, hc₁, h₁⟩ := hs.onward_after (.take :: .note n :: ds) hc
      obtain ⟨c₂, hc₂, h₂⟩ := honward k c₁ hc₁
      exact ⟨c₂, hc₂, h₁.trans h₂⟩
    · rcases List.mem_cons.mp hm with rfl | hm
      · obtain ⟨c, hc, hle⟩ := hs.queue m (hqueue ▸ List.mem_cons_self)
        obtain ⟨c₁, hc₁, hspent₁⟩ := htaken.isSpent_handleNote (n := m) hc hle
        obtain ⟨c₂, hc₂, h₂⟩ := hhandled.onward_after ds hc₁
        obtain ⟨c₃, hc₃, h₃⟩ := honward m.chat c₂ hc₂
        exact ⟨c₃, hc₃, hsound'.ids _ c₃ hc₃, h₃.isSpent m (h₂.isSpent m hspent₁)⟩
      · exact hspent m hm

/-- The stage with other notes that wait. -/
def queued (ns : List Elapsed) (s : Stage τ) : Stage τ :=
  { s with bot := { s.bot with queue := ns } }

/-- What a note does has nothing to do with those that wait. -/
theorem handleNote_queued (n : Elapsed) (ns : List Elapsed) (s : Stage τ) :
    ((handleNote n).run (queued ns s)).2 = queued ns ((handleNote n).run s).2 := by
  have hchat : (queued ns s).bot.chat? n.chat = s.bot.chat? n.chat := rfl
  rw [handleNote_run, handleNote_run, hchat]
  cases s.bot.chat? n.chat <;> rfl

theorem after_notes_queued (ms ns : List Elapsed) (s : Stage τ) :
    after (ms.map .note) (queued ns s) = queued ns (after (ms.map .note) s) := by
  induction ms generalizing s with
  | nil => rfl
  | cons m ms ih =>
    rw [List.map_cons, after_cons, after_cons, ← ih]
    exact congrArg _ (handleNote_queued m ns s)

/-- **To handle what waits is one way to do so**: the one in which no stopwatch rings in between. -/
theorem drains_drain (s : Stage τ) : Drains s s.bot.queue (drain.run s).2 := by
  have hrow : ∀ (ns : List Elapsed) (s : Stage τ), s.bot.queue = ns →
      Drains s ns (queued [] (after (ns.map .note) s)) := by
    intro ns
    induction ns with
    | nil =>
      intro s hs
      have hsame : queued [] s = s := by rw [queued, ← hs]
      rw [List.map_nil, after, List.foldl_nil, hsame]
      exact .done hs
    | cons n ns ih =>
      intro s hs
      have hfirst : after [.take, .note n] s = queued ns ((handleNote n).run s).2 := by
        have htake : (Deed.take.act.run s).2 = queued ns s := by
          show queued s.bot.queue.tail s = queued ns s
          rw [hs]
          rfl
        rw [after_cons, htake]
        exact handleNote_queued n ns s
      have hno : ∀ d ∈ ([] : List Deed), d.IsClockwork := fun d hd => absurd hd List.not_mem_nil
      refine .next hs hno ?_
      rw [hfirst]
      have hrest := ih (queued ns ((handleNote n).run s).2) rfl
      rw [after_notes_queued] at hrest
      exact hrest
  rw [drain_run, drainDeeds, after_append, after_take]
  have hdrained := hrow s.bot.queue s rfl
  rw [← after_notes_queued] at hdrained
  exact hdrained

end

/-! ## Keeping the chats -/

/-- What comes of keeping some chats one after the other, for each of them. -/
def keptEach (g : Setting) :
    List (String × Chat) → World τ → List (String × Except EngineError Unit)
  | [], _ => []
  | p :: l, w =>
    let (result, world) := (World.onDisk (g.store.save p.2.record)).run w
    (p.1, result) :: keptEach g l world

theorem keptEach_cons (g : Setting) (p : String × Chat) (l : List (String × Chat)) (w : World τ) :
    keptEach g (p :: l) w
      = (p.1, ((World.onDisk (g.store.save p.2.record)).run w).1)
        :: keptEach g l ((World.onDisk (g.store.save p.2.record)).run w).2 := rfl

/-- Every chat is tried. -/
theorem keys_keptEach (g : Setting) (l : List (String × Chat)) (w : World τ) :
    (keptEach g l w).map Prod.fst = l.map Prod.fst := by
  induction l generalizing w with
  | nil => rfl
  | cons p l ih => rw [keptEach_cons, List.map_cons, List.map_cons, ih]

/-- Nothing failed if every chat could be kept. -/
theorem flush_eq_ok {l : List (String × Chat)} {w : World τ} :
    (flush g l w).1 = .ok () ↔ ∀ p ∈ keptEach g l w, p.2 = .ok () := by
  induction l generalizing w with
  | nil => exact ⟨fun _ p hp => absurd hp List.not_mem_nil, fun _ => rfl⟩
  | cons p l ih => rw [flush_cons, firstFailure_eq_ok, keptEach_cons, List.forall_mem_cons, ih]

/-- The failure that is told is the one of a chat. -/
theorem mem_keptEach_of_flush {l : List (String × Chat)} {w : World τ} {e : EngineError}
    (h : (flush g l w).1 = .error e) : ∃ k, (k, .error e) ∈ keptEach g l w := by
  induction l generalizing w with
  | nil => cases h
  | cons p l ih =>
    rw [flush_cons] at h
    rw [keptEach_cons]
    generalize (World.onDisk (g.store.save p.2.record)).run w = kept at h ⊢
    obtain ⟨e' | _, w'⟩ := kept
    · cases h
      exact ⟨p.1, List.mem_cons_self⟩
    · obtain ⟨k, hk⟩ := ih h
      exact ⟨k, List.mem_cons_of_mem _ hk⟩

/-- Nothing is sent when chats are kept. -/
theorem outbox_flush (g : Setting) (l : List (String × Chat)) (w : World τ) :
    (flush g l w).2.outbox = w.outbox := by
  induction l generalizing w with
  | nil => rfl
  | cons p l ih =>
    rw [flush_cons]
    dsimp only
    rw [ih, Chat.onWorldDisk_run_snd]

/-- The store can be used after one chat was kept. -/
theorem holds_onDisk_save {w : World τ} (hw : g.store.Holds w.disk) (r : ChatRecord) :
    g.store.Holds ((World.onDisk (g.store.save r)).run w).2.disk := by
  rw [Chat.onWorldDisk_run_snd]
  exact (Store.saves hw r).spares.holds

/-- And the file of no other record is different. -/
theorem file?_onDisk_save_of_ne {w : World τ} (hw : g.store.Holds w.disk) {r : ChatRecord}
    {k : String} (hk : k ≠ r.chatId) :
    g.store.file? k ((World.onDisk (g.store.save r)).run w).2.disk = g.store.file? k w.disk := by
  rw [Chat.onWorldDisk_run_snd]
  exact Store.file?_save_of_ne hw hk

/-- To keep some chats is not seen by others. -/
theorem file?_flush_of_other {l : List (String × Chat)} {w : World τ} (hw : g.store.Holds w.disk)
    {k : String} (hl : ∀ p ∈ l, p.2.id ≠ k) :
    g.store.file? k (flush g l w).2.disk = g.store.file? k w.disk := by
  induction l generalizing w with
  | nil => rfl
  | cons p l ih =>
    have hne : k ≠ p.2.record.chatId := (hl p List.mem_cons_self).symm
    rw [flush_cons]
    dsimp only
    rw [ih (holds_onDisk_save hw p.2.record) fun q hq => hl q (List.mem_cons_of_mem p hq),
      file?_onDisk_save_of_ne hw hne]

/-- What one attempt to keep a chat leaves in the file of its record. -/
theorem file?_onDisk_save {w : World τ} (hw : g.store.Holds w.disk) (r : ChatRecord) :
    (((World.onDisk (g.store.save r)).run w).1 = .ok () →
        g.store.file? r.chatId ((World.onDisk (g.store.save r)).run w).2.disk
          = some (.ok r.toText.toUTF8))
      ∧ ∀ e, ((World.onDisk (g.store.save r)).run w).1 = .error e →
        g.store.file? r.chatId ((World.onDisk (g.store.save r)).run w).2.disk
          = g.store.file? r.chatId w.disk := by
  rw [Chat.onWorldDisk_run_snd, Chat.onWorldDisk_run]
  have hsaved := Store.file?_of_save_ok hw (r := r)
  have hspared := fun e he => Store.file?_of_save_error (e := e) hw (r := r) he r.chatId
  generalize (g.store.save r).run w.disk = kept at hsaved hspared ⊢
  obtain ⟨e | _, d⟩ := kept
  · exact ⟨nofun, fun _ _ => hspared e rfl⟩
  · exact ⟨fun _ => hsaved rfl, nofun⟩

/-- **The file of a chat after all chats have been kept** holds the record that was kept of it, or
is the one that there was if it could not be kept.  No other chat may have its id. -/
theorem file?_flush {l : List (String × Chat)} {w : World τ} (hw : g.store.Holds w.disk)
    (hnodup : (l.map Prod.fst).Nodup) {k : String} {c : Chat} (hmem : (k, c) ∈ l)
    (halone : ∀ p ∈ l, p.2.id = c.id → p.1 = k) :
    ((k, .ok ()) ∈ keptEach g l w →
        g.store.file? c.id (flush g l w).2.disk = some (.ok c.record.toText.toUTF8))
      ∧ ∀ e, (k, .error e) ∈ keptEach g l w →
        g.store.file? c.id (flush g l w).2.disk = g.store.file? c.id w.disk := by
  induction l generalizing w with
  | nil => cases hmem
  | cons p l ih =>
    obtain ⟨hp, hnodup'⟩ := List.nodup_cons.mp hnodup
    have hholds := holds_onDisk_save hw p.2.record
    rw [flush_cons, keptEach_cons]
    rcases List.mem_cons.mp hmem with rfl | hmem
    · -- It is kept now, and everybody else later.
      have hlater : ∀ q ∈ l, q.2.id ≠ c.id := by
        intro q hq hid
        have hkey : q.1 ∈ l.map Prod.fst := List.mem_map_of_mem hq
        rw [halone q (List.mem_cons_of_mem _ hq) hid] at hkey
        exact hp hkey
      have hnow : ∀ r (w' : World τ), (k, r) ∈ (k, ((World.onDisk (g.store.save c.record)).run w).1)
          :: keptEach g l w' → ((World.onDisk (g.store.save c.record)).run w).1 = r := by
        intro r w' hr
        rcases List.mem_cons.mp hr with hr | hr
        · exact (Prod.mk.inj hr).2.symm
        · have hk := List.mem_map_of_mem (f := Prod.fst) hr
          rw [keys_keptEach] at hk
          exact absurd hk hp
      obtain ⟨hsaved, hspared⟩ := file?_onDisk_save hw c.record
      dsimp only
      rw [file?_flush_of_other hholds hlater]
      exact ⟨fun hok => hsaved (hnow _ _ hok), fun e herror => hspared e (hnow _ _ herror)⟩
    · -- Another one is kept first.
      have hne : p.1 ≠ k := fun hk => hp (hk ▸ List.mem_map_of_mem (f := Prod.fst) hmem)
      have hid : c.id ≠ p.2.record.chatId := fun hid => hne (halone p List.mem_cons_self hid.symm)
      have hrest := ih hholds hnodup' hmem fun q hq => halone q (List.mem_cons_of_mem p hq)
      rw [file?_onDisk_save_of_ne hw hid] at hrest
      refine ⟨fun hok => hrest.1 ?_, fun e herror => hrest.2 e ?_⟩
      · exact (List.mem_cons.mp hok).resolve_left fun h => hne (Prod.mk.inj h).1.symm
      · exact (List.mem_cons.mp herror).resolve_left fun h => hne (Prod.mk.inj h).1.symm

/-- Closes a bot whose chats are come to in some order. -/
def closeIn (l : List (String × Chat)) : BotAction τ Unit :=
  ExceptT.mk fun s =>
    let (result, world) := flush s.bot.setting l s.world
    (result, { bot := s.bot.stopAll, world })

theorem close_eq (s : Stage τ) : close.run s = (closeIn s.bot.chats).run s := rfl

theorem closeIn_run (l : List (String × Chat)) (s : Stage τ) :
    (closeIn l).run s
      = ((flush s.bot.setting l s.world).1,
          { bot := s.bot.stopAll, world := (flush s.bot.setting l s.world).2 }) := rfl

/-- The chat under a key could not be kept. -/
def FailsFor (g : Setting) (l : List (String × Chat)) (w : World τ) (k : String) : Prop :=
  ∃ e, (k, .error e) ∈ keptEach g l w

/-- What it comes to that a bot has been closed, its chats come to in some order. -/
structure ClosesAll (g : Setting) [Transport τ] (l : List (String × Chat)) (t : Stage τ)
    (result : Except EngineError Unit × Stage τ) : Prop where
  /-- Every chat is tried once. -/
  tried : ((keptEach g l t.world).map Prod.fst).Perm (t.bot.chats.map Prod.fst)
  /-- What could be kept is on the disk, as it was before the timers were given up. -/
  kept : ∀ k c, t.bot.chat? k = some c → (k, .ok ()) ∈ keptEach g l t.world →
    g.store.file? k result.2.world.disk = some (.ok c.record.toText.toUTF8)
      ∧ g.store.load k result.2.world.disk = .ok c.record
  /-- What could not be kept is as it was on the disk, byte for byte. -/
  spared : ∀ k, FailsFor g l t.world k →
    g.store.file? k result.2.world.disk = g.store.file? k t.world.disk
  /-- And so is what is none of the chats. -/
  others : ∀ k, t.bot.chat? k = none →
    g.store.file? k result.2.world.disk = g.store.file? k t.world.disk
  /-- It is told if something could not be kept. -/
  told : (∃ e, result.1 = .error e) ↔ ∃ k, FailsFor g l t.world k
  /-- What is told is what was said about one of the chats. -/
  cause : ∀ e, result.1 = .error e → ∃ k, (k, .error e) ∈ keptEach g l t.world
  /-- No chat has a timer. -/
  stopped : ∀ k c, result.2.bot.chat? k = some c → c.timers = []
  /-- No stopwatch rings any more. -/
  silent : ∀ ds : List Deed, (∀ d ∈ ds, d.IsClockwork) →
    (after ds result.2).bot.queue = t.bot.queue

/-- An outcome is a failure if it is no success. -/
theorem exists_error_iff {r : Except EngineError Unit} : (∃ e, r = .error e) ↔ r ≠ .ok () := by
  cases r with
  | error e => simp
  | ok _ => simp

/-- Where no chat has timers, the clock leaves no notes. -/
theorem silent_of_stopped [Transport τ] {s : Stage τ} (hs : Sound g s.bot)
    (hstopped : ∀ k c, s.bot.chat? k = some c → c.timers = []) {ds : List Deed}
    (hds : ∀ d ∈ ds, d.IsClockwork) : (after ds s).bot.queue = s.bot.queue := by
  induction ds generalizing s with
  | nil => rfl
  | cons d ds ih =>
    have hstep : (d.act.run s).2.bot.queue = s.bot.queue
        ∧ ∀ k c, (d.act.run s).2.bot.chat? k = some c → c.timers = [] := by
      cases d with
      | ring key slot =>
        have hsame : s.bot.ringOne key slot = s.bot := by
          rw [ringOne]
          cases hc : s.bot.chat? key with
          | none => rfl
          | some c =>
            dsimp only
            rw [hstopped key c hc]
            rfl
        show (s.bot.ringOne key slot).queue = _ ∧ ∀ k c, (s.bot.ringOne key slot).chat? k = _ → _
        rw [hsame]
        exact ⟨rfl, hstopped⟩
      | pass t =>
        refine ⟨?_, fun k c hc => ?_⟩
        · have hnone : s.bot.ringingNotes t = [] := by
            rw [List.eq_nil_iff_forall_not_mem]
            intro n hn
            obtain ⟨k, c, slot, hc, -, hslot⟩ := timer_of_mem_ringingNotes hs.sorted hn
            rw [hstopped k c hc] at hslot
            exact Nat.not_lt_zero slot hslot
          show s.bot.queue ++ s.bot.ringingNotes t = _
          rw [hnone, List.append_nil]
        · change (s.bot.ringAll t).chat? k = some c at hc
          rw [chat?_ringAll, Option.map_eq_some_iff] at hc
          obtain ⟨c₀, hc₀, rfl⟩ := hc
          show c₀.timers.map _ = []
          rw [hstopped k c₀ hc₀, List.map_nil]
      | _ => exact (hds _ List.mem_cons_self).elim
    rw [after_cons, ih (hs.act d) hstep.2 fun d hd => hds d (List.mem_cons_of_mem _ hd), hstep.1]

/-- **Every chat is served when a bot is closed**, in whatever order and whatever fails. -/
theorem closesAll_closeIn [Transport τ] {t : Stage τ} (ht : Sound g t.bot)
    (hw : g.store.Holds t.world.disk) {l : List (String × Chat)} (hl : l.Perm t.bot.chats) :
    ClosesAll g l t ((closeIn l).run t) := by
  have hnodup : (l.map Prod.fst).Nodup := (hl.map _).nodup_iff.mpr ht.sorted.nodup_keys
  have hfind : ∀ k c, (k, c) ∈ l ↔ t.bot.chat? k = some c := fun k c => by
    rw [hl.mem_iff, Keyed.mem_iff_find? ht.sorted]
    rfl
  have hids : ∀ k c, (k, c) ∈ l → c.id = k := fun k c hc => ht.ids k c ((hfind k c).mp hc)
  have halone : ∀ k c, (k, c) ∈ l → ∀ p ∈ l, p.2.id = c.id → p.1 = k := by
    intro k c hc p hp hid
    rw [← hids p.1 p.2 hp, hid, hids k c hc]
  rw [closeIn_run, ht.setting]
  have hstopped : ∀ k c, t.bot.stopAll.chat? k = some c → c.timers = [] := by
    intro k c hc
    rw [chat?_stopAll, Option.map_eq_some_iff] at hc
    obtain ⟨c₀, -, rfl⟩ := hc
    rfl
  refine ⟨?_, fun k c hc hok => ?_, fun k hk => ?_, fun k hk => ?_, ?_,
    fun e he => mem_keptEach_of_flush he, hstopped, fun ds hds => ?_⟩
  · rw [keys_keptEach]
    exact hl.map _
  · have hmem := (hfind k c).mpr hc
    have hfile := (file?_flush hw hnodup hmem (halone k c hmem)).1 hok
    rw [hids k c hmem] at hfile
    exact ⟨hfile, Store.load_of_file? hfile⟩
  · obtain ⟨e, he⟩ := hk
    have hkey := List.mem_map_of_mem (f := Prod.fst) he
    rw [keys_keptEach] at hkey
    obtain ⟨⟨k', c⟩, hmem, rfl⟩ := List.mem_map.mp hkey
    have hfile := (file?_flush hw hnodup hmem (halone _ c hmem)).2 e he
    rw [hids _ c hmem] at hfile
    exact hfile
  · refine file?_flush_of_other hw fun p hp hid => ?_
    have hfound := (hfind p.1 p.2).mp hp
    rw [← hids p.1 p.2 hp, hid, hk] at hfound
    cases hfound
  · rw [exists_error_iff, ne_eq, flush_eq_ok]
    constructor
    · intro hnot
      by_contra hnone
      refine hnot fun p hp => ?_
      by_contra hp'
      obtain ⟨e, he⟩ := exists_error_iff.mpr hp'
      exact hnone ⟨p.1, e, he ▸ hp⟩
    · rintro ⟨k, e, he⟩ hall
      cases hall _ he
  · exact silent_of_stopped (s := ⟨t.bot.stopAll, _⟩) ht.stopAll hstopped hds

/-! ## The whole end -/

/-- Two ends come to the same: both were told to fail or neither was, the bots are the same, and so
are the files of all records. -/
structure SameEnd (g : Setting) (x y : Except EngineError Unit × Stage τ) : Prop where
  told : (∃ e, x.1 = .error e) ↔ ∃ e, y.1 = .error e
  bot : x.2.bot = y.2.bot
  files : ∀ k, g.store.file? k x.2.world.disk = g.store.file? k y.2.world.disk

/-- What a disk will refuse is not seen by who reads a file. -/
theorem file?_refusing (rs : List (Option Nat)) (t : Stage τ) (k : String) :
    g.store.file? k (refusing rs t).world.disk = g.store.file? k t.world.disk := rfl

/-- A chat that was tried could be kept, or it could not. -/
theorem ok_or_failsFor {l : List (String × Chat)} {w : World τ} {k : String} {c : Chat}
    (hc : (k, c) ∈ l) : (k, .ok ()) ∈ keptEach g l w ∨ FailsFor g l w k := by
  have hkey := List.mem_map_of_mem (f := Prod.fst) hc
  rw [← keys_keptEach g l w] at hkey
  obtain ⟨⟨k', r⟩, hr, rfl⟩ := List.mem_map.mp hkey
  cases r with
  | ok _ => exact Or.inl hr
  | error e => exact Or.inr ⟨e, hr⟩

/-- **The order makes no difference**, nor do the writes that were refused, if the same chats could
not be kept. -/
theorem sameEnd_closeIn [Transport τ] {t : Stage τ} (ht : Sound g t.bot)
    (hw : g.store.Holds t.world.disk) {l l' : List (String × Chat)} {rs rs' : List (Option Nat)}
    (hl : l.Perm t.bot.chats) (hl' : l'.Perm t.bot.chats)
    (hfail : ∀ k, FailsFor g l (refusing rs t).world k ↔ FailsFor g l' (refusing rs' t).world k) :
    SameEnd g ((closeIn l).run (refusing rs t)) ((closeIn l').run (refusing rs' t)) := by
  have hclosed := closesAll_closeIn (t := refusing rs t) ht (hw.refusals rs) hl
  have hclosed' := closesAll_closeIn (t := refusing rs' t) ht (hw.refusals rs') hl'
  refine ⟨?_, rfl, fun k => ?_⟩
  · rw [hclosed.told, hclosed'.told]
    exact exists_congr hfail
  · cases hc : t.bot.chat? k with
    | none => rw [hclosed.others k hc, hclosed'.others k hc, file?_refusing, file?_refusing]
    | some c =>
      have hmem : (k, c) ∈ t.bot.chats := Keyed.mem_of_find? hc
      by_cases hfails : FailsFor g l (refusing rs t).world k
      · rw [hclosed.spared k hfails, hclosed'.spared k ((hfail k).mp hfails), file?_refusing,
          file?_refusing]
      · have hok := (ok_or_failsFor (hl.mem_iff.mpr hmem)).resolve_right hfails
        have hok' := (ok_or_failsFor (hl'.mem_iff.mpr hmem)).resolve_right
          fun h => hfails ((hfail k).mpr h)
        rw [(hclosed.kept k c hc hok).1, (hclosed'.kept k c hc hok').1]

/-- **At its end a bot serves every chat, whatever fails.**  The bot is at any stage of its life,
and the disk is any on which the store can be used.

First every note that waits is handled by its chat, and so is every note that is left meanwhile, in
whatever way the clock goes on in between; the bot itself handles them in one of these ways.  Then
every chat is tried, in any order, and whichever writes are refused.  The file of a chat that could
be kept holds what the chat was when the last note had been handled; the file of one that could not
be kept is the one that there was.  A failure is told if and only if some chat could not be
kept.  No chat has a timer any more, and no stopwatch will ring.  Two orders in which the same chats
cannot be kept come to the same. -/
theorem shutdown_serves_every_chat [Transport τ] {b : Bot} {w₀ w : World τ}
    (h : Lifetime g ⟨b, w₀⟩) (hw : g.store.Holds w.disk) :
    (Drains ⟨b, w⟩ b.queue (drain.run ⟨b, w⟩).2
        ∧ shutdown.run ⟨b, w⟩
          = (closeIn (drain.run ⟨b, w⟩).2.bot.chats).run (drain.run ⟨b, w⟩).2)
      ∧ ∀ ns t, Drains ⟨b, w⟩ ns t →
          Drained g ⟨b, w⟩ ns t
            ∧ (∀ l rs, l.Perm t.bot.chats →
                ClosesAll g l (refusing rs t) ((closeIn l).run (refusing rs t)))
            ∧ ∀ l l' rs rs', l.Perm t.bot.chats → l'.Perm t.bot.chats →
                (∀ k, FailsFor g l (refusing rs t).world k
                  ↔ FailsFor g l' (refusing rs' t).world k) →
                SameEnd g ((closeIn l).run (refusing rs t))
                  ((closeIn l').run (refusing rs' t)) := by
  refine ⟨⟨drains_drain ⟨b, w⟩, ?_⟩, fun ns t ht => ?_⟩
  · rw [shutdown_run, drain_run]
    exact close_eq _
  · have hdrained := ht.drained h.sound hw
    refine ⟨hdrained, fun l rs hl => ?_, fun l l' rs rs' hl hl' => ?_⟩
    · exact closesAll_closeIn (t := refusing rs t) hdrained.sound (hdrained.holds.refusals rs) hl
    · exact sameEnd_closeIn hdrained.sound hdrained.holds hl hl'

/-! ## Two chats, one of which cannot be kept -/

/-- Two people have written to the bot, and in both chats the first timer has rung. -/
def bothRung : Stage Refusing :=
  after [.receive ⟨"42", "Hi", ⟨42, false, "Ann", none, none, none⟩, none⟩,
    .receive ⟨"43", "Hi", ⟨43, false, "Bob", none, none, none⟩, none⟩, .ring "42" 0, .ring "43" 0]
    ⟨newBot (reminding "(1h)"), newWorld⟩

/-- A disk that refuses every third write. -/
def hesitant : Stage Refusing := refusing [none, none, some 0, none, none, some 0] bothRung

theorem lifetime_bothRung : Lifetime (reminding "(1h)") bothRung := by
  have hstarted : Lifetime (reminding "(1h)") ⟨newBot (reminding "(1h)"), newWorld⟩ :=
    .started (inPlace_of_chats_nil Disk.isTree_empty chats_newWorld) (start_newWorld "(1h)")
  exact hstarted.after _

/-- Both chats move on when their notes are handled.  One of them is kept, and the other one is
still found at its first step. -/
theorem shutdown_of_hesitant :
    bothRung.bot.queue = [⟨"42", 1, 0⟩, ⟨"43", 1, 0⟩]
      ∧ ∃ u, shutdown.run hesitant
            = (.error (.store (.io ⟨"/43/state.json.tmp"⟩ .noSpace)), u)
          ∧ ((reminding "(1h)").store.load "42" u.world.disk).toOption.map ChatRecord.stepId
            = some (some "2")
          ∧ (reminding "(1h)").store.file? "43" u.world.disk
            = (reminding "(1h)").store.file? "43" (drain.run hesitant).2.world.disk := by
  have hwork : AtWork (reminding "(1h)") bothRung :=
    (atWork_start (start_newWorld "(1h)") Disk.isTree_empty).after _
  let t : Stage Refusing := (drain.run hesitant).2
  obtain ⟨hqueue, heach, hmoved⟩ : bothRung.bot.queue = [⟨"42", 1, 0⟩, ⟨"43", 1, 0⟩]
      ∧ keptEach (reminding "(1h)") t.bot.chats t.world
        = [("42", .ok ()), ("43", .error (.store (.io ⟨"/43/state.json.tmp"⟩ .noSpace)))]
      ∧ (t.bot.chat? "42").map Chat.stepId = some (some "2") := by decide +kernel
  obtain ⟨c, hc, hstep⟩ := Option.map_eq_some_iff.mp hmoved
  obtain ⟨⟨hdrains, hrun⟩, hends⟩ := shutdown_serves_every_chat
    (w := hesitant.world) lifetime_bothRung (hwork.holds.refusals _)
  have hclosed : ClosesAll (reminding "(1h)") t.bot.chats t ((closeIn t.bot.chats).run t) :=
    (hends _ t hdrains).2.1 t.bot.chats t.world.disk.refusals (List.Perm.refl _)
  have hfails : FailsFor (reminding "(1h)") t.bot.chats t.world "43" :=
    ⟨_, heach ▸ List.mem_cons_of_mem _ (List.mem_singleton_self _)⟩
  obtain ⟨e, he⟩ := hclosed.told.mpr ⟨"43", hfails⟩
  obtain ⟨k, hk⟩ := hclosed.cause e he
  have hcause : e = .store (.io ⟨"/43/state.json.tmp"⟩ .noSpace) := by
    rw [heach] at hk
    rcases List.mem_cons.mp hk with hk | hk
    · cases hk
    · cases List.mem_singleton.mp hk
      rfl
  refine ⟨hqueue, ((closeIn t.bot.chats).run t).2, ?_, ?_, hclosed.spared "43" hfails⟩
  · exact hrun.trans (Prod.ext (he.trans (congrArg Except.error hcause)) rfl)
  · rw [(hclosed.kept "42" c hc (heach ▸ List.mem_cons_self)).2]
    exact congrArg some hstep

/-- A disk on which a directory has the record of another chat, whose first timer is over. -/
def misplacedDisk : Disk :=
  ((Disk.empty.makeDirectories ⟨"/a"⟩).2.write ⟨"/a/state.json"⟩
    ("\x7b\"chatId\":\"b\",\"stepId\":\"1\",\"timers\":"
      ++ "[\x7b\"start\":0,\"timeout\":1000\x7d]\x7d").toUTF8).2

theorem chats_misplacedDisk : (reminding "(1h)").store.chats misplacedDisk = .ok ["a"] :=
  chats_of_names (by decide +kernel) (by decide +kernel)

/-- Where the record of a chat is in the directory of another one, a note can be lost.  The chat is
restored with its note, but it is not found by its id.  So the note is not handed to it: nothing is
sent, and the timer is kept as one that is still to be handled. -/
theorem misplaced_note_is_dropped :
    ∃ b w', (start (reminding "(1h)")).run { newWorld with now := 2000, disk := misplacedDisk }
        = (.ok b, w')
      ∧ (b.chat? "a").map Chat.id = some "b" ∧ b.queue = [⟨"b", 0, 0⟩]
      ∧ let u := shutdown.run ⟨b, w'⟩
        u.1.toOption = some () ∧ u.2.world.outbox = []
          ∧ ((reminding "(1h)").store.load "b" u.2.world.disk).toOption.map
              (fun r => (r.stepId, r.timers.map StopwatchState.done))
            = some (some "1", [false, false]) :=
  ⟨_, _, start_of_chats chats_misplacedDisk rfl, by decide +kernel⟩

end Bot
end ScriptedChat
