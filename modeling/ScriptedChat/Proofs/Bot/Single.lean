import ScriptedChat.Proofs.Bot.Beside
import ScriptedChat.Proofs.Bot.Ending
import ScriptedChat.Proofs.Bot.Life

/-!
# One chat of a bot

A bot with many chats is put beside a bot that has only one of them, in a world that looks the same
to this chat (`Bot.Isolated`).  They have the chat in common, apart from its tickets, and the second
one has just the notes of this chat in its queue, in the order in which they stand in the first.

This is so at the start, if nobody else has a record in the second world, and at the end it stays
so: all chats are kept one after the other, and what is kept for one of them cannot be told from the
files of another.

* `Bot.notesOf_ringingNotes`: the order in which the alarms of one chat ring among all others.
* `Bot.SameFor`, `Bot.Isolated`: what is the same.
* `Bot.isolated_start`, `Bot.Isolated.close`: the start and the end.
-/

namespace ScriptedChat
namespace Bot

variable {τ σ : Type}

/-! ## The notes of one chat -/

/-- The notes of a chat, in their order. -/
def notesOf (k : String) (queue : List Elapsed) : List Elapsed := queue.filter fun n => n.chat = k

theorem notesOf_cons (k : String) (n : Elapsed) (l : List Elapsed) :
    notesOf k (n :: l) = if n.chat = k then n :: notesOf k l else notesOf k l := by
  rw [notesOf, List.filter_cons]
  simp only [decide_eq_true_eq]
  rfl

theorem notesOf_append (k : String) (l m : List Elapsed) :
    notesOf k (l ++ m) = notesOf k l ++ notesOf k m := List.filter_append ..

theorem notesOf_eq_self {k : String} {l : List Elapsed} (h : ∀ n ∈ l, n.chat = k) :
    notesOf k l = l :=
  List.filter_eq_self.mpr fun n hn => decide_eq_true (h n hn)

theorem notesOf_eq_nil {k : String} {l : List Elapsed} (h : ∀ n ∈ l, n.chat ≠ k) :
    notesOf k l = [] :=
  List.filter_eq_nil_iff.mpr fun n hn hk => h n hn (of_decide_eq_true hk)

theorem notesOf_notesOf (k : String) (l : List Elapsed) : notesOf k (notesOf k l) = notesOf k l :=
  notesOf_eq_self fun _ hn => of_decide_eq_true (List.mem_filter.mp hn).2

/-- To sort a list and to look at a part of it. -/
theorem filter_mergeSort_alarms {α : Type} (l : List (Alarm × α)) (p : Alarm × α → Bool) :
    (((l.mergeSort fun x y => x.1.before y.1).filter p).Perm (l.filter p))
      ∧ ((l.mergeSort fun x y => x.1.before y.1).filter p).Pairwise
        fun x y => x.1.before y.1 = true := by
  refine ⟨(List.mergeSort_perm l _).filter p, List.Pairwise.filter p ?_⟩
  refine List.pairwise_mergeSort (fun x y z hxy hyz => ?_) (fun x y => ?_) l
  · rw [Alarm.before_iff] at hxy hyz ⊢
    omega
  · rw [Bool.or_eq_true, Alarm.before_iff, Alarm.before_iff]
    omega

/-- The alarms of one chat among all that ring: they are in the order in which they would ring by
themselves. -/
theorem exists_rung {b : Bot} (hs : Keyed.IsSorted b.chats)
    (hids : ∀ k c, b.chat? k = some c → c.id = k) {k : String} {c : Chat} (hc : b.chat? k = some c)
    (horder : c.InOrder) (now : Int) :
    ∃ l : List (Int × Elapsed), notesOf k (b.ringingNotes now) = l.map Prod.snd
      ∧ l.Perm ((c.ringing now).map Chat.rung) ∧ l.Pairwise Chat.ringsFirst := by
  have hfilter : (b.chats.flatMap fun p => p.2.ringing now).filter (fun x => x.2.chat = k)
      = c.ringing now := by
    have hfound : Keyed.find? k b.chats = some c := hc
    rw [Keyed.filter_flatMap (f := fun c : Chat => c.ringing now) hs.nodup_keys, hfound]
    · rfl
    · intro p hp x hx
      obtain ⟨slot, -, hnote⟩ := Chat.mem_ringing hx
      have hid : p.2.id = p.1 := hids p.1 p.2 ((Keyed.mem_iff_find? hs).mp hp)
      rw [decide_eq_true_eq, hnote, ← hid]
      rfl
  obtain ⟨hperm, hpairwise⟩ := filter_mergeSort_alarms
    (b.chats.flatMap fun p => p.2.ringing now) fun x => x.2.chat = k
  rw [hfilter] at hperm
  refine ⟨_, ?_, hperm.map Chat.rung, ?_⟩
  · rw [notesOf, ringingNotes, List.filter_map, List.map_map]
    rfl
  · refine List.pairwise_map.mpr (hpairwise.imp_of_mem fun {x y} hx hy hxy => ?_)
    exact Chat.ringsFirst_of_before horder (hperm.mem_iff.mp hx) (hperm.mem_iff.mp hy) hxy

/-- **The alarms of one chat ring in the same order**, whatever others ring in between. -/
theorem notesOf_ringingNotes {b b' : Bot} (hs : Keyed.IsSorted b.chats)
    (hs' : Keyed.IsSorted b'.chats) (hids : ∀ k c, b.chat? k = some c → c.id = k)
    (hids' : ∀ k c, b'.chat? k = some c → c.id = k) {k : String} {c c' : Chat}
    (hc : b.chat? k = some c) (hc' : b'.chat? k = some c') (horder : c.InOrder)
    (horder' : c'.InOrder) (hsame : c'.unticketed = c.unticketed) (now : Int) :
    notesOf k (b'.ringingNotes now) = notesOf k (b.ringingNotes now) := by
  obtain ⟨l, hl, hperm, hpairwise⟩ := exists_rung hs hids hc horder now
  obtain ⟨l', hl', hperm', hpairwise'⟩ := exists_rung hs' hids' hc' horder' now
  rw [Chat.map_rung_ringing hsame] at hperm'
  have heq : l' = l := List.Perm.eq_of_pairwise
    (fun x y hx hy => Chat.ringsFirst_antisymm (hperm'.mem_iff.mp hx) (hperm.mem_iff.mp hy))
    hpairwise' hpairwise (hperm'.trans hperm.symm)
  rw [hl, hl', heq]

/-! ## Side by side -/

/-- The stage with other refusals to come. -/
def refusing (rs : List (Option Nat)) (s : Stage τ) : Stage τ :=
  { s with world := { s.world with disk := { s.world.disk with refusals := rs } } }

/-- What can be seen of a chat is the same on two stages: what it is, apart from its tickets, what
is kept and logged of it, the messages to it, and its notes that wait. -/
structure SameFor (g : Setting) (k : String) (s t : Stage τ) : Prop where
  chat : (t.bot.chat? k).map Chat.unticketed = (s.bot.chat? k).map Chat.unticketed
  record : g.store.loaded? k t.world.disk = g.store.loaded? k s.world.disk
  log : g.store.log? k t.world.disk = g.store.log? k s.world.disk
  messages : messagesTo k t.world.outbox = messagesTo k s.world.outbox
  queue : notesOf k t.bot.queue = notesOf k s.bot.queue

/-- A bot, and one that has a single chat of it. -/
structure Isolated (g : Setting) (k : String) (seen : τ → σ) (s t : Stage τ) : Prop where
  left : Sound g s.bot
  right : Sound g t.bot
  alone : ∀ key c, t.bot.chat? key = some c → key = k
  chat : (t.bot.chat? k).map Chat.unticketed = (s.bot.chat? k).map Chat.unticketed
  inOrder : ∀ c, s.bot.chat? k = some c → c.InOrder
  inOrder' : ∀ c, t.bot.chat? k = some c → c.InOrder
  queue : t.bot.queue = notesOf k s.bot.queue
  world : s.world.Beside g k seen t.world

section

variable {g : Setting} {k : String} {seen : τ → σ}

theorem Isolated.sameFor {s t : Stage τ} (h : Isolated g k seen s t) : SameFor g k s t where
  chat := h.chat
  record := h.world.files.loaded?
  log := h.world.files.log?
  messages := h.world.messages
  queue := by rw [h.queue, notesOf_notesOf]

/-- The two stages have the chat, or neither has it. -/
theorem Isolated.chat_cases {s t : Stage τ} (h : Isolated g k seen s t) :
    s.bot.chat? k = none ∧ t.bot.chat? k = none
      ∨ ∃ c c', s.bot.chat? k = some c ∧ t.bot.chat? k = some c' ∧ c'.unticketed = c.unticketed
          ∧ c.InOrder ∧ c'.InOrder := by
  have hchat := h.chat
  cases hs : s.bot.chat? k with
  | none =>
    rw [hs, Option.map_none, Option.map_eq_none_iff] at hchat
    exact Or.inl ⟨rfl, hchat⟩
  | some c =>
    rw [hs, Option.map_some, Option.map_eq_some_iff] at hchat
    obtain ⟨c', hc', hsame⟩ := hchat
    exact Or.inr ⟨c, c', rfl, hc', hsame, h.inOrder c hs, h.inOrder' c' hc'⟩

/-- The refusals to come make no difference. -/
theorem Isolated.refusing {s t : Stage τ} (h : Isolated g k seen s t) (rs : List (Option Nat)) :
    Isolated g k seen s (refusing rs t) :=
  { h with
    world :=
      { now := h.world.now
        seen := h.world.seen
        messages := h.world.messages
        files := h.world.files.refusals rs } }

/-- The alarms of the chat ring in both, in the same order. -/
theorem Isolated.ringingNotes {s t : Stage τ} (h : Isolated g k seen s t) (now : Int) :
    t.bot.ringingNotes now = notesOf k (s.bot.ringingNotes now) := by
  have hmine : notesOf k (t.bot.ringingNotes now) = t.bot.ringingNotes now := by
    refine notesOf_eq_self fun n hn => ?_
    obtain ⟨key, c, slot, hc, rfl⟩ := mem_ringingNotes h.right.sorted hn
    exact (h.right.ids key c hc).trans (h.alone key c hc)
  rw [← hmine]
  rcases h.chat_cases with ⟨hs, ht⟩ | ⟨c, c', hs, ht, hsame, horder, horder'⟩
  · -- A bot that does not have the chat has no notes of it.
    have hnone : ∀ b : Bot, Sound g b → b.chat? k = none → notesOf k (b.ringingNotes now) = [] := by
      intro b hb hk
      refine notesOf_eq_nil fun n hn hchat => ?_
      obtain ⟨key, c, slot, hc, rfl⟩ := mem_ringingNotes hb.sorted hn
      have hkey : key = k := (hb.ids key c hc).symm.trans hchat
      rw [hkey, hk] at hc
      cases hc
    rw [hnone _ h.left hs, hnone _ h.right ht]
  · exact notesOf_ringingNotes h.left.sorted h.right.sorted h.left.ids h.right.ids hs ht horder
      horder' hsame now

/-! ## The start -/

/-- What a bot starts with of one chat. -/
theorem chat?_start {w w' : World τ} {b : Bot} (hholds : g.store.Holds w.disk)
    (h : (start g).run w = (.ok b, w')) (k : String) :
    (b.chat? k).map Chat.unticketed
        = (g.store.loaded? k w.disk).map
          fun r => (Chat.ofRecord g.scenario r w.now 0).unticketed := by
  cases hr : g.store.loaded? k w.disk with
  | none =>
    cases hc : b.chat? k with
    | none => rfl
    | some c =>
      obtain ⟨r, ticket, hload, -⟩ := load_of_chat?_start h hc
      rw [Store.loaded?_eq_some.mpr hload] at hr
      cases hr
  | some r =>
    rw [Store.loaded?_eq_some] at hr
    obtain ⟨c, hc⟩ := Option.isSome_iff_exists.mp (isSome_chat?_start h hholds hr)
    obtain ⟨r', ticket, hload, rfl⟩ := load_of_chat?_start h hc
    rw [hr] at hload
    rw [hc, Option.map_some, Option.map_some, Except.ok.inj hload]
    exact congrArg some (Chat.unticketed_ofRecord g.scenario r' w.now ticket 0)

/-- The notes of one chat that wait at the start. -/
theorem notesOf_start {w w' : World τ} {b : Bot} (hholds : g.store.Holds w.disk)
    (hplace : InPlace g w.disk) (h : (start g).run w = (.ok b, w')) (k : String) :
    notesOf k b.queue = ((b.chat? k).map Chat.overdueNotes).getD [] := by
  obtain ⟨keys, hkeys, -, -, -, hchats, hqueue⟩ := of_start h
  obtain ⟨keys', hkeys', hnodup, -⟩ := Store.chats_of_holds hholds
  rw [hkeys] at hkeys'
  obtain rfl := Except.ok.inj hkeys'
  have hnodup' := hnodup.sublist (keys_restored g w.disk w.now w.tickets keys)
  rw [chat?, hchats, hqueue, find?_gather_of_nodup hnodup']
  refine Keyed.filter_flatMap (f := Chat.overdueNotes) hnodup' fun p hp n hn => ?_
  obtain ⟨r, ticket, hr, hc⟩ := load_of_mem_restored (k := p.1) (c := p.2) hp
  have hid : p.2.id = p.1 := by
    rw [hc]
    exact (Chat.fields_ofRecord g.scenario r w.now ticket).1.trans (hplace p.1 r hr)
  obtain ⟨slot, x, hnote, -⟩ := Chat.mem_overdueNotes.mp hn
  rw [decide_eq_true_eq, hnote, ← hid]
  rfl

/-- A bot starts, and so does one where there is a single chat of it. -/
theorem isolated_start {w w' v : World τ} {b : Bot} (hplace : InPlace g w.disk)
    (hstart : (start g).run w = (.ok b, w')) (hbeside : w.Beside g k seen v)
    (halone : ∀ key, key ≠ k → g.store.loaded? key v.disk = none) :
    ∃ b' v', (start g).run v = (.ok b', v') ∧ Isolated g k seen ⟨b, w'⟩ ⟨b', v'⟩ := by
  obtain ⟨hholds, hholds'⟩ := hbeside.files.holds
  have hloaded := hbeside.files.loaded?
  have hplace' : InPlace g v.disk := by
    intro key r hr
    rw [← Store.loaded?_eq_some] at hr
    by_cases hkey : key = k
    · rw [hkey, hloaded, Store.loaded?_eq_some] at hr
      rw [hkey, hplace k r hr]
    · rw [halone key hkey] at hr
      cases hr
  obtain ⟨keys, hkeys, -⟩ := Store.chats_of_holds hholds
  obtain ⟨keys', hkeys', -⟩ := Store.chats_of_holds hholds'
  obtain ⟨b₀, tickets, hrun, -⟩ := start_run (g := g) (w := w) hkeys
  obtain ⟨b', tickets', hrun', -⟩ := start_run (g := g) (w := v) hkeys'
  have hsame := hrun.symm.trans hstart
  obtain ⟨hbot, rfl⟩ := Prod.mk.inj hsame
  obtain rfl := Except.ok.inj hbot
  have hmine : ∀ key c, b'.chat? key = some c → key = k := by
    intro key c hc
    by_contra hkey
    obtain ⟨r, -, hload, -⟩ := load_of_chat?_start hrun' hc
    rw [← Store.loaded?_eq_some, halone key hkey] at hload
    cases hload
  have hsound' := sound_start hplace' hrun'
  have hchat : (b'.chat? k).map Chat.unticketed = (b₀.chat? k).map Chat.unticketed := by
    rw [chat?_start hholds hrun, chat?_start hholds' hrun', hloaded, hbeside.now]
  have horder : ∀ {u u' : World τ} {x : Bot}, (start g).run u = (.ok x, u') →
      ∀ c, x.chat? k = some c → c.InOrder := by
    intro u u' x hx c hc
    obtain ⟨r, ticket, -, rfl⟩ := load_of_chat?_start hx hc
    exact Chat.inOrder_ofRecord g.scenario r u.now ticket
  refine ⟨b', _, hrun', ?_⟩
  exact
    { left := sound_start hplace hrun
      right := hsound'
      alone := hmine
      chat := hchat
      inOrder := horder hrun
      inOrder' := horder hrun'
      queue := by
        have hall : notesOf k b'.queue = b'.queue := notesOf_eq_self fun n hn => by
          obtain ⟨c, hc, -⟩ := hsound'.queue n hn
          exact hmine n.chat c hc
        have hnotes : ∀ x : Option Chat, x.map Chat.overdueNotes
            = (x.map Chat.unticketed).map Chat.overdueNotes := by
          rintro (_ | c)
          · rfl
          · exact congrArg some (Chat.overdueNotes_unticketed c).symm
        rw [← hall, notesOf_start hholds hplace hrun, notesOf_start hholds' hplace' hrun', hnotes,
          hchat, ← hnotes]
      world :=
        { now := hbeside.now
          seen := hbeside.seen
          messages := hbeside.messages
          files := hbeside.files } }

/-! ## The end -/

/-- What the disk refuses from there on when it is the turn of a chat to be kept at the end. -/
def refusalsAtClose (k : String) (s : Stage τ) : List (Option Nat) :=
  (flush s.bot.setting (s.bot.chats.takeWhile fun p => p.1 ≠ k) s.world).2.disk.refusals

theorem flush_append (g : Setting) (l m : List (String × Chat)) (w : World τ) :
    (flush g (l ++ m) w).2 = (flush g m (flush g l w).2).2 := by
  induction l generalizing w with
  | nil => rfl
  | cons p l ih =>
    rw [List.cons_append, flush_cons, flush_cons]
    exact ih _

/-- To keep other chats makes no difference. -/
theorem beside_flush {l : List (String × Chat)} {w v : World τ} (h : w.Beside g k seen v)
    (hids : ∀ p ∈ l, p.2.id = p.1) (hl : ∀ p ∈ l, p.1 ≠ k) : (flush g l w).2.Beside g k seen v := by
  induction l generalizing w with
  | nil => exact h
  | cons p l ih =>
    rw [flush_cons]
    refine ih ?_ (fun q hq => hids q (List.mem_cons_of_mem p hq))
      fun q hq => hl q (List.mem_cons_of_mem p hq)
    have haside : World.Aside g k seen p.1 w
        { w with disk := ((g.store.save p.2.record).run w.disk).2 } :=
      (World.Aside.refl h.files.left).onDisk fun q htree hq => by
        have hin := (Store.within_save htree hq p.2.record).1
        rw [show p.2.record.chatId = p.1 from hids p (List.mem_cons_self ..)] at hin
        exact hin
    rw [Chat.onWorldDisk_run_snd]
    exact h.aside (hl p (List.mem_cons_self ..)) haside

/-- To keep the chat makes the same of both worlds. -/
theorem beside_keep {w v : World τ} (h : w.Twin g k seen v) {c c' : Chat} (hid : c.id = k)
    (hsame : c'.unticketed = c.unticketed) :
    World.Beside g k seen ((World.onDisk (g.store.save c.record)).run w).2
      ((World.onDisk (g.store.save c'.record)).run v).2 := by
  have hrecord : c'.record = c.record := by
    rw [← Chat.record_unticketed, hsame, Chat.record_unticketed]
  have hchat : c.record.chatId = k := hid
  have hsaved := Store.SameFiles.save (r := c.record) (hchat.symm ▸ h.files) h.refusals
  rw [hchat] at hsaved
  rw [hrecord, Chat.onWorldDisk_run_snd, Chat.onWorldDisk_run_snd]
  exact (h.onDisk hsaved).toBeside

/-- The world when all chats have been kept looks to each of them as if only this one had been
kept. -/
theorem Isolated.flush {s t : Stage τ} (h : Isolated g k seen s t) :
    (flush g s.bot.chats s.world).2.Beside g k seen
      (flush g t.bot.chats (Bot.refusing (refusalsAtClose k s) t).world).2 := by
  have hids : ∀ p ∈ s.bot.chats, p.2.id = p.1 := fun p hp =>
    h.left.ids p.1 p.2 ((Keyed.mem_iff_find? h.left.sorted).mp hp)
  have hsingle : t.bot.chats = ((t.bot.chat? k).map fun c => (k, c)).toList :=
    Keyed.eq_of_single h.right.sorted fun p hp =>
      h.alone p.1 p.2 ((Keyed.mem_iff_find? h.right.sorted).mp hp)
  have hbeside := (h.refusing (refusalsAtClose k s)).world
  rw [refusalsAtClose, h.left.setting] at hbeside ⊢
  rcases h.chat_cases with ⟨hs, ht⟩ | ⟨c, c', hs, ht, hsame, -, -⟩
  · rw [hsingle, ht]
    exact beside_flush hbeside hids (Keyed.find?_eq_none.mp hs)
  · obtain ⟨front, back, hchats, hfront, hback⟩ := Keyed.split_of_find? h.left.sorted hs
    have htake : s.bot.chats.takeWhile (fun p => p.1 ≠ k) = front := by
      rw [hchats, List.takeWhile_append_of_pos fun p hp => decide_eq_true (hfront p hp),
        List.takeWhile_cons_of_neg, List.append_nil]
      simp
    rw [hchats] at hids
    rw [htake] at hbeside ⊢
    -- The chats in front of this one are kept, then it is its turn, then the others are kept.
    have hturn : World.Twin g k seen (Bot.flush g front s.world).2
        (Bot.refusing (Bot.flush g front s.world).2.disk.refusals t).world :=
      { beside_flush hbeside (fun p hp => hids p (List.mem_append_left _ hp)) hfront with
        refusals := rfl }
    rw [hchats, hsingle, ht, flush_append, flush_cons]
    exact beside_flush (beside_keep hturn (h.left.ids k c hs) hsame)
      (fun p hp => hids p (List.mem_append_right _ (List.mem_cons_of_mem _ hp))) hback

/-- **Both come to the same end.** -/
theorem Isolated.close {s t : Stage τ} (h : Isolated g k seen s t) :
    Isolated g k seen (Bot.close.run s).2
      (Bot.close.run (Bot.refusing (refusalsAtClose k s) t)).2 := by
  have hworld := h.flush
  have hs := chat?_stopAll s.bot k
  have ht := chat?_stopAll t.bot
  have htimers : ∀ (b : Bot) (c : Chat), b.stopAll.chat? k = some c → c.InOrder := by
    intro b c hc
    rw [chat?_stopAll] at hc
    obtain ⟨c₀, -, rfl⟩ := Option.map_eq_some_iff.mp hc
    exact Chat.inOrder_of_timers_nil rfl
  rw [close_run, close_run, h.left.setting]
  have hsetting : (Bot.refusing (refusalsAtClose k s) t).bot.setting = g := h.right.setting
  rw [hsetting]
  exact
    { left := h.left.stopAll
      right := h.right.stopAll
      alone := fun key c hc => by
        obtain ⟨c₀, hc₀, -⟩ := Option.map_eq_some_iff.mp ((ht key).symm.trans hc)
        exact h.alone key c₀ hc₀
      chat := by
        show (t.bot.stopAll.chat? k).map _ = (s.bot.stopAll.chat? k).map _
        rw [hs, ht]
        rcases h.chat_cases with ⟨hc, hc'⟩ | ⟨c, c', hc, hc', hsame, -⟩
        · rw [hc, hc']
        · rw [hc, hc']
          exact congrArg (fun c : Chat => some { c with timers := [] }) hsame
      inOrder := htimers s.bot
      inOrder' := htimers t.bot
      queue := h.queue
      world := hworld }

end

end Bot
end ScriptedChat
