import ScriptedChat.Proofs.Bot.Dealing
import ScriptedChat.Proofs.Bot.Life
import ScriptedChat.Proofs.Store.Logs

/-!
# What becomes of messages

A message that does not arrive makes no difference to what comes after it.  Two bots that are alike
but for their transports stay alike, whatever is done to both of them, as long as the store does
its part for each: they have the same chats, apart from their activity, the same logs, and they have
posted the same requests.

While a chat that has become inactive is kept as such, it is not in the other run.  So an action
of one run alone can change the disk; it changes no log, and so the worlds stay alike.

* `World.Alike`, `Chat.Alike`, `Bot.Alike`: what is the same, whatever became of the messages.
* `Chat.isPairCourse_alike`: the small steps.
* `Bot.pair_alike`: a deed.
* `Bot.deliveries_change_activity_only`: a whole run.
-/

namespace ScriptedChat

variable {τ υ : Type}

/-! ## Worlds that are alike -/

/-- Two worlds are alike, apart from their transports and from what is kept of chats. -/
structure World.Alike (g : Setting) (w : World τ) (w' : World υ) : Prop where
  now : w'.now = w.now
  tickets : w'.tickets = w.tickets
  outbox : w'.outbox = w.outbox
  left : g.store.Holds w.disk
  right : g.store.Holds w'.disk
  logs : ∀ k, g.store.log? k w'.disk = g.store.log? k w.disk

namespace World.Alike

variable {g : Setting} {w : World τ} {w' : World υ}

theorem symm (h : w.Alike g w') : w'.Alike g w :=
  ⟨h.now.symm, h.tickets.symm, h.outbox.symm, h.right, h.left, fun k => (h.logs k).symm⟩

theorem trans {ω : Type} {w'' : World ω} (h : w.Alike g w') (h' : w'.Alike g w'') :
    w.Alike g w'' :=
  ⟨h'.now.trans h.now, h'.tickets.trans h.tickets, h'.outbox.trans h.outbox, h.left, h'.right,
    fun k => (h'.logs k).trans (h.logs k)⟩

/-- To keep a record makes no difference. -/
theorem save (h : g.store.Holds w.disk) (r : ChatRecord) :
    w.Alike g { w with disk := ((g.store.save r).run w.disk).2 } :=
  ⟨rfl, rfl, rfl, h, (Store.saves h r).spares.holds, Store.log?_save h r⟩

/-- The same request is posted in both worlds. -/
theorem post [Transport τ] [Transport υ] (h : w.Alike g w') (request : Request) :
    (World.post request w).2.Alike g (World.post request w').2 :=
  ⟨h.now, h.tickets, congrArg (· ++ [request]) h.outbox, h.left, h.right, h.logs⟩

theorem answered [Transport τ] [Transport υ] (h : w.Alike g w') (press : Option String) :
    (Bot.answered press w).Alike g (Bot.answered press w') := by
  cases press with
  | none => exact h
  | some p => exact h.post (.answer p)

end World.Alike

/-! ## Chats that are alike -/

namespace Chat

/-- The chat as if its messages arrived. -/
def asReachable (c : Chat) : Chat := { c with active := true }

/-- Two scenes are alike, apart from whether messages arrive. -/
structure Alike (g : Setting) (s : Scene τ) (t : Scene υ) : Prop where
  chat : t.chat.asReachable = s.chat.asReachable
  world : s.world.Alike g t.world

section

variable {g : Setting} {s : Scene τ} {t : Scene υ}

namespace Alike

theorem symm (h : Alike g s t) : Alike g t s := ⟨h.chat.symm, h.world.symm⟩

theorem trans {ω : Type} {u : Scene ω} (h : Alike g s t) (h' : Alike g t u) : Alike g s u :=
  ⟨h'.chat.trans h.chat, h.world.trans h'.world⟩

/-- What is the same of two chats that are alike. -/
theorem fields (h : Alike g s t) :
    t.chat.id = s.chat.id ∧ t.chat.stepId = s.chat.stepId ∧ t.chat.refId = s.chat.refId
      ∧ t.chat.timers = s.chat.timers ∧ t.chat.generation = s.chat.generation := by
  have hid := congrArg Chat.id h.chat
  have hstep := congrArg Chat.stepId h.chat
  have href := congrArg Chat.refId h.chat
  have htimers := congrArg Chat.timers h.chat
  have hgeneration := congrArg Chat.generation h.chat
  exact ⟨hid, hstep, href, htimers, hgeneration⟩

/-- A chat that is kept after its activity has changed is like the one that it was. -/
theorem save (h : g.store.Holds s.world.disk) (active : Bool)
    (hno : ¬StoreFailed ((Chat.save g).run { s with chat := { s.chat with active } }).1) :
    ((Chat.save g).run { s with chat := { s.chat with active } }).1 = .ok ()
      ∧ Alike g s ((Chat.save g).run { s with chat := { s.chat with active } }).2 := by
  rw [save_run_snd]
  refine ⟨?_, rfl, World.Alike.save h _⟩
  rw [save_run] at hno ⊢
  generalize (g.store.save _).run s.world.disk = p at hno ⊢
  obtain ⟨e | _, d⟩ := p
  · exact absurd ⟨e, rfl⟩ hno
  · rfl

/-- A message is posted, and whatever becomes of it, nothing else is different. -/
theorem send [Transport τ] (h : g.store.Holds s.world.disk) (text : String)
    (buttons : Option (List String)) (hno : ¬StoreFailed ((Chat.send g text buttons).run s).1) :
    ((Chat.send g text buttons).run s).1 = .ok ()
      ∧ Alike g (posted s text buttons) ((Chat.send g text buttons).run s).2 := by
  by_cases hrefused : IsRefused s text buttons
  · rw [send_of_isRefused g hrefused] at hno ⊢
    exact save (s := posted s text buttons) h false hno
  · rw [send_of_not_isRefused g hrefused]
    exact ⟨rfl, rfl, rfl, rfl, rfl, h, h, fun _ => rfl⟩

theorem markReachable (h : g.store.Holds s.world.disk)
    (hno : ¬StoreFailed ((Chat.markReachable g).run s).1) :
    ((Chat.markReachable g).run s).1 = .ok () ∧ Alike g s ((Chat.markReachable g).run s).2 := by
  rw [markReachable_run] at hno ⊢
  split at hno
  · rename_i hactive
    rw [if_pos hactive]
    exact ⟨rfl, rfl, rfl, rfl, rfl, h, h, fun _ => rfl⟩
  · rename_i hactive
    rw [if_neg hactive]
    exact save h true hno

/-- Two runs of actions that leave alike what was alike. -/
theorem agree {x : ChatAction τ Unit} {y : ChatAction υ Unit} {s₁ : Scene τ} {t₁ : Scene υ}
    (h₁ : Alike g s₁ t₁)
    (hx : ¬StoreFailed (x.run s).1 → (x.run s).1 = .ok () ∧ Alike g s₁ (x.run s).2)
    (hy : ¬StoreFailed (y.run t).1 → (y.run t).1 = .ok () ∧ Alike g t₁ (y.run t).2) :
    Agree True (Alike g) (x.run s) (y.run t) := by
  intro hno
  obtain ⟨hleft, hright⟩ := hno trivial
  obtain ⟨hokx, hx⟩ := hx hleft
  obtain ⟨hoky, hy⟩ := hy hright
  exact ⟨hokx.trans hoky.symm, fun _ => ⟨(), hokx⟩, (hx.symm.trans h₁).trans hy⟩

end Alike

/-- The same line is logged in both runs. -/
theorem Alike.writeLog (h : Alike g s t) (text : String) :
    Agree True (Alike g) ((Chat.writeLog g text).run s) ((Chat.writeLog g text).run t) := by
  intro hno
  obtain ⟨hleft, hright⟩ := hno trivial
  have hid := h.fields.1
  obtain ⟨hchat, hworld⟩ := h
  have hlog := Store.log?_appendLog hworld.left s.chat.id s.world.now text
  have hlog' := Store.log?_appendLog hworld.right s.chat.id s.world.now text
  have hother := fun k (hk : k ≠ s.chat.id) =>
    Store.log?_appendLog_other hworld.left hk s.world.now text
  have hother' := fun k (hk : k ≠ s.chat.id) =>
    Store.log?_appendLog_other hworld.right hk s.world.now text
  have hholds := (Store.appendLog_spares hworld.left s.chat.id s.world.now text).1.holds
  have hholds' := (Store.appendLog_spares hworld.right s.chat.id s.world.now text).1.holds
  rw [writeLog_run] at hleft hright ⊢
  rw [writeLog_run]
  rw [hid, hworld.now] at hright ⊢
  generalize (g.store.appendLog s.chat.id s.world.now text).run s.world.disk = p
    at hleft hlog hother hholds ⊢
  generalize (g.store.appendLog s.chat.id s.world.now text).run t.world.disk = p'
    at hright hlog' hother' hholds' ⊢
  obtain ⟨e | _, d⟩ := p
  · exact absurd ⟨e, rfl⟩ hleft
  obtain ⟨e | _, d'⟩ := p'
  · exact absurd ⟨e, rfl⟩ hright
  refine ⟨rfl, fun _ => ⟨(), rfl⟩, hchat, hworld.now, hworld.tickets, hworld.outbox, hholds,
    hholds', fun k => ?_⟩
  by_cases hk : k = s.chat.id
  · subst hk
    rw [hlog rfl, hlog' rfl, hworld.logs]
  · rw [hother k hk, hother' k hk, hworld.logs]

/-- **Whatever becomes of messages, chats that are alike stay alike.** -/
theorem isPairCourse_alike (g : Setting) [Transport τ] [Transport υ] :
    IsPairCourse g True (Alike g : Scene τ → Scene υ → Prop) (Alike g) := by
  have hsend : ∀ text buttons, Pair True (Alike g : Scene τ → Scene υ → Prop)
      (Chat.send g text buttons) (Chat.send g text buttons) (Alike g) := by
    intro text buttons s t hst
    have hposted : Alike g (posted s text buttons) (posted t text buttons) := by
      refine ⟨hst.chat, ?_⟩
      rw [posted, posted, hst.fields.1]
      exact hst.world.post _
    exact hposted.agree (Alike.send hst.world.left text buttons)
      (Alike.send hst.world.right text buttons)
  exact
    { weaken := fun hst => hst
      settle := fun _ _ _ hst => hst
      step := fun hst => hst.fields.2.1
      ref := fun hst => hst.fields.2.2.1
      save := fun s t hst => hst.agree (Alike.save hst.world.left s.chat.active)
        (Alike.save hst.world.right t.chat.active)
      writeLog := fun text _ _ hst => hst.writeLog text
      send := hsend
      sendWeak := hsend
      markReachable := fun _ _ hst => hst.agree (Alike.markReachable hst.world.left)
        (Alike.markReachable hst.world.right)
      setRef := fun code hst =>
        ⟨congrArg (fun c : Chat => { c with refId := some code }) hst.chat, hst.world⟩
      enterStep := by
        intro s t id step _ hst
        obtain ⟨hchat, hnow, htickets, houtbox, hleft, hright, hlogs⟩ := hst
        have harmed : armTimers t.world.now t.world.tickets step.delayedActions []
            = armTimers s.world.now s.world.tickets step.delayedActions [] := by
          rw [hnow, htickets]
        refine ⟨?_, hnow, ?_, houtbox, hleft, hright, hlogs⟩
        · rw [enterStep, enterStep, harmed]
          exact congrArg (fun c : Chat => { c with
            stepId := some step.id
            timers := armTimers s.world.now s.world.tickets step.delayedActions []
            generation := c.generation + 1 }) hchat
        · rw [enterStep, enterStep, harmed, htickets]
      take := by
        intro s t n hst
        have hawaited := congrArg (fun c : Chat => c.awaited? n) hst.chat
        have hsame : t.chat.awaited? n = s.chat.awaited? n := hawaited
        rw [hsame]
        cases s.chat.awaited? n with
        | none => exact Or.inl ⟨rfl, rfl⟩
        | some x =>
          exact Or.inr ⟨x, x, rfl, rfl, rfl, congrArg (markHandled n.slot x) hst.chat, hst.world⟩ }

end

/-! ## What comes of the clock -/

theorem ringAt_asReachable (slot : Nat) (c : Chat) :
    Bot.ringAt slot c.asReachable = ((Bot.ringAt slot c).1.asReachable, (Bot.ringAt slot c).2) := by
  have htimers : c.asReachable.timers = c.timers := rfl
  rw [Bot.ringAt, Bot.ringAt, htimers]
  cases c.timers[slot]? with
  | none => rfl
  | some t =>
    dsimp only
    split <;> rfl

end Chat

namespace Bot

/-! ## Bots that are alike -/

/-- The bot as if all messages arrived. -/
def asReachable (b : Bot) : Bot :=
  { b with chats := b.chats.map fun p => (p.1, p.2.asReachable) }

theorem chat?_asReachable (b : Bot) (k : String) :
    b.asReachable.chat? k = (b.chat? k).map Chat.asReachable :=
  Keyed.find?_map (fun (_ : String) (c : Chat) => c.asReachable) k b.chats

theorem withChat_asReachable (b : Bot) (k : String) (c : Chat) :
    (b.withChat k c).asReachable = b.asReachable.withChat k c.asReachable := by
  rw [asReachable, withChat, asReachable, withChat]
  exact congrArg (fun chats => ({ b with chats } : Bot))
    (Keyed.insert_map (fun (_ : String) (c : Chat) => c.asReachable) k c b.chats).symm

theorem sorted_asReachable {b : Bot} (hb : Keyed.IsSorted b.chats) :
    Keyed.IsSorted b.asReachable.chats :=
  Keyed.isSorted_map (fun (_ : String) (c : Chat) => c.asReachable) hb

theorem ringAll_asReachable (b : Bot) (now : Int) :
    (b.ringAll now).asReachable = b.asReachable.ringAll now := by
  have hnotes : b.asReachable.ringingNotes now = b.ringingNotes now := by
    rw [ringingNotes, ringingNotes, asReachable, List.flatMap_map]
    rfl
  rw [ringAll, ringAll, hnotes, asReachable, asReachable]
  dsimp only
  rw [List.map_map, List.map_map]
  rfl

theorem ringOne_asReachable {b : Bot} (hb : Keyed.IsSorted b.chats) (key : String) (slot : Nat) :
    (b.ringOne key slot).asReachable = b.asReachable.ringOne key slot := by
  rw [ringOne_eq hb, ringOne_eq (sorted_asReachable hb), chat?_asReachable]
  cases b.chat? key with
  | none => rfl
  | some c =>
    rw [Option.map_some]
    dsimp only
    rw [Chat.ringAt_asReachable, ← withChat_asReachable]
    rfl

/-- Two bots are alike, apart from whether messages arrive. -/
structure Alike (g : Setting) (s : Stage τ) (t : Stage υ) : Prop where
  setting : s.bot.setting = g
  left : Keyed.IsSorted s.bot.chats
  right : Keyed.IsSorted t.bot.chats
  bot : t.bot.asReachable = s.bot.asReachable
  world : s.world.Alike g t.world

section

variable [Transport τ] [Transport υ] {g : Setting}

/-- What is to be shown of a deed for one chat. -/
theorem isPlotCourse_alike (g : Setting) (key : String) :
    IsPlotCourse g True key (Chat.Alike g : Scene τ → Scene υ → Prop) (Chat.Alike g)
      (World.Alike g) where
  course := Chat.isPairCourse_alike g
  create := by
    intro w w' ref hw hno
    have hsave := World.Alike.save (g := g) hw.left (Chat.opening g.scenario key ref).record
    have hsave' := World.Alike.save (g := g) hw.right (Chat.opening g.scenario key ref).record
    obtain ⟨hleft, hright⟩ := hno trivial
    rw [Chat.create_run] at hleft hright ⊢
    rw [Chat.create_run]
    generalize (g.store.save (Chat.opening g.scenario key ref).record).run w.disk = p
      at hleft hsave ⊢
    generalize (g.store.save (Chat.opening g.scenario key ref).record).run w'.disk = p'
      at hright hsave' ⊢
    obtain ⟨e | _, d⟩ := p
    · exact absurd ⟨e, rfl⟩ hleft
    obtain ⟨e | _, d'⟩ := p'
    · exact absurd ⟨e, rfl⟩ hright
    exact Or.inl ⟨_, _, _, rfl, rfl, rfl, (hsave.symm.trans hw).trans hsave'⟩

/-- A deed for one chat leaves bots alike. -/
theorem Alike.deal {s : Stage τ} {t : Stage υ} (h : Alike g s t) {d : Deed} {key : String}
    (hd : d.chat? = some key) : Agree True (Alike g) (d.act.run s) (d.act.run t) := by
  have hsetting : t.bot.setting = g := (congrArg Bot.setting h.bot).trans h.setting
  have hchat : (t.bot.chat? key).map Chat.asReachable = (s.bot.chat? key).map Chat.asReachable := by
    rw [← chat?_asReachable, ← chat?_asReachable, h.bot]
  have hplot : Plot.Related (Chat.Alike g) (World.Alike g) ((plot s key).answered d.press?)
      ((plot t key).answered d.press?) := by
    have hworld := h.world.answered d.press?
    rw [plot, plot, Plot.answered, Plot.answered, Plot.Related]
    cases hs : s.bot.chat? key with
    | none =>
      rw [hs, Option.map_none, Option.map_eq_none_iff] at hchat
      rw [hchat]
      exact hworld
    | some c =>
      rw [hs, Option.map_some, Option.map_eq_some_iff] at hchat
      obtain ⟨c', hc', heq⟩ := hchat
      rw [hc']
      exact ⟨heq, hworld⟩
  have hcourse : IsPlotCourse g True key (Chat.Alike g : Scene τ → Scene υ → Prop)
      (Chat.Alike g) (World.Alike g) := isPlotCourse_alike g key
  rw [act_run h.left h.setting hd, act_run h.right hsetting hd]
  refine (hcourse.deal hd hplot).map fun {p p'} hp => ?_
  obtain ⟨c, w⟩ := p
  obtain ⟨c', w'⟩ := p'
  cases c with
  | none =>
    cases c' with
    | some c' => exact hp.elim
    | none => exact ⟨h.setting, h.left, h.right, h.bot, hp⟩
  | some c =>
    cases c' with
    | none => exact hp.elim
    | some c' =>
      refine ⟨h.setting, sorted_put h.left _ _, sorted_put h.right _ _, ?_, hp.world⟩
      show (t.bot.withChat key c').asReachable = (s.bot.withChat key c).asReachable
      have hchat' : c'.asReachable = c.asReachable := hp.chat
      rw [withChat_asReachable, withChat_asReachable, h.bot, hchat']

/-- What comes and goes and rings by itself does so in both runs. -/
theorem Alike.idle {s : Stage τ} {t : Stage υ} (h : Alike g s t) {d : Deed}
    (hd : d.chat? = none) :
    (d.act.run s).1 = .ok () ∧ (d.act.run t).1 = .ok ()
      ∧ Alike g (d.act.run s).2 (d.act.run t).2 := by
  cases d with
  | take =>
    exact ⟨rfl, rfl, h.setting, h.left, h.right,
      congrArg (fun b : Bot => { b with queue := b.queue.tail }) h.bot, h.world⟩
  | takeAnnouncement =>
    exact ⟨rfl, rfl, h.setting, h.left, h.right,
      congrArg (fun b : Bot => { b with announced := b.announced.tail }) h.bot, h.world⟩
  | ring key slot =>
    refine ⟨rfl, rfl, ?_, (idle_ringOne h.left key slot).sorted,
      (idle_ringOne h.right key slot).sorted, ?_, h.world⟩
    · exact (idle_ringOne h.left key slot).setting.trans h.setting
    · show (t.bot.ringOne key slot).asReachable = (s.bot.ringOne key slot).asReachable
      rw [ringOne_asReachable h.left, ringOne_asReachable h.right, h.bot]
  | pass now =>
    refine ⟨rfl, rfl, h.setting, (idle_passTo h.left now).sorted, (idle_passTo h.right now).sorted,
      ?_, rfl, h.world.tickets, h.world.outbox, h.world.left, h.world.right, h.world.logs⟩
    show (t.bot.ringAll now).asReachable = (s.bot.ringAll now).asReachable
    rw [ringAll_asReachable, ringAll_asReachable, h.bot]
  | _ => cases hd

/-- **A deed leaves bots alike**, unless the store failed in one of the two runs. -/
theorem pair_alike (g : Setting) (d : Deed) :
    Pair True (Alike g : Stage τ → Stage υ → Prop) d.act d.act (Alike g) := by
  intro s t hst
  cases hd : d.chat? with
  | some key => exact hst.deal hd
  | none =>
    obtain ⟨hs, ht, hidle⟩ := hst.idle hd
    exact fun _ => ⟨hs.trans ht.symm, fun _ => ⟨(), hs⟩, hidle⟩

end

/-! ## From the start on -/

/-- A world with another transport. -/
def rewired (t : υ) (w : World τ) : World υ := ⟨w.now, w.disk, t, w.outbox, w.tickets⟩

theorem restoreChat_rewired (t : υ) (key : String) (b : Bot) (w : World τ) :
    (restoreChat key b).run (rewired t w)
      = (((restoreChat key b).run w).1, rewired t ((restoreChat key b).run w).2) := by
  have hload : b.setting.store.load key (rewired t w).disk = b.setting.store.load key w.disk := rfl
  rw [restoreChat_run, restoreChat_run, hload]
  cases b.setting.store.load key w.disk <;> rfl

/-- A bot starts with the same chats, whatever the transport is. -/
theorem start_rewired {g : Setting} {w w' : World τ} {b : Bot}
    (h : (start g).run w = (.ok b, w')) (t : υ) :
    (start g).run (rewired t w) = (.ok b, rewired t w') := by
  have hfold : ∀ (keys : List String) (b : Bot) (w : World τ),
      (keys.foldlM (fun b key => restoreChat key b) b : StateM (World υ) Bot).run (rewired t w)
        = (((keys.foldlM (fun b key => restoreChat key b) b : StateM (World τ) Bot).run w).1,
          rewired t ((keys.foldlM (fun b key => restoreChat key b) b
            : StateM (World τ) Bot).run w).2) := by
    intro keys
    induction keys with
    | nil => exact fun _ _ => rfl
    | cons key keys ih =>
      intro b w
      show (keys.foldlM (fun b key => restoreChat key b) ((restoreChat key b).run (rewired t w)).1
          : StateM (World υ) Bot).run ((restoreChat key b).run (rewired t w)).2 = _
      rw [restoreChat_rewired, ih]
      rfl
  obtain ⟨keys, hkeys⟩ := chats_of_start h
  have hkeys' : g.store.chats (rewired t w).disk = .ok keys := hkeys
  have hlift : ∀ {ω : Type} (x : StateM (World ω) Bot) (w : World ω),
      (ExceptT.lift x : WorldAction ω Bot).run w = (.ok (x.run w).1, (x.run w).2) := fun _ _ => rfl
  rw [start, Action.run_get_bind] at h ⊢
  dsimp only at h ⊢
  rw [hkeys, hlift] at h
  obtain ⟨hbot, hworld⟩ := Prod.mk.inj h
  rw [hkeys', hlift, hfold]
  exact Prod.ext hbot (congrArg (rewired t) hworld)

/-- **Deliveries change nothing but the activity of chats.**  Two bots have started on the same
world, apart from the transport, and then the same deeds have been done with both of them, none of
which ended with a failure of the store.  Then no deed has failed at all, and the two bots are the
same, apart from whether their chats are active; they have posted the same requests, and the log of
every chat is the same.

As this holds after every row of deeds, it holds after each single one of them. -/
theorem deliveries_change_activity_only [Transport τ] [Transport υ] {g : Setting} {w w' : World τ}
    {b : Bot} (htree : w.disk.IsTree) (hstart : (start g).run w = (.ok b, w')) (t : υ)
    (ds : List Deed) (hno : ∀ r ∈ outcomes ds ⟨b, w'⟩, ¬StoreFailed r)
    (hno' : ∀ r ∈ outcomes ds ⟨b, rewired t w'⟩, ¬StoreFailed r) :
    (start g).run (rewired t w) = (.ok b, rewired t w')
      ∧ (∀ r ∈ outcomes ds ⟨b, w'⟩ ++ outcomes ds ⟨b, rewired t w'⟩, r = .ok ())
      ∧ (∀ k, ((after ds ⟨b, rewired t w'⟩).bot.chat? k).map Chat.asReachable
          = ((after ds ⟨b, w'⟩).bot.chat? k).map Chat.asReachable)
      ∧ (after ds ⟨b, rewired t w'⟩).bot.asReachable = (after ds ⟨b, w'⟩).bot.asReachable
      ∧ (after ds ⟨b, rewired t w'⟩).world.outbox = (after ds ⟨b, w'⟩).world.outbox
      ∧ ∀ k, g.store.log? k (after ds ⟨b, rewired t w'⟩).world.disk
          = g.store.log? k (after ds ⟨b, w'⟩).world.disk := by
  obtain ⟨keys, hkeys, hdisk, -, hsetting, -⟩ := of_start hstart
  have hholds : g.store.Holds w'.disk := hdisk ▸ Store.holds_of_chats htree hkeys
  have hsorted := sorted_start hstart
  have hfirst : Alike g ⟨b, w'⟩ ⟨b, rewired t w'⟩ :=
    ⟨hsetting, hsorted, hsorted, rfl, rfl, rfl, rfl, hholds, hholds, fun _ => rfl⟩
  obtain ⟨hsame, hok, hlast⟩ := pair_after (pair_alike g) hfirst ds fun _ => ⟨hno, hno'⟩
  refine ⟨start_rewired hstart t, fun r hr => ?_, fun k => ?_, hlast.bot, hlast.world.outbox,
    hlast.world.logs⟩
  · rw [← hsame] at hr
    rcases List.mem_append.mp hr with hr | hr
    · exact hok trivial r hr
    · exact hok trivial r hr
  · rw [← chat?_asReachable, ← chat?_asReachable, hlast.bot]

/-! ## A chat that cannot be reached -/

/-- Somebody presses a button, a timer rings, its note is handled, and a step is announced. -/
def pressing : List Deed :=
  [ .receive ⟨"42", "Hi", ⟨42, false, "Ann", none, none, none⟩, some "7"⟩, .ring "42" 0
  , .note ⟨"42", 1, 0⟩, .announce "42" "1" ]

/-- No message arrives, and no press can be answered. -/
def refusingAll : Refusing := ⟨[("42", DeliveryError.forbidden), ("callback", 500)]⟩

theorem outcomes_pressing :
    outcomes pressing ⟨newBot (reminding "(1h)"), newWorld⟩ = [.ok (), .ok (), .ok (), .ok ()] := by
  decide +kernel

theorem outcomes_refusingAll :
    outcomes pressing ⟨newBot (reminding "(1h)"), rewired refusingAll newWorld⟩
      = [.ok (), .ok (), .ok (), .ok ()] := by
  decide +kernel

/-- The chat is inactive at the end if no message arrives, and nothing else is different. -/
theorem unreachable_chat_of_greeted :
    ((after pressing ⟨newBot (reminding "(1h)"), newWorld⟩).bot.chat? "42").map Chat.active
        = some true
      ∧ ((after pressing
          ⟨newBot (reminding "(1h)"), rewired refusingAll newWorld⟩).bot.chat? "42").map Chat.active
        = some false
      ∧ (after pressing ⟨newBot (reminding "(1h)"), rewired refusingAll newWorld⟩).bot.asReachable
        = (after pressing ⟨newBot (reminding "(1h)"), newWorld⟩).bot.asReachable
      ∧ (after pressing ⟨newBot (reminding "(1h)"), rewired refusingAll newWorld⟩).world.outbox
        = (after pressing ⟨newBot (reminding "(1h)"), newWorld⟩).world.outbox := by
  have hno : ∀ r ∈ [.ok (), .ok (), .ok (), .ok ()],
      ¬StoreFailed (r : Except EngineError Unit) := by
    rintro r hr ⟨e, rfl⟩
    simp at hr
  obtain ⟨-, -, -, hbot, houtbox, -⟩ := deliveries_change_activity_only Disk.isTree_empty
    (start_newWorld "(1h)") refusingAll pressing (by rw [outcomes_pressing]; exact hno)
    (by rw [outcomes_refusingAll]; exact hno)
  exact ⟨by decide +kernel, by decide +kernel, hbot, houtbox⟩

end Bot
end ScriptedChat
