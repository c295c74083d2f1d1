import ScriptedChat.Proofs.Bot.Single

/-!
# Chats by themselves

A chat notices nothing of the other chats of its bot.  What it is, what is kept and logged of it,
and the messages that it sends are what they would be if there were no other chats at all: a bot
that has this chat only, and with which only those deeds are done that have to do with it, comes to
the same.

## Deeds of one chat

What has to do with a chat is what comes in for it, its notes, announcements to it, its stopwatches,
and the time (`Bot.Deed.concerns`).  Of a row of deeds they are left when all others are removed
(`Bot.own`).  The failures of the store are taken out of the same list by all chats, so it has to be
said with each of these deeds what the disk refuses from there on (`Bot.afterOwn`).

* `Bot.Isolated.other`: a deed of another chat.
* `Bot.Isolated.deal`, `Bot.Isolated.idle`: a deed of the chat.
* `Bot.Isolated.after`: a row of deeds.
* `Bot.chats_are_isolated`: a whole run.
-/

namespace ScriptedChat
namespace Bot

variable {τ σ : Type}

/-! ## What has to do with one chat -/

/-- The deed has to do with a chat. -/
def Deed.concerns (k : String) (b : Bot) : Deed → Bool
  | .receive e => e.chat = k
  | .note n => n.chat = k
  | .take => b.queue.head?.any fun n => n.chat = k
  | .announce key _ => key = k
  | .takeAnnouncement => true
  | .ring key _ => key = k
  | .pass _ => true

variable [Transport τ]

/-- The deeds of a row that have to do with a chat, each with what the disk was to refuse from there
on. -/
def own (k : String) : List Deed → Stage τ → List (List (Option Nat) × Deed)
  | [], _ => []
  | d :: ds, s =>
    if d.concerns k s.bot then (s.world.disk.refusals, d) :: own k ds (d.act.run s).2
    else own k ds (d.act.run s).2

/-- The stage after deeds that are done with their own refusals. -/
def afterOwn (l : List (List (Option Nat) × Deed)) (s : Stage τ) : Stage τ :=
  l.foldl (fun s p => (p.2.act.run (refusing p.1 s)).2) s

section

variable {g : Setting} {k : String} {mine : String → Prop} {seen : τ → σ}

/-! ## Deeds of other chats -/

/-- What comes to another chat leaves the notes of this one, and nothing that it can see is
different. -/
theorem Isolated.otherDeal (hlocal : Transport.IsLocal k mine seen) {s t : Stage τ}
    (h : Isolated g k seen s t) {d : Deed} {key : String} (hkey : d.chat? = some key)
    (hne : key ≠ k) (hpress : ∀ p ∈ d.press?, ¬mine p) :
    Isolated g k seen (d.act.run s).2 t := by
  have hchat := chat?_act h.left.sorted h.left.setting hkey k
  rw [if_neg (Ne.symm hne)] at hchat
  have hplot : Plot.Related (Diag (Chat.Aside g k seen key s.world))
      (Diag (World.Aside g k seen key s.world)) ((plot s key).answered d.press?)
      ((plot s key).answered d.press?) := by
    have haside : World.Aside g k seen key s.world (answered d.press? s.world) :=
      (World.Aside.refl h.world.files.left).answered hlocal hpress
    rw [Plot.Related, Plot.answered, plot]
    cases hc : s.bot.chat? key with
    | some c => exact ⟨rfl, h.left.ids key c hc, haside⟩
    | none => exact ⟨rfl, haside⟩
  obtain ⟨-, -, hrel⟩ := (isPlotCourse_aside hlocal g hne s.world).deal hkey hplot False.elim
  have hworld : World.Aside g k seen key s.world (d.act.run s).2.world := by
    rw [world_act h.left.sorted h.left.setting hkey]
    revert hrel
    rcases d.deal g (plot s key) with ⟨r, _ | c, w⟩
    · exact fun hrel => hrel.2
    · exact fun hrel => hrel.2.world
  exact
    { h with
      left := h.left.act d
      chat := by rw [hchat, h.chat]
      inOrder := by rw [hchat]; exact h.inOrder
      queue := by rw [queue_act h.left.sorted h.left.setting hkey, h.queue]
      world := h.world.aside hne hworld }

/-- A note of another chat is taken off the queue. -/
theorem Isolated.otherTake {s t : Stage τ} (h : Isolated g k seen s t)
    (hd : Deed.take.concerns k s.bot = false) : Isolated g k seen (Deed.take.act.run s).2 t := by
  have hqueue : notesOf k s.bot.queue.tail = notesOf k s.bot.queue := by
    rw [Deed.concerns] at hd
    cases hq : s.bot.queue with
    | nil => rfl
    | cons n queue =>
      rw [hq] at hd
      rw [notesOf_cons, if_neg (of_decide_eq_false hd)]
      rfl
  exact { h with left := h.left.act .take, queue := h.queue.trans hqueue.symm }

/-- A stopwatch of another chat rings. -/
theorem Isolated.otherRing {s t : Stage τ} (h : Isolated g k seen s t) {key : String}
    (hne : key ≠ k) (slot : Nat) : Isolated g k seen ((Deed.ring key slot).act.run s).2 t := by
  have hchat : (s.bot.ringOne key slot).chat? k = s.bot.chat? k := by
    rw [chat?_ringOne h.left.sorted, if_neg (Ne.symm hne)]
  have hqueue : notesOf k (s.bot.ringOne key slot).queue = notesOf k s.bot.queue := by
    rw [ringOne_eq h.left.sorted]
    cases hc : s.bot.chat? key with
    | none => rfl
    | some c =>
      dsimp only
      have hnotes : notesOf k (ringAt slot c).2 = [] := notesOf_eq_nil fun n hn => by
        rw [chat_of_mem_ringAt hn, h.left.ids key c hc]
        exact hne
      rw [notesOf_append, hnotes, List.append_nil]
  exact
    { h with
      left := h.left.act (.ring key slot)
      chat := h.chat.trans (congrArg (Option.map Chat.unticketed) hchat.symm)
      inOrder := fun c hc => h.inOrder c (hchat.symm.trans hc)
      queue := h.queue.trans hqueue.symm }

/-- **What another chat does makes no difference.** -/
theorem Isolated.other (hlocal : Transport.IsLocal k mine seen) {s t : Stage τ}
    (h : Isolated g k seen s t) {d : Deed} (hd : d.concerns k s.bot = false)
    (hpress : ∀ p ∈ d.press?, ¬mine p) : Isolated g k seen (d.act.run s).2 t := by
  cases d with
  | receive e => exact h.otherDeal hlocal rfl (of_decide_eq_false hd) hpress
  | note n => exact h.otherDeal hlocal rfl (of_decide_eq_false hd) hpress
  | announce key step => exact h.otherDeal hlocal rfl (of_decide_eq_false hd) hpress
  | take => exact h.otherTake hd
  | ring key slot => exact h.otherRing (of_decide_eq_false hd) slot
  | takeAnnouncement => cases hd
  | pass t => cases hd

/-! ## Deeds of the chat -/

/-- **What the chat does, it does in both.** -/
theorem Isolated.deal (hlocal : Transport.IsLocal k mine seen) {s t : Stage τ}
    (h : Isolated g k seen s t) (hrefusals : t.world.disk.refusals = s.world.disk.refusals)
    {d : Deed} (hd : d.chat? = some k) : Isolated g k seen (d.act.run s).2 (d.act.run t).2 := by
  have hsound := h.left.act d
  have hsound' := h.right.act d
  have hchat := chat?_act h.left.sorted h.left.setting hd
  have hchat' := chat?_act h.right.sorted h.right.setting hd
  have hworld := world_act h.left.sorted h.left.setting hd
  have hworld' := world_act h.right.sorted h.right.setting hd
  have htwin : s.world.Twin g k seen t.world := { h.world with refusals := hrefusals }
  have hplot : Plot.Related (Chat.Twin g k seen) (World.Twin g k seen)
      ((plot s k).answered d.press?) ((plot t k).answered d.press?) := by
    have hanswered := htwin.answered hlocal d.press?
    rw [Plot.Related, Plot.answered, Plot.answered, plot, plot]
    rcases h.chat_cases with ⟨hs, ht⟩ | ⟨c, c', hs, ht, hsame, horder, horder'⟩
    · rw [hs, ht]
      exact hanswered
    · rw [hs, ht]
      exact ⟨h.left.ids k c hs, hsame, horder, horder', hanswered⟩
  obtain ⟨-, -, hrel⟩ := (isPlotCourse_twin hlocal g).deal hd hplot False.elim
  obtain ⟨hsame, horder, horder', hbeside⟩ := Plot.same_of_twin hrel
  have hk := hchat k
  have hk' := hchat' k
  rw [if_pos rfl] at hk hk'
  exact
    { left := hsound
      right := hsound'
      alone := fun key x hx => by
        rw [hchat'] at hx
        split at hx
        · assumption
        · exact h.alone key x hx
      chat := by rw [hk, hk']; exact hsame
      inOrder := by rw [hk]; exact horder
      inOrder' := by rw [hk']; exact horder'
      queue := by
        rw [queue_act h.left.sorted h.left.setting hd, queue_act h.right.sorted h.right.setting hd,
          h.queue]
      world := by rw [hworld, hworld']; exact hbeside }

/-- A note of the chat is taken off both queues. -/
theorem Isolated.take {s t : Stage τ} (h : Isolated g k seen s t)
    (hconcerns : Deed.take.concerns k s.bot = true) :
    Isolated g k seen (Deed.take.act.run s).2 (Deed.take.act.run t).2 := by
  rw [Deed.concerns] at hconcerns
  have hqueue : t.bot.queue.tail = notesOf k s.bot.queue.tail := by
    rw [h.queue]
    cases hq : s.bot.queue with
    | nil => rfl
    | cons n queue =>
      rw [hq] at hconcerns
      rw [notesOf_cons, if_pos (of_decide_eq_true hconcerns)]
      rfl
  exact
    { h with
      left := h.left.act .take
      right := h.right.act .take
      queue := hqueue }

/-- A stopwatch of the chat rings in both. -/
theorem Isolated.ring {s t : Stage τ} (h : Isolated g k seen s t) (slot : Nat) :
    Isolated g k seen ((Deed.ring k slot).act.run s).2 ((Deed.ring k slot).act.run t).2 := by
  have hs := ringOne_eq h.left.sorted k slot
  have ht := ringOne_eq h.right.sorted k slot
  have hchat := chat?_ringOne h.left.sorted k slot k
  have hchat' := chat?_ringOne h.right.sorted k slot
  have hmine := hchat' k
  rw [if_pos rfl] at hchat hmine
  rcases h.chat_cases with ⟨hnone, hnone'⟩ | ⟨c, c', hc, hc', hsame, horder, horder'⟩
  · rw [hnone] at hs
    rw [hnone'] at ht
    have hleft : ((Deed.ring k slot).act.run s).2 = s :=
      congrArg (fun bot => ({ s with bot } : Stage τ)) hs
    have hright : ((Deed.ring k slot).act.run t).2 = t :=
      congrArg (fun bot => ({ t with bot } : Stage τ)) ht
    rw [hleft, hright]
    exact h
  obtain ⟨hrung, hnotes⟩ := Chat.ringAt_congr hsame slot
  rw [hc] at hs hchat
  rw [hc'] at ht hmine
  exact
    { left := h.left.act (.ring k slot)
      right := h.right.act (.ring k slot)
      alone := fun key x hx => by
        have hx' := (hchat' key).symm.trans hx
        split at hx'
        · assumption
        · exact h.alone key x hx'
      chat := by
        show ((t.bot.ringOne k slot).chat? k).map _ = ((s.bot.ringOne k slot).chat? k).map _
        rw [hchat, hmine]
        exact congrArg some hrung
      inOrder := fun x hx => by
        rw [Option.some.inj (hx.symm.trans hchat)]
        exact horder.ringAt slot
      inOrder' := fun x hx => by
        rw [Option.some.inj (hx.symm.trans hmine)]
        exact horder'.ringAt slot
      queue := by
        show (t.bot.ringOne k slot).queue = notesOf k (s.bot.ringOne k slot).queue
        have hown : notesOf k (ringAt slot c).2 = (ringAt slot c).2 :=
          notesOf_eq_self fun n hn => by rw [chat_of_mem_ringAt hn, h.left.ids k c hc]
        rw [hs, ht]
        dsimp only
        rw [notesOf_append, hown, h.queue, hnotes]
      world := h.world }

/-- Time passes in both. -/
theorem Isolated.pass {s t : Stage τ} (h : Isolated g k seen s t) (now : Int) :
    Isolated g k seen ((Deed.pass now).act.run s).2 ((Deed.pass now).act.run t).2 := by
  have hchat := chat?_ringAll s.bot now k
  have hchat' := chat?_ringAll t.bot now
  exact
    { left := h.left.act (.pass now)
      right := h.right.act (.pass now)
      alone := fun key c hc => by
        obtain ⟨c₀, hc₀, -⟩ := Option.map_eq_some_iff.mp ((hchat' key).symm.trans hc)
        exact h.alone key c₀ hc₀
      chat := by
        show ((t.bot.ringAll now).chat? k).map _ = ((s.bot.ringAll now).chat? k).map _
        rw [hchat, hchat']
        rcases h.chat_cases with ⟨hs, ht⟩ | ⟨c, c', hs, ht, hsame, -⟩
        · rw [hs, ht]
        · rw [hs, ht, Option.map_some, Option.map_some, Option.map_some, Option.map_some,
            Chat.ring_unticketed, Chat.ring_unticketed, hsame]
      inOrder := fun c hc => by
        obtain ⟨c₀, hc₀, rfl⟩ := Option.map_eq_some_iff.mp (hchat.symm.trans hc)
        exact (h.inOrder c₀ hc₀).ring now
      inOrder' := fun c hc => by
        obtain ⟨c₀, hc₀, rfl⟩ := Option.map_eq_some_iff.mp ((hchat' k).symm.trans hc)
        exact (h.inOrder' c₀ hc₀).ring now
      queue := by
        show t.bot.queue ++ t.bot.ringingNotes now
          = notesOf k (s.bot.queue ++ s.bot.ringingNotes now)
        rw [notesOf_append, h.queue, h.ringingNotes now]
      world :=
        { now := rfl
          seen := h.world.seen
          messages := h.world.messages
          files := h.world.files } }

/-- What comes and goes and rings for the chat does so in both. -/
theorem Isolated.idle {s t : Stage τ} (h : Isolated g k seen s t) {d : Deed}
    (hconcerns : d.concerns k s.bot = true) (hd : d.chat? = none) :
    Isolated g k seen (d.act.run s).2 (d.act.run t).2 := by
  cases d with
  | take => exact h.take hconcerns
  | takeAnnouncement =>
    exact
      { h with
        left := h.left.act .takeAnnouncement
        right := h.right.act .takeAnnouncement }
  | ring key slot =>
    have hkey : key = k := of_decide_eq_true hconcerns
    rw [hkey]
    exact h.ring slot
  | pass now => exact h.pass now
  | receive e => cases hd
  | note n => cases hd
  | announce key step => cases hd

/-- A deed that is for one chat has to do with this one. -/
theorem Deed.concerns_eq {d : Deed} {key : String} (hd : d.chat? = some key) (k : String)
    (b : Bot) : d.concerns k b = decide (key = k) := by
  cases d with
  | receive e => cases hd; rfl
  | note n => cases hd; rfl
  | announce x step => cases hd; rfl
  | _ => cases hd

/-! ## Rows of deeds -/

/-- **A row of deeds, and those of them that have to do with the chat.** -/
theorem Isolated.after (hlocal : Transport.IsLocal k mine seen) {s t : Stage τ}
    (h : Isolated g k seen s t) (ds : List Deed)
    (hmine : ∀ e, Deed.receive e ∈ ds → ∀ p ∈ e.press, mine p → e.chat = k) :
    Isolated g k seen (after ds s) (afterOwn (own k ds s) t) := by
  induction ds generalizing s t with
  | nil => exact h
  | cons d ds ih =>
    have hrest := fun e he => hmine e (List.mem_cons_of_mem d he)
    rw [after_cons, own]
    split
    · rename_i hconcerns
      refine ih (t := (d.act.run (Bot.refusing s.world.disk.refusals t)).2) ?_ hrest
      have hrefusing := h.refusing s.world.disk.refusals
      cases hd : d.chat? with
      | none => exact hrefusing.idle hconcerns hd
      | some key =>
        rw [Deed.concerns_eq hd, decide_eq_true_eq] at hconcerns
        exact hrefusing.deal hlocal rfl (hconcerns ▸ hd)
    · rename_i hconcerns
      refine ih (h.other hlocal (Bool.eq_false_iff.mpr hconcerns) fun p hp hp' => ?_) hrest
      -- A press that belongs to the chat was made there.
      cases d with
      | receive e => exact hconcerns (decide_eq_true (hmine e (List.mem_cons_self ..) p hp hp'))
      | _ => cases hp

/-- **Chats are isolated.**  A bot has started where every record lies in the directory of its chat.
Then whatever deeds are done, every chat has its key as its id.

For one of the chats, what becomes of its messages and answers depends on nothing but what the
transport has seen of it, and a second bot is started in a world that looks the same to this chat
and has no record of any other.  If only those deeds are done with it that have to do with this
chat, with the refusals of the disk that it has met in the first, then everything is the same for
this chat, and it is the same when both bots have been closed.

As the row is arbitrary, this holds for every order in which a step is announced to the chats. -/
theorem chats_are_isolated (hlocal : Transport.IsLocal k mine seen) {w w' v : World τ} {b : Bot}
    (hplace : InPlace g w.disk) (hstart : (start g).run w = (.ok b, w'))
    (hbeside : w.Beside g k seen v) (halone : ∀ key, key ≠ k → g.store.loaded? key v.disk = none)
    (ds : List Deed) (hmine : ∀ e, Deed.receive e ∈ ds → ∀ p ∈ e.press, mine p → e.chat = k) :
    (∀ key c, (after ds ⟨b, w'⟩).bot.chat? key = some c → c.id = key)
      ∧ ∃ b' v', (start g).run v = (.ok b', v')
        ∧ SameFor g k (after ds ⟨b, w'⟩) (afterOwn (own k ds ⟨b, w'⟩) ⟨b', v'⟩)
        ∧ SameFor g k (close.run (after ds ⟨b, w'⟩)).2
          (close.run (refusing (refusalsAtClose k (after ds ⟨b, w'⟩))
            (afterOwn (own k ds ⟨b, w'⟩) ⟨b', v'⟩))).2 := by
  obtain ⟨b', v', hstart', hfirst⟩ := isolated_start hplace hstart hbeside halone
  have hlast := hfirst.after hlocal ds hmine
  exact ⟨hlast.left.ids, b', v', hstart', hlast.sameFor, hlast.close.sameFor⟩

end

/-! ## A chat in bad company -/

/-- Messages to one chat do not arrive, and the first write of all is refused. -/
def troubled : World Refusing :=
  { newWorld with
    disk := { newWorld.disk with refusals := [some 0] }
    transport := ⟨[("7", DeliveryError.forbidden)]⟩ }

/-- Two people write.  The chat of the first one cannot be made until he presses a button, and then
no message reaches him.  The timers of both chats ring, and their first notes are handled. -/
def crowd : List Deed :=
  [ .receive ⟨"7", "Hi", ⟨7, false, "Bob", none, none, none⟩, none⟩
  , .receive ⟨"42", "Hi", ⟨42, false, "Ann", none, none, none⟩, some "second"⟩
  , .receive ⟨"7", "Hello?", ⟨7, false, "Bob", none, none, none⟩, some "first"⟩
  , .pass 3600000, .take, .take
  , .note ⟨"7", 1, 0⟩, .note ⟨"42", 1, 0⟩ ]

theorem chats_troubled : (reminding "(1h)").store.chats troubled.disk = .ok [] := by
  decide +kernel

/-- The second chat is on its second step, as it would be without the first one, which has become
inactive. -/
theorem undisturbed_chat_of_crowd :
    outcomes crowd ⟨newBot (reminding "(1h)"), troubled⟩ ≠ List.replicate 8 (.ok ())
      ∧ ((after crowd ⟨newBot (reminding "(1h)"), troubled⟩).bot.chat? "7").map Chat.active
        = some false
      ∧ ((after crowd ⟨newBot (reminding "(1h)"), troubled⟩).bot.chat? "42").map Chat.stepId
        = some (some "2")
      ∧ SameFor (reminding "(1h)") "42" (after crowd ⟨newBot (reminding "(1h)"), troubled⟩)
        (afterOwn (own "42" crowd ⟨newBot (reminding "(1h)"), troubled⟩)
          ⟨newBot (reminding "(1h)"), newWorld⟩) := by
  have htree : troubled.disk.IsTree := (Disk.Within.refusals (q := []) Disk.isTree_empty _).tree
  have hholds : (reminding "(1h)").store.Holds troubled.disk :=
    Store.holds_of_chats htree chats_troubled
  have hfiles : (reminding "(1h)").store.SameFiles "42" troubled.disk newWorld.disk :=
    (Store.SameFiles.refl hholds "42").refusals []
  have hstart : (start (reminding "(1h)")).run troubled
      = (.ok (newBot (reminding "(1h)")), troubled) := start_of_chats_nil chats_troubled
  have hnone : ∀ key, (reminding "(1h)").store.loaded? key newWorld.disk = none := fun key =>
    Option.eq_none_iff_forall_ne_some.mpr fun r hr =>
      load_of_chats_nil Disk.isTree_empty chats_newWorld key r (Store.loaded?_eq_some.mp hr)
  have hbeside : troubled.Beside (reminding "(1h)") "42"
      (fun r : Refusing => (Keyed.find? "42" r.codes, Keyed.find? "callback" r.codes)) newWorld :=
    { now := rfl, seen := by decide, messages := rfl, files := hfiles }
  have hmine : ∀ e, Deed.receive e ∈ crowd → ∀ p ∈ e.press, p = "second" → e.chat = "42" := by
    rintro e he p hp rfl
    simp only [crowd, List.mem_cons, Deed.receive.injEq, List.not_mem_nil, reduceCtorEq,
      or_false] at he
    rcases he with rfl | rfl | rfl
    · cases hp
    · rfl
    · exact absurd hp (by decide)
  obtain ⟨-, b', v', hstart', hsame, -⟩ := chats_are_isolated
    (Refusing.isLocal "42" fun p => p = "second") (inPlace_of_chats_nil htree chats_troubled) hstart
    hbeside (fun key _ => hnone key) crowd hmine
  obtain ⟨hbot, rfl⟩ := Prod.mk.inj (hstart'.symm.trans (start_newWorld "(1h)"))
  obtain rfl := Except.ok.inj hbot
  exact ⟨by decide +kernel, by decide +kernel, by decide +kernel, hsame⟩

end Bot
end ScriptedChat
