import ScriptedChat.Proofs.Bot.Closing
import ScriptedChat.Proofs.Bot.Minding
import ScriptedChat.Proofs.Text.Trim

/-!
# Chats on a step that is not there

A scenario may be changed between two starts of its bot, and a chat may be on a step that is gone.
Such a chat is restored without timers, since there are no actions to which they would belong.  To
every text it replies that its step is not found, and that is all it does.

So its record on the disk stays as it is, with the timers that it lists, for as long as the bot is
there.  But what would be kept of the chat is another record, which lists none; and at the end of
the bot every chat is kept.  Everything else in the record survives, and the timers do only if there
were none.

This is shown among other chats that do whatever they do, and wherever their records lie, as long as
none of them has the id of this one.

* `Chat.respond_of_stranded`: what such a chat replies.
* `Bot.Stranded`, `Bot.Stranded.act`, `Bot.Stranded.after`: it stays as it is.
* `Bot.missing_step_loses_timers`: a whole run, and its end.
-/

namespace ScriptedChat

/-! ## What such a chat does -/

namespace Chat

/-- The chat of a record that names a step that is not there. -/
def stranded (r : ChatRecord) : Chat :=
  { id := r.chatId, stepId := r.stepId, refId := r.refId, active := r.active, timers := []
    generation := 0 }

theorem ofRecord_of_missing {scenario : Scenario} {r : ChatRecord}
    (h : scenario.step? (r.stepId.getD "") = none) (now : Int) (tickets : Nat) :
    ofRecord scenario r now tickets = stranded r := by
  have hstep : (stranded r).step? scenario = none := h
  rw [ofRecord]
  dsimp only
  rw [← stranded, hstep]

/-- What is to be kept of it is its record, but without timers. -/
theorem record_stranded (r : ChatRecord) : (stranded r).record = { r with timers := [] } := rfl

/-- The reply to whoever writes in a chat whose step is not there. -/
def lostNotice (r : ChatRecord) : Request :=
  .message r.chatId ("Step [" ++ r.stepId.getD "" ++ "] is not found") none

/-- A text that does not begin with a slash carries no referral code. -/
theorem referral?_of_not_slash {s : List Char} (h : (Text.trim s).head? ≠ some '/') :
    Bot.referral? (String.ofList (Text.trim s)) = none := by
  have hblank : ∀ c, (Text.trim s).head? = some c → Text.isBlank c = false := fun c hc =>
    Text.isBlank_of_head?_trim hc
  rw [Bot.referral?, String.toList_ofList]
  generalize Text.trim s = text at h hblank
  cases text with
  | nil => rw [Text.words.eq_def]
  | cons c text =>
    rw [Text.words.eq_def]
    dsimp only
    rw [hblank c rfl, if_neg Bool.false_ne_true]
    dsimp only
    rw [if_neg]
    intro heq
    exact h (congrArg some (List.cons.inj heq).1)

variable {τ : Type} [Transport τ] {g : Setting}

/-- It logs what was written, and replies that its step is not there. -/
theorem respond_of_stranded {r : ChatRecord} (hactive : r.active = true) {s : List Char}
    (hs : (Text.trim s).head? ≠ some '/') (w : World τ) :
    (Bot.respond g (String.ofList (Text.trim s))).run ⟨stranded r, w⟩
      = match (Chat.writeLog g (String.ofList (Text.trim s))).run ⟨stranded r, w⟩ with
        | (.ok (), t) => (handleInput g (String.ofList (Text.trim s))).run t
        | (.error e, t) => (.error e, t) := by
  have hmark : (markReachable g).run ⟨stranded r, w⟩ = (.ok (), ⟨stranded r, w⟩) :=
    (markReachable_run g _).trans (if_pos hactive)
  have htext : ¬(String.ofList (Text.trim s)).toList.head? = some '/' := by
    rw [String.toList_ofList]
    exact hs
  rw [Bot.respond, Action.run_bind_ok hmark, Action.run_bind]
  rcases (Chat.writeLog g (String.ofList (Text.trim s))).run ⟨stranded r, w⟩ with ⟨_ | _, t⟩
  · rfl
  · dsimp only
    rw [referral?_of_not_slash hs]
    dsimp only
    rw [handleText, if_neg htext]

/-- Any text is answered in the same way, and the chat is the same then, unless the reply is refused
for good. -/
theorem handleInput_of_stranded {r : ChatRecord} (hactive : r.active = true)
    (hstep : g.scenario.step? (r.stepId.getD "") = none) {text : String} {w : World τ}
    (hheard : ¬Refused r.chatId
      (w.answers ((handleInput g text).run ⟨stranded r, w⟩).2.world)) :
    (handleInput g text).run ⟨stranded r, w⟩
      = (.ok (), ⟨stranded r, (World.post (lostNotice r) w).2⟩) := by
  have hmissing : (stranded r).step? g.scenario = none := hstep
  have hsent : (handleInput g text).run ⟨stranded r, w⟩
      = (Chat.send g ("Step [" ++ r.stepId.getD "" ++ "] is not found") none).run
        ⟨stranded r, w⟩ := by
    rw [handleInput, Action.run_get_bind]
    dsimp only
    rw [hmissing]
    rfl
  rw [hsent] at hheard ⊢
  refine send_of_not_isRefused g fun hrefused => hheard ?_
  have hheeds := (heeds_send g ("Step [" ++ r.stepId.getD "" ++ "] is not found") none
    ⟨stranded r, w⟩).active
  refine (hheeds.mp ?_).resolve_left fun h => ?_
  · rw [send_of_isRefused g hrefused, chat_save]
  · rw [show (stranded r).active = true from hactive] at h
    cases h

/-- **It stays as it is**, as long as what was written can be logged and the reply is not refused
for good: one reply is sent, and the record on the disk is the same. -/
theorem respond_leaves_stranded {r : ChatRecord} (hactive : r.active = true)
    (hstep : g.scenario.step? (r.stepId.getD "") = none) {s : List Char}
    (hs : (Text.trim s).head? ≠ some '/') {w : World τ} (hw : g.store.Holds w.disk)
    (hok : ¬StoreFailed ((Bot.respond g (String.ofList (Text.trim s))).run ⟨stranded r, w⟩).1)
    (hheard : ¬Refused r.chatId
      (w.answers ((Bot.respond g (String.ofList (Text.trim s))).run ⟨stranded r, w⟩).2.world)) :
    ∃ w', (Bot.respond g (String.ofList (Text.trim s))).run ⟨stranded r, w⟩
          = (.ok (), ⟨stranded r, w'⟩)
        ∧ World.Posted [lostNotice r] w w' ∧ g.store.Holds w'.disk
        ∧ g.store.loaded? r.chatId w'.disk = g.store.loaded? r.chatId w.disk := by
  have hrun := respond_of_stranded (g := g) hactive hs w
  generalize String.ofList (Text.trim s) = text at hrun hok hheard ⊢
  obtain ⟨hspares, hloaded⟩ := Store.appendLog_spares hw (stranded r).id w.now text
  have hwrite := writeLog_run g text ⟨stranded r, w⟩
  dsimp only at hwrite
  generalize (g.store.appendLog (stranded r).id w.now text).run w.disk = logged
    at hspares hloaded hwrite
  obtain ⟨e | _, d⟩ := logged
  · rw [hrun, hwrite] at hok
    exact absurd ⟨e, rfl⟩ hok
  · rw [hwrite] at hrun
    dsimp only at hrun
    rw [hrun] at hheard ⊢
    have hheard' : ¬Refused r.chatId (World.answers { w with disk := d }
        ((handleInput g text).run ⟨stranded r, { w with disk := d }⟩).2.world) := hheard
    rw [handleInput_of_stranded hactive hstep hheard']
    exact ⟨_, rfl, ⟨rfl, rfl⟩, hspares.holds, hloaded⟩

end Chat

namespace Bot

variable {τ : Type} {g : Setting} {k : String} {w : World τ}

/-! ## Such a chat among others -/

theorem messagesTo_append (k : String) (qs rs : List Request) :
    messagesTo k (qs ++ rs) = messagesTo k qs ++ messagesTo k rs := List.filter_append ..

/-- Requests that are no messages to a chat. -/
theorem messagesTo_eq_nil {qs : List Request} (h : ∀ text buttons, .message k text buttons ∉ qs) :
    messagesTo k qs = [] := by
  rw [messagesTo, List.filter_eq_nil_iff]
  intro q hq hto
  cases q with
  | message k' text buttons =>
    cases of_decide_eq_true hto
    exact h text buttons hq
  | _ => cases of_decide_eq_true hto

variable [Transport τ]

/-- In a chat nothing happens but that something is written that is no command. -/
def Deed.IsPlainFor (k : String) : Deed → Prop
  | .receive e => e.chat = k → (Text.trim e.text.toList).head? ≠ some '/'
  | .announce key _ => key ≠ k
  | _ => True

/-- The replies to what is written in the chat. -/
def Deed.notices (r : ChatRecord) : Deed → List Request
  | .receive e =>
    if e.chat = r.chatId ∧ Text.trim e.text.toList ≠ [] then [Chat.lostNotice r] else []
  | _ => []

/-- The chat of a record that names a step that is not there.  It is as it was restored, its record
is on the disk, and nobody else has its id. -/
structure Stranded (g : Setting) (r : ChatRecord) (s : Stage τ) : Prop where
  work : AtWork g s
  chat : s.bot.chat? r.chatId = some (Chat.stranded r)
  own : s.bot.IsOwn r.chatId
  load : g.store.load r.chatId s.world.disk = .ok r

variable {r : ChatRecord} {s : Stage τ}

/-- To ring does nothing to a chat without timers. -/
theorem ringAt_stranded (r : ChatRecord) (slot : Nat) :
    ringAt slot (Chat.stranded r) = (Chat.stranded r, []) := rfl

/-- The clock does nothing to it. -/
theorem Stranded.idle (h : Stranded g r s) {d : Deed} (hd : d.chat? = none) :
    Stranded g r (d.act.run s).2 := by
  have hload : g.store.load r.chatId (d.act.run s).2.world.disk = .ok r := by
    rw [disk_idle s hd]
    exact h.load
  refine ⟨h.work.act d, ?_, h.own.act h.work d, hload⟩
  cases d with
  | take => exact h.chat
  | takeAnnouncement => exact h.chat
  | ring key slot =>
    refine (chat?_ringOne h.work.sorted key slot r.chatId).trans ?_
    split
    · rename_i hk
      rw [← hk, h.chat, Option.map_some, ringAt_stranded]
    · exact h.chat
  | pass t =>
    refine (chat?_ringAll s.bot t r.chatId).trans ?_
    rw [h.chat]
    rfl
  | _ => cases hd

/-- What other chats do is not seen by it. -/
theorem Stranded.other (h : Stranded g r s) {d : Deed} {key : String} (hd : d.chat? = some key)
    (hkey : key ≠ r.chatId) :
    Stranded g r (d.act.run s).2
      ∧ ∃ qs, World.Posted qs s.world (d.act.run s).2.world ∧ messagesTo r.chatId qs = [] := by
  obtain ⟨hchat, hload⟩ := load_act_other h.work h.own hd hkey
  have hown := h.own.act h.work d
  obtain ⟨-, ⟨qs, hqs, hsent⟩, -⟩ := deal_minds g hd (plot s key)
  rw [← world_act h.work.sorted h.work.setting hd] at hqs
  refine ⟨⟨h.work.act d, hchat.trans h.chat, hown, hload.trans h.load⟩, qs, hqs,
    messagesTo_eq_nil fun text buttons hmem => ?_⟩
  -- The chat of the deed has another id.
  obtain ⟨c', hc', hid⟩ := hsent r.chatId text buttons hmem
  have hafter : (d.act.run s).2.bot.chat? key = some c' := by
    rw [chat?_act h.work.sorted h.work.setting hd, if_pos rfl]
    exact hc'
  exact hkey ((hown key c' hafter).mp hid)

/-- What is written in it is replied to, and it is as it was. -/
theorem Stranded.receive (hactive : r.active = true)
    (hstep : g.scenario.step? (r.stepId.getD "") = none) (h : Stranded g r s) {e : Inbound}
    (he : e.chat = r.chatId) (htext : (Text.trim e.text.toList).head? ≠ some '/')
    (hfine : (Deed.receive e).Reaches r.chatId → ¬StoreFailed ((handle e).run s).1
      ∧ ¬Refused r.chatId (s.world.answers ((handle e).run s).2.world)) :
    Stranded g r ((handle e).run s).2
      ∧ ∃ qs, World.Posted qs s.world ((handle e).run s).2.world
        ∧ messagesTo r.chatId qs = (Deed.receive e).notices r := by
  have hact : (handle e).run s
      = (((Deed.receive e).deal g (plot s e.chat)).1,
          place s e.chat ((Deed.receive e).deal g (plot s e.chat)).2) :=
    act_run (d := .receive e) h.work.sorted h.work.setting rfl
  obtain ⟨as, has, hno⟩ := posted_answered e.press s.world
  -- It is enough to know what has become of the world.
  have hstays : ∀ w', g.store.Holds w'.disk →
      g.store.loaded? r.chatId w'.disk = g.store.loaded? r.chatId s.world.disk →
      Stranded g r (place s e.chat ⟨some (Chat.stranded r), w'⟩) := by
    intro w' hholds hloaded
    have hsame : place s e.chat ⟨some (Chat.stranded r), w'⟩ = { s with world := w' } := by
      rw [← place_plot h.work.sorted e.chat w', plot, he, h.chat]
    rw [hsame]
    refine ⟨⟨h.work.setting, h.work.sorted, hholds⟩, h.chat, h.own, ?_⟩
    rw [← Store.loaded?_eq_some, hloaded, Store.loaded?_eq_some]
    exact h.load
  have hplot : plot s e.chat = ⟨some (Chat.stranded r), s.world⟩ := by rw [plot, he, h.chat]
  rw [hact, hplot] at hfine ⊢
  rw [Deed.notices]
  by_cases hblank : Text.trim e.text.toList = []
  · rw [deal_of_blank g hblank, if_neg fun hboth => hboth.2 hblank]
    have hdisk : (answered e.press s.world).disk = s.world.disk := disk_answered _ _
    refine ⟨hstays _ (hdisk ▸ h.work.holds) (by rw [hdisk]), as, has, ?_⟩
    exact messagesTo_eq_nil (hno r.chatId)
  · obtain ⟨hok, hheard⟩ := hfine ⟨he, hblank⟩
    rw [deal_of_known g hblank] at hok hheard ⊢
    rw [if_pos ⟨he, hblank⟩]
    have hholds : g.store.Holds (answered e.press s.world).disk := by
      rw [disk_answered]
      exact h.work.holds
    obtain ⟨qs, hqs, -⟩ :=
      (Chat.heeds_respond g (said e) ⟨Chat.stranded r, answered e.press s.world⟩).posted
    have hanswers := has.answers_trans hqs
    obtain ⟨w', hrun, hposted, hholds', hloaded⟩ :=
      Chat.respond_leaves_stranded hactive hstep htext hholds hok fun hrefused => hheard <| by
        show Refused r.chatId (s.world.answers ((respond g (said e)).run _).2.world)
        rw [hanswers]
        exact refused_append.mpr (Or.inr hrefused)
    have hplay : Plot.play (Chat.stranded r) (answered e.press s.world) (respond g (said e))
        = (.ok (), ⟨some (Chat.stranded r), w'⟩) := by
      rw [Plot.play, said, hrun]
    rw [hplay]
    rw [disk_answered] at hloaded
    refine ⟨hstays w' hholds' hloaded, as ++ [Chat.lostNotice r], has.trans hposted, ?_⟩
    rw [messagesTo_append, messagesTo_eq_nil (hno r.chatId), List.nil_append, Chat.lostNotice,
      messagesTo, List.filter_singleton]
    simp [Request.recipient?]

/-- **A deed leaves such a chat as it is**, apart from a reply to what is written in it. -/
theorem Stranded.act (hactive : r.active = true)
    (hstep : g.scenario.step? (r.stepId.getD "") = none) (h : Stranded g r s) {d : Deed}
    (hd : d.IsPlainFor r.chatId)
    (hfine : d.Reaches r.chatId → ¬StoreFailed (d.act.run s).1
      ∧ ¬Refused r.chatId (s.world.answers (d.act.run s).2.world)) :
    Stranded g r (d.act.run s).2
      ∧ ∃ qs, World.Posted qs s.world (d.act.run s).2.world
        ∧ messagesTo r.chatId qs = d.notices r := by
  cases hkey : d.chat? with
  | none =>
    refine ⟨h.idle hkey, [], posted_idle s hkey, ?_⟩
    cases d with
    | receive e => cases hkey
    | _ => rfl
  | some key =>
    by_cases hk : key = r.chatId
    · subst hk
      cases d with
      | receive e =>
        have he : e.chat = r.chatId := Option.some.inj hkey
        exact h.receive hactive hstep he (hd he) hfine
      | note n =>
        -- Without timers there is nothing that a note could be of.
        have hvoid : s.bot.awaited? n = none := by
          rw [awaited?, show n.chat = r.chatId from Option.some.inj hkey, h.chat]
          exact ite_self none
        have hrun : (Deed.note n).act.run s = (.ok (), s) := handleNote_of_void h.work.sorted hvoid
        rw [hrun]
        exact ⟨h, [], .nil rfl rfl, rfl⟩
      | announce key step => exact absurd (Option.some.inj hkey) hd
      | _ => cases hkey
    · have hnone : d.notices r = [] := by
        cases d with
        | receive e => exact if_neg fun hboth => hk ((Option.some.inj hkey).symm.trans hboth.1)
        | _ => rfl
      rw [hnone]
      exact h.other hkey hk

/-- **Whatever a bot does, such a chat stays as it is**, and replies once to every text. -/
theorem Stranded.after (hactive : r.active = true)
    (hstep : g.scenario.step? (r.stepId.getD "") = none) (h : Stranded g r s) {ds : List Deed}
    (hds : ∀ d ∈ ds, d.IsPlainFor r.chatId)
    (hfine : (∃ d ∈ ds, d.Reaches r.chatId) → (∀ x ∈ outcomes ds s, ¬StoreFailed x)
      ∧ ¬Refused r.chatId (s.world.answers (after ds s).world)) :
    Stranded g r (Bot.after ds s)
      ∧ messagesTo r.chatId (Bot.after ds s).world.outbox
        = messagesTo r.chatId s.world.outbox ++ ds.flatMap (Deed.notices r) := by
  induction ds generalizing s with
  | nil => exact ⟨h, (List.append_nil _).symm⟩
  | cons d ds ih =>
    obtain ⟨qs, hqs⟩ := posted_act h.work d
    obtain ⟨rs, hrs⟩ := posted_after (h.work.act d) ds
    have hanswers := hqs.answers_trans hrs
    obtain ⟨hnext, ps, hps, hnotices⟩ := h.act hactive hstep (hds d List.mem_cons_self)
      fun hreaches => by
        obtain ⟨hok, hheard⟩ := hfine ⟨d, List.mem_cons_self, hreaches⟩
        refine ⟨hok _ List.mem_cons_self, fun hrefused => hheard ?_⟩
        rw [after_cons, hanswers]
        exact refused_append.mpr (Or.inl hrefused)
    obtain ⟨hlast, hmessages⟩ := ih hnext (fun x hx => hds x (List.mem_cons_of_mem _ hx))
      fun ⟨x, hx, hreaches⟩ => by
        obtain ⟨hok, hheard⟩ := hfine ⟨x, List.mem_cons_of_mem _ hx, hreaches⟩
        refine ⟨fun y hy => hok y (List.mem_cons_of_mem _ hy), fun hrefused => hheard ?_⟩
        rw [after_cons, hanswers]
        exact refused_append.mpr (Or.inr hrefused)
    refine ⟨hlast, ?_⟩
    rw [after_cons, hmessages, hps.outbox, messagesTo_append, hnotices, List.flatMap_cons,
      List.append_assoc]

/-! ## From the start to the end -/

omit [Transport τ] in
/-- It is there from the start on. -/
theorem stranded_start {w w' : World τ} {b : Bot} (htree : w.disk.IsTree)
    (hstart : (start g).run w = (.ok b, w')) (hr : g.store.load r.chatId w.disk = .ok r)
    (hstep : g.scenario.step? (r.stepId.getD "") = none)
    (halone : ∀ key r', g.store.load key w.disk = .ok r' → r'.chatId = r.chatId →
      key = r.chatId) : Stranded g r ⟨b, w'⟩ := by
  obtain ⟨keys, hkeys, hdisk, -⟩ := of_start hstart
  have hchat : b.chat? r.chatId = some (Chat.stranded r) := by
    have hsome := isSome_chat?_start hstart (Store.holds_of_chats htree hkeys) hr
    obtain ⟨c, hc⟩ := Option.isSome_iff_exists.mp hsome
    obtain ⟨r', ticket, hr', rfl⟩ := load_of_chat?_start hstart hc
    obtain rfl := Except.ok.inj (hr'.symm.trans hr)
    rw [hc, Chat.ofRecord_of_missing hstep]
  refine ⟨atWork_start hstart htree, hchat, fun key c hc => ⟨fun hid => ?_, ?_⟩, ?_⟩
  · obtain ⟨r', ticket, hr', rfl⟩ := load_of_chat?_start hstart hc
    exact halone key r' hr' ((Chat.fields_ofRecord g.scenario r' w.now ticket).1.symm.trans hid)
  · rintro rfl
    rw [← Option.some.inj (hchat.symm.trans hc)]
    rfl
  · show g.store.load r.chatId w'.disk = .ok r
    rw [hdisk]
    exact hr

/-- A record is the same without timers if it has none. -/
theorem withoutTimers_eq_self (r : ChatRecord) : { r with timers := [] } = r ↔ r.timers = [] := by
  constructor
  · intro h
    exact (congrArg ChatRecord.timers h).symm
  · intro h
    rw [← h]

omit [Transport τ] in
/-- What is kept of it at the end is its record, but without timers. -/
theorem Stranded.load_close (h : Stranded g r s) {u : Stage τ}
    (hclose : close.run s = (.ok (), u)) :
    g.store.load r.chatId u.world.disk = .ok { r with timers := [] } := by
  have hmem : (r.chatId, Chat.stranded r) ∈ s.bot.chats := Keyed.mem_of_find? h.chat
  rw [close_run, h.work.setting] at hclose
  obtain ⟨hflush, rfl⟩ := Prod.mk.inj hclose
  have hkept : (r.chatId, .ok ()) ∈ keptEach g s.bot.chats s.world := by
    refine (ok_or_failsFor hmem).resolve_right ?_
    rintro ⟨e, he⟩
    cases flush_eq_ok.mp hflush _ he
  refine Store.load_of_file?
    ((file?_flush h.work.holds h.work.sorted.nodup_keys hmem fun p hp hid => ?_).1 hkept)
  exact (h.own p.1 p.2 ((Keyed.mem_iff_find? h.work.sorted).mp hp)).mp hid

/-- **A step that is missing costs a chat its timers.**  A bot is started where an active chat is
kept on a step that the scenario does not have, and no other record has the id of this chat.  Then
anything is done, but in this chat nothing but to write texts that are no commands; the store does
not fail, and no message to the chat is refused for good.

Then the chat has been sent one notice for each text and nothing else, and its record on the disk is
the one that it was restored from.  But what is to be kept of the chat lists no timers, and that is
what is on the disk once the bot has been ended.  So the record is left as it is if and only if it
lists none. -/
theorem missing_step_loses_timers {w w' : World τ} {b : Bot} (htree : w.disk.IsTree)
    (hstart : (start g).run w = (.ok b, w')) (hr : g.store.load r.chatId w.disk = .ok r)
    (hactive : r.active = true) (hstep : g.scenario.step? (r.stepId.getD "") = none)
    (halone : ∀ key r', g.store.load key w.disk = .ok r' → r'.chatId = r.chatId → key = r.chatId)
    {ds : List Deed} (hds : ∀ d ∈ ds, d.IsPlainFor r.chatId)
    (hok : ∀ x ∈ outcomes ds ⟨b, w'⟩, ¬StoreFailed x)
    (hheard : ¬Refused r.chatId (w'.answers (after ds ⟨b, w'⟩).world)) :
    let s := after ds ⟨b, w'⟩
    messagesTo r.chatId s.world.outbox
          = messagesTo r.chatId w'.outbox ++ ds.flatMap (Deed.notices r)
      ∧ g.store.load r.chatId s.world.disk = .ok r
      ∧ (∃ c, s.bot.chat? r.chatId = some c ∧ c.record = { r with timers := [] }
        ∧ (c.record = r ↔ r.timers = []))
      ∧ ∀ u, shutdown.run s = (.ok (), u) →
        messagesTo r.chatId u.world.outbox = messagesTo r.chatId s.world.outbox
          ∧ g.store.load r.chatId u.world.disk = .ok { r with timers := [] }
          ∧ (g.store.load r.chatId u.world.disk = .ok r ↔ r.timers = []) := by
  intro s
  have hstarted := stranded_start htree hstart hr hstep halone
  obtain ⟨hstranded, hmessages⟩ := hstarted.after hactive hstep hds fun _ => ⟨hok, hheard⟩
  refine ⟨hmessages, hstranded.load, ⟨_, hstranded.chat, Chat.record_stranded r, ?_⟩,
    fun u hshut => ?_⟩
  · rw [Chat.record_stranded, withoutTimers_eq_self]
  · -- The notes that wait are not for this chat, or they are void.
    have hquiet : ∀ d ∈ drainDeeds s.bot,
        d.IsPlainFor r.chatId ∧ ¬d.Reaches r.chatId ∧ d.notices r = [] := by
      intro d hd
      rcases List.mem_append.mp hd with hd | hd
      · rw [List.eq_of_mem_replicate hd]
        exact ⟨trivial, id, rfl⟩
      · obtain ⟨n, -, rfl⟩ := List.mem_map.mp hd
        exact ⟨trivial, id, rfl⟩
    obtain ⟨hdrained, hsilent⟩ := hstranded.after hactive hstep
      (fun d hd => (hquiet d hd).1) fun ⟨d, hd, hreaches⟩ => absurd hreaches (hquiet d hd).2.1
    rw [shutdown_run] at hshut
    have hload := hdrained.load_close hshut
    refine ⟨?_, hload, ?_⟩
    · have hnone : (drainDeeds s.bot).flatMap (Deed.notices r) = [] :=
        List.flatMap_eq_nil_iff.mpr fun d hd => (hquiet d hd).2.2
      rw [hnone, List.append_nil] at hsilent
      rw [close_run] at hshut
      obtain ⟨-, rfl⟩ := Prod.mk.inj hshut
      dsimp only
      rw [outbox_flush, hsilent]
    · rw [hload, Except.ok.injEq, withoutTimers_eq_self]

/-! ## A chat whose step is gone -/

/-- A record with a timer, on a step that the scenario of reminders does not have. -/
def gone : ChatRecord :=
  { chatId := "7", stepId := some "gone", refId := none, active := true
    timers := [⟨0, 3600000, false⟩] }

/-- A disk on which nothing but this record is kept. -/
def goneDisk : Disk := (((reminding "(1h)").store.save gone).run Disk.empty).2

/-- Somebody writes in this chat, twice. -/
def asking : List Deed :=
  [.receive ⟨"7", "Hello?", ⟨7, false, "Eve", none, none, none⟩, none⟩, .pass 1000,
    .receive ⟨"7", " Still there? ", ⟨7, false, "Eve", none, none, none⟩, none⟩]

theorem saves_gone :
    (reminding "(1h)").store.Saves gone Disk.empty
      (((reminding "(1h)").store.save gone).run Disk.empty) :=
  Store.saves (Store.holds_of_chats Disk.isTree_empty chats_newWorld) gone

theorem load_goneDisk (key : String) (r : ChatRecord)
    (h : (reminding "(1h)").store.load key goneDisk = .ok r) : key = "7" := by
  by_contra hkey
  have hsame : (reminding "(1h)").store.load key goneDisk
      = (reminding "(1h)").store.load key Disk.empty := saves_gone.spares.others key hkey
  have hchats : (reminding "(1h)").store.chats Disk.empty = .ok [] := chats_newWorld
  exact load_of_chats_nil Disk.isTree_empty hchats key r (hsame.symm.trans h)

/-- The chat replies twice that its step is not found.  Its record is as it was, until the bot is
ended; then the timer is gone. -/
theorem timers_of_gone :
    ∃ b w' u, (start (reminding "(1h)")).run { newWorld with disk := goneDisk } = (.ok b, w')
      ∧ messagesTo "7" (after asking ⟨b, w'⟩).world.outbox
        = [Chat.lostNotice gone, Chat.lostNotice gone]
      ∧ (reminding "(1h)").store.load "7" (after asking ⟨b, w'⟩).world.disk = .ok gone
      ∧ shutdown.run (after asking ⟨b, w'⟩) = (.ok (), u)
      ∧ (reminding "(1h)").store.load "7" u.world.disk ≠ .ok gone := by
  have hchats : (reminding "(1h)").store.chats goneDisk = .ok ["7"] :=
    chats_of_names (by decide +kernel) (by decide +kernel)
  have hload : (reminding "(1h)").store.load gone.chatId goneDisk = .ok gone :=
    saves_gone.load (by decide +kernel)
  obtain ⟨b, w', hstart, hnothing, houtcomes, hheard, hshut⟩ :
      ∃ b w', (start (reminding "(1h)")).run { newWorld with disk := goneDisk } = (.ok b, w')
        ∧ w'.outbox = []
        ∧ outcomes asking ⟨b, w'⟩ = [.ok (), .ok (), .ok ()]
        ∧ ¬Refused "7" (w'.answers (after asking ⟨b, w'⟩).world)
        ∧ (shutdown.run (after asking ⟨b, w'⟩)).1 = .ok () :=
    ⟨_, _, start_of_chats hchats rfl, by decide +kernel⟩
  have hplain : ∀ d ∈ asking, d.IsPlainFor gone.chatId := by
    simp only [asking, List.forall_mem_cons, List.not_mem_nil, Deed.IsPlainFor, false_imp_iff,
      implies_true, and_true]
    decide +kernel
  have hok : ∀ x ∈ outcomes asking ⟨b, w'⟩, ¬StoreFailed x := by
    rw [houtcomes]
    simp [StoreFailed]
  obtain ⟨hmessages, hsame, -, hend⟩ := missing_step_loses_timers saves_gone.spares.holds.tree
    hstart hload rfl rfl (fun key r' hr' _ => load_goneDisk key r' hr') hplain hok hheard
  refine ⟨b, w', _, hstart, ?_, hsame, Prod.ext hshut rfl, fun hgone => ?_⟩
  · refine hmessages.trans ?_
    rw [hnothing]
    decide +kernel
  · obtain ⟨-, -, hiff⟩ := hend _ (Prod.ext hshut rfl)
    exact absurd (hiff.mp hgone) (by decide)

end Bot
end ScriptedChat
