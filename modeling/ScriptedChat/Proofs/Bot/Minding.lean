import ScriptedChat.Proofs.Bot.Reachability

/-!
# Who sees what a deed does

A deed is for one chat.  What it does is seen by the chat that it is for, by who has the id of this
chat, and by nobody else: messages go to this id only, and only the record of this id can change
(`Bot.Plot.Minds`).

A chat is restored under the name of the directory that its record lies in, and its id is the one in
the record.  If these are the same, and nobody else has the id, the chat is its own
(`Bot.IsOwn`), and stays so whatever is done.  Then deeds that are for other chats do nothing to it
and to its record.

* `Bot.Plot.Minds`, `Bot.deal_minds`: what is seen of a deed, and by whom.
* `Bot.posted_act`, `Bot.posted_after`: whatever is done, requests are added to those there were.
* `Bot.IsOwn`, `Bot.IsOwn.act`: chats that nobody else has a hand in.
* `Bot.load_act_other`: what others do to such a chat.
-/

namespace ScriptedChat
namespace Bot

variable {τ : Type} {g : Setting} {k : String} {w : World τ} [Transport τ]

/-! ## What is seen of a deed -/

/-- The answer to the press of a button is no message. -/
theorem posted_answered (press : Option String) (w : World τ) :
    ∃ qs, World.Posted qs w (answered press w)
      ∧ ∀ k text buttons, .message k text buttons ∉ qs := by
  cases press with
  | none => exact ⟨[], .nil rfl rfl, fun _ _ _ => List.not_mem_nil⟩
  | some p => exact ⟨[.answer p], .post _ w, fun _ _ _ hmem => nomatch List.mem_singleton.mp hmem⟩

/-- What a deed for one chat leaves of it.  The chat has the id that it had, or its key for an id if
it is new.  Messages have been sent to this chat only, and no other record has changed. -/
structure Plot.Minds (g : Setting) (key : String) (p p' : Plot τ) : Prop where
  ids : ∀ c', p'.chat = some c' → p.chat = none ∧ c'.id = key ∨ ∃ c, p.chat = some c ∧ c'.id = c.id
  posted : ∃ qs, World.Posted qs p.world p'.world
    ∧ ∀ k text buttons, .message k text buttons ∈ qs → ∃ c', p'.chat = some c' ∧ c'.id = k
  disk : g.store.Holds p.world.disk → g.store.Holds p'.world.disk
    ∧ ∀ k, k ≠ key → (∀ c, p.chat = some c → c.id ≠ k) →
      g.store.load k p'.world.disk = g.store.load k p.world.disk

namespace Plot.Minds

variable {key : String} {p p' : Plot τ}

/-- Nothing happens to the chat, and some requests that are no messages were posted. -/
theorem of_chat (hchat : p'.chat = p.chat) (hdisk : p'.world.disk = p.world.disk)
    {qs : List Request} (hposted : World.Posted qs p.world p'.world)
    (hqs : ∀ k text buttons, .message k text buttons ∉ qs) : Minds g key p p' := by
  refine ⟨fun c hc => Or.inr ⟨c, hchat ▸ hc, rfl⟩, ⟨qs, hposted, ?_⟩, fun h => ⟨hdisk ▸ h, ?_⟩⟩
  · exact fun k text buttons hmem => absurd hmem (hqs k text buttons)
  · intro k _ _
    rw [hdisk]

/-- The chat goes on after the press of a button was answered. -/
theorem of_answered (press : Option String) (h : Minds g key (p.answered press) p') :
    Minds g key p p' := by
  have hdisk : (p.answered press).world.disk = p.world.disk := disk_answered press p.world
  refine ⟨h.ids, ?_, fun hs => ?_⟩
  · obtain ⟨qs, hqs, hsent⟩ := h.posted
    obtain ⟨as, has, hno⟩ := posted_answered press p.world
    refine ⟨as ++ qs, has.trans hqs, fun k text buttons hmem => ?_⟩
    rcases List.mem_append.mp hmem with hmem | hmem
    · exact absurd hmem (hno k text buttons)
    · exact hsent k text buttons hmem
  · rw [← hdisk] at hs ⊢
    exact h.disk hs

/-- What a chat does that is there. -/
theorem of_play {c : Chat} {x : ChatAction τ Unit} {s t : Scene τ} (hs : s.world = w)
    (ht : t.world = w) (hsid : s.chat.id = c.id) (htid : t.chat.id = c.id)
    (hgoes : Chat.GoesOn g s (x.run ⟨c, w⟩).2) (hheeds : Chat.Heeds t (x.run ⟨c, w⟩).2) :
    Minds g key ⟨some c, w⟩ (play c w x).2 := by
  have hid : (x.run ⟨c, w⟩).2.chat.id = c.id := hgoes.id.trans hsid
  refine ⟨fun c' hc' => Or.inr ⟨c, rfl, ?_⟩, ?_, fun hw => ?_⟩
  · rw [← Option.some.inj hc']
    exact hid
  · obtain ⟨qs, hqs, hsent⟩ := hheeds.posted
    refine ⟨qs, ht ▸ hqs, fun k text buttons hmem => ⟨_, rfl, ?_⟩⟩
    rw [hsent k text buttons hmem, htid]
    exact hid
  · have hspares := hgoes.disk (hs ▸ hw)
    rw [hs, hsid] at hspares
    exact ⟨hspares.holds, fun k _ hk => hspares.others k (hk c rfl).symm⟩

/-- What a chat does if it is there. -/
theorem of_visit {x : ChatAction τ Unit}
    (hx : ∀ c, Minds g key ⟨some c, p.world⟩ (play c p.world x).2) :
    Minds g key p (p.visit x).2 := by
  obtain ⟨_ | c, w⟩ := p
  · exact of_chat rfl rfl (.nil rfl rfl) fun _ _ _ => List.not_mem_nil
  · exact hx c

end Plot.Minds

/-- What comes in is seen by the chat that it is for. -/
theorem deal_receive_minds (g : Setting) (e : Inbound) (p : Plot τ) :
    Plot.Minds g e.chat p ((Deed.receive e).deal g p).2 := by
  obtain ⟨c, w⟩ := p
  refine Plot.Minds.of_answered e.press ?_
  by_cases htext : Text.trim e.text.toList = []
  · rw [deal_of_blank g htext]
    exact .of_chat rfl rfl (.nil rfl rfl) fun _ _ _ => List.not_mem_nil
  · cases c with
    | some c =>
      rw [deal_of_known g htext]
      exact .of_play rfl rfl rfl rfl ((Chat.isCourse_goesOn g).respond _ _)
        (Chat.heeds_respond g _ ⟨c, answered e.press w⟩)
    | none =>
      have hsaves := Store.saves (s := g.store) (d := (answered e.press w).disk)
        (r := (Chat.opening g.scenario e.chat (referral? (said e))).record)
      rw [deal_of_unseen g htext, Chat.create_run]
      generalize (g.store.save _).run (answered e.press w).disk = saved at hsaves ⊢
      obtain ⟨err | _, d⟩ := saved
      · refine ⟨fun c' hc' => (by cases hc'), ⟨[], .nil rfl rfl, nofun⟩, fun hw => ?_⟩
        exact ⟨(hsaves hw).spares.holds, fun k hk _ => (hsaves hw).spares.others k hk⟩
      · -- The new chat goes on from there.
        dsimp only
        obtain ⟨hids, hposted, hdisk⟩ : Plot.Minds g e.chat
            ⟨some (Chat.opening g.scenario e.chat (referral? (said e))),
              { answered e.press w with disk := d }⟩ _ :=
          .of_play rfl rfl rfl rfl ((Chat.isCourse_goesOn g).welcome (said e) e.sender _)
            ((Chat.isSendCourse_heeds g).welcome (said e) e.sender _)
        refine ⟨fun c' hc' => Or.inl ⟨rfl, ?_⟩, ?_, fun hw => ?_⟩
        · obtain ⟨h, -⟩ | ⟨c, hc, hid⟩ := hids c' hc'
          · cases h
          · rw [hid, ← Option.some.inj hc]
            rfl
        · obtain ⟨qs, hqs, hsent⟩ := hposted
          exact ⟨qs, ⟨hqs.outbox, hqs.transport⟩, hsent⟩
        · have hspares := (hsaves hw).spares
          obtain ⟨hholds, hothers⟩ := hdisk hspares.holds
          refine ⟨hholds, fun k hk _ => (hothers k hk fun c hc => ?_).trans (hspares.others k hk)⟩
          rw [← Option.some.inj hc]
          exact hk.symm

/-- **A deed is seen by the chat that it is for**, and by who has the id of this chat. -/
theorem deal_minds (g : Setting) {d : Deed} {key : String} (hd : d.chat? = some key) (p : Plot τ) :
    Plot.Minds g key p (d.deal g p).2 := by
  cases d with
  | receive e =>
    cases hd
    exact deal_receive_minds g e p
  | note n =>
    cases hd
    rw [deal_note]
    refine .of_visit fun c => ?_
    cases ht : c.awaited? n with
    | none =>
      have hvoid : (Chat.handleNote g n).run ⟨c, p.world⟩ = (.ok (), ⟨c, p.world⟩) := by
        rw [Chat.handleNote_run]
        dsimp only
        rw [ht]
      have hplay : (Plot.play c p.world (Chat.handleNote g n)).2 = ⟨some c, p.world⟩ := by
        rw [Plot.play, hvoid]
      rw [hplay]
      exact .of_chat rfl rfl (.nil rfl rfl) fun _ _ _ => List.not_mem_nil
    | some t =>
      exact .of_play rfl rfl rfl rfl (Chat.goesOn_handleNote (s := ⟨c, p.world⟩) ht)
        (Chat.heeds_handleNote g n ⟨c, p.world⟩)
  | announce k' step =>
    cases hd
    rw [deal_announce]
    exact .of_visit fun c => .of_play rfl rfl rfl rfl ((Chat.isCourse_goesOn g).goTo step _)
      ((Chat.isSendCourse_heeds g).goTo step ⟨c, p.world⟩)
  | _ => cases hd

theorem posted_act {s : Stage τ} (h : AtWork g s) (d : Deed) :
    ∃ qs, World.Posted qs s.world (d.act.run s).2.world := by
  cases hkey : d.chat? with
  | none => exact ⟨[], posted_idle s hkey⟩
  | some key =>
    obtain ⟨qs, hqs, -⟩ := (deal_minds g hkey (plot s key)).posted
    rw [← world_act h.sorted h.setting hkey] at hqs
    exact ⟨qs, hqs⟩

theorem posted_after {s : Stage τ} (h : AtWork g s) (ds : List Deed) :
    ∃ qs, World.Posted qs s.world (after ds s).world := by
  induction ds generalizing s with
  | nil => exact ⟨[], .nil rfl rfl⟩
  | cons d ds ih =>
    obtain ⟨qs, hqs⟩ := posted_act h d
    obtain ⟨rs, hrs⟩ := ih (h.act d)
    exact ⟨qs ++ rs, hqs.trans hrs⟩

/-! ## Chats that nobody else has a hand in -/

/-- The chat under a key has this key for its id, and no other chat has it. -/
def IsOwn (b : Bot) (k : String) : Prop := ∀ key c, b.chat? key = some c → (c.id = k ↔ key = k)

omit [Transport τ] in
/-- If every record lies in the directory of its chat, every chat is its own. -/
theorem Sound.isOwn {b : Bot} (h : Sound g b) (k : String) : b.IsOwn k := fun key c hc => by
  rw [h.ids key c hc]

variable {s : Stage τ}

/-- Whatever is done, a chat that is its own stays so. -/
theorem IsOwn.act (ho : s.bot.IsOwn k) (h : AtWork g s) (d : Deed) :
    (d.act.run s).2.bot.IsOwn k := by
  intro key' c' hc'
  cases hkey : d.chat? with
  | none =>
    have hrecord := record?_idle h.sorted hkey key'
    rw [hc'] at hrecord
    obtain ⟨c, hc, hsame⟩ := Option.map_eq_some_iff.mp hrecord.symm
    have hid : c.id = c'.id := congrArg ChatRecord.chatId hsame
    rw [← hid]
    exact ho key' c hc
  | some key =>
    rw [chat?_act h.sorted h.setting hkey] at hc'
    split at hc'
    · rename_i hk
      rw [hk]
      obtain ⟨-, hnew⟩ | ⟨c, hc, hid⟩ := (deal_minds g hkey (plot s key)).ids c' hc'
      · rw [hnew]
      · rw [hid]
        exact ho key c hc
    · exact ho key' c' hc'

theorem IsOwn.after (ho : s.bot.IsOwn k) (h : AtWork g s) (ds : List Deed) :
    (after ds s).bot.IsOwn k := by
  induction ds generalizing s with
  | nil => exact ho
  | cons d ds ih => exact ih (ho.act h d) (h.act d)

/-- **A deed for another chat does nothing to such a chat**, nor to its record. -/
theorem load_act_other (h : AtWork g s) (ho : s.bot.IsOwn k) {d : Deed} {key : String}
    (hd : d.chat? = some key) (hkey : key ≠ k) :
    (d.act.run s).2.bot.chat? k = s.bot.chat? k
      ∧ g.store.load k (d.act.run s).2.world.disk = g.store.load k s.world.disk := by
  refine ⟨?_, ?_⟩
  · rw [chat?_act h.sorted h.setting hd, if_neg hkey.symm]
  · rw [world_act h.sorted h.setting hd]
    refine ((deal_minds g hd (plot s key)).disk h.holds).2 k hkey.symm fun c hc hid => ?_
    exact hkey ((ho key c hc).mp hid)

end Bot
end ScriptedChat
