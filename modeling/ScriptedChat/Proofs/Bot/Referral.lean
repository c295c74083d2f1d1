import ScriptedChat.Proofs.Bot.Moments

/-!
# Referral codes

A chat takes the first referral code that it is given: when it is made, or later if it has none.
From then on the code stays the same, in the chat as long as its bot is there, and in its record
for good.

## Why it stays

A chat is kept as a whole, so a record could bring back what the chat was like before, and a chat
that is made anew could come without the code.  Neither happens, because a record never knows more
than its chat (`Bot.Backed`): a code that is in the record under a key is in the chat under this
key, so there is no record with a code where there is no chat.  A start brings this about, where
every record lies in the directory of its chat, and every small step keeps it.

* `Store.ref?`, `Bot.ref?`: the code in a record and in a chat.
* `Chat.SmallStep.effect`: what a small step of a chat does to its record.
* `Bot.Backed`, `Bot.SmallStep.backed`, `Bot.backed_start`: what holds at any moment.
* `Bot.Retains`, `Bot.Sequel.keeps`: what is the same later on.
* `Bot.referral_is_write_once`: the code stays.
-/

namespace ScriptedChat

/-- The referral code in the record under a key. -/
def Store.ref? (st : Store) (k : String) (d : Disk) : Option String :=
  (st.loaded? k d).bind ChatRecord.refId

/-- The referral code of the chat under a key. -/
def Bot.ref? (b : Bot) (k : String) : Option String := (b.chat? k).bind Chat.refId

theorem Store.ref?_eq_some {st : Store} {k code : String} {d : Disk} :
    st.ref? k d = some code ↔ ∃ r, st.load k d = .ok r ∧ r.refId = some code := by
  simp only [Store.ref?, Option.bind_eq_some_iff, Store.loaded?_eq_some]

theorem Store.ref?_congr {st : Store} {k : String} {d d' : Disk}
    (h : st.load k d' = st.load k d) : st.ref? k d' = st.ref? k d := by
  rw [Store.ref?, Store.ref?, Store.loaded?, Store.loaded?, h]

theorem Bot.ref?_of_chat? {b : Bot} {k : String} {c : Chat} (h : b.chat? k = some c) :
    b.ref? k = c.refId := by
  rw [Bot.ref?, h, Option.bind_some]

/-- After a small step a chat has the code that it had, and what is loaded for it is what was loaded
before, or its record. -/
theorem Chat.SmallStep.effect {τ : Type} {g : Setting} {s t : Scene τ} (h : SmallStep g s t)
    (hs : g.store.Holds s.world.disk) :
    t.chat.id = s.chat.id ∧ (∀ code, s.chat.refId = some code → t.chat.refId = some code)
      ∧ g.store.Spares s.chat.id s.world.disk t.world.disk
      ∧ (g.store.loaded? s.chat.id t.world.disk = g.store.loaded? s.chat.id s.world.disk
        ∨ g.store.loaded? s.chat.id t.world.disk = some s.chat.record) := by
  cases h with
  | save =>
    rw [save_run_snd]
    obtain ⟨hspares, hload, hloaded⟩ := Store.saves hs s.chat.record
    refine ⟨rfl, fun _ hcode => hcode, hspares, ?_⟩
    cases hr : ((g.store.save s.chat.record).run s.world.disk).1 with
    | error e => exact Or.inl (hloaded e hr)
    | ok _ => exact Or.inr (Store.loaded?_eq_some.mpr (hload hr))
  | writeLog text =>
    rw [writeLog_run_snd]
    obtain ⟨hspares, hloaded⟩ := Store.appendLog_spares hs s.chat.id s.world.now text
    exact ⟨rfl, fun _ hcode => hcode, hspares, Or.inl hloaded⟩
  | post w hw =>
    dsimp only
    rw [hw]
    exact ⟨rfl, fun _ hcode => hcode, Store.Spares.refl hs _, Or.inl rfl⟩
  | setActive b => exact ⟨rfl, fun _ hcode => hcode, Store.Spares.refl hs _, Or.inl rfl⟩
  | setRef code hnone =>
    refine ⟨rfl, fun code' hcode => ?_, Store.Spares.refl hs _, Or.inl rfl⟩
    rw [hnone] at hcode
    cases hcode
  | enterStep hstep => exact ⟨rfl, fun _ hcode => hcode, Store.Spares.refl hs _, Or.inl rfl⟩

namespace Bot

variable {τ : Type} {g : Setting} {st : Store} {s t : Stage τ}

/-! ## What holds at any moment -/

/-- Every record is in its place, and its referral code is the one of its chat. -/
structure Backed (st : Store) (s : Stage τ) : Prop where
  store : s.bot.setting.store = st
  sorted : Keyed.IsSorted s.bot.chats
  ids : ∀ k c, s.bot.chat? k = some c → c.id = k
  holds : st.Holds s.world.disk
  place : ∀ k r, st.load k s.world.disk = .ok r → r.chatId = k
  refs : ∀ k code, st.ref? k s.world.disk = some code → s.bot.ref? k = some code

/-- The referral codes of a stage are those of another one, some starts later: those in the records,
and if no start is in between, also those in the chats. -/
structure Retains (st : Store) (n : Nat) (s t : Stage τ) : Prop where
  records : ∀ k code, st.ref? k s.world.disk = some code → st.ref? k t.world.disk = some code
  chats : n = 0 → ∀ k code, s.bot.ref? k = some code → t.bot.ref? k = some code

theorem Retains.refl (st : Store) (s : Stage τ) : Retains st 0 s s :=
  ⟨fun _ _ h => h, fun _ _ _ h => h⟩

theorem Retains.trans {u : Stage τ} {n m : Nat} (h : Retains st n s t) (h' : Retains st m t u) :
    Retains st (n + m) s u :=
  ⟨fun k code hcode => h'.records k code (h.records k code hcode), fun hsum k code hcode =>
    h'.chats (Nat.eq_zero_of_add_eq_zero_left hsum) k code
      (h.chats (Nat.eq_zero_of_add_eq_zero_right hsum) k code hcode)⟩

/-- While the chats have the codes that they had, and everything that is loaded is what was loaded
before, no code is lost. -/
theorem Backed.of_loaded (h : Backed st s) (hstore : t.bot.setting.store = st)
    (hsorted : Keyed.IsSorted t.bot.chats) (hids : ∀ k c, t.bot.chat? k = some c → c.id = k)
    (hrefs : ∀ k, t.bot.ref? k = s.bot.ref? k) (hholds : st.Holds t.world.disk)
    (hloaded : ∀ k, st.loaded? k t.world.disk = st.loaded? k s.world.disk) :
    Backed st t ∧ Retains st 0 s t := by
  have hrecords : ∀ k, st.ref? k t.world.disk = st.ref? k s.world.disk := fun k => by
    rw [Store.ref?, Store.ref?, hloaded]
  refine ⟨⟨hstore, hsorted, hids, hholds, fun k r hr => ?_, fun k code hcode => ?_⟩,
    fun k code hcode => ?_, fun _ k code hcode => ?_⟩
  · rw [← Store.loaded?_eq_some, hloaded, Store.loaded?_eq_some] at hr
    exact h.place k r hr
  · rw [hrecords] at hcode
    rw [hrefs]
    exact h.refs k code hcode
  · rw [hrecords]
    exact hcode
  · rw [hrefs]
    exact hcode

theorem ref?_put (s : Stage τ) (k k' : String) (u : Scene τ) :
    (put s k u).bot.ref? k' = if k' = k then u.chat.refId else s.bot.ref? k' := by
  rw [ref?, chat?_put]
  split
  · rfl
  · rfl

/-- The chat under a key has gone on, or is a new one.  What is loaded for it is what was loaded
before, or a record that has the code that the chat had, and none that the chat does not have
now. -/
structure Advances (st : Store) (s : Stage τ) (k : String) (u : Scene τ) : Prop where
  id : u.chat.id = k
  spares : st.Spares k s.world.disk u.world.disk
  chat : ∀ code, s.bot.ref? k = some code → u.chat.refId = some code
  loaded : st.loaded? k u.world.disk = st.loaded? k s.world.disk
    ∨ ∃ r, st.loaded? k u.world.disk = some r ∧ r.chatId = k
      ∧ (∀ code, s.bot.ref? k = some code → r.refId = some code)
      ∧ ∀ code, r.refId = some code → u.chat.refId = some code

namespace Advances

variable {k : String} {u : Scene τ} (hu : Advances st s k u) (h : Backed st s)
include hu h

theorem place {r : ChatRecord} (hr : st.load k u.world.disk = .ok r) : r.chatId = k := by
  rw [← Store.loaded?_eq_some] at hr
  rcases hu.loaded with hsame | ⟨r', hr', hplace, -, -⟩
  · rw [hsame, Store.loaded?_eq_some] at hr
    exact h.place k r hr
  · rw [hr', Option.some.injEq] at hr
    exact hr ▸ hplace

/-- The code that was in the record is still there ... -/
theorem record {code : String} (hcode : st.ref? k s.world.disk = some code) :
    st.ref? k u.world.disk = some code := by
  rw [Store.ref?]
  rcases hu.loaded with hsame | ⟨r, hr, -, hbefore, -⟩
  · rw [hsame]
    exact hcode
  · rw [hr]
    exact hbefore code (h.refs k code hcode)

/-- ... and the chat has the code that is in the record. -/
theorem chat_of_record {code : String} (hcode : st.ref? k u.world.disk = some code) :
    u.chat.refId = some code := by
  rw [Store.ref?] at hcode
  rcases hu.loaded with hsame | ⟨r, hr, -, -, hnow⟩
  · rw [hsame] at hcode
    exact hu.chat code (h.refs k code hcode)
  · rw [hr] at hcode
    exact hnow code hcode

theorem backed : Backed st (put s k u) := by
  refine ⟨h.store, sorted_put h.sorted k u, fun k' c' hc' => ?_, hu.spares.holds,
    fun k' r hr => ?_, fun k' code hcode => ?_⟩
  · rcases chat?_put_eq_some.mp hc' with ⟨rfl, rfl⟩ | ⟨-, hc'⟩
    · exact hu.id
    · exact h.ids k' c' hc'
  · have hr' : st.load k' u.world.disk = .ok r := hr
    by_cases hk : k' = k
    · subst hk
      exact hu.place h hr'
    · rw [hu.spares.others k' hk] at hr'
      exact h.place k' r hr'
  · have hcode' : st.ref? k' u.world.disk = some code := hcode
    rw [ref?_put]
    by_cases hk : k' = k
    · subst hk
      rw [if_pos rfl]
      exact hu.chat_of_record h hcode'
    · rw [Store.ref?_congr (hu.spares.others k' hk)] at hcode'
      rw [if_neg hk]
      exact h.refs k' code hcode'

theorem retains : Retains st 0 s (put s k u) := by
  refine ⟨fun k' code hcode => ?_, fun _ k' code hcode => ?_⟩
  · show st.ref? k' u.world.disk = some code
    by_cases hk : k' = k
    · subst hk
      exact hu.record h hcode
    · rw [Store.ref?_congr (hu.spares.others k' hk)]
      exact hcode
  · rw [ref?_put]
    by_cases hk : k' = k
    · subst hk
      rw [if_pos rfl]
      exact hu.chat code hcode
    · rw [if_neg hk]
      exact hcode

end Advances

/-- **What a small step keeps.** -/
theorem SmallStep.backed (hs : SmallStep g s t) (hg : g.store = st) (h : Backed st s) :
    Backed st t ∧ Retains st 0 s t := by
  subst hg
  cases hs with
  | idle hidle =>
    refine h.of_loaded (hidle.setting ▸ h.store) hidle.sorted (fun k c' hc' => ?_) hidle.ref
      (hidle.disk ▸ h.holds) (fun k => by rw [hidle.disk])
    obtain ⟨c, hc, hid, -⟩ := hidle.back hc'
    exact hid.trans (h.ids k c hc)
  | @goes k c u hc hstep =>
    obtain ⟨hid, href, hspares, hloaded⟩ := hstep.effect h.holds
    have hk : c.id = k := h.ids k c hc
    dsimp only at hid href hspares hloaded
    rw [hk] at hid hspares hloaded
    have hchat : s.bot.ref? k = c.refId := ref?_of_chat? hc
    have hadvances : Advances g.store s k u :=
      ⟨hid, hspares, fun code hcode => href code (hchat ▸ hcode), hloaded.imp_right fun hrecord =>
        ⟨c.record, hrecord, hk, fun code hcode => hchat.symm.trans hcode, href⟩⟩
    exact ⟨hadvances.backed h, hadvances.retains h⟩
  | @takes n c x hc hx =>
    have hchat : s.bot.ref? n.chat = c.refId := ref?_of_chat? hc
    have hadvances : Advances g.store s n.chat ⟨Chat.markHandled n.slot x c, s.world⟩ :=
      ⟨h.ids n.chat c hc, Store.Spares.refl h.holds _, fun code hcode => hchat ▸ hcode, Or.inl rfl⟩
    exact ⟨hadvances.backed h, hadvances.retains h⟩
  | @greets k ref w hk hw =>
    have hsaves := Store.saves h.holds (Chat.opening g.scenario k ref).record
    rw [hw] at hsaves
    have hnone : ∀ code, s.bot.ref? k ≠ some code := fun code hcode => by
      rw [ref?, hk] at hcode
      cases hcode
    have hadvances : Advances g.store s k ⟨Chat.opening g.scenario k ref, w⟩ :=
      ⟨rfl, hsaves.spares, fun code hcode => absurd hcode (hnone code),
        Or.inr ⟨_, Store.loaded?_eq_some.mpr (hsaves.load rfl), rfl,
          fun code hcode => absurd hcode (hnone code), fun _ hcode => hcode⟩⟩
    exact ⟨hadvances.backed h, hadvances.retains h⟩
  | @refuses r e w hw =>
    have hsaves := Store.saves h.holds r
    rw [hw] at hsaves
    exact h.of_loaded h.store h.sorted h.ids (fun _ => rfl) hsaves.spares.holds hsaves.loaded_all
  | stops =>
    refine h.of_loaded h.store
      (Keyed.isSorted_map (fun (_ : String) (c : Chat) => (Chat.stopTimers c).2) h.sorted)
      (fun k c hc => ?_) (fun k => ?_) h.holds fun _ => rfl
    · rw [chat?_stopAll, Option.map_eq_some_iff] at hc
      obtain ⟨c₀, hc₀, rfl⟩ := hc
      exact h.ids k c₀ hc₀
    · rw [ref?, ref?, chat?_stopAll]
      cases s.bot.chat? k <;> rfl

/-- **What small steps keep.** -/
theorem Passes.backed (hs : Passes g s t) (hg : g.store = st) (h : Backed st s) :
    Backed st t ∧ Retains st 0 s t := by
  induction hs with
  | refl => exact ⟨h, Retains.refl st s⟩
  | tail _ hstep ih =>
    obtain ⟨hbacked, hretains⟩ := ih
    obtain ⟨hbacked', hretains'⟩ := hstep.backed hg hbacked
    exact ⟨hbacked', hretains.trans hretains'⟩

/-- A bot that has started has the codes that are in the records. -/
theorem backed_start {w w' : World τ} {b : Bot} (hholds : g.store.Holds w.disk)
    (hplace : InPlace g w.disk) (h : (start g).run w = (.ok b, w')) :
    Backed g.store ⟨b, w'⟩ := by
  obtain ⟨keys, -, hdisk, -, hsetting, -, -⟩ := of_start h
  refine ⟨congrArg Setting.store hsetting, sorted_start h, fun k c hc => ?_, ?_, fun k r hr => ?_,
    fun k code hcode => ?_⟩
  · obtain ⟨r, ticket, hr, rfl⟩ := load_of_chat?_start h hc
    exact (Chat.fields_ofRecord g.scenario r w.now ticket).1.trans (hplace k r hr)
  · exact hdisk ▸ hholds
  · rw [hdisk] at hr
    exact hplace k r hr
  · rw [hdisk] at hcode
    obtain ⟨r, hr, hcode⟩ := Store.ref?_eq_some.mp hcode
    obtain ⟨c, hc⟩ := Option.isSome_iff_exists.mp (isSome_chat?_start h hholds hr)
    obtain ⟨r', ticket, hr', rfl⟩ := load_of_chat?_start h hc
    rw [hr] at hr'
    cases hr'
    rw [ref?_of_chat? hc, (Chat.fields_ofRecord g.scenario r w.now ticket).2.2.1]
    exact hcode

/-! ## What is the same later on -/

/-- **What is the same later on**, across any number of starts. -/
theorem Sequel.keeps [Transport τ] {n : Nat} (hs : Backed st s) (h : Sequel st s n t) :
    Backed st t ∧ Retains st n s t := by
  induction h with
  | refl => exact ⟨hs, Retains.refl st s⟩
  | done _ d ih =>
    obtain ⟨hbacked, hretains⟩ := ih
    exact ((passes_act hbacked.sorted rfl d).backed hbacked.store hbacked).imp_right hretains.trans
  | closed _ ih =>
    obtain ⟨hbacked, hretains⟩ := ih
    exact ((passes_close hbacked.sorted rfl).backed hbacked.store hbacked).imp_right hretains.trans
  | amid _ hu ih =>
    obtain ⟨hbacked, hretains⟩ := ih
    exact (hu.backed hbacked.store hbacked).imp_right hretains.trans
  | @restarted n t g w w' b refusals _ hg hdisk hstart ih =>
    obtain ⟨hbacked, hretains⟩ := ih
    subst hg
    have hload : ∀ k, g.store.load k w.disk = g.store.load k t.world.disk := fun k => by
      rw [hdisk]
      exact Store.load_congr (fun _ => rfl) fun _ _ _ => rfl
    obtain ⟨-, -, hdisk', -⟩ := of_start hstart
    have hholds : g.store.Holds w.disk := hdisk ▸ hbacked.holds.refusals refusals
    refine ⟨backed_start hholds (fun k r hr => ?_) hstart, fun k code hcode => ?_, fun hn => ?_⟩
    · rw [hload] at hr
      exact hbacked.place k r hr
    · show g.store.ref? k w'.disk = some code
      rw [hdisk', Store.ref?_congr (hload k)]
      exact hretains.records k code hcode
    · cases hn

/-! ## The code stays -/

/-- **A referral code is there for good.**  A bot is started where no chat is kept, and what comes
after that is any number of lives, each of which may be cut off at any moment, with any deeds, and
with writes that fail whenever the disk refuses them.

If a code is in the record of a chat at some moment, then it is there at every later moment, in this
life and in all that follow.  If a chat has a code, it has this code at every later moment of the
same life. -/
theorem referral_is_write_once [Transport τ] {w w' : World τ} {b : Bot} (htree : w.disk.IsTree)
    (hempty : g.store.chats w.disk = .ok []) (hstart : (start g).run w = (.ok b, w')) {n m : Nat}
    (hs : Sequel g.store ⟨b, w'⟩ n s) (ht : Sequel g.store s m t) (k code : String) :
    (∀ r, g.store.load k s.world.disk = .ok r → r.refId = some code →
        ∃ r', g.store.load k t.world.disk = .ok r' ∧ r'.refId = some code)
      ∧ (m = 0 → ∀ c, s.bot.chat? k = some c → c.refId = some code →
        ∃ c', t.bot.chat? k = some c' ∧ c'.refId = some code) := by
  have hopened : Backed g.store ⟨b, w'⟩ :=
    backed_start (Store.holds_of_chats htree hempty) (inPlace_of_chats_nil htree hempty) hstart
  obtain ⟨hbacked, -⟩ := hs.keeps hopened
  obtain ⟨-, hretains⟩ := ht.keeps hbacked
  refine ⟨fun r hr hcode => ?_, fun hm c hc hcode => ?_⟩
  · exact Store.ref?_eq_some.mp (hretains.records k code (Store.ref?_eq_some.mpr ⟨r, hr, hcode⟩))
  · exact Option.bind_eq_some_iff.mp (hretains.chats hm k code ((ref?_of_chat? hc).trans hcode))

/-- Somebody who comes with a code. -/
def coming (code : String) : Deed :=
  .receive ⟨"42", "/start " ++ code, ⟨42, false, "Ann", none, none, none⟩, none⟩

/-- A world with an empty disk, which accepts three writes and no more. -/
def shortLived : World Refusing :=
  { newWorld with
    disk := { newWorld.disk with refusals := [none, none, none] ++ List.replicate 20 (some 0) } }

/-- Somebody has come with a code.  The chat has been kept, and nothing was written after that. -/
def referred : Stage Refusing := after [coming "promo"] ⟨newBot (reminding "(1h)"), shortLived⟩

/-- The world in which the bot is started again. -/
def revived : World Refusing :=
  { newWorld with disk := { referred.world.disk with refusals := [] } }

/-- The bot was cut off when the chat had been kept, and after it has been started again, the same
person comes with another code.  This one is not taken. -/
theorem first_code_of_referred :
    ∃ (b : Bot) (w : World Refusing) (r : ChatRecord),
      (start (reminding "(1h)")).run revived = (.ok b, w)
        ∧ (reminding "(1h)").store.load "42" ((coming "other").act.run ⟨b, w⟩).2.world.disk = .ok r
        ∧ r.refId = some "promo" := by
  have htree : shortLived.disk.IsTree := (Disk.Within.refusals (q := []) Disk.isTree_empty _).tree
  have hempty : (reminding "(1h)").store.chats shortLived.disk = .ok [] := by decide +kernel
  have hkept : (reminding "(1h)").store.ref? "42" referred.world.disk = some "promo" := by
    decide +kernel
  have hkeys : (reminding "(1h)").store.chats revived.disk = .ok ["42"] := by decide +kernel
  obtain ⟨b, tickets, hstart, -⟩ := start_run hkeys
  obtain ⟨r, hr, hcode⟩ := Store.ref?_eq_some.mp hkept
  have hreferred : Sequel (reminding "(1h)").store referred 0 referred := .refl
  obtain ⟨hrecord, -⟩ := referral_is_write_once htree hempty (start_of_chats_nil hempty)
    (Sequel.refl.done (coming "promo"))
    ((hreferred.restarted (w := revived) rfl rfl hstart).done (coming "other")) "42" "promo"
  obtain ⟨r', hr', hcode'⟩ := hrecord r hr hcode
  exact ⟨b, _, r', hstart, hr', hcode'⟩

end Bot
end ScriptedChat
