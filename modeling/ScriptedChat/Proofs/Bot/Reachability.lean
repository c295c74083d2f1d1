import ScriptedChat.Proofs.Bot.InStep
import ScriptedChat.Proofs.Chat.Refusals

/-!
# Who can be reached

A chat is active as long as nothing says that its user cannot be reached.  What says so is a message
that is refused for good, and what takes it back is something that the user writes.  Both can happen
within one deed, several times over, and deeds for one chat and for others come in any order.  Still
it comes down to the last time that something was written: a chat is inactive if a message to it has
been refused for good since then.

## The argument

A deed leaves a chat inactive if it was so before, and nothing is written in it, or if one of the
messages that the deed sends to it is refused (`Bot.heeds_act`).  For other chats it does nothing
and sends nothing.  That is one step; over a row of deeds in which nothing is written the refusals
add up (`Bot.Heeds.after`), and the row begins with the last deed in which something is, or at the
start, where the activity comes from the record.

What is on the disk agrees with the chats as to their activity even where a chat is not in step
with its record, so this follows from `Bot.pair_kept`.

All of this needs every record to lie in the directory of its chat.  Otherwise two chats have one
id, and one of them is told what becomes of the messages of the other.

* `Bot.Deed.deal_heeds`, `Bot.heeds_act`: a deed.
* `Bot.Heeds.after`: a row of deeds.
* `Bot.active_records_reachability`: a whole run, in memory and on the disk.
-/

namespace ScriptedChat
namespace Bot

variable {τ : Type}

/-- There is a chat under a key, and it is inactive. -/
def IsInactive (b : Bot) (k : String) : Prop := ∃ c, b.chat? k = some c ∧ c.active = false

theorem isInactive_iff {b : Bot} {k : String} {c : Chat} (hc : b.chat? k = some c) :
    b.IsInactive k ↔ c.active = false := by
  simp only [IsInactive, hc, Option.some.injEq, exists_eq_left']

/-- Something that is not blank is written in a chat, or a button is pressed in it. -/
def Deed.Reaches (k : String) : Deed → Prop
  | .receive e => e.chat = k ∧ Text.trim e.text.toList ≠ []
  | _ => False

/-! ## Deeds for one chat -/

/-- There is a chat, and it is inactive. -/
def Plot.IsInactive (p : Plot τ) : Prop := ∃ c, p.chat = some c ∧ c.active = false

theorem Plot.isInactive_some {c : Chat} {w : World τ} :
    Plot.IsInactive ⟨some c, w⟩ ↔ c.active = false := by
  simp only [IsInactive, Option.some.injEq, exists_eq_left']

theorem Plot.not_isInactive_none (w : World τ) : ¬Plot.IsInactive ⟨none, w⟩ := by
  rintro ⟨c, hc, -⟩
  cases hc

variable [Transport τ]

/-- From a world on, messages to a chat were posted and to no other one.  The chat is inactive if it
was so in the beginning, or one of them was refused. -/
structure Plot.Heeds (k : String) (inactive : Prop) (w : World τ) (p : Plot τ) : Prop where
  posted : ∃ qs, World.Posted qs w p.world
    ∧ ∀ k' text buttons, .message k' text buttons ∈ qs → k' = k
  active : p.IsInactive ↔ inactive ∨ Refused k (w.answers p.world)

namespace Plot

variable {k : String} {inactive : Prop} {w : World τ} {p : Plot τ}

/-- Nothing happens. -/
theorem heeds_self (k : String) (p : Plot τ) : Heeds k p.IsInactive p.world p := by
  have hposted : World.Posted [] p.world p.world := .nil rfl rfl
  refine ⟨⟨[], hposted, nofun⟩, ?_⟩
  rw [or_iff_left (hposted.not_refused fun _ _ => List.not_mem_nil)]

/-- What is known of a chat before may be said otherwise. -/
theorem Heeds.congr {inactive' : Prop} (h : Heeds k inactive w p) (hiff : inactive ↔ inactive') :
    Heeds k inactive' w p := ⟨h.posted, h.active.trans (or_congr_left hiff)⟩

/-- What was posted before makes no difference if it was no message. -/
theorem Heeds.of_posted {w' : World τ} {qs : List Request} (h : Heeds k inactive w' p)
    (hqs : World.Posted qs w w') (hno : ∀ k' text buttons, .message k' text buttons ∉ qs) :
    Heeds k inactive w p := by
  obtain ⟨rs, hrs, hsent⟩ := h.posted
  refine ⟨⟨qs ++ rs, hqs.trans hrs, fun k' text buttons hmem => ?_⟩, ?_⟩
  · rcases List.mem_append.mp hmem with hmem | hmem
    · exact absurd hmem (hno k' text buttons)
    · exact hsent k' text buttons hmem
  · rw [h.active, hqs.answers_trans hrs, refused_append, or_iff_right (hqs.not_refused (hno k))]

/-- The answer to the press of a button is no message. -/
theorem Heeds.of_answered (press : Option String)
    (h : Heeds k inactive (Bot.answered press w) p) : Heeds k inactive w p := by
  cases press with
  | none => exact h
  | some press =>
    have hanswer : World.Posted [.answer press] w (Bot.answered (some press) w) := .post _ w
    exact h.of_posted hanswer fun _ _ _ hmem => nomatch List.mem_singleton.mp hmem

/-- What is done to the disk makes no difference. -/
theorem Heeds.of_disk {d : Disk} (h : Heeds k inactive { w with disk := d } p) :
    Heeds k inactive w p :=
  h.of_posted (.nil rfl rfl) fun _ _ _ => List.not_mem_nil

/-- What a chat does that is there. -/
theorem heeds_play {c : Chat} {x : ChatAction τ Unit} {s : Scene τ}
    (h : Chat.Heeds s (x.run ⟨c, w⟩).2) (hid : s.chat.id = k) :
    Heeds k (s.chat.active = false) s.world (play c w x).2 := by
  obtain ⟨qs, hqs, hsent⟩ := h.posted
  subst hid
  refine ⟨⟨qs, hqs, hsent⟩, Iff.trans ⟨?_, fun hactive => ⟨_, rfl, hactive⟩⟩ h.active⟩
  rintro ⟨c', hc', hactive⟩
  exact Option.some.inj hc' ▸ hactive

/-- What a chat does if it is there. -/
theorem heeds_visit {x : ChatAction τ Unit} (hid : ∀ c, p.chat = some c → c.id = k)
    (hx : Chat.Follows Chat.Heeds x) : Heeds k p.IsInactive p.world (p.visit x).2 := by
  obtain ⟨_ | c, w⟩ := p
  · exact heeds_self k ⟨none, w⟩
  · exact (heeds_play (hx ⟨c, w⟩) (hid c rfl)).congr isInactive_some.symm

end Plot

/-- What comes in, for the chat that it is for. -/
theorem deal_receive_heeds (g : Setting) (e : Inbound) {p : Plot τ}
    (hid : ∀ c, p.chat = some c → c.id = e.chat) :
    Plot.Heeds e.chat (¬(Deed.receive e).Reaches e.chat ∧ p.IsInactive) p.world
      ((Deed.receive e).deal g p).2 := by
  obtain ⟨c, w⟩ := p
  refine Plot.Heeds.of_answered e.press ?_
  by_cases htext : Text.trim e.text.toList = []
  · -- Nothing is written.
    rw [deal_of_blank g htext]
    refine (Plot.heeds_self e.chat ⟨c, answered e.press w⟩).congr ?_
    exact (and_iff_right fun hreaches => hreaches.2 htext).symm
  · have hreaches : (Deed.receive e).Reaches e.chat := ⟨rfl, htext⟩
    have hnothing : (true = false) ↔ ¬(Deed.receive e).Reaches e.chat ∧ Plot.IsInactive ⟨c, w⟩ :=
      iff_of_false Bool.noConfusion fun h => h.1 hreaches
    cases c with
    | some c =>
      rw [deal_of_known g htext]
      exact (Plot.heeds_play (Chat.heeds_respond g _ ⟨c, answered e.press w⟩)
        (hid c rfl)).congr hnothing
    | none =>
      rw [deal_of_unseen g htext, Chat.create_run]
      rcases (g.store.save _).run (answered e.press w).disk with ⟨_ | _, d⟩
      · refine Plot.Heeds.of_disk (d := d) ?_
        exact (Plot.heeds_self e.chat ⟨none, { answered e.press w with disk := d }⟩).congr
          (iff_of_false (Plot.not_isInactive_none _) fun h => h.1 hreaches)
      · refine Plot.Heeds.of_disk (d := d) ?_
        exact (Plot.heeds_play ((Chat.isSendCourse_heeds g).welcome _ e.sender
          ⟨Chat.opening g.scenario e.chat _, { answered e.press w with disk := d }⟩) rfl).congr
          hnothing

/-- **What a deed makes of refusals**, for the chat that it is for. -/
theorem Deed.deal_heeds (g : Setting) {d : Deed} {k : String} (hd : d.chat? = some k) {p : Plot τ}
    (hid : ∀ c, p.chat = some c → c.id = k) :
    Plot.Heeds k (¬d.Reaches k ∧ p.IsInactive) p.world (d.deal g p).2 := by
  cases d with
  | receive e =>
    cases hd
    exact deal_receive_heeds g e hid
  | note n =>
    cases hd
    rw [deal_note]
    exact (Plot.heeds_visit hid (Chat.heeds_handleNote g n)).congr (and_iff_right not_false).symm
  | announce key step =>
    cases hd
    rw [deal_announce]
    exact (Plot.heeds_visit hid ((Chat.isSendCourse_heeds g).goTo step)).congr
      (and_iff_right not_false).symm
  | _ => cases hd

/-! ## Deeds of a bot -/

variable {g : Setting} {k : String} {inactive : Prop} {w : World τ} {s : Stage τ}

/-- From a world on, some requests were posted.  The chat under a key is inactive if it was so in the
beginning, or a message to it was refused. -/
structure Heeds (k : String) (inactive : Prop) (w : World τ) (s : Stage τ) : Prop where
  posted : ∃ qs, World.Posted qs w s.world
  active : s.bot.IsInactive k ↔ inactive ∨ Refused k (w.answers s.world)

theorem heeds_self (k : String) (s : Stage τ) : Heeds k (s.bot.IsInactive k) s.world s := by
  have hposted : World.Posted [] s.world s.world := .nil rfl rfl
  refine ⟨⟨[], hposted⟩, ?_⟩
  rw [or_iff_left (hposted.not_refused fun _ _ => List.not_mem_nil)]

/-- What happens afterwards is added to what has happened. -/
theorem Heeds.trans {s' : Stage τ} (h : Heeds k inactive w s)
    (h' : Heeds k (s.bot.IsInactive k) s.world s') : Heeds k inactive w s' := by
  obtain ⟨qs, hqs⟩ := h.posted
  obtain ⟨rs, hrs⟩ := h'.posted
  refine ⟨⟨qs ++ rs, hqs.trans hrs⟩, ?_⟩
  rw [h'.active, h.active, hqs.answers_trans hrs, refused_append, or_assoc]

/-- The activity of a chat does not change when a stopwatch rings. -/
theorem active_ringAt (slot : Nat) (c : Chat) : (ringAt slot c).1.active = c.active :=
  congrArg ChatRecord.active (Chat.record_ringAt slot c)

/-- A deed that is for no chat leaves the activity of all of them. -/
theorem isInactive_idle (h : Sound g s.bot) {d : Deed} (hd : d.chat? = none) (k : String) :
    (d.act.run s).2.bot.IsInactive k ↔ s.bot.IsInactive k := by
  have hmap : ∀ (b : Bot) (f : Chat → Chat), (∀ c, (f c).active = c.active) →
      b.chat? k = (s.bot.chat? k).map f → (b.IsInactive k ↔ s.bot.IsInactive k) := by
    intro b f hf hb
    rw [IsInactive, IsInactive, hb]
    cases s.bot.chat? k with
    | none => exact iff_of_false nofun nofun
    | some c => simp [hf]
  cases d with
  | take => exact Iff.rfl
  | takeAnnouncement => exact Iff.rfl
  | ring key slot =>
    by_cases hk : k = key
    · refine hmap _ (fun c => (ringAt slot c).1) (active_ringAt slot) ?_
      rw [hk]
      exact (chat?_ringOne h.sorted key slot key).trans (if_pos rfl)
    · refine hmap _ id (fun _ => rfl) ?_
      rw [Option.map_id]
      exact (chat?_ringOne h.sorted key slot k).trans (if_neg hk)
  | pass t => exact hmap _ (fun c => c.ring t) (fun _ => rfl) (chat?_ringAll s.bot t k)
  | _ => cases hd

/-- A deed that is for no chat posts nothing. -/
theorem posted_idle (s : Stage τ) {d : Deed} (hd : d.chat? = none) :
    World.Posted [] s.world (d.act.run s).2.world := by
  cases d with
  | take => exact .nil rfl rfl
  | takeAnnouncement => exact .nil rfl rfl
  | ring key slot => exact .nil rfl rfl
  | pass t => exact .nil rfl rfl
  | _ => cases hd

/-- **What a deed makes of refusals**, for every chat. -/
theorem heeds_act (h : Sound g s.bot) (d : Deed) (k : String) :
    Heeds k (¬d.Reaches k ∧ s.bot.IsInactive k) s.world (d.act.run s).2 := by
  cases hd : d.chat? with
  | none =>
    have hposted := posted_idle s hd
    have hreaches : ¬d.Reaches k := by
      cases d with
      | receive e => cases hd
      | _ => exact not_false
    refine ⟨⟨[], hposted⟩, ?_⟩
    rw [isInactive_idle h hd, and_iff_right hreaches,
      or_iff_left (hposted.not_refused fun _ _ => List.not_mem_nil)]
  | some key =>
    have hdeal := Deed.deal_heeds g hd (p := plot s key) fun c hc => h.ids key c hc
    have hchat := chat?_act h.sorted h.setting hd k
    have hworld := world_act h.sorted h.setting hd
    obtain ⟨qs, hqs, hsent⟩ := hdeal.posted
    rw [← hworld] at hqs
    refine ⟨⟨qs, hqs⟩, ?_⟩
    by_cases hk : k = key
    · subst hk
      have hactive := hdeal.active
      rw [← hworld] at hactive
      rw [if_pos rfl] at hchat
      rw [IsInactive, hchat]
      exact hactive
    · -- Nothing is sent to any other chat.
      have hnone : ¬Refused k (s.world.answers (d.act.run s).2.world) :=
        hqs.not_refused fun text buttons hmem => hk (hsent k text buttons hmem)
      have hreaches : ¬d.Reaches k := by
        cases d with
        | receive e => exact fun hreaches => hk (hreaches.1.symm.trans (Option.some.inj hd))
        | _ => exact not_false
      rw [if_neg hk] at hchat
      rw [IsInactive, hchat, or_iff_left hnone, and_iff_right hreaches]
      rfl

/-- **Refusals add up** over a row of deeds in which nothing is written in the chat. -/
theorem Heeds.after (hsound : Sound g s.bot) (h : Heeds k inactive w s) {ds : List Deed}
    (hds : ∀ d ∈ ds, ¬d.Reaches k) : Heeds k inactive w (after ds s) := by
  induction ds generalizing s with
  | nil => exact h
  | cons d ds ih =>
    have hact := heeds_act hsound d k
    rw [and_iff_right (hds d List.mem_cons_self)] at hact
    exact ih (hsound.act d) (h.trans hact) fun d hd => hds d (List.mem_cons_of_mem _ hd)

/-! ## From the start on -/

/-- What is loaded is of the same chat as what is to be kept, and of the same activity. -/
def AgreesOnActive (loaded : Option ChatRecord) (r : ChatRecord) : Prop :=
  ∃ r', loaded = some r' ∧ r'.chatId = r.chatId ∧ r'.active = r.active

omit [Transport τ] in
/-- A bot starts with chats that are as active as their records. -/
theorem keptActive_start {w w' : World τ} {b : Bot} (htree : w.disk.IsTree)
    (hplace : InPlace g w.disk) (hstart : (start g).run w = (.ok b, w')) :
    Kept g (fun _ => AgreesOnActive) ⟨b, w'⟩ := by
  obtain ⟨keys, hkeys, hdisk, -⟩ := of_start hstart
  refine ⟨sound_start hplace hstart, ?_, fun k c hc => ?_⟩
  · rw [hdisk]
    exact Store.holds_of_chats htree hkeys
  · obtain ⟨r, ticket, hr, rfl⟩ := load_of_chat?_start hstart hc
    obtain ⟨hid, -, -, hactive, -⟩ := Chat.fields_ofRecord g.scenario r w.now ticket
    refine ⟨r, ?_, hid.symm, hactive.symm⟩
    rw [hdisk]
    exact Store.loaded?_eq_some.mpr hr

omit [Transport τ] in
/-- The chats that are inactive at the start are those with an inactive record. -/
theorem isInactive_start {w w' : World τ} {b : Bot} (htree : w.disk.IsTree)
    (hstart : (start g).run w = (.ok b, w')) (k : String) :
    b.IsInactive k ↔ ∃ r, g.store.load k w.disk = .ok r ∧ r.active = false := by
  have hactive : ∀ c, b.chat? k = some c →
      ∃ r, g.store.load k w.disk = .ok r ∧ c.active = r.active := by
    intro c hc
    obtain ⟨r, ticket, hr, rfl⟩ := load_of_chat?_start hstart hc
    exact ⟨r, hr, (Chat.fields_ofRecord g.scenario r w.now ticket).2.2.2.1⟩
  constructor
  · rintro ⟨c, hc, hinactive⟩
    obtain ⟨r, hr, hsame⟩ := hactive c hc
    exact ⟨r, hr, hsame.symm.trans hinactive⟩
  · rintro ⟨r, hr, hinactive⟩
    obtain ⟨keys, hkeys⟩ := chats_of_start hstart
    have hsome := isSome_chat?_start hstart (Store.holds_of_chats htree hkeys) hr
    obtain ⟨c, hc⟩ := Option.isSome_iff_exists.mp hsome
    obtain ⟨r', hr', hsame⟩ := hactive c hc
    obtain rfl := Except.ok.inj (hr.symm.trans hr')
    exact ⟨c, hc, hsame.trans hinactive⟩

/-- **A chat is inactive if and only if a message to it was refused for good** since something was
last written in it.  If nothing was written in it since the start, the record counts from which it
was restored.  The record that is loaded for it says the same, unless the store has failed.

As this holds after every row of deeds, it holds after each single one of them. -/
theorem active_records_reachability {w w' : World τ} {b : Bot} (htree : w.disk.IsTree)
    (hplace : InPlace g w.disk) (hstart : (start g).run w = (.ok b, w')) (ds : List Deed)
    {c : Chat} (hc : (after ds ⟨b, w'⟩).bot.chat? k = some c) :
    (∀ (front : List Deed) (e : Inbound) (back : List Deed), ds = front ++ .receive e :: back →
        e.chat = k → Text.trim e.text.toList ≠ [] → (∀ d ∈ back, ¬d.Reaches k) →
        (c.active = false
          ↔ Refused k ((after front ⟨b, w'⟩).world.answers (after ds ⟨b, w'⟩).world)))
      ∧ ((∀ d ∈ ds, ¬d.Reaches k) →
        (c.active = false ↔ Refused k (w'.answers (after ds ⟨b, w'⟩).world)
          ∨ ∃ r, g.store.load k w.disk = .ok r ∧ r.active = false))
      ∧ ((∀ r ∈ outcomes ds ⟨b, w'⟩, ¬StoreFailed r) →
        ∃ r, g.store.load k (after ds ⟨b, w'⟩).world.disk = .ok r
          ∧ r.chatId = k ∧ r.active = c.active) := by
  have hsound : Sound g b := sound_start hplace hstart
  refine ⟨?reached, ?unreached, ?kept⟩
  case reached =>
    rintro front e back rfl rfl htext hback
    have hfront : Sound g (after front ⟨b, w'⟩).bot :=
      ((Lifetime.started hplace hstart).after front).sound
    have hact := heeds_act hfront (.receive e) e.chat
    have hall := hact.after (hfront.act _) hback
    rw [← isInactive_iff hc, after_append, after_cons, hall.active]
    exact or_iff_right fun h => h.1 ⟨rfl, htext⟩
  case unreached =>
    intro hds
    have hall := (heeds_self k ⟨b, w'⟩).after hsound hds
    rw [← isInactive_iff hc, hall.active, or_comm, isInactive_start htree hstart]
  case kept =>
    intro hno
    have hrefl : ∀ (k : String) (x : ChatRecord), AgreesOnActive (some x) x := fun _ x =>
      ⟨x, rfl, rfl, rfl⟩
    obtain ⟨-, -, -, hlast⟩ := pair_after (pair_kept g hrefl)
      ⟨rfl, keptActive_start htree hplace hstart⟩ ds fun _ => ⟨hno, hno⟩
    obtain ⟨r, hr, hid, hactive⟩ := hlast.loaded k c hc
    exact ⟨r, Store.loaded?_eq_some.mp hr, hid.trans (hlast.sound.ids k c hc), hactive⟩

/-- A world in which messages to a chat are refused for good. -/
def deafWorld (k : String) (d : Disk) : World Refusing := ⟨0, d, ⟨[(k, 403)]⟩, [], 0⟩

/-- What somebody writes who has left before the answer. -/
def partingWord (k : String) : Inbound := ⟨k, "Hi", ⟨42, false, "Ann", none, none, none⟩, none⟩

/-- Somebody has written to the bot, and has left before the answer; a timer has rung since then. -/
theorem inactive_of_deaf :
    let b := newBot (reminding "(1h)")
    let w := deafWorld "42" Disk.empty
    let ds : List Deed := [.receive (partingWord "42"), .ring "42" 0, .note ⟨"42", 1, 0⟩]
    ∃ c, (after ds ⟨b, w⟩).bot.chat? "42" = some c ∧ c.active = false
      ∧ Refused "42" (w.answers (after ds ⟨b, w⟩).world)
      ∧ ∃ r, (reminding "(1h)").store.load "42" (after ds ⟨b, w⟩).world.disk = .ok r
        ∧ r.chatId = "42" ∧ r.active = false := by
  intro b w ds
  have hinactive : ((after ds ⟨b, w⟩).bot.chat? "42").map Chat.active = some false := by
    decide +kernel
  have houtcomes : ∀ r ∈ outcomes ds ⟨b, w⟩, ¬StoreFailed r := by
    have hall : outcomes ds ⟨b, w⟩ = [.ok (), .ok (), .ok ()] := by decide +kernel
    rw [hall]
    rintro r hr ⟨e, rfl⟩
    simp only [List.mem_cons, List.not_mem_nil, reduceCtorEq, or_self] at hr
  have hback : ∀ d ∈ [Deed.ring "42" 0, .note ⟨"42", 1, 0⟩], ¬d.Reaches "42" := by
    simp only [List.forall_mem_cons, List.not_mem_nil, Deed.Reaches, not_false_eq_true, true_and,
      false_imp_iff, implies_true]
  have hwords : Text.trim (partingWord "42").text.toList ≠ [] := by decide +kernel
  have hchats : (reminding "(1h)").store.chats Disk.empty = .ok [] := chats_newWorld
  have hstart : (start (reminding "(1h)")).run w = (.ok b, w) := start_of_chats_nil hchats
  have hplace : InPlace (reminding "(1h)") w.disk :=
    inPlace_of_chats_nil Disk.isTree_empty hchats
  obtain ⟨c, hc, hactive⟩ := Option.map_eq_some_iff.mp hinactive
  obtain ⟨hreached, -, hkept⟩ :=
    active_records_reachability Disk.isTree_empty hplace hstart ds hc
  have hrefused := (hreached [] (partingWord "42") _ rfl rfl hwords hback).mp hactive
  obtain ⟨r, hr, hid, hsame⟩ := hkept houtcomes
  exact ⟨c, hc, hactive, hrefused, r, hr, hid, hsame.trans hactive⟩

/-- A disk on which two directories have a record of one chat. -/
def doubledDisk : Disk :=
  ["/b", "/a"].foldl (fun d dir =>
    ((d.makeDirectories ⟨dir⟩).2.write ⟨dir ++ "/state.json"⟩
      "\x7b\"chatId\":\"b\",\"stepId\":\"1\"\x7d".toUTF8).2) Disk.empty

/-- The name of an entry that is a directory. -/
def directoryName? (x : String × Entry) : Option String :=
  match x.2 with
  | .directory => some x.1
  | .file _ => none

/-- The chats that are listed, if the directories come in their order. -/
theorem chats_of_names {store : Store} {d : Disk} {keys : List String}
    (h : ((d.list store.root).map fun l => l.filterMap directoryName?).toOption = some keys)
    (hsorted : keys.Pairwise (· ≤ ·)) : store.chats d = .ok keys := by
  rw [Store.chats]
  generalize d.list store.root = listed at h ⊢
  cases listed with
  | error e => cases h
  | ok l =>
    obtain rfl := Option.some.inj h
    exact congrArg Except.ok (List.mergeSort_of_pairwise (hsorted.imp decide_eq_true))

/-- Both directories are listed. -/
theorem chats_doubledDisk : (reminding "(1h)").store.chats doubledDisk = .ok ["a", "b"] :=
  chats_of_names (by decide +kernel) (by decide +kernel)

/-- Where two directories have a record of one chat, memory and disk can disagree.  Something is
written in the chat under the one key, and the answer is refused.  The chat under the other key is
not told so, but its record is. -/
theorem doubled_record_disagrees :
    ∃ b w', (start (reminding "(1h)")).run (deafWorld "b" doubledDisk) = (.ok b, w')
      ∧ let s := after [.receive (partingWord "a")] ⟨b, w'⟩
        (s.bot.chat? "b").map (fun c => (c.id, c.active)) = some ("b", true)
          ∧ Refused "b" (w'.answers s.world)
          ∧ ((reminding "(1h)").store.load "b" s.world.disk).toOption.map ChatRecord.active
            = some false :=
  ⟨_, _, start_of_chats chats_doubledDisk rfl, by decide +kernel⟩

end Bot
end ScriptedChat
