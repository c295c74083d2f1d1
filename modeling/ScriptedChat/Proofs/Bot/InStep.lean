import ScriptedChat.Proofs.Bot.Dealing
import ScriptedChat.Proofs.Bot.Life

/-!
# Memory and disk

Whatever changes in a chat, and belongs to what is kept of it, is kept before the chat is done
with what it does.  So between two deeds the record that is loaded for a chat is the record that
would be kept of it, as long as the store does its part, and a bot that is cut off there has lost
nothing.

In the middle of a deed this does not hold: a chat changes first, and is kept then.  So what is
true at any time is less (`Chat.Sheltered`) than what is true when the chat has been kept
(`Chat.Kept`), and every action that begins with the latter ends with it.

A record that has not as many timers as its step goes on with others, so a chat that was restored
from such a record is not in step with it, until it is kept again.  But it may agree with it in
other respects.  So what is carried along is any relation between what is loaded and what is to be
kept that holds when the two are the same (`Bot.Kept`).

* `Chat.isSoloCourse_kept`: the small steps.
* `Bot.pair_kept`: a deed, for any such relation.
* `Bot.pair_inStep`: a deed, for chats that are in step.
* `Bot.memory_in_step`: a whole run.
-/

namespace ScriptedChat

variable {τ : Type}

namespace Chat

/-- The chat of a scene has its key as its id, and what has become of the disk has not been seen
by any other chat. -/
structure Sheltered (g : Setting) (k : String) (d : Disk) (s : Scene τ) : Prop where
  id : s.chat.id = k
  disk : g.store.Spares k d s.world.disk

/-- What is loaded for the chat is related to what is to be kept of it. -/
structure Kept (g : Setting) (k : String) (d : Disk) (P : Option ChatRecord → ChatRecord → Prop)
    (s : Scene τ) : Prop extends Sheltered g k d s where
  loaded : P (g.store.loaded? k s.world.disk) s.chat.record

section

variable {g : Setting} {k : String} {d : Disk} {P : Option ChatRecord → ChatRecord → Prop}

/-- A chat that could be kept is kept as it is. -/
theorem Sheltered.save {s : Scene τ} (h : Sheltered g k d s) (hP : ∀ x, P (some x) x)
    (hno : ¬StoreFailed ((Chat.save g).run s).1) :
    Succeeded ((Chat.save g).run s).1 ∧ Kept g k d P ((Chat.save g).run s).2 := by
  obtain ⟨rfl, hdisk⟩ := h
  have hsaves := Store.saves hdisk.holds s.chat.record
  rw [save_run] at hno ⊢
  generalize (g.store.save s.chat.record).run s.world.disk = r at hsaves hno ⊢
  obtain ⟨e | _, d'⟩ := r
  · exact absurd ⟨e, rfl⟩ hno
  · refine ⟨⟨(), rfl⟩, ⟨rfl, hdisk.trans hsaves.spares⟩, ?_⟩
    have hloaded : g.store.loaded? s.chat.id d' = some s.chat.record :=
      Store.loaded?_eq_some.mpr (hsaves.load rfl)
    rw [hloaded]
    exact hP s.chat.record

/-- The log has nothing to do with what is kept. -/
theorem Kept.writeLog {s : Scene τ} (h : Kept g k d P s) (text : String)
    (hno : ¬StoreFailed ((Chat.writeLog g text).run s).1) :
    Succeeded ((Chat.writeLog g text).run s).1
      ∧ Kept g k d P ((Chat.writeLog g text).run s).2 := by
  obtain ⟨⟨rfl, hdisk⟩, hloaded⟩ := h
  obtain ⟨hspares, hsame⟩ :=
    Store.appendLog_spares hdisk.holds s.chat.id s.world.now text
  rw [writeLog_run] at hno ⊢
  generalize (g.store.appendLog s.chat.id s.world.now text).run s.world.disk = r
    at hspares hsame hno ⊢
  obtain ⟨e | _, d'⟩ := r
  · exact absurd ⟨e, rfl⟩ hno
  · exact ⟨⟨(), rfl⟩, ⟨rfl, hdisk.trans hspares⟩, hsame ▸ hloaded⟩

theorem isSoloCourse_kept (g : Setting) (k : String) (d : Disk) (hP : ∀ x, P (some x) x)
    [Transport τ] :
    IsSoloCourse g True (Sheltered g k d : Scene τ → Prop) (Kept g k d P) where
  weaken h := h.toSheltered
  settle h := absurd trivial h
  save h hno := (h.save hP (hno trivial)).imp_left fun hok _ => hok
  writeLog text h hno := (h.writeLog text (hno trivial)).imp_left fun hok _ => hok
  post hK _ _ _ h := by
    rcases hK with rfl | rfl
    · exact ⟨h.id, h.disk⟩
    · exact ⟨⟨h.id, h.disk⟩, h.loaded⟩
  setActive _ h := ⟨h.id, h.disk⟩
  setRef _ h := ⟨h.id, h.disk⟩
  enterStep _ h := ⟨h.id, h.disk⟩
  take _ h := ⟨h.id, h.disk⟩

end

/-- When a stopwatch rings, nothing changes in what is kept. -/
theorem record_ring (c : Chat) (now : Int) : (c.ring now).record = c.record := by
  have hstates := (stayed_ring c now).states
  rw [record, record, hstates]
  rfl

theorem record_ringAt (slot : Nat) (c : Chat) : (Bot.ringAt slot c).1.record = c.record := by
  rw [Bot.ringAt]
  split
  · rename_i t ht
    split
    · rfl
    · have hstates := (Bot.stayed_set ht).states
      rw [record, hstates]
      rfl
  · rfl

end Chat

/-- The delayed actions of the step that a record resolves to. -/
def ChatRecord.delayed (scenario : Scenario) (r : ChatRecord) : List Action :=
  match scenario.step? (r.stepId.getD "") with
  | some step => step.delayedActions
  | none => []

/-- A chat that is restored is on the step that its record resolves to. -/
theorem Chat.delayed_ofRecord (scenario : Scenario) (r : ChatRecord) (now : Int) (tickets : Nat) :
    (Chat.ofRecord scenario r now tickets).delayed scenario = r.delayed scenario := by
  have hfound : (Chat.ofRecord scenario r now tickets).step? scenario
      = scenario.step? (r.stepId.getD "") := by
    rw [Chat.step?, Chat.stepLabel, (Chat.fields_ofRecord scenario r now tickets).2.1]
  cases h : scenario.step? (r.stepId.getD "") with
  | some step => simp only [Chat.delayed, ChatRecord.delayed, hfound, h]
  | none => simp only [Chat.delayed, ChatRecord.delayed, hfound, h]

namespace Bot

/-- The store can be used, and what is loaded for every chat is related to what is to be kept of
it. -/
structure Kept (g : Setting) (P : String → Option ChatRecord → ChatRecord → Prop) (s : Stage τ) :
    Prop where
  sound : Sound g s.bot
  holds : g.store.Holds s.world.disk
  loaded : ∀ k c, s.bot.chat? k = some c → P k (g.store.loaded? k s.world.disk) c.record

/-- The store can be used, and what is loaded for the chats that are asked for is what is to be
kept of them. -/
structure InStep (g : Setting) (asked : String → Prop) (s : Stage τ) : Prop where
  sound : Sound g s.bot
  holds : g.store.Holds s.world.disk
  load : ∀ k c, s.bot.chat? k = some c → asked k → g.store.load k s.world.disk = .ok c.record

/-- To be in step is one of the relations. -/
theorem inStep_eq (g : Setting) (asked : String → Prop) :
    (InStep g asked : Stage τ → Prop) = Kept g fun k r x => asked k → r = some x := by
  funext s
  refine propext ⟨fun h => ⟨h.sound, h.holds, fun k c hc hasked => ?_⟩,
    fun h => ⟨h.sound, h.holds, fun k c hc hasked => ?_⟩⟩
  · exact Store.loaded?_eq_some.mpr (h.load k c hc hasked)
  · exact Store.loaded?_eq_some.mp (h.loaded k c hc hasked)

section

variable {g : Setting} {P : String → Option ChatRecord → ChatRecord → Prop}

/-- A deed that is for no chat does nothing to the disk, ... -/
theorem disk_idle [Transport τ] (s : Stage τ) {d : Deed} (hd : d.chat? = none) :
    (d.act.run s).2.world.disk = s.world.disk := by
  cases d with
  | take | takeAnnouncement | ring | pass => rfl
  | _ => cases hd

/-- ... and to what is to be kept of a chat. -/
theorem record?_idle [Transport τ] {s : Stage τ} (hs : Keyed.IsSorted s.bot.chats) {d : Deed}
    (hd : d.chat? = none) (k : String) :
    ((d.act.run s).2.bot.chat? k).map Chat.record = (s.bot.chat? k).map Chat.record := by
  cases d with
  | take => rfl
  | takeAnnouncement => rfl
  | ring key slot =>
    show ((s.bot.ringOne key slot).chat? k).map Chat.record = _
    rw [chat?_ringOne hs]
    split
    · rename_i hk
      rw [hk, Option.map_map]
      exact Option.map_congr fun c _ => Chat.record_ringAt slot c
    · rfl
  | pass t =>
    show ((s.bot.ringAll t).chat? k).map Chat.record = _
    rw [chat?_ringAll, Option.map_map]
    exact Option.map_congr fun c _ => Chat.record_ring c t
  | _ => cases hd

/-- A deed that is for no chat leaves everything as it is kept. -/
theorem Kept.idle {s : Stage τ} [Transport τ] (h : Kept g P s) {d : Deed} (hd : d.chat? = none) :
    (d.act.run s).1 = .ok () ∧ Kept g P (d.act.run s).2 := by
  have hdisk := disk_idle s hd
  refine ⟨?_, h.sound.act d, hdisk ▸ h.holds, fun k c hc => ?_⟩
  · cases d with
    | take | takeAnnouncement | ring | pass => rfl
    | _ => cases hd
  · have hsame := record?_idle h.sound.sorted hd k
    rw [hc] at hsame
    obtain ⟨c₀, hc₀, hkept⟩ := Option.map_eq_some_iff.mp hsame.symm
    rw [hdisk, ← hkept]
    exact h.loaded k c₀ hc₀

variable [Transport τ]

/-- What is to be shown of a deed for one chat. -/
theorem isPlotCourse_kept (g : Setting) (k : String) (d : Disk) (hP : ∀ x, P k (some x) x) :
    IsPlotCourse g True k (Diag (Chat.Sheltered g k d)) (Diag (Chat.Kept g k d (P k)))
      (Diag fun w : World τ => g.store.Spares k d w.disk) where
  course := (Chat.isSoloCourse_kept g k d hP).isPairCourse
  create := by
    rintro w w' ref ⟨rfl, hw⟩ hno
    have hsaves := Store.saves hw.holds (Chat.opening g.scenario k ref).record
    have hfailed := (hno trivial).1
    rw [Chat.create_run] at hfailed ⊢
    generalize (g.store.save (Chat.opening g.scenario k ref).record).run w.disk = r
      at hsaves hfailed ⊢
    obtain ⟨e | _, d'⟩ := r
    · exact absurd ⟨e, rfl⟩ hfailed
    · refine Or.inl ⟨_, _, _, rfl, rfl, rfl, ⟨rfl, hw.trans hsaves.spares⟩, ?_⟩
      have hloaded : g.store.loaded? k d' = some (Chat.opening g.scenario k ref).record :=
        Store.loaded?_eq_some.mpr (hsaves.load rfl)
      rw [hloaded]
      exact hP _

/-- A deed for one chat leaves everything as it is kept, unless the store failed. -/
theorem Kept.deal {s : Stage τ} (h : Kept g P s) (hP : ∀ k x, P k (some x) x) {d : Deed}
    {key : String} (hd : d.chat? = some key) (hno : ¬StoreFailed (d.act.run s).1) :
    Succeeded (d.act.run s).1 ∧ Kept g P (d.act.run s).2 := by
  have hsound := h.sound.act d
  have hplot : Plot.Related (Diag (Chat.Kept g key s.world.disk (P key)))
      (Diag fun w : World τ => g.store.Spares key s.world.disk w.disk)
      ((plot s key).answered d.press?) ((plot s key).answered d.press?) := by
    have hdisk := disk_answered d.press? s.world
    have hspares : g.store.Spares key s.world.disk (answered d.press? s.world).disk :=
      hdisk.symm ▸ Store.Spares.refl h.holds key
    rw [Plot.Related, Plot.answered, plot]
    cases hc : s.bot.chat? key with
    | some c =>
      exact ⟨rfl, ⟨h.sound.ids key c hc, hspares⟩, hdisk.symm ▸ h.loaded key c hc⟩
    | none => exact ⟨rfl, hspares⟩
  have hdeal := (isPlotCourse_kept g key s.world.disk (hP key)).deal hd hplot
  have hchat := chat?_act h.sound.sorted h.sound.setting hd
  have hworld := world_act h.sound.sorted h.sound.setting hd
  have hresult : (d.act.run s).1 = (d.deal g (plot s key)).1 := by
    rw [act_run h.sound.sorted h.sound.setting hd]
  rw [hresult] at hno ⊢
  generalize d.deal g (plot s key) = p at hdeal hno hchat hworld ⊢
  obtain ⟨r, c, w⟩ := p
  obtain ⟨-, hok, hrel⟩ := hdeal fun _ => ⟨hno, hno⟩
  -- What the deed has done to the disk was seen by this chat only.
  have hothers : g.store.Spares key s.world.disk w.disk := by
    cases c with
    | some c => exact hrel.2.disk
    | none => exact hrel.2
  refine ⟨hok trivial, hsound, hworld ▸ hothers.holds, fun k c' hc' => ?_⟩
  rw [hchat] at hc'
  rw [hworld]
  split at hc'
  · rename_i hk
    dsimp only at hc'
    subst hc' hk
    exact hrel.2.loaded
  · rename_i hk
    have hloaded : g.store.loaded? k w.disk = g.store.loaded? k s.world.disk :=
      congrArg Except.toOption (hothers.others k hk)
    rw [hloaded]
    exact h.loaded k c' hc'

/-- **A deed leaves chats as they are kept**, unless the store failed. -/
theorem pair_kept (g : Setting) (hP : ∀ k x, P k (some x) x) (d : Deed) :
    Pair True (Diag (Kept g P)) (d.act : BotAction τ Unit) d.act (Diag (Kept g P)) := by
  refine Pair.diag fun s hs hno => ?_
  cases hd : d.chat? with
  | some key => exact (hs.deal hP hd (hno trivial)).imp_left fun hok _ => hok
  | none => exact (hs.idle hd).imp_left fun hok _ => ⟨(), hok⟩

/-- **A deed leaves memory and disk in step**, unless the store failed. -/
theorem pair_inStep (g : Setting) (asked : String → Prop) (d : Deed) :
    Pair True (Diag (InStep g asked)) (d.act : BotAction τ Unit) d.act
      (Diag (InStep g asked)) := by
  rw [inStep_eq]
  exact pair_kept g (fun _ _ _ => rfl) d

/-! ## From the start on -/

/-- A chat was not there when the bot `b` had started from a disk, or its record has a timer for
each delayed action of the step that it resolves to. -/
def IsWhole (g : Setting) (d : Disk) (b : Bot) (k : String) : Prop :=
  b.chat? k = none
    ∨ ∃ r, g.store.load k d = .ok r ∧ r.timers.length = (r.delayed g.scenario).length

omit [Transport τ] in
/-- A bot starts in step with the records that have a timer for each delayed action of their
step. -/
theorem inStep_start {w w' : World τ} {b : Bot} (htree : w.disk.IsTree)
    (hplace : InPlace g w.disk) (hstart : (start g).run w = (.ok b, w')) :
    InStep g (IsWhole g w.disk b) ⟨b, w'⟩ := by
  obtain ⟨keys, hkeys, hdisk, -⟩ := of_start hstart
  refine ⟨sound_start hplace hstart, ?_, fun k c hc hasked => ?_⟩
  · rw [hdisk]
    exact Store.holds_of_chats htree hkeys
  · have hc' : b.chat? k = some c := hc
    obtain ⟨r, ticket, hr, rfl⟩ := load_of_chat?_start hstart hc'
    have hlength : r.timers.length = (r.delayed g.scenario).length := by
      rcases hasked with hnone | ⟨r', hr', hlength⟩
      · rw [hnone] at hc'
        cases hc'
      · rw [hr] at hr'
        rwa [Except.ok.inj hr']
    rw [← Chat.delayed_ofRecord g.scenario r w.now ticket] at hlength
    rw [Chat.record_ofRecord hlength, hdisk, hr]

/-- **Memory and disk stay in step.**  A bot has started, where every record lies in the directory
of its chat, and then any deeds have been done, none of which ended with a failure of the store.
Then what is loaded for a chat is what is to be kept of it, if the chat was made since the start,
or was restored from a record with a timer for each delayed action of the step that it resolves
to.  What became of the messages makes no difference.

As this holds after every row of deeds, it holds after each single one of them. -/
theorem memory_in_step {w w' : World τ} {b : Bot} (htree : w.disk.IsTree)
    (hplace : InPlace g w.disk) (hstart : (start g).run w = (.ok b, w')) (ds : List Deed)
    (hno : ∀ r ∈ outcomes ds ⟨b, w'⟩, ¬StoreFailed r) {k : String} {c : Chat}
    (hc : (after ds ⟨b, w'⟩).bot.chat? k = some c) (hwhole : IsWhole g w.disk b k) :
    c.id = k ∧ g.store.load c.id (after ds ⟨b, w'⟩).world.disk = .ok c.record := by
  obtain ⟨-, -, -, hlast⟩ := pair_after (pair_inStep g (IsWhole g w.disk b))
    ⟨rfl, inStep_start htree hplace hstart⟩ ds fun _ => ⟨hno, hno⟩
  have hid := hlast.sound.ids k c hc
  refine ⟨hid, ?_⟩
  rw [hid]
  exact hlast.load k c hc hwhole

end

/-- Somebody has written to the bot, a timer has rung, and its note has been handled: what is
loaded is that the chat is on the second step. -/
theorem kept_step_of_greeted :
    let ds : List Deed :=
      [ .receive ⟨"42", "Hi", ⟨42, false, "Ann", none, none, none⟩, none⟩, .ring "42" 0
      , .note ⟨"42", 1, 0⟩ ]
    let s := after ds ⟨newBot (reminding "(1h)"), newWorld⟩
    ∃ c, s.bot.chat? "42" = some c ∧ c.stepId = some "2"
      ∧ (reminding "(1h)").store.load "42" s.world.disk = .ok c.record := by
  intro ds s
  have hsome : (s.bot.chat? "42").map Chat.stepId = some (some "2") := by decide +kernel
  have houtcomes : outcomes ds ⟨newBot (reminding "(1h)"), newWorld⟩
      = [.ok (), .ok (), .ok ()] := by decide +kernel
  obtain ⟨c, hc, hstep⟩ := Option.map_eq_some_iff.mp hsome
  obtain ⟨hid, hload⟩ := memory_in_step Disk.isTree_empty
    (inPlace_of_chats_nil Disk.isTree_empty chats_newWorld) (start_newWorld "(1h)") ds
    (by
      rw [houtcomes]
      rintro r hr ⟨e, rfl⟩
      simp at hr)
    hc (Or.inl rfl)
  rw [hid] at hload
  exact ⟨c, hc, hstep, hload⟩

end Bot
end ScriptedChat
