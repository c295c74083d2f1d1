import ScriptedChat.Proofs.Bot.Minding
import ScriptedChat.Proofs.Bot.Referral
import ScriptedChat.Proofs.Bot.Single
import ScriptedChat.Proofs.Store.Cutoff

/-!
# What a success says about the disk

A chat is changed first and kept afterwards, and it is kept only because it has changed.  So if a
deed has succeeded, what it has changed is on the disk.  If it has changed nothing, it has not
written the record at all, and has not looked at it either.

If a chat cannot be kept, the change is in memory and not on the disk.  Whoever does the same again
finds it done already: this succeeds, and nothing is written.  What was lost comes to the disk only
with the next change of the chat.

## The argument

If a deed has succeeded, either nothing is different for its chat, in memory and on the disk, or the
chat has been kept as it is.  This is a course of one run (`Chat.isSoloCourse_settled`).

It does not say that a chat is kept only if it has changed.  While a chat answers a text, what makes
it keep itself can be told afterwards: it has moved, and generations only grow, or it has become
inactive, and nothing there makes it active again (`Chat.isTalkCourse_talks`).  So a chat that is as
it was has not been kept.  The one exception is that something is written in a chat that was
inactive, since this may become inactive again.

* `Chat.IsSaved`, `Chat.Untouched`, `Chat.Settled`: what a success leaves.
* `Chat.HasTurned`, `Chat.Talks`: what makes a chat keep itself while it answers.
* `Chat.KeepsChanges`, `Chat.keepsChanges_respond`, `keepsChanges_handleNote`, `keepsChanges_goTo`:
  what a chat does.
* `Chat.applyRef_ok`, `Chat.applyRef_error`, `Chat.markReachable_ok`, `Chat.markReachable_error`:
  the two changes that are not made again.
* `Bot.Deed.Alters`, `Bot.isAttested_act`, `Bot.isAttested_after`: a deed, and a row of deeds.
* `Bot.successes_keep_changes_only`: all of this together.
-/

namespace ScriptedChat

variable {τ α : Type} {g : Setting}

namespace Chat

/-! ## What a success leaves -/

/-- What is loaded for the chat has the code and the activity of the chat. -/
def IsAttested (g : Setting) (s : Scene τ) : Prop :=
  ∃ r, g.store.load s.chat.id s.world.disk = .ok r
    ∧ r.refId = s.chat.refId ∧ r.active = s.chat.active

/-- What is loaded for the chat is what is to be kept of it. -/
def IsSaved (g : Setting) (s : Scene τ) : Prop :=
  g.store.load s.chat.id s.world.disk = .ok s.chat.record

theorem IsSaved.isAttested {s : Scene τ} (h : IsSaved g s) : IsAttested g s :=
  ⟨s.chat.record, h, rfl, rfl⟩

/-- The chat is as it was, and so is what is loaded for it. -/
structure Untouched (g : Setting) (s t : Scene τ) : Prop where
  chat : t.chat = s.chat
  load : g.store.load s.chat.id t.world.disk = g.store.load s.chat.id s.world.disk

variable {s t u : Scene τ}

theorem Untouched.isSaved (h : Untouched g s t) (hs : IsSaved g s) : IsSaved g t := by
  rw [IsSaved, h.chat, h.load]
  exact hs

theorem Untouched.isAttested_iff (h : Untouched g s t) : IsAttested g t ↔ IsAttested g s := by
  rw [IsAttested, h.chat, h.load]
  rfl

/-- What is written to the log is not seen in the record. -/
theorem untouched_writeLog (hs : g.store.Holds s.world.disk) (text : String) :
    Untouched g s ((Chat.writeLog g text).run s).2 := by
  rw [writeLog_run_snd]
  exact ⟨rfl, Store.load_appendLog hs s.chat.id s.world.now text s.chat.id⟩

/-- A chat that could be kept is kept as it is, ... -/
theorem isSaved_of_save {c : Chat} {w : World τ} (hw : g.store.Holds w.disk)
    (hrun : (Chat.save g).run ⟨c, w⟩ = (.ok (), t)) :
    t.chat = c ∧ IsSaved g t ∧ g.store.Holds t.world.disk := by
  have hsaves := Store.saves hw c.record
  rw [save_run] at hrun
  dsimp only at hrun
  generalize (g.store.save c.record).run w.disk = saved at hsaves hrun
  obtain ⟨e | _, d⟩ := saved
  · cases hrun
  · cases hrun
    exact ⟨rfl, hsaves.load rfl, hsaves.spares.holds⟩

/-- ... and otherwise nothing is different. -/
theorem untouched_of_save {c : Chat} {w : World τ} {e : EngineError} (hw : g.store.Holds w.disk)
    (hrun : (Chat.save g).run ⟨c, w⟩ = (.error e, t)) : Untouched g ⟨c, w⟩ t := by
  have hload := fun e' he =>
    Store.load_congr_file? (Store.file?_of_save_error (e := e') hw (r := c.record) he c.id)
  rw [save_run] at hrun
  dsimp only at hrun
  generalize (g.store.save c.record).run w.disk = saved at hload hrun
  obtain ⟨e' | _, d⟩ := saved
  · cases hrun
    exact ⟨rfl, hload e' rfl⟩
  · cases hrun

/-- From a scene on, nothing is different for the chat, or it has been kept as it is. -/
structure Settled (g : Setting) (s t : Scene τ) : Prop
    extends Sheltered g s.chat.id s.world.disk t where
  settled : Untouched g s t ∨ IsSaved g t

/-- What has changed since then has been kept, and what had been kept then still is. -/
theorem Settled.isSaved (h : Settled g s t) (hs : IsSaved g s ∨ t.chat ≠ s.chat) : IsSaved g t := by
  rcases h.settled with hsame | hsaved
  · exact hsame.isSaved (hs.resolve_right fun hne => hne hsame.chat)
  · exact hsaved

/-- The log does not change what is settled. -/
theorem Settled.writeLog (h : Settled g s t) (text : String)
    (hno : ¬StoreFailed ((Chat.writeLog g text).run t).1) :
    Succeeded ((Chat.writeLog g text).run t).1 ∧ Settled g s ((Chat.writeLog g text).run t).2 := by
  have hkept : Kept g s.chat.id s.world.disk (fun _ _ => True) t := ⟨h.toSheltered, trivial⟩
  obtain ⟨hok, hnext⟩ := hkept.writeLog text hno
  have hsame := untouched_writeLog h.disk.holds text
  refine ⟨hok, hnext.toSheltered, ?_⟩
  rcases h.settled with hst | hsaved
  · refine Or.inl ⟨hsame.chat.trans hst.chat, Eq.trans ?_ hst.load⟩
    rw [← h.id]
    exact hsame.load
  · exact Or.inr (hsame.isSaved hsaved)

variable [Transport τ]

/-- **Either nothing is different, or the chat has been kept.** -/
theorem isSoloCourse_settled (g : Setting) (s : Scene τ) :
    IsSoloCourse g True (Sheltered g s.chat.id s.world.disk) (Settled g s) where
  weaken h := h.toSheltered
  settle h := absurd trivial h
  save {t} h hno := by
    obtain ⟨hok, hkept⟩ :=
      h.save (P := fun loaded r => loaded = some r) (fun _ => rfl) (hno trivial)
    refine ⟨fun _ => hok, hkept.toSheltered, Or.inr ?_⟩
    rw [IsSaved, hkept.id]
    exact Store.loaded?_eq_some.mp hkept.loaded
  writeLog text h hno := (h.writeLog text (hno trivial)).imp_left fun hok _ => hok
  post hK _ _ _ h := by
    rcases hK with rfl | rfl
    · exact ⟨h.id, h.disk⟩
    · exact ⟨⟨h.id, h.disk⟩, h.settled.imp (fun hst => ⟨hst.chat, hst.load⟩) fun ht => ht⟩
  setActive _ h := ⟨h.id, h.disk⟩
  setRef _ h := ⟨h.id, h.disk⟩
  enterStep _ h := ⟨h.id, h.disk⟩
  take _ h := ⟨h.id, h.disk⟩

omit [Transport τ] in
/-- What an action that keeps to this course leaves if it succeeds. -/
theorem Settled.of_ok {x : ChatAction τ α} {a : α}
    (hx : Pair True (Diag (Settled g s)) x x (Diag (Settled g s)))
    (hs : g.store.Holds s.world.disk) (hrun : x.run s = (.ok a, t)) : Settled g s t := by
  have hself : Settled g s s := ⟨⟨rfl, Store.Spares.refl hs _⟩, Or.inl ⟨rfl, rfl⟩⟩
  have hno : ¬StoreFailed (x.run s).1 := by
    rw [hrun]
    rintro ⟨e, he⟩
    cases he
  obtain ⟨-, -, -, hlast⟩ := hx s s ⟨rfl, hself⟩ fun _ => ⟨hno, hno⟩
  rwa [hrun] at hlast

/-! ## What makes a chat keep itself while it answers -/

omit [Transport τ] in
theorem moveTo_run_snd {id : String} {step : Step} (h : g.scenario.step? id = some step)
    (s : Scene τ) : ((Chat.moveTo g id).run s).2 = ((Chat.save g).run (enterStep step s)).2 := by
  rw [moveTo_run_of_some h]
  rcases (Chat.save g).run (enterStep step s) with ⟨_ | _, t⟩ <;> rfl

/-- The chat has moved, or has become inactive. -/
def HasTurned (c c' : Chat) : Prop :=
  c.generation < c'.generation ∨ c.active = true ∧ c'.active = false

/-- The chat has not become active again, and it has turned, or else nothing is different. -/
structure Talks (s t : Scene τ) : Prop where
  generation : s.chat.generation ≤ t.chat.generation
  active : t.chat.active = true → s.chat.active = true
  turned : HasTurned s.chat t.chat ∨ t.chat = s.chat ∧ t.world.disk = s.world.disk

omit [Transport τ] in
theorem Talks.refl (s : Scene τ) : Talks s s := ⟨Nat.le_refl _, fun hs => hs, Or.inr ⟨rfl, rfl⟩⟩

omit [Transport τ] in
theorem Talks.trans (h : Talks s t) (h' : Talks t u) : Talks s u := by
  refine ⟨Nat.le_trans h.generation h'.generation, fun hu => h.active (h'.active hu), ?_⟩
  rcases h.turned with (hmoved | ⟨hs, ht⟩) | ⟨hchat, hdisk⟩
  · exact Or.inl (Or.inl (Nat.lt_of_lt_of_le hmoved h'.generation))
  · refine Or.inl (Or.inr ⟨hs, Bool.eq_false_iff.mpr fun hu => ?_⟩)
    rw [h'.active hu] at ht
    cases ht
  · rw [← hchat, ← hdisk]
    exact h'.turned

omit [Transport τ] in
/-- A chat that is as it was has not been kept. -/
theorem Talks.disk (h : Talks s t) (hchat : t.chat = s.chat) : t.world.disk = s.world.disk := by
  rcases h.turned with (hmoved | ⟨hs, ht⟩) | ⟨-, hdisk⟩
  · rw [hchat] at hmoved
    exact absurd hmoved (Nat.lt_irrefl _)
  · rw [hchat, hs] at ht
    cases ht
  · exact hdisk

/-- **While a chat answers, it is kept only if it has turned.** -/
theorem isTalkCourse_talks (g : Setting) : IsTalkCourse g (Talks : Scene τ → Scene τ → Prop) where
  refl := Talks.refl
  trans := Talks.trans
  send text buttons s := by
    by_cases h : IsRefused s text buttons
    · have hchat := chat_save g
        { posted s text buttons with chat := { s.chat with active := false } }
      rw [send_of_isRefused g h]
      refine ⟨?_, fun hactive => ?_, Or.inl (Or.inr ⟨h.1, ?_⟩)⟩
      · rw [hchat]
      · rw [hchat] at hactive
        cases hactive
      · rw [hchat]
    · rw [send_of_not_isRefused g h]
      exact ⟨Nat.le_refl _, fun hs => hs, Or.inr ⟨rfl, rfl⟩⟩
  moveTo id s := by
    cases hstep : g.scenario.step? id with
    | none =>
      rw [moveTo_run_of_none hstep]
      exact Talks.refl s
    | some step =>
      have hchat := chat_save g (enterStep step s)
      rw [moveTo_run_snd hstep]
      refine ⟨?_, fun hactive => ?_, Or.inl (Or.inl ?_)⟩
      · rw [hchat]
        exact Nat.le_succ _
      · rw [hchat] at hactive
        exact hactive
      · rw [hchat]
        exact Nat.lt_succ_self _

/-! ## The two changes that are not made again -/

section

omit [Transport τ]

/-- A code that is not taken is logged, and that is all.  A code that is taken is logged, and then
the chat that has it is kept. -/
theorem applyRef_cases (hs : g.store.Holds s.world.disk) (code : String) :
    ∃ u, Untouched g s u ∧ g.store.Holds u.world.disk
      ∧ ((∃ r, (Chat.applyRef g code).run s = (r, u) ∧ (r = .ok () → s.chat.refId ≠ none))
        ∨ s.chat.refId = none ∧ (Chat.applyRef g code).run s
          = (Chat.save g).run ⟨{ s.chat with refId := some code }, u.world⟩) := by
  let line := Json.toText (.object [("refId", .text code)])
  have hsame := untouched_writeLog hs line
  have hholds := (Store.appendLog_spares hs s.chat.id s.world.now line).1.holds
  have hdisk : g.store.Holds ((Chat.writeLog g line).run s).2.world.disk := by
    rw [writeLog_run_snd]
    exact hholds
  rw [applyRef_run]
  generalize (Chat.writeLog g line).run s = logged at hsame hdisk ⊢
  obtain ⟨e | _, u⟩ := logged
  · exact ⟨u, hsame, hdisk, Or.inl ⟨_, rfl, nofun⟩⟩
  · refine ⟨u, hsame, hdisk, ?_⟩
    dsimp only at hsame ⊢
    rw [hsame.chat]
    cases href : s.chat.refId with
    | none => exact Or.inr ⟨rfl, rfl⟩
    | some code' => exact Or.inl ⟨_, rfl, fun _ => nofun⟩

/-- A code is kept if it is taken, ... -/
theorem applyRef_ok (hs : g.store.Holds s.world.disk) {code : String}
    (hrun : (Chat.applyRef g code).run s = (.ok (), t)) :
    (s.chat.refId = none → IsSaved g t ∧ t.chat = { s.chat with refId := some code })
      ∧ (s.chat.refId ≠ none → Untouched g s t) := by
  obtain ⟨u, hsame, hu, ⟨r, hdone, href⟩ | ⟨href, hdone⟩⟩ := applyRef_cases hs code
  · rw [hrun] at hdone
    cases hdone
    exact ⟨fun hnone => absurd hnone (href rfl), fun _ => hsame⟩
  · rw [hrun] at hdone
    obtain ⟨hchat, hsaved, -⟩ := isSaved_of_save hu hdone.symm
    exact ⟨fun _ => ⟨hsaved, hchat⟩, fun hsome => absurd href hsome⟩

/-- ... and if it could not be, the record is as it was. -/
theorem applyRef_error (hs : g.store.Holds s.world.disk) {code : String} {e : EngineError}
    (hrun : (Chat.applyRef g code).run s = (.error e, t)) :
    g.store.load s.chat.id t.world.disk = g.store.load s.chat.id s.world.disk := by
  obtain ⟨u, hsame, hu, ⟨r, hdone, -⟩ | ⟨-, hdone⟩⟩ := applyRef_cases hs code
  · rw [hrun] at hdone
    cases hdone
    exact hsame.load
  · rw [hrun] at hdone
    exact (untouched_of_save hu hdone.symm).load.trans hsame.load

/-- A chat that becomes active again is kept, ... -/
theorem markReachable_ok (hs : g.store.Holds s.world.disk)
    (hrun : (Chat.markReachable g).run s = (.ok (), t)) :
    (s.chat.active = false → IsSaved g t ∧ g.store.Holds t.world.disk ∧ t.chat.active = true)
      ∧ (s.chat.active = true → t = s) := by
  rw [markReachable_run] at hrun
  refine ⟨fun hinactive => ?_, fun hactive => ?_⟩
  · rw [hinactive, if_neg Bool.false_ne_true] at hrun
    obtain ⟨hchat, hsaved, hholds⟩ := isSaved_of_save hs hrun
    exact ⟨hsaved, hholds, congrArg Chat.active hchat⟩
  · rw [if_pos hactive] at hrun
    cases hrun
    rfl

/-- ... and if it could not be, it is active all the same, and the record is as it was. -/
theorem markReachable_error (hs : g.store.Holds s.world.disk) {e : EngineError}
    (hrun : (Chat.markReachable g).run s = (.error e, t)) :
    t.chat.active = true
      ∧ g.store.load s.chat.id t.world.disk = g.store.load s.chat.id s.world.disk := by
  rw [markReachable_run] at hrun
  split at hrun
  · cases hrun
  · have hsame := untouched_of_save hs hrun
    exact ⟨congrArg Chat.active hsame.chat, hsame.load⟩

end

/-! ## What a chat does -/

/-- What an action that has succeeded says about the disk: a chat that it has changed, or that was
woken, has been kept as it is, and the record of any other one is as it was. -/
structure KeepsChanges (g : Setting) (woken : Prop) (s t : Scene τ) : Prop where
  saved : woken ∨ t.chat ≠ s.chat → IsSaved g t
  load : ¬woken → t.chat = s.chat →
    g.store.load s.chat.id t.world.disk = g.store.load s.chat.id s.world.disk

omit [Transport τ] in
/-- While a chat answers a text, it is kept only if it has turned. -/
theorem keepsChanges_of_talks {x : ChatAction τ Unit} (hs : g.store.Holds s.world.disk)
    (hx : Pair True (Diag (Settled g s)) x x (Diag (Settled g s))) (htalks : Follows Talks x)
    (hrun : x.run s = (.ok (), t)) : KeepsChanges g False s t := by
  have hst : Talks s t := by
    have hlast := htalks s
    rwa [hrun] at hlast
  refine ⟨fun hne => (Settled.of_ok hx hs hrun).isSaved (Or.inr (hne.resolve_left not_false)), ?_⟩
  exact fun _ hchat => by rw [hst.disk hchat]

theorem keepsChanges_goTo (hs : g.store.Holds s.world.disk) {step : String}
    (hrun : (Chat.goTo g step).run s = (.ok (), t)) : KeepsChanges g False s t :=
  keepsChanges_of_talks hs ((isSoloCourse_settled g s).isPairCourse.goTo step)
    ((isTalkCourse_talks g).goTo step) hrun

/-- A note that is taken up makes a difference, even if it leads nowhere. -/
theorem keepsChanges_handleNote (hs : g.store.Holds s.world.disk) {n : Elapsed}
    (hrun : (Chat.handleNote g n).run s = (.ok (), t)) : KeepsChanges g False s t := by
  have hsettled := Settled.of_ok ((isSoloCourse_settled g s).isPairCourse.handleNote n) hs hrun
  refine ⟨fun hne => hsettled.isSaved (Or.inr (hne.resolve_left not_false)), fun _ hchat => ?_⟩
  cases hn : s.chat.awaited? n with
  | none =>
    rw [handleNote_run, hn] at hrun
    cases hrun
    rfl
  | some x =>
    -- It is spent afterwards, so the chat cannot be as it was.
    have hspent := (goesOn_handleNote (g := g) hn).isSpent (isSpent_markHandled hn (Or.inl rfl))
    rw [hrun, hchat] at hspent
    rw [hspent.awaited?] at hn
    cases hn

/-- An active chat that answers. -/
theorem keepsChanges_respond_of_active (hs : g.store.Holds s.world.disk) {text : String}
    (hactive : s.chat.active = true) (hrun : (Bot.respond g text).run s = (.ok (), t)) :
    KeepsChanges g False s t := by
  have hsettled := Settled.of_ok ((isSoloCourse_settled g s).isPairCourse.respond text) hs hrun
  refine ⟨fun hne => hsettled.isSaved (Or.inr (hne.resolve_left not_false)), fun _ hchat => ?_⟩
  obtain ⟨_, s', hmark, hrest⟩ := Action.of_run_bind_ok hrun
  obtain rfl := (markReachable_ok hs hmark).2 hactive
  obtain ⟨_, u, hlog, hrest⟩ := Action.of_run_bind_ok hrest
  have hsame := untouched_writeLog hs text
  have hu := (Store.appendLog_spares hs s'.chat.id s'.world.now text).1.holds
  have hdisk := congrArg (fun p => p.2.world.disk) hlog
  rw [hlog] at hsame
  rw [writeLog_run_snd] at hdisk
  dsimp only at hsame hdisk
  rw [hdisk] at hu
  rw [← hsame.load, ← hsame.chat]
  cases hcode : Bot.referral? text with
  | some code =>
    rw [hcode] at hrest
    have htaken := applyRef_ok hu hrest
    cases href : u.chat.refId with
    | some code' => exact (htaken.2 (href ▸ nofun)).load
    | none =>
      -- The chat has a code now, and it had none.
      have hnew := (htaken.1 href).2
      rw [hchat, ← hsame.chat] at hnew
      rw [hnew] at href
      cases href
  | none =>
    rw [hcode] at hrest
    have htalks := (isTalkCourse_talks g).handleText text u
    rw [hrest] at htalks
    rw [htalks.disk (hchat.trans hsame.chat.symm)]

/-- **A chat that answers keeps what has changed**, and is kept in any case if it was inactive. -/
theorem keepsChanges_respond (hs : g.store.Holds s.world.disk) {text : String}
    (hrun : (Bot.respond g text).run s = (.ok (), t)) :
    KeepsChanges g (s.chat.active = false) s t := by
  cases hactive : s.chat.active with
  | true =>
    have hkeeps := keepsChanges_respond_of_active hs hactive hrun
    exact ⟨fun hne => hkeeps.saved (hne.imp_left nofun), fun _ => hkeeps.load not_false⟩
  | false =>
    refine ⟨fun _ => ?_, fun hne => absurd rfl hne⟩
    obtain ⟨_, u, hmark, hrest⟩ := Action.of_run_bind_ok hrun
    obtain ⟨hsaved, hu, hwoken⟩ := (markReachable_ok hs hmark).1 hactive
    -- From there on it is as if it had been active.
    have hagain : (Bot.respond g text).run u = (.ok (), t) := by
      have hnothing : (Chat.markReachable g).run u = (.ok (), u) := by
        rw [markReachable_run, if_pos hwoken]
      rw [Bot.respond, Action.run_bind_ok hnothing]
      exact hrest
    exact (Settled.of_ok ((isSoloCourse_settled g u).isPairCourse.respond text) hu hagain).isSaved
      (Or.inl hsaved)

end Chat

namespace Bot

variable [Transport τ] {k : String}

/-! ## What a deed does -/

/-- A deed that has succeeded has kept what it has changed of the chat that it is for. -/
theorem deal_keepsChanges {d : Deed} (hd : d.chat? = some k) {c : Chat} {w : World τ} {p : Plot τ}
    (hw : g.store.Holds w.disk) (hrun : d.deal g ⟨some c, w⟩ = (.ok (), p)) :
    ∃ t : Scene τ, p = ⟨some t.chat, t.world⟩
      ∧ Chat.KeepsChanges g (d.Reaches k ∧ c.active = false) ⟨c, w⟩ t := by
  -- What it comes to that the chat does something.
  have hplay : ∀ {w' : World τ} {x : ChatAction τ Unit}, Plot.play c w' x = (.ok (), p) →
      ∃ t : Scene τ, p = ⟨some t.chat, t.world⟩ ∧ x.run ⟨c, w'⟩ = (.ok (), t) := by
    intro w' x hx
    have hfst : (x.run ⟨c, w'⟩).1 = .ok () := congrArg Prod.fst hx
    exact ⟨(x.run ⟨c, w'⟩).2, (congrArg Prod.snd hx).symm, Prod.ext hfst rfl⟩
  have hidle : ∀ {t : Scene τ} {woken : Prop}, ¬woken → Chat.KeepsChanges g False ⟨c, w⟩ t →
      Chat.KeepsChanges g woken ⟨c, w⟩ t := fun hwoken h =>
    ⟨fun hne => h.saved (hne.imp_left hwoken), fun _ => h.load not_false⟩
  cases d with
  | receive e =>
    cases hd
    have hdisk := disk_answered e.press w
    by_cases htext : Text.trim e.text.toList = []
    · rw [deal_of_blank g htext] at hrun
      cases hrun
      refine ⟨⟨c, answered e.press w⟩, rfl, hidle (fun h => h.1.2 htext) ⟨?_, ?_⟩⟩
      · exact fun hne => absurd rfl (hne.resolve_left not_false)
      · exact fun _ _ => by rw [hdisk]
    · rw [deal_of_known g htext] at hrun
      obtain ⟨t, hp, ht⟩ := hplay hrun
      have hkeeps := Chat.keepsChanges_respond (hdisk ▸ hw) ht
      refine ⟨t, hp, fun hne => hkeeps.saved (hne.imp_left And.right), fun hwoken hchat => ?_⟩
      rw [hkeeps.load (fun hinactive => hwoken ⟨⟨rfl, htext⟩, hinactive⟩) hchat, hdisk]
  | note n =>
    obtain ⟨t, hp, ht⟩ := hplay hrun
    exact ⟨t, hp, hidle (fun h => h.1) (Chat.keepsChanges_handleNote hw ht)⟩
  | announce key step =>
    change Plot.play c w (Chat.goTo g step) = _ at hrun
    obtain ⟨t, hp, ht⟩ := hplay hrun
    exact ⟨t, hp, hidle (fun h => h.1) (Chat.keepsChanges_goTo hw ht)⟩
  | _ => cases hd

variable {s : Stage τ}

/-- A deed makes a difference for a chat, or something is written in it while it is inactive. -/
def Deed.Alters (d : Deed) (k : String) (s : Stage τ) : Prop :=
  d.chat? = some k
    ∧ (d.Reaches k ∧ s.bot.IsInactive k ∨ (d.act.run s).2.bot.chat? k ≠ s.bot.chat? k)

/-- A deed does not alter an active chat that is the same afterwards. -/
theorem Deed.not_alters {d : Deed} {c : Chat} (hc : s.bot.chat? k = some c)
    (hactive : c.active = true) (hsame : (d.act.run s).2.bot.chat? k = s.bot.chat? k) :
    ¬d.Alters k s := by
  rintro ⟨-, ⟨-, hinactive⟩ | hchanged⟩
  · rw [isInactive_iff hc, hactive] at hinactive
    cases hinactive
  · exact hchanged hsame

/-- **A deed that has succeeded has kept its chat if it has altered it**, and has not written its
record otherwise. -/
theorem act_keepsChanges (h : AtWork g s) (ho : s.bot.IsOwn k) {c : Chat}
    (hc : s.bot.chat? k = some c) {d : Deed} (hd : d.chat? = some k)
    (hok : (d.act.run s).1 = .ok ()) :
    ∃ c', (d.act.run s).2.bot.chat? k = some c'
      ∧ (d.Alters k s → g.store.load k (d.act.run s).2.world.disk = .ok c'.record)
      ∧ (¬d.Alters k s → c' = c
        ∧ g.store.load k (d.act.run s).2.world.disk = g.store.load k s.world.disk) := by
  have hplot : d.deal g ⟨some c, s.world⟩ = (.ok (), plot (d.act.run s).2 k) := by
    refine Prod.ext ?_ ?_
    · rw [act_run h.sorted h.setting hd, plot, hc] at hok
      exact hok
    · rw [plot_act h.sorted h.setting hd, plot, hc]
  obtain ⟨t, hp, hkeeps⟩ := deal_keepsChanges hd h.holds hplot
  have hchat : (d.act.run s).2.bot.chat? k = some t.chat := congrArg Plot.chat hp
  have hworld : (d.act.run s).2.world = t.world := congrArg Plot.world hp
  have hid : c.id = k := (ho k c hc).mpr rfl
  have hid' : t.chat.id = k := (ho.act h d k t.chat hchat).mpr rfl
  have halters : d.Alters k s ↔ (d.Reaches k ∧ c.active = false) ∨ t.chat ≠ c := by
    rw [Deed.Alters, and_iff_right hd, isInactive_iff hc, hchat, hc, Ne, Option.some_inj]
  refine ⟨t.chat, hchat, fun hd => ?_, fun hd => ?_⟩
  · have hsaved := hkeeps.saved (halters.mp hd)
    rwa [Chat.IsSaved, hid', ← hworld] at hsaved
  · rw [halters, not_or, not_not] at hd
    have hload := hkeeps.load hd.1 hd.2
    dsimp only at hload
    rw [hid, ← hworld] at hload
    exact ⟨hd.2, hload⟩

/-- What is loaded for a chat that is there has its code and its activity. -/
def IsAttested (g : Setting) (k : String) (s : Stage τ) : Prop :=
  ∃ c r, s.bot.chat? k = some c ∧ g.store.load k s.world.disk = .ok r
    ∧ r.refId = c.refId ∧ r.active = c.active

omit [Transport τ] in
theorem isAttested_iff {c : Chat} (hc : s.bot.chat? k = some c) :
    IsAttested g k s
      ↔ ∃ r, g.store.load k s.world.disk = .ok r ∧ r.refId = c.refId ∧ r.active = c.active := by
  simp only [IsAttested, hc, Option.some.injEq, exists_and_left, exists_eq_left']

omit [Transport τ] in
/-- It depends on what is loaded, and on what is to be kept. -/
theorem isAttested_congr {t : Stage τ}
    (hrecord : (t.bot.chat? k).map Chat.record = (s.bot.chat? k).map Chat.record)
    (hload : g.store.load k t.world.disk = g.store.load k s.world.disk) :
    IsAttested g k t ↔ IsAttested g k s := by
  cases hc : s.bot.chat? k with
  | none =>
    rw [hc, Option.map_none, Option.map_eq_none_iff] at hrecord
    simp only [IsAttested, hc, hrecord, reduceCtorEq, false_and, exists_false]
  | some c =>
    rw [hc] at hrecord
    obtain ⟨c', hc', hsame⟩ := Option.map_eq_some_iff.mp hrecord
    have href : c'.refId = c.refId := congrArg ChatRecord.refId hsame
    have hactive : c'.active = c.active := congrArg ChatRecord.active hsame
    rw [isAttested_iff hc, isAttested_iff hc', hload, href, hactive]

/-- **A deed that succeeds attests what it alters.**  What others do makes no difference, whether it
succeeds or not. -/
theorem isAttested_act (h : AtWork g s) (ho : s.bot.IsOwn k) (hk : (s.bot.chat? k).isSome)
    {d : Deed} (hok : d.chat? = some k → (d.act.run s).1 = .ok ()) :
    IsAttested g k (d.act.run s).2 ↔ IsAttested g k s ∨ d.Alters k s := by
  cases hkey : d.chat? with
  | none =>
    have hnot : ¬d.Alters k s := fun halters => nomatch hkey.symm.trans halters.1
    rw [or_iff_left hnot]
    exact isAttested_congr (record?_idle h.sorted hkey k) (by rw [disk_idle s hkey])
  | some key =>
    by_cases hne : key = k
    · subst hne
      obtain ⟨c, hc⟩ := Option.isSome_iff_exists.mp hk
      obtain ⟨c', hc', hsaved, hsame⟩ := act_keepsChanges h ho hc hkey (hok hkey)
      by_cases halters : d.Alters key s
      · rw [isAttested_iff hc']
        exact iff_of_true ⟨c'.record, hsaved halters, rfl, rfl⟩ (Or.inr halters)
      · obtain ⟨rfl, hload⟩ := hsame halters
        rw [or_iff_left halters]
        exact isAttested_congr (by rw [hc, hc']) hload
    · have hnot : ¬d.Alters k s := fun halters =>
        hne (Option.some.inj (hkey.symm.trans halters.1))
      obtain ⟨hchat, hload⟩ := load_act_other h ho hkey hne
      rw [or_iff_left hnot]
      exact isAttested_congr (by rw [hchat]) hload

/-! ## Rows of deeds -/

/-- One of a row of deeds is the first one, or one of the others. -/
theorem exists_split_cons {P : List Deed → Deed → Prop} {d : Deed} {ds : List Deed} :
    (∃ front d' back, d :: ds = front ++ d' :: back ∧ P front d')
      ↔ P [] d ∨ ∃ front d' back, ds = front ++ d' :: back ∧ P (d :: front) d' := by
  constructor
  · rintro ⟨_ | ⟨a, front⟩, d', back, hsplit, hP⟩
    · cases hsplit
      exact Or.inl hP
    · cases hsplit
      exact Or.inr ⟨front, d', back, rfl, hP⟩
  · rintro (hP | ⟨front, d', back, rfl, hP⟩)
    · exact ⟨[], d, ds, rfl, hP⟩
    · exact ⟨d :: front, d', back, rfl, hP⟩

/-- The deeds of a row that are for a chat succeed. -/
def SucceedsFor (k : String) (ds : List Deed) (s : Stage τ) : Prop :=
  ∀ front d back, ds = front ++ d :: back → d.chat? = some k →
    (d.act.run (after front s)).1 = .ok ()

/-- One of the deeds of a row alters a chat. -/
def AltersIn (k : String) (ds : List Deed) (s : Stage τ) : Prop :=
  ∃ front d back, ds = front ++ d :: back ∧ d.Alters k (after front s)

/-- **What a row of deeds attests.**  If those that are for the chat succeed, it depends on whether
one of them has altered it. -/
theorem isAttested_after (h : AtWork g s) (ho : s.bot.IsOwn k) (hk : (s.bot.chat? k).isSome)
    {ds : List Deed} (hok : SucceedsFor k ds s) :
    IsAttested g k (after ds s) ↔ IsAttested g k s ∨ AltersIn k ds s := by
  induction ds generalizing s with
  | nil =>
    have hnone : ¬AltersIn k [] s := by
      rintro ⟨front, d, back, hsplit, -⟩
      exact absurd hsplit.symm (List.append_ne_nil_of_right_ne_nil front (List.cons_ne_nil d back))
    rw [or_iff_left hnone]
    rfl
  | cons d ds ih =>
    have hfirst := isAttested_act h ho hk fun hd => hok [] d ds rfl hd
    have hrest : SucceedsFor k ds (d.act.run s).2 := fun front d' back hsplit =>
      hok (d :: front) d' back (congrArg (d :: ·) hsplit)
    rw [after_cons, ih (h.act d) (ho.act h d) (isSome_chat?_act h hk d) hrest, hfirst,
      or_assoc, AltersIn, AltersIn, exists_split_cons]
    rfl

/-- **A success has kept what it has changed, and nothing else.**

A bot is at work, whatever has been done before and whatever has failed, and there is a chat that
nobody else has the id of.

* If a deed for the chat succeeds and has altered it, what is loaded for the chat is what is to be
  kept of it.  If it succeeds and has altered nothing, the record is as it was.
* After any row of deeds, of which those that are for the chat have succeeded, what is loaded for it
  has its code and its activity if and only if this was so before or one of them has altered it.
* A code that comes to a chat is kept if there was none in memory, and a chat that becomes active is
  kept if it was not active in memory.  Otherwise these succeed without writing the record.
* So if a chat with a new code could not be kept, whoever brings the same code again, in whatever
  world with the same record, has success, and the record is as it was before the failure.  It is
  the same with a chat that becomes active. -/
theorem successes_keep_changes_only (h : AtWork g s) (ho : s.bot.IsOwn k) {c : Chat}
    (hc : s.bot.chat? k = some c) :
    (∀ d : Deed, d.chat? = some k → (d.act.run s).1 = .ok () →
        ∃ c', (d.act.run s).2.bot.chat? k = some c'
          ∧ (d.Alters k s → g.store.load k (d.act.run s).2.world.disk = .ok c'.record)
          ∧ (¬d.Alters k s → c' = c
            ∧ g.store.load k (d.act.run s).2.world.disk = g.store.load k s.world.disk))
      ∧ (∀ ds, SucceedsFor k ds s →
        (IsAttested g k (after ds s) ↔ IsAttested g k s ∨ AltersIn k ds s))
      ∧ (∀ (u t : Scene τ), g.store.Holds u.world.disk →
        (∀ code, (Chat.applyRef g code).run u = (.ok (), t) →
          (Chat.IsAttested g t ↔ Chat.IsAttested g u ∨ u.chat.refId = none))
        ∧ ((Chat.markReachable g).run u = (.ok (), t) →
          (Chat.IsAttested g t ↔ Chat.IsAttested g u ∨ u.chat.active = false)))
      ∧ ∀ (u t v v' : Scene τ) (e : EngineError), g.store.Holds u.world.disk →
        v.chat = t.chat → g.store.Holds v.world.disk →
        g.store.load u.chat.id v.world.disk = g.store.load u.chat.id t.world.disk →
        (∀ code, (Chat.applyRef g code).run u = (.error e, t) → t.chat.refId = some code →
          (Chat.applyRef g code).run v = (.ok (), v') →
          v'.chat = t.chat
            ∧ g.store.load u.chat.id v'.world.disk = g.store.load u.chat.id u.world.disk)
        ∧ ((Chat.markReachable g).run u = (.error e, t) →
          (Chat.markReachable g).run v = (.ok (), v)
            ∧ g.store.load u.chat.id v.world.disk = g.store.load u.chat.id u.world.disk) := by
  refine ⟨?deeds, ?rows, ?calls, ?again⟩
  case deeds => exact fun d hd hok => act_keepsChanges h ho hc hd hok
  case rows => exact fun ds hok => isAttested_after h ho (hc ▸ rfl) hok
  case calls =>
    intro u t hu
    refine ⟨fun code hrun => ?_, fun hrun => ?_⟩
    · obtain ⟨htaken, hknown⟩ := Chat.applyRef_ok hu hrun
      by_cases href : u.chat.refId = none
      · exact iff_of_true (htaken href).1.isAttested (Or.inr href)
      · rw [or_iff_left href]
        exact (hknown href).isAttested_iff
    · obtain ⟨hwoken, hactive⟩ := Chat.markReachable_ok hu hrun
      cases hu' : u.chat.active with
      | false => exact iff_of_true (hwoken hu').1.isAttested (Or.inr rfl)
      | true =>
        rw [hactive hu', or_iff_left nofun]
  case again =>
    intro u t v v' e hu hchat hv hload
    refine ⟨fun code hfailed href hrun => ?_, fun hfailed => ?_⟩
    · have hkept := Chat.applyRef_error hu hfailed
      have hid : t.chat.id = u.chat.id := by
        have hgoes := (Chat.isCourse_goesOn g).isSendCourse.applyRef code u
        rw [hfailed] at hgoes
        exact hgoes.id
      have hsame := (Chat.applyRef_ok hv hrun).2 (by rw [hchat, href]; nofun)
      refine ⟨hsame.chat.trans hchat, ?_⟩
      have hagain := hsame.load
      rw [hchat, hid] at hagain
      rw [hagain, hload, hkept]
    · obtain ⟨hactive, hkept⟩ := Chat.markReachable_error hu hfailed
      refine ⟨?_, hload.trans hkept⟩
      rw [Chat.markReachable_run, hchat, if_pos hactive]

/-- Somebody has written to the bot and has then come with a code, which was logged.  The chat could
not be kept with it. -/
def forgetful : Stage Refusing :=
  after [coming "promo"] (refusing [none, none, some 0] (greeted "(1h)"))

/-- The same person comes with the same code again, and nothing fails.  The code is in memory, but
it is not in the record, and so it was before. -/
theorem code_lost_by_forgetful :
    let again := (coming "promo").act.run forgetful
    again.1 = .ok () ∧ (again.2.bot.chat? "42").map Chat.refId = some (some "promo")
      ∧ ¬IsAttested (reminding "(1h)") "42" again.2
      ∧ (reminding "(1h)").store.load "42" again.2.world.disk
        = (reminding "(1h)").store.load "42" forgetful.world.disk := by
  intro again
  have hwork : AtWork (reminding "(1h)") (greeted "(1h)") :=
    (atWork_start (start_newWorld "(1h)") Disk.isTree_empty).after _
  have hrefusing : AtWork (reminding "(1h)") (refusing [none, none, some 0] (greeted "(1h)")) :=
    ⟨hwork.setting, hwork.sorted, hwork.holds.refusals _⟩
  have hown : (greeted "(1h)").bot.IsOwn "42" := (lifetime_greeted "(1h)").sound.isOwn "42"
  have hforgetful : AtWork (reminding "(1h)") forgetful := hrefusing.after _
  have hown' : forgetful.bot.IsOwn "42" :=
    IsOwn.after (s := refusing [none, none, some 0] (greeted "(1h)")) hown hrefusing _
  obtain ⟨hchat, hrecord, hok, hsame⟩ :
      (forgetful.bot.chat? "42").map (fun c => (c.refId, c.active)) = some (some "promo", true)
        ∧ ((reminding "(1h)").store.loaded? "42" forgetful.world.disk).map ChatRecord.refId
          = some none
        ∧ again.1 = .ok () ∧ again.2.bot.chat? "42" = forgetful.bot.chat? "42" := by
    decide +kernel
  obtain ⟨c, hc, hfields⟩ := Option.map_eq_some_iff.mp hchat
  obtain ⟨href, hactive⟩ := Prod.mk.inj hfields
  obtain ⟨hdeeds, -, -, -⟩ := successes_keep_changes_only hforgetful hown' hc
  obtain ⟨_, -, -, hunsaved⟩ := hdeeds (coming "promo") rfl hok
  obtain ⟨-, hload⟩ := hunsaved (Deed.not_alters hc hactive hsame)
  refine ⟨hok, ?_, ?_, hload⟩
  · rw [hsame, hc, Option.map_some, href]
  · rw [isAttested_iff (hsame.trans hc), hload]
    rintro ⟨r, hr, hsaid, -⟩
    rw [Store.loaded?_eq_some.mpr hr, Option.map_some, hsaid, href] at hrecord
    cases hrecord

end Bot
end ScriptedChat
