import ScriptedChat.Proofs.Chat.Course
import ScriptedChat.Proofs.Chat.Timers
import ScriptedChat.Proofs.Store.Keeping

/-!
# How a chat goes on

Whatever a chat does, it stays where it is, with the timers it has, or it moves, and then its
timers are fresh ones of the step it has moved to.  Its id stays, no time passes, and what it
does to the disk is not seen by other chats.  All this comes about by small steps.  It is one
relation between scenes (`Chat.GoesOn`) and a course, so it holds across every action.

The one thing that it leaves out is taking up a note, which marks a timer before its action is
run (`Chat.goesOn_handleNote`).

* `Chat.GoesOn`, `Chat.isCourse_goesOn`.
* `Chat.goesOn_handleNote`: the effect of a note.
* `Chat.mirrors_welcome`: a chat that was welcomed has the timers of its step.
-/

namespace ScriptedChat
namespace Chat

variable {τ : Type}

/-- The chat has stayed where it is or has moved; nobody else has noticed. -/
structure GoesOn (g : Setting) (s s' : Scene τ) : Prop where
  id : s'.chat.id = s.chat.id
  now : s'.world.now = s.world.now
  timers : Stayed s.chat s'.chat ∨ Moved g.scenario s.world.now s.chat s'.chat
  disk : g.store.Holds s.world.disk →
    g.store.Spares s.chat.id s.world.disk s'.world.disk
  passes : Passes g s s'

theorem GoesOn.refl (g : Setting) (s : Scene τ) : GoesOn g s s :=
  ⟨rfl, rfl, Or.inl (Stayed.refl _), fun h => Store.Spares.refl h _, .refl⟩

theorem GoesOn.trans {g : Setting} {s t u : Scene τ} (h : GoesOn g s t) (h' : GoesOn g t u) :
    GoesOn g s u := by
  refine ⟨h'.id.trans h.id, h'.now.trans h.now, ?_, fun hs => ?_, h.passes.trans h'.passes⟩
  · rcases h.timers with hst | hst <;> rcases h'.timers with htu | htu
    · exact Or.inl (hst.trans htu)
    · exact Or.inr (Moved.of_stayed hst (h.now ▸ htu))
    · exact Or.inr (hst.stayed htu)
    · exact Or.inr (hst.trans (h.now ▸ htu))
  · have hst := h.disk hs
    have htu := h'.disk hst.holds
    rw [h.id] at htu
    exact hst.trans htu

/-- A change of nothing but the requests and the transport, or of what has no timers. -/
theorem GoesOn.of_fields {g : Setting} {s s' : Scene τ} (hid : s'.chat.id = s.chat.id)
    (hstep : s'.chat.stepId = s.chat.stepId) (htimers : s'.chat.timers = s.chat.timers)
    (hgeneration : s'.chat.generation = s.chat.generation) (hnow : s'.world.now = s.world.now)
    (hdisk : s'.world.disk = s.world.disk) (hsmall : SmallStep g s s') : GoesOn g s s' := by
  refine ⟨hid, hnow, Or.inl ⟨hgeneration, hstep, ?_, ?_⟩, fun h => ?_, .single hsmall⟩
  · rw [htimers]
  · rw [htimers]
  · rw [hdisk]
    exact Store.Spares.refl h _

theorem onWorldDisk_run {α : Type} (action : DiskAction α) (w : World τ) :
    (World.onDisk action).run w
      = match action.run w.disk with
        | (.ok a, disk) => (.ok a, { w with disk })
        | (.error e, disk) => (.error (.store e), { w with disk }) := rfl

theorem onDisk_run {α : Type} (action : DiskAction α) (s : Scene τ) :
    (onDisk action).run s
      = match (World.onDisk action).run s.world with
        | (result, world) => (result, { s with world }) := rfl

/-- What an action on the disk leaves. -/
theorem onWorldDisk_run_snd {α : Type} (action : DiskAction α) (w : World τ) :
    ((World.onDisk action).run w).2 = { w with disk := (action.run w.disk).2 } := by
  rw [onWorldDisk_run]
  rcases action.run w.disk with ⟨_ | _, d⟩ <;> rfl

theorem onDisk_run_snd {α : Type} (action : DiskAction α) (s : Scene τ) :
    ((onDisk action).run s).2
      = { s with world := { s.world with disk := (action.run s.world.disk).2 } } := by
  rw [← onWorldDisk_run_snd, onDisk_run]
  rfl

/-- To keep its record is all that a chat does then. -/
theorem save_run_snd (g : Setting) (s : Scene τ) :
    ((Chat.save g).run s).2
      = { s with world :=
          { s.world with disk := ((g.store.save s.chat.record).run s.world.disk).2 } } := by
  rw [Chat.save, Action.run_get_bind, onDisk_run_snd]

theorem writeLog_run_snd (g : Setting) (text : String) (s : Scene τ) :
    ((Chat.writeLog g text).run s).2
      = { s with world :=
          { s.world with
            disk := ((g.store.appendLog s.chat.id s.world.now text).run s.world.disk).2 } } := by
  rw [Chat.writeLog, Action.run_get_bind, onDisk_run_snd]

/-- What is said when a chat is kept: nothing, or what the store says. -/
theorem save_run (g : Setting) (s : Scene τ) :
    (Chat.save g).run s
      = match (g.store.save s.chat.record).run s.world.disk with
        | (.ok _, disk) => (.ok (), { s with world := { s.world with disk } })
        | (.error e, disk) => (.error (.store e), { s with world := { s.world with disk } }) := by
  rw [Chat.save, Action.run_get_bind, onDisk_run, onWorldDisk_run]
  rcases (g.store.save s.chat.record).run s.world.disk with ⟨_ | _, disk⟩ <;> rfl

theorem writeLog_run (g : Setting) (text : String) (s : Scene τ) :
    (Chat.writeLog g text).run s
      = match (g.store.appendLog s.chat.id s.world.now text).run s.world.disk with
        | (.ok _, disk) => (.ok (), { s with world := { s.world with disk } })
        | (.error e, disk) => (.error (.store e), { s with world := { s.world with disk } }) := by
  rw [Chat.writeLog, Action.run_get_bind, onDisk_run, onWorldDisk_run]
  rcases (g.store.appendLog s.chat.id s.world.now text).run s.world.disk with ⟨_ | _, disk⟩ <;> rfl

theorem save_run_fst (g : Setting) (s : Scene τ) :
    ((Chat.save g).run s).1
      = ((g.store.save s.chat.record).run s.world.disk).1.mapError .store := by
  rw [save_run]
  rcases (g.store.save s.chat.record).run s.world.disk with ⟨_ | _, disk⟩ <;> rfl

theorem writeLog_run_fst (g : Setting) (text : String) (s : Scene τ) :
    ((Chat.writeLog g text).run s).1
      = ((g.store.appendLog s.chat.id s.world.now text).run s.world.disk).1.mapError .store := by
  rw [writeLog_run]
  rcases (g.store.appendLog s.chat.id s.world.now text).run s.world.disk with ⟨_ | _, disk⟩ <;> rfl

/-- A new chat is there when it has been kept. -/
theorem create_run (g : Setting) (id : String) (ref : Option String) (w : World τ) :
    (create g id ref).run w
      = match (g.store.save (opening g.scenario id ref).record).run w.disk with
        | (.ok _, disk) => (.ok (opening g.scenario id ref), { w with disk })
        | (.error e, disk) => (.error (.store e), { w with disk }) := by
  rw [create, Action.run_bind, onWorldDisk_run]
  rcases (g.store.save (opening g.scenario id ref).record).run w.disk with ⟨_ | _, disk⟩ <;> rfl

theorem chat_save (g : Setting) (s : Scene τ) : ((Chat.save g).run s).2.chat = s.chat := by
  rw [save_run_snd]

theorem chat_writeLog (g : Setting) (text : String) (s : Scene τ) :
    ((Chat.writeLog g text).run s).2.chat = s.chat := by
  rw [writeLog_run_snd]

theorem goesOn_save (g : Setting) (s : Scene τ) : GoesOn g s ((Chat.save g).run s).2 := by
  have hpasses := Relation.ReflTransGen.single (SmallStep.save (g := g) (s := s))
  rw [save_run_snd] at hpasses ⊢
  exact ⟨rfl, rfl, Or.inl (Stayed.refl _), fun h => (Store.saves h s.chat.record).spares, hpasses⟩

theorem goesOn_writeLog (g : Setting) (text : String) (s : Scene τ) :
    GoesOn g s ((Chat.writeLog g text).run s).2 := by
  have hpasses := Relation.ReflTransGen.single (SmallStep.writeLog (g := g) (s := s) text)
  rw [writeLog_run_snd] at hpasses ⊢
  exact ⟨rfl, rfl, Or.inl (Stayed.refl _),
    fun h => (Store.appendLog_spares h s.chat.id s.world.now text).1, hpasses⟩

/-- **However a chat goes on, it stays or it moves.** -/
theorem isCourse_goesOn [Transport τ] (g : Setting) :
    IsCourse g (GoesOn g : Scene τ → Scene τ → Prop) where
  refl := GoesOn.refl g
  trans := GoesOn.trans
  save := goesOn_save g
  writeLog := goesOn_writeLog g
  post _ _ _ := GoesOn.of_fields rfl rfl rfl rfl rfl rfl (.post _ rfl)
  setActive _ b := GoesOn.of_fields rfl rfl rfl rfl rfl rfl (.setActive b)
  setRef _ code hnone := GoesOn.of_fields rfl rfl rfl rfl rfl rfl (.setRef code hnone)
  enterStep s _ _ hstep :=
    ⟨rfl, rfl, Or.inr (moved_enterStep hstep s), fun h => Store.Spares.refl h _,
      .single (.enterStep hstep)⟩

/-- A note that is awaited marks its timer, and what the action does comes after that. -/
theorem goesOn_handleNote [Transport τ] {g : Setting} {n : Elapsed} {s : Scene τ}
    {t : ActionTimer} (h : s.chat.awaited? n = some t) :
    GoesOn g { s with chat := markHandled n.slot t s.chat } ((handleNote g n).run s).2 := by
  rw [handleNote_run, h]
  exact (isCourse_goesOn g).runAction t.action _

/-- A chat that has the timers of its step keeps having them. -/
theorem GoesOn.mirrors {g : Setting} {s s' : Scene τ} (h : GoesOn g s s')
    (hs : s.chat.Mirrors g.scenario) : s'.chat.Mirrors g.scenario := by
  rcases h.timers with hstayed | hmoved
  · exact hstayed.mirrors hs
  · exact hmoved.mirrors

/-- A new chat that was welcomed without a failure has the timers of its step. -/
theorem mirrors_welcome [Transport τ] {g : Setting} {text : String} {sender : Sender}
    {s t : Scene τ} (hstep : s.chat.stepId = some g.scenario.entry.id)
    (htimers : s.chat.timers = []) (h : (Bot.welcome g text sender).run s = (.ok (), t)) :
    t.chat.Mirrors g.scenario := by
  -- What is left when the first line has been logged.
  have hshow : ∀ s₁ : Scene τ, s₁.chat.Mirrors g.scenario →
      ((showStep g).run s₁).2 = t → t.chat.Mirrors g.scenario := by
    intro s₁ hs₁ ht
    rw [← ht]
    exact ((isCourse_goesOn g).showStep s₁).mirrors hs₁
  rw [Bot.welcome, Action.run_bind] at h
  have hlog := chat_writeLog g (text ++ " " ++ sender.toText) s
  rw [writeFirstContact] at h
  generalize (Chat.writeLog g (text ++ " " ++ sender.toText)).run s = r at h hlog
  obtain ⟨e | _, s₁⟩ := r
  · cases h
  · have hchat : s₁.chat = s.chat := hlog
    dsimp only at h
    rw [Action.run_bind] at h
    cases hentry : g.scenario.step? g.scenario.entry.id with
    | none =>
      rw [moveTo_run_of_none hentry] at h
      refine hshow s₁ ?_ (congrArg Prod.snd h)
      have hstep? : s₁.chat.step? g.scenario = none := by
        rw [step?, stepLabel, hchat, hstep, Option.getD_some, hentry]
      rw [Mirrors, delayed, hstep?, hchat, htimers]
      rfl
    | some step =>
      rw [moveTo_run_of_some hentry] at h
      have hsave := chat_save g (enterStep step s₁)
      generalize (Chat.save g).run (enterStep step s₁) = r at h hsave
      obtain ⟨e | _, s₂⟩ := r
      · cases h
      · refine hshow s₂ ?_ (congrArg Prod.snd h)
        rw [show s₂.chat = (enterStep step s₁).chat from hsave]
        exact (moved_enterStep hentry s₁).mirrors

end Chat
end ScriptedChat
