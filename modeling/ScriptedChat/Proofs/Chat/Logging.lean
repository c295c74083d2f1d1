import ScriptedChat.Proofs.Chat.Going
import ScriptedChat.Proofs.Chat.Pairs
import ScriptedChat.Proofs.Store.Logs

/-!
# What a chat logs

While a chat plays its scenario it adds nothing to its log.  That is a course, so it is enough to
look at what is kept and sent, and at what is done to move (`Chat.isPlayCourse_logs`).

Lines are added in two places only, and before anything is made of what was written.  A chat that is
there logs what was written in it, and the referral code that this carries.  A new chat logs what
was written, and by whom.  Neither place is reached if the store has failed before, and what comes
after them adds nothing.  So it is known what was added by an action that has not ended with a
failure of the store (`Chat.LogsUnlessFailed`).

* `Chat.Logs`, `Chat.isPlayCourse_logs`, `Chat.logs_handleNote`: what adds nothing.
* `Chat.LogsUnlessFailed`, `Chat.logsUnlessFailed_respond`, `Chat.logsUnlessFailed_welcome`: what
  adds something.
-/

namespace ScriptedChat
namespace Chat

variable {τ α β : Type}

/-- A chat has added some lines to its log, at the time that it is. -/
structure Logs (g : Setting) (texts : List String) (s t : Scene τ) : Prop where
  id : t.chat.id = s.chat.id
  now : t.world.now = s.world.now
  logged : g.store.Holds s.world.disk →
    g.store.Logged (texts.map fun text => ⟨s.chat.id, s.world.now, text⟩) s.world.disk t.world.disk

namespace Logs

variable {g : Setting} {s t u : Scene τ} {xs ys : List String}

/-- Nothing was done to the disk. -/
theorem of_disk (hid : t.chat.id = s.chat.id) (hnow : t.world.now = s.world.now)
    (hdisk : t.world.disk = s.world.disk) : Logs g [] s t :=
  ⟨hid, hnow, fun h => hdisk.symm ▸ Store.Logged.refl h⟩

theorem trans (h : Logs g xs s t) (h' : Logs g ys t u) : Logs g (xs ++ ys) s u := by
  refine ⟨h'.id.trans h.id, h'.now.trans h.now, fun hs => ?_⟩
  have hst := h.logged hs
  have htu := h'.logged hst.holds
  rw [h.id, h.now] at htu
  rw [List.map_append]
  exact hst.trans htu

end Logs

theorem logs_save (g : Setting) (s : Scene τ) : Logs g [] s ((Chat.save g).run s).2 := by
  rw [save_run_snd]
  exact ⟨rfl, rfl, fun h => Store.logged_save h s.chat.record⟩

/-- A chat that has changed is kept. -/
theorem logs_save_of_disk (g : Setting) {s t : Scene τ} (hid : t.chat.id = s.chat.id)
    (hnow : t.world.now = s.world.now) (hdisk : t.world.disk = s.world.disk) :
    Logs g [] s ((Chat.save g).run t).2 := (Logs.of_disk hid hnow hdisk).trans (logs_save g t)

theorem logs_writeLog {g : Setting} {text : String} {s : Scene τ}
    (hok : ((Chat.writeLog g text).run s).1 = .ok ()) :
    Logs g [text] s ((Chat.writeLog g text).run s).2 := by
  rw [writeLog_run_fst] at hok
  rw [writeLog_run_snd]
  refine ⟨rfl, rfl, fun h => Store.logged_appendLog h ?_⟩
  cases hr : ((g.store.appendLog s.chat.id s.world.now text).run s.world.disk).1 with
  | ok _ => rfl
  | error e =>
    rw [hr] at hok
    cases hok

/-! ## What adds nothing -/

theorem logs_markReachable (g : Setting) :
    Follows (Logs g [] : Scene τ → Scene τ → Prop) (Chat.markReachable g) := by
  intro s
  rw [markReachable_run]
  split
  · exact Logs.of_disk rfl rfl rfl
  · exact logs_save_of_disk g rfl rfl rfl

section

variable [Transport τ] (g : Setting)

theorem logs_send (text : String) (buttons : Option (List String)) (s : Scene τ) :
    Logs g [] s ((Chat.send g text buttons).run s).2 := by
  by_cases h : IsRefused s text buttons
  · rw [send_of_isRefused g h]
    exact logs_save_of_disk g rfl rfl rfl
  · rw [send_of_not_isRefused g h]
    exact Logs.of_disk rfl rfl rfl

/-- **While a chat plays its scenario, it adds nothing to its log.** -/
theorem isPlayCourse_logs : IsPlayCourse g (Logs g [] : Scene τ → Scene τ → Prop) where
  refl _ := Logs.of_disk rfl rfl rfl
  trans := Logs.trans
  save := logs_save g
  send := logs_send g
  enterStep _ _ _ _ := Logs.of_disk rfl rfl rfl

/-- Nor does it when the note of a timer is handled. -/
theorem logs_handleNote (n : Elapsed) :
    Follows (Logs g [] : Scene τ → Scene τ → Prop) (Chat.handleNote g n) := by
  intro s
  rw [handleNote_run]
  split
  · exact (isPlayCourse_logs g).refl s
  · rename_i t ht
    have htaken : Logs g [] s { s with chat := markHandled n.slot t s.chat } :=
      Logs.of_disk rfl rfl rfl
    exact htaken.trans ((isPlayCourse_logs g).runAction t.action _)

end

/-! ## What adds something -/

/-- What an action adds to the log, unless it ends with a failure of the store. -/
def LogsUnlessFailed (g : Setting) (texts : List String) (x : ChatAction τ α) : Prop :=
  ∀ s, ¬StoreFailed (x.run s).1 → Logs g texts s (x.run s).2

theorem Follows.logsUnlessFailed {g : Setting} {x : ChatAction τ α} (h : Follows (Logs g []) x) :
    LogsUnlessFailed g [] x := fun s _ => h s

/-- The store has failed, or nothing has. -/
theorem storeFailed_or_ok (r : Except StoreError Unit) :
    StoreFailed (r.mapError EngineError.store) ∨ r.mapError EngineError.store = .ok () := by
  cases r with
  | error e => exact Or.inl ⟨e, rfl⟩
  | ok _ => exact Or.inr rfl

/-- One action after the other, if nothing but the store can make the first one fail. -/
theorem LogsUnlessFailed.bind {g : Setting} {xs ys : List String} {x : ChatAction τ Unit}
    {f : Unit → ChatAction τ β} (hx : LogsUnlessFailed g xs x)
    (hfail : ∀ s, StoreFailed (x.run s).1 ∨ (x.run s).1 = .ok ())
    (hf : LogsUnlessFailed g ys (f ())) : LogsUnlessFailed g (xs ++ ys) (x >>= f) := by
  intro s hno
  have hfirst := hx s
  have hcases := hfail s
  rw [Action.run_bind] at hno ⊢
  generalize x.run s = r at hfirst hcases hno ⊢
  obtain ⟨result, t⟩ := r
  rcases hcases with ⟨e, rfl⟩ | rfl
  · exact absurd ⟨e, rfl⟩ hno
  · have hok : ¬StoreFailed (.ok () : Except EngineError Unit) := nofun
    exact (hfirst hok).trans (hf t hno)

/-- To log is to add one line. -/
theorem LogsUnlessFailed.writeLog_bind {g : Setting} {texts : List String} (text : String)
    {f : Unit → ChatAction τ β} (hf : LogsUnlessFailed g texts (f ())) :
    LogsUnlessFailed g (text :: texts) (Chat.writeLog g text >>= f) := by
  have hfail : ∀ s : Scene τ, StoreFailed ((Chat.writeLog g text).run s).1
      ∨ ((Chat.writeLog g text).run s).1 = .ok () := by
    intro s
    rw [writeLog_run_fst]
    exact storeFailed_or_ok _
  have hx : LogsUnlessFailed g [text] (Chat.writeLog g text : ChatAction τ Unit) :=
    fun s hno => logs_writeLog ((hfail s).resolve_left hno)
  exact hx.bind hfail hf

/-- The line that is logged for a referral code. -/
def refLine (code : String) : String := "\x7b\"refId\":" ++ Json.toText (.text code) ++ "\x7d"

theorem toText_refId (code : String) :
    Json.toText (.object [("refId", .text code)]) = refLine code := by
  have hname : Json.writeText "refId" = "\"refId\"".toList := by decide
  refine String.toList_inj.mp ?_
  simp only [Json.toText, refLine, Json.render, Json.renderMembers, hname, String.toList_append,
    String.toList_ofList]
  rfl

/-- The lines that a chat adds for what is written in it. -/
def heardLines (text : String) : List String := text :: (Bot.referral? text).toList.map refLine

section

variable [Transport τ] (g : Setting)

/-- A referral code is logged, whether it is taken or not. -/
theorem logsUnlessFailed_applyRef (code : String) :
    LogsUnlessFailed g [refLine code] (Chat.applyRef g code : ChatAction τ Unit) := by
  have hrest : Follows (Logs g []) (do
      if (← get).chat.refId.isNone then
        update fun c => { c with refId := some code }
        Chat.save g : ChatAction τ Unit) := by
    refine Follows.get_bind fun s => ?_
    split
    · rw [run_update_bind]
      exact logs_save_of_disk g rfl rfl rfl
    · exact (isPlayCourse_logs g).refl s
  rw [Chat.applyRef, toText_refId]
  exact LogsUnlessFailed.writeLog_bind (refLine code) hrest.logsUnlessFailed

/-- **What is written in a chat is logged**, and after it the referral code that it carries. -/
theorem logsUnlessFailed_respond (text : String) :
    LogsUnlessFailed g (heardLines text) (Bot.respond g text : ChatAction τ Unit) := by
  have hfail : ∀ s : Scene τ, StoreFailed ((Chat.markReachable g).run s).1
      ∨ ((Chat.markReachable g).run s).1 = .ok () := by
    intro s
    rw [markReachable_run]
    split
    · exact Or.inr rfl
    · rw [save_run_fst]
      exact storeFailed_or_ok _
  rw [Bot.respond]
  refine (logs_markReachable g).logsUnlessFailed.bind hfail ?_
  refine LogsUnlessFailed.writeLog_bind text ?_
  cases Bot.referral? text with
  | some code => exact logsUnlessFailed_applyRef g code
  | none => exact ((isPlayCourse_logs g).handleText text).logsUnlessFailed

/-- **What is written in a new chat is logged with its sender.** -/
theorem logsUnlessFailed_welcome (text : String) (sender : Sender) :
    LogsUnlessFailed g [text ++ " " ++ sender.toText]
      (Bot.welcome g text sender : ChatAction τ Unit) := by
  have hplay : IsPlayCourse g (Logs g [] : Scene τ → Scene τ → Prop) := isPlayCourse_logs g
  have hshown : Follows (Logs g [] : Scene τ → Scene τ → Prop)
      (Chat.moveTo g g.scenario.entry.id >>= fun _ => Chat.showStep g) :=
    Follows.bind hplay.trans (hplay.moveTo _) fun _ => hplay.showStep
  exact LogsUnlessFailed.writeLog_bind (text ++ " " ++ sender.toText) hshown.logsUnlessFailed

end

end Chat
end ScriptedChat
