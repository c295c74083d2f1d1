import ScriptedChat.Proofs.Chat.Going
import ScriptedChat.Proofs.Store.Table

/-!
# What a chat can fail with

Messages that do not arrive are no failures of a chat, so all that can fail is what it does on the
disk: it keeps its record, and it adds to its log.  Everything else goes on from one of these to the
next.

So what is known of the failures of these two is known of every action.  It may depend on the id of
the chat and on the disk, and has to be known of the disk that is left as well
(`Chat.IsFailCourse`).  There are three cases of interest.  Whatever fails, it is the store.  If the
id can be the name of a directory, nothing but the files can fail.  And if the store works for the
chat, nothing fails at all.

* `Chat.FailsOnly`: what an action can fail with.
* `Chat.IsFailCourse`, `Chat.IsFailCourse.respond`, `handleNote`, `goTo`: what follows.
* `Chat.isFailCourse_store`, `Chat.isFailCourse_files`, `Chat.isFailCourse_works`: the three cases.
-/

namespace ScriptedChat

variable {τ α β : Type}

/-- What was done has not failed. -/
theorem ok_of_failsOnly_nothing {r : Except EngineError Unit} (h : ∀ e, r = .error e → False) :
    r = .ok () := by
  cases r with
  | error e => exact (h e rfl).elim
  | ok _ => rfl

namespace Chat

/-- Where `I` holds of the id of the chat and the disk, the action leaves it so, and can only fail with
errors of `E`. -/
def FailsOnly (I : String → Disk → Prop) (E : EngineError → Prop) (x : ChatAction τ α) : Prop :=
  ∀ s : Scene τ, I s.chat.id s.world.disk →
    I (x.run s).2.chat.id (x.run s).2.world.disk ∧ ∀ e, (x.run s).1 = .error e → E e

/-- What is to be shown of the two actions that can fail. -/
structure IsFailCourse (g : Setting) (I : String → Disk → Prop) (E : EngineError → Prop) : Prop where
  save : ∀ (d : Disk) (r : ChatRecord), I r.chatId d →
    I r.chatId ((g.store.save r).run d).2
      ∧ ∀ e, ((g.store.save r).run d).1 = .error e → E (.store e)
  appendLog : ∀ (d : Disk) (k : String) (now : Int) (text : String), I k d →
    I k ((g.store.appendLog k now text).run d).2
      ∧ ∀ e, ((g.store.appendLog k now text).run d).1 = .error e → E (.store e)

variable {g : Setting} {I : String → Disk → Prop} {E : EngineError → Prop}

namespace FailsOnly

theorem pure (a : α) : FailsOnly I E (Pure.pure a : ChatAction τ α) := fun _ hs => ⟨hs, nofun⟩

/-- One action after the other. -/
theorem bind {x : ChatAction τ α} {f : α → ChatAction τ β} (hx : FailsOnly I E x)
    (hf : ∀ a, FailsOnly I E (f a)) : FailsOnly I E (x >>= f) := by
  intro s hs
  obtain ⟨hkept, hfails⟩ := hx s hs
  rw [Action.run_bind]
  generalize x.run s = p at hkept hfails ⊢
  obtain ⟨e | a, t⟩ := p
  · refine ⟨hkept, fun e' he' => ?_⟩
    cases he'
    exact hfails e rfl
  · exact hf a t hkept

/-- An action that reads the scene first. -/
theorem get_bind {f : Scene τ → ChatAction τ α} (hf : ∀ s, FailsOnly I E (f s)) :
    FailsOnly I E (get >>= f) := fun s hs => hf s s hs

/-- An action that changes the chat first, but not its id. -/
theorem update_bind {f : Chat → Chat} (hid : ∀ c, (f c).id = c.id) {x : ChatAction τ α}
    (hx : FailsOnly I E x) : FailsOnly I E (update f >>= fun _ => x) := by
  intro s hs
  refine hx { s with chat := f s.chat } ?_
  dsimp only
  rw [hid]
  exact hs

end FailsOnly

namespace IsFailCourse

variable (h : IsFailCourse g I E)
include h

theorem saveChat : FailsOnly I E (Chat.save g : ChatAction τ Unit) := by
  intro s hs
  obtain ⟨hkept, hfails⟩ := h.save s.world.disk s.chat.record hs
  rw [save_run]
  generalize (g.store.save s.chat.record).run s.world.disk = saved at hkept hfails ⊢
  obtain ⟨e | _, disk⟩ := saved
  · refine ⟨hkept, fun e' he' => ?_⟩
    cases he'
    exact hfails e rfl
  · exact ⟨hkept, nofun⟩

theorem writeLog (text : String) : FailsOnly I E (Chat.writeLog g text : ChatAction τ Unit) := by
  intro s hs
  obtain ⟨hkept, hfails⟩ := h.appendLog s.world.disk s.chat.id s.world.now text hs
  rw [writeLog_run]
  generalize (g.store.appendLog s.chat.id s.world.now text).run s.world.disk = logged
    at hkept hfails ⊢
  obtain ⟨e | _, disk⟩ := logged
  · refine ⟨hkept, fun e' he' => ?_⟩
    cases he'
    exact hfails e rfl
  · exact ⟨hkept, nofun⟩

theorem moveTo (id : String) : FailsOnly I E (Chat.moveTo g id : ChatAction τ Bool) := by
  rw [Chat.moveTo]
  split
  · exact .pure _
  · rename_i step _
    intro s hs
    rw [Action.run_modify_bind]
    exact (h.saveChat.bind fun _ => .pure true) (enterStep step s) hs

theorem applyRef (code : String) : FailsOnly I E (Chat.applyRef g code : ChatAction τ Unit) := by
  refine (h.writeLog _).bind fun _ => .get_bind fun s => ?_
  split
  · exact .update_bind (fun _ => by rfl) h.saveChat
  · exact .pure ()

theorem markReachable : FailsOnly I E (Chat.markReachable g : ChatAction τ Unit) := by
  refine .get_bind fun s => ?_
  split
  · exact .update_bind (fun _ => by rfl) h.saveChat
  · exact .pure ()

variable [Transport τ]

theorem send (text : String) (buttons : Option (List String)) :
    FailsOnly I E (Chat.send g text buttons : ChatAction τ Unit) := by
  intro s hs
  by_cases hrefused : IsRefused s text buttons
  · rw [send_of_isRefused g hrefused]
    exact h.saveChat _ hs
  · rw [send_of_not_isRefused g hrefused]
    exact ⟨hs, nofun⟩

theorem sendText (text : String) : FailsOnly I E (Chat.sendText g text : ChatAction τ Unit) := by
  rw [Chat.sendText]
  split
  · exact .pure ()
  · exact h.send text none

theorem showStep : FailsOnly I E (Chat.showStep g : ChatAction τ Unit) := by
  refine .get_bind fun s => ?_
  dsimp only
  split
  · exact h.send _ _
  · exact h.send _ _

/-- A chat that goes to a step. -/
theorem goTo (id : String) : FailsOnly I E (Chat.goTo g id : ChatAction τ Unit) := by
  refine (h.moveTo id).bind fun moved => ?_
  split
  · exact h.showStep
  · exact .pure ()

theorem follow (r : Reference) : FailsOnly I E (Chat.follow g r : ChatAction τ Unit) := by
  refine (h.sendText r.text).bind fun _ => ?_
  split
  · exact h.goTo _
  · exact .pure ()

theorem handleInput (text : String) :
    FailsOnly I E (Chat.handleInput g text : ChatAction τ Unit) := by
  refine .get_bind fun s => ?_
  dsimp only
  split
  · exact h.send _ _
  split
  · exact h.send _ _
  · exact h.follow _

theorem runMenu (command : MenuCommand) :
    FailsOnly I E (Chat.runMenu g command : ChatAction τ Unit) := by
  cases command with
  | restart => exact (h.moveTo _).bind fun _ => h.showStep
  | status => exact .get_bind fun s => h.send _ _
  | about => exact h.send _ _

theorem handleText (text : String) :
    FailsOnly I E (Chat.handleText g text : ChatAction τ Unit) := by
  rw [Chat.handleText]
  split
  · split
    · exact h.runMenu _
    · exact .pure ()
  · exact h.handleInput text

theorem runAction (a : Action) : FailsOnly I E (Chat.runAction g a : ChatAction τ Unit) := by
  rw [Chat.runAction]
  split
  · exact (h.sendText _).bind fun _ => (h.moveTo _).bind fun _ => h.showStep
  · exact (h.send _ _).bind fun _ => h.saveChat

/-- The note of a timer. -/
theorem handleNote (n : Elapsed) : FailsOnly I E (Chat.handleNote g n : ChatAction τ Unit) := by
  refine .get_bind fun s => ?_
  split
  · exact .pure ()
  · exact .update_bind (fun _ => by rfl) (h.runAction _)

/-- What is written in a chat. -/
theorem respond (text : String) : FailsOnly I E (Bot.respond g text : ChatAction τ Unit) := by
  refine h.markReachable.bind fun _ => ?_
  refine (h.writeLog text).bind fun _ => ?_
  split
  · exact h.applyRef _
  · exact h.handleText text

/-- What a new chat is welcomed with. -/
theorem welcome (text : String) (sender : Sender) :
    FailsOnly I E (Bot.welcome g text sender : ChatAction τ Unit) :=
  (h.writeLog _).bind fun _ => (h.moveTo _).bind fun _ => h.showStep

end IsFailCourse

/-! ## The three cases -/

/-- **A chat fails with its store only.** -/
theorem isFailCourse_store (g : Setting) :
    IsFailCourse g (fun _ _ => True) fun e => ∃ cause, e = .store cause where
  save _ _ _ := ⟨trivial, fun e _ => ⟨e, rfl⟩⟩
  appendLog _ _ _ _ _ := ⟨trivial, fun e _ => ⟨e, rfl⟩⟩

/-- The files could not be read or written. -/
def IsFileFault (e : EngineError) : Prop := ∃ path cause, e = .store (.io path cause)

/-- What can go wrong with the files of a store is a fault of the files. -/
theorem isFileFault_of_error {r : Except StoreError Unit}
    (h : r = .ok () ∨ ∃ path cause, r = .error (.io path cause)) {e : StoreError}
    (he : r = .error e) : IsFileFault (.store e) := by
  rcases h with hok | ⟨path, cause, hfault⟩
  · rw [hok] at he
    cases he
  · rw [hfault] at he
    cases he
    exact ⟨path, cause, rfl⟩

/-- **A chat whose id can be the name of a directory fails with its files only.** -/
theorem isFailCourse_files (g : Setting) {k : String} (hk : Store.isValidId k = true) :
    IsFailCourse g (fun id _ => id = k) IsFileFault where
  save d _ hr :=
    have hvalid := Store.isValidId_iff.mp (hr ▸ hk)
    ⟨hr, fun _ he => isFileFault_of_error (Store.save_error_io hvalid d) he⟩
  appendLog d _ now text hid :=
    have hvalid := Store.isValidId_iff.mp (hid ▸ hk)
    ⟨hid, fun _ he => isFileFault_of_error (Store.appendLog_error_io hvalid now text d) he⟩

/-- **A chat that the store works for does not fail.** -/
theorem isFailCourse_works (g : Setting) :
    IsFailCourse g (fun id d => g.store.Works id d) fun _ => False where
  save d r h := by
    obtain ⟨hok, hnext⟩ := h.save rfl
    refine ⟨hnext, fun e he => ?_⟩
    rw [hok] at he
    cases he
  appendLog d k now text h := by
    obtain ⟨hok, hnext⟩ := h.appendLog now text
    refine ⟨hnext, fun e he => ?_⟩
    rw [hok] at he
    cases he

/-- What such a chat does succeeds. -/
theorem exists_run_of_works {x : ChatAction τ Unit}
    (hx : FailsOnly (fun id d => g.store.Works id d) (fun _ => False) x) {s : Scene τ}
    (hs : g.store.Works s.chat.id s.world.disk) :
    ∃ t, x.run s = (.ok (), t) ∧ g.store.Works t.chat.id t.world.disk := by
  obtain ⟨hkept, hfails⟩ := hx s hs
  exact ⟨(x.run s).2, Prod.ext (ok_of_failsOnly_nothing hfails) rfl, hkept⟩

end Chat
end ScriptedChat
