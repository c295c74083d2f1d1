import ScriptedChat.Proofs.Bot.Reachability
import ScriptedChat.Proofs.Bot.Restart
import ScriptedChat.Proofs.Chat.Logging
import ScriptedChat.Proofs.Disk.Outcome

/-!
# First contact

When something is written in a chat that is not there yet, the store is asked for three things: to
keep a new chat, to log what was written and by whom, and, after the chat has moved to the step at
which the scenario starts, to keep it again.  Then the step is shown.  Each of these may fail, and
what comes after it is not done then.

## What a failure leaves

The new chat is there as soon as it has been kept.  So there are two kinds of failures.  If it could
not be kept, it is as if nothing had been written: it can be written again, and is welcomed then.
If it was kept, and it could not be logged or kept again, then a chat is left that has not been
shown its step.  It is there from then on, so what is written next is answered as in any other
chat, and it is not welcomed any more.

* `newcomer`, `arrived`: the new chat, before and after it moves.
* `keptFirst`, `loggedFirst`, `keptAgain`: what the store is asked for.
* `FirstContact`, `firstContact_deal`: how far a first contact comes.
* `Welcomed`, `FirstContact.welcomed`: how it ends if the store does not fail.
* `first_contact_outcome`: what a failure leaves.
-/

namespace ScriptedChat
namespace Bot

variable {τ : Type}

/-! ## How far a first contact comes -/

section

variable (g : Setting) (e : Inbound)

/-- The new chat. -/
def newcomer : Chat := Chat.opening g.scenario e.chat (referral? (said e))

/-- The new chat after it has moved to the step at which the scenario starts. -/
def arrived (w : World τ) : Scene τ := Chat.enterStep g.scenario.entry ⟨newcomer g e, w⟩

/-- The new chat is kept, ... -/
def keptFirst (w : World τ) : Except StoreError Unit × Disk :=
  (g.store.save (newcomer g e).record).run w.disk

/-- ... then what was written is logged, and who wrote it, ... -/
def loggedFirst (w : World τ) : Except StoreError Unit × Disk :=
  (g.store.appendLog e.chat w.now (said e ++ " " ++ e.sender.toText)).run (keptFirst g e w).2

/-- ... and then the chat is kept again, as it is after it has moved. -/
def keptAgain (w : World τ) : Except StoreError Unit × Disk :=
  (g.store.save (arrived g e w).chat.record).run (loggedFirst g e w).2

/-- The world after that. -/
def keptWorld (w : World τ) : World τ :=
  { (arrived g e w).world with disk := (keptAgain g e w).2 }

end

/-- How far a first contact comes, in a world in which the press of a button has been answered. -/
inductive FirstContact (g : Setting) (e : Inbound) [Transport τ] (w : World τ) :
    Except EngineError Unit × Plot τ → Prop
  /-- The new chat could not be kept, so it was not made. -/
  | unkept {err : StoreError} (hkept : (keptFirst g e w).1 = .error err) :
    FirstContact g e w (.error (.store err), ⟨none, { w with disk := (keptFirst g e w).2 }⟩)
  /-- It could not be logged what was written, and the chat has not moved. -/
  | unlogged {err : StoreError} (hkept : (keptFirst g e w).1 = .ok ())
    (hlogged : (loggedFirst g e w).1 = .error err) :
    FirstContact g e w
      (.error (.store err), ⟨some (newcomer g e), { w with disk := (loggedFirst g e w).2 }⟩)
  /-- The chat has moved, and could not be kept. -/
  | unmoved {err : StoreError} (hkept : (keptFirst g e w).1 = .ok ())
    (hlogged : (loggedFirst g e w).1 = .ok ()) (hmoved : (keptAgain g e w).1 = .error err) :
    FirstContact g e w (.error (.store err), ⟨some (arrived g e w).chat, keptWorld g e w⟩)
  /-- The chat is shown its step. -/
  | shown (hkept : (keptFirst g e w).1 = .ok ()) (hlogged : (loggedFirst g e w).1 = .ok ())
    (hmoved : (keptAgain g e w).1 = .ok ()) :
    FirstContact g e w (Plot.play (arrived g e w).chat (keptWorld g e w) (Chat.showStep g))

variable [Transport τ] {g : Setting} {e : Inbound} {w : World τ}

/-- What a new chat does. -/
theorem firstContact_welcome
    (hentry : g.scenario.step? g.scenario.entry.id = some g.scenario.entry)
    (hkept : (keptFirst g e w).1 = .ok ()) :
    FirstContact g e w
      (Plot.play (newcomer g e) { w with disk := (keptFirst g e w).2 }
        (welcome g (said e) e.sender)) := by
  have hlog : (Chat.writeFirstContact g (said e) e.sender).run
      ⟨newcomer g e, { w with disk := (keptFirst g e w).2 }⟩
        = ((loggedFirst g e w).1.mapError .store,
            ⟨newcomer g e, { w with disk := (loggedFirst g e w).2 }⟩) :=
    Prod.ext (Chat.writeLog_run_fst ..) (Chat.writeLog_run_snd ..)
  have hsave : (Chat.save g).run (Chat.enterStep g.scenario.entry
      ⟨newcomer g e, { w with disk := (loggedFirst g e w).2 }⟩)
        = ((keptAgain g e w).1.mapError .store, ⟨(arrived g e w).chat, keptWorld g e w⟩) :=
    Prod.ext (Chat.save_run_fst ..) (Chat.save_run_snd ..)
  rw [Plot.play, welcome]
  cases hlogged : (loggedFirst g e w).1 with
  | error err =>
    rw [hlogged] at hlog
    rw [Action.run_bind_error hlog]
    exact .unlogged hkept hlogged
  | ok _ =>
    rw [hlogged] at hlog
    rw [Action.run_bind_ok hlog, Action.run_bind, Chat.moveTo_run_of_some hentry, hsave]
    cases hmoved : (keptAgain g e w).1 with
    | error err => exact .unmoved hkept hlogged hmoved
    | ok _ => exact .shown hkept hlogged hmoved

/-- **How far a first contact comes.** -/
theorem firstContact_deal (hentry : g.scenario.step? g.scenario.entry.id = some g.scenario.entry)
    (he : Text.trim e.text.toList ≠ []) :
    FirstContact g e (answered e.press w) ((Deed.receive e).deal g ⟨none, w⟩) := by
  rw [deal_of_unseen g he, Chat.create_run]
  generalize answered e.press w = v
  cases hkept : (keptFirst g e v).1 with
  | error err =>
    have hrun : (g.store.save
          (Chat.opening g.scenario e.chat (referral? (said e))).record).run v.disk
        = (.error err, (keptFirst g e v).2) := Prod.ext hkept rfl
    rw [hrun]
    exact .unkept hkept
  | ok _ =>
    have hrun : (g.store.save
          (Chat.opening g.scenario e.chat (referral? (said e))).record).run v.disk
        = (.ok (), (keptFirst g e v).2) := Prod.ext hkept rfl
    rw [hrun]
    exact firstContact_welcome hentry hkept

/-! ## What is shown -/

/-- Whatever becomes of a message, it was posted. -/
theorem outbox_send (g : Setting) (text : String) (buttons : Option (List String)) (s : Scene τ) :
    ((Chat.send g text buttons).run s).2.world.outbox
      = s.world.outbox ++ [.message s.chat.id text buttons] := by
  by_cases h : Chat.IsRefused s text buttons
  · rw [Chat.send_of_isRefused g h, Chat.save_run_snd]
    rfl
  · rw [Chat.send_of_not_isRefused g h]
    rfl

/-- A chat that was in step with its record before it sent a message is so afterwards, if the store
has not failed. -/
theorem inStep_send {s : Scene τ} (hs : g.store.Holds s.world.disk)
    (hload : g.store.load s.chat.id s.world.disk = .ok s.chat.record) {text : String}
    {buttons : Option (List String)} (hok : ¬StoreFailed ((Chat.send g text buttons).run s).1) :
    ((Chat.send g text buttons).run s).1 = .ok ()
      ∧ (∃ active, ((Chat.send g text buttons).run s).2.chat = { s.chat with active })
      ∧ g.store.load s.chat.id ((Chat.send g text buttons).run s).2.world.disk
          = .ok ((Chat.send g text buttons).run s).2.chat.record := by
  by_cases h : Chat.IsRefused s text buttons
  · rw [Chat.send_of_isRefused g h] at hok ⊢
    rw [Chat.save_run_fst] at hok ⊢
    rw [Chat.save_run_snd]
    have hsaves := Store.saves hs (Chat.record { s.chat with active := false })
    cases hsaved : ((g.store.save (Chat.record { s.chat with active := false })).run
        s.world.disk).1 with
    | error err =>
      refine absurd ⟨err, ?_⟩ hok
      exact congrArg (Except.mapError EngineError.store) hsaved
    | ok _ =>
      exact ⟨congrArg (Except.mapError EngineError.store) hsaved, ⟨false, rfl⟩,
        hsaves.load hsaved⟩
  · rw [Chat.send_of_not_isRefused g h]
    exact ⟨rfl, ⟨s.chat.active, rfl⟩, hload⟩

/-! ## How a first contact ends -/

/-- A new chat has been welcomed: it is at the step at which the scenario starts, with timers of the
step that begin now, and so it is kept; it has been shown the step; and it was logged what was
written, and by whom. -/
structure Welcomed (g : Setting) (e : Inbound) (w : World τ) (p : Plot τ) : Prop where
  chat : ∃ c, p.chat = some c ∧ c.stepId = some g.scenario.entry.id
    ∧ c.timers = armTimers w.now w.tickets g.scenario.entry.delayedActions []
    ∧ g.store.load e.chat p.world.disk = .ok c.record
  shown : p.world.outbox
    = w.outbox ++ [.message e.chat g.scenario.entry.text (some g.scenario.entry.buttons)]
  logged : g.store.log? e.chat p.world.disk
    = some ((g.store.log? e.chat w.disk).getD ByteArray.empty
        ++ (Store.logLine w.now (said e ++ " " ++ e.sender.toText)).toUTF8)

namespace FirstContact

variable {p : Except EngineError Unit × Plot τ}

/-- The chat is not there if it could not be kept, and only then. -/
theorem chat_eq_none_iff (h : FirstContact g e w p) :
    p.2.chat = none ↔ ∃ err, (keptFirst g e w).1 = .error err := by
  have hmade : ∀ {c : Chat}, (keptFirst g e w).1 = .ok () →
      (some c = none ↔ ∃ err, (keptFirst g e w).1 = .error err) := by
    rintro c hkept
    refine iff_of_false nofun ?_
    rintro ⟨err, herr⟩
    rw [hkept] at herr
    cases herr
  cases h with
  | unkept hkept => exact iff_of_true rfl ⟨_, hkept⟩
  | unlogged hkept _ => exact hmade hkept
  | unmoved hkept _ _ => exact hmade hkept
  | shown hkept _ _ => exact hmade hkept

variable (hentry : g.scenario.step? g.scenario.entry.id = some g.scenario.entry)
include hentry

/-- The new chat is on the step at which the scenario starts, so it is this step that it shows. -/
theorem play_showStep (w' : World τ) :
    Plot.play (arrived g e w).chat w' (Chat.showStep g)
      = Plot.play (arrived g e w).chat w'
          (Chat.send g g.scenario.entry.text (some g.scenario.entry.buttons)) := by
  have hstep : (arrived g e w).chat.step? g.scenario = some g.scenario.entry := hentry
  rw [Plot.play, Plot.play, Chat.showStep_run g (s := ⟨(arrived g e w).chat, w'⟩) hstep]

/-- What is posted then. -/
theorem outbox_shown :
    (Plot.play (arrived g e w).chat (keptWorld g e w) (Chat.showStep g)).2.world.outbox
      = w.outbox ++ [.message e.chat g.scenario.entry.text (some g.scenario.entry.buttons)] := by
  rw [play_showStep hentry]
  exact outbox_send ..

/-- The chat is there and nothing has been posted to it, if it could be kept, and it could not be
logged what was written or kept that the chat has moved; and only then. -/
theorem left_unshown_iff (h : FirstContact g e w p) :
    p.2.chat.isSome ∧ p.2.world.outbox = w.outbox
      ↔ (keptFirst g e w).1 = .ok ()
        ∧ ((∃ err, (loggedFirst g e w).1 = .error err)
          ∨ ∃ err, (keptAgain g e w).1 = .error err) := by
  cases h with
  | unkept hkept =>
    refine iff_of_false (fun h => nomatch h.1) fun h => ?_
    rw [hkept] at h
    cases h.1
  | unlogged hkept hlogged => exact iff_of_true ⟨rfl, rfl⟩ ⟨hkept, Or.inl ⟨_, hlogged⟩⟩
  | unmoved hkept _ hmoved => exact iff_of_true ⟨rfl, rfl⟩ ⟨hkept, Or.inr ⟨_, hmoved⟩⟩
  | shown hkept hlogged hmoved =>
    refine iff_of_false (fun h => ?_) ?_
    · rw [outbox_shown hentry] at h
      exact absurd (List.append_right_eq_self.mp h.2) (List.cons_ne_nil _ _)
    · rintro ⟨-, ⟨err, herr⟩ | ⟨err, herr⟩⟩
      · rw [hlogged] at herr
        cases herr
      · rw [hmoved] at herr
        cases herr

/-- What is posted, if anything is, is the step; and if nothing is, the store has failed. -/
theorem posted (h : FirstContact g e w p) :
    p.2.world.outbox = w.outbox ∧ StoreFailed p.1
      ∨ p.2.world.outbox
        = w.outbox ++ [.message e.chat g.scenario.entry.text (some g.scenario.entry.buttons)] := by
  cases h with
  | unkept => exact Or.inl ⟨rfl, _, rfl⟩
  | unlogged => exact Or.inl ⟨rfl, _, rfl⟩
  | unmoved => exact Or.inl ⟨rfl, _, rfl⟩
  | shown => exact Or.inr (outbox_shown hentry)

/-- **If the store does not fail, the new chat is welcomed.** -/
theorem welcomed (hholds : g.store.Holds w.disk) (h : FirstContact g e w p)
    (hok : ¬StoreFailed p.1) : p.1 = .ok () ∧ Welcomed g e w p.2 := by
  cases h with
  | unkept => exact absurd ⟨_, rfl⟩ hok
  | unlogged => exact absurd ⟨_, rfl⟩ hok
  | unmoved => exact absurd ⟨_, rfl⟩ hok
  | shown hkept hlogged hmoved =>
    have hfirst : g.store.Holds (keptFirst g e w).2 := (Store.saves hholds _).spares.holds
    have hsecond : g.store.Holds (loggedFirst g e w).2 :=
      (Store.appendLog_spares hfirst _ _ _).1.holds
    have hsaves := Store.saves hsecond (arrived g e w).chat.record
    have hshown := outbox_shown (e := e) (w := w) hentry
    rw [play_showStep hentry] at hok hshown ⊢
    obtain ⟨hresult, ⟨active, hchat⟩, hload⟩ := inStep_send
      (s := ⟨(arrived g e w).chat, keptWorld g e w⟩) hsaves.spares.holds (hsaves.load hmoved) hok
    have hlogs := Chat.logs_send g g.scenario.entry.text (some g.scenario.entry.buttons)
      ⟨(arrived g e w).chat, keptWorld g e w⟩
    have hlog := (hlogs.logged hsaves.spares.holds).log e.chat
    refine ⟨hresult, ⟨_, rfl, ?_, ?_, hload⟩, hshown, ?_⟩
    · exact congrArg Chat.stepId hchat
    · exact congrArg Chat.timers hchat
    · refine hlog.trans ((Store.log?_save hsecond _ _).trans ?_)
      refine (Store.log?_appendLog hfirst e.chat w.now _ hlogged).trans ?_
      rw [keptFirst, Store.log?_save hholds]

end FirstContact

/-! ## What a failure leaves -/

omit [Transport τ] in
/-- A deed in which nothing is written in a chat. -/
theorem blank_of_not_reaches {e : Inbound} {k : String} (hk : e.chat = k)
    (h : ¬(Deed.receive e).Reaches k) : Text.trim e.text.toList = [] :=
  Classical.byContradiction fun he => h ⟨hk, he⟩

variable {s : Stage τ}

/-- A chat that is not there is not there later on, if nothing is written in it. -/
theorem chat?_after_of_not_reaches (hs : AtWork g s) {k : String} (hk : s.bot.chat? k = none)
    {ds : List Deed} (hds : ∀ d ∈ ds, ¬d.Reaches k) : (after ds s).bot.chat? k = none := by
  induction ds generalizing s with
  | nil => exact hk
  | cons d ds ih =>
    refine ih (hs.act d) ?_ fun d' hd' => hds d' (List.mem_cons_of_mem d hd')
    by_cases hd : ∀ e, d ≠ .receive e
    · exact chat?_act_of_none hs.sorted hd hk
    · push Not at hd
      obtain ⟨e, rfl⟩ := hd
      rw [chat?_act hs.sorted hs.setting (d := .receive e) rfl]
      split
      · rename_i hchat
        have hblank := blank_of_not_reaches hchat.symm (hds _ List.mem_cons_self)
        rw [deal_of_blank _ hblank, ← hchat]
        exact hk
      · exact hk

/-- A chat that is there is there later on. -/
theorem isSome_chat?_after (hs : AtWork g s) {k : String} (hk : (s.bot.chat? k).isSome)
    (ds : List Deed) : ((after ds s).bot.chat? k).isSome := by
  induction ds generalizing s with
  | nil => exact hk
  | cons d ds ih => exact ih (hs.act d) (isSome_chat?_act hs hk d)

/-- What is written in a chat that is there is answered by it. -/
theorem handle_of_known (hs : AtWork g s) {c : Chat} (hc : s.bot.chat? e.chat = some c)
    (he : Text.trim e.text.toList ≠ []) :
    (handle e).run s
      = (onChat e.chat c (respond g (said e))).run
          { s with world := answered e.press s.world } := by
  have hrun : (handle e).run s = _ := act_run hs.sorted hs.setting (d := .receive e) rfl
  rw [hrun, plot, hc, deal_of_known _ he, onChat_place]

/-- What is written in a chat that is not there yet is a first contact. -/
theorem firstContact_handle (hs : AtWork g s)
    (hentry : g.scenario.step? g.scenario.entry.id = some g.scenario.entry)
    (hunseen : s.bot.chat? e.chat = none) (he : Text.trim e.text.toList ≠ []) :
    FirstContact g e (answered e.press s.world)
      (((handle e).run s).1, plot ((handle e).run s).2 e.chat) := by
  have hrun := act_run hs.sorted hs.setting (d := .receive e) rfl
  have hplot := plot_act hs.sorted hs.setting (d := .receive e) rfl
  have hdeal := firstContact_deal (w := s.world) hentry he
  have hnone : plot s e.chat = ⟨none, s.world⟩ := by rw [plot, hunseen]
  rw [← hnone] at hdeal
  show FirstContact g e _
    (((Deed.receive e).act.run s).1, plot ((Deed.receive e).act.run s).2 e.chat)
  rw [hplot, hrun]
  generalize (Deed.receive e).deal g (plot s e.chat) = p at hdeal ⊢
  exact hdeal

/-- **What a failed first contact leaves.**  A bot has been started, and some deeds have been done.
Then something that is not blank is written in a chat that is not there yet.

* What is posted then, if anything is, is the step at which the scenario starts; and if nothing is,
  the store has failed.
* The chat is not there afterwards if it could not be kept when it was made, and only then.
* The chat is there, and has not been shown anything, if it was kept, and then what was written
  could not be logged or the chat could not be kept after it had moved; and only then.
* If the chat is not there afterwards, it is not there until something is written in it again.  This
  is a first contact, and if the store does not fail then, it ends well and the chat is welcomed.
* If the chat is there afterwards, it is there from then on, and what is written in it is answered
  as by any chat.

That the step to start at is found under its id holds of every script that is accepted. -/
theorem first_contact_outcome {b : Bot} {w' : World τ} (htree : w.disk.IsTree)
    (hstart : (start g).run w = (.ok b, w')) (ds : List Deed)
    (hentry : g.scenario.step? g.scenario.entry.id = some g.scenario.entry)
    (hunseen : (after ds ⟨b, w'⟩).bot.chat? e.chat = none) (he : Text.trim e.text.toList ≠ []) :
    let v := answered e.press (after ds ⟨b, w'⟩).world
    let r := ((handle e).run (after ds ⟨b, w'⟩)).1
    let t := ((handle e).run (after ds ⟨b, w'⟩)).2
    (t.world.outbox = v.outbox ∧ StoreFailed r
        ∨ t.world.outbox = v.outbox
          ++ [.message e.chat g.scenario.entry.text (some g.scenario.entry.buttons)])
      ∧ (t.bot.chat? e.chat = none ↔ ∃ err, (keptFirst g e v).1 = .error err)
      ∧ ((t.bot.chat? e.chat).isSome ∧ t.world.outbox = v.outbox
        ↔ (keptFirst g e v).1 = .ok ()
          ∧ ((∃ err, (loggedFirst g e v).1 = .error err) ∨ ∃ err, (keptAgain g e v).1 = .error err))
      ∧ (t.bot.chat? e.chat = none → ∀ es : List Deed, (∀ d ∈ es, ¬d.Reaches e.chat) →
        ∀ e' : Inbound, e'.chat = e.chat → Text.trim e'.text.toList ≠ [] →
          ¬StoreFailed ((handle e').run (after es t)).1 →
            ((handle e').run (after es t)).1 = .ok ()
              ∧ Welcomed g e' (answered e'.press (after es t).world)
                (plot ((handle e').run (after es t)).2 e'.chat))
      ∧ ((t.bot.chat? e.chat).isSome → ∀ (es : List Deed) (e' : Inbound), e'.chat = e.chat →
        Text.trim e'.text.toList ≠ [] →
          ∃ c, (after es t).bot.chat? e'.chat = some c
            ∧ (handle e').run (after es t)
              = (onChat e'.chat c (respond g (said e'))).run
                  { after es t with world := answered e'.press (after es t).world }) := by
  intro v r t
  have hbefore : AtWork g (after ds ⟨b, w'⟩) := (atWork_start hstart htree).after ds
  have hleft : AtWork g t := hbefore.act (.receive e)
  have hcontact := firstContact_handle hbefore hentry hunseen he
  refine ⟨hcontact.posted hentry, hcontact.chat_eq_none_iff, hcontact.left_unshown_iff hentry, ?_,
    ?_⟩
  · intro hnone es hes e' hchat he' hok
    have hlater := hleft.after es
    have hunseen' : (after es t).bot.chat? e'.chat = none :=
      hchat ▸ chat?_after_of_not_reaches hleft hnone hes
    refine (firstContact_handle hlater hentry hunseen' he').welcomed hentry ?_ hok
    rw [disk_answered]
    exact hlater.holds
  · intro hsome es e' hchat he'
    have hsome' := isSome_chat?_after hleft hsome es
    rw [← hchat] at hsome'
    obtain ⟨c, hc⟩ := Option.isSome_iff_exists.mp hsome'
    exact ⟨c, hc, handle_of_known (hleft.after es) hc he'⟩

/-- Something that somebody writes. -/
def written (text : String) : Inbound := ⟨"42", text, ⟨42, false, "Ann", none, none, none⟩, none⟩

/-- A world in which nothing is kept yet, and the log of a chat is a directory. -/
def unlogging : World Refusing :=
  { newWorld with disk := (newWorld.disk.makeDirectories ⟨"/42/messages.log"⟩).2 }

/-- The chat has a directory, but no record, so the bot starts without it. -/
theorem start_unlogging :
    (start (reminding "(1h)")).run unlogging = (.ok (newBot (reminding "(1h)")), unlogging) := by
  have hkeys : (reminding "(1h)").store.chats unlogging.disk = .ok ["42"] :=
    chats_of_names (by decide +kernel) (by decide +kernel)
  have hnone : ((reminding "(1h)").store.load "42" unlogging.disk).toOption = none := by
    decide +kernel
  refine start_of_chats hkeys ?_
  simp only [List.foldlM_cons, List.foldlM_nil, bind_pure]
  rw [restoreChat_run]
  dsimp only
  cases hload : (reminding "(1h)").store.load "42" unlogging.disk with
  | error e => rfl
  | ok r =>
    rw [hload] at hnone
    cases hnone

/-- The stage after somebody has written there for the first time, which could not be logged. -/
def unlogged : Except EngineError Unit × Stage Refusing :=
  (handle (written "Hi")).run ⟨newBot (reminding "(1h)"), unlogging⟩

/-- The same stage after the directory has been removed. -/
def loggingAgain : Stage Refusing :=
  { unlogged.2 with
    world :=
      { unlogged.2.world with disk := unlogged.2.world.disk.remove ⟨"/42/messages.log"⟩ } }

/-- The chat is there then, without any timers, and has not been shown its first step, and what is
written next is answered as by any chat.  When the log can be opened again, and the same person
writes again, nothing fails, and the first step is not shown either. -/
theorem unshown_of_unlogged :
    (loggedFirst (reminding "(1h)") (written "Hi") unlogging).1
        = .error (.io ⟨"/42/messages.log"⟩ .isDirectory)
      ∧ StoreFailed unlogged.1 ∧ unlogged.2.world.outbox = []
      ∧ ∃ c, unlogged.2.bot.chat? "42" = some c ∧ c.timers = []
        ∧ (handle (written "Hello?")).run unlogged.2
          = (onChat "42" c (respond (reminding "(1h)") "Hello?")).run unlogged.2
        ∧ ((handle (written "Hello?")).run loggingAgain).1 = .ok ()
        ∧ ((handle (written "Hello?")).run loggingAgain).2.world.outbox
          = [.message "42" Chat.savedReply none] := by
  have hstore : (keptFirst (reminding "(1h)") (written "Hi") unlogging).1 = .ok ()
      ∧ (loggedFirst (reminding "(1h)") (written "Hi") unlogging).1
        = .error (.io ⟨"/42/messages.log"⟩ .isDirectory) := by
    decide +kernel
  have hafter : (unlogged.2.bot.chat? "42").map Chat.timers = some []
      ∧ ((handle (written "Hello?")).run loggingAgain).1 = .ok ()
      ∧ ((handle (written "Hello?")).run loggingAgain).2.world.outbox
        = [.message "42" Chat.savedReply none] := by
    decide +kernel
  obtain ⟨hkept, hlogged⟩ := hstore
  obtain ⟨htimers, hok, hreply⟩ := hafter
  obtain ⟨hposted, -, hunshown, -, hknown⟩ := first_contact_outcome (e := written "Hi")
    (Disk.isTree_makeDirectories Disk.isTree_empty _) start_unlogging [] (by decide +kernel) rfl
    (by decide)
  obtain ⟨hsome, houtbox⟩ := hunshown.mpr ⟨hkept, Or.inl ⟨_, hlogged⟩⟩
  have hfailed : StoreFailed unlogged.1 := by
    rcases hposted with ⟨-, hfailed⟩ | hshown
    · exact hfailed
    · exact absurd (houtbox.symm.trans hshown) (by decide)
  obtain ⟨c, hc, hrun⟩ := hknown hsome [] (written "Hello?") rfl (by decide)
  have hc' : unlogged.2.bot.chat? "42" = some c := hc
  rw [hc', Option.map_some, Option.some.injEq] at htimers
  exact ⟨hlogged, hfailed, houtbox, c, hc, htimers, hrun, hok, hreply⟩

end Bot
end ScriptedChat
