import ScriptedChat.Proofs.Bot.FirstContact
import ScriptedChat.Proofs.Bot.Stranded
import ScriptedChat.Proofs.Chat.Following

/-!
# Keyboards

When a step is shown, the labels of its buttons go out with it as a keyboard.  Whoever presses a
button, or writes what is on it, comes back with the label, and what is done then is what the script
says about it.

## From the script and back

The label is cut out of the script and trimmed, it is noted down for the keyboard when it comes up
first, and the action under it is replaced whenever it comes up again.  What comes back is trimmed
as well, which leaves nothing but the label, whatever blanks were put around it.  Before it is looked
for among the actions, it might be taken for a referral code or for a command of the menu.  Both of
them begin with a slash, and so they do not stand in the way of a label that does not.

* `Chat.IsKeyboard`: what goes out as a keyboard.
* `Chat.choose`, `Chat.respond_run_of_label`: a label is not taken for anything else.
* `Chat.Chooses`, `Chat.chooses_of_label`: what becomes of a chat in which a button is chosen.
* `Bot.every_button_works`: **every button that is shown works**.
-/

namespace ScriptedChat

variable {τ : Type} [Transport τ] {g : Setting}

namespace Chat

variable {s t u : Scene τ} {step : Step} {a : Action} {name : String}

/-! ## What is shown -/

/-- A keyboard that goes out when a chat shows its step. -/
def IsKeyboard (g : Setting) (s : Scene τ) (keyboard : List String) : Prop :=
  ∃ body, ((Chat.showStep g).run s).2.world.outbox
    = s.world.outbox ++ [.message s.chat.id body (some keyboard)]

/-- On a step it has the buttons of the step. -/
theorem IsKeyboard.eq_buttons {keyboard : List String} (h : IsKeyboard g s keyboard)
    (hstep : s.chat.step? g.scenario = some step) : keyboard = step.buttons := by
  obtain ⟨body, hshown⟩ := h
  rw [showStep_run g hstep, Bot.outbox_send] at hshown
  have hsame := List.append_cancel_left hshown
  rw [List.cons.injEq, Request.message.injEq, Option.some.injEq] at hsame
  exact hsame.1.2.2.symm

/-! ## What is heard -/

/-- The scene in which the chat can be reached. -/
def woken (s : Scene τ) : Scene τ := { s with chat := { s.chat with active := true } }

/-- To mark a chat as reachable changes nothing else but the disk. -/
theorem tells_markReachable (g : Setting) (s : Scene τ) :
    Tells [] (woken s) ((Chat.markReachable g).run s).2 := by
  rw [markReachable_run]
  split
  · rename_i hactive
    have hsame : woken s = s := by rw [woken, ← hactive]
    rw [hsame]
    exact ⟨.nil rfl rfl, rfl, rfl, rfl, ((isSendCourse_heeds g).refl s).active⟩
  · exact tells_save g (woken s)

/-- Nor does it to add to the log. -/
theorem tells_writeLog (g : Setting) (text : String) (s : Scene τ) :
    Tells [] s ((Chat.writeLog g text).run s).2 := by
  have hactive := ((isSendCourse_heeds g).writeLog text s).active
  rw [writeLog_run_snd] at hactive ⊢
  exact ⟨.nil rfl rfl, rfl, rfl, rfl, hactive⟩

/-- What a chat does when an action is chosen by its label. -/
def choose (g : Setting) (a : Action) (name : String) : ChatAction τ Unit := do
  Chat.markReachable g
  Chat.writeLog g name
  Chat.follow g a.reference

/-- **A label is not taken for anything else**, at a step where it stands for an action. -/
theorem respond_run_of_label (hslash : name.toList.head? ≠ some '/')
    (hcode : Bot.referral? name = none) (hstep : s.chat.step? g.scenario = some step)
    (ha : step.action? name = some a) :
    (Bot.respond g name).run s = (Chat.choose g a name).run s := by
  have hmarked := tells_markReachable g s
  rw [Bot.respond, choose, hcode, Action.run_bind, Action.run_bind]
  generalize (Chat.markReachable g).run s = r at hmarked ⊢
  obtain ⟨_ | _, u⟩ := r
  · rfl
  · have hlogged := tells_writeLog g name u
    dsimp only
    rw [Action.run_bind, Action.run_bind]
    generalize (Chat.writeLog g name).run u = r at hlogged ⊢
    obtain ⟨_ | _, v⟩ := r
    · rfl
    · have hv : v.chat.step? g.scenario = some step :=
        (hlogged.step? _).trans ((hmarked.step? _).trans hstep)
      dsimp only
      rw [handleText, if_neg hslash, handleInput_run hv ha]

/-! ## What becomes of it -/

/-- An action has been chosen in a chat by its label.  The chat can be reached then, unless it is told
otherwise on the way.  It has gone where the action leads, and nothing was sent but what is sent on
the way there; nothing but the label was logged; and what has changed was kept. -/
structure Chooses (g : Setting) (a : Action) (name : String) (s t : Scene τ) : Prop where
  tells : Tells (messages g a.reference s.chat.id) (destination g a.reference (woken s)) t
  logs : Logs g [name] s t
  keeps : KeepsChanges g (s.chat.active = false) s t

/-- If the action leads to a step, the chat is there. -/
theorem Chooses.moves (h : Chooses g a name s t) {next : Step}
    (hnext : next? g a.reference = some next) :
    t.chat.step? g.scenario = some next ∧ t.chat.generation = s.chat.generation + 1 := by
  obtain ⟨id, -, hid⟩ := Option.bind_eq_some_iff.mp hnext
  have htold := h.tells
  rw [destination, hnext] at htold
  have hstep : t.chat.stepId = some next.id := htold.stepId
  refine ⟨?_, ?_⟩
  · rw [step?, stepLabel, hstep, Option.getD_some, step?_id hid, hid]
  · rw [htold.chat]
    rfl

/-- If it does not, its text is sent, if it has one, and the chat stays as it is, but for its
activity. -/
theorem Chooses.stays (h : Chooses g a name s t) (hnext : next? g a.reference = none) :
    World.Posted (saying s.chat.id a.reference.text) s.world t.world
      ∧ t.chat = { s.chat with active := t.chat.active } := by
  have htold := h.tells
  rw [messages_of_nowhere hnext, destination, hnext] at htold
  exact ⟨⟨htold.posted.outbox, htold.posted.transport⟩, htold.chat⟩

/-- **What becomes of a label.** -/
theorem chooses_of_label (hslash : name.toList.head? ≠ some '/')
    (hcode : Bot.referral? name = none) (hstep : s.chat.step? g.scenario = some step)
    (ha : step.action? name = some a) (hs : g.store.Holds s.world.disk)
    (hrun : (Bot.respond g name).run s = (.ok (), t)) : Chooses g a name s t := by
  have hlogs : Logs g [name] s t := by
    have hno : ¬StoreFailed ((Bot.respond g name).run s).1 := by
      rw [hrun]
      rintro ⟨e, he⟩
      cases he
    have hall := logsUnlessFailed_respond g name s hno
    rwa [heardLines, hcode, hrun] at hall
  have hkeeps := keepsChanges_respond hs hrun
  rw [respond_run_of_label hslash hcode hstep ha, choose] at hrun
  obtain ⟨_, u, hmark, hrest⟩ := Action.of_run_bind_ok hrun
  obtain ⟨_, v, hlog, hfollow⟩ := Action.of_run_bind_ok hrest
  have hmarked := tells_markReachable g s
  have hlogged := tells_writeLog g name u
  rw [hmark] at hmarked
  rw [hlog] at hlogged
  have hheard : Tells [] (woken s) v := hmarked.trans hlogged
  have htold := (hheard.destination a.reference).trans (tells_follow hfollow)
  have hid : v.chat.id = s.chat.id := hheard.id
  rw [List.nil_append, hid] at htold
  exact ⟨htold, hlogs, hkeeps⟩

end Chat

namespace Bot

/-- What is left of a label that comes back with blanks around it. -/
theorem said_eq {e : Inbound} {name : String} {front back : List Char}
    (htrim : Text.trim name.toList = name.toList)
    (htext : e.text.toList = front ++ name.toList ++ back)
    (hfront : Text.isAllBlank front = true) (hback : Text.isAllBlank back = true) :
    said e = name := by
  rw [said, htext, Text.trim_append_append hfront hback, htrim, String.ofList_toList]

/-- **Every button that is shown works.**

A chat is on a step of a script that was accepted, and the store works for it.  What comes in for it
is a label, perhaps with blanks around it, that is on the keyboard which goes out whenever the step
is shown, wherever this was.  The label is not empty and does not begin with a slash.

Then of all that the script says about the label at this step, it is the last that is done.  If this
is a message as a whole, it is sent, unless it is empty, and the chat stays as it is, but for its
activity. -/
theorem every_button_works {zone : Calendar.Zone} {text : String}
    (hread : Scenario.ofText zone text = .ok g.scenario) {step : Step} {u : Scene τ}
    (hthere : u.chat.step? g.scenario = some step) {keyboard : List String}
    (hshown : Chat.IsKeyboard g u keyboard) {name : String} (hname : name ∈ keyboard)
    (hne : name ≠ "") (hslash : name.toList.head? ≠ some '/') {s : Stage τ} (hs : AtWork g s)
    {e : Inbound} {front back : List Char} (htext : e.text.toList = front ++ name.toList ++ back)
    (hfront : Text.isAllBlank front = true) (hback : Text.isAllBlank back = true) {c : Chat}
    (hc : s.bot.chat? e.chat = some c) (hon : c.step? g.scenario = some step)
    (hworks : g.store.Works c.id s.world.disk) :
    ∃ (block : List Char) (a : Action) (t : Scene τ),
      IsLastOf Scenario.blockId (Scenario.blocks text.toList).tail block
        ∧ Scenario.blockId block = c.stepLabel
        ∧ Scenario.IsLastAction block name a
        ∧ (handle e).run s
          = (onChat e.chat c (Chat.choose g a name)).run
              { s with world := answered e.press s.world }
        ∧ (handle e).run s = (.ok (), put s e.chat t)
        ∧ Chat.Chooses g a name ⟨c, answered e.press s.world⟩ t
        ∧ (∀ next, Chat.next? g a.reference = some next →
          t.chat.step? g.scenario = some next ∧ t.chat.generation = c.generation + 1)
        ∧ (a.target.toList.head? ≠ some '(' →
          World.Posted (Chat.saying c.id a.target) (answered e.press s.world) t.world
            ∧ t.chat = { c with active := t.chat.active }) := by
  obtain ⟨block, hlast, hblock, hid⟩ := Scenario.lastBlock_of_step? hread hon
  rw [hshown.eq_buttons hthere] at hname
  obtain ⟨a, hsays, hmem, hfound⟩ := Scenario.action_of_mem_buttons hblock hname
  have hsaid : said e = name := said_eq hsays.trim_name htext hfront hback
  have htrim : Text.trim e.text.toList = name.toList := by
    rw [← hsaid, said, String.toList_ofList]
  have hcode : referral? name = none := by
    have hno := Chat.referral?_of_not_slash (s := e.text.toList) (htrim ▸ hslash)
    rwa [htrim, String.ofList_toList] at hno
  have hnonempty : Text.trim e.text.toList ≠ [] := by
    rw [htrim]
    exact fun hnil => hne (String.toList_inj.mp hnil)
  -- The store works in the world in which the press has been answered as well.
  have hdisk : (answered e.press s.world).disk = s.world.disk := disk_answered _ _
  rw [← hdisk] at hworks
  obtain ⟨t, hrun, -⟩ := Chat.exists_run_of_works (s := ⟨c, answered e.press s.world⟩)
    ((Chat.isFailCourse_works g).respond name) hworks
  have hchosen := Chat.chooses_of_label hslash hcode hon hfound hworks.holds hrun
  have hheard := handle_of_known hs hc hnonempty
  rw [hsaid, onChat_run] at hheard
  refine ⟨block, a, t, hlast, hid, hsays, ?_, ?_, hchosen, fun _ => hchosen.moves, fun hplain => ?_⟩
  · rw [hheard, onChat_run, ← Chat.respond_run_of_label hslash hcode hon hfound]
  · rw [hheard, hrun]
    rfl
  · have hreference := Scenario.reference_of_plain hblock hmem hplain
    have hstays := hchosen.stays (by rw [hreference]; rfl)
    rwa [hreference] at hstays

/-- What comes of the script of a tour. -/
def touring : Setting :=
  let entry : Step :=
    { id := "1", cue := .immediate, body := ["Hello again"]
      actions :=
        [⟨"Yes", "(1) Once more", ⟨some "1", "Once more"⟩⟩, ⟨"(1h)", "Late", ⟨none, "Late"⟩⟩] }
  let last : Step := { id := "2", cue := .none, body := ["Bye"], actions := [] }
  { scenario := { name := "Tour", description := "", menu := [], steps := [entry, last], entry }
    store := ⟨⟨"/"⟩⟩ }

/-- A chat on its first step, whose user could not be reached for some time. -/
def visitor : Chat :=
  { id := "42", stepId := some "1", refId := none, active := false, timers := [], generation := 1 }

/-- A bot that has this chat. -/
def visited : Stage Refusing := ⟨{ newBot touring with chats := [("42", visitor)] }, newWorld⟩

/-- The press of a button, whose label comes back with blanks around it. -/
def pressedYes : Inbound := { written "\u2003Yes\n" with press := some "1" }

/-- The step says twice what `Yes` stands for.  What it says last is done. -/
theorem yes_works_on_tour : ∃ (a : Action) (t : Scene Refusing),
    (handle pressedYes).run visited = (.ok (), put visited "42" t)
      ∧ Chat.Chooses touring a "Yes" ⟨visitor, answered (some "1") newWorld⟩ t
      ∧ t.world.outbox = [.answer "1", .message "42" "Once more" none,
          .message "42" "Hello again" (some ["Yes"])] := by
  have hread : Scenario.ofText .universal Scenario.tour = .ok touring.scenario :=
    eq_ok_of_toOption (by decide +kernel)
  have hstep : visitor.step? touring.scenario = some touring.scenario.entry := by decide +kernel
  have hshown : Chat.IsKeyboard touring (⟨visitor, newWorld⟩ : Scene Refusing) ["Yes"] :=
    ⟨"Hello again", by decide +kernel⟩
  have hwork : AtWork touring visited := ⟨rfl, List.pairwise_singleton _ _, works_newWorld.holds⟩
  have hposted : ((handle pressedYes).run visited).2.world.outbox
      = [.answer "1", .message "42" "Once more" none,
          .message "42" "Hello again" (some ["Yes"])] := by
    decide +kernel
  have htext : pressedYes.text.toList = ['\u2003'] ++ "Yes".toList ++ ['\n'] := by decide
  obtain ⟨-, a, t, -, -, -, -, hrun, hchosen, -⟩ := every_button_works hread hstep hshown
    List.mem_cons_self (by decide) (by decide) hwork htext (by decide) (by decide) rfl hstep
    works_newWorld
  rw [hrun] at hposted
  exact ⟨a, t, hrun, hchosen, hposted⟩

end Bot
end ScriptedChat
