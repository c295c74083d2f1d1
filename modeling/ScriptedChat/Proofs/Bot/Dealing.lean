import ScriptedChat.Proofs.Bot.Deeds
import ScriptedChat.Proofs.Chat.Pairs

/-!
# What a deed does to its chat

Something that comes in, a note, and an announcement are each for one chat.  Such a deed looks at
nothing else of the bot than this chat, which may not be there yet, and it changes nothing else:
so it works on a *plot*, which is the chat and the world.

So what is to be said about stages is said about plots, and if it is about two runs, about two
plots side by side.

* `Bot.Plot`, `Bot.Deed.deal`: a deed for one chat.
* `Bot.Plot.visit`, `Bot.deal_note`, `Bot.deal_announce`: a note and an announcement.
* `Bot.deal_of_blank`, `Bot.deal_of_known`, `Bot.deal_of_unseen`: what comes in.
* `Bot.act_run`, `Bot.chat?_act`, `Bot.world_act`, `Bot.queue_act`: what it does to a bot.
* `Bot.ringOne_eq`, `Bot.chat?_ringOne`, `Bot.chat?_ringAll`: deeds that are for no chat.
* `Bot.IsPlotCourse`, `Bot.IsPlotCourse.deal`: deeds for one chat side by side.
* `Bot.outcomes`, `Bot.pair_after`: rows of deeds side by side.
-/

namespace ScriptedChat
namespace Bot

variable {τ υ : Type}

/-! ## Plots -/

/-- What a deed for one chat works on: the chat, if it is there, and the world. -/
structure Plot (τ : Type) where
  chat : Option Chat
  world : World τ

/-- What there is for the deeds that are for the chat under a key. -/
def plot (s : Stage τ) (key : String) : Plot τ := ⟨s.bot.chat? key, s.world⟩

/-- The stage with what has become of a plot. -/
def place (s : Stage τ) (key : String) (p : Plot τ) : Stage τ :=
  match p.chat with
  | some c => put s key ⟨c, p.world⟩
  | none => { s with world := p.world }

/-- An action of a chat that is there. -/
def Plot.play (c : Chat) (w : World τ) (x : ChatAction τ Unit) :
    Except EngineError Unit × Plot τ :=
  match x.run ⟨c, w⟩ with
  | (r, t) => (r, ⟨some t.chat, t.world⟩)

/-- An action of the chat, if it is there. -/
def Plot.visit (p : Plot τ) (x : ChatAction τ Unit) : Except EngineError Unit × Plot τ :=
  match p.chat with
  | some c => Plot.play c p.world x
  | none => (.ok (), p)

/-- What a user has written, without the blanks around it. -/
def said (e : Inbound) : String := String.ofList (Text.trim e.text.toList)

/-- The chat that a deed is for, if it is for one and this chat does something. -/
def Deed.chat? : Deed → Option String
  | .receive e => some e.chat
  | .note n => some n.chat
  | .announce key _ => some key
  | _ => none

section

variable [Transport τ]

/-- The world after the press of a button was answered, if one was pressed. -/
def answered (press : Option String) (w : World τ) : World τ :=
  match press with
  | none => w
  | some p => (World.post (.answer p) w).2

/-- The press that is answered before anything else is done. -/
def Deed.press? : Deed → Option String
  | .receive e => e.press
  | _ => none

/-- A plot after the press of a button was answered. -/
def Plot.answered (press : Option String) (p : Plot τ) : Plot τ :=
  { p with world := Bot.answered press p.world }

theorem disk_answered (press : Option String) (w : World τ) : (answered press w).disk = w.disk := by
  cases press <;> rfl

/-- What a deed does to a plot. -/
def Deed.deal (g : Setting) : Deed → Plot τ → Except EngineError Unit × Plot τ
  | .receive e, p =>
    let text := String.ofList (Text.trim e.text.toList)
    let w := answered e.press p.world
    if text.isEmpty then (.ok (), { p with world := w })
    else
      match p.chat with
      | some c => Plot.play c w (respond g text)
      | none =>
        match (Chat.create g e.chat (referral? text)).run w with
        | (.ok c, w) => Plot.play c w (welcome g text e.sender)
        | (.error err, w) => (.error err, ⟨none, w⟩)
  | .note n, p =>
    match p.chat with
    | some c => Plot.play c p.world (Chat.handleNote g n)
    | none => (.ok (), p)
  | .announce _ step, p =>
    match p.chat with
    | some c => Plot.play c p.world (Chat.goTo g step)
    | none => (.ok (), p)
  | _, p => (.ok (), p)

omit [Transport τ] in
/-- What is done in the world leaves the bot alone. -/
theorem onWorld_run {α : Type} (action : WorldAction τ α) (s : Stage τ) :
    (onWorld action).run s
      = ((action.run s.world).1, { s with world := (action.run s.world).2 }) := rfl

omit [Transport τ] in
theorem onChat_place (key : String) (c : Chat) (w : World τ) (x : ChatAction τ Unit)
    (s : Stage τ) :
    (onChat key c x).run { s with world := w }
      = ((Plot.play c w x).1, place s key (Plot.play c w x).2) := rfl

omit [Transport τ] in
/-- To place what is there changes nothing. -/
theorem place_plot {s : Stage τ} (hs : Keyed.IsSorted s.bot.chats) (key : String) (w : World τ) :
    place s key { plot s key with world := w } = { s with world := w } := by
  rw [place, plot]
  cases hc : s.bot.chat? key with
  | none => rfl
  | some c => exact put_of_chat? (s := { s with world := w }) hs hc

/-- **What a deed does to a bot** is what it does to the chat that it is for. -/
theorem act_run {g : Setting} {s : Stage τ} (hs : Keyed.IsSorted s.bot.chats)
    (hg : s.bot.setting = g) {d : Deed} {key : String} (hd : d.chat? = some key) :
    d.act.run s = ((d.deal g (plot s key)).1, place s key (d.deal g (plot s key)).2) := by
  have hplace := place_plot hs key
  cases d with
  | receive e =>
    cases hd
    have hanswer : (answerPress e.press).run s
        = (.ok (), { s with world := answered e.press s.world }) := by
      cases e.press <;> rfl
    rw [Deed.act, handle, Action.run_bind_ok hanswer, Deed.deal]
    generalize String.ofList (Text.trim e.text.toList) = text
    dsimp only
    split
    · rw [hplace]
      rfl
    · rw [Action.run_get_bind, hg, plot]
      dsimp only
      cases s.bot.chat? e.chat with
      | some c => exact onChat_place e.chat c _ _ s
      | none =>
        dsimp only
        rw [Action.run_bind, onWorld_run]
        rcases (Chat.create g e.chat (referral? text)).run (answered e.press s.world)
          with ⟨_ | c, w⟩
        · rfl
        · exact onChat_place e.chat c w _ s
  | note n =>
    cases hd
    rw [Deed.act, handleNote_run, Deed.deal, plot]
    cases hc : s.bot.chat? n.chat with
    | some c =>
      rw [hg]
      exact onChat_place n.chat c s.world _ s
    | none =>
      have hnone := hplace s.world
      rw [plot, hc] at hnone
      exact Prod.ext rfl hnone.symm
  | announce k step =>
    cases hd
    rw [Deed.act, Action.run_get_bind, Deed.deal, plot]
    dsimp only
    cases hc : s.bot.chat? key with
    | some c =>
      rw [hg]
      exact onChat_place key c s.world _ s
    | none =>
      have hnone := hplace s.world
      rw [plot, hc] at hnone
      exact Prod.ext rfl hnone.symm
  | _ => cases hd

/-- A note is handled by its chat, if it is there. -/
theorem deal_note (g : Setting) (n : Elapsed) (p : Plot τ) :
    (Deed.note n).deal g p = p.visit (Chat.handleNote g n) := rfl

/-- A chat goes to a step that was announced, if it is there. -/
theorem deal_announce (g : Setting) (key step : String) (p : Plot τ) :
    (Deed.announce key step).deal g p = p.visit (Chat.goTo g step) := rfl

/-- What is blank does nothing. -/
theorem deal_of_blank (g : Setting) {e : Inbound} (he : Text.trim e.text.toList = []) (p : Plot τ) :
    (Deed.receive e).deal g p = (.ok (), p.answered e.press) := by
  rw [Deed.deal, he]
  rfl

/-- What is not blank is answered by the chat that it is for, ... -/
theorem deal_of_known (g : Setting) {e : Inbound} (he : Text.trim e.text.toList ≠ []) (c : Chat)
    (w : World τ) :
    (Deed.receive e).deal g ⟨some c, w⟩
      = Plot.play c (answered e.press w) (respond g (said e)) := by
  have htext : ¬(said e).isEmpty = true := by simpa [said] using he
  rw [Deed.deal]
  exact if_neg htext

/-- ... or by a new one. -/
theorem deal_of_unseen (g : Setting) {e : Inbound} (he : Text.trim e.text.toList ≠ [])
    (w : World τ) :
    (Deed.receive e).deal g ⟨none, w⟩
      = match (Chat.create g e.chat (referral? (said e))).run (answered e.press w) with
        | (.ok c, w) => Plot.play c w (welcome g (said e) e.sender)
        | (.error err, w) => (.error err, ⟨none, w⟩) := by
  have htext : ¬(said e).isEmpty = true := by simpa [said] using he
  rw [Deed.deal]
  exact if_neg htext

/-- If the store did not fail, a new chat could be made. -/
theorem not_storeFailed_create (g : Setting) {e : Inbound} (he : Text.trim e.text.toList ≠ [])
    {w : World τ} (h : ¬StoreFailed ((Deed.receive e).deal g ⟨none, w⟩).1) :
    ¬StoreFailed ((Chat.create g e.chat (referral? (said e))).run (answered e.press w)).1 := by
  rintro ⟨err, herr⟩
  refine h ⟨err, ?_⟩
  rw [deal_of_unseen g he, ← Prod.mk.eta (p := (Chat.create g e.chat _).run _), herr]

/-- A chat that is there stays there. -/
theorem isSome_chat_deal (g : Setting) (d : Deed) {p : Plot τ} (hp : p.chat.isSome) :
    (d.deal g p).2.chat.isSome := by
  obtain ⟨_ | c, w⟩ := p
  · cases hp
  cases d with
  | receive e =>
    rw [Deed.deal]
    generalize String.ofList (Text.trim e.text.toList) = text
    dsimp only
    split <;> rfl
  | _ => rfl

/-- What a deed leaves of the chat that it is for, and of all others. -/
theorem chat?_act {g : Setting} {s : Stage τ} (hs : Keyed.IsSorted s.bot.chats)
    (hg : s.bot.setting = g) {d : Deed} {key : String} (hd : d.chat? = some key) (k : String) :
    (d.act.run s).2.bot.chat? k
      = if k = key then (d.deal g (plot s key)).2.chat else s.bot.chat? k := by
  rw [act_run hs hg hd]
  have hstays := isSome_chat_deal g d (p := plot s key)
  generalize d.deal g (plot s key) = p at hstays ⊢
  obtain ⟨r, _ | c, w⟩ := p
  · -- There was no chat, and there is none now.
    show s.bot.chat? k = if k = key then none else s.bot.chat? k
    split
    · rename_i hk
      rw [hk, ← Option.not_isSome_iff_eq_none]
      intro hsome
      cases hstays hsome
    · rfl
  · exact chat?_put s key k ⟨c, w⟩

/-- The world after a deed for one chat. -/
theorem world_act {g : Setting} {s : Stage τ} (hs : Keyed.IsSorted s.bot.chats)
    (hg : s.bot.setting = g) {d : Deed} {key : String} (hd : d.chat? = some key) :
    (d.act.run s).2.world = (d.deal g (plot s key)).2.world := by
  rw [act_run hs hg hd]
  rcases d.deal g (plot s key) with ⟨r, _ | c, w⟩ <;> rfl

/-- The plot that a deed has worked on. -/
theorem plot_act {g : Setting} {s : Stage τ} (hs : Keyed.IsSorted s.bot.chats)
    (hg : s.bot.setting = g) {d : Deed} {key : String} (hd : d.chat? = some key) :
    plot (d.act.run s).2 key = (d.deal g (plot s key)).2 := by
  rw [plot, chat?_act hs hg hd, if_pos rfl, world_act hs hg hd]

/-- A deed for one chat leaves the notes that wait. -/
theorem queue_act {g : Setting} {s : Stage τ} (hs : Keyed.IsSorted s.bot.chats)
    (hg : s.bot.setting = g) {d : Deed} {key : String} (hd : d.chat? = some key) :
    (d.act.run s).2.bot.queue = s.bot.queue := by
  rw [act_run hs hg hd]
  rcases d.deal g (plot s key) with ⟨r, _ | c, w⟩ <;> rfl

end

/-! ## Deeds that are for no chat -/

section

/-- A chat after the stopwatch of one of its timers has rung, if it was set, and the note that is
left then. -/
def ringAt (slot : Nat) (c : Chat) : Chat × List Elapsed :=
  match c.timers[slot]? with
  | some t =>
    if t.watch.alarm.isNone then (c, [])
    else
      ({ c with timers := c.timers.set slot { t with watch := t.watch.ring } }, [c.note slot])
  | none => (c, [])

/-- The note that is left then is of a timer of this chat. -/
theorem mem_ringAt {slot : Nat} {c : Chat} {n : Elapsed} (h : n ∈ (ringAt slot c).2) :
    n = c.note slot ∧ slot < c.timers.length := by
  rw [ringAt] at h
  split at h
  · rename_i x hx
    split at h
    · cases h
    · exact ⟨List.mem_singleton.mp h, (List.getElem?_eq_some_iff.mp hx).1⟩
  · cases h

theorem chat_of_mem_ringAt {slot : Nat} {c : Chat} {n : Elapsed} (h : n ∈ (ringAt slot c).2) :
    n.chat = c.id := congrArg Elapsed.chat (mem_ringAt h).1

/-- What a stopwatch that rings does to a bot. -/
theorem ringOne_eq {b : Bot} (hb : Keyed.IsSorted b.chats) (key : String) (slot : Nat) :
    b.ringOne key slot
      = match b.chat? key with
        | some c =>
          { b.withChat key (ringAt slot c).1 with queue := b.queue ++ (ringAt slot c).2 }
        | none => b := by
  rw [ringOne]
  cases hc : b.chat? key with
  | none => rfl
  | some c =>
    have hsame : b = { b.withChat key c with queue := b.queue ++ [] } := by
      rw [withChat, Keyed.insert_of_find? hb hc, List.append_nil]
    dsimp only
    rw [ringAt]
    cases c.timers[slot]? with
    | none => exact hsame
    | some t =>
      dsimp only
      split
      · exact hsame
      · rfl

theorem chat?_ringOne {b : Bot} (hb : Keyed.IsSorted b.chats) (key : String) (slot : Nat)
    (k : String) :
    (b.ringOne key slot).chat? k
      = if k = key then (b.chat? key).map fun c => (ringAt slot c).1 else b.chat? k := by
  rw [ringOne_eq hb]
  cases hc : b.chat? key with
  | some c => exact Keyed.find?_insert key k (ringAt slot c).1 b.chats
  | none =>
    dsimp only
    split
    · rename_i hk
      rw [hk, hc]
      rfl
    · rfl

theorem chat?_ringAll (b : Bot) (now : Int) (k : String) :
    (b.ringAll now).chat? k = (b.chat? k).map fun c => c.ring now :=
  Keyed.find?_map (fun (_ : String) (c : Chat) => c.ring now) k b.chats

end

/-! ## Deeds side by side -/

variable {g : Setting} {smooth : Prop} {W R : Scene τ → Scene υ → Prop}
  {N : World τ → World υ → Prop}

/-- Two plots are related: each has a chat, and their scenes are, or neither has one, and their
worlds are. -/
def Plot.Related (R : Scene τ → Scene υ → Prop) (N : World τ → World υ → Prop) (p : Plot τ)
    (p' : Plot υ) : Prop :=
  match p.chat, p'.chat with
  | some c, some c' => R ⟨c, p.world⟩ ⟨c', p'.world⟩
  | none, none => N p.world p'.world
  | _, _ => False

/-- What is to be shown so that deeds for the chat under a key keep plots related, once a press was
answered. -/
structure IsPlotCourse (g : Setting) [Transport τ] [Transport υ] (smooth : Prop) (key : String)
    (W R : Scene τ → Scene υ → Prop) (N : World τ → World υ → Prop) : Prop where
  course : Chat.IsPairCourse g smooth W R
  create : ∀ {w w'} (ref : Option String), N w w' →
    (smooth → ¬StoreFailed ((Chat.create g key ref).run w).1
      ∧ ¬StoreFailed ((Chat.create g key ref).run w').1) →
    (∃ c v v', (Chat.create g key ref).run w = (.ok c, v)
        ∧ (Chat.create g key ref).run w' = (.ok c, v') ∧ R ⟨c, v⟩ ⟨c, v'⟩)
      ∨ ¬smooth ∧ ∃ e v v', (Chat.create g key ref).run w = (.error e, v)
        ∧ (Chat.create g key ref).run w' = (.error e, v') ∧ N v v'

/-- What chats that are there do keeps plots related. -/
theorem Plot.agree_play {c c' : Chat} {w : World τ} {w' : World υ} {x : ChatAction τ Unit}
    {y : ChatAction υ Unit} (h : Agree smooth R (x.run ⟨c, w⟩) (y.run ⟨c', w'⟩)) :
    Agree smooth (Plot.Related R N) (Plot.play c w x) (Plot.play c' w' y) := h

/-- So does what they do if they are there. -/
theorem Plot.agree_visit {p : Plot τ} {p' : Plot υ} {x : ChatAction τ Unit} {y : ChatAction υ Unit}
    (hp : Plot.Related R N p p') (h : Pair smooth R x y R) :
    Agree smooth (Plot.Related R N) (p.visit x) (p'.visit y) := by
  obtain ⟨_ | c, w⟩ := p
  · obtain ⟨_ | c', w'⟩ := p'
    · exact Agree.ok () hp
    · exact hp.elim
  · obtain ⟨_ | c', w'⟩ := p'
    · exact hp.elim
    · exact Plot.agree_play (h _ _ hp)

variable [Transport τ] [Transport υ]

/-- What comes in keeps plots related, if they are so after its press was answered. -/
theorem IsPlotCourse.receive {e : Inbound} (h : IsPlotCourse g smooth e.chat W R N) {p : Plot τ}
    {p' : Plot υ} (hp : Plot.Related R N (p.answered e.press) (p'.answered e.press)) :
    Agree smooth (Plot.Related R N) ((Deed.receive e).deal g p) ((Deed.receive e).deal g p') := by
  obtain ⟨c, w⟩ := p
  obtain ⟨c', w'⟩ := p'
  by_cases he : Text.trim e.text.toList = []
  · rw [deal_of_blank g he, deal_of_blank g he]
    exact Agree.ok () hp
  cases c with
  | some c =>
    cases c' with
    | none => exact hp.elim
    | some c' =>
      rw [deal_of_known g he, deal_of_known g he]
      exact Plot.agree_play (h.course.respond (said e) _ _ hp)
  | none =>
    cases c' with
    | some c' => exact hp.elim
    | none =>
      have hworld : N (Bot.answered e.press w) (Bot.answered e.press w') := hp
      -- A chat that could not be made has ended the deed already.
      intro hno
      have hcreated := h.create (referral? (said e)) hworld fun hsmooth =>
        ⟨not_storeFailed_create g he (hno hsmooth).1, not_storeFailed_create g he (hno hsmooth).2⟩
      revert hno
      rw [deal_of_unseen g he, deal_of_unseen g he]
      rcases hcreated with ⟨c, v, v', hv, hv', hrel⟩ | ⟨hrough, err, v, v', hv, hv', hrel⟩
      · rw [hv, hv']
        exact Plot.agree_play (h.course.welcome (said e) e.sender _ _ hrel)
      · rw [hv, hv']
        exact fun _ => ⟨rfl, fun hsmooth => absurd hsmooth hrough, hrel⟩

/-- **A deed for one chat keeps plots related**, if they are so after its press was answered. -/
theorem IsPlotCourse.deal {key : String} (h : IsPlotCourse g smooth key W R N) {d : Deed}
    (hd : d.chat? = some key) {p : Plot τ} {p' : Plot υ}
    (hp : Plot.Related R N (p.answered d.press?) (p'.answered d.press?)) :
    Agree smooth (Plot.Related R N) (d.deal g p) (d.deal g p') := by
  cases d with
  | receive e =>
    cases hd
    exact h.receive hp
  | note n =>
    rw [deal_note, deal_note]
    exact Plot.agree_visit hp (h.course.handleNote n)
  | announce k step =>
    rw [deal_announce, deal_announce]
    exact Plot.agree_visit hp (h.course.goTo step)
  | _ => cases hd

/-! ## Rows of deeds side by side -/

omit [Transport υ] in
/-- How the deeds of a row end. -/
def outcomes : List Deed → Stage τ → List (Except EngineError Unit)
  | [], _ => []
  | d :: ds, s => (d.act.run s).1 :: outcomes ds (d.act.run s).2

/-- What every deed keeps is kept by every row of them. -/
theorem pair_after {Q : Stage τ → Stage υ → Prop}
    (hQ : ∀ d : Deed, Pair smooth Q (d.act : BotAction τ Unit) (d.act : BotAction υ Unit) Q)
    {s : Stage τ} {t : Stage υ} (hst : Q s t) (ds : List Deed)
    (hno : smooth → (∀ r ∈ outcomes ds s, ¬StoreFailed r) ∧ ∀ r ∈ outcomes ds t, ¬StoreFailed r) :
    outcomes ds s = outcomes ds t ∧ (smooth → ∀ r ∈ outcomes ds s, r = .ok ())
      ∧ Q (after ds s) (after ds t) := by
  induction ds generalizing s t with
  | nil => exact ⟨rfl, fun _ r hr => (by cases hr), hst⟩
  | cons d ds ih =>
    obtain ⟨hsame, hok, hnext⟩ := hQ d s t hst fun hsmooth =>
      ⟨(hno hsmooth).1 _ (List.mem_cons_self ..), (hno hsmooth).2 _ (List.mem_cons_self ..)⟩
    obtain ⟨hsames, hoks, hlast⟩ := ih hnext fun hsmooth =>
      ⟨fun r hr => (hno hsmooth).1 r (List.mem_cons_of_mem _ hr),
        fun r hr => (hno hsmooth).2 r (List.mem_cons_of_mem _ hr)⟩
    refine ⟨congrArg₂ List.cons hsame hsames, fun hsmooth r hr => ?_, hlast⟩
    rcases List.mem_cons.mp hr with rfl | hr
    · exact (hok hsmooth).elim fun _ ha => ha
    · exact hoks hsmooth r hr

end Bot
end ScriptedChat
