import ScriptedChat.Proofs.Chat.Going

/-!
# Chats side by side

Some facts are about two runs: what one chat does is compared with what the same chat does when
something else is different, such as the transport, or what others do meanwhile.  Then the states
of the two runs are related, and every action takes related states to related ones, with the same
result (`Pair`).

Other facts are about one run, but hold only as long as the store does its part.  They are of the
same kind: the state of the run is related to itself (`Diag`).

So a comparison may be *smooth*: then nothing is said of actions that ended with a failure of
the store, and all others succeed.

## Two relations

A relation may be lost for a moment, while a chat has changed and has not been kept yet.  So there
is a weaker one that holds all the time, and to keep the chat restores the stronger one
(`Chat.IsPairCourse`).  As in `Chat.IsCourse`, what is to be shown is about the small steps, and it
follows for every action.  If messages fare the same in both runs, the steps are smaller still
(`Chat.IsEvenCourse`), and if there is one run only, they are about this one (`Chat.IsSoloCourse`).

* `Agree`, `Pair`, `Pair.bind`: actions side by side.
* `Chat.IsPairCourse`, `Chat.IsEvenCourse`, `Chat.IsSoloCourse`: what is to be shown of the small
  steps.
* `Chat.IsPairCourse.respond`, `welcome`, `goTo`, `handleNote`: what follows.
-/

namespace ScriptedChat

/-- What was done has ended with a failure of the store. -/
def StoreFailed {α : Type} (r : Except EngineError α) : Prop := ∃ e, r = .error (.store e)

/-- What was done has not failed. -/
def Succeeded {α : Type} (r : Except EngineError α) : Prop := ∃ a, r = .ok a

section

variable {σ σ' α β : Type}

/-- Two runs have come to the same result and to related states.  If the comparison is smooth, this
is said only of runs without a failure of the store, and then they have succeeded. -/
def Agree (smooth : Prop) (Q : σ → σ' → Prop) (p : Except EngineError α × σ)
    (p' : Except EngineError α × σ') : Prop :=
  (smooth → ¬StoreFailed p.1 ∧ ¬StoreFailed p'.1) →
    p.1 = p'.1 ∧ (smooth → Succeeded p.1) ∧ Q p.2 p'.2

/-- Two actions agree wherever their states are related by `P`. -/
def Pair (smooth : Prop) (P : σ → σ' → Prop) (x : ExceptT EngineError (StateM σ) α)
    (y : ExceptT EngineError (StateM σ') α) (Q : σ → σ' → Prop) : Prop :=
  ∀ s t, P s t → Agree smooth Q (x.run s) (y.run t)

/-- What holds of one run is said by a relation of a state to itself. -/
def Diag (I : σ → Prop) (s t : σ) : Prop := s = t ∧ I s

variable {smooth : Prop} {P Q S : σ → σ' → Prop}

theorem Agree.ok (a : α) {s : σ} {t : σ'} (h : Q s t) : Agree smooth Q (.ok a, s) (.ok a, t) :=
  fun _ => ⟨rfl, fun _ => ⟨a, rfl⟩, h⟩

theorem Agree.imp {p : Except EngineError α × σ} {p' : Except EngineError α × σ'}
    (h : Agree smooth Q p p') (hQ : ∀ {s t}, Q s t → S s t) : Agree smooth S p p' := fun hno =>
  have ⟨hsame, hok, hrel⟩ := h hno
  ⟨hsame, hok, hQ hrel⟩

/-- What is made of related states afterwards. -/
theorem Agree.map {ρ ρ' : Type} {f : σ → ρ} {f' : σ' → ρ'} {S : ρ → ρ' → Prop}
    {p : Except EngineError α × σ} {p' : Except EngineError α × σ'} (h : Agree smooth Q p p')
    (hf : ∀ {s t}, Q s t → S (f s) (f' t)) : Agree smooth S (p.1, f p.2) (p'.1, f' p'.2) :=
  fun hno =>
    have ⟨hsame, hok, hrel⟩ := h hno
    ⟨hsame, hok, hf hrel⟩

/-- One action after the other.  If the first one fails, the second relation has to hold there
already, unless the comparison is smooth. -/
theorem Agree.bind {x : ExceptT EngineError (StateM σ) α} {y : ExceptT EngineError (StateM σ') α}
    {f : α → ExceptT EngineError (StateM σ) β} {f' : α → ExceptT EngineError (StateM σ') β}
    {s : σ} {t : σ'} (h : Agree smooth Q (x.run s) (y.run t))
    (hQ : ¬smooth → ∀ {s t}, Q s t → S s t) (hf : ∀ a, Pair smooth Q (f a) (f' a) S) :
    Agree smooth S ((x >>= f).run s) ((y >>= f').run t) := by
  rw [Action.run_bind, Action.run_bind]
  generalize x.run s = p at h ⊢
  generalize y.run t = p' at h ⊢
  obtain ⟨r, s'⟩ := p
  obtain ⟨r', t'⟩ := p'
  intro hno
  have hfirst : smooth → ¬StoreFailed r ∧ ¬StoreFailed r' := by
    intro hsmooth
    obtain ⟨hleft, hright⟩ := hno hsmooth
    refine ⟨?_, ?_⟩
    · rintro ⟨e, rfl⟩
      exact hleft ⟨e, rfl⟩
    · rintro ⟨e, rfl⟩
      exact hright ⟨e, rfl⟩
  obtain ⟨hsame, hok, hrel⟩ := h hfirst
  dsimp only at hsame hok hrel
  subst hsame
  cases r with
  | ok a => exact hf a s' t' hrel hno
  | error e =>
    have hrough : ¬smooth := fun hsmooth => by
      obtain ⟨a, ha⟩ := hok hsmooth
      cases ha
    exact ⟨rfl, fun hsmooth => absurd hsmooth hrough, hQ hrough hrel⟩

theorem Pair.bind {x : ExceptT EngineError (StateM σ) α} {y : ExceptT EngineError (StateM σ') α}
    {f : α → ExceptT EngineError (StateM σ) β} {f' : α → ExceptT EngineError (StateM σ') β}
    (h : Pair smooth P x y Q) (hQ : ¬smooth → ∀ {s t}, Q s t → S s t)
    (hf : ∀ a, Pair smooth Q (f a) (f' a) S) : Pair smooth P (x >>= f) (y >>= f') S :=
  fun s t hst => (h s t hst).bind hQ hf

/-- One action after the other, if the second one keeps the relation. -/
theorem Pair.next {x : ExceptT EngineError (StateM σ) α} {y : ExceptT EngineError (StateM σ') α}
    {f : α → ExceptT EngineError (StateM σ) β} {f' : α → ExceptT EngineError (StateM σ') β}
    (h : Pair smooth P x y Q) (hf : ∀ a, Pair smooth Q (f a) (f' a) Q) :
    Pair smooth P (x >>= f) (y >>= f') Q := h.bind (fun _ _ _ hst => hst) hf

theorem Pair.pure (a : α) :
    Pair smooth P (Pure.pure a : ExceptT EngineError (StateM σ) α)
      (Pure.pure a : ExceptT EngineError (StateM σ') α) P :=
  fun _ _ hst => Agree.ok a hst

/-- An action that keeps something of its state, side by side with itself. -/
theorem Pair.diag {I J : σ → Prop} {x : ExceptT EngineError (StateM σ) α}
    (h : ∀ s, I s → (smooth → ¬StoreFailed (x.run s).1) →
      (smooth → Succeeded (x.run s).1) ∧ J (x.run s).2) :
    Pair smooth (Diag I) x x (Diag J) := by
  rintro s t ⟨rfl, hs⟩ hno
  obtain ⟨hok, hJ⟩ := h s hs fun hsmooth => (hno hsmooth).1
  exact ⟨rfl, hok, rfl, hJ⟩

end

namespace Chat

variable {τ υ α β : Type}

/-! ## Courses of two runs -/

/-- What is to be shown of the small steps.  The weaker relation holds at any time, and the
stronger one when the chat has been kept. -/
structure IsPairCourse (g : Setting) [Transport τ] [Transport υ] (smooth : Prop)
    (W R : Scene τ → Scene υ → Prop) : Prop where
  weaken : ∀ {s t}, R s t → W s t
  settle : ¬smooth → ∀ {s t}, W s t → R s t
  step : ∀ {s t}, R s t → t.chat.stepId = s.chat.stepId
  ref : ∀ {s t}, R s t → t.chat.refId = s.chat.refId
  save : Pair smooth W (Chat.save g) (Chat.save g) R
  writeLog : ∀ text, Pair smooth R (Chat.writeLog g text) (Chat.writeLog g text) R
  send : ∀ text buttons, Pair smooth R (Chat.send g text buttons) (Chat.send g text buttons) R
  sendWeak : ∀ text buttons, Pair smooth W (Chat.send g text buttons) (Chat.send g text buttons) W
  markReachable : Pair smooth R (Chat.markReachable g) (Chat.markReachable g) R
  setRef : ∀ {s t} (code : String), R s t →
    W { s with chat := { s.chat with refId := some code } }
      { t with chat := { t.chat with refId := some code } }
  enterStep : ∀ {s t id step}, g.scenario.step? id = some step → W s t →
    W (Chat.enterStep step s) (Chat.enterStep step t)
  take : ∀ {s t} (n : Elapsed), R s t →
    s.chat.awaited? n = none ∧ t.chat.awaited? n = none
      ∨ ∃ x y, s.chat.awaited? n = some x ∧ t.chat.awaited? n = some y ∧ y.action = x.action
          ∧ W { s with chat := markHandled n.slot x s.chat }
              { t with chat := markHandled n.slot y t.chat }

/-- What is to be shown if messages fare the same in both runs. -/
structure IsEvenCourse (g : Setting) [Transport τ] [Transport υ] (smooth : Prop)
    (W R : Scene τ → Scene υ → Prop) : Prop where
  weaken : ∀ {s t}, R s t → W s t
  settle : ¬smooth → ∀ {s t}, W s t → R s t
  step : ∀ {s t}, R s t → t.chat.stepId = s.chat.stepId
  ref : ∀ {s t}, R s t → t.chat.refId = s.chat.refId
  active : ∀ {s t}, W s t → t.chat.active = s.chat.active
  save : Pair smooth W (Chat.save g) (Chat.save g) R
  writeLog : ∀ text, Pair smooth R (Chat.writeLog g text) (Chat.writeLog g text) R
  post : ∀ {P}, P = W ∨ P = R → ∀ {s t} (text : String) (buttons : Option (List String)), P s t →
    ∃ r w w', World.post (.message s.chat.id text buttons) s.world = (r, w)
      ∧ World.post (.message t.chat.id text buttons) t.world = (r, w')
      ∧ P { s with world := w } { t with world := w' }
  setActive : ∀ {s t} (b : Bool), W s t →
    W { s with chat := { s.chat with active := b } } { t with chat := { t.chat with active := b } }
  setRef : ∀ {s t} (code : String), R s t →
    W { s with chat := { s.chat with refId := some code } }
      { t with chat := { t.chat with refId := some code } }
  enterStep : ∀ {s t id step}, g.scenario.step? id = some step → W s t →
    W (Chat.enterStep step s) (Chat.enterStep step t)
  take : ∀ {s t} (n : Elapsed), R s t →
    s.chat.awaited? n = none ∧ t.chat.awaited? n = none
      ∨ ∃ x y, s.chat.awaited? n = some x ∧ t.chat.awaited? n = some y ∧ y.action = x.action
          ∧ W { s with chat := markHandled n.slot x s.chat }
              { t with chat := markHandled n.slot y t.chat }

namespace IsEvenCourse

variable {g : Setting} [Transport τ] [Transport υ] {smooth : Prop} {W R : Scene τ → Scene υ → Prop}
  (h : IsEvenCourse g smooth W R)
include h

/-- A message fares the same in both runs, and the chats that are told so are kept. -/
theorem send {P : Scene τ → Scene υ → Prop} (hP : P = W ∨ P = R) (text : String)
    (buttons : Option (List String)) :
    Pair smooth P (Chat.send g text buttons) (Chat.send g text buttons) P := by
  have hweak : ∀ {s t}, P s t → W s t := by
    rcases hP with rfl | rfl
    · exact fun hst => hst
    · exact h.weaken
  have hstrong : ∀ {s t}, R s t → P s t := by
    rcases hP with rfl | rfl
    · exact h.weaken
    · exact fun hst => hst
  intro s t hst
  obtain ⟨r, w, w', hs, ht, hpost⟩ := h.post hP text buttons hst
  rw [send_run, send_run, hs, ht, h.active (hweak hst)]
  cases r with
  | ok _ => exact Agree.ok () hpost
  | error e =>
    dsimp only
    split
    · exact (h.save _ _ (h.setActive false (hweak hpost))).imp hstrong
    · exact Agree.ok () hpost

theorem isPairCourse : IsPairCourse g smooth W R where
  weaken := h.weaken
  settle := h.settle
  step := h.step
  ref := h.ref
  save := h.save
  writeLog := h.writeLog
  send := h.send (Or.inr rfl)
  sendWeak := h.send (Or.inl rfl)
  markReachable := by
    intro s t hst
    rw [markReachable_run, markReachable_run, h.active (h.weaken hst)]
    split
    · exact Agree.ok () hst
    · exact h.save _ _ (h.setActive true (h.weaken hst))
  setRef := h.setRef
  enterStep := h.enterStep
  take := h.take

end IsEvenCourse

/-- What is to be shown if there is one run only, for something that holds at any time and
something that holds when the chat has been kept. -/
structure IsSoloCourse (g : Setting) [Transport τ] (smooth : Prop) (I J : Scene τ → Prop) :
    Prop where
  weaken : ∀ {s}, J s → I s
  settle : ¬smooth → ∀ {s}, I s → J s
  save : ∀ {s}, I s → (smooth → ¬StoreFailed ((Chat.save g).run s).1) →
    (smooth → Succeeded ((Chat.save g).run s).1) ∧ J ((Chat.save g).run s).2
  writeLog : ∀ {s} (text : String), J s → (smooth → ¬StoreFailed ((Chat.writeLog g text).run s).1) →
    (smooth → Succeeded ((Chat.writeLog g text).run s).1) ∧ J ((Chat.writeLog g text).run s).2
  post : ∀ {K}, K = I ∨ K = J → ∀ {s} (text : String) (buttons : Option (List String)), K s →
    K { s with world := (World.post (.message s.chat.id text buttons) s.world).2 }
  setActive : ∀ {s} (b : Bool), I s → I { s with chat := { s.chat with active := b } }
  setRef : ∀ {s} (code : String), I s → I { s with chat := { s.chat with refId := some code } }
  enterStep : ∀ {s id step}, g.scenario.step? id = some step → I s → I (Chat.enterStep step s)
  take : ∀ {s} {n : Elapsed} {x : ActionTimer}, s.chat.awaited? n = some x → I s →
    I { s with chat := markHandled n.slot x s.chat }

theorem IsSoloCourse.isPairCourse {g : Setting} [Transport τ] {smooth : Prop}
    {I J : Scene τ → Prop} (h : IsSoloCourse g smooth I J) :
    IsPairCourse g smooth (Diag I) (Diag J) := by
  refine IsEvenCourse.isPairCourse
    { weaken := fun ⟨hst, hs⟩ => ⟨hst, h.weaken hs⟩
      settle := fun hsmooth _ _ ⟨hst, hs⟩ => ⟨hst, h.settle hsmooth hs⟩
      step := fun ⟨hst, _⟩ => hst ▸ rfl
      ref := fun ⟨hst, _⟩ => hst ▸ rfl
      active := fun ⟨hst, _⟩ => hst ▸ rfl
      save := Pair.diag fun _ => h.save
      writeLog := fun text => Pair.diag fun _ => h.writeLog text
      post := ?_
      setActive := ?_
      setRef := ?_
      enterStep := ?_
      take := ?_ }
  · rintro P hP s t text buttons hst
    have hdiag : ∃ K, (K = I ∨ K = J) ∧ P = Diag K :=
      hP.elim (fun h => ⟨I, Or.inl rfl, h⟩) (fun h => ⟨J, Or.inr rfl, h⟩)
    obtain ⟨K, hK, rfl⟩ := hdiag
    obtain ⟨rfl, hs⟩ := hst
    exact ⟨_, _, _, rfl, rfl, rfl, h.post hK text buttons hs⟩
  · rintro s t b ⟨rfl, hs⟩
    exact ⟨rfl, h.setActive b hs⟩
  · rintro s t code ⟨rfl, hs⟩
    exact ⟨rfl, h.setRef code (h.weaken hs)⟩
  · rintro s t id step hstep ⟨rfl, hs⟩
    exact ⟨rfl, h.enterStep hstep hs⟩
  · rintro s t n ⟨rfl, hs⟩
    cases hx : s.chat.awaited? n with
    | none => exact Or.inl ⟨rfl, rfl⟩
    | some x => exact Or.inr ⟨x, x, rfl, rfl, rfl, rfl, h.take hx (h.weaken hs)⟩

namespace IsPairCourse

variable {g : Setting} [Transport τ] [Transport υ] {smooth : Prop} {W R : Scene τ → Scene υ → Prop}
  (h : IsPairCourse g smooth W R)
include h

theorem step? {s : Scene τ} {t : Scene υ} (hst : R s t) :
    t.chat.step? g.scenario = s.chat.step? g.scenario ∧ t.chat.stepLabel = s.chat.stepLabel := by
  have hstep := h.step hst
  refine ⟨?_, ?_⟩
  · rw [Chat.step?, Chat.step?, stepLabel, stepLabel, hstep]
  · rw [stepLabel, stepLabel, hstep]

/-- To move to a step that there is restores the stronger relation. -/
theorem moveTo_of_some {id : String} {step : Step} (hstep : g.scenario.step? id = some step) :
    Pair smooth W (Chat.moveTo g id) (Chat.moveTo g id) R := by
  intro s t hst
  rw [Chat.moveTo, Chat.moveTo, hstep]
  dsimp only
  rw [Action.run_modify_bind, Action.run_modify_bind]
  exact (h.save _ _ (h.enterStep hstep hst)).bind (fun _ _ _ hst => hst) fun _ => Pair.pure true

theorem moveTo (id : String) : Pair smooth R (Chat.moveTo g id) (Chat.moveTo g id) R := by
  intro s t hst
  cases hstep : g.scenario.step? id with
  | none =>
    rw [moveTo_run_of_none hstep, moveTo_run_of_none hstep]
    exact Agree.ok false hst
  | some step => exact h.moveTo_of_some hstep s t (h.weaken hst)

theorem sendText (text : String) :
    Pair smooth R (Chat.sendText g text) (Chat.sendText g text) R := by
  rw [Chat.sendText, Chat.sendText]
  split
  · exact Pair.pure ()
  · exact h.send text none

theorem sendTextWeak (text : String) :
    Pair smooth W (Chat.sendText g text) (Chat.sendText g text) W := by
  rw [Chat.sendText, Chat.sendText]
  split
  · exact Pair.pure ()
  · exact h.sendWeak text none

theorem showStep : Pair smooth R (Chat.showStep g) (Chat.showStep g) R := by
  intro s t hst
  obtain ⟨hstep, hlabel⟩ := h.step? hst
  rw [Chat.showStep, Chat.showStep, Action.run_get_bind, Action.run_get_bind]
  dsimp only
  rw [hstep, hlabel]
  split
  · exact h.send _ _ s t hst
  · exact h.send _ _ s t hst

theorem goTo (id : String) : Pair smooth R (Chat.goTo g id) (Chat.goTo g id) R := by
  refine (h.moveTo id).next fun moved => ?_
  split
  · exact h.showStep
  · exact Pair.pure ()

theorem follow (r : Reference) : Pair smooth R (Chat.follow g r) (Chat.follow g r) R := by
  refine (h.sendText r.text).next fun _ => ?_
  split
  · exact h.goTo _
  · exact Pair.pure ()

theorem handleInput (text : String) :
    Pair smooth R (Chat.handleInput g text) (Chat.handleInput g text) R := by
  intro s t hst
  obtain ⟨hstep, hlabel⟩ := h.step? hst
  rw [Chat.handleInput, Chat.handleInput, Action.run_get_bind, Action.run_get_bind]
  dsimp only
  rw [hstep, hlabel]
  split
  · exact h.send _ _ s t hst
  split
  · exact h.send _ _ s t hst
  · exact h.follow _ s t hst

theorem runMenu (command : MenuCommand) :
    Pair smooth R (Chat.runMenu g command) (Chat.runMenu g command) R := by
  cases command with
  | restart => exact (h.moveTo _).next fun _ => h.showStep
  | status =>
    intro s t hst
    rw [Chat.runMenu, Chat.runMenu, Action.run_get_bind, Action.run_get_bind, h.ref hst]
    exact h.send _ _ s t hst
  | about => exact h.send _ _

theorem handleText (text : String) :
    Pair smooth R (Chat.handleText g text) (Chat.handleText g text) R := by
  rw [Chat.handleText, Chat.handleText]
  split
  · split
    · exact h.runMenu _
    · exact Pair.pure ()
  · exact h.handleInput text

/-- The action of a timer restores the stronger relation, whatever its target is. -/
theorem runAction (a : Action) : Pair smooth W (Chat.runAction g a) (Chat.runAction g a) R := by
  rw [Chat.runAction, Chat.runAction]
  cases hstep : a.reference.step.bind g.scenario.step? with
  | some step =>
    obtain ⟨id, -, hid⟩ := Option.bind_eq_some_iff.mp hstep
    have hself : g.scenario.step? step.id = some step := by rw [step?_id hid, hid]
    exact (h.sendTextWeak _).bind h.settle fun _ =>
      (h.moveTo_of_some hself).next fun _ => h.showStep
  | none => exact (h.sendWeak _ _).bind h.settle fun _ => h.save

theorem handleNote (n : Elapsed) :
    Pair smooth R (Chat.handleNote g n) (Chat.handleNote g n) R := by
  intro s t hst
  rw [handleNote_run, handleNote_run]
  rcases h.take n hst with ⟨hs, ht⟩ | ⟨x, y, hs, ht, haction, hmark⟩
  · rw [hs, ht]
    exact Agree.ok () hst
  · rw [hs, ht]
    dsimp only
    rw [haction]
    exact h.runAction x.action _ _ hmark

theorem applyRef (code : String) :
    Pair smooth R (Chat.applyRef g code) (Chat.applyRef g code) R := by
  rw [Chat.applyRef, Chat.applyRef]
  refine (h.writeLog _).next fun _ s t hst => ?_
  rw [Action.run_get_bind, Action.run_get_bind, h.ref hst]
  split
  · rw [run_update_bind, run_update_bind]
    exact h.save _ _ (h.setRef code hst)
  · exact Agree.ok () hst

/-! ## What a bot makes of it -/

theorem respond (text : String) : Pair smooth R (Bot.respond g text) (Bot.respond g text) R := by
  refine h.markReachable.next fun _ => ?_
  refine (h.writeLog text).next fun _ => ?_
  split
  · exact h.applyRef _
  · exact h.handleText text

theorem welcome (text : String) (sender : Sender) :
    Pair smooth R (Bot.welcome g text sender) (Bot.welcome g text sender) R :=
  (h.writeLog _).next fun _ =>
    (h.moveTo _).next fun _ => h.showStep

end IsPairCourse
end Chat
end ScriptedChat
