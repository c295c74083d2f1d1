import ScriptedChat.Proofs.Chat.Going

/-!
# What was refused for good

A transport changes with every request and with nothing else.  So what became of the requests
between two moments can be found out afterwards: they are asked again of the transport as it was
at the first moment (`World.answers`).

## Why activity is a matter of refusals

A chat that sends a message becomes inactive if this is refused for good, and is left as it is
otherwise.  Nothing else that a chat does makes a difference, except for being written in.  So
after some actions it is inactive if it was so before, or if one of its messages was refused in the
meantime (`Chat.Heeds`).  That is a relation that can be composed, and holds across sending, but
not across becoming active again; hence the weaker kind of course.

What is written in a chat makes it active first.  What follows is as if it had been so before
(`Chat.heeds_respond`).

* `Transport.answers`, `World.answers`, `Refused`: what became of requests.
* `World.Posted`: the requests between two worlds.
* `Chat.Heeds`, `Chat.isSendCourse_heeds`: what a chat makes of refusals.
* `Chat.heeds_respond`, `Chat.heeds_handleNote`: two actions that begin with something else.
-/

namespace ScriptedChat

variable {τ : Type}

/-! ## Answers -/

namespace Transport

variable [Transport τ]

/-- What becomes of some requests, one after the other. -/
def answers : List Request → τ → List (Request × Except DeliveryError Unit)
  | [], _ => []
  | q :: qs, t => (q, (Transport.post q t).1) :: answers qs (Transport.post q t).2

/-- The service after some requests. -/
def serve : List Request → τ → τ
  | [], t => t
  | q :: qs, t => serve qs (Transport.post q t).2

theorem answers_append (qs rs : List Request) (t : τ) :
    answers (qs ++ rs) t = answers qs t ++ answers rs (serve qs t) := by
  induction qs generalizing t with
  | nil => rfl
  | cons q qs ih => exact congrArg (_ :: ·) (ih _)

theorem serve_append (qs rs : List Request) (t : τ) :
    serve (qs ++ rs) t = serve rs (serve qs t) := by
  induction qs generalizing t with
  | nil => rfl
  | cons q qs ih => exact ih _

theorem map_fst_answers (qs : List Request) (t : τ) : (answers qs t).map Prod.fst = qs := by
  induction qs generalizing t with
  | nil => rfl
  | cons q qs ih => exact congrArg (q :: ·) (ih _)

end Transport

/-- Among some answers there is a refusal, for good, of a message to a chat. -/
def Refused (k : String) (answers : List (Request × Except DeliveryError Unit)) : Prop :=
  ∃ text buttons method description,
    (.message k text buttons, .error (.api method 403 description)) ∈ answers

theorem refused_append {k : String} {as bs : List (Request × Except DeliveryError Unit)} :
    Refused k (as ++ bs) ↔ Refused k as ∨ Refused k bs := by
  simp only [Refused, List.mem_append, exists_or]

/-- Only a code says that a recipient cannot be reached any more. -/
theorem DeliveryError.isUnreachable_iff {e : DeliveryError} :
    e.isUnreachable = true ↔ ∃ method description, e = .api method 403 description := by
  constructor
  · intro h
    cases e with
    | api method code description =>
      obtain rfl := beq_iff_eq.mp h
      exact ⟨method, description, rfl⟩
    | _ => cases h
  · rintro ⟨method, description, rfl⟩
    rfl

/-- An answer is such a refusal. -/
def isRefusal (k : String) : Request × Except DeliveryError Unit → Bool
  | (.message k' _ _, .error e) => k' == k && e.isUnreachable
  | _ => false

theorem isRefusal_iff {k : String} {a : Request × Except DeliveryError Unit} :
    isRefusal k a = true ↔ ∃ text buttons method description,
      (.message k text buttons, .error (.api method 403 description)) = a := by
  constructor
  · intro h
    unfold isRefusal at h
    split at h
    · rename_i k' text buttons e
      rw [Bool.and_eq_true, beq_iff_eq] at h
      obtain ⟨rfl, hunreachable⟩ := h
      obtain ⟨method, description, rfl⟩ := DeliveryError.isUnreachable_iff.mp hunreachable
      exact ⟨text, buttons, method, description, rfl⟩
    · cases h
  · rintro ⟨text, buttons, method, description, rfl⟩
    rw [isRefusal, beq_self_eq_true, Bool.true_and]
    rfl

theorem any_isRefusal_iff {k : String} {answers : List (Request × Except DeliveryError Unit)} :
    answers.any (isRefusal k) = true ↔ Refused k answers := by
  rw [List.any_eq_true]
  constructor
  · rintro ⟨a, ha, hrefusal⟩
    obtain ⟨text, buttons, method, description, rfl⟩ := isRefusal_iff.mp hrefusal
    exact ⟨text, buttons, method, description, ha⟩
  · rintro ⟨text, buttons, method, description, ha⟩
    exact ⟨_, ha, isRefusal_iff.mpr ⟨text, buttons, method, description, rfl⟩⟩

instance (k : String) (answers : List (Request × Except DeliveryError Unit)) :
    Decidable (Refused k answers) := decidable_of_iff _ any_isRefusal_iff

namespace World

/-! ## Requests -/

section

variable [Transport τ]

/-- What became of the requests between two worlds of a run. -/
def answers (w w' : World τ) : List (Request × Except DeliveryError Unit) :=
  Transport.answers (w'.outbox.drop w.outbox.length) w.transport

/-- Between two worlds some requests were posted. -/
structure Posted (qs : List Request) (w w' : World τ) : Prop where
  outbox : w'.outbox = w.outbox ++ qs
  transport : w'.transport = Transport.serve qs w.transport

namespace Posted

variable {qs rs : List Request} {w w' w'' : World τ}

theorem nil (houtbox : w'.outbox = w.outbox) (htransport : w'.transport = w.transport) :
    Posted [] w w' := ⟨houtbox.trans (List.append_nil _).symm, htransport⟩

theorem post (q : Request) (w : World τ) : Posted [q] w (World.post q w).2 := ⟨rfl, rfl⟩

theorem trans (h : Posted qs w w') (h' : Posted rs w' w'') : Posted (qs ++ rs) w w'' := by
  refine ⟨?_, ?_⟩
  · rw [h'.outbox, h.outbox, List.append_assoc]
  · rw [h'.transport, h.transport, Transport.serve_append]

/-- What became of them. -/
theorem answers_eq (h : Posted qs w w') : w.answers w' = Transport.answers qs w.transport := by
  rw [World.answers, h.outbox, List.drop_left]

/-- What became of requests and of those after them. -/
theorem answers_trans (h : Posted qs w w') (h' : Posted rs w' w'') :
    w.answers w'' = w.answers w' ++ w'.answers w'' := by
  rw [(h.trans h').answers_eq, h.answers_eq, h'.answers_eq, Transport.answers_append, h.transport]

/-- Nothing is refused of what was not posted. -/
theorem not_refused (h : Posted qs w w') {k : String}
    (hqs : ∀ text buttons, .message k text buttons ∉ qs) : ¬Refused k (w.answers w') := by
  rintro ⟨text, buttons, method, description, hmem⟩
  rw [h.answers_eq] at hmem
  have hposted := List.mem_map_of_mem (f := Prod.fst) hmem
  rw [Transport.map_fst_answers] at hposted
  exact hqs text buttons hposted

end Posted

/-- A message was refused for good, or not. -/
theorem refused_post {k text : String} {buttons : Option (List String)} {w : World τ} :
    Refused k (w.answers (World.post (.message k text buttons) w).2)
      ↔ ∃ e, (World.post (.message k text buttons) w).1 = .error e ∧ e.isUnreachable = true := by
  rw [(Posted.post _ w).answers_eq, ← any_isRefusal_iff, World.post]
  dsimp only [Transport.answers]
  cases (Transport.post (.message k text buttons) w.transport).1 with
  | ok _ => exact iff_of_false Bool.noConfusion nofun
  | error e => simp [isRefusal]

end

end World

/-! ## What a chat makes of it -/

namespace Chat

variable [Transport τ]

/-- A chat has sent some messages, and is inactive if it was so before or one of them was refused
for good. -/
structure Heeds (s t : Scene τ) : Prop where
  id : t.chat.id = s.chat.id
  posted : ∃ qs, World.Posted qs s.world t.world
    ∧ ∀ k text buttons, .message k text buttons ∈ qs → k = s.chat.id
  active : t.chat.active = false
    ↔ s.chat.active = false ∨ Refused s.chat.id (s.world.answers t.world)

namespace Heeds

variable {s t u : Scene τ}

/-- Nothing was sent, and the activity is what it was. -/
theorem of_fields (hid : t.chat.id = s.chat.id) (hactive : t.chat.active = s.chat.active)
    (houtbox : t.world.outbox = s.world.outbox)
    (htransport : t.world.transport = s.world.transport) : Heeds s t := by
  have hposted := World.Posted.nil houtbox htransport
  refine ⟨hid, ⟨[], hposted, nofun⟩, ?_⟩
  rw [hactive, or_iff_left (hposted.not_refused fun _ _ => List.not_mem_nil)]

theorem trans (h : Heeds s t) (h' : Heeds t u) : Heeds s u := by
  obtain ⟨qs, hqs, hsent⟩ := h.posted
  obtain ⟨rs, hrs, hsent'⟩ := h'.posted
  refine ⟨h'.id.trans h.id, ⟨qs ++ rs, hqs.trans hrs, fun k text buttons hmem => ?_⟩, ?_⟩
  · rcases List.mem_append.mp hmem with hmem | hmem
    · exact hsent k text buttons hmem
    · exact (hsent' k text buttons hmem).trans h.id
  · rw [hqs.answers_trans hrs, refused_append, h'.active, h.active, h.id, or_assoc]

/-- An action that begins with something else goes on from there. -/
theorem bind {α β : Type} {x : ChatAction τ α} {f : α → ChatAction τ β}
    (hx : Heeds t (x.run s).2) (hf : ∀ a, Follows Heeds (f a)) :
    Heeds t ((x >>= f).run s).2 := by
  rw [Action.run_bind]
  generalize x.run s = r at hx ⊢
  obtain ⟨e | a, u⟩ := r
  · exact hx
  · exact hx.trans (hf a u)

end Heeds

theorem heeds_save (g : Setting) (s : Scene τ) : Heeds s ((Chat.save g).run s).2 := by
  rw [save_run_snd]
  exact Heeds.of_fields rfl rfl rfl rfl

/-- **A message that is refused for good makes its chat inactive**, and no other message does. -/
theorem heeds_send (g : Setting) (text : String) (buttons : Option (List String)) (s : Scene τ) :
    Heeds s ((Chat.send g text buttons).run s).2 := by
  have hposted := World.Posted.post (.message s.chat.id text buttons) s.world
  have honly : ∀ k text' buttons', Request.message k text' buttons'
      ∈ [Request.message s.chat.id text buttons] → k = s.chat.id := fun k text' buttons' hmem =>
    (Request.message.inj (List.mem_singleton.mp hmem)).1
  by_cases hrefused : IsRefused s text buttons
  · have hsent : Heeds s { posted s text buttons with chat := { s.chat with active := false } } :=
      ⟨rfl, ⟨_, hposted, honly⟩, iff_of_true rfl (Or.inr (World.refused_post.mpr hrefused.2))⟩
    rw [send_of_isRefused g hrefused]
    exact hsent.trans (heeds_save g _)
  · rw [send_of_not_isRefused g hrefused]
    refine ⟨rfl, ⟨_, hposted, honly⟩, ?_⟩
    show s.chat.active = false ↔ _
    rw [posted, World.refused_post, iff_self_or]
    intro h
    rw [← Bool.not_eq_true]
    exact fun hactive => hrefused ⟨hactive, h⟩

/-- **Whatever a chat does, it heeds refusals.** -/
theorem isSendCourse_heeds (g : Setting) : IsSendCourse g (Heeds : Scene τ → Scene τ → Prop) where
  refl _ := Heeds.of_fields rfl rfl rfl rfl
  trans := Heeds.trans
  save := heeds_save g
  writeLog text s := by
    rw [writeLog_run_snd]
    exact Heeds.of_fields rfl rfl rfl rfl
  send := heeds_send g
  setRef _ _ _ := Heeds.of_fields rfl rfl rfl rfl
  enterStep _ _ _ _ := Heeds.of_fields rfl rfl rfl rfl

/-- The scene with an active chat. -/
def activated (s : Scene τ) : Scene τ := { s with chat := { s.chat with active := true } }

/-- **What is written in a chat makes it active**, and it heeds what is refused from then on. -/
theorem heeds_respond (g : Setting) (text : String) (s : Scene τ) :
    Heeds (activated s) ((Bot.respond g text).run s).2 := by
  have hmark : Heeds (activated s) ((Chat.markReachable g).run s).2 := by
    rw [markReachable_run]
    split
    · rename_i hactive
      exact Heeds.of_fields rfl hactive rfl rfl
    · exact heeds_save g (activated s)
  rw [Bot.respond]
  refine Heeds.bind hmark fun _ => Follows.bind Heeds.trans ?_ fun _ => ?_
  · exact (isSendCourse_heeds g).writeLog text
  · split
    · exact (isSendCourse_heeds g).applyRef _
    · exact (isSendCourse_heeds g).handleText text

/-- A note is taken up, or void. -/
theorem heeds_handleNote (g : Setting) (n : Elapsed) (s : Scene τ) :
    Heeds s ((Chat.handleNote g n).run s).2 := by
  rw [handleNote_run]
  split
  · exact (isSendCourse_heeds g).refl s
  · rename_i t ht
    have htaken : Heeds s { s with chat := markHandled n.slot t s.chat } :=
      Heeds.of_fields rfl rfl rfl rfl
    exact htaken.trans ((isSendCourse_heeds g).runAction t.action _)

end Chat
end ScriptedChat
