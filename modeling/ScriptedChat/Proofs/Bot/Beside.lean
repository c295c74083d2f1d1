import ScriptedChat.Proofs.Bot.Tickets
import ScriptedChat.Proofs.Store.Branch
import ScriptedChat.Transport.Refusing

/-!
# One chat in two worlds

Two worlds may look the same to one chat and be different for all others (`World.Beside`): the clock
shows the same, the chat has the same files, and the same messages were sent to it.  They may have
different transports, as long as these treat the chat in the same way: what becomes of a message
depends on what the transport has seen of the chat it is for (`Transport.IsLocal`).

* What the chat does is the same in both worlds, if the same writes are refused
  (`Chat.isEvenCourse_twin`), and they look the same to it afterwards.
* What another chat does in one of the two worlds makes no difference to this
  (`Chat.isSoloCourse_aside`).
-/

namespace ScriptedChat

variable {τ σ : Type}

/-! ## Requests for one chat -/

/-- The chat that a request is a message to. -/
def Request.recipient? : Request → Option String
  | .message chat _ _ => some chat
  | .commands _ => none
  | .answer _ => none

/-- A request is for a chat: it is a message to it, or it answers a press in it. -/
def Request.IsFor (k : String) (mine : String → Prop) : Request → Prop
  | .message chat _ _ => chat = k
  | .commands _ => False
  | .answer press => mine press

/-- What becomes of a request for a chat depends on nothing but what is seen of this chat, and so
does what is seen of it then; no other request changes that. -/
structure Transport.IsLocal [Transport τ] (k : String) (mine : String → Prop) (seen : τ → σ) :
    Prop where
  own : ∀ {r : Request} {t u : τ}, r.IsFor k mine → seen t = seen u →
    (Transport.post r t).1 = (Transport.post r u).1
      ∧ seen (Transport.post r t).2 = seen (Transport.post r u).2
  other : ∀ {r : Request} (t : τ), ¬r.IsFor k mine → seen (Transport.post r t).2 = seen t

theorem Refusing.post_eq (r : Request) (t : Refusing) :
    Transport.post r t
      = match Keyed.find? (Refusing.key r) t.codes with
        | some code => (.error (.api (Refusing.method r) code "refused"), t)
        | none => (.ok (), t) := rfl

/-- A transport that refuses looks at two codes only: that of the chat, and that of all answers. -/
theorem Refusing.isLocal (k : String) (mine : String → Prop) :
    Transport.IsLocal k mine fun r : Refusing =>
      (Keyed.find? k r.codes, Keyed.find? "callback" r.codes) := by
  have hstays : ∀ (r : Request) (t : Refusing), (Transport.post r t).2 = t := by
    intro r t
    rw [Refusing.post_eq]
    cases Keyed.find? (Refusing.key r) t.codes <;> rfl
  refine ⟨fun {r t u} hr h => ?_, fun {r} t _ => by rw [hstays]⟩
  rw [hstays, hstays]
  refine ⟨?_, h⟩
  obtain ⟨hchat, hanswer⟩ := Prod.mk.inj h
  have hcode : Keyed.find? (Refusing.key r) t.codes = Keyed.find? (Refusing.key r) u.codes := by
    cases r with
    | message chat text buttons =>
      have hk : chat = k := hr
      subst hk
      exact hchat
    | commands menu => exact hr.elim
    | answer press => exact hanswer
  rw [Refusing.post_eq, Refusing.post_eq, hcode]
  cases Keyed.find? (Refusing.key r) u.codes <;> rfl

/-- The messages to a chat, in their order. -/
def messagesTo (k : String) (outbox : List Request) : List Request :=
  outbox.filter fun r => r.recipient? = some k

/-- A request for another chat is no message to this one. -/
theorem messagesTo_append_of_other {k : String} {mine : String → Prop} {r : Request}
    (h : ¬r.IsFor k mine) (outbox : List Request) :
    messagesTo k (outbox ++ [r]) = messagesTo k outbox := by
  have hr : r.recipient? ≠ some k := by
    cases r with
    | message chat text buttons => exact fun heq => h (Option.some.inj heq)
    | commands menu => exact fun heq => nomatch heq
    | answer press => exact fun heq => nomatch heq
  rw [messagesTo, List.filter_append, List.filter_singleton, decide_eq_false hr]
  exact List.append_nil _

/-! ## Worlds -/

/-- Two worlds look the same to a chat. -/
structure World.Beside (g : Setting) (k : String) (seen : τ → σ) (w v : World τ) : Prop where
  now : v.now = w.now
  seen : seen v.transport = seen w.transport
  messages : messagesTo k v.outbox = messagesTo k w.outbox
  files : g.store.SameFiles k w.disk v.disk

/-- Two worlds look the same to a chat, and the same writes will be refused. -/
structure World.Twin (g : Setting) (k : String) (seen : τ → σ) (w v : World τ) : Prop
    extends World.Beside g k seen w v where
  refusals : v.disk.refusals = w.disk.refusals

/-- What was done for one chat cannot be told from the files of others, and nothing else that
another chat can see is different. -/
structure World.Aside (g : Setting) (k : String) (seen : τ → σ) (key : String) (w w' : World τ) :
    Prop where
  now : w'.now = w.now
  seen : seen w'.transport = seen w.transport
  messages : messagesTo k w'.outbox = messagesTo k w.outbox
  disk : ∀ q, w.disk.LeadsTo g.store.root q → Disk.Within (q ++ [key]) w.disk w'.disk

section

variable {g : Setting} {k key : String} {mine : String → Prop} {seen : τ → σ} {w v : World τ}

theorem World.Aside.refl (htree : w.disk.IsTree) : World.Aside g k seen key w w :=
  ⟨rfl, rfl, rfl, fun _ _ => Disk.Within.refl htree⟩

/-- What is done aside makes no difference to a chat. -/
theorem World.Beside.aside {w' : World τ} (h : w.Beside g k seen v) (hkey : key ≠ k)
    (haside : World.Aside g k seen key w w') : w'.Beside g k seen v :=
  ⟨h.now.trans haside.now.symm, h.seen.trans haside.seen.symm,
    h.messages.trans haside.messages.symm, h.files.within hkey haside.disk⟩

/-- What is done to the disk, below the directory of a chat. -/
theorem World.Aside.onDisk {w' : World τ} (h : World.Aside g k seen key w w') {d : Disk}
    (hd : ∀ q, w'.disk.IsTree → w'.disk.LeadsTo g.store.root q →
      Disk.Within (q ++ [key]) w'.disk d) :
    World.Aside g k seen key w { w' with disk := d } := by
  refine ⟨h.now, h.seen, h.messages, fun q hq => ?_⟩
  have hin := h.disk q hq
  exact hin.trans (hd q hin.tree (hq.mono hin.directories))

variable [Transport τ]

/-- A request that is not for a chat. -/
theorem World.Aside.post {w' : World τ} (hlocal : Transport.IsLocal k mine seen)
    (h : World.Aside g k seen key w w') {r : Request} (hr : ¬r.IsFor k mine) :
    World.Aside g k seen key w (World.post r w').2 :=
  ⟨h.now, (hlocal.other w'.transport hr).trans h.seen,
    (messagesTo_append_of_other hr w'.outbox).trans h.messages, h.disk⟩

theorem World.Aside.answered {w' : World τ} (hlocal : Transport.IsLocal k mine seen)
    (h : World.Aside g k seen key w w') {press : Option String} (hpress : ∀ p ∈ press, ¬mine p) :
    World.Aside g k seen key w (Bot.answered press w') := by
  cases press with
  | none => exact h
  | some p => exact h.post hlocal (hpress p rfl)

/-- The same request is posted in both worlds, and it fares the same if it is for the chat. -/
theorem World.Twin.post (hlocal : Transport.IsLocal k mine seen) (h : w.Twin g k seen v)
    (r : Request) :
    (r.IsFor k mine → (World.post r w).1 = (World.post r v).1)
      ∧ (World.post r w).2.Twin g k seen (World.post r v).2 := by
  refine ⟨fun hr => (hlocal.own hr h.seen.symm).1, ?_⟩
  exact
    { now := h.now
      seen := by
        show seen (Transport.post r v.transport).2 = seen (Transport.post r w.transport).2
        by_cases hr : r.IsFor k mine
        · exact (hlocal.own hr h.seen).2
        · rw [hlocal.other v.transport hr, hlocal.other w.transport hr, h.seen]
      messages := by
        show messagesTo k (v.outbox ++ [r]) = messagesTo k (w.outbox ++ [r])
        have hmessages := h.messages
        rw [messagesTo, messagesTo] at hmessages ⊢
        rw [List.filter_append, List.filter_append, hmessages]
      files := h.files
      refusals := h.refusals }

theorem World.Twin.answered (hlocal : Transport.IsLocal k mine seen) (h : w.Twin g k seen v)
    (press : Option String) : (Bot.answered press w).Twin g k seen (Bot.answered press v) := by
  cases press with
  | none => exact h
  | some p => exact (h.post hlocal (.answer p)).2

omit [Transport τ] in
/-- What is done to both disks, if it leaves the chat the same files. -/
theorem World.Twin.onDisk {ε α : Type} {p p' : Except ε α × Disk} (h : w.Twin g k seen v)
    (hp : g.store.Beside k p p') :
    World.Twin g k seen { w with disk := p.2 } { v with disk := p'.2 } :=
  { now := h.now
    seen := h.seen
    messages := h.messages
    files := hp.2.1
    refusals := hp.2.2 }

end

/-! ## Scenes -/

namespace Chat

/-- A chat in two worlds that look the same to it.  Its tickets may be different. -/
structure Twin (g : Setting) (k : String) (seen : τ → σ) (s t : Scene τ) : Prop where
  id : s.chat.id = k
  chat : t.chat.unticketed = s.chat.unticketed
  left : s.chat.InOrder
  right : t.chat.InOrder
  world : s.world.Twin g k seen t.world

/-- What another chat has made of a world. -/
structure Aside (g : Setting) (k : String) (seen : τ → σ) (key : String) (w : World τ)
    (s : Scene τ) : Prop where
  id : s.chat.id = key
  world : World.Aside g k seen key w s.world

section

variable {g : Setting} {k key : String} {mine : String → Prop} {seen : τ → σ}

/-- The same is done to both disks, with the same result. -/
theorem Twin.onDisk {s t : Scene τ} (h : Twin g k seen s t) {action : DiskAction Unit}
    (hp : g.store.Beside k (action.run s.world.disk) (action.run t.world.disk)) :
    Agree False (Twin g k seen) ((Chat.onDisk action).run s) ((Chat.onDisk action).run t) := by
  have hworld := h.world.onDisk hp
  obtain ⟨hresult, -⟩ := hp
  rw [onDisk_run, onDisk_run, onWorldDisk_run, onWorldDisk_run]
  generalize action.run s.world.disk = p at hresult hworld ⊢
  generalize action.run t.world.disk = p' at hresult hworld ⊢
  obtain ⟨r, d⟩ := p
  obtain ⟨r', d'⟩ := p'
  dsimp only at hresult
  subst hresult
  cases r' <;> exact fun _ => ⟨rfl, False.elim, h.id, h.chat, h.left, h.right, hworld⟩

variable [Transport τ] (hlocal : Transport.IsLocal k mine seen)
include hlocal

/-- **A chat does the same in two worlds that look the same to it.** -/
theorem isEvenCourse_twin (g : Setting) :
    IsEvenCourse g False (Twin g k seen : Scene τ → Scene τ → Prop) (Twin g k seen) where
  weaken h := h
  settle _ _ _ h := h
  step h := (fields_of_unticketed h.chat).2.1
  ref h := (fields_of_unticketed h.chat).2.2.1
  active h := (fields_of_unticketed h.chat).2.2.2
  save := by
    intro s t h
    have hid : s.chat.record.chatId = k := h.id
    have hrecord : t.chat.record = s.chat.record := by
      rw [← record_unticketed, h.chat, record_unticketed]
    have hbeside := Store.SameFiles.save (r := s.chat.record) (hid.symm ▸ h.world.files)
      h.world.refusals
    rw [hid] at hbeside
    rw [Chat.save, Action.run_get_bind, Action.run_get_bind, hrecord]
    exact h.onDisk hbeside
  writeLog := by
    intro text s t h
    have hid := (fields_of_unticketed h.chat).1
    rw [Chat.writeLog, Action.run_get_bind, Action.run_get_bind, hid, h.id, h.world.now]
    exact h.onDisk (h.world.files.appendLog h.world.refusals s.world.now text)
  post := by
    rintro P hP s t text buttons hst
    have h : Twin g k seen s t := by rcases hP with rfl | rfl <;> exact hst
    have hid := (fields_of_unticketed h.chat).1
    rw [hid, h.id]
    obtain ⟨hresult, hworld⟩ := h.world.post hlocal (.message k text buttons)
    refine ⟨_, _, (World.post (.message k text buttons) t.world).2, rfl,
      Prod.ext (hresult rfl).symm rfl, ?_⟩
    rcases hP with rfl | rfl <;> exact ⟨h.id, h.chat, h.left, h.right, hworld⟩
  setActive b h :=
    ⟨h.id, congrArg (fun c : Chat => { c with active := b }) h.chat, h.left, h.right, h.world⟩
  setRef code h :=
    ⟨h.id, congrArg (fun c : Chat => { c with refId := some code }) h.chat, h.left, h.right,
      h.world⟩
  enterStep := by
    intro s t id step _ h
    have hentered : ∀ u : Scene τ, (Chat.enterStep step u).chat.unticketed
        = { u.chat.unticketed with
            stepId := some step.id
            timers := (armTimers u.world.now u.world.tickets step.delayedActions []).map
              ActionTimer.unticketed
            generation := u.chat.unticketed.generation + 1 } := fun _ => rfl
    refine ⟨h.id, ?_, inOrder_of_armTimers rfl, inOrder_of_armTimers rfl, ?_⟩
    · rw [hentered, hentered, h.chat, h.world.now,
        map_unticketed_armTimers _ t.world.tickets s.world.tickets]
    · exact { h.world with }
  take := by
    intro s t n h
    have hawaited := congrArg (fun c : Chat => c.awaited? n) h.chat
    rw [awaited?_unticketed, awaited?_unticketed] at hawaited
    cases hx : s.chat.awaited? n with
    | none =>
      rw [hx, Option.map_none, Option.map_eq_none_iff] at hawaited
      exact Or.inl ⟨rfl, hawaited⟩
    | some x =>
      rw [hx, Option.map_some, Option.map_eq_some_iff] at hawaited
      obtain ⟨y, hy, heq⟩ := hawaited
      have haction := congrArg ActionTimer.action heq
      refine Or.inr ⟨x, y, rfl, hy, haction, h.id, ?_, h.left.markHandled hx,
        h.right.markHandled hy, h.world⟩
      show (markHandled n.slot y t.chat).unticketed = (markHandled n.slot x s.chat).unticketed
      rw [markHandled_unticketed, markHandled_unticketed, heq, h.chat]

/-- **What another chat does makes no difference.** -/
theorem isSoloCourse_aside (g : Setting) (hkey : key ≠ k) (w : World τ) :
    IsSoloCourse g False (Aside g k seen key w) (Aside g k seen key w) where
  weaken h := h
  settle _ _ h := h
  save := by
    intro s h _
    refine ⟨False.elim, ?_⟩
    rw [save_run_snd]
    refine ⟨h.id, h.world.onDisk fun q htree hq => ?_⟩
    have hin := (Store.within_save htree hq s.chat.record).1
    rw [show s.chat.record.chatId = key from h.id] at hin
    exact hin
  writeLog := by
    intro s text h _
    refine ⟨False.elim, ?_⟩
    rw [writeLog_run_snd]
    refine ⟨h.id, h.world.onDisk fun q htree hq => ?_⟩
    have hin := (Store.within_appendLog htree hq s.chat.id s.world.now text).1
    rw [h.id] at hin ⊢
    exact hin
  post := by
    rintro K hK s text buttons hs
    have h : Aside g k seen key w s := by rcases hK with rfl | rfl <;> exact hs
    have hr : ¬(Request.message s.chat.id text buttons).IsFor k mine :=
      fun heq => hkey (h.id.symm.trans heq)
    have haside : Aside g k seen key w
        { s with world := (World.post (.message s.chat.id text buttons) s.world).2 } :=
      ⟨h.id, h.world.post hlocal hr⟩
    rcases hK with rfl | rfl <;> exact haside
  setActive _ h := ⟨h.id, h.world⟩
  setRef _ h := ⟨h.id, h.world⟩
  enterStep _ h := ⟨h.id, { h.world with }⟩
  take _ h := ⟨h.id, h.world⟩

end

end Chat

/-! ## Deeds for one chat -/

namespace Bot

/-- What is the same of two plots with a chat that is the same in both. -/
theorem Plot.same_of_twin {g : Setting} {k : String} {seen : τ → σ} {p p' : Plot τ}
    (h : Plot.Related (Chat.Twin g k seen) (World.Twin g k seen) p p') :
    p'.chat.map Chat.unticketed = p.chat.map Chat.unticketed
      ∧ (∀ c, p.chat = some c → c.InOrder) ∧ (∀ c, p'.chat = some c → c.InOrder)
      ∧ p.world.Beside g k seen p'.world := by
  obtain ⟨c, w⟩ := p
  obtain ⟨c', w'⟩ := p'
  cases c with
  | none =>
    cases c' with
    | some c' => exact h.elim
    | none => exact ⟨rfl, fun _ hx => (by cases hx), fun _ hx => (by cases hx), h.toBeside⟩
  | some c =>
    cases c' with
    | none => exact h.elim
    | some c' =>
      refine ⟨congrArg some h.chat, fun x hx => ?_, fun x hx => ?_, h.world.toBeside⟩
      · exact Option.some.inj hx ▸ h.left
      · exact Option.some.inj hx ▸ h.right

variable [Transport τ] {k key : String} {mine : String → Prop} {seen : τ → σ}
  (hlocal : Transport.IsLocal k mine seen)
include hlocal

/-- What is to be shown of a deed that is for the chat. -/
theorem isPlotCourse_twin (g : Setting) :
    IsPlotCourse g False k (Chat.Twin g k seen) (Chat.Twin g k seen) (World.Twin g k seen) where
  course := (Chat.isEvenCourse_twin hlocal g).isPairCourse
  create := by
    intro w v ref h _
    have hbeside := Store.SameFiles.save (r := (Chat.opening g.scenario k ref).record) h.files
      h.refusals
    rw [Chat.create_run, Chat.create_run]
    have hworld := h.onDisk hbeside
    obtain ⟨hresult, -⟩ := hbeside
    generalize (g.store.save (Chat.opening g.scenario k ref).record).run w.disk = p
      at hresult hworld ⊢
    generalize (g.store.save (Chat.opening g.scenario k ref).record).run v.disk = p'
      at hresult hworld ⊢
    obtain ⟨r, d⟩ := p
    obtain ⟨r', d'⟩ := p'
    dsimp only at hresult
    subst hresult
    have hopening : (Chat.opening g.scenario k ref).InOrder := Chat.inOrder_of_timers_nil rfl
    cases r' with
    | ok _ => exact Or.inl ⟨_, _, _, rfl, rfl, rfl, rfl, hopening, hopening, hworld⟩
    | error e => exact Or.inr ⟨id, _, _, _, rfl, rfl, hworld⟩

/-- What is to be shown of a deed that is for another chat. -/
theorem isPlotCourse_aside (g : Setting) (hkey : key ≠ k) (w : World τ) :
    IsPlotCourse g False key (Diag (Chat.Aside g k seen key w)) (Diag (Chat.Aside g k seen key w))
      (Diag (World.Aside g k seen key w)) where
  course := (Chat.isSoloCourse_aside hlocal g hkey w).isPairCourse
  create := by
    rintro v v' ref ⟨rfl, hv⟩ _
    have haside := hv.onDisk fun q htree hq =>
      (Store.within_save htree hq (Chat.opening g.scenario key ref).record).1
    rw [Chat.create_run]
    generalize (g.store.save (Chat.opening g.scenario key ref).record).run v.disk = p at haside ⊢
    obtain ⟨e | _, d⟩ := p
    · exact Or.inr ⟨id, _, _, _, rfl, rfl, rfl, haside⟩
    · exact Or.inl ⟨_, _, _, rfl, rfl, rfl, rfl, haside⟩

end Bot
end ScriptedChat
