import ScriptedChat.Bot.Loop
import ScriptedChat.Proofs.Chat.Going
import ScriptedChat.Proofs.Keyed

/-!
# What happens to a bot

Whatever happens to a bot between its start and its end is made of seven *deeds*: something
comes in, a note is handled, a note is taken off the queue, a chat is shown a step that was
announced, the stopwatch of a timer rings, the clock moves on, and an announcement is taken off
its list.  An announcement to all chats and the handling of all notes that wait are several
deeds, one after the other.

A stopwatch may ring at any time here, and the clock may show anything.  What holds for such
runs holds for those in which every stopwatch rings when it should.

## Turns

What a deed can do is said once (`Bot.Turn`): nobody does anything, or one chat goes on, or one
chat takes up a note and goes on, or a new chat is made, or could not be made.  Everything that
is kept by bots is proved by these five cases.

* `Bot.Deed`, `Bot.Deed.act`: the deeds.
* `Bot.Turn`, `Bot.turn_act`: what a deed does.
* `Bot.handleNote_run`: what a note does.
-/

namespace ScriptedChat
namespace Bot

variable {τ : Type}

/-! ## Deeds -/

/-- Something that happens to a bot. -/
inductive Deed where
  /-- Something comes in. -/
  | receive (e : Inbound)
  /-- A note is handled. -/
  | note (n : Elapsed)
  /-- The first note that waits is taken off the queue. -/
  | take
  /-- The chat under a key is moved to a step and shown it. -/
  | announce (key step : String)
  /-- The first announcement is taken off the list. -/
  | takeAnnouncement
  /-- The stopwatch of a timer rings, if it is set. -/
  | ring (key : String) (slot : Nat)
  /-- The clock moves on. -/
  | pass (t : Int)

/-- The bot after the stopwatch of one timer has rung. -/
def ringOne (key : String) (slot : Nat) (b : Bot) : Bot :=
  match b.chat? key with
  | none => b
  | some c =>
    match c.timers[slot]? with
    | none => b
    | some t =>
      if t.watch.alarm.isNone then b
      else
        let rung : Chat := { c with timers := c.timers.set slot { t with watch := t.watch.ring } }
        { b.withChat key rung with queue := b.queue ++ [c.note slot] }

/-- Does a deed. -/
def Deed.act [Transport τ] : Deed → BotAction τ Unit
  | .receive e => handle e
  | .note n => handleNote n
  | .take => modify fun s => { s with bot := { s.bot with queue := s.bot.queue.tail } }
  | .announce key step => do
    let b := (← get).bot
    match b.chat? key with
    | some c => onChat key c (Chat.goTo b.setting step)
    | none => return ()
  | .takeAnnouncement =>
    modify fun s => { s with bot := { s.bot with announced := s.bot.announced.tail } }
  | .ring key slot => modify fun s => { s with bot := s.bot.ringOne key slot }
  | .pass t => modify (passTo t)

/-- What the clock shows after a deed. -/
def Deed.clock (now : Int) : Deed → Int
  | .pass t => t
  | _ => now

/-- The timer that a note is of, if the note is not void. -/
def awaited? (b : Bot) (n : Elapsed) : Option ActionTimer :=
  (b.chat? n.chat).bind fun c => c.awaited? n

/-- The note that is taken up by a deed. -/
def Deed.taken? (b : Bot) : Deed → Option Elapsed
  | .note n => if (b.awaited? n).isSome then some n else none
  | _ => none

/-! ## Turns -/

/-- The stage with what a chat has come to. -/
def put (s : Stage τ) (key : String) (t : Scene τ) : Stage τ :=
  { bot := s.bot.withChat key t.chat, world := t.world }

theorem chat?_put (s : Stage τ) (key k : String) (t : Scene τ) :
    (put s key t).bot.chat? k = if k = key then some t.chat else s.bot.chat? k :=
  Keyed.find?_insert key k t.chat s.bot.chats

/-- What is found then is what has been put there, or what was found before. -/
theorem chat?_put_eq_some {s : Stage τ} {key k : String} {t : Scene τ} {c : Chat} :
    (put s key t).bot.chat? k = some c
      ↔ k = key ∧ t.chat = c ∨ k ≠ key ∧ s.bot.chat? k = some c := by
  rw [chat?_put]
  by_cases hk : k = key
  · simp [hk]
  · simp [hk]

/-- Nobody does anything: notes come and go, stopwatches ring, time passes. -/
structure Idle (s s' : Stage τ) : Prop where
  setting : s'.bot.setting = s.bot.setting
  sorted : Keyed.IsSorted s'.bot.chats
  absent : ∀ k, s.bot.chat? k = none → s'.bot.chat? k = none
  present : ∀ k c, s.bot.chat? k = some c →
    ∃ c', s'.bot.chat? k = some c' ∧ c'.id = c.id ∧ Chat.Stayed c c'
  ref : ∀ k, (s'.bot.chat? k).bind Chat.refId = (s.bot.chat? k).bind Chat.refId
  queue : ∀ n ∈ s'.bot.queue, n ∈ s.bot.queue
    ∨ ∃ k c slot, s.bot.chat? k = some c ∧ n = c.note slot
  disk : s'.world.disk = s.world.disk

/-- What a deed can do, after which the clock shows `now`.  It is said which note it takes up,
and how it ends. -/
inductive Turn (g : Setting) (s : Stage τ) :
    Int → Option Elapsed → Except EngineError Unit → Stage τ → Prop
  /-- Nobody does anything. -/
  | idle {r s'} (h : Idle s s') : Turn g s s'.world.now none r s'
  /-- One chat goes on. -/
  | goes {r k c w t} (hc : s.bot.chat? k = some c) (hw : w.disk = s.world.disk)
      (hnow : w.now = s.world.now) (h : Chat.GoesOn g ⟨c, w⟩ t) :
      Turn g s s.world.now none r (put s k t)
  /-- One chat takes up a note, and goes on. -/
  | takes {r n c t u} (hc : s.bot.chat? n.chat = some c) (ht : c.awaited? n = some t)
      (h : Chat.GoesOn g ⟨Chat.markHandled n.slot t c, s.world⟩ u) :
      Turn g s s.world.now (some n) r (put s n.chat u)
  /-- A new chat is made, and goes on. -/
  | greets {r k ref w t} (hk : s.bot.chat? k = none)
      (hw : (g.store.save (Chat.opening g.scenario k ref).record).run s.world.disk
        = (.ok (), w.disk))
      (hnow : w.now = s.world.now)
      (h : Chat.GoesOn g ⟨Chat.opening g.scenario k ref, w⟩ t)
      (hr : r = .ok () → t.chat.Mirrors g.scenario) :
      Turn g s s.world.now none r (put s k t)
  /-- A new chat could not be kept, so it was not made. -/
  | refuses {e r w} (hw : (g.store.save r).run s.world.disk = (.error e, w.disk))
      (hnow : w.now = s.world.now) :
      Turn g s s.world.now none (.error (.store e)) { s with world := w }

/-! ## What single deeds come to -/

theorem onChat_run {α : Type} (key : String) (c : Chat) (action : ChatAction τ α) (s : Stage τ) :
    (onChat key c action).run s
      = ((action.run ⟨c, s.world⟩).1, put s key (action.run ⟨c, s.world⟩).2) := rfl

/-- What stays as it is, is idle. -/
theorem Idle.of_world {s : Stage τ} (hs : Keyed.IsSorted s.bot.chats) {w : World τ}
    (hw : w.disk = s.world.disk) : Idle s { s with world := w } :=
  ⟨rfl, hs, fun _ h => h, fun _ c h => ⟨c, h, rfl, Chat.Stayed.refl c⟩, fun _ => rfl,
    fun _ h => Or.inl h, hw⟩

/-- Fewer notes wait, and nothing else is different. -/
theorem Idle.of_queue {s : Stage τ} (hs : Keyed.IsSorted s.bot.chats) {b : Bot}
    (hsetting : b.setting = s.bot.setting) (hchats : b.chats = s.bot.chats)
    (hqueue : ∀ n ∈ b.queue, n ∈ s.bot.queue) : Idle s { s with bot := b } := by
  have hfind : ∀ k, b.chat? k = s.bot.chat? k := fun k => by rw [chat?, chat?, hchats]
  refine ⟨hsetting, ?_, fun k hk => ?_, fun k c hk => ?_, fun k => ?_,
    fun n hn => Or.inl (hqueue n hn), rfl⟩
  · exact hchats ▸ hs
  · exact (hfind k).trans hk
  · exact ⟨c, (hfind k).trans hk, rfl, Chat.Stayed.refl c⟩
  · exact congrArg (Option.bind · Chat.refId) (hfind k)

/-- To put back what is there changes nothing. -/
theorem put_of_chat? {s : Stage τ} (hs : Keyed.IsSorted s.bot.chats) {key : String} {c : Chat}
    (hc : s.bot.chat? key = some c) : put s key ⟨c, s.world⟩ = s := by
  rw [put, withChat, Keyed.insert_of_find? hs hc]

theorem sorted_put {s : Stage τ} (hs : Keyed.IsSorted s.bot.chats) (key : String) (t : Scene τ) :
    Keyed.IsSorted (put s key t).bot.chats := Keyed.isSorted_insert hs key t.chat

/-- The notes of the alarms that ring are those of timers of the chats. -/
theorem mem_ringingNotes {b : Bot} (hb : Keyed.IsSorted b.chats) {now : Int} {n : Elapsed}
    (hn : n ∈ b.ringingNotes now) : ∃ k c slot, b.chat? k = some c ∧ n = c.note slot := by
  obtain ⟨x, hx, rfl⟩ := List.mem_map.mp hn
  rw [(List.mergeSort_perm _ _).mem_iff, List.mem_flatMap] at hx
  obtain ⟨⟨k, c⟩, hp, hx⟩ := hx
  rw [Chat.ringing, List.mem_filterMap] at hx
  obtain ⟨⟨t, slot⟩, -, hx⟩ := hx
  refine ⟨k, c, slot, (Keyed.mem_iff_find? hb).mp hp, ?_⟩
  dsimp only at hx
  split at hx
  · split at hx
    · cases hx
      rfl
    · cases hx
  · cases hx

/-- While time passes, stopwatches ring and nobody does anything. -/
theorem idle_passTo {s : Stage τ} (hs : Keyed.IsSorted s.bot.chats) (t : Int) :
    Idle s (passTo t s) := by
  have hfind : ∀ k, (passTo t s).bot.chat? k = (s.bot.chat? k).map fun c => c.ring t := fun k =>
    Keyed.find?_map (fun (_ : String) (c : Chat) => c.ring t) k s.bot.chats
  refine ⟨rfl, Keyed.isSorted_map (fun (_ : String) (c : Chat) => c.ring t) hs, fun k hk => ?_,
    fun k c hk => ?_, fun k => ?_, fun n hn => ?_, rfl⟩
  · rw [hfind, hk]
    rfl
  · refine ⟨c.ring t, ?_, rfl, Chat.stayed_ring c t⟩
    rw [hfind, hk]
    rfl
  · rw [hfind, Option.bind_map]
    rfl
  · rcases List.mem_append.mp hn with hn | hn
    · exact Or.inl hn
    · exact Or.inr (mem_ringingNotes hs hn)

/-- A stopwatch that rings by itself changes nothing in what is kept. -/
theorem stayed_set {c : Chat} {slot : Nat} {t : ActionTimer} (ht : c.timers[slot]? = some t) :
    Chat.Stayed c { c with timers := c.timers.set slot { t with watch := t.watch.ring } } :=
  ⟨rfl, rfl, Chat.map_set_of_getElem? ht rfl, Chat.map_set_of_getElem? ht rfl⟩

theorem idle_ringOne {s : Stage τ} (hs : Keyed.IsSorted s.bot.chats) (key : String) (slot : Nat) :
    Idle s { s with bot := s.bot.ringOne key slot } := by
  have hsame : Idle s { s with bot := s.bot } := Idle.of_world hs rfl
  unfold ringOne
  split
  · exact hsame
  rename_i c hc
  split
  · exact hsame
  rename_i t ht
  split
  · exact hsame
  have hfind : ∀ k, Keyed.find? k (Keyed.insert key
      { c with timers := c.timers.set slot { t with watch := t.watch.ring } } s.bot.chats)
        = if k = key then
            some { c with timers := c.timers.set slot { t with watch := t.watch.ring } }
          else s.bot.chat? k := fun k => Keyed.find?_insert key k _ s.bot.chats
  refine ⟨rfl, Keyed.isSorted_insert hs _ _, fun k hk => ?_, fun k c' hk => ?_, fun k => ?_,
    fun n hn => ?_, rfl⟩
  · refine (hfind k).trans ?_
    rw [if_neg, hk]
    rintro rfl
    rw [hc] at hk
    cases hk
  · by_cases hkey : k = key
    · subst hkey
      rw [hc, Option.some.injEq] at hk
      subst hk
      exact ⟨_, (hfind k).trans (if_pos rfl), rfl, stayed_set ht⟩
    · exact ⟨c', (hfind k).trans ((if_neg hkey).trans hk), rfl, Chat.Stayed.refl c'⟩
  · refine (congrArg (Option.bind · Chat.refId) (hfind k)).trans ?_
    split
    · rename_i hkey
      rw [hkey, hc]
      rfl
    · rfl
  · rcases List.mem_append.mp hn with hn | hn
    · exact Or.inl hn
    · exact Or.inr ⟨key, c, slot, hc, List.mem_singleton.mp hn⟩

/-- What the clock shows after a turn. -/
theorem Turn.clock {g : Setting} {s s' : Stage τ} {now : Int} {n : Option Elapsed}
    {r : Except EngineError Unit} (h : Turn g s now n r s') : s'.world.now = now := by
  cases h with
  | idle h => rfl
  | goes hc hw hnow h => exact h.now.trans hnow
  | takes hc ht h => exact h.now
  | greets hk hw hnow h hr => exact h.now.trans hnow
  | refuses hw hnow => exact hnow

section

variable [Transport τ]

/-- A note is void, or its chat takes it up. -/
theorem handleNote_run (n : Elapsed) (s : Stage τ) :
    (handleNote n).run s
      = match s.bot.chat? n.chat with
        | some c => (onChat n.chat c (Chat.handleNote s.bot.setting n)).run s
        | none => (.ok (), s) := by
  rw [handleNote, Action.run_get_bind]
  dsimp only
  cases s.bot.chat? n.chat <;> rfl

/-- A note that is void changes nothing, and nothing is sent. -/
theorem handleNote_of_void {n : Elapsed} {s : Stage τ} (hs : Keyed.IsSorted s.bot.chats)
    (h : s.bot.awaited? n = none) : (handleNote n).run s = (.ok (), s) := by
  rw [handleNote_run]
  cases hc : s.bot.chat? n.chat with
  | none => rfl
  | some c =>
    have hc' : c.awaited? n = none := by
      rw [awaited?, hc] at h
      exact h
    dsimp only
    rw [onChat_run, Chat.handleNote_run]
    dsimp only
    rw [hc']
    dsimp only
    rw [put_of_chat? hs hc]

/-- The press of a button is answered, and nobody does anything. -/
theorem answerPress_run (press : Option String) (s : Stage τ) :
    ∃ w, (answerPress press).run s = (.ok (), { s with world := w })
      ∧ w.disk = s.world.disk ∧ w.now = s.world.now := by
  cases press with
  | none => exact ⟨s.world, rfl, rfl, rfl⟩
  | some p => exact ⟨(World.post (.answer p) s.world).2, rfl, rfl, rfl⟩

/-- What comes in is for a chat that is there, or for a new one. -/
theorem handle_run (e : Inbound) (s : Stage τ) :
    ∃ w, w.disk = s.world.disk ∧ w.now = s.world.now ∧
      (handle e).run s
        = if (String.ofList (Text.trim e.text.toList)).isEmpty then (.ok (), { s with world := w })
          else
            match s.bot.chat? e.chat with
            | some c =>
              (onChat e.chat c
                (respond s.bot.setting (String.ofList (Text.trim e.text.toList)))).run
                { s with world := w }
            | none =>
              (onWorld (Chat.create s.bot.setting e.chat
                  (referral? (String.ofList (Text.trim e.text.toList)))) >>= fun c =>
                onChat e.chat c
                  (welcome s.bot.setting (String.ofList (Text.trim e.text.toList)) e.sender)).run
                { s with world := w } := by
  obtain ⟨w, hrun, hdisk, hnow⟩ := answerPress_run e.press s
  refine ⟨w, hdisk, hnow, ?_⟩
  rw [handle, Action.run_bind_ok hrun]
  generalize String.ofList (Text.trim e.text.toList) = text
  dsimp only
  split
  · rfl
  · rw [Action.run_get_bind]
    dsimp only
    cases s.bot.chat? e.chat <;> rfl

omit [Transport τ] in
/-- A new chat is kept before it is there. -/
theorem onWorld_create_run (g : Setting) (id : String) (ref : Option String) (s : Stage τ) :
    (onWorld (Chat.create g id ref) : BotAction τ Chat).run s
      = match (g.store.save (Chat.opening g.scenario id ref).record).run s.world.disk with
        | (.ok (), d) =>
          (.ok (Chat.opening g.scenario id ref), { s with world := { s.world with disk := d } })
        | (.error e, d) =>
          (.error (.store e), { s with world := { s.world with disk := d } }) := by
  show (match (Chat.create g id ref).run s.world with
    | (result, world) => ((result, { s with world }) : Except EngineError Chat × Stage τ)) = _
  rw [Chat.create_run]
  rcases (g.store.save (Chat.opening g.scenario id ref).record).run s.world.disk
    with ⟨_ | _, d⟩ <;> rfl

/-! ## Every deed is a turn -/

/-- What comes in makes one chat go on, or a new one. -/
theorem turn_receive {g : Setting} {s : Stage τ} (hs : Keyed.IsSorted s.bot.chats)
    (hg : s.bot.setting = g) (e : Inbound) :
    Turn g s s.world.now none ((handle e).run s).1 ((handle e).run s).2 := by
  obtain ⟨w, hdisk, hnow, hrun⟩ := handle_run e s
  rw [hrun, hg]
  generalize String.ofList (Text.trim e.text.toList) = text
  split
  · rw [← hnow]
    exact Turn.idle (Idle.of_world hs hdisk)
  cases hc : s.bot.chat? e.chat with
  | some c =>
    dsimp only
    rw [onChat_run]
    exact Turn.goes hc hdisk hnow ((Chat.isCourse_goesOn g).respond text ⟨c, w⟩)
  | none =>
    dsimp only
    rw [Action.run_bind, onWorld_create_run]
    rcases hsave : (g.store.save (Chat.opening g.scenario e.chat (referral? text)).record).run w.disk
      with ⟨e' | _, d⟩
    · rw [hdisk] at hsave
      exact Turn.refuses (w := { w with disk := d }) hsave hnow
    · rw [hdisk] at hsave
      dsimp only
      rw [onChat_run]
      refine Turn.greets (w := { w with disk := d }) hc hsave hnow
        ((Chat.isCourse_goesOn g).welcome text e.sender _) fun hok => ?_
      exact Chat.mirrors_welcome rfl rfl (Prod.ext hok rfl)

/-- A note is void, or one chat takes it up. -/
theorem turn_note {g : Setting} {s : Stage τ} (hs : Keyed.IsSorted s.bot.chats)
    (hg : s.bot.setting = g) (n : Elapsed) :
    Turn g s s.world.now ((Deed.note n).taken? s.bot) ((handleNote n).run s).1
      ((handleNote n).run s).2 := by
  rw [Deed.taken?]
  cases ha : s.bot.awaited? n with
  | none =>
    rw [handleNote_of_void hs ha]
    exact Turn.idle (Idle.of_world hs rfl)
  | some t =>
    rw [awaited?, Option.bind_eq_some_iff] at ha
    obtain ⟨c, hc, ht⟩ := ha
    rw [handleNote_run, hc]
    dsimp only
    rw [onChat_run, hg]
    exact Turn.takes hc ht (Chat.goesOn_handleNote (s := ⟨c, s.world⟩) ht)

/-- **Every deed is a turn.** -/
theorem turn_act {g : Setting} {s : Stage τ} (hs : Keyed.IsSorted s.bot.chats)
    (hg : s.bot.setting = g) (d : Deed) :
    Turn g s (d.clock s.world.now) (d.taken? s.bot) (d.act.run s).1 (d.act.run s).2 := by
  cases d with
  | receive e => exact turn_receive hs hg e
  | note n => exact turn_note hs hg n
  | take =>
    exact Turn.idle (Idle.of_queue (b := { s.bot with queue := s.bot.queue.tail }) hs rfl rfl
      fun n => List.mem_of_mem_tail)
  | announce key step =>
    rw [Deed.act, Action.run_get_bind]
    dsimp only
    cases hc : s.bot.chat? key with
    | none => exact Turn.idle (Idle.of_world hs rfl)
    | some c =>
      dsimp only
      rw [onChat_run, hg]
      exact Turn.goes hc rfl rfl ((Chat.isCourse_goesOn g).goTo step ⟨c, s.world⟩)
  | takeAnnouncement =>
    exact Turn.idle (Idle.of_queue (b := { s.bot with announced := s.bot.announced.tail }) hs rfl
      rfl fun n hn => hn)
  | ring key slot => exact Turn.idle (idle_ringOne hs key slot)
  | pass t => exact Turn.idle (idle_passTo hs t)

end

end Bot
end ScriptedChat
