import ScriptedChat.Proofs.Bot.Dealing

/-!
# The tickets of a chat

Alarms that fall on the same millisecond ring in the order of their tickets.  All chats take their
tickets from the same roll, so the tickets of a chat tell how many others were set before; but
within one chat they only tell the order of its timers, which is the order of the script
(`Chat.InOrder`).

So a chat can be looked at without its tickets (`Chat.unticketed`).  Whatever becomes of it does
not depend on them, and neither does the order in which its own alarms ring (`Chat.ringsFirst`).

* `Chat.unticketed`, `Chat.ring_unticketed`, `Chat.awaited?_unticketed`, ...: what does not depend
  on tickets.
* `Chat.InOrder`: tickets in the order of the script.
* `Chat.ringsFirst_of_before`: the order in which the alarms of a chat ring.
-/

namespace ScriptedChat

/-- Alarms ring in the order of their moments, and of their tickets if they fall on the same one. -/
theorem Alarm.before_iff {a b : Alarm} :
    a.before b = true ↔ a.time < b.time ∨ a.time = b.time ∧ a.ticket ≤ b.ticket := by
  rw [before, Bool.or_eq_true, Bool.and_eq_true, decide_eq_true_eq, beq_iff_eq, decide_eq_true_eq]

/-! ## Without tickets -/

/-- The stopwatch with a blank ticket for its alarm. -/
def Stopwatch.unticketed (w : Stopwatch) : Stopwatch :=
  { w with alarm := w.alarm.map fun a => { a with ticket := 0 } }

/-- The timer with a blank ticket for its alarm. -/
def ActionTimer.unticketed (t : ActionTimer) : ActionTimer := { t with watch := t.watch.unticketed }

/-- The ticket of a stopwatch makes no difference to how it begins. -/
theorem Stopwatch.unticketed_begin (o : StopwatchOptions) (now : Int) (ticket ticket' : Nat) :
    (begin o now ticket).unticketed = (begin o now ticket').unticketed := by
  unfold begin
  dsimp only
  split
  · rfl
  split <;> rfl

theorem ActionTimer.unticketed_arm (now : Int) (ticket ticket' : Nat) (a : Action)
    (s : Option StopwatchState) :
    (arm now ticket a s).unticketed = (arm now ticket' a s).unticketed := by
  cases s with
  | none =>
    exact congrArg (fun watch => (⟨a, watch, false⟩ : ActionTimer))
      (Stopwatch.unticketed_begin _ now ticket ticket')
  | some s =>
    exact congrArg (fun watch => (⟨a, watch, s.done⟩ : ActionTimer))
      (Stopwatch.unticketed_begin _ now ticket ticket')

theorem map_unticketed_armTimers (now : Int) (ticket ticket' : Nat) (as : List Action)
    (ss : List StopwatchState) :
    (armTimers now ticket as ss).map ActionTimer.unticketed
      = (armTimers now ticket' as ss).map ActionTimer.unticketed := by
  refine List.ext_getElem? fun i => ?_
  rw [List.getElem?_map, List.getElem?_map, getElem?_armTimers, getElem?_armTimers,
    Option.map_map, Option.map_map]
  congr 1
  funext a
  exact ActionTimer.unticketed_arm now (ticket + i) (ticket' + i) a ss[i]?

/-- The alarm that a stopwatch is set to when it begins has its ticket. -/
theorem Stopwatch.ticket_begin {o : StopwatchOptions} {now : Int} {ticket : Nat} {a : Alarm}
    (h : (begin o now ticket).alarm = some a) : a.ticket = ticket := by
  unfold begin at h
  dsimp only at h
  split at h
  · cases h
  split at h
  · cases h
  · cases h
    rfl

theorem ActionTimer.ticket_arm {now : Int} {ticket : Nat} {x : Action} {s : Option StopwatchState}
    {a : Alarm} (h : (arm now ticket x s).watch.alarm = some a) : a.ticket = ticket := by
  cases s with
  | none => exact Stopwatch.ticket_begin h
  | some s => exact Stopwatch.ticket_begin h

namespace Chat

/-- The chat with blank tickets. -/
def unticketed (c : Chat) : Chat := { c with timers := c.timers.map ActionTimer.unticketed }

theorem getElem?_unticketed (c : Chat) (slot : Nat) :
    c.unticketed.timers[slot]? = c.timers[slot]?.map ActionTimer.unticketed := List.getElem?_map

/-- What is the same of two chats that differ in their tickets. -/
theorem fields_of_unticketed {c c' : Chat} (h : c'.unticketed = c.unticketed) :
    c'.id = c.id ∧ c'.stepId = c.stepId ∧ c'.refId = c.refId ∧ c'.active = c.active := by
  have hid := congrArg Chat.id h
  have hstep := congrArg Chat.stepId h
  have href := congrArg Chat.refId h
  have hactive := congrArg Chat.active h
  exact ⟨hid, hstep, href, hactive⟩

/-- Tickets are not kept. -/
theorem record_unticketed (c : Chat) : c.unticketed.record = c.record := by
  rw [record, record, unticketed]
  dsimp only
  rw [List.map_map]
  rfl

theorem overdueNotes_unticketed (c : Chat) : c.unticketed.overdueNotes = c.overdueNotes := by
  rw [overdueNotes, overdueNotes, unticketed, List.zipIdx_map, List.filter_map, List.map_map]
  rfl

/-- Tickets make no difference to whether a timer rings. -/
theorem ringTimer_unticketed (now : Int) (t : ActionTimer) :
    ringTimer now t.unticketed = (ringTimer now t).unticketed := by
  have hrings : t.unticketed.watch.ringsBy now = t.watch.ringsBy now :=
    Option.any_map
  rw [ringTimer, ringTimer, hrings]
  split <;> rfl

theorem ring_unticketed (c : Chat) (now : Int) :
    (c.ring now).unticketed = c.unticketed.ring now := by
  rw [ring, ring, unticketed, unticketed]
  dsimp only
  rw [List.map_map, List.map_map]
  refine congrArg (fun timers => ({ c with timers } : Chat)) (List.map_congr_left fun t _ => ?_)
  exact (ringTimer_unticketed now t).symm

theorem ringAt_unticketed (slot : Nat) (c : Chat) :
    Bot.ringAt slot c.unticketed = ((Bot.ringAt slot c).1.unticketed, (Bot.ringAt slot c).2) := by
  rw [Bot.ringAt, Bot.ringAt, getElem?_unticketed]
  cases c.timers[slot]? with
  | none => rfl
  | some t =>
    have hset : t.unticketed.watch.alarm.isNone = t.watch.alarm.isNone := Option.isNone_map
    rw [Option.map_some]
    dsimp only
    rw [hset]
    split
    · rfl
    · rw [unticketed, unticketed]
      dsimp only
      rw [List.map_set]
      rfl

/-- The same rings of two chats that differ in their tickets. -/
theorem ringAt_congr {c c' : Chat} (h : c'.unticketed = c.unticketed) (slot : Nat) :
    (Bot.ringAt slot c').1.unticketed = (Bot.ringAt slot c).1.unticketed
      ∧ (Bot.ringAt slot c').2 = (Bot.ringAt slot c).2 := by
  have hrung := congrArg (Bot.ringAt slot) h
  rw [ringAt_unticketed, ringAt_unticketed] at hrung
  exact Prod.mk.inj hrung

theorem awaited?_unticketed (c : Chat) (n : Elapsed) :
    c.unticketed.awaited? n = (c.awaited? n).map ActionTimer.unticketed := by
  rw [awaited?, awaited?, getElem?_unticketed]
  show (if n.generation = c.generation then _ else none) = _
  split
  · rw [Option.filter_map]
    rfl
  · rfl

theorem markHandled_unticketed (slot : Nat) (t : ActionTimer) (c : Chat) :
    (markHandled slot t c).unticketed = markHandled slot t.unticketed c.unticketed := by
  rw [markHandled, markHandled, unticketed, unticketed]
  dsimp only
  rw [List.map_set]
  rfl

theorem unticketed_ofRecord (scenario : Scenario) (r : ChatRecord) (now : Int)
    (tickets tickets' : Nat) :
    (ofRecord scenario r now tickets).unticketed
      = (ofRecord scenario r now tickets').unticketed := by
  unfold ofRecord
  dsimp only
  split
  · rename_i step _
    exact congrArg (fun timers => (⟨r.chatId, r.stepId, r.refId, r.active, timers, 0⟩ : Chat))
      (map_unticketed_armTimers now tickets tickets' step.delayedActions r.timers)
  · rfl

/-! ## Tickets in the order of the script -/

/-- The alarm of a timer. -/
def alarmAt? (c : Chat) (slot : Nat) : Option Alarm := c.timers[slot]?.bind fun t => t.watch.alarm

/-- The tickets of a chat are in the order of its timers. -/
def InOrder (c : Chat) : Prop :=
  ∀ ⦃i j a b⦄, i < j → c.alarmAt? i = some a → c.alarmAt? j = some b → a.ticket < b.ticket

/-- As long as no alarm is set, the tickets stay in order. -/
theorem InOrder.mono {c c' : Chat} (h : c.InOrder)
    (hmono : ∀ slot a, c'.alarmAt? slot = some a → c.alarmAt? slot = some a) : c'.InOrder :=
  fun _ _ _ _ hlt hi hj => h hlt (hmono _ _ hi) (hmono _ _ hj)

/-- To put something into a list of timers that has no other alarm sets none. -/
theorem InOrder.set {c : Chat} (h : c.InOrder) {slot : Nat} {t t' : ActionTimer}
    (ht : c.timers[slot]? = some t)
    (halarm : ∀ a, t'.watch.alarm = some a → t.watch.alarm = some a) :
    InOrder { c with timers := c.timers.set slot t' } := by
  refine h.mono fun i a ha => ?_
  rw [alarmAt?, List.getElem?_set] at ha
  split at ha
  · rename_i hi
    subst hi
    split at ha
    · rw [alarmAt?, ht]
      exact halarm a ha
    · cases ha
  · exact ha

theorem InOrder.ring {c : Chat} (h : c.InOrder) (now : Int) : (c.ring now).InOrder := by
  refine h.mono fun i a ha => ?_
  rw [alarmAt?, Chat.ring, List.getElem?_map] at ha
  rw [alarmAt?]
  cases ht : c.timers[i]? with
  | none =>
    rw [ht] at ha
    cases ha
  | some t =>
    rw [ht] at ha
    have ha' : (ringTimer now t).watch.alarm = some a := ha
    rw [ringTimer] at ha'
    split at ha'
    · cases ha'
    · exact ha'

theorem InOrder.ringAt {c : Chat} (h : c.InOrder) (slot : Nat) : (Bot.ringAt slot c).1.InOrder := by
  rw [Bot.ringAt]
  split
  · rename_i t ht
    split
    · exact h
    · exact h.set ht fun a ha => by cases ha
  · exact h

theorem InOrder.markHandled {c : Chat} (h : c.InOrder) {n : Elapsed} {t : ActionTimer}
    (ht : c.awaited? n = some t) : (markHandled n.slot t c).InOrder :=
  h.set (awaited?_eq_some.mp ht).2.1 fun _ ha => ha

/-- Timers that are armed take their tickets in order. -/
theorem inOrder_of_armTimers {c : Chat} {now : Int} {ticket : Nat} {as : List Action}
    {ss : List StopwatchState} (h : c.timers = armTimers now ticket as ss) : c.InOrder := by
  have hticket : ∀ {i a}, c.alarmAt? i = some a → a.ticket = ticket + i := by
    intro i a ha
    rw [alarmAt?, h, getElem?_armTimers, Option.bind_eq_some_iff] at ha
    obtain ⟨t, ht, ha⟩ := ha
    obtain ⟨x, -, rfl⟩ := Option.map_eq_some_iff.mp ht
    exact ActionTimer.ticket_arm ha
  intro i j a b hlt ha hb
  rw [hticket ha, hticket hb]
  exact Nat.add_lt_add_left hlt ticket

theorem inOrder_ofRecord (scenario : Scenario) (r : ChatRecord) (now : Int) (tickets : Nat) :
    (ofRecord scenario r now tickets).InOrder :=
  inOrder_of_armTimers (timers_ofRecord scenario r now tickets)

theorem inOrder_of_timers_nil {c : Chat} (h : c.timers = []) : c.InOrder := by
  intro i j a b _ ha _
  rw [alarmAt?, h] at ha
  cases ha

/-! ## The order in which alarms ring -/

/-- An alarm that rings, as it can be seen without its ticket: the moment, and the note. -/
def rung (x : Alarm × Elapsed) : Int × Elapsed := (x.1.time, x.2)

/-- Which of two alarms of one chat rings first: the one that is set to the earlier moment, or the
one that comes first in the script. -/
def ringsFirst (x y : Int × Elapsed) : Prop := x.1 < y.1 ∨ x.1 = y.1 ∧ x.2.slot ≤ y.2.slot

theorem mem_ringing {c : Chat} {now : Int} {x : Alarm × Elapsed} (h : x ∈ c.ringing now) :
    ∃ slot, c.alarmAt? slot = some x.1 ∧ x.2 = c.note slot := by
  rw [ringing, List.mem_filterMap] at h
  obtain ⟨⟨t, slot⟩, ht, hx⟩ := h
  have htimer : c.timers[slot]? = some t := List.mem_zipIdx_iff_getElem?.mp ht
  refine ⟨slot, ?_⟩
  rw [alarmAt?, htimer]
  dsimp only at hx ⊢
  split at hx
  · rename_i a ha
    split at hx
    · cases hx
      exact ⟨ha, rfl⟩
    · cases hx
  · cases hx

/-- Tickets make no difference to which alarms ring. -/
theorem map_rung_ringing {c c' : Chat} (h : c'.unticketed = c.unticketed) (now : Int) :
    (c'.ringing now).map rung = (c.ringing now).map rung := by
  have hblank : ∀ c : Chat, (c.ringing now).map rung = (c.unticketed.ringing now).map rung := by
    intro c
    rw [ringing, ringing, unticketed, List.zipIdx_map, List.filterMap_map, List.map_filterMap,
      List.map_filterMap]
    refine List.filterMap_congr fun t _ => ?_
    have halarm : t.1.unticketed.watch.alarm
        = t.1.watch.alarm.map fun a => { a with ticket := 0 } := rfl
    dsimp only [Function.comp_apply, Prod.map]
    rw [halarm]
    cases t.1.watch.alarm with
    | none => rfl
    | some a =>
      dsimp only [Option.map_some]
      split <;> rfl
  rw [hblank c', hblank c, h]

/-- Where tickets are in order, alarms of one chat ring in the order of the script if they fall on
the same moment. -/
theorem ringsFirst_of_before {c : Chat} (hc : c.InOrder) {now : Int} {x y : Alarm × Elapsed}
    (hx : x ∈ c.ringing now) (hy : y ∈ c.ringing now) (h : x.1.before y.1 = true) :
    ringsFirst (rung x) (rung y) := by
  obtain ⟨i, hi, hnote⟩ := mem_ringing hx
  obtain ⟨j, hj, hnote'⟩ := mem_ringing hy
  rw [Alarm.before_iff] at h
  refine h.imp_right fun ⟨htime, hticket⟩ => ⟨htime, ?_⟩
  show x.2.slot ≤ y.2.slot
  rw [hnote, hnote']
  show i ≤ j
  by_contra hlt
  have hgt := hc (Nat.lt_of_not_le hlt) hj hi
  exact Nat.lt_irrefl _ (Nat.lt_of_lt_of_le hgt hticket)

/-- No two alarms of a chat ring first before each other. -/
theorem ringsFirst_antisymm {c : Chat} {now : Int} {x y : Int × Elapsed}
    (hx : x ∈ (c.ringing now).map rung) (hy : y ∈ (c.ringing now).map rung)
    (h : ringsFirst x y) (h' : ringsFirst y x) : x = y := by
  obtain ⟨⟨a, n⟩, ha, rfl⟩ := List.mem_map.mp hx
  obtain ⟨⟨b, m⟩, hb, rfl⟩ := List.mem_map.mp hy
  obtain ⟨i, -, hi⟩ := mem_ringing ha
  obtain ⟨j, -, hj⟩ := mem_ringing hb
  dsimp only at hi hj
  subst hi hj
  rw [ringsFirst, rung, rung] at h h'
  simp only [note] at h h'
  have htime : a.time = b.time := by omega
  have hslot : i = j := by omega
  rw [rung, rung, htime, hslot]

end Chat
end ScriptedChat
