import ScriptedChat.Chat.Play
import ScriptedChat.Proofs.Scenario.Lookup
import ScriptedChat.Proofs.Stopwatch

/-!
# The timers of a chat

A chat that has moved has one timer for each delayed action of its step, in the order of the
actions (`Chat.Mirrors`).  What is kept of a timer says when it started, how long it takes and
whether its note has been handled; when it rings makes no difference to that.

## Restoring

A timer that goes on with what was kept of it is kept as the same again
(`ActionTimer.state_arm`).  So a chat that mirrors its step has the same record after it was
restored as before (`Chat.record_ofRecord_record`), whatever the time is.

* `ActionTimer.arm`, `getElem?_armTimers`: the timers that are started for a step.
* `Chat.delayed`, `Chat.Mirrors`: the timers that a chat should have.
* `Chat.record_ofRecord`, `Chat.record_ofRecord_record`: restoring what was kept.
* `Chat.Moved`, `Chat.Stayed`: what can happen to timers.
-/

namespace ScriptedChat

/-! ## Starting timers -/

/-- The timer of one action, which goes on with a state if one is kept of it. -/
def ActionTimer.arm (now : Int) (ticket : Nat) (a : Action) : Option StopwatchState → ActionTimer
  | none =>
    { action := a
      watch := Stopwatch.begin (StopwatchOptions.fresh a.delay) now ticket
      handled := false }
  | some s =>
    { action := a
      watch := Stopwatch.begin s.options now ticket
      handled := s.done }

/-- The timers that are started for some actions, one by one. -/
theorem getElem?_armTimers (now : Int) (ticket : Nat) (as : List Action)
    (ss : List StopwatchState) (i : Nat) :
    (armTimers now ticket as ss)[i]?
      = as[i]?.map fun a => ActionTimer.arm now (ticket + i) a ss[i]? := by
  induction as generalizing ticket ss i with
  | nil => rfl
  | cons a as ih =>
    cases ss with
    | nil =>
      cases i with
      | zero => rfl
      | succ i =>
        rw [armTimers, List.getElem?_cons_succ, List.getElem?_cons_succ, ih]
        simp only [List.getElem?_nil, Nat.add_assoc, Nat.add_comm 1]
    | cons s ss =>
      cases i with
      | zero => rfl
      | succ i =>
        rw [armTimers, List.getElem?_cons_succ, List.getElem?_cons_succ, ih]
        simp only [List.getElem?_cons_succ, Nat.add_assoc, Nat.add_comm 1]

theorem ActionTimer.action_arm (now : Int) (ticket : Nat) (a : Action)
    (s : Option StopwatchState) : (ActionTimer.arm now ticket a s).action = a := by
  cases s <;> rfl

/-- The timers that are started are those of the actions, in their order. -/
theorem map_action_armTimers (now : Int) (ticket : Nat) (as : List Action)
    (ss : List StopwatchState) : (armTimers now ticket as ss).map ActionTimer.action = as := by
  refine List.ext_getElem? fun i => ?_
  rw [List.getElem?_map, getElem?_armTimers, Option.map_map]
  cases as[i]? with
  | none => rfl
  | some a => exact congrArg some (ActionTimer.action_arm now (ticket + i) a ss[i]?)

/-- What is kept of a fresh timer. -/
def freshState (now : Int) (a : Action) : StopwatchState :=
  { start := Int64.ofInt now
    timeout := UInt64.ofNat (min (a.delay * 1000) 0xFFFFFFFFFFFFFFFF)
    done := false }

/-- A timer that goes on with what was kept of it is kept as the same again. -/
theorem ActionTimer.state_arm (now : Int) (ticket : Nat) (a : Action) (s : StopwatchState) :
    (ActionTimer.arm now ticket a (some s)).state = s := by
  rw [ActionTimer.arm, ActionTimer.state, Stopwatch.state_begin_options]

/-- A fresh timer is kept as one that starts now. -/
theorem ActionTimer.state_arm_none (now : Int) (ticket : Nat) (a : Action) :
    (ActionTimer.arm now ticket a none).state = freshState now a := by
  obtain ⟨hstart, htimeout⟩ := Stopwatch.state_begin_fresh a.delay now ticket
  rw [ActionTimer.arm, ActionTimer.state, hstart, htimeout, freshState]

/-- A timer that goes on and is overdue has not been handled. -/
theorem ActionTimer.handled_arm {now : Int} {ticket : Nat} {a : Action}
    {x : Option StopwatchState} (h : (ActionTimer.arm now ticket a x).watch.isOverdue = true) :
    (ActionTimer.arm now ticket a x).handled = false := by
  cases x with
  | none => rfl
  | some x =>
    cases hdone : x.done with
    | false => exact hdone
    | true =>
      have hoverdue : (ActionTimer.arm now ticket a (some x)).watch.overdue = false :=
        Stopwatch.overdue_begin_of_done hdone now ticket
      rw [Stopwatch.isOverdue, hoverdue] at h
      cases h

/-- A fresh timer rings when it ends, if the clock waits for that long. -/
theorem ActionTimer.alarm_arm_none {start : Int}
    (hstart : Clock.IsReading start) (ticket : Nat) {a : Action}
    (ha : a.delay * 1000 ≤ Clock.longestWait) :
    (ActionTimer.arm start ticket a none).watch.alarm
      = some ⟨(ActionTimer.arm start ticket a none).state.ending, ticket⟩ := by
  have halarm : (ActionTimer.arm start ticket a none).watch.alarm
      = some ⟨Clock.wake start (a.delay * 1000000000), ticket⟩ :=
    Stopwatch.alarm_begin_fresh hstart a.delay ticket
  have hnanos : a.delay * 1000000000 = a.delay * 1000 * nanosPerMilli := by
    rw [nanosPerMilli]
    omega
  have hmillis : a.delay * 1000 < 2 ^ 64 := by
    rw [Clock.longestWait] at ha
    omega
  have htimeout : (UInt64.ofNat (min (a.delay * 1000) 0xFFFFFFFFFFFFFFFF)).toNat
      = a.delay * 1000 := by
    rw [Nat.min_eq_left (by omega), UInt64.toNat_ofNat_of_lt' hmillis]
  rw [halarm, ActionTimer.state_arm_none, StopwatchState.ending, freshState, hstart.toInt_ofInt,
    htimeout, hnanos, Stopwatch.wake_millis, Nat.min_eq_left ha]

/-- Fresh timers are kept as fresh ones. -/
theorem map_state_armTimers_nil (now : Int) (ticket : Nat) (as : List Action) :
    (armTimers now ticket as []).map ActionTimer.state = as.map (freshState now) := by
  refine List.ext_getElem? fun i => ?_
  rw [List.getElem?_map, List.getElem?_map, getElem?_armTimers, List.getElem?_nil, Option.map_map]
  congr 1
  funext a
  exact ActionTimer.state_arm_none now (ticket + i) a

/-- If a state is kept of every timer, these are the states of the timers that go on. -/
theorem map_state_armTimers {now : Int} {ticket : Nat} {as : List Action}
    {ss : List StopwatchState} (h : ss.length = as.length) :
    (armTimers now ticket as ss).map ActionTimer.state = ss := by
  refine List.ext_getElem? fun i => ?_
  rw [List.getElem?_map, getElem?_armTimers, Option.map_map]
  by_cases hi : i < ss.length
  · have hi' : i < as.length := h ▸ hi
    rw [List.getElem?_eq_getElem hi', List.getElem?_eq_getElem hi]
    exact congrArg some (ActionTimer.state_arm now (ticket + i) as[i] ss[i])
  · rw [List.getElem?_eq_none (by omega), List.getElem?_eq_none (by omega)]
    rfl

namespace Chat

/-! ## The timers that a chat should have -/

/-- The delayed actions of the step that a chat is on; none if the scenario does not have it. -/
def delayed (scenario : Scenario) (c : Chat) : List Action :=
  match c.step? scenario with
  | some step => step.delayedActions
  | none => []

/-- The chat has one timer for each delayed action of its step, in their order. -/
def Mirrors (scenario : Scenario) (c : Chat) : Prop :=
  c.timers.map ActionTimer.action = c.delayed scenario

theorem timers_record (c : Chat) : c.record.timers = c.timers.map ActionTimer.state := rfl

/-- The timers of a chat that is restored. -/
theorem timers_ofRecord (scenario : Scenario) (r : ChatRecord) (now : Int) (tickets : Nat) :
    (ofRecord scenario r now tickets).timers
      = armTimers now tickets ((ofRecord scenario r now tickets).delayed scenario) r.timers := by
  unfold ofRecord
  dsimp only
  split
  · rename_i step hstep
    show armTimers now tickets step.delayedActions r.timers
      = armTimers now tickets (match scenario.step? _ with
        | some step => step.delayedActions
        | none => []) r.timers
    have : scenario.step? (r.stepId.getD "") = some step := hstep
    rw [show stepLabel _ = r.stepId.getD "" from rfl, this]
  · rename_i hstep
    rw [delayed, hstep]
    rfl

/-- Apart from its timers, a chat that is restored is what was kept of it. -/
theorem fields_ofRecord (scenario : Scenario) (r : ChatRecord) (now : Int) (tickets : Nat) :
    (ofRecord scenario r now tickets).id = r.chatId
      ∧ (ofRecord scenario r now tickets).stepId = r.stepId
      ∧ (ofRecord scenario r now tickets).refId = r.refId
      ∧ (ofRecord scenario r now tickets).active = r.active
      ∧ (ofRecord scenario r now tickets).generation = 0 := by
  unfold ofRecord
  dsimp only
  split <;> exact ⟨rfl, rfl, rfl, rfl, rfl⟩

/-- A chat that is restored mirrors its step, whatever was kept of its timers. -/
theorem mirrors_ofRecord (scenario : Scenario) (r : ChatRecord) (now : Int) (tickets : Nat) :
    Mirrors scenario (ofRecord scenario r now tickets) := by
  rw [Mirrors, timers_ofRecord, map_action_armTimers]

/-- What a chat should have depends on nothing but its step. -/
theorem delayed_congr {scenario : Scenario} {c c' : Chat} (h : c'.stepId = c.stepId) :
    c'.delayed scenario = c.delayed scenario := by
  rw [delayed, delayed, step?, step?, stepLabel, stepLabel, h]

/-- **A chat is restored to what was kept of it**, if that has a timer for each delayed action
of its step. -/
theorem record_ofRecord {scenario : Scenario} {r : ChatRecord} {now : Int} {tickets : Nat}
    (h : r.timers.length = ((ofRecord scenario r now tickets).delayed scenario).length) :
    (ofRecord scenario r now tickets).record = r := by
  obtain ⟨hid, hstep, href, hactive, -⟩ := fields_ofRecord scenario r now tickets
  have htimers : (ofRecord scenario r now tickets).timers.map ActionTimer.state = r.timers := by
    rw [timers_ofRecord, map_state_armTimers h]
  rw [record, hid, hstep, href, hactive, htimers]

/-- What is kept of a chat that mirrors its step is enough to restore it. -/
theorem record_ofRecord_record {scenario : Scenario} {c : Chat} (h : c.Mirrors scenario)
    (now : Int) (tickets : Nat) : (ofRecord scenario c.record now tickets).record = c.record := by
  apply record_ofRecord
  have hstep := (fields_ofRecord scenario c.record now tickets).2.1
  rw [delayed_congr (c := c) hstep, ← h, timers_record, List.length_map, List.length_map]

/-! ## Moving -/

/-- The chat has moved to a step: its timers are those of the step, and they begin now. -/
structure Moved (scenario : Scenario) (now : Int) (c c' : Chat) : Prop where
  generation : c.generation < c'.generation
  step : ∃ step, scenario.step? step.id = some step ∧ c'.stepId = some step.id
  mirrors : c'.Mirrors scenario
  states : c'.timers.map ActionTimer.state = (c'.delayed scenario).map (freshState now)

/-- The chat has stayed where it is: its timers are what they were, apart from their alarms. -/
structure Stayed (c c' : Chat) : Prop where
  generation : c'.generation = c.generation
  step : c'.stepId = c.stepId
  actions : c'.timers.map ActionTimer.action = c.timers.map ActionTimer.action
  states : c'.timers.map ActionTimer.state = c.timers.map ActionTimer.state

theorem Stayed.refl (c : Chat) : Stayed c c := ⟨rfl, rfl, rfl, rfl⟩

theorem Stayed.trans {c c' c'' : Chat} (h : Stayed c c') (h' : Stayed c' c'') : Stayed c c'' :=
  ⟨h'.generation.trans h.generation, h'.step.trans h.step, h'.actions.trans h.actions,
    h'.states.trans h.states⟩

/-- A chat that stays still mirrors its step. -/
theorem Stayed.mirrors {scenario : Scenario} {c c' : Chat} (h : Stayed c c')
    (hc : c.Mirrors scenario) : c'.Mirrors scenario := by
  rw [Mirrors, h.actions, delayed_congr h.step]
  exact hc

/-- To stay before or after a move makes no difference to it. -/
theorem Moved.of_stayed {scenario : Scenario} {now : Int} {c c' c'' : Chat}
    (h : Stayed c c') (h' : Moved scenario now c' c'') : Moved scenario now c c'' :=
  ⟨h.generation ▸ h'.generation, h'.step, h'.mirrors, h'.states⟩

theorem Moved.stayed {scenario : Scenario} {now : Int} {c c' c'' : Chat}
    (h : Moved scenario now c c') (h' : Stayed c' c'') : Moved scenario now c c'' := by
  refine ⟨h'.generation ▸ h.generation, ?_, h'.mirrors h.mirrors, ?_⟩
  · rw [h'.step]
    exact h.step
  · rw [h'.states, delayed_congr h'.step]
    exact h.states

theorem Moved.trans {scenario : Scenario} {now : Int} {c c' c'' : Chat}
    (h : Moved scenario now c c') (h' : Moved scenario now c' c'') : Moved scenario now c c'' :=
  ⟨Nat.lt_trans h.generation h'.generation, h'.step, h'.mirrors, h'.states⟩

/-- No timer of a chat that has just moved is done, and all of them begin now. -/
theorem Moved.fresh {scenario : Scenario} {now : Int} {c c' : Chat}
    (h : Moved scenario now c c') {x : StopwatchState} (hx : x ∈ c'.record.timers) :
    x.start = Int64.ofInt now ∧ x.done = false := by
  rw [timers_record, h.states] at hx
  obtain ⟨a, -, rfl⟩ := List.mem_map.mp hx
  exact ⟨rfl, rfl⟩

/-- A scenario finds a step under its own id. -/
theorem step?_id {scenario : Scenario} {id : String} {step : Step}
    (h : scenario.step? id = some step) : step.id = id := Scenario.id_of_step? h

theorem moved_enterStep {τ : Type} {scenario : Scenario} {id : String} {step : Step}
    (h : scenario.step? id = some step) (s : Scene τ) :
    Moved scenario s.world.now s.chat (enterStep step s).chat := by
  have hid : scenario.step? step.id = some step := by rw [step?_id h, h]
  have hdelayed : (enterStep step s).chat.delayed scenario = step.delayedActions := by
    show (match scenario.step? step.id with
      | some step => step.delayedActions
      | none => []) = step.delayedActions
    rw [hid]
  refine ⟨Nat.lt_succ_self _, ⟨step, hid, rfl⟩, ?_, ?_⟩
  · rw [Mirrors, hdelayed]
    exact map_action_armTimers _ _ _ _
  · rw [hdelayed]
    exact map_state_armTimers_nil _ _ _

/-! ## Ringing, and taking up notes -/

/-- To put something into a list that looks like what was there makes no difference to how the
list looks. -/
theorem map_set_of_getElem? {α β : Type} {f : α → β} {l : List α} {i : Nat} {a b : α}
    (ha : l[i]? = some a) (hf : f b = f a) : (l.set i b).map f = l.map f := by
  obtain ⟨hlt, rfl⟩ := List.getElem?_eq_some_iff.mp ha
  have hlt' : i < (l.map f).length := by rwa [List.length_map]
  rw [List.map_set, hf, ← List.getElem_map f (h := hlt'), List.set_getElem_self]


theorem state_ringTimer (now : Int) (t : ActionTimer) :
    (ringTimer now t).action = t.action ∧ (ringTimer now t).state = t.state := by
  unfold ringTimer
  split <;> exact ⟨rfl, rfl⟩

/-- When timers ring, nothing changes in what is kept of a chat. -/
theorem stayed_ring (c : Chat) (now : Int) : Stayed c (c.ring now) := by
  refine ⟨rfl, rfl, ?_, ?_⟩
  · show (c.timers.map (ringTimer now)).map ActionTimer.action = _
    rw [List.map_map]
    exact List.map_congr_left fun t _ => (state_ringTimer now t).1
  · show (c.timers.map (ringTimer now)).map ActionTimer.state = _
    rw [List.map_map]
    exact List.map_congr_left fun t _ => (state_ringTimer now t).2

/-- The places of the timers that were restored after their end. -/
def overdueSlots (c : Chat) : List Nat :=
  (c.timers.zipIdx.filter fun t => t.1.watch.isOverdue).map Prod.snd

theorem overdueNotes_eq (c : Chat) : c.overdueNotes = c.overdueSlots.map c.note := by
  rw [overdueNotes, overdueSlots, List.map_map]
  rfl

theorem mem_overdueSlots {c : Chat} {i : Nat} :
    i ∈ c.overdueSlots ↔ ∃ t, c.timers[i]? = some t ∧ t.watch.isOverdue = true := by
  rw [overdueSlots, List.mem_map]
  constructor
  · rintro ⟨⟨t, i⟩, hmem, rfl⟩
    obtain ⟨hmem, hoverdue⟩ := List.mem_filter.mp hmem
    exact ⟨t, List.mem_zipIdx_iff_getElem?.mp hmem, hoverdue⟩
  · rintro ⟨t, ht, hoverdue⟩
    exact ⟨(t, i), List.mem_filter.mpr ⟨List.mem_zipIdx_iff_getElem?.mpr ht, hoverdue⟩, rfl⟩

/-- They are in the order of the script. -/
theorem pairwise_overdueSlots (c : Chat) : c.overdueSlots.Pairwise (· < ·) := by
  have hall : (c.timers.zipIdx.map Prod.snd).Pairwise (· < ·) := by
    rw [List.zipIdx_map_snd]
    exact List.pairwise_lt_range'
  exact hall.sublist (List.filter_sublist.map _)

/-- The notes of a chat that was restored are those of the timers whose end had passed. -/
theorem mem_overdueNotes {c : Chat} {n : Elapsed} :
    n ∈ c.overdueNotes ↔ ∃ slot t, n = c.note slot ∧ c.timers[slot]? = some t
      ∧ t.watch.isOverdue = true := by
  rw [overdueNotes_eq, List.mem_map]
  constructor
  · rintro ⟨slot, hslot, rfl⟩
    obtain ⟨t, ht, hoverdue⟩ := mem_overdueSlots.mp hslot
    exact ⟨slot, t, rfl, ht, hoverdue⟩
  · rintro ⟨slot, t, rfl, ht, hoverdue⟩
    exact ⟨slot, mem_overdueSlots.mpr ⟨t, ht, hoverdue⟩, rfl⟩

theorem nodup_overdueNotes (c : Chat) : c.overdueNotes.Nodup := by
  rw [overdueNotes_eq]
  refine (c.pairwise_overdueSlots.imp fun hlt => Nat.ne_of_lt hlt).map c.note fun i j hij heq => ?_
  exact hij (congrArg Elapsed.slot heq)

theorem awaited?_eq_some {c : Chat} {n : Elapsed} {t : ActionTimer} :
    c.awaited? n = some t
      ↔ n.generation = c.generation ∧ c.timers[n.slot]? = some t ∧ t.handled = false := by
  rw [awaited?]
  split
  · rename_i hgen
    rw [Option.filter_eq_some_iff]
    simp [hgen]
  · rename_i hgen
    simp [hgen]

/-- The timer whose note is taken up is done; nothing else changes in what is kept. -/
theorem states_markHandled (c : Chat) (slot : Nat) (t : ActionTimer) :
    (markHandled slot t c).timers.map ActionTimer.state
      = (c.timers.map ActionTimer.state).set slot { t.state with done := true } := by
  rw [markHandled, List.map_set]
  rfl

theorem actions_markHandled {c : Chat} {slot : Nat} {t : ActionTimer}
    (h : c.timers[slot]? = some t) :
    (markHandled slot t c).timers.map ActionTimer.action = c.timers.map ActionTimer.action :=
  map_set_of_getElem? h rfl

end Chat

end ScriptedChat
