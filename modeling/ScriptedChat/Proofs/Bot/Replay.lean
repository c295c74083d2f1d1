import ScriptedChat.Proofs.Bot.Life
import ScriptedChat.Proofs.InTurn

/-!
# Timers that ended while nobody ran them

When a chat is restored, the timers that have ended in the meantime leave their notes at once, in
the order of the script.  Had somebody been there, each would have rung at its own end, so the
one that ends first would have been handled first.

In both cases notes are handled up to the first one whose action leads to another step; that one
makes all the others void.  So the two orders can differ in what is sent, and in whether a
reminder is sent at all: if a timer that leads on stands in front of one that ended before it, the
latter is lost.  The two come to the same if and only if every timer that acts has ended no later
than all overdue timers behind it (`Chat.DueInTurn`).

* `Chat.acted`: the places of the timers that act while some notes are handled.
* `Chat.handleNotes_upTo`: nothing comes of the notes behind the first one that leads on.
* `Chat.notes_of_ringing`: the order in which timers ring while somebody runs them.
* `Chat.replay_iff_dueInTurn`: when the order of the script is the order of the ends.
-/

namespace ScriptedChat
namespace Chat

variable {τ : Type}

/-! ## What an action leaves of the timers -/

/-- The chat has the timers that it had. -/
def SameTimers (c c' : Chat) : Prop := c'.timers = c.timers ∧ c'.generation = c.generation

theorem sameTimers_save (g : Setting) (s : Scene τ) :
    SameTimers s.chat ((Chat.save g).run s).2.chat := by
  rw [chat_save]
  exact ⟨rfl, rfl⟩

/-- The action of a timer leads to a step of the scenario. -/
def leadsOn (scenario : Scenario) (a : Action) : Bool :=
  (a.reference.step.bind scenario.step?).isSome

/-- The timer in a place leads to a step of the scenario. -/
def leadsAt (scenario : Scenario) (c : Chat) (slot : Nat) : Bool :=
  (c.timers[slot]?).any fun t => leadsOn scenario t.action

/-- The moment at which the timer in a place ends. -/
def endingAt (c : Chat) (slot : Nat) : Int :=
  match c.timers[slot]? with
  | some t => t.state.ending
  | none => 0

variable [Transport τ]

theorem sameTimers_send (g : Setting) (text : String) (buttons : Option (List String))
    (s : Scene τ) : SameTimers s.chat ((send g text buttons).run s).2.chat := by
  rw [send_run]
  rcases World.post (.message s.chat.id text buttons) s.world with ⟨e | _, world⟩
  · dsimp only
    split
    · exact sameTimers_save g ⟨{ s.chat with active := false }, world⟩
    · exact ⟨rfl, rfl⟩
  · exact ⟨rfl, rfl⟩

/-- An action that does not lead on leaves the timers as they are. -/
theorem sameTimers_runAction {g : Setting} {a : Action} (h : leadsOn g.scenario a = false)
    (s : Scene τ) : SameTimers s.chat ((runAction g a).run s).2.chat := by
  rw [leadsOn, Option.isSome_eq_false_iff, Option.isNone_iff_eq_none] at h
  have hsend := sameTimers_send g a.target none s
  rw [runAction, h]
  dsimp only
  rw [Action.run_bind]
  generalize (send g a.target none).run s = r at hsend
  obtain ⟨e | _, t⟩ := r
  · exact hsend
  · obtain ⟨htimers, hgeneration⟩ := sameTimers_save g t
    exact ⟨htimers.trans hsend.1, hgeneration.trans hsend.2⟩

/-- An action that leads on makes the generation larger, if it does not fail. -/
theorem generation_runAction {g : Setting} {a : Action} (h : leadsOn g.scenario a = true)
    {s t : Scene τ} (hrun : (runAction g a).run s = (.ok (), t)) :
    s.chat.generation < t.chat.generation := by
  obtain ⟨step, hstep⟩ := Option.isSome_iff_exists.mp h
  obtain ⟨id, -, hid⟩ := Option.bind_eq_some_iff.mp hstep
  have hself : g.scenario.step? step.id = some step := by rw [step?_id hid, hid]
  have hcourse : IsCourse g (GoesOn g : Scene τ → Scene τ → Prop) := isCourse_goesOn g
  have htext := Bot.generation_of_goesOn (hcourse.sendText a.reference.text s)
  rw [runAction, hstep] at hrun
  dsimp only at hrun
  rw [Action.run_bind] at hrun
  generalize (sendText g a.reference.text).run s = r at hrun htext
  obtain ⟨e | _, u⟩ := r
  · cases hrun
  dsimp only at hrun htext
  rw [Action.run_bind, moveTo_run_of_some hself] at hrun
  have hsave := chat_save g (enterStep step u)
  generalize (Chat.save g).run (enterStep step u) = r at hrun hsave
  obtain ⟨e | _, v⟩ := r
  · cases hrun
  dsimp only at hrun hsave
  have hshow := Bot.generation_of_goesOn (hcourse.showStep v)
  have hv : v.chat.generation = u.chat.generation + 1 := by
    rw [hsave]
    rfl
  have ht : ((Chat.showStep g).run v).2 = t := congrArg Prod.snd hrun
  rw [ht] at hshow
  omega

/-! ## Notes that are handled one after the other -/

/-- Handles some notes, unless one of them fails. -/
def handleNotes (g : Setting) (ns : List Elapsed) : ChatAction τ Unit := ns.forM (handleNote g)

/-- The places of the timers that act while some notes are handled. -/
def acted (g : Setting) : List Elapsed → Scene τ → List Nat
  | [], _ => []
  | n :: ns, s =>
    let rest := acted g ns ((handleNote g n).run s).2
    if (s.chat.awaited? n).isSome then n.slot :: rest else rest

theorem handleNotes_nil (g : Setting) (s : Scene τ) : (handleNotes g []).run s = (.ok (), s) := rfl

theorem handleNotes_cons (g : Setting) (n : Elapsed) (ns : List Elapsed) (s : Scene τ) :
    (handleNotes g (n :: ns)).run s
      = match (handleNote g n).run s with
        | (.ok (), t) => (handleNotes g ns).run t
        | (.error e, t) => (.error e, t) := by
  have hforM : (handleNotes g (n :: ns) : ChatAction τ Unit)
      = (handleNote g n >>= fun _ => handleNotes g ns) := rfl
  rw [hforM, Action.run_bind]
  rcases (handleNote g n).run s with ⟨_ | _, t⟩ <;> rfl

/-- Nothing comes of notes of earlier generations. -/
theorem handleNotes_of_lt {g : Setting} {ns : List Elapsed} {s : Scene τ}
    (h : ∀ n ∈ ns, n.generation < s.chat.generation) :
    (handleNotes g ns).run s = (.ok (), s) ∧ acted g ns s = [] := by
  induction ns with
  | nil => exact ⟨rfl, rfl⟩
  | cons n ns ih =>
    have hvoid : s.chat.awaited? n = none :=
      IsSpent.awaited? (Or.inl (h n (List.mem_cons_self ..)))
    have hrun : (handleNote g n).run s = (.ok (), s) := by
      rw [handleNote_run, hvoid]
    obtain ⟨hrest, hacted⟩ := ih fun m hm => h m (List.mem_cons_of_mem n hm)
    rw [handleNotes_cons, acted, hrun, hvoid]
    exact ⟨hrest, hacted⟩

/-- The timers in some places are still to be handled, and they are those of a chat. -/
structure Awaits (c : Chat) (slots : List Nat) (c' : Chat) : Prop where
  generation : c'.generation = c.generation
  timers : ∀ i ∈ slots, ∃ t, c.timers[i]? = some t ∧ c'.timers[i]? = some t ∧ t.handled = false

/-- When a timer acts that does not lead on, the others are still to be handled. -/
theorem Awaits.tail {g : Setting} {c : Chat} {i : Nat} {slots : List Nat} {s : Scene τ}
    (h : Awaits c (i :: slots) s.chat) (hi : i ∉ slots) {t : ActionTimer}
    (hlead : leadsOn g.scenario t.action = false) :
    Awaits c slots ((runAction g t.action).run { s with chat := markHandled i t s.chat }).2.chat
    := by
  obtain ⟨htimers, hgeneration⟩ :=
    sameTimers_runAction hlead { s with chat := markHandled i t s.chat }
  refine ⟨hgeneration.trans h.generation, fun j hj => ?_⟩
  obtain ⟨x, hx, hx', hhandled⟩ := h.timers j (List.mem_cons_of_mem i hj)
  have hne : i ≠ j := fun heq => hi (heq ▸ hj)
  refine ⟨x, hx, ?_, hhandled⟩
  rw [htimers]
  show (s.chat.timers.set i _)[j]? = some x
  rw [List.getElem?_set, if_neg hne]
  exact hx'

/-- **Nothing comes of the notes behind the first one that leads on**, and all notes up to that one
act, if none of them fails. -/
theorem handleNotes_upTo {g : Setting} {c : Chat} {slots : List Nat} {s : Scene τ}
    (h : Awaits c slots s.chat) (hnodup : slots.Nodup) :
    (handleNotes g (slots.map c.note)).run s
        = (handleNotes g ((InTurn.upTo (leadsAt g.scenario c) slots).map c.note)).run s
      ∧ (((handleNotes g (slots.map c.note)).run s).1 = .ok () →
          acted g (slots.map c.note) s = InTurn.upTo (leadsAt g.scenario c) slots) := by
  induction slots generalizing s with
  | nil => exact ⟨rfl, fun _ => rfl⟩
  | cons i slots ih =>
    obtain ⟨hi, hnodup'⟩ := List.nodup_cons.mp hnodup
    obtain ⟨t, ht, ht', hhandled⟩ := h.timers i (List.mem_cons_self ..)
    have hawaited : s.chat.awaited? (c.note i) = some t :=
      awaited?_eq_some.mpr ⟨h.generation.symm, ht', hhandled⟩
    have hleads : leadsAt g.scenario c i = leadsOn g.scenario t.action := by
      rw [leadsAt, ht]
      rfl
    have hrun : (handleNote g (c.note i)).run s
        = (runAction g t.action).run { s with chat := markHandled i t s.chat } := by
      rw [handleNote_run, hawaited]
      rfl
    have hgeneration : (markHandled i t s.chat).generation = c.generation := h.generation
    have htail := h.tail (g := g) hi (t := t)
    have hmoves : ∀ u, (runAction g t.action).run { s with chat := markHandled i t s.chat }
          = (.ok (), u) → leadsOn g.scenario t.action = true →
        c.generation < u.chat.generation := by
      intro u hu hlead
      have hlt := generation_runAction hlead hu
      dsimp only at hlt
      omega
    have hcons := handleNotes_cons g (c.note i) (s := s)
    rw [List.map_cons, acted, hawaited, InTurn.upTo, hleads]
    rw [hrun] at hcons ⊢
    generalize (runAction g t.action).run { s with chat := markHandled i t s.chat } = r
      at htail hmoves hcons ⊢
    obtain ⟨e | _, u⟩ := r
    · -- A failure is the end of it, in any case.
      refine ⟨?_, fun hok => ?_⟩
      · split <;> rw [hcons] <;> rw [List.map_cons, hcons]
      · rw [hcons] at hok
        cases hok
    · cases hlead : leadsOn g.scenario t.action with
      | true =>
        have hlate : ∀ n ∈ slots.map c.note, n.generation < u.chat.generation := by
          intro n hn
          obtain ⟨j, -, rfl⟩ := List.mem_map.mp hn
          exact hmoves u rfl hlead
        have hvoid := handleNotes_of_lt (g := g) hlate
        rw [if_pos rfl, List.map_singleton, hcons, hcons]
        dsimp only
        rw [hvoid.1, hvoid.2, handleNotes_nil]
        exact ⟨rfl, fun _ => rfl⟩
      | false =>
        obtain ⟨hsame, hacted⟩ := ih (htail hlead) hnodup'
        rw [if_neg Bool.false_ne_true, List.map_cons, hcons, hcons]
        dsimp only
        refine ⟨hsame, fun hok => ?_⟩
        rw [hacted hok]
        rfl

omit [Transport τ]

/-! ## Timers that were overdue -/

/-- The overdue timers of a chat that was restored are still to be handled. -/
theorem awaits_overdueSlots (scenario : Scenario) (r : ChatRecord) (now : Int) (tickets : Nat) :
    Awaits (ofRecord scenario r now tickets) (ofRecord scenario r now tickets).overdueSlots
      (ofRecord scenario r now tickets) := by
  refine ⟨rfl, fun i hi => ?_⟩
  obtain ⟨t, ht, hoverdue⟩ := mem_overdueSlots.mp hi
  refine ⟨t, ht, ht, ?_⟩
  rw [timers_ofRecord, getElem?_armTimers] at ht
  obtain ⟨a, -, rfl⟩ := Option.map_eq_some_iff.mp ht
  exact ActionTimer.handled_arm hoverdue

/-! ## The order in which timers ring -/

/-- The places of the timers that have ended by a moment. -/
def endedSlots (c : Chat) (now : Int) : List Nat :=
  (c.timers.zipIdx.filter fun t => decide (t.1.state.ending ≤ now)).map Prod.snd

theorem endingAt_of_mem_zipIdx {c : Chat} {t : ActionTimer × Nat} (h : t ∈ c.timers.zipIdx) :
    c.endingAt t.2 = t.1.state.ending := by
  rw [endingAt, List.mem_zipIdx_iff_getElem?.mp h]

/-- What rings by a moment, if every alarm is set to the end of its timer. -/
theorem filterMap_alarm (c : Chat) (now : Int) (ticket : Nat) {l : List (ActionTimer × Nat)}
    (h : ∀ t ∈ l, t.1.watch.alarm = some ⟨t.1.state.ending, ticket + t.2⟩) :
    (l.filterMap fun t =>
        match t.1.watch.alarm with
        | some a => if a.time ≤ now then some (a, c.note t.2) else none
        | none => none)
      = (l.filter fun t => decide (t.1.state.ending ≤ now)).map
          fun t => (⟨t.1.state.ending, ticket + t.2⟩, c.note t.2) := by
  induction l with
  | nil => rfl
  | cons t l ih =>
    have hrest := ih fun u hu => h u (List.mem_cons_of_mem t hu)
    rw [List.filterMap_cons, List.filter_cons, h t (List.mem_cons_self ..)]
    dsimp only
    by_cases hend : t.1.state.ending ≤ now
    · rw [if_pos hend, if_pos (decide_eq_true hend), List.map_cons, hrest]
    · rw [if_neg hend, if_neg (by rw [decide_eq_true_eq]; exact hend), hrest]

/-- What rings by a moment in a chat that has moved, in the order of the script. -/
theorem ringing_eq {c : Chat} {start : Int} {ticket : Nat} {as : List Action}
    (hstart : Clock.IsReading start) (hc : c.timers = armTimers start ticket as [])
    (has : ∀ a ∈ as, a.delay * 1000 ≤ Clock.longestWait) (now : Int) :
    c.ringing now
      = (c.endedSlots now).map fun i => (⟨c.endingAt i, ticket + i⟩, c.note i) := by
  have halarm : ∀ t ∈ c.timers.zipIdx,
      t.1.watch.alarm = some ⟨t.1.state.ending, ticket + t.2⟩ := by
    intro t ht
    have hget := List.mem_zipIdx_iff_getElem?.mp ht
    rw [hc, getElem?_armTimers, List.getElem?_nil] at hget
    obtain ⟨a, ha, heq⟩ := Option.map_eq_some_iff.mp hget
    rw [← heq]
    exact ActionTimer.alarm_arm_none hstart (ticket + t.2) (has a (List.mem_of_getElem? ha))
  have hringing : c.ringing now = _ := filterMap_alarm c now ticket halarm
  rw [hringing, endedSlots, List.map_map]
  refine List.map_congr_left fun t ht => ?_
  rw [Function.comp_apply, endingAt_of_mem_zipIdx (List.mem_filter.mp ht).1]

/-- **Timers ring in the order in which they end**, and in the order of the script at the same
moment, while somebody runs them. -/
theorem notes_of_ringing {c : Chat} {start : Int} {ticket : Nat} {as : List Action}
    (hstart : Clock.IsReading start) (hc : c.timers = armTimers start ticket as [])
    (has : ∀ a ∈ as, a.delay * 1000 ≤ Clock.longestWait) (now : Int) :
    ((c.ringing now).mergeSort fun x y => x.1.before y.1).map Prod.snd
      = (InTurn.inOrder c.endingAt (c.endedSlots now)).map c.note := by
  rw [ringing_eq hstart hc has, ← List.map_mergeSort (r := InTurn.before c.endingAt),
    List.map_map]
  · rfl
  · intro i _ j _
    rw [InTurn.before, Alarm.before]
    simp only [Nat.add_le_add_iff_left]

/-! ## When a replay is in order -/

/-- Every timer that acts when the notes are handled in the order of the script has ended no later
than all overdue timers behind it. -/
def DueInTurn (scenario : Scenario) (c : Chat) : Prop :=
  ∀ i ∈ InTurn.upTo (leadsAt scenario c) c.overdueSlots, ∀ j ∈ c.overdueSlots,
    i < j → c.endingAt i ≤ c.endingAt j

instance (scenario : Scenario) (c : Chat) : Decidable (DueInTurn scenario c) := by
  unfold DueInTurn
  infer_instance

/-- **When a replay is in order.**  If the notes of a chat that was restored are handled without a
failure, then the overdue timers act in the order of the script, up to the first one that leads
on.  These are the timers that would have acted live, in the order in which they end, if and only
if the timers are due in turn.  In that case it makes no difference in which of the two orders the
notes are handled. -/
theorem replay_iff_dueInTurn [Transport τ] {g : Setting} {r : ChatRecord} {now : Int}
    {tickets : Nat} {c : Chat} (hc : c = ofRecord g.scenario r now tickets) {w : World τ}
    {s' : Scene τ} (h : (handleNotes g c.overdueNotes).run ⟨c, w⟩ = (.ok (), s')) :
    acted g c.overdueNotes ⟨c, w⟩ = InTurn.upTo (leadsAt g.scenario c) c.overdueSlots
      ∧ (acted g c.overdueNotes ⟨c, w⟩
            = InTurn.upTo (leadsAt g.scenario c) (InTurn.inOrder c.endingAt c.overdueSlots)
          ↔ DueInTurn g.scenario c)
      ∧ (DueInTurn g.scenario c →
          (handleNotes g ((InTurn.inOrder c.endingAt c.overdueSlots).map c.note)).run ⟨c, w⟩
            = (.ok (), s')) := by
  have hawaits : Awaits c c.overdueSlots c := hc ▸ awaits_overdueSlots g.scenario r now tickets
  have hsorted := c.pairwise_overdueSlots
  have hnodup : c.overdueSlots.Nodup := hsorted.imp fun hlt => ne_of_lt hlt
  have hperm := InTurn.perm_inOrder c.endingAt c.overdueSlots
  obtain ⟨hsame, hacted⟩ := handleNotes_upTo (g := g) (s := ⟨c, w⟩) hawaits hnodup
  rw [overdueNotes_eq] at h ⊢
  have hslots := hacted (congrArg Prod.fst h)
  refine ⟨hslots, ?_, fun hdue => ?_⟩
  · rw [hslots]
    exact InTurn.upTo_inOrder_iff hsorted
  · have hawaits' : Awaits c (InTurn.inOrder c.endingAt c.overdueSlots) c :=
      ⟨rfl, fun i hi => hawaits.timers i (hperm.mem_iff.mp hi)⟩
    obtain ⟨hsame', -⟩ := handleNotes_upTo (g := g) (s := ⟨c, w⟩) hawaits'
      (hperm.nodup_iff.mpr hnodup)
    rw [hsame', ← (InTurn.upTo_inOrder_iff hsorted).mpr hdue, ← hsame]
    exact h

/-- Two timers that ended while nobody ran them; the first one leads on and ended last. -/
def twoEnded : Chat :=
  ofRecord (Bot.reminding "(3h)").scenario
    { chatId := "42", stepId := some "1", refId := none, active := true
      timers := [⟨0, 10800000, false⟩, ⟨0, 7200000, false⟩] } 14400000 0

/-- The reminder of the second timer is lost, though it ended before the first one. -/
theorem lost_reminder_of_twoEnded :
    acted (Bot.reminding "(3h)") twoEnded.overdueNotes ⟨twoEnded, Bot.newWorld⟩ = [0]
      ∧ InTurn.upTo (leadsAt (Bot.reminding "(3h)").scenario twoEnded) [1, 0] = [1, 0]
      ∧ acted (Bot.reminding "(3h)") twoEnded.overdueNotes ⟨twoEnded, Bot.newWorld⟩
        ≠ InTurn.upTo (leadsAt (Bot.reminding "(3h)").scenario twoEnded)
            (InTurn.inOrder twoEnded.endingAt twoEnded.overdueSlots)
      ∧ ((handleNotes (Bot.reminding "(3h)") twoEnded.overdueNotes).run
          ⟨twoEnded, Bot.newWorld⟩).2.world.outbox = [.message "42" "Later" (some [])] := by
  have hok : ((handleNotes (Bot.reminding "(3h)") twoEnded.overdueNotes).run
      ⟨twoEnded, Bot.newWorld⟩).1 = .ok () := by decide +kernel
  have hnot : ¬DueInTurn (Bot.reminding "(3h)").scenario twoEnded := by decide +kernel
  obtain ⟨hacted, hiff, -⟩ := replay_iff_dueInTurn (g := Bot.reminding "(3h)") (c := twoEnded) rfl
    (Prod.ext hok rfl)
  refine ⟨?_, by decide +kernel, fun heq => hnot (hiff.mp heq), by decide +kernel⟩
  rw [hacted]
  decide +kernel

end Chat
end ScriptedChat
