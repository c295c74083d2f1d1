import ScriptedChat.Proofs.Bot.Life

/-!
# The ledger of what timers did

A bot forgets, when it ends, how often its chats have moved: a chat that is restored begins with
generation zero again.  So what timers did over several lives is written down outside of the bot,
in a *ledger*.  A timer has a number there that is its own for good: the key of its chat, the
number of the move that started it, counted over all lives, and its place among the delayed
actions.  Whenever a note is taken up, and so the action of a timer is run, the timer is entered.

A chat agrees with the ledger if its timers that are done are those that were entered
(`Ledger.Agrees`).  For the timers of its last move this is all that has to be known; no later
move can be in the ledger, so that a chat that moves on agrees with it again.

* `Ledger`, `Ledger.enter`, `Ledger.carry`.
* `Ledger.Books`: how a chat and the ledger fit together.
* `Ledger.Books.goesOn`, `Ledger.Books.enter_self`, `Ledger.Books.carry`: while the chat goes
  on, when it takes up a note, and when it is restored, they fit together again.
-/

namespace ScriptedChat

/-! ## Timers that are done -/

namespace Chat

/-- What is kept of the chat says that the timer is done. -/
def IsDone (c : Chat) (slot : Nat) : Prop := ∃ x, c.record.timers[slot]? = some x ∧ x.done = true

/-- A timer is done when it has been handled. -/
theorem isDone_iff_handled {c : Chat} {slot : Nat} :
    c.IsDone slot ↔ ∃ t, c.timers[slot]? = some t ∧ t.handled = true := by
  rw [IsDone, timers_record, List.getElem?_map]
  constructor
  · rintro ⟨x, hx, hdone⟩
    obtain ⟨t, ht, rfl⟩ := Option.map_eq_some_iff.mp hx
    exact ⟨t, ht, hdone⟩
  · rintro ⟨t, ht, hhandled⟩
    exact ⟨t.state, Option.map_eq_some_iff.mpr ⟨t, ht, rfl⟩, hhandled⟩

theorem isDone_congr {c c' : Chat} (h : c'.record.timers = c.record.timers) (slot : Nat) :
    c'.IsDone slot ↔ c.IsDone slot := by
  rw [IsDone, IsDone, h]

/-- No timer is done of a chat that has just moved. -/
theorem Moved.not_isDone {scenario : Scenario} {now : Int} {c c' : Chat}
    (h : Moved scenario now c c') (slot : Nat) : ¬c'.IsDone slot := by
  rintro ⟨x, hx, hdone⟩
  rw [(h.fresh (List.mem_of_getElem? hx)).2] at hdone
  cases hdone

/-- The timer whose note is taken up is done then, and those that were done still are. -/
theorem isDone_markHandled {c : Chat} {n : Elapsed} {t : ActionTimer}
    (ht : c.awaited? n = some t) (slot : Nat) :
    (markHandled n.slot t c).IsDone slot ↔ slot = n.slot ∨ c.IsDone slot := by
  obtain ⟨-, hslot, -⟩ := awaited?_eq_some.mp ht
  obtain ⟨hlt, -⟩ := List.getElem?_eq_some_iff.mp hslot
  rw [isDone_iff_handled, isDone_iff_handled, markHandled, List.getElem?_set]
  by_cases h : n.slot = slot
  · rw [if_pos h, if_pos hlt]
    exact ⟨fun _ => Or.inl h.symm, fun _ => ⟨_, rfl, rfl⟩⟩
  · rw [if_neg h]
    constructor
    · exact Or.inr
    · rintro (heq | hdone)
      · exact absurd heq.symm h
      · exact hdone

/-- The timers that a restored chat starts with when nothing was kept of any. -/
theorem states_ofRecord_nil {scenario : Scenario} {r : ChatRecord} (h : r.timers = [])
    (now : Int) (tickets : Nat) :
    (ofRecord scenario r now tickets).record.timers
      = ((ofRecord scenario r now tickets).delayed scenario).map (freshState now) := by
  rw [timers_record, timers_ofRecord, h, map_state_armTimers_nil]

/-- A chat is restored with the states that were kept of its timers, or with fresh timers if
nothing was kept of any. -/
theorem timers_ofRecord_record {scenario : Scenario} {c : Chat}
    (h : c.timers = [] ∨ c.Mirrors scenario) (now : Int) (tickets : Nat) :
    (ofRecord scenario c.record now tickets).record.timers = c.record.timers
      ∨ c.timers = [] ∧ ∃ as : List Action,
          (ofRecord scenario c.record now tickets).record.timers = as.map (freshState now) := by
  rcases h with hnil | hmirrors
  · right
    refine ⟨hnil, _, states_ofRecord_nil ?_ now tickets⟩
    rw [timers_record, hnil]
    rfl
  · exact Or.inl (congrArg ChatRecord.timers (record_ofRecord_record hmirrors now tickets))

/-- The same timers are done after a chat was restored as before. -/
theorem isDone_ofRecord_record {scenario : Scenario} {c : Chat}
    (h : c.timers = [] ∨ c.Mirrors scenario) (now : Int) (tickets : Nat) (slot : Nat) :
    (ofRecord scenario c.record now tickets).IsDone slot ↔ c.IsDone slot := by
  rcases timers_ofRecord_record h now tickets with hsame | ⟨hnil, as, hfresh⟩
  · exact isDone_congr hsame slot
  · constructor
    · rintro ⟨x, hx, hdone⟩
      rw [hfresh] at hx
      obtain ⟨a, -, rfl⟩ := List.mem_map.mp (List.mem_of_getElem? hx)
      cases hdone
    · rintro ⟨x, hx, -⟩
      rw [timers_record, hnil] at hx
      cases hx

end Chat

/-! ## The ledger -/

/-- What is known of all lives so far. -/
structure Ledger where
  /-- How often the chat under a key moved in the lives that are over. -/
  moves : String → Nat
  /-- The timers whose actions were run: the key, the move and the place of each of them. -/
  acted : List (String × Nat × Nat)

namespace Ledger

/-- The ledger at the beginning. -/
def blank : Ledger := ⟨fun _ => 0, []⟩

/-- The ledger with the timer of a note that was taken up, if one was. -/
def enter (l : Ledger) : Option Elapsed → Ledger
  | none => l
  | some n => { l with acted := (n.chat, l.moves n.chat + n.generation, n.slot) :: l.acted }

/-- The ledger when the life of a bot is over. -/
def carry (l : Ledger) (b : Bot) : Ledger :=
  { l with
    moves := fun k =>
      match b.chat? k with
      | some c => l.moves k + c.generation
      | none => l.moves k }

/-- The timers of a chat that are done are those that were entered. -/
def Agrees (l : Ledger) (k : String) (c : Chat) : Prop :=
  ∀ slot, (k, l.moves k + c.generation, slot) ∈ l.acted ↔ c.IsDone slot

/-- A chat and the ledger fit together. -/
structure Books (l : Ledger) (k : String) (c : Chat) : Prop where
  /-- Nothing that is still to come was entered. -/
  past : ∀ m slot, (k, m, slot) ∈ l.acted → m ≤ l.moves k + c.generation
  agrees : l.Agrees k c

variable {l : Ledger} {k : String} {c c' : Chat}

/-- A chat of a key that was never seen fits the ledger. -/
theorem Books.of_absent (habsent : ∀ m slot, (k, m, slot) ∉ l.acted) (hc : c.timers = []) :
    l.Books k c := by
  refine ⟨fun m slot hm => absurd hm (habsent m slot), fun slot => ?_⟩
  constructor
  · intro hm
    exact absurd hm (habsent _ slot)
  · rintro ⟨x, hx, -⟩
    rw [Chat.timers_record, hc] at hx
    cases hx

/-- While a chat stays where it is, it fits the ledger. -/
theorem Books.stayed (h : l.Books k c) (hc : Chat.Stayed c c') : l.Books k c' := by
  obtain ⟨hpast, hagrees⟩ := h
  refine ⟨fun m slot hm => ?_, fun slot => ?_⟩
  · rw [hc.generation]
    exact hpast m slot hm
  · rw [hc.generation, hagrees slot]
    exact (Chat.isDone_congr hc.states slot).symm

/-- When a chat moves, it fits the ledger: none of its new timers is done, and none was entered. -/
theorem Books.moved {scenario : Scenario} {now : Int} (h : l.Books k c)
    (hc : Chat.Moved scenario now c c') : l.Books k c' := by
  have hlt := hc.generation
  refine ⟨fun m slot hm => ?_, fun slot => ?_⟩
  · have hle := h.past m slot hm
    omega
  · constructor
    · intro hm
      have hle := h.past _ slot hm
      omega
    · intro hdone
      exact absurd hdone (hc.not_isDone slot)

/-- However a chat goes on, it fits the ledger. -/
theorem Books.goesOn {τ : Type} {g : Setting} {s s' : Scene τ} (h : l.Books k s.chat)
    (hs : Chat.GoesOn g s s') : l.Books k s'.chat := by
  rcases hs.timers with hstayed | hmoved
  · exact h.stayed hstayed
  · exact h.moved hmoved

/-- What one chat takes up makes no difference to the others. -/
theorem Books.enter_other {n : Elapsed} (h : l.Books k c) (hk : k ≠ n.chat) :
    (l.enter (some n)).Books k c := by
  have hmem : ∀ m slot, (k, m, slot) ∈ (l.enter (some n)).acted ↔ (k, m, slot) ∈ l.acted := by
    intro m slot
    rw [enter, List.mem_cons]
    constructor
    · rintro (heq | hm)
      · exact absurd (congrArg Prod.fst heq) hk
      · exact hm
    · exact Or.inr
  refine ⟨fun m slot hm => h.past m slot ((hmem m slot).mp hm), fun slot => ?_⟩
  exact (hmem _ slot).trans (h.agrees slot)

/-- When a chat takes up a note, this is entered, and they fit together again. -/
theorem Books.enter_self {n : Elapsed} {t : ActionTimer} (h : l.Books n.chat c)
    (ht : c.awaited? n = some t) :
    (l.enter (some n)).Books n.chat (Chat.markHandled n.slot t c) := by
  obtain ⟨hgeneration, -, -⟩ := Chat.awaited?_eq_some.mp ht
  refine ⟨fun m slot hm => ?_, fun slot => ?_⟩
  · show m ≤ l.moves n.chat + c.generation
    rcases List.mem_cons.mp hm with heq | hm
    · have hmove : m = l.moves n.chat + n.generation := congrArg (fun x => x.2.1) heq
      omega
    · exact h.past m slot hm
  · show (n.chat, l.moves n.chat + c.generation, slot) ∈ (l.enter (some n)).acted ↔ _
    rw [Chat.isDone_markHandled ht, ← h.agrees slot, enter, List.mem_cons, hgeneration,
      Prod.mk.injEq, Prod.mk.injEq]
    simp only [true_and]

/-- A timer that is awaited was not entered before. -/
theorem Books.notMem {n : Elapsed} {t : ActionTimer} (h : l.Books n.chat c)
    (ht : c.awaited? n = some t) :
    (n.chat, l.moves n.chat + n.generation, n.slot) ∉ l.acted := by
  obtain ⟨hgeneration, hslot, hhandled⟩ := Chat.awaited?_eq_some.mp ht
  rw [hgeneration, h.agrees n.slot, Chat.isDone_iff_handled]
  rintro ⟨x, hx, hdone⟩
  rw [hslot, Option.some.injEq] at hx
  rw [← hx, hhandled] at hdone
  cases hdone

theorem moves_carry {b : Bot} (hc : b.chat? k = some c) :
    (l.carry b).moves k = l.moves k + c.generation := by
  unfold carry
  dsimp only
  rw [hc]

/-- A chat that was kept and restored fits the ledger. -/
theorem Books.carry {scenario : Scenario} {b : Bot} (h : l.Books k c) (hc : b.chat? k = some c)
    (htimers : c.timers = [] ∨ c.Mirrors scenario) (now : Int) (tickets : Nat) :
    (l.carry b).Books k (Chat.ofRecord scenario c.record now tickets) := by
  obtain ⟨-, -, -, -, hzero⟩ := Chat.fields_ofRecord scenario c.record now tickets
  have hmoves : (l.carry b).moves k = l.moves k + c.generation := moves_carry hc
  refine ⟨fun m slot hm => ?_, fun slot => ?_⟩
  · rw [hmoves, hzero]
    exact h.past m slot hm
  · rw [hmoves, hzero, Nat.add_zero, Chat.isDone_ofRecord_record htimers]
    exact h.agrees slot

end Ledger
end ScriptedChat
