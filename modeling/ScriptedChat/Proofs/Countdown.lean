import ScriptedChat.Proofs.Stopwatch
import ScriptedChat.Proofs.Store.Shapes

/-!
# A countdown over several stopwatches

A countdown outlives its stopwatch.  The state of a stopwatch is written down, the stopwatch is
stopped or dropped, and later, perhaps in another process, a new one goes on with what was
written.  This can happen any number of times, and nobody who looks at the stopwatch that runs
should be able to tell.

Here is a bench for such a countdown.  It has every stopwatch that ever began, and the clock rings
each of them that is due, also one that was put away.  So that only the last one rings, and only
once, is something to be proved.

## The argument

Three things are carried along: nothing that was put away has an alarm (`Bench.Stands`), the
stopwatch that runs shows the state with which the countdown began (`Stopwatch.Shows`), and it
has an alarm (`Bench.Runs`) or none (`Bench.Rests`).  A break (`Break`) takes one such bench to
another, and reading what was written gives the state back as it was, so that nothing is added up
on the way.

The clock waits no longer than thirty years.  A stopwatch that is further from its end than this
rings when they are over, counted from when *it* began, and that is the only way in which breaks
make a difference.

* `Bench.Runs.through`: a countdown with breaks still runs.
* `Bench.Runs.passTo_of_lt`, `Bench.Runs.passTo_of_le`: it has not rung, or has rung once.
* `Bench.Rests.passTo`: what has rung, or came back too late, does not ring any more.
* `Bench.countdown_does_not_drift`: the whole story of a countdown with breaks.
-/

namespace ScriptedChat

/-! ## The bench -/

/-- A countdown that goes on from one stopwatch to the next. -/
structure Bench where
  /-- The moment that the clock shows. -/
  now : Int
  /-- The stopwatches that were put away, in the order in which they began.  One that was
  dropped is gone. -/
  past : List (Option Stopwatch)
  /-- The stopwatch that runs. -/
  live : Option Stopwatch
  /-- The state that was written down last. -/
  kept : String
  /-- Which stopwatches have rung, and when. -/
  calls : List (Nat × Int)
  deriving DecidableEq, Repr

/-- The stopwatch when the clock has reached a moment. -/
def Stopwatch.settle (now : Int) (w : Stopwatch) : Stopwatch := if w.ringsBy now then w.ring else w

namespace Bench

/-- The call of a stopwatch that rings by some moment. -/
def call? (now : Int) (p : Option Stopwatch × Nat) : Option (Nat × Int) :=
  (p.1.bind Stopwatch.alarm).bind fun a => if a.time ≤ now then some (p.2, a.time) else none

/-- The clock moves on.  Every stopwatch rings that is due, whether it was put away or not. -/
def passTo (b : Bench) (now : Int) : Bench :=
  { b with
    now
    past := b.past.map (Option.map (Stopwatch.settle now))
    live := b.live.map (Stopwatch.settle now)
    calls := b.calls ++ (b.past ++ [b.live]).zipIdx.filterMap (call? now) }

/-- The state of the stopwatch that runs is written down, and it is stopped or dropped. -/
def putAway (b : Bench) (dropped : Bool) : Bench :=
  match b.live with
  | some w =>
    { b with
      past := b.past ++ [if dropped then none else some w.stop]
      live := none
      kept := w.state.toText }
  | none => b

/-- A stopwatch goes on with what was written down. -/
def restore (b : Bench) : Bench :=
  match StopwatchState.ofText? b.kept with
  | some x => { b with live := some (Stopwatch.begin x.options b.now b.past.length) }
  | none => b

/-- A fresh countdown of some milliseconds. -/
def fresh (now : Int) (timeout : UInt64) : Bench :=
  { now
    past := []
    live := some (Stopwatch.begin ⟨none, timeout.toNat * nanosPerMilli, false⟩ now 0)
    kept := ""
    calls := [] }

/-- A countdown that goes on with a state that somebody wrote down. -/
def ofState (now : Int) (x : StopwatchState) : Bench :=
  restore { now, past := [], live := none, kept := x.toText, calls := [] }

/-- The stopwatch that runs is marked as dealt with. -/
def markDone (b : Bench) : Bench := { b with live := b.live.map Stopwatch.markDone }

/-- What the stopwatch that runs says is left at a moment. -/
def remainingAt (b : Bench) (t : Int) : Option Nat := b.live.map fun w => w.remainingAt t

/-- What the stopwatch that runs says about being overdue. -/
def isOverdue (b : Bench) : Option Bool := b.live.map Stopwatch.isOverdue

end Bench

/-- A countdown is put away for some time. -/
structure Break where
  away : Int
  /-- The stopwatch is dropped, and not only stopped. -/
  dropped : Bool
  back : Int
  deriving DecidableEq, Repr

/-- The countdown after a break. -/
def Bench.take (b : Bench) (p : Break) : Bench :=
  (((b.passTo p.away).putAway p.dropped).passTo p.back).restore

/-- The countdown after some breaks. -/
def Bench.through (b : Bench) (ps : List Break) : Bench := ps.foldl Bench.take b

/-- The moment at which the last stopwatch began, after some breaks. -/
def Break.begun (start : Int) : List Break → Int
  | [] => start
  | p :: ps => begun p.back ps

/-- The breaks come one after the other, the last one is over before the countdown is, and no
stopwatch is left running for as long as the clock can wait. -/
def Break.Fit (ending : Int) : Int → List Break → Prop
  | _, [] => True
  | start, p :: ps =>
    start ≤ p.away ∧ p.away < start + Clock.longestWait ∧ p.away ≤ p.back ∧ p.back < ending
      ∧ Clock.IsReading p.back ∧ Fit ending p.back ps

/-- The state of a countdown that begins now. -/
def StopwatchState.initial (now : Int) (timeout : UInt64) : StopwatchState :=
  ⟨Int64.ofInt now, timeout, false⟩

/-! ## What a stopwatch shows -/

namespace Stopwatch

variable {x : StopwatchState} {w v : Stopwatch} {now : Int}

/-- Two stopwatches that show the same have the same time left at every moment. -/
theorem Shows.remainingAt_congr (h : Shows x w) (h' : Shows x v) (t : Int) :
    w.remainingAt t = v.remainingAt t := by
  simp only [remainingAt, h.start, h.span, h.done, h'.start, h'.span, h'.done]

/-- Nothing is left of a stopwatch that is done. -/
theorem Shows.remainingAt_of_done (h : Shows x w) (hdone : x.done = true) (t : Int) :
    w.remainingAt t = 0 := by
  rw [remainingAt, h.done, if_pos hdone]

theorem Shows.ring (h : Shows x w) : Shows { x with done := true } w.ring := ⟨h.start, h.span, rfl⟩

theorem Shows.markDone (h : Shows x w) : Shows { x with done := true } w.markDone :=
  ⟨h.start, h.span, rfl⟩

/-- A stopwatch without an alarm is left as it is. -/
theorem settle_of_none (h : w.alarm = none) (now : Int) : w.settle now = w := by
  rw [settle, ringsBy, h]
  rfl

theorem ringsBy_of_alarm {a : Alarm} (h : w.alarm = some a) : w.ringsBy now = decide (a.time ≤ now) := by
  rw [ringsBy, h, Option.any_some]

end Stopwatch

/-! ## What the bench looks like -/

namespace Bench

variable {x : StopwatchState} {w : Stopwatch} {b : Bench} {k : Nat} {cs : List (Nat × Int)}
  {due T : Int} {overdue : Bool} {p : Break}

/-- Some stopwatches were put away, and none of them will ring. -/
structure Stands (k : Nat) (cs : List (Nat × Int)) (b : Bench) : Prop where
  count : b.past.length = k
  quiet : ∀ w, some w ∈ b.past → w.alarm = none
  calls : b.calls = cs

/-- The stopwatch that runs shows a state and has an alarm. -/
structure Runs (x : StopwatchState) (due : Int) (k : Nat) (b : Bench) : Prop where
  stands : Stands k [] b
  live : ∃ w, b.live = some w ∧ w.Shows x ∧ ∃ ticket, w.alarm = some ⟨due, ticket⟩

/-- The stopwatch that runs shows a state and has no alarm. -/
structure Rests (x : StopwatchState) (overdue : Bool) (k : Nat) (cs : List (Nat × Int))
    (b : Bench) : Prop where
  stands : Stands k cs b
  live : ∃ w, b.live = some w ∧ w.Shows x ∧ w.alarm = none ∧ w.isOverdue = overdue

/-- No stopwatch runs, and the state is written down. -/
structure Waits (x : StopwatchState) (k : Nat) (cs : List (Nat × Int)) (b : Bench) : Prop where
  stands : Stands k cs b
  live : b.live = none
  kept : b.kept = x.toText

/-! ## Waiting -/

/-- A stopwatch without an alarm is not called. -/
theorem call?_of_none {v : Option Stopwatch} (h : ∀ w, v = some w → w.alarm = none) (T : Int)
    (i : Nat) : call? T (v, i) = none := by
  cases v with
  | none => rfl
  | some w => rw [call?, Option.bind_some, h w rfl, Option.bind_none]

/-- **While the clock moves on**, what was put away stays as it is, and only the stopwatch that
runs can be called. -/
theorem Stands.passTo (h : Stands k cs b) (T : Int) :
    Stands k (cs ++ (call? T (b.live, k)).toList) (b.passTo T) := by
  have hpast : b.past.map (Option.map (Stopwatch.settle T)) = b.past := by
    conv_rhs => rw [← List.map_id b.past]
    refine List.map_congr_left fun v hv => ?_
    cases v with
    | none => rfl
    | some w => exact congrArg some (Stopwatch.settle_of_none (h.quiet w hv) T)
  have hquiet : b.past.zipIdx.filterMap (call? T) = [] := by
    rw [List.filterMap_eq_nil_iff]
    rintro ⟨v, i⟩ hv
    refine call?_of_none (fun w hw => h.quiet w ?_) T i
    exact hw ▸ List.fst_mem_of_mem_zipIdx hv
  refine ⟨?_, ?_, ?_⟩
  · rw [Bench.passTo, hpast, h.count]
  · rw [Bench.passTo, hpast]
    exact h.quiet
  · rw [Bench.passTo, h.calls, List.zipIdx_append, List.filterMap_append, hquiet, h.count]
    rw [Nat.zero_add, List.zipIdx_cons, List.zipIdx_nil, List.filterMap_cons, List.nil_append]
    cases call? T (b.live, k) <;> rfl

/-- Before its time the stopwatch does not ring. -/
theorem Runs.passTo_of_lt (h : Runs x due k b) (hT : T < due) : Runs x due k (b.passTo T) := by
  obtain ⟨w, hlive, hshows, ticket, halarm⟩ := h.live
  have hcall : call? T (b.live, k) = none := by
    rw [hlive, call?, Option.bind_some, halarm, Option.bind_some, if_neg (Int.not_le.mpr hT)]
  have hsettle : w.settle T = w := by
    rw [Stopwatch.settle, Stopwatch.ringsBy_of_alarm halarm, decide_eq_false (Int.not_le.mpr hT),
      if_neg Bool.false_ne_true]
  have hstands := h.stands.passTo T
  rw [hcall] at hstands
  refine ⟨hstands, w, ?_, hshows, ticket, halarm⟩
  rw [passTo, hlive, Option.map_some, hsettle]

/-- **When its time has come** the stopwatch has rung, and is done. -/
theorem Runs.passTo_of_le (h : Runs x due k b) (hT : due ≤ T) :
    Rests { x with done := true } false k [(k, due)] (b.passTo T) := by
  obtain ⟨w, hlive, hshows, ticket, halarm⟩ := h.live
  have hcall : call? T (b.live, k) = some (k, due) := by
    rw [hlive, call?, Option.bind_some, halarm, Option.bind_some, if_pos hT]
  have hsettle : w.settle T = w.ring := by
    rw [Stopwatch.settle, Stopwatch.ringsBy_of_alarm halarm, decide_eq_true hT, if_pos rfl]
  have hstands := h.stands.passTo T
  rw [hcall] at hstands
  refine ⟨hstands, w.ring, ?_, hshows.ring, rfl, ?_⟩
  · rw [passTo, hlive, Option.map_some, hsettle]
  · rw [Stopwatch.isOverdue, Stopwatch.ring, Bool.not_true, Bool.and_false]

/-- **What has no alarm** does not ring any more. -/
theorem Rests.passTo (h : Rests x overdue k cs b) (T : Int) :
    Rests x overdue k cs (b.passTo T) := by
  obtain ⟨w, hlive, hshows, halarm, hoverdue⟩ := h.live
  have hcall : call? T (b.live, k) = none :=
    call?_of_none (fun v hv => by rw [hlive, Option.some.injEq] at hv; exact hv ▸ halarm) T k
  have hstands := h.stands.passTo T
  rw [hcall, Option.toList_none, List.append_nil] at hstands
  refine ⟨hstands, w, ?_, hshows, halarm, hoverdue⟩
  rw [Bench.passTo, hlive, Option.map_some, Stopwatch.settle_of_none halarm]

/-- While no stopwatch runs, nothing happens. -/
theorem Waits.passTo (h : Waits x k cs b) (T : Int) : Waits x k cs (b.passTo T) := by
  have hcall : call? T (b.live, k) = none := by
    rw [h.live]
    rfl
  have hstands := h.stands.passTo T
  rw [hcall, Option.toList_none, List.append_nil] at hstands
  refine ⟨hstands, ?_, h.kept⟩
  rw [Bench.passTo, h.live, Option.map_none]

/-! ## Breaks -/

/-- Putting a stopwatch away takes its alarm, and what it shows is written down. -/
theorem Stands.putAway (h : Stands k cs b) (hlive : b.live = some w) (hshows : w.Shows x)
    (dropped : Bool) : Waits x (k + 1) cs (b.putAway dropped) := by
  rw [Bench.putAway, hlive]
  refine ⟨⟨?_, fun v hv => ?_, h.calls⟩, rfl, congrArg StopwatchState.toText hshows.state_eq⟩
  · rw [List.length_append, h.count, List.length_singleton]
  · rcases List.mem_append.mp hv with hv | hv
    · exact h.quiet v hv
    · cases dropped with
      | true => cases List.mem_singleton.mp hv
      | false =>
        cases List.mem_singleton.mp hv
        rfl

/-- A stopwatch goes on with what was written down. -/
theorem Waits.restore (h : Waits x k cs b) :
    Stands k cs b.restore
      ∧ b.restore.live = some (Stopwatch.begin x.options b.now k) := by
  rw [Bench.restore, h.kept, StopwatchState.ofText?_toText]
  exact ⟨⟨h.stands.count, h.stands.quiet, h.stands.calls⟩, by rw [h.stands.count]⟩

/-- After a break a new stopwatch goes on with what the old one showed. -/
theorem Stands.take (h : Stands k cs (b.passTo p.away))
    (hlive : (b.passTo p.away).live = some w) (hshows : w.Shows x) :
    Stands (k + 1) cs (b.take p)
      ∧ (b.take p).live = some (Stopwatch.begin x.options p.back (k + 1)) :=
  ((h.putAway hlive hshows p.dropped).passTo p.back).restore

theorem Runs.take (h : Runs x due k b) (hp : p.away < due) :
    Stands (k + 1) [] (b.take p)
      ∧ (b.take p).live = some (Stopwatch.begin x.options p.back (k + 1)) := by
  have hruns := h.passTo_of_lt hp
  obtain ⟨w, hlive, hshows, -⟩ := hruns.live
  exact hruns.stands.take hlive hshows

/-! ## How a stopwatch goes on -/

variable {now : Int}

/-- A stopwatch that goes on before its end runs. -/
theorem Stands.runs (h : Stands k [] b) (hlive : b.live = some (Stopwatch.begin x.options now k))
    (hdone : x.done = false) (hstart : Clock.IsReading x.start.toInt) (hnow : Clock.IsReading now)
    (hle : x.start.toInt ≤ now) (hlt : now < x.ending) :
    Runs x (min x.ending (now + Clock.longestWait)) k b := by
  obtain ⟨-, halarm⟩ := Stopwatch.begin_options hdone hstart hnow hle k
  rw [if_neg (Int.not_le.mpr hlt)] at halarm
  exact ⟨h, _, hlive, Stopwatch.shows_begin x now k, k, halarm⟩

/-- A stopwatch that goes on after its end is overdue. -/
theorem Stands.rests (h : Stands k cs b) (hlive : b.live = some (Stopwatch.begin x.options now k))
    (hdone : x.done = false) (hstart : Clock.IsReading x.start.toInt) (hnow : Clock.IsReading now)
    (hle : x.start.toInt ≤ now) (hend : x.ending ≤ now) : Rests x true k cs b := by
  obtain ⟨hoverdue, halarm⟩ := Stopwatch.begin_options hdone hstart hnow hle k
  rw [if_pos hend] at halarm
  rw [decide_eq_true hend] at hoverdue
  exact ⟨h, _, hlive, Stopwatch.shows_begin x now k, halarm, hoverdue⟩

/-- A stopwatch that is done has nothing to do. -/
theorem Stands.rests_of_done (h : Stands k cs b)
    (hlive : b.live = some (Stopwatch.begin x.options now k)) (hdone : x.done = true) :
    Rests x false k cs b := by
  refine ⟨h, _, hlive, Stopwatch.shows_begin x now k, Stopwatch.alarm_begin_of_done hdone now k, ?_⟩
  rw [Stopwatch.isOverdue, Stopwatch.overdue_begin_of_done hdone now k, Bool.false_and]

/-- What comes back after its end is overdue. -/
theorem Runs.take_of_ending_le (h : Runs x due k b) (hdone : x.done = false)
    (hstart : Clock.IsReading x.start.toInt) (hp : p.away < due)
    (hback : Clock.IsReading p.back) (hle : x.start.toInt ≤ p.back) (hend : x.ending ≤ p.back) :
    Rests x true (k + 1) [] (b.take p) := by
  obtain ⟨hstands, hlive⟩ := h.take hp
  exact hstands.rests hlive hdone hstart hback hle hend

/-- What is put away after it has rung comes back as done. -/
theorem Runs.take_of_due_le (h : Runs x due k b) (hp : due ≤ p.away) :
    Rests { x with done := true } false (k + 1) [(k, due)] (b.take p) := by
  have hover := h.passTo_of_le hp
  obtain ⟨w, hw, hshows, -⟩ := hover.live
  obtain ⟨hstands, hlive⟩ := hover.stands.take hw hshows
  exact hstands.rests_of_done hlive rfl

/-- **A countdown with breaks still runs**, and ends when it would have ended without. -/
theorem Runs.through {start : Int} {ps : List Break} (hdone : x.done = false)
    (hstart : Clock.IsReading x.start.toInt) (hle : x.start.toInt ≤ start)
    (h : Runs x (min x.ending (start + Clock.longestWait)) k b) (hps : Break.Fit x.ending start ps) :
    Runs x (min x.ending (Break.begun start ps + Clock.longestWait)) (k + ps.length)
      (b.through ps) := by
  induction ps generalizing start k b with
  | nil => exact h
  | cons p ps ih =>
    obtain ⟨hstartle, hwait, hback, hend, hreading, hps⟩ := hps
    obtain ⟨hstands, hlive⟩ := h.take (p := p) (by omega)
    have hruns := hstands.runs hlive hdone hstart hreading (by omega) hend
    have hrest := ih (by omega) hruns hps
    rw [List.length_cons, Nat.add_comm ps.length, ← Nat.add_assoc]
    exact hrest

/-! ## What can be read off -/

theorem Runs.remainingAt (h : Runs x due k b) (hdone : x.done = false)
    (hstart : Clock.IsReading x.start.toInt) (hT : Clock.IsReading T) (hle : x.start.toInt ≤ T) :
    b.remainingAt T = some ((x.ending - T).toNat * nanosPerMilli) := by
  obtain ⟨w, hlive, hshows, -⟩ := h.live
  rw [Bench.remainingAt, hlive, Option.map_some, hshows.remainingAt_eq hdone hstart hT hle]

/-- The countdown is over: nothing is left of it, and nobody has to deal with it. -/
structure IsOver (cs : List (Nat × Int)) (b : Bench) : Prop where
  calls : b.calls = cs
  remainingAt : ∀ t, b.remainingAt t = some 0
  isOverdue : b.isOverdue = some false

theorem Rests.isOver (h : Rests x false k cs b) (hdone : x.done = true) : IsOver cs b := by
  obtain ⟨w, hlive, hshows, -, hoverdue⟩ := h.live
  refine ⟨h.stands.calls, fun t => ?_, ?_⟩
  · rw [Bench.remainingAt, hlive, Option.map_some, hshows.remainingAt_of_done hdone]
  · rw [Bench.isOverdue, hlive, Option.map_some, hoverdue]

/-- Its owner can deal with a stopwatch that is overdue. -/
theorem Rests.markDone (h : Rests x overdue k cs b) :
    Rests { x with done := true } false k cs b.markDone := by
  obtain ⟨w, hlive, hshows, halarm, -⟩ := h.live
  refine ⟨⟨h.stands.count, h.stands.quiet, h.stands.calls⟩, w.markDone, ?_, hshows.markDone,
    halarm, ?_⟩
  · rw [Bench.markDone, hlive, Option.map_some]
  · rw [Stopwatch.isOverdue, Stopwatch.markDone, Bool.false_and]

/-! ## The whole story -/

variable {s : Int} {d : UInt64} {ps : List Break}

theorem start_initial (hs : Clock.IsReading s) (d : UInt64) :
    (StopwatchState.initial s d).start.toInt = s := hs.toInt_ofInt

theorem isReading_initial (hs : Clock.IsReading s) (d : UInt64) :
    Clock.IsReading (StopwatchState.initial s d).start.toInt :=
  (start_initial hs d).symm ▸ hs

theorem ending_initial (hs : Clock.IsReading s) (d : UInt64) :
    (StopwatchState.initial s d).ending = s + d.toNat := by
  rw [StopwatchState.ending, start_initial hs, StopwatchState.initial]

/-- A fresh countdown runs. -/
theorem runs_fresh (hs : Clock.IsReading s) (d : UInt64) :
    Runs (.initial s d) (min (s + d.toNat) (s + Clock.longestWait)) 0 (fresh s d) := by
  have halarm := Stopwatch.alarm_begin_none hs (d.toNat * nanosPerMilli) 0
  have htime : s + (min d.toNat Clock.longestWait : Nat)
      = min (s + d.toNat) (s + Clock.longestWait) := by omega
  rw [Stopwatch.wake_millis, htime] at halarm
  exact ⟨⟨rfl, nofun, rfl⟩, _, rfl, ⟨Stopwatch.start_begin _ s 0, Stopwatch.span_begin _ s 0,
    Stopwatch.done_begin _ s 0⟩, 0, halarm⟩

/-- The last stopwatch began after the countdown did. -/
theorem le_begun {ending start : Int} (h : Break.Fit ending start ps) :
    start ≤ Break.begun start ps := by
  induction ps generalizing start with
  | nil => exact Int.le_refl start
  | cons p ps ih =>
    obtain ⟨haway, -, hback, -, -, hps⟩ := h
    exact Int.le_trans (Int.le_trans haway hback) (ih hps)

/-- The moment at which a countdown with breaks rings: its end, or the end of the longest wait of
the last stopwatch. -/
def dueAfter (s : Int) (d : UInt64) (ps : List Break) : Int :=
  min (s + d.toNat) (Break.begun s ps + Clock.longestWait)

/-- **A fresh countdown runs after any breaks** that fit into it. -/
theorem runs_through (hs : Clock.IsReading s) (hps : Break.Fit (s + d.toNat) s ps) :
    Runs (.initial s d) (dueAfter s d ps) ps.length ((fresh s d).through ps) := by
  have hruns := runs_fresh hs d
  rw [← ending_initial hs] at hps hruns
  have hthrough := hruns.through rfl (isReading_initial hs d) (start_initial hs d).le hps
  rwa [ending_initial hs, Nat.zero_add] at hthrough

/-- A state that is done is that of a countdown that is over. -/
theorem isOver_ofState (hdone : x.done = true) (now T : Int) :
    IsOver [] ((ofState now x).passTo T) := by
  have hwaits : Waits x 0 [] { now, past := [], live := none, kept := x.toText, calls := [] } :=
    ⟨⟨rfl, nofun, rfl⟩, rfl, rfl⟩
  obtain ⟨hstands, hlive⟩ := hwaits.restore
  exact ((hstands.rests_of_done hlive hdone).passTo T).isOver hdone

/-- A countdown goes on over some breaks. -/
structure GoesOn (s : Int) (d : UInt64) (ps : List Break) : Prop where
  /-- Only the last stopwatch rings, and only once. -/
  calls : ∀ T, Break.begun s ps ≤ T → Clock.IsReading T →
    (((fresh s d).through ps).passTo T).calls
      = if dueAfter s d ps ≤ T then [(ps.length, dueAfter s d ps)] else []
  /-- It says what is left of the countdown ... -/
  remainingAt : ∀ T, Break.begun s ps ≤ T → Clock.IsReading T →
    (((fresh s d).through ps).passTo T).remainingAt T
      = some (if dueAfter s d ps ≤ T then 0 else (s + d.toNat - T).toNat * nanosPerMilli)
  /-- ... as if there had been no breaks, unless the one without breaks rings early. -/
  undrifting : ∀ T, Break.begun s ps ≤ T → Clock.IsReading T →
    d.toNat ≤ Clock.longestWait ∨ T < s + Clock.longestWait →
      ∀ t, (((fresh s d).through ps).passTo T).remainingAt t = ((fresh s d).passTo T).remainingAt t
  /-- After it has rung, it can be put away and does not ring again. -/
  once : ∀ p : Break, dueAfter s d ps ≤ p.away → ∀ T,
    IsOver [(ps.length, dueAfter s d ps)] ((((fresh s d).through ps).take p).passTo T)
  /-- If it comes back too late, it never rings, and is overdue until somebody deals with it. -/
  late : ∀ p : Break, p.away < dueAfter s d ps → s + d.toNat ≤ p.back → Clock.IsReading p.back →
    ∀ T, p.back ≤ T → Clock.IsReading T →
      ((((fresh s d).through ps).take p).passTo T).calls = []
      ∧ ((((fresh s d).through ps).take p).passTo T).remainingAt T = some 0
      ∧ ((((fresh s d).through ps).take p).passTo T).isOverdue = some true
      ∧ ∀ t, IsOver [] (((((fresh s d).through ps).take p).passTo T).markDone.passTo t)

/-- **A countdown does not drift** when it is put away and goes on, however often.  And a state
that is done is that of a countdown that is over. -/
theorem countdown_does_not_drift (hs : Clock.IsReading s) (hps : Break.Fit (s + d.toNat) s ps) :
    GoesOn s d ps ∧ ∀ x : StopwatchState, x.done = true → ∀ now T,
      IsOver [] ((ofState now x).passTo T) := by
  have hbegun := le_begun hps
  have hstart := start_initial hs d
  have hreads := isReading_initial hs d
  have hend := ending_initial hs d
  have hruns := runs_through hs hps
  refine ⟨⟨?calls, ?remaining, ?undrifting, ?once, ?late⟩,
    fun x hdone now T => isOver_ofState hdone now T⟩
  case calls =>
    intro T hT hreading
    split
    · rename_i hdue
      exact (hruns.passTo_of_le hdue).stands.calls
    · rename_i hdue
      exact (hruns.passTo_of_lt (Int.not_le.mp hdue)).stands.calls
  case remaining =>
    intro T hT hreading
    split
    · rename_i hdue
      exact ((hruns.passTo_of_le hdue).isOver rfl).remainingAt T
    · rename_i hdue
      rw [(hruns.passTo_of_lt (Int.not_le.mp hdue)).remainingAt rfl hreads hreading
        (by omega), hend]
  case undrifting =>
    intro T hT hreading hearly t
    have hfresh := runs_fresh hs d
    have hsame : dueAfter s d ps ≤ T ↔ min (s + d.toNat) (s + Clock.longestWait) ≤ T := by
      rw [dueAfter]
      omega
    by_cases hdue : dueAfter s d ps ≤ T
    · rw [((hruns.passTo_of_le hdue).isOver rfl).remainingAt,
        ((hfresh.passTo_of_le (hsame.mp hdue)).isOver rfl).remainingAt]
    · obtain ⟨w, hw, hshows, -⟩ := (hruns.passTo_of_lt (Int.not_le.mp hdue)).live
      obtain ⟨v, hv, hshows', -⟩ :=
        (hfresh.passTo_of_lt (Int.not_le.mp (mt hsame.mpr hdue))).live
      rw [Bench.remainingAt, Bench.remainingAt, hw, hv, Option.map_some, Option.map_some,
        hshows.remainingAt_congr hshows']
  case once =>
    intro p hp T
    exact ((hruns.take_of_due_le hp).passTo T).isOver rfl
  case late =>
    intro p haway hback hreading T hT hTreading
    have hrests := (hruns.take_of_ending_le rfl hreads haway hreading (by omega)
      (by omega)).passTo T
    obtain ⟨w, hw, hshows, -, hoverdue⟩ := hrests.live
    have hnothing : ((StopwatchState.initial s d).ending - T).toNat = 0 := by omega
    refine ⟨hrests.stands.calls, ?_, ?_, fun t => (hrests.markDone.passTo t).isOver rfl⟩
    · rw [Bench.remainingAt, hw, Option.map_some,
        hshows.remainingAt_eq rfl hreads hTreading (by omega), hnothing, Nat.zero_mul]
    · rw [Bench.isOverdue, hw, Option.map_some, hoverdue]

/-- Ten seconds with two breaks: the third stopwatch rings at their end. -/
theorem countdown_does_not_drift_ten_seconds :
    Break.Fit (1735689600000 + (10000 : UInt64).toNat) 1735689600000
        [⟨1735689601000, false, 1735689604000⟩, ⟨1735689604500, true, 1735689609999⟩]
      ∧ (((fresh 1735689600000 10000).through
          [⟨1735689601000, false, 1735689604000⟩, ⟨1735689604500, true, 1735689609999⟩]).passTo
            1735689620000).calls = [(2, 1735689610000)] := by
  have hfit : Break.Fit (1735689600000 + (10000 : UInt64).toNat) 1735689600000
      [⟨1735689601000, false, 1735689604000⟩, ⟨1735689604500, true, 1735689609999⟩] := by
    simp only [Break.Fit, Clock.IsReading, Clock.longestWait]
    decide
  have hgoes := (countdown_does_not_drift (s := 1735689600000) (d := 10000)
    ⟨by decide, by decide⟩ hfit).1
  refine ⟨hfit, ?_⟩
  rw [hgoes.calls 1735689620000 (by decide) ⟨by decide, by decide⟩]
  decide

/-- A countdown of more than thirty years rings when these are over. -/
theorem long_countdown_rings_early :
    ((fresh 1735689600000 946080000001).passTo 2681769600000).calls = [(0, 2681769600000)]
      ∧ (2681769600000 : Int) < 1735689600000 + (946080000001 : UInt64).toNat := by
  decide +kernel

end Bench

end ScriptedChat
