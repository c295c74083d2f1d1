import Mathlib.Data.List.Induction
import Mathlib.Data.List.Nodup
import ScriptedChat.Proofs.Scenario.WellFormed
import ScriptedChat.Schedule

/-!
# Who is announced, and when

The clock that a schedule is played against stops now and then, and at each stop everything is
announced that has come due since the one before.  Where it stops is not up to the scenario.  So
what has been announced when the clock shows some moment should depend on that moment alone: it
is every step whose moment was still to come at the start and has come since, once, and in the
order of the milliseconds on which they fall.

## What is counted

Moments are compared as nanoseconds of the epoch.  There is one catch.  A leap second has no
number of its own, and the time from now to a moment in one lacks a second if that moment is
earlier in the day than now (`Calendar.Moment.nanosSince`).  `Calendar.Moment.reckoned` is
the moment as it is reckoned from a start; it is the moment itself unless that is in a leap second
(`reckoned_of_lt`).

## How the order comes about

`Schedule.byTime` inserts one announcement after the other behind those that are not later.
What is inserted at a later turn stands further down in the script, so that the result is sorted by
time and, at one time, by place (`pairwise_byTime`).  Several stops put such lists end to end, and
the times of an earlier stop are before those of a later one (`pairwise_ringing`).

* `Schedule.ofScenario_eq`: what is set at the start.
* `Schedule.ringing_perm`, `Schedule.pairwise_ringing`: what is announced over some stops of the
  clock, and in which order.
* `Schedule.announced_once_in_order`: the two together, for every scenario that is read.
-/

namespace ScriptedChat

/-! ## Moments in nanoseconds -/

namespace Calendar.Moment

/-- The nanoseconds of the epoch.  A leap second is counted like the second after it. -/
def nanos (m : Moment) : Int := (m.day * daySeconds + m.second) * nanosPerSecond + m.nano

/-- The nanoseconds of the epoch as they are reckoned from a start: a leap second that is earlier
in the day than the start is not counted. -/
def reckoned (m start : Moment) : Int :=
  if 1000000000 ≤ m.nano ∧ m.second < start.second then m.nanos - nanosPerSecond else m.nanos

/-- Outside of leap seconds a moment is reckoned as what it is. -/
theorem reckoned_of_lt {m : Moment} (h : m.nano < 1000000000) (start : Moment) :
    m.reckoned start = m.nanos := by
  rw [reckoned, if_neg]
  omega

theorem nanos_ofMillis (ms : Int) : (ofMillis ms).nanos = ms * nanosPerMilli := by
  simp only [nanos, ofMillis, daySeconds, nanosPerSecond, nanosPerMilli]
  omega

/-- The time that is left until a moment. -/
theorem nanosSince_ofMillis (m : Moment) (ms : Int) :
    m.nanosSince (ofMillis ms) = m.reckoned (ofMillis ms) - ms * nanosPerMilli := by
  -- a millisecond is in no leap second
  have hnano : ¬ 1000000000 ≤ (ofMillis ms).nano := by
    simp only [ofMillis]
    omega
  rw [← nanos_ofMillis, nanosSince, if_neg fun h => hnano h.2, reckoned]
  simp only [nanos, daySeconds, nanosPerSecond]
  split <;> split <;> omega

end Calendar.Moment

namespace Schedule

open Calendar (Moment)

variable {s : Schedule} {a b : Announcement} {now T : Int} {scenario : Scenario}

/-! ## What is set at the start -/

/-- The moment is still to come. -/
def IsAhead (now : Int) (m : Moment) : Prop := now * nanosPerMilli < m.reckoned (.ofMillis now)

instance (now : Int) (m : Moment) : Decidable (IsAhead now m) :=
  inferInstanceAs (Decidable (_ < _))

/-- The millisecond at which a moment is announced: the first that is not before it, unless this
is further away than the clock waits. -/
def dueAt (now : Int) (m : Moment) : Int :=
  min ((m.reckoned (.ofMillis now) + (nanosPerMilli - 1)) / nanosPerMilli)
    (now + Clock.longestWait)

theorem announcement?_eq (now : Int) (p : String × Moment) :
    announcement? now p = if IsAhead now p.2 then some ⟨p.1, dueAt now p.2⟩ else none := by
  rw [announcement?, Moment.nanosSince_ofMillis]
  by_cases h : IsAhead now p.2
  · have hpos : 0 < p.2.reckoned (.ofMillis now) - now * nanosPerMilli := Int.sub_pos.mpr h
    rw [if_pos h, if_pos hpos, Clock.wake, dueAt]
    simp only [nanosPerMilli] at hpos ⊢
    congr 2
    omega
  · rw [if_neg h, if_neg fun hpos => h (Int.sub_pos.mp hpos)]

/-- **What is set at the start**: a step for each moment that is still to come. -/
theorem ofScenario_eq (scenario : Scenario) (now : Int) :
    ofScenario scenario now = (scenario.scheduled.filter fun p => IsAhead now p.2).map
      fun p => ⟨p.1, dueAt now p.2⟩ := by
  rw [ofScenario, ← List.filterMap_eq_map, List.filterMap_filter]
  refine List.filterMap_congr fun p _ => ?_
  rw [announcement?_eq]
  simp

/-! ## Sorting -/

theorem mem_insertByTime {l : List Announcement} : b ∈ insertByTime a l ↔ b = a ∨ b ∈ l := by
  induction l with
  | nil => rw [insertByTime, List.mem_singleton, or_iff_left List.not_mem_nil]
  | cons c l ih =>
    rw [insertByTime]
    split
    · exact List.mem_cons
    · rw [List.mem_cons, ih, List.mem_cons, or_left_comm]

theorem insertByTime_perm (a : Announcement) (l : List Announcement) :
    (insertByTime a l).Perm (a :: l) := by
  induction l with
  | nil => exact .refl _
  | cons c l ih =>
    rw [insertByTime]
    split
    · exact .refl _
    · exact (ih.cons c).trans (.swap a c l)

/-- Inserting into a sorted list keeps what holds from left to right. -/
theorem pairwise_insertByTime {R : Announcement → Announcement → Prop} {l : List Announcement}
    (hsorted : l.Pairwise fun b c => b.time ≤ c.time) (hl : l.Pairwise R)
    (hbefore : ∀ b ∈ l, b.time ≤ a.time → R b a) (hafter : ∀ b ∈ l, a.time < b.time → R a b) :
    (insertByTime a l).Pairwise R := by
  induction l with
  | nil => exact List.pairwise_singleton R a
  | cons c l ih =>
    obtain ⟨hc, hsorted⟩ := List.pairwise_cons.mp hsorted
    obtain ⟨hRc, hl'⟩ := List.pairwise_cons.mp hl
    rw [insertByTime]
    split
    · rename_i hlt
      refine List.pairwise_cons.mpr ⟨fun b hb => hafter b hb ?_, hl⟩
      rcases List.mem_cons.mp hb with rfl | hb
      · exact hlt
      · exact Int.lt_of_lt_of_le hlt (hc b hb)
    · rename_i hle
      refine List.pairwise_cons.mpr ⟨fun b hb => ?_, ?_⟩
      · rcases mem_insertByTime.mp hb with rfl | hb
        · exact hbefore c List.mem_cons_self (Int.not_lt.mp hle)
        · exact hRc b hb
      · exact ih hsorted hl'
          (fun b hb => hbefore b (List.mem_cons_of_mem c hb))
          (fun b hb => hafter b (List.mem_cons_of_mem c hb))

theorem byTime_concat (s : Schedule) (a : Announcement) :
    byTime (s ++ [a]) = insertByTime a (byTime s) := List.foldl_concat ..

theorem byTime_perm (s : Schedule) : (byTime s).Perm s := by
  induction s using List.reverseRecOn with
  | nil => exact .refl _
  | append_singleton s a ih =>
    rw [byTime_concat]
    exact (insertByTime_perm a _).trans ((ih.cons a).trans (List.perm_append_singleton a s).symm)

/-- One announcement is earlier than another, or at the same time and further up in the script. -/
def Precedes (s : Schedule) (a b : Announcement) : Prop :=
  a.time < b.time ∨ a.time = b.time ∧ [a, b].Sublist s

theorem Precedes.mono {s' : Schedule} (h : Precedes s a b) (hsub : s.Sublist s') :
    Precedes s' a b :=
  h.imp_right fun ⟨htime, hab⟩ => ⟨htime, hab.trans hsub⟩

theorem Precedes.time_le (h : Precedes s a b) : a.time ≤ b.time := by
  rcases h with h | ⟨h, -⟩ <;> omega

/-- **Sorting by time keeps the order of the script** where times are equal. -/
theorem pairwise_byTime (s : Schedule) : (byTime s).Pairwise (Precedes s) := by
  induction s using List.reverseRecOn with
  | nil => exact .nil
  | append_singleton s a ih =>
    rw [byTime_concat]
    refine pairwise_insertByTime (ih.imp Precedes.time_le)
      (ih.imp fun h => h.mono (List.sublist_append_left s [a])) (fun b hb hle => ?_)
      fun b _ hlt => Or.inl hlt
    have hmem : [b].Sublist s := List.singleton_sublist.mpr ((byTime_perm s).mem_iff.mp hb)
    rcases Int.lt_or_eq_of_le hle with hlt | heq
    · exact Or.inl hlt
    · exact Or.inr ⟨heq, hmem.append (List.Sublist.refl [a])⟩

/-! ## Stops of the clock -/

/-- What comes due at some stops of the clock, one after the other. -/
def ringing (s : Schedule) : List Int → List Announcement
  | [] => []
  | t :: ts => byTime (s.filter fun a => a.time ≤ t) ++ ringing (s.after t) ts

/-- What is announced at some stops of the clock. -/
def announced (s : Schedule) : List Int → List String
  | [] => []
  | t :: ts => s.due t ++ announced (s.after t) ts

theorem announced_eq (s : Schedule) (ts : List Int) :
    announced s ts = (ringing s ts).map Announcement.step := by
  induction ts generalizing s with
  | nil => rfl
  | cons t ts ih => rw [announced, ringing, List.map_append, ← ih, due]

/-- **What comes due over some stops** is what is due at the last one, however many there are. -/
theorem ringing_perm (s : Schedule) {ts : List Int} (hts : (ts ++ [T]).Pairwise (· ≤ ·)) :
    (ringing s (ts ++ [T])).Perm (s.filter fun a => a.time ≤ T) := by
  induction ts generalizing s with
  | nil =>
    rw [List.nil_append, ringing, ringing, List.append_nil]
    exact byTime_perm _
  | cons t ts ih =>
    obtain ⟨ht, hts⟩ := List.pairwise_cons.mp hts
    have htT : t ≤ T := ht T (List.mem_append_right ts (List.mem_singleton_self T))
    have hfirst : (s.filter fun a => a.time ≤ t)
        = (s.filter fun a => a.time ≤ T).filter fun a => a.time ≤ t := by
      rw [List.filter_filter]
      refine List.filter_congr fun a _ => ?_
      rw [Bool.eq_iff_iff, Bool.and_eq_true, decide_eq_true_iff, decide_eq_true_iff]
      omega
    have hrest : ((s.after t).filter fun a => a.time ≤ T)
        = (s.filter fun a => a.time ≤ T).filter fun a => !decide (a.time ≤ t) := by
      rw [after, List.filter_filter, List.filter_filter]
      refine List.filter_congr fun a _ => ?_
      rw [Bool.eq_iff_iff, Bool.and_eq_true, Bool.and_eq_true, decide_eq_true_iff,
        decide_eq_true_iff, Bool.not_eq_true', decide_eq_false_iff_not]
      omega
    rw [List.cons_append, ringing]
    refine ((byTime_perm _).append (ih (s.after t) hts)).trans ?_
    rw [hfirst, hrest]
    exact List.filter_append_perm _ _

theorem mem_of_mem_ringing {ts : List Int} (h : a ∈ ringing s ts) : a ∈ s := by
  induction ts generalizing s with
  | nil => exact absurd h List.not_mem_nil
  | cons t ts ih =>
    rcases List.mem_append.mp h with h | h
    · exact List.mem_of_mem_filter ((byTime_perm _).mem_iff.mp h)
    · exact List.mem_of_mem_filter (ih h)

/-- **The order over some stops** is that of the times, and of the script where times are equal. -/
theorem pairwise_ringing (s : Schedule) (ts : List Int) :
    (ringing s ts).Pairwise (Precedes s) := by
  induction ts generalizing s with
  | nil => exact .nil
  | cons t ts ih =>
    rw [ringing, List.pairwise_append]
    refine ⟨(pairwise_byTime _).imp fun h => h.mono List.filter_sublist,
      (ih (s.after t)).imp fun h => h.mono List.filter_sublist, fun a ha b hb => Or.inl ?_⟩
    have hat : a.time ≤ t := by
      simpa using List.of_mem_filter ((byTime_perm _).mem_iff.mp ha)
    have htb : t < b.time := by
      simpa using List.of_mem_filter (mem_of_mem_ringing hb)
    exact Int.lt_of_le_of_lt hat htb

/-! ## Scenarios -/

/-- The steps that come up at a moment, among all steps. -/
theorem map_scheduled_sublist (scenario : Scenario) :
    (scenario.scheduled.map Prod.fst).Sublist (scenario.steps.map Step.id) := by
  rw [Scenario.scheduled]
  generalize scenario.steps = steps
  induction steps with
  | nil => exact .slnil
  | cons step steps ih =>
    rw [List.filterMap_cons]
    cases step.scheduledAt? with
    | none => exact ih.cons _
    | some m => exact ih.cons_cons _

/-- What has been announced when the clock shows `T` to whoever plays a scenario since `now`. -/
structure Announces (scenario : Scenario) (now T : Int) (ids : List String) : Prop where
  /-- No step is announced twice. -/
  nodup : ids.Nodup
  /-- Those are announced whose moment was still to come, and has come since. -/
  mem_iff : ∀ id, id ∈ ids ↔
    ∃ m, (id, m) ∈ scenario.scheduled ∧ IsAhead now m ∧ dueAt now m ≤ T
  /-- They come in the order of their milliseconds, and in that of the script on one of them. -/
  in_order : ids.Pairwise fun a b => ∀ m n, (a, m) ∈ scenario.scheduled →
    (b, n) ∈ scenario.scheduled → dueAt now m < dueAt now n ∨
      dueAt now m = dueAt now n ∧ [(a, m), (b, n)].Sublist scenario.scheduled

/-- Where no id comes twice, a step comes up at one moment. -/
theorem moment_unique (hnodup : (scenario.scheduled.map Prod.fst).Nodup) {id : String}
    {m n : Moment} (hm : (id, m) ∈ scenario.scheduled) (hn : (id, n) ∈ scenario.scheduled) :
    m = n :=
  congrArg Prod.snd (List.inj_on_of_nodup_map hnodup hm hn rfl)

/-- Where no id comes twice, an announcement is that of its step. -/
theorem time_of_mem_ofScenario (hnodup : (scenario.scheduled.map Prod.fst).Nodup)
    (ha : a ∈ ofScenario scenario now) {m : Moment} (hm : (a.step, m) ∈ scenario.scheduled) :
    a.time = dueAt now m := by
  rw [ofScenario_eq] at ha
  obtain ⟨p, hp, rfl⟩ := List.mem_map.mp ha
  rw [moment_unique hnodup hm (List.mem_of_mem_filter hp)]

/-- The order of the announcements is that of the steps. -/
theorem sublist_scheduled (hnodup : (scenario.scheduled.map Prod.fst).Nodup)
    (hab : [a, b].Sublist (ofScenario scenario now)) {m n : Moment}
    (hm : (a.step, m) ∈ scenario.scheduled) (hn : (b.step, n) ∈ scenario.scheduled) :
    [(a.step, m), (b.step, n)].Sublist scenario.scheduled := by
  rw [ofScenario_eq, List.sublist_map_iff] at hab
  obtain ⟨ps, hps, heq⟩ := hab
  have hsub := hps.trans List.filter_sublist
  obtain ⟨p, qs, rfl, rfl, hqs⟩ := List.map_eq_cons_iff.mp heq.symm
  obtain ⟨q, rs, rfl, rfl, hrs⟩ := List.map_eq_cons_iff.mp hqs
  obtain rfl := List.map_eq_nil_iff.mp hrs
  have hp : p ∈ scenario.scheduled := hsub.mem List.mem_cons_self
  have hq : q ∈ scenario.scheduled := hsub.mem (List.mem_cons_of_mem p List.mem_cons_self)
  rw [moment_unique hnodup hm hp, moment_unique hnodup hn hq]
  exact hsub

/-- What is announced, where no id comes twice. -/
theorem announces (hnodup : (scenario.scheduled.map Prod.fst).Nodup) (now : Int) {ts : List Int}
    (hts : (ts ++ [T]).Pairwise (· ≤ ·)) :
    Announces scenario now T (announced (ofScenario scenario now) (ts ++ [T])) := by
  have hperm := ringing_perm (ofScenario scenario now) hts
  rw [announced_eq]
  refine ⟨?nodup, fun id => ?mem, ?order⟩
  case nodup =>
    have hset : ((ofScenario scenario now).map Announcement.step).Nodup := by
      rw [ofScenario_eq, List.map_map]
      exact hnodup.sublist (List.filter_sublist.map Prod.fst)
    exact (hperm.map _).nodup_iff.mpr (hset.sublist (List.filter_sublist.map _))
  case mem =>
    rw [(hperm.map _).mem_iff, ofScenario_eq]
    simp only [List.mem_map, List.mem_filter, decide_eq_true_iff]
    constructor
    · rintro ⟨a, ⟨⟨p, ⟨hp, hahead⟩, rfl⟩, htime⟩, rfl⟩
      exact ⟨p.2, hp, hahead, htime⟩
    · rintro ⟨m, hm, hahead, htime⟩
      exact ⟨⟨id, dueAt now m⟩, ⟨⟨(id, m), ⟨hm, hahead⟩, rfl⟩, htime⟩, rfl⟩
  case order =>
    rw [List.pairwise_map]
    refine (pairwise_ringing _ _).imp_of_mem fun {a b} ha hb hab m n hm hn => ?_
    rw [← time_of_mem_ofScenario hnodup (mem_of_mem_ringing ha) hm,
      ← time_of_mem_ofScenario hnodup (mem_of_mem_ringing hb) hn]
    exact hab.imp_right fun ⟨htime, hsub⟩ => ⟨htime, sublist_scheduled hnodup hsub hm hn⟩

/-- **Steps are announced once, on time and in order.**  When a scenario that has been read is
started, an announcement is set for each step whose moment is still to come, and for no other.
Wherever the clock stops on its way to `T`, those of them that have come by then have been
announced, each of them once, in the order of their milliseconds and of the script. -/
theorem announced_once_in_order {zone : Calendar.Zone} {text : String}
    (h : Scenario.ofText zone text = .ok scenario) (now : Int) {ts : List Int}
    (hts : (ts ++ [T]).Pairwise (· ≤ ·)) :
    (ofScenario scenario now).map Announcement.step
        = (scenario.scheduled.filter fun p => IsAhead now p.2).map Prod.fst
      ∧ Announces scenario now T (announced (ofScenario scenario now) (ts ++ [T]))
      ∧ ∀ id m, (id, m) ∈ scenario.scheduled → ¬ IsAhead now m →
          id ∉ announced (ofScenario scenario now) (ts ++ [T]) := by
  obtain ⟨about, rest, -, hsteps, -⟩ := Scenario.parts_of_ofText h
  have hids : (scenario.steps.map Step.id).Nodup := hsteps ▸ nodup_map_putAll Step.id rest
  have hnodup := hids.sublist (map_scheduled_sublist scenario)
  have hannounces := announces hnodup now hts
  refine ⟨?_, hannounces, fun id m hm hpast hmem => ?_⟩
  · rw [ofScenario_eq, List.map_map]
    rfl
  · obtain ⟨n, hn, hahead, -⟩ := (hannounces.mem_iff id).mp hmem
    exact hpast (moment_unique hnodup hn hm ▸ hahead)

/-- A script with a step of the day before, and two steps that fall on one millisecond. -/
def news : String :=
  "# News\n## Step 1 (immediate)\nHi\n\n## Step old (2024-12-31)\nOld\n\n" ++
    "## Step late (2025-01-01T00:00:02.5Z)\nLate\n\n" ++
    "## Step early (2025-01-01T00:00:01Z)\nEarly\n\n" ++
    "## Step also (2025-01-01T00:00:02.4999995Z)\nAlso\n"

/-- From midnight on, with a stop on the way. -/
theorem announced_once_in_order_news : ∃ s, Scenario.ofText .universal news = .ok s ∧
    ([1735689601500] ++ [1735689602500] : List Int).Pairwise (· ≤ ·) ∧
    Announces s 1735689600000 1735689602500
      (announced (ofScenario s 1735689600000) ([1735689601500] ++ [1735689602500])) ∧
    announced (ofScenario s 1735689600000) ([1735689601500] ++ [1735689602500])
      = ["early", "late", "also"] := by
  have hread : (Scenario.ofText .universal news).toOption.map (fun s =>
      announced (ofScenario s 1735689600000) ([1735689601500] ++ [1735689602500]))
      = some ["early", "late", "also"] := by
    decide +kernel
  have hstops : ([1735689601500] ++ [1735689602500] : List Int).Pairwise (· ≤ ·) := by decide
  cases h : Scenario.ofText .universal news with
  | error e => rw [h] at hread; cases hread
  | ok s =>
    rw [h] at hread
    exact ⟨s, rfl, hstops, (announced_once_in_order h 1735689600000 hstops).2.1,
      Option.some.inj hread⟩

/-- A script with one step that comes up at a moment. -/
def single (moment : String) : String :=
  "# Bot\n## Step 1 (immediate)\nHello\n\n## Step then (" ++ moment ++ ")\nLater\n"

/-- A step can come early: one whose moment is further away than the clock waits, and one whose
moment is in a leap second that is earlier in the day than the start. -/
theorem announced_early :
    (Scenario.ofText .universal (single "2054-12-25T00:00:00.001Z")).toOption.map (fun s =>
        (s.scheduled.map fun p => (p.1, p.2.nanos),
          announced (ofScenario s 1735689600000) [2681769600000]))
      = some ([("then", 2681769600001000000)], ["then"]) ∧
    (Scenario.ofText .universal (single "2025-01-02T12:34:60.5Z")).toOption.map (fun s =>
        (s.scheduled.map fun p => (p.1, p.2.nanos),
          announced (ofScenario s 1735736400000) [1735821299500]))
      = some ([("then", 1735821300500000000)], ["then"]) := by
  decide +kernel

end Schedule
end ScriptedChat
