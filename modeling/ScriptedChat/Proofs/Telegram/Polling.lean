import ScriptedChat.Proofs.Telegram.Forwarding
import ScriptedChat.Telegram.Script

/-!
# Nothing is lost, repeated or reordered

A poller stands between a service that answers whenever it likes, or fails to, and a channel of
limited room whose other end takes things out whenever it likes, or hangs up.  Whatever the two
do, what is put into the channel is what the answers tell, in the same order, each event once.

## Moments

What the poller has been told and what has left the channel is not part of its state, so it is
written down in a `Log` beside it.  `Run` says which moments there are: the poller goes on, time
passes, things are taken out, the channel is closed, and somebody else uses the connection.  A
step passes on as much of a batch as there is room for, but each event of it is put in on its own,
so the moments in the middle of a batch are there as well, and the other end may take something
out at any of them.

## The argument

`Next` says what a step can do.  The invariant splits the updates of all answers into those that
have been passed on, whose events are exactly those that were put in, and the rest, which is in
the hands of the poller; the offset is what it should be once the rest has been seen.  Outside of
a batch the rest is empty.  So a request, which is made outside of a batch only, tells the service
about updates that have all been passed on.

* `Log`, `Polling.Run`: what has happened, and the moments.
* `Polling.Next`, `Polling.step_next`: what a step can do.
* `Polling.InOrder`, `Polling.Run.inOrder`: the invariant.
* `Polling.Faithful`, `Polling.nothing_lost_repeated_or_reordered`: the results together.
-/

namespace ScriptedChat
namespace Telegram

/-! ## Logs -/

/-- The updates in some answers, one answer after the other. -/
def updatesIn (answers : List (Int × Answer)) : List Json :=
  answers.flatMap fun a => a.2.batch?.getD []

/-- What has happened so far. -/
structure Log where
  /-- The answers that the poller has taken up, each with the moment. -/
  answers : List (Int × Answer)
  /-- The events that are not in the channel any more: they were taken out, or it was closed. -/
  gone : List Inbound

namespace Log

/-- The updates that the poller has been told. -/
def updates (log : Log) : List Json := updatesIn log.answers

/-- The events that the poller has been told. -/
def told (log : Log) : List Inbound := eventsOf log.updates

/-- An answer is taken up. -/
def hear (now : Int) (a : Answer) (log : Log) : Log :=
  { log with answers := log.answers ++ [(now, a)] }

/-- Events leave the channel. -/
def leave (es : List Inbound) (log : Log) : Log := { log with gone := log.gone ++ es }

end Log

theorem updatesIn_append (as bs : List (Int × Answer)) :
    updatesIn (as ++ bs) = updatesIn as ++ updatesIn bs :=
  List.flatMap_append

theorem updates_hear (log : Log) (now : Int) (a : Answer) :
    (log.hear now a).updates = log.updates ++ a.batch?.getD [] := by
  rw [Log.updates, Log.hear, updatesIn_append]
  simp [Log.updates, updatesIn]

/-- A failed answer tells nothing. -/
theorem updatesIn_take_succ_of_failed {answers : List (Int × Answer)} {i : Nat}
    {a : Int × Answer} (h : answers[i]? = some a) (hfailed : a.2.batch? = none) :
    updatesIn (answers.take (i + 1)) = updatesIn (answers.take i) := by
  rw [List.take_add_one, h, updatesIn_append]
  simp [updatesIn, hfailed]

/-- The offsets that are asked for never decrease. -/
theorem wanted_take_le (answers : List (Int × Answer)) {i j : Nat} (h : i ≤ j) :
    wanted (updatesIn (answers.take i)) ≤ wanted (updatesIn (answers.take j)) := by
  have hsplit := List.take_append_drop i (answers.take j)
  rw [List.take_take, Nat.min_eq_left h] at hsplit
  rw [← hsplit, updatesIn_append]
  exact wanted_le_append _ _

/-- The requests for updates among the posts of a connection. -/
def Connection.polls {ν : Type} (c : Connection ν) : List HttpPost :=
  c.posts.filter fun p => p.url == c.client.url "getUpdates"

/-- A request for updates from an offset on. -/
def Client.poll (c : Client) (offset : Int) (timeout : Nat) : HttpPost :=
  c.post "getUpdates" (updatesBody offset timeout)

/-- The poller waits for an answer. -/
def Phase.isAwaiting : Phase → Bool
  | .awaiting _ => true
  | _ => false

/-- The poller is inside a batch, or was when it ended. -/
def Phase.isInside : Phase → Bool
  | .forwarding _ => true
  | .finished => true
  | _ => false

namespace Polling

variable {ν : Type}

/-- The events that have been put into the channel so far. -/
def accepted (log : Log) (s : Polling ν) : List Inbound := log.gone ++ s.channel.waiting

/-- How many requests for updates the poller has made. -/
def asked (log : Log) (s : Polling ν) : Nat :=
  log.answers.length + if s.poller.phase.isAwaiting then 1 else 0

/-- The log after the poller has gone on: it has taken up the answer it was waiting for. -/
def noted (now : Int) (log : Log) (s : Polling ν) : Log :=
  match s.poller.phase with
  | .awaiting (some (_, a)) => log.hear now a
  | _ => log

/-! ## The invariant -/

/-- How far a poller is with the updates it has been told, if these events have been put into its
channel. -/
def Place (us : List Json) (es : List Inbound) (c : Channel) (p : Poller) : Prop :=
  match p.phase with
  | .forwarding rest =>
    ∃ done, us = done ++ rest ∧ es = eventsOf done ∧ wantedFrom p.offset rest = wantedFrom 0 us
  | .finished =>
    c.closed = true
      ∧ ∃ done u rest e, us = done ++ u :: rest ∧ es = eventsOf done ∧ readUpdate? u = some e
  | _ => es = eventsOf us ∧ p.offset = wantedFrom 0 us

/-- What holds at every moment of a poller. -/
structure InOrder (timeout capacity : Nat) (c₀ : Connection ν) (log : Log) (s : Polling ν) :
    Prop where
  timeout_eq : s.poller.timeout = timeout
  capacity_eq : s.channel.capacity = capacity
  client_eq : s.connection.client = c₀.client
  place : Place log.updates (s.accepted log) s.channel s.poller
  /-- A pause is five seconds from the last answer, which failed. -/
  pause : ∀ limit, s.poller.phase = .pausing limit →
    ∃ earlier moment a, log.answers = earlier ++ [(moment, a)] ∧ a.batch? = none
      ∧ limit = moment + retryDelay
  polls : s.connection.polls
    = c₀.polls ++ (List.range (s.asked log)).map fun i =>
        c₀.client.poll (wantedFrom 0 (updatesIn (log.answers.take i))).toInt timeout

section

variable {timeout capacity : Nat} {c₀ : Connection ν} {log : Log} {s : Polling ν}

/-- Outside of a batch all that was told has been put in, and the offset is up to date. -/
theorem InOrder.caughtUp (h : InOrder timeout capacity c₀ log s)
    (outside : s.poller.phase.isInside = false) :
    s.accepted log = log.told ∧ s.poller.offset = wantedFrom 0 log.updates := by
  have hplace := h.place
  rw [Place] at hplace
  cases hphase : s.poller.phase <;> rw [hphase] at hplace outside
  case forwarding => cases outside
  case finished => cases outside
  all_goals exact hplace

/-- A poller that is outside of a batch and has caught up is in its place. -/
theorem Place.of_caughtUp {us : List Json} {es : List Inbound} {c : Channel} {p : Poller}
    (h : es = eventsOf us ∧ p.offset = wantedFrom 0 us) (outside : p.phase.isInside = false) :
    Place us es c p := by
  rw [Place]
  cases hphase : p.phase <;> rw [hphase] at outside
  case forwarding => cases outside
  case finished => cases outside
  all_goals exact h

/-- Where a poller stands does not depend on how the channel is, except that it stays closed. -/
theorem Place.channel {us : List Json} {es : List Inbound} {c d : Channel} {p : Poller}
    (h : Place us es c p) (closed : c.closed = true → d.closed = true) : Place us es d p := by
  rw [Place] at h ⊢
  cases hphase : p.phase <;> rw [hphase] at h
  case finished => exact ⟨closed h.1, h.2⟩
  all_goals exact h

/-- Passing on a part of a batch moves it from the rest to what has been put in. -/
theorem Place.passed {us done rest : List Json} {es : List Inbound} {c d : Channel}
    {p q : Poller} (h : Place us es c p) (phase : p.phase = .forwarding rest)
    (passed : Passed p.timeout rest p.offset d done q) :
    Place us (es ++ eventsOf done) d q := by
  rw [Place, phase] at h
  obtain ⟨before, rfl, rfl, hoffset⟩ := h
  cases passed with
  | whole => exact ⟨(eventsOf_append _ _).symm, hoffset⟩
  | full split event open_ room =>
    subst split
    refine ⟨before ++ done, (List.append_assoc _ _ _).symm, (eventsOf_append _ _).symm, ?_⟩
    -- the number of the update that waits has been seen already
    rw [← hoffset, wantedFrom_cons, nextOffset_nextOffset, wantedFrom_append p.offset,
      wantedFrom_cons]
  | unheard split event closed =>
    subst split
    exact ⟨closed, before ++ done, _, _, _, (List.append_assoc _ _ _).symm,
      (eventsOf_append _ _).symm, event⟩

/-- Passing on a first part of a batch whole leaves the rest of it. -/
theorem Place.part {us vs ws : List Json} {es : List Inbound} {c d : Channel} {p : Poller}
    (h : Place us es c p) (phase : p.phase = .forwarding (vs ++ ws)) (timeout : Nat) :
    Place us (es ++ eventsOf vs) d ⟨timeout, wantedFrom p.offset vs, .forwarding ws⟩ := by
  rw [Place, phase] at h
  obtain ⟨before, rfl, rfl, hoffset⟩ := h
  refine ⟨before ++ vs, (List.append_assoc _ _ _).symm, (eventsOf_append _ _).symm, ?_⟩
  rw [← hoffset, wantedFrom_append p.offset]

theorem polls_append_poll {c d : Connection ν} {offset : Int}
    (client : d.client = c.client) (posts : d.posts = c.posts ++ [c.client.poll offset timeout]) :
    d.polls = c.polls ++ [c.client.poll offset timeout] := by
  rw [Connection.polls, client, posts, List.filter_append, Connection.polls]
  congr 1
  simp [Client.poll, Client.post]

theorem asked_of_isAwaiting (h : s.poller.phase.isAwaiting = true) :
    s.asked log = log.answers.length + 1 := by
  rw [asked, h, if_pos rfl]

theorem asked_of_not_isAwaiting (h : s.poller.phase.isAwaiting = false) :
    s.asked log = log.answers.length := by
  rw [asked, h, if_neg Bool.false_ne_true, Nat.add_zero]

/-- Taking up an answer leaves the requests as they are: the one it answers is counted already. -/
theorem InOrder.polls_hear (h : InOrder timeout capacity c₀ log s)
    (awaiting : s.poller.phase.isAwaiting = true) (now : Int) (a : Answer) :
    s.connection.polls
      = c₀.polls ++ (List.range (log.hear now a).answers.length).map fun i =>
          c₀.client.poll (wantedFrom 0 (updatesIn ((log.hear now a).answers.take i))).toInt
            timeout := by
  rw [h.polls, asked_of_isAwaiting awaiting]
  have hlength : (log.hear now a).answers.length = log.answers.length + 1 := by
    simp [Log.hear]
  rw [hlength, List.append_cancel_left_eq]
  refine List.map_congr_left fun i hi => ?_
  have hle : i ≤ log.answers.length := Nat.lt_succ_iff.mp (List.mem_range.mp hi)
  rw [show (log.hear now a).answers.take i = log.answers.take i from
    List.take_append_of_le_length hle]

/-- The updates of the first answers are numbered if those of all are. -/
theorem numbered_take (h : Numbered log.updates) (i : Nat) :
    Numbered (updatesIn (log.answers.take i)) := by
  intro u hu
  obtain ⟨a, ha, hua⟩ := List.mem_flatMap.mp hu
  exact h u (List.mem_flatMap.mpr ⟨a, List.mem_of_mem_take ha, hua⟩)

/-- The requests, with the offsets as they should be. -/
theorem InOrder.polls_wanted (h : InOrder timeout capacity c₀ log s)
    (numbered : Numbered log.updates) :
    s.connection.polls
      = c₀.polls ++ (List.range (s.asked log)).map fun i =>
          c₀.client.poll (wanted (updatesIn (log.answers.take i))) timeout := by
  rw [h.polls]
  congr 1
  refine List.map_congr_left fun i _ => ?_
  rw [toInt_wantedFrom (numbered_take numbered i)]

theorem InOrder.rest (h : InOrder timeout capacity c₀ log s) {us : List Json}
    (phase : s.poller.phase = .forwarding us) : s.accepted log ++ eventsOf us = log.told := by
  have hplace := h.place
  rw [Place, phase] at hplace
  obtain ⟨done, hupdates, haccepted, -⟩ := hplace
  rw [haccepted, Log.told, hupdates, eventsOf_append]

theorem InOrder.ended (h : InOrder timeout capacity c₀ log s) (finished : s.isFinished = true) :
    s.channel.closed = true ∧ ∃ e, s.accepted log ++ [e] <+: log.told := by
  have hplace := h.place
  rw [Place] at hplace
  cases hphase : s.poller.phase <;> rw [isFinished, hphase] at finished
  case finished =>
    rw [hphase] at hplace
    obtain ⟨hclosed, done, u, rest, e, hupdates, haccepted, hu⟩ := hplace
    refine ⟨hclosed, e, eventsOf rest, ?_⟩
    rw [Log.told, hupdates, eventsOf_append, eventsOf_cons_some hu, haccepted,
      List.append_assoc, List.singleton_append]
  all_goals cases finished

theorem InOrder.inOrder (h : InOrder timeout capacity c₀ log s) :
    s.accepted log <+: log.told := by
  by_cases hinside : s.poller.phase.isInside = false
  · exact (h.caughtUp hinside).1 ▸ List.prefix_refl _
  · cases hphase : s.poller.phase with
    | forwarding us => exact ⟨eventsOf us, h.rest hphase⟩
    | finished =>
      obtain ⟨-, e, hprefix⟩ := h.ended (by rw [isFinished, hphase])
      exact (List.prefix_append _ [e]).trans hprefix
    | asking => rw [hphase] at hinside; exact absurd rfl hinside
    | awaiting answer => rw [hphase] at hinside; exact absurd rfl hinside
    | pausing limit => rw [hphase] at hinside; exact absurd rfl hinside

theorem InOrder.retries (h : InOrder timeout capacity c₀ log s) {i : Nat} {a : Int × Answer}
    (answer : log.answers[i]? = some a) (failed : a.2.batch? = none)
    (asked : i + 1 < s.asked log) :
    s.connection.polls[c₀.polls.length + (i + 1)]?
      = s.connection.polls[c₀.polls.length + i]? := by
  have hi : i < s.asked log := Nat.lt_of_succ_lt asked
  rw [h.polls, List.getElem?_append_right (Nat.le_add_right _ _),
    List.getElem?_append_right (Nat.le_add_right _ _), Nat.add_sub_cancel_left,
    Nat.add_sub_cancel_left, List.getElem?_map, List.getElem?_map, List.getElem?_range asked,
    List.getElem?_range hi, Option.map_some, Option.map_some,
    updatesIn_take_succ_of_failed answer failed]

end

/-! ## Moments -/

variable [Network ν]

/-- The moments of a poller with an empty channel of some capacity, with what has happened up to
each. -/
inductive Run (timeout capacity : Nat) (c₀ : Connection ν) : Log → Int → Polling ν → Prop
  | start (now : Int) :
      Run timeout capacity c₀ ⟨[], []⟩ now ⟨Poller.new timeout, Channel.empty capacity, c₀⟩
  /-- The poller goes on. -/
  | goes {log : Log} {now : Int} {s t : Polling ν} (run : Run timeout capacity c₀ log now s)
      (step : s.step now = some t) : Run timeout capacity c₀ (noted now log s) now t
  /-- The poller has passed on a first part of a batch. -/
  | amid {log : Log} {now : Int} {s : Polling ν} {us vs : List Json} {o : Int64} {d : Channel}
      (run : Run timeout capacity c₀ log now s) (phase : s.poller.phase = .forwarding (us ++ vs))
      (part : forward s.poller.timeout us s.poller.offset s.channel
        = (⟨s.poller.timeout, o, .asking⟩, d)) :
      Run timeout capacity c₀ log now
        { s with poller := ⟨s.poller.timeout, o, .forwarding vs⟩, channel := d }
  /-- The first things in the channel are taken out. -/
  | takes {log : Log} {now : Int} {s : Polling ν} (run : Run timeout capacity c₀ log now s)
      (n : Nat) :
      Run timeout capacity c₀ (log.leave (s.channel.waiting.take n)) now
        { s with channel := s.channel.drop n }
  /-- The other end of the channel is closed. -/
  | closes {log : Log} {now : Int} {s : Polling ν} (run : Run timeout capacity c₀ log now s) :
      Run timeout capacity c₀ (log.leave s.channel.waiting) now
        { s with channel := s.channel.close }
  /-- Something else is posted, and the network changes. -/
  | shares {log : Log} {now : Int} {s : Polling ν} (run : Run timeout capacity c₀ log now s)
      (network : ν) (posts : List HttpPost)
      (other : ∀ p ∈ posts, p.url ≠ s.connection.client.url "getUpdates") :
      Run timeout capacity c₀ log now
        { s with connection :=
            { s.connection with network, posts := s.connection.posts ++ posts } }
  /-- Time passes. -/
  | passes {log : Log} {now later : Int} {s : Polling ν} (run : Run timeout capacity c₀ log now s)
      (le : now ≤ later) : Run timeout capacity c₀ log later s

section Moments

variable {timeout capacity : Nat} {c₀ : Connection ν} {log : Log} {now : Int} {s : Polling ν}

/-- A poller that goes on until it has to wait has moments only. -/
theorem Run.run (h : Run timeout capacity c₀ log now s) (fuel : Nat) :
    ∃ log', Run timeout capacity c₀ log' now (s.run now fuel) := by
  induction fuel generalizing log s with
  | zero => exact ⟨log, h⟩
  | succ fuel ih =>
    rw [Polling.run]
    cases hstep : s.step now with
    | none => exact ⟨log, h⟩
    | some t => exact ih (h.goes hstep)

/-- And so has one that goes on while the clock moves. -/
theorem Run.runUntil {limit : Int} (h : Run timeout capacity c₀ log now s) (le : now ≤ limit)
    (fuel stops : Nat) :
    ∃ log', Run timeout capacity c₀ log' limit (s.runUntil fuel stops now limit) := by
  induction stops generalizing log now s with
  | zero => exact (h.passes le).run fuel
  | succ stops ih =>
    rw [Polling.runUntil]
    obtain ⟨log', h'⟩ := h.run fuel
    cases hwake : (s.run now fuel).wake? with
    | none => exact ⟨log', h'.passes le⟩
    | some w =>
      by_cases hw : w ≤ limit
      · simp only [hw, if_true]
        exact ih (h'.passes (Int.le_max_left now w)) (Int.max_le.mpr ⟨le, hw⟩)
      · simp only [hw, if_false]
        exact ⟨log', h'.passes le⟩

end Moments

/-! ## Steps -/

/-- What a step can do. -/
inductive Next (now : Int) (s : Polling ν) : Polling ν → Prop
  /-- It makes a request. -/
  | asks {c : Connection ν} (phase : s.poller.phase = .asking) (answer : Option (Int × Answer))
      (client : c.client = s.connection.client)
      (posts : c.posts = s.connection.posts
        ++ [s.connection.client.poll s.poller.offset.toInt s.poller.timeout]) :
      Next now s ({ s with connection := c }.enter (.awaiting answer))
  /-- It takes up an answer that tells something. -/
  | hears {moment : Int} {a : Answer} {us : List Json}
      (phase : s.poller.phase = .awaiting (some (moment, a))) (batch : a.batch? = some us) :
      Next now s (s.enter (.forwarding us))
  /-- It takes up an answer that tells nothing. -/
  | fails {moment : Int} {a : Answer} (phase : s.poller.phase = .awaiting (some (moment, a)))
      (batch : a.batch? = none) : Next now s (s.enter (.pausing (now + retryDelay)))
  /-- It passes on a part of a batch. -/
  | forwards {us done : List Json} {p : Poller} (phase : s.poller.phase = .forwarding us)
      (passed : Passed s.poller.timeout us s.poller.offset s.channel done p) :
      Next now s { s with poller := p, channel := s.channel.putAll (eventsOf done) }
  /-- Its pause is over. -/
  | resumes {limit : Int} (phase : s.poller.phase = .pausing limit) (le : limit ≤ now) :
      Next now s (s.enter .asking)

theorem step_next {now : Int} {s t : Polling ν} (h : s.step now = some t) : Next now s t := by
  rw [step] at h
  cases hphase : s.poller.phase with
  | asking =>
    rw [hphase] at h
    dsimp only [Connection.post] at h
    cases hreply : (Network.exchange (s.connection.client.poll s.poller.offset.toInt
        s.poller.timeout) s.connection.network).1 with
    | after delay answer =>
      rw [Client.poll] at hreply
      rw [hreply, Option.some.injEq] at h
      subst h
      exact .asks hphase _ rfl rfl
    | never =>
      rw [Client.poll] at hreply
      rw [hreply, Option.some.injEq] at h
      subst h
      exact .asks hphase _ rfl rfl
  | awaiting answer =>
    cases answer with
    | none => rw [hphase] at h; cases h
    | some answer =>
      obtain ⟨moment, a⟩ := answer
      rw [hphase] at h
      dsimp only at h
      split at h
      · cases hbatch : a.batch? with
        | none =>
          obtain ⟨e, he⟩ := answeredUpdates_of_batch?_none hbatch s.connection.client
          rw [he, Option.some.injEq] at h
          subst h
          exact .fails hphase hbatch
        | some us =>
          rw [answeredUpdates_of_batch? hbatch, Option.some.injEq] at h
          subst h
          exact .hears hphase hbatch
      · cases h
  | forwarding us =>
    rw [hphase] at h
    dsimp only at h
    split at h
    · obtain ⟨done, hchannel, hpassed⟩ :=
        forward_cases s.poller.timeout us s.poller.offset s.channel
      rw [Option.some.injEq, hchannel] at h
      subst h
      exact .forwards hphase hpassed
    · cases h
  | pausing limit =>
    rw [hphase] at h
    dsimp only at h
    split at h
    · next hle =>
      rw [Option.some.injEq] at h
      subst h
      exact .resumes hphase hle
    · cases h
  | finished => rw [hphase] at h; cases h

/-! ## The invariant holds -/

section

variable {timeout capacity : Nat} {c₀ : Connection ν} {log : Log} {now : Int} {s t : Polling ν}

/-- Every step keeps the invariant. -/
theorem InOrder.step (h : InOrder timeout capacity c₀ log s) (hstep : s.step now = some t) :
    InOrder timeout capacity c₀ (noted now log s) t := by
  cases step_next hstep with
  | @asks c phase answer client posts =>
    have hcaught := h.caughtUp (by rw [phase]; rfl)
    have hlog : noted now log s = log := by rw [noted, phase]
    rw [hlog]
    refine ⟨h.timeout_eq, h.capacity_eq, client.trans h.client_eq, Place.of_caughtUp hcaught rfl,
      fun limit hlimit => (nomatch hlimit), ?_⟩
    rw [asked_of_isAwaiting rfl, List.range_succ, List.map_append, ← List.append_assoc,
      ← asked_of_not_isAwaiting (s := s) (by rw [phase]; rfl), ← h.polls,
      asked_of_not_isAwaiting (by rw [phase]; rfl)]
    refine (polls_append_poll client posts).trans ?_
    rw [h.client_eq, h.timeout_eq, hcaught.2, List.map_singleton, List.take_length]
    rfl
  | @hears moment a us phase batch =>
    have hcaught := h.caughtUp (by rw [phase]; rfl)
    have hlog : noted now log s = log.hear now a := by rw [noted, phase]
    have hupdates : (log.hear now a).updates = log.updates ++ us := by
      rw [updates_hear, batch]; rfl
    rw [hlog]
    refine ⟨h.timeout_eq, h.capacity_eq, h.client_eq, ?_, fun limit hlimit => (nomatch hlimit), ?_⟩
    · refine ⟨log.updates, hupdates, hcaught.1, ?_⟩
      rw [hupdates, wantedFrom_append]
      exact congrArg (wantedFrom · us) hcaught.2
    · rw [asked_of_not_isAwaiting rfl]
      exact h.polls_hear (by rw [phase]; rfl) now a
  | @fails moment a phase batch =>
    have hcaught := h.caughtUp (by rw [phase]; rfl)
    have hlog : noted now log s = log.hear now a := by rw [noted, phase]
    have hupdates : (log.hear now a).updates = log.updates := by
      rw [updates_hear, batch]; exact List.append_nil _
    rw [hlog]
    refine ⟨h.timeout_eq, h.capacity_eq, h.client_eq, ?_, ?_, ?_⟩
    · rw [hupdates]
      exact Place.of_caughtUp hcaught rfl
    · intro limit hlimit
      cases hlimit
      exact ⟨log.answers, now, a, rfl, batch, rfl⟩
    · rw [asked_of_not_isAwaiting rfl]
      exact h.polls_hear (by rw [phase]; rfl) now a
  | @forwards us done p phase passed =>
    have hlog : noted now log s = log := by rw [noted, phase]
    have hplace := h.place.passed phase passed
    have hasked : ∀ q : Poller, Passed s.poller.timeout us s.poller.offset s.channel done q →
        q.timeout = s.poller.timeout ∧ q.phase.isAwaiting = false
          ∧ ∀ limit, q.phase ≠ .pausing limit := by
      intro q hq
      cases hq <;> exact ⟨rfl, rfl, fun limit hlimit => nomatch hlimit⟩
    obtain ⟨htimeout, hawaiting, hpausing⟩ := hasked p passed
    rw [hlog]
    refine ⟨htimeout.trans h.timeout_eq, h.capacity_eq, h.client_eq, ?_,
      fun limit hlimit => absurd hlimit (hpausing limit), ?_⟩
    · have haccepted : accepted log
            { s with poller := p, channel := s.channel.putAll (eventsOf done) }
          = s.accepted log ++ eventsOf done :=
        (List.append_assoc _ _ _).symm
      rw [haccepted]
      exact hplace.channel id
    · refine h.polls.trans ?_
      rw [asked_of_not_isAwaiting (s := s) (by rw [phase]; rfl),
        asked_of_not_isAwaiting (by exact hawaiting)]
  | @resumes limit phase le =>
    have hcaught := h.caughtUp (by rw [phase]; rfl)
    have hlog : noted now log s = log := by rw [noted, phase]
    rw [hlog]
    refine ⟨h.timeout_eq, h.capacity_eq, h.client_eq, Place.of_caughtUp hcaught rfl,
      fun limit hlimit => (nomatch hlimit), ?_⟩
    rw [asked_of_not_isAwaiting rfl, ← asked_of_not_isAwaiting (s := s) (by rw [phase]; rfl)]
    exact h.polls

/-- So the invariant holds at every moment. -/
theorem Run.inOrder (h : Run timeout capacity c₀ log now s) :
    InOrder timeout capacity c₀ log s := by
  induction h with
  | start now =>
    refine ⟨rfl, rfl, rfl, ⟨rfl, rfl⟩, fun limit hlimit => (nomatch hlimit), ?_⟩
    exact (List.append_nil _).symm
  | goes run step ih => exact ih.step step
  | @amid log now s us vs o d run phase part ih =>
    obtain ⟨done, hchannel, hpassed⟩ :=
      forward_cases s.poller.timeout us s.poller.offset s.channel
    rw [part] at hchannel hpassed
    cases hpassed
    refine ⟨ih.timeout_eq, ?_, ih.client_eq, ?_, fun limit hlimit => (nomatch hlimit), ?_⟩
    · exact (congrArg Channel.capacity hchannel).trans ih.capacity_eq
    · have haccepted : accepted log
            { s with
              poller := ⟨s.poller.timeout, wantedFrom s.poller.offset us, .forwarding vs⟩
              channel := d }
          = s.accepted log ++ eventsOf us := by
        rw [accepted, show d = s.channel.putAll (eventsOf us) from hchannel]
        exact (List.append_assoc _ _ _).symm
      rw [haccepted]
      exact ih.place.part phase _
    · rw [asked_of_not_isAwaiting rfl, ← asked_of_not_isAwaiting (s := s) (by rw [phase]; rfl)]
      exact ih.polls
  | @takes log now s run n ih =>
    refine ⟨ih.timeout_eq, ih.capacity_eq, ih.client_eq, ?_, ih.pause, ih.polls⟩
    have haccepted : accepted (log.leave (s.channel.waiting.take n))
        { s with channel := s.channel.drop n } = s.accepted log := by
      rw [accepted, accepted, Log.leave, Channel.drop, List.append_assoc, List.take_append_drop]
    rw [haccepted]
    exact ih.place.channel id
  | @closes log now s run ih =>
    refine ⟨ih.timeout_eq, ih.capacity_eq, ih.client_eq, ?_, ih.pause, ih.polls⟩
    have haccepted : accepted (log.leave s.channel.waiting) { s with channel := s.channel.close }
        = s.accepted log := List.append_nil _
    rw [haccepted]
    exact ih.place.channel fun _ => rfl
  | @shares log now s run network posts other ih =>
    refine ⟨ih.timeout_eq, ih.capacity_eq, ih.client_eq, ih.place, ih.pause, ?_⟩
    refine Eq.trans ?_ ih.polls
    rw [Connection.polls, List.filter_append, Connection.polls]
    have hnone : posts.filter (fun p => p.url == s.connection.client.url "getUpdates") = [] := by
      rw [List.filter_eq_nil_iff]
      exact fun p hp => by simpa using other p hp
    rw [hnone, List.append_nil]
  | passes run le ih => exact ih

end

/-! ## What polling promises -/

/-- What holds of a poller at a moment, and of what it does next. -/
structure Faithful (timeout : Nat) (c₀ : Connection ν) (log : Log) (now : Int) (s : Polling ν) :
    Prop where
  /-- The events that have been put in are the first ones of those that were told. -/
  inOrder : s.accepted log <+: log.told
  /-- Outside of a batch they are all of them. -/
  whole : s.poller.phase.isInside = false → s.accepted log = log.told
  /-- Inside of one, the others are still to be passed on. -/
  rest : ∀ us, s.poller.phase = .forwarding us → s.accepted log ++ eventsOf us = log.told
  /-- Each request asks for what is wanted after all answers before it. -/
  polls : s.connection.polls
    = c₀.polls ++ (List.range (s.asked log)).map fun i =>
        c₀.client.poll (wanted (updatesIn (log.answers.take i))) timeout
  /-- So the offsets never decrease. -/
  offsets : ∀ i j, i ≤ j →
    wanted (updatesIn (log.answers.take i)) ≤ wanted (updatesIn (log.answers.take j))
  /-- When a request is made, all that was told before has been put in. -/
  confirmed : ∀ t, s.step now = some t → t.connection.polls ≠ s.connection.polls →
    s.accepted log = log.told
      ∧ t.connection.polls = s.connection.polls ++ [c₀.client.poll (wanted log.updates) timeout]
  /-- After an answer that tells nothing the poller pauses, and all else stays as it is. -/
  fails : ∀ moment a, s.poller.phase = .awaiting (some (moment, a)) → moment ≤ now →
    a.batch? = none → s.step now = some (s.enter (.pausing (now + 5000)))
  /-- A pause takes five seconds from the answer that failed. -/
  pauses : ∀ limit, s.poller.phase = .pausing limit →
    (∃ earlier moment a, log.answers = earlier ++ [(moment, a)] ∧ a.batch? = none
        ∧ limit = moment + 5000)
      ∧ s.wake? = some limit
      ∧ (∀ later < limit, s.step later = none)
      ∧ ∀ later ≥ limit, s.step later = some (s.enter .asking)
  /-- The request after an answer that told nothing is the request that it answered. -/
  retries : ∀ i a, log.answers[i]? = some a → a.2.batch? = none → i + 1 < s.asked log →
    s.connection.polls[c₀.polls.length + (i + 1)]? = s.connection.polls[c₀.polls.length + i]?
  /-- Only an event that nobody listens for ends the poller. -/
  ends : ∀ t, s.step now = some t → t.isFinished = true →
    s.channel.closed = true ∧ ∃ us, s.poller.phase = .forwarding us ∧ eventsOf us ≠ []
  /-- A poller that has ended has such an event. -/
  ended : s.isFinished = true →
    s.channel.closed = true ∧ ∃ e, s.accepted log ++ [e] <+: log.told
  /-- Once the channel is empty or closed, a batch goes on. -/
  goesOn : ∀ us, s.poller.phase = .forwarding us →
    s.channel.waiting = [] ∨ s.channel.closed = true →
    ∃ t, s.step now = some t
      ∧ (t.isFinished = true ∨ t.poller.phase = .asking
        ∨ ∃ vs, t.poller.phase = .forwarding vs ∧ vs.length < us.length)

section

variable {timeout capacity : Nat} {c₀ : Connection ν} {log : Log} {now : Int} {s t : Polling ν}

theorem InOrder.confirmed (h : InOrder timeout capacity c₀ log s)
    (numbered : Numbered log.updates) (step : s.step now = some t)
    (polled : t.connection.polls ≠ s.connection.polls) :
    s.accepted log = log.told
      ∧ t.connection.polls
        = s.connection.polls ++ [c₀.client.poll (wanted log.updates) timeout] := by
  cases step_next step with
  | @asks c phase answer client posts =>
    obtain ⟨htold, hoffset⟩ := h.caughtUp (by rw [phase]; rfl)
    refine ⟨htold, (polls_append_poll client posts).trans ?_⟩
    rw [h.client_eq, h.timeout_eq, hoffset, toInt_wantedFrom numbered]
  | hears => exact absurd rfl polled
  | fails => exact absurd rfl polled
  | forwards => exact absurd rfl polled
  | resumes => exact absurd rfl polled

theorem step_of_failed {moment : Int} {a : Answer}
    (phase : s.poller.phase = .awaiting (some (moment, a))) (le : moment ≤ now)
    (failed : a.batch? = none) : s.step now = some (s.enter (.pausing (now + retryDelay))) := by
  obtain ⟨e, he⟩ := answeredUpdates_of_batch?_none failed s.connection.client
  rw [step, phase]
  dsimp only
  rw [if_pos le, he]

theorem step_of_pausing {limit : Int} (phase : s.poller.phase = .pausing limit) (later : Int) :
    s.step later = if limit ≤ later then some (s.enter .asking) else none := by
  rw [step, phase]

theorem ends_of_step (step : s.step now = some t) (finished : t.isFinished = true) :
    s.channel.closed = true ∧ ∃ us, s.poller.phase = .forwarding us ∧ eventsOf us ≠ [] := by
  cases step_next step with
  | forwards phase passed =>
    cases passed with
    | whole => cases finished
    | full => cases finished
    | unheard split event closed =>
      refine ⟨closed, _, phase, ?_⟩
      rw [split, eventsOf_append, eventsOf_cons_some event]
      exact List.append_ne_nil_of_right_ne_nil _ (List.cons_ne_nil _ _)
  | asks => cases finished
  | hears => cases finished
  | fails => cases finished
  | resumes => cases finished

theorem goesOn_of_forwarding {us : List Json} (room : 0 < s.channel.capacity)
    (phase : s.poller.phase = .forwarding us)
    (free : s.channel.waiting = [] ∨ s.channel.closed = true) :
    ∃ t, s.step now = some t
      ∧ (t.isFinished = true ∨ t.poller.phase = .asking
        ∨ ∃ vs, t.poller.phase = .forwarding vs ∧ vs.length < us.length) := by
  have hfree : (s.channel.hasRoom || s.channel.closed
      || !(us.any fun u => (readUpdate? u).isSome)) = true := by
    rcases free with hempty | hclosed
    · have hroom : s.channel.hasRoom = true := by
        rw [Channel.hasRoom, hempty]
        exact decide_eq_true room
      rw [hroom, Bool.true_or, Bool.true_or]
    · rw [hclosed, Bool.or_true, Bool.true_or]
  obtain ⟨done, hchannel, hpassed⟩ :=
    forward_cases s.poller.timeout us s.poller.offset s.channel
  refine ⟨{ s with
    poller := (forward s.poller.timeout us s.poller.offset s.channel).1
    channel := (forward s.poller.timeout us s.poller.offset s.channel).2 }, ?_, ?_⟩
  · rw [step, phase]
    dsimp only
    rw [if_pos hfree]
  · generalize forward s.poller.timeout us s.poller.offset s.channel = next at hchannel hpassed
    obtain ⟨p, d⟩ := next
    cases hpassed with
    | whole => exact Or.inr (Or.inl rfl)
    | unheard split event closed => exact Or.inl rfl
    | @full done rest u e split event open_ hfull =>
      refine Or.inr (Or.inr ⟨u :: rest, rfl, ?_⟩)
      -- an empty channel has room, so at least one event has been put in
      have hdone : done ≠ [] := by
        rintro rfl
        rcases free with hempty | hclosed
        · rw [show eventsOf [] = [] from rfl, Channel.putAll_nil, Channel.hasRoom, hempty] at hfull
          exact of_decide_eq_false hfull room
        · rw [open_] at hclosed
          cases hclosed
      rw [split, List.length_append]
      exact Nat.lt_add_of_pos_left (List.length_pos_iff.mpr hdone)

/-- **A poller loses, repeats and reorders nothing**, whatever the service answers and whenever
things are taken out of the channel. -/
theorem nothing_lost_repeated_or_reordered (room : 0 < capacity)
    (run : Run timeout capacity c₀ log now s) (numbered : Numbered log.updates) :
    Faithful timeout c₀ log now s where
  inOrder := run.inOrder.inOrder
  whole outside := (run.inOrder.caughtUp outside).1
  rest _ phase := run.inOrder.rest phase
  polls := run.inOrder.polls_wanted numbered
  offsets _ _ le := wanted_take_le log.answers le
  confirmed _ step polled := run.inOrder.confirmed numbered step polled
  fails _ _ phase le failed := step_of_failed phase le failed
  pauses limit phase := by
    refine ⟨run.inOrder.pause limit phase, by rw [wake?, phase], fun later hlt => ?_,
      fun later hle => ?_⟩
    · rw [step_of_pausing phase, if_neg (Int.not_le.mpr hlt)]
    · rw [step_of_pausing phase, if_pos hle]
  retries _ _ answer failed asked := run.inOrder.retries answer failed asked
  ends _ step finished := ends_of_step step finished
  ended finished := run.inOrder.ended finished
  goesOn _ phase free :=
    goesOn_of_forwarding (by rw [run.inOrder.capacity_eq]; exact room) phase free

/-- A poller goes on if it can, and the log is kept. -/
def goOn (now : Int) (m : Log × Polling ν) : Log × Polling ν :=
  match m.2.step now with
  | some t => (noted now m.1 m.2, t)
  | none => m

theorem Run.goOn {m : Log × Polling ν} (h : Run timeout capacity c₀ m.1 now m.2) :
    Run timeout capacity c₀ (Polling.goOn now m).1 now (Polling.goOn now m).2 := by
  rw [Polling.goOn]
  cases hstep : m.2.step now with
  | none => exact h
  | some t => exact h.goes hstep

end

/-! ## A slow receiver -/

/-- A service that tells three updates, one of them without an event, and then fails. -/
def failingLater : Connection Script :=
  let batch := "\x7b\"ok\":true,\"result\":["
    ++ "\x7b\"update_id\":5,\"message\":\x7b\"chat\":\x7b\"id\":1\x7d,\"text\":\"Hi\"\x7d\x7d,"
    ++ "\x7b\"update_id\":6\x7d,"
    ++ "\x7b\"update_id\":4,\"message\":\x7b\"chat\":\x7b\"id\":2\x7d,\"text\":\"Ho\"\x7d\x7d]\x7d"
  ⟨⟨"T", none⟩, ⟨[("getUpdates", [.body 100 batch, .failure 10 "timeout"])]⟩, []⟩

/-- The first event has been put into a channel that holds one. -/
def filled : Log × Polling Script :=
  goOn 100 (goOn 100 (goOn 0
    (⟨[], []⟩, ⟨Poller.new 30, Channel.empty 1, failingLater⟩)))

/-- It has been taken out, the poller has gone on, and its next request has failed. -/
def failed : Log × Polling Script :=
  goOn 110 (goOn 100 (goOn 100
    (filled.1.leave (filled.2.channel.waiting.take 1),
      { filled.2 with channel := filled.2.channel.drop 1 })))

/-- The second event is put in only after the first one was taken out; the second request names
the number after the greatest one, though that came before the last; and it is made again five
seconds after it failed. -/
theorem faithful_failed :
    (filled.2.accepted filled.1).map Inbound.text = ["Hi"]
      ∧ (failed.2.accepted failed.1).map Inbound.text = ["Hi", "Ho"]
      ∧ failed.2.connection.polls.map (fun p => (p.body.field? "offset").bind Json.asSigned?)
        = [some 0, some 7]
      ∧ failed.2.wake? = some 5110
      ∧ Faithful 30 failingLater failed.1 110 failed.2 := by
  have hevaluated : (filled.2.accepted filled.1).map Inbound.text = ["Hi"]
      ∧ (failed.2.accepted failed.1).map Inbound.text = ["Hi", "Ho"]
      ∧ failed.2.connection.polls.map (fun p => (p.body.field? "offset").bind Json.asSigned?)
        = [some 0, some 7]
      ∧ failed.2.wake? = some 5110 ∧ Numbered failed.1.updates := by
    decide +kernel
  obtain ⟨hbefore, hafter, hoffsets, hwake, hnumbered⟩ := hevaluated
  refine ⟨hbefore, hafter, hoffsets, hwake, ?_⟩
  have hfilled : Run 30 1 failingLater filled.1 100 filled.2 :=
    ((((Run.start 0).goOn (m := (⟨[], []⟩, _))).passes (by decide)).goOn).goOn
  have hfailed : Run 30 1 failingLater failed.1 110 failed.2 :=
    (((hfilled.takes 1).goOn (m := (_, _))).goOn.passes (by decide)).goOn
  exact nothing_lost_repeated_or_reordered Nat.one_pos hfailed hnumbered

end Polling
end Telegram
end ScriptedChat
