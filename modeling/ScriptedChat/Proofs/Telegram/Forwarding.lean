import ScriptedChat.Telegram.Poller

/-!
# What an answer tells, and how it is passed on

An answer to a request for updates tells a list of them, or nothing at all: the network may
fail, the body may be no JSON, it may say that it did not go well, and its result may be no
array.  `Answer.batch?` reads all of that off the answer.

The number that is wanted next is computed as the updates go by, one maximum at a time and in
machine words.  As long as no update has the greatest number there is, it is what it should
be: one more than the greatest number of all updates, and never less than zero.

Passing on stops in the middle of a batch when there is no room, and ends for good when
nobody listens.  Where it stops the wanted number has already been raised for the update that
is still to be passed on; raising it once more changes nothing.

* `Answer.batch?`, `answeredUpdates_toOption`: what an answer tells.
* `number?`, `wanted`, `toInt_wantedFrom`: the number that is wanted next.
* `Passed`, `forward_cases`: what becomes of a batch.
-/

namespace ScriptedChat
namespace Telegram

/-! ## Answers -/

/-- The updates that an answer tells, if it tells any: its body is an object that says that it
went well, and the result in it is an array. -/
def Answer.batch? : Answer → Option (List Json)
  | .failed _ => none
  | .body text => do
    let reply ← Json.ofText? text
    let ok ← (reply.field? "ok").bind Json.asBool?
    if ok then (reply.field? "result").bind Json.asArray? else none

theorem readUpdates_toOption (result : Json) :
    (readUpdates result).toOption = result.asArray? := by
  cases result <;> rfl

/-- The poller reads of an answer what it tells. -/
theorem answeredUpdates_toOption (client : Client) (a : Answer) :
    (answeredUpdates client a).toOption = a.batch? := by
  cases a with
  | failed e => rfl
  | body text =>
    dsimp only [answeredUpdates, readAnswer, Answer.batch?]
    cases Json.ofText? text with
    | none => rfl
    | some reply =>
      dsimp only [checkReply, Option.bind_eq_bind, Option.bind_some]
      cases hok : (reply.field? "ok").bind Json.asBool? with
      | none => rfl
      | some ok =>
        cases ok with
        | false => rfl
        | true =>
          cases reply.field? "result" with
          | none => rfl
          | some result => exact readUpdates_toOption result

theorem answeredUpdates_of_batch? {a : Answer} {us : List Json} (h : a.batch? = some us)
    (client : Client) : answeredUpdates client a = .ok us := by
  rw [← answeredUpdates_toOption client a] at h
  cases hread : answeredUpdates client a with
  | error e => rw [hread] at h; cases h
  | ok vs => rw [hread] at h; cases h; rfl

theorem answeredUpdates_of_batch?_none {a : Answer} (h : a.batch? = none) (client : Client) :
    ∃ e, answeredUpdates client a = .error e := by
  rw [← answeredUpdates_toOption client a] at h
  cases hread : answeredUpdates client a with
  | error e => exact ⟨e, rfl⟩
  | ok vs => rw [hread] at h; cases h

/-! ## The number that is wanted -/

/-- The number of an update. -/
def number? (u : Json) : Option Int := (u.field? "update_id").bind Json.asSigned?

/-- The number from which on updates are wanted once some have been seen: one more than the
greatest number among them, and at least zero. -/
def wanted (us : List Json) : Int := max 0 (((us.filterMap number?).max?.map (· + 1)).getD 0)

/-- The same as the poller computes it, from an offset on. -/
def wantedFrom (offset : Int64) (us : List Json) : Int64 := us.foldl nextOffset offset

/-- No update has the greatest number there is. -/
def Numbered (us : List Json) : Prop := ∀ u ∈ us, ∀ n, number? u = some n → n < 0x7FFFFFFFFFFFFFFF

instance (us : List Json) : Decidable (Numbered us) :=
  decidable_of_iff (us.all fun u => (number? u).all fun n => decide (n < 0x7FFFFFFFFFFFFFFF)) (by
    simp only [Numbered, List.all_eq_true, Option.all_eq_true, decide_eq_true_eq])

theorem wantedFrom_append (offset : Int64) (us vs : List Json) :
    wantedFrom offset (us ++ vs) = wantedFrom (wantedFrom offset us) vs :=
  List.foldl_append

theorem wantedFrom_cons (offset : Int64) (u : Json) (us : List Json) :
    wantedFrom offset (u :: us) = wantedFrom (nextOffset offset u) us :=
  rfl

/-- An update that is seen again changes nothing. -/
theorem nextOffset_nextOffset (offset : Int64) (u : Json) :
    nextOffset (nextOffset offset u) u = nextOffset offset u := by
  unfold nextOffset
  cases updateId? u with
  | none => rfl
  | some id =>
    by_cases h : offset < id + 1
    · simp [h]
    · simp [h]

theorem number?_fits {u : Json} {n : Int} (h : number? u = some n) :
    -0x8000000000000000 ≤ n ∧ n < 0x8000000000000000 := by
  obtain ⟨v, -, hv⟩ := Option.bind_eq_some_iff.mp h
  obtain ⟨-, hfits⟩ := Option.filter_eq_some_iff.mp hv
  simpa [fitsSigned] using hfits

theorem updateId?_eq (u : Json) : updateId? u = (number? u).map Int64.ofInt := rfl

theorem toInt_nextOffset {u : Json} (h : ∀ n, number? u = some n → n < 0x7FFFFFFFFFFFFFFF)
    (offset : Int64) :
    (nextOffset offset u).toInt
      = max offset.toInt (((number? u).map (· + 1)).getD offset.toInt) := by
  rw [nextOffset, updateId?_eq]
  cases hn : number? u with
  | none => simp
  | some n =>
    have hsmall : n < 0x7FFFFFFFFFFFFFFF := h n hn
    have hfits := number?_fits hn
    have hone : (Int64.ofInt n + 1).toInt = n + 1 := by
      rw [Int64.toInt_add, Int64.toInt_ofInt_of_le (by omega) (by omega)]
      simp only [Int64.reduceToInt]
      exact Int.bmod_eq_of_le (by omega) (by omega)
    dsimp only [Option.map_some, Option.getD_some]
    by_cases hlt : offset < Int64.ofInt n + 1
    · rw [if_pos hlt]
      rw [Int64.lt_iff_toInt_lt, hone] at hlt
      omega
    · rw [if_neg hlt]
      rw [Int64.lt_iff_toInt_lt, hone] at hlt
      omega

/-- One maximum at a time, or the maximum of all. -/
theorem foldl_max_succ (ns : List Int) (n : Int) :
    ns.foldl (fun o m => max o (m + 1)) (max 0 (n + 1)) = max 0 (ns.foldl max n + 1) := by
  induction ns generalizing n with
  | nil => rfl
  | cons m ns ih =>
    rw [List.foldl_cons, List.foldl_cons, ← ih]
    congr 1
    omega

theorem wanted_eq_foldl (us : List Json) :
    wanted us = (us.filterMap number?).foldl (fun o m => max o (m + 1)) 0 := by
  rw [wanted]
  cases us.filterMap number? with
  | nil => rfl
  | cons n ns =>
    rw [List.max?_cons', List.foldl_cons, foldl_max_succ]
    rfl

theorem toInt_wantedFrom_eq_foldl {us : List Json} (h : Numbered us) (offset : Int64) :
    (wantedFrom offset us).toInt
      = (us.filterMap number?).foldl (fun o m => max o (m + 1)) offset.toInt := by
  induction us generalizing offset with
  | nil => rfl
  | cons u us ih =>
    rw [wantedFrom_cons, ih fun v hv => h v (List.mem_cons_of_mem u hv),
      toInt_nextOffset (h u List.mem_cons_self)]
    cases hn : number? u with
    | none => rw [List.filterMap_cons_none hn]; simp
    | some n => rw [List.filterMap_cons_some hn]; rfl

/-- What the poller computes is the number that is wanted. -/
theorem toInt_wantedFrom {us : List Json} (h : Numbered us) :
    (wantedFrom 0 us).toInt = wanted us := by
  rw [wanted_eq_foldl, toInt_wantedFrom_eq_foldl h]
  rfl

theorem le_foldl_max_succ (ns : List Int) (o : Int) :
    o ≤ ns.foldl (fun o m => max o (m + 1)) o := by
  induction ns generalizing o with
  | nil => exact Int.le_refl o
  | cons n ns ih => exact Int.le_trans (Int.le_max_left o (n + 1)) (ih _)

/-- The more has been seen, the more is behind. -/
theorem wanted_le_append (us vs : List Json) : wanted us ≤ wanted (us ++ vs) := by
  rw [wanted_eq_foldl, wanted_eq_foldl, List.filterMap_append, List.foldl_append]
  exact le_foldl_max_succ _ _

/-! ## Passing on -/

/-- The events in some updates. -/
def eventsOf (us : List Json) : List Inbound := us.filterMap readUpdate?

/-- The channel with some more. -/
def Channel.putAll (c : Channel) (es : List Inbound) : Channel :=
  { c with waiting := c.waiting ++ es }

theorem eventsOf_append (us vs : List Json) : eventsOf (us ++ vs) = eventsOf us ++ eventsOf vs :=
  List.filterMap_append

theorem eventsOf_cons_some {u : Json} {e : Inbound} (h : readUpdate? u = some e)
    (us : List Json) : eventsOf (u :: us) = e :: eventsOf us :=
  List.filterMap_cons_some h

theorem eventsOf_cons_none {u : Json} (h : readUpdate? u = none) (us : List Json) :
    eventsOf (u :: us) = eventsOf us :=
  List.filterMap_cons_none h

@[simp] theorem Channel.putAll_nil (c : Channel) : c.putAll [] = c := by
  simp [Channel.putAll]

theorem Channel.putAll_put (c : Channel) (e : Inbound) (es : List Inbound) :
    (c.put e).putAll es = c.putAll (e :: es) := by
  simp [Channel.putAll, Channel.put]

/-- How passing on a batch ends, after the first part `done` of it. -/
inductive Passed (timeout : Nat) (us : List Json) (offset : Int64) (c : Channel) :
    List Json → Poller → Prop
  /-- All of it has been passed on. -/
  | whole : Passed timeout us offset c us ⟨timeout, wantedFrom offset us, .asking⟩
  /-- There is no room for the next event. -/
  | full {done rest : List Json} {u : Json} {e : Inbound} (split : us = done ++ u :: rest)
      (event : readUpdate? u = some e) (open_ : c.closed = false)
      (room : (c.putAll (eventsOf done)).hasRoom = false) :
      Passed timeout us offset c done
        ⟨timeout, nextOffset (wantedFrom offset done) u, .forwarding (u :: rest)⟩
  /-- Nobody listens for the next event. -/
  | unheard {done rest : List Json} {u : Json} {e : Inbound} (split : us = done ++ u :: rest)
      (event : readUpdate? u = some e) (closed : c.closed = true) :
      Passed timeout us offset c done
        ⟨timeout, nextOffset (wantedFrom offset done) u, .finished⟩

/-- How passing on ends for a batch with one update more in front that has no event. -/
theorem Passed.skip {timeout : Nat} {us : List Json} {offset : Int64} {c : Channel}
    {done : List Json} {p : Poller} {u : Json}
    (h : Passed timeout us (nextOffset offset u) c done p) (hu : readUpdate? u = none) :
    Passed timeout (u :: us) offset c (u :: done) p := by
  cases h with
  | whole => exact .whole
  | full split event open_ room =>
    exact .full (congrArg (u :: ·) split) event open_ (by rwa [eventsOf_cons_none hu])
  | unheard split event closed => exact .unheard (congrArg (u :: ·) split) event closed

/-- How passing on ends for a batch with one update more in front whose event has been put in. -/
theorem Passed.put {timeout : Nat} {us : List Json} {offset : Int64} {c : Channel}
    {done : List Json} {p : Poller} {u : Json} {e : Inbound}
    (h : Passed timeout us (nextOffset offset u) (c.put e) done p) (hu : readUpdate? u = some e) :
    Passed timeout (u :: us) offset c (u :: done) p := by
  cases h with
  | whole => exact .whole
  | full split event open_ room =>
    refine .full (congrArg (u :: ·) split) event open_ ?_
    rwa [eventsOf_cons_some hu, ← Channel.putAll_put]
  | unheard split event closed => exact .unheard (congrArg (u :: ·) split) event closed

/-- What becomes of a batch: the events of a first part of it are put into the channel, and then
the batch is at its end, or there is no room, or nobody listens. -/
theorem forward_cases (timeout : Nat) (us : List Json) (offset : Int64) (c : Channel) :
    ∃ done, (forward timeout us offset c).2 = c.putAll (eventsOf done)
      ∧ Passed timeout us offset c done (forward timeout us offset c).1 := by
  induction us generalizing offset c with
  | nil => exact ⟨[], (Channel.putAll_nil c).symm, .whole⟩
  | cons u us ih =>
    rw [forward]
    cases hu : readUpdate? u with
    | none =>
      obtain ⟨done, hchannel, hpassed⟩ := ih (nextOffset offset u) c
      exact ⟨u :: done, by rw [eventsOf_cons_none hu, ← hchannel], hpassed.skip hu⟩
    | some e =>
      dsimp only
      by_cases hclosed : c.closed
      · rw [if_pos hclosed]
        exact ⟨[], (Channel.putAll_nil c).symm, .unheard rfl hu hclosed⟩
      · rw [if_neg hclosed]
        by_cases hroom : c.hasRoom
        · rw [if_pos hroom]
          obtain ⟨done, hchannel, hpassed⟩ := ih (nextOffset offset u) (c.put e)
          refine ⟨u :: done, ?_, hpassed.put hu⟩
          rw [hchannel, eventsOf_cons_some hu, Channel.putAll_put]
        · rw [if_neg hroom]
          refine ⟨[], (Channel.putAll_nil c).symm,
            .full rfl hu (Bool.eq_false_iff.mpr hclosed) (Bool.eq_false_iff.mpr ?_)⟩
          rwa [show eventsOf [] = [] from rfl, Channel.putAll_nil]

end Telegram
end ScriptedChat
