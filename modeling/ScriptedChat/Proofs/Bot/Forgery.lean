import ScriptedChat.Proofs.Bot.Journal
import ScriptedChat.Proofs.Bot.Minding
import ScriptedChat.Proofs.Json.OneLine
import ScriptedChat.Proofs.Store.Reading

/-!
# Lines that nobody logged

What a user writes is logged as it was written, without the blanks around it.  Who wrote it, and the
referral code that it carries, are logged as JSON, in which a line end is escaped.  So in all that a
chat logs there is a line end only where one was in what was written to it
(`Bot.newline_notMem_linesFor_iff`).

It follows when a log can be read back: exactly if no message to the chat had a line end between
other characters.  If one had, there are more lines than were logged, and these can look like any
line of the store.  Whoever writes in a chat that is there can put any line into its log, with any
time, for instance a referral code that nobody came with.

* `Bot.newline_notMem_linesFor_iff`, `Bot.chat_of_mem_linesFor`: what comes in.
* `Bot.linesIn`, `Bot.newline_notMem_linesIn_iff`: what a row of deeds adds to a log.
* `Bot.log_reads_back_iff`: when a log can be read back, and what can be forged.
-/

namespace ScriptedChat
namespace Bot

variable {τ : Type} {g : Setting} {k : String}

/-! ## What comes in -/

theorem newline_notMem_refLine (code : String) : '\n' ∉ (Chat.refLine code).toList := by
  rw [← Chat.toText_refId]
  exact Json.newline_notMem_toText _

/-- There is a line end in what is logged if there is one in what was written, without the blanks
around it, and only then. -/
theorem newline_notMem_linesFor_iff (e : Inbound) (c : Option Chat) (now : Int) :
    (∀ l ∈ linesFor e c now, '\n' ∉ l.text.toList) ↔ '\n' ∉ Text.trim e.text.toList := by
  have hsaid : (said e).toList = Text.trim e.text.toList := String.toList_ofList
  by_cases htext : Text.trim e.text.toList = []
  · rw [linesFor_of_blank htext, htext]
    exact iff_of_true (fun _ hl => (by cases hl)) List.not_mem_nil
  cases c with
  | some c =>
    rw [linesFor_some htext, List.forall_mem_map, Chat.heardLines, List.forall_mem_cons, hsaid]
    refine and_iff_left fun text hcode => ?_
    obtain ⟨code, -, rfl⟩ := List.mem_map.mp hcode
    exact newline_notMem_refLine code
  | none =>
    have hsender : '\n' ∉ e.sender.toText.toList := Json.newline_notMem_toText _
    have hblank : '\n' ∉ " ".toList := by decide
    rw [linesFor_none htext, List.forall_mem_singleton]
    simp only [String.toList_append, List.mem_append, hsaid, hblank, hsender, or_false]

/-- What comes in is logged by the chat that it is for. -/
theorem chat_of_mem_linesFor {e : Inbound} {c : Option Chat} {now : Int} {l : Store.LogLine}
    (hl : l ∈ linesFor e c now) : l.chat = (c.map Chat.id).getD e.chat := by
  by_cases htext : Text.trim e.text.toList = []
  · rw [linesFor_of_blank htext] at hl
    cases hl
  cases c with
  | some c =>
    rw [linesFor_some htext] at hl
    obtain ⟨text, -, rfl⟩ := List.mem_map.mp hl
    rfl
  | none =>
    rw [linesFor_none htext] at hl
    rw [List.mem_singleton.mp hl]
    rfl

/-! ## Rows of deeds -/

variable [Transport τ] {s : Stage τ}

/-- The lines that a row of deeds adds to the log of a chat. -/
def linesIn (k : String) (ds : List Deed) (s : Stage τ) : List Store.LogLine :=
  (lines (journal ds s)).filter fun l => l.chat = k

theorem linesIn_cons (k : String) (d : Deed) (ds : List Deed) (s : Stage τ) :
    linesIn k (d :: ds) s
      = ((lines (d.entries s)).filter fun l => l.chat = k) ++ linesIn k ds (d.act.run s).2 := by
  rw [linesIn, journal, lines, List.map_append, List.filter_append]
  rfl

omit [Transport τ] in
/-- What a deed adds to the log of a chat that is its own. -/
theorem newline_notMem_entries_iff (ho : s.bot.IsOwn k) (d : Deed) :
    (∀ l ∈ (lines (d.entries s)).filter fun l => l.chat = k, '\n' ∉ l.text.toList)
      ↔ ∀ e, d = .receive e → e.chat = k → '\n' ∉ Text.trim e.text.toList := by
  cases d with
  | receive e =>
    have hchat : ((s.bot.chat? e.chat).map Chat.id).getD e.chat = k ↔ e.chat = k := by
      cases hc : s.bot.chat? e.chat with
      | some c => exact ho e.chat c hc
      | none => exact Iff.rfl
    have hall : (∀ l ∈ (linesFor e (s.bot.chat? e.chat) s.world.now).filter fun l => l.chat = k,
        '\n' ∉ l.text.toList) ↔ (e.chat = k → '\n' ∉ Text.trim e.text.toList) := by
      rw [← newline_notMem_linesFor_iff e (s.bot.chat? e.chat) s.world.now, ← hchat]
      constructor
      · intro h hk l hl
        refine h l (List.mem_filter.mpr ⟨hl, decide_eq_true ?_⟩)
        rw [chat_of_mem_linesFor hl, hk]
      · intro h l hl
        obtain ⟨hl, hk⟩ := List.mem_filter.mp hl
        exact h ((chat_of_mem_linesFor hl).symm.trans (of_decide_eq_true hk)) l hl
    rw [lines_entries_receive, hall]
    simp only [Deed.receive.injEq, forall_eq']
  | _ => exact iff_of_true (fun _ hl => (by cases hl)) nofun

/-- **There is a line end in what was logged if there is one in what was written**, and only
then. -/
theorem newline_notMem_linesIn_iff (h : AtWork g s) (ho : s.bot.IsOwn k) (ds : List Deed) :
    (∀ l ∈ linesIn k ds s, '\n' ∉ l.text.toList)
      ↔ ∀ e, .receive e ∈ ds → e.chat = k → '\n' ∉ Text.trim e.text.toList := by
  induction ds generalizing s with
  | nil => exact iff_of_true (fun _ hl => (by cases hl)) nofun
  | cons d ds ih =>
    rw [linesIn_cons, List.forall_mem_append, newline_notMem_entries_iff ho d,
      ih (h.act d) (ho.act h d), ← forall_and]
    refine forall_congr' fun e => ?_
    rw [List.mem_cons, or_imp, eq_comm]

/-- The log of a chat after a row of deeds, none of which ended with a failure of the store. -/
theorem log?_after (h : AtWork g s) {ds : List Deed} (hno : ∀ r ∈ outcomes ds s, ¬StoreFailed r)
    (k : String) :
    g.store.log? k (after ds s).world.disk
      = Store.extended (g.store.log? k s.world.disk) (linesIn k ds s) := by
  have hrow : Chronicle g.store s ([] ++ journal ds s) (after ds s) := Chronicle.refl.after ds hno
  exact (hrow.logged ⟨g, rfl, h⟩).2.log k

/-- Whoever writes in a chat that is there can put any line behind the one that is logged. -/
theorem log?_of_forged (h : AtWork g s) {e : Inbound} {c : Chat} {a b : String} {time : Int}
    (hc : s.bot.chat? e.chat = some c)
    (hsaid : said e = a ++ "\n" ++ String.ofList (Store.stamp time) ++ " " ++ b)
    (hnone : referral? (said e) = none) (hno : ¬StoreFailed ((handle e).run s).1) :
    g.store.log? c.id ((handle e).run s).2.world.disk
      = Store.extended (g.store.log? c.id s.world.disk)
        [⟨c.id, s.world.now, a⟩, ⟨c.id, time, b⟩] := by
  have hne : Text.trim e.text.toList ≠ [] := by
    intro hblank
    have hempty : (said e).toList = [] := String.toList_ofList.trans hblank
    rw [hsaid] at hempty
    simp only [String.toList_append, List.append_eq_nil_iff] at hempty
    exact absurd hempty.1.1.1.2 (by decide)
  have hlines : lines ((Deed.receive e).entries s) = [⟨c.id, s.world.now, said e⟩] := by
    rw [lines_entries_receive, hc, linesFor_some hne, Chat.heardLines, hnone]
    rfl
  have hfilter : [Store.LogLine.mk c.id s.world.now (said e)].filter (fun l => l.chat = c.id)
      = [⟨c.id, s.world.now, said e⟩] := List.filter_cons_of_pos (decide_eq_true rfl)
  have hlogged := (logged_act h (.receive e) hno).log c.id
  rw [hlines, hfilter, hsaid] at hlogged
  refine hlogged.trans ?_
  rw [Store.extended, Store.transcript_of_forged, Store.extended]

/-- **A log can be read back if and only if no line of it had a line end.**

A bot is at work, and there is a chat, or will be one, whose id nobody else has.  Its log is made of
lines that the store has written.  Then a row of deeds comes, none of which ends with a failure of
the store, and the clock shows years of four digits.

* What is found in the log is what is found in place of each text that was logged, in order.
* These are the texts themselves if and only if none of those that were there had a line end, and no
  message that has come to the chat had one, without the blanks around it.
* Whoever writes in a chat that is there can put any line behind the one that is logged: a text that
  looks like the rest of a line and another line leaves the log that those two lines would leave. -/
theorem log_reads_back_iff (h : AtWork g s) (ho : s.bot.IsOwn k) {old : List Store.LogLine}
    (hold : g.store.log? k s.world.disk = Store.extended none old) {ds : List Deed}
    (hno : ∀ r ∈ outcomes ds s, ¬StoreFailed r)
    (hdated : ∀ l ∈ old ++ linesIn k ds s, (Calendar.Moment.ofMillis l.time).IsDated) :
    let texts := (old ++ linesIn k ds s).map Store.LogLine.text
    let log := Store.readLog (g.store.log? k (after ds s).world.disk)
    log = some (texts.flatMap Store.found)
      ∧ (log = some texts
        ↔ (∀ l ∈ old, '\n' ∉ l.text.toList)
          ∧ ∀ e, .receive e ∈ ds → e.chat = k → '\n' ∉ Text.trim e.text.toList)
      ∧ ∀ (e : Inbound) (c : Chat) (a b : String) (time : Int), s.bot.chat? e.chat = some c →
        said e = a ++ "\n" ++ String.ofList (Store.stamp time) ++ " " ++ b →
        referral? (said e) = none → ¬StoreFailed ((handle e).run s).1 →
        g.store.log? c.id ((handle e).run s).2.world.disk
          = Store.extended (g.store.log? c.id s.world.disk)
            [⟨c.id, s.world.now, a⟩, ⟨c.id, time, b⟩] := by
  intro texts log
  have hlog : log = some (texts.flatMap Store.found) := by
    show Store.readLog (g.store.log? k (after ds s).world.disk) = _
    rw [log?_after h hno, hold, ← Store.extended_append]
    exact Store.readLog_extended hdated
  refine ⟨hlog, ?_, fun e c a b time => log?_of_forged h⟩
  rw [hlog, Option.some_inj, Store.flatMap_found_eq_self_iff, List.forall_mem_map,
    List.forall_mem_append, newline_notMem_linesIn_iff h ho]

/-- Somebody has written to the bot. -/
def greeting : Inbound := ⟨"42", "Hi", ⟨42, false, "Ann", none, none, none⟩, none⟩

/-- A message with a line end in it, behind which it looks like what is logged for a code. -/
def forgery : Inbound :=
  { greeting with text := "Hi\n1970-01-01T00:00:00 \x7b\"refId\":\"promo\"\x7d" }

/-- Two messages were logged, and three lines are found.  The last one is what is logged for a code,
and nobody has come with one. -/
theorem found_after_forgery :
    let s : Stage Refusing := ⟨newBot (reminding "(1h)"), newWorld⟩
    let log := Store.readLog ((reminding "(1h)").store.log? "42"
      (after [.receive greeting, .receive forgery] s).world.disk)
    (linesIn "42" [.receive greeting, .receive forgery] s).length = 2
      ∧ log = some ["Hi \x7b\"id\":42,\"is_bot\":false,\"first_name\":\"Ann\"\x7d", "Hi",
        Chat.refLine "promo"]
      ∧ log ≠ some
        ((linesIn "42" [.receive greeting, .receive forgery] s).map Store.LogLine.text) := by
  intro s log
  have hwork : AtWork (reminding "(1h)") s := atWork_start (start_newWorld "(1h)") Disk.isTree_empty
  have hown : s.bot.IsOwn "42" := fun _ _ hc => nomatch hc
  have hnone : (reminding "(1h)").store.log? "42" s.world.disk = Store.extended none [] := by
    decide +kernel
  have hfine : outcomes [.receive greeting, .receive forgery] s = [.ok (), .ok ()] := by
    decide +kernel
  have htexts : (linesIn "42" [.receive greeting, .receive forgery] s).map
        (fun l => (l.text, l.time))
      = [("Hi \x7b\"id\":42,\"is_bot\":false,\"first_name\":\"Ann\"\x7d", 0),
        (forgery.text, 0)] := by decide +kernel
  have hdated : ∀ l ∈ [] ++ linesIn "42" [.receive greeting, .receive forgery] s,
      (Calendar.Moment.ofMillis l.time).IsDated := by
    intro l hl
    have htime := List.mem_map_of_mem (f := fun l => (l.text, l.time)) hl
    rw [List.nil_append, htexts] at htime
    have hzero : l.time = 0 := by
      simp only [List.mem_cons, Prod.mk.injEq, List.not_mem_nil, or_false] at htime
      exact htime.elim And.right And.right
    rw [hzero]
    exact ⟨by decide +kernel, by decide +kernel⟩
  obtain ⟨hfound, hiff, -⟩ := log_reads_back_iff hwork hown hnone
    (fun r hr => by
      rw [hfine] at hr
      rintro ⟨e, rfl⟩
      simp only [List.mem_cons, List.not_mem_nil, reduceCtorEq, or_self] at hr) hdated
  have hsaid := congrArg (List.map Prod.fst) htexts
  rw [List.map_map] at hsaid
  refine ⟨?_, ?_, fun hsame => ?_⟩
  · have hlength := congrArg List.length htexts
    rwa [List.length_map] at hlength
  · refine hfound.trans (congrArg some ?_)
    rw [List.nil_append]
    refine (congrArg (List.flatMap Store.found) hsaid).trans ?_
    decide +kernel
  · have hclean := (hiff.mp hsame).2 forgery
      (List.mem_cons_of_mem _ (List.mem_singleton_self _)) rfl
    exact hclean (by decide +kernel)

end Bot
end ScriptedChat
