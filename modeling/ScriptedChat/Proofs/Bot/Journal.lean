import ScriptedChat.Proofs.Bot.Reachability
import ScriptedChat.Proofs.Bot.Referral
import ScriptedChat.Proofs.Chat.Logging

/-!
# The logs of a run

Whatever a user writes is logged, and nothing else is.  So the logs of all chats can be told from
what has come in: every deed stands for a few lines (`Bot.Deed.entries`), most of them for none, and
the lines of a run are those of its deeds, put end to end (`Bot.Chronicle`).

It makes no difference what is made of what was written, and whether messages arrive.  When a bot is
closed, and when it starts again, nothing is added.

## Whose log it is

A chat logs under its id.  That is the key of the chat where every record lies in the directory of
its chat.  Elsewhere it may be the key of another one, and then what is written in the one chat is
in the log of the other.

* `Bot.linesFor`, `Bot.Deed.entries`, `Bot.logged_act`: what a deed adds.
* `Bot.Chronicle`, `Bot.Chronicle.logged`: runs without failures of the store, across any number of
  starts.
* `Bot.log_records_input`: the logs after a run.
-/

namespace ScriptedChat
namespace Bot

variable {τ : Type}

/-- What was logged, and the chat in which it was written. -/
structure JournalEntry where
  source : String
  line : Store.LogLine

/-- The lines for what came in, and the chat that it is for, if this is there already. -/
def linesFor (e : Inbound) (c : Option Chat) (now : Int) : List Store.LogLine :=
  if Text.trim e.text.toList = [] then []
  else
    match c with
    | some c => (Chat.heardLines (said e)).map fun text => ⟨c.id, now, text⟩
    | none => [⟨e.chat, now, said e ++ " " ++ e.sender.toText⟩]

theorem linesFor_of_blank {e : Inbound} (he : Text.trim e.text.toList = []) (c : Option Chat)
    (now : Int) : linesFor e c now = [] := by
  cases c <;> exact if_pos he

theorem linesFor_some {e : Inbound} (he : Text.trim e.text.toList ≠ []) (c : Chat) (now : Int) :
    linesFor e (some c) now = (Chat.heardLines (said e)).map fun text => ⟨c.id, now, text⟩ :=
  if_neg he

theorem linesFor_none {e : Inbound} (he : Text.trim e.text.toList ≠ []) (now : Int) :
    linesFor e none now = [⟨e.chat, now, said e ++ " " ++ e.sender.toText⟩] := if_neg he

/-- What a deed adds to logs. -/
def Deed.entries (s : Stage τ) : Deed → List JournalEntry
  | .receive e => (linesFor e (s.bot.chat? e.chat) s.world.now).map fun l => ⟨e.chat, l⟩
  | _ => []

/-- Where every chat has its key as its id, what is written in a chat is logged by this chat. -/
theorem source_of_mem_entries {s : Stage τ} {d : Deed} {x : JournalEntry}
    (hids : ∀ k c, s.bot.chat? k = some c → c.id = k) (hx : x ∈ d.entries s) :
    x.line.chat = x.source := by
  cases d with
  | receive e =>
    obtain ⟨l, hl, rfl⟩ := List.mem_map.mp hx
    dsimp only
    by_cases he : Text.trim e.text.toList = []
    · rw [linesFor_of_blank he] at hl
      cases hl
    cases hc : s.bot.chat? e.chat with
    | some c =>
      rw [hc, linesFor_some he] at hl
      obtain ⟨text, -, rfl⟩ := List.mem_map.mp hl
      exact hids e.chat c hc
    | none =>
      rw [hc, linesFor_none he] at hl
      rw [List.mem_singleton.mp hl]
  | _ => cases hx

/-- The lines of some entries. -/
def lines (es : List JournalEntry) : List Store.LogLine := es.map JournalEntry.line

theorem lines_entries_receive (s : Stage τ) (e : Inbound) :
    lines ((Deed.receive e).entries s) = linesFor e (s.bot.chat? e.chat) s.world.now := by
  rw [lines, Deed.entries, List.map_map]
  exact List.map_id _

/-! ## Deeds -/

section

variable {g : Setting}

/-- What is done for a chat that is there. -/
theorem logged_play {c : Chat} {w : World τ} {x : ChatAction τ Unit} {texts : List String}
    (hx : Chat.LogsUnlessFailed g texts x) (hw : g.store.Holds w.disk)
    (hno : ¬StoreFailed (Plot.play c w x).1) :
    g.store.Logged (texts.map fun text => ⟨c.id, w.now, text⟩) w.disk
      (Plot.play c w x).2.world.disk := (hx ⟨c, w⟩ hno).logged hw

/-- What a chat does that adds nothing to its log, if it is there. -/
theorem logged_visit {p : Plot τ} {x : ChatAction τ Unit} (hp : g.store.Holds p.world.disk)
    (hx : Chat.Follows (Chat.Logs g []) x) :
    g.store.Logged [] p.world.disk (p.visit x).2.world.disk := by
  obtain ⟨_ | c, w⟩ := p
  · exact Store.Logged.refl hp
  · exact (hx ⟨c, w⟩).logged hp

variable [Transport τ]

theorem now_answered (press : Option String) (w : World τ) : (answered press w).now = w.now := by
  cases press <;> rfl

/-- **What comes in is logged**, unless it is blank. -/
theorem logged_deal_receive (e : Inbound) {p : Plot τ} (hp : g.store.Holds p.world.disk)
    (hno : ¬StoreFailed ((Deed.receive e).deal g p).1) :
    g.store.Logged (linesFor e p.chat p.world.now) p.world.disk
      ((Deed.receive e).deal g p).2.world.disk := by
  have hdisk := disk_answered e.press p.world
  have hholds : g.store.Holds (answered e.press p.world).disk := hdisk.symm ▸ hp
  by_cases he : Text.trim e.text.toList = []
  · rw [linesFor_of_blank he, deal_of_blank g he]
    exact hdisk.symm ▸ Store.Logged.refl hp
  obtain ⟨c, w⟩ := p
  rw [← now_answered e.press w, ← hdisk]
  cases c with
  | some c =>
    rw [deal_of_known g he] at hno ⊢
    rw [linesFor_some he]
    exact logged_play (Chat.logsUnlessFailed_respond g (said e)) hholds hno
  | none =>
    have hsaved := Store.logged_save hholds
      (Chat.opening g.scenario e.chat (referral? (said e))).record
    rw [deal_of_unseen g he, Chat.create_run] at hno ⊢
    generalize (g.store.save (Chat.opening g.scenario e.chat (referral? (said e))).record).run
      (answered e.press w).disk = r at hno hsaved ⊢
    obtain ⟨err | _, d⟩ := r
    · exact absurd ⟨err, rfl⟩ hno
    · rw [linesFor_none he]
      exact hsaved.trans
        (logged_play (Chat.logsUnlessFailed_welcome g (said e) e.sender) hsaved.holds hno)

/-- **What a deed adds to logs**, unless it has ended with a failure of the store. -/
theorem logged_act {s : Stage τ} (hs : AtWork g s) (d : Deed) (hno : ¬StoreFailed (d.act.run s).1) :
    g.store.Logged (lines (d.entries s)) s.world.disk (d.act.run s).2.world.disk := by
  cases d with
  | receive e =>
    have hworld := world_act hs.sorted hs.setting (d := .receive e) rfl
    rw [act_run hs.sorted hs.setting (d := .receive e) rfl] at hno
    dsimp only at hno
    rw [hworld, lines_entries_receive]
    exact logged_deal_receive e (p := plot s e.chat) hs.holds hno
  | note n =>
    rw [world_act hs.sorted hs.setting (d := .note n) rfl, deal_note]
    exact logged_visit (p := plot s n.chat) hs.holds (Chat.logs_handleNote g n)
  | announce key step =>
    rw [world_act hs.sorted hs.setting (d := .announce key step) rfl, deal_announce]
    exact logged_visit (p := plot s key) hs.holds ((Chat.isPlayCourse_logs g).goTo step)
  | _ => exact Store.Logged.refl hs.holds

end

/-! ## Ends and starts -/

/-- To keep chats adds nothing to any log. -/
theorem logged_flush {g : Setting} (l : List (String × Chat)) {w : World τ}
    (hw : g.store.Holds w.disk) : g.store.Logged [] w.disk (flush g l w).2.disk := by
  induction l generalizing w with
  | nil => exact Store.Logged.refl hw
  | cons p l ih =>
    have hsaved := Store.logged_save hw p.2.record
    rw [flush_cons, Chat.onWorldDisk_run_snd]
    have hrest := ih (w := { w with disk := ((g.store.save p.2.record).run w.disk).2 }) hsaved.holds
    exact hsaved.trans hrest

/-- A bot that is closed adds nothing to any log, and can be at work as before. -/
theorem AtWork.close {g : Setting} {s : Stage τ} (hs : AtWork g s) :
    AtWork g (close.run s).2
      ∧ g.store.Logged [] s.world.disk (close.run s).2.world.disk := by
  have hlogged := logged_flush s.bot.chats hs.holds
  rw [close_run, hs.setting]
  refine ⟨⟨hs.setting, ?_, hlogged.holds⟩, hlogged⟩
  exact Keyed.isSorted_map (fun (_ : String) (c : Chat) => (Chat.stopTimers c).2) hs.sorted

/-! ## Runs -/

/-- What has come after a stage, some starts later, if no deed has ended with a failure of the
store, and what was logged in the meantime.  The next bot may have another scenario, and the time
may be another one; only the store has to be the same. -/
inductive Chronicle (st : Store) [Transport τ] (s : Stage τ) :
    List JournalEntry → Stage τ → Prop where
  | refl : Chronicle st s [] s
  /-- A deed has been done. -/
  | done {es : List JournalEntry} {t : Stage τ} (h : Chronicle st s es t) (d : Deed)
      (hno : ¬StoreFailed (d.act.run t).1) : Chronicle st s (es ++ d.entries t) (d.act.run t).2
  /-- The bot has been closed. -/
  | closed {es : List JournalEntry} {t : Stage τ} (h : Chronicle st s es t) :
      Chronicle st s es (close.run t).2
  /-- The bot is there no more, and another one has been started. -/
  | restarted {es : List JournalEntry} {t : Stage τ} {g : Setting} {w w' : World τ} {b : Bot}
      {refusals : List (Option Nat)} (h : Chronicle st s es t) (hg : g.store = st)
      (hdisk : w.disk = { t.world.disk with refusals }) (hstart : (start g).run w = (.ok b, w')) :
      Chronicle st s es ⟨b, w'⟩

section

variable [Transport τ] {st : Store} {s t : Stage τ} {es : List JournalEntry}

/-- The entries of a row of deeds. -/
def journal : List Deed → Stage τ → List JournalEntry
  | [], _ => []
  | d :: ds, s => d.entries s ++ journal ds (d.act.run s).2

/-- A row of deeds may come next. -/
theorem Chronicle.after (h : Chronicle st s es t) (ds : List Deed)
    (hno : ∀ r ∈ outcomes ds t, ¬StoreFailed r) :
    Chronicle st s (es ++ journal ds t) (after ds t) := by
  induction ds generalizing es t with
  | nil =>
    rw [journal, List.append_nil]
    exact h
  | cons d ds ih =>
    have hnext := ih (h.done d (hno _ List.mem_cons_self)) fun r hr =>
      hno r (List.mem_cons_of_mem _ hr)
    rw [journal, ← List.append_assoc]
    exact hnext

/-- It is one of the things that can come after a stage. -/
theorem Chronicle.sequel (h : Chronicle st s es t) : ∃ n, Sequel st s n t := by
  induction h with
  | refl => exact ⟨0, .refl⟩
  | done _ d _ ih => exact ih.imp fun _ h => h.done d
  | closed _ ih => exact ih.imp fun _ h => h.closed
  | restarted _ hg hdisk hstart ih =>
    obtain ⟨n, h⟩ := ih
    exact ⟨n + 1, h.restarted hg hdisk hstart⟩

/-- **What is in the logs was added to them in turn**, and the bot is at work. -/
theorem Chronicle.logged (hs : ∃ g, g.store = st ∧ AtWork g s) (h : Chronicle st s es t) :
    (∃ g, g.store = st ∧ AtWork g t) ∧ st.Logged (lines es) s.world.disk t.world.disk := by
  induction h with
  | refl =>
    obtain ⟨g, rfl, hwork⟩ := hs
    exact ⟨⟨g, rfl, hwork⟩, Store.Logged.refl hwork.holds⟩
  | done _ d hno ih =>
    obtain ⟨⟨g, rfl, hwork⟩, hlogged⟩ := ih
    refine ⟨⟨g, rfl, hwork.act d⟩, ?_⟩
    rw [lines, List.map_append]
    exact hlogged.trans (logged_act hwork d hno)
  | closed _ ih =>
    obtain ⟨⟨g, rfl, hwork⟩, hlogged⟩ := ih
    have hclosed := hwork.close
    refine ⟨⟨g, rfl, hclosed.1⟩, ?_⟩
    have hall := hlogged.trans hclosed.2
    rw [List.append_nil] at hall
    exact hall
  | @restarted es t g w w' b refusals _ hg hdisk hstart ih =>
    obtain ⟨⟨-, -, -⟩, hlogged⟩ := ih
    subst hg
    obtain ⟨-, -, hdisk', -⟩ := of_start hstart
    have hrefusing := Store.logged_refusals hlogged.holds refusals
    have hsame : w'.disk = { t.world.disk with refusals } := hdisk'.trans hdisk
    refine ⟨⟨g, rfl, atWork_start hstart ?_⟩, ?_⟩
    · exact hdisk.symm ▸ hrefusing.holds.tree
    · have hall := hlogged.trans hrefusing
      rw [List.append_nil] at hall
      exact hsame.symm ▸ hall

/-- Where every record lies in the directory of its chat, what was written in a chat is in the log
of this chat. -/
theorem Chronicle.source (hs : Backed st s) (h : Chronicle st s es t) :
    ∀ x ∈ es, x.line.chat = x.source := by
  induction h with
  | refl => exact fun _ hx => (by cases hx)
  | @done es t h d _ ih =>
    obtain ⟨n, hsequel⟩ := h.sequel
    have hids := (hsequel.keeps hs).1.ids
    intro x hx
    rcases List.mem_append.mp hx with hx | hx
    · exact ih x hx
    · exact source_of_mem_entries hids hx
  | closed _ ih => exact ih
  | restarted _ _ _ _ ih => exact ih

/-- **The logs are a complete record of what was written.**  A bot has started, and then anything
has come, some starts included, without a failure of the store.  What is in the log of a chat then
is what was in it before, and behind that the entries of the run, in their order, that are for this
log.  Where every record lies in the directory of its chat, these are the entries for what was
written in this chat. -/
theorem log_records_input {g : Setting} {w w' : World τ} {b : Bot} (htree : w.disk.IsTree)
    (hstart : (start g).run w = (.ok b, w')) (h : Chronicle g.store ⟨b, w'⟩ es t) :
    (∀ k, g.store.log? k t.world.disk
        = Store.extended (g.store.log? k w.disk) (lines (es.filter fun x => x.line.chat = k)))
      ∧ (InPlace g w.disk → ∀ k, g.store.log? k t.world.disk
        = Store.extended (g.store.log? k w.disk) (lines (es.filter fun x => x.source = k))) := by
  obtain ⟨keys, hkeys, hdisk, -⟩ := of_start hstart
  have hlogged := (h.logged ⟨g, rfl, atWork_start hstart htree⟩).2
  have hall : ∀ k, g.store.log? k t.world.disk
      = Store.extended (g.store.log? k w.disk) (lines (es.filter fun x => x.line.chat = k)) := by
    intro k
    rw [hlogged.log, lines, List.filter_map, lines, ← hdisk]
    rfl
  refine ⟨hall, fun hplace k => ?_⟩
  have hsource := h.source (backed_start (Store.holds_of_chats htree hkeys) hplace hstart)
  rw [hall, List.filter_congr fun x hx => by rw [hsource x hx]]

end

/-- Somebody has come with a code, and again with another one. -/
def cameTwice : Stage Refusing :=
  after [coming "promo", coming "other"] ⟨newBot (reminding "(1h)"), newWorld⟩

/-- The world in which the bot is started again, after it was closed. -/
def reopened : World Refusing :=
  { newWorld with disk := { (close.run cameTwice).2.world.disk with refusals := [] } }

/-- Both are logged, the first time with the sender, and the second time with a code that was not
taken.  That the bot was closed and started again adds nothing. -/
theorem log_of_cameTwice :
    ∃ (b : Bot) (w : World Refusing), (start (reminding "(1h)")).run reopened = (.ok b, w)
      ∧ (reminding "(1h)").store.log? "42" w.disk
        = some ("1970-01-01T00:00:00 /start promo "
          ++ "\x7b\"id\":42,\"is_bot\":false,\"first_name\":\"Ann\"\x7d\n"
          ++ "1970-01-01T00:00:00 /start other\n"
          ++ "1970-01-01T00:00:00 \x7b\"refId\":\"other\"\x7d\n").toUTF8 := by
  have hkeys : (reminding "(1h)").store.chats reopened.disk = .ok ["42"] := by decide +kernel
  have hcame : outcomes [coming "promo", coming "other"] ⟨newBot (reminding "(1h)"), newWorld⟩
      = List.replicate 2 (.ok ()) := by decide +kernel
  obtain ⟨b, tickets, hreopened, -⟩ := start_run hkeys
  have hbegun : Chronicle (reminding "(1h)").store ⟨newBot (reminding "(1h)"), newWorld⟩ []
      ⟨newBot (reminding "(1h)"), newWorld⟩ := .refl
  have hchronicle := hbegun.after [coming "promo", coming "other"] fun r hr => by
    rw [hcame] at hr
    rintro ⟨e, rfl⟩
    cases List.eq_of_mem_replicate hr
  have hlog := (log_records_input Disk.isTree_empty (start_newWorld "(1h)")
    (hchronicle.closed.restarted (w := reopened) rfl rfl hreopened)).2
    (inPlace_of_chats_nil Disk.isTree_empty chats_newWorld) "42"
  refine ⟨b, _, hreopened, hlog.trans ?_⟩
  decide +kernel

/-- Where two directories have a record of one chat, what is written in the chat under the one key
is in the log of the other. -/
theorem doubled_input_is_logged_elsewhere :
    ∃ (b : Bot) (w : World Refusing),
      (start (reminding "(1h)")).run { newWorld with disk := doubledDisk } = (.ok b, w)
        ∧ let written : Deed := .receive (partingWord "a")
          (written.act.run ⟨b, w⟩).1 = .ok ()
            ∧ (reminding "(1h)").store.log? "a" (written.act.run ⟨b, w⟩).2.world.disk = none
            ∧ (reminding "(1h)").store.log? "b" (written.act.run ⟨b, w⟩).2.world.disk
              = some (Store.logLine 0 "Hi").toUTF8 :=
  ⟨_, _, start_of_chats chats_doubledDisk rfl, by decide +kernel⟩

end Bot
end ScriptedChat
