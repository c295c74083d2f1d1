import ScriptedChat.Proofs.Store.Keeping

/-!
# What a store logs

The log of a chat is a file beside its record (`Store.log?`).  To keep a record has nothing to do
with it, and to add a line to the log of one chat has nothing to do with the logs of the others.

Whatever is done for a chat is done in its directory (`Store.within_save`,
`Store.within_appendLog`), and what is read there depends on nothing else.

What has become of all logs between two disks is said by one row of lines, in the order in which
they were added: in the log of each chat there are its lines, behind what was there
(`Store.Logged`).

* `Store.log?`, `Store.log?_congr`: logs.
* `Store.within_save`, `Store.within_appendLog`: where saving and logging happen.
* `Store.log?_save`, `Store.log?_appendLog`, `Store.log?_appendLog_other`: what comes of it.
* `Store.LogLine`, `Store.transcript`, `Store.extended`: rows of lines.
* `Store.Logged`, `Store.logged_save`, `Store.logged_appendLog`: what was added to logs.
-/

namespace ScriptedChat
namespace Store

variable {s : Store} {d d' : Disk}

/-- What is in the log of a chat, if it has one that can be read. -/
def log? (s : Store) (chat : String) (d : Disk) : Option ByteArray :=
  match s.directory chat with
  | .ok dir => (d.readBytes (dir.join logName)).toOption
  | .error _ => none

/-- As long as the file of a log is the same, the log is the same. -/
theorem log?_congr (h : d.IsTree) (h' : d'.IsTree) {q : Place} (hq : d.LeadsTo s.root q)
    (hq' : d'.LeadsTo s.root q) {chat : String}
    (hfile : d'.entry? (q ++ [chat, logName]) = d.entry? (q ++ [chat, logName])) :
    s.log? chat d' = s.log? chat d := by
  by_cases hvalid : isValidId chat = true
  · rw [log?, log?, directory_of_isValidId hvalid]
    exact Disk.readBytes_join_join_congr h h' hq hq' (isPlain_of_isValidId hvalid) isPlain_logName
      hfile
  · rw [log?, log?, directory_of_not_isValidId hvalid]

/-- What is done below the directory of a chat leaves the logs of all others as they are. -/
theorem log?_of_within {q : Place} (h : d.IsTree) (hq : d.LeadsTo s.root q) {chat k : String}
    (hd : Disk.Within (q ++ [chat]) d d') (hk : k ≠ chat) : s.log? k d' = s.log? k d := by
  refine log?_congr h hd.tree hq (hq.mono hd.directories) (hd.outside _ ?_)
  rw [List.prefix_append_right_inj]
  rintro ⟨l, hl⟩
  exact hk (List.cons.inj hl).1.symm

/-! ## Saving -/

/-- To save a record is to do something in the directory of its chat, but not to its log. -/
theorem within_save {q : Place} (h : d.IsTree) (hq : d.LeadsTo s.root q) (r : ChatRecord) :
    Disk.Within (q ++ [r.chatId]) d ((s.save r).run d).2
      ∧ Disk.entry? ((s.save r).run d).2 (q ++ [r.chatId, logName])
        = d.entry? (q ++ [r.chatId, logName]) := by
  by_cases hvalid : isValidId r.chatId = true
  · have hname : ∀ name, name ≠ logName →
        q ++ [r.chatId, logName] ≠ q ++ [r.chatId] ++ [name] := by
      intro name hne heq
      rw [List.append_assoc, List.append_cancel_left_eq] at heq
      exact hne (List.cons.inj (List.cons.inj heq).2).1.symm
    rw [save_run_in_directory hvalid]
    obtain ⟨d₁, hin, hother, ⟨e, hfail⟩ | ⟨hleads, hdone⟩⟩ :=
      run_in_directory h hq (isPlain_of_isValidId hvalid) (attempt _ _ >>= fun _ => attempt _ _)
    · rw [hfail]
      exact ⟨hin, hother _ (by simp)⟩
    · rw [hdone]
      obtain ⟨d', hin', hother', hend⟩ := run_draft hin.tree hleads r.toText.toUTF8
      have hsame : d'.entry? (q ++ [r.chatId, logName]) = d.entry? (q ++ [r.chatId, logName]) :=
        (hother' _ (hname draftName (by decide)) (hname recordName (by decide))).trans
          (hother _ (by simp))
      rcases hend with ⟨e, hfail, -⟩ | ⟨hok, -, -⟩
      · rw [hfail]
        exact ⟨hin.trans hin', hsame⟩
      · rw [hok]
        exact ⟨hin.trans hin', hsame⟩
  · rw [save_run_of_not_isValidId hvalid]
    exact ⟨Disk.Within.refl h, rfl⟩

/-- **To save a record leaves all logs as they are.** -/
theorem log?_save (h : s.Holds d) (r : ChatRecord) (k : String) :
    s.log? k ((s.save r).run d).2 = s.log? k d := by
  obtain ⟨htree, q, hq⟩ := h
  obtain ⟨hin, hlog⟩ := within_save htree hq r
  by_cases hk : k = r.chatId
  · subst hk
    exact log?_congr htree hin.tree hq (hq.mono hin.directories) hlog
  · exact log?_of_within htree hq hin hk

/-! ## Logging -/

/-- To log is to do something in the directory of a chat.  If it succeeds, the line is behind what
was there. -/
theorem within_appendLog {q : Place} (h : d.IsTree) (hq : d.LeadsTo s.root q) (chat : String)
    (now : Int) (text : String) :
    Disk.Within (q ++ [chat]) d ((s.appendLog chat now text).run d).2
      ∧ (((s.appendLog chat now text).run d).1 = .ok () →
        s.log? chat ((s.appendLog chat now text).run d).2
          = some ((s.log? chat d).getD ByteArray.empty ++ (logLine now text).toUTF8)) := by
  by_cases hvalid : isValidId chat = true
  · rw [appendLog_run_in_directory hvalid]
    obtain ⟨d₁, hin, hother, ⟨e, hfail⟩ | ⟨hleads, hdone⟩⟩ :=
      run_in_directory h hq (isPlain_of_isValidId hvalid) (attempt _ _)
    · rw [hfail]
      exact ⟨hin, fun hok => by cases hok⟩
    · have hlog : s.log? chat d₁ = s.log? chat d :=
        log?_congr h hin.tree hq (hq.mono hin.directories) (hother _ (by simp))
      have happend := (Disk.append_join hin.tree hleads isPlain_logName
        (List.prefix_append (q ++ [chat]) [logName]) (logLine now text).toUTF8).1
      rw [hdone, attempt_snd]
      refine ⟨hin.trans happend, fun hok => ?_⟩
      have hok' : (d₁.append ((s.root.join chat).join logName) (logLine now text).toUTF8).1
          = .ok () := attempt_eq_ok.mp hok
      rw [← hlog, log?, log?, directory_of_isValidId hvalid]
      dsimp only
      rw [Disk.readBytes_append_join hin.tree hleads isPlain_logName hok']
      rfl
  · rw [appendLog_run_of_not_isValidId hvalid]
    exact ⟨Disk.Within.refl h, fun hok => by cases hok⟩

/-- What was logged is behind what was there. -/
theorem log?_appendLog (h : s.Holds d) (chat : String) (now : Int) (text : String)
    (hok : ((s.appendLog chat now text).run d).1 = .ok ()) :
    s.log? chat ((s.appendLog chat now text).run d).2
      = some ((s.log? chat d).getD ByteArray.empty ++ (logLine now text).toUTF8) := by
  obtain ⟨htree, q, hq⟩ := h
  exact (within_appendLog htree hq chat now text).2 hok

/-- No other log is changed. -/
theorem log?_appendLog_other (h : s.Holds d) {chat k : String} (hk : k ≠ chat) (now : Int)
    (text : String) : s.log? k ((s.appendLog chat now text).run d).2 = s.log? k d := by
  obtain ⟨htree, q, hq⟩ := h
  exact log?_of_within htree hq (within_appendLog htree hq chat now text).1 hk

/-! ## Rows of lines -/

/-- A line in the log of a chat. -/
structure LogLine where
  chat : String
  time : Int
  text : String

/-- Lines as they are in a log, one after the other. -/
def transcript : List LogLine → String
  | [] => ""
  | l :: ls => logLine l.time l.text ++ transcript ls

/-- What is in a log after some lines were added to it. -/
def extended (log : Option ByteArray) : List LogLine → Option ByteArray
  | [] => log
  | l :: ls => some (log.getD ByteArray.empty ++ (transcript (l :: ls)).toUTF8)

theorem transcript_append (ls ms : List LogLine) :
    transcript (ls ++ ms) = transcript ls ++ transcript ms := by
  induction ls with
  | nil => exact String.empty_append.symm
  | cons l ls ih => rw [List.cons_append, transcript, transcript, ih, String.append_assoc]

/-- The lines are behind what was there. -/
theorem getD_extended (log : Option ByteArray) (ls : List LogLine) :
    (extended log ls).getD ByteArray.empty
      = log.getD ByteArray.empty ++ (transcript ls).toUTF8 := by
  cases ls with
  | nil => exact ByteArray.append_empty.symm
  | cons l ls => rfl

/-- More lines are behind those. -/
theorem extended_append (log : Option ByteArray) (ls ms : List LogLine) :
    extended log (ls ++ ms) = extended (extended log ls) ms := by
  cases ms with
  | nil => rw [List.append_nil, extended]
  | cons m ms =>
    have htext : (transcript (ls ++ m :: ms)).toUTF8
        = (transcript ls).toUTF8 ++ (transcript (m :: ms)).toUTF8 := by
      rw [transcript_append]
      exact String.toByteArray_append
    have hsome : extended log (ls ++ m :: ms)
        = some (log.getD ByteArray.empty ++ (transcript (ls ++ m :: ms)).toUTF8) := by
      cases ls <;> rfl
    rw [hsome, htext, extended, getD_extended, ByteArray.append_assoc]

/-- Between two disks some lines were added, each to the log of its chat, and nothing else was done
to any log. -/
structure Logged (s : Store) (ls : List LogLine) (d d' : Disk) : Prop where
  holds : s.Holds d'
  log : ∀ k, s.log? k d' = extended (s.log? k d) (ls.filter fun l => l.chat = k)

theorem Logged.refl (h : s.Holds d) : s.Logged [] d d := ⟨h, fun _ => rfl⟩

theorem Logged.trans {d'' : Disk} {ls ms : List LogLine} (h : s.Logged ls d d')
    (h' : s.Logged ms d' d'') : s.Logged (ls ++ ms) d d'' := by
  refine ⟨h'.holds, fun k => ?_⟩
  rw [h'.log, h.log, List.filter_append, extended_append]

/-- What the disk will refuse makes no difference. -/
theorem logged_refusals (h : s.Holds d) (refusals : List (Option Nat)) :
    s.Logged [] d { d with refusals } := ⟨h.refusals refusals, fun _ => rfl⟩

/-- To save a record adds nothing to any log. -/
theorem logged_save (h : s.Holds d) (r : ChatRecord) : s.Logged [] d ((s.save r).run d).2 :=
  ⟨(saves h r).spares.holds, log?_save h r⟩

/-- To log adds one line. -/
theorem logged_appendLog (h : s.Holds d) {chat : String} {now : Int} {text : String}
    (hok : ((s.appendLog chat now text).run d).1 = .ok ()) :
    s.Logged [⟨chat, now, text⟩] d ((s.appendLog chat now text).run d).2 := by
  refine ⟨(appendLog_spares h chat now text).1.holds, fun k => ?_⟩
  by_cases hk : k = chat
  · subst hk
    have hfilter : [LogLine.mk k now text].filter (fun l => l.chat = k) = [⟨k, now, text⟩] :=
      List.filter_cons_of_pos (decide_eq_true rfl)
    rw [log?_appendLog h k now text hok, hfilter, extended, transcript, transcript,
      String.append_empty]
  · have hne : ¬chat = k := fun heq => hk heq.symm
    rw [log?_appendLog_other h hk, List.filter_singleton, decide_eq_false hne]
    rfl

end Store
end ScriptedChat
