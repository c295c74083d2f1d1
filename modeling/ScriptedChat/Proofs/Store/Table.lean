import Mathlib.Data.Finset.Sort
import Mathlib.Data.String.Basic
import ScriptedChat.Proofs.Store.Cutoff

/-!
# A store is a table

Seen from outside a store is a table: for some ids it has a record, for some it has a log, and it
can list those for which it has anything (`Store.Table`).  What it really has is a tree of files,
with paths that are put together from ids, records that are written out as text, and drafts.  None
of it is seen: as long as the files can be read and written, whatever is asked of a store gets the
reply that the table gives.

## What may go wrong

A reply that tells an error of the files says nothing about the table, and afterwards a directory
may be listed for which nothing was kept.  So the replies are compared as long as there is no such
error; there is none if the disk refuses no write and the paths are not too long.  Everything else
holds with such errors too, and also in the middle of a call: an id that is not valid changes
nothing, no other chat sees what is done for one, and every file that comes to be lies in the
directory of a chat.

* `Store.Call`, `Store.Reply`, `Store.perform`: what can be asked.
* `Store.Table`: the table.
* `Store.Refines`, `Store.Refines.perform`: the files of a table, and that every call keeps them.
* `Store.Ready`, `Store.Ready.perform`: when nothing goes wrong.
* `Store.Works`, `Store.Ready.works`: stores that do what they are asked to do for a chat.
* `Store.CallCutOff`, `Store.Confined`: what a call leaves alone.
* `Store.store_is_a_table`: the results together.
-/

namespace ScriptedChat
namespace Store

/-! ## Calls -/

/-- What can be asked of a store. -/
inductive Call where
  | save (r : ChatRecord)
  | load (chat : String)
  | appendLog (chat : String) (now : Int) (text : String)
  | chats
  deriving DecidableEq, Repr

/-- What is replied if nothing is wrong. -/
inductive Reply where
  | done
  | record (r : ChatRecord)
  | ids (chats : List String)
  deriving DecidableEq, Repr

/-- The id that a call is about. -/
def Call.chat? : Call → Option String
  | save r => some r.chatId
  | load chat => some chat
  | appendLog chat _ _ => some chat
  | chats => none

/-- Asks a store. -/
def perform (s : Store) (c : Call) (d : Disk) : Except StoreError Reply × Disk :=
  match c with
  | .save r => (((s.save r).run d).1.map fun _ => .done, ((s.save r).run d).2)
  | .load chat => ((s.load chat d).map .record, d)
  | .appendLog chat now text =>
    (((s.appendLog chat now text).run d).1.map fun _ => .done,
      ((s.appendLog chat now text).run d).2)
  | .chats => ((s.chats d).map .ids, d)

/-- Asks a store one thing after the other. -/
def performAll (s : Store) : List Call → Disk → List (Except StoreError Reply) × Disk
  | [], d => ([], d)
  | c :: cs, d =>
    let (reply, d) := s.perform c d
    let (replies, d) := s.performAll cs d
    (reply :: replies, d)

/-- A reply tells that files could not be read or written. -/
def IsFault (reply : Except StoreError Reply) : Prop :=
  ∃ path cause, reply = .error (.io path cause)

/-! ## Tables -/

/-- An id that names no directory: the empty one, the two that lead elsewhere, and those with a
separator or a null character in them. -/
def Refused (chat : String) : Prop :=
  chat = "" ∨ chat = "." ∨ chat = ".."
    ∨ '/' ∈ chat.toList ∨ '\\' ∈ chat.toList ∨ '\x00' ∈ chat.toList

instance (chat : String) : Decidable (Refused chat) :=
  inferInstanceAs (Decidable (_ ∨ _ ∨ _ ∨ _ ∨ _ ∨ _))

/-- What is kept for some ids. -/
structure Table where
  record? : String → Option ChatRecord
  log? : String → Option ByteArray
  /-- The ids for which something was kept. -/
  ids : Finset String

namespace Table

/-- Nothing is kept. -/
def empty : Table := ⟨fun _ => none, fun _ => none, ∅⟩

/-- The record that is found for an id. -/
def find (t : Table) (chat : String) : Except StoreError ChatRecord :=
  match t.record? chat with
  | some r => .ok r
  | none => .error (.notFound chat)

/-- The table with a record in the place of the one there was. -/
def keep (r : ChatRecord) (t : Table) : Table :=
  { t with
    record? := Function.update t.record? r.chatId (some r)
    ids := insert r.chatId t.ids }

/-- The table with a line more in a log. -/
def add (chat : String) (line : ByteArray) (t : Table) : Table :=
  { t with
    log? := Function.update t.log? chat (some ((t.log? chat).getD ByteArray.empty ++ line))
    ids := insert chat t.ids }

/-- What a table replies, and becomes. -/
def perform (c : Call) (t : Table) : Except StoreError Reply × Table :=
  match c with
  | .save r =>
    if Refused r.chatId then (.error (.invalidChatId r.chatId), t) else (.ok .done, t.keep r)
  | .load chat =>
    if Refused chat then (.error (.invalidChatId chat), t) else ((t.find chat).map .record, t)
  | .appendLog chat now text =>
    if Refused chat then (.error (.invalidChatId chat), t)
    else (.ok .done, t.add chat (logLine now text).toUTF8)
  | .chats => (.ok (.ids t.ids.sort), t)

/-- What a table replies to one thing after the other. -/
def performAll : List Call → Table → List (Except StoreError Reply) × Table
  | [], t => ([], t)
  | c :: cs, t =>
    let (reply, t) := t.perform c
    let (replies, t) := performAll cs t
    (reply :: replies, t)

@[simp] theorem find_keep_self (r : ChatRecord) (t : Table) :
    (t.keep r).find r.chatId = .ok r := by
  simp [find, keep]

theorem find_keep_of_ne {r : ChatRecord} {chat : String} (h : chat ≠ r.chatId) (t : Table) :
    (t.keep r).find chat = t.find chat := by
  simp [find, keep, Function.update_of_ne h]

@[simp] theorem log?_add_self (chat : String) (line : ByteArray) (t : Table) :
    (t.add chat line).log? chat = some ((t.log? chat).getD ByteArray.empty ++ line) := by
  simp [add]

theorem log?_add_of_ne {chat k : String} (h : k ≠ chat) (line : ByteArray) (t : Table) :
    (t.add chat line).log? k = t.log? k := by
  simp [add, Function.update_of_ne h]

end Table

variable {s : Store} {d d' : Disk} {q : Place} {t : Table}

theorem isValidId_iff {chat : String} : isValidId chat = true ↔ ¬Refused chat := by
  simp only [isValidId, Refused, Bool.not_eq_true', Bool.or_eq_false_iff, beq_eq_false_iff_ne,
    List.any_eq_false, Bool.or_eq_true, beq_iff_eq, not_or]
  constructor
  · rintro ⟨⟨⟨hempty, hdot⟩, hdots⟩, hchars⟩
    exact ⟨hempty, hdot, hdots, fun h => (hchars _ h).1.1 rfl, fun h => (hchars _ h).1.2 rfl,
      fun h => (hchars _ h).2 rfl⟩
  · rintro ⟨hempty, hdot, hdots, hslash, hback, hnul⟩
    exact ⟨⟨⟨hempty, hdot⟩, hdots⟩,
      fun c hc => ⟨⟨fun h => hslash (h ▸ hc), fun h => hback (h ▸ hc)⟩, fun h => hnul (h ▸ hc)⟩⟩

/-- **A call for an id that is no name fails, and changes nothing.** -/
theorem perform_of_refused {c : Call} {chat : String} (hc : c.chat? = some chat)
    (h : Refused chat) (d : Disk) : s.perform c d = (.error (.invalidChatId chat), d) := by
  have hvalid : ¬isValidId chat = true := fun hvalid => isValidId_iff.mp hvalid h
  cases c with
  | save r =>
    cases hc
    rw [perform, save_run_of_not_isValidId hvalid]
    rfl
  | load k =>
    cases hc
    rw [perform, load, directory_of_not_isValidId hvalid]
    rfl
  | appendLog k now text =>
    cases hc
    rw [perform, appendLog_run_of_not_isValidId hvalid]
    rfl
  | chats => cases hc

theorem Table.perform_of_refused {c : Call} {chat : String} (hc : c.chat? = some chat)
    (h : Refused chat) (t : Table) : t.perform c = (.error (.invalidChatId chat), t) := by
  cases c with
  | save r => cases hc; rw [perform, if_pos h]
  | load k => cases hc; rw [perform, if_pos h]
  | appendLog k now text => cases hc; rw [perform, if_pos h]
  | chats => cases hc

/-! ## Paths that are short enough -/

/-- The paths of the files of a chat can be walked. -/
def Short (s : Store) (chat : String) : Prop :=
  chat.utf8ByteSize ≤ Disk.longestName
    ∧ s.root.text.utf8ByteSize + chat.utf8ByteSize + 16 ≤ Disk.longestPath

theorem utf8ByteSize_join_le (p : Path) (n : String) :
    (p.join n).text.utf8ByteSize ≤ p.text.utf8ByteSize + 1 + n.utf8ByteSize := by
  rw [Path.join]
  split
  · exact Nat.le_add_left _ _
  split
  · rw [String.utf8ByteSize_append]
    omega
  · rw [String.utf8ByteSize_append, String.utf8ByteSize_append]
    exact Nat.le_refl _

theorem mem_text_join {p : Path} {n : String} {c : Char} (h : c ∈ (p.join n).text.toList) :
    c ∈ p.text.toList ∨ c = '/' ∨ c ∈ n.toList := by
  rw [Path.join] at h
  split at h
  · exact Or.inr (Or.inr h)
  split at h
  · rw [String.toList_append, List.mem_append] at h
    exact h.imp_right Or.inr
  · rw [String.toList_append, String.toList_append, List.mem_append, List.mem_append] at h
    rcases h with (h | h) | h
    · exact Or.inl h
    · exact Or.inr (Or.inl (List.mem_singleton.mp h))
    · exact Or.inr (Or.inr h)

section

variable {chat : String} (hq : d.LeadsTo s.root q) (hshort : s.Short chat)
  (hvalid : ¬Refused chat)
include hq hshort hvalid

theorem fits_of_short : Disk.Fits s.root chat := by
  refine ⟨fun h => ?_, ?_, hshort.1⟩
  · rcases mem_text_join h with h | h | h
    · exact (Disk.walk_eq_ok.mp hq.locate).1.1 (List.contains_iff_mem.mpr h)
    · cases h
    · exact hvalid (by simp [Refused, h])
  · have := utf8ByteSize_join_le s.root chat
    have := hshort.2
    omega

theorem fits_file_of_short {n : String} (hn : n ∈ [recordName, draftName, logName]) :
    Disk.Fits (s.root.join chat) n := by
  have hsize : n.utf8ByteSize ≤ 14 ∧ '\x00' ∉ n.toList := by
    simp only [List.mem_cons, List.not_mem_nil, or_false] at hn
    rcases hn with rfl | rfl | rfl <;> decide
  refine ⟨fun h => ?_, ?_, ?_⟩
  · rcases mem_text_join h with h | h | h
    · exact (fits_of_short hq hshort hvalid).nul h
    · cases h
    · exact hsize.2 h
  · have := utf8ByteSize_join_le s.root chat
    have := utf8ByteSize_join_le (s.root.join chat) n
    have := hshort.2
    omega
  · have : Disk.longestName = 255 := rfl
    omega

end

/-! ## The files of a table -/

/-- The files on the disk are those of a table, below the root of the store. -/
structure Refines (s : Store) (q : Place) (d : Disk) (t : Table) : Prop where
  tree : d.IsTree
  root : d.LeadsTo s.root q
  /-- Every record is found, unless its path is too long. -/
  records : ∀ k, ¬Refused k →
    s.load k d = t.find k ∨ ¬s.Short k ∧ ∃ path cause, s.load k d = .error (.io path cause)
  logs : ∀ k, s.log? k d = t.log? k
  /-- There is nothing in the root but the directories of chats. -/
  directories : ∀ k, d.entry? (q ++ [k]) = if k ∈ t.ids then some .directory else none
  valid : ∀ k ∈ t.ids, ¬Refused k

/-- The ids are listed in order. -/
theorem chats_of_refines (h : Refines s q d t) : s.chats d = .ok t.ids.sort := by
  obtain ⟨keys, hkeys, hnodup, hmem⟩ := chats_eq_ok h.tree h.root
  have hsorted : keys.Pairwise (· ≤ ·) := by
    rw [chats] at hkeys
    split at hkeys
    · cases hkeys
    · rw [← Except.ok.inj hkeys]
      have := @List.pairwise_mergeSort String (fun a b => decide (a ≤ b))
        (fun a b c hab hbc => by simpa using le_trans (by simpa using hab) (by simpa using hbc))
        (fun a b => by simpa using le_total a b)
      simpa using this _
  rw [hkeys]
  congr 1
  refine List.Perm.eq_of_pairwise (fun a b _ _ hab hba => le_antisymm hab hba) hsorted
    (Finset.pairwise_sort t.ids (· ≤ ·)) ?_
  refine (List.perm_ext_iff_of_nodup hnodup (Finset.sort_nodup t.ids (· ≤ ·))).mpr fun k => ?_
  rw [hmem, h.directories, Finset.mem_sort]
  split
  · next hk => exact iff_of_true rfl hk
  · next hk => exact iff_of_false (Option.some_ne_none _).symm hk

/-- A chat with a log has a directory. -/
theorem directory_of_log? (hq : d.LeadsTo s.root q) {chat : String} {content : ByteArray}
    (h : s.log? chat d = some content) : d.entry? (q ++ [chat]) = some .directory := by
  rw [log?] at h
  by_cases hvalid : isValidId chat = true
  · rw [directory_of_isValidId hvalid] at h
    dsimp only at h
    rw [Disk.readBytes, Disk.lookup] at h
    cases hx : d.locate ((s.root.join chat).join logName) with
    | error e => rw [hx] at h; cases h
    | ok x =>
      exact (Disk.directory_of_locate_join_join hq (isPlain_of_isValidId hvalid) isPlain_logName
        hx).2
  · rw [directory_of_not_isValidId hvalid] at h
    cases h

/-- The directories after something has come to be for a chat. -/
theorem directories_insert (h : Refines s q d t) {chat : String} {names : List String}
    (htouches : Touches q chat names d d') (hdir : d'.entry? (q ++ [chat]) = some .directory)
    (k : String) :
    d'.entry? (q ++ [k]) = if k ∈ insert chat t.ids then some .directory else none := by
  by_cases hk : k = chat
  · rw [hk, hdir, if_pos (Finset.mem_insert_self _ _)]
  · have hother : d'.entry? (q ++ [k]) = d.entry? (q ++ [k]) := by
      refine htouches.others _ (fun heq => hk ?_) fun n _ heq => ?_
      · rw [List.append_cancel_left_eq] at heq
        exact (List.cons.inj heq).1
      · rw [List.append_cancel_left_eq] at heq
        cases (List.cons.inj heq).2
    rw [hother, h.directories]
    simp only [Finset.mem_insert, hk, false_or]

theorem Refines.save (h : Refines s q d t) {r : ChatRecord} (hvalid : ¬Refused r.chatId)
    (hok : ((s.save r).run d).1 = .ok ()) :
    Refines s q ((s.save r).run d).2 (t.perform (.save r)).2 := by
  rcases run_save h.tree h.root (isValidId_iff.mpr hvalid) with
    ⟨⟨e, herror⟩, -⟩ | ⟨-, htouches, hfile⟩
  · rw [hok] at herror
    cases herror
  · have hroot := h.root.mono htouches.within.directories
    have hload := load_of_file? hfile
    rw [Table.perform, if_neg hvalid]
    dsimp only
    refine ⟨htouches.within.tree, hroot, fun k hk => ?_, fun k => ?_,
      directories_insert h htouches (file_of_load hroot hload).2.1, fun k hk => ?_⟩
    · by_cases hkr : k = r.chatId
      · subst hkr
        exact Or.inl (hload.trans (Table.find_keep_self r t).symm)
      · rw [(spares_of_within h.root htouches.within).others k hkr]
        rw [Table.find_keep_of_ne hkr]
        exact h.records k hk
    · rw [log?_of_touches h.tree h.root htouches (by decide)]
      exact h.logs k
    · rcases Finset.mem_insert.mp hk with rfl | hk
      · exact hvalid
      · exact h.valid k hk

theorem Refines.appendLog (h : Refines s q d t) {chat : String} (hvalid : ¬Refused chat)
    {now : Int} {text : String} (hok : ((s.appendLog chat now text).run d).1 = .ok ()) :
    Refines s q ((s.appendLog chat now text).run d).2 (t.perform (.appendLog chat now text)).2 := by
  have htouches := touches_of_appendCutOff h.tree h.root (isValidId_iff.mpr hvalid)
    (appendCutOff_appendLog (s := s) chat now text d)
  have hroot := h.root.mono htouches.within.directories
  have hlog := log?_appendLog ⟨h.tree, q, h.root⟩ chat now text hok
  rw [Table.perform, if_neg hvalid]
  dsimp only
  refine ⟨htouches.within.tree, hroot, fun k hk => ?_, fun k => ?_,
    directories_insert h htouches (directory_of_log? hroot hlog), fun k hk => ?_⟩
  · rw [load_of_touches h.tree h.root htouches (by decide)]
    exact h.records k hk
  · by_cases hk : k = chat
    · subst hk
      rw [hlog, h.logs, Table.log?_add_self]
    · rw [log?_of_within h.tree h.root htouches.within hk, h.logs,
        Table.log?_add_of_ne hk]
  · rcases Finset.mem_insert.mp hk with rfl | hk
    · exact hvalid
    · exact h.valid k hk

/-- What went wrong with the files. -/
theorem save_error_io {r : ChatRecord} (hvalid : ¬Refused r.chatId) (d : Disk) :
    ((s.save r).run d).1 = .ok () ∨ ∃ path cause, ((s.save r).run d).1 = .error (.io path cause) := by
  rw [save_run_of_isValidId (isValidId_iff.mpr hvalid)]
  refine run_inTurn_of_attempts (fun x hx => ?_) d
  rcases List.mem_cons.mp hx with rfl | hx
  · exact ⟨_, _, rfl⟩
  rcases List.mem_cons.mp hx with rfl | hx
  · exact ⟨_, _, rfl⟩
  · exact ⟨_, _, List.mem_singleton.mp hx⟩

theorem appendLog_error_io {chat : String} (hvalid : ¬Refused chat) (now : Int) (text : String)
    (d : Disk) :
    ((s.appendLog chat now text).run d).1 = .ok ()
      ∨ ∃ path cause, ((s.appendLog chat now text).run d).1 = .error (.io path cause) := by
  rw [appendLog_run_of_isValidId (isValidId_iff.mpr hvalid)]
  refine run_inTurn_of_attempts (fun x hx => ?_) d
  rcases List.mem_cons.mp hx with rfl | hx
  · exact ⟨_, _, rfl⟩
  · exact ⟨_, _, List.mem_singleton.mp hx⟩

/-- A call gets the reply that the table gives, unless the files fail. -/
theorem Refines.perform (h : Refines s q d t) (c : Call) (hfault : ¬IsFault (s.perform c d).1) :
    (s.perform c d).1 = (t.perform c).1 ∧ Refines s q (s.perform c d).2 (t.perform c).2 := by
  by_cases hrefused : ∃ k, c.chat? = some k ∧ Refused k
  · obtain ⟨k, hk, hrefused⟩ := hrefused
    rw [perform_of_refused hk hrefused, Table.perform_of_refused hk hrefused]
    exact ⟨rfl, h⟩
  cases c with
  | save r =>
    have hvalid : ¬Refused r.chatId := fun hr => hrefused ⟨_, rfl, hr⟩
    rcases save_error_io hvalid d with hok | ⟨path, cause, herror⟩
    · refine ⟨?_, h.save hvalid hok⟩
      rw [Store.perform, Table.perform, if_neg hvalid, hok]
      rfl
    · exact absurd ⟨path, cause, by rw [Store.perform, herror]; rfl⟩ hfault
  | load k =>
    have hvalid : ¬Refused k := fun hr => hrefused ⟨_, rfl, hr⟩
    rw [Store.perform, Table.perform, if_neg hvalid]
    rcases h.records k hvalid with hfound | ⟨-, path, cause, herror⟩
    · exact ⟨by rw [hfound], h⟩
    · exact absurd ⟨path, cause, by rw [Store.perform, herror]; rfl⟩ hfault
  | appendLog k now text =>
    have hvalid : ¬Refused k := fun hr => hrefused ⟨_, rfl, hr⟩
    rcases appendLog_error_io hvalid now text d with hok | ⟨path, cause, herror⟩
    · refine ⟨?_, h.appendLog hvalid hok⟩
      rw [Store.perform, Table.perform, if_neg hvalid, hok]
      rfl
    · exact absurd ⟨path, cause, by rw [Store.perform, herror]; rfl⟩ hfault
  | chats =>
    refine ⟨?_, h⟩
    rw [Store.perform, Table.perform, chats_of_refines h]
    rfl

theorem Refines.performAll (h : Refines s q d t) (cs : List Call)
    (hfault : ∀ reply ∈ (s.performAll cs d).1, ¬IsFault reply) :
    (s.performAll cs d).1 = (t.performAll cs).1
      ∧ Refines s q (s.performAll cs d).2 (t.performAll cs).2 := by
  induction cs generalizing d t with
  | nil => exact ⟨rfl, h⟩
  | cons c cs ih =>
    obtain ⟨hreply, hafter⟩ := h.perform c (hfault _ List.mem_cons_self)
    obtain ⟨hreplies, hend⟩ := ih hafter fun reply hr => hfault reply (List.mem_cons_of_mem _ hr)
    exact ⟨congrArg₂ List.cons hreply hreplies, hend⟩

/-! ## An empty store -/

/-- A record whose file cannot be reached is not there, or the disk fails. -/
theorem load_of_lookup_error {k : String} (hvalid : ¬Refused k) {e : IoError}
    (he : d.lookup (s.recordPath k) = .error e) :
    e = .notFound ∧ s.load k d = .error (.notFound k)
      ∨ e ≠ .notFound ∧ s.load k d = .error (.io (s.recordPath k) e) := by
  rw [recordPath] at he ⊢
  rw [load, directory_of_isValidId (isValidId_iff.mpr hvalid)]
  simp only [bind, Except.bind, Disk.readText, Disk.readBytes, he]
  cases e
  case notFound => exact Or.inl ⟨rfl, rfl⟩
  all_goals exact Or.inr ⟨by decide, rfl⟩

/-- Where a chat has no directory it has no record. -/
theorem load_of_missing (hq : d.LeadsTo s.root q) {k : String} (hvalid : ¬Refused k)
    (hnone : d.entry? (q ++ [k]) = none) :
    s.load k d = .error (.notFound k)
      ∨ ¬s.Short k ∧ ∃ path cause, s.load k d = .error (.io path cause) := by
  have hplain := isPlain_of_isValidId (isValidId_iff.mpr hvalid)
  have hmissing : d.enter (q ++ [k]) recordName = .error .notFound := by rw [Disk.enter, hnone]
  by_cases hshort : s.Short k
  · have hfits := fits_of_short hq hshort hvalid
    have hfile := fits_file_of_short hq hshort hvalid (n := recordName) (by simp)
    have he : d.lookup (s.recordPath k) = .error .notFound := by
      rw [Disk.lookup, recordPath, Disk.locate_join_join hq hplain isPlain_recordName,
        if_neg (by simpa using hfile.nul), if_neg (Nat.not_lt.mpr hfile.path),
        if_neg (Nat.not_lt.mpr hfits.name), hmissing]
      rfl
    rcases load_of_lookup_error hvalid he with ⟨-, hload⟩ | ⟨hne, -⟩
    · exact Or.inl hload
    · exact absurd rfl hne
  · have herror : ∃ e, d.lookup (s.recordPath k) = .error e := by
      rw [Disk.lookup, recordPath, Disk.locate_join_join hq hplain isPlain_recordName, hmissing]
      split
      · exact ⟨_, rfl⟩
      split
      · exact ⟨_, rfl⟩
      split <;> exact ⟨_, rfl⟩
    obtain ⟨e, he⟩ := herror
    rcases load_of_lookup_error hvalid he with ⟨-, hload⟩ | ⟨-, hload⟩
    · exact Or.inl hload
    · exact Or.inr ⟨hshort, _, _, hload⟩

theorem log?_of_missing (hq : d.LeadsTo s.root q) {k : String}
    (hnone : d.entry? (q ++ [k]) = none) : s.log? k d = none := by
  cases hlog : s.log? k d with
  | none => rfl
  | some content =>
    rw [directory_of_log? hq hlog] at hnone
    cases hnone

/-- A store that has been opened on an empty directory is an empty table. -/
theorem refines_of_open {root : Path} {d₀ : Disk} (h : d₀.IsTree)
    (hopen : (Store.open root).run d₀ = (.ok s, d)) (hempty : d.list root = .ok []) :
    s.root = root ∧ ∃ q, d.LeadsTo root q ∧ Refines s q d Table.empty := by
  have hmake : d = (d₀.makeDirectories root).2 ∧ s.root = root := by
    rw [Store.open, Action.run_bind, attempt_run] at hopen
    rcases hmk : d₀.makeDirectories root with ⟨_ | _, d₁⟩
    · rw [hmk] at hopen
      cases hopen
    · rw [hmk] at hopen
      cases hopen
      exact ⟨rfl, rfl⟩
  obtain ⟨hd, rfl⟩ := hmake
  have htree : d.IsTree := hd ▸ Disk.isTree_makeDirectories h s.root
  have hchats : s.chats d = .ok [] := by
    rw [chats, hempty]
    dsimp only
    rw [List.filterMap_nil, List.mergeSort_nil]
  obtain ⟨-, q, hq⟩ := holds_of_chats htree hchats
  obtain ⟨l, hl, -, hmem⟩ := Disk.list_of_leadsTo htree hq
  have hnothing : ∀ k, d.entry? (q ++ [k]) = none := by
    rw [hempty] at hl
    cases hl
    intro k
    cases he : d.entry? (q ++ [k]) with
    | none => rfl
    | some e => exact absurd ((hmem k e).mpr he) List.not_mem_nil
  refine ⟨rfl, q, hq, htree, hq, fun k hk => load_of_missing hq hk (hnothing k),
    fun k => log?_of_missing hq (hnothing k), fun k => ?_, fun k hk => ?_⟩
  · rw [hnothing]
    exact (if_neg (Finset.notMem_empty k)).symm
  · exact absurd hk (Finset.notMem_empty k)

/-! ## When nothing goes wrong -/

/-- The files of a table on a disk that refuses nothing, where nothing is in the way of a file. -/
structure Ready (s : Store) (q : Place) (d : Disk) (t : Table) : Prop where
  refines : Refines s q d t
  refusals : d.refusals = []
  files : ∀ k n, d.entry? (q ++ [k, n]) ≠ some .directory

theorem files_of_touches (h : ∀ k n, d.entry? (q ++ [k, n]) ≠ some .directory) {chat : String}
    {names : List String} (htouches : Touches q chat names d d') (k n : String) :
    d'.entry? (q ++ [k, n]) ≠ some .directory :=
  fun hdir => h k n (htouches.directories _ (by simp) hdir)

section

variable {chat : String}

/-- The directory of a chat can be made, and then files can be put there. -/
theorem Ready.make (h : Ready s q d t) (hvalid : ¬Refused chat) (hshort : s.Short chat) :
    let p := d.makeDirectories (s.root.join chat)
    p.1 = .ok () ∧ p.2.refusals = [] ∧ p.2.IsTree
      ∧ Disk.LeadsTo p.2 (s.root.join chat) (q ++ [chat])
      ∧ ∀ k n, Disk.entry? p.2 (q ++ [k, n]) ≠ some .directory := by
  have hplain := isPlain_of_isValidId (isValidId_iff.mpr hvalid)
  have htouches := touches_makeDirectories h.refines.tree h.refines.root hplain []
  obtain ⟨-, -, hleads, -⟩ := Disk.makeDirectories_join h.refines.tree h.refines.root hplain
  obtain ⟨hmade, hrefusals⟩ := Disk.makeDirectories_join_ok h.refines.root hplain
    (fits_of_short h.refines.root hshort hvalid) h.refusals fun content hfile => by
      rw [h.refines.directories] at hfile
      split at hfile <;> cases hfile
  exact ⟨hmade, hrefusals, htouches.within.tree, hleads hmade, files_of_touches h.files htouches⟩

theorem Ready.save (h : Ready s q d t) {r : ChatRecord} (hvalid : ¬Refused r.chatId)
    (hshort : s.Short r.chatId) :
    ((s.save r).run d).1 = .ok () ∧ ((s.save r).run d).2.refusals = [] := by
  have hfits := fun {n} => fits_file_of_short h.refines.root hshort hvalid (n := n)
  obtain ⟨hmade, hrefusals, htree, hdir, hfiles⟩ := h.make hvalid hshort
  rw [save_run_of_isValidId (isValidId_iff.mpr hvalid), saveSteps,
    run_inTurn_cons_ok (attempt_ok (·.makeDirectories (s.root.join r.chatId)) hmade)]
  generalize (d.makeDirectories (s.root.join r.chatId)).2 = d₁ at hrefusals htree hdir hfiles ⊢
  -- The draft can be written.
  obtain ⟨hwritten, hrefusals₂⟩ := Disk.write_join_ok hdir isPlain_draftName (hfits (by simp))
    hrefusals (by rw [append_pair]; exact hfiles _ _) r.toText.toUTF8
  have htouches := touches_write htree hdir isPlain_draftName (List.mem_singleton_self draftName)
    r.toText.toUTF8
  obtain ⟨-, -, hdraft⟩ := Disk.write_join htree hdir isPlain_draftName
    (List.prefix_append (q ++ [r.chatId]) [draftName]) r.toText.toUTF8
  have hfile := hdraft hwritten
  have hfiles₂ := files_of_touches hfiles htouches
  have hdir₂ := hdir.mono htouches.within.directories
  rw [run_inTurn_cons_ok
    (attempt_ok (·.write ((s.root.join r.chatId).join draftName) r.toText.toUTF8) hwritten),
    inTurn_singleton]
  generalize (d₁.write ((s.root.join r.chatId).join draftName) r.toText.toUTF8).2 = d₂
    at hrefusals₂ hfile hfiles₂ hdir₂ ⊢
  -- It can take the name of the record.
  obtain ⟨hrenamed, hrefusals₃⟩ := Disk.rename_join_ok hdir₂ isPlain_draftName isPlain_recordName
    (hfits (by simp)) (hfits (by simp)) hrefusals₂ hfile (by rw [append_pair]; exact hfiles₂ _ _)
  rw [attempt_ok (·.rename ((s.root.join r.chatId).join draftName)
    ((s.root.join r.chatId).join recordName)) hrenamed]
  exact ⟨rfl, hrefusals₃⟩

theorem Ready.appendLog (h : Ready s q d t) (hvalid : ¬Refused chat) (hshort : s.Short chat)
    (now : Int) (text : String) :
    ((s.appendLog chat now text).run d).1 = .ok ()
      ∧ ((s.appendLog chat now text).run d).2.refusals = [] := by
  have hfits := fits_file_of_short h.refines.root hshort hvalid (n := logName) (by simp)
  obtain ⟨hmade, hrefusals, -, hdir, hfiles⟩ := h.make hvalid hshort
  obtain ⟨happended, hrefusals₂⟩ := Disk.append_join_ok hdir isPlain_logName hfits hrefusals
    (by rw [append_pair]; exact hfiles _ _) (logLine now text).toUTF8
  rw [appendLog_run_of_isValidId (isValidId_iff.mpr hvalid), appendSteps,
    run_inTurn_cons_ok (attempt_ok (·.makeDirectories (s.root.join chat)) hmade),
    inTurn_singleton, attempt_ok (·.append ((s.root.join chat).join logName)
      (logLine now text).toUTF8) happended]
  exact ⟨rfl, hrefusals₂⟩

end

/-- No call fails, and the next one will not fail either. -/
theorem Ready.perform (h : Ready s q d t) (c : Call)
    (hshort : ∀ k, c.chat? = some k → ¬Refused k → s.Short k) :
    ¬IsFault (s.perform c d).1 ∧ Ready s q (s.perform c d).2 (t.perform c).2 := by
  by_cases hrefused : ∃ k, c.chat? = some k ∧ Refused k
  · obtain ⟨k, hk, hrefused⟩ := hrefused
    rw [perform_of_refused hk hrefused, Table.perform_of_refused hk hrefused]
    exact ⟨fun ⟨_, _, hfault⟩ => (nomatch hfault), h⟩
  have hvalid : ∀ k, c.chat? = some k → ¬Refused k := fun k hk hr => hrefused ⟨k, hk, hr⟩
  cases c with
  | save r =>
    obtain ⟨hok, hrefusals⟩ := h.save (hvalid _ rfl) (hshort _ rfl (hvalid _ rfl))
    have hreply : ¬IsFault (s.perform (.save r) d).1 := by
      rw [Store.perform, hok]
      exact fun ⟨_, _, hfault⟩ => nomatch hfault
    refine ⟨hreply, (h.refines.perform _ hreply).2, hrefusals, ?_⟩
    rcases run_save h.refines.tree h.refines.root (isValidId_iff.mpr (hvalid _ rfl)) with
      ⟨⟨e, herror⟩, -⟩ | ⟨-, htouches, -⟩
    · rw [hok] at herror
      cases herror
    · exact files_of_touches h.files htouches
  | load k =>
    refine ⟨?_, ?_⟩
    · rw [Store.perform]
      rcases h.refines.records k (hvalid _ rfl) with hfound | ⟨hlong, -⟩
      · rw [hfound, Table.find]
        cases t.record? k <;> exact fun ⟨_, _, hfault⟩ => nomatch hfault
      · exact absurd (hshort _ rfl (hvalid _ rfl)) hlong
    · rw [Store.perform, Table.perform, if_neg (hvalid _ rfl)]
      exact h
  | appendLog k now text =>
    obtain ⟨hok, hrefusals⟩ := h.appendLog (hvalid _ rfl) (hshort _ rfl (hvalid _ rfl)) now text
    have hreply : ¬IsFault (s.perform (.appendLog k now text) d).1 := by
      rw [Store.perform, hok]
      exact fun ⟨_, _, hfault⟩ => nomatch hfault
    refine ⟨hreply, (h.refines.perform _ hreply).2, hrefusals, ?_⟩
    exact files_of_touches h.files (touches_of_appendCutOff h.refines.tree h.refines.root
      (isValidId_iff.mpr (hvalid _ rfl)) (appendCutOff_appendLog k now text d))
  | chats =>
    refine ⟨?_, h⟩
    rw [Store.perform, chats_of_refines h.refines]
    exact fun ⟨_, _, hfault⟩ => nomatch hfault

theorem Ready.performAll (h : Ready s q d t) (cs : List Call)
    (hshort : ∀ c ∈ cs, ∀ k, c.chat? = some k → ¬Refused k → s.Short k) :
    ∀ reply ∈ (s.performAll cs d).1, ¬IsFault reply := by
  induction cs generalizing d t with
  | nil => exact fun reply hr => absurd hr List.not_mem_nil
  | cons c cs ih =>
    obtain ⟨hreply, hafter⟩ := h.perform c (hshort c List.mem_cons_self)
    intro reply hr
    rcases List.mem_cons.mp hr with rfl | hr
    · exact hreply
    · exact ih hafter (fun c hc => hshort c (List.mem_cons_of_mem _ hc)) reply hr

/-! ## Stores that work -/

/-- A store works for a chat: whatever is asked of it for this chat, no file fails. -/
structure Works (s : Store) (chat : String) (d : Disk) : Prop where
  holds : s.Holds d
  valid : isValidId chat = true
  faultless : ∀ cs : List Call, (∀ c ∈ cs, c.chat? = some chat) →
    ∀ reply ∈ (s.performAll cs d).1, ¬IsFault reply

section

variable {chat : String}

/-- What is asked of a store that works is done, and it works for the next call as well. -/
theorem Works.perform (h : s.Works chat d) {c : Call} (hc : c.chat? = some chat)
    (hholds : s.Holds (s.perform c d).2) :
    ¬IsFault (s.perform c d).1 ∧ s.Works chat (s.perform c d).2 := by
  refine ⟨?_, hholds, h.valid, fun cs hcs reply hreply => ?_⟩
  · exact h.faultless [c] (by simpa using hc) _ List.mem_cons_self
  · refine h.faultless (c :: cs) (fun c' hc' => ?_) reply (List.mem_cons_of_mem _ hreply)
    rcases List.mem_cons.mp hc' with rfl | hc'
    · exact hc
    · exact hcs c' hc'

theorem Works.save (h : s.Works chat d) {r : ChatRecord} (hr : r.chatId = chat) :
    ((s.save r).run d).1 = .ok () ∧ s.Works chat ((s.save r).run d).2 := by
  obtain ⟨hno, hnext⟩ :=
    h.perform (c := .save r) (congrArg some hr) (saves h.holds r).spares.holds
  refine ⟨?_, hnext⟩
  rcases save_error_io (isValidId_iff.mp (hr ▸ h.valid)) d with hok | ⟨path, cause, herror⟩
  · exact hok
  · exact absurd ⟨path, cause, by rw [Store.perform, herror]; rfl⟩ hno

theorem Works.appendLog (h : s.Works chat d) (now : Int) (text : String) :
    ((s.appendLog chat now text).run d).1 = .ok ()
      ∧ s.Works chat ((s.appendLog chat now text).run d).2 := by
  obtain ⟨hno, hnext⟩ := h.perform (c := .appendLog chat now text) rfl
    (appendLog_spares h.holds chat now text).1.holds
  refine ⟨?_, hnext⟩
  rcases appendLog_error_io (isValidId_iff.mp h.valid) now text d with hok | ⟨path, cause, herror⟩
  · exact hok
  · exact absurd ⟨path, cause, by rw [Store.perform, herror]; rfl⟩ hno

/-- A store works if the disk refuses nothing and the paths are short enough. -/
theorem Ready.works (h : Ready s q d t) (hvalid : isValidId chat = true) (hshort : s.Short chat) :
    s.Works chat d where
  holds := ⟨h.refines.tree, q, h.refines.root⟩
  valid := hvalid
  faultless cs hcs := h.performAll cs fun c hc k hk _ => by
    rw [hcs c hc, Option.some.injEq] at hk
    exact hk ▸ hshort

/-- A store that was opened on an empty directory is ready. -/
theorem ready_of_open {root : Path} {d₀ : Disk} (htree : d₀.IsTree)
    (hopen : (Store.open root).run d₀ = (.ok s, d)) (hempty : d.list root = .ok [])
    (hrefusals : d.refusals = []) : ∃ q, d.LeadsTo root q ∧ Ready s q d Table.empty := by
  obtain ⟨rfl, q, hq, hrefines⟩ := refines_of_open htree hopen hempty
  refine ⟨q, hq, hrefines, hrefusals, fun k n hdir => ?_⟩
  have habove := hrefines.tree.above (p := q ++ [k]) (r := [n]) (List.cons_ne_nil _ _)
    (by rw [append_pair, hdir]; exact Option.some_ne_none _)
  rw [hrefines.directories] at habove
  exact nomatch (if_neg (Finset.notMem_empty k)).symm.trans habove

end

/-! ## What a call leaves alone -/

/-- The disks that are left if a call is cut off. -/
def CallCutOff (s : Store) (c : Call) (d d' : Disk) : Prop :=
  match c with
  | .save r => s.SaveCutOff r d d'
  | .appendLog chat now text => s.AppendCutOff chat now text d d'
  | .load _ => d' = d
  | .chats => d' = d

/-- Nothing is different but directories of chats, and what is in them. -/
structure Confined (s : Store) (q : Place) (d d' : Disk) : Prop where
  tree : d'.IsTree
  root : d'.LeadsTo s.root q
  entries : ∀ x, d'.entry? x = d.entry? x
    ∨ ∃ k, ¬Refused k ∧ (x = q ++ [k] ∧ d'.entry? x = some .directory ∨ ∃ name, x = q ++ [k, name])

theorem Confined.refl (h : d.IsTree) (hq : d.LeadsTo s.root q) : Confined s q d d :=
  ⟨h, hq, fun _ => Or.inl rfl⟩

theorem Confined.trans {d'' : Disk} (h : Confined s q d d') (h' : Confined s q d' d'') :
    Confined s q d d'' := by
  refine ⟨h'.tree, h'.root, fun x => ?_⟩
  rcases h'.entries x with hsame | hnew
  · rcases h.entries x with hsame' | ⟨k, hk, ⟨hx, hdir⟩ | hfile⟩
    · exact Or.inl (hsame.trans hsame')
    · exact Or.inr ⟨k, hk, Or.inl ⟨hx, hsame.trans hdir⟩⟩
    · exact Or.inr ⟨k, hk, Or.inr hfile⟩
  · exact Or.inr hnew

theorem confined_of_touches (hq : d.LeadsTo s.root q) {chat : String} (hvalid : ¬Refused chat)
    {names : List String} (h : Touches q chat names d d') : Confined s q d d' := by
  refine ⟨h.within.tree, hq.mono h.within.directories, fun x => ?_⟩
  by_cases hdir : x = q ++ [chat]
  · subst hdir
    rcases h.directory with hsame | ⟨-, hnew⟩
    · exact Or.inl hsame
    · exact Or.inr ⟨chat, hvalid, Or.inl ⟨rfl, hnew⟩⟩
  · by_cases hfile : ∃ n ∈ names, x = q ++ [chat, n]
    · obtain ⟨n, -, rfl⟩ := hfile
      exact Or.inr ⟨chat, hvalid, Or.inr ⟨n, rfl⟩⟩
    · exact Or.inl (h.others x hdir fun n hn hx => hfile ⟨n, hn, hx⟩)

/-- Whatever is left of a call, it touches the files of its own chat only. -/
theorem touches_of_callCutOff (h : d.IsTree) (hq : d.LeadsTo s.root q) {c : Call}
    (hcut : s.CallCutOff c d d') :
    d' = d ∨ ∃ chat names, c.chat? = some chat ∧ ¬Refused chat ∧ Touches q chat names d d' := by
  cases c with
  | save r =>
    by_cases hr : Refused r.chatId
    · rw [CallCutOff, SaveCutOff,
        directory_of_not_isValidId fun hvalid => isValidId_iff.mp hvalid hr] at hcut
      exact Or.inl hcut
    · rcases touches_of_saveCutOff h hq (isValidId_iff.mpr hr) hcut with htouches | ⟨htouches, -⟩
      · exact Or.inr ⟨_, _, rfl, hr, htouches⟩
      · exact Or.inr ⟨_, _, rfl, hr, htouches⟩
  | load k => exact Or.inl hcut
  | appendLog k now text =>
    by_cases hr : Refused k
    · rw [CallCutOff, AppendCutOff,
        directory_of_not_isValidId fun hvalid => isValidId_iff.mp hvalid hr] at hcut
      exact Or.inl hcut
    · exact Or.inr ⟨_, _, rfl, hr, touches_of_appendCutOff h hq (isValidId_iff.mpr hr) hcut⟩
  | chats => exact Or.inl hcut

theorem callCutOff_perform (c : Call) (d : Disk) : s.CallCutOff c d (s.perform c d).2 := by
  cases c with
  | save r => exact saveCutOff_save r d
  | load k => exact rfl
  | appendLog k now text => exact appendCutOff_appendLog k now text d
  | chats => exact rfl

theorem confined_of_callCutOff (h : d.IsTree) (hq : d.LeadsTo s.root q) {c : Call}
    (hcut : s.CallCutOff c d d') : Confined s q d d' := by
  rcases touches_of_callCutOff h hq hcut with rfl | ⟨chat, names, -, hvalid, htouches⟩
  · exact Confined.refl h hq
  · exact confined_of_touches hq hvalid htouches

theorem confined_performAll (h : d.IsTree) (hq : d.LeadsTo s.root q) (cs : List Call) :
    Confined s q d (s.performAll cs d).2 := by
  induction cs generalizing d with
  | nil => exact Confined.refl h hq
  | cons c cs ih =>
    have hfirst := confined_of_callCutOff h hq (callCutOff_perform c d)
    exact hfirst.trans (ih hfirst.tree hfirst.root)

/-- No other chat sees anything of a call. -/
theorem others_of_callCutOff (h : d.IsTree) (hq : d.LeadsTo s.root q) {c : Call}
    (hcut : s.CallCutOff c d d') {k : String} (hk : c.chat? ≠ some k) :
    s.load k d' = s.load k d ∧ s.log? k d' = s.log? k d := by
  rcases touches_of_callCutOff h hq hcut with rfl | ⟨chat, names, hchat, -, htouches⟩
  · exact ⟨rfl, rfl⟩
  · have hne : k ≠ chat := fun heq => hk (heq ▸ hchat)
    exact ⟨(spares_of_within hq htouches.within).others k hne,
      log?_of_within h hq htouches.within hne⟩

/-! ## A store is a table -/

/-- **A store that was opened on an empty directory is a table**, whatever is asked of it.

It gives the replies of the table as long as no file fails, and no file fails if the disk refuses
nothing and the paths are short enough.  Wherever the last call is cut off, an id that is refused
has changed nothing, no other chat sees anything of the call, and everything that is not as it was
when the store was opened is the directory of a chat or in one. -/
theorem store_is_a_table {root : Path} {d₀ : Disk} (htree : d₀.IsTree)
    (hopen : (Store.open root).run d₀ = (.ok s, d)) (hempty : d.list root = .ok [])
    (cs : List Call) :
    ((∀ reply ∈ (s.performAll cs d).1, ¬IsFault reply) →
        (s.performAll cs d).1 = (Table.empty.performAll cs).1
          ∧ ∀ k, s.log? k (s.performAll cs d).2 = (Table.empty.performAll cs).2.log? k)
      ∧ (d.refusals = [] → (∀ c ∈ cs, ∀ k, c.chat? = some k → ¬Refused k → s.Short k) →
          ∀ reply ∈ (s.performAll cs d).1, ¬IsFault reply)
      ∧ ∃ q, d.LeadsTo root q ∧
        ∀ c d', s.CallCutOff c (s.performAll cs d).2 d' →
          (∀ k, c.chat? = some k → Refused k →
              d' = (s.performAll cs d).2
                ∧ (s.perform c (s.performAll cs d).2).1 = .error (.invalidChatId k))
            ∧ (∀ k, c.chat? ≠ some k →
                s.load k d' = s.load k (s.performAll cs d).2
                  ∧ s.log? k d' = s.log? k (s.performAll cs d).2)
            ∧ ∀ x, d'.entry? x = d.entry? x
                ∨ ∃ k, ¬Refused k
                  ∧ (x = q ++ [k] ∧ d'.entry? x = some .directory ∨ ∃ name, x = q ++ [k, name]) := by
  obtain ⟨rfl, q, hq, hrefines⟩ := refines_of_open htree hopen hempty
  refine ⟨fun hfault => ?_, fun hrefusals hshort => ?_, q, hq, fun c d' hcut => ?_⟩
  · obtain ⟨hreplies, hend⟩ := hrefines.performAll cs hfault
    exact ⟨hreplies, hend.logs⟩
  · refine Ready.performAll ⟨hrefines, hrefusals, fun k n hdir => ?_⟩ cs hshort
    have habove := hrefines.tree.above (p := q ++ [k]) (r := [n]) (List.cons_ne_nil _ _)
      (by rw [append_pair, hdir]; exact Option.some_ne_none _)
    rw [hrefines.directories] at habove
    exact nomatch (if_neg (Finset.notMem_empty k)).symm.trans habove
  · have hsofar := confined_performAll hrefines.tree hq cs
    refine ⟨fun k hk hr => ⟨?_, by rw [perform_of_refused hk hr]⟩,
      fun k hk => others_of_callCutOff hsofar.tree hsofar.root hcut hk,
      (hsofar.trans (confined_of_callCutOff hsofar.tree hsofar.root hcut)).entries⟩
    rcases touches_of_callCutOff hsofar.tree hsofar.root hcut with hsame | ⟨chat, -, hchat, hvalid, -⟩
    · exact hsame
    · rw [hk, Option.some.injEq] at hchat
      exact absurd (hchat ▸ hr) hvalid

/-- Some calls, two of which are for ids that name no directory. -/
def someCalls : List Call :=
  [ .save (recordAt "1"), .appendLog "7" 0 "Hi", .save (recordAt "2"), .load "42", .load "7"
  , .save ⟨"../42", none, none, true, []⟩, .load "", .chats ]

/-- A new store replies to them as the empty table does. -/
theorem store_is_a_table_bot :
    let opened := (Store.open ⟨"/bot"⟩).run Disk.empty
    (Store.performAll ⟨⟨"/bot"⟩⟩ someCalls opened.2).1
      = [ .ok .done, .ok .done, .ok .done, .ok (.record (recordAt "2")), .error (.notFound "7")
        , .error (.invalidChatId "../42"), .error (.invalidChatId ""), .ok (.ids ["42", "7"]) ] := by
  intro opened
  have hopened : opened.1 = .ok ⟨⟨"/bot"⟩⟩ ∧ opened.2.refusals = []
      ∧ (opened.2.list ⟨"/bot"⟩).map List.length = .ok 0 := by
    decide +kernel
  obtain ⟨hopen, hrefusals, hlength⟩ := hopened
  have hempty : opened.2.list ⟨"/bot"⟩ = .ok [] := by
    cases hl : opened.2.list ⟨"/bot"⟩ with
    | error e => rw [hl] at hlength; cases hlength
    | ok l =>
      rw [hl] at hlength
      rw [List.length_eq_zero_iff.mp (Except.ok.inj hlength)]
  have hshort : ∀ c ∈ someCalls, ∀ k ∈ c.chat?, Short ⟨⟨"/bot"⟩⟩ k := by
    simp only [someCalls, Call.chat?, Short]
    decide
  obtain ⟨hreplies, hready, -⟩ :=
    store_is_a_table Disk.isTree_empty (Prod.ext hopen rfl) hempty someCalls
  have hids : Finset.sort {"7", "42"} = ["42", "7"] := by
    rw [show ({"7", "42"} : Finset String) = ["42", "7"].toFinset by decide]
    exact (List.toFinset_sort (· ≤ ·) (by decide)).mpr (by decide)
  rw [(hreplies (hready hrefusals fun c hc k hk _ => hshort c hc k hk)).1]
  simp [someCalls, Table.performAll, Table.perform, Table.find, Table.keep, Table.add, Table.empty,
    Refused, recordAt, Except.map, hids]

end Store
end ScriptedChat
