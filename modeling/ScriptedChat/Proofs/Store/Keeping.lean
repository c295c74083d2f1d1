import ScriptedChat.Proofs.Action
import ScriptedChat.Proofs.Disk.Change
import ScriptedChat.Proofs.Store.RecordText
import ScriptedChat.Store.Basic

/-!
# What a store keeps

A store can be used on a disk that is a tree and on which the root of the store is a
directory (`Store.Holds`).  Whatever is done with such a store, it stays usable, and what
is done for one chat is not seen by any other (`Store.Spares`).

A record that was saved is the record that is loaded.  If saving it failed, at whatever
point, what is loaded is what was loaded before: the new record is written under another
name, and the two change places at once or not at all.  So for a chat a store is a place
that holds one record or none (`Store.loaded?`), and saving puts one there or does nothing.

* `Store.file?`, `Store.load_congr_file?`: the file that a record is loaded from.
* `Store.run_in_directory`, `Store.run_draft`: what saving is made of.
* `Store.saves`: saving replaces a record or leaves it alone.
* `Store.appendLog_spares`: the log has nothing to do with the records.
* `Store.holds_of_chats`: where the chats can be listed, the store can be used.
* `Store.chats_of_holds`: every chat with a record is listed, once.
-/

namespace ScriptedChat

theorem fromUTF8?_toUTF8 (s : String) : String.fromUTF8? s.toUTF8 = some s := by
  unfold String.fromUTF8?
  rw [dif_pos (by simpa [String.toUTF8_eq_toByteArray] using s.isValidUTF8)]
  simp [String.fromUTF8, String.toUTF8_eq_toByteArray]

namespace Store

variable {s : Store} {d d' : Disk}

/-! ## The places of a store -/

/-- The id of a chat with a directory is a plain name. -/
theorem isPlain_of_isValidId {chat : String} (h : isValidId chat = true) : Path.IsPlain chat := by
  simp only [isValidId, Bool.not_eq_true', Bool.or_eq_false_iff, beq_eq_false_iff_ne,
    List.any_eq_false, Bool.or_eq_true, beq_iff_eq, not_or] at h
  obtain ⟨⟨⟨hempty, hdot⟩, hdots⟩, hchars⟩ := h
  exact ⟨⟨hempty, fun hmem => (hchars '/' hmem).1.1 rfl⟩, hdot, hdots⟩

theorem isPlain_recordName : Path.IsPlain recordName := by
  refine ⟨⟨?_, ?_⟩, ?_, ?_⟩ <;> decide

theorem isPlain_draftName : Path.IsPlain draftName := by
  refine ⟨⟨?_, ?_⟩, ?_, ?_⟩ <;> decide

theorem isPlain_logName : Path.IsPlain logName := by
  refine ⟨⟨?_, ?_⟩, ?_, ?_⟩ <;> decide

theorem directory_of_isValidId {chat : String} (h : isValidId chat = true) :
    s.directory chat = .ok (s.root.join chat) := if_pos h

theorem directory_of_not_isValidId {chat : String} (h : ¬isValidId chat = true) :
    s.directory chat = .error (.invalidChatId chat) := if_neg h

/-- The path of a record. -/
def recordPath (s : Store) (chat : String) : Path := (s.root.join chat).join recordName

/-- A store can be used on a disk. -/
structure Holds (s : Store) (d : Disk) : Prop where
  tree : d.IsTree
  root : ∃ q, d.LeadsTo s.root q

/-- What the disk will refuse makes no difference. -/
theorem Holds.refusals (h : s.Holds d) (refusals : List (Option Nat)) :
    s.Holds { d with refusals } := by
  obtain ⟨htree, q, hq⟩ := h
  have hwithin := Disk.Within.refusals (q := q) htree refusals
  exact ⟨hwithin.tree, q, hq.mono hwithin.directories⟩

/-! ## Loading -/

/-- What is loaded for a chat, if something is. -/
def loaded? (s : Store) (chat : String) (d : Disk) : Option ChatRecord := (s.load chat d).toOption

theorem loaded?_eq_some {chat : String} {r : ChatRecord} :
    s.loaded? chat d = some r ↔ s.load chat d = .ok r := by
  rw [loaded?]
  cases s.load chat d with
  | error e => simp [Except.toOption]
  | ok r' => simp [Except.toOption]

/-- What is read from the file of a record, or why nothing is.  An id that is not valid has none. -/
def file? (s : Store) (chat : String) (d : Disk) : Option (Except IoError ByteArray) :=
  match s.directory chat with
  | .ok dir => some (d.readBytes (dir.join recordName))
  | .error _ => none

/-- A record is loaded from its file, and from nothing else. -/
theorem load_congr_file? {chat : String} (h : s.file? chat d' = s.file? chat d) :
    s.load chat d' = s.load chat d := by
  rw [file?, file?] at h
  rw [load, load]
  cases hdir : s.directory chat with
  | error e => rfl
  | ok dir =>
    rw [hdir] at h
    simp only [bind, Except.bind, Disk.readText, Option.some.inj h]

/-- What is read from the file depends on what is at its path, and on nothing else. -/
theorem file?_congr {chat : String}
    (hlocate : isValidId chat = true →
      d'.locate (s.recordPath chat) = d.locate (s.recordPath chat))
    (hentry : ∀ x, isValidId chat = true → d.locate (s.recordPath chat) = .ok x →
      d'.entry? x = d.entry? x) :
    s.file? chat d' = s.file? chat d := by
  by_cases hvalid : isValidId chat = true
  · have hlookup : d'.lookup (s.recordPath chat) = d.lookup (s.recordPath chat) := by
      rw [Disk.lookup, Disk.lookup, hlocate hvalid]
      cases hx : d.locate (s.recordPath chat) with
      | error e => rfl
      | ok x =>
        simp only [bind, Except.bind, hentry x hvalid hx]
    rw [recordPath] at hlookup
    rw [file?, file?, directory_of_isValidId hvalid]
    dsimp only
    rw [Disk.readBytes, Disk.readBytes, hlookup]
  · rw [file?, file?, directory_of_not_isValidId hvalid]

theorem load_congr {chat : String}
    (hlocate : isValidId chat = true →
      d'.locate (s.recordPath chat) = d.locate (s.recordPath chat))
    (hentry : ∀ x, isValidId chat = true → d.locate (s.recordPath chat) = .ok x →
      d'.entry? x = d.entry? x) :
    s.load chat d' = s.load chat d :=
  load_congr_file? (file?_congr hlocate hentry)

/-- What is loaded is read from one file. -/
theorem loaded?_eq (s : Store) (chat : String) (d : Disk) :
    s.loaded? chat d
      = match s.directory chat with
        | .ok dir =>
          ((d.readBytes (dir.join recordName)).toOption.bind String.fromUTF8?).bind
            ChatRecord.ofText?
        | .error _ => none := by
  rw [loaded?, load]
  cases s.directory chat with
  | error e => rfl
  | ok dir =>
    simp only [bind, Except.bind, Disk.readText]
    cases d.readBytes (dir.join recordName) with
    | error e => cases e <;> rfl
    | ok content =>
      dsimp only [Except.toOption, Option.bind_some]
      cases String.fromUTF8? content with
      | none => rfl
      | some text =>
        dsimp only [Option.bind_some]
        cases ChatRecord.ofText? text <;> rfl

/-- As long as the file of a record is the same, the record that is loaded is the same. -/
theorem loaded?_congr (h : d.IsTree) (h' : d'.IsTree) {q : Place} (hq : d.LeadsTo s.root q)
    (hq' : d'.LeadsTo s.root q) {chat : String}
    (hfile : d'.entry? (q ++ [chat, recordName]) = d.entry? (q ++ [chat, recordName])) :
    s.loaded? chat d' = s.loaded? chat d := by
  rw [loaded?_eq, loaded?_eq]
  by_cases hvalid : isValidId chat = true
  · rw [directory_of_isValidId hvalid]
    dsimp only
    rw [Disk.readBytes_join_join_congr h h' hq hq' (isPlain_of_isValidId hvalid)
      isPlain_recordName hfile]
  · rw [directory_of_not_isValidId hvalid]

/-- What can be loaded is a file in the directory of the chat. -/
theorem file_of_load {q : Place} (hq : d.LeadsTo s.root q) {chat : String} {r : ChatRecord}
    (h : s.load chat d = .ok r) :
    isValidId chat = true ∧ d.entry? (q ++ [chat]) = some .directory
      ∧ ∃ content, d.entry? (q ++ [chat, recordName]) = some (.file content) := by
  by_cases hvalid : isValidId chat = true
  · rw [load, directory_of_isValidId hvalid] at h
    simp only [bind, Except.bind, Disk.readText, Disk.readBytes, Disk.lookup] at h
    cases hx : d.locate ((s.root.join chat).join recordName) with
    | error e =>
      rw [hx] at h
      cases e <;> cases h
    | ok x =>
      obtain ⟨rfl, hdir⟩ := Disk.directory_of_locate_join_join hq (isPlain_of_isValidId hvalid)
        isPlain_recordName hx
      refine ⟨hvalid, hdir, ?_⟩
      rw [hx] at h
      cases he : d.entry? (q ++ [chat, recordName]) with
      | none => simp only [he] at h; cases h
      | some e =>
        cases e with
        | directory => simp only [he] at h; cases h
        | file content => exact ⟨content, rfl⟩
  · rw [load, directory_of_not_isValidId hvalid] at h
    cases h

/-- A file that holds a record. -/
theorem file?_of_file {chat : String} {content : ByteArray} (hvalid : isValidId chat = true)
    {x : Place} (hx : d.locate (s.recordPath chat) = .ok x)
    (he : d.entry? x = some (.file content)) : s.file? chat d = some (.ok content) := by
  rw [recordPath] at hx
  rw [file?, directory_of_isValidId hvalid]
  simp only [bind, Except.bind, Disk.readBytes, Disk.lookup, hx, he]

/-- A record is loaded from a file that holds its text. -/
theorem load_of_file? {chat : String} {r : ChatRecord}
    (h : s.file? chat d = some (.ok r.toText.toUTF8)) : s.load chat d = .ok r := by
  rw [file?] at h
  rw [load]
  cases hdir : s.directory chat with
  | error e =>
    rw [hdir] at h
    cases h
  | ok dir =>
    rw [hdir] at h
    simp only [bind, Except.bind, Disk.readText, Option.some.inj h, fromUTF8?_toUTF8,
      ChatRecord.ofText?_toText]

theorem load_of_file {chat : String} {r : ChatRecord} (hvalid : isValidId chat = true) {x : Place}
    (hx : d.locate (s.recordPath chat) = .ok x)
    (he : d.entry? x = some (.file r.toText.toUTF8)) : s.load chat d = .ok r :=
  load_of_file? (file?_of_file hvalid hx he)

/-! ## What is done for one chat -/

/-- What was done for a chat leaves the store usable, and no other chat sees it. -/
structure Spares (s : Store) (chat : String) (d d' : Disk) : Prop where
  holds : s.Holds d'
  others : ∀ k, k ≠ chat → s.load k d' = s.load k d

theorem Spares.refl (h : s.Holds d) (chat : String) : s.Spares chat d d := ⟨h, fun _ _ => rfl⟩

theorem Spares.trans {chat : String} {d'' : Disk} (h : s.Spares chat d d')
    (h' : s.Spares chat d' d'') : s.Spares chat d d'' :=
  ⟨h'.holds, fun k hk => (h'.others k hk).trans (h.others k hk)⟩

/-- A change below the directory of a chat leaves the files of all other records as they are. -/
theorem file?_of_within {q : Place} (hq : d.LeadsTo s.root q) {chat k : String}
    (h : Disk.Within (q ++ [chat]) d d') (hk : k ≠ chat) : s.file? k d' = s.file? k d := by
  have hq' := hq.mono h.directories
  have hout : ∀ rest, ¬q ++ [chat] <+: q ++ k :: rest := by
    intro rest hpre
    rw [List.prefix_append_right_inj] at hpre
    obtain ⟨l, hl⟩ := hpre
    exact hk (List.cons.inj hl).1.symm
  refine file?_congr (fun hvalid => ?_) (fun x hvalid hx => ?_)
  · exact Disk.locate_join_join_congr hq hq' (isPlain_of_isValidId hvalid) isPlain_recordName
      (h.outside _ (hout []))
  · obtain ⟨rfl, -⟩ := Disk.directory_of_locate_join_join hq (isPlain_of_isValidId hvalid)
      isPlain_recordName hx
    exact h.outside _ (hout [recordName])

/-- A change below the directory of a chat spares all other chats. -/
theorem spares_of_within {q : Place} (hq : d.LeadsTo s.root q) {chat : String}
    (h : Disk.Within (q ++ [chat]) d d') : s.Spares chat d d' :=
  ⟨⟨h.tree, q, hq.mono h.directories⟩, fun _ hk => load_congr_file? (file?_of_within hq h hk)⟩

/-- What was done at the path `path` for a chat. -/
theorem attempt_run (path : Path) (op : Disk → Except IoError Unit × Disk) (d : Disk) :
    (attempt path op).run d
      = match op d with
        | (.ok (), d') => (.ok (), d')
        | (.error e, d') => (.error (.io path e), d') := by
  show (match op d with
    | (.ok (), d) => (Except.ok (), d)
    | (.error e, d) => (Except.error (StoreError.io path e), d)) = _
  rcases op d with ⟨_ | _, d'⟩ <;> rfl

theorem attempt_snd (path : Path) (op : Disk → Except IoError Unit × Disk) (d : Disk) :
    ((attempt path op).run d).2 = (op d).2 := by
  rw [attempt_run]
  rcases op d with ⟨_ | _, d'⟩ <;> rfl

theorem attempt_ok {path : Path} (op : Disk → Except IoError Unit × Disk)
    (h : (op d).1 = .ok ()) : (attempt path op).run d = (.ok (), (op d).2) := by
  rw [attempt_run, ← Prod.mk.eta (p := op d), h]

theorem attempt_error {path : Path} (op : Disk → Except IoError Unit × Disk) {e : IoError}
    (h : (op d).1 = .error e) : (attempt path op).run d = (.error (.io path e), (op d).2) := by
  rw [attempt_run, ← Prod.mk.eta (p := op d), h]

theorem attempt_eq_ok {path : Path} {op : Disk → Except IoError Unit × Disk} :
    ((attempt path op).run d).1 = .ok () ↔ (op d).1 = .ok () := by
  refine ⟨fun h => ?_, fun h => congrArg Prod.fst (attempt_ok op h)⟩
  cases hop : (op d).1 with
  | ok _ => rfl
  | error e =>
    rw [attempt_error op hop] at h
    cases h

/-! ## Saving and logging -/

/-- Saving happens in the directory of the chat, by way of a draft. -/
theorem save_run_in_directory {r : ChatRecord} (h : isValidId r.chatId = true) (d : Disk) :
    (s.save r).run d
      = (attempt (s.root.join r.chatId) (·.makeDirectories (s.root.join r.chatId)) >>= fun _ =>
          attempt ((s.root.join r.chatId).join draftName)
              (·.write ((s.root.join r.chatId).join draftName) r.toText.toUTF8) >>= fun _ =>
            attempt ((s.root.join r.chatId).join recordName)
              (·.rename ((s.root.join r.chatId).join draftName)
                ((s.root.join r.chatId).join recordName))).run d := by
  rw [save, directory_of_isValidId h]
  rfl

/-- Adding to the log happens there too. -/
theorem appendLog_run_in_directory {chat : String} (h : isValidId chat = true) (now : Int)
    (text : String) (d : Disk) :
    (s.appendLog chat now text).run d
      = (attempt (s.root.join chat) (·.makeDirectories (s.root.join chat)) >>= fun _ =>
          attempt ((s.root.join chat).join logName)
            (·.append ((s.root.join chat).join logName) (logLine now text).toUTF8)).run d := by
  rw [appendLog, directory_of_isValidId h]
  rfl

/-- An id that is not valid has no directory, and nothing is done for it. -/
theorem save_run_of_not_isValidId {r : ChatRecord} (h : ¬isValidId r.chatId = true) (d : Disk) :
    (s.save r).run d = (.error (.invalidChatId r.chatId), d) := by
  rw [save, directory_of_not_isValidId h]
  rfl

theorem appendLog_run_of_not_isValidId {chat : String} (h : ¬isValidId chat = true) (now : Int)
    (text : String) (d : Disk) :
    (s.appendLog chat now text).run d = (.error (.invalidChatId chat), d) := by
  rw [appendLog, directory_of_not_isValidId h]
  rfl

/-- What saving does for a chat: it is not seen by any other chat; if it succeeds, the record
is what is loaded, and if it fails, what was loaded before still is. -/
structure Saves (s : Store) (r : ChatRecord) (d : Disk) (result : Except StoreError Unit × Disk) :
    Prop where
  spares : s.Spares r.chatId d result.2
  load : result.1 = .ok () → s.load r.chatId result.2 = .ok r
  loaded : ∀ e, result.1 = .error e → s.loaded? r.chatId result.2 = s.loaded? r.chatId d

/-- If a record could not be saved, everything that is loaded is what was loaded before. -/
theorem Saves.loaded_all {r : ChatRecord} {e : StoreError} (h : s.Saves r d (.error e, d'))
    (k : String) : s.loaded? k d' = s.loaded? k d := by
  by_cases hk : k = r.chatId
  · rw [hk]
    exact h.loaded e rfl
  · rw [loaded?, loaded?, h.spares.others k hk]

/-- What is to be done in the directory of a chat is done there, or the directory could not be
made.  Up to then nothing but the directory is new. -/
theorem run_in_directory {q : Place} (h : d.IsTree) (hq : d.LeadsTo s.root q) {chat : String}
    (hchat : Path.IsPlain chat) (action : DiskAction Unit) :
    ∃ d₁, Disk.Within (q ++ [chat]) d d₁ ∧ (∀ x, x ≠ q ++ [chat] → d₁.entry? x = d.entry? x)
      ∧ ((∃ e, (attempt (s.root.join chat) (·.makeDirectories (s.root.join chat))
              >>= fun _ => action).run d = (.error e, d₁))
          ∨ d₁.LeadsTo (s.root.join chat) (q ++ [chat])
            ∧ (attempt (s.root.join chat) (·.makeDirectories (s.root.join chat))
                >>= fun _ => action).run d = action.run d₁) := by
  obtain ⟨hin, hother, hok, -⟩ := Disk.makeDirectories_join h hq hchat
  refine ⟨(d.makeDirectories (s.root.join chat)).2, hin, hother, ?_⟩
  cases hmake : (d.makeDirectories (s.root.join chat)).1 with
  | error e =>
    exact Or.inl ⟨_, Action.run_bind_error
      (attempt_error (·.makeDirectories (s.root.join chat)) hmake) _⟩
  | ok _ =>
    exact Or.inr ⟨hok hmake, Action.run_bind_ok
      (attempt_ok (·.makeDirectories (s.root.join chat)) hmake) _⟩

/-- A record is written as a draft first, and the draft takes its place at once or not at all. -/
theorem run_draft {q : Place} {dir : Path} (h : d.IsTree) (hdir : d.LeadsTo dir q)
    (content : ByteArray) :
    ∃ d', Disk.Within q d d'
      ∧ (∀ x, x ≠ q ++ [draftName] → x ≠ q ++ [recordName] → d'.entry? x = d.entry? x)
      ∧ ((∃ e, (attempt (dir.join draftName) (·.write (dir.join draftName) content) >>= fun _ =>
                attempt (dir.join recordName)
                  (·.rename (dir.join draftName) (dir.join recordName))).run d = (.error e, d')
            ∧ d'.entry? (q ++ [recordName]) = d.entry? (q ++ [recordName]))
          ∨ (attempt (dir.join draftName) (·.write (dir.join draftName) content) >>= fun _ =>
                attempt (dir.join recordName)
                  (·.rename (dir.join draftName) (dir.join recordName))).run d = (.ok (), d')
            ∧ d'.locate (dir.join recordName) = .ok (q ++ [recordName])
            ∧ d'.entry? (q ++ [recordName]) = some (.file content)) := by
  have hne : q ++ [recordName] ≠ q ++ [draftName] := by
    rw [Ne, List.append_cancel_left_eq]
    decide
  obtain ⟨hwrIn, hwrOther, hwrOk⟩ :=
    Disk.write_join h hdir isPlain_draftName (List.prefix_append q [draftName]) content
  cases hwr : (d.write (dir.join draftName) content).1 with
  | error e =>
    refine ⟨_, hwrIn, fun x hx _ => hwrOther x hx, Or.inl ⟨_, Action.run_bind_error
      (attempt_error (·.write (dir.join draftName) content) hwr) _, hwrOther _ hne⟩⟩
  | ok _ =>
    have hdraft := hwrOk hwr
    rw [Action.run_bind_ok (attempt_ok (·.write (dir.join draftName) content) hwr)]
    generalize (d.write (dir.join draftName) content).2 = d₁ at *
    have hdir₁ := hdir.mono hwrIn.directories
    obtain ⟨hrnIn, hrnOk, hrnError, hrnOther⟩ := Disk.rename_join hwrIn.tree hdir₁ isPlain_draftName
      isPlain_recordName (by decide) (List.prefix_refl q)
    cases hrn : (d₁.rename (dir.join draftName) (dir.join recordName)).1 with
    | error e =>
      exact ⟨_, hwrIn.trans hrnIn,
        fun x hx hx' => (hrnOther x hx hx').trans (hwrOther x hx), Or.inl ⟨_,
        attempt_error (·.rename (dir.join draftName) (dir.join recordName)) hrn,
        (hrnError e hrn _).trans (hwrOther _ hne)⟩⟩
    | ok _ =>
      obtain ⟨hlocate, hentry⟩ := hrnOk hrn
      refine ⟨_, hwrIn.trans hrnIn, fun x hx hx' => (hrnOther x hx hx').trans (hwrOther x hx),
        Or.inr ⟨attempt_ok (·.rename (dir.join draftName) (dir.join recordName)) hrn, ?_,
          hentry.trans hdraft⟩⟩
      rw [Disk.locate_join_congr hdir₁ (hdir₁.mono hrnIn.directories) isPlain_recordName]
      exact hlocate

/-- **Saving replaces a record or leaves it alone**, at whatever point it stops. -/
theorem saves (h : s.Holds d) (r : ChatRecord) : s.Saves r d ((s.save r).run d) := by
  obtain ⟨htree, q, hq⟩ := h
  by_cases hvalid : isValidId r.chatId = true
  · have hrecord : q ++ [r.chatId] ++ [recordName] = q ++ [r.chatId, recordName] :=
      List.append_assoc _ _ _
    -- A failure, whose disk has the file of the record that there was.
    have hfailed : ∀ (e : StoreError) (d₁ : Disk), Disk.Within (q ++ [r.chatId]) d d₁ →
        d₁.entry? (q ++ [r.chatId, recordName]) = d.entry? (q ++ [r.chatId, recordName]) →
        s.Saves r d (.error e, d₁) := fun e d₁ hd hfile =>
      ⟨spares_of_within hq hd, fun hok => (by cases hok),
        fun _ _ => loaded?_congr htree hd.tree hq (hq.mono hd.directories) hfile⟩
    rw [save_run_in_directory hvalid]
    obtain ⟨d₁, hin, hother, ⟨e, hfail⟩ | ⟨hleads, hdone⟩⟩ :=
      run_in_directory htree hq (isPlain_of_isValidId hvalid) (attempt _ _ >>= fun _ => attempt _ _)
    · rw [hfail]
      exact hfailed e d₁ hin (hother _ (by simp))
    · rw [hdone]
      have hfile := hother (q ++ [r.chatId, recordName]) (by simp)
      obtain ⟨d', hin', -, ⟨e, hfail, hsame⟩ | ⟨hok, hlocate, hentry⟩⟩ :=
        run_draft hin.tree hleads r.toText.toUTF8
      · rw [hfail]
        rw [hrecord] at hsame
        exact hfailed e d' (hin.trans hin') (hsame.trans hfile)
      · rw [hok]
        refine ⟨spares_of_within hq (hin.trans hin'), fun _ => ?_, fun _ herr => by cases herr⟩
        exact load_of_file hvalid hlocate hentry
  · rw [save_run_of_not_isValidId hvalid]
    exact ⟨Spares.refl ⟨htree, q, hq⟩ _, fun hok => (by cases hok), fun _ _ => rfl⟩

/-- Adding to the log of a chat is not seen by any other chat, and no record is changed. -/
theorem appendLog_spares (h : s.Holds d) (chat : String) (now : Int) (text : String) :
    s.Spares chat d ((s.appendLog chat now text).run d).2
      ∧ s.loaded? chat ((s.appendLog chat now text).run d).2 = s.loaded? chat d := by
  obtain ⟨htree, q, hq⟩ := h
  by_cases hvalid : isValidId chat = true
  · have hneLog : q ++ [chat, recordName] ≠ q ++ [chat] ++ [logName] := by
      rw [List.append_assoc, Ne, List.append_cancel_left_eq]
      intro heq
      exact absurd (List.cons.inj (List.cons.inj heq).2).1 (by decide)
    have hdone : ∀ d₁, Disk.Within (q ++ [chat]) d d₁ →
        d₁.entry? (q ++ [chat, recordName]) = d.entry? (q ++ [chat, recordName]) →
        s.Spares chat d d₁ ∧ s.loaded? chat d₁ = s.loaded? chat d := fun d₁ hd hfile =>
      ⟨spares_of_within hq hd, loaded?_congr htree hd.tree hq (hq.mono hd.directories) hfile⟩
    rw [appendLog_run_in_directory hvalid]
    obtain ⟨d₁, hin, hother, ⟨e, hfail⟩ | ⟨hleads, hthere⟩⟩ :=
      run_in_directory htree hq (isPlain_of_isValidId hvalid) (attempt _ _)
    · rw [hfail]
      exact hdone d₁ hin (hother _ (by simp))
    · obtain ⟨hapIn, hapOther⟩ := Disk.append_join hin.tree hleads isPlain_logName
        (List.prefix_append (q ++ [chat]) [logName]) (logLine now text).toUTF8
      rw [hthere, attempt_snd]
      exact hdone _ (hin.trans hapIn) ((hapOther _ hneLog).trans (hother _ (by simp)))
  · rw [appendLog_run_of_not_isValidId hvalid]
    exact ⟨Spares.refl ⟨htree, q, hq⟩ _, rfl⟩

/-! ## Listing -/

/-- No directory is found more often than it is listed. -/
theorem directories_sublist (l : List (String × Entry)) :
    List.Sublist
      (l.filterMap fun x =>
        match x.2 with
        | .directory => some x.1
        | .file _ => none)
      (l.map (·.1)) := by
  induction l with
  | nil => exact List.Sublist.refl _
  | cons x l ih =>
    obtain ⟨n, _ | _⟩ := x
    · exact ih.cons n
    · exact ih.cons_cons n

/-- The chats that are listed are the directories in the root, each of them once. -/
theorem chats_eq_ok {q : Place} (h : d.IsTree) (hq : d.LeadsTo s.root q) :
    ∃ keys, s.chats d = .ok keys ∧ keys.Nodup
      ∧ ∀ k, k ∈ keys ↔ d.entry? (q ++ [k]) = some .directory := by
  obtain ⟨l, hl, hnodup, hmem⟩ := Disk.list_of_leadsTo h hq
  rw [chats, hl]
  refine ⟨_, rfl, ?_, fun k => ?_⟩
  · exact (List.mergeSort_perm _ _).nodup_iff.mpr (hnodup.sublist (directories_sublist l))
  · rw [(List.mergeSort_perm _ _).mem_iff, List.mem_filterMap, ← hmem]
    constructor
    · rintro ⟨⟨n, _ | _⟩, hx, hk⟩
      · cases hk
      · rw [← Option.some.inj hk]
        exact hx
    · intro hk
      exact ⟨_, hk, rfl⟩

/-- A store whose chats can be listed can be used. -/
theorem holds_of_chats {keys : List String} (h : d.IsTree) (hk : s.chats d = .ok keys) :
    s.Holds d := by
  rw [chats, Disk.list] at hk
  cases hq : d.locate s.root with
  | error e =>
    rw [hq] at hk
    cases hk
  | ok q =>
    rw [hq] at hk
    simp only [bind, Except.bind] at hk
    refine ⟨h, q, hq, ?_⟩
    cases he : d.entry? q with
    | none => rw [he] at hk; cases hk
    | some e =>
      cases e with
      | file content => rw [he] at hk; cases hk
      | directory => rfl

/-- **Every chat with a record is listed, and no chat is listed twice.** -/
theorem chats_of_holds (h : s.Holds d) :
    ∃ keys, s.chats d = .ok keys ∧ keys.Nodup ∧ ∀ k r, s.load k d = .ok r → k ∈ keys := by
  obtain ⟨htree, q, hq⟩ := h
  obtain ⟨keys, hkeys, hnodup, hmem⟩ := chats_eq_ok htree hq
  exact ⟨keys, hkeys, hnodup, fun k r hr => (hmem k).mpr (file_of_load hq hr).2.1⟩

end Store
end ScriptedChat
