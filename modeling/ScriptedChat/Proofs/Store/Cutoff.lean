import ScriptedChat.Proofs.Disk.Outcome
import ScriptedChat.Proofs.Store.Logs

/-!
# Saving is atomic

The program may be stopped at any point of what it does with the store, and each of its steps may
fail.  Both leave a disk that nobody has cleaned up, and whoever loads a record from it must find
the old one or the new one.

Saving is three steps: the directory of the chat is made, the draft is written, and the draft takes
the name of the record.  They are listed, so that saving can be cut off behind any of them, or in
the middle of a file that is being written (`Store.CutOff`); that a name is given at once is what
the disk promises.  Up to the last step the only things that are new are the directory, if it was
not there, and the draft (`Store.Touches`).  Neither is seen by who loads the record, not even in
the error that is told if there is none.

* `Store.saveSteps`, `Store.appendSteps`, `Store.CutOff`: where it can be cut off.
* `Store.Touches`: which files can have changed.
* `Store.file?_of_touches`, `Store.log?_of_touches`: what does not depend on them.
* `Store.run_take_cons`, `Store.run_saveSteps`, `Store.run_appendSteps`: what some of the steps do.
* `Store.save_is_atomic`: the old record or the new one.
-/

namespace ScriptedChat
namespace Store

/-! ## Steps -/

/-- Does some things one after the other, until one of them fails. -/
def inTurn : List (DiskAction Unit) → DiskAction Unit
  | [] => pure ()
  | x :: steps => x >>= fun _ => inTurn steps

/-- The steps of saving, in the directory of a chat. -/
def saveSteps (dir : Path) (content : ByteArray) : List (DiskAction Unit) :=
  [ attempt dir (·.makeDirectories dir)
  , attempt (dir.join draftName) (·.write (dir.join draftName) content)
  , attempt (dir.join recordName) (·.rename (dir.join draftName) (dir.join recordName)) ]

/-- The steps of adding to the log, in the directory of a chat. -/
def appendSteps (dir : Path) (line : ByteArray) : List (DiskAction Unit) :=
  [ attempt dir (·.makeDirectories dir)
  , attempt (dir.join logName) (·.append (dir.join logName) line) ]

/-- The disks that are left if some steps, the second of which writes a content, are cut off. -/
inductive CutOff (steps : ByteArray → List (DiskAction Unit)) (content : ByteArray) (d : Disk) :
    Disk → Prop
  /-- After so many steps; after all of them, it is not cut off. -/
  | between (k : Nat) : CutOff steps content d ((inTurn ((steps content).take k)).run d).2
  /-- After so many bytes have been written. -/
  | writing (n : Nat) :
      CutOff steps content d ((inTurn ((steps (content.extract 0 n)).take 2)).run d).2

/-- The disks that are left if saving is cut off.  Nothing is done for an id that is not valid. -/
def SaveCutOff (s : Store) (r : ChatRecord) (d d' : Disk) : Prop :=
  match s.directory r.chatId with
  | .ok dir => CutOff (saveSteps dir) r.toText.toUTF8 d d'
  | .error _ => d' = d

/-- The disks that are left if adding to a log is cut off. -/
def AppendCutOff (s : Store) (chat : String) (now : Int) (text : String) (d d' : Disk) : Prop :=
  match s.directory chat with
  | .ok dir => CutOff (appendSteps dir) (logLine now text).toUTF8 d d'
  | .error _ => d' = d

variable {s : Store} {d d' d'' : Disk} {q : Place} {chat : String}

theorem run_inTurn_cons_ok {x : DiskAction Unit} {d₁ : Disk} (h : x.run d = (.ok (), d₁))
    (steps : List (DiskAction Unit)) : (inTurn (x :: steps)).run d = (inTurn steps).run d₁ :=
  Action.run_bind_ok h _

theorem run_inTurn_cons_error {x : DiskAction Unit} {d₁ : Disk} {e : StoreError}
    (h : x.run d = (.error e, d₁)) (steps : List (DiskAction Unit)) :
    (inTurn (x :: steps)).run d = (.error e, d₁) :=
  Action.run_bind_error h _

theorem inTurn_singleton (x : DiskAction Unit) : inTurn [x] = x := bind_pure x

/-- What stops steps that work on files is an error of the files. -/
theorem run_inTurn_of_attempts {steps : List (DiskAction Unit)}
    (h : ∀ x ∈ steps, ∃ path op, x = attempt path op) (d : Disk) :
    ((inTurn steps).run d).1 = .ok ()
      ∨ ∃ path cause, ((inTurn steps).run d).1 = .error (.io path cause) := by
  induction steps generalizing d with
  | nil => exact Or.inl rfl
  | cons x steps ih =>
    obtain ⟨path, op, rfl⟩ := h x List.mem_cons_self
    cases hop : (op d).1 with
    | error e =>
      rw [run_inTurn_cons_error (attempt_error op hop)]
      exact Or.inr ⟨path, e, rfl⟩
    | ok _ =>
      rw [run_inTurn_cons_ok (attempt_ok op hop)]
      exact ih (fun y hy => h y (List.mem_cons_of_mem _ hy)) _

/-- Saving is its steps. -/
theorem save_run_of_isValidId {r : ChatRecord} (h : isValidId r.chatId = true) (d : Disk) :
    (s.save r).run d
      = (inTurn (saveSteps (s.root.join r.chatId) r.toText.toUTF8)).run d := by
  rw [save_run_in_directory h, saveSteps, inTurn, inTurn, inTurn_singleton]

/-- And so is adding to a log. -/
theorem appendLog_run_of_isValidId (h : isValidId chat = true) (now : Int) (text : String)
    (d : Disk) :
    (s.appendLog chat now text).run d
      = (inTurn (appendSteps (s.root.join chat) (logLine now text).toUTF8)).run d := by
  rw [appendLog_run_in_directory h, appendSteps, inTurn, inTurn_singleton]

/-! ## What is touched -/

/-- Nothing is different but some files in the directory of a chat, and this directory may be
new. -/
structure Touches (q : Place) (chat : String) (names : List String) (d d' : Disk) : Prop where
  within : Disk.Within (q ++ [chat]) d d'
  directory : d'.entry? (q ++ [chat]) = d.entry? (q ++ [chat])
    ∨ d.entry? (q ++ [chat]) = none ∧ d'.entry? (q ++ [chat]) = some .directory
  others : ∀ x, x ≠ q ++ [chat] → (∀ n ∈ names, x ≠ q ++ [chat, n]) → d'.entry? x = d.entry? x
  /-- No other directory is new. -/
  directories : ∀ x, x ≠ q ++ [chat] → d'.entry? x = some .directory →
    d.entry? x = some .directory

namespace Touches

variable {names : List String}

theorem refl (h : d.IsTree) (q : Place) (chat : String) (names : List String) :
    Touches q chat names d d :=
  ⟨Disk.Within.refl h, Or.inl rfl, fun _ _ _ => rfl, fun _ _ hx => hx⟩

theorem trans (h : Touches q chat names d d') (h' : Touches q chat names d' d'') :
    Touches q chat names d d'' := by
  refine ⟨h.within.trans h'.within, ?_, fun x hx hn => (h'.others x hx hn).trans (h.others x hx hn),
    fun x hx hdir => h.directories x hx (h'.directories x hx hdir)⟩
  rcases h.directory with hsame | ⟨hnone, hnew⟩
  · rcases h'.directory with hsame' | ⟨hnone', hnew'⟩
    · exact Or.inl (hsame'.trans hsame)
    · exact Or.inr ⟨hsame ▸ hnone', hnew'⟩
  · exact Or.inr ⟨hnone, h'.within.directories _ hnew⟩

theorem mono {names' : List String} (h : Touches q chat names d d')
    (hsub : ∀ n ∈ names, n ∈ names') : Touches q chat names' d d' :=
  ⟨h.within, h.directory, fun x hx hn => h.others x hx fun n hmem => hn n (hsub n hmem),
    h.directories⟩

/-- A change that touches no entry. -/
theorem of_entry (h : Disk.Within (q ++ [chat]) d d') (hsame : ∀ x, d'.entry? x = d.entry? x)
    (names : List String) : Touches q chat names d d' :=
  ⟨h, Or.inl (hsame _), fun x _ _ => hsame x, fun x _ hdir => hsame x ▸ hdir⟩

/-- A file of the chat that is not touched is the same. -/
theorem file (h : Touches q chat names d d') {name : String} (hname : name ∉ names) :
    d'.entry? (q ++ [chat, name]) = d.entry? (q ++ [chat, name]) := by
  refine h.others _ (by simp) fun n hn heq => hname ?_
  rw [List.append_cancel_left_eq] at heq
  rw [(List.cons.inj (List.cons.inj heq).2).1]
  exact hn

end Touches

theorem touches_makeDirectories (h : d.IsTree) (hq : d.LeadsTo s.root q)
    (hchat : Path.IsPlain chat) (names : List String) :
    Touches q chat names d (d.makeDirectories (s.root.join chat)).2 := by
  obtain ⟨hin, hother, -, -⟩ := Disk.makeDirectories_join h hq hchat
  refine ⟨hin, Disk.makeDirectories_join_entry hq hchat, fun x hx _ => hother x hx,
    fun x hx hdir => ?_⟩
  rw [hother x hx] at hdir
  exact hdir

variable {dir : Path} {name : String} {names : List String}

/-- A file operation in the directory of a chat touches its own files only. -/
theorem touches_of_files {q : Place} (hin : Disk.Within (q ++ [chat]) d d')
    (hdir : d.LeadsTo dir (q ++ [chat]))
    (hother : ∀ x, (∀ n ∈ names, x ≠ q ++ [chat, n]) → d'.entry? x = d.entry? x)
    (hdirectories : ∀ x, d'.entry? x = some .directory → d.entry? x = some .directory) :
    Touches q chat names d d' :=
  ⟨hin, Or.inl ((hin.directories _ hdir.directory).trans hdir.directory.symm),
    fun x _ hx => hother x hx, fun x _ hx => hdirectories x hx⟩

theorem append_pair (q : Place) (chat name : String) : q ++ [chat] ++ [name] = q ++ [chat, name] :=
  List.append_assoc _ _ _

theorem touches_write (h : d.IsTree) (hdir : d.LeadsTo dir (q ++ [chat]))
    (hname : Path.IsPlain name) (hmem : name ∈ names) (content : ByteArray) :
    Touches q chat names d (d.write (dir.join name) content).2 := by
  obtain ⟨hin, hother, -⟩ := Disk.write_join h hdir hname (List.prefix_append _ [name]) content
  refine touches_of_files hin hdir (fun x hx => hother x ?_) fun x => Disk.directory_of_write h
  rw [append_pair]
  exact hx name hmem

theorem touches_append (h : d.IsTree) (hdir : d.LeadsTo dir (q ++ [chat]))
    (hname : Path.IsPlain name) (hmem : name ∈ names) (content : ByteArray) :
    Touches q chat names d (d.append (dir.join name) content).2 := by
  obtain ⟨hin, hother⟩ := Disk.append_join h hdir hname (List.prefix_append _ [name]) content
  refine touches_of_files hin hdir (fun x hx => hother x ?_) fun x => Disk.directory_of_append h
  rw [append_pair]
  exact hx name hmem

theorem touches_rename (h : d.IsTree) (hdir : d.LeadsTo dir (q ++ [chat])) {a b : String}
    (ha : Path.IsPlain a) (hb : Path.IsPlain b) (hab : a ≠ b) (hmem : a ∈ names)
    (hmem' : b ∈ names) : Touches q chat names d (d.rename (dir.join a) (dir.join b)).2 := by
  obtain ⟨hin, -, -, hother⟩ :=
    Disk.rename_join h hdir ha hb hab (List.prefix_refl (q ++ [chat]))
  refine touches_of_files hin hdir (fun x hx => ?_) fun x => Disk.directory_of_rename h
  rw [append_pair, append_pair] at hother
  exact hother x (hx a hmem) (hx b hmem')

/-! ## What is seen -/

/-- The file of a record is read as before if it is not touched, and if there is none, the error is
the same. -/
theorem file?_of_touches (h : d.IsTree) (hq : d.LeadsTo s.root q)
    (htouches : Touches q chat names d d') (hname : recordName ∉ names) (k : String) :
    s.file? k d' = s.file? k d := by
  have hq' := hq.mono htouches.within.directories
  by_cases hk : k = chat
  · subst hk
    by_cases hvalid : isValidId k = true
    · have hlookup := Disk.lookup_join_join_congr h hq hq' (isPlain_of_isValidId hvalid)
        isPlain_recordName (by decide) htouches.directory (htouches.file hname)
      rw [file?, file?, directory_of_isValidId hvalid]
      dsimp only
      rw [Disk.readBytes, Disk.readBytes, hlookup]
    · rw [file?, file?, directory_of_not_isValidId hvalid]
  · exact file?_of_within hq htouches.within hk

/-- So a record is loaded as before if its file is not touched. -/
theorem load_of_touches (h : d.IsTree) (hq : d.LeadsTo s.root q)
    (htouches : Touches q chat names d d') (hname : recordName ∉ names) (k : String) :
    s.load k d' = s.load k d :=
  load_congr_file? (file?_of_touches h hq htouches hname k)

/-- A log is found as before if its file is not touched. -/
theorem log?_of_touches (h : d.IsTree) (hq : d.LeadsTo s.root q)
    (htouches : Touches q chat names d d') (hname : logName ∉ names) (k : String) :
    s.log? k d' = s.log? k d := by
  by_cases hk : k = chat
  · subst hk
    exact log?_congr h htouches.within.tree hq (hq.mono htouches.within.directories)
      (htouches.file hname)
  · exact log?_of_within h hq htouches.within hk

/-! ## What some of the steps do -/

/-- To do some of the steps is to do nothing, or the first one fails, or it is done and so are some
of the others. -/
theorem run_take_cons (path : Path) (op : Disk → Except IoError Unit × Disk)
    (steps : List (DiskAction Unit)) (k : Nat) (d : Disk) :
    (k = 0 ∧ (inTurn ((attempt path op :: steps).take k)).run d = (.ok (), d))
      ∨ (∃ e, (op d).1 = .error e
        ∧ (inTurn ((attempt path op :: steps).take k)).run d = (.error (.io path e), (op d).2))
      ∨ ∃ n, k = n + 1 ∧ (op d).1 = .ok ()
        ∧ (inTurn ((attempt path op :: steps).take k)).run d
          = (inTurn (steps.take n)).run (op d).2 := by
  cases k with
  | zero => exact Or.inl ⟨rfl, rfl⟩
  | succ n =>
    rw [List.take_succ_cons]
    cases hop : (op d).1 with
    | error e => exact Or.inr (Or.inl ⟨e, rfl, run_inTurn_cons_error (attempt_error op hop) _⟩)
    | ok _ => exact Or.inr (Or.inr ⟨n, rfl, rfl, run_inTurn_cons_ok (attempt_ok op hop) _⟩)

/-- The steps of saving up to some point touch the draft only; all of them, if none fails, put the
new content into the place of the record. -/
theorem run_saveSteps (h : d.IsTree) (hq : d.LeadsTo s.root q) (hchat : Path.IsPlain chat)
    (content : ByteArray) (k : Nat) :
    let p := (inTurn ((saveSteps (s.root.join chat) content).take k)).run d
    Touches q chat [draftName] d p.2 ∧ (2 < k → ∃ e, p.1 = .error e)
      ∨ 2 < k ∧ p.1 = .ok () ∧ Touches q chat [draftName, recordName] d p.2
        ∧ p.2.locate (s.recordPath chat) = .ok (q ++ [chat, recordName])
        ∧ Disk.entry? p.2 (q ++ [chat, recordName]) = some (.file content) := by
  rw [saveSteps]
  -- The directory.
  have hmade := touches_makeDirectories h hq hchat [draftName]
  obtain ⟨-, -, hleads, -⟩ := Disk.makeDirectories_join h hq hchat
  rcases run_take_cons _ (·.makeDirectories (s.root.join chat)) _ k d with
    ⟨rfl, hrun⟩ | ⟨e, -, hrun⟩ | ⟨k, rfl, hmk, hrun⟩
  · rw [hrun]
    exact Or.inl ⟨Touches.refl h q chat _, fun hk => absurd hk (by decide)⟩
  · rw [hrun]
    exact Or.inl ⟨hmade, fun _ => ⟨_, rfl⟩⟩
  rw [hrun]
  have hdir := hleads hmk
  generalize (d.makeDirectories (s.root.join chat)).2 = d₁ at hmade hdir ⊢
  -- The draft.
  have hwritten := hmade.trans (touches_write hmade.within.tree hdir isPlain_draftName
    (List.mem_singleton_self draftName) content)
  obtain ⟨hwrIn, -, hdraft⟩ := Disk.write_join hmade.within.tree hdir isPlain_draftName
    (List.prefix_append (q ++ [chat]) [draftName]) content
  have hdir₂ := hdir.mono hwrIn.directories
  rcases run_take_cons _ (·.write ((s.root.join chat).join draftName) content) _ k d₁ with
    ⟨rfl, hrun⟩ | ⟨e, -, hrun⟩ | ⟨k, rfl, hwr, hrun⟩
  · rw [hrun]
    exact Or.inl ⟨hmade, fun hk => absurd hk (by decide)⟩
  · rw [hrun]
    exact Or.inl ⟨hwritten, fun _ => ⟨_, rfl⟩⟩
  rw [hrun]
  have hfile := hdraft hwr
  generalize (d₁.write ((s.root.join chat).join draftName) content).2 = d₂
    at hwritten hfile hdir₂ ⊢
  -- The name.
  obtain ⟨hrnIn, hrnOk, hrnError, -⟩ := Disk.rename_join hwritten.within.tree hdir₂
    isPlain_draftName isPlain_recordName (by decide) (List.prefix_refl (q ++ [chat]))
  rcases run_take_cons _ (·.rename ((s.root.join chat).join draftName)
      ((s.root.join chat).join recordName)) [] k d₂ with
    ⟨rfl, hrun⟩ | ⟨e, hrn, hrun⟩ | ⟨k, rfl, hrn, hrun⟩
  · rw [hrun]
    exact Or.inl ⟨hwritten, fun hk => absurd hk (by decide)⟩
  · rw [hrun]
    exact Or.inl ⟨hwritten.trans (Touches.of_entry hrnIn (hrnError e hrn) _), fun _ => ⟨_, rfl⟩⟩
  rw [hrun, List.take_nil]
  obtain ⟨hlocate, hentry⟩ := hrnOk hrn
  rw [append_pair, append_pair] at hentry
  rw [append_pair] at hfile hlocate
  refine Or.inr ⟨by omega, rfl, ?_, ?_, hentry.trans hfile⟩
  · have hdrafted : Touches q chat [draftName, recordName] d d₂ := hwritten.mono fun n hn => by
      rw [List.mem_singleton.mp hn]
      exact List.mem_cons_self
    exact hdrafted.trans (touches_rename hwritten.within.tree hdir₂ isPlain_draftName
      isPlain_recordName (by decide) List.mem_cons_self
      (List.mem_cons_of_mem _ List.mem_cons_self))
  · rw [recordPath]
    exact (Disk.locate_join_congr hdir₂ (hdir₂.mono hrnIn.directories) isPlain_recordName).trans
      hlocate

/-- The steps of adding to a log touch the log only. -/
theorem run_appendSteps (h : d.IsTree) (hq : d.LeadsTo s.root q) (hchat : Path.IsPlain chat)
    (line : ByteArray) (k : Nat) :
    Touches q chat [logName] d
      ((inTurn ((appendSteps (s.root.join chat) line).take k)).run d).2 := by
  rw [appendSteps]
  have hmade := touches_makeDirectories h hq hchat [logName]
  obtain ⟨-, -, hleads, -⟩ := Disk.makeDirectories_join h hq hchat
  rcases run_take_cons _ (·.makeDirectories (s.root.join chat)) _ k d with
    ⟨rfl, hrun⟩ | ⟨e, -, hrun⟩ | ⟨k, rfl, hmk, hrun⟩
  · rw [hrun]
    exact Touches.refl h q chat _
  · rw [hrun]
    exact hmade
  rw [hrun]
  have happended := hmade.trans (touches_append hmade.within.tree (hleads hmk) isPlain_logName
    (List.mem_singleton_self logName) line)
  rcases run_take_cons _ (·.append ((s.root.join chat).join logName) line) [] k
      (d.makeDirectories (s.root.join chat)).2 with
    ⟨rfl, hrun⟩ | ⟨e, -, hrun⟩ | ⟨k, rfl, -, hrun⟩
  · rw [hrun]
    exact hmade
  · rw [hrun]
    exact happended
  · rw [hrun, List.take_nil]
    exact happended

/-- Whatever is left of saving, the old content or the new one is in the place of the record. -/
theorem touches_of_saveCutOff {r : ChatRecord} (h : d.IsTree) (hq : d.LeadsTo s.root q)
    (hvalid : isValidId r.chatId = true) (hcut : s.SaveCutOff r d d') :
    Touches q r.chatId [draftName] d d'
      ∨ Touches q r.chatId [draftName, recordName] d d' ∧ s.load r.chatId d' = .ok r := by
  rw [SaveCutOff, directory_of_isValidId hvalid] at hcut
  cases hcut with
  | between k =>
    rcases run_saveSteps h hq (isPlain_of_isValidId hvalid) r.toText.toUTF8 k with
      ⟨htouches, -⟩ | ⟨-, -, htouches, hlocate, hfile⟩
    · exact Or.inl htouches
    · exact Or.inr ⟨htouches, load_of_file hvalid hlocate hfile⟩
  | writing n =>
    rcases run_saveSteps h hq (isPlain_of_isValidId hvalid) (r.toText.toUTF8.extract 0 n) 2 with
      ⟨htouches, -⟩ | ⟨hk, -⟩
    · exact Or.inl htouches
    · exact absurd hk (by decide)

theorem touches_of_appendCutOff (h : d.IsTree) (hq : d.LeadsTo s.root q)
    (hvalid : isValidId chat = true) {now : Int} {text : String}
    (hcut : s.AppendCutOff chat now text d d') : Touches q chat [logName] d d' := by
  rw [AppendCutOff, directory_of_isValidId hvalid] at hcut
  cases hcut with
  | between k => exact run_appendSteps h hq (isPlain_of_isValidId hvalid) _ k
  | writing n => exact run_appendSteps h hq (isPlain_of_isValidId hvalid) _ 2

/-- Where saving ends is where it is cut off last. -/
theorem saveCutOff_save (r : ChatRecord) (d : Disk) : s.SaveCutOff r d ((s.save r).run d).2 := by
  rw [SaveCutOff]
  by_cases hvalid : isValidId r.chatId = true
  · rw [directory_of_isValidId hvalid, save_run_of_isValidId hvalid]
    exact CutOff.between 3
  · rw [directory_of_not_isValidId hvalid, save_run_of_not_isValidId hvalid]

theorem appendCutOff_appendLog (chat : String) (now : Int) (text : String) (d : Disk) :
    s.AppendCutOff chat now text d ((s.appendLog chat now text).run d).2 := by
  rw [AppendCutOff]
  by_cases hvalid : isValidId chat = true
  · rw [directory_of_isValidId hvalid, appendLog_run_of_isValidId hvalid]
    exact CutOff.between 2
  · rw [directory_of_not_isValidId hvalid, appendLog_run_of_not_isValidId hvalid]

/-! ## The old record or the new one -/

/-- What saving came to, whether it failed or not. -/
theorem run_save (h : d.IsTree) (hq : d.LeadsTo s.root q) {r : ChatRecord}
    (hvalid : isValidId r.chatId = true) :
    (∃ e, ((s.save r).run d).1 = .error e)
        ∧ Touches q r.chatId [draftName] d ((s.save r).run d).2
      ∨ ((s.save r).run d).1 = .ok ()
        ∧ Touches q r.chatId [draftName, recordName] d ((s.save r).run d).2
        ∧ s.file? r.chatId ((s.save r).run d).2 = some (.ok r.toText.toUTF8) := by
  rw [save_run_of_isValidId hvalid]
  rcases run_saveSteps h hq (isPlain_of_isValidId hvalid) r.toText.toUTF8 3 with
    ⟨htouches, herror⟩ | ⟨-, hok, htouches, hlocate, hfile⟩
  · exact Or.inl ⟨herror (by decide), htouches⟩
  · exact Or.inr ⟨hok, htouches, file?_of_file hvalid hlocate hfile⟩

/-- The file of a record that was saved holds its text. -/
theorem file?_of_save_ok (h : s.Holds d) {r : ChatRecord} (hok : ((s.save r).run d).1 = .ok ()) :
    s.file? r.chatId ((s.save r).run d).2 = some (.ok r.toText.toUTF8) := by
  obtain ⟨htree, q, hq⟩ := h
  by_cases hvalid : isValidId r.chatId = true
  · rcases run_save htree hq hvalid with ⟨⟨e, herror⟩, -⟩ | ⟨-, -, hfile⟩
    · rw [hok] at herror
      cases herror
    · exact hfile
  · rw [save_run_of_not_isValidId hvalid] at hok
    cases hok

/-- A record that could not be saved leaves all files of records as they were. -/
theorem file?_of_save_error (h : s.Holds d) {r : ChatRecord} {e : StoreError}
    (herror : ((s.save r).run d).1 = .error e) (k : String) :
    s.file? k ((s.save r).run d).2 = s.file? k d := by
  obtain ⟨htree, q, hq⟩ := h
  by_cases hvalid : isValidId r.chatId = true
  · rcases run_save htree hq hvalid with ⟨-, htouches⟩ | ⟨hok, -⟩
    · exact file?_of_touches htree hq htouches (by decide) k
    · rw [herror] at hok
      cases hok
  · rw [save_run_of_not_isValidId hvalid]

/-- And whether it could be saved or not, the files of all other records are as they were. -/
theorem file?_save_of_ne (h : s.Holds d) {r : ChatRecord} {k : String} (hk : k ≠ r.chatId) :
    s.file? k ((s.save r).run d).2 = s.file? k d := by
  obtain ⟨htree, q, hq⟩ := h
  exact file?_of_within hq (within_save htree hq r).1 hk

/-- Adding to a log leaves what is loaded as it was, whether it fails or not. -/
theorem load_appendLog (h : s.Holds d) (chat : String) (now : Int) (text : String) (k : String) :
    s.load k ((s.appendLog chat now text).run d).2 = s.load k d := by
  obtain ⟨htree, q, hq⟩ := h
  by_cases hvalid : isValidId chat = true
  · exact load_of_touches htree hq
      (touches_of_appendCutOff htree hq hvalid (appendCutOff_appendLog chat now text d)) (by decide) k
  · rw [appendLog_run_of_not_isValidId hvalid]

/-- **Saving is atomic.**  Wherever it is cut off, what is loaded is what was loaded before, be it
a record or an error, or the new record; if it fails, it is what was loaded before; and if it
succeeds, it is the new record.  The records of all other chats are as they were, and the store can
still be used. -/
theorem save_is_atomic (h : s.Holds d) (r : ChatRecord) :
    (∀ d', s.SaveCutOff r d d' →
        s.Holds d'
          ∧ (s.load r.chatId d' = s.load r.chatId d ∨ s.load r.chatId d' = .ok r)
          ∧ ∀ k, k ≠ r.chatId → s.load k d' = s.load k d)
      ∧ (∀ e d', (s.save r).run d = (.error e, d') → ∀ k, s.load k d' = s.load k d)
      ∧ ∀ d', (s.save r).run d = (.ok (), d') → s.load r.chatId d' = .ok r := by
  obtain ⟨htree, q, hq⟩ := h
  by_cases hvalid : isValidId r.chatId = true
  · refine ⟨fun d' hcut => ?_, fun e d' hrun k => ?_, fun d' hrun => ?_⟩
    · have holds : ∀ names, Touches q r.chatId names d d' → s.Spares r.chatId d d' :=
        fun _ htouches => spares_of_within hq htouches.within
      rcases touches_of_saveCutOff htree hq hvalid hcut with htouches | ⟨htouches, hload⟩
      · exact ⟨(holds _ htouches).holds,
          Or.inl (load_of_touches htree hq htouches (by decide) r.chatId), (holds _ htouches).others⟩
      · exact ⟨(holds _ htouches).holds, Or.inr hload, (holds _ htouches).others⟩
    · rcases run_save htree hq hvalid with ⟨-, htouches⟩ | ⟨hok, -⟩
      · rw [hrun] at htouches
        exact load_of_touches htree hq htouches (by decide) k
      · rw [hrun] at hok
        cases hok
    · rcases run_save htree hq hvalid with ⟨⟨e, herror⟩, -⟩ | ⟨-, -, hfile⟩
      · rw [hrun] at herror
        cases herror
      · rw [hrun] at hfile
        exact load_of_file? hfile
  · have hrun := save_run_of_not_isValidId (s := s) hvalid d
    refine ⟨fun d' hcut => ?_, fun e d' h k => ?_, fun d' h => ?_⟩
    · rw [SaveCutOff, directory_of_not_isValidId hvalid] at hcut
      subst hcut
      exact ⟨⟨htree, q, hq⟩, Or.inl rfl, fun _ _ => rfl⟩
    · rw [hrun] at h
      cases h
      rfl
    · rw [hrun] at h
      cases h

/-- A record of a chat at a step. -/
def recordAt (step : String) : ChatRecord := ⟨"42", some step, none, true, []⟩

/-- A disk with nothing on it, which accepts three writes and refuses the fourth one after three
bytes. -/
def soonFull : Disk := ⟨[], [none, none, none, some 3]⟩

/-- The first record takes three writes.  The second one is refused in the middle of its draft, and
the first one is still loaded; then it is saved over what is left of the draft. -/
theorem save_is_atomic_soonFull :
    let s : Store := ⟨⟨"/"⟩⟩
    let kept := ((s.save (recordAt "1")).run soonFull).2
    let refused := (s.save (recordAt "2")).run kept
    s.Holds kept ∧ refused.1 = .error (.io ⟨"/42/state.json.tmp"⟩ .noSpace)
      ∧ s.load "42" refused.2 = .ok (recordAt "1")
      ∧ s.load "42" ((s.save (recordAt "2")).run refused.2).2 = .ok (recordAt "2") := by
  intro s kept refused
  have hempty : s.Holds soonFull :=
    ⟨⟨Disk.isTree_empty.nodup, Disk.isTree_empty.parent⟩, [], by decide +kernel, rfl⟩
  have hresults : ((s.save (recordAt "1")).run soonFull).1 = .ok ()
      ∧ refused.1 = .error (.io ⟨"/42/state.json.tmp"⟩ .noSpace)
      ∧ ((s.save (recordAt "2")).run refused.2).1 = .ok () := by
    decide +kernel
  obtain ⟨hkept, hrefused, hagain⟩ := hresults
  obtain ⟨hcut, -, hsaved⟩ := save_is_atomic hempty (recordAt "1")
  have holds : s.Holds kept := (hcut kept (saveCutOff_save _ _)).1
  obtain ⟨hcut', hfailed, -⟩ := save_is_atomic holds (recordAt "2")
  have holds' : s.Holds refused.2 := (hcut' refused.2 (saveCutOff_save _ _)).1
  refine ⟨holds, hrefused, ?_, ?_⟩
  · rw [hfailed _ refused.2 (Prod.ext hrefused rfl) "42"]
    exact hsaved kept (Prod.ext hkept rfl)
  · exact (save_is_atomic holds' (recordAt "2")).2.2 _ (Prod.ext hagain rfl)

end Store
end ScriptedChat
