import ScriptedChat.Proofs.Disk.Branch
import ScriptedChat.Proofs.Store.Logs

/-!
# One chat in two stores

Two disks may have the same files for one chat and be different elsewhere (`Store.SameFiles`).
Then the same record and the same log are found for this chat.  If the two also refuse the same
writes, what is saved and logged for it comes to the same on both, whether it fails or not, and
leaves its files the same.

* `Store.SameFiles`, `Store.SameFiles.loaded?`, `Store.SameFiles.log?`: what is found.
* `Store.SameFiles.save`, `Store.SameFiles.appendLog`: what is done.
* `Store.SameFiles.within`: what is done for other chats.
-/

namespace ScriptedChat
namespace Store

/-- Two disks on which a store can be used, and on which a chat has the same files. -/
structure SameFiles (s : Store) (chat : String) (d d' : Disk) : Prop where
  left : d.IsTree
  right : d'.IsTree
  place : ∃ q, d.LeadsTo s.root q ∧ d'.LeadsTo s.root q
    ∧ ∀ x, q ++ [chat] <+: x → d'.entry? x = d.entry? x

/-- What was done for a chat on two disks has come to the same, and left it the same files and the
same refusals to come. -/
def Beside {ε α : Type} (s : Store) (chat : String) (p p' : Except ε α × Disk) : Prop :=
  p'.1 = p.1 ∧ s.SameFiles chat p.2 p'.2 ∧ p'.2.refusals = p.2.refusals

variable {s : Store} {d d' : Disk} {chat : String}

theorem SameFiles.refl (h : s.Holds d) (chat : String) : s.SameFiles chat d d := by
  obtain ⟨htree, q, hq⟩ := h
  exact ⟨htree, htree, q, hq, hq, fun _ _ => rfl⟩

theorem SameFiles.holds (h : s.SameFiles chat d d') : s.Holds d ∧ s.Holds d' := by
  obtain ⟨q, hq, hq', -⟩ := h.place
  exact ⟨⟨h.left, q, hq⟩, ⟨h.right, q, hq'⟩⟩

/-- The same record is found. -/
theorem SameFiles.loaded? (h : s.SameFiles chat d d') : s.loaded? chat d' = s.loaded? chat d := by
  obtain ⟨q, hq, hq', hsame⟩ := h.place
  refine loaded?_congr h.left h.right hq hq' (hsame _ ?_)
  rw [List.prefix_append_right_inj]
  exact List.prefix_append [chat] [recordName]

/-- The same log is found. -/
theorem SameFiles.log? (h : s.SameFiles chat d d') : s.log? chat d' = s.log? chat d := by
  obtain ⟨q, hq, hq', hsame⟩ := h.place
  refine log?_congr h.left h.right hq hq' (hsame _ ?_)
  rw [List.prefix_append_right_inj]
  exact List.prefix_append [chat] [logName]

/-- What is done below the directory of another chat makes no difference. -/
theorem SameFiles.within (h : s.SameFiles chat d d') {d₁ : Disk} {k : String} (hk : k ≠ chat)
    (hd : ∀ q, d.LeadsTo s.root q → Disk.Within (q ++ [k]) d d₁) : s.SameFiles chat d₁ d' := by
  obtain ⟨q, hq, hq', hsame⟩ := h.place
  have hin := hd q hq
  refine ⟨hin.tree, h.right, q, hq.mono hin.directories, hq', fun x hx => ?_⟩
  rw [hsame x hx, hin.outside x]
  -- No place is below the directories of two chats.
  rintro ⟨l, rfl⟩
  rw [List.append_assoc, List.prefix_append_right_inj] at hx
  obtain ⟨m, hm⟩ := hx
  exact hk (List.cons.inj hm).1.symm

/-- Refusals have nothing to do with files. -/
theorem SameFiles.refusals (h : s.SameFiles chat d d') (rs : List (Option Nat)) :
    s.SameFiles chat d { d' with refusals := rs } := by
  obtain ⟨q, hq, hq', hsame⟩ := h.place
  have hstay := Disk.Within.refusals (q := q) h.right rs
  exact ⟨h.left, hstay.tree, q, hq, hq'.mono hstay.directories, hsame⟩

/-! ## The same things are done -/

theorem together_attempt {q : Place} {op : Disk → Except IoError Unit × Disk} (path : Path)
    (h : Disk.Together q (op d) (op d')) :
    Disk.Together q ((attempt path op).run d) ((attempt path op).run d') := by
  obtain ⟨hresult, hsame⟩ := h
  rw [attempt_run, attempt_run]
  generalize op d = p at hresult hsame ⊢
  generalize op d' = p' at hresult hsame ⊢
  obtain ⟨r, e⟩ := p
  obtain ⟨r', e'⟩ := p'
  dsimp only at hresult hsame
  subst hresult
  cases r' <;> exact ⟨rfl, hsame⟩

/-- One thing after the other, on both disks. -/
theorem together_bind {q : Place} {x : DiskAction Unit} {f : Unit → DiskAction Unit}
    (h : Disk.Together q (x.run d) (x.run d'))
    (hf : (x.run d).1 = .ok () → (x.run d').1 = .ok () →
      Disk.Together q ((f ()).run (x.run d).2) ((f ()).run (x.run d').2)) :
    Disk.Together q ((x >>= f).run d) ((x >>= f).run d') := by
  obtain ⟨hresult, hsame⟩ := h
  rw [Action.run_bind, Action.run_bind]
  generalize x.run d = p at hresult hsame hf ⊢
  generalize x.run d' = p' at hresult hsame hf ⊢
  obtain ⟨r, e⟩ := p
  obtain ⟨r', e'⟩ := p'
  dsimp only at hresult hsame hf
  subst hresult
  cases r' with
  | error err => exact ⟨rfl, hsame⟩
  | ok _ => exact hf rfl rfl

/-- What is to be done in the directory of a chat is done on both disks, in the same branch. -/
theorem together_in_directory {q : Place} (h : d.IsTree) (h' : d'.IsTree)
    (hq : d.LeadsTo s.root q) (hq' : d'.LeadsTo s.root q) (hchat : Path.IsPlain chat)
    (hsame : Disk.SameBelow (q ++ [chat]) d d') {action : DiskAction Unit}
    (haction : ∀ {e e' : Disk}, e.IsTree → e'.IsTree → e.LeadsTo (s.root.join chat) (q ++ [chat]) →
      e'.LeadsTo (s.root.join chat) (q ++ [chat]) → Disk.SameBelow (q ++ [chat]) e e' →
      Disk.Together (q ++ [chat]) (action.run e) (action.run e')) :
    Disk.Together (q ++ [chat])
      ((attempt (s.root.join chat) (·.makeDirectories (s.root.join chat))
        >>= fun _ => action).run d)
      ((attempt (s.root.join chat) (·.makeDirectories (s.root.join chat))
        >>= fun _ => action).run d') := by
  have hmake := hsame.makeDirectories hq hq' hchat
  have hattempt := together_attempt (s.root.join chat) hmake
  refine together_bind hattempt fun hok hok' => ?_
  obtain ⟨hin, -, hleads, -⟩ := Disk.makeDirectories_join h hq hchat
  obtain ⟨hin', -, hleads', -⟩ := Disk.makeDirectories_join h' hq' hchat
  rw [attempt_snd, attempt_snd]
  exact haction hin.tree hin'.tree (hleads (attempt_eq_ok.mp hok)) (hleads' (attempt_eq_ok.mp hok'))
    hmake.2

/-- What was done in the branch of a chat on both disks leaves it the same files. -/
theorem beside_of_together {q : Place} (hq : d.LeadsTo s.root q)
    (hq' : d'.LeadsTo s.root q) {action : DiskAction Unit}
    (hin : Disk.Within (q ++ [chat]) d (action.run d).2)
    (hin' : Disk.Within (q ++ [chat]) d' (action.run d').2)
    (htogether : Disk.Together (q ++ [chat]) (action.run d) (action.run d')) :
    s.Beside chat (action.run d) (action.run d') :=
  ⟨htogether.1, ⟨hin.tree, hin'.tree, q, hq.mono hin.directories, hq'.mono hin'.directories,
    htogether.2.entry⟩, htogether.2.refusals⟩

/-- **What is saved for a chat comes to the same**, where it has the same files and the same writes
are refused. -/
theorem SameFiles.save {r : ChatRecord} (h : s.SameFiles r.chatId d d')
    (hrefusals : d'.refusals = d.refusals) :
    s.Beside r.chatId ((s.save r).run d) ((s.save r).run d') := by
  obtain ⟨htree, htree', q, hq, hq', hentry⟩ := h
  refine beside_of_together hq hq' (within_save htree hq r).1
    (within_save htree' hq' r).1 ?_
  by_cases hvalid : isValidId r.chatId = true
  · rw [save_run_in_directory hvalid, save_run_in_directory hvalid]
    refine together_in_directory htree htree' hq hq' (isPlain_of_isValidId hvalid)
      ⟨hrefusals, hentry⟩ fun {e e'} he he' hdir hdir' hsame => ?_
    have hwrite := hsame.write (List.prefix_refl _) hdir hdir' isPlain_draftName r.toText.toUTF8
    refine together_bind (together_attempt _ hwrite) fun _ _ => ?_
    have hin := (Disk.write_join he hdir isPlain_draftName (List.prefix_append _ [draftName])
      r.toText.toUTF8).1
    have hin' := (Disk.write_join he' hdir' isPlain_draftName (List.prefix_append _ [draftName])
      r.toText.toUTF8).1
    rw [attempt_snd, attempt_snd]
    exact together_attempt _ (hwrite.2.rename (List.prefix_refl _) (hdir.mono hin.directories)
      (hdir'.mono hin'.directories) isPlain_draftName isPlain_recordName)
  · rw [save_run_of_not_isValidId hvalid, save_run_of_not_isValidId hvalid]
    exact ⟨rfl, hrefusals, hentry⟩

/-- **What is logged for a chat comes to the same**, where it has the same files and the same
writes are refused. -/
theorem SameFiles.appendLog (h : s.SameFiles chat d d') (hrefusals : d'.refusals = d.refusals)
    (now : Int) (text : String) :
    s.Beside chat ((s.appendLog chat now text).run d) ((s.appendLog chat now text).run d') := by
  obtain ⟨htree, htree', q, hq, hq', hentry⟩ := h
  refine beside_of_together hq hq' (within_appendLog htree hq chat now text).1
    (within_appendLog htree' hq' chat now text).1 ?_
  by_cases hvalid : isValidId chat = true
  · rw [appendLog_run_in_directory hvalid, appendLog_run_in_directory hvalid]
    refine together_in_directory htree htree' hq hq' (isPlain_of_isValidId hvalid)
      ⟨hrefusals, hentry⟩ fun {e e'} _ _ hdir hdir' hsame => ?_
    exact together_attempt _ (hsame.append (List.prefix_refl _) hdir hdir' isPlain_logName
      (logLine now text).toUTF8)
  · rw [appendLog_run_of_not_isValidId hvalid, appendLog_run_of_not_isValidId hvalid]
    exact ⟨rfl, hrefusals, hentry⟩

end Store
end ScriptedChat
