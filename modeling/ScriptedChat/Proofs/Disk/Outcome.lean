import ScriptedChat.Proofs.Disk.Branch

/-!
# How operations come out

An operation that is interrupted, or fails, leaves little behind: a directory that was not there,
or a file.  Here is what others notice of it, and when nothing goes wrong at all.

What a path of two names leads to, be it an entry or an error, is the same whether an empty
directory is there for the first name or nothing: nothing is found in it in either case.  Making
directories along any path keeps a tree a tree.  And where nothing is in the way, the names fit and
no write is refused, every operation succeeds.

* `Disk.lookup_join_join_congr`: a new empty directory makes no difference.
* `Disk.directory_of_write`, `directory_of_append`, `directory_of_rename`: no file operation makes
  a directory.
* `Disk.makeDirectories_join_entry`, `Disk.isTree_makeDirectories`: making directories.
* `Disk.Fits`, `Disk.locate_join_of_fits`: names and paths that are short enough.
* `Disk.makeDirectories_join_ok`, `write_join_ok`, `append_join_ok`, `rename_join_ok`: success.
-/

namespace ScriptedChat
namespace Disk

/-! ## What is found -/

/-- What a path of two names leads to stays the same, also where a directory is made for the first
of them: nothing is found in it. -/
theorem lookup_join_join_congr {d d' : Disk} (h : d.IsTree) {p : Path} {q : Place}
    (hp : LeadsTo d p q) (hp' : LeadsTo d' p q) {s t : String} (hs : Path.IsPlain s)
    (ht : Path.IsPlain t) (hfits : ¬longestName < t.utf8ByteSize)
    (hdir : d'.entry? (q ++ [s]) = d.entry? (q ++ [s])
      ∨ d.entry? (q ++ [s]) = none ∧ d'.entry? (q ++ [s]) = some .directory)
    (hfile : d'.entry? (q ++ [s, t]) = d.entry? (q ++ [s, t])) :
    d'.lookup ((p.join s).join t) = d.lookup ((p.join s).join t) := by
  rcases hdir with hsame | ⟨hnone, hnew⟩
  · rw [lookup, lookup, locate_join_join_congr hp hp' hs ht hsame]
    cases hx : d.locate ((p.join s).join t) with
    | error e => rfl
    | ok x =>
      obtain ⟨rfl, -⟩ := directory_of_locate_join_join hp hs ht hx
      simp only [bind, Except.bind, hfile]
  · have hplace : q ++ [s] ++ [t] = q ++ [s, t] := List.append_assoc _ _ _
    have hnothing : d.entry? (q ++ [s, t]) = none := by
      by_contra hsome
      have habove := h.above (p := q ++ [s]) (r := [t]) (List.cons_ne_nil _ _)
        (by rw [hplace]; exact hsome)
      rw [hnone] at habove
      cases habove
    have hmissing : d.enter (q ++ [s]) t = .error .notFound := by rw [enter, hnone]
    rw [lookup, lookup, locate_join_join hp hs ht, locate_join_join hp' hs ht,
      enter_of_directory hnew ht, if_neg hfits, hmissing, hplace]
    split
    · rfl
    split
    · rfl
    split
    · rfl
    · simp only [bind, Except.bind, hfile, hnothing]

/-! ## No new directories -/

theorem directory_of_store {d : Disk} {p x : Place} (hp : p ≠ []) {old new : ByteArray}
    (hx : entry? (d.store p old new).2 x = some .directory) : d.entry? x = some .directory := by
  have hput : ∀ rs content, entry? (put { d with refusals := rs } p (.file content)) x
      = some .directory → d.entry? x = some .directory := by
    intro rs content h
    rw [entry?_put _ hp] at h
    split at h
    · cases h
    · exact h
  obtain ⟨r, rs, hnext⟩ := d.exists_nextRefusal
  rw [store, hnext] at hx
  cases r with
  | none => exact hput rs _ hx
  | some n => exact hput rs _ hx

theorem ne_nil_of_target_ok {d : Disk} (h : d.IsTree) {p : Path} {x : Place} {old : ByteArray}
    (ht : d.target p = .ok (x, old)) : x ≠ [] := by
  intro hx
  exact (target_eq_ok h ht).2.1 (hx ▸ d.entry?_nil)

theorem directory_of_write {d : Disk} (h : d.IsTree) {p : Path} {content : ByteArray} {x : Place}
    (hx : entry? (d.write p content).2 x = some .directory) : d.entry? x = some .directory := by
  rw [write] at hx
  cases ht : d.target p with
  | error e => rw [ht] at hx; exact hx
  | ok t => rw [ht] at hx; exact directory_of_store (ne_nil_of_target_ok h ht) hx

theorem directory_of_append {d : Disk} (h : d.IsTree) {p : Path} {content : ByteArray} {x : Place}
    (hx : entry? (d.append p content).2 x = some .directory) : d.entry? x = some .directory := by
  rw [append] at hx
  cases ht : d.target p with
  | error e => rw [ht] at hx; exact hx
  | ok t => rw [ht] at hx; exact directory_of_store (ne_nil_of_target_ok h ht) hx

theorem directory_of_rename {d : Disk} (h : d.IsTree) {p p' : Path} {x : Place}
    (hx : entry? (d.rename p p').2 x = some .directory) : d.entry? x = some .directory := by
  obtain ⟨rs, ⟨e, hfail⟩ | ⟨y, z, old, content, -, hz, hfile, hdone⟩⟩ := d.rename_cases p p'
  · rw [hfail] at hx
    exact hx
  · have hne : y ≠ [] := by
      rintro rfl
      rw [entry?_nil] at hfile
      cases hfile
    rw [hdone, entry?_put _ (ne_nil_of_target_ok h hz), entry?_erase _ hne] at hx
    split at hx
    · cases hx
    · split at hx
      · cases hx
      · exact hx

/-! ## Making directories -/

/-- A directory is made where nothing was, or everything stays as it is. -/
theorem makeDirectories_join_entry {d : Disk} {p : Path} {q : Place} (hp : LeadsTo d p q)
    {s : String} (hs : Path.IsPlain s) :
    entry? (d.makeDirectories (p.join s)).2 (q ++ [s]) = d.entry? (q ++ [s])
      ∨ d.entry? (q ++ [s]) = none
        ∧ entry? (d.makeDirectories (p.join s)).2 (q ++ [s]) = some .directory := by
  rw [makeDirectories_join_eq hp hs]
  obtain ⟨rs, ⟨e, he, hfail⟩ | ⟨-, hnone, hdone⟩⟩ := makeDirectory_join hp hs
  · rw [hfail]
    exact Or.inl rfl
  · rw [hdone]
    refine Or.inr ⟨hnone, ?_⟩
    exact (entry?_put _ (List.append_ne_nil_of_right_ne_nil _ (List.cons_ne_nil _ _)) _ _).trans
      (if_pos rfl)

/-- What a walk leads to is in a directory. -/
theorem parent_of_walk {d : Disk} (h : d.IsTree) {p : Path} {names : List String} {x : Place}
    (hx : d.walk p names = .ok x) : d.entry? x.dropLast = some .directory := by
  have henter : ∀ {y z : Place} {n : String}, d.enter y n = .ok z →
      d.entry? z.dropLast = some .directory := by
    intro y z n hz
    have hy := directory_of_enter hz
    have hup : d.entry? y.dropLast = some .directory :=
      h.parent y (by rw [hy]; exact Option.some_ne_none _)
    rw [enter, hy] at hz
    dsimp only at hz
    split at hz
    · cases hz
      exact hup
    split at hz
    · cases hz
      exact h.parent _ (by rw [hup]; exact Option.some_ne_none _)
    split at hz
    · cases hz
    · cases hz
      rw [List.dropLast_concat]
      exact hy
  have hfold := (walk_eq_ok.mp hx).2
  rcases List.eq_nil_or_concat names with rfl | ⟨front, n, rfl⟩
  · cases hfold
    rfl
  · rw [List.concat_eq_append, List.foldlM_append] at hfold
    cases hfront : front.foldlM d.enter [] with
    | error e =>
      rw [hfront] at hfold
      cases hfold
    | ok y =>
      rw [hfront] at hfold
      have hlast : d.enter y n >>= pure = .ok x := hfold
      rw [bind_pure] at hlast
      exact henter hlast

theorem isTree_makeDirectory {d : Disk} (h : d.IsTree) (p : Path) :
    (d.makeDirectory p).2.IsTree := by
  rw [makeDirectory]
  cases hx : d.walk p p.names with
  | error e => exact h
  | ok x =>
    have hparent := parent_of_walk h hx
    dsimp only
    cases he : d.entry? x with
    | some e => exact h
    | none =>
      obtain ⟨r, rs, hnext⟩ := d.exists_nextRefusal
      have hrefusals : IsTree { d with refusals := rs } := ⟨h.nodup, h.parent⟩
      dsimp only
      rw [hnext]
      cases r with
      | some n => exact hrefusals
      | none =>
        refine hrefusals.put ?_ hparent .directory
        rw [entry?_refusals, he]
        exact (Option.some_ne_none _).symm

theorem isTree_unlessThere {p : Path} {r : Except IoError Unit × Disk} (h : r.2.IsTree) :
    (unlessThere p r).2.IsTree := by
  obtain ⟨_ | _, d⟩ := r
  · exact h
  · exact h

/-- Making directories along any path keeps a tree a tree. -/
theorem isTree_makeDirectories {d : Disk} (h : d.IsTree) (p : Path) :
    (d.makeDirectories p).2.IsTree := by
  rw [makeDirectories]
  generalize p.names.length + 1 = fuel
  induction fuel generalizing p d with
  | zero => exact h
  | succ fuel ih =>
    rw [makeUpTo]
    split
    · exact h
    · have hmade := isTree_makeDirectory h p
      split
      · next d' hd =>
        rw [hd] at hmade
        have hup := ih hmade p.parent
        split
        · next d'' hd' =>
          rw [hd'] at hup
          exact isTree_unlessThere (isTree_makeDirectory hup p)
        · next e d'' hd' =>
          rw [hd'] at hup
          exact hup
      · exact isTree_unlessThere hmade

/-! ## Success -/

/-- The path of a name in a directory can be walked. -/
structure Fits (p : Path) (s : String) : Prop where
  nul : '\x00' ∉ (p.join s).text.toList
  path : (p.join s).text.utf8ByteSize ≤ longestPath
  name : s.utf8ByteSize ≤ longestName

theorem locate_join_of_fits {d : Disk} {p : Path} {q : Place} (h : LeadsTo d p q) {s : String}
    (hs : Path.IsPlain s) (hfits : Fits p s) : d.locate (p.join s) = .ok (q ++ [s]) := by
  rw [locate_join h hs, if_neg (by simpa using hfits.nul), if_neg (Nat.not_lt.mpr hfits.path),
    if_neg (Nat.not_lt.mpr hfits.name)]

section

variable {d : Disk} {p : Path} {q : Place}

theorem nextRefusal_of_nil (h : d.refusals = []) : d.nextRefusal = (none, d) := by
  rw [nextRefusal, h]

theorem lookup_join_of_fits (hp : LeadsTo d p q) {s : String} (hs : Path.IsPlain s)
    (hfits : Fits p s) {e : Entry} (he : d.entry? (q ++ [s]) = some e) :
    d.lookup (p.join s) = .ok e := by
  rw [lookup, locate_join_of_fits hp hs hfits]
  simp only [bind, Except.bind, he]

/-- A directory can be made where no file is. -/
theorem makeDirectories_join_ok (hp : LeadsTo d p q) {s : String} (hs : Path.IsPlain s)
    (hfits : Fits p s) (hrefusals : d.refusals = [])
    (hfree : ∀ content, d.entry? (q ++ [s]) ≠ some (.file content)) :
    (d.makeDirectories (p.join s)).1 = .ok ()
      ∧ (d.makeDirectories (p.join s)).2.refusals = [] := by
  have hwalk : d.walk (p.join s) (p.join s).names = .ok (q ++ [s]) := by
    have hlocate := locate_join_of_fits hp hs hfits
    rwa [locate, Path.steps_join hp.named hs.1, ← Path.names_join hp.named hs.1] at hlocate
  rw [makeDirectories_join_eq hp hs, makeDirectory, hwalk]
  dsimp only
  cases he : d.entry? (q ++ [s]) with
  | none =>
    dsimp only
    rw [nextRefusal_of_nil hrefusals]
    exact ⟨rfl, hrefusals⟩
  | some e =>
    cases e with
    | file content => exact absurd he (hfree content)
    | directory =>
      have hthere : d.isDirectory (p.join s) = true := by
        rw [isDirectory, lookup_join_of_fits hp hs hfits he]
      dsimp only [unlessThere]
      rw [if_pos hthere]
      exact ⟨rfl, hrefusals⟩

/-- A file can be written where no directory is. -/
theorem target_join_ok (hp : LeadsTo d p q) {s : String} (hs : Path.IsPlain s)
    (hfits : Fits p s) (hfree : d.entry? (q ++ [s]) ≠ some .directory) :
    ∃ old, d.target (p.join s) = .ok (q ++ [s], old) := by
  rw [target, locate_join_of_fits hp hs hfits]
  simp only [bind, Except.bind]
  cases he : d.entry? (q ++ [s]) with
  | none =>
    simp only [List.dropLast_concat, hp.directory]
    exact ⟨_, rfl⟩
  | some e =>
    cases e with
    | file content => exact ⟨_, rfl⟩
    | directory => exact absurd he hfree

theorem store_ok (hrefusals : d.refusals = []) (x : Place) (old new : ByteArray) :
    (d.store x old new).1 = .ok () ∧ (d.store x old new).2.refusals = [] := by
  rw [store, nextRefusal_of_nil hrefusals]
  exact ⟨rfl, hrefusals⟩

theorem write_join_ok (hp : LeadsTo d p q) {s : String} (hs : Path.IsPlain s) (hfits : Fits p s)
    (hrefusals : d.refusals = []) (hfree : d.entry? (q ++ [s]) ≠ some .directory)
    (content : ByteArray) :
    (d.write (p.join s) content).1 = .ok () ∧ (d.write (p.join s) content).2.refusals = [] := by
  obtain ⟨old, ht⟩ := target_join_ok hp hs hfits hfree
  rw [write, ht]
  exact store_ok hrefusals _ _ _

theorem append_join_ok (hp : LeadsTo d p q) {s : String} (hs : Path.IsPlain s) (hfits : Fits p s)
    (hrefusals : d.refusals = []) (hfree : d.entry? (q ++ [s]) ≠ some .directory)
    (content : ByteArray) :
    (d.append (p.join s) content).1 = .ok () ∧ (d.append (p.join s) content).2.refusals = [] := by
  obtain ⟨old, ht⟩ := target_join_ok hp hs hfits hfree
  rw [append, ht]
  exact store_ok hrefusals _ _ _

/-- A file can take a name that no directory has. -/
theorem rename_join_ok (hp : LeadsTo d p q) {s t : String} (hs : Path.IsPlain s)
    (ht : Path.IsPlain t) (hfits : Fits p s) (hfits' : Fits p t) (hrefusals : d.refusals = [])
    {content : ByteArray} (hfile : d.entry? (q ++ [s]) = some (.file content))
    (hfree : d.entry? (q ++ [t]) ≠ some .directory) :
    (d.rename (p.join s) (p.join t)).1 = .ok ()
      ∧ (d.rename (p.join s) (p.join t)).2.refusals = [] := by
  obtain ⟨old, htarget⟩ := target_join_ok hp ht hfits' hfree
  rw [rename, locate_join_of_fits hp hs hfits]
  simp only [bind, Except.bind, htarget, hfile, nextRefusal_of_nil hrefusals]
  exact ⟨trivial, hrefusals⟩

end

end Disk
end ScriptedChat
