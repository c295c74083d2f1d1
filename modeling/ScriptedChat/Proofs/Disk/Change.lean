import ScriptedChat.Proofs.Disk.Names
import ScriptedChat.Proofs.Disk.Tree

/-!
# What is done in a directory

A path that leads to a directory (`Disk.LeadsTo`) leads there as long as no directory is
lost.  A name joined to it leads to the entry of that name, unless the path has become too
long to be walked (`Disk.locate_join`), and whether it has does not depend on the disk.

So what is done with a name in a directory is a change at one known place.  For each
operation of the disk there is one statement: what it may change, and what is there if it
succeeds.

* `Disk.LeadsTo`, `Disk.LeadsTo.mono`: paths that lead to directories.
* `Disk.locate_join`, `Disk.locate_join_join`: where joined paths lead.
* `Disk.list_of_leadsTo`: what is listed.
* `Disk.rename_cases`: what giving another name can do.
* `Disk.makeDirectories_join`, `Disk.write_join`, `Disk.append_join`, `Disk.rename_join`: the
  operations.
-/

namespace ScriptedChat

/-- A name that leads down: it is none of the two that do not. -/
def Path.IsPlain (s : String) : Prop := Path.IsName s ∧ s ≠ "." ∧ s ≠ ".."

namespace Disk

/-! ## Paths that lead to directories -/

/-- The path leads to a directory at `q`. -/
structure LeadsTo (d : Disk) (p : Path) (q : Place) : Prop where
  locate : d.locate p = .ok q
  directory : d.entry? q = some .directory

theorem enter_of_directory {d : Disk} {q : Place} (h : d.entry? q = some .directory) {s : String}
    (hs : Path.IsPlain s) :
    d.enter q s
      = if longestName < s.utf8ByteSize then .error .nameTooLong else .ok (q ++ [s]) := by
  rw [enter, h]
  simp only [if_neg hs.2.1, if_neg hs.2.2]

theorem directory_of_enter {d : Disk} {q x : Place} {s : String} (h : d.enter q s = .ok x) :
    d.entry? q = some .directory := by
  unfold enter at h
  split at h
  · cases h
  · cases h
  · assumption

theorem enter_mono {d d' : Disk}
    (hd : ∀ q, d.entry? q = some .directory → d'.entry? q = some .directory) {q x : Place}
    {s : String} (h : d.enter q s = .ok x) : d'.enter q s = .ok x := by
  have hq := directory_of_enter h
  rw [enter, hq] at h
  rw [enter, hd q hq]
  exact h

theorem foldlM_enter_mono {d d' : Disk}
    (hd : ∀ q, d.entry? q = some .directory → d'.entry? q = some .directory) {names : List String}
    {q x : Place} (h : names.foldlM d.enter q = .ok x) : names.foldlM d'.enter q = .ok x := by
  induction names generalizing q with
  | nil => exact h
  | cons n names ih =>
    rw [List.foldlM_cons] at h ⊢
    cases hn : d.enter q n with
    | error e =>
      rw [hn] at h
      cases h
    | ok y =>
      rw [hn] at h
      rw [enter_mono hd hn]
      exact ih h

/-- What can be walked is no empty path. -/
theorem walk_eq_ok {d : Disk} {p : Path} {names : List String} {x : Place} :
    d.walk p names = .ok x ↔
      (¬p.text.toList.contains '\x00' = true ∧ ¬p.text.isEmpty = true
        ∧ ¬longestPath < p.text.utf8ByteSize) ∧ names.foldlM d.enter [] = .ok x := by
  rw [walk]
  split
  · rename_i hnul
    exact ⟨fun h => (by cases h), fun h => absurd hnul h.1.1⟩
  split
  · rename_i hempty
    exact ⟨fun h => (by cases h), fun h => absurd hempty h.1.2.1⟩
  split
  · rename_i hlong
    exact ⟨fun h => (by cases h), fun h => absurd hlong h.1.2.2⟩
  · rename_i hnul hempty hlong
    exact ⟨fun h => ⟨⟨hnul, hempty, hlong⟩, h⟩, And.right⟩

/-- A path that leads to a directory does so as long as no directory is lost. -/
theorem LeadsTo.mono {d d' : Disk} {p : Path} {q : Place} (h : LeadsTo d p q)
    (hd : ∀ q, d.entry? q = some .directory → d'.entry? q = some .directory) :
    LeadsTo d' p q := by
  obtain ⟨hchecks, hfold⟩ := walk_eq_ok.mp h.locate
  exact ⟨walk_eq_ok.mpr ⟨hchecks, foldlM_enter_mono hd hfold⟩, hd q h.directory⟩

theorem LeadsTo.named {d : Disk} {p : Path} {q : Place} (h : LeadsTo d p q) : p.text ≠ "" :=
  fun h0 => (walk_eq_ok.mp h.locate).1.2.1 (String.isEmpty_iff.mpr h0)

/-- A slash at the end of a path is one step more, which stays where it is. -/
theorem LeadsTo.walk {d : Disk} {p : Path} {q : Place} (h : LeadsTo d p q) :
    p.names.foldlM d.enter [] = .ok q := by
  have hfold := (walk_eq_ok.mp h.locate).2
  unfold Path.steps at hfold
  dsimp only at hfold
  split at hfold
  · rw [List.foldlM_append] at hfold
    cases hx : p.names.foldlM d.enter [] with
    | error e =>
      rw [hx] at hfold
      cases hfold
    | ok x =>
      rw [hx] at hfold
      have hdot : d.enter x "." = .ok q := by
        have : d.enter x "." >>= pure = .ok q := hfold
        rwa [bind_pure] at this
      rw [enter, directory_of_enter hdot] at hdot
      exact hdot
  · exact hfold

/-- Where a name joined to a path leads: to the entry of that name, if names and paths of
this length can be walked. -/
theorem locate_join {d : Disk} {p : Path} {q : Place} (h : LeadsTo d p q) {s : String}
    (hs : Path.IsPlain s) :
    d.locate (p.join s)
      = if (p.join s).text.toList.contains '\x00' then .error .nulInName
        else if longestPath < (p.join s).text.utf8ByteSize then .error .nameTooLong
        else if longestName < s.utf8ByteSize then .error .nameTooLong
        else .ok (q ++ [s]) := by
  have hempty : ¬(p.join s).text.isEmpty = true := by
    rw [String.isEmpty_iff]
    exact Path.text_join_ne_empty h.named hs.1
  have hfold : (p.names ++ [s]).foldlM d.enter [] = d.enter q s := by
    rw [List.foldlM_append, h.walk]
    exact bind_pure (d.enter q s)
  rw [locate, walk, Path.steps_join h.named hs.1, if_neg hempty, hfold,
    enter_of_directory h.directory hs]

/-- Whether a joined path can be walked does not depend on the disk. -/
theorem locate_join_congr {d d' : Disk} {p : Path} {q : Place} (h : LeadsTo d p q)
    (h' : LeadsTo d' p q) {s : String} (hs : Path.IsPlain s) :
    d'.locate (p.join s) = d.locate (p.join s) := by
  rw [locate_join h hs, locate_join h' hs]

/-- If a joined path cannot be walked, this is not because something is missing. -/
theorem locate_join_cases {d : Disk} {p : Path} {q : Place} (h : LeadsTo d p q) {s : String}
    (hs : Path.IsPlain s) :
    d.locate (p.join s) = .ok (q ++ [s])
      ∨ ∃ e, d.locate (p.join s) = .error e ∧ e ≠ .notFound := by
  rw [locate_join h hs]
  split
  · exact Or.inr ⟨_, rfl, by decide⟩
  split
  · exact Or.inr ⟨_, rfl, by decide⟩
  split
  · exact Or.inr ⟨_, rfl, by decide⟩
  · exact Or.inl rfl

theorem locate_join_eq {d : Disk} {p : Path} {q x : Place} (h : LeadsTo d p q) {s : String}
    (hs : Path.IsPlain s) (hx : d.locate (p.join s) = .ok x) : x = q ++ [s] := by
  rcases locate_join_cases h hs with hok | ⟨e, herr, -⟩
  · rw [hok] at hx
    exact (Except.ok.inj hx).symm
  · rw [herr] at hx
    cases hx

/-- The walk along two names, with the checks of the path before it. -/
theorem locate_join_join {d : Disk} {p : Path} {q : Place} (h : LeadsTo d p q) {s t : String}
    (hs : Path.IsPlain s) (ht : Path.IsPlain t) :
    d.locate ((p.join s).join t)
      = if ((p.join s).join t).text.toList.contains '\x00' then .error .nulInName
        else if longestPath < ((p.join s).join t).text.utf8ByteSize then .error .nameTooLong
        else if longestName < s.utf8ByteSize then .error .nameTooLong
        else d.enter (q ++ [s]) t := by
  have hnamed := Path.text_join_ne_empty h.named hs.1
  have hempty : ¬((p.join s).join t).text.isEmpty = true := by
    rw [String.isEmpty_iff]
    exact Path.text_join_ne_empty hnamed ht.1
  have hfold : (p.names ++ [s] ++ [t]).foldlM d.enter []
      = (if longestName < s.utf8ByteSize then .error .nameTooLong else .ok (q ++ [s]))
          >>= fun x => d.enter x t := by
    rw [List.foldlM_append, List.foldlM_append, h.walk, ← enter_of_directory h.directory hs]
    show ((d.enter q s >>= pure) >>= fun x => d.enter x t >>= pure) = _
    simp only [bind_pure]
  rw [locate, walk, Path.steps_join hnamed ht.1, Path.names_join h.named hs.1, if_neg hempty, hfold]
  split
  · rfl
  split
  · rfl
  split <;> rfl

/-- Where two names joined to a path lead does not depend on the disk, except for what is at
the first of them. -/
theorem locate_join_join_congr {d d' : Disk} {p : Path} {q : Place} (h : LeadsTo d p q)
    (h' : LeadsTo d' p q) {s t : String} (hs : Path.IsPlain s) (ht : Path.IsPlain t)
    (hdir : d'.entry? (q ++ [s]) = d.entry? (q ++ [s])) :
    d'.locate ((p.join s).join t) = d.locate ((p.join s).join t) := by
  rw [locate_join_join h hs ht, locate_join_join h' hs ht, enter, enter, hdir]

/-- A path of two names leads nowhere unless the first one is that of a directory. -/
theorem directory_of_locate_join_join {d : Disk} {p : Path} {q x : Place} (h : LeadsTo d p q)
    {s t : String} (hs : Path.IsPlain s) (ht : Path.IsPlain t)
    (hx : d.locate ((p.join s).join t) = .ok x) :
    x = q ++ [s, t] ∧ d.entry? (q ++ [s]) = some .directory := by
  rw [locate_join_join h hs ht] at hx
  split at hx
  · cases hx
  split at hx
  · cases hx
  split at hx
  · cases hx
  have hdir : d.entry? (q ++ [s]) = some .directory := directory_of_enter hx
  refine ⟨?_, hdir⟩
  rw [enter_of_directory hdir ht] at hx
  split at hx
  · cases hx
  · rw [← Except.ok.inj hx, List.append_assoc]
    rfl

/-- What is read from a file in a directory of a directory depends on nothing but this file. -/
theorem readBytes_join_join_congr {d d' : Disk} (h : d.IsTree) (h' : d'.IsTree) {p : Path}
    {q : Place} (hp : LeadsTo d p q) (hp' : LeadsTo d' p q) {s t : String} (hs : Path.IsPlain s)
    (ht : Path.IsPlain t) (hfile : d'.entry? (q ++ [s, t]) = d.entry? (q ++ [s, t])) :
    (d'.readBytes ((p.join s).join t)).toOption = (d.readBytes ((p.join s).join t)).toOption := by
  -- What is read where nothing is.
  have hnothing : ∀ {d₀ : Disk}, LeadsTo d₀ p q → d₀.entry? (q ++ [s, t]) = none →
      (d₀.readBytes ((p.join s).join t)).toOption = none := by
    intro d₀ hp₀ hnone
    rw [readBytes, lookup]
    cases hx : d₀.locate ((p.join s).join t) with
    | error e => rfl
    | ok x =>
      obtain ⟨rfl, -⟩ := directory_of_locate_join_join hp₀ hs ht hx
      simp only [bind, Except.bind, hnone]
      rfl
  cases he : d.entry? (q ++ [s, t]) with
  | none => rw [hnothing hp he, hnothing hp' (hfile.trans he)]
  | some e =>
    have hparent : ∀ {d₀ : Disk}, d₀.IsTree → d₀.entry? (q ++ [s, t]) = some e →
        d₀.entry? (q ++ [s]) = some .directory := by
      intro d₀ h₀ he₀
      refine h₀.above (r := [t]) (List.cons_ne_nil _ _) ?_
      rw [List.append_assoc]
      exact fun hnone => by
        rw [show q ++ ([s] ++ [t]) = q ++ [s, t] from rfl, he₀] at hnone
        cases hnone
    have hlocate := locate_join_join_congr hp hp' hs ht
      ((hparent h' (hfile.trans he)).trans (hparent h he).symm)
    rw [readBytes, readBytes, lookup, lookup, hlocate]
    cases hx : d.locate ((p.join s).join t) with
    | error e => rfl
    | ok x =>
      obtain ⟨rfl, -⟩ := directory_of_locate_join_join hp hs ht hx
      simp only [bind, Except.bind, hfile]

/-! ## Listing -/

/-- What an entry is in the list of a directory, if it is in it. -/
def child? (q : Place) (x : Place × Entry) : Option (String × Entry) :=
  match x.1.getLast? with
  | some name => if x.1 = q ++ [name] then some (name, x.2) else none
  | none => none

theorem child?_eq_some {q : Place} {x : Place × Entry} {y : String × Entry} :
    child? q x = some y ↔ x = (q ++ [y.1], y.2) := by
  obtain ⟨p, e⟩ := x
  obtain ⟨n, e'⟩ := y
  constructor
  · intro h
    unfold child? at h
    dsimp only at h
    split at h
    · rename_i name hname
      split at h
      · rename_i hp
        cases h
        rw [hp]
      · cases h
    · cases h
  · intro h
    cases h
    simp [child?]

/-- The list of a directory has every name in it once, with what is there. -/
theorem list_of_leadsTo {d : Disk} {p : Path} {q : Place} (h : d.IsTree) (hp : LeadsTo d p q) :
    ∃ l, d.list p = .ok l ∧ (l.map (·.1)).Nodup
      ∧ ∀ n e, (n, e) ∈ l ↔ d.entry? (q ++ [n]) = some e := by
  have hlist : d.list p = .ok (d.entries.filterMap (child? q)) := by
    rw [list, hp.locate]
    simp only [bind, Except.bind, hp.directory]
    rfl
  have hmem : ∀ n e, (n, e) ∈ d.entries.filterMap (child? q) ↔ (q ++ [n], e) ∈ d.entries := by
    intro n e
    rw [List.mem_filterMap]
    constructor
    · rintro ⟨x, hx, hchild⟩
      rwa [child?_eq_some.mp hchild] at hx
    · intro hx
      exact ⟨_, hx, child?_eq_some.mpr rfl⟩
  refine ⟨_, hlist, ?_, fun n e => ?_⟩
  · refine List.Nodup.map_on ?_ (h.nodup.of_map.filterMap ?_)
    · rintro ⟨n, e⟩ he ⟨n', e'⟩ he' (rfl : n = n')
      have := List.inj_on_of_nodup_map h.nodup ((hmem n e).mp he) ((hmem n e').mp he') rfl
      rw [(Prod.mk.inj this).2]
    · intro x x' y hy hy'
      rw [child?_eq_some.mp hy, child?_eq_some.mp hy']
  · rw [hmem, mem_entries h (List.append_ne_nil_of_right_ne_nil _ (List.cons_ne_nil _ _))]

/-! ## Writing -/

/-- Looking at the next refusal changes nothing but the refusals. -/
theorem exists_nextRefusal (d : Disk) :
    ∃ r rs, d.nextRefusal = (r, { d with refusals := rs }) := by
  rw [nextRefusal]
  cases d.refusals with
  | nil => exact ⟨none, d.refusals, rfl⟩
  | cons r rs => exact ⟨r, rs, rfl⟩

/-- What a file can be written at: a place in a directory, where no directory is. -/
theorem target_eq_ok {d : Disk} (h : d.IsTree) {p : Path} {x : Place} {old : ByteArray}
    (ht : d.target p = .ok (x, old)) :
    d.locate p = .ok x ∧ d.entry? x ≠ some .directory ∧ d.entry? x.dropLast = some .directory := by
  rw [target] at ht
  cases hx : d.locate p with
  | error e =>
    rw [hx] at ht
    cases ht
  | ok y =>
    simp only [hx, bind, Except.bind] at ht
    split at ht
    · rename_i hy
      cases ht
      refine ⟨rfl, ?_, h.parent _ ?_⟩ <;> rw [hy] <;> simp
    · cases ht
    · rename_i hy
      split at ht
      · rename_i hparent
        cases ht
        refine ⟨rfl, ?_, hparent⟩
        rw [hy]
        simp
      · cases ht
      · cases ht

/-- Writing at a place changes nothing but what is there, and puts everything there if it
succeeds. -/
theorem store_spec {d : Disk} (h : d.IsTree) {q p : Place} (hq : q <+: p)
    (hp : d.entry? p ≠ some .directory) (hparent : d.entry? p.dropLast = some .directory)
    (old new : ByteArray) :
    Within q d (d.store p old new).2
      ∧ (∀ x, x ≠ p → entry? (d.store p old new).2 x = d.entry? x)
      ∧ ((d.store p old new).1 = .ok () →
          entry? (d.store p old new).2 p = some (.file (old ++ new))) := by
  have hne : p ≠ [] := fun h0 => hp (h0 ▸ d.entry?_nil)
  obtain ⟨r, rs, hnext⟩ := d.exists_nextRefusal
  have hwithin : ∀ e, Within q d (put { d with refusals := rs } p e) := fun e =>
    have h' := Within.refusals (q := q) h rs
    h'.trans (Within.put (d := { d with refusals := rs }) h'.tree hq hp hparent e)
  have hother : ∀ e x, x ≠ p → entry? (put { d with refusals := rs } p e) x = d.entry? x := by
    intro e x hx
    rw [entry?_put _ hne, if_neg hx, entry?_refusals]
  rw [store, hnext]
  cases r with
  | none => exact ⟨hwithin _, hother _, fun _ => by rw [entry?_put _ hne, if_pos rfl]⟩
  | some n => exact ⟨hwithin _, hother _, fun hok => by cases hok⟩

/-- Making a directory below one that is there fails and changes nothing, or puts it where
nothing was.  It does not fail because something is missing. -/
theorem makeDirectory_join {d : Disk} {p : Path} {q : Place} (hp : LeadsTo d p q) {s : String}
    (hs : Path.IsPlain s) :
    ∃ rs,
      (∃ e, e ≠ .notFound ∧ d.makeDirectory (p.join s) = (.error e, { d with refusals := rs }))
        ∨ d.locate (p.join s) = .ok (q ++ [s]) ∧ d.entry? (q ++ [s]) = none
          ∧ d.makeDirectory (p.join s)
              = (.ok (), put { d with refusals := rs } (q ++ [s]) .directory) := by
  have hwalk : d.walk (p.join s) (p.join s).names = d.locate (p.join s) := by
    rw [locate, Path.steps_join hp.named hs.1, Path.names_join hp.named hs.1]
  rw [makeDirectory, hwalk]
  rcases locate_join_cases hp hs with hok | ⟨e, herr, he⟩
  · rw [hok]
    dsimp only
    cases hx : d.entry? (q ++ [s]) with
    | some x => exact ⟨d.refusals, Or.inl ⟨.alreadyExists, by decide, rfl⟩⟩
    | none =>
      obtain ⟨r, rs, hnext⟩ := d.exists_nextRefusal
      refine ⟨rs, ?_⟩
      dsimp only
      rw [hnext]
      cases r with
      | none => exact Or.inr ⟨rfl, rfl, rfl⟩
      | some n => exact Or.inl ⟨.noSpace, by decide, rfl⟩
  · rw [herr]
    exact ⟨d.refusals, Or.inl ⟨e, he, rfl⟩⟩

/-- To make a directory below one that is there is to try it once, and to look if it is there if
this failed. -/
theorem makeDirectories_join_eq {d : Disk} {p : Path} {q : Place} (hp : LeadsTo d p q) {s : String}
    (hs : Path.IsPlain s) :
    d.makeDirectories (p.join s) = unlessThere (p.join s) (d.makeDirectory (p.join s)) := by
  have hempty : ¬(p.join s).text.isEmpty = true := by
    rw [String.isEmpty_iff]
    exact Path.text_join_ne_empty hp.named hs.1
  rw [makeDirectories, makeUpTo, if_neg hempty]
  obtain ⟨rs, ⟨e, he, hfail⟩ | ⟨-, -, hdone⟩⟩ := makeDirectory_join hp hs
  · rw [hfail]
    cases e <;> first | rfl | exact absurd rfl he
  · rw [hdone]

theorem leadsTo_of_isDirectory {d : Disk} {p : Path} {q : Place} (hp : LeadsTo d p q) {s : String}
    (hs : Path.IsPlain s) (h : d.isDirectory (p.join s) = true) :
    LeadsTo d (p.join s) (q ++ [s]) := by
  cases hx : d.locate (p.join s) with
  | error e =>
    rw [isDirectory, lookup, hx] at h
    cases h
  | ok x =>
    have hxq := locate_join_eq hp hs hx
    subst hxq
    refine ⟨hx, ?_⟩
    rw [isDirectory, lookup, hx] at h
    simp only [bind, Except.bind] at h
    split at h
    · rename_i hdir
      split at hdir
      · rename_i hentry
        rw [hentry, Except.ok.inj hdir]
      · cases hdir
    · cases h

/-- Making a directory below one that is there changes nothing else.  If it succeeds, the path
leads there, and if it fails, nothing has happened. -/
theorem makeDirectories_join {d : Disk} (h : d.IsTree) {p : Path} {q : Place}
    (hp : LeadsTo d p q) {s : String} (hs : Path.IsPlain s) :
    Within (q ++ [s]) d (d.makeDirectories (p.join s)).2
      ∧ (∀ x, x ≠ q ++ [s] → entry? (d.makeDirectories (p.join s)).2 x = d.entry? x)
      ∧ ((d.makeDirectories (p.join s)).1 = .ok () →
          LeadsTo (d.makeDirectories (p.join s)).2 (p.join s) (q ++ [s]))
      ∧ (∀ e, (d.makeDirectories (p.join s)).1 = .error e →
          entry? (d.makeDirectories (p.join s)).2 (q ++ [s]) = d.entry? (q ++ [s])) := by
  have hne : q ++ [s] ≠ [] := List.append_ne_nil_of_right_ne_nil _ (List.cons_ne_nil _ _)
  rw [makeDirectories_join_eq hp hs]
  obtain ⟨rs, ⟨e, he, hfail⟩ | ⟨hlocate, hnone, hdone⟩⟩ := makeDirectory_join hp hs
  · -- The directory may be there all the same.
    have hwithin : Within (q ++ [s]) d { d with refusals := rs } := Within.refusals h rs
    rw [hfail]
    refine ⟨hwithin, fun x _ => rfl, fun hok => ?_, fun e _ => rfl⟩
    refine leadsTo_of_isDirectory (hp.mono hwithin.directories) hs ?_
    by_contra hno
    rw [unlessThere, if_neg hno] at hok
    cases hok
  · have hrefusals : Within (q ++ [s]) d { d with refusals := rs } := Within.refusals h rs
    have hwithin : Within (q ++ [s]) d (put { d with refusals := rs } (q ++ [s]) .directory) := by
      refine hrefusals.trans (Within.put hrefusals.tree (List.prefix_refl _) ?_ ?_ _)
      · rw [entry?_refusals, hnone]
        exact Option.some_ne_none _ ∘ Eq.symm
      · rw [List.dropLast_concat, entry?_refusals, hp.directory]
    rw [hdone, unlessThere]
    refine ⟨hwithin, fun x hx => ?_, fun _ => ?_, fun e herr => by cases herr⟩
    · rw [entry?_put _ hne, if_neg hx, entry?_refusals]
    · refine ⟨?_, ?_⟩
      · rw [locate_join_congr hp (hp.mono hwithin.directories) hs, hlocate]
      · rw [entry?_put _ hne, if_pos rfl]

/-- Writing to a file in a directory changes nothing else, and the file holds what was written
if it succeeds. -/
theorem write_join {d : Disk} (h : d.IsTree) {p : Path} {q r : Place} (hp : LeadsTo d p q)
    {s : String} (hs : Path.IsPlain s) (hr : r <+: q ++ [s]) (content : ByteArray) :
    Within r d (d.write (p.join s) content).2
      ∧ (∀ x, x ≠ q ++ [s] → entry? (d.write (p.join s) content).2 x = d.entry? x)
      ∧ ((d.write (p.join s) content).1 = .ok () →
          entry? (d.write (p.join s) content).2 (q ++ [s]) = some (.file content)) := by
  rw [write]
  cases ht : d.target (p.join s) with
  | error e => exact ⟨Within.refl h, fun _ _ => rfl, fun hok => by cases hok⟩
  | ok t =>
    obtain ⟨x, old⟩ := t
    obtain ⟨hx, hdir, hparent⟩ := target_eq_ok h ht
    have hxq := locate_join_eq hp hs hx
    subst hxq
    have hstore := store_spec h hr hdir hparent ByteArray.empty content
    rwa [ByteArray.empty_append] at hstore

/-- Adding to a file in a directory changes nothing else. -/
theorem append_join {d : Disk} (h : d.IsTree) {p : Path} {q r : Place} (hp : LeadsTo d p q)
    {s : String} (hs : Path.IsPlain s) (hr : r <+: q ++ [s]) (content : ByteArray) :
    Within r d (d.append (p.join s) content).2
      ∧ (∀ x, x ≠ q ++ [s] → entry? (d.append (p.join s) content).2 x = d.entry? x) := by
  rw [append]
  cases ht : d.target (p.join s) with
  | error e => exact ⟨Within.refl h, fun _ _ => rfl⟩
  | ok t =>
    obtain ⟨x, old⟩ := t
    obtain ⟨hx, hdir, hparent⟩ := target_eq_ok h ht
    have hxq := locate_join_eq hp hs hx
    subst hxq
    have hstore := store_spec h hr hdir hparent old content
    exact ⟨hstore.1, hstore.2.1⟩

/-- What was added to a file is behind what was in it. -/
theorem readBytes_append_join {d : Disk} (h : d.IsTree) {p : Path} {q : Place} (hp : LeadsTo d p q)
    {s : String} (hs : Path.IsPlain s) {content : ByteArray}
    (hok : (d.append (p.join s) content).1 = .ok ()) :
    (d.append (p.join s) content).2.readBytes (p.join s)
      = .ok ((d.readBytes (p.join s)).toOption.getD ByteArray.empty ++ content) := by
  have hin := (append_join h hp hs (List.prefix_refl _) content).1
  have hlocate := locate_join_congr hp (hp.mono hin.directories) hs
  rw [append] at hok hin hlocate ⊢
  cases ht : d.target (p.join s) with
  | error e =>
    rw [ht] at hok
    cases hok
  | ok t =>
    obtain ⟨x, old⟩ := t
    rw [ht] at hok hin hlocate
    obtain ⟨hx, hdir, hparent⟩ := target_eq_ok h ht
    obtain ⟨-, -, hfile⟩ := store_spec h (List.prefix_refl x) hdir hparent old content
    have hold : (d.readBytes (p.join s)).toOption.getD ByteArray.empty = old := by
      rw [target, hx] at ht
      rw [readBytes, lookup, hx]
      simp only [bind, Except.bind] at ht ⊢
      cases he : d.entry? x with
      | none =>
        rw [he, hparent] at ht
        cases ht
        rfl
      | some e =>
        rw [he] at ht
        cases e with
        | file content => cases ht; rfl
        | directory => cases ht
    dsimp only at hok hlocate ⊢
    rw [hold, readBytes, lookup, hlocate, hx]
    simp only [bind, Except.bind, hfile hok]

/-- Giving a file another name fails and changes nothing but the refusals, or the file has left
its place and what it held is at the other one. -/
theorem rename_cases (d : Disk) (p p' : Path) :
    ∃ rs,
      (∃ e, d.rename p p' = (.error e, { d with refusals := rs }))
        ∨ ∃ x y old content, d.locate p = .ok x ∧ d.target p' = .ok (y, old)
          ∧ d.entry? x = some (.file content)
          ∧ d.rename p p' = (.ok (), put (erase { d with refusals := rs } x) y (.file content)) := by
  rw [rename]
  cases hx : d.locate p with
  | error e => exact ⟨d.refusals, Or.inl ⟨e, rfl⟩⟩
  | ok x =>
    cases hy : d.target p' with
    | error e => exact ⟨d.refusals, Or.inl ⟨e, rfl⟩⟩
    | ok y =>
      obtain ⟨y, old⟩ := y
      simp only [bind, Except.bind]
      cases hfile : d.entry? x with
      | none => exact ⟨d.refusals, Or.inl ⟨.notFound, rfl⟩⟩
      | some e =>
        cases e with
        | directory => exact ⟨d.refusals, Or.inl ⟨.isDirectory, rfl⟩⟩
        | file content =>
          obtain ⟨n, rs, hnext⟩ := d.exists_nextRefusal
          rw [hnext]
          refine ⟨rs, ?_⟩
          cases n with
          | some n => exact Or.inl ⟨.noSpace, rfl⟩
          | none => exact Or.inr ⟨x, y, old, content, rfl, rfl, hfile, rfl⟩

/-- Giving a file in a directory another name there changes nothing else.  If it succeeds, what
the file held is found under the new name, and if it fails, nothing has happened. -/
theorem rename_join {d : Disk} (h : d.IsTree) {p : Path} {q r : Place} (hp : LeadsTo d p q)
    {s t : String} (hs : Path.IsPlain s) (ht : Path.IsPlain t) (hst : s ≠ t) (hr : r <+: q) :
    Within r d (d.rename (p.join s) (p.join t)).2
      ∧ ((d.rename (p.join s) (p.join t)).1 = .ok () →
          d.locate (p.join t) = .ok (q ++ [t])
            ∧ entry? (d.rename (p.join s) (p.join t)).2 (q ++ [t]) = d.entry? (q ++ [s]))
      ∧ (∀ e, (d.rename (p.join s) (p.join t)).1 = .error e →
          ∀ x, entry? (d.rename (p.join s) (p.join t)).2 x = d.entry? x)
      ∧ (∀ x, x ≠ q ++ [s] → x ≠ q ++ [t] →
          entry? (d.rename (p.join s) (p.join t)).2 x = d.entry? x) := by
  have hnot : ¬q ++ [s] <+: q ++ [t] := by
    rw [List.prefix_append_right_inj]
    rintro ⟨l, hl⟩
    exact hst (List.cons.inj hl).1
  have hshort : ¬q ++ [s] <+: q := fun hpre => by
    have := hpre.length_le
    rw [List.length_append, List.length_singleton] at this
    omega
  have hne : ∀ n, q ++ [n] ≠ [] := fun n =>
    List.append_ne_nil_of_right_ne_nil _ (List.cons_ne_nil _ _)
  obtain ⟨rs, ⟨e, hfail⟩ | ⟨x, y, old, content, hx, hy, hfile, hdone⟩⟩ :=
    d.rename_cases (p.join s) (p.join t)
  · rw [hfail]
    exact ⟨Within.refusals h rs, fun hok => (by cases hok), fun _ _ _ => rfl, fun _ _ _ => rfl⟩
  · have hxq := locate_join_eq hp hs hx
    obtain ⟨hlocate, hdir, hparent⟩ := target_eq_ok h hy
    have hyq := locate_join_eq hp ht hlocate
    subst hxq hyq
    have hstay : Within r d { d with refusals := rs } := Within.refusals h rs
    rw [hdone]
    have herase := Within.erase (d := { d with refusals := rs }) hstay.tree
      (hr.trans (List.prefix_append q [s])) hfile
    have hput := Within.put (p := q ++ [t]) herase.tree (hr.trans (List.prefix_append q [t]))
      (by rw [entry?_erase _ (hne s), if_neg hnot]; exact hdir)
      (by rw [List.dropLast_concat, entry?_erase _ (hne s), if_neg hshort]
          exact hp.directory)
      (.file content)
    refine ⟨hstay.trans (herase.trans hput), fun _ => ⟨hlocate, ?_⟩, fun _ herr => ?_,
      fun x hxs hxt => ?_⟩
    · rw [entry?_put _ (hne t), if_pos rfl, hfile]
    · cases herr
    · rw [entry?_put _ (hne t), if_neg hxt, entry?_erase _ (hne s), entry?_refusals]
      split
      · -- There is nothing below a file.
        rename_i hpre
        obtain ⟨r, rfl⟩ := hpre
        have hr : r ≠ [] := fun h0 => hxs (by rw [h0, List.append_nil])
        by_contra hsome
        have habove := h.above hr (Ne.symm hsome)
        rw [hfile] at habove
        cases habove
      · rfl

end Disk
end ScriptedChat
