import ScriptedChat.Proofs.Disk.Change

/-!
# One branch of two disks

Two disks may have the same at a place and below it, and be different elsewhere.  If they also
refuse the same writes (`Disk.SameBelow`), then what is done with names in this branch comes to the
same on both, and leaves the branches the same (`Disk.Together`).

* `Disk.SameBelow`, `Disk.Together`: what is the same.
* `Disk.SameBelow.makeDirectories`, `write`, `append`, `rename`: the operations.
-/

namespace ScriptedChat
namespace Disk

/-- Two disks have the same at a place and below it, and the same writes will be refused. -/
structure SameBelow (q : Place) (d d' : Disk) : Prop where
  refusals : d'.refusals = d.refusals
  entry : ∀ x, q <+: x → d'.entry? x = d.entry? x

/-- What was done on two disks has come to the same, and left the same at a place and below it. -/
def Together {ε α : Type} (q : Place) (p p' : Except ε α × Disk) : Prop :=
  p'.1 = p.1 ∧ SameBelow q p.2 p'.2

/-- A file in a directory is written at its own place. -/
theorem place_of_target {d : Disk} {p : Path} {q x : Place} {s : String} {old : ByteArray}
    (hp : LeadsTo d p q) (hs : Path.IsPlain s) (ht : d.target (p.join s) = .ok (x, old)) :
    x = q ++ [s] := by
  rw [target] at ht
  cases hx : d.locate (p.join s) with
  | error e =>
    rw [hx] at ht
    cases ht
  | ok y =>
    have hy := locate_join_eq hp hs hx
    simp only [hx, bind, Except.bind] at ht
    split at ht
    · cases ht
      exact hy
    · cases ht
    · split at ht
      · cases ht
        exact hy
      · cases ht
      · cases ht

theorem ne_nil_of_target {d : Disk} {p : Path} {q x : Place} {s : String} {old : ByteArray}
    (hp : LeadsTo d p q) (hs : Path.IsPlain s) (ht : d.target (p.join s) = .ok (x, old)) :
    x ≠ [] := by
  rw [place_of_target hp hs ht]
  exact List.append_ne_nil_of_right_ne_nil _ (List.cons_ne_nil _ _)

namespace SameBelow

variable {q : Place} {d d' : Disk} (h : SameBelow q d d')
include h

theorem nextRefusal :
    ∃ r e e', d.nextRefusal = (r, e) ∧ d'.nextRefusal = (r, e') ∧ SameBelow q e e' := by
  rw [Disk.nextRefusal, Disk.nextRefusal, h.refusals]
  cases hr : d.refusals with
  | nil => exact ⟨_, _, _, rfl, rfl, h⟩
  | cons r rs => exact ⟨_, _, _, rfl, rfl, rfl, h.entry⟩

theorem put {p : Place} (hp : p ≠ []) (e : Entry) : SameBelow q (d.put p e) (d'.put p e) := by
  refine ⟨h.refusals, fun x hx => ?_⟩
  rw [entry?_put _ hp, entry?_put _ hp, h.entry x hx]

theorem erase {p : Place} (hp : p ≠ []) : SameBelow q (d.erase p) (d'.erase p) := by
  refine ⟨h.refusals, fun x hx => ?_⟩
  rw [entry?_erase _ hp, entry?_erase _ hp, h.entry x hx]

theorem store {p : Place} (hp : p ≠ []) (old new : ByteArray) :
    Together q (d.store p old new) (d'.store p old new) := by
  obtain ⟨r, e, e', he, he', hsame⟩ := h.nextRefusal
  rw [Disk.store, Disk.store, he, he']
  cases r with
  | none => exact ⟨rfl, hsame.put hp _⟩
  | some n => exact ⟨rfl, hsame.put hp _⟩

/-- What a file in a directory of the branch is written at. -/
theorem target {p : Path} {r : Place} (hq : q <+: r) (hp : LeadsTo d p r) (hp' : LeadsTo d' p r)
    {s : String} (hs : Path.IsPlain s) : d'.target (p.join s) = d.target (p.join s) := by
  rw [Disk.target, Disk.target, locate_join_congr hp hp' hs]
  cases hx : d.locate (p.join s) with
  | error e => rfl
  | ok x =>
    have hxr := locate_join_eq hp hs hx
    subst hxr
    simp only [bind, Except.bind, h.entry _ (hq.trans (List.prefix_append r [s])),
      List.dropLast_concat, hp.directory, hp'.directory]

theorem write {p : Path} {r : Place} (hq : q <+: r) (hp : LeadsTo d p r) (hp' : LeadsTo d' p r)
    {s : String} (hs : Path.IsPlain s) (content : ByteArray) :
    Together q (d.write (p.join s) content) (d'.write (p.join s) content) := by
  rw [Disk.write, Disk.write, h.target hq hp hp' hs]
  cases ht : d.target (p.join s) with
  | error e => exact ⟨rfl, h⟩
  | ok t =>
    obtain ⟨x, old⟩ := t
    exact h.store (ne_nil_of_target hp hs ht) ByteArray.empty content

theorem append {p : Path} {r : Place} (hq : q <+: r) (hp : LeadsTo d p r) (hp' : LeadsTo d' p r)
    {s : String} (hs : Path.IsPlain s) (content : ByteArray) :
    Together q (d.append (p.join s) content) (d'.append (p.join s) content) := by
  rw [Disk.append, Disk.append, h.target hq hp hp' hs]
  cases ht : d.target (p.join s) with
  | error e => exact ⟨rfl, h⟩
  | ok t =>
    obtain ⟨x, old⟩ := t
    exact h.store (ne_nil_of_target hp hs ht) old content

theorem rename {p : Path} {r : Place} (hq : q <+: r) (hp : LeadsTo d p r) (hp' : LeadsTo d' p r)
    {s t : String} (hs : Path.IsPlain s) (ht : Path.IsPlain t) :
    Together q (d.rename (p.join s) (p.join t)) (d'.rename (p.join s) (p.join t)) := by
  rw [Disk.rename, Disk.rename, h.target hq hp hp' ht, locate_join_congr hp hp' hs]
  cases hx : d.locate (p.join s) with
  | error e => exact ⟨rfl, h⟩
  | ok x =>
    have hxr := locate_join_eq hp hs hx
    subst hxr
    cases hy : d.target (p.join t) with
    | error e => exact ⟨rfl, h⟩
    | ok y =>
      obtain ⟨y, old⟩ := y
      have hne : r ++ [s] ≠ [] := List.append_ne_nil_of_right_ne_nil _ (List.cons_ne_nil _ _)
      have hney := ne_nil_of_target hp ht hy
      obtain ⟨n, e, e', he, he', hsame⟩ := h.nextRefusal
      simp only [bind, Except.bind, h.entry _ (hq.trans (List.prefix_append r [s]))]
      cases d.entry? (r ++ [s]) with
      | none => exact ⟨rfl, h⟩
      | some x =>
        cases x with
        | directory => exact ⟨rfl, h⟩
        | file content =>
          simp only [he, he']
          cases n with
          | none => exact ⟨rfl, (hsame.erase hne).put hney _⟩
          | some n => exact ⟨rfl, hsame⟩

end SameBelow

/-- Whether a directory in a directory is there depends on its own branch. -/
theorem SameBelow.isDirectory {d d' : Disk} {p : Path} {r : Place} {s : String}
    (h : SameBelow (r ++ [s]) d d') (hp : LeadsTo d p r) (hp' : LeadsTo d' p r)
    (hs : Path.IsPlain s) : d'.isDirectory (p.join s) = d.isDirectory (p.join s) := by
  rw [Disk.isDirectory, Disk.isDirectory, lookup, lookup, locate_join_congr hp hp' hs]
  cases hx : d.locate (p.join s) with
  | error e => rfl
  | ok x =>
    have hxr := locate_join_eq hp hs hx
    subst hxr
    simp only [bind, Except.bind, h.entry _ (List.prefix_refl _)]

theorem SameBelow.makeDirectories {d d' : Disk} {p : Path} {r : Place} {s : String}
    (h : SameBelow (r ++ [s]) d d') (hp : LeadsTo d p r) (hp' : LeadsTo d' p r)
    (hs : Path.IsPlain s) :
    Together (r ++ [s]) (d.makeDirectories (p.join s)) (d'.makeDirectories (p.join s)) := by
  have hwalk : ∀ {d₀ : Disk}, LeadsTo d₀ p r →
      d₀.walk (p.join s) (p.join s).names = d₀.locate (p.join s) := by
    intro d₀ h₀
    rw [locate, Path.steps_join h₀.named hs.1, Path.names_join h₀.named hs.1]
  -- What comes of a failure is whether the directory is there all the same.
  have hfailed : ∀ {e e' : Disk} (err : IoError), SameBelow (r ++ [s]) e e' → LeadsTo e p r →
      LeadsTo e' p r → Together (r ++ [s]) (unlessThere (p.join s) (.error err, e))
        (unlessThere (p.join s) (.error err, e')) := by
    intro e e' err hsame he he'
    refine ⟨?_, hsame⟩
    rw [unlessThere, unlessThere, hsame.isDirectory he he' hs]
  have hleads : ∀ {d₀ e : Disk} {n : Option Nat}, LeadsTo d₀ p r → d₀.nextRefusal = (n, e) →
      LeadsTo e p r := by
    intro d₀ e n h₀ he
    obtain ⟨r, rs, hnext⟩ := d₀.exists_nextRefusal
    rw [hnext] at he
    cases he
    exact h₀.mono fun _ hq => hq
  rw [makeDirectories_join_eq hp hs, makeDirectories_join_eq hp' hs, makeDirectory, makeDirectory,
    hwalk hp, hwalk hp', locate_join_congr hp hp' hs]
  cases hx : d.locate (p.join s) with
  | error err => exact hfailed err h hp hp'
  | ok x =>
    have hxr := locate_join_eq hp hs hx
    subst hxr
    dsimp only
    rw [h.entry _ (List.prefix_refl _)]
    cases d.entry? (r ++ [s]) with
    | some _ => exact hfailed .alreadyExists h hp hp'
    | none =>
      obtain ⟨n, e, e', he, he', hsame⟩ := h.nextRefusal
      dsimp only
      rw [he, he']
      cases n with
      | none =>
        exact ⟨rfl, hsame.put (List.append_ne_nil_of_right_ne_nil _ (List.cons_ne_nil _ _)) _⟩
      | some n => exact hfailed .noSpace hsame (hleads hp he) (hleads hp' he')

end Disk
end ScriptedChat
