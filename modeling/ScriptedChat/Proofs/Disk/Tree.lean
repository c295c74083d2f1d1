import Mathlib.Data.List.Induction
import Mathlib.Data.List.Nodup
import ScriptedChat.Disk

/-!
# Disks that are trees

A disk is a flat list of entries.  It is a *tree* if no place has two entries and if every
entry stands in a directory (`Disk.IsTree`), and every operation on files leaves a tree a
tree.

What an operation does to a tree is said once, by the place it works below: everything
else stays as it is, and no directory is lost (`Disk.Within`).  The second part is what
keeps paths: a path that leads somewhere is not cut by what happens elsewhere.

* `Disk.entry?_put`, `Disk.entry?_erase`: what is found after a change.
* `Disk.IsTree`, `Disk.mem_entries`: trees.
* `Disk.Within`: a change below a place.
* `Disk.Within.put`, `Disk.Within.erase`: the changes.
-/

namespace ScriptedChat
namespace Disk

/-! ## What is found -/

theorem entry?_nil (d : Disk) : d.entry? [] = some .directory := if_pos rfl

/-- Refusals have nothing to do with what is there. -/
theorem entry?_refusals (d : Disk) (rs : List (Option Nat)) (q : Place) :
    entry? { d with refusals := rs } q = d.entry? q := rfl

theorem find?_filter_ne {p q : Place} (h : q ≠ p) (l : List (Place × Entry)) :
    (l.filter fun x => x.1 ≠ p).find? (fun x => x.1 = q) = l.find? fun x => x.1 = q := by
  rw [List.find?_filter]
  congr 1
  funext x
  by_cases hx : x.1 = q
  · simp [hx, h]
  · simp [hx]

theorem entry?_put (d : Disk) {p : Place} (hp : p ≠ []) (e : Entry) (q : Place) :
    entry? (d.put p e) q = if q = p then some e else d.entry? q := by
  by_cases hq : q = p
  · subst hq
    unfold entry?
    simp [put, hp]
  · unfold entry?
    rw [if_neg hq, put, List.find?_cons_of_neg (by simpa using Ne.symm hq),
      find?_filter_ne hq]

theorem entry?_erase (d : Disk) {p : Place} (hp : p ≠ []) (q : Place) :
    entry? (d.erase p) q = if p <+: q then none else d.entry? q := by
  by_cases hq : q = []
  · subst hq
    rw [entry?_nil, if_neg (by simpa using hp), entry?_nil]
  · unfold entry?
    rw [if_neg hq, if_neg hq, erase, List.find?_filter]
    by_cases hpq : p <+: q
    · rw [if_pos hpq, Option.map_eq_none_iff, List.find?_eq_none]
      rintro ⟨x, e⟩ - hx
      simp only [Bool.not_eq_true', decide_eq_true_eq] at hx
      rw [hx.2, ← Bool.not_eq_true, List.isPrefixOf_iff_prefix] at hx
      exact hx.1 hpq
    · rw [if_neg hpq]
      congr 2
      funext x
      by_cases hx : x.1 = q
      · have hno : p.isPrefixOf x.1 = false := by
          rw [← Bool.not_eq_true, List.isPrefixOf_iff_prefix, hx]
          exact hpq
        simp [hx, hx ▸ hno]
      · simp [hx]

/-! ## Trees -/

/-- No place has two entries, and every entry is in a directory. -/
structure IsTree (d : Disk) : Prop where
  nodup : (d.entries.map (·.1)).Nodup
  parent : ∀ p, d.entry? p ≠ none → d.entry? p.dropLast = some .directory

/-- In a tree an entry is found at its place. -/
theorem mem_entries {d : Disk} (h : d.IsTree) {p : Place} (hp : p ≠ []) {e : Entry} :
    (p, e) ∈ d.entries ↔ d.entry? p = some e := by
  unfold entry?
  rw [if_neg hp, Option.map_eq_some_iff]
  constructor
  · intro hmem
    refine ⟨(p, e), ?_, rfl⟩
    obtain ⟨x, hx⟩ : ∃ x, d.entries.find? (fun x => x.1 = p) = some x := by
      rw [← Option.isSome_iff_exists, List.find?_isSome]
      exact ⟨_, hmem, decide_eq_true rfl⟩
    have hkey : x.1 = p := by simpa using List.find?_some hx
    have hmem' := List.mem_of_find?_eq_some hx
    have := List.inj_on_of_nodup_map h.nodup hmem' hmem hkey
    rw [hx, this]
  · rintro ⟨⟨x, e'⟩, hx, rfl⟩
    have hkey : x = p := by simpa using List.find?_some hx
    subst hkey
    exact List.mem_of_find?_eq_some hx

/-- What has something below it is a directory. -/
theorem IsTree.above {d : Disk} (h : d.IsTree) {p r : Place} (hr : r ≠ [])
    (hpr : d.entry? (p ++ r) ≠ none) : d.entry? p = some .directory := by
  induction r using List.reverseRecOn with
  | nil => exact absurd rfl hr
  | append_singleton r n ih =>
    have hparent : d.entry? (p ++ r) = some .directory := by
      have := h.parent _ hpr
      rwa [← List.append_assoc, List.dropLast_concat] at this
    by_cases hr' : r = []
    · rwa [hr', List.append_nil] at hparent
    · exact ih hr' (by rw [hparent]; exact Option.some_ne_none _)

/-- An empty disk is a tree. -/
theorem isTree_empty : empty.IsTree := by
  refine ⟨List.nodup_nil, fun p hp => ?_⟩
  have : p = [] := by
    by_contra h
    apply hp
    unfold entry?
    rw [if_neg h]
    rfl
  rw [this]
  rfl

theorem nodup_put {d : Disk} (h : d.IsTree) (p : Place) (e : Entry) :
    ((d.put p e).entries.map (·.1)).Nodup := by
  rw [put, List.map_cons, List.nodup_cons]
  refine ⟨?_, h.nodup.sublist (List.filter_sublist.map _)⟩
  intro hmem
  obtain ⟨x, hx, hxp⟩ := List.mem_map.mp hmem
  have := (List.mem_filter.mp hx).2
  simp [hxp] at this

/-- A tree with something more in one of its directories, or with something else in the
place of a file, is a tree. -/
theorem IsTree.put {d : Disk} (h : d.IsTree) {p : Place} (hp : d.entry? p ≠ some .directory)
    (hparent : d.entry? p.dropLast = some .directory) (e : Entry) : (d.put p e).IsTree := by
  have hne : p ≠ [] := fun h0 => hp (h0 ▸ d.entry?_nil)
  refine ⟨nodup_put h p e, fun q hq => ?_⟩
  have hq' : d.entry? q.dropLast = some .directory := by
    rw [entry?_put d hne] at hq
    by_cases hqp : q = p
    · rw [hqp]
      exact hparent
    · rw [if_neg hqp] at hq
      exact h.parent q hq
  rw [entry?_put d hne, if_neg, hq']
  intro hqp
  exact hp (hqp ▸ hq')

/-- A tree without one of its branches is a tree. -/
theorem IsTree.erase {d : Disk} (h : d.IsTree) {p : Place} (hp : p ≠ []) :
    (d.erase p).IsTree := by
  refine ⟨h.nodup.sublist (List.filter_sublist.map _), fun q hq => ?_⟩
  rw [entry?_erase d hp] at hq ⊢
  have hpq : ¬p <+: q := fun hpq => hq (if_pos hpq)
  rw [if_neg hpq] at hq
  rw [if_neg (fun hpq' => hpq (hpq'.trans (List.dropLast_prefix q)))]
  exact h.parent q hq

/-! ## Changes below a place -/

/-- The tree `d'` is what `d` became by a change at `q` and below: elsewhere nothing is
different, and no directory is lost. -/
structure Within (q : Place) (d d' : Disk) : Prop where
  tree : d'.IsTree
  directories : ∀ p, d.entry? p = some .directory → d'.entry? p = some .directory
  outside : ∀ p, ¬q <+: p → d'.entry? p = d.entry? p

namespace Within

variable {q : Place} {d d' d'' : Disk}

theorem refl (h : d.IsTree) : Within q d d := ⟨h, fun _ hp => hp, fun _ _ => rfl⟩

theorem trans (h : Within q d d') (h' : Within q d' d'') : Within q d d'' :=
  ⟨h'.tree, fun p hp => h'.directories p (h.directories p hp),
    fun p hp => (h'.outside p hp).trans (h.outside p hp)⟩

/-- A write that was refused, or not, changes nothing else. -/
theorem refusals (h : d.IsTree) (rs : List (Option Nat)) :
    Within q d { d with refusals := rs } := ⟨⟨h.nodup, h.parent⟩, fun _ hp => hp, fun _ _ => rfl⟩

/-- Something new is put below `q`, or a file there is replaced. -/
theorem put (h : d.IsTree) {p : Place} (hq : q <+: p) (hp : d.entry? p ≠ some .directory)
    (hparent : d.entry? p.dropLast = some .directory) (e : Entry) : Within q d (d.put p e) := by
  have hne : p ≠ [] := fun h0 => hp (h0 ▸ d.entry?_nil)
  refine ⟨h.put hp hparent e, fun x hx => ?_, fun x hx => ?_⟩
  · rw [entry?_put d hne, if_neg, hx]
    intro hxp
    exact hp (hxp ▸ hx)
  · rw [entry?_put d hne, if_neg]
    intro hxp
    exact hx (hxp ▸ hq)

/-- A file below `q` is erased. -/
theorem erase (h : d.IsTree) {p : Place} (hq : q <+: p) {content : ByteArray}
    (hp : d.entry? p = some (.file content)) : Within q d (d.erase p) := by
  have hne : p ≠ [] := by
    intro h0
    rw [h0, entry?_nil] at hp
    cases hp
  refine ⟨h.erase hne, fun x hx => ?_, fun x hx => ?_⟩
  · rw [entry?_erase d hne, if_neg, hx]
    rintro ⟨r, rfl⟩
    by_cases hr : r = []
    · rw [hr, List.append_nil, hp] at hx
      cases hx
    · have habove := h.above hr (by rw [hx]; exact Option.some_ne_none _)
      rw [hp] at habove
      cases habove
  · rw [entry?_erase d hne, if_neg]
    intro hpx
    exact hx (hq.trans hpx)

end Within

end Disk
end ScriptedChat
