import Mathlib.Data.List.Induction
import Mathlib.Data.List.Nodup
import ScriptedChat.Scenario.Basic

/-!
# A later entry in the place of an earlier one

Steps and actions are put into their lists one after the other with `putBy`.  Of several
entries of one key the last one is kept, and it stands where the first one stood.  That is two
statements, and together they determine the list:

* `map_putAll`: the keys are those of the entries, each once, in order of first appearance;
* `mem_putAll_iff`: the entries kept are those after which their key does not come again
  (`IsLastOf`).

So the order of the list is not that of the entries that are kept, but that in which their keys
first appear (`pairwise_putAll`).

Entries are usually read off something else, and reading may fail.  If it did not,
`isLastOf_of_map_eq` says what is kept in terms of what was read.
-/

namespace ScriptedChat

variable {α β ε κ : Type} {key : α → κ} {a b : α} {l : List α}

/-- The key of an entry does not come again after it. -/
def IsLastOf (key : α → κ) (l : List α) (a : α) : Prop :=
  ∃ front back, l = front ++ a :: back ∧ ∀ b ∈ back, key b ≠ key a

/-- At the end of a list there is an entry that is the last of its key. -/
theorem isLastOf_concat_self (key : α → κ) (l : List α) (a : α) : IsLastOf key (l ++ [a]) a :=
  ⟨l, [], rfl, fun _ hb => absurd hb List.not_mem_nil⟩

/-- What is the last of its key stays so if entries of other keys follow. -/
theorem isLastOf_concat_iff :
    IsLastOf key (l ++ [a]) b ↔ b = a ∨ IsLastOf key l b ∧ key b ≠ key a := by
  constructor
  · rintro ⟨front, back, heq, hback⟩
    induction back using List.reverseRecOn with
    | nil => exact Or.inl (List.singleton_inj.mp (List.append_inj_right' heq rfl)).symm
    | append_singleton back c =>
      rw [← List.cons_append, ← List.append_assoc] at heq
      obtain ⟨hl, hc⟩ := List.append_inj' heq rfl
      rw [List.singleton_inj] at hc
      refine Or.inr ⟨⟨front, back, hl, fun d hd => hback d (List.mem_append_left _ hd)⟩, ?_⟩
      rw [hc]
      exact (hback c (List.mem_append_right _ (List.mem_singleton_self c))).symm
  · rintro (rfl | ⟨⟨front, back, rfl, hback⟩, hne⟩)
    · exact isLastOf_concat_self key l b
    · refine ⟨front, back ++ [a], by rw [List.append_assoc, List.cons_append], ?_⟩
      intro c hc
      rcases List.mem_append.mp hc with hc | hc
      · exact hback c hc
      · rw [List.mem_singleton.mp hc]
        exact hne.symm

/-- Of each key there is one last entry. -/
theorem IsLastOf.eq_of_key_eq (ha : IsLastOf key l a) (hb : IsLastOf key l b)
    (hkey : key a = key b) : a = b := by
  induction l using List.reverseRecOn with
  | nil =>
    obtain ⟨front, back, h, -⟩ := ha
    exact absurd h.symm (List.append_ne_nil_of_right_ne_nil _ (List.cons_ne_nil _ _))
  | append_singleton l c ih =>
    rcases isLastOf_concat_iff.mp ha with rfl | ⟨ha, hac⟩
    · rcases isLastOf_concat_iff.mp hb with rfl | ⟨-, hba⟩
      · rfl
      · exact absurd hkey.symm hba
    · rcases isLastOf_concat_iff.mp hb with rfl | ⟨hb, -⟩
      · exact absurd hkey hac
      · exact ih ha hb

theorem IsLastOf.mem (h : IsLastOf key l a) : a ∈ l := by
  obtain ⟨front, back, rfl, -⟩ := h
  exact List.mem_append_right _ List.mem_cons_self

/-- The keys of entries, in terms of what the entries were read off. -/
theorem map_key_of_map_eq {k : β → κ} {f : β → Except ε α} {bs : List β}
    (hread : bs.map f = l.map Except.ok) (hkey : ∀ b a, f b = .ok a → key a = k b) :
    l.map key = bs.map k := by
  induction bs generalizing l with
  | nil =>
    rw [List.map_nil, eq_comm, List.map_eq_nil_iff] at hread
    rw [hread]
    rfl
  | cons b bs ih =>
    rw [eq_comm] at hread
    obtain ⟨a, as, rfl, ha, has⟩ := List.map_eq_cons_iff.mp hread
    rw [List.map_cons, List.map_cons, hkey b a ha.symm, ih has.symm]

/-- **What is kept, in terms of what the entries were read off.** -/
theorem isLastOf_of_map_eq {k : β → κ} {f : β → Except ε α} {bs : List β}
    (hread : bs.map f = l.map Except.ok) (hkey : ∀ b a, f b = .ok a → key a = k b) :
    IsLastOf key l a ↔ ∃ b, IsLastOf k bs b ∧ f b = .ok a := by
  constructor
  · rintro ⟨front, back, rfl, hback⟩
    rw [List.map_append, List.map_cons, List.map_eq_append_iff] at hread
    obtain ⟨bfront, brest, rfl, -, hrest⟩ := hread
    obtain ⟨b, bback, rfl, hb, hbback⟩ := List.map_eq_cons_iff.mp hrest
    refine ⟨b, ⟨bfront, bback, rfl, fun c hc => ?_⟩, hb⟩
    have hmem : f c ∈ back.map Except.ok := hbback ▸ List.mem_map_of_mem hc
    obtain ⟨d, hd, hfc⟩ := List.mem_map.mp hmem
    rw [← hkey c d hfc.symm, ← hkey b a hb]
    exact hback d hd
  · rintro ⟨b, ⟨bfront, bback, rfl, hback⟩, hb⟩
    rw [List.map_append, List.map_cons, eq_comm, List.map_eq_append_iff] at hread
    obtain ⟨front, rest, rfl, -, hrest⟩ := hread
    obtain ⟨a', back, rfl, ha', hbback⟩ := List.map_eq_cons_iff.mp hrest
    rw [hb, Except.ok.injEq] at ha'
    subst ha'
    refine ⟨front, back, rfl, fun c hc => ?_⟩
    have hmem : Except.ok c ∈ bback.map f := hbback ▸ List.mem_map_of_mem hc
    obtain ⟨d, hd, hfd⟩ := List.mem_map.mp hmem
    rw [hkey d c hfd, hkey b a' hb]
    exact hback d hd

variable [DecidableEq κ]

/-- The list of some entries, put into it one after the other. -/
def putAll (key : α → κ) (l : List α) : List α := l.foldl (fun kept a => putBy key a kept) []

theorem putAll_concat (key : α → κ) (l : List α) (a : α) :
    putAll key (l ++ [a]) = putBy key a (putAll key l) :=
  List.foldl_concat ..

/-- An entry with a new key is put at the end. -/
theorem putBy_of_ne (h : ∀ b ∈ l, key b ≠ key a) : putBy key a l = l ++ [a] := by
  induction l with
  | nil => rfl
  | cons b l ih =>
    rw [putBy, if_neg (h b List.mem_cons_self), ih fun c hc => h c (List.mem_cons_of_mem b hc),
      List.cons_append]

/-- Putting drops the entry of the same key, and no other. -/
theorem mem_putBy_iff (hnodup : (l.map key).Nodup) :
    b ∈ putBy key a l ↔ b = a ∨ b ∈ l ∧ key b ≠ key a := by
  induction l with
  | nil => simp [putBy]
  | cons c l ih =>
    rw [List.map_cons, List.nodup_cons] at hnodup
    rw [putBy]
    split
    · rename_i hc
      have hne : ∀ d ∈ l, key d ≠ key a := fun d hd h =>
        hnodup.1 (hc ▸ h ▸ List.mem_map_of_mem hd)
      rw [List.mem_cons, List.mem_cons]
      constructor
      · rintro (h | h)
        · exact Or.inl h
        · exact Or.inr ⟨Or.inr h, hne b h⟩
      · rintro (h | ⟨rfl | h, hb⟩)
        · exact Or.inl h
        · exact absurd hc hb
        · exact Or.inr h
    · rename_i hc
      rw [List.mem_cons, List.mem_cons, ih hnodup.2]
      constructor
      · rintro (rfl | h | ⟨h, hb⟩)
        · exact Or.inr ⟨Or.inl rfl, hc⟩
        · exact Or.inl h
        · exact Or.inr ⟨Or.inr h, hb⟩
      · rintro (h | ⟨rfl | h, hb⟩)
        · exact Or.inr (Or.inl h)
        · exact Or.inl rfl
        · exact Or.inr (Or.inr ⟨h, hb⟩)

theorem nodup_map_putAll (key : α → κ) (l : List α) : ((putAll key l).map key).Nodup := by
  induction l using List.reverseRecOn with
  | nil => exact List.nodup_nil
  | append_singleton l a ih =>
    rw [putAll_concat]
    exact nodup_map_putBy ih

/-- Where no key comes twice, every entry stays where it is. -/
theorem putAll_of_nodup (h : (l.map key).Nodup) : putAll key l = l := by
  induction l using List.reverseRecOn with
  | nil => rfl
  | append_singleton l a ih =>
    rw [List.map_append, List.map_singleton, List.nodup_append] at h
    obtain ⟨hl, -, hne⟩ := h
    have ha : ∀ b ∈ l, key b ≠ key a := fun b hb =>
      hne (key b) (List.mem_map_of_mem hb) (key a) (List.mem_singleton_self _)
    rw [putAll_concat, ih hl, putBy_of_ne ha]

/-- **The keys are those of the entries, each once, in order of first appearance.** -/
theorem map_putAll (key : α → κ) (l : List α) :
    (putAll key l).map key = (l.map key).eraseDups := by
  induction l using List.reverseRecOn with
  | nil => rfl
  | append_singleton l a ih =>
    rw [putAll_concat, List.map_append, List.map_singleton, List.eraseDups_append]
    by_cases ha : key a ∈ l.map key
    · have hnone : [key a].removeAll (l.map key) = [] :=
        List.filter_cons_of_neg (by simpa using ha)
      rw [map_putBy_of_mem (by rwa [ih, List.mem_eraseDups]), ih, hnone, List.eraseDups_nil,
        List.append_nil]
    · have hself : [key a].removeAll (l.map key) = [key a] :=
        List.filter_cons_of_pos (by simpa using ha)
      rw [map_putBy_of_notMem (by rwa [ih, List.mem_eraseDups]), ih, hself]
      rfl

/-- What is left without repetitions stands in the order of first appearance. -/
theorem pairwise_idxOf_eraseDups (l : List κ) :
    l.eraseDups.Pairwise fun x y => l.idxOf x < l.idxOf y := by
  induction l using List.reverseRecOn with
  | nil => exact List.Pairwise.nil
  | append_singleton l k ih =>
    have hkeep : ∀ x ∈ l.eraseDups, (l ++ [k]).idxOf x = l.idxOf x := fun x hx =>
      List.idxOf_append_of_mem (List.mem_eraseDups.mp hx)
    have hfront : l.eraseDups.Pairwise fun x y => (l ++ [k]).idxOf x < (l ++ [k]).idxOf y :=
      ih.imp_of_mem fun hx hy hlt => by rwa [hkeep _ hx, hkeep _ hy]
    rw [List.eraseDups_append]
    by_cases hk : k ∈ l
    · have hnone : [k].removeAll l = [] := List.filter_cons_of_neg (by simpa using hk)
      rwa [hnone, List.eraseDups_nil, List.append_nil]
    · have hself : [k].removeAll l = [k] := List.filter_cons_of_pos (by simpa using hk)
      rw [hself]
      refine List.pairwise_append.mpr ⟨hfront, List.pairwise_singleton _ k, fun x hx y hy => ?_⟩
      obtain rfl := List.mem_singleton.mp hy
      rw [hkeep x hx, List.idxOf_append_of_notMem hk]
      exact Nat.lt_add_right _ (List.idxOf_lt_length_of_mem (List.mem_eraseDups.mp hx))

/-- **The entries kept stand in the order in which their keys first appear.** -/
theorem pairwise_putAll (key : α → κ) (l : List α) :
    (putAll key l).Pairwise fun a b => (l.map key).idxOf (key a) < (l.map key).idxOf (key b) := by
  have h := pairwise_idxOf_eraseDups (l.map key)
  rwa [← map_putAll, List.pairwise_map] at h

/-- **The entries kept are the last ones of their keys.** -/
theorem mem_putAll_iff : a ∈ putAll key l ↔ IsLastOf key l a := by
  induction l using List.reverseRecOn with
  | nil =>
    refine iff_of_false List.not_mem_nil ?_
    rintro ⟨front, back, h, -⟩
    exact List.append_ne_nil_of_right_ne_nil _ (List.cons_ne_nil _ _) h.symm
  | append_singleton l c ih =>
    rw [putAll_concat, mem_putBy_iff (nodup_map_putAll key l), ih, isLastOf_concat_iff]

end ScriptedChat
