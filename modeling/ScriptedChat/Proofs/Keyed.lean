import Mathlib.Data.List.Induction
import Mathlib.Data.String.Basic
import ScriptedChat.Keyed

/-!
# What is found in a sorted list

In a list that is sorted by key no key comes twice, so what is in it and what is found in it
are the same, and a list stays sorted when something is inserted.

* `Keyed.IsSorted`, `Keyed.isSorted_insert`, `Keyed.insert_of_find?`, `Keyed.insert_insert`: sorted
  lists.
* `Keyed.mem_iff_find?`, `Keyed.split_of_find?`: to be in the list is to be found.
* `Keyed.find?_ofList`: of several pairs with one key the last one is found.
* `Keyed.filter_flatMap`: what belongs to one key.
* `Keyed.find?_map`, `Keyed.insert_map`, `Keyed.isSorted_map`: other values under the same keys.
-/

namespace ScriptedChat
namespace Keyed

variable {α β : Type}

/-- The keys are in order, and none comes twice. -/
def IsSorted (l : List (String × α)) : Prop := l.Pairwise fun p q => p.1 < q.1

theorem isSorted_nil : IsSorted ([] : List (String × α)) := List.Pairwise.nil

/-- No key of a sorted list comes twice. -/
theorem IsSorted.nodup_keys {l : List (String × α)} (h : IsSorted l) : (l.map Prod.fst).Nodup :=
  List.pairwise_map.mpr (h.imp fun hlt => ne_of_lt hlt)

/-- What an insertion puts into a list: the new pair, and pairs that were there. -/
theorem mem_insert {k : String} {v : α} {l : List (String × α)} {p : String × α}
    (h : p ∈ insert k v l) : p = (k, v) ∨ p ∈ l := by
  induction l with
  | nil => exact Or.inl (List.mem_singleton.mp h)
  | cons q l ih =>
    obtain ⟨n, w⟩ := q
    unfold insert at h
    split at h
    · rcases List.mem_cons.mp h with hp | hp
      · exact Or.inl hp
      · exact Or.inr (List.mem_cons_of_mem _ hp)
    split at h
    · rcases List.mem_cons.mp h with hp | hp
      · exact Or.inl hp
      · exact Or.inr hp
    · rcases List.mem_cons.mp h with hp | hp
      · exact Or.inr (hp ▸ List.mem_cons_self ..)
      · rcases ih hp with hp | hp
        · exact Or.inl hp
        · exact Or.inr (List.mem_cons_of_mem _ hp)

theorem isSorted_insert {l : List (String × α)} (h : IsSorted l) (k : String) (v : α) :
    IsSorted (insert k v l) := by
  induction l with
  | nil => exact List.pairwise_singleton _ _
  | cons q l ih =>
    obtain ⟨n, w⟩ := q
    obtain ⟨hhead, htail⟩ := List.pairwise_cons.mp h
    unfold insert
    split
    · rename_i hk
      subst hk
      exact List.pairwise_cons.mpr ⟨hhead, htail⟩
    split
    · rename_i hlt
      refine List.pairwise_cons.mpr ⟨?_, h⟩
      intro p hp
      rcases List.mem_cons.mp hp with rfl | hp
      · exact hlt
      · exact lt_trans hlt (hhead p hp)
    · rename_i hne hnlt
      refine List.pairwise_cons.mpr ⟨?_, ih htail⟩
      intro p hp
      rcases mem_insert hp with rfl | hp
      · exact lt_of_le_of_ne (not_lt.mp hnlt) (Ne.symm hne)
      · exact hhead p hp

theorem mem_of_find? {k : String} {v : α} {l : List (String × α)} (h : find? k l = some v) :
    (k, v) ∈ l := by
  induction l with
  | nil => cases h
  | cons q l ih =>
    obtain ⟨n, w⟩ := q
    rw [find?] at h
    split at h
    · rename_i hk
      rw [hk, Option.some.inj h]
      exact List.mem_cons_self ..
    · exact List.mem_cons_of_mem _ (ih h)

/-- In a list where no key comes twice there is nothing that is not found. -/
theorem mem_iff_find?_of_nodup {k : String} {v : α} {l : List (String × α)}
    (h : (l.map Prod.fst).Nodup) : (k, v) ∈ l ↔ find? k l = some v := by
  refine ⟨fun hmem => ?_, mem_of_find?⟩
  induction l with
  | nil => cases hmem
  | cons q l ih =>
    obtain ⟨n, w⟩ := q
    obtain ⟨hn, htail⟩ := List.nodup_cons.mp h
    rw [find?]
    rcases List.mem_cons.mp hmem with heq | hmem'
    · rw [if_pos (Prod.mk.inj heq).1, (Prod.mk.inj heq).2]
    · have hne : k ≠ n := fun hk => hn (List.mem_map.mpr ⟨(k, v), hmem', hk⟩)
      rw [if_neg hne]
      exact ih htail hmem'

/-- So it is in a sorted list. -/
theorem mem_iff_find? {k : String} {v : α} {l : List (String × α)} (h : IsSorted l) :
    (k, v) ∈ l ↔ find? k l = some v := mem_iff_find?_of_nodup h.nodup_keys

/-- Behind a list that was put down, what was there before is found only under other keys. -/
theorem find?_foldl_insert (k : String) (l m : List (String × α)) :
    find? k (l.foldl (fun m p => insert p.1 p.2 m) m) = (find? k l.reverse).or (find? k m) := by
  induction l using List.reverseRecOn with
  | nil => rfl
  | append_singleton l p ih =>
    rw [List.foldl_append, List.foldl_cons, List.foldl_nil, find?_insert, List.reverse_append,
      List.reverse_singleton, List.singleton_append, find?, ih]
    split <;> rfl

/-- **Of several pairs with one key the last one is found.** -/
theorem find?_ofList (k : String) (l : List (String × α)) :
    find? k (ofList l) = find? k l.reverse := by
  rw [ofList, find?_foldl_insert, find?_nil, Option.or_none]

/-- What is found stands between others. -/
theorem split_of_find? {k : String} {v : α} {l : List (String × α)} (h : IsSorted l)
    (hk : find? k l = some v) :
    ∃ front back, l = front ++ (k, v) :: back ∧ (∀ p ∈ front, p.1 ≠ k) ∧ ∀ p ∈ back, p.1 ≠ k := by
  obtain ⟨front, back, rfl⟩ := List.append_of_mem (mem_of_find? hk)
  obtain ⟨-, hback, hfront⟩ := List.pairwise_append.mp h
  refine ⟨front, back, rfl, fun p hp => ?_, fun p hp => ?_⟩
  · exact ne_of_lt (hfront p hp (k, v) (List.mem_cons_self ..))
  · exact ne_of_gt ((List.pairwise_cons.mp hback).1 p hp)

/-- Nothing is found under a key that no pair has, and only then. -/
theorem find?_eq_none {k : String} {l : List (String × α)} :
    find? k l = none ↔ ∀ p ∈ l, p.1 ≠ k := by
  induction l with
  | nil => exact ⟨fun _ p hp => (by cases hp), fun _ => rfl⟩
  | cons q l ih =>
    obtain ⟨n, w⟩ := q
    rw [find?, List.forall_mem_cons, ← ih]
    by_cases hk : k = n
    · rw [if_pos hk]
      exact ⟨fun h => (by cases h), fun h => absurd hk.symm h.1⟩
    · rw [if_neg hk]
      exact ⟨fun h => ⟨Ne.symm hk, h⟩, fun h => h.2⟩

/-- A list with one key only has at most one pair. -/
theorem eq_of_single {k : String} {l : List (String × α)} (h : IsSorted l)
    (hl : ∀ p ∈ l, p.1 = k) : l = ((find? k l).map fun v => (k, v)).toList := by
  cases l with
  | nil => rfl
  | cons q l =>
    obtain ⟨n, w⟩ := q
    have hn : n = k := hl (n, w) (List.mem_cons_self ..)
    have hnil : l = [] := List.eq_nil_iff_forall_not_mem.mpr fun p hp => by
      have hlt : n < p.1 := (List.pairwise_cons.mp h).1 p hp
      rw [hn, hl p (List.mem_cons_of_mem _ hp)] at hlt
      exact lt_irrefl k hlt
    rw [hnil, hn, find?, if_pos rfl]
    rfl

/-- Of what is made of the pairs of a list, what belongs to one key is made of the pair with this
key. -/
theorem filter_flatMap {l : List (String × α)} (hnodup : (l.map Prod.fst).Nodup) {f : α → List β}
    {belongs : β → Bool} {k : String}
    (hf : ∀ p ∈ l, ∀ x ∈ f p.2, belongs x = true ↔ p.1 = k) :
    (l.flatMap fun p => f p.2).filter belongs = ((find? k l).map f).getD [] := by
  induction l with
  | nil => rfl
  | cons q l ih =>
    obtain ⟨n, w⟩ := q
    obtain ⟨hn, hnodup'⟩ := List.nodup_cons.mp hnodup
    have hw := hf (n, w) (List.mem_cons_self ..)
    rw [List.flatMap_cons, List.filter_append,
      ih hnodup' fun p hp => hf p (List.mem_cons_of_mem _ hp), find?]
    by_cases hk : k = n
    · have hnone : find? k l = none := find?_eq_none.mpr fun p hp hpk =>
        hn (List.mem_map.mpr ⟨p, hp, hpk.trans hk⟩)
      rw [if_pos hk, hnone, List.filter_eq_self.mpr fun x hx => (hw x hx).mpr hk.symm]
      exact List.append_nil _
    · rw [if_neg hk, List.filter_eq_nil_iff.mpr fun x hx h => hk ((hw x hx).mp h).symm]
      rfl

/-- To insert what is there changes nothing. -/
theorem insert_of_find? {k : String} {v : α} {l : List (String × α)} (h : IsSorted l)
    (hk : find? k l = some v) : insert k v l = l := by
  induction l with
  | nil => cases hk
  | cons q l ih =>
    obtain ⟨n, w⟩ := q
    obtain ⟨hhead, htail⟩ := List.pairwise_cons.mp h
    rw [find?] at hk
    unfold insert
    split
    · rename_i heq
      rw [if_pos heq, Option.some.injEq] at hk
      rw [heq, hk]
    · rename_i hne
      rw [if_neg hne] at hk
      have hlt : n < k := hhead _ (mem_of_find? hk)
      rw [if_neg (not_lt_of_gt hlt), ih htail hk]

/-- Of two values that are inserted under one key the second one is left. -/
theorem insert_insert (k : String) (v w : α) (l : List (String × α)) :
    insert k w (insert k v l) = insert k w l := by
  induction l with
  | nil => simp only [insert, if_true]
  | cons q l ih =>
    obtain ⟨n, u⟩ := q
    by_cases hk : k = n
    · simp only [insert, hk, if_true]
    · by_cases hlt : k < n
      · simp only [insert, hk, hlt, if_true, if_false]
      · simp only [insert, hk, hlt, if_false, ih]

/-- What is found when the values are changed. -/
theorem find?_map (f : String → α → β) (k : String) (l : List (String × α)) :
    find? k (l.map fun p => (p.1, f p.1 p.2)) = (find? k l).map (f k) := by
  induction l with
  | nil => rfl
  | cons q l ih =>
    obtain ⟨n, w⟩ := q
    rw [List.map_cons, find?, find?, ih]
    by_cases hk : k = n
    · rw [if_pos hk, if_pos hk, hk]
      rfl
    · rw [if_neg hk, if_neg hk]

/-- To insert what has been changed is to change what has been inserted. -/
theorem insert_map (f : String → α → β) (k : String) (v : α) (l : List (String × α)) :
    insert k (f k v) (l.map fun p => (p.1, f p.1 p.2))
      = (insert k v l).map fun p => (p.1, f p.1 p.2) := by
  induction l with
  | nil => rfl
  | cons q l ih =>
    obtain ⟨n, w⟩ := q
    rw [List.map_cons, insert, insert, ih]
    by_cases hk : k = n
    · rw [if_pos hk, if_pos hk]
      rfl
    rw [if_neg hk, if_neg hk]
    by_cases hlt : k < n
    · rw [if_pos hlt, if_pos hlt]
      rfl
    · rw [if_neg hlt, if_neg hlt]
      rfl

theorem isSorted_map (f : String → α → β) {l : List (String × α)} (h : IsSorted l) :
    IsSorted (l.map fun p => (p.1, f p.1 p.2)) :=
  List.pairwise_map.mpr h

end Keyed
end ScriptedChat
