import Mathlib.Data.List.Sort

/-!
# What is done in turn

Some things are to be done, each of which falls due at some moment.  They can be done in the
order in which they are listed, or in the order in which they fall due; things that fall due at
the same moment keep the order of the list.  In both cases the first thing that is *final* is the
last one to be done.

The two orders come to the same if and only if whatever is done in the order of the list falls
due no later than everything behind it.  What comes behind the first final thing need not be in
order.

* `InTurn.upTo`: a list up to its first final element.
* `InTurn.inOrder`: the elements of a list in the order in which they fall due.
* `InTurn.upTo_inOrder_iff`: when the two orders come to the same.
-/

namespace ScriptedChat
namespace InTurn

/-- The elements of a list up to the first final one, and this one too. -/
def upTo {α : Type} (final : α → Bool) : List α → List α
  | [] => []
  | a :: l => if final a then [a] else a :: upTo final l

/-- One thing falls due before another one, or is listed before it. -/
def before (due : Nat → Int) (i j : Nat) : Bool :=
  decide (due i < due j) || (due i == due j && decide (i ≤ j))

/-- The elements of a list in the order in which they fall due. -/
def inOrder (due : Nat → Int) (l : List Nat) : List Nat := l.mergeSort (before due)

section

variable {α : Type} {final : α → Bool}

theorem prefix_upTo (final : α → Bool) (l : List α) : upTo final l <+: l := by
  induction l with
  | nil => exact List.prefix_refl _
  | cons a l ih =>
    rw [upTo]
    split
    · exact List.cons_prefix_cons.mpr ⟨rfl, List.nil_prefix⟩
    · exact List.cons_prefix_cons.mpr ⟨rfl, ih⟩

/-- Nothing behind the first final element makes a difference. -/
theorem upTo_append_upTo {l q : List α} (h : (upTo final l ++ q).Perm l) :
    upTo final (upTo final l ++ q) = upTo final l := by
  induction l with
  | nil =>
    rw [List.perm_nil] at h
    rw [h]
  | cons a l ih =>
    rw [upTo] at h ⊢
    by_cases ha : final a = true
    · rw [if_pos ha, List.singleton_append, upTo, if_pos ha]
    · rw [if_neg ha] at h ⊢
      rw [List.cons_append] at h ⊢
      rw [upTo, if_neg ha, ih ((List.perm_cons a).mp h)]

end

section

variable {due : Nat → Int}

theorem before_iff {i j : Nat} :
    before due i j = true ↔ due i < due j ∨ due i = due j ∧ i ≤ j := by
  rw [before, Bool.or_eq_true, Bool.and_eq_true, decide_eq_true_eq, beq_iff_eq, decide_eq_true_eq]

/-- What falls due no later and is listed before, is before. -/
theorem before_of_lt {i j : Nat} (h : i < j) : before due i j = true ↔ due i ≤ due j := by
  rw [before_iff]
  omega

theorem before_antisymm {i j : Nat} (h : before due i j = true) (h' : before due j i = true) :
    i = j := by
  rw [before_iff] at h h'
  omega

theorem perm_inOrder (due : Nat → Int) (l : List Nat) : (inOrder due l).Perm l :=
  List.mergeSort_perm l _

theorem pairwise_inOrder (due : Nat → Int) (l : List Nat) :
    (inOrder due l).Pairwise fun i j => before due i j = true := by
  refine List.pairwise_mergeSort (fun i j k hij hjk => ?_) (fun i j => ?_) l
  · rw [before_iff] at hij hjk ⊢
    omega
  · rw [Bool.or_eq_true, before_iff, before_iff]
    omega

/-- There is only one order in which things fall due. -/
theorem eq_inOrder {l m : List Nat} (hperm : m.Perm l)
    (h : m.Pairwise fun i j => before due i j = true) : m = inOrder due l :=
  List.Perm.eq_of_pairwise (fun _ _ _ _ => before_antisymm) h (pairwise_inOrder due l)
    (hperm.trans (perm_inOrder due l).symm)

/-- If what is done falls due no later than everything behind it, it comes first in the order in
which things fall due. -/
theorem inOrder_append {p q : List Nat} (hsorted : (p ++ q).Pairwise (· < ·))
    (h : ∀ i ∈ p, ∀ j ∈ p ++ q, i < j → due i ≤ due j) :
    inOrder due (p ++ q) = p ++ inOrder due q := by
  obtain ⟨hp, -, hpq⟩ := List.pairwise_append.mp hsorted
  refine (eq_inOrder ((perm_inOrder due q).append_left p) ?_).symm
  refine List.pairwise_append.mpr ⟨?_, pairwise_inOrder due q, fun i hi j hj => ?_⟩
  · refine hp.imp_of_mem fun {i j} hi hj hlt => ?_
    exact (before_of_lt hlt).mpr (h i hi j (List.mem_append_left q hj) hlt)
  · have hj' : j ∈ q := (perm_inOrder due q).mem_iff.mp hj
    have hlt := hpq i hi j hj'
    exact (before_of_lt hlt).mpr (h i hi j (List.mem_append_right p hj') hlt)

/-- In a list that is in both orders, whatever is listed first falls due first. -/
theorem due_le_of_pairwise {l : List Nat} (hsorted : l.Pairwise (· < ·))
    (h : l.Pairwise fun i j => before due i j = true) {i j : Nat} (hi : i ∈ l) (hj : j ∈ l)
    (hlt : i < j) : due i ≤ due j := by
  obtain ⟨a, ha, rfl⟩ := List.getElem_of_mem hi
  obtain ⟨b, hb, rfl⟩ := List.getElem_of_mem hj
  have hab : a < b := by
    rw [← Nat.not_le]
    intro hle
    rcases Nat.lt_or_eq_of_le hle with hba | rfl
    · have hgt := List.pairwise_iff_getElem.mp hsorted b a hb ha hba
      omega
    · omega
  exact (before_of_lt hlt).mp (List.pairwise_iff_getElem.mp h a b ha hb hab)

end

/-- **The order of the list and the order in which things fall due come to the same** if and only
if whatever is done in the order of the list falls due no later than everything behind it. -/
theorem upTo_inOrder_iff {final : Nat → Bool} {due : Nat → Int} {l : List Nat}
    (hl : l.Pairwise (· < ·)) :
    upTo final l = upTo final (inOrder due l)
      ↔ ∀ i ∈ upTo final l, ∀ j ∈ l, i < j → due i ≤ due j := by
  obtain ⟨q, hq⟩ := prefix_upTo final l
  constructor
  · intro heq i hi j hj hlt
    obtain ⟨q', hq'⟩ := prefix_upTo final (inOrder due l)
    rw [← heq] at hq'
    have hpairwise := pairwise_inOrder due l
    rw [← hq'] at hpairwise
    obtain ⟨hp, -, hpq⟩ := List.pairwise_append.mp hpairwise
    have hj' : j ∈ upTo final l ++ q' := by
      rw [hq', (perm_inOrder due l).mem_iff]
      exact hj
    rcases List.mem_append.mp hj' with hj' | hj'
    · exact due_le_of_pairwise (hl.sublist (prefix_upTo final l).sublist) hp hi hj' hlt
    · exact (before_of_lt hlt).mp (hpq i hi j hj')
  · intro h
    have hsorted := hl
    rw [← hq] at hsorted
    have hinOrder : inOrder due l = upTo final l ++ inOrder due q := by
      have happend := inOrder_append hsorted fun i hi j hj => h i hi j (hq ▸ hj)
      rw [hq] at happend
      exact happend
    rw [hinOrder, upTo_append_upTo]
    rw [← hinOrder]
    exact perm_inOrder due l

end InTurn
end ScriptedChat
