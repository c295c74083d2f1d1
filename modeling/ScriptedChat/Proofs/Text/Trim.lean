import Mathlib.Data.List.DropRight
import Mathlib.Data.List.Induction
import ScriptedChat.Text.Blank

/-!
# Laws of trimming

Trimming deletes the blanks at the ends of a text and nothing else.  Two kinds of facts are
needed about it: blanks next to the ends do not matter, and a text that neither begins nor
ends with a blank is left alone.

* `trim_cons_of_isBlank`, `trim_concat_of_isBlank`, `trim_append_append`: blanks at the ends do not
  matter.
* `trim_eq_self_iff`: which texts are left alone.
* `trim_trim`, `trim_trimEnd`: what is trimmed once need not be trimmed again.
* `trimEnd_append`: trimming at the end does not reach over a character that is no blank.
-/

namespace ScriptedChat
namespace Text

variable {b : Char} {s t : List Char}

/-! ## At the start -/

theorem trimStart_cons_of_isBlank (hb : isBlank b = true) (s : List Char) :
    trimStart (b :: s) = trimStart s :=
  List.dropWhile_cons_of_pos hb

/-- A text that does not begin with a blank is left alone at its start. -/
theorem trimStart_eq_self (h : ∀ c, s.head? = some c → isBlank c = false) : trimStart s = s := by
  cases s with
  | nil => rfl
  | cons c s => exact List.dropWhile_cons_of_neg (by simp [h c rfl])

/-- What has been trimmed at its start does not begin with a blank. -/
theorem isBlank_of_head?_trimStart {c : Char} (h : (trimStart s).head? = some c) :
    isBlank c = false := by
  have hnot := List.head?_dropWhile_not isBlank s
  rw [← trimStart, h] at hnot
  exact hnot

/-! ## At the end -/

theorem trimEnd_eq_reverse (s : List Char) : trimEnd s = (trimStart s.reverse).reverse := rfl

theorem trimEnd_concat_of_isBlank (hb : isBlank b = true) (s : List Char) :
    trimEnd (s ++ [b]) = trimEnd s :=
  List.rdropWhile_concat_pos isBlank s b hb

/-- Trimming at the end stops at a character that is no blank. -/
theorem trimEnd_concat (hb : ¬ isBlank b = true) (s : List Char) : trimEnd (s ++ [b]) = s ++ [b] :=
  List.rdropWhile_concat_neg isBlank s b hb

/-- A text that does not end with a blank is left alone at its end. -/
theorem trimEnd_eq_self (h : ∀ c, s.getLast? = some c → isBlank c = false) : trimEnd s = s := by
  rw [trimEnd_eq_reverse, trimStart_eq_self, List.reverse_reverse]
  intro c hc
  rw [List.head?_reverse] at hc
  exact h c hc

/-- What has been trimmed at its end does not end with a blank. -/
theorem isBlank_of_getLast?_trimEnd {c : Char} (h : (trimEnd s).getLast? = some c) :
    isBlank c = false := by
  rw [trimEnd_eq_reverse, List.getLast?_reverse] at h
  exact isBlank_of_head?_trimStart h

theorem trimEnd_trimEnd (s : List Char) : trimEnd (trimEnd s) = trimEnd s :=
  trimEnd_eq_self fun _ => isBlank_of_getLast?_trimEnd

/-- Trimming at the end stops at a text that is not of blanks only. -/
theorem trimEnd_append (s : List Char) (ht : trimEnd t ≠ []) :
    trimEnd (s ++ t) = s ++ trimEnd t := by
  induction t using List.reverseRecOn with
  | nil => exact absurd rfl ht
  | append_singleton t c ih =>
    by_cases hc : isBlank c = true
    · rw [trimEnd_concat_of_isBlank hc] at ht ⊢
      rw [← List.append_assoc, trimEnd_concat_of_isBlank hc]
      exact ih ht
    · rw [← List.append_assoc, trimEnd_concat hc, trimEnd_concat hc, List.append_assoc]

/-- A text with a character that is no blank is not trimmed away. -/
theorem trimEnd_ne_nil {c : Char} (hmem : c ∈ s) (hc : isBlank c = false) : trimEnd s ≠ [] := by
  intro h
  have hall := List.rdropWhile_eq_nil_iff.mp h c hmem
  rw [hc] at hall
  exact Bool.false_ne_true hall

theorem trimEnd_cons (hb : isBlank b = false) (s : List Char) :
    trimEnd (b :: s) = b :: trimEnd s := by
  induction s using List.reverseRecOn with
  | nil => exact trimEnd_concat (by rw [hb]; exact Bool.false_ne_true) []
  | append_singleton s c ih =>
    rw [← List.cons_append]
    by_cases hc : isBlank c = true
    · rw [trimEnd_concat_of_isBlank hc, trimEnd_concat_of_isBlank hc, ih]
    · rw [trimEnd_concat hc, trimEnd_concat hc, List.cons_append]

/-- Trimming at the end stops at a character that is no blank. -/
theorem trimEnd_append_cons (hb : isBlank b = false) (s t : List Char) :
    trimEnd (s ++ b :: t) = s ++ b :: trimEnd t := by
  rw [trimEnd_append s (by rw [trimEnd_cons hb]; exact List.cons_ne_nil _ _), trimEnd_cons hb]

/-- Blanks at the end may be gone before a character is written in front. -/
theorem trimEnd_cons_trimEnd (b : Char) (s : List Char) :
    trimEnd (b :: trimEnd s) = trimEnd (b :: s) := by
  induction s using List.reverseRecOn with
  | nil => rfl
  | append_singleton s c ih =>
    by_cases hc : isBlank c = true
    · rw [trimEnd_concat_of_isBlank hc, ih, ← List.cons_append, trimEnd_concat_of_isBlank hc]
    · rw [trimEnd_concat hc]

/-! ## At both ends -/

theorem trim_cons_of_isBlank (hb : isBlank b = true) (s : List Char) : trim (b :: s) = trim s :=
  congrArg trimEnd (trimStart_cons_of_isBlank hb s)

theorem trim_concat_of_isBlank (hb : isBlank b = true) (s : List Char) :
    trim (s ++ [b]) = trim s := by
  induction s with
  | nil => exact trim_cons_of_isBlank hb []
  | cons c s ih =>
    by_cases hc : isBlank c = true
    · rw [List.cons_append, trim_cons_of_isBlank hc, trim_cons_of_isBlank hc, ih]
    · have hself : ∀ u : List Char, trimStart (c :: u) = c :: u :=
        fun u => List.dropWhile_cons_of_neg hc
      rw [trim, trim, List.cons_append, hself, hself, ← List.cons_append,
        trimEnd_concat_of_isBlank hb]

/-- **Blanks around a text do not matter**, however many there are. -/
theorem trim_append_append {front back : List Char} (hfront : isAllBlank front = true)
    (hback : isAllBlank back = true) (s : List Char) : trim (front ++ s ++ back) = trim s := by
  rw [isAllBlank, List.all_eq_true] at hfront hback
  induction front with
  | nil =>
    rw [List.nil_append]
    induction back using List.reverseRecOn with
    | nil => rw [List.append_nil]
    | append_singleton back b ih =>
      obtain ⟨hback, hb⟩ := List.forall_mem_append.mp hback
      rw [← List.append_assoc, trim_concat_of_isBlank (hb b List.mem_cons_self), ih hback]
  | cons b front ih =>
    obtain ⟨hb, hfront⟩ := List.forall_mem_cons.mp hfront
    rw [List.cons_append, List.cons_append, trim_cons_of_isBlank hb, ih hfront]

/-- A text that does not begin with a blank need only be trimmed at its end. -/
theorem trim_eq_trimEnd (h : ∀ c, s.head? = some c → isBlank c = false) : trim s = trimEnd s :=
  congrArg trimEnd (trimStart_eq_self h)

theorem trim_trimEnd (s : List Char) : trim (trimEnd s) = trim s := by
  induction s using List.reverseRecOn with
  | nil => rfl
  | append_singleton s c ih =>
    by_cases hc : isBlank c = true
    · rw [trimEnd_concat_of_isBlank hc, trim_concat_of_isBlank hc, ih]
    · rw [trimEnd_concat hc]

/-- What has been trimmed neither begins nor ends with a blank. -/
theorem isBlank_of_head?_trim {c : Char} (h : (trim s).head? = some c) : isBlank c = false := by
  obtain ⟨rest, hrest⟩ : trim s <+: trimStart s := List.rdropWhile_prefix isBlank (trimStart s)
  refine isBlank_of_head?_trimStart (s := s) ?_
  rw [← hrest, List.head?_append, h]
  rfl

/-- **A text is left alone if and only if it neither begins nor ends with a blank.** -/
theorem trim_eq_self_iff :
    trim s = s ↔ (∀ c, s.head? = some c → isBlank c = false) ∧
      ∀ c, s.getLast? = some c → isBlank c = false := by
  constructor
  · intro h
    refine ⟨fun c hc => isBlank_of_head?_trim (s := s) (by rwa [h]), fun c hc => ?_⟩
    exact isBlank_of_getLast?_trimEnd (s := trimStart s) (by rwa [← trim, h])
  · rintro ⟨hhead, hlast⟩
    rw [trim_eq_trimEnd hhead, trimEnd_eq_self hlast]

/-- A text that begins with a trimmed one, or with a character that is no blank. -/
theorem isBlank_of_head?_append (hs : trim s = s) (hb : isBlank b = false) (t : List Char)
    {c : Char} (h : (s ++ b :: t).head? = some c) : isBlank c = false := by
  cases s with
  | nil =>
    obtain rfl : b = c := Option.some.inj h
    exact hb
  | cons d s => exact (trim_eq_self_iff.mp hs).1 c h

theorem trim_trim (s : List Char) : trim (trim s) = trim s :=
  trim_eq_self_iff.mpr ⟨fun _ => isBlank_of_head?_trim, fun _ => isBlank_of_getLast?_trimEnd⟩

end Text
end ScriptedChat
