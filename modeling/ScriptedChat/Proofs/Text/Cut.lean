import ScriptedChat.Proofs.Text.Trim
import ScriptedChat.Text.Split

/-!
# Laws of cutting

What a reader may rely on when a text is cut into lines, and at a marker.

Lines are compared with `List.splitOn`, which cuts at every line end.  `lines` differs from it
only in that a line end at the very end opens no line, and trimming a text first only takes
blank lines away and blanks off the ends of the first and the last line.  So whoever trims the
lines anyway, and has no use for a blank one, finds the same in `lines (trim s)` as in all lines
of `s` (`filterMap_lines_trim`).

The pieces between the occurrences of a marker are found again if the marker occurs nowhere but
between them (`pieces_append_flatMap`).  It is not enough that no piece contains the marker: it
may also arise where a piece and the marker after it meet.
-/

namespace ScriptedChat
namespace Text

variable {β : Type} {f : List Char → Option β} {b : Char} {s : List Char}

/-! ## Cutting at a character -/

/-- Without the character, the part before it is everything. -/
theorem before_of_notMem {d : Char} (h : d ∉ s) : before d s = s := by
  rw [before, List.takeWhile_eq_self_iff]
  intro c hc
  exact decide_eq_true fun hcd => h (hcd ▸ hc)

/-- The part before a character that is known to be there. -/
theorem before_append_cons {d : Char} {a : List Char} (h : d ∉ a) (rest : List Char) :
    before d (a ++ d :: rest) = a := by
  have hall : ∀ c ∈ a, decide (c ≠ d) = true := fun c hc =>
    decide_eq_true fun hcd => h (hcd ▸ hc)
  rw [before, List.takeWhile_append_of_pos hall, List.takeWhile_cons_of_neg (by simp),
    List.append_nil]

/-- Cutting at a character that there may not be. -/
theorem cutAt?_getD (d : Char) (s : List Char) :
    d ∉ s ∧ (cutAt? d s).getD (s, []) = (s, []) ∨
      ∃ a rest, s = a ++ d :: rest ∧ d ∉ a ∧ (cutAt? d s).getD (s, []) = (a, rest) := by
  cases hcut : cutAt? d s with
  | none => exact Or.inl ⟨cutAt?_eq_none.mp hcut, rfl⟩
  | some p =>
    obtain ⟨hs, ha⟩ := cutAt?_eq_some.mp hcut
    exact Or.inr ⟨p.1, p.2, hs, ha, rfl⟩

/-- What is cut off is the part before the character. -/
theorem cutAt?_getD_fst (d : Char) (s : List Char) :
    ((cutAt? d s).getD (s, [])).1 = before d s := by
  rcases cutAt?_getD d s with ⟨hmem, hcut⟩ | ⟨a, rest, hs, ha, hcut⟩
  · rw [hcut, before_of_notMem hmem]
  · rw [hcut, hs, before_append_cons ha]

/-! ## Lines -/

/-- `lines` cuts at every line end, and opens no line after the last one. -/
theorem splitOn_eq_lines (s : List Char) :
    s.splitOn '\n' = lines s ∨ s.splitOn '\n' = lines s ++ [[]] := by
  induction s with
  | nil => exact Or.inr rfl
  | cons c s ih =>
    rw [List.splitOn_cons_eq_if_modifyHead, lines]
    by_cases hc : c = '\n'
    · rw [if_pos (beq_iff_eq.mpr hc), if_pos hc]
      exact ih.imp (congrArg _) (congrArg _)
    · rw [if_neg (mt beq_iff_eq.mp hc), if_neg hc]
      cases hl : lines s with
      | nil =>
        rw [hl] at ih
        left
        rcases ih with h | h
        · exact absurd h (List.splitOn_ne_nil '\n' s)
        · rw [h]
          rfl
      | cons l ls =>
        rw [hl] at ih
        exact ih.imp (fun h => by rw [h]; rfl) fun h => by rw [h]; rfl

/-- A text without line ends is one line. -/
theorem lines_of_notMem (hs : '\n' ∉ s) (hne : s ≠ []) : lines s = [s] := by
  have hsplit := List.splitOn_eq_singleton hs
  rcases splitOn_eq_lines s with h | h
  · rw [← h, hsplit]
  · rw [hsplit] at h
    have hlast := congrArg List.getLast? h
    rw [List.getLast?_concat, List.getLast?_singleton, Option.some.injEq] at hlast
    exact absurd hlast hne

/-- A line that ends is followed by the lines of what comes after it. -/
theorem lines_append_cons (hs : '\n' ∉ s) (t : List Char) :
    lines (s ++ '\n' :: t) = s :: lines t := by
  induction s with
  | nil => exact if_pos rfl
  | cons c s ih =>
    rw [List.mem_cons, not_or] at hs
    rw [List.cons_append, lines, if_neg (Ne.symm hs.1), ih hs.2]

/-- Lines that were written one below the other are found again. -/
theorem lines_flatMap {ls : List (List Char)} (hls : ∀ l ∈ ls, '\n' ∉ l) (hs : '\n' ∉ s)
    (hne : s ≠ []) : lines (ls.flatMap (· ++ ['\n']) ++ s) = ls ++ [s] := by
  induction ls with
  | nil => exact lines_of_notMem hs hne
  | cons l ls ih =>
    rw [List.flatMap_cons, List.append_assoc, List.append_assoc, List.singleton_append,
      lines_append_cons (hls l List.mem_cons_self),
      ih fun l' hl' => hls l' (List.mem_cons_of_mem l hl'), List.cons_append]

/-- A blank before a text is a blank line of its own, or stands before the first line. -/
theorem filterMap_splitOn_cons (hf : f [] = none) (hb : isBlank b = true) (s : List Char) :
    ((b :: s).splitOn '\n').filterMap (fun l => f (trim l))
      = (s.splitOn '\n').filterMap fun l => f (trim l) := by
  rw [List.splitOn_cons_eq_if_modifyHead]
  split
  · rw [List.filterMap_cons, trim_nil, hf]
  · obtain ⟨l, ls, h⟩ := List.exists_cons_of_ne_nil (List.splitOn_ne_nil '\n' s)
    rw [h, List.modifyHead_cons, List.filterMap_cons, List.filterMap_cons,
      trim_cons_of_isBlank hb]

/-- A character after a text is a line end, or stands after the last line. -/
theorem splitOn_concat_of_ne (hb : b ≠ '\n') (s : List Char) :
    ∃ init last, s.splitOn '\n' = init ++ [last] ∧
      (s ++ [b]).splitOn '\n' = init ++ [last ++ [b]] := by
  induction s with
  | nil =>
    refine ⟨[], [], rfl, ?_⟩
    rw [List.nil_append, List.splitOn_eq_singleton (by simpa using Ne.symm hb)]
    rfl
  | cons c s ih =>
    obtain ⟨init, last, hs, hsb⟩ := ih
    rw [List.cons_append, List.splitOn_cons_eq_if_modifyHead, List.splitOn_cons_eq_if_modifyHead,
      hs, hsb]
    split
    · exact ⟨[] :: init, last, rfl, rfl⟩
    · cases init with
      | nil => exact ⟨[], c :: last, rfl, rfl⟩
      | cons l init => exact ⟨(c :: l) :: init, last, rfl, rfl⟩

/-- A blank after a text is a blank line of its own, or stands after the last line. -/
theorem filterMap_splitOn_concat (hf : f [] = none) (hb : isBlank b = true) (s : List Char) :
    ((s ++ [b]).splitOn '\n').filterMap (fun l => f (trim l))
      = (s.splitOn '\n').filterMap fun l => f (trim l) := by
  have hnil : f (trim []) = none := hf
  by_cases hend : b = '\n'
  · subst hend
    rw [List.splitOn_append_cons_self, List.splitOn_nil, List.filterMap_append,
      List.filterMap_cons, hnil, List.filterMap_nil, List.append_nil]
  · obtain ⟨init, last, hs, hsb⟩ := splitOn_concat_of_ne hend s
    rw [hs, hsb, List.filterMap_append, List.filterMap_append, List.filterMap_cons,
      List.filterMap_cons, trim_concat_of_isBlank hb]

theorem filterMap_splitOn_trimStart (hf : f [] = none) (s : List Char) :
    ((trimStart s).splitOn '\n').filterMap (fun l => f (trim l))
      = (s.splitOn '\n').filterMap fun l => f (trim l) := by
  induction s with
  | nil => rfl
  | cons c s ih =>
    by_cases hc : isBlank c = true
    · rw [trimStart_cons_of_isBlank hc, ih, filterMap_splitOn_cons hf hc]
    · rw [trimStart, List.dropWhile_cons_of_neg hc]

theorem filterMap_splitOn_trimEnd (hf : f [] = none) (s : List Char) :
    ((trimEnd s).splitOn '\n').filterMap (fun l => f (trim l))
      = (s.splitOn '\n').filterMap fun l => f (trim l) := by
  induction s using List.reverseRecOn with
  | nil => rfl
  | append_singleton s c ih =>
    by_cases hc : isBlank c = true
    · rw [trimEnd_concat_of_isBlank hc, ih, filterMap_splitOn_concat hf hc]
    · rw [trimEnd_eq_self]
      intro d hd
      rw [List.getLast?_concat, Option.some.injEq] at hd
      exact hd ▸ Bool.eq_false_iff.mpr hc

/-- Trimming lines that were written one below the other touches the last one only. -/
theorem lines_trim_flatMap {init : List (List Char)} {last : List Char}
    (hinit : ∀ l ∈ init, '\n' ∉ l) (hlast : '\n' ∉ last) (hne : trimEnd last ≠ [])
    (hstart : ∀ c, (init.flatMap (· ++ ['\n']) ++ last).head? = some c → isBlank c = false) :
    lines (trim ((init ++ [last]).flatMap (· ++ ['\n']) ++ ['\n'])) = init ++ [trimEnd last] := by
  have hend : isBlank '\n' = true := rfl
  have hmem : '\n' ∉ trimEnd last := fun h =>
    hlast ((List.rdropWhile_prefix isBlank last).subset h)
  rw [List.flatMap_append, List.flatMap_singleton, trim_concat_of_isBlank hend,
    ← List.append_assoc, trim_concat_of_isBlank hend, trim_eq_trimEnd hstart,
    trimEnd_append _ hne, lines_flatMap hinit hmem hne]

/-- **Trimming a text loses no line that is not blank.** -/
theorem filterMap_lines_trim (hf : f [] = none) (s : List Char) :
    (lines (trim s)).filterMap (fun l => f (trim l))
      = (s.splitOn '\n').filterMap fun l => f (trim l) := by
  have hnil : f (trim []) = none := hf
  rw [← filterMap_splitOn_trimStart hf s, ← filterMap_splitOn_trimEnd hf (trimStart s), ← trim]
  rcases splitOn_eq_lines (trim s) with h | h
  · rw [h]
  · rw [h, List.filterMap_append, List.filterMap_cons, hnil, List.filterMap_nil, List.append_nil]

/-- The lines after the first one are those of the text after the first line end. -/
theorem filterMap_tail_splitOn (hf : f [] = none) (s : List Char) :
    (s.splitOn '\n').tail.filterMap (fun l => f (trim l))
      = (((cutAt? '\n' s).getD (s, [])).2.splitOn '\n').filterMap fun l => f (trim l) := by
  have hnil : f (trim []) = none := hf
  rcases cutAt?_getD '\n' s with ⟨hmem, hcut⟩ | ⟨first, rest, hs, hfirst, hcut⟩
  · rw [hcut, List.splitOn_eq_singleton hmem, List.tail_cons, List.splitOn_nil,
      List.filterMap_cons, hnil]
  · rw [hcut, hs, List.splitOn_append_cons_self, List.splitOn_eq_singleton hfirst]
    rfl

/-! ## Pieces -/

/-- There is always at least one piece. -/
theorem pieces_ne_nil (m s : List Char) : pieces m s ≠ [] := by
  cases s with
  | nil => rw [pieces]; exact List.cons_ne_nil _ _
  | cons c s =>
    rw [pieces]
    split
    · exact List.cons_ne_nil _ _
    · split <;> exact List.cons_ne_nil _ _

theorem pieces_append_self {m : List Char} (hm : m ≠ []) (s : List Char) :
    pieces m (m ++ s) = [] :: pieces m s := by
  obtain ⟨c, m, rfl⟩ := List.exists_cons_of_ne_nil hm
  rw [List.cons_append, pieces, if_pos, List.length_cons, Nat.add_sub_cancel, List.drop_left]
  rw [List.isPrefixOf_iff_prefix, ← List.cons_append]
  exact List.prefix_append _ _

/-- Cutting at a marker of one character is cutting at the character. -/
theorem pieces_singleton (d : Char) (s : List Char) : pieces [d] s = s.splitOn d := by
  induction s with
  | nil => rw [pieces, List.splitOn_nil]
  | cons c s ih =>
    obtain ⟨l, ls, hs⟩ := List.exists_cons_of_ne_nil (List.splitOn_ne_nil d s)
    rw [pieces, List.splitOn_cons_eq_if_modifyHead, ih, hs, List.modifyHead_cons]
    by_cases hc : c = d
    · rw [if_pos (by simp [hc]), if_pos (beq_iff_eq.mpr hc), List.length_singleton, Nat.sub_self,
        List.drop_zero, ih, hs]
    · rw [if_neg (by simp [Ne.symm hc]), if_neg (mt beq_iff_eq.mp hc)]

/-- A character at which no marker begins belongs to the first piece. -/
theorem pieces_cons_of_not_marked {m s : List Char} {c : Char} {l : List Char}
    {ls : List (List Char)} (h : ¬ m <+: c :: s) (hs : pieces m s = l :: ls) :
    pieces m (c :: s) = (c :: l) :: ls := by
  rw [pieces, if_neg (mt List.isPrefixOf_iff_prefix.mp h), hs]

/-- **A text is cut into its pieces again if the marker occurs between them only.** -/
theorem pieces_append_flatMap {m : List Char} (hm : m ≠ []) (first : List Char)
    (rest : List (List Char))
    (honly : ∀ pre post, first ++ rest.flatMap (m ++ ·) = pre ++ m ++ post →
      ∃ front back, rest = front ++ back ∧ back ≠ [] ∧ pre = first ++ front.flatMap (m ++ ·)) :
    pieces m (first ++ rest.flatMap (m ++ ·)) = first :: rest := by
  -- Along the text: over the first piece character by character, then on to the next one.
  induction rest generalizing first with
  | nil =>
    simp only [List.flatMap_nil, List.append_nil] at honly ⊢
    induction first with
    | nil => rw [pieces]
    | cons c first ih =>
      have hnone : ∀ pre post, c :: first ≠ pre ++ m ++ post := by
        intro pre post h
        obtain ⟨front, back, hrest, hback, -⟩ := honly pre post h
        exact hback (List.append_eq_nil_iff.mp hrest.symm).2
      refine pieces_cons_of_not_marked ?_ (ih fun pre post h => ?_)
      · rintro ⟨post, hpost⟩
        exact hnone [] post hpost.symm
      · exact absurd (congrArg (c :: ·) h) (hnone (c :: pre) post)
  | cons t rest ihrest =>
    induction first with
    | nil =>
      rw [List.nil_append, List.flatMap_cons, List.append_assoc, pieces_append_self hm, ihrest]
      intro pre post h
      obtain ⟨front, back, hsplit, hback, hpre⟩ := honly (m ++ pre) post (by
        rw [List.nil_append, List.flatMap_cons, List.append_assoc, h]
        simp only [List.append_assoc])
      cases front with
      | nil => exact absurd (List.append_eq_nil_iff.mp hpre).1 hm
      | cons t' front =>
        rw [List.cons_append, List.cons.injEq] at hsplit
        obtain ⟨rfl, rfl⟩ := hsplit
        rw [List.nil_append, List.flatMap_cons, List.append_assoc] at hpre
        exact ⟨front, back, rfl, hback, List.append_cancel_left hpre⟩
    | cons c first ih =>
      refine pieces_cons_of_not_marked ?_ (ih fun pre post h => ?_)
      · rintro ⟨post, hpost⟩
        obtain ⟨front, back, -, -, hpre⟩ := honly [] post hpost.symm
        exact List.cons_ne_nil _ _ hpre.symm
      · obtain ⟨front, back, hsplit, hback, hpre⟩ :=
          honly (c :: pre) post (congrArg (c :: ·) h)
        exact ⟨front, back, hsplit, hback, List.tail_eq_of_cons_eq hpre⟩

end Text
end ScriptedChat
