import ScriptedChat.Proofs.Text.Cut

/-!
# Carriage returns before line ends

Some editors end a line with a carriage return and a line end.  `withReturns` writes a text
their way.  A carriage return is a blank, so whoever trims what he cuts finds the same parts in
both texts.  For each cut this is a law of its own, since a carriage return gets into what is cut
out in each of them: it is the last character of a line, and of the text before the first line
end, and stays inside the pieces between markers.

* `trim_withReturns`: trimming may come first or last.
* `pieces_withReturns`: a marker without either character is found at the same places.
* `lines_withReturns`: line by line, the texts differ in blanks at the end.
* `cutAt?_withReturns`: the first line is the same but for the carriage return at its end.
-/

namespace ScriptedChat
namespace Text

variable {c : Char} {m s : List Char}

/-- The text with a carriage return before every line end. -/
def withReturns (s : List Char) : List Char :=
  s.flatMap fun c => if c = '\n' then ['\r', '\n'] else [c]

@[simp] theorem withReturns_nil : withReturns [] = [] := rfl

theorem withReturns_newline (s : List Char) :
    withReturns ('\n' :: s) = '\r' :: '\n' :: withReturns s := rfl

theorem withReturns_cons (hc : c ≠ '\n') (s : List Char) :
    withReturns (c :: s) = c :: withReturns s := by
  rw [withReturns, List.flatMap_cons, if_neg hc]
  rfl

theorem withReturns_append (s t : List Char) :
    withReturns (s ++ t) = withReturns s ++ withReturns t :=
  List.flatMap_append

/-- A text without line ends has no use for carriage returns. -/
theorem withReturns_of_notMem (hs : '\n' ∉ s) : withReturns s = s := by
  induction s with
  | nil => rfl
  | cons c s ih =>
    rw [List.mem_cons, not_or] at hs
    rw [withReturns_cons (Ne.symm hs.1), ih hs.2]

/-! ## Trimming -/

theorem isAllBlank_withReturns (s : List Char) : isAllBlank (withReturns s) = isAllBlank s := by
  induction s with
  | nil => rfl
  | cons c s ih =>
    by_cases hc : c = '\n'
    · subst hc
      exact ih
    · rw [withReturns_cons hc]
      exact congrArg (isBlank c && ·) ih

theorem trimStart_withReturns (s : List Char) :
    trimStart (withReturns s) = withReturns (trimStart s) := by
  induction s with
  | nil => rfl
  | cons c s ih =>
    by_cases hc : c = '\n'
    · subst hc
      exact ih
    · rw [withReturns_cons hc]
      by_cases hb : isBlank c = true
      · rw [trimStart_cons_of_isBlank hb, trimStart_cons_of_isBlank hb, ih]
      · rw [trimStart, trimStart, List.dropWhile_cons_of_neg hb, List.dropWhile_cons_of_neg hb,
          withReturns_cons hc]

theorem trimEnd_withReturns (s : List Char) :
    trimEnd (withReturns s) = withReturns (trimEnd s) := by
  have hreturn : ∀ u : List Char, trimEnd (u ++ ['\r', '\n']) = trimEnd u := fun u => by
    rw [List.append_cons, trimEnd_concat_of_isBlank rfl, trimEnd_concat_of_isBlank rfl]
  induction s using List.reverseRecOn with
  | nil => rfl
  | append_singleton s c ih =>
    rw [withReturns_append]
    by_cases hc : c = '\n'
    · subst hc
      rw [trimEnd_concat_of_isBlank rfl, ← ih]
      exact hreturn _
    · have hself : withReturns [c] = [c] := withReturns_cons hc []
      rw [hself]
      by_cases hb : isBlank c = true
      · rw [trimEnd_concat_of_isBlank hb, trimEnd_concat_of_isBlank hb, ih]
      · rw [trimEnd_concat hb, trimEnd_concat hb, withReturns_append, hself]

/-- **Trimming may come before or after.** -/
theorem trim_withReturns (s : List Char) : trim (withReturns s) = withReturns (trim s) := by
  rw [trim, trimStart_withReturns, trimEnd_withReturns, trim]

/-! ## Cutting at a marker -/

/-- A marker that has neither of the two characters stands at the same places. -/
theorem prefix_withReturns_iff (hn : '\n' ∉ m) (hr : '\r' ∉ m) :
    m <+: withReturns s ↔ m <+: s := by
  induction m generalizing s with
  | nil => exact iff_of_true List.nil_prefix List.nil_prefix
  | cons x m ih =>
    rw [List.mem_cons, not_or] at hn hr
    cases s with
    | nil => rfl
    | cons c s =>
      by_cases hc : c = '\n'
      · subst hc
        rw [withReturns_newline, List.cons_prefix_cons, List.cons_prefix_cons]
        exact iff_of_false (fun h => hr.1 h.1.symm) fun h => hn.1 h.1.symm
      · rw [withReturns_cons hc, List.cons_prefix_cons, List.cons_prefix_cons, ih hn.2 hr.2]

/-- A marker does not begin at a character that it does not have. -/
theorem not_marked_of_notMem (hm : m ≠ []) (hc : c ∉ m) (s : List Char) : ¬ m <+: c :: s := by
  rintro ⟨t, ht⟩
  obtain ⟨x, m, rfl⟩ := List.exists_cons_of_ne_nil hm
  rw [List.cons_append, List.cons.injEq] at ht
  exact hc (ht.1 ▸ List.mem_cons_self)

/-- One character on, as long as no marker begins there. -/
theorem pieces_withReturns_cons (hm : m ≠ []) (hn : '\n' ∉ m) (hr : '\r' ∉ m)
    (hstart : ¬ m <+: c :: s) (hrest : pieces m (withReturns s) = (pieces m s).map withReturns) :
    pieces m (withReturns (c :: s)) = (pieces m (c :: s)).map withReturns := by
  have hlater : ¬ m <+: withReturns (c :: s) := mt (prefix_withReturns_iff hn hr).mp hstart
  obtain ⟨l, ls, hs⟩ := List.exists_cons_of_ne_nil (pieces_ne_nil m s)
  rw [hs, List.map_cons] at hrest
  have hpieces : pieces m (c :: s) = (c :: l) :: ls := pieces_cons_of_not_marked hstart hs
  rw [hpieces, List.map_cons]
  by_cases hc : c = '\n'
  · subst hc
    have hend := pieces_cons_of_not_marked (not_marked_of_notMem hm hn _) hrest
    exact pieces_cons_of_not_marked hlater hend
  · rw [withReturns_cons hc] at hlater ⊢
    rw [withReturns_cons hc]
    exact pieces_cons_of_not_marked hlater hrest

/-- **A text is cut at the same markers.** -/
theorem pieces_withReturns (hm : m ≠ []) (hn : '\n' ∉ m) (hr : '\r' ∉ m) (s : List Char) :
    pieces m (withReturns s) = (pieces m s).map withReturns := by
  -- At a marker the text goes on behind it, so the induction is on its length.
  induction hlen : s.length using Nat.strong_induction_on generalizing s with
  | _ n ih =>
    cases s with
    | nil => rw [withReturns_nil, pieces, List.map_singleton, withReturns_nil]
    | cons c s =>
      by_cases hstart : m <+: c :: s
      · obtain ⟨t, ht⟩ := hstart
        have hshort : t.length < n := by
          have hpos := List.length_pos_of_ne_nil hm
          have hsum := congrArg List.length ht
          rw [List.length_append] at hsum
          omega
        rw [← ht, withReturns_append, withReturns_of_notMem hn, pieces_append_self hm,
          pieces_append_self hm, ih _ hshort t rfl, List.map_cons, withReturns_nil]
      · have hshort : s.length < n := by
          rw [List.length_cons] at hlen
          omega
        exact pieces_withReturns_cons hm hn hr hstart (ih _ hshort s rfl)

/-! ## Cutting at line ends -/

/-- The text before the first line end gets a carriage return at its end. -/
theorem cutAt?_withReturns (s : List Char) :
    cutAt? '\n' (withReturns s)
      = (cutAt? '\n' s).map fun p => (p.1 ++ ['\r'], withReturns p.2) := by
  cases hcut : cutAt? '\n' s with
  | none => rw [withReturns_of_notMem (cutAt?_eq_none.mp hcut), hcut]; rfl
  | some p =>
    obtain ⟨hs, ha⟩ := cutAt?_eq_some.mp hcut
    refine cutAt?_eq_some.mpr ⟨?_, ?_⟩
    · rw [hs, withReturns_append, withReturns_of_notMem ha, withReturns_newline,
        List.append_assoc]
      rfl
    · rw [List.mem_append, List.mem_singleton]
      exact fun h => h.elim ha fun h => absurd h (by decide)

/-- **Line by line, the texts differ in blanks at the end.** -/
theorem lines_withReturns (s : List Char) :
    (lines (withReturns s)).map trimEnd = (lines s).map trimEnd := by
  induction s with
  | nil => rfl
  | cons c s ih =>
    by_cases hc : c = '\n'
    · subst hc
      have hreturn : lines ('\r' :: '\n' :: withReturns s) = ['\r'] :: lines (withReturns s) := rfl
      have hend : lines ('\n' :: s) = [] :: lines s := rfl
      rw [withReturns_newline, hreturn, hend, List.map_cons, List.map_cons, ih]
      rfl
    · rw [withReturns_cons hc, lines, lines, if_neg hc, if_neg hc]
      cases hl : lines s with
      | nil =>
        rw [hl, List.map_nil, List.map_eq_nil_iff] at ih
        rw [ih]
      | cons l ls =>
        rw [hl, List.map_cons] at ih
        obtain ⟨l', ls', hl', hl, hls⟩ := List.map_eq_cons_iff.mp ih
        rw [hl', List.map_cons, List.map_cons, hls, ← trimEnd_cons_trimEnd c l', hl,
          trimEnd_cons_trimEnd]

end Text
end ScriptedChat
