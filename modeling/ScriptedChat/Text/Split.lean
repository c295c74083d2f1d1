import ScriptedChat.Text.Blank

/-!
# Cutting texts

The grammar of a script is made of a few cuts: at every line end, at every heading
marker, at the first colon, at the first closing parenthesis.  Each is one function on
lists of characters.

* `lines`: the lines of a text; a line end at the very end opens no further line.
* `cutAt?`: the parts before and after the first occurrence of a character.
* `before`: the part before the first occurrence, or everything.
* `pieces`: the parts between the occurrences of a marker.
* `dropPrefix?`, `dropSuffix`: a known text taken off an end.
* `joinWith`: the inverse of cutting.
-/

namespace ScriptedChat
namespace Text

/-- The lines of a text.  The empty text has none, and a carriage return before a line
end stays with its line. -/
def lines : List Char → List (List Char)
  | [] => []
  | c :: s =>
    if c = '\n' then [] :: lines s
    else
      match lines s with
      | [] => [[c]]
      | l :: ls => (c :: l) :: ls

/-- The parts before and after the first `d`, if there is one. -/
def cutAt? (d : Char) : List Char → Option (List Char × List Char)
  | [] => none
  | c :: s =>
    if c = d then some ([], s)
    else (cutAt? d s).map fun p => (c :: p.1, p.2)

/-- The part before the first `d`, or the whole text. -/
def before (d : Char) (s : List Char) : List Char := s.takeWhile (· ≠ d)

/-- The text after `p`, if it starts with `p`. -/
def dropPrefix? : List Char → List Char → Option (List Char)
  | [], s => some s
  | _ :: _, [] => none
  | p :: ps, c :: s => if p = c then dropPrefix? ps s else none

/-- The text without one `d` at its end. -/
def dropSuffix (d : Char) (s : List Char) : List Char :=
  if s.getLast? = some d then s.dropLast else s

/-- The parts of a text between the occurrences of the marker `m`, read from the left.
There is always at least one part.  The marker must not be empty. -/
def pieces (m : List Char) : List Char → List (List Char)
  | [] => [[]]
  | c :: s =>
    if m.isPrefixOf (c :: s) then [] :: pieces m (s.drop (m.length - 1))
    else
      match pieces m s with
      | [] => [[c]]
      | l :: ls => (c :: l) :: ls
termination_by s => s.length
decreasing_by
  · simp only [List.length_drop, List.length_cons]; omega
  · simp

/-- The parts, with `sep` between any two that follow each other. -/
def joinWith (sep : List Char) : List (List Char) → List Char
  | [] => []
  | [s] => s
  | s :: t :: ss => s ++ sep ++ joinWith sep (t :: ss)

theorem cutAt?_eq_some {d : Char} {s a b : List Char} :
    cutAt? d s = some (a, b) ↔ s = a ++ d :: b ∧ d ∉ a := by
  induction s generalizing a b with
  | nil => simp [cutAt?]
  | cons c s ih =>
    by_cases hc : c = d
    · subst hc
      cases a with
      | nil => simp [cutAt?]
      | cons x a =>
        simp only [cutAt?, if_pos, Option.some.injEq, Prod.mk.injEq, List.cons_append,
          List.cons.injEq, List.mem_cons, not_or]
        constructor
        · intro h; simp at h
        · rintro ⟨⟨rfl, _⟩, h, _⟩; exact absurd rfl h
    · simp only [cutAt?, hc, if_false, Option.map_eq_some_iff, Prod.mk.injEq]
      constructor
      · rintro ⟨⟨a', b'⟩, h, rfl, rfl⟩
        obtain ⟨rfl, hd⟩ := ih.1 h
        exact ⟨rfl, by simp [hd, Ne.symm hc]⟩
      · rintro ⟨h, hd⟩
        cases a with
        | nil => simp at h; exact absurd h.1 hc
        | cons x a =>
          simp only [List.cons_append, List.cons.injEq] at h
          simp only [List.mem_cons, not_or] at hd
          exact ⟨(a, b), ih.2 ⟨h.2, hd.2⟩, by rw [h.1], rfl⟩

theorem cutAt?_eq_none {d : Char} {s : List Char} : cutAt? d s = none ↔ d ∉ s := by
  induction s with
  | nil => simp [cutAt?]
  | cons c s ih =>
    by_cases hc : c = d
    · simp [cutAt?, hc]
    · simp [cutAt?, hc, ih, Ne.symm hc]

theorem dropPrefix?_eq_some {p s t : List Char} :
    dropPrefix? p s = some t ↔ s = p ++ t := by
  induction p generalizing s with
  | nil => simp [dropPrefix?]
  | cons x p ih =>
    cases s with
    | nil => simp [dropPrefix?]
    | cons c s =>
      by_cases h : x = c
      · subst h; simp [dropPrefix?, ih]
      · simp [dropPrefix?, h, Ne.symm h]

end Text
end ScriptedChat
