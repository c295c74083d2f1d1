/-!
# Blanks

Everything a person writes for this library --- a script, a command, a token file ---
is trimmed and cut at *blanks*.  A blank is a character with the Unicode property
`White_Space`, which is wider than the four characters that `Char.isWhitespace` knows.

* `isBlank`: the property, as a table of code points.
* `trimStart`, `trimEnd`, `trim`: the text without the blanks at its ends.
* `words`: the maximal blank-free runs, in order.

All texts are lists of characters here, so that every operation is a list operation
and its laws are the laws of `dropWhile` and `takeWhile`.
-/

namespace ScriptedChat
namespace Text

/-- The characters with the Unicode property `White_Space`. -/
def isBlank (c : Char) : Bool :=
  c == ' ' || (9 ≤ c.toNat && c.toNat ≤ 13) || c.toNat == 0x85 || c.toNat == 0xA0
    || c.toNat == 0x1680 || (0x2000 ≤ c.toNat && c.toNat ≤ 0x200A)
    || c.toNat == 0x2028 || c.toNat == 0x2029 || c.toNat == 0x202F
    || c.toNat == 0x205F || c.toNat == 0x3000

/-- The blanks that core knows are blanks. -/
theorem isBlank_of_isWhitespace {c : Char} (h : c.isWhitespace = true) :
    isBlank c = true := by
  simp only [Char.isWhitespace, Bool.or_eq_true, decide_eq_true_eq] at h
  rcases h with ((h | h) | h) | h <;> subst h <;> decide

/-! ## Trimming -/

/-- The text from its first character that is no blank on. -/
def trimStart (s : List Char) : List Char := s.dropWhile isBlank

/-- The text up to its last character that is no blank. -/
def trimEnd (s : List Char) : List Char := (s.reverse.dropWhile isBlank).reverse

/-- The text without the blanks at either end. -/
def trim (s : List Char) : List Char := trimEnd (trimStart s)

@[simp] theorem trimStart_nil : trimStart [] = [] := rfl

@[simp] theorem trimEnd_nil : trimEnd [] = [] := rfl

@[simp] theorem trim_nil : trim [] = [] := rfl

/-- A text of blanks only, which is also the empty text. -/
def isAllBlank (s : List Char) : Bool := s.all isBlank

/-! ## Words -/

/-- Dropping never lengthens a text. -/
theorem length_dropWhile_le (p : Char → Bool) :
    ∀ s : List Char, (s.dropWhile p).length ≤ s.length
  | [] => Nat.le_refl _
  | c :: s => by
    rw [List.dropWhile_cons]
    split
    · exact Nat.le_succ_of_le (length_dropWhile_le p s)
    · exact Nat.le_refl _

/-- The maximal runs of characters that are no blanks, in order. -/
def words : List Char → List (List Char)
  | [] => []
  | c :: s =>
    if isBlank c then words s
    else (c :: s.takeWhile fun d => !isBlank d) :: words (s.dropWhile fun d => !isBlank d)
termination_by s => s.length
decreasing_by
  · exact Nat.lt_succ_self s.length
  · exact Nat.lt_succ_of_le (length_dropWhile_le _ s)

end Text
end ScriptedChat
