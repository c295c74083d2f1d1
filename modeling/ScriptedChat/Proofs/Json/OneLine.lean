import ScriptedChat.Proofs.Json.Scan

/-!
# Values are written in one line

No line end is in the text of a value.  Outside of strings none is ever written, and in a string it
is escaped.

* `newline_notMem_writeText`: strings.
* `newline_notMem_toText`: whole values.
-/

namespace ScriptedChat
namespace Json

theorem newline_notMem_digits (n : Nat) : '\n' ∉ Nat.toDigits 10 n := fun h =>
  absurd (isDigit_of_mem_digits h) (by decide)

/-! ## Strings -/

theorem hexDigit_ne_newline : ∀ n, n < 16 → '\n' ≠ hexDigit n := by decide

/-- A line end is written as a letter behind a backslash, and nothing else is written as one. -/
theorem newline_notMem_escape (c : Char) : '\n' ∉ escape c := by
  by_cases hc : c = '\n'
  · rw [hc]
    decide
  have hshort : ∀ e : Char, '\n' ≠ e → '\n' ∉ ['\\', e] := fun e he => by
    simpa using he
  simp only [escape, if_neg hc]
  repeat' split
  iterate 6 exact hshort _ (by decide)
  · have hhigh := hexDigit_ne_newline (c.toNat / 16) (by omega)
    have hlow := hexDigit_ne_newline (c.toNat % 16) (by omega)
    simpa using ⟨hhigh, hlow⟩
  · simpa using Ne.symm hc

theorem newline_notMem_writeText (s : String) : '\n' ∉ writeText s := by
  have hquote : '\n' ≠ '"' := by decide
  rw [writeText, List.cons_append, List.mem_cons, List.mem_append, List.mem_flatMap,
    List.mem_singleton]
  rintro (h | ⟨c, -, h⟩ | h)
  · exact hquote h
  · exact newline_notMem_escape c h
  · exact hquote h

/-! ## Numbers -/

theorem newline_notMem_writeInt (n : Int) : '\n' ∉ writeInt n := by
  rw [writeInt]
  split
  · exact List.not_mem_cons_of_ne_of_not_mem (by decide) (newline_notMem_digits _)
  · exact newline_notMem_digits _

theorem newline_notMem_writeExponent (e : Int) : '\n' ∉ writeExponent e := by
  rw [writeExponent]
  split
  · exact List.not_mem_cons_of_ne_of_not_mem (by decide) (newline_notMem_writeInt e)
  · exact List.not_mem_cons_of_ne_of_not_mem (by decide)
      (List.not_mem_cons_of_ne_of_not_mem (by decide) (newline_notMem_writeInt e))

theorem newline_notMem_writeDigits (d : Decimal.Digits) : '\n' ∉ writeDigits d := by
  have hds := newline_notMem_digits d.digits
  have htake : ∀ n, '\n' ∉ (Nat.toDigits 10 d.digits).take n := fun n h =>
    hds (List.mem_of_mem_take h)
  have hdrop : ∀ n, '\n' ∉ (Nat.toDigits 10 d.digits).drop n := fun n h =>
    hds (List.mem_of_mem_drop h)
  have htail : '\n' ∉ (Nat.toDigits 10 d.digits).tail := fun h => hds (List.mem_of_mem_tail h)
  have hzeros : ∀ n, '\n' ∉ List.replicate n '0' := fun n h =>
    absurd (List.eq_of_mem_replicate h) (by decide)
  have hexponent := newline_notMem_writeExponent
  rw [writeDigits]
  dsimp only
  split
  · simp [hds, hzeros]
  split
  · simp [htake, hdrop]
  split
  · simp [hds, hzeros]
  split
  · simp [hds, hexponent]
  · simp [htake, htail, hexponent]

theorem newline_notMem_writeReal (bits : UInt64) : '\n' ∉ writeReal bits := by
  rw [writeReal, List.mem_append, not_or]
  refine ⟨?_, newline_notMem_writeDigits _⟩
  split <;> decide

/-! ## Whole values -/

mutual

/-- No line end is in the text of a value. -/
theorem newline_notMem_render : ∀ v : Json, '\n' ∉ v.render
  | .null => by decide
  | .bool true => by decide
  | .bool false => by decide
  | .int n => newline_notMem_writeInt n
  | .real bits => newline_notMem_writeReal bits
  | .text s => newline_notMem_writeText s
  | .foreign => List.not_mem_nil
  | .array items => by
    have hitems := newline_notMem_renderItems items
    simp [render, hitems]
  | .object members => by
    have hmembers := newline_notMem_renderMembers members
    simp [render, hmembers]

/-- None is among the items of an array. -/
theorem newline_notMem_renderItems : ∀ vs : List Json, '\n' ∉ renderItems vs
  | [] => List.not_mem_nil
  | [v] => newline_notMem_render v
  | v :: w :: vs => by
    have hfirst := newline_notMem_render v
    have hrest := newline_notMem_renderItems (w :: vs)
    simp [renderItems, hfirst, hrest]

/-- None is among the members of an object. -/
theorem newline_notMem_renderMembers : ∀ ms : List (String × Json), '\n' ∉ renderMembers ms
  | [] => List.not_mem_nil
  | [(n, v)] => by
    have hname := newline_notMem_writeText n
    have hvalue := newline_notMem_render v
    simp [renderMembers, hname, hvalue]
  | (n, v) :: m :: ms => by
    have hname := newline_notMem_writeText n
    have hvalue := newline_notMem_render v
    have hrest := newline_notMem_renderMembers (m :: ms)
    simp [renderMembers, hname, hvalue, hrest]

end

theorem newline_notMem_toText (v : Json) : '\n' ∉ v.toText.toList := by
  rw [toText, String.toList_ofList]
  exact newline_notMem_render v

end Json
end ScriptedChat
