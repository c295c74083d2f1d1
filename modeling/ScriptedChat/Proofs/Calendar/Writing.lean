import ScriptedChat.Calendar.Layout
import ScriptedChat.Proofs.Json.Scan

/-!
# Moments as they are written

To the second, a moment is written in nineteen characters if its year has four digits.  All of them
are digits, but for the signs between the fields.

* `mem_writeSeconds`: the characters.
* `length_writeSeconds`: how many there are.
-/

namespace ScriptedChat
namespace Calendar

/-! ## Numbers of a fixed width -/

theorem length_padded {width n : Nat} (hw : 0 < width) (hn : n < 10 ^ width) :
    (padded width n).length = width := by
  have hlength : (Nat.toDigits 10 n).length ≤ width :=
    (Nat.length_toDigits_le_iff (by decide) hw).mpr hn
  rw [padded, List.length_append, List.length_replicate]
  omega

theorem isDigit_of_mem_padded {width n : Nat} {c : Char} (h : c ∈ padded width n) :
    c.isDigit = true := by
  rw [padded, List.mem_append] at h
  rcases h with h | h
  · rw [List.eq_of_mem_replicate h]
    decide
  · exact Json.isDigit_of_mem_digits h

/-- The number of a month, and that of a day, have at most two digits. -/
theorem ofDayNumber_lt (n : Int) :
    (Date.ofDayNumber n).month < 100 ∧ (Date.ofDayNumber n).day < 100 := by
  simp only [Date.ofDayNumber]
  generalize n + 719468 = z
  have hera : 0 ≤ z % 146097 ∧ z % 146097 < 146097 := by omega
  generalize z % 146097 = dayOfEra at *
  generalize hyear : (dayOfEra - dayOfEra / 1460 + dayOfEra / 36524 - dayOfEra / 146096) / 365
    = yearOfEra
  have hday : dayOfEra - (365 * yearOfEra + yearOfEra / 4 - yearOfEra / 100) < 500 := by omega
  generalize dayOfEra - (365 * yearOfEra + yearOfEra / 4 - yearOfEra / 100) = dayOfYear at *
  refine ⟨?_, by omega⟩
  split <;> omega

/-! ## Moments -/

/-- The year of a moment has four digits. -/
def Moment.IsDated (m : Moment) : Prop :=
  0 ≤ (Date.ofDayNumber m.day).year ∧ (Date.ofDayNumber m.day).year ≤ 9999

/-- What a moment is written with. -/
theorem mem_writeSeconds {m : Moment} {c : Char} (h : c ∈ m.writeSeconds) :
    c.isDigit = true ∨ c ∈ ['-', '+', 'T', ':'] := by
  have hyear : ∀ {y : Int}, c ∈ writeYear y → c.isDigit = true ∨ c ∈ ['-', '+', 'T', ':'] := by
    intro y hc
    rw [writeYear] at hc
    split at hc
    · exact Or.inl (isDigit_of_mem_padded hc)
    · rcases List.mem_cons.mp hc with rfl | hc
      · split <;> exact Or.inr (by decide)
      · exact Or.inl (isDigit_of_mem_padded hc)
  have hnumber : ∀ {width n : Nat}, c ∈ padded width n →
      c.isDigit = true ∨ c ∈ ['-', '+', 'T', ':'] := fun hc => Or.inl (isDigit_of_mem_padded hc)
  have hsign : ∀ {d : Char}, d ∈ ['-', '+', 'T', ':'] → c ∈ [d] →
      c.isDigit = true ∨ c ∈ ['-', '+', 'T', ':'] := fun hd hc =>
    Or.inr (List.mem_singleton.mp hc ▸ hd)
  rw [Moment.writeSeconds] at h
  simp only [List.mem_append] at h
  rcases h with (((((((((h | h) | h) | h) | h) | h) | h) | h) | h) | h) | h
  · exact hyear h
  · exact hsign (by decide) h
  · exact hnumber h
  · exact hsign (by decide) h
  · exact hnumber h
  · exact hsign (by decide) h
  · exact hnumber h
  · exact hsign (by decide) h
  · exact hnumber h
  · exact hsign (by decide) h
  · exact hnumber h

theorem second_ofMillis_lt (ms : Int) : (Moment.ofMillis ms).second < 86400 := by
  simp only [Moment.ofMillis, daySeconds]
  omega

/-- A moment with a year of four digits is written in nineteen characters. -/
theorem length_writeSeconds {m : Moment} (hm : m.IsDated) (hsecond : m.second < 86400) :
    m.writeSeconds.length = 19 := by
  obtain ⟨hpast, hfuture⟩ := hm
  obtain ⟨hmonth, hday⟩ := ofDayNumber_lt m.day
  have htwo : ∀ {n : Nat}, n < 100 → (padded 2 n).length = 2 := fun hn =>
    length_padded (by decide) hn
  have hyear : (writeYear (Date.ofDayNumber m.day).year).length = 4 := by
    rw [writeYear, if_pos ⟨hpast, hfuture⟩]
    exact length_padded (by decide) (by omega)
  have hleap : m.second % 60 + (if 1000000000 ≤ m.nano then 1 else 0) < 100 := by
    split <;> omega
  rw [Moment.writeSeconds]
  simp only [List.length_append, List.length_singleton, hyear, htwo hmonth, htwo hday, htwo hleap,
    htwo (n := m.second / 3600) (by omega), htwo (n := m.second / 60 % 60) (by omega)]

end Calendar
end ScriptedChat
