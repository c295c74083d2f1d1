import Mathlib.Data.List.Basic
import Mathlib.Tactic.IntervalCases
import ScriptedChat.Json.Reader
import ScriptedChat.Json.Writer

/-!
# The tokens of a written value

`Json.render` writes a value without blanks, so the text of a value is the texts of its
tokens, one after the other.  This file says which tokens these are (`tokens`) and that
`Token.readAll?` finds them again, whatever comes after the text.

## What may follow

A number or a word ends where its characters end, so it is read back only if what follows
cannot be a part of it.  After a value there is a comma, a bracket that closes, or nothing
(`IsTail`), and none of these can.

## Room

A value is `isWritable` with some room if it has no float and nothing foreign in it, its
integers fit a word, and its containers are nested no deeper than the room.

* `readUnits?_flatMap_escape`, `joinUnits?_map_toNat`: strings.
* `Numeral.read?_writeInt`, `Numeral.value_of_fits`, `writeInt_injective`: integers.
* `Scans`: a text that is read as some tokens.
* `scans_render`: the text of a value is read as its tokens.
-/

namespace ScriptedChat
namespace Json

/-! ## Strings -/

theorem hexValue?_hexDigit : ∀ n, n < 16 → hexValue? (hexDigit n) = some n := by decide

/-- A character is no half of a surrogate pair. -/
theorem not_isHalf_toNat (c : Char) : isHighHalf c.toNat = false ∧ isLowHalf c.toNat = false := by
  have h : c.toNat < 0xD800 ∨ 0xDFFF < c.toNat ∧ c.toNat < 0x110000 := c.valid
  constructor
  · simp only [isHighHalf, Bool.and_eq_false_iff, decide_eq_false_iff_not]
    omega
  · simp only [isLowHalf, Bool.and_eq_false_iff, decide_eq_false_iff_not]
    omega

/-- The code points of characters are joined to the same characters. -/
theorem joinUnits?_map_toNat (s : List Char) : joinUnits? (s.map Char.toNat) = some s := by
  induction s with
  | nil => rfl
  | cons c s ih =>
    obtain ⟨hh, hl⟩ := not_isHalf_toNat c
    cases s with
    | nil => simp [joinUnits?, hh, hl]
    | cons d s =>
      rw [List.map_cons, List.map_cons, joinUnits?, hh, hl, ← List.map_cons, ih]
      simp

/-- A character that is written as itself is read as itself. -/
theorem readUnits?_cons {c : Char} {s rest : List Char} {us : List Nat} (hspace : ' ' ≤ c)
    (hquote : c ≠ '"') (hslash : c ≠ '\\') (h : readUnits? s = some (us, rest)) :
    readUnits? (c :: s) = some (c.toNat :: us, rest) := by
  rw [readUnits?.eq_def]
  split <;> simp_all [guard]

/-- What is written for a control character is read as that character. -/
theorem readUnits?_unicode {c : Char} {s rest : List Char} {us : List Nat}
    (hc : c.toNat < 32) (h : readUnits? s = some (us, rest)) :
    readUnits? ('\\' :: 'u' :: '0' :: '0' :: hexDigit (c.toNat / 16) :: hexDigit (c.toNat % 16)
      :: s) = some (c.toNat :: us, rest) := by
  have hhigh := hexValue?_hexDigit (c.toNat / 16) (by omega)
  have hlow := hexValue?_hexDigit (c.toNat % 16) (by omega)
  have hzero : hexValue? '0' = some 0 := rfl
  have hquad : hexQuad? '0' '0' (hexDigit (c.toNat / 16)) (hexDigit (c.toNat % 16))
      = some c.toNat := by
    simp only [hexQuad?, hhigh, hlow, hzero, Option.bind_eq_bind, Option.bind_some,
      Option.pure_def, Option.some.injEq]
    omega
  rw [readUnits?.eq_def]
  simp [hquad, h]

/-- A short escape is read as the character that it stands for. -/
theorem readUnits?_short {c e : Char} {s rest : List Char} {us : List Nat} (he : e ≠ 'u')
    (hc : shortEscape? e = some c) (h : readUnits? s = some (us, rest)) :
    readUnits? ('\\' :: e :: s) = some (c.toNat :: us, rest) := by
  rw [readUnits?]
  · simp [hc, h]
  · intro _ _ _ _ _ hu
    exact absurd hu he

/-- The spelling of a character is read as that character. -/
theorem readUnits?_escape {c : Char} {s rest : List Char} {us : List Nat}
    (h : readUnits? s = some (us, rest)) :
    readUnits? (escape c ++ s) = some (c.toNat :: us, rest) := by
  unfold escape
  split
  · subst_vars; exact readUnits?_short (by decide) rfl h
  split
  · subst_vars; exact readUnits?_short (by decide) rfl h
  split
  · subst_vars; exact readUnits?_short (by decide) rfl h
  split
  · subst_vars; exact readUnits?_short (by decide) rfl h
  split
  · subst_vars; exact readUnits?_short (by decide) rfl h
  split
  · subst_vars; exact readUnits?_short (by decide) rfl h
  split
  · subst_vars; exact readUnits?_short (by decide) rfl h
  split
  · rename_i hc
    exact readUnits?_unicode hc h
  · rename_i hquote hslash _ _ _ _ _ hc
    have hspace : ' ' ≤ c := by
      have : (' ' : Char).toNat ≤ c.toNat := Nat.le_of_not_lt hc
      exact this
    exact readUnits?_cons hspace hquote hslash h

theorem readUnits?_flatMap_escape (s rest : List Char) :
    readUnits? (s.flatMap escape ++ '"' :: rest) = some (s.map Char.toNat, rest) := by
  induction s with
  | nil => simp [readUnits?]
  | cons c s ih =>
    rw [List.flatMap_cons, List.append_assoc, List.map_cons]
    exact readUnits?_escape ih

theorem readString?_writeText (s : String) (rest : List Char) :
    readString? (s.toList.flatMap escape ++ ['"'] ++ rest) = some (.text (some s), rest) := by
  rw [List.append_assoc, List.singleton_append, readString?, readUnits?_flatMap_escape]
  simp [joinUnits?_map_toNat]

/-! ## Integers -/

/-- What follows a value: nothing, a comma, or a bracket that closes. -/
def IsTail (s : List Char) : Prop :=
  ∀ c, s.head? = some c → c = ',' ∨ c = ']' ∨ c = '\x7d'

theorem isTail_nil : IsTail [] := by
  intro c hc
  cases hc

theorem isTail_cons {c : Char} {s : List Char} (h : c = ',' ∨ c = ']' ∨ c = '\x7d') :
    IsTail (c :: s) := by
  intro d hd
  cases hd
  exact h

/-- A class of characters that holds of no character that may follow ends where a tail
begins. -/
theorem takeWhile_append_tail {p : Char → Bool} {s rest : List Char} (hs : ∀ c ∈ s, p c = true)
    (hp : p ',' = false ∧ p ']' = false ∧ p '\x7d' = false) (hrest : IsTail rest) :
    (s ++ rest).takeWhile p = s ∧ (s ++ rest).dropWhile p = rest := by
  induction s with
  | nil =>
    cases rest with
    | nil => exact ⟨rfl, rfl⟩
    | cons c rest =>
      have hc : p c = false := by
        rcases hrest c rfl with rfl | rfl | rfl
        · exact hp.1
        · exact hp.2.1
        · exact hp.2.2
      simp [hc]
  | cons c s ih =>
    have hc : p c = true := hs c (List.mem_cons_self ..)
    obtain ⟨ht, hd⟩ := ih fun d hd => hs d (List.mem_cons_of_mem _ hd)
    simp [hc, ht, hd]

theorem digitsValue_map_digitValue (s : List Char) :
    digitsValue (s.map digitValue) = Nat.ofDigitChars 10 s 0 := by
  rw [digitsValue, List.foldl_map, Nat.ofDigitChars_eq_foldl]
  congr 1
  funext n c
  rw [digitValue, Nat.mul_comm]

theorem isDigit_of_mem_digits {n : Nat} {c : Char} (h : c ∈ Nat.toDigits 10 n) :
    c.isDigit = true :=
  Nat.isDigit_of_mem_toDigits (by decide) (by decide) h

/-- Only zero itself is written with a zero in front. -/
theorem head?_digits_ne_zero {n : Nat} (hn : 0 < n) : (Nat.toDigits 10 n).head? ≠ some '0' := by
  induction n using Nat.strongRecOn with
  | _ n ih =>
    by_cases hlt : n < 10
    · rw [Nat.toDigits_of_lt_base hlt]
      interval_cases n <;> decide
    · rw [Nat.toDigits_of_base_le (by decide) (Nat.le_of_not_lt hlt),
        List.head?_append_of_ne_nil _ Nat.toDigits_ne_nil]
      exact ih (n / 10) (by omega) (by omega)

/-- The digits of a number are read as that number. -/
theorem readWhole?_digits (n : Nat) {rest : List Char} (hrest : IsTail rest) :
    ∃ ds, readWhole? (Nat.toDigits 10 n ++ rest) = some (ds, rest) ∧ digitsValue ds = n := by
  by_cases hn : n = 0
  · subst hn
    refine ⟨[0], ?_, rfl⟩
    rw [Nat.toDigits_zero, List.singleton_append, readWhole?]
  · obtain ⟨htake, hdrop⟩ :=
      takeWhile_append_tail (p := Char.isDigit) (fun c => isDigit_of_mem_digits (n := n))
        (by decide) hrest
    refine ⟨(Nat.toDigits 10 n).map digitValue, ?_, ?_⟩
    · cases hds : Nat.toDigits 10 n with
      | nil => exact absurd hds Nat.toDigits_ne_nil
      | cons d ds =>
        have hd : d ≠ '0' := by
          intro h
          apply head?_digits_ne_zero (Nat.pos_of_ne_zero hn)
          rw [hds, h, List.head?_cons]
        rw [hds] at htake hdrop
        rw [List.cons_append] at htake hdrop ⊢
        rw [readWhole?.eq_def]
        split
        · simp_all
        · rw [readDigits?, htake, hdrop]
    · rw [digitsValue_map_digitValue, Nat.ofDigitChars_ten_toDigits]

theorem readFraction?_tail {rest : List Char} (hrest : IsTail rest) :
    readFraction? rest = some (none, rest) := by
  rw [readFraction?.eq_def]
  split
  · have := hrest '.' rfl
    simp at this
  · rfl

theorem readExponent?_tail {rest : List Char} (hrest : IsTail rest) :
    readExponent? rest = some (none, rest) := by
  rw [readExponent?.eq_def]
  split
  · have := hrest 'e' rfl
    simp at this
  · have := hrest 'E' rfl
    simp at this
  · rfl

/-- An integer is read as a number without a fraction and an exponent. -/
theorem Numeral.read?_writeInt (n : Int) {rest : List Char} (hrest : IsTail rest) :
    ∃ ds, Numeral.read? (writeInt n ++ rest) = some (⟨decide (n < 0), ds, none, none⟩, rest) ∧
      digitsValue ds = n.natAbs := by
  obtain ⟨ds, hread, hvalue⟩ := readWhole?_digits n.natAbs hrest
  refine ⟨ds, ?_, hvalue⟩
  by_cases hn : n < 0
  · rw [writeInt, if_pos hn, List.cons_append, Numeral.read?]
    simp [hread, readFraction?_tail hrest, readExponent?_tail hrest, hn]
  · have hminus : ∀ s, Nat.toDigits 10 n.natAbs ++ rest ≠ '-' :: s := by
      intro s hs
      cases hds : Nat.toDigits 10 n.natAbs with
      | nil => exact absurd hds Nat.toDigits_ne_nil
      | cons d ds =>
        rw [hds, List.cons_append, List.cons.injEq] at hs
        have hd := isDigit_of_mem_digits (n := n.natAbs) (hds ▸ List.mem_cons_self ..)
        rw [hs.1] at hd
        exact absurd hd (by decide)
    rw [writeInt, if_neg hn, Numeral.read?]
    · simp [hread, readFraction?_tail hrest, readExponent?_tail hrest, hn]
    · exact hminus

/-- Integers are told apart by what is written for them. -/
theorem writeInt_injective : Function.Injective writeInt := by
  intro m n h
  obtain ⟨ds, hm, hds⟩ := Numeral.read?_writeInt m isTail_nil
  obtain ⟨es, hn, hes⟩ := Numeral.read?_writeInt n isTail_nil
  rw [h, hn] at hm
  simp only [Option.some.injEq, Prod.mk.injEq, Numeral.mk.injEq, decide_eq_decide, and_true] at hm
  obtain ⟨hsign, rfl⟩ := hm
  omega

theorem writeInt_ne_nil (n : Int) : writeInt n ≠ [] := by
  rw [writeInt]
  split
  · exact List.cons_ne_nil _ _
  · exact Nat.toDigits_ne_nil

/-- What an integer is written with. -/
theorem mem_writeInt {n : Int} {c : Char} (h : c ∈ writeInt n) : c = '-' ∨ c.isDigit = true := by
  rw [writeInt] at h
  split at h
  · exact (List.mem_cons.mp h).imp_right isDigit_of_mem_digits
  · exact Or.inr (isDigit_of_mem_digits h)

/-- An integer that fits a word is the value of what is written for it. -/
theorem Numeral.value_of_fits {n : Int} {ds : List Nat} (hds : digitsValue ds = n.natAbs)
    (hn : (fitsSigned n || fitsUnsigned n) = true) :
    Numeral.value ⟨decide (n < 0), ds, none, none⟩ = .int n := by
  have hm : (if decide (n < 0) = true then -(n.natAbs : Int) else n.natAbs) = n := by
    by_cases h : n < 0
    · rw [decide_eq_true h, if_pos rfl]; omega
    · rw [decide_eq_false h, if_neg Bool.false_ne_true]; omega
  have hzero : ¬(decide (n < 0) = true ∧ (n.natAbs : Int) = 0) := by
    rintro ⟨h, h0⟩
    have := of_decide_eq_true h
    omega
  rw [Numeral.value, hds]
  dsimp only
  rw [hm, if_pos ⟨rfl, rfl, hzero, hn⟩]

/-! ## Values -/

mutual

/-- The value can be written where `room` more containers may stand one in the other, and
read back from there. -/
def isWritable : Nat → Json → Bool
  | _, .real _ => false
  | _, .foreign => false
  | _, .int n => fitsSigned n || fitsUnsigned n
  | 0, .array _ => false
  | room + 1, .array items => areWritable room items
  | 0, .object _ => false
  | room + 1, .object members => areWritableMembers room members
  | _, _ => true

/-- All items are writable. -/
def areWritable : Nat → List Json → Bool
  | _, [] => true
  | room, v :: vs => isWritable room v && areWritable room vs

/-- The values of all members are writable. -/
def areWritableMembers : Nat → List (String × Json) → Bool
  | _, [] => true
  | room, (_, v) :: ms => isWritable room v && areWritableMembers room ms

end

mutual

/-- The tokens of a value. -/
def tokens : Json → List Token
  | .text s => [.text (some s)]
  | .array items => .openArray :: itemTokens items ++ [.closeArray]
  | .object members => .openObject :: memberTokens members ++ [.closeObject]
  | v => [.scalar v]

/-- The tokens of the items of an array. -/
def itemTokens : List Json → List Token
  | [] => []
  | [v] => v.tokens
  | v :: w :: vs => v.tokens ++ .comma :: itemTokens (w :: vs)

/-- The tokens of the members of an object. -/
def memberTokens : List (String × Json) → List Token
  | [] => []
  | [(n, v)] => .text (some n) :: .colon :: v.tokens
  | (n, v) :: m :: ms => .text (some n) :: .colon :: v.tokens ++ .comma :: memberTokens (m :: ms)

end

/-- Before `rest`, the text `s` is read as the tokens `ts`. -/
def Scans (s : List Char) (ts : List Token) (rest : List Char) : Prop :=
  ts.length ≤ s.length ∧
    ∀ fuel, Token.readAll? (fuel + ts.length) (s ++ rest)
      = (Token.readAll? fuel rest).map (ts ++ ·)

theorem Scans.nil (rest : List Char) : Scans [] [] rest :=
  ⟨Nat.le_refl _, fun fuel => by simp⟩

theorem Scans.append {s s' rest : List Char} {ts ts' : List Token}
    (h : Scans s ts (s' ++ rest)) (h' : Scans s' ts' rest) :
    Scans (s ++ s') (ts ++ ts') rest := by
  refine ⟨?_, fun fuel => ?_⟩
  · rw [List.length_append, List.length_append]
    exact Nat.add_le_add h.1 h'.1
  · rw [List.length_append, Nat.add_comm ts.length, ← Nat.add_assoc, List.append_assoc, h.2,
      h'.2, Option.map_map]
    congr 1
    funext us
    simp

/-- A token is read where it stands. -/
theorem scans_token {c : Char} {s rest : List Char} {t : Token} (hc : isGap c = false)
    (h : Token.read? c (s ++ rest) = some (t, rest)) : Scans (c :: s) [t] rest := by
  refine ⟨Nat.succ_le_succ (Nat.zero_le _), fun fuel => ?_⟩
  have hdrop : (c :: (s ++ rest)).dropWhile isGap = c :: (s ++ rest) :=
    List.dropWhile_cons_of_neg (by simp [hc])
  rw [List.length_singleton, List.cons_append, Token.readAll?.eq_def]
  dsimp only
  rw [hdrop]
  dsimp only
  rw [h, Option.bind_eq_bind, Option.bind_some]
  cases Token.readAll? fuel rest <;> simp

/-- A token of one character is read where it stands. -/
theorem scans_char {c : Char} {t : Token} (hc : isGap c = false)
    (h : ∀ s, Token.read? c s = some (t, s)) (rest : List Char) : Scans [c] [t] rest :=
  scans_token hc (h rest)

theorem scans_comma (rest : List Char) : Scans [','] [.comma] rest :=
  scans_char rfl (fun _ => rfl) rest

theorem scans_colon (rest : List Char) : Scans [':'] [.colon] rest :=
  scans_char rfl (fun _ => rfl) rest

theorem scans_writeText (s : String) (rest : List Char) :
    Scans (writeText s) [.text (some s)] rest := by
  rw [writeText]
  exact scans_token rfl (readString?_writeText s rest)

/-- A word is read where its letters end. -/
theorem scans_word {c : Char} {s rest : List Char} {v : Json}
    (hall : (c :: s).all Char.isAlpha = true) (hv : word? (c :: s) = some v)
    (hc : c = 'n' ∨ c = 't' ∨ c = 'f') (hrest : IsTail rest) :
    Scans (c :: s) [.scalar v] rest := by
  have hletters : ∀ d ∈ c :: s, d.isAlpha = true := List.all_eq_true.mp hall
  obtain ⟨htake, hdrop⟩ :=
    takeWhile_append_tail (p := Char.isAlpha) (fun d hd => hletters d (List.mem_cons_of_mem _ hd))
      (by decide) hrest
  have halpha : c.isAlpha = true := hletters c (List.mem_cons_self ..)
  refine scans_token ?_ ?_
  · rcases hc with rfl | rfl | rfl <;> decide
  · rcases hc with rfl | rfl | rfl <;> simp [Token.read?, htake, hdrop, hv, halpha]

/-- What an integer is written with begins with a digit or a sign. -/
theorem writeInt_eq_cons (n : Int) :
    ∃ c s, writeInt n = c :: s ∧ (c = '-' ∨ c.isDigit = true) := by
  obtain ⟨c, s, h⟩ := List.exists_cons_of_ne_nil (writeInt_ne_nil n)
  exact ⟨c, s, h, mem_writeInt (h ▸ List.mem_cons_self)⟩

/-- A character that begins a number begins no other token. -/
theorem read?_of_digit {c : Char} (hc : c = '-' ∨ c.isDigit = true) (s : List Char) :
    isGap c = false ∧
      Token.read? c s = (Numeral.read? (c :: s)).map fun p => (.scalar p.1.value, p.2) := by
  have hnat : c.toNat = 45 ∨ 48 ≤ c.toNat ∧ c.toNat ≤ 57 := by
    rcases hc with rfl | hc
    · exact Or.inl rfl
    · simp only [Char.isDigit, Bool.and_eq_true, decide_eq_true_eq] at hc
      exact Or.inr hc
  have hne : ∀ d : Char, d.toNat ≠ 45 → (d.toNat < 48 ∨ 57 < d.toNat) → c ≠ d := by
    rintro d h1 h2 rfl
    omega
  have halpha : c.isAlpha = false := by
    have hletter : c.isAlpha = (decide (c.val ≥ 'A'.val ∧ c.val ≤ 'Z'.val)
      || decide (c.val ≥ 'a'.val) && decide (c.val ≤ 'z'.val)) := rfl
    rw [hletter, Bool.or_eq_false_iff, Bool.and_eq_false_iff, decide_eq_false_iff_not,
      decide_eq_false_iff_not]
    have hval : c.val.toNat = c.toNat := rfl
    constructor
    · rintro ⟨h, -⟩
      rw [ge_iff_le, UInt32.le_iff_toNat_le, hval] at h
      have : 65 ≤ c.toNat := h
      omega
    · left
      intro h
      rw [ge_iff_le, UInt32.le_iff_toNat_le, hval] at h
      have : 97 ≤ c.toNat := h
      omega
  constructor
  · simp only [isGap, Bool.or_eq_false_iff, beq_eq_false_iff_ne]
    exact ⟨⟨⟨hne _ (by decide) (by decide), hne _ (by decide) (by decide)⟩,
      hne _ (by decide) (by decide)⟩, hne _ (by decide) (by decide)⟩
  · rw [Token.read?]
    · simp [halpha]
    all_goals exact hne _ (by decide) (by decide)

theorem scans_writeInt {n : Int} (hn : (fitsSigned n || fitsUnsigned n) = true)
    {rest : List Char} (hrest : IsTail rest) : Scans (writeInt n) [.scalar (.int n)] rest := by
  obtain ⟨ds, hread, hds⟩ := Numeral.read?_writeInt n hrest
  obtain ⟨c, s, hcs, hc⟩ := writeInt_eq_cons n
  obtain ⟨hgap, htoken⟩ := read?_of_digit hc (s ++ rest)
  rw [hcs] at hread ⊢
  refine scans_token hgap ?_
  rw [htoken, ← List.cons_append, hread, Option.map_some, Numeral.value_of_fits hds hn]

mutual

/-- **The text of a value is read as its tokens.** -/
theorem scans_render : ∀ (v : Json) {room : Nat} {rest : List Char},
    v.isWritable room = true → IsTail rest → Scans v.render v.tokens rest
  | .null, _, _, _, hrest => scans_word (by rfl) rfl (Or.inl rfl) hrest
  | .bool true, _, _, _, hrest => scans_word (by rfl) rfl (Or.inr (Or.inl rfl)) hrest
  | .bool false, _, _, _, hrest => scans_word (by rfl) rfl (Or.inr (Or.inr rfl)) hrest
  | .int n, room, rest, hv, hrest => by
    have hn : (fitsSigned n || fitsUnsigned n) = true := by
      cases room <;> simpa [isWritable] using hv
    exact scans_writeInt hn hrest
  | .real _, room, _, hv, _ => by cases room <;> simp [isWritable] at hv
  | .foreign, room, _, hv, _ => by cases room <;> simp [isWritable] at hv
  | .text s, _, rest, _, _ => scans_writeText s rest
  | .array items, room, rest, hv, hrest => by
    cases room with
    | zero => simp [isWritable] at hv
    | succ room =>
      rw [isWritable] at hv
      have hopen := scans_char (c := '[') rfl (fun _ => rfl) (renderItems items ++ ([']'] ++ rest))
      have hclose := scans_char (c := ']') rfl (fun _ => rfl) rest
      have hitems := scans_renderItems items hv (isTail_cons (s := rest) (Or.inr (Or.inl rfl)))
      exact (hopen.append hitems).append hclose
  | .object members, room, rest, hv, hrest => by
    cases room with
    | zero => simp [isWritable] at hv
    | succ room =>
      rw [isWritable] at hv
      have hopen :=
        scans_char (c := '\x7b') rfl (fun _ => rfl) (renderMembers members ++ (['\x7d'] ++ rest))
      have hclose := scans_char (c := '\x7d') rfl (fun _ => rfl) rest
      have hmembers :=
        scans_renderMembers members hv (isTail_cons (s := rest) (Or.inr (Or.inr rfl)))
      exact (hopen.append hmembers).append hclose

/-- The items of an array are read as their tokens. -/
theorem scans_renderItems : ∀ (vs : List Json) {room : Nat} {rest : List Char},
    areWritable room vs = true → IsTail rest → Scans (renderItems vs) (itemTokens vs) rest
  | [], _, rest, _, _ => Scans.nil rest
  | [v], room, rest, hvs, hrest => by
    rw [areWritable, areWritable, Bool.and_true] at hvs
    exact scans_render v hvs hrest
  | v :: w :: vs, room, rest, hvs, hrest => by
    rw [areWritable, Bool.and_eq_true] at hvs
    have hfirst := scans_render v hvs.1 (isTail_cons (s := renderItems (w :: vs) ++ rest)
      (Or.inl rfl))
    have hrests := scans_renderItems (w :: vs) hvs.2 hrest
    exact hfirst.append ((scans_comma _).append hrests)

/-- The members of an object are read as their tokens. -/
theorem scans_renderMembers : ∀ (ms : List (String × Json)) {room : Nat} {rest : List Char},
    areWritableMembers room ms = true → IsTail rest →
      Scans (renderMembers ms) (memberTokens ms) rest
  | [], _, rest, _, _ => Scans.nil rest
  | [(n, v)], room, rest, hms, hrest => by
    rw [areWritableMembers, areWritableMembers, Bool.and_true] at hms
    exact (scans_writeText n _).append ((scans_colon _).append (scans_render v hms hrest))
  | (n, v) :: m :: ms, room, rest, hms, hrest => by
    rw [areWritableMembers, Bool.and_eq_true] at hms
    have hfirst := scans_render v hms.1 (isTail_cons (s := renderMembers (m :: ms) ++ rest)
      (Or.inl rfl))
    have hrests := scans_renderMembers (m :: ms) hms.2 hrest
    have hmember : Scans (writeText n ++ ':' :: v.render) (.text (some n) :: .colon :: v.tokens)
        (',' :: renderMembers (m :: ms) ++ rest) :=
      (scans_writeText n _).append ((scans_colon _).append hfirst)
    exact hmember.append ((scans_comma _).append hrests)

end

end Json
end ScriptedChat
