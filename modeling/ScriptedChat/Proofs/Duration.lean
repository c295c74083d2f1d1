import Mathlib.Data.List.Forall2
import Mathlib.Data.List.TakeWhile
import Mathlib.Data.Nat.Digits.Defs
import ScriptedChat.Duration

/-!
# How long a text lasts

`Duration.ofText` never leaves the numbers below `2 ^ 64`: when it multiplies by ten and adds a digit,
when it multiplies by a unit, and when it adds up groups and words, it stops at `longest`.  Here the
length of a text is defined without any of this.  A text is parted into words, a word is a row of
*groups* or it is not, a group has a number and a unit, and numbers are as long as their digits say.

The five places at which the reader stops at `longest` come to one.  After any part of a word, what is
held is the exact total of the groups so far and the exact number of the group that is unfinished, each
cut down to `longest`; and cutting down commutes with everything that is done to the two.

* `Text.Worded`, `Text.worded_iff`: what the words of a text are.
* `Duration.Group`, `Duration.WordLasts`, `Duration.Lasts`: the exact length of a text.
* `Duration.readGroups_flatMap`, `Duration.exists_groups_of_readGroups`: a row of groups is read, and
  nothing else is.
* `Duration.ofText_exact_up_to_longest`: a text has one length, and is read as that or as `longest`.
-/

namespace ScriptedChat

/-! ## The words of a text -/

namespace Text

/-- A text falls into words: they stand in it in order, nothing else in it but blanks, and each goes on
as far as there is no blank. -/
inductive Worded : List (List Char) → List Char → Prop
  | nil : Worded [] []
  | blank {ws : List (List Char)} {c : Char} {s : List Char} :
      isBlank c = true → Worded ws s → Worded ws (c :: s)
  | word {ws : List (List Char)} {w s : List Char} :
      w ≠ [] → (∀ c ∈ w, isBlank c = false) → (∀ c ∈ s.head?, isBlank c = true) →
        Worded ws s → Worded (w :: ws) (w ++ s)

theorem worded_words (s : List Char) : Worded (words s) s := by
  fun_induction words s with
  | case1 => exact .nil
  | case2 c s hc ih => exact .blank hc ih
  | case3 c s hc ih =>
    have hsplit : c :: s = (c :: s.takeWhile fun d => !isBlank d) ++
        s.dropWhile fun d => !isBlank d := by
      rw [List.cons_append, List.takeWhile_append_dropWhile]
    have hend : ∀ d ∈ (s.dropWhile fun d => !isBlank d).head?, isBlank d = true := by
      intro d hd
      have hd' := List.head?_dropWhile_not (fun d => !isBlank d) s
      rw [Option.mem_def.mp hd] at hd'
      simpa using hd'
    have hbare : ∀ d ∈ c :: s.takeWhile fun d => !isBlank d, isBlank d = false := by
      intro d hd
      rcases List.mem_cons.mp hd with rfl | hd
      · exact Bool.eq_false_iff.mpr hc
      · simpa using List.mem_takeWhile_imp hd
    conv => rhs; rw [hsplit]
    exact .word (List.cons_ne_nil _ _) hbare hend ih

theorem Worded.eq_words {ws : List (List Char)} {s : List Char} (h : Worded ws s) : ws = words s := by
  induction h with
  | nil => rw [words]
  | blank hc _ ih => rw [words, if_pos hc, ih]
  | @word ws w s hne hbare hend _ ih =>
    obtain ⟨c, w, rfl⟩ := List.exists_cons_of_ne_nil hne
    have hall : ∀ d ∈ w, (!isBlank d) = true := fun d hd => by
      rw [hbare d (List.mem_cons_of_mem c hd), Bool.not_false]
    have hnone : (s.takeWhile fun d => !isBlank d) = [] ∧ (s.dropWhile fun d => !isBlank d) = s := by
      cases s with
      | nil => exact ⟨rfl, rfl⟩
      | cons d s =>
        have hd : ¬(!isBlank d) = true := by rw [hend d rfl]; exact Bool.false_ne_true
        exact ⟨List.takeWhile_cons_of_neg hd, List.dropWhile_cons_of_neg hd⟩
    have hc : ¬isBlank c = true := Bool.eq_false_iff.mp (hbare c List.mem_cons_self)
    rw [List.cons_append, words, if_neg hc, List.takeWhile_append_of_pos hall,
      List.dropWhile_append_of_pos hall, hnone.1, hnone.2, List.append_nil, ih]

/-- **A text falls into words in one way.** -/
theorem worded_iff {ws : List (List Char)} {s : List Char} : Worded ws s ↔ ws = words s :=
  ⟨Worded.eq_words, fun h => h ▸ worded_words s⟩

end Text

namespace Duration

open Text (Worded words worded_iff)

/-! ## The exact length -/

/-- The units of time. -/
inductive Measure where
  | day
  | hour
  | minute
  | second
  deriving DecidableEq

/-- The letter of a unit. -/
def Measure.letter : Measure → Char
  | day => 'd'
  | hour => 'h'
  | minute => 'm'
  | second => 's'

/-- How many seconds a unit has. -/
def Measure.seconds : Measure → Nat
  | day => 86400
  | hour => 3600
  | minute => 60
  | second => 1

/-- The number that decimal digits write, however many there are. -/
def numberOf (digits : List Char) : Nat :=
  Nat.ofDigits 10 (digits.reverse.map fun c => c.toNat - '0'.toNat)

/-- A group: a number and a unit. -/
structure Group where
  digits : List Char
  unit : Measure
  digits_ne_nil : digits ≠ []
  isDigit : ∀ c ∈ digits, c.isDigit = true

/-- The group as it is written. -/
def Group.text (g : Group) : List Char := g.digits ++ [g.unit.letter]

/-- The seconds of a group. -/
def Group.seconds (g : Group) : Nat := numberOf g.digits * g.unit.seconds

/-- The exact length of a word.  One that is no row of groups adds nothing, also if it begins with
some. -/
inductive WordLasts : List Char → Nat → Prop
  | groups {gs : List Group} :
      gs ≠ [] → WordLasts (gs.flatMap Group.text) (gs.map Group.seconds).sum
  | other {w : List Char} : (∀ gs : List Group, gs ≠ [] → gs.flatMap Group.text ≠ w) → WordLasts w 0

/-- The exact length of a text: those of its words taken together. -/
def Lasts (s : List Char) (n : Nat) : Prop :=
  ∃ ws ns, Worded ws s ∧ List.Forall₂ WordLasts ws ns ∧ n = ns.sum

/-! ## Digits and letters -/

theorem digit?_eq_some {c : Char} (h : c.isDigit = true) : digit? c = some (c.toNat - '0'.toNat) := by
  have hrange : '0' ≤ c ∧ c ≤ '9' := by
    simpa [Char.isDigit, Char.le_def, UInt32.le_iff_toNat_le] using h
  rw [digit?, if_pos hrange]

theorem digit?_eq_none {c : Char} (h : ¬c.isDigit = true) : digit? c = none := by
  have hrange : ¬('0' ≤ c ∧ c ≤ '9') := by
    simpa [Char.isDigit, Char.le_def, UInt32.le_iff_toNat_le] using h
  rw [digit?, if_neg hrange]

@[simp] theorem Measure.isDigit_letter (m : Measure) : m.letter.isDigit = false := by
  cases m <;> rfl

theorem Measure.letter_injective : Function.Injective Measure.letter := by
  intro a b h
  cases a <;> cases b <;> first | rfl | exact absurd h (by decide)

@[simp] theorem unitSeconds_letter (m : Measure) : unitSeconds m.letter = some m.seconds := by
  cases m <;> rfl

theorem exists_measure_of_unitSeconds {c : Char} {u : Nat} (h : unitSeconds c = some u) :
    ∃ m : Measure, m.letter = c := by
  unfold unitSeconds at h
  split at h
  · exact ⟨.day, rfl⟩
  · exact ⟨.hour, rfl⟩
  · exact ⟨.minute, rfl⟩
  · exact ⟨.second, rfl⟩
  · cases h

@[simp] theorem numberOf_nil : numberOf [] = 0 := rfl

theorem numberOf_concat (ds : List Char) (c : Char) :
    numberOf (ds ++ [c]) = numberOf ds * 10 + (c.toNat - '0'.toNat) := by
  rw [numberOf, List.reverse_append, List.reverse_singleton, List.singleton_append, List.map_cons,
    Nat.ofDigits_cons, numberOf]
  omega

/-! ## Stopping at the longest duration -/

theorem plus_min (a b : Nat) : plus (min longest a) (min longest b) = min longest (a + b) := by
  simp only [plus, longest]
  omega

theorem plus_times_ten (n d : Nat) :
    plus (times (min longest n) 10) d = min longest (n * 10 + d) := by
  simp only [plus, times, longest]
  omega

theorem times_seconds (n : Nat) (m : Measure) :
    times (min longest n) m.seconds = min longest (n * m.seconds) := by
  cases m <;> simp only [times, longest, Measure.seconds] <;> omega

/-! ## Reading a word

What is held of the group that is being read is its number, or nothing when no digit of it has been
seen. -/

/-- What is held when some digits have been read and no unit after them. -/
def unfinished (seen : List Char) : Option Nat :=
  if seen = [] then none else some (min longest (numberOf seen))

theorem getD_unfinished (seen : List Char) : (unfinished seen).getD 0 = min longest (numberOf seen) := by
  by_cases h : seen = []
  · rw [unfinished, if_pos h, h]
    rfl
  · rw [unfinished, if_neg h]
    rfl

variable {total : Nat} {seen s : List Char}

theorem readGroups_of_digit {c : Char} {d : Nat} (hc : digit? c = some d) (number : Option Nat) :
    readGroups total number (c :: s)
      = readGroups total (some (plus (times (number.getD 0) 10) d)) s := by
  cases number <;> simp only [readGroups, hc]

theorem readGroups_of_unit {c : Char} {n u : Nat} (hc : digit? c = none) (hu : unitSeconds c = some u) :
    readGroups total (some n) (c :: s) = readGroups (plus total (times n u)) none s := by
  simp only [readGroups, hc, hu]

theorem readGroups_of_other {c : Char} {number : Option Nat} (hc : digit? c = none)
    (h : number = none ∨ unitSeconds c = none) : readGroups total number (c :: s) = none := by
  rcases h with rfl | hu
  · simp only [readGroups, hc]
  · cases number <;> simp only [readGroups, hc, hu]

theorem readGroups_digit {c : Char} (hc : c.isDigit = true) :
    readGroups total (unfinished seen) (c :: s) = readGroups total (unfinished (seen ++ [c])) s := by
  have hnext : unfinished (seen ++ [c]) = some (min longest (numberOf (seen ++ [c]))) :=
    if_neg (List.concat_ne_nil c seen)
  rw [readGroups_of_digit (digit?_eq_some hc), getD_unfinished, hnext, numberOf_concat, plus_times_ten]

theorem readGroups_letter (hseen : seen ≠ []) (m : Measure) :
    readGroups (min longest total) (unfinished seen) (m.letter :: s)
      = readGroups (min longest (total + numberOf seen * m.seconds)) none s := by
  have hdigit : digit? m.letter = none := digit?_eq_none (Bool.eq_false_iff.mp m.isDigit_letter)
  rw [unfinished, if_neg hseen, readGroups_of_unit hdigit (unitSeconds_letter m), times_seconds,
    plus_min]

theorem readGroups_digits (ds : List Char) (hds : ∀ c ∈ ds, c.isDigit = true) :
    readGroups total (unfinished seen) (ds ++ s) = readGroups total (unfinished (seen ++ ds)) s := by
  induction ds generalizing seen with
  | nil => rw [List.nil_append, List.append_nil]
  | cons c ds ih =>
    rw [List.cons_append, readGroups_digit (hds c List.mem_cons_self),
      ih fun d hd => hds d (List.mem_cons_of_mem c hd), List.append_assoc, List.singleton_append]

theorem readGroups_group (g : Group) :
    readGroups (min longest total) none (g.text ++ s)
      = readGroups (min longest (total + g.seconds)) none s := by
  have hdigits : readGroups (min longest total) (unfinished []) (g.digits ++ g.unit.letter :: s)
      = readGroups (min longest total) (unfinished g.digits) (g.unit.letter :: s) :=
    readGroups_digits g.digits g.isDigit
  rw [Group.text, List.append_assoc, List.singleton_append]
  exact hdigits.trans (readGroups_letter g.digits_ne_nil g.unit)

/-- **A row of groups is read, and as its exact length up to `longest`.** -/
theorem readGroups_flatMap (gs : List Group) (total : Nat) :
    readGroups (min longest total) none (gs.flatMap Group.text)
      = some (min longest (total + (gs.map Group.seconds).sum)) := by
  induction gs generalizing total with
  | nil => rfl
  | cons g gs ih =>
    rw [List.flatMap_cons, readGroups_group, ih, List.map_cons, List.sum_cons, Nat.add_assoc]

/-- **Nothing but a row of groups is read.**  The induction is on what is still to be read, so the
digits that have been seen of the first group are given. -/
theorem exists_groups_of_readGroups {n : Nat} (hseen : ∀ c ∈ seen, c.isDigit = true)
    (h : readGroups total (unfinished seen) s = some n) :
    ∃ gs : List Group, gs.flatMap Group.text = seen ++ s := by
  induction s generalizing seen total with
  | nil =>
    by_cases hnil : seen = []
    · exact ⟨[], by rw [hnil]; rfl⟩
    · rw [unfinished, if_neg hnil] at h
      cases h
  | cons c s ih =>
    by_cases hc : c.isDigit = true
    · have hseen' : ∀ d ∈ seen ++ [c], d.isDigit = true := by
        intro d hd
        rcases List.mem_append.mp hd with hd | hd
        · exact hseen d hd
        · rw [List.mem_singleton.mp hd]
          exact hc
      obtain ⟨gs, hgs⟩ := ih hseen' ((readGroups_digit hc).symm.trans h)
      exact ⟨gs, by rw [hgs, List.append_assoc, List.singleton_append]⟩
    · have hdigit := digit?_eq_none hc
      by_cases hnil : seen = []
      · rw [unfinished, if_pos hnil, readGroups_of_other hdigit (Or.inl rfl)] at h
        cases h
      · rw [unfinished, if_neg hnil] at h
        cases hu : unitSeconds c with
        | none =>
          rw [readGroups_of_other hdigit (Or.inr hu)] at h
          cases h
        | some u =>
          rw [readGroups_of_unit hdigit hu] at h
          obtain ⟨m, rfl⟩ := exists_measure_of_unitSeconds hu
          -- after the unit nothing has been seen of the next group
          have hnone : ∀ d ∈ ([] : List Char), d.isDigit = true := fun _ hd => absurd hd List.not_mem_nil
          obtain ⟨gs, hgs⟩ := ih hnone h
          refine ⟨⟨seen, m, hnil, hseen⟩ :: gs, ?_⟩
          rw [List.flatMap_cons, hgs, Group.text, List.append_assoc, List.singleton_append,
            List.nil_append]

theorem wordSeconds_flatMap (gs : List Group) :
    wordSeconds (gs.flatMap Group.text) = some (min longest (gs.map Group.seconds).sum) := by
  have h := readGroups_flatMap gs 0
  rwa [Nat.min_zero, Nat.zero_add] at h

theorem wordSeconds_eq_none {w : List Char}
    (h : ∀ gs : List Group, gs ≠ [] → gs.flatMap Group.text ≠ w) (hne : w ≠ []) :
    wordSeconds w = none := by
  cases hread : wordSeconds w with
  | none => rfl
  | some n =>
    have hnone : ∀ d ∈ ([] : List Char), d.isDigit = true := fun _ hd => absurd hd List.not_mem_nil
    obtain ⟨gs, hgs⟩ := exists_groups_of_readGroups hnone hread
    have hgsne : gs ≠ [] := by
      rintro rfl
      exact hne hgs.symm
    exact absurd hgs (h gs hgsne)

/-- **A word adds its exact length, up to `longest`.** -/
theorem WordLasts.wordSeconds {w : List Char} {n : Nat} (h : WordLasts w n) :
    (Duration.wordSeconds w).getD 0 = min longest n := by
  cases h with
  | groups hne => rw [wordSeconds_flatMap, Option.getD_some]
  | other hother =>
    by_cases hnil : w = []
    · rw [hnil]
      rfl
    · rw [wordSeconds_eq_none hother hnil]
      rfl

/-! ## A word has one length -/

/-- Digits up to a letter are found again. -/
theorem append_letter_inj {ds ds' s s' : List Char} {m m' : Measure}
    (hds : ∀ c ∈ ds, c.isDigit = true) (hds' : ∀ c ∈ ds', c.isDigit = true)
    (h : ds ++ m.letter :: s = ds' ++ m'.letter :: s') : ds = ds' ∧ m = m' ∧ s = s' := by
  have htake : ∀ {ds s : List Char} {m : Measure}, (∀ c ∈ ds, c.isDigit = true) →
      (ds ++ m.letter :: s).takeWhile Char.isDigit = ds := by
    intro ds s m hds
    rw [List.takeWhile_append_of_pos hds,
      List.takeWhile_cons_of_neg (Bool.eq_false_iff.mp m.isDigit_letter), List.append_nil]
  have hdigits : ds = ds' := by rw [← htake hds, h, htake hds']
  subst hdigits
  obtain ⟨hletter, hrest⟩ := List.cons.inj (List.append_cancel_left h)
  exact ⟨rfl, Measure.letter_injective hletter, hrest⟩

theorem Group.flatMap_text_injective :
    Function.Injective fun gs : List Group => gs.flatMap Group.text := by
  have hparts : ∀ (g : Group) (gs : List Group),
      (g :: gs).flatMap Group.text = g.digits ++ g.unit.letter :: gs.flatMap Group.text := by
    intro g gs
    rw [List.flatMap_cons, Group.text, List.append_assoc, List.singleton_append]
  intro gs
  induction gs with
  | nil =>
    rintro (_ | ⟨g, gs⟩) h
    · rfl
    · have h' : [] = g.digits ++ g.unit.letter :: gs.flatMap Group.text := h.trans (hparts g gs)
      exact absurd h'.symm (List.append_ne_nil_of_right_ne_nil _ (List.cons_ne_nil _ _))
  | cons g gs ih =>
    rintro (_ | ⟨g', gs'⟩) h
    · have h' : g.digits ++ g.unit.letter :: gs.flatMap Group.text = [] := (hparts g gs).symm.trans h
      exact absurd h' (List.append_ne_nil_of_right_ne_nil _ (List.cons_ne_nil _ _))
    · have h' := (hparts g gs).symm.trans (h.trans (hparts g' gs'))
      obtain ⟨hdigits, hunit, hrest⟩ := append_letter_inj g.isDigit g'.isDigit h'
      have hg : g = g' := by
        cases g
        cases g'
        cases hdigits
        cases hunit
        rfl
      rw [hg, ih hrest]

theorem exists_wordLasts (w : List Char) : ∃ n, WordLasts w n := by
  by_cases h : ∃ gs : List Group, gs ≠ [] ∧ gs.flatMap Group.text = w
  · obtain ⟨gs, hne, rfl⟩ := h
    exact ⟨_, .groups hne⟩
  · exact ⟨0, .other fun gs hne hgs => h ⟨gs, hne, hgs⟩⟩

theorem WordLasts.unique {w : List Char} {n n' : Nat} (h : WordLasts w n) (h' : WordLasts w n') :
    n = n' := by
  rcases h with hne | hother
  · generalize hw : List.flatMap Group.text _ = w at h'
    rcases h' with hne' | hother'
    · rw [Group.flatMap_text_injective hw]
    · exact absurd hw (hother' _ hne)
  · rcases h' with hne' | hother'
    · exact absurd rfl (hother _ hne')
    · rfl

/-! ## A text -/

/-- The lengths of words are added up as if there were no bound, and then cut down. -/
theorem foldl_plus_filterMap {ws : List (List Char)} {ns : List Nat} (h : List.Forall₂ WordLasts ws ns)
    (total : Nat) :
    (ws.filterMap wordSeconds).foldl plus (min longest total) = min longest (total + ns.sum) := by
  induction h generalizing total with
  | nil => rfl
  | @cons w n ws ns hw _ ih =>
    have hstep : ((w :: ws).filterMap wordSeconds).foldl plus (min longest total)
        = (ws.filterMap wordSeconds).foldl plus (plus (min longest total)
          ((wordSeconds w).getD 0)) := by
      cases hread : wordSeconds w with
      | none =>
        have hzero : plus (min longest total) 0 = min longest total := by
          simp only [plus, longest]
          omega
        rw [List.filterMap_cons_none hread, Option.getD_none, hzero]
      | some m => rw [List.filterMap_cons_some hread, Option.getD_some, List.foldl_cons]
    rw [hstep, hw.wordSeconds, plus_min, ih, List.sum_cons, Nat.add_assoc]

theorem Lasts.ofChars {s : List Char} {n : Nat} (h : Lasts s n) :
    Duration.ofChars s = min longest n := by
  obtain ⟨ws, ns, hws, hns, rfl⟩ := h
  have hfold := foldl_plus_filterMap hns 0
  rw [Nat.min_zero, Nat.zero_add, worded_iff.mp hws] at hfold
  exact hfold

theorem exists_lasts (s : List Char) : ∃ n, Lasts s n := by
  have hall : ∀ ws : List (List Char), ∃ ns, List.Forall₂ WordLasts ws ns := by
    intro ws
    induction ws with
    | nil => exact ⟨[], .nil⟩
    | cons w ws ih =>
      obtain ⟨ns, hns⟩ := ih
      obtain ⟨n, hn⟩ := exists_wordLasts w
      exact ⟨n :: ns, .cons hn hns⟩
  obtain ⟨ns, hns⟩ := hall (words s)
  exact ⟨ns.sum, words s, ns, worded_iff.mpr rfl, hns, rfl⟩

theorem Lasts.unique {s : List Char} {n n' : Nat} (h : Lasts s n) (h' : Lasts s n') : n = n' := by
  obtain ⟨ws, ns, hws, hns, rfl⟩ := h
  obtain ⟨ws', ns', hws', hns', rfl⟩ := h'
  have heq : ws' = ws := (worded_iff.mp hws').trans (worded_iff.mp hws).symm
  subst heq
  have hone : Relator.RightUnique WordLasts := fun _ _ _ h h' => h.unique h'
  have hright : Relator.RightUnique (List.Forall₂ WordLasts) := hone.forall₂
  rw [hright hns hns']

/-- **A text has exactly one length, and is read as that number of seconds, or as `2 ^ 64 - 1` if that
is less.** -/
theorem ofText_exact_up_to_longest (text : String) :
    ∃ total, (∀ n, Lasts text.toList n ↔ n = total) ∧ ofText text = min (2 ^ 64 - 1) total := by
  obtain ⟨total, htotal⟩ := exists_lasts text.toList
  refine ⟨total, fun n => ⟨fun h => h.unique htotal, fun h => h ▸ htotal⟩, ?_⟩
  exact htotal.ofChars

/-- A word that begins like a duration is none, and one that is too long is the longest. -/
example : wordSeconds "2days".toList = none ∧
    wordSeconds "99999999999999999999h9999999999999999999s".toList = some longest := by decide +kernel

end Duration
end ScriptedChat
