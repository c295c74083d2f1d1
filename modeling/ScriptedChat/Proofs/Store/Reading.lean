import ScriptedChat.Proofs.Calendar.Writing
import ScriptedChat.Proofs.Store.Logs

/-!
# Reading a log back

Every line of a log begins with the moment at which it was written and a blank, which are twenty
characters if the year has four digits, and behind them is what was said.  So whoever cuts a log at
its line ends and takes twenty characters off each line may expect to find what was said.

A line end in what was said is written as it is.  So a text with line ends comes out in several
pieces, and all but the first of them have lost twenty characters (`Store.found`).  No line is lost,
and none is joined to another one.  But a text can bring lines of its own, and if these look like
lines of the store, they cannot be told from them (`Store.transcript_of_forged`).

* `Store.readLog`: what is found in a log.
* `Store.found`: what is found in place of a text.
* `Store.readLog_extended`: what is found in lines that the store has written.
* `Store.flatMap_found_eq_self_iff`: when this is what was said.
-/

namespace ScriptedChat
namespace Store

/-- The moment of a line, as it is written. -/
def stamp (time : Int) : List Char := (Calendar.Moment.ofMillis time).writeSeconds

/-- What stands before each line end of a log. -/
def logLines (log : List Char) : List (List Char) := (log.splitOn '\n').dropLast

/-- A line without the moment before it. -/
def unstamped (line : List Char) : String := String.ofList (line.drop 20)

/-- What is found in a log.  Nothing is found in one that is not there. -/
def readLog : Option ByteArray → Option (List String)
  | none => some []
  | some log => (String.fromUTF8? log).map fun text => (logLines text.toList).map unstamped

/-- What is found in place of a text. -/
def found (text : String) : List String :=
  match text.toList.splitOn '\n' with
  | [] => []
  | first :: rest => String.ofList first :: rest.map unstamped

/-! ## Lines as they are written -/

theorem newline_notMem_stamp (time : Int) : '\n' ∉ stamp time := fun h =>
  (Calendar.mem_writeSeconds h).elim (by decide) (by decide)

/-- What stands before a text takes twenty characters. -/
theorem length_stamp {time : Int} (h : (Calendar.Moment.ofMillis time).IsDated) :
    (stamp time ++ [' ']).length = 20 := by
  rw [List.length_append, stamp,
    Calendar.length_writeSeconds h (Calendar.second_ofMillis_lt time)]
  rfl

/-- What is written before a text is before the first of its pieces. -/
theorem splitOn_append_of_notMem {p : List Char} (h : '\n' ∉ p) (s : List Char) :
    (p ++ s).splitOn '\n' = (s.splitOn '\n').modifyHead (p ++ ·) := by
  induction p with
  | nil =>
    rw [List.nil_append]
    cases s.splitOn '\n' <;> rfl
  | cons c p ih =>
    rw [List.mem_cons, not_or] at h
    rw [List.cons_append, List.splitOn_cons_eq_if_modifyHead, if_neg (by simpa using Ne.symm h.1),
      ih h.2, List.modifyHead_modifyHead]
    rfl

/-- A line comes out in pieces if the text in it has line ends. -/
theorem map_unstamped_splitOn {time : Int} (h : (Calendar.Moment.ofMillis time).IsDated)
    (text : String) :
    ((stamp time ++ [' '] ++ text.toList).splitOn '\n').map unstamped = found text := by
  have hprefix : '\n' ∉ stamp time ++ [' '] := by
    rw [List.mem_append, not_or]
    exact ⟨newline_notMem_stamp time, by decide⟩
  rw [splitOn_append_of_notMem hprefix, found]
  cases text.toList.splitOn '\n' with
  | nil => rfl
  | cons first rest =>
    rw [List.modifyHead_cons, List.map_cons, unstamped, ← length_stamp h, List.drop_left]

/-- The lines of the store are cut one after the other, and nothing is left behind the last one. -/
theorem splitOn_transcript (ls : List LogLine) :
    (transcript ls).toList.splitOn '\n'
      = (ls.flatMap fun l => (stamp l.time ++ [' '] ++ l.text.toList).splitOn '\n') ++ [[]] := by
  induction ls with
  | nil => rfl
  | cons l ls ih =>
    have hline : (transcript (l :: ls)).toList
        = (stamp l.time ++ [' '] ++ l.text.toList) ++ '\n' :: (transcript ls).toList := by
      simp only [transcript, logLine, String.toList_append, String.toList_ofList, stamp,
        List.append_assoc]
      rfl
    rw [hline, List.splitOn_append_cons_self, ih, List.flatMap_cons]
    exact (List.append_assoc _ _ _).symm

/-- **What is found in lines that the store has written**, each of which has a year of four
digits. -/
theorem readLog_extended {ls : List LogLine}
    (h : ∀ l ∈ ls, (Calendar.Moment.ofMillis l.time).IsDated) :
    readLog (extended none ls) = some ((ls.map LogLine.text).flatMap found) := by
  cases ls with
  | nil => rfl
  | cons l ls =>
    have hempty : (none : Option ByteArray).getD ByteArray.empty = ByteArray.empty := rfl
    rw [extended, hempty, ByteArray.empty_append, readLog, fromUTF8?_toUTF8, Option.map_some,
      logLines, splitOn_transcript, List.dropLast_concat, List.map_flatMap, List.flatMap_map]
    refine congrArg some (List.flatMap_congr fun l' hl' => ?_)
    exact map_unstamped_splitOn (h l' hl') l'.text

/-! ## What is found in place of a text -/

/-- A text without line ends is found as it is. -/
theorem found_of_notMem {text : String} (h : '\n' ∉ text.toList) : found text = [text] := by
  rw [found, List.splitOn_eq_singleton h]
  simp only [String.ofList_toList, List.map_nil]

theorem length_found (text : String) : (found text).length = (text.toList.splitOn '\n').length := by
  rw [found]
  cases text.toList.splitOn '\n' with
  | nil => rfl
  | cons first rest => rw [List.length_cons, List.length_map, List.length_cons]

/-- No text is lost, ... -/
theorem found_ne_nil (text : String) : found text ≠ [] := by
  rw [Ne, ← List.length_eq_zero_iff, length_found, List.length_eq_zero_iff]
  exact List.splitOn_ne_nil '\n' _

/-- ... but one with a line end is found as more than one line. -/
theorem one_lt_length_found {text : String} (h : '\n' ∈ text.toList) :
    1 < (found text).length := by
  obtain ⟨before, behind, hsplit⟩ := List.append_of_mem h
  have hbefore := List.length_pos_of_ne_nil (List.splitOn_ne_nil '\n' before)
  have hbehind := List.length_pos_of_ne_nil (List.splitOn_ne_nil '\n' behind)
  rw [length_found, hsplit, List.splitOn_append_cons_self, List.length_append]
  omega

/-- There are at least as many lines as texts, and more if one of them has a line end. -/
theorem length_flatMap_found (texts : List String) :
    texts.length ≤ (texts.flatMap found).length
      ∧ ((∃ text ∈ texts, '\n' ∈ text.toList) →
        texts.length < (texts.flatMap found).length) := by
  induction texts with
  | nil => exact ⟨Nat.le_refl _, fun ⟨_, h, _⟩ => (by cases h)⟩
  | cons text texts ih =>
    have hfirst := List.length_pos_of_ne_nil (found_ne_nil text)
    rw [List.flatMap_cons, List.length_append, List.length_cons]
    refine ⟨by omega, ?_⟩
    rintro ⟨text', hmem, hline⟩
    rcases List.mem_cons.mp hmem with rfl | hmem
    · have := one_lt_length_found hline
      omega
    · have := ih.2 ⟨text', hmem, hline⟩
      omega

/-- **What was said is found again if no text has a line end**, and only then. -/
theorem flatMap_found_eq_self_iff {texts : List String} :
    texts.flatMap found = texts ↔ ∀ text ∈ texts, '\n' ∉ text.toList := by
  constructor
  · intro h text hmem hline
    have hmore := (length_flatMap_found texts).2 ⟨text, hmem, hline⟩
    rw [h] at hmore
    exact Nat.lt_irrefl _ hmore
  · intro h
    rw [List.flatMap_congr fun text hmem => found_of_notMem (h text hmem)]
    exact List.flatMap_singleton' texts

/-! ## Forged lines -/

/-- A text that looks like another line of the store is written just as this line would be. -/
theorem transcript_of_forged (chat a b : String) (now time : Int) :
    transcript [⟨chat, now, a ++ "\n" ++ String.ofList (stamp time) ++ " " ++ b⟩]
      = transcript [⟨chat, now, a⟩, ⟨chat, time, b⟩] := by
  simp only [transcript, logLine, stamp, String.append_assoc, String.append_empty]

end Store
end ScriptedChat
