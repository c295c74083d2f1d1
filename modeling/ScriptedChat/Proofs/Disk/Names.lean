import ScriptedChat.Disk
import ScriptedChat.Proofs.Text.Cut

/-!
# The names of a joined path

`Path.join` writes a name behind a path, with a slash between them if there is none yet.
The path is then walked along its own names and that one, whatever it looks like: with a
slash at its end, with two slashes in a row, from the top or not.

* `Text.pieces_append`: a text is cut at a slash in it.
* `Path.IsName`: a text that is one name.
* `Path.join_inj`: names are told apart by their joined paths.
* `Path.names_join`, `Path.steps_join`: the names of a joined path.
-/

namespace ScriptedChat

namespace Text

theorem pieces_cons_self (d : Char) (s : List Char) : pieces [d] (d :: s) = [] :: pieces [d] s := by
  rw [pieces]
  exact if_pos (by simp)

theorem pieces_cons_of_ne {c d : Char} (h : c ≠ d) (s : List Char) :
    pieces [d] (c :: s)
      = match pieces [d] s with
        | [] => [[c]]
        | l :: ls => (c :: l) :: ls := by
  rw [pieces]
  exact if_neg (by simpa using Ne.symm h)

/-- A text without the marker is one piece. -/
theorem pieces_of_notMem {d : Char} {s : List Char} (h : d ∉ s) : pieces [d] s = [s] := by
  induction s with
  | nil => rw [pieces]
  | cons c s ih =>
    rw [List.mem_cons, not_or] at h
    rw [pieces_cons_of_ne (Ne.symm h.1), ih h.2]

/-- A text is cut at every marker, so its pieces before and after one are cut apart. -/
theorem pieces_append (d : Char) (s t : List Char) :
    pieces [d] (s ++ d :: t) = pieces [d] s ++ pieces [d] t := by
  induction s with
  | nil => rw [List.nil_append, pieces_cons_self, pieces, List.singleton_append]
  | cons c s ih =>
    by_cases h : c = d
    · subst h
      rw [List.cons_append, pieces_cons_self, pieces_cons_self, ih, List.cons_append]
    · rw [List.cons_append, pieces_cons_of_ne h, pieces_cons_of_ne h, ih]
      obtain ⟨l, ls, hs⟩ := List.exists_cons_of_ne_nil (pieces_ne_nil [d] s)
      rw [hs, List.cons_append, List.cons_append]

end Text

namespace Path

/-- A text that is one name of a path: it is there, and there is no slash in it. -/
def IsName (s : String) : Prop := s ≠ "" ∧ '/' ∉ s.toList

/-- A name is written behind a path as it is. -/
theorem join_of_isName (p : Path) {s : String} (hs : IsName s) :
    p.join s = if p.text.isEmpty || p.text.endsWith "/" then ⟨p.text ++ s⟩
      else ⟨p.text ++ "/" ++ s⟩ := by
  have hstart : s.startsWith "/" = false := by
    rw [String.startsWith_string_eq_false_iff]
    rintro ⟨t, ht⟩
    apply hs.2
    rw [← ht]
    exact List.mem_cons_self ..
  rw [join, hstart, if_neg Bool.false_ne_true]

/-- Two names that are joined to one path give one path only if they are the same. -/
theorem join_inj {p : Path} {s t : String} (hs : IsName s) (ht : IsName t) :
    p.join s = p.join t ↔ s = t := by
  refine ⟨fun h => ?_, fun h => h ▸ rfl⟩
  rw [join_of_isName p hs, join_of_isName p ht] at h
  split at h
  · exact String.append_right_inj p.text |>.mp (congrArg text h)
  · exact String.append_right_inj (p.text ++ "/") |>.mp (congrArg text h)

/-- Where a name is joined to a path, there is a slash right before it. -/
theorem text_join {p : Path} (hp : p.text ≠ "") {s : String} (hs : IsName s) :
    ∃ front, (p.join s).text.toList = front ++ '/' :: s.toList ∧
      (p.text.toList = front ∨ p.text.toList = front ++ ['/']) := by
  have hempty : p.text.isEmpty = false := by
    rw [← Bool.not_eq_true, String.isEmpty_iff]
    exact hp
  rw [join_of_isName p hs, hempty, Bool.false_or]
  by_cases hend : p.text.endsWith "/" = true
  · obtain ⟨front, hfront⟩ : "/".toList <:+ p.text.toList := by
      simpa [← String.endsWith_toSlice] using hend
    refine ⟨front, ?_, Or.inr hfront.symm⟩
    rw [if_pos hend, String.toList_append, ← hfront, List.append_assoc]
    rfl
  · refine ⟨p.text.toList, ?_, Or.inl rfl⟩
    rw [if_neg hend, String.toList_append, String.toList_append, List.append_assoc]
    rfl

/-- The parts of a joined path, and those of the path itself. -/
theorem parts_join {p : Path} (hp : p.text ≠ "") {s : String} (hs : IsName s) :
    ∃ front, (p.join s).parts = front ++ [s] ∧ (p.parts = front ∨ p.parts = front ++ [""]) := by
  obtain ⟨front, hjoin, hfront⟩ := text_join hp hs
  refine ⟨(Text.pieces ['/'] front).map String.ofList, ?_, ?_⟩
  · rw [parts, hjoin, Text.pieces_append, Text.pieces_of_notMem hs.2, List.map_append,
      List.map_singleton, String.ofList_toList]
  · rcases hfront with h | h
    · left
      rw [parts, h]
    · right
      rw [parts, h, Text.pieces_append, Text.pieces_of_notMem List.not_mem_nil, List.map_append]
      rfl

/-- A joined path has the names of the path, and one more. -/
theorem names_join {p : Path} (hp : p.text ≠ "") {s : String} (hs : IsName s) :
    (p.join s).names = p.names ++ [s] := by
  obtain ⟨front, hjoin, hfront⟩ := parts_join hp hs
  have hnames : p.names = front.filter fun n => n ≠ "" := by
    rcases hfront with h | h <;> simp [names, h]
  rw [names, hjoin, List.filter_append, hnames]
  simp [hs.1]

/-- A joined path ends with a name, so it is walked along its names only. -/
theorem steps_join {p : Path} (hp : p.text ≠ "") {s : String} (hs : IsName s) :
    (p.join s).steps = p.names ++ [s] := by
  obtain ⟨front, hjoin, -⟩ := parts_join hp hs
  rw [steps, hjoin, List.getLast?_append, List.getLast?_singleton, if_neg, names_join hp hs]
  rintro ⟨-, h⟩
  exact hs.1 (Option.some.inj h)

theorem text_join_ne_empty {p : Path} (hp : p.text ≠ "") {s : String} (hs : IsName s) :
    (p.join s).text ≠ "" := by
  obtain ⟨front, hjoin, -⟩ := text_join hp hs
  intro h
  rw [h] at hjoin
  exact List.append_ne_nil_of_right_ne_nil _ (List.cons_ne_nil _ _) hjoin.symm

end Path

end ScriptedChat
