import ScriptedChat.Proofs.Scenario.Block
import ScriptedChat.Proofs.Text.LineEnds

/-!
# Line ends do not matter

A script says the same whether its lines end with a line end or with a carriage return and a line
end.  Every cut of a script trims what it cuts out, and `ScriptedChat.Proofs.Text.LineEnds` says
where a carriage return goes in each of them.  What remains is to follow it through: no heading,
no line and no block is read differently for it, not even where the script is refused and the
text of a line is part of what is said about it.

* `readBlock_withReturns`: a block is read alike, whether it is refused or not.
* `ofText_withReturns`: **a script is read alike**.
-/

namespace ScriptedChat
namespace Scenario

open Text

/-- A heading is trimmed before anything is looked for in it. -/
theorem readHeading_concat_return (zone : Calendar.Zone) (heading : List Char) :
    readHeading zone (heading ++ ['\r']) = readHeading zone heading := by
  rw [readHeading, readHeading, trim_concat_of_isBlank rfl]

/-- Lines that differ in blanks at their ends only are read alike. -/
theorem mapM_readLine_congr {ls ls' : List (List Char)} (id : String)
    (h : ls.map trimEnd = ls'.map trimEnd) : ls.mapM (readLine id) = ls'.mapM (readLine id) := by
  have htrim : ∀ ls : List (List Char), ls.mapM (readLine id)
      = (ls.map trimEnd).mapM (readLine id) := by
    intro ls
    rw [List.mapM_map]
    congr 1
    funext l
    exact (readLine_trimEnd id l).symm
  rw [htrim, h, ← htrim]

/-- **A block is read alike, or refused for the same.** -/
theorem readBlock_withReturns (zone : Calendar.Zone) (block : List Char) :
    readBlock zone (withReturns block) = readBlock zone block := by
  have hlines : ∀ (id : String) (rest : List Char),
      (lines (trim (withReturns rest))).mapM (readLine id)
        = (lines (trim rest)).mapM (readLine id) := by
    intro id rest
    refine mapM_readLine_congr id ?_
    rw [trim_withReturns, lines_withReturns]
  unfold readBlock
  rw [cutAt?_withReturns]
  cases hcut : cutAt? '\n' block with
  | none =>
    rw [withReturns_of_notMem (cutAt?_eq_none.mp hcut)]
    rfl
  | some p =>
    simp only [Option.map_some, Option.getD_some, readHeading_concat_return, hlines]

/-- The blocks are cut at the same places, and the same ones are blank. -/
theorem blocks_withReturns (text : List Char) :
    blocks (withReturns text) = (blocks text).map withReturns := by
  have hpieces := pieces_withReturns (m := stepMarker) (by decide) (by decide) (by decide) text
  rw [blocks, blocks, hpieces, List.filter_map]
  congr 1
  refine List.filter_congr fun block _ => ?_
  show (!isAllBlank (withReturns block)) = !isAllBlank block
  rw [isAllBlank_withReturns]

theorem readSteps_withReturns (zone : Calendar.Zone) (bs : List (List Char)) :
    readSteps zone (bs.map withReturns) = readSteps zone bs := by
  rw [readSteps, readSteps, List.foldlM_map]
  simp only [readBlock_withReturns]

/-- **Line ends do not matter.**  Whatever a script says, with a carriage return before every line
end it says the same: it is refused for the same, or it is the same scenario. -/
theorem ofText_withReturns (zone : Calendar.Zone) (text : String) :
    ofText zone (String.ofList (withReturns text.toList)) = ofText zone text := by
  unfold ofText
  rw [String.toList_ofList, blocks_withReturns]
  cases blocks text.toList with
  | nil => rfl
  | cons first rest =>
    simp only [List.map_cons, readBlock_withReturns, readSteps_withReturns]

end Scenario
end ScriptedChat
