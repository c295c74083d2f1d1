import ScriptedChat.Proofs.Scenario.WellFormed

/-!
# Which of several steps to start at

More than one block may be marked as one where conversations start, and an id may come more than
once.  The last marked step in the list of steps is the one to start at.  In that list a step
stands where its id came first, though it is the one that was read last.  So the last marked step
in the list need not be that of the last marked block in the script.

In

```
## Step a
## Step b (immediate)
## Step a (immediate)
```

the last block takes the place of the first one, and what is left is a list of `a` and `b`, in
this order, both marked.  Conversations start at `b`.

* `Standing`: a marked block that no later one replaces.
* `LatestStanding`: the last one of these in the script.
* `firstAt`: where the id of a block comes first.
* `entry_of_ofText`: where conversations start, and when that is the last one in the script.
-/

namespace ScriptedChat
namespace Scenario

open Text

variable {zone : Calendar.Zone} {bs : List (List Char)} {block other : List Char} {step : Step}
  {s : Scenario}

/-- A block that is marked as one where conversations start, and that is not replaced by a later
one of its id. -/
structure Standing (bs : List (List Char)) (block : List Char) : Prop where
  isLast : IsLastOf blockId bs block
  isImmediate : IsImmediate (before '\n' block)

/-- The last one of them in the order of the script: none of those after it stands. -/
def LatestStanding (bs : List (List Char)) (block : List Char) : Prop :=
  ∃ front back, bs = front ++ block :: back ∧ (∀ b ∈ back, blockId b ≠ blockId block)
    ∧ IsImmediate (before '\n' block) ∧ ∀ b, ¬ Standing back b

/-- The place at which the id of a block comes first. -/
def firstAt (bs : List (List Char)) (block : List Char) : Nat :=
  (bs.map blockId).idxOf (blockId block)

theorem LatestStanding.standing (h : LatestStanding bs block) : Standing bs block := by
  obtain ⟨front, back, hbs, hback, himm, -⟩ := h
  exact ⟨⟨front, back, hbs, hback⟩, himm⟩

/-- If any block stands, one of them is the last. -/
theorem exists_latestStanding (h : ∃ block, Standing bs block) :
    ∃ block, LatestStanding bs block := by
  induction bs with
  | nil =>
    obtain ⟨block, hlast, -⟩ := h
    exact absurd hlast.mem List.not_mem_nil
  | cons c bs ih =>
    by_cases hrest : ∃ block, Standing bs block
    · obtain ⟨block, front, back, hbs, hblock⟩ := ih hrest
      exact ⟨block, c :: front, back, by rw [hbs, List.cons_append], hblock⟩
    · obtain ⟨block, ⟨front, back, heq, hback⟩, himm⟩ := h
      cases front with
      | nil =>
        obtain ⟨rfl, rfl⟩ := List.cons.inj heq
        exact ⟨c, [], bs, rfl, hback, himm, not_exists.mp hrest⟩
      | cons d front =>
        obtain ⟨-, rfl⟩ := List.cons.inj heq
        exact absurd ⟨block, ⟨front, back, rfl, hback⟩, himm⟩ hrest

/-- What stands is known by its id. -/
theorem Standing.eq_of_blockId_eq (h : Standing bs block) (h' : Standing bs other)
    (hid : blockId block = blockId other) : block = other :=
  h.isLast.eq_of_key_eq h'.isLast hid

/-- The last step of a kind in a list that keeps an order comes after all others of the kind. -/
theorem lt_of_getLast?_filter {α : Type} {R : α → α → Prop} {p : α → Bool} {l : List α} {a b : α}
    (hordered : l.Pairwise R) (hlast : (l.filter p).getLast? = some a) (hb : b ∈ l)
    (hp : p b = true) : b = a ∨ R b a := by
  obtain ⟨front, hfront⟩ := List.getLast?_eq_some_iff.mp hlast
  have hfiltered := hordered.filter p
  rw [hfront] at hfiltered
  have hmem : b ∈ front ++ [a] := hfront ▸ List.mem_filter.mpr ⟨hb, hp⟩
  rcases List.mem_append.mp hmem with hmem | hmem
  · exact Or.inr ((List.pairwise_append.mp hfiltered).2.2 b hmem a (List.mem_singleton_self a))
  · exact Or.inl (List.mem_singleton.mp hmem)

/-- **Conversations start at the standing block whose id comes first the latest.** -/
theorem exists_standing_entry {text : String} (h : ofText zone text = .ok s) :
    ∃ block, Standing (blocks text.toList).tail block ∧ readBlock zone block = .ok s.entry
      ∧ ∀ other, Standing (blocks text.toList).tail other → other ≠ block →
        firstAt (blocks text.toList).tail other < firstAt (blocks text.toList).tail block := by
  obtain ⟨about, rest, hread, hsteps, hlast⟩ := parts_of_ofText h
  obtain ⟨b, bs, hbs, -, hrest⟩ := List.map_eq_cons_iff.mp hread
  have hkey : ∀ b step, readBlock zone b = .ok step → step.id = blockId b := fun _ _ hb =>
    (readBlock_eq_ok hb).1
  have hids : rest.map Step.id = bs.map blockId := map_key_of_map_eq hrest hkey
  have hordered := pairwise_putAll Step.id rest
  rw [hids, ← hsteps] at hordered
  have hmem_iff : ∀ step, step ∈ s.steps ↔
      ∃ block, IsLastOf blockId bs block ∧ readBlock zone block = .ok step := fun step => by
    rw [hsteps, mem_putAll_iff, isLastOf_of_map_eq hrest hkey]
  obtain ⟨hmem, hentry⟩ := List.mem_filter.mp (List.mem_of_getLast? hlast)
  obtain ⟨block, hblock, hreadblock⟩ := (hmem_iff s.entry).mp hmem
  rw [hbs, List.tail_cons]
  refine ⟨block, ⟨hblock, (isEntry_of_readBlock hreadblock).mp hentry⟩, hreadblock, ?_⟩
  intro other hother hne
  -- The other block has been read as well, to a step that is marked and comes earlier.
  obtain ⟨step, -, hstep⟩ := List.mem_map.mp (hrest ▸ List.mem_map_of_mem hother.isLast.mem)
  have hstepmem := (hmem_iff step).mpr ⟨other, hother.isLast, hstep.symm⟩
  have hmarked := (isEntry_of_readBlock hstep.symm).mpr hother.isImmediate
  rw [firstAt, firstAt, ← hkey _ _ hstep.symm, ← hkey _ _ hreadblock]
  rcases lt_of_getLast?_filter hordered hlast hstepmem hmarked with rfl | hlt
  · refine absurd (hother.isLast.eq_of_key_eq hblock ?_) hne
    rw [← hkey _ _ hstep.symm, ← hkey _ _ hreadblock]
  · exact hlt

/-- **Where conversations start.**  In every script that is accepted this is the standing block
whose id comes first the latest.  There is also a last standing block in the script, and it is
the same one if and only if the ids of all standing blocks come first no later than its own. -/
theorem entry_of_ofText {text : String} (h : ofText zone text = .ok s) :
    let bs := (blocks text.toList).tail
    (∃ block, Standing bs block ∧ readBlock zone block = .ok s.entry
        ∧ ∀ other, Standing bs other → other ≠ block → firstAt bs other < firstAt bs block)
      ∧ (∃ latest, LatestStanding bs latest)
      ∧ ∀ latest, LatestStanding bs latest →
        (readBlock zone latest = .ok s.entry ↔
          ∀ other, Standing bs other → firstAt bs other ≤ firstAt bs latest) := by
  intro bs
  have hstart := exists_standing_entry h
  refine ⟨hstart, exists_latestStanding ?_, fun latest hlatest => ?_⟩
  · obtain ⟨block, hblock, -⟩ := hstart
    exact ⟨block, hblock⟩
  · obtain ⟨block, hblock, hread, hfirst⟩ := hstart
    constructor
    · intro hreadlatest other hother
      have hsame : latest = block := by
        refine hlatest.standing.eq_of_blockId_eq hblock ?_
        rw [← (readBlock_eq_ok hreadlatest).1, ← (readBlock_eq_ok hread).1]
      subst hsame
      by_cases hne : other = latest
      · rw [hne]
      · exact (hfirst other hother hne).le
    · intro hall
      have hsame : latest = block := by
        by_contra hne
        exact absurd (hfirst latest hlatest.standing hne) (hall block hblock).not_gt
      rw [hsame, hread]

/-- A step, a step to start at, and the first one again, now as one to start at. -/
def crossed : String := "# Bot\n## Step a\nA\n## Step b (immediate)\nB\n## Step a (immediate)\nC\n"

/-- The last block of it. -/
def crossedLast : List Char := "a (immediate)\nC\n".toList

/-- Its last block is marked, and nothing comes after it. -/
theorem latestStanding_crossed : LatestStanding (blocks crossed.toList).tail crossedLast := by
  have hblocks : (blocks crossed.toList).tail
      = ["a\nA\n".toList, "b (immediate)\nB\n".toList] ++ crossedLast :: [] := by
    decide +kernel
  have hmarked : IsImmediate (before '\n' crossedLast) :=
    (readHeading_isEntry_iff .universal).mp (by decide +kernel)
  exact ⟨_, _, hblocks, fun _ hb => absurd hb List.not_mem_nil, hmarked,
    fun _ hb => absurd hb.isLast.mem List.not_mem_nil⟩

/-- Conversations start at `b`, though the last block is marked and none replaces it: its id comes
first before that of `b`. -/
theorem entry_of_crossed : ∃ s, ofText .universal crossed = .ok s ∧ s.entry.id = "b"
    ∧ LatestStanding (blocks crossed.toList).tail crossedLast ∧ blockId crossedLast = "a"
    ∧ readBlock .universal crossedLast ≠ .ok s.entry
    ∧ ∃ other, Standing (blocks crossed.toList).tail other
      ∧ firstAt (blocks crossed.toList).tail crossedLast
        < firstAt (blocks crossed.toList).tail other := by
  have hread : (ofText .universal crossed).toOption.map (fun s => s.entry.id) = some "b" := by
    decide +kernel
  have hid : blockId crossedLast = "a" := by decide +kernel
  cases h : ofText .universal crossed with
  | error e => rw [h] at hread; cases hread
  | ok s =>
    rw [h] at hread
    have hentry : s.entry.id = "b" := Option.some.inj hread
    have hother : readBlock .universal crossedLast ≠ .ok s.entry := by
      intro hblock
      rw [(readBlock_eq_ok hblock).1, hid] at hentry
      exact absurd hentry (by decide)
    have hiff := (entry_of_ofText h).2.2 crossedLast latestStanding_crossed
    have hnot := mt hiff.mpr hother
    push Not at hnot
    exact ⟨s, rfl, hentry, latestStanding_crossed, hid, hother, hnot⟩

end Scenario
end ScriptedChat
