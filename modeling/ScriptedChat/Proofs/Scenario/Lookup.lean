import Mathlib.Data.List.Nodup
import ScriptedChat.Proofs.Keyed
import ScriptedChat.Scenario.Basic

/-!
# Steps by their ids

A scenario finds its steps through an index of their ids.  What it finds under an id is a step
with that id, and it finds one under every id that some step has.  If no two steps have the same
id, every step is found under its own.

* `Scenario.id_of_step?`: what is found under an id has it.
* `Scenario.step?_eq_none_iff`: nothing is found if and only if no step has the id.
* `Scenario.step?_eq_some_iff`: where ids are distinct, every step is found.
-/

namespace ScriptedChat
namespace Scenario

variable {s : Scenario} {id : String} {step : Step}

/-- The ids of the steps, each with its place. -/
theorem mem_zipIdx_map {i : Nat} :
    (id, i) ∈ s.steps.zipIdx.map (fun p => (p.1.id, p.2))
      ↔ ∃ step, s.steps[i]? = some step ∧ step.id = id := by
  rw [List.mem_map]
  constructor
  · rintro ⟨⟨step, j⟩, hmem, heq⟩
    obtain ⟨hid, rfl⟩ := Prod.mk.inj heq
    exact ⟨step, List.mem_zipIdx_iff_getElem?.mp hmem, hid⟩
  · rintro ⟨step, hstep, rfl⟩
    exact ⟨(step, i), List.mem_zipIdx_iff_getElem?.mpr hstep, rfl⟩

/-- What the index leads to is a step that has the id. -/
theorem of_find?_index {i : Nat} (h : Keyed.find? id s.index = some i) :
    ∃ step, s.steps[i]? = some step ∧ step.id = id := by
  rw [index, Keyed.find?_ofList] at h
  exact mem_zipIdx_map.mp (List.mem_reverse.mp (Keyed.mem_of_find? h))

/-- What is found under an id is a step of the scenario, and has the id. -/
theorem mem_of_step? (h : s.step? id = some step) : step ∈ s.steps ∧ step.id = id := by
  obtain ⟨i, hi, hstep⟩ := Option.bind_eq_some_iff.mp h
  obtain ⟨step', hstep', hid⟩ := of_find?_index hi
  rw [hstep, Option.some.injEq] at hstep'
  exact ⟨List.mem_of_getElem? hstep, hstep' ▸ hid⟩

theorem id_of_step? (h : s.step? id = some step) : step.id = id := (mem_of_step? h).2

/-- **Nothing is found under an id if and only if no step has it.** -/
theorem step?_eq_none_iff : s.step? id = none ↔ id ∉ s.steps.map Step.id := by
  constructor
  · intro h hmem
    obtain ⟨step, hstep, rfl⟩ := List.mem_map.mp hmem
    obtain ⟨i, hi⟩ := List.mem_iff_getElem?.mp hstep
    rw [step?] at h
    cases hfind : Keyed.find? step.id s.index with
    | none =>
      rw [index, Keyed.find?_ofList, Keyed.find?_eq_none] at hfind
      exact hfind _ (List.mem_reverse.mpr (mem_zipIdx_map.mpr ⟨step, hi, rfl⟩)) rfl
    | some j =>
      obtain ⟨step', hstep', -⟩ := of_find?_index hfind
      rw [hfind, Option.bind_some, hstep'] at h
      cases h
  · intro h
    rw [← Option.not_isSome_iff_eq_none, Option.isSome_iff_exists]
    rintro ⟨step, hstep⟩
    obtain ⟨hmem, rfl⟩ := mem_of_step? hstep
    exact h (List.mem_map_of_mem hmem)

/-- **Where ids are distinct, every step is found under its own.** -/
theorem step?_eq_some_iff (hnodup : (s.steps.map Step.id).Nodup) :
    s.step? id = some step ↔ step ∈ s.steps ∧ step.id = id := by
  refine ⟨mem_of_step?, fun ⟨hmem, hid⟩ => ?_⟩
  cases hfind : s.step? id with
  | none => exact absurd (hid ▸ List.mem_map_of_mem hmem) (step?_eq_none_iff.mp hfind)
  | some step' =>
    obtain ⟨hmem', hid'⟩ := mem_of_step? hfind
    rw [List.inj_on_of_nodup_map hnodup hmem' hmem (hid'.trans hid.symm)]

end Scenario
end ScriptedChat
