/-!
# Actions that can fail

What is done can fail, and leaves the state it has reached in any case.  Two things done
one after the other are the second one in the state that the first one leaves, unless the
first one failed.

* `run_bind`: one after the other.
* `run_bind_ok`, `run_bind_error`, `of_run_bind_ok`: the two cases.
* `run_get_bind`, `run_set_bind`, `run_modify_bind`: after the state is read or changed.
-/

namespace ScriptedChat
namespace Action

variable {ε σ α β : Type}

/-- One after the other. -/
theorem run_bind (x : ExceptT ε (StateM σ) α) (f : α → ExceptT ε (StateM σ) β) (s : σ) :
    (x >>= f).run s
      = match x.run s with
        | (.ok a, t) => (f a).run t
        | (.error e, t) => (.error e, t) := by
  show (match x.run s with | (r, t) => ExceptT.bindCont f r t) = _
  obtain ⟨r, t⟩ := x.run s
  cases r <;> rfl

theorem run_bind_ok {x : ExceptT ε (StateM σ) α} {s t : σ} {a : α} (h : x.run s = (.ok a, t))
    (f : α → ExceptT ε (StateM σ) β) : (x >>= f).run s = (f a).run t := by
  rw [run_bind, h]

theorem run_bind_error {x : ExceptT ε (StateM σ) α} {s t : σ} {e : ε}
    (h : x.run s = (.error e, t)) (f : α → ExceptT ε (StateM σ) β) :
    (x >>= f).run s = (.error e, t) := by
  rw [run_bind, h]

/-- What has succeeded has done so step by step. -/
theorem of_run_bind_ok {x : ExceptT ε (StateM σ) α} {f : α → ExceptT ε (StateM σ) β} {s t : σ}
    {b : β} (h : (x >>= f).run s = (.ok b, t)) :
    ∃ a u, x.run s = (.ok a, u) ∧ (f a).run u = (.ok b, t) := by
  rw [run_bind] at h
  rcases hx : x.run s with ⟨e | a, u⟩
  · rw [hx] at h
    cases h
  · rw [hx] at h
    exact ⟨a, u, rfl, h⟩

/-- To read the state changes nothing. -/
theorem run_get_bind (f : σ → ExceptT ε (StateM σ) β) (s : σ) :
    (get >>= f).run s = (f s).run s := rfl

theorem run_set_bind (t : σ) (x : ExceptT ε (StateM σ) β) (s : σ) :
    (set t >>= fun _ => x).run s = x.run t := rfl

theorem run_modify_bind (f : σ → σ) (x : ExceptT ε (StateM σ) β) (s : σ) :
    (modify f >>= fun _ => x).run s = x.run (f s) := rfl

end Action
end ScriptedChat
