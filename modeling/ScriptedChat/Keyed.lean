/-!
# Lists sorted by key

A list of pairs, each key once and the keys in order.  Such a list is determined by what
is found in it, so it can be compared and written down without a word about how it came
about.

* `Keyed.insert`: the list with a value under a key.
* `Keyed.ofList`: the list of some pairs, put into it one after the other.
* `Keyed.find?`: the value under a key.
-/

namespace ScriptedChat
namespace Keyed

variable {α : Type}

/-- The list with `v` under `k`, in the place of what was there. -/
def insert (k : String) (v : α) : List (String × α) → List (String × α)
  | [] => [(k, v)]
  | (n, w) :: l =>
    if k = n then (k, v) :: l
    else if k < n then (k, v) :: (n, w) :: l
    else (n, w) :: insert k v l

/-- The list of some pairs.  Of several pairs with one key the last one counts. -/
def ofList (l : List (String × α)) : List (String × α) :=
  l.foldl (fun m p => insert p.1 p.2 m) []

/-- The value under a key. -/
def find? (k : String) : List (String × α) → Option α
  | [] => none
  | (n, v) :: l => if k = n then some v else find? k l

@[simp] theorem find?_nil (k : String) : find? k ([] : List (String × α)) = none := rfl

theorem find?_insert (k k' : String) (v : α) (l : List (String × α)) :
    find? k' (insert k v l) = if k' = k then some v else find? k' l := by
  induction l with
  | nil => rfl
  | cons p l ih =>
    obtain ⟨n, w⟩ := p
    unfold insert
    split
    · rename_i h; subst h; simp only [find?]; split <;> rfl
    · split
      · simp only [find?]
      · rename_i h _
        simp only [find?, ih]
        by_cases hn : k' = n
        · subst hn; simp [Ne.symm h]
        · simp [hn]

end Keyed
end ScriptedChat
