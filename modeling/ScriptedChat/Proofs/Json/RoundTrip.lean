import ScriptedChat.Proofs.Json.Scan

/-!
# A written value is read back

`Json.parse` cuts a text into tokens and puts them one by one into a stack of open
containers.  `Json.Scan` says which tokens the text of a value has; here they are followed
through the stack.

The invariant is that of a stack machine: the tokens of a value, read where a value may
stand, deliver this value to the innermost container and leave the others alone
(`foldlM_tokens`).  Inside a container the items that have been read are on the stack, last
first, so what is said of the items of an array is said for every list of earlier ones.

* `foldlM_tokens`: the tokens of a value deliver the value.
* `parse_render`, `parse_toText`: reading is the inverse of writing.
-/

namespace ScriptedChat
namespace Json

/-- A value may stand here. -/
def Place.TakesValue (p : Place) : Prop := p = .value ∨ p = .firstItem

/-- Members under names that are no foreign text are the members of an object. -/
theorem membersOf?_map (ms : List (String × Json)) :
    membersOf? (ms.map fun m => (some m.1, m.2)) = some ms := by
  induction ms with
  | nil => rfl
  | cons m ms ih => simp [membersOf?, ih]

/-- A container that does not stand too deep closes to its value. -/
theorem closeInnermost_cons {c : Container} {l : List Container} (h : l.length + 1 < maxDepth) :
    closeInnermost (c :: l) = some (deliver c.close l) := by
  rw [closeInnermost, if_neg (Nat.not_le_of_lt h)]

mutual

/-- **The tokens of a value deliver it to the innermost container.** -/
theorem foldlM_tokens : ∀ (v : Json) {room : Nat} {l : List Container} {p : Place} (x : Json),
    v.isWritable room = true → l.length + room < maxDepth → p.TakesValue →
      v.tokens.foldlM step ⟨p, l, x⟩ = some (deliver v l)
  | .null, _, l, p, x, _, _, hp => by rcases hp with rfl | rfl <;> rfl
  | .bool b, _, l, p, x, _, _, hp => by rcases hp with rfl | rfl <;> rfl
  | .int n, _, l, p, x, _, _, hp => by rcases hp with rfl | rfl <;> rfl
  | .text s, _, l, p, x, _, _, hp => by rcases hp with rfl | rfl <;> rfl
  | .real _, room, _, _, _, hv, _, _ => by cases room <;> simp [isWritable] at hv
  | .foreign, room, _, _, _, hv, _, _ => by cases room <;> simp [isWritable] at hv
  | .array items, room, l, p, x, hv, hroom, hp => by
    cases room with
    | zero => simp [isWritable] at hv
    | succ room =>
      rw [isWritable] at hv
      have hopen : step ⟨p, l, x⟩ .openArray = some ⟨.firstItem, .array [] :: l, .null⟩ := by
        rcases hp with rfl | rfl <;> rfl
      have hclose : closeInnermost (.array items.reverse :: l)
          = some (deliver (.array items) l) := by
        rw [closeInnermost_cons (by omega), Container.close, List.reverse_reverse]
      rw [tokens, List.cons_append, List.foldlM_cons, hopen, Option.bind_eq_bind, Option.bind_some,
        List.foldlM_append]
      cases items with
      | nil => exact hclose
      | cons w ws =>
        obtain ⟨y, hitems⟩ := foldlM_itemTokens (w :: ws) (l := l) [] .null
          (List.cons_ne_nil _ _) hv (by omega) (Or.inr rfl)
        rw [hitems, Option.bind_eq_bind, Option.bind_some, List.append_nil]
        exact hclose
  | .object members, room, l, p, x, hv, hroom, hp => by
    cases room with
    | zero => simp [isWritable] at hv
    | succ room =>
      rw [isWritable] at hv
      have hopen : step ⟨p, l, x⟩ .openObject
          = some ⟨.firstName, .object [] none :: l, .null⟩ := by
        rcases hp with rfl | rfl <;> rfl
      have hclose : ∀ name, closeInnermost
          (.object (members.map fun m => (some m.1, m.2)).reverse name :: l)
            = some (deliver (.object members) l) := by
        intro name
        rw [closeInnermost_cons (by omega), Container.close, List.reverse_reverse, membersOf?_map]
      rw [tokens, List.cons_append, List.foldlM_cons, hopen, Option.bind_eq_bind, Option.bind_some,
        List.foldlM_append]
      cases members with
      | nil => exact hclose none
      | cons m ms =>
        obtain ⟨y, name, hmembers⟩ :=
          foldlM_memberTokens (m :: ms) (l := l) [] none .null (List.cons_ne_nil _ _) hv
            (by omega) (Or.inr rfl)
        rw [hmembers, Option.bind_eq_bind, Option.bind_some, List.append_nil]
        exact hclose name

/-- The tokens of the items of an array put them on the stack after the earlier ones. -/
theorem foldlM_itemTokens : ∀ (vs : List Json) {room : Nat} {l : List Container} {p : Place}
    (earlier : List Json) (x : Json), vs ≠ [] → areWritable room vs = true →
      l.length + 1 + room < maxDepth → p.TakesValue →
      ∃ y, (itemTokens vs).foldlM step ⟨p, .array earlier :: l, x⟩
        = some ⟨.next, .array (vs.reverse ++ earlier) :: l, y⟩
  | [], _, _, _, _, _, hne, _, _, _ => absurd rfl hne
  | [v], room, l, p, earlier, x, _, hvs, hroom, hp => by
    rw [areWritable, areWritable, Bool.and_true] at hvs
    exact ⟨_, foldlM_tokens v x hvs hroom hp⟩
  | v :: w :: ws, room, l, p, earlier, x, _, hvs, hroom, hp => by
    rw [areWritable, Bool.and_eq_true] at hvs
    have hfirst := foldlM_tokens v (l := .array earlier :: l) x hvs.1 hroom hp
    obtain ⟨y, hrest⟩ := foldlM_itemTokens (w :: ws) (l := l) (v :: earlier) .null
      (List.cons_ne_nil _ _) hvs.2 hroom (Or.inl rfl)
    refine ⟨y, ?_⟩
    rw [itemTokens, List.foldlM_append, hfirst, Option.bind_eq_bind, Option.bind_some,
      List.foldlM_cons]
    have hcomma : step (deliver v (.array earlier :: l)) .comma
        = some ⟨.value, .array (v :: earlier) :: l, .null⟩ := rfl
    rw [hcomma, Option.bind_eq_bind, Option.bind_some, hrest, List.reverse_cons (a := v),
      List.append_assoc, List.singleton_append]

/-- The tokens of the members of an object put them on the stack after the earlier ones. -/
theorem foldlM_memberTokens : ∀ (ms : List (String × Json)) {room : Nat} {l : List Container}
    {p : Place} (earlier : List (Option String × Json)) (name : Option String) (x : Json),
      ms ≠ [] → areWritableMembers room ms = true → l.length + 1 + room < maxDepth →
      p = .name ∨ p = .firstName →
      ∃ y last, (memberTokens ms).foldlM step ⟨p, .object earlier name :: l, x⟩
        = some ⟨.next, .object ((ms.map fun m => (some m.1, m.2)).reverse ++ earlier) last :: l, y⟩
  | [], _, _, _, _, _, _, hne, _, _, _ => absurd rfl hne
  | [(n, v)], room, l, p, earlier, name, x, _, hms, hroom, hp => by
    rw [areWritableMembers, areWritableMembers, Bool.and_true] at hms
    refine ⟨v, some n, ?_⟩
    have hname : step ⟨p, .object earlier name :: l, x⟩ (.text (some n))
        = some ⟨.colon, .object earlier (some n) :: l, .null⟩ := by
      rcases hp with rfl | rfl <;> rfl
    rw [memberTokens, List.foldlM_cons, hname, Option.bind_eq_bind, Option.bind_some,
      List.foldlM_cons]
    exact foldlM_tokens v .null hms hroom (Or.inl rfl)
  | (n, v) :: m :: ms, room, l, p, earlier, name, x, _, hms, hroom, hp => by
    rw [areWritableMembers, Bool.and_eq_true] at hms
    have hname : step ⟨p, .object earlier name :: l, x⟩ (.text (some n))
        = some ⟨.colon, .object earlier (some n) :: l, .null⟩ := by
      rcases hp with rfl | rfl <;> rfl
    have hcolon : step ⟨.colon, .object earlier (some n) :: l, .null⟩ .colon
        = some ⟨.value, .object earlier (some n) :: l, .null⟩ := rfl
    have hfirst := foldlM_tokens v (l := .object earlier (some n) :: l) .null hms.1 hroom
      (Or.inl rfl)
    have hcomma : step (deliver v (.object earlier (some n) :: l)) .comma
        = some ⟨.name, .object ((some n, v) :: earlier) (some n) :: l, .null⟩ := rfl
    obtain ⟨y, last, hrest⟩ := foldlM_memberTokens (m :: ms) (l := l) ((some n, v) :: earlier)
      (some n) .null (List.cons_ne_nil _ _) hms.2 hroom (Or.inl rfl)
    refine ⟨y, last, ?_⟩
    rw [memberTokens, List.cons_append, List.cons_append, List.foldlM_cons, hname,
      Option.bind_eq_bind, Option.bind_some, List.foldlM_cons, hcolon, Option.bind_eq_bind,
      Option.bind_some, List.foldlM_append, hfirst, Option.bind_eq_bind, Option.bind_some,
      List.foldlM_cons, hcomma, Option.bind_eq_bind, Option.bind_some, hrest]
    simp

end

/-- **Reading is the inverse of writing**, for a value that is not nested too deep. -/
theorem parse_render {v : Json} (hv : v.isWritable (maxDepth - 1) = true) :
    parse v.render = some v := by
  obtain ⟨hlength, hscan⟩ := scans_render v hv isTail_nil
  have htokens : Token.ofChars? v.render = some v.tokens := by
    have h := hscan (v.render.length - v.tokens.length)
    rw [Nat.sub_add_cancel hlength, List.append_nil] at h
    rw [Token.ofChars?, h, Token.readAll?.eq_def]
    simp
  have hread : v.tokens.foldlM step start = some (deliver v []) :=
    foldlM_tokens v .null hv (by decide) (Or.inl rfl)
  rw [parse, htokens, Option.bind_eq_bind, Option.bind_some, hread]
  rfl

theorem parse_toText {v : Json} (hv : v.isWritable (maxDepth - 1) = true) :
    parse v.toText.toList = some v := by
  rw [toText, String.toList_ofList, parse_render hv]

end Json
end ScriptedChat
