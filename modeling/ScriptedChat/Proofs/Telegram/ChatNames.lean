import ScriptedChat.Proofs.Bot.Failures
import ScriptedChat.Proofs.Json.Scan
import ScriptedChat.Telegram.Update

/-!
# The names of chats

A chat of the service has a number, and its id here is this number as it is written
(`Telegram.chatName`).  The id becomes the name of a directory and the key of the chat, so two things
are wanted of it: it can be the name of a directory, and no other chat has it.

Both come from how integers are written.  There is always something written, and all of it is digits,
with a sign in front; so it leads nowhere else, and nothing in it parts a path.  And an integer is read
back from it, so no two of them are written alike.

Where the number stands in an update depends on the kind of the update (`Telegram.chatNumber?`).  An
update that tells what somebody did has it there, whatever else is missing from it.

* `Telegram.chatNumber?`, `Telegram.chat_of_readUpdate?`: the chat that an update is about.
* `Telegram.isValidId_chatName`, `Telegram.chatName_injective`: the two things that are wanted.
* `Telegram.IsUsable`, `Telegram.IsPrivate`, `Telegram.chats_have_their_own_directory`: all of this
  together.
-/

namespace ScriptedChat
namespace Telegram

variable {update : Json} {e : Inbound}

/-! ## Names -/

theorem mem_chatName {n : Int} {c : Char} (h : c ∈ (chatName n).toList) :
    c = '-' ∨ c.isDigit = true := by
  rw [chatName, String.toList_ofList] at h
  exact Json.mem_writeInt h

theorem chatName_ne_empty (n : Int) : chatName n ≠ "" := by
  intro h
  have hnil := congrArg String.toList h
  rw [chatName, String.toList_ofList] at hnil
  exact Json.writeInt_ne_nil n hnil

/-- **The name of a chat can be the name of a directory.** -/
theorem isValidId_chatName (n : Int) : Store.isValidId (chatName n) = true := by
  have hnotMem : ∀ c : Char, c ≠ '-' → c.isDigit = false → c ∉ (chatName n).toList := by
    intro c hsign hdigit hmem
    rcases mem_chatName hmem with h | h
    · exact hsign h
    · rw [hdigit] at h
      cases h
  have hdot : '.' ∉ (chatName n).toList := hnotMem '.' (by decide) (by decide)
  refine Store.isValidId_iff.mpr ?_
  rintro (h | h | h | h | h | h)
  · exact chatName_ne_empty n h
  · exact hdot (h ▸ by decide)
  · exact hdot (h ▸ by decide)
  · exact hnotMem _ (by decide) (by decide) h
  · exact hnotMem _ (by decide) (by decide) h
  · exact hnotMem _ (by decide) (by decide) h

/-- **No two chats have the same name.** -/
theorem chatName_injective : Function.Injective chatName := fun _ _ h =>
  Json.writeInt_injective (String.ofList_injective h)

/-! ## Updates -/

/-- The number of the chat that an update is about: that of the message whose button was pressed, or
that of the message. -/
def chatNumber? (update : Json) : Option Int :=
  (match update.field? "callback_query" with
    | some query => query.at? ["message", "chat", "id"]
    | none => (update.field? "message").bind (·.at? ["chat", "id"])).bind Json.asSigned?

/-- What somebody did is done in the chat that the update is about. -/
theorem chat_of_readUpdate? (h : readUpdate? update = some e) :
    ∃ n, chatNumber? update = some n ∧ e.chat = chatName n := by
  rw [readUpdate?] at h
  rw [chatNumber?]
  cases hquery : update.field? "callback_query" with
  | some query =>
    rw [hquery] at h
    simp only [readPress?, Option.bind_eq_bind, Option.bind_eq_some_iff, Option.pure_def,
      Option.some.injEq] at h
    obtain ⟨n, hn, press, -, rfl⟩ := h
    exact ⟨n, Option.bind_eq_some_iff.mpr hn, rfl⟩
  | none =>
    rw [hquery] at h
    obtain ⟨message, hmessage, h⟩ := Option.bind_eq_some_iff.mp h
    simp only [readMessage?, Option.bind_eq_bind, Option.bind_eq_some_iff, Option.pure_def,
      Option.some.injEq] at h
    obtain ⟨text, -, n, hn, rfl⟩ := h
    dsimp only
    rw [hmessage]
    exact ⟨n, Option.bind_eq_some_iff.mpr hn, rfl⟩

/-! ## Directories -/

/-- A key under which a chat can be kept: every store has a directory for it, right below its root,
and if the chat has this key for an id, nothing but the files can fail, whatever is done. -/
structure IsUsable (k : String) : Prop where
  valid : Store.isValidId k = true
  directory : ∀ s : Store, s.directory k = .ok (s.root.join k)
  names : ∀ s : Store, s.root.text ≠ "" → (s.root.join k).names = s.root.names ++ [k]
  fails : ∀ (τ : Type) [Transport τ] (g : Setting) (s : Stage τ), Bot.AtWork g s → s.bot.IsNamed k →
    ∀ (ds : List Bot.Deed) (d : Bot.Deed), d.chat? = some k →
      ∀ err, (d.act.run (Bot.after ds s)).1 = .error err → Chat.IsFileFault err

/-- Two keys are told apart by what `p` says: as texts, by the directory in every store, and as keys
of the chats of a bot. -/
structure IsPrivate (k k' : String) (p : Prop) : Prop where
  id : k = k' ↔ p
  directory : ∀ s : Store, s.directory k = s.directory k' ↔ p
  key : ∀ (b : Bot) (c : Chat), b.chat? k = none → ((b.withChat k' c).chat? k = some c ↔ p)

theorem isName_of_isValidId {k : String} (h : Store.isValidId k = true) : Path.IsName k :=
  (Store.isPlain_of_isValidId h).1

theorem isUsable_of_isValidId {k : String} (h : Store.isValidId k = true) : IsUsable k where
  valid := h
  directory _ := Store.directory_of_isValidId h
  names _ hroot := Path.names_join hroot (isName_of_isValidId h)
  fails _ _ _ _ hwork hnamed ds _ hd :=
    Bot.isFileFault_act h (hwork.after ds) (hnamed.after hwork ds) hd

theorem isPrivate_of_isValidId {k k' : String} {p : Prop} (hk : Store.isValidId k = true)
    (hk' : Store.isValidId k' = true) (h : k = k' ↔ p) : IsPrivate k k' p where
  id := h
  directory s := by
    rw [Store.directory_of_isValidId hk, Store.directory_of_isValidId hk', Except.ok.injEq,
      Path.join_inj (isName_of_isValidId hk) (isName_of_isValidId hk'), h]
  key b c hnone := by
    rw [← h]
    show Keyed.find? k (Keyed.insert k' c b.chats) = some c ↔ k = k'
    rw [Keyed.find?_insert]
    split
    · rename_i hkey
      exact iff_of_true rfl hkey
    · rename_i hkey
      have hchat : Keyed.find? k b.chats = none := hnone
      rw [hchat]
      exact iff_of_false nofun hkey

/-- **Every chat of the service has a directory of its own.**  Whatever an update looks like, if it
tells what somebody did, the chat has an id that every store can use.  And the chats of two updates
have the same id, the same directory, and the same key if and only if the updates are about the same
number. -/
theorem chats_have_their_own_directory (h : readUpdate? update = some e) :
    IsUsable e.chat
      ∧ ∀ {update' : Json} {e' : Inbound}, readUpdate? update' = some e' →
        IsPrivate e.chat e'.chat (chatNumber? update = chatNumber? update') := by
  obtain ⟨n, hnumber, hchat⟩ := chat_of_readUpdate? h
  rw [hchat]
  refine ⟨isUsable_of_isValidId (isValidId_chatName n), fun {update' e'} h' => ?_⟩
  obtain ⟨n', hnumber', hchat'⟩ := chat_of_readUpdate? h'
  rw [hchat']
  refine isPrivate_of_isValidId (isValidId_chatName n) (isValidId_chatName n') ?_
  rw [hnumber, hnumber', Option.some.injEq]
  exact chatName_injective.eq_iff

/-- A message in the chat with a number. -/
def messageIn (n : Int) : Json :=
  .object [("message", .object [("chat", .object [("id", .int n)]), ("text", .text "Hi")])]

/-- The press of a button below a message in the chat with a number. -/
def pressIn (n : Int) : Json :=
  .object [("callback_query", .object [("id", .text "7"),
    ("message", .object [("chat", .object [("id", .int n)])])])]

/-- A press in a group is made in the chat of the group, and not in that of its number without the
sign. -/
theorem own_directory_of_group :
    IsPrivate "-1001" "-1001" (chatNumber? (messageIn (-1001)) = chatNumber? (pressIn (-1001)))
      ∧ IsPrivate "-1001" "1001" (chatNumber? (messageIn (-1001)) = chatNumber? (messageIn 1001))
      ∧ IsUsable "-1001" := by
  have hgroup : readUpdate? (messageIn (-1001)) = some ⟨"-1001", "Hi", Sender.unknown, none⟩ := by
    decide
  have hpress : readUpdate? (pressIn (-1001)) = some ⟨"-1001", "", Sender.unknown, some "7"⟩ := by
    decide
  have hother : readUpdate? (messageIn 1001) = some ⟨"1001", "Hi", Sender.unknown, none⟩ := by
    decide
  obtain ⟨husable, hprivate⟩ := chats_have_their_own_directory hgroup
  exact ⟨hprivate hpress, hprivate hother, husable⟩

end Telegram
end ScriptedChat
