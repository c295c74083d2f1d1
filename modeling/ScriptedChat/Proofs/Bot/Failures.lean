import ScriptedChat.Proofs.Bot.Minding
import ScriptedChat.Proofs.Chat.Failing

/-!
# What a deed can fail with

All that can fail in a deed for one chat is what is done on the disk for this chat, in the directory
that its id names.  So what is known of the failures of the chat is known of the deed, if the id is
the key under which the chat is found (`Bot.IsNamed`).  That is so unless the chat was restored from
a record that lies elsewhere: a chat that was not there when the bot began has its key for an id,
whatever comes of it.

* `Bot.failsOnly_deal`: a deed fails with nothing that its chat does not fail with.
* `Bot.IsNamed`, `Bot.IsNamed.after`: chats that have their key for an id.
* `Bot.isFileFault_act`, `Bot.act_ok`: if the key can be the name of a directory, and if the store
  works for it.
-/

namespace ScriptedChat
namespace Bot

variable {τ : Type} [Transport τ] {g : Setting} {k : String} {s : Stage τ} {d : Deed}
  {I : String → Disk → Prop} {E : EngineError → Prop}

omit [Transport τ] in
/-- An action of a chat that is there. -/
theorem failsOnly_play {c : Chat} {w : World τ} {x : ChatAction τ Unit}
    (hx : Chat.FailsOnly I E x) (hc : I c.id w.disk) (e : EngineError)
    (he : (Plot.play c w x).1 = .error e) : E e := (hx ⟨c, w⟩ hc).2 e he

/-- **A deed for a chat fails with nothing else than the chat does.** -/
theorem failsOnly_deal (h : Chat.IsFailCourse g I E) (hd : d.chat? = some k) {p : Plot τ}
    (hp : ∀ c, p.chat = some c → c.id = k) (hI : I k p.world.disk) (err : EngineError)
    (herr : (d.deal g p).1 = .error err) : E err := by
  obtain ⟨chat, w⟩ := p
  cases d with
  | receive e =>
    obtain rfl := Option.some.inj hd
    have hanswered : I e.chat (answered e.press w).disk := by
      rw [disk_answered]
      exact hI
    by_cases he : Text.trim e.text.toList = []
    · rw [deal_of_blank g he] at herr
      cases herr
    cases chat with
    | some c =>
      rw [deal_of_known g he] at herr
      refine failsOnly_play (h.respond (said e)) ?_ err herr
      rw [hp c rfl]
      exact hanswered
    | none =>
      obtain ⟨hkept, hfails⟩ := h.save (answered e.press w).disk
        (Chat.opening g.scenario e.chat (referral? (said e))).record hanswered
      rw [deal_of_unseen g he, Chat.create_run] at herr
      generalize (g.store.save _).run _ = saved at hkept hfails herr
      obtain ⟨e' | _, disk⟩ := saved
      · cases herr
        exact hfails e' rfl
      · exact failsOnly_play (h.welcome _ _) hkept err herr
  | note n =>
    rw [deal_note, Plot.visit] at herr
    cases chat with
    | some c => exact failsOnly_play (h.handleNote n) (hp c rfl ▸ hI) err herr
    | none => cases herr
  | announce key step =>
    rw [deal_announce, Plot.visit] at herr
    cases chat with
    | some c => exact failsOnly_play (h.goTo step) (hp c rfl ▸ hI) err herr
    | none => cases herr
  | _ => cases hd

/-! ## Chats that have their key for an id -/

/-- The chat under a key, if it is there, has this key for its id. -/
def IsNamed (b : Bot) (k : String) : Prop := ∀ c, b.chat? k = some c → c.id = k

/-- Whatever is done, it stays so. -/
theorem IsNamed.act (hb : s.bot.IsNamed k) (h : AtWork g s) (d : Deed) :
    (d.act.run s).2.bot.IsNamed k := by
  intro c' hc'
  cases hkey : d.chat? with
  | none =>
    have hrecord := record?_idle h.sorted hkey k
    rw [hc'] at hrecord
    obtain ⟨c, hc, hsame⟩ := Option.map_eq_some_iff.mp hrecord.symm
    exact (congrArg ChatRecord.chatId hsame).symm.trans (hb c hc)
  | some key =>
    rw [chat?_act h.sorted h.setting hkey] at hc'
    split at hc'
    · rename_i hk
      obtain ⟨-, hnew⟩ | ⟨c, hc, hid⟩ := (deal_minds g hkey (plot s key)).ids c' hc'
      · exact hnew.trans hk.symm
      · exact hid.trans (hb c (hk ▸ hc))
    · exact hb c' hc'

theorem IsNamed.after (hb : s.bot.IsNamed k) (h : AtWork g s) (ds : List Deed) :
    (after ds s).bot.IsNamed k := by
  induction ds generalizing s with
  | nil => exact hb
  | cons d ds ih => exact ih (hb.act h d) (h.act d)

/-- **A deed for such a chat fails with files only**, if the key can be the name of a directory. -/
theorem isFileFault_act (hk : Store.isValidId k = true) (h : AtWork g s) (hb : s.bot.IsNamed k)
    (hd : d.chat? = some k) (err : EngineError) (herr : (d.act.run s).1 = .error err) :
    Chat.IsFileFault err := by
  rw [act_run h.sorted h.setting hd] at herr
  exact failsOnly_deal (p := plot s k) (Chat.isFailCourse_files g hk) hd hb rfl err herr

/-- **A deed for such a chat does not fail**, if the store works for it. -/
theorem act_ok (h : AtWork g s) (hb : s.bot.IsNamed k) (hworks : g.store.Works k s.world.disk)
    (hd : d.chat? = some k) : (d.act.run s).1 = .ok () := by
  rw [act_run h.sorted h.setting hd]
  exact ok_of_failsOnly_nothing
    (failsOnly_deal (p := plot s k) (Chat.isFailCourse_works g) hd hb hworks)

end Bot
end ScriptedChat
