import ScriptedChat.Proofs.Bot.Deeds

/-!
# The start of a bot

At its start a bot goes through the chats that are listed, one after the other, and restores
those whose record it can read.  What it has then is said by one list, `Bot.restored`: the
chats in the order in which they were restored.  The notes that wait are those of this list,
chat by chat, and under every key there is the last chat of that key.

If every chat is listed once, and every record lies in the directory of its chat, no note
waits twice.

* `Bot.restored`, `Bot.start_run`: what a bot starts with.
* `Bot.chat?_start`, `Bot.isSome_chat?_start`: its chats are those with a record.
* `Bot.queue_start`: what waits.
-/

namespace ScriptedChat
namespace Bot

variable {τ : Type}

/-- The chats that are restored from a disk, for some keys.  Their timers take tickets from
`tickets` on. -/
def restored (g : Setting) (d : Disk) (now : Int) : Nat → List String → List (String × Chat)
  | _, [] => []
  | tickets, key :: keys =>
    match g.store.load key d with
    | .error _ => restored g d now tickets keys
    | .ok r =>
      let c := Chat.ofRecord g.scenario r now tickets
      (key, c) :: restored g d now (tickets + c.timers.length) keys

/-- Every chat that is restored comes from a record. -/
theorem load_of_mem_restored {g : Setting} {d : Disk} {now : Int} {tickets : Nat}
    {keys : List String} {k : String} {c : Chat} (h : (k, c) ∈ restored g d now tickets keys) :
    ∃ r ticket, g.store.load k d = .ok r ∧ c = Chat.ofRecord g.scenario r now ticket := by
  induction keys generalizing tickets with
  | nil => cases h
  | cons key keys ih =>
    rw [restored] at h
    split at h
    · exact ih h
    · rename_i r hr
      rcases List.mem_cons.mp h with heq | hmem
      · obtain ⟨rfl, rfl⟩ := Prod.mk.inj heq
        exact ⟨r, tickets, hr, rfl⟩
      · exact ih hmem

/-- Every record that is listed is restored. -/
theorem mem_restored_of_load {g : Setting} {d : Disk} {now : Int} {tickets : Nat}
    {keys : List String} {k : String} {r : ChatRecord} (hk : k ∈ keys)
    (hr : g.store.load k d = .ok r) : ∃ c, (k, c) ∈ restored g d now tickets keys := by
  induction keys generalizing tickets with
  | nil => cases hk
  | cons key keys ih =>
    rw [restored]
    rcases List.mem_cons.mp hk with rfl | hk
    · rw [hr]
      exact ⟨_, List.mem_cons_self ..⟩
    · split
      · exact ih hk
      · exact (ih hk).imp fun c hc => List.mem_cons_of_mem _ hc

/-- No key is restored more often than it is listed. -/
theorem keys_restored (g : Setting) (d : Disk) (now : Int) (tickets : Nat) (keys : List String) :
    ((restored g d now tickets keys).map (·.1)).Sublist keys := by
  induction keys generalizing tickets with
  | nil => exact List.Sublist.refl _
  | cons key keys ih =>
    rw [restored]
    split
    · exact (ih tickets).cons key
    · exact (ih _).cons_cons key

/-- The chats of a list, put one after the other under their keys. -/
def gather (l : List (String × Chat)) : List (String × Chat) :=
  l.foldl (fun chats p => Keyed.insert p.1 p.2 chats) []

theorem sorted_gather (l : List (String × Chat)) : Keyed.IsSorted (gather l) := by
  have h : ∀ chats, Keyed.IsSorted chats →
      Keyed.IsSorted (l.foldl (fun chats p => Keyed.insert p.1 p.2 chats) chats) := by
    induction l with
    | nil => exact fun _ hc => hc
    | cons p l ih => exact fun chats hc => ih _ (Keyed.isSorted_insert hc p.1 p.2)
  exact h [] Keyed.isSorted_nil

/-- What is found under a key is a chat of the list with that key, and there is one if the list
has one. -/
theorem find?_gather (l : List (String × Chat)) (k : String) :
    (∀ c, Keyed.find? k (gather l) = some c → (k, c) ∈ l)
      ∧ ((∃ c, (k, c) ∈ l) → (Keyed.find? k (gather l)).isSome) := by
  induction l using List.reverseRecOn with
  | nil => exact ⟨fun c hc => (by cases hc), fun ⟨c, hc⟩ => (by cases hc)⟩
  | append_singleton l p ih =>
    have hgather : Keyed.find? k (gather (l ++ [p]))
        = if k = p.1 then some p.2 else Keyed.find? k (gather l) := by
      rw [gather, List.foldl_append]
      exact Keyed.find?_insert p.1 k p.2 _
    rw [hgather]
    by_cases hk : k = p.1
    · rw [if_pos hk]
      refine ⟨fun c hc => ?_, fun _ => rfl⟩
      rw [hk, ← Option.some.inj hc]
      exact List.mem_append_right _ (List.mem_singleton_self _)
    · rw [if_neg hk]
      refine ⟨fun c hc => List.mem_append_left _ (ih.1 c hc), ?_⟩
      rintro ⟨c, hc⟩
      rcases List.mem_append.mp hc with hc | hc
      · exact ih.2 ⟨c, hc⟩
      · exact absurd (congrArg Prod.fst (List.mem_singleton.mp hc)) hk

/-- If no key comes twice, the chats of a list are found as they are in it. -/
theorem find?_gather_of_nodup {l : List (String × Chat)} (h : (l.map Prod.fst).Nodup) (k : String) :
    Keyed.find? k (gather l) = Keyed.find? k l := by
  have hfold : ∀ chats, Keyed.find? k (l.foldl (fun chats p => Keyed.insert p.1 p.2 chats) chats)
      = (Keyed.find? k l).or (Keyed.find? k chats) := by
    induction l with
    | nil => exact fun _ => rfl
    | cons p l ih =>
      obtain ⟨n, c⟩ := p
      obtain ⟨hn, hnodup⟩ := List.nodup_cons.mp h
      intro chats
      rw [List.foldl_cons, ih hnodup, Keyed.find?_insert, Keyed.find?]
      by_cases hk : k = n
      · have hnone : Keyed.find? k l = none := Keyed.find?_eq_none.mpr fun p hp hpk =>
          hn (List.mem_map.mpr ⟨p, hp, hpk.trans hk⟩)
        rw [if_pos hk, if_pos hk, hnone]
        rfl
      · rw [if_neg hk, if_neg hk]
  rw [gather, hfold, Keyed.find?_nil, Option.or_none]

/-! ## What a bot starts with -/

/-- What restoring a chat comes to. -/
theorem restoreChat_run (key : String) (b : Bot) (w : World τ) :
    (restoreChat key b).run w
      = match b.setting.store.load key w.disk with
        | .error _ => (b, w)
        | .ok r =>
          let c := Chat.ofRecord b.setting.scenario r w.now w.tickets
          ({ b.withChat key c with queue := b.queue ++ c.overdueNotes },
            { w with tickets := w.tickets + c.timers.length }) := by
  show (match b.setting.store.load key w.disk with
    | .error _ => (return b : StateM (World τ) Bot)
    | .ok r => _).run w = _
  cases b.setting.store.load key w.disk <;> rfl

theorem foldlM_restoreChat (g : Setting) (keys : List String) (b : Bot) (w : World τ)
    (hb : b.setting = g) :
    ∃ tickets, (keys.foldlM (fun b key => restoreChat key b) b : StateM (World τ) Bot).run w
      = ({ b with
            chats := (restored g w.disk w.now w.tickets keys).foldl
              (fun chats p => Keyed.insert p.1 p.2 chats) b.chats
            queue := b.queue
              ++ (restored g w.disk w.now w.tickets keys).flatMap fun p => p.2.overdueNotes },
          { w with tickets }) := by
  induction keys generalizing b w with
  | nil =>
    refine ⟨w.tickets, ?_⟩
    rw [List.foldlM_nil, restored, List.foldl_nil, List.flatMap_nil, List.append_nil]
    rfl
  | cons key keys ih =>
    have hrun : ((key :: keys).foldlM (fun b key => restoreChat key b) b
        : StateM (World τ) Bot).run w
          = (keys.foldlM (fun b key => restoreChat key b) ((restoreChat key b).run w).1
              : StateM (World τ) Bot).run ((restoreChat key b).run w).2 := rfl
    subst hb
    rw [hrun, restoreChat_run, restored]
    cases hr : b.setting.store.load key w.disk with
    | error e => exact ih b w rfl
    | ok r =>
      obtain ⟨tickets, hrest⟩ := ih
        { b.withChat key (Chat.ofRecord b.setting.scenario r w.now w.tickets) with
          queue := b.queue
            ++ (Chat.ofRecord b.setting.scenario r w.now w.tickets).overdueNotes }
        { w with
          tickets :=
            w.tickets + (Chat.ofRecord b.setting.scenario r w.now w.tickets).timers.length } rfl
      refine ⟨tickets, ?_⟩
      dsimp only at hrest ⊢
      rw [hrest, List.foldl_cons, List.flatMap_cons, List.append_assoc]
      rfl

/-- A bot starts with nothing, and restores one chat after the other. -/
theorem start_of_chats {g : Setting} {w w' : World τ} {b : Bot} {keys : List String}
    (h : g.store.chats w.disk = .ok keys)
    (hrestored : (keys.foldlM (fun b key => restoreChat key b)
        { setting := g, chats := [], queue := [],
          schedule := Schedule.ofScenario g.scenario w.now, announced := [] }).run w = (b, w')) :
    (start g).run w = (.ok b, w') := by
  have hlift : ∀ x : StateM (World τ) Bot,
      (ExceptT.lift x : WorldAction τ Bot).run w = (.ok (x.run w).1, (x.run w).2) := fun _ => rfl
  rw [start, Action.run_get_bind]
  dsimp only
  rw [h]
  dsimp only
  rw [hlift, hrestored]

/-- **What a bot starts with**: the chats that it restored, and their notes. -/
theorem start_run {g : Setting} {w : World τ} {keys : List String}
    (h : g.store.chats w.disk = .ok keys) :
    ∃ b tickets, (start g).run w = (.ok b, { w with tickets })
      ∧ b.setting = g
      ∧ b.chats = gather (restored g w.disk w.now w.tickets keys)
      ∧ b.queue = (restored g w.disk w.now w.tickets keys).flatMap fun p => p.2.overdueNotes := by
  let b : Bot :=
    { setting := g, chats := [], queue := [],
      schedule := Schedule.ofScenario g.scenario w.now, announced := [] }
  obtain ⟨tickets, hfold⟩ := foldlM_restoreChat g keys b w rfl
  exact ⟨_, tickets, start_of_chats h hfold, rfl, rfl, List.nil_append _⟩

/-- A bot starts without chats where none is kept. -/
theorem start_of_chats_nil {g : Setting} {w : World τ} (h : g.store.chats w.disk = .ok []) :
    (start g).run w
      = (.ok
          { setting := g, chats := [], queue := [],
            schedule := Schedule.ofScenario g.scenario w.now, announced := [] }, w) :=
  start_of_chats h rfl

/-- A bot starts only if the chats can be listed. -/
theorem chats_of_start {g : Setting} {w w' : World τ} {b : Bot}
    (h : (start g).run w = (.ok b, w')) : ∃ keys, g.store.chats w.disk = .ok keys := by
  cases hk : g.store.chats w.disk with
  | ok keys => exact ⟨keys, rfl⟩
  | error e =>
    have hrun : (start g).run w = (.error (.store e), w) := by
      rw [start, Action.run_get_bind]
      dsimp only
      rw [hk]
      rfl
    rw [hrun] at h
    cases h

/-- A bot that has started: what it was started on, and what it has. -/
theorem of_start {g : Setting} {w w' : World τ} {b : Bot} (h : (start g).run w = (.ok b, w')) :
    ∃ keys, g.store.chats w.disk = .ok keys ∧ w'.disk = w.disk ∧ w'.now = w.now
      ∧ b.setting = g
      ∧ b.chats = gather (restored g w.disk w.now w.tickets keys)
      ∧ b.queue = (restored g w.disk w.now w.tickets keys).flatMap fun p => p.2.overdueNotes := by
  obtain ⟨keys, hkeys⟩ := chats_of_start h
  obtain ⟨b', tickets, hrun, hsetting, hchats, hqueue⟩ := start_run (g := g) hkeys
  rw [hrun] at h
  cases h
  exact ⟨keys, hkeys, rfl, rfl, hsetting, hchats, hqueue⟩

section

variable {g : Setting} {w w' : World τ} {b : Bot} (h : (start g).run w = (.ok b, w'))
include h

theorem sorted_start : Keyed.IsSorted b.chats := by
  obtain ⟨keys, -, -, -, -, hchats, -⟩ := of_start h
  rw [hchats]
  exact sorted_gather _

/-- A bot that has started is at work. -/
theorem atWork_start (htree : w.disk.IsTree) : AtWork g ⟨b, w'⟩ := by
  obtain ⟨keys, hkeys, hdisk, -, hsetting, -, -⟩ := of_start h
  exact ⟨hsetting, sorted_start h, hdisk ▸ Store.holds_of_chats htree hkeys⟩

/-- A chat that a bot starts with goes on from its record. -/
theorem load_of_chat?_start {k : String} {c : Chat} (hc : b.chat? k = some c) :
    ∃ r ticket, g.store.load k w.disk = .ok r ∧ c = Chat.ofRecord g.scenario r w.now ticket := by
  obtain ⟨keys, -, -, -, -, hchats, -⟩ := of_start h
  rw [chat?, hchats] at hc
  exact load_of_mem_restored ((find?_gather _ k).1 c hc)

/-- A bot starts with every chat that has a record. -/
theorem isSome_chat?_start (hs : g.store.Holds w.disk) {k : String} {r : ChatRecord}
    (hr : g.store.load k w.disk = .ok r) : (b.chat? k).isSome := by
  obtain ⟨keys, hkeys, -, -, -, hchats, -⟩ := of_start h
  obtain ⟨keys', hkeys', -, hlisted⟩ := Store.chats_of_holds hs
  rw [hkeys] at hkeys'
  obtain rfl := Except.ok.inj hkeys'
  rw [chat?, hchats]
  exact (find?_gather _ k).2 (mem_restored_of_load (hlisted k r hr) hr)

/-- Where every record lies in the directory of its chat, a note that waits at the start is of a
chat that is there. -/
theorem chat?_of_mem_queue_start (hplace : ∀ k r, g.store.load k w.disk = .ok r → r.chatId = k)
    {n : Elapsed} (hn : n ∈ b.queue) :
    n.generation = 0 ∧ ∃ c, b.chat? n.chat = some c ∧ c.generation = 0 := by
  obtain ⟨keys, -, -, -, -, hchats, hqueue⟩ := of_start h
  rw [hqueue, List.mem_flatMap] at hn
  obtain ⟨⟨k, c⟩, hmem, hn⟩ := hn
  obtain ⟨r, ticket, hr, rfl⟩ := load_of_mem_restored hmem
  obtain ⟨hid, -, -, -, hgeneration⟩ := Chat.fields_ofRecord g.scenario r w.now ticket
  obtain ⟨x, -, rfl⟩ := List.mem_map.mp hn
  have hchat : (Chat.ofRecord g.scenario r w.now ticket).id = k := hid.trans (hplace k r hr)
  refine ⟨hgeneration, ?_⟩
  have hsome := (find?_gather _ k).2 ⟨_, hmem⟩
  rw [← hchats] at hsome
  obtain ⟨c', hc'⟩ := Option.isSome_iff_exists.mp hsome
  refine ⟨c', ?_, ?_⟩
  · show b.chat? (Chat.ofRecord g.scenario r w.now ticket).id = some c'
    rw [hchat]
    exact hc'
  · obtain ⟨r', ticket', -, rfl⟩ := load_of_chat?_start h hc'
    exact (Chat.fields_ofRecord g.scenario r' w.now ticket').2.2.2.2

/-- What waits at the start: the notes of the timers that were restored after their end, each of
them once. -/
theorem queue_start (hs : g.store.Holds w.disk)
    (hplace : ∀ k r, g.store.load k w.disk = .ok r → r.chatId = k) :
    b.queue.Nodup
      ∧ ∀ n, n ∈ b.queue ↔ ∃ k c, b.chat? k = some c ∧ n ∈ c.overdueNotes := by
  obtain ⟨keys, hkeys, -, -, -, hchats, hqueue⟩ := of_start h
  obtain ⟨keys', hkeys', hnodup, hlisted⟩ := Store.chats_of_holds hs
  rw [hkeys] at hkeys'
  obtain rfl := Except.ok.inj hkeys'
  have hnodupKeys := hnodup.sublist (keys_restored g w.disk w.now w.tickets keys)
  have hfind : ∀ k c, b.chat? k = some c ↔ (k, c) ∈ restored g w.disk w.now w.tickets keys := by
    intro k c
    rw [chat?, hchats, find?_gather_of_nodup hnodupKeys, Keyed.mem_iff_find?_of_nodup hnodupKeys]
  have hid : ∀ p ∈ restored g w.disk w.now w.tickets keys, p.2.id = p.1 := by
    rintro ⟨k, c⟩ hmem
    obtain ⟨r, ticket, hr, rfl⟩ := load_of_mem_restored hmem
    exact (Chat.fields_ofRecord g.scenario r w.now ticket).1.trans (hplace k r hr)
  rw [hqueue]
  refine ⟨List.nodup_flatMap.mpr ⟨fun p _ => p.2.nodup_overdueNotes, ?_⟩, fun n => ?_⟩
  · refine (List.pairwise_map.mp hnodupKeys).imp_of_mem fun {p q} hp hq hpq => ?_
    intro n hn hn'
    obtain ⟨slot, t, rfl, -, -⟩ := Chat.mem_overdueNotes.mp hn
    obtain ⟨slot', t', heq, -, -⟩ := Chat.mem_overdueNotes.mp hn'
    have : p.2.id = q.2.id := congrArg Elapsed.chat heq
    rw [hid p hp, hid q hq] at this
    exact hpq this
  · rw [List.mem_flatMap]
    constructor
    · rintro ⟨⟨k, c⟩, hmem, hn⟩
      exact ⟨k, c, (hfind k c).mpr hmem, hn⟩
    · rintro ⟨k, c, hc, hn⟩
      exact ⟨(k, c), (hfind k c).mp hc, hn⟩

end

end Bot
end ScriptedChat
