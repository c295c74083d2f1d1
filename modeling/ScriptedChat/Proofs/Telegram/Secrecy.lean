import ScriptedChat.Proofs.Text.Cut
import ScriptedChat.Telegram.Script

/-!
# The token does not show

The token of a bot is part of every address that is posted to, and an error of the network
knows the address it was about.  What is told about an error must not tell the address.

That nothing tells the token is a statement about two runs.  Let two clients differ in their
tokens, and let the network answer both of them alike: it may fail with an error that names
the address, and this is all in which the answers may differ.  Then whatever the clients are
asked to do, one call after the other, both come to the same results, down to the text of every
error, and both post the same bodies by the same methods.

## What is assumed of the network

`Alike` says that the answers to two clients are the same but for the addresses, as long as both
call the same methods with the same bodies.  A network that is alike for any two clients does not
heed the token (`IsBlind`).  Every network by script is of that kind (`Script.isBlind`): it goes
by the last part of the address, and the token stands before that.

* `Alike`, `Alike.head`, `Alike.tail`: networks that answer two clients alike.
* `Call`, `Outcome`, `Connection.perform`: what a client is asked to do, and what comes of it.
* `Parallel`, `Parallel.perform`, `Parallel.performAll`: two runs, call by call and as a whole.
* `token_unseen`: the result, and `token_unseen_of_unsteady`: an instance of it.
-/

namespace ScriptedChat
namespace Telegram

/-! ## Networks that do not heed the token -/

/-- The answer without the address that an error knows. -/
def Answer.withoutUrl : Answer → Answer
  | .body text => .body text
  | .failed e => .failed e.withoutUrl

/-- The reply without the address that an error knows. -/
def Reply.withoutUrl : Reply → Reply
  | .after delay answer => .after delay answer.withoutUrl
  | .never => .never

section

variable {ν : Type} [Network ν]

/-- What comes back for some posts, one after the other. -/
def replies : List HttpPost → ν → List Reply
  | [], _ => []
  | p :: ps, n => (Network.exchange p n).1 :: replies ps (Network.exchange p n).2

/-- Two clients are answered alike, each by its own network, whatever methods they call: the
replies differ in nothing but addresses. -/
def Alike (c c' : Client) (n n' : ν) : Prop :=
  ∀ calls : List (String × Json),
    (replies (calls.map fun m => c.post m.1 m.2) n).map Reply.withoutUrl
      = (replies (calls.map fun m => c'.post m.1 m.2) n').map Reply.withoutUrl

/-- A network that answers all clients alike. -/
def IsBlind (n : ν) : Prop := ∀ c c' : Client, Alike c c' n n

variable {c c' : Client} {n n' : ν}

theorem Alike.head (h : Alike c c' n n') (method : String) (body : Json) :
    (Network.exchange (c.post method body) n).1.withoutUrl
      = (Network.exchange (c'.post method body) n').1.withoutUrl :=
  List.head_eq_of_cons_eq (h [(method, body)])

theorem Alike.tail (h : Alike c c' n n') (method : String) (body : Json) :
    Alike c c' (Network.exchange (c.post method body) n).2
      (Network.exchange (c'.post method body) n').2 :=
  fun calls => List.tail_eq_of_cons_eq (h ((method, body) :: calls))

end

/-! ### Networks by script -/

/-- A post calls the method at the end of its address, whatever the token is. -/
theorem Script.methodOf_post (c : Client) (method : String) (body : Json) :
    Script.methodOf (c.post method body)
      = String.ofList (((Text.pieces ['/'] method.toList).getLast?).getD []) := by
  have haddress : (c.post method body).url.toList
      = (baseUrl ++ c.token).toList ++ '/' :: method.toList := by
    simp only [Client.post, Client.url, String.toList_append, List.append_assoc]
    rfl
  rw [Script.methodOf, haddress, Text.pieces_singleton, Text.pieces_singleton,
    List.splitOn_append_cons_self,
    List.getLast?_append_of_ne_nil _ (List.splitOn_ne_nil '/' method.toList)]

theorem ScriptedReply.toReply_withoutUrl (url url' : String) (r : ScriptedReply) :
    (r.toReply url).withoutUrl = (r.toReply url').withoutUrl := by
  cases r <;> rfl

/-- A script goes on alike after the same method, and its replies differ in the address only. -/
theorem Script.exchange_post (c c' : Client) (method : String) (body : Json) (s : Script) :
    (Network.exchange (c.post method body) s).1.withoutUrl
        = (Network.exchange (c'.post method body) s).1.withoutUrl
      ∧ (Network.exchange (c.post method body) s).2
        = (Network.exchange (c'.post method body) s).2 := by
  have hmethod : Script.methodOf (c'.post method body) = Script.methodOf (c.post method body) := by
    rw [Script.methodOf_post, Script.methodOf_post]
  simp only [Network.exchange, hmethod]
  cases s.left (Script.methodOf (c.post method body)) with
  | nil => exact ⟨rfl, rfl⟩
  | cons r rs => exact ⟨r.toReply_withoutUrl _ _, rfl⟩

/-- No script heeds the token. -/
theorem Script.isBlind (s : Script) : IsBlind s := by
  intro c c' calls
  induction calls generalizing s with
  | nil => rfl
  | cons m calls ih =>
    obtain ⟨hreply, hnext⟩ := Script.exchange_post c c' m.1 m.2 s
    simp only [List.map_cons, replies, hreply, hnext]
    rw [ih]

/-! ## Calls -/

/-- What a client can be asked to do. -/
inductive Call where
  /-- To tell the name of the bot. -/
  | getMe
  /-- To tell the updates from an offset on. -/
  | getUpdates (offset : Int) (timeout : Nat)
  /-- To send a message, to make a menu known, or to answer the press of a button. -/
  | request (r : Request)

/-- What comes of it. -/
inductive Outcome where
  | name (result : Except DeliveryError String)
  | updates (result : Except DeliveryError (List Json))
  | done (result : Except DeliveryError Unit)

namespace Connection

variable {ν : Type} [Network ν]

/-- Does what a client is asked to. -/
def perform : Call → Connection ν → Outcome × Connection ν
  | .getMe, d => (.name d.getMe.1, d.getMe.2)
  | .getUpdates offset timeout, d =>
    (.updates (d.getUpdates offset timeout).1, (d.getUpdates offset timeout).2)
  | .request r, d => (.done (Transport.post r d).1, (Transport.post r d).2)

/-- Does one thing after the other. -/
def performAll : List Call → Connection ν → List Outcome × Connection ν
  | [], d => ([], d)
  | call :: calls, d =>
    let (outcome, e) := d.perform call
    let (outcomes, f) := e.performAll calls
    (outcome :: outcomes, f)

end Connection

/-! ## Two runs -/

/-- An answer is read as the same result, whatever address the network was asked at. -/
theorem readAnswer_congr {a a' : Answer} (h : a.withoutUrl = a'.withoutUrl)
    (method url url' : String) : readAnswer method url a = readAnswer method url' a' := by
  cases a with
  | body text =>
    cases a' with
    | body text' =>
      cases h
      rfl
    | failed e => cases h
  | failed e =>
    cases a' with
    | body text => cases h
    | failed e' =>
      have herror : e.withoutUrl = e'.withoutUrl := Answer.failed.inj h
      rw [readAnswer, readAnswer, herror]

section

variable {ν : Type} [Network ν] {c c' : Client}

/-- Two connections, of one client and of the other: they will be answered alike, and have posted
the same bodies by the same methods. -/
structure Parallel (c c' : Client) (d d' : Connection ν) : Prop where
  client : d.client = c
  client' : d'.client = c'
  alike : Alike c c' d.network d'.network
  posts : ∃ sent : List (String × Json),
    d.posts = sent.map (fun m => c.post m.1 m.2) ∧ d'.posts = sent.map fun m => c'.post m.1 m.2

namespace Parallel

variable {d d' : Connection ν}

theorem start {n : ν} (h : Alike c c' n n) : Parallel c c' ⟨c, n, []⟩ ⟨c', n, []⟩ :=
  ⟨rfl, rfl, h, [], rfl, rfl⟩

/-- One post more. -/
theorem post (h : Parallel c c' d d') (method : String) (body : Json) :
    (d.post method body).1.withoutUrl = (d'.post method body).1.withoutUrl
      ∧ Parallel c c' (d.post method body).2 (d'.post method body).2 := by
  obtain ⟨rfl, rfl, halike, sent, hsent, hsent'⟩ := h
  refine ⟨halike.head method body, rfl, rfl, halike.tail method body, sent ++ [(method, body)],
    ?_, ?_⟩
  · simp only [Connection.post, hsent, List.map_append, List.map_cons, List.map_nil]
  · simp only [Connection.post, hsent', List.map_append, List.map_cons, List.map_nil]

/-- One method called: the address is not in what comes of it. -/
theorem call (h : Parallel c c' d d') (method : String) (body : Json) :
    (d.call method body).1 = (d'.call method body).1
      ∧ Parallel c c' (d.call method body).2 (d'.call method body).2 := by
  obtain ⟨hreply, hnext⟩ := h.post method body
  rw [Connection.call, Connection.call]
  generalize d.post method body = p at hreply hnext ⊢
  generalize d'.post method body = p' at hreply hnext ⊢
  obtain ⟨reply, e⟩ := p
  obtain ⟨reply', e'⟩ := p'
  cases reply with
  | after delay answer =>
    cases reply' with
    | after delay' answer' => exact ⟨readAnswer_congr (Reply.after.inj hreply).2 _ _ _, hnext⟩
    | never => cases hreply
  | never =>
    cases reply' with
    | after delay' answer' => cases hreply
    | never => exact ⟨rfl, hnext⟩

theorem methodAndBody (h : Parallel c c' d d') (hmode : c.parseMode = c'.parseMode)
    (r : Request) :
    Connection.methodAndBody d'.client r = Connection.methodAndBody d.client r := by
  cases r with
  | message chat text buttons =>
    simp only [Connection.methodAndBody, h.client, h.client', hmode]
  | commands menu => rfl
  | answer press => rfl

/-- **One thing done**: the same comes of it in both runs. -/
theorem perform (h : Parallel c c' d d') (hmode : c.parseMode = c'.parseMode) (call : Call) :
    (d.perform call).1 = (d'.perform call).1
      ∧ Parallel c c' (d.perform call).2 (d'.perform call).2 := by
  cases call with
  | getMe =>
    obtain ⟨hresult, hnext⟩ := h.call "getMe" (.object [])
    exact ⟨congrArg (fun r : Except _ Json => Outcome.name (r.bind readUserName)) hresult, hnext⟩
  | getUpdates offset timeout =>
    obtain ⟨hresult, hnext⟩ := h.call "getUpdates" (updatesBody offset timeout)
    exact ⟨congrArg (fun r : Except _ Json => Outcome.updates (r.bind readUpdates)) hresult, hnext⟩
  | request r =>
    simp only [Connection.perform, Transport.post, h.methodAndBody hmode r]
    obtain ⟨hresult, hnext⟩ := h.call (Connection.methodAndBody d.client r).1
      (Connection.methodAndBody d.client r).2
    exact ⟨congrArg (fun r : Except _ Json => Outcome.done (r.map fun _ => ())) hresult, hnext⟩

/-- One thing done after the other. -/
theorem performAll (h : Parallel c c' d d') (hmode : c.parseMode = c'.parseMode)
    (calls : List Call) :
    (d.performAll calls).1 = (d'.performAll calls).1
      ∧ Parallel c c' (d.performAll calls).2 (d'.performAll calls).2 := by
  induction calls generalizing d d' with
  | nil => exact ⟨rfl, h⟩
  | cons call calls ih =>
    obtain ⟨hfirst, hnext⟩ := h.perform hmode call
    obtain ⟨hrest, hlast⟩ := ih hnext
    exact ⟨congrArg₂ List.cons hfirst hrest, hlast⟩

end Parallel

/-! ## The result -/

theorem ofToken_of_not_blank {token : String} (h : Text.trim token.toList ≠ []) :
    Client.ofToken token = .ok ⟨String.ofList (Text.trim token.toList), some "Markdown"⟩ := by
  dsimp only [Client.ofToken]
  rw [if_neg (mt List.isEmpty_iff.mp h)]

/-- **Nothing tells the token.**  There is a client for every token that is not blank.  Two of
them that mark messages up in the same way, over a network that does not heed the token, come to
the same results whatever they are asked to do, one call after the other, the errors with all
that they say included; and what they post are the same bodies by the same methods, each to its
own address. -/
theorem token_unseen {n : ν} (hblind : IsBlind n) {token token' : String}
    (h : Text.trim token.toList ≠ []) (h' : Text.trim token'.toList ≠ [])
    (mode : Option String) (calls : List Call) :
    ∃ c c', Client.ofToken token = .ok c ∧ Client.ofToken token' = .ok c'
      ∧ let run := Connection.performAll calls ⟨{ c with parseMode := mode }, n, []⟩
        let run' := Connection.performAll calls ⟨{ c' with parseMode := mode }, n, []⟩
        run.1 = run'.1
          ∧ ∃ sent : List (String × Json),
            run.2.posts = sent.map (fun m => c.post m.1 m.2)
              ∧ run'.2.posts = sent.map fun m => c'.post m.1 m.2 := by
  refine ⟨_, _, ofToken_of_not_blank h, ofToken_of_not_blank h', ?_⟩
  have hstart := Parallel.start
    (hblind ⟨String.ofList (Text.trim token.toList), mode⟩
      ⟨String.ofList (Text.trim token'.toList), mode⟩)
  obtain ⟨hresults, hlast⟩ := hstart.performAll rfl calls
  exact ⟨hresults, hlast.posts⟩

end

/-- What is said of a failure, if it is one. -/
def Outcome.complaint? : Outcome → Option String
  | .name (.error e) => some e.message
  | .updates (.error e) => some e.message
  | .done (.error e) => some e.message
  | _ => none

/-- A network that fails, answers something that is no JSON, gives an odd result, refuses, and
succeeds. -/
def unsteady : Script :=
  ⟨[ ("getMe", [.failure 10 "connection refused", .body 0 "<html>"])
   , ("getUpdates", [.body 0 "\x7b\"ok\":true,\"result\":7\x7d"])
   , ( "sendMessage"
     , [.body 5 "\x7b\"ok\":false,\"error_code\":403,\"description\":\"blocked\"\x7d"] ) ]⟩

/-- Some calls, each of which comes to something else. -/
def unsteadyCalls : List Call :=
  [ .getMe, .getMe, .getUpdates 0 30, .request (.message "42" "Hello" none)
  , .request (.answer "press"), .request (.commands []) ]

/-- Every kind of failure, and what is said of it: the address is nowhere, and the results are
the same with another token. -/
theorem token_unseen_of_unsteady :
    Text.trim "1:AA".toList ≠ [] ∧ Text.trim " 2:BB\n".toList ≠ []
      ∧ (∃ c c', Client.ofToken "1:AA" = .ok c ∧ Client.ofToken " 2:BB\n" = .ok c'
        ∧ let run :=
            Connection.performAll unsteadyCalls ⟨{ c with parseMode := some "HTML" }, unsteady, []⟩
          let run' :=
            Connection.performAll unsteadyCalls ⟨{ c' with parseMode := some "HTML" }, unsteady, []⟩
          run.1 = run'.1
            ∧ ∃ sent : List (String × Json),
              run.2.posts = sent.map (fun m => c.post m.1 m.2)
                ∧ run'.2.posts = sent.map fun m => c'.post m.1 m.2)
      ∧ (Connection.performAll unsteadyCalls
          ⟨⟨"1:AA", some "HTML"⟩, unsteady, []⟩).1.map Outcome.complaint?
        = [ some "request to `getMe` failed: connection refused"
          , some "invalid response from `getMe`: error decoding response body"
          , some "invalid response from `getUpdates`: expected an array, got 7"
          , some "`sendMessage` returned API error (code 403): blocked"
          , none, none ] := by
  have hfirst : Text.trim "1:AA".toList ≠ [] := by decide
  have hsecond : Text.trim " 2:BB\n".toList ≠ [] := by decide
  exact ⟨hfirst, hsecond,
    token_unseen (Script.isBlind unsteady) hfirst hsecond (some "HTML") unsteadyCalls,
    by decide +kernel⟩

end Telegram
end ScriptedChat
