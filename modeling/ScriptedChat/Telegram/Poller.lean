import ScriptedChat.Telegram.Client
import ScriptedChat.Telegram.Update

/-!
# Polling

A poller asks the service for updates, one request after the other, and puts what it is
told into a channel that the bot takes it from.  Each request names the number from which
on updates are wanted, which is one more than the greatest number seen.

The channel has room for so many things.  When it is full the poller waits, in the middle
of a batch if need be.  When its other end is closed, the poller ends as soon as it has
something to put in.

After an error the poller waits five seconds and asks again.

* `Channel`: the channel.
* `Phase`, `Poller`: what a poller is doing.
* `Polling.step`: what it does next, if it need not wait.
* `Polling.run`, `Polling.wake?`: until it has to wait, and when it goes on by itself.
* `Polling.runUntil`: while the clock moves on.
-/

namespace ScriptedChat
namespace Telegram

/-- A channel with limited room. -/
structure Channel where
  capacity : Nat
  /-- What is in it, first in first out. -/
  waiting : List Inbound
  /-- Nobody takes anything out any more. -/
  closed : Bool
  deriving DecidableEq, Repr

namespace Channel

/-- An empty channel. -/
def empty (capacity : Nat) : Channel := ⟨capacity, [], false⟩

/-- There is room for one more. -/
def hasRoom (c : Channel) : Bool := decide (c.waiting.length < c.capacity)

/-- The channel with one more. -/
def put (c : Channel) (e : Inbound) : Channel := { c with waiting := c.waiting ++ [e] }

/-- The channel after its first `n` have been taken out. -/
def drop (c : Channel) (n : Nat) : Channel := { c with waiting := c.waiting.drop n }

/-- The channel after its other end has been closed, which loses what is in it. -/
def close (c : Channel) : Channel := { c with waiting := [], closed := true }

end Channel

/-- What a poller is doing. -/
inductive Phase where
  /-- It is going to ask. -/
  | asking
  /-- It has asked, and knows when the answer comes, if it does. -/
  | awaiting (answer : Option (Int × Answer))
  /-- It passes on what it was told; these updates are left. -/
  | forwarding (updates : List Json)
  /-- It waits until a moment before it asks again. -/
  | pausing (limit : Int)
  /-- It has ended. -/
  | finished
  deriving Repr

/-- A poller. -/
structure Poller where
  /-- How many seconds the service may wait for updates. -/
  timeout : Nat
  /-- The number from which on updates are wanted. -/
  offset : Int64
  phase : Phase
  deriving Repr

/-- A poller that has not asked yet. -/
def Poller.new (timeout : Nat) : Poller := ⟨timeout, 0, .asking⟩

/-- How long a poller waits after an error, in milliseconds. -/
def retryDelay : Int := 5000

/-- The number that is wanted after an update has been seen. -/
def nextOffset (offset : Int64) (update : Json) : Int64 :=
  match updateId? update with
  | some id => if offset < id + 1 then id + 1 else offset
  | none => offset

/-- Passes on updates as long as there is room. -/
def forward (timeout : Nat) : List Json → Int64 → Channel → Poller × Channel
  | [], offset, c => (⟨timeout, offset, .asking⟩, c)
  | u :: us, offset, c =>
    let offset := nextOffset offset u
    match readUpdate? u with
    | none => forward timeout us offset c
    | some e =>
      if c.closed then (⟨timeout, offset, .finished⟩, c)
      else if c.hasRoom then forward timeout us offset (c.put e)
      else (⟨timeout, offset, .forwarding (u :: us)⟩, c)

/-- The updates in an answer. -/
def answeredUpdates (client : Client) (a : Answer) : Except DeliveryError (List Json) :=
  (readAnswer "getUpdates" (client.url "getUpdates") a).bind readUpdates

/-- A poller with the channel and the connection that it uses. -/
structure Polling (ν : Type) where
  poller : Poller
  channel : Channel
  connection : Connection ν

namespace Polling

variable {ν : Type}

/-- A poller in another phase. -/
def enter (s : Polling ν) (phase : Phase) : Polling ν :=
  { s with poller := { s.poller with phase } }

/-- The moment at which a poller that waits goes on by itself. -/
def wake? (s : Polling ν) : Option Int :=
  match s.poller.phase with
  | .awaiting (some (t, _)) => some t
  | .pausing t => some t
  | _ => none

/-- The poller has ended. -/
def isFinished (s : Polling ν) : Bool :=
  match s.poller.phase with
  | .finished => true
  | _ => false

variable [Network ν]

/-- What the poller does next, if it need not wait. -/
def step (now : Int) (s : Polling ν) : Option (Polling ν) :=
  match s.poller.phase with
  | .asking =>
    let body := updatesBody s.poller.offset.toInt s.poller.timeout
    match s.connection.post "getUpdates" body with
    | (.after delay answer, connection) =>
      some ({ s with connection }.enter (.awaiting (some (now + delay, answer))))
    | (.never, connection) => some ({ s with connection }.enter (.awaiting none))
  | .awaiting (some (t, answer)) =>
    if t ≤ now then
      match answeredUpdates s.connection.client answer with
      | .ok updates => some (s.enter (.forwarding updates))
      | .error _ => some (s.enter (.pausing (now + retryDelay)))
    else none
  | .awaiting none => none
  | .forwarding updates =>
    if s.channel.hasRoom || s.channel.closed || !(updates.any fun u => (readUpdate? u).isSome) then
      let (poller, channel) := forward s.poller.timeout updates s.poller.offset s.channel
      some { s with poller, channel }
    else none
  | .pausing t => if t ≤ now then some (s.enter .asking) else none
  | .finished => none

/-- Goes on until it has to wait, with at most `fuel` steps. -/
def run (now : Int) : Nat → Polling ν → Polling ν
  | 0, s => s
  | fuel + 1, s =>
    match s.step now with
    | some t => run now fuel t
    | none => s

/-- Moves the clock to `limit`, and lets the poller go on whenever it can, with at most
`fuel` steps at a time and at most `stops` stops of the clock.  Gives the poller as it is
then. -/
def runUntil (fuel : Nat) : Nat → Int → Int → Polling ν → Polling ν
  | 0, _, limit, s => s.run limit fuel
  | stops + 1, now, limit, s =>
    let t := s.run now fuel
    match t.wake? with
    | some w => if w ≤ limit then runUntil fuel stops (max now w) limit t else t
    | none => t

end Polling

end Telegram
end ScriptedChat
