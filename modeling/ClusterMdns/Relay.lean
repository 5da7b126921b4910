import ClusterMdns.Batch

/-!
The relay between those who make batches and the one dispatcher that turns them into calls. There is
one slot for a batch. A sender that offers a batch waits until the dispatcher has taken it; the
dispatcher makes all calls of a batch before it takes the next. Before it listens for a batch the
dispatcher looks whether it was asked to stop. If that happens only after it has looked, it may take
one more batch. Once the dispatcher has stopped, a batch that is still in the slot is dropped and
every send is refused.

A relay is changed by moves, each of which is possible only in some states; `Relay.move?` says in
which and to what effect. `Relay.send` is the schedule of a send that nobody interferes with.
-/

namespace ClusterMdns

/-- Where a sender is with its current batch. -/
inductive SendStage where
  | idle
  | offering (batch : Batch)
  | waiting (batch : Batch)
  /-- Its batch was taken or refused, which it has yet to notice. -/
  | settled (batch : Batch) (accepted : Bool)
  | gone
deriving DecidableEq, Repr

structure Sender where
  /-- The batches that it still has to send, in order. -/
  plan : List Batch
  stage : SendStage
  outcomes : List (Batch × Bool)
deriving DecidableEq, Repr

/-- What the dispatcher does. -/
inductive DispatcherStage where
  | ready
  | listening
  /-- It still has calls of a batch to make. -/
  | calling (calls : List Call)
  | stopped
deriving DecidableEq, Repr

/-- Senders, slot and dispatcher. -/
structure Relay where
  ttl : UInt32
  senders : List Sender
  slot : Option (Nat × Batch)
  dispatcher : DispatcherStage
  cancelled : Bool
  /-- The batches taken so far with the positions of their senders, in order. -/
  taken : List (Nat × Batch)
  calls : List Call
deriving DecidableEq, Repr

/-- What may happen to a relay. Senders are given by their positions. -/
inductive RelayMove where
  | begin (sender : Nat)
  | offer (sender : Nat)
  | refuse (sender : Nat)
  | notice (sender : Nat)
  /-- A sender that has nothing left to send goes. -/
  | leave (sender : Nat)
  | look
  | take
  | call
  | finish
  | stop
  | cancel
deriving DecidableEq, Repr

namespace Relay

/-- A relay in which nothing has happened, with what each sender has to send. -/
def planning (ttl : UInt32) (plans : List (List Batch)) : Relay :=
  ⟨ttl, plans.map fun plan => ⟨plan, .idle, []⟩, none, .ready, false, [], []⟩

/-- A relay in which nothing has happened, with a number of senders that have nothing to send. -/
def start (ttl : UInt32) (senders : Nat) : Relay := planning ttl (List.replicate senders [])

/-- The relay with a sender at a new stage. -/
def atStage (relay : Relay) (sender : Nat) (stage : SendStage) : Relay :=
  { relay with senders := relay.senders.modify sender fun s => { s with stage := stage } }

/-- Whether there is nothing to take and nobody to wait for. -/
def isDeserted (relay : Relay) : Bool :=
  relay.slot.isNone && relay.senders.all fun sender => sender.stage = .gone

/-- Whether the dispatcher may stop: it was asked to, or it listens and hears that all are gone. -/
def mayStop (relay : Relay) : Bool :=
  match relay.dispatcher with
  | .ready => relay.cancelled
  | .listening => relay.cancelled || relay.isDeserted
  | _ => false

/-- A sender's move; none where it is not possible. -/
def senderMove? (relay : Relay) (position : Nat) (sender : Sender) : RelayMove → Option Relay
  | .begin _ =>
    match sender.stage, sender.plan with
    | .idle, batch :: rest =>
      let offering := { sender with plan := rest, stage := .offering batch }
      some { relay with senders := relay.senders.set position offering }
    | _, _ => none
  | .offer _ =>
    match sender.stage with
    | .offering batch =>
      if relay.slot.isNone && relay.dispatcher != .stopped then
        some { relay.atStage position (.waiting batch) with slot := some (position, batch) }
      else none
    | _ => none
  | .refuse _ =>
    match sender.stage with
    | .offering batch =>
      if relay.dispatcher = .stopped then some (relay.atStage position (.settled batch false))
      else none
    | _ => none
  | .notice _ =>
    match sender.stage with
    | .settled batch accepted =>
      some { relay with
        senders := relay.senders.set position
          { sender with stage := .idle, outcomes := sender.outcomes ++ [(batch, accepted)] } }
    | _ => none
  | .leave _ =>
    if sender.stage = .idle ∧ sender.plan = [] then some (relay.atStage position .gone) else none
  | _ => none

/-- A move of the dispatcher or of whoever may cancel; none where it is not possible. -/
def ownMove? (relay : Relay) : RelayMove → Option Relay
  | .look =>
    if relay.dispatcher = .ready ∧ relay.cancelled = false then
      some { relay with dispatcher := .listening }
    else none
  | .take =>
    match relay.dispatcher, relay.slot with
    | .listening, some (position, batch) =>
      some { relay.atStage position (.settled batch true) with
        slot := none
        dispatcher := .calling (batch.calls relay.ttl)
        taken := relay.taken ++ [(position, batch)] }
    | _, _ => none
  | .call =>
    match relay.dispatcher with
    | .calling (call :: rest) =>
      some { relay with dispatcher := .calling rest, calls := relay.calls ++ [call] }
    | _ => none
  | .finish =>
    if relay.dispatcher = .calling [] then some { relay with dispatcher := .ready } else none
  | .stop =>
    if relay.mayStop then
      match relay.slot with
      | none => some { relay with dispatcher := .stopped }
      | some (position, batch) =>
        some { relay.atStage position (.settled batch false) with
          slot := none, dispatcher := .stopped }
    else none
  | .cancel => some { relay with cancelled := true }
  | _ => none

/-- The position of the sender that moves, if a sender moves. -/
def mover? : RelayMove → Option Nat
  | .begin sender | .offer sender | .refuse sender | .notice sender | .leave sender => some sender
  | _ => none

/-- The relay after a move; none where the move is not possible. -/
def move? (relay : Relay) (move : RelayMove) : Option Relay :=
  match mover? move with
  | none => relay.ownMove? move
  | some position => do relay.senderMove? position (← relay.senders[position]?) move

/-- The relay after moves, of which those that are not possible are skipped. -/
def perform (relay : Relay) (moves : List RelayMove) : Relay :=
  moves.foldl (fun relay move => (relay.move? move).getD relay) relay

def sendSchedule (position : Nat) (batch : Batch) : List RelayMove :=
  [.begin position, .offer position, .refuse position, .look, .take]
    ++ batch.records.map (fun _ => .call)
    ++ [.finish, .notice position]

/-- The relay with more batches to be sent by a sender. -/
def planned (relay : Relay) (position : Nat) (batches : List Batch) : Relay :=
  let longer := fun sender => { sender with plan := sender.plan ++ batches }
  { relay with senders := relay.senders.modify position longer }

/-- The relay after a sender has sent a batch and all calls that follow from it are made. -/
def send (relay : Relay) (position : Nat) (batch : Batch) : Relay :=
  (relay.planned position [batch]).perform (sendSchedule position batch)

/-- The relay after a sender has sent batches one after another. -/
def sendAll (relay : Relay) (position : Nat) (batches : List Batch) : Relay :=
  batches.foldl (fun relay batch => relay.send position batch) relay

/-- Whether the last batch of a sender was accepted. -/
def lastAccepted (relay : Relay) (position : Nat) : Bool :=
  ((relay.senders[position]?.bind fun sender => sender.outcomes.getLast?).map Prod.snd).getD false

/-- The relay after the dispatcher was asked to stop and did. -/
def shutDown (relay : Relay) : Relay := relay.perform [.cancel, .stop]

def store (relay : Relay) : Store := Store.empty.run relay.calls

/-- What is measured of the batches taken and the calls made so far. -/
def measurements (relay : Relay) : List Measurement :=
  relay.taken.flatMap (fun entry => entry.2.measurements) ++ relay.calls.flatMap Call.measurements

end Relay

end ClusterMdns
