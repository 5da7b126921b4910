import ClusterMdns.Relay
import ClusterMdns.Watcher

/-!
Any number of watchers of either kind and the one relay to the store. Each watcher has a sender of its
own, and takes news only once everything that it sent on earlier news was taken or refused.

Watchers, senders, the dispatcher and whoever cancels move in any order: `Fleet.move?` says which
moves are possible and to what effect, `Fleet.perform` makes any moves one after another.
-/

namespace ClusterMdns

/-- Watchers and the relay. The sender of a watcher has the position of the watcher. -/
structure Fleet where
  settings : SyncSettings
  watchers : List Watcher
  relay : Relay

/-- What may happen to a fleet. -/
inductive FleetMove where
  | hear (watcher : Nat) (news : News)
  | relay (move : RelayMove)

namespace Fleet

/-- A fleet in which nothing has happened, with a watcher for each of some sources. -/
def start (settings : SyncSettings) (ttl : UInt32) (sources : List Source) : Fleet :=
  ⟨settings, sources.map .start, Relay.start ttl sources.length⟩

/-- The fleet after a watcher has heard news; none where it cannot. -/
def hear? (fleet : Fleet) (position : Nat) (news : News) : Option Fleet := do
  let watcher ← fleet.watchers[position]?
  let sender ← fleet.relay.senders[position]?
  if sender.stage = .idle ∧ sender.plan = [] then
    let (postings, next) ← watcher.hear? fleet.settings news
    some { fleet with
      watchers := fleet.watchers.set position next
      relay := fleet.relay.planned position (postings.map Posting.batch) }
  else none

/-- The fleet after a move; none where the move is not possible. -/
def move? (fleet : Fleet) : FleetMove → Option Fleet
  | .hear position news => fleet.hear? position news
  | .relay move => (fleet.relay.move? move).map fun relay => { fleet with relay := relay }

/-- The fleet after moves, of which those that are not possible are skipped. -/
def perform (fleet : Fleet) (moves : List FleetMove) : Fleet :=
  moves.foldl (fun fleet move => (fleet.move? move).getD fleet) fleet

/-- The moves of the sends of some batches of a watcher, one after another and undisturbed. -/
def sendSchedule (position : Nat) (batches : List Batch) : List FleetMove :=
  batches.flatMap fun batch => (Relay.sendSchedule position batch).map .relay

def store (fleet : Fleet) : Store := fleet.relay.store

end Fleet

end ClusterMdns
