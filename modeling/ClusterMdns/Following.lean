import ClusterMdns.Relay
import ClusterMdns.Watch.Session

/-!
Following the objects of one kind from the replies of the server to the relay: what the replies
bring goes to an informer, and the changes that it delivers become batches.
-/

namespace ClusterMdns

namespace InformerStep

variable {α : Type}

def batches [RecordSource α] (settings : SyncSettings) : InformerStep α → List Batch
  | delivered change => change.batches settings
  | _ => []

def measurements (source : Source) : InformerStep α → List Measurement
  | delivered change => [.noticed source change.kind]
  | failed => [.noticed source "error"]
  | _ => []

/-- Whether a step tells that the first listing is delivered. -/
def isSynced : InformerStep α → Bool
  | synced => true
  | _ => false

def isFailed : InformerStep α → Bool
  | failed => true
  | _ => false

end InformerStep

/-- A session and the informer that it feeds. -/
structure Following (α : Type) where
  session : Session α
  informer : Informer α

namespace Following

variable {α : Type} [ServedObject α]

/-- Starts to follow. Whoever is cancelled from the start asks for nothing. -/
def start (cancelled : Bool) : Following α :=
  ⟨if cancelled then .silent else .listing [], Informer.start [] cancelled⟩

/-- The steps that a reply leads to, and the state after them. -/
def receive (following : Following α) (reply : Reply) : List (InformerStep α) × Following α :=
  let (arrivals, session) := following.session.receive reply
  let informer := following.informer
  let (steps, informer) := { informer with incoming := informer.incoming ++ arrivals }.run
  (steps, ⟨session, informer⟩)

/-- The steps that replies lead to, and the replies that were never asked for. -/
def receiveAll (following : Following α) : List Reply → List (InformerStep α) × List Reply
  | [] => ([], [])
  | reply :: rest =>
    if following.session.isSilent then ([], reply :: rest)
    else
      let (steps, next) := following.receive reply
      let (later, unused) := next.receiveAll rest
      (steps ++ later, unused)

end Following

/-! ### Waiting for the first listing -/

/-- The first pause after a failure, in milliseconds. Each pause is twice the one before it. -/
def firstPause : Nat := 800

def longestPause : Nat := 30000

/-- The milliseconds that so many pauses take, given the first of them. A pause is the average of
what it may come to. -/
def pausing (pause : Nat) : Nat → Nat
  | 0 => 0
  | count + 1 => min pause longestPause + pausing (2 * pause) count

/-- How often something fails in steps. -/
def failures {α : Type} (steps : List (InformerStep α)) : Nat := steps.countP InformerStep.isFailed

/-- Whether whoever waits for the first listing is told in time. Nothing but the pauses after
failures takes time, but without any time nothing is awaited. -/
def syncedInTime {α : Type} (settings : SyncSettings) (steps : List (InformerStep α)) : Bool :=
  let before := steps.takeWhile fun step => !step.isSynced
  decide (before.length < steps.length)
    && decide (pausing firstPause (failures before) < 1000 * settings.syncTimeout.toNat)

end ClusterMdns
