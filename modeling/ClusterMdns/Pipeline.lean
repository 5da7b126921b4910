import ClusterMdns.Relay
import ClusterMdns.Watcher

/-!
The whole way from news about services and ingresses to the store: one cache for each kind, one
sender for each kind, and a sender of its own for batches that come from elsewhere.
-/

namespace ClusterMdns

/-- The caches of both kinds and the relay. -/
structure Pipeline where
  settings : SyncSettings
  services : Cache Service
  ingresses : Cache Ingress
  relay : Relay

namespace Pipeline

/-- The position of the sender for objects of a kind. -/
def senderOf : Source → Nat
  | .service => 0
  | .ingress => 1

/-- The position of the sender for batches from elsewhere. -/
def otherSender : Nat := 2

/-- A pipeline in which nothing has happened. -/
def start (settings : SyncSettings) : Pipeline :=
  ⟨settings, .empty, .empty, Relay.start settings.recordTtl 3⟩

/-- The pipeline after changes of objects of one kind. -/
def deliver {α : Type} [RecordSource α] (pipeline : Pipeline) (changes : List (Change α)) :
    Pipeline :=
  { pipeline with
    relay := pipeline.relay.sendAll (senderOf (RecordSource.source α))
      (changes.flatMap (·.batches pipeline.settings)) }

/-- The changes that news about services amount to, and the pipeline after them. -/
def serviceNews (pipeline : Pipeline) (event : ObjectEvent Service) :
    List (Change Service) × Pipeline :=
  let (changes, cache) := pipeline.services.apply event
  (changes, { pipeline with services := cache }.deliver changes)

/-- The changes that news about ingresses amount to, and the pipeline after them. -/
def ingressNews (pipeline : Pipeline) (event : ObjectEvent Ingress) :
    List (Change Ingress) × Pipeline :=
  let (changes, cache) := pipeline.ingresses.apply event
  (changes, { pipeline with ingresses := cache }.deliver changes)

/-- Whether a batch from elsewhere is accepted, and the pipeline after it. -/
def send (pipeline : Pipeline) (batch : Batch) : Bool × Pipeline :=
  let relay := pipeline.relay.send otherSender batch
  (relay.lastAccepted otherSender, { pipeline with relay := relay })

/-- The pipeline after it was asked to stop. -/
def shutDown (pipeline : Pipeline) : Pipeline :=
  { pipeline with relay := pipeline.relay.shutDown }

def store (pipeline : Pipeline) : Store := pipeline.relay.store

end Pipeline

end ClusterMdns
