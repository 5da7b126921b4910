import ClusterMdns.Batch
import ClusterMdns.Cache
import ClusterMdns.Cluster.IngressRecords

/-!
From changes of objects to batches of records. Each change concerns the whole records of the object:
an object that took the place of an earlier state has the records of that state retracted first and
its own announced after. A watcher follows the objects of one kind and remembers for which of them it
has sent what.
-/

namespace ClusterMdns

/-- Objects that records are made from. -/
class RecordSource (α : Type) extends HasMetadata α where
  source : Source
  records : SyncSettings → α → List Record

instance : RecordSource Service where
  source := .service
  records := Service.records

instance : RecordSource Ingress where
  source := .ingress
  records := Ingress.records

/-- The batch that announces or retracts an object. -/
def Batch.ofObject {α : Type} [RecordSource α] (settings : SyncSettings) (action : Action)
    (object : α) : Batch :=
  ⟨RecordSource.source α, action, RecordSource.records settings object⟩

/-- The batches of a change, in order. -/
def Change.batches {α : Type} [RecordSource α] (settings : SyncSettings) : Change α → List Batch
  | added object => [.ofObject settings .announce object]
  | updated old new => [.ofObject settings .retract old, .ofObject settings .announce new]
  | removed object => [.ofObject settings .retract object]

/-- A batch and the key of the object that it is sent for. -/
structure Posting where
  key : String
  batch : Batch
deriving DecidableEq, Repr, Inhabited

/-- The batches of a change, each with the key of the object that the change is about. -/
def Change.postings {α : Type} [RecordSource α] (settings : SyncSettings) (change : Change α) :
    List Posting :=
  (change.batches settings).map (Posting.mk change.key)

/-- What is known of the objects of one kind and what was sent about them. -/
structure Watch (α : Type) where
  cache : Cache α
  /-- All that was sent, in order. -/
  sent : List Posting

namespace Watch

variable {α : Type} [RecordSource α]

/-- The watch that knows of nothing. -/
def start : Watch α := ⟨.empty, []⟩

/-- What is sent on news, and the watch after them. -/
def hear (settings : SyncSettings) (watch : Watch α) (event : ObjectEvent α) :
    List Posting × Watch α :=
  let (changes, cache) := watch.cache.apply event
  let postings := changes.flatMap (·.postings settings)
  (postings, ⟨cache, watch.sent ++ postings⟩)

/-- The records of the object known under a key. -/
def recordsOf (settings : SyncSettings) (watch : Watch α) (key : String) : Option (List Record) :=
  (watch.cache.objects.get? key).map (RecordSource.records settings)

/-- What a watch that knows of nothing sends on a listing of the objects known. -/
def afresh (settings : SyncSettings) (watch : Watch α) : List Posting :=
  (start.hear settings (.listing (watch.cache.objects.entries.map Prod.snd))).1

end Watch

inductive News where
  | services (event : ObjectEvent Service)
  | ingresses (event : ObjectEvent Ingress)

inductive Watcher where
  | services (watch : Watch Service)
  | ingresses (watch : Watch Ingress)

namespace Watcher

/-- A watcher of a source that knows of nothing. -/
def start : Source → Watcher
  | .service => services .start
  | .ingress => ingresses .start

/-- What is sent on news, and the watcher after them; none for news about the other kind. -/
def hear? (settings : SyncSettings) : Watcher → News → Option (List Posting × Watcher)
  | services watch, .services event =>
    let (postings, next) := watch.hear settings event
    some (postings, services next)
  | ingresses watch, .ingresses event =>
    let (postings, next) := watch.hear settings event
    some (postings, ingresses next)
  | _, _ => none

/-- All that was sent, in order. -/
def sent : Watcher → List Posting
  | services watch => watch.sent
  | ingresses watch => watch.sent

/-- The records of the object known under a key. -/
def recordsOf (settings : SyncSettings) (key : String) : Watcher → Option (List Record)
  | services watch => watch.recordsOf settings key
  | ingresses watch => watch.recordsOf settings key

/-- What a watcher that knows of nothing sends on a listing of the objects known. -/
def afresh (settings : SyncSettings) : Watcher → List Posting
  | services watch => watch.afresh settings
  | ingresses watch => watch.afresh settings

end Watcher

end ClusterMdns
