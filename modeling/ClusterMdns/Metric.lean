import ClusterMdns.Record.Mnemonic
import ClusterMdns.Settings

/-!
Measurements: what is counted, where, and the totals of a run.
-/

namespace ClusterMdns

/-- How a measurement adds up. -/
inductive MetricKind where
  | counter
  | gauge
  | histogram
deriving DecidableEq, Repr

/-- The measurements of the program. -/
inductive Metric where
  | notifications | cacheSynced | events | eventRecords | publisherCalls | publisherDuration
  | storeRecords | storeNames | queries | queryDuration
deriving DecidableEq, Repr

namespace Metric

def all : List Metric :=
  [notifications, cacheSynced, events, eventRecords, publisherCalls, publisherDuration,
    storeRecords, storeNames, queries, queryDuration]

def name : Metric → String
  | notifications => "external_mdns.notification.count"
  | cacheSynced => "external_mdns.cache.synced"
  | events => "external_mdns.event.count"
  | eventRecords => "external_mdns.event.records"
  | publisherCalls => "external_mdns.publisher.call.count"
  | publisherDuration => "external_mdns.publisher.call.duration.seconds"
  | storeRecords => "external_mdns.store.records.count"
  | storeNames => "external_mdns.store.names.count"
  | queries => "external_mdns.query.count"
  | queryDuration => "external_mdns.query.duration.seconds"

def kind : Metric → MetricKind
  | notifications | events | publisherCalls | queries => .counter
  | cacheSynced | storeRecords | storeNames => .gauge
  | eventRecords | publisherDuration | queryDuration => .histogram

def unit? : Metric → Option String
  | publisherDuration | queryDuration => some "seconds"
  | _ => none

def description : Metric → String
  | notifications => "Informer notifications by source and kind"
  | cacheSynced => "Whether the informer cache synced within the timeout"
  | events => "Events handed to the dispatcher"
  | eventRecords => "Records carried per event"
  | publisherCalls => "Publish and unpublish calls by record type"
  | publisherDuration => "Publisher call latency"
  | storeRecords => "Records currently published"
  | storeNames => "Owner names currently published"
  | queries => "Responder queries by type and result"
  | queryDuration => "Responder query latency"

end Metric

/-- One value measured, with its labels in the order of their names. A duration has no value that
counts. -/
structure Measurement where
  metric : Metric
  labels : List (String × String)
  /-- The value; none for a duration. -/
  value : Option Nat
deriving DecidableEq, Repr

/-- The total of a measurement under one set of labels. -/
structure MetricTotal where
  metric : Metric
  labels : List (String × String)
  count : Nat
  sum : Nat
  last : Nat
deriving DecidableEq, Repr

namespace MetricTotal

/-- Whether a total is that of a measurement and its labels. -/
def belongs (total : MetricTotal) (measurement : Measurement) : Bool :=
  total.metric == measurement.metric && total.labels == measurement.labels

/-- A total with one more value. -/
def added (total : MetricTotal) (measurement : Measurement) : MetricTotal :=
  let value := measurement.value.getD 0
  { total with count := total.count + 1, sum := total.sum + value, last := value }

def record (totals : List MetricTotal) (measurement : Measurement) : List MetricTotal :=
  if totals.any (·.belongs measurement) then
    totals.map fun total => if total.belongs measurement then total.added measurement else total
  else
    totals ++ [(⟨measurement.metric, measurement.labels, 0, 0, 0⟩ : MetricTotal).added measurement]

def all (measurements : List Measurement) : List MetricTotal := measurements.foldl record []

end MetricTotal

namespace Measurement

/-- A change of an object was noticed. -/
def noticed (source : Source) (kind : String) : Measurement :=
  ⟨.notifications, [("kind", kind), ("source", source.name)], some 1⟩

/-- The first listing of a source arrived in time or not. -/
def synced (source : Source) (inTime : Bool) : Measurement :=
  ⟨.cacheSynced, [("source", source.name)], some (if inTime then 1 else 0)⟩

/-- A batch of records was dispatched. -/
def dispatched (source : Source) (action : String) (records : Nat) : List Measurement :=
  [⟨.events, [("action", action), ("source", source.name)], some 1⟩,
    ⟨.eventRecords, [("source", source.name)], some records⟩]

/-- A record was published or retracted. -/
def published (operation : String) (recordType : RecordType) : List Measurement :=
  [⟨.publisherCalls, [("op", operation), ("type", recordType.mnemonic)], some 1⟩,
    ⟨.publisherDuration, [("op", operation)], none⟩]

/-- The size of the store was reported. -/
def storeSize (records names : Nat) : List Measurement :=
  [⟨.storeRecords, [], some records⟩, ⟨.storeNames, [], some names⟩]

/-- A query was looked up. -/
def queried (recordType : RecordType) (result : String) : List Measurement :=
  [⟨.queries, [("result", result), ("type", recordType.mnemonic)], some 1⟩,
    ⟨.queryDuration, [("type", recordType.mnemonic)], none⟩]

end Measurement

end ClusterMdns
