import ClusterMdns.Log.Publishing
import ClusterMdns.Record.Host

/-!
Test mode: without a cluster, one fixed host is published. The way back from its address is
retracted although it never was published.
-/

namespace ClusterMdns.TestMode

def hostname : String := "router.local."

def address : IpAddress := .v4 ⟨192, 168, 1, 254⟩

/-- The batches of test mode: the host is announced, the way back is retracted. -/
def batches : List Batch :=
  let records := hostRecords hostname address true
  [⟨.service, .announce, records.take 1⟩, ⟨.service, .retract, records.drop 1⟩]

def calls (ttl : UInt32) : List Call := batches.flatMap (·.calls ttl)

def store (ttl : UInt32) : Store := Store.empty.run (calls ttl)

/-- What is logged of the batches. -/
def lines (ttl : UInt32) : List Log.Line := Store.empty.batchLines ttl batches

/-- What is measured: batches, calls and the size of the store once all are made. -/
def measurements (ttl : UInt32) : List Measurement :=
  let published := store ttl
  batches.flatMap Batch.measurements ++ (calls ttl).flatMap Call.measurements
    ++ Measurement.storeSize published.recordsCount published.namesCount

end ClusterMdns.TestMode
