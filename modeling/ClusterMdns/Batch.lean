import ClusterMdns.Metric
import ClusterMdns.Store

/-!
Batches of records on their way to the store, and what becomes of each: its records are stamped
with the time to live of the program and published or withdrawn one after another.
-/

namespace ClusterMdns

/-- What to do with records. -/
inductive Action where
  | announce
  | retract
deriving DecidableEq, Repr, Inhabited

def Action.name : Action → String
  | .announce => "added"
  | .retract => "removed"

/-- The records of one object, to be published or withdrawn. -/
structure Batch where
  source : Source
  action : Action
  records : List Record
deriving DecidableEq, Repr, Inhabited

/-- One change asked of the store. -/
inductive Call where
  | publish (record : Record)
  | unpublish (record : Record)
deriving DecidableEq, Repr

namespace Call

def record : Call → Record
  | publish record => record
  | unpublish record => record

def operation : Call → String
  | publish _ => "publish"
  | unpublish _ => "unpublish"

/-- Whether a call changes a store, and the store after it. -/
def run (store : Store) : Call → Bool × Store
  | publish record => store.insert record
  | unpublish record => store.remove record

def apply (store : Store) (call : Call) : Store := (call.run store).2

def measurements (call : Call) : List Measurement :=
  Measurement.published call.operation call.record.recordType

end Call

def Action.call : Action → Record → Call
  | .announce => .publish
  | .retract => .unpublish

namespace Batch

/-- The calls that a batch becomes, with the time to live that its records get. -/
def calls (ttl : UInt32) (batch : Batch) : List Call :=
  batch.records.map fun record => batch.action.call (record.stamped ttl)

/-- What is measured of a batch when it is taken, before its calls. -/
def measurements (batch : Batch) : List Measurement :=
  Measurement.dispatched batch.source batch.action.name batch.records.length

end Batch

def Store.run (store : Store) (calls : List Call) : Store := calls.foldl Call.apply store

def Store.dispatch (ttl : UInt32) (store : Store) (batch : Batch) : Store :=
  store.run (batch.calls ttl)

theorem Store.run_append (store : Store) (first second : List Call) :
    store.run (first ++ second) = (store.run first).run second := by
  simp [Store.run]

end ClusterMdns
