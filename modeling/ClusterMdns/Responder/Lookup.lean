import ClusterMdns.Metric
import ClusterMdns.Responder.RecordSet
import ClusterMdns.Store

/-!
What the store says about a name and a type. The store is read twice, first for the records and
then, if there are none, for the name; `lookupAcross` is the lookup whose two reads see different
stores. How records are gathered to a set is a parameter of the lookup.
-/

namespace ClusterMdns.Responder

/-- What the store says about a name and a type. -/
inductive LookupOutcome where
  | found (records : List Record)
  | noData
  | unknownName
  | misfiled
deriving DecidableEq, Repr

/-- The outcome of a lookup that asks one store for records and another whether the name is known,
and adds records to a set in some way. -/
def lookupAcross (add? : RecordSet → Record → Option RecordSet) (first second : Store) (name : Name)
    (recordType : RecordType) : LookupOutcome :=
  let records := first.lookup name recordType
  if records.isEmpty then
    if second.hasName name then .noData else .unknownName
  else
    match RecordSet.gathered? add? name recordType records with
    | some set => .found set.records
    | none => .misfiled

/-- The outcome of a lookup that adds records to a set in some way. -/
def lookupBy (add? : RecordSet → Record → Option RecordSet) (store : Store) (name : Name)
    (recordType : RecordType) : LookupOutcome :=
  lookupAcross add? store store name recordType

def lookup (store : Store) (name : Name) (recordType : RecordType) : LookupOutcome :=
  lookupBy RecordSet.insert? store name recordType

/-- The name of an outcome in measurements. -/
def LookupOutcome.label : LookupOutcome → String
  | found _ => "success"
  | noData => "nodata"
  | unknownName => "nxdomain"
  | misfiled => "failure"

/-- What is measured of a lookup. -/
def measurements (recordType : RecordType) (outcome : LookupOutcome) : List Measurement :=
  Measurement.queried recordType outcome.label

end ClusterMdns.Responder
