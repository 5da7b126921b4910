import ClusterMdns.Record

/-!
Record sets: the records of one owner and type that together answer a question. A record set
refuses records of another owner or type, and holds no two records with equal data.
-/

namespace ClusterMdns

/-- The records of one owner and type. -/
structure RecordSet where
  owner : Name
  recordType : RecordType
  records : List Record
deriving DecidableEq, Repr

namespace RecordSet

/-- A record set without records. -/
def empty (owner : Name) (recordType : RecordType) : RecordSet := ⟨owner, recordType, []⟩

/-- Records with one more. It takes the place of a record with equal data and another class; if the
classes are equal too, the record that is there stays. -/
def joined (record : Record) : List Record → List Record
  | [] => [record]
  | held :: rest =>
    if held.data.fold = record.data.fold then
      (if held.recordClass = record.recordClass then held else record) :: rest
    else held :: joined record rest

/-- The set with one more record; none if the record is of another owner or type. -/
def insert? (set : RecordSet) (record : Record) : Option RecordSet :=
  if record.owner.fold = set.owner.fold ∧ record.recordType = set.recordType then
    some { set with records := joined record set.records }
  else none

/-- The set of records that are added one after another in some way; none if one is refused. -/
def gathered? (add? : RecordSet → Record → Option RecordSet) (owner : Name)
    (recordType : RecordType) (records : List Record) : Option RecordSet :=
  records.foldlM add? (empty owner recordType)

end RecordSet

end ClusterMdns
