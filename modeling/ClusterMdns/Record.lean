import ClusterMdns.Address
import ClusterMdns.Name

/-!
Resource records: an owner name, a class, a time to live and typed data.

Records are equal for the purpose of publishing when their owners and data are, names compared
without the case of ASCII letters: `Record.Same`. Class and time to live do not count.
-/

namespace ClusterMdns

/-- The types that a record or a query may have. -/
inductive RecordType where
  | a | aaaa | aname | any | axfr | caa | cdnskey | cds | cert | cname | csync | dnskey | ds | hinfo
  | https | key | mx | naptr | ns | nsec | nsec3 | nsec3param | null | openpgpkey | ptr
  | rrsig | sig | soa | srv | sshfp | svcb | tlsa | tsig | txt
deriving DecidableEq, Repr, Inhabited

inductive RecordClass where
  | internet
  | chaos
deriving DecidableEq, Repr, Inhabited

inductive RecordData where
  | a (address : IPv4)
  | aaaa (address : IPv6)
  | ptr (target : Name)
  | srv (priority weight port : UInt16) (target : Name)
  | txt (strings : List String)
deriving DecidableEq, Repr, Inhabited

/-- A resource record. -/
structure Record where
  owner : Name
  recordClass : RecordClass
  ttl : UInt32
  data : RecordData
deriving DecidableEq, Repr, Inhabited

namespace RecordData

def recordType : RecordData → RecordType
  | a _ => .a
  | aaaa _ => .aaaa
  | ptr _ => .ptr
  | srv _ _ _ _ => .srv
  | txt _ => .txt

def fold : RecordData → RecordData
  | ptr target => ptr target.fold
  | srv priority weight port target => srv priority weight port target.fold
  | data => data

theorem recordType_fold (data : RecordData) : data.fold.recordType = data.recordType := by
  cases data <;> rfl

theorem fold_fold (data : RecordData) : data.fold.fold = data.fold := by
  cases data <;> simp [fold, Name.fold_fold]

end RecordData

namespace Record

/-- A record as it is built: class Internet and no time to live yet. -/
def built (owner : Name) (data : RecordData) : Record := ⟨owner, .internet, 0, data⟩

def recordType (record : Record) : RecordType := record.data.recordType

/-- The record with the given time to live and class Internet. -/
def stamped (ttl : UInt32) (record : Record) : Record :=
  { record with ttl := ttl, recordClass := .internet }

/-- Whether two records publish the same thing: equal owner and data, names compared without the
case of ASCII letters. -/
def Same (first second : Record) : Prop :=
  first.owner.fold = second.owner.fold ∧ first.data.fold = second.data.fold

instance (first second : Record) : Decidable (first.Same second) :=
  inferInstanceAs (Decidable (_ ∧ _))

theorem Same.refl (record : Record) : record.Same record := ⟨rfl, rfl⟩

theorem Same.symm {first second : Record} (same : first.Same second) : second.Same first :=
  ⟨same.1.symm, same.2.symm⟩

theorem Same.trans {first second third : Record} (same : first.Same second)
    (next : second.Same third) : first.Same third :=
  ⟨same.1.trans next.1, same.2.trans next.2⟩

/-- Records that publish the same thing have one type. -/
theorem Same.recordType_eq {first second : Record} (same : first.Same second) :
    first.recordType = second.recordType := by
  rw [recordType, recordType, ← RecordData.recordType_fold first.data, same.2,
    RecordData.recordType_fold]

/-- Class and time to live do not count. -/
theorem stamped_same (ttl : UInt32) (record : Record) : (record.stamped ttl).Same record :=
  ⟨rfl, rfl⟩

end Record

end ClusterMdns
