import ClusterMdns.Record

/-!
The store of published records, grouped by owner and type. A record is published at most once: two
records that publish the same thing (`Record.Same`) are one, and the first spelling stays until it
is withdrawn.

Main statements: `contains_iff`, a record is contained exactly if its group holds one that publishes
the same, and `group_insert`, what publishing does to every group.
-/

namespace ClusterMdns

/-- What records are grouped by. -/
structure RecordKey where
  owner : Name
  recordType : RecordType
deriving DecidableEq, Repr, Inhabited

/-- The group that a record belongs to. -/
def Record.key (record : Record) : RecordKey := ⟨record.owner.fold, record.recordType⟩

/-- Records of one group publish the same thing exactly if their folded data are equal. -/
theorem Record.same_iff (first second : Record) :
    first.Same second ↔ first.key = second.key ∧ first.data.fold = second.data.fold := by
  constructor
  · intro same
    exact ⟨by rw [key, key, same.1, same.recordType_eq], same.2⟩
  · rintro ⟨keys, data⟩
    exact ⟨congrArg RecordKey.owner keys, data⟩

/-- Published records and the number of changes so far. -/
structure Store where
  /-- The groups, each with its records in the order in which they were published. -/
  groups : List (RecordKey × List Record)
  /-- Counts the changes; it starts over after the largest word. -/
  serial : UInt32
deriving DecidableEq, Repr

namespace Store

def empty : Store := ⟨[], 0⟩

instance : Inhabited Store := ⟨empty⟩

/-! ## Looking up -/

/-- The records of the first group with a key. -/
def groupIn (key : RecordKey) : List (RecordKey × List Record) → List Record
  | [] => []
  | group :: rest => if group.1 = key then group.2 else groupIn key rest

def group (store : Store) (key : RecordKey) : List Record := groupIn key store.groups

/-- The records published under a name with a type, in the order in which they were published. -/
def lookup (store : Store) (name : Name) (recordType : RecordType) : List Record :=
  store.group ⟨name.fold, recordType⟩

/-- The owners that have a group, one for each of its groups. -/
def owners (store : Store) : List Name := store.groups.map fun group => group.1.owner

/-- Whether anything is published under a name. -/
def hasName (store : Store) (name : Name) : Bool := store.owners.contains name.fold

def records (store : Store) : List Record := store.groups.flatMap Prod.snd

def recordsCount (store : Store) : Nat := store.records.length

def namesCount (store : Store) : Nat := store.owners.eraseDups.length

/-- Whether a record of a group publishes the same thing as another of its key. -/
def heldIn (record : Record) (group : List Record) : Bool :=
  group.any fun held => held.data.fold == record.data.fold

/-- Whether the store holds a record that publishes the same thing. -/
def contains (store : Store) (record : Record) : Bool := heldIn record (store.group record.key)

theorem contains_iff (store : Store) (record : Record) :
    store.contains record = true ↔
      ∃ held ∈ store.group record.key, held.data.fold = record.data.fold := by
  simp [contains, heldIn]

/-! ## Publishing and withdrawing -/

/-- Groups with one more record at the end of its group. -/
def appended (record : Record) : List (RecordKey × List Record) → List (RecordKey × List Record)
  | [] => [(record.key, [record])]
  | group :: rest =>
    if group.1 = record.key then (group.1, group.2 ++ [record]) :: rest
    else group :: appended record rest

/-- A group without the records that publish the same thing as another of its key. -/
def remaining (record : Record) (group : List Record) : List Record :=
  group.filter fun held => held.data.fold != record.data.fold

/-- Groups without a record. A group that loses its last record goes with it. -/
def withdrawn (record : Record) : List (RecordKey × List Record) → List (RecordKey × List Record)
  | [] => []
  | group :: rest =>
    if group.1 = record.key then
      let left := remaining record group.2
      if left.isEmpty then rest else (group.1, left) :: rest
    else group :: withdrawn record rest

/-- The store with a record, and whether that changed it. -/
def insert (store : Store) (record : Record) : Bool × Store :=
  if store.contains record then (false, store)
  else (true, ⟨appended record store.groups, store.serial + 1⟩)

/-- The store without a record, and whether that changed it. -/
def remove (store : Store) (record : Record) : Bool × Store :=
  if store.contains record then (true, ⟨withdrawn record store.groups, store.serial + 1⟩)
  else (false, store)

theorem groupIn_appended (record : Record) (groups : List (RecordKey × List Record))
    (key : RecordKey) :
    groupIn key (appended record groups)
      = if key = record.key then groupIn key groups ++ [record] else groupIn key groups := by
  induction groups with
  | nil =>
    by_cases here : key = record.key
    · simp [appended, groupIn, here]
    · simp [appended, groupIn, here, Ne.symm here]
  | cons group rest ih =>
    by_cases own : group.1 = record.key
    · by_cases here : key = record.key
      · simp [appended, groupIn, own, here]
      · simp [appended, groupIn, own, here, Ne.symm here]
    · by_cases found : group.1 = key
      · subst found
        simp [appended, groupIn, own]
      · simp [appended, groupIn, own, found, ih]

/-- After an insertion the group of a new record has it at its end and nothing else changes. -/
theorem group_insert (store : Store) (record : Record) (key : RecordKey) :
    (store.insert record).2.group key
      = if key = record.key ∧ store.contains record = false then store.group key ++ [record]
        else store.group key := by
  by_cases known : store.contains record = true
  · simp [insert, known]
  · simp [insert, known, group, groupIn_appended]

end Store

end ClusterMdns
