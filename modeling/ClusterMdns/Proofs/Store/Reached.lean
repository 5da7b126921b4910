import ClusterMdns.Proofs.Store.Accounting
import ClusterMdns.Record.Mnemonic
import Mathlib.Algebra.Order.BigOperators.Group.Finset
import Mathlib.Data.Fintype.Basic
import Mathlib.Logic.Relation

/-!
The stores that operations reach.

Every operation keeps a store sound, also if it goes through the group of its record: a group that was opened gets
a record before anyone sees it, and a group goes with its last record (`Sound.operation`). What is told of a sound
store follows from where its records are. Each is found under its owner and its type, and nowhere else.

* `Reached.sound`: every store that is reached is sound.
* `hasName_iff_lookup`: which names are known.
* `Sound.namesCount_eq` and `Sound.recordsCount_eq`: the counts by what look-ups find.
* `representation_invariant`: all of it, for every store that is reached.
-/

namespace ClusterMdns

instance : Fintype RecordType :=
  .ofList RecordType.all fun recordType => by cases recordType <;> decide

namespace Store

variable {store next : Store}

/-! ### Operations -/

/-- One operation on a store: `insert` and `remove` entry by entry, through the group of the record, and the calls
that the program makes. -/
inductive Operation (store : Store) : Store → Prop
  | insert (record : Record) : Operation store (store.insertInGroup record).2
  | remove (record : Record) : Operation store (store.removeInGroup record).2
  | publish (record : Record) : Operation store ((Call.publish record).apply store)
  | unpublish (record : Record) : Operation store ((Call.unpublish record).apply store)

/-- Whether operations lead from the empty store to another, in whatever order. -/
def Reached (store : Store) : Prop := Relation.ReflTransGen Operation empty store

/-- **Every operation keeps a store sound.** -/
theorem Sound.operation (sound : store.Sound) (operation : Operation store next) : next.Sound := by
  cases operation with
  | insert record =>
    rw [← insert_eq_insertInGroup]
    exact sound.insert record
  | remove record =>
    rw [← sound.remove_eq_removeInGroup]
    exact sound.remove record
  | publish record => exact sound.apply (.publish record)
  | unpublish record => exact sound.apply (.unpublish record)

theorem Reached.sound (reached : Reached store) : store.Sound := by
  induction reached with
  | refl => exact sound_empty
  | tail _ operation ih => exact ih.operation operation

/-! ### Where records are found -/

/-- A name is known exactly if something is found under it with some type. -/
theorem hasName_iff_lookup (sound : store.Sound) (name : Name) :
    store.hasName name = true ↔ ∃ recordType, store.lookup name recordType ≠ [] := by
  rw [hasName_iff sound]
  constructor
  · rintro ⟨record, published, owner⟩
    exact ⟨record.recordType,
      List.ne_nil_of_mem ((mem_lookup_iff sound name _ record).mpr ⟨published, owner, rfl⟩)⟩
  · rintro ⟨recordType, found⟩
    obtain ⟨record, member⟩ := List.exists_mem_of_ne_nil _ found
    obtain ⟨published, owner, _⟩ := (mem_lookup_iff sound name recordType record).mp member
    exact ⟨record, published, owner⟩

/-- The owners of the records of a store, without the case of their letters. -/
def ownerSet (store : Store) : Finset Name := (store.records.map fun record => record.owner.fold).toFinset

theorem mem_ownerSet_iff {owner : Name} :
    owner ∈ store.ownerSet ↔ ∃ record ∈ store.records, record.owner.fold = owner := by
  rw [ownerSet, List.mem_toFinset, List.mem_map]

/-- **The names are counted by the owners of records.** -/
theorem Sound.namesCount_eq (sound : store.Sound) : store.namesCount = store.ownerSet.card := by
  rw [namesCount, ← List.toFinset_card_of_nodup (nodup_eraseDups store.owners)]
  congr 1
  ext owner
  rw [List.mem_toFinset, List.mem_eraseDups, mem_owners_iff sound, mem_ownerSet_iff]

theorem Sound.nodup_lookup (sound : store.Sound) (name : Name) (recordType : RecordType) :
    (store.lookup name recordType).Nodup :=
  (sound.pairwise_group ⟨name.fold, recordType⟩).imp fun different same => different (by rw [same])

/-- As many records are found as have the owner and the type. -/
theorem Sound.length_lookup (sound : store.Sound) (name : Name) (recordType : RecordType) :
    (store.lookup name recordType).length
      = {record ∈ store.records.toFinset | record.owner.fold = name.fold ∧ record.recordType = recordType}.card := by
  rw [← List.toFinset_card_of_nodup (sound.nodup_lookup name recordType)]
  congr 1
  ext record
  rw [List.mem_toFinset, mem_lookup_iff sound, Finset.mem_filter, List.mem_toFinset]

/-- **The records are counted by what is found under each owner with each type.** -/
theorem Sound.recordsCount_eq (sound : store.Sound) :
    store.recordsCount
      = ∑ owner ∈ store.ownerSet, ∑ recordType, (store.lookup owner recordType).length := by
  have owned : Set.MapsTo (fun record : Record => record.owner.fold) store.records.toFinset store.ownerSet :=
    fun record published => mem_ownerSet_iff.mpr ⟨record, List.mem_toFinset.mp published, rfl⟩
  have typed (records : Finset Record) :
      Set.MapsTo Record.recordType records (Finset.univ : Finset RecordType) :=
    fun record _ => Finset.mem_univ record.recordType
  rw [recordsCount, ← List.toFinset_card_of_nodup sound.nodup_records,
    Finset.card_eq_sum_card_fiberwise owned]
  refine Finset.sum_congr rfl fun owner known => ?_
  rw [Finset.card_eq_sum_card_fiberwise (typed _)]
  refine Finset.sum_congr rfl fun recordType _ => ?_
  obtain ⟨record, _, rfl⟩ := mem_ownerSet_iff.mp known
  rw [sound.length_lookup, Name.fold_fold, Finset.filter_filter]

theorem Sound.namesCount_le_recordsCount (sound : store.Sound) : store.namesCount ≤ store.recordsCount := by
  calc store.namesCount = store.ownerSet.card := sound.namesCount_eq
    _ ≤ (store.records.map fun record => record.owner.fold).length := List.toFinset_card_le _
    _ = store.recordsCount := List.length_map _

/-- No name is counted exactly if no record is. -/
theorem Sound.namesCount_eq_zero_iff (sound : store.Sound) :
    store.namesCount = 0 ↔ store.recordsCount = 0 := by
  rw [sound.namesCount_eq, Finset.card_eq_zero, ownerSet, List.toFinset_eq_empty_iff, List.map_eq_nil_iff,
    recordsCount, List.length_eq_zero_iff]

/-- **The representation of a store.** In every store that operations reach from the empty one, in any order:

* there is one group for each key, no group is empty, the records of a group have the type of its key and, without
  the case of letters, its owner, and their data are different;
* a name is known exactly if something is found under it with some type;
* the names are as many as the records have different owners, without the case of letters;
* the records are as many as are found under these with all types;
* there are no more names than records, and there are no names exactly if there are no records. -/
theorem representation_invariant (reached : Reached store) :
    (store.groups.map Prod.fst).Nodup ∧
    (∀ group ∈ store.groups, group.2 ≠ [] ∧
      (∀ held ∈ group.2, held.recordType = group.1.recordType ∧ held.owner.fold = group.1.owner) ∧
      group.2.Pairwise fun first second => first.data.fold ≠ second.data.fold) ∧
    (∀ name, store.hasName name = true ↔ ∃ recordType, store.lookup name recordType ≠ []) ∧
    store.namesCount = store.ownerSet.card ∧
    store.recordsCount = ∑ owner ∈ store.ownerSet, ∑ recordType, (store.lookup owner recordType).length ∧
    store.namesCount ≤ store.recordsCount ∧ (store.namesCount = 0 ↔ store.recordsCount = 0) := by
  have sound := reached.sound
  refine ⟨sound.distinctKeys, fun group member => ?_, hasName_iff_lookup sound,
    sound.namesCount_eq, sound.recordsCount_eq, sound.namesCount_le_recordsCount, sound.namesCount_eq_zero_iff⟩
  refine ⟨sound.inhabited group member, fun held inside => ?_, sound.distinctData group member⟩
  have filed := sound.filed group member held inside
  exact ⟨congrArg RecordKey.recordType filed, congrArg RecordKey.owner filed⟩

/-- A record that is there is published again in another spelling, where a group is opened for nothing new, and
the only record of another owner is withdrawn through its group. -/
theorem representation_invariant_of_reopened_group :
    let address (letter : UInt8) : Record := .built ⟨[[letter]]⟩ (.a ⟨192, 0, 2, 1⟩)
    let pointer (letter : UInt8) : Record := .built ⟨[[letter]]⟩ (.ptr ⟨[[99]]⟩)
    let first := (Call.publish (address 97)).apply empty
    let second := (first.insertInGroup (address 65)).2
    let third := (second.insertInGroup (pointer 98)).2
    let fourth := (third.removeInGroup (pointer 66)).2
    let store := (Call.publish (pointer 65)).apply fourth
    Reached store ∧ store.recordsCount = 2 ∧ store.namesCount = 1 ∧ store.namesCount ≤ store.recordsCount ∧
      store.recordsCount = ∑ owner ∈ {⟨[[97]]⟩}, ∑ recordType, (store.lookup owner recordType).length ∧
      store.hasName ⟨[[65]]⟩ = true ∧ ∀ recordType, store.lookup ⟨[[98]]⟩ recordType = [] := by
  intro address pointer first second third fourth store
  have reached : Reached store :=
    ((((Relation.ReflTransGen.refl.tail (.publish (address 97))).tail (.insert (address 65))).tail
      (.insert (pointer 98))).tail (.remove (pointer 66))).tail (.publish (pointer 65))
  obtain ⟨_, _, known, names, records, fewer, _⟩ := representation_invariant reached
  have owners : store.ownerSet = {⟨[[97]]⟩} := by decide
  rw [owners] at names records
  refine ⟨reached, by decide, names, fewer, records, (known _).mpr ⟨.a, by decide⟩, fun recordType => ?_⟩
  by_contra found
  exact absurd ((known ⟨[[98]]⟩).mpr ⟨recordType, found⟩) (by decide)

end Store

end ClusterMdns
