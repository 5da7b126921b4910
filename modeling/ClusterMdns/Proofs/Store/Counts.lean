import ClusterMdns.Proofs.Store.Contents

/-!
The owners of a store and how many there are, and its serial.

* `mem_owners_iff` and `hasName_iff`: a name has a group exactly if a record is published under it.
* `namesCount_congr`: stores whose records have the same owners count the same names.
* `serial_insert` and `serial_remove`: the serial counts the calls that change anything.
-/

namespace ClusterMdns.Store

/-- **The owners of groups are those of records.** -/
theorem mem_owners_iff {store : Store} (sound : store.Sound) (owner : Name) :
    owner ∈ store.owners ↔ ∃ record ∈ store.records, record.owner.fold = owner := by
  rw [owners, List.mem_map]
  constructor
  · rintro ⟨group, member, rfl⟩
    obtain ⟨record, inside⟩ := List.exists_mem_of_ne_nil _ (sound.inhabited group member)
    refine ⟨record, List.mem_flatMap.mpr ⟨group, member, inside⟩, ?_⟩
    exact congrArg RecordKey.owner (sound.filed group member record inside)
  · rintro ⟨record, published, rfl⟩
    obtain ⟨group, member, inside⟩ := List.mem_flatMap.mp published
    exact ⟨group, member, (congrArg RecordKey.owner (sound.filed group member record inside)).symm⟩

theorem hasName_iff {store : Store} (sound : store.Sound) (name : Name) :
    store.hasName name = true ↔ ∃ record ∈ store.records, record.owner.fold = name.fold := by
  rw [hasName, List.contains_iff_mem, mem_owners_iff sound]

/-- No name is left twice when repetitions are erased. -/
theorem nodup_eraseDups (names : List Name) : names.eraseDups.Nodup := by
  -- Each name is erased from all that follow it, so the induction is on the length.
  induction size : names.length using Nat.strongRecOn generalizing names with
  | _ length ih =>
    cases names with
    | nil => exact .nil
    | cons name rest =>
      rw [List.eraseDups_cons, List.nodup_cons]
      constructor
      · intro again
        simpa using List.mem_eraseDups.mp again
      · refine ih _ ?_ _ rfl
        rw [← size, List.length_cons]
        exact Nat.lt_succ_of_le (List.length_filter_le _ rest)

/-- Stores whose groups have the same owners count the same names. -/
theorem namesCount_congr {first second : Store}
    (same : ∀ owner, owner ∈ first.owners ↔ owner ∈ second.owners) :
    first.namesCount = second.namesCount := by
  refine List.Perm.length_eq ?_
  rw [List.perm_ext_iff_of_nodup (nodup_eraseDups _) (nodup_eraseDups _)]
  intro owner
  rw [List.mem_eraseDups, List.mem_eraseDups, same]

/-! ### The serial -/

theorem serial_insert (store : Store) (record : Record) :
    (store.insert record).2.serial
      = if store.contains record = true then store.serial else store.serial + 1 := by
  unfold insert
  split <;> rfl

theorem serial_remove (store : Store) (record : Record) :
    (store.remove record).2.serial
      = if store.contains record = true then store.serial + 1 else store.serial := by
  unfold remove
  split <;> rfl

end ClusterMdns.Store
