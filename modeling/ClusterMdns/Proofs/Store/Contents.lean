import ClusterMdns.Batch
import Mathlib.Data.List.Nodup

/-!
What a store contains after calls and batches.

* `Store.Sound` says how the groups of a store are kept: one group for each key, no group empty, each
  record in the group of its key, and no two records of a group with the same data. The empty store
  is sound and every call keeps a store sound (`Sound.run`).
* `contains_insert` and `contains_remove` say what one call does to the record asked for, whatever
  the groups look like: only calls about a record that publishes the same thing matter.
* `contains_dispatchAll_iff`: the store contains a record after batches exactly if the last batch that
  mentions it announces it, or if no batch mentions it and it was contained before.
-/

namespace ClusterMdns

/-- Whether a record of a list publishes the same thing. -/
def Record.Among (record : Record) (records : List Record) : Prop :=
  ∃ listed ∈ records, listed.Same record

theorem Record.Among.congr {first second : Record} {records : List Record}
    (among : first.Among records) (same : first.Same second) : second.Among records := by
  obtain ⟨listed, member, published⟩ := among
  exact ⟨listed, member, published.trans same⟩

/-- Of records that publish different things there is one that publishes the same as one of them. -/
theorem Record.filter_same_eq {records : List Record}
    (apart : records.Pairwise fun first second => ¬first.Same second) {record : Record}
    (member : record ∈ records) : (records.filter fun other => other.Same record) = [record] := by
  obtain ⟨before, after, rfl⟩ := List.append_of_mem member
  rw [List.pairwise_append, List.pairwise_cons] at apart
  have earlier : (before.filter fun other => other.Same record) = [] :=
    List.filter_eq_nil_iff.mpr fun other inside same =>
      apart.2.2 other inside record List.mem_cons_self (of_decide_eq_true same)
  have later : (after.filter fun other => other.Same record) = [] :=
    List.filter_eq_nil_iff.mpr fun other inside same =>
      apart.2.1.1 other inside (of_decide_eq_true same).symm
  rw [List.filter_append, earlier, List.filter_cons_of_pos (by simpa using Same.refl record), later]
  rfl

namespace Store

/-! ### How groups are kept -/

/-- The groups of a store are well kept. -/
structure Sound (store : Store) : Prop where
  /-- There is one group for each key. -/
  distinctKeys : (store.groups.map Prod.fst).Nodup
  /-- No group is empty. -/
  inhabited : ∀ group ∈ store.groups, group.2 ≠ []
  /-- Each record is in the group of its key. -/
  filed : ∀ group ∈ store.groups, ∀ held ∈ group.2, held.key = group.1
  /-- The records of a group have different data. -/
  distinctData : ∀ group ∈ store.groups,
    group.2.Pairwise fun first second => first.data.fold ≠ second.data.fold

theorem sound_empty : empty.Sound := by
  refine ⟨.nil, ?_, ?_, ?_⟩ <;>
  · intro group member
    cases member

section Groups

variable {groups : List (RecordKey × List Record)}

/-- **The group that a look-up finds is the only one with its key.** -/
theorem groupIn_of_mem (distinct : (groups.map Prod.fst).Nodup) {group : RecordKey × List Record}
    (member : group ∈ groups) : groupIn group.1 groups = group.2 := by
  induction groups with
  | nil => cases member
  | cons first rest ih =>
    rw [List.map_cons, List.nodup_cons] at distinct
    rcases List.mem_cons.mp member with rfl | later
    · simp [groupIn]
    · have different : first.1 ≠ group.1 := by
        intro same
        exact distinct.1 (same ▸ List.mem_map_of_mem later)
      simp only [groupIn, if_neg different]
      exact ih distinct.2 later

theorem groupIn_eq_nil {key : RecordKey} (missing : key ∉ groups.map Prod.fst) :
    groupIn key groups = [] := by
  induction groups with
  | nil => rfl
  | cons first rest ih =>
    rw [List.map_cons, List.mem_cons, not_or] at missing
    simp only [groupIn, if_neg (Ne.symm missing.1)]
    exact ih missing.2

/-- A group that is found and not empty is one of the groups. -/
theorem mem_of_mem_groupIn {key : RecordKey} {held : Record} (found : held ∈ groupIn key groups) :
    (key, groupIn key groups) ∈ groups := by
  induction groups with
  | nil => cases found
  | cons first rest ih =>
    by_cases own : first.1 = key
    · subst own
      simp [groupIn]
    · simp only [groupIn, if_neg own] at found ⊢
      exact List.mem_cons_of_mem _ (ih found)

theorem mem_appended {record : Record} {group : RecordKey × List Record}
    (member : group ∈ appended record groups) :
    group ∈ groups ∨ group = (record.key, groupIn record.key groups ++ [record]) := by
  induction groups with
  | nil =>
    rw [appended, List.mem_singleton] at member
    exact .inr member
  | cons first rest ih =>
    by_cases own : first.1 = record.key
    · rw [appended, if_pos own] at member
      rcases List.mem_cons.mp member with rfl | later
      · right
        simp [groupIn, own]
      · exact .inl (List.mem_cons_of_mem _ later)
    · rw [appended, if_neg own] at member
      rcases List.mem_cons.mp member with rfl | later
      · exact .inl List.mem_cons_self
      · rcases ih later with old | new
        · exact .inl (List.mem_cons_of_mem _ old)
        · right
          rw [new]
          simp [groupIn, own]

theorem keys_appended (record : Record) :
    (appended record groups).map Prod.fst
      = if record.key ∈ groups.map Prod.fst then groups.map Prod.fst
        else groups.map Prod.fst ++ [record.key] := by
  induction groups with
  | nil => rfl
  | cons first rest ih =>
    by_cases own : first.1 = record.key
    · simp [appended, own]
    · rw [appended, if_neg own, List.map_cons, ih]
      by_cases known : record.key ∈ rest.map Prod.fst
      · have still : record.key ∈ (first :: rest).map Prod.fst := List.mem_cons_of_mem _ known
        rw [if_pos known, if_pos still, List.map_cons]
      · have missing : record.key ∉ (first :: rest).map Prod.fst := by
          rw [List.map_cons, List.mem_cons, not_or]
          exact ⟨Ne.symm own, known⟩
        rw [if_neg known, if_neg missing, List.map_cons, List.cons_append]

theorem mem_withdrawn {record : Record} {group : RecordKey × List Record}
    (member : group ∈ withdrawn record groups) :
    group ∈ groups
      ∨ group.2 ≠ [] ∧ group = (record.key, remaining record (groupIn record.key groups)) := by
  induction groups with
  | nil => cases member
  | cons first rest ih =>
    by_cases own : first.1 = record.key
    · simp only [withdrawn, if_pos own] at member
      split at member
      · exact .inl (List.mem_cons_of_mem _ member)
      case isFalse left =>
        rcases List.mem_cons.mp member with rfl | later
        · right
          simp only [groupIn, if_pos own]
          exact ⟨by simpa using left, by rw [own]⟩
        · exact .inl (List.mem_cons_of_mem _ later)
    · rw [withdrawn, if_neg own] at member
      rcases List.mem_cons.mp member with rfl | later
      · exact .inl List.mem_cons_self
      · rcases ih later with old | ⟨left, new⟩
        · exact .inl (List.mem_cons_of_mem _ old)
        · right
          simp only [groupIn, if_neg own]
          exact ⟨left, new⟩

theorem keys_withdrawn_sublist (record : Record) :
    ((withdrawn record groups).map Prod.fst).Sublist (groups.map Prod.fst) := by
  induction groups with
  | nil => exact .slnil
  | cons first rest ih =>
    by_cases own : first.1 = record.key
    · simp only [withdrawn, if_pos own]
      split
      · exact List.sublist_cons_self _ _
      · exact List.Sublist.refl _
    · rw [withdrawn, if_neg own]
      exact ih.cons_cons _

theorem groupIn_withdrawn (distinct : (groups.map Prod.fst).Nodup) (record : Record)
    (key : RecordKey) :
    groupIn key (withdrawn record groups)
      = if key = record.key then remaining record (groupIn key groups) else groupIn key groups := by
  induction groups with
  | nil => simp [withdrawn, groupIn, remaining]
  | cons first rest ih =>
    rw [List.map_cons, List.nodup_cons] at distinct
    by_cases own : first.1 = record.key
    · simp only [withdrawn, if_pos own]
      by_cases here : key = record.key
      · rw [if_pos here, here]
        split
        case isTrue left =>
          -- The group goes, and no other one has its key.
          rw [groupIn_eq_nil (own ▸ distinct.1)]
          simp only [groupIn, if_pos own]
          exact (List.isEmpty_iff.mp left).symm
        case isFalse left => simp only [groupIn, if_pos own]
      · have other : first.1 ≠ key := fun same => here (same ▸ own)
        rw [if_neg here]
        split <;> simp only [groupIn, if_neg other]
    · rw [withdrawn, if_neg own]
      by_cases found : first.1 = key
      · subst found
        simp only [groupIn, if_true, if_neg own]
      · simp only [groupIn, if_neg found]
        exact ih distinct.2

end Groups

/-- The group of a key after a withdrawal. -/
theorem group_remove {store : Store} (sound : store.Sound) (record : Record) (key : RecordKey) :
    (store.remove record).2.group key
      = if key = record.key then remaining record (store.group key) else store.group key := by
  by_cases known : store.contains record = true
  · rw [remove, if_pos known]
    exact groupIn_withdrawn sound.distinctKeys record key
  · rw [remove, if_neg known]
    split
    case isTrue here =>
      subst here
      -- Nothing of the group has the data, so nothing goes.
      refine (List.filter_eq_self.mpr fun held member => ?_).symm
      rw [bne_iff_ne]
      exact fun same => known ((contains_iff store record).mpr ⟨held, member, same⟩)
    case isFalse => rfl

/-- The records of the group of a key have different data. -/
theorem Sound.pairwise_group {store : Store} (sound : store.Sound) (key : RecordKey) :
    (store.group key).Pairwise fun first second => first.data.fold ≠ second.data.fold := by
  cases found : store.group key with
  | nil => exact .nil
  | cons first rest =>
    have inside : first ∈ store.group key := by
      rw [found]
      exact List.mem_cons_self
    rw [← found]
    exact sound.distinctData _ (mem_of_mem_groupIn inside)

theorem Sound.insert {store : Store} (sound : store.Sound) (record : Record) :
    (store.insert record).2.Sound := by
  by_cases known : store.contains record = true
  · rw [Store.insert, if_pos known]
    exact sound
  · rw [Store.insert, if_neg known]
    refine ⟨?_, ?_, ?_, ?_⟩
    · show ((appended record store.groups).map Prod.fst).Nodup
      rw [keys_appended]
      split
      · exact sound.distinctKeys
      case isFalse missing =>
        rw [List.nodup_append]
        refine ⟨sound.distinctKeys, List.nodup_singleton _, fun key member other new => ?_⟩
        rintro rfl
        exact missing (List.mem_singleton.mp new ▸ member)
    · intro group member
      rcases mem_appended member with old | rfl
      · exact sound.inhabited group old
      · simp
    · intro group member held inside
      rcases mem_appended member with old | rfl
      · exact sound.filed group old held inside
      · rcases List.mem_append.mp inside with before | new
        · exact sound.filed _ (mem_of_mem_groupIn before) held before
        · rw [List.mem_singleton.mp new]
    · intro group member
      rcases mem_appended member with old | rfl
      · exact sound.distinctData group old
      · rw [List.pairwise_append]
        refine ⟨sound.pairwise_group record.key, List.pairwise_singleton _ _,
          fun held inside new last => ?_⟩
        rw [List.mem_singleton.mp last]
        exact fun same => known ((contains_iff store record).mpr ⟨held, inside, same⟩)

theorem Sound.remove {store : Store} (sound : store.Sound) (record : Record) :
    (store.remove record).2.Sound := by
  by_cases known : store.contains record = true
  · rw [Store.remove, if_pos known]
    refine ⟨sound.distinctKeys.sublist (keys_withdrawn_sublist record), ?_, ?_, ?_⟩
    · intro group member
      rcases mem_withdrawn member with old | ⟨left, _⟩
      · exact sound.inhabited group old
      · exact left
    · intro group member held inside
      rcases mem_withdrawn member with old | ⟨_, rfl⟩
      · exact sound.filed group old held inside
      · -- What is left of the group was in it before.
        have before := List.mem_of_mem_filter inside
        exact sound.filed _ (mem_of_mem_groupIn before) held before
    · intro group member
      rcases mem_withdrawn member with old | ⟨_, rfl⟩
      · exact sound.distinctData group old
      · exact (sound.pairwise_group record.key).sublist List.filter_sublist
  · rw [Store.remove, if_neg known]
    exact sound

theorem Sound.apply {store : Store} (sound : store.Sound) (call : Call) :
    (call.apply store).Sound := by
  cases call with
  | publish record => exact sound.insert record
  | unpublish record => exact sound.remove record

/-- **Every call keeps a store sound.** -/
theorem Sound.run {store : Store} (sound : store.Sound) (calls : List Call) :
    (store.run calls).Sound := by
  induction calls generalizing store with
  | nil => exact sound
  | cons call rest ih => exact ih (sound.apply call)

/-- The published records are those of the groups, each in the group of its key. -/
theorem mem_records_iff {store : Store} (sound : store.Sound) (record : Record) :
    record ∈ store.records ↔ record ∈ store.group record.key := by
  constructor
  · intro published
    obtain ⟨group, member, inside⟩ := List.mem_flatMap.mp published
    rw [sound.filed group member record inside, Store.group,
      groupIn_of_mem sound.distinctKeys member]
    exact inside
  · intro found
    exact List.mem_flatMap.mpr ⟨_, mem_of_mem_groupIn found, found⟩

/-- The records that are looked up are those published under the name with the type. -/
theorem mem_lookup_iff {store : Store} (sound : store.Sound) (name : Name) (recordType : RecordType)
    (record : Record) :
    record ∈ store.lookup name recordType
      ↔ record ∈ store.records ∧ record.owner.fold = name.fold ∧ record.recordType = recordType := by
  rw [mem_records_iff sound]
  constructor
  · intro found
    have own : record.key = ⟨name.fold, recordType⟩ := sound.filed _ (mem_of_mem_groupIn found) _ found
    refine ⟨?_, congrArg RecordKey.owner own, congrArg RecordKey.recordType own⟩
    rw [own]
    exact found
  · rintro ⟨found, owner, type⟩
    rw [lookup, ← owner, ← type]
    exact found

/-- **No two published records publish the same thing.** -/
theorem Sound.pairwise_records {store : Store} (sound : store.Sound) :
    store.records.Pairwise fun first second => ¬first.Same second := by
  rw [records, List.pairwise_flatMap]
  constructor
  · intro group member
    exact (sound.distinctData group member).imp fun different same => different same.2
  · refine (List.pairwise_map.mp sound.distinctKeys).imp_of_mem fun member memberToo different => ?_
    intro first inFirst second inSecond same
    rw [← sound.filed _ member first inFirst, ← sound.filed _ memberToo second inSecond] at different
    exact different ((Record.same_iff first second).mp same).1

theorem Sound.nodup_records {store : Store} (sound : store.Sound) : store.records.Nodup := by
  refine sound.pairwise_records.imp fun {first second} different same => different ?_
  rw [same]
  exact .refl second

/-- What is published after a call was published before, or the call publishes it. -/
theorem mem_records_apply {store : Store} {call : Call} {record : Record}
    (published : record ∈ (call.apply store).records) :
    record ∈ store.records ∨ call = .publish record := by
  obtain ⟨group, member, inside⟩ := List.mem_flatMap.mp published
  cases call with
  | publish added =>
    rw [Call.apply, Call.run, Store.insert] at member
    split at member
    · exact .inl (List.mem_flatMap.mpr ⟨group, member, inside⟩)
    · rcases mem_appended member with old | rfl
      · exact .inl (List.mem_flatMap.mpr ⟨group, old, inside⟩)
      · rcases List.mem_append.mp inside with before | new
        · exact .inl (List.mem_flatMap.mpr ⟨_, mem_of_mem_groupIn before, before⟩)
        · exact .inr (by rw [List.mem_singleton.mp new])
  | unpublish gone =>
    left
    rw [Call.apply, Call.run, Store.remove] at member
    split at member
    · rcases mem_withdrawn member with old | ⟨_, rfl⟩
      · exact List.mem_flatMap.mpr ⟨group, old, inside⟩
      · have before := List.mem_of_mem_filter inside
        exact List.mem_flatMap.mpr ⟨_, mem_of_mem_groupIn before, before⟩
    · exact List.mem_flatMap.mpr ⟨group, member, inside⟩

/-- **What is published after calls was published before or by one of them.** -/
theorem mem_records_run {store : Store} {calls : List Call} {record : Record}
    (published : record ∈ (store.run calls).records) :
    record ∈ store.records ∨ .publish record ∈ calls := by
  induction calls generalizing store with
  | nil => exact .inl published
  | cons call rest ih =>
    rcases ih published with before | later
    · rcases mem_records_apply before with old | rfl
      · exact .inl old
      · exact .inr List.mem_cons_self
    · exact .inr (List.mem_cons_of_mem _ later)

/-- What is published is contained. -/
theorem contains_of_mem_records {store : Store} (sound : store.Sound) {record : Record}
    (published : record ∈ store.records) : store.contains record = true :=
  (contains_iff store record).mpr ⟨record, (mem_records_iff sound record).mp published, rfl⟩

/-! ### What a call does to a record -/

theorem contains_congr {first second : Record} (same : first.Same second) (store : Store) :
    store.contains first = store.contains second := by
  obtain ⟨keys, data⟩ := (Record.same_iff first second).mp same
  simp only [contains, heldIn, keys, data]

theorem contains_insert (store : Store) (added record : Record) :
    (store.insert added).2.contains record = true
      ↔ added.Same record ∨ store.contains record = true := by
  by_cases same : added.Same record
  · simp only [same, true_or, iff_true, ← contains_congr same]
    by_cases known : store.contains added = true
    · rw [insert, if_pos known]
      exact known
    · rw [contains_iff]
      refine ⟨added, ?_, rfl⟩
      rw [group_insert, if_pos ⟨rfl, by simpa using known⟩]
      exact List.mem_append_right _ (List.mem_singleton_self _)
  · simp only [same, false_or]
    rw [contains_iff, contains_iff, group_insert]
    split
    case isTrue new =>
      -- The new record is of the same group, but has other data.
      have other : ¬added.data.fold = record.data.fold :=
        fun data => same ((Record.same_iff _ _).mpr ⟨new.1.symm, data⟩)
      simp only [List.mem_append, List.mem_singleton, or_and_right, exists_or, exists_eq_left,
        other, or_false]
    case isFalse => rfl

theorem contains_remove {store : Store} (sound : store.Sound) (gone record : Record) :
    (store.remove gone).2.contains record = true
      ↔ ¬gone.Same record ∧ store.contains record = true := by
  rw [contains_iff, contains_iff, group_remove sound]
  by_cases own : record.key = gone.key
  · rw [if_pos own, Record.same_iff, own]
    simp only [true_and, remaining, List.mem_filter, bne_iff_ne]
    constructor
    · rintro ⟨held, ⟨member, stays⟩, data⟩
      exact ⟨fun same => stays (data.trans same.symm), held, member, data⟩
    · rintro ⟨different, held, member, data⟩
      exact ⟨held, ⟨member, fun same => different (same.symm.trans data)⟩, data⟩
  · have different : ¬gone.Same record :=
      fun same => own ((Record.same_iff _ _).mp same).1.symm
    simp only [if_neg own, different, not_false_eq_true, true_and]

/-! ### What batches do to a record -/

/-- The store after batches. -/
def dispatchAll (ttl : UInt32) (store : Store) (batches : List Batch) : Store :=
  batches.foldl (dispatch ttl) store

theorem run_flatMap_calls (ttl : UInt32) (store : Store) (batches : List Batch) :
    store.run (batches.flatMap (Batch.calls ttl)) = store.dispatchAll ttl batches := by
  induction batches generalizing store with
  | nil => rfl
  | cons batch rest ih =>
    rw [List.flatMap_cons, run_append, ih]
    rfl

theorem Sound.dispatchAll {store : Store} (sound : store.Sound) (ttl : UInt32)
    (batches : List Batch) : (store.dispatchAll ttl batches).Sound := by
  rw [← run_flatMap_calls]
  exact sound.run _

theorem dispatchAll_append (ttl : UInt32) (store : Store) (first second : List Batch) :
    store.dispatchAll ttl (first ++ second)
      = (store.dispatchAll ttl first).dispatchAll ttl second :=
  List.foldl_append

/-- After a list of records is announced or retracted, those among it are contained or not, and
all others as before. -/
theorem contains_run_calls {store : Store} (sound : store.Sound) (ttl : UInt32) (action : Action)
    (records : List Record) (record : Record) :
    (store.run (records.map fun built => action.call (built.stamped ttl))).contains record = true
      ↔ (record.Among records ∧ action = .announce)
        ∨ (¬record.Among records ∧ store.contains record = true) := by
  induction records generalizing store with
  | nil => simp [run, Record.Among]
  | cons first rest ih =>
    have stamped : (first.stamped ttl).Same record ↔ first.Same record := Iff.rfl
    have among : record.Among (first :: rest) ↔ first.Same record ∨ record.Among rest := by
      simp [Record.Among]
    rw [List.map_cons, run, List.foldl_cons]
    rw [show List.foldl Call.apply _ (rest.map _) = Store.run _ (rest.map _) from rfl,
      ih (sound.apply _), among]
    cases action with
    | announce =>
      simp only [Action.call, Call.apply, Call.run, contains_insert, stamped]
      grind
    | retract =>
      simp only [Action.call, Call.apply, Call.run, contains_remove sound, stamped]
      grind

/-- **A batch decides about the records that it mentions and leaves all others as they are.** -/
theorem contains_dispatch {store : Store} (sound : store.Sound) (ttl : UInt32) (batch : Batch)
    (record : Record) :
    (store.dispatch ttl batch).contains record = true
      ↔ (record.Among batch.records ∧ batch.action = .announce)
        ∨ (¬record.Among batch.records ∧ store.contains record = true) :=
  contains_run_calls sound ttl batch.action batch.records record

/-- Batches that do not mention a record leave it as it is. -/
theorem contains_dispatchAll_of_unmentioned {store : Store} (sound : store.Sound) (ttl : UInt32)
    {batches : List Batch} {record : Record}
    (unmentioned : ∀ batch ∈ batches, ¬record.Among batch.records) :
    (store.dispatchAll ttl batches).contains record = store.contains record := by
  induction batches generalizing store with
  | nil => rfl
  | cons batch rest ih =>
    have here : ¬record.Among batch.records := unmentioned batch List.mem_cons_self
    have step : (store.dispatch ttl batch).contains record = store.contains record := by
      rw [Bool.eq_iff_iff, contains_dispatch sound]
      simp [here]
    rw [dispatchAll, List.foldl_cons, ← step]
    exact ih (sound.run _) fun later member => unmentioned later (List.mem_cons_of_mem _ member)

end Store

/-- The last batch that mentions a record takes an action. -/
def LastMention (record : Record) (action : Action) (batches : List Batch) : Prop :=
  ∃ before batch after, batches = before ++ batch :: after ∧ batch.action = action
    ∧ record.Among batch.records ∧ ∀ later ∈ after, ¬record.Among later.records

/-- Either some batch is the last one to mention a record, or none mentions it. -/
theorem exists_lastMention_or (record : Record) (batches : List Batch) :
    (∃ action, LastMention record action batches)
      ∨ ∀ batch ∈ batches, ¬record.Among batch.records := by
  induction batches with
  | nil => exact .inr fun _ member => by cases member
  | cons batch rest ih =>
    rcases ih with ⟨action, before, last, after, rfl, acts, among, silent⟩ | silent
    · exact .inl ⟨action, batch :: before, last, after, rfl, acts, among, silent⟩
    · by_cases here : record.Among batch.records
      · exact .inl ⟨batch.action, [], batch, rest, rfl, rfl, here, silent⟩
      · right
        intro other member
        rcases List.mem_cons.mp member with rfl | later
        · exact here
        · exact silent other later

namespace Store

/-- The last batch that mentions a record decides. -/
theorem contains_dispatchAll_of_lastMention {store : Store} (sound : store.Sound) (ttl : UInt32)
    {batches : List Batch} {record : Record} {action : Action}
    (last : LastMention record action batches) :
    (store.dispatchAll ttl batches).contains record = true ↔ action = .announce := by
  obtain ⟨before, batch, after, rfl, rfl, among, silent⟩ := last
  have reached : ((store.dispatchAll ttl before).dispatch ttl batch).Sound :=
    (sound.dispatchAll ttl before).run _
  rw [dispatchAll_append, show dispatchAll ttl _ (batch :: after)
    = dispatchAll ttl (dispatch ttl _ batch) after from rfl,
    contains_dispatchAll_of_unmentioned reached ttl silent,
    contains_dispatch (sound.dispatchAll ttl before)]
  simp [among]

/-- **After batches a record is contained exactly if the last batch that mentions it announces it,
or none mentions it and it was contained before.** -/
theorem contains_dispatchAll_iff {store : Store} (sound : store.Sound) (ttl : UInt32)
    (batches : List Batch) (record : Record) :
    (store.dispatchAll ttl batches).contains record = true
      ↔ LastMention record .announce batches
        ∨ (∀ batch ∈ batches, ¬record.Among batch.records) ∧ store.contains record = true := by
  rcases exists_lastMention_or record batches with ⟨action, last⟩ | silent
  · have mentioned : ¬∀ batch ∈ batches, ¬record.Among batch.records := by
      obtain ⟨before, batch, after, rfl, _, among, _⟩ := last
      exact fun silent => silent batch (List.mem_append_right _ List.mem_cons_self) among
    rw [contains_dispatchAll_of_lastMention sound ttl last]
    constructor
    · rintro rfl
      exact .inl last
    · rintro (announced | ⟨silent, _⟩)
      · have contained := (contains_dispatchAll_of_lastMention sound ttl announced).mpr rfl
        exact (contains_dispatchAll_of_lastMention sound ttl last).mp contained
      · exact absurd silent mentioned
  · rw [contains_dispatchAll_of_unmentioned sound ttl silent]
    constructor
    · exact fun contained => .inr ⟨silent, contained⟩
    · rintro (⟨before, batch, after, rfl, _, among, _⟩ | ⟨_, contained⟩)
      · exact absurd among (silent batch (List.mem_append_right _ List.mem_cons_self))
      · exact contained

/-- After announcements alone the store contains what they mention. -/
theorem contains_dispatchAll_of_announcements (ttl : UInt32) {batches : List Batch}
    (announce : ∀ batch ∈ batches, batch.action = .announce) (record : Record) :
    (empty.dispatchAll ttl batches).contains record = true
      ↔ ∃ batch ∈ batches, record.Among batch.records := by
  rw [contains_dispatchAll_iff sound_empty]
  constructor
  · rintro (⟨before, batch, after, rfl, _, among, _⟩ | ⟨_, before⟩)
    · exact ⟨batch, List.mem_append_right _ List.mem_cons_self, among⟩
    · cases before
  · rintro ⟨batch, member, among⟩
    rcases exists_lastMention_or record batches with ⟨action, last⟩ | silent
    · have announced := last
      obtain ⟨before, final, after, rfl, rfl, _, _⟩ := last
      rw [announce final (List.mem_append_right _ List.mem_cons_self)] at announced
      exact .inl announced
    · exact absurd among (silent batch member)

/-- A record that was announced and is only retracted after that is contained exactly if no later
batch mentions it. -/
theorem contains_dispatchAll_of_announced {store : Store} (sound : store.Sound) (ttl : UInt32)
    {before after : List Batch} {announcement : Batch} {record : Record}
    (announces : announcement.action = .announce) (among : record.Among announcement.records)
    (retract : ∀ batch ∈ after, record.Among batch.records → batch.action = .retract) :
    (store.dispatchAll ttl (before ++ announcement :: after)).contains record = true
      ↔ ∀ batch ∈ after, ¬record.Among batch.records := by
  rcases exists_lastMention_or record after with ⟨action, first, batch, last, rfl, _, mentioned, silent⟩
    | silent
  · have follows : batch ∈ first ++ batch :: last := List.mem_append_right _ List.mem_cons_self
    have retracted : LastMention record .retract (before ++ announcement :: (first ++ batch :: last)) :=
      ⟨before ++ announcement :: first, batch, last, by simp, retract batch follows mentioned,
        mentioned, silent⟩
    rw [contains_dispatchAll_of_lastMention sound ttl retracted]
    exact ⟨nofun, fun none => absurd mentioned (none batch follows)⟩
  · have announced : LastMention record .announce (before ++ announcement :: after) :=
      ⟨before, announcement, after, rfl, announces, among, silent⟩
    rw [contains_dispatchAll_of_lastMention sound ttl announced]
    exact ⟨fun _ => silent, fun _ => rfl⟩

end Store

end ClusterMdns
