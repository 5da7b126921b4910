import ClusterMdns.Proofs.Store.Counts
import Mathlib.Algebra.Group.Nat.Defs

/-!
The calls that change a store, counted.

Each call says whether it changed the store. A call that changed it publishes one record more or one
less: in a sound store no two records of a group have the same data, so that a withdrawal takes one record
away and not several (`Sound.length_remaining`). Whoever counts the answers knows the serial and how many
records there are.

* `insert_eq_insertInGroup` and `Sound.remove_eq_removeInGroup`: the calls as they go through the group of
  the record, which is opened before it is looked through and goes with its last record.
* `recordsCount_insert` and `Sound.recordsCount_remove`: what one call does to the number of records.
* `serial_run` and `Sound.recordsCount_run`: what all calls do to the serial and to the number of
  records, told by those that changed anything (`effective`).
* `changes_counted`: this from the empty store, and what each call answers.
-/

namespace ClusterMdns

namespace Call

def isPublication : Call → Bool
  | publish _ => true
  | unpublish _ => false

def isWithdrawal : Call → Bool
  | publish _ => false
  | unpublish _ => true

end Call

namespace Store

/-! ### The calls as they go through a group -/

/-- Groups with one for a key, which is empty if there was none. -/
def opened (key : RecordKey) : List (RecordKey × List Record) → List (RecordKey × List Record)
  | [] => [(key, [])]
  | group :: rest => if group.1 = key then group :: rest else group :: opened key rest

/-- Groups with other records in the group of a key. -/
def refilled (key : RecordKey) (records : List Record) :
    List (RecordKey × List Record) → List (RecordKey × List Record)
  | [] => []
  | group :: rest =>
    if group.1 = key then (group.1, records) :: rest else group :: refilled key records rest

/-- Groups without the one of a key. -/
def dropped (key : RecordKey) : List (RecordKey × List Record) → List (RecordKey × List Record)
  | [] => []
  | group :: rest => if group.1 = key then rest else group :: dropped key rest

/-- Publishing by way of the group: it is opened, even for a new key, and the record goes to its end
unless its data are there. -/
def insertInGroup (store : Store) (record : Record) : Bool × Store :=
  let groups := opened record.key store.groups
  let group := groupIn record.key groups
  if heldIn record group then (false, ⟨groups, store.serial⟩)
  else (true, ⟨refilled record.key (group ++ [record]) groups, store.serial + 1⟩)

/-- Withdrawing by way of the group: all of its records with the data go, and an empty group goes with
them. Whether that changed the store shows in the length of the group. -/
def removeInGroup (store : Store) (record : Record) : Bool × Store :=
  if record.key ∈ store.groups.map Prod.fst then
    let group := store.group record.key
    let left := remaining record group
    let changed := left.length != group.length
    let groups :=
      if left.isEmpty then dropped record.key store.groups
      else refilled record.key left store.groups
    (changed, ⟨groups, if changed then store.serial + 1 else store.serial⟩)
  else (false, store)

section Groups

variable {groups : List (RecordKey × List Record)}

theorem groupIn_opened (key : RecordKey) : groupIn key (opened key groups) = groupIn key groups := by
  induction groups with
  | nil => simp [opened, groupIn]
  | cons first rest ih =>
    by_cases own : first.1 = key
    · rw [opened, if_pos own]
    · rw [opened, if_neg own, groupIn, groupIn, if_neg own, if_neg own, ih]

/-- Nothing has to be opened where a record is found. -/
theorem opened_of_mem {key : RecordKey} {held : Record} (found : held ∈ groupIn key groups) :
    opened key groups = groups := by
  induction groups with
  | nil => cases found
  | cons first rest ih =>
    by_cases own : first.1 = key
    · rw [opened, if_pos own]
    · rw [groupIn, if_neg own] at found
      rw [opened, if_neg own, ih found]

theorem refilled_opened (record : Record) :
    refilled record.key (groupIn record.key groups ++ [record]) (opened record.key groups)
      = appended record groups := by
  induction groups with
  | nil => simp [opened, refilled, groupIn, appended]
  | cons first rest ih =>
    by_cases own : first.1 = record.key
    · simp only [opened, refilled, groupIn, appended, if_pos own]
    · simp only [opened, refilled, groupIn, appended, if_neg own, ih]

theorem refilled_groupIn (key : RecordKey) : refilled key (groupIn key groups) groups = groups := by
  induction groups with
  | nil => rfl
  | cons first rest ih =>
    by_cases own : first.1 = key
    · rw [refilled, if_pos own, groupIn, if_pos own]
    · rw [refilled, if_neg own, groupIn, if_neg own, ih]

theorem withdrawn_eq (record : Record) (inhabited : groupIn record.key groups ≠ []) :
    withdrawn record groups
      = if (remaining record (groupIn record.key groups)).isEmpty then dropped record.key groups
        else refilled record.key (remaining record (groupIn record.key groups)) groups := by
  induction groups with
  | nil => exact absurd rfl inhabited
  | cons first rest ih =>
    by_cases own : first.1 = record.key
    · simp only [withdrawn, refilled, dropped, groupIn, if_pos own]
    · rw [groupIn, if_neg own] at inhabited
      simp only [withdrawn, refilled, dropped, groupIn, if_neg own, ih inhabited]
      split <;> rfl

/-- Groups hold one record more after one is appended. -/
theorem length_flatMap_appended (record : Record) :
    ((appended record groups).flatMap Prod.snd).length = (groups.flatMap Prod.snd).length + 1 := by
  induction groups with
  | nil => rfl
  | cons first rest ih =>
    by_cases own : first.1 = record.key
    · simp only [appended, if_pos own, List.flatMap_cons, List.length_append, List.length_singleton]
      omega
    · simp only [appended, if_neg own, List.flatMap_cons, List.length_append, ih]
      omega

/-- Groups lose the records that the group of a withdrawal loses. -/
theorem length_flatMap_withdrawn (record : Record) :
    ((withdrawn record groups).flatMap Prod.snd).length + (groupIn record.key groups).length
      = (groups.flatMap Prod.snd).length
        + (remaining record (groupIn record.key groups)).length := by
  induction groups with
  | nil => rfl
  | cons first rest ih =>
    by_cases own : first.1 = record.key
    · simp only [withdrawn, groupIn, if_pos own, List.flatMap_cons, List.length_append]
      split
      case isTrue left =>
        rw [List.isEmpty_iff.mp left]
        simp only [List.length_nil]
        omega
      case isFalse =>
        simp only [List.flatMap_cons, List.length_append]
        omega
    · simp only [withdrawn, groupIn, if_neg own, List.flatMap_cons, List.length_append]
      omega

end Groups

theorem insert_eq_insertInGroup (store : Store) (record : Record) :
    store.insert record = store.insertInGroup record := by
  unfold insert insertInGroup contains group
  dsimp only
  rw [groupIn_opened, refilled_opened]
  split
  case isTrue known =>
    obtain ⟨held, found, -⟩ := List.any_eq_true.mp known
    rw [opened_of_mem found]
  case isFalse => rfl

/-! ### How many records there are -/

/-- **A withdrawal takes one record of its group**, if the store contains it. -/
theorem Sound.length_remaining {store : Store} (sound : store.Sound) {record : Record}
    (known : store.contains record = true) :
    (remaining record (store.group record.key)).length + 1 = (store.group record.key).length := by
  obtain ⟨held, found, same⟩ := (contains_iff store record).mp known
  have apart := sound.pairwise_group record.key
  obtain ⟨before, after, split⟩ := List.append_of_mem found
  rw [split, List.pairwise_append, List.pairwise_cons] at apart
  have earlier : before.filter (fun other => other.data.fold != record.data.fold) = before :=
    List.filter_eq_self.mpr fun other inside =>
      bne_iff_ne.mpr (same ▸ apart.2.2 other inside held List.mem_cons_self)
  have later : after.filter (fun other => other.data.fold != record.data.fold) = after :=
    List.filter_eq_self.mpr fun other inside =>
      bne_iff_ne.mpr (same ▸ (apart.2.1.1 other inside).symm)
  rw [split, remaining, List.filter_append, List.filter_cons_of_neg (by simp [same]), earlier, later]
  simp only [List.length_append, List.length_cons]
  omega

theorem remaining_eq_self {store : Store} {record : Record} (unknown : store.contains record = false) :
    remaining record (store.group record.key) = store.group record.key := by
  refine List.filter_eq_self.mpr fun held member => bne_iff_ne.mpr fun same => ?_
  have known := (contains_iff store record).mpr ⟨held, member, same⟩
  rw [unknown] at known
  cases known

/-- The group of a key that some group has is not empty. -/
theorem Sound.group_ne_nil {store : Store} (sound : store.Sound) {key : RecordKey}
    (present : key ∈ store.groups.map Prod.fst) : store.group key ≠ [] := by
  obtain ⟨group, member, rfl⟩ := List.mem_map.mp present
  rw [Store.group, groupIn_of_mem sound.distinctKeys member]
  exact sound.inhabited group member

theorem Sound.remove_eq_removeInGroup {store : Store} (sound : store.Sound) (record : Record) :
    store.remove record = store.removeInGroup record := by
  unfold Store.remove removeInGroup
  by_cases known : store.contains record = true
  · obtain ⟨held, found, -⟩ := (contains_iff store record).mp known
    have present : record.key ∈ store.groups.map Prod.fst :=
      List.mem_map_of_mem (mem_of_mem_groupIn found)
    have shorter : ((remaining record (store.group record.key)).length
        != (store.group record.key).length) = true :=
      bne_iff_ne.mpr (by have := sound.length_remaining known; omega)
    rw [if_pos known, if_pos present, withdrawn_eq record (List.ne_nil_of_mem found)]
    simp only [shorter, if_true]
    rfl
  · have unknown := Bool.eq_false_iff.mpr known
    rw [if_neg known]
    split
    case isTrue present =>
      have full : (store.group record.key).isEmpty = false :=
        List.isEmpty_eq_false_iff.mpr (sound.group_ne_nil present)
      simp only [remaining_eq_self unknown, bne_self_eq_false, full, Bool.false_eq_true, if_false]
      rw [group, refilled_groupIn]
    case isFalse => rfl

theorem recordsCount_insert (store : Store) (record : Record) :
    (store.insert record).2.recordsCount
      = if store.contains record = true then store.recordsCount else store.recordsCount + 1 := by
  unfold insert
  split
  · rfl
  · exact length_flatMap_appended record

theorem Sound.recordsCount_remove {store : Store} (sound : store.Sound) (record : Record) :
    (store.remove record).2.recordsCount + (if store.contains record = true then 1 else 0)
      = store.recordsCount := by
  unfold Store.remove
  split
  case isTrue known =>
    have fewer := @length_flatMap_withdrawn store.groups record
    have one : (remaining record (groupIn record.key store.groups)).length + 1
        = (groupIn record.key store.groups).length := sound.length_remaining known
    show ((withdrawn record store.groups).flatMap Prod.snd).length + 1
      = (store.groups.flatMap Prod.snd).length
    omega
  case isFalse => rfl

/-! ### What calls answer -/

theorem insert_fst (store : Store) (record : Record) :
    (store.insert record).1 = !store.contains record := by
  unfold insert
  split
  case isTrue known => rw [known]; rfl
  case isFalse unknown => rw [Bool.eq_false_iff.mpr unknown]; rfl

theorem remove_fst (store : Store) (record : Record) :
    (store.remove record).1 = store.contains record := by
  unfold remove
  split
  case isTrue known => rw [known]
  case isFalse unknown => rw [Bool.eq_false_iff.mpr unknown]

/-- **A call that answers that it changed nothing leaves the store as it is.** -/
theorem run_snd_of_unchanged {store : Store} {call : Call} (unchanged : (call.run store).1 = false) :
    (call.run store).2 = store := by
  cases call with
  | publish record =>
    have known : store.contains record = true := by
      rwa [Call.run, insert_fst, Bool.not_eq_false'] at unchanged
    rw [Call.run, insert, if_pos known]
  | unpublish record =>
    have unknown : store.contains record = false := by rwa [Call.run, remove_fst] at unchanged
    rw [Call.run, remove, if_neg (Bool.eq_false_iff.mp unknown)]

/-- The serial counts a call that changed the store. -/
theorem serial_call (store : Store) (call : Call) :
    (call.run store).2.serial = store.serial + if (call.run store).1 = true then 1 else 0 := by
  cases call with
  | publish record =>
    rw [Call.run, serial_insert, insert_fst]
    cases store.contains record <;> simp
  | unpublish record =>
    rw [Call.run, serial_remove, remove_fst]
    cases store.contains record <;> simp

/-- A call that changed the store published one record more, or withdrew one. -/
theorem Sound.recordsCount_call {store : Store} (sound : store.Sound) (call : Call) :
    (call.run store).2.recordsCount
        + (if (call.run store).1 = true ∧ call.isWithdrawal = true then 1 else 0)
      = store.recordsCount
        + if (call.run store).1 = true ∧ call.isPublication = true then 1 else 0 := by
  cases call with
  | publish record =>
    rw [Call.run, recordsCount_insert, insert_fst]
    cases store.contains record <;> simp [Call.isWithdrawal, Call.isPublication]
  | unpublish record =>
    have count := sound.recordsCount_remove record
    rw [Call.run, remove_fst]
    simpa [Call.isWithdrawal, Call.isPublication] using count

/-- The calls of a list that change the store when all are made one after another. -/
def effective (store : Store) : List Call → List Call
  | [] => []
  | call :: rest =>
    let (changed, next) := call.run store
    if changed then call :: effective next rest else effective next rest

theorem effective_cons (store : Store) (call : Call) (rest : List Call) :
    store.effective (call :: rest)
      = (if (call.run store).1 = true then [call] else []) ++ (call.apply store).effective rest := by
  show (if (call.run store).1 = true then call :: (call.apply store).effective rest
    else (call.apply store).effective rest) = _
  split <;> rfl

/-- **The serial counts the calls that change the store.** -/
theorem serial_run (store : Store) (calls : List Call) :
    (store.run calls).serial = store.serial + UInt32.ofNat (store.effective calls).length := by
  induction calls generalizing store with
  | nil => exact (UInt32.add_zero _).symm
  | cons call rest ih =>
    rw [show store.run (call :: rest) = (call.apply store).run rest from rfl, ih, effective_cons,
      show (call.apply store).serial = _ from serial_call store call, List.length_append,
      UInt32.ofNat_add, UInt32.add_assoc]
    split <;> rfl

/-- **The records are those that were there, with one for each publication and without one for each
withdrawal that changed the store.** -/
theorem Sound.recordsCount_run {store : Store} (sound : store.Sound) (calls : List Call) :
    (store.run calls).recordsCount + (store.effective calls).countP Call.isWithdrawal
      = store.recordsCount + (store.effective calls).countP Call.isPublication := by
  induction calls generalizing store with
  | nil => rfl
  | cons call rest ih =>
    have later := ih (sound.apply call)
    have now : (call.apply store).recordsCount + _ = _ := sound.recordsCount_call call
    rw [show store.run (call :: rest) = (call.apply store).run rest from rfl, effective_cons,
      List.countP_append, List.countP_append]
    by_cases changed : (call.run store).1 = true
    · simp only [changed, true_and, if_true, List.countP_singleton] at now ⊢
      omega
    · simp only [changed, false_and, if_false, List.countP_nil, Bool.false_eq_true] at now ⊢
      omega

/-- Whether a store contains a record shows in its records. -/
theorem Sound.contains_iff_exists {store : Store} (sound : store.Sound) (record : Record) :
    store.contains record = true ↔ ∃ held ∈ store.records, held.Same record := by
  constructor
  · intro known
    obtain ⟨held, found, same⟩ := (contains_iff store record).mp known
    have member := mem_of_mem_groupIn found
    exact ⟨held, List.mem_flatMap.mpr ⟨_, member, found⟩,
      (Record.same_iff held record).mpr ⟨sound.filed _ member held found, same⟩⟩
  · rintro ⟨held, published, same⟩
    rw [← contains_congr same]
    exact contains_of_mem_records sound published

/-- **The calls that change a store are accounted for.** Take any calls, made one after another from the
empty store, and those among them that answered that they changed it.

* The serial is their number, up to the size of a word.
* The number of records is that of the publications among them without that of the withdrawals.
* A further call that answers that it changed nothing leaves the store exactly as it is.
* A publication changes the store exactly if no record that publishes the same is there, and a withdrawal
  exactly if one is.
* All this holds of the calls as they go through the group of the record, although one opens a group
  before it knows whether it needs it, and the other may take several records away and counts them as
  one. -/
theorem changes_counted (calls : List Call) :
    let store := empty.run calls
    let changes := empty.effective calls
    store.serial.toNat = changes.length % 2 ^ 32 ∧
      (store.recordsCount : Int)
        = changes.countP Call.isPublication - changes.countP Call.isWithdrawal ∧
      (∀ call : Call, (call.run store).1 = false → (call.run store).2 = store) ∧
      (∀ record, ((store.insert record).1 = true ↔ ¬∃ held ∈ store.records, held.Same record) ∧
        ((store.remove record).1 = true ↔ ∃ held ∈ store.records, held.Same record)) ∧
      ∀ record, store.insert record = store.insertInGroup record ∧
        store.remove record = store.removeInGroup record := by
  intro store changes
  have sound : store.Sound := sound_empty.run calls
  refine ⟨?_, ?_, fun call => run_snd_of_unchanged, fun record => ⟨?_, ?_⟩,
    fun record => ⟨insert_eq_insertInGroup store record, sound.remove_eq_removeInGroup record⟩⟩
  · have serial : store.serial = 0 + UInt32.ofNat changes.length := serial_run empty calls
    rw [serial, UInt32.zero_add, UInt32.toNat_ofNat']
  · have count : store.recordsCount + changes.countP Call.isWithdrawal
        = 0 + changes.countP Call.isPublication := sound_empty.recordsCount_run calls
    omega
  · rw [insert_fst, Bool.not_eq_true', ← Bool.not_eq_true, sound.contains_iff_exists]
  · rw [remove_fst, sound.contains_iff_exists]

/-- A pointer from `A` to itself, published and withdrawn twice in different spellings: each time the
second call changes nothing. -/
theorem changes_counted_of_repeated_calls :
    let capital : Record := .built ⟨[[65]]⟩ (.ptr ⟨[[65]]⟩)
    let small : Record := .built ⟨[[97]]⟩ (.ptr ⟨[[97]]⟩)
    let calls : List Call :=
      [.publish capital, .publish small, .unpublish small, .unpublish capital]
    let store := empty.run calls
    empty.effective calls = [.publish capital, .unpublish small] ∧
      store.serial.toNat = 2 ∧ store.recordsCount = 0 ∧
      ((store.insert small).1 = true ↔ ¬∃ held ∈ store.records, held.Same small) := by
  intro capital small calls store
  have effective : empty.effective calls = [.publish capital, .unpublish small] := by decide
  obtain ⟨serial, count, _, answers, _⟩ := changes_counted calls
  rw [effective] at serial count
  exact ⟨effective, serial, Int.ofNat.inj count, (answers small).1⟩

end Store

end ClusterMdns
