import ClusterMdns.Proofs.Store.Counts
import ClusterMdns.Proofs.Store.Interleaving
import ClusterMdns.Proofs.Store.Journal
import Mathlib.Data.List.Perm.Basic

/-!
The order in which the batches of several queues arrive does not matter, as long as each queue keeps
its own order and no two queues have a record in common.

* `Journal.Agree` says that two journals say the same about each record, in the same order. What a place
  picks by the entries about its own record alone, journals that agree pick alike (`Agree.picked_perm`):
  the stretches that last and the entries that change anything.
* `serial_run_journal`: the serial of a store counts the entries that change anything.
* `Store.same_of_interleaved`: two interleavings of queues without common records lead to stores with
  the same records, counts and serial.
-/

namespace ClusterMdns

namespace Journal

/-! ### What depends on one record only -/

theorem about_congr {first second : Record} (same : first.Same second) (journal : Journal) :
    about first journal = about second journal :=
  List.filter_congr fun _ _ => decide_eq_decide.mpr
    ⟨fun one => one.trans same, fun two => two.trans same.symm⟩

theorem about_about (record : Record) (journal : Journal) :
    about record (about record journal) = about record journal := by
  rw [about, about, List.filter_filter]
  exact List.filter_congr fun _ _ => Bool.and_self _

theorem lastAction?_about (record : Record) (journal : Journal) :
    lastAction? record (about record journal) = lastAction? record journal := by
  rw [lastAction?, about_about, lastAction?]

/-- A place without the entries about other records than some record. -/
def Place.narrowed (record : Record) (place : Place) : Place :=
  ⟨about record place.before, place.entry, about record place.after⟩

/-- A condition on places that depends on the entries about the record of the place only. -/
def Narrow (picks : Place → Prop) : Prop :=
  ∀ place : Place, picks (place.narrowed place.entry.record) ↔ picks place

/-- **The places about a record, narrowed to it, are those of the entries about it.** -/
theorem places_about (record : Record) (journal : Journal) :
    places (about record journal)
      = ((places journal).filter fun place => place.entry.record.Same record).map
          (Place.narrowed record) := by
  induction journal with
  | nil => rfl
  | cons entry after ih =>
    by_cases same : entry.record.Same record
    · have kept : ∀ before, about record (entry :: before) = entry :: about record before :=
        fun before => by rw [about_cons, if_pos same]
      rw [kept, places, places, ih, List.filter_cons_of_pos (by simpa using same), List.filter_map,
        List.map_cons, List.map_map, List.map_map]
      refine congrArg (_ :: ·) (List.map_congr_left fun place _ => ?_)
      simp only [Function.comp_apply, Place.narrowed, kept]
    · have dropped : ∀ before, about record (entry :: before) = about record before :=
        fun before => by rw [about_cons, if_neg same]
      rw [dropped, places, ih, List.filter_cons_of_neg (by simpa using same), List.filter_map,
        List.map_map]
      refine List.map_congr_left fun place _ => ?_
      simp only [Function.comp_apply, Place.narrowed, dropped]

/-- **The entries about a record that a narrow condition picks are picked without the others.** -/
theorem about_picked {picks : Place → Prop} [DecidablePred picks] (narrow : Narrow picks)
    (record : Record) (journal : Journal) :
    about record (picked picks journal) = picked picks (about record journal) := by
  rw [picked, picked, about, places_about, List.filter_map, List.filter_map, List.map_map,
    List.filter_filter, List.filter_filter]
  have entries : Place.entry ∘ Place.narrowed record = Place.entry := rfl
  rw [entries]
  refine congrArg _ (List.filter_congr fun place _ => ?_)
  rw [Bool.eq_iff_iff, Bool.and_eq_true, Bool.and_eq_true, and_comm]
  simp only [Function.comp_apply, decide_eq_true_eq]
  refine and_congr_left fun same => ?_
  have own : place.narrowed record = place.narrowed place.entry.record := by
    rw [Place.narrowed, Place.narrowed, about_congr same, about_congr same]
  rw [own, narrow place]

/-- Whether an entry changes anything: it announces a record that is not there or retracts one that
is. -/
def Place.Changes (place : Place) : Prop :=
  lastAction? place.entry.record place.before = some .announce ↔ place.entry.action = .retract

instance : DecidablePred Place.Changes := fun _ => inferInstanceAs (Decidable (_ ↔ _))

theorem picked_changes_concat (journal : Journal) (last : Entry) :
    picked Place.Changes (journal ++ [last])
      = picked Place.Changes journal
        ++ if lastAction? last.record journal = some .announce ↔ last.action = .retract then [last]
          else [] := by
  rw [picked, places_concat, List.filter_append, List.map_append, List.filter_map, List.map_map]
  congr 1
  -- What stands after a place does not count.
  by_cases changes : Place.Changes ⟨journal, last, []⟩
  · rw [List.filter_cons_of_pos (by simpa using changes)]
    exact (if_pos changes).symm
  · rw [List.filter_cons_of_neg (by simpa using changes)]
    exact (if_neg changes).symm

theorem narrow_changes : Narrow Place.Changes := by
  intro place
  rw [Place.Changes, Place.Changes, Place.narrowed, lastAction?_about]

theorem narrow_beginsStretch : Narrow Place.BeginsStretch := by
  intro place
  rw [Place.BeginsStretch, Place.BeginsStretch, Place.narrowed, lastAction?_about, about_about]

/-! ### Journals that agree -/

/-- Whether two journals say the same about each record, in the same order. -/
def Agree (first second : Journal) : Prop := ∀ record, about record first = about record second

theorem Agree.perm {first second : Journal} (agree : Agree first second) : first.Perm second := by
  rw [List.perm_iff_count]
  intro entry
  have own : ∀ journal : Journal, (about entry.record journal).count entry = journal.count entry :=
    fun journal => List.count_filter (decide_eq_true (Record.Same.refl entry.record))
  rw [← own first, agree, own second]

/-- **Journals that agree pick the same entries.** -/
theorem Agree.picked_perm {first second : Journal} (agree : Agree first second)
    {picks : Place → Prop} [DecidablePred picks] (narrow : Narrow picks) :
    (picked picks first).Perm (picked picks second) := by
  refine Agree.perm fun record => ?_
  rw [about_picked narrow, about_picked narrow, agree]

/-! ### Interleavings -/

theorem ofBatches_cons (batch : Batch) (rest : List Batch) :
    ofBatches (batch :: rest) = batch.entries ++ ofBatches rest :=
  List.flatMap_cons

/-- **An interleaving says about a record what the queue says that alone mentions it.** -/
theorem about_of_interleaved {record : Record} {queues : List (List Batch)} {taken : List Batch}
    (interleaved : Interleaved queues taken) {sole : Nat}
    (silent : ∀ other, other ≠ sole → about record (ofBatches (queueAt queues other)) = []) :
    about record (ofBatches taken) = about record (ofBatches (queueAt queues sole)) := by
  induction interleaved with
  | @done queues empty =>
    cases found : queues[sole]? with
    | none => rw [queueAt, found, Option.getD_none]
    | some queue => rw [queueAt, found, Option.getD_some, empty queue (List.mem_of_getElem? found)]
  | @next queues position first left later waiting rest ih =>
    have waits : queueAt queues position = first :: left := by
      rw [queueAt, waiting, Option.getD_some]
    simp only [queueAt_set (List.getElem?_eq_some_iff.mp waiting).1] at ih
    rw [ofBatches_cons, about_append]
    by_cases here : sole = position
    · subst here
      rw [waits, ofBatches_cons, about_append, ih fun other different => ?_, if_pos rfl]
      rw [if_neg different]
      exact silent other different
    · have nothing := silent position (Ne.symm here)
      rw [waits, ofBatches_cons, about_append, List.append_eq_nil_iff] at nothing
      rw [nothing.1, List.nil_append, ih fun other different => ?_, if_neg here]
      split
      · exact nothing.2
      · exact silent other different

/-- Whether no batch of one queue has a record in common with a batch of another one. -/
def Separate (first second : List Batch) : Prop :=
  ∀ one ∈ first.flatMap Batch.records, ∀ other ∈ second.flatMap Batch.records, ¬one.Same other

instance (first second : List Batch) : Decidable (Separate first second) :=
  inferInstanceAs (Decidable (∀ _ ∈ _, ∀ _ ∈ _, _))

theorem about_eq_nil_iff (record : Record) (batches : List Batch) :
    about record (ofBatches batches) = [] ↔ ¬record.Among (batches.flatMap Batch.records) := by
  have mentioned : (ofBatches batches).map Entry.record = batches.flatMap Batch.records := by
    rw [ofBatches, List.map_flatMap]
    refine List.flatMap_congr fun batch _ => ?_
    rw [Batch.entries, List.map_map]
    exact List.map_id _
  rw [about, List.filter_eq_nil_iff, ← mentioned, Record.Among]
  simp

theorem separate_queueAt {queues : List (List Batch)} (separate : queues.Pairwise Separate)
    {first second : Nat} (different : first ≠ second) :
    Separate (queueAt queues first) (queueAt queues second) := by
  have inside : ∀ {position record}, record ∈ (queueAt queues position).flatMap Batch.records →
      position < queues.length := by
    intro position record member
    refine lt_length_of_queueAt_ne_nil fun nothing => ?_
    rw [nothing] at member
    cases member
  intro one inFirst other inSecond
  have firstBound := inside inFirst
  have secondBound := inside inSecond
  rw [queueAt_eq_getElem firstBound] at inFirst
  rw [queueAt_eq_getElem secondBound] at inSecond
  rw [List.pairwise_iff_getElem] at separate
  rcases Nat.lt_or_gt_of_ne different with before | after
  · exact separate first second firstBound secondBound before one inFirst other inSecond
  · exact fun same =>
      separate second first secondBound firstBound after other inSecond one inFirst same.symm

/-- At most one of several queues without common records mentions a record. -/
theorem exists_sole_queue {queues : List (List Batch)} (separate : queues.Pairwise Separate)
    (record : Record) :
    ∃ sole, ∀ other, other ≠ sole → about record (ofBatches (queueAt queues other)) = [] := by
  by_cases mentioned : ∃ sole, record.Among ((queueAt queues sole).flatMap Batch.records)
  · obtain ⟨sole, here⟩ := mentioned
    refine ⟨sole, fun other different => (about_eq_nil_iff _ _).mpr fun there => ?_⟩
    obtain ⟨one, inSole, same⟩ := here
    obtain ⟨two, inOther, sameToo⟩ := there
    exact separate_queueAt separate (Ne.symm different) one inSole two inOther
      (same.trans sameToo.symm)
  · exact ⟨0, fun other _ => (about_eq_nil_iff _ _).mpr fun there => mentioned ⟨other, there⟩⟩

/-- **Interleavings of queues without common records agree.** -/
theorem agree_of_interleaved {queues : List (List Batch)} (separate : queues.Pairwise Separate)
    {first second : List Batch} (one : Interleaved queues first) (two : Interleaved queues second) :
    Agree (ofBatches first) (ofBatches second) := by
  intro record
  obtain ⟨sole, silent⟩ := exists_sole_queue separate record
  rw [about_of_interleaved one silent, about_of_interleaved two silent]

end Journal

namespace Store

open Journal

/-! ### Stores of journals that agree -/

/-- **The serial counts the entries that change anything.** -/
theorem serial_run_journal (ttl : UInt32) (journal : Journal) :
    (empty.run (journal.map (Entry.call ttl))).serial
      = UInt32.ofNat (picked Place.Changes journal).length := by
  induction journal using List.reverseRecOn with
  | nil => rfl
  | append_singleton journal last ih =>
    obtain ⟨action, record⟩ := last
    have known : (empty.run (journal.map (Entry.call ttl))).contains (record.stamped ttl) = true
        ↔ lastAction? record journal = some .announce := by
      rw [contains_congr (record.stamped_same ttl), (shows_run ttl journal).contains_iff]
    rw [List.map_append, run_append, picked_changes_concat, List.length_append, UInt32.ofNat_add, ← ih]
    cases action with
    | announce =>
      show (Store.insert _ (record.stamped ttl)).2.serial = _
      rw [serial_insert]
      by_cases there : lastAction? record journal = some .announce <;> simp [known, there]
    | retract =>
      show (Store.remove _ (record.stamped ttl)).2.serial = _
      rw [serial_remove]
      by_cases there : lastAction? record journal = some .announce <;> simp [known, there]

theorem serial_dispatchAll (ttl : UInt32) (batches : List Batch) :
    (empty.dispatchAll ttl batches).serial
      = UInt32.ofNat (picked Place.Changes (ofBatches batches)).length := by
  rw [← run_flatMap_calls, flatMap_calls, serial_run_journal]

/-- Stores that show journals that agree hold the same records. -/
theorem records_perm_of_agree {ttl : UInt32} {first second : Journal} {left right : Store}
    (agree : Agree first second) (leftSound : left.Sound) (rightSound : right.Sound)
    (leftShows : left.Shows ttl first) (rightShows : right.Shows ttl second) :
    left.records.Perm right.records := by
  rw [List.perm_ext_iff_of_nodup leftSound.nodup_records rightSound.nodup_records]
  intro record
  rw [leftShows.mem_records_iff leftSound, rightShows.mem_records_iff rightSound]
  refine exists_congr fun entry => and_congr_left fun _ => ?_
  exact (agree.picked_perm narrow_beginsStretch).mem_iff

/-- **The order among queues without common records does not matter.** Take any queues of batches no
two of which have a record in common, and any two interleavings of them, dispatched to empty stores
with the same time to live. Then look-ups give the same records in the same spelling, and the stores
count the same records, names and changes. -/
theorem same_of_interleaved (ttl : UInt32) {queues : List (List Batch)}
    (separate : queues.Pairwise Separate) {first second : List Batch} (one : Interleaved queues first)
    (two : Interleaved queues second) :
    let left := empty.dispatchAll ttl first
    let right := empty.dispatchAll ttl second
    (∀ owner recordType, (left.lookup owner recordType).Perm (right.lookup owner recordType)) ∧
      left.recordsCount = right.recordsCount ∧ left.namesCount = right.namesCount ∧
      left.serial = right.serial := by
  intro left right
  have agree := agree_of_interleaved separate one two
  have leftSound : left.Sound := sound_empty.dispatchAll ttl first
  have rightSound : right.Sound := sound_empty.dispatchAll ttl second
  have leftShows : left.Shows ttl (ofBatches first) := shows_dispatchAll ttl first
  have rightShows : right.Shows ttl (ofBatches second) := shows_dispatchAll ttl second
  have records := records_perm_of_agree agree leftSound rightSound leftShows rightShows
  refine ⟨fun owner recordType => ?_, records.length_eq, namesCount_congr fun owner => ?_, ?_⟩
  · rw [lookup, lookup, leftShows, rightShows]
    exact ((agree.picked_perm narrow_beginsStretch).filter _).map _
  · rw [mem_owners_iff leftSound, mem_owners_iff rightSound]
    exact exists_congr fun record => and_congr_left fun _ => records.mem_iff
  · rw [serial_dispatchAll, serial_dispatchAll, (agree.picked_perm narrow_changes).length_eq]

/-- Two queues give addresses to one name, and one of them takes its address back and gives it again in
another spelling. Whether it comes first or last, there are two records, and four changes were made. -/
theorem same_of_interleaved_at_one_name :
    let capital : Record := .built ⟨[[65]]⟩ (.a ⟨192, 0, 2, 1⟩)
    let small : Record := .built ⟨[[97]]⟩ (.a ⟨192, 0, 2, 1⟩)
    let other : Record := .built ⟨[[65]]⟩ (.a ⟨192, 0, 2, 2⟩)
    let services : List Batch :=
      [⟨.service, .announce, [capital]⟩, ⟨.service, .retract, [capital]⟩,
        ⟨.service, .announce, [small]⟩]
    let ingresses : List Batch := [⟨.ingress, .announce, [other, other]⟩]
    let left := empty.dispatchAll 120 (services ++ ingresses)
    let right := empty.dispatchAll 120 (ingresses ++ services)
    [services, ingresses].Pairwise Separate ∧
      Interleaved [services, ingresses] (services ++ ingresses) ∧
      Interleaved [services, ingresses] (ingresses ++ services) ∧
      left.lookup ⟨[[97]]⟩ .a = [small.stamped 120, other.stamped 120] ∧
      right.lookup ⟨[[97]]⟩ .a = [other.stamped 120, small.stamped 120] ∧
      (left.lookup ⟨[[97]]⟩ .a).Perm (right.lookup ⟨[[97]]⟩ .a) ∧
      left.recordsCount = right.recordsCount ∧ left.namesCount = right.namesCount ∧
      left.serial = right.serial ∧ right.serial = 4 := by
  intro capital small other services ingresses left right
  have separate : [services, ingresses].Pairwise Separate := by decide
  have one : Interleaved [services, ingresses] (services ++ ingresses) :=
    interleaved_of_queued (services.map (0, ·) ++ ingresses.map (1, ·)) fun position => by
      match position with
      | 0 | 1 => rfl
      | _ + 2 => rfl
  have two : Interleaved [services, ingresses] (ingresses ++ services) :=
    interleaved_of_queued (ingresses.map (1, ·) ++ services.map (0, ·)) fun position => by
      match position with
      | 0 | 1 => rfl
      | _ + 2 => rfl
  obtain ⟨lookups, records, names, serial⟩ := same_of_interleaved 120 separate one two
  exact ⟨separate, one, two, by decide, by decide, lookups ⟨[[97]]⟩ .a, records, names, serial, by decide⟩

end Store

end ClusterMdns
