import ClusterMdns.Proofs.Store.Contents
import Mathlib.Data.List.Induction

/-!
The store as a view of the journal: of all that batches say about records, one entry for each record of
each batch.

* `Journal.lastAction?` is what the last entry about a record does with it, and `Journal.lasting` are
  the entries that begin a stretch in which their record is published and which has not ended.
* `lastAction?_eq_announce_iff`: the last entry about a record announces it exactly if a stretch of the
  record lasts.
* `Store.shows_run`: each group of a store holds the records of the lasting stretches of its key, in
  the order in which the stretches began (`Store.Shows`).
* `Store.holds_last_announced`: what this means for every record and every look-up.
-/

namespace ClusterMdns

/-- What a batch says about one of its records. -/
structure Entry where
  action : Action
  record : Record
deriving DecidableEq, Repr

/-- What a batch says about its records, in order. -/
def Batch.entries (batch : Batch) : List Entry := batch.records.map (Entry.mk batch.action)

/-- The call that an entry becomes. -/
def Entry.call (ttl : UInt32) (entry : Entry) : Call := entry.action.call (entry.record.stamped ttl)

/-- Whether an entry, coming after another one, retracts the record of that one. -/
def Entry.Ends (last entry : Entry) : Prop :=
  last.action = .retract ∧ last.record.Same entry.record

instance (last entry : Entry) : Decidable (last.Ends entry) := inferInstanceAs (Decidable (_ ∧ _))

theorem Batch.calls_eq_map_entries (ttl : UInt32) (batch : Batch) :
    batch.calls ttl = batch.entries.map (Entry.call ttl) := by
  rw [calls, entries, List.map_map]
  rfl

/-- All that was said about records, in order. -/
abbrev Journal := List Entry

namespace Journal

def ofBatches (batches : List Batch) : Journal := batches.flatMap Batch.entries

theorem flatMap_calls (ttl : UInt32) (batches : List Batch) :
    batches.flatMap (Batch.calls ttl) = (ofBatches batches).map (Entry.call ttl) := by
  rw [ofBatches, List.map_flatMap]
  exact List.flatMap_congr fun batch _ => batch.calls_eq_map_entries ttl

/-! ### The last entry about a record -/

/-- The entries about records that publish the same thing as a record. -/
def about (record : Record) (journal : Journal) : Journal :=
  journal.filter fun entry => entry.record.Same record

/-- What the last entry about a record does with it; none if there is no such entry. -/
def lastAction? (record : Record) (journal : Journal) : Option Action :=
  (about record journal).getLast?.map Entry.action

theorem about_append (record : Record) (first second : Journal) :
    about record (first ++ second) = about record first ++ about record second :=
  List.filter_append first second

theorem about_cons (record : Record) (entry : Entry) (journal : Journal) :
    about record (entry :: journal)
      = if entry.record.Same record then entry :: about record journal else about record journal := by
  by_cases same : entry.record.Same record <;> simp [about, same]

theorem about_singleton (record : Record) (entry : Entry) :
    about record [entry] = if entry.record.Same record then [entry] else [] :=
  about_cons record entry []

theorem lastAction?_concat (record : Record) (journal : Journal) (last : Entry) :
    lastAction? record (journal ++ [last])
      = if last.record.Same record then some last.action else lastAction? record journal := by
  rw [lastAction?, about_append, about_singleton]
  split
  · rw [List.getLast?_concat, Option.map_some]
  · rw [List.append_nil, lastAction?]

/-! ### Places in a journal -/

/-- An entry of a journal with what stands before and after it. -/
structure Place where
  before : Journal
  entry : Entry
  after : Journal

/-- The places of a journal, in order. -/
def places : Journal → List Place
  | [] => []
  | entry :: after =>
    ⟨[], entry, after⟩
      :: (places after).map fun place => { place with before := entry :: place.before }

theorem mem_places_iff (journal : Journal) (place : Place) :
    place ∈ places journal ↔ place.before ++ place.entry :: place.after = journal := by
  induction journal generalizing place with
  | nil => simp [places]
  | cons first rest ih =>
    obtain ⟨before, entry, after⟩ := place
    rw [places, List.mem_cons, List.mem_map]
    constructor
    · rintro (here | ⟨later, member, same⟩)
      · cases here
        rfl
      · cases same
        rw [List.cons_append, (ih later).mp member]
    · intro split
      cases before with
      | nil =>
        cases split
        exact .inl rfl
      | cons earlier before =>
        cases split
        exact .inr ⟨⟨before, entry, after⟩, (ih _).mpr rfl, rfl⟩

/-- One more entry stands after all places and makes a last one. -/
theorem places_concat (journal : Journal) (last : Entry) :
    places (journal ++ [last])
      = (places journal).map (fun place => { place with after := place.after ++ [last] })
        ++ [⟨journal, last, []⟩] := by
  induction journal with
  | nil => rfl
  | cons first rest ih =>
    simp only [List.cons_append, places, ih, List.map_append, List.map_cons, List.map_map,
      List.map_nil, Function.comp_def]

/-- The entries of a journal at the places that some condition picks. -/
def picked (picks : Place → Prop) [DecidablePred picks] (journal : Journal) : Journal :=
  ((places journal).filter picks).map Place.entry

/-! ### Stretches of presence -/

/-- Whether an entry begins a stretch of presence that has not ended: it announces a record that is
not there before it, and no entry after it retracts the record. -/
def Place.BeginsStretch (place : Place) : Prop :=
  place.entry.action = .announce ∧ lastAction? place.entry.record place.before ≠ some .announce ∧
    ∀ later ∈ about place.entry.record place.after, later.action = .announce

instance : DecidablePred Place.BeginsStretch := fun _ => inferInstanceAs (Decidable (_ ∧ _ ∧ _))

/-- The entries whose stretches last, in the order in which the stretches began. -/
def lasting (journal : Journal) : Journal := picked Place.BeginsStretch journal

/-- A further entry leaves a stretch as it is, unless it ends it. -/
theorem beginsStretch_concat_iff (place : Place) (last : Entry) :
    Place.BeginsStretch { place with after := place.after ++ [last] }
      ↔ ¬last.Ends place.entry ∧ place.BeginsStretch := by
  obtain ⟨before, entry, after⟩ := place
  have silent : (∀ later ∈ about entry.record (after ++ [last]), later.action = .announce)
      ↔ ¬last.Ends entry ∧ ∀ later ∈ about entry.record after, later.action = .announce := by
    rw [about_append, about_singleton, List.forall_mem_append, and_comm]
    refine and_congr_left fun _ => ?_
    by_cases same : last.record.Same entry.record
    · cases action : last.action <;> simp [Entry.Ends, same, action]
    · simp [Entry.Ends, same]
  simp only [Place.BeginsStretch, silent]
  tauto

/-- **A further entry ends a stretch, begins one or changes nothing.** -/
theorem lasting_concat (journal : Journal) (last : Entry) :
    lasting (journal ++ [last])
      = (lasting journal).filter (fun entry => ¬last.Ends entry)
        ++ if last.action = .announce ∧ lastAction? last.record journal ≠ some .announce then [last]
          else [] := by
  rw [lasting, picked, places_concat, List.filter_append, List.map_append]
  congr 1
  · rw [lasting, picked, List.filter_map, List.filter_map, List.map_map, List.filter_filter]
    refine congrArg (List.map _) (List.filter_congr fun place _ => ?_)
    simp only [Function.comp_apply, beginsStretch_concat_iff, Bool.decide_and]
  · have begins : Place.BeginsStretch ⟨journal, last, []⟩
        ↔ last.action = .announce ∧ lastAction? last.record journal ≠ some .announce := by
      simp [Place.BeginsStretch, about]
    rw [← if_congr begins rfl rfl]
    split
    case isTrue here => rw [List.filter_cons_of_pos (by simpa using here)]; rfl
    case isFalse other => rw [List.filter_cons_of_neg (by simpa using other)]; rfl

/-- An announcement begins a stretch where none lasts. -/
theorem lasting_announce (journal : Journal) (record : Record) :
    lasting (journal ++ [⟨.announce, record⟩])
      = if lastAction? record journal = some .announce then lasting journal
        else lasting journal ++ [⟨.announce, record⟩] := by
  have stays : (lasting journal).filter (fun entry => ¬Entry.Ends ⟨.announce, record⟩ entry)
      = lasting journal := by
    refine List.filter_eq_self.mpr fun entry _ => decide_eq_true fun ends => ?_
    cases ends.1
  rw [lasting_concat, stays]
  by_cases there : lastAction? record journal = some .announce
  · rw [if_pos there, if_neg fun begins => begins.2 there, List.append_nil]
  · rw [if_neg there, if_pos ⟨rfl, there⟩]

/-- A retraction ends the stretch of its record. -/
theorem lasting_retract (journal : Journal) (record : Record) :
    lasting (journal ++ [⟨.retract, record⟩])
      = (lasting journal).filter fun entry => ¬record.Same entry.record := by
  have none : ¬((Entry.mk .retract record).action = .announce
      ∧ lastAction? record journal ≠ some .announce) := fun begins => nomatch begins.1
  rw [lasting_concat, if_neg none, List.append_nil]
  refine List.filter_congr fun entry _ => decide_eq_decide.mpr (not_congr ?_)
  exact ⟨fun ends => ends.2, fun same => ⟨rfl, same⟩⟩

theorem mem_lasting_concat_iff (journal : Journal) (last entry : Entry) :
    entry ∈ lasting (journal ++ [last])
      ↔ entry ∈ lasting journal ∧ ¬last.Ends entry
        ∨ entry = last ∧ last.action = .announce
          ∧ lastAction? last.record journal ≠ some .announce := by
  rw [lasting_concat, List.mem_append, List.mem_filter, decide_eq_true_eq]
  refine or_congr_right ?_
  split
  case isTrue begins => simp only [List.mem_singleton, begins, ne_eq, not_false_eq_true, and_true]
  case isFalse other => simp only [List.not_mem_nil, other, and_false]

/-- **The last entry about a record announces it exactly if a stretch of the record lasts.** -/
theorem lastAction?_eq_announce_iff (journal : Journal) (record : Record) :
    lastAction? record journal = some .announce
      ↔ ∃ entry ∈ lasting journal, entry.record.Same record := by
  induction journal using List.reverseRecOn generalizing record with
  | nil => simp [lastAction?, about, lasting, picked, places]
  | append_singleton journal last ih =>
    rw [lastAction?_concat]
    by_cases same : last.record.Same record
    · rw [if_pos same, Option.some.injEq]
      constructor
      · intro announces
        by_cases there : lastAction? last.record journal = some .announce
        · obtain ⟨entry, lasts, before⟩ := (ih last.record).mp there
          have stays : ¬last.Ends entry := by
            rintro ⟨retracts, _⟩
            rw [announces] at retracts
            cases retracts
          exact ⟨entry, (mem_lasting_concat_iff _ _ _).mpr (.inl ⟨lasts, stays⟩), before.trans same⟩
        · exact ⟨last, (mem_lasting_concat_iff _ _ _).mpr (.inr ⟨rfl, announces, there⟩), same⟩
      · rintro ⟨entry, lasts, about⟩
        rcases (mem_lasting_concat_iff _ _ _).mp lasts with ⟨_, stays⟩ | ⟨_, announces, _⟩
        · cases action : last.action with
          | announce => rfl
          | retract => exact absurd ⟨action, same.trans about.symm⟩ stays
        · exact announces
    · rw [if_neg same, ih]
      refine exists_congr fun entry => and_congr_left fun about => ?_
      -- An entry about another record neither ends the stretches of this one nor begins one.
      have stays : ¬last.Ends entry := fun ends => same (ends.2.trans about)
      have other : entry ≠ last := by
        rintro rfl
        exact same about
      simp only [mem_lasting_concat_iff, stays, not_false_eq_true, and_true, other, false_and, or_false]

end Journal

namespace Store

open Journal

/-! ### The store as a view of the journal -/

/-- Whether each group of a store holds the records of the lasting stretches of its key, stamped and in
the order in which the stretches began. -/
def Shows (ttl : UInt32) (journal : Journal) (store : Store) : Prop :=
  ∀ key, store.group key
    = ((lasting journal).filter fun entry => entry.record.key = key).map
        fun entry => entry.record.stamped ttl

section Shows

variable {ttl : UInt32} {journal : Journal} {store : Store}

theorem Shows.mem_group_iff (shows : store.Shows ttl journal) (key : RecordKey) (record : Record) :
    record ∈ store.group key
      ↔ ∃ entry ∈ lasting journal, entry.record.key = key ∧ entry.record.stamped ttl = record := by
  rw [shows, List.mem_map]
  simp only [List.mem_filter, decide_eq_true_eq, and_assoc]

/-- The records of the store are those of the lasting stretches. -/
theorem Shows.mem_records_iff (shows : store.Shows ttl journal) (sound : store.Sound)
    (record : Record) :
    record ∈ store.records ↔ ∃ entry ∈ lasting journal, entry.record.stamped ttl = record := by
  rw [Store.mem_records_iff sound, shows.mem_group_iff]
  refine exists_congr fun entry => and_congr_right fun _ => and_iff_right_of_imp ?_
  rintro rfl
  rfl

theorem Shows.contains_iff (shows : store.Shows ttl journal) (record : Record) :
    store.contains record = true ↔ lastAction? record journal = some .announce := by
  rw [Store.contains_iff, lastAction?_eq_announce_iff]
  constructor
  · rintro ⟨held, member, data⟩
    obtain ⟨entry, lasts, own, rfl⟩ := (shows.mem_group_iff _ _).mp member
    exact ⟨entry, lasts, (Record.same_iff _ _).mpr ⟨own, data⟩⟩
  · rintro ⟨entry, lasts, same⟩
    obtain ⟨own, data⟩ := (Record.same_iff _ _).mp same
    exact ⟨_, (shows.mem_group_iff _ _).mpr ⟨entry, lasts, own, rfl⟩, data⟩

theorem Shows.announced (shows : store.Shows ttl journal) (record : Record) :
    (store.insert (record.stamped ttl)).2.Shows ttl (journal ++ [⟨.announce, record⟩]) := by
  intro key
  have known : store.contains (record.stamped ttl) = true
      ↔ lastAction? record journal = some .announce := by
    rw [contains_congr (record.stamped_same ttl), shows.contains_iff]
  rw [group_insert, lasting_announce, shows key]
  by_cases there : lastAction? record journal = some .announce
  · rw [if_pos there, if_neg fun new => by simp [known.mpr there] at new]
  · rw [if_neg there, List.filter_append, List.map_append]
    have missing : store.contains (record.stamped ttl) = false := by
      rw [← Bool.not_eq_true, known]
      exact there
    by_cases own : record.key = key
    · rw [if_pos ⟨own.symm, missing⟩, List.filter_cons_of_pos (by simpa using own)]
      rfl
    · rw [if_neg fun new => own new.1.symm, List.filter_cons_of_neg (by simpa using own)]
      exact (List.append_nil _).symm

theorem Shows.retracted (shows : store.Shows ttl journal) (sound : store.Sound) (record : Record) :
    (store.remove (record.stamped ttl)).2.Shows ttl (journal ++ [⟨.retract, record⟩]) := by
  intro key
  rw [group_remove sound, lasting_retract, shows key, List.filter_filter]
  by_cases own : key = record.key
  · rw [if_pos (show key = (record.stamped ttl).key from own), remaining, List.filter_map,
      List.filter_filter]
    refine congrArg _ (List.filter_congr fun entry _ => ?_)
    rw [Bool.eq_iff_iff]
    simp only [Function.comp_apply, Bool.and_eq_true, bne_iff_ne, decide_eq_true_eq, and_comm,
      Record.same_iff]
    refine and_congr_right fun same => not_congr ?_
    rw [same, own]
    simp only [true_and]
    exact eq_comm
  · rw [if_neg (show ¬key = (record.stamped ttl).key from own)]
    refine congrArg _ (List.filter_congr fun entry _ => ?_)
    rw [Bool.eq_iff_iff, Bool.and_eq_true, decide_eq_true_eq, decide_eq_true_eq]
    refine ⟨fun same => ⟨same, fun published => own ?_⟩, And.left⟩
    rw [((Record.same_iff _ _).mp published).1, same]

end Shows

/-- **A store shows the journal of what was said to it.** -/
theorem shows_run (ttl : UInt32) (journal : Journal) :
    (empty.run (journal.map (Entry.call ttl))).Shows ttl journal := by
  induction journal using List.reverseRecOn with
  | nil => exact fun _ => rfl
  | append_singleton journal last ih =>
    rw [List.map_append, run_append]
    obtain ⟨action, record⟩ := last
    cases action with
    | announce => exact ih.announced record
    | retract => exact ih.retracted (sound_empty.run _) record

theorem shows_dispatchAll (ttl : UInt32) (batches : List Batch) :
    (empty.dispatchAll ttl batches).Shows ttl (ofBatches batches) := by
  rw [← run_flatMap_calls, flatMap_calls]
  exact shows_run ttl (ofBatches batches)

/-- **The store holds what was announced last.** Take any batches, dispatched one after another to an
empty store with some time to live.

* The store holds a record that publishes the same thing as a given one exactly if the last entry
  about it announces it.
* It holds it once, stamped with the time to live and class Internet, and in the spelling of the entry
  that began the present stretch: of an announcement of a record that was not there, after which it
  was not retracted.
* A look-up gives the records of its name and type in the order in which their stretches began. -/
theorem holds_last_announced (ttl : UInt32) (batches : List Batch) :
    let store := empty.dispatchAll ttl batches
    let journal := ofBatches batches
    (∀ record, (∃ held ∈ store.records, held.Same record)
      ↔ lastAction? record journal = some .announce) ∧
    (∀ held ∈ store.records, (store.records.filter fun other => other.Same held) = [held] ∧
      ∃ before entry after, journal = before ++ entry :: after ∧
        Place.BeginsStretch ⟨before, entry, after⟩ ∧ held = entry.record.stamped ttl) ∧
    ∀ owner recordType, store.lookup owner recordType
      = ((lasting journal).filter fun entry =>
          entry.record.owner.fold = owner.fold ∧ entry.record.recordType = recordType).map
          fun entry => entry.record.stamped ttl := by
  intro store journal
  have sound : store.Sound := sound_empty.dispatchAll ttl batches
  have shows : store.Shows ttl journal := shows_dispatchAll ttl batches
  have published := shows.mem_records_iff sound
  refine ⟨fun record => ?_, fun held member => ⟨?_, ?_⟩, fun owner recordType => ?_⟩
  · rw [lastAction?_eq_announce_iff]
    constructor
    · rintro ⟨held, member, same⟩
      obtain ⟨entry, lasts, rfl⟩ := (published held).mp member
      exact ⟨entry, lasts, same⟩
    · rintro ⟨entry, lasts, same⟩
      exact ⟨_, (published _).mpr ⟨entry, lasts, rfl⟩, same⟩
  · exact Record.filter_same_eq sound.pairwise_records member
  · obtain ⟨entry, lasts, rfl⟩ := (published held).mp member
    obtain ⟨⟨before, _, after⟩, picked, rfl⟩ := List.mem_map.mp lasts
    obtain ⟨here, begins⟩ := List.mem_filter.mp picked
    exact ⟨before, _, after, ((mem_places_iff _ _).mp here).symm, of_decide_eq_true begins, rfl⟩
  · rw [lookup, shows]
    refine congrArg _ (List.filter_congr fun entry _ => decide_eq_decide.mpr ?_)
    rw [Record.key, RecordKey.mk.injEq]

/-- A record is retracted in another spelling, announced again in that spelling and once more in the
first one: it stands in the second spelling, and after the other record of its name. -/
theorem holds_last_announced_respelled :
    let capital : Record := .built ⟨[[65]]⟩ (.a ⟨192, 0, 2, 1⟩)
    let small : Record := .built ⟨[[97]]⟩ (.a ⟨192, 0, 2, 1⟩)
    let other : Record := .built ⟨[[65]]⟩ (.a ⟨192, 0, 2, 2⟩)
    let batches : List Batch :=
      [⟨.service, .announce, [capital, other]⟩, ⟨.service, .retract, [small]⟩,
        ⟨.ingress, .announce, [small]⟩, ⟨.service, .announce, [capital]⟩]
    let store := empty.dispatchAll 120 batches
    small.stamped 120 ∈ store.records ∧
      (store.records.filter fun record => record.Same (small.stamped 120)) = [small.stamped 120] ∧
      store.lookup ⟨[[97]]⟩ .a = [other.stamped 120, small.stamped 120] ∧
      lastAction? capital (ofBatches batches) = some .announce := by
  intro capital small other batches store
  obtain ⟨last, once, order⟩ := holds_last_announced 120 batches
  have published : small.stamped 120 ∈ store.records := by decide
  refine ⟨published, (once _ published).1, ?_, (last capital).mp ⟨_, published, by decide⟩⟩
  rw [order]
  decide

end Store

end ClusterMdns
