import ClusterMdns.Proofs.Store.Counts
import ClusterMdns.Responder.Lookup

/-!
What the responder answers is what the store holds.

The record set of an answer is built by a way to add records that is a parameter. Relied on is that it
refuses records of another owner or type and puts a record whose data the set lacks at the end
(`RecordSet.Appends`); what it does with data that is there already is open, and does not matter, since
the records of a group have different data.

* `RecordSet.appends_insert?`: the insertion of the program adds records in that way.
* `RecordSet.Appends.foldlM_eq`: records of the owner and type of a set whose data are different are
  added in their order.
* `Responder.lookupBy_eq`: the outcome of a lookup in a sound store.
* `Responder.answers_what_is_published`: the outcomes told apart by the published records, after any
  calls.
-/

namespace ClusterMdns

namespace RecordSet

/-! ### Adding records to a set -/

/-- Whether a record is of the owner and the type of a set. -/
def Accepts (set : RecordSet) (record : Record) : Prop :=
  record.owner.fold = set.owner.fold ∧ record.recordType = set.recordType

/-- A way to add records refuses those of another owner or type and puts those with new data at the
end. -/
structure Appends (add? : RecordSet → Record → Option RecordSet) : Prop where
  refuses_iff : ∀ set record, add? set record = none ↔ ¬set.Accepts record
  appends : ∀ set record, set.Accepts record →
    (∀ held ∈ set.records, held.data.fold ≠ record.data.fold) →
    add? set record = some { set with records := set.records ++ [record] }

theorem joined_eq_append {record : Record} {records : List Record}
    (lacks : ∀ held ∈ records, held.data.fold ≠ record.data.fold) :
    joined record records = records ++ [record] := by
  induction records with
  | nil => rfl
  | cons held rest ih =>
    rw [List.forall_mem_cons] at lacks
    rw [joined, if_neg lacks.1, ih lacks.2, List.cons_append]

theorem appends_insert? : Appends insert? where
  refuses_iff set record := by simp [insert?, Accepts]
  appends set record accepted lacks := by
    rw [Accepts] at accepted
    rw [insert?, if_pos accepted, joined_eq_append lacks]

/-- **Records of the owner and type of a set whose data are different are added in their order.** -/
theorem Appends.foldlM_eq {add? : RecordSet → Record → Option RecordSet} (appends : Appends add?)
    {set : RecordSet} {records : List Record} (accepted : ∀ record ∈ records, set.Accepts record)
    (different : (set.records ++ records).Pairwise fun first second =>
      first.data.fold ≠ second.data.fold) :
    records.foldlM add? set = some { set with records := set.records ++ records } := by
  induction records generalizing set with
  | nil => simp
  | cons record rest ih =>
    rw [List.forall_mem_cons] at accepted
    have lacks : ∀ held ∈ set.records, held.data.fold ≠ record.data.fold :=
      fun held inside => (List.pairwise_append.mp different).2.2 held inside record List.mem_cons_self
    have onward : set.records ++ record :: rest = set.records ++ [record] ++ rest := by simp
    rw [onward] at different ⊢
    rw [List.foldlM_cons, appends.appends set record accepted.1 lacks]
    exact @ih { set with records := set.records ++ [record] } accepted.2 different

end RecordSet

namespace Responder

variable {add? : RecordSet → Record → Option RecordSet} {store : Store}

/-! ### The outcome of a lookup -/

/-- The records that are looked up become a record set as they are. -/
theorem gathered?_lookup (appends : RecordSet.Appends add?) (sound : store.Sound) (name : Name)
    (recordType : RecordType) :
    RecordSet.gathered? add? name recordType (store.lookup name recordType)
      = some ⟨name, recordType, store.lookup name recordType⟩ := by
  have accepted : ∀ record ∈ store.lookup name recordType,
      (RecordSet.empty name recordType).Accepts record :=
    fun record member => ((Store.mem_lookup_iff sound name recordType record).mp member).2
  exact appends.foldlM_eq accepted (sound.pairwise_group _)

/-- **The outcome of a lookup: all records of the name and type, else whether the name is known.** -/
theorem lookupBy_eq (appends : RecordSet.Appends add?) (sound : store.Sound) (name : Name)
    (recordType : RecordType) :
    lookupBy add? store name recordType
      = if (store.lookup name recordType).isEmpty then
          (if store.hasName name then .noData else .unknownName)
        else .found (store.lookup name recordType) := by
  rw [lookupBy, lookupAcross, gathered?_lookup appends sound]

/-- Nothing is looked up exactly if nothing published under the name has the type. -/
theorem lookup_eq_nil_iff (sound : store.Sound) (name : Name) (recordType : RecordType) :
    store.lookup name recordType = []
      ↔ ∀ record ∈ store.records, record.owner.fold = name.fold → record.recordType ≠ recordType := by
  rw [List.eq_nil_iff_forall_not_mem]
  refine forall_congr' fun record => ?_
  rw [Store.mem_lookup_iff sound, not_and, not_and]

/-- **The responder answers exactly what is published.** After any calls, whatever the way in which
record sets take data that they hold already, a lookup gives all records of the name and type in the
order of the store, no two of which publish the same thing; no data if none of the records of the name
has the type; an unknown name if no record has the name. No record set refuses a record. -/
theorem answers_what_is_published (appends : RecordSet.Appends add?) (calls : List Call) (name : Name)
    (recordType : RecordType) :
    let store := Store.empty.run calls
    let outcome := lookupBy add? store name recordType
    (∀ record, record ∈ store.lookup name recordType
        ↔ record ∈ store.records ∧ record.owner.fold = name.fold ∧ record.recordType = recordType) ∧
      (store.lookup name recordType).Pairwise (fun first second => ¬first.Same second) ∧
      (∀ records, outcome = .found records
        ↔ records ≠ [] ∧ records = store.lookup name recordType) ∧
      (outcome = .noData
        ↔ (∀ record ∈ store.records, record.owner.fold = name.fold → record.recordType ≠ recordType) ∧
          ∃ record ∈ store.records, record.owner.fold = name.fold) ∧
      (outcome = .unknownName ↔ ∀ record ∈ store.records, record.owner.fold ≠ name.fold) ∧
      outcome ≠ .misfiled := by
  intro store outcome
  have sound : store.Sound := Store.sound_empty.run calls
  have eq : outcome = _ := lookupBy_eq appends sound name recordType
  refine ⟨Store.mem_lookup_iff sound name recordType,
    (sound.pairwise_group _).imp fun different same => different same.2, ?_⟩
  rw [eq, ← lookup_eq_nil_iff sound, ← Store.hasName_iff sound]
  have unknown : (∀ record ∈ store.records, record.owner.fold ≠ name.fold)
      ↔ store.lookup name recordType = [] ∧ ¬store.hasName name = true := by
    rw [lookup_eq_nil_iff sound, Store.hasName_iff sound, not_exists]
    constructor
    · intro missing
      exact ⟨fun record member here => absurd here (missing record member),
        fun record known => missing record known.1 known.2⟩
    · exact fun missing record member here => missing.2 record ⟨member, here⟩
  rw [unknown]
  cases store.lookup name recordType with
  | nil => cases store.hasName name <;> simp
  | cons first rest =>
    have found : ∀ records, LookupOutcome.found (first :: rest) = .found records
        ↔ records ≠ [] ∧ records = first :: rest := by
      intro records
      rw [LookupOutcome.found.injEq]
      constructor
      · rintro rfl
        exact ⟨List.cons_ne_nil _ _, rfl⟩
      · exact fun same => same.2.symm
    simpa using found

/-- Spellings of a name are one name, a record published twice is answered once, and a name whose
record was withdrawn is unknown. -/
theorem answers_what_is_published_in_mixed_case :
    let name (letter : UInt8) : Name := ⟨[[letter]]⟩
    let record (letter last : UInt8) : Record := .built (name letter) (.a ⟨192, 0, 2, last⟩)
    let store := Store.empty.run [.publish (record 97 1), .publish (record 65 2),
      .publish (record 65 1), .publish (record 98 1), .unpublish (record 66 1)]
    RecordSet.Appends RecordSet.insert? ∧
      lookup store (name 65) .a = .found [record 97 1, record 65 2] ∧
      lookup store (name 65) .aaaa = .noData ∧ lookup store (name 98) .a = .unknownName := by
  intro name record store
  refine ⟨RecordSet.appends_insert?, ?_, ?_, ?_⟩
  · obtain ⟨_, _, found, _⟩ := answers_what_is_published RecordSet.appends_insert? _ (name 65) .a
    exact (found _).mpr (by decide)
  · obtain ⟨_, _, _, noData, _⟩ :=
      answers_what_is_published RecordSet.appends_insert? _ (name 65) .aaaa
    exact noData.mpr (by decide)
  · obtain ⟨_, _, _, _, unknownName, _⟩ :=
      answers_what_is_published RecordSet.appends_insert? _ (name 98) .a
    exact unknownName.mpr (by decide)

end Responder

end ClusterMdns
