import ClusterMdns.Proofs.Cache.Standing
import ClusterMdns.Proofs.Store.Contents

/-!
What a full listing does to a store that holds the records of the known objects. Objects that are no
longer listed are retracted first; each listed object is then retracted in its old state and announced
in its new one, in the order of the keys. A record that moves from one object to another is lost where
the object that gives it up is still listed and has the larger key: it is retracted after it was
announced.

* `mem_arrivalBatches_iff`: what the listed objects amount to is announcements of new states and
  retractions of old ones.
* `Relisting.contains_of_changed` and `Relisting.contains_of_unchanged`: when a record of a listed
  object is contained in the end.
* `contains_after_listing`: which records are contained after a listing.
-/

namespace ClusterMdns

section Batches

variable {α : Type} [RecordSource α]

/-- The batches that listed objects amount to, given what was known. -/
def arrivalBatches (settings : SyncSettings) (known : TextMap α) (objects : List α) : List Batch :=
  (Cache.arrivals known objects).flatMap (·.batches settings)

/-- The batches that known objects amount to which are not listed. -/
def goneBatches (settings : SyncSettings) (known listed : TextMap α) : List Batch :=
  (known.entries.filter fun entry => !listed.contains entry.1).map
    fun entry => .ofObject settings .retract entry.2

/-- The batches that a listing amounts to. -/
def listingBatches (settings : SyncSettings) (known : TextMap α) (listing : List α) : List Batch :=
  goneBatches settings known (Cache.byKey listing)
    ++ arrivalBatches settings known ((Cache.byKey listing).entries.map Prod.snd)

variable {settings : SyncSettings} {known : TextMap α}

theorem arrivalBatches_append (first second : List α) :
    arrivalBatches settings known (first ++ second)
      = arrivalBatches settings known first ++ arrivalBatches settings known second := by
  rw [arrivalBatches, Cache.arrivals, List.filterMap_append, List.flatMap_append]
  rfl

theorem batches_of_listing (cache : Cache α) (listing : List α) :
    (cache.apply (.listing listing)).1.flatMap (·.batches settings)
      = listingBatches settings cache.objects listing := by
  show List.flatMap _ (_ ++ _) = _
  rw [List.flatMap_append, List.flatMap_map]
  congr 1
  exact List.flatMap_pure_eq_map _ _

theorem mem_goneBatches_iff {listed : TextMap α} (batch : Batch) :
    batch ∈ goneBatches settings known listed
      ↔ ∃ key old, known.get? key = some old ∧ listed.get? key = none ∧
        batch = .ofObject settings .retract old := by
  rw [goneBatches, List.mem_map]
  constructor
  · rintro ⟨⟨key, old⟩, member, rfl⟩
    obtain ⟨member, unlisted⟩ := List.mem_filter.mp member
    refine ⟨key, old, (known.mem_entries_iff key old).mp member, ?_, rfl⟩
    simpa [TextMap.contains] using unlisted
  · rintro ⟨key, old, found, unlisted, rfl⟩
    refine ⟨(key, old), List.mem_filter.mpr ⟨(known.mem_entries_iff key old).mpr found, ?_⟩, rfl⟩
    simp [TextMap.contains, unlisted]

/-- Whether an object is news, given what was known. -/
def IsNew (known : TextMap α) (object : α) : Prop :=
  ∀ old, known.get? (Cache.keyOf object) = some old → Cache.sameVersion old object = false

/-- The batches of an object that is news end with its announcement. -/
theorem arrivalBatches_of_isNew {object : α} (isNew : IsNew known object) :
    arrivalBatches settings known [object]
      = ((known.get? (Cache.keyOf object)).map (.ofObject settings .retract)).toList
        ++ [.ofObject settings .announce object] := by
  unfold arrivalBatches Cache.arrivals
  cases found : known.get? (Cache.keyOf object) with
  | none => simp [found, Cache.arrival, Change.batches]
  | some old => simp [found, Cache.arrival, Change.batches, isNew old found]

theorem arrivalBatches_of_not_isNew {object : α} (unchanged : ¬IsNew known object) :
    arrivalBatches settings known [object] = [] := by
  simp only [IsNew, not_forall, Bool.not_eq_false] at unchanged
  obtain ⟨old, found, same⟩ := unchanged
  simp [arrivalBatches, Cache.arrivals, Cache.arrival, found, same]

/-- **Listed objects amount to announcements of new states and retractions of old ones.** -/
theorem mem_arrivalBatches_iff {objects : List α} (batch : Batch) :
    batch ∈ arrivalBatches settings known objects
      ↔ ∃ object ∈ objects, IsNew known object ∧
        (batch = .ofObject settings .announce object ∨
          ∃ old, known.get? (Cache.keyOf object) = some old ∧
            batch = .ofObject settings .retract old) := by
  induction objects with
  | nil =>
    constructor
    · exact nofun
    · rintro ⟨_, member, _⟩
      cases member
  | cons object rest ih =>
    rw [← List.singleton_append, arrivalBatches_append, List.mem_append, ih, List.singleton_append]
    simp only [List.mem_cons, exists_eq_or_imp]
    refine or_congr_left ?_
    by_cases isNew : IsNew known object
    · rw [arrivalBatches_of_isNew isNew]
      simp only [List.mem_append, Option.mem_toList, Option.map_eq_some_iff, List.mem_singleton, isNew,
        true_and, eq_comm (a := batch)]
      exact or_comm
    · rw [arrivalBatches_of_not_isNew isNew]
      simp [isNew]

end Batches

/-- No two objects with different keys have a record in common. -/
def Apart {α : Type} [RecordSource α] (settings : SyncSettings) (objects : α → Prop) : Prop :=
  ∀ first second record, objects first → objects second →
    Record.Among record (RecordSource.records settings first) →
    Record.Among record (RecordSource.records settings second) →
    Cache.keyOf first = Cache.keyOf second

/-- What is promised of a listing, given what is known. -/
structure Relisting {α : Type} [RecordSource α] (settings : SyncSettings) (known : TextMap α)
    (listing : List α) : Prop where
  keyed : Cache.Keyed known
  knownApart : Apart settings fun object : α => known.get? (Cache.keyOf object) = some object
  distinct : (listing.map Cache.keyOf).Nodup
  listedApart : Apart settings (· ∈ listing)
  faithful : ∀ old new, known.get? (Cache.keyOf old) = some old → new ∈ listing →
    Cache.keyOf old = Cache.keyOf new → Cache.sameVersion old new = true → old = new

namespace Relisting

variable {α : Type} [RecordSource α] {settings : SyncSettings} {known : TextMap α} {listing : List α}

theorem eq_of_keyOf_eq (relisting : Relisting settings known listing) {first second : α}
    (isFirst : first ∈ listing) (isSecond : second ∈ listing)
    (same : Cache.keyOf first = Cache.keyOf second) : first = second :=
  List.inj_on_of_nodup_map relisting.distinct isFirst isSecond same

theorem get?_listed_iff (relisting : Relisting settings known listing) (key : String) (object : α) :
    (Cache.byKey listing).get? key = some object ↔ object ∈ listing ∧ Cache.keyOf object = key :=
  Cache.get?_byKey_iff relisting.distinct key object

theorem known_own (relisting : Relisting settings known listing) {key : String} {old : α}
    (found : known.get? key = some old) : known.get? (Cache.keyOf old) = some old := by
  rw [relisting.keyed key old found]
  exact found

theorem listed_mem (relisting : Relisting settings known listing) {object : α} :
    object ∈ (Cache.byKey listing).entries.map Prod.snd ↔ object ∈ listing := by
  rw [List.mem_map]
  constructor
  · rintro ⟨⟨key, listed⟩, member, rfl⟩
    exact ((relisting.get?_listed_iff key listed).mp ((TextMap.mem_entries_iff _ _ _).mp member)).1
  · intro member
    refine ⟨(Cache.keyOf object, object), (TextMap.mem_entries_iff _ _ _).mpr ?_, rfl⟩
    exact (relisting.get?_listed_iff _ _).mpr ⟨member, rfl⟩

/-- A listed object that is not news was known as it is. -/
theorem known_of_not_isNew (relisting : Relisting settings known listing) {object : α}
    (member : object ∈ listing) (unchanged : ¬IsNew known object) :
    known.get? (Cache.keyOf object) = some object := by
  simp only [IsNew, not_forall, Bool.not_eq_false] at unchanged
  obtain ⟨old, found, same⟩ := unchanged
  have sameKey : Cache.keyOf old = Cache.keyOf object := relisting.keyed _ old found
  rw [found, relisting.faithful old object (relisting.known_own found) member sameKey same]

variable {ttl : UInt32} {store : Store} {record : Record} {object : α}

/-- Records of an object that is listed as it was known stay as they are. -/
theorem contains_of_unchanged (relisting : Relisting settings known listing) (sound : store.Sound)
    (member : object ∈ listing) (yields : record.Among (RecordSource.records settings object))
    (unchanged : ¬IsNew known object) :
    (store.dispatchAll ttl (listingBatches settings known listing)).contains record
      = store.contains record := by
  have same := relisting.known_of_not_isNew member unchanged
  -- Whoever else had or has the record would have the key of the object.
  have own : ∀ new ∈ listing, IsNew known new → Cache.keyOf new ≠ Cache.keyOf object := by
    intro new listed isNew sameKey
    rw [relisting.eq_of_keyOf_eq listed member sameKey] at isNew
    exact unchanged isNew
  refine Store.contains_dispatchAll_of_unmentioned sound ttl fun batch sent among => ?_
  rcases List.mem_append.mp sent with gone | arrives
  · obtain ⟨key, old, found, unlisted, rfl⟩ := (mem_goneBatches_iff batch).mp gone
    have sameKey := relisting.knownApart old object record (relisting.known_own found) same among yields
    have listed := (relisting.get?_listed_iff (Cache.keyOf object) object).mpr ⟨member, rfl⟩
    rw [← sameKey, relisting.keyed key old found, unlisted] at listed
    cases listed
  · obtain ⟨new, listed, isNew, rfl | ⟨old, found, rfl⟩⟩ := (mem_arrivalBatches_iff batch).mp arrives
    · exact own new (relisting.listed_mem.mp listed) isNew
        (relisting.listedApart new object record (relisting.listed_mem.mp listed) member among yields)
    · have sameKey :=
        relisting.knownApart old object record (relisting.known_own found) same among yields
      exact own new (relisting.listed_mem.mp listed) isNew
        ((relisting.keyed _ old found).symm.trans sameKey)

/-- **A record of an object in a new state is contained exactly if no object that had it is still
listed with a larger key.** -/
theorem contains_of_changed (relisting : Relisting settings known listing) (sound : store.Sound)
    (member : object ∈ listing) (yields : record.Among (RecordSource.records settings object))
    (isNew : IsNew known object) :
    (store.dispatchAll ttl (listingBatches settings known listing)).contains record = true
      ↔ ∀ old, known.get? (Cache.keyOf old) = some old →
        record.Among (RecordSource.records settings old) →
        (∃ new ∈ listing, Cache.keyOf new = Cache.keyOf old) →
        ¬Cache.keyOf object < Cache.keyOf old := by
  obtain ⟨before, after, split, smaller, larger⟩ := TextMap.exists_split_entries
    ((relisting.get?_listed_iff (Cache.keyOf object) object).mpr ⟨member, rfl⟩)
  have listed : ∀ new, new ∈ after.map Prod.snd ↔ new ∈ listing ∧ Cache.keyOf object < Cache.keyOf new := by
    intro new
    constructor
    · intro later
      obtain ⟨⟨key, _⟩, inside, rfl⟩ := List.mem_map.mp later
      have entry := (TextMap.mem_entries_iff (Cache.byKey listing) key _).mp
        (split ▸ List.mem_append_right _ (List.mem_cons_of_mem _ inside))
      obtain ⟨there, rfl⟩ := (relisting.get?_listed_iff key _).mp entry
      exact ⟨there, larger _ inside⟩
    · rintro ⟨there, behind⟩
      have entry := (TextMap.mem_entries_iff (Cache.byKey listing) _ new).mpr
        ((relisting.get?_listed_iff _ new).mpr ⟨there, rfl⟩)
      rw [split, List.mem_append, List.mem_cons] at entry
      rcases entry with front | here | later
      · exact absurd (smaller _ front) (String.lt_asymm behind)
      · rw [Prod.mk.injEq] at here
        exact absurd (here.1 ▸ behind) (String.lt_irrefl _)
      · exact List.mem_map_of_mem (f := Prod.snd) later
  -- Nobody who is announced after the object yields the record.
  have foreign : ∀ new ∈ after.map Prod.snd, ¬record.Among (RecordSource.records settings new) := by
    intro new later among
    obtain ⟨there, behind⟩ := (listed new).mp later
    rw [relisting.listedApart new object record there member among yields] at behind
    exact String.lt_irrefl _ behind
  have whole : listingBatches settings known listing
      = (goneBatches settings known (Cache.byKey listing)
          ++ arrivalBatches settings known (before.map Prod.snd)
          ++ ((known.get? (Cache.keyOf object)).map (.ofObject settings .retract)).toList)
        ++ .ofObject settings .announce object
          :: arrivalBatches settings known (after.map Prod.snd) := by
    rw [listingBatches, split, List.map_append, List.map_cons, ← List.singleton_append,
      arrivalBatches_append, arrivalBatches_append, arrivalBatches_of_isNew isNew]
    simp only [List.append_assoc, List.singleton_append]
  rw [whole, Store.contains_dispatchAll_of_announced sound ttl rfl yields]
  · constructor
    · intro silent old found among ⟨new, there, sameKey⟩ behind
      have later := (listed new).mpr ⟨there, sameKey ▸ behind⟩
      have newIsNew : IsNew known new := by
        by_contra unchanged
        have same := relisting.known_of_not_isNew there unchanged
        rw [sameKey, found, Option.some.injEq] at same
        exact foreign new later (same ▸ among)
      refine silent _ ((mem_arrivalBatches_iff _).mpr ⟨new, later, newIsNew, .inr ⟨old, ?_, rfl⟩⟩) among
      rw [sameKey, found]
    · intro smallest batch sent among
      obtain ⟨new, later, _, rfl | ⟨old, found, rfl⟩⟩ := (mem_arrivalBatches_iff batch).mp sent
      · exact foreign new later among
      · obtain ⟨there, behind⟩ := (listed new).mp later
        have sameKey := relisting.keyed _ old found
        exact smallest old (relisting.known_own found) among ⟨new, there, sameKey.symm⟩
          (sameKey ▸ behind)
  · intro batch sent among
    obtain ⟨new, later, _, rfl | ⟨old, found, rfl⟩⟩ := (mem_arrivalBatches_iff batch).mp sent
    · exact absurd among (foreign new later)
    · rfl

/-- A record that no listed object yields is not contained, where the store holds only records of known
objects before. -/
theorem not_contains_of_unlisted (relisting : Relisting settings known listing) (sound : store.Sound)
    (held : store.contains record = true →
      ∃ old : α, known.get? (Cache.keyOf old) = some old ∧
        record.Among (RecordSource.records settings old))
    (unlisted : ∀ new ∈ listing, ¬record.Among (RecordSource.records settings new)) :
    (store.dispatchAll ttl (listingBatches settings known listing)).contains record = false := by
  rw [Bool.eq_false_iff]
  intro contained
  rcases (Store.contains_dispatchAll_iff sound ttl _ record).mp contained with
    ⟨before, batch, after, split, announces, among, _⟩ | ⟨silent, before⟩
  · have sent := List.mem_append_right before (List.mem_cons_self (a := batch) (l := after))
    rw [← split] at sent
    rcases List.mem_append.mp sent with gone | arrives
    · obtain ⟨_, _, _, _, rfl⟩ := (mem_goneBatches_iff batch).mp gone
      cases announces
    · obtain ⟨new, listed, _, rfl | ⟨_, _, rfl⟩⟩ := (mem_arrivalBatches_iff batch).mp arrives
      · exact unlisted new (relisting.listed_mem.mp listed) among
      · cases announces
  · -- Whoever had the record is gone or has changed, and was retracted.
    obtain ⟨old, found, among⟩ := held before
    cases still : (Cache.byKey listing).get? (Cache.keyOf old) with
    | none =>
      refine silent (.ofObject settings .retract old)
        (List.mem_append_left _ ((mem_goneBatches_iff _).mpr ?_)) among
      exact ⟨_, old, found, still, rfl⟩
    | some new =>
      obtain ⟨there, sameKey⟩ := (relisting.get?_listed_iff _ new).mp still
      have isNew : IsNew known new := by
        by_contra unchanged
        have same := relisting.known_of_not_isNew there unchanged
        rw [sameKey, found, Option.some.injEq] at same
        exact unlisted new there (same ▸ among)
      refine silent (.ofObject settings .retract old)
        (List.mem_append_right _ ((mem_arrivalBatches_iff _).mpr ?_)) among
      exact ⟨new, relisting.listed_mem.mpr there, isNew, .inr ⟨old, by rw [sameKey, found], rfl⟩⟩

end Relisting

namespace Watch

section Hearing

variable {α : Type} [RecordSource α] {settings : SyncSettings}

def heard (settings : SyncSettings) (news : List (ObjectEvent α)) : Watch α :=
  news.foldl (fun watch event => (watch.hear settings event).2) start

/-- Whether an object is known. -/
def Knows (watch : Watch α) (object : α) : Prop :=
  watch.cache.objects.get? (Cache.keyOf object) = some object

theorem keyed_heard (news : List (ObjectEvent α)) :
    Cache.Keyed (heard settings news).cache.objects := by
  induction news using List.reverseRecOn with
  | nil => exact Cache.keyed_empty
  | append_singleton news event ih =>
    rw [heard, List.foldl_append]
    exact ih.apply event

theorem knows_heard_listing_iff {known : List α} (distinct : (known.map Cache.keyOf).Nodup)
    (object : α) : (heard settings [.listing known]).Knows object ↔ object ∈ known :=
  (Cache.get?_byKey_iff distinct _ object).trans (and_iff_left rfl)

/-- A store to which objects were announced holds exactly their records. -/
theorem contains_of_announced (ttl : UInt32) (known : List α) (record : Record) :
    (Store.empty.run ((known.map (.ofObject settings .announce)).flatMap (Batch.calls ttl))).contains
        record = true
      ↔ ∃ object ∈ known, record.Among (RecordSource.records settings object) := by
  rw [Store.run_flatMap_calls, Store.contains_dispatchAll_of_announcements]
  · simp only [List.mem_map, exists_exists_and_eq_and]
    rfl
  · intro batch member
    obtain ⟨object, _, rfl⟩ := List.mem_map.mp member
    rfl

/-- Objects are apart if none of their records publishes what one of another object does. -/
theorem apart_of_forall {given : α → Prop} {objects : List α}
    (listed : ∀ object, given object → object ∈ objects)
    (different : ∀ first ∈ objects, ∀ second ∈ objects,
      ∀ one ∈ RecordSource.records settings first, ∀ other ∈ RecordSource.records settings second,
        one.Same other → Cache.keyOf first = Cache.keyOf second) : Apart settings given := by
  rintro first second record isFirst isSecond ⟨one, yields, same⟩ ⟨other, yieldsToo, sameToo⟩
  exact different first (listed first isFirst) second (listed second isSecond) one yields other
    yieldsToo (same.trans sameToo.symm)

end Hearing

/-- A listing does not always leave exactly the records of the objects listed: a host moves from one
ingress to another one whose key is smaller, and both are listed. -/
theorem listing_not_always_exact :
    ¬∀ (settings : SyncSettings) (ttl : UInt32) (news : List (ObjectEvent Ingress))
      (calls : List Call) (listing : List Ingress),
      Apart settings (heard settings news).Knows →
      (∀ record, (Store.empty.run calls).contains record = true
        ↔ ∃ old, (heard settings news).Knows old ∧ record.Among (RecordSource.records settings old)) →
      (listing.map Cache.keyOf).Nodup → Apart settings (· ∈ listing) →
      (∀ old new, (heard settings news).Knows old → new ∈ listing →
        Cache.keyOf old = Cache.keyOf new → Cache.sameVersion old new = true → old = new) →
      ∀ record, ((Store.empty.run calls).dispatchAll ttl
          (((heard settings news).hear settings (.listing listing)).1.map Posting.batch)).contains record
          = true
        ↔ ∃ object ∈ listing, record.Among (RecordSource.records settings object) := by
  intro always
  let settings : SyncSettings := ⟨[.ingress], false, "", 120, false, 30⟩
  let ingress (name version : String) (hosts : List String) : Ingress :=
    ⟨⟨some name, none, some "web", some version, .empty⟩, hosts.map some, [some "192.0.2.1"]⟩
  let known := [ingress "b" "1" ["shop.local"]]
  let listing := [ingress "a" "2" ["shop.local"], ingress "b" "3" []]
  let record : Record := .built ⟨[[115, 104, 111, 112], [108, 111, 99, 97, 108]]⟩ (.a ⟨192, 0, 2, 1⟩)
  have knows : ∀ object, (heard settings [.listing known]).Knows object ↔ object ∈ known :=
    knows_heard_listing_iff (by decide +kernel)
  have different : ∀ old ∈ known, ∀ new ∈ listing, Cache.sameVersion old new = false := by
    decide +kernel
  have exact := always settings 120 [.listing known]
    ((known.map (.ofObject settings .announce)).flatMap (Batch.calls 120)) listing
    (apart_of_forall (fun object => (knows object).mp) (by decide +kernel))
    (by simpa only [knows] using contains_of_announced 120 known) (by decide +kernel)
    (apart_of_forall (fun _ member => member) (by decide +kernel))
    (fun old new isKnown listed _ same => by
      rw [different old ((knows old).mp isKnown) new listed] at same
      cases same)
    record
  have contained := exact.mpr ⟨_, List.mem_cons_self, record, by decide +kernel, .refl _⟩
  revert contained
  decide +kernel

/-- **A listing loses a record only where an object that gives it up is still listed with a larger
key.** Take a watch that has heard any news, a store that holds exactly the records of the objects
known, and a listing of objects with different keys. Neither two known nor two listed objects have a
record in common, and a listed object in the version known is the one known. After the listing the
store contains a record exactly if a listed object yields it, and no known object that yielded it is
still listed under a larger key. -/
theorem contains_after_listing {α : Type} [RecordSource α] (settings : SyncSettings) (ttl : UInt32)
    (news : List (ObjectEvent α)) (calls : List Call) (listing : List α)
    (knownApart : Apart settings (heard settings news).Knows)
    (held : ∀ record, (Store.empty.run calls).contains record = true
      ↔ ∃ old, (heard settings news).Knows old ∧ record.Among (RecordSource.records settings old))
    (distinct : (listing.map Cache.keyOf).Nodup) (listedApart : Apart settings (· ∈ listing))
    (faithful : ∀ old new, (heard settings news).Knows old → new ∈ listing →
      Cache.keyOf old = Cache.keyOf new → Cache.sameVersion old new = true → old = new)
    (record : Record) :
    ((Store.empty.run calls).dispatchAll ttl
        (((heard settings news).hear settings (.listing listing)).1.map Posting.batch)).contains record
        = true
      ↔ ∃ object ∈ listing, record.Among (RecordSource.records settings object) ∧
        ∀ old, (heard settings news).Knows old →
          record.Among (RecordSource.records settings old) →
          (∃ new ∈ listing, Cache.keyOf new = Cache.keyOf old) →
          ¬Cache.keyOf object < Cache.keyOf old := by
  have sound : (Store.empty.run calls).Sound := Store.sound_empty.run calls
  have relisting : Relisting settings (heard settings news).cache.objects listing :=
    ⟨keyed_heard news, knownApart, distinct, listedApart, faithful⟩
  rw [batches_hear, batches_of_listing]
  by_cases listed : ∃ object ∈ listing, record.Among (RecordSource.records settings object)
  · obtain ⟨object, member, yields⟩ := listed
    -- No other listed object yields the record.
    have only : ∀ other ∈ listing, record.Among (RecordSource.records settings other) →
        other = object := fun other there among =>
      relisting.eq_of_keyOf_eq there member (listedApart other object record there member among yields)
    by_cases isNew : IsNew (heard settings news).cache.objects object
    · rw [relisting.contains_of_changed sound member yields isNew]
      constructor
      · exact fun smallest => ⟨object, member, yields, smallest⟩
      · rintro ⟨other, there, among, smallest⟩
        rw [only other there among] at smallest
        exact smallest
    · have same := relisting.known_of_not_isNew member isNew
      rw [relisting.contains_of_unchanged sound member yields isNew, held]
      constructor
      · refine fun _ => ⟨object, member, yields, fun old isKnown among _ => ?_⟩
        rw [knownApart old object record isKnown same among yields]
        exact String.lt_irrefl _
      · exact fun _ => ⟨object, same, yields⟩
  · rw [relisting.not_contains_of_unlisted sound (held record).mp
      fun new there among => listed ⟨new, there, among⟩]
    constructor
    · exact nofun
    · rintro ⟨object, member, yields, _⟩
      exact absurd ⟨object, member, yields⟩ listed

/-- Three hosts move: one to an ingress with a larger key, one away from an ingress that is gone and one
to an ingress with a smaller key. Only the last one is lost. -/
theorem contains_after_listing_of_moved_hosts :
    let settings : SyncSettings := ⟨[.ingress], false, "", 120, false, 30⟩
    let ingress (name version : String) (hosts : List String) : Ingress :=
      ⟨⟨some name, none, some "web", some version, .empty⟩, hosts.map some, [some "192.0.2.1"]⟩
    let host (label : List UInt8) : Record :=
      .built ⟨[label, [108, 111, 99, 97, 108]]⟩ (.a ⟨192, 0, 2, 1⟩)
    let known := [ingress "a" "1" ["app.local"], ingress "b" "2" ["shop.local"],
      ingress "c" "3" ["blog.local"]]
    let listing := [ingress "a" "4" ["SHOP.local"], ingress "b" "5" ["app.local", "blog.local"]]
    let watch := heard settings [.listing known]
    let calls := (known.map (.ofObject settings .announce)).flatMap (Batch.calls 120)
    let after := (Store.empty.run calls).dispatchAll 120
      ((watch.hear settings (.listing listing)).1.map Posting.batch)
    Apart settings watch.Knows ∧
      (∀ record, (Store.empty.run calls).contains record = true
        ↔ ∃ old, watch.Knows old ∧ record.Among (RecordSource.records settings old)) ∧
      (listing.map Cache.keyOf).Nodup ∧ Apart settings (· ∈ listing) ∧
      (∀ old new, watch.Knows old → new ∈ listing → Cache.keyOf old = Cache.keyOf new →
        Cache.sameVersion old new = true → old = new) ∧
      after.contains (host [97, 112, 112]) = true ∧ after.contains (host [98, 108, 111, 103]) = true ∧
      after.contains (host [115, 104, 111, 112]) = false ∧
      ∀ record, after.contains record = true
        ↔ ∃ object ∈ listing, record.Among (RecordSource.records settings object) ∧
          ∀ old, watch.Knows old → record.Among (RecordSource.records settings old) →
            (∃ new ∈ listing, Cache.keyOf new = Cache.keyOf old) →
            ¬Cache.keyOf object < Cache.keyOf old := by
  intro settings ingress host known listing watch calls after
  have knows : ∀ object, watch.Knows object ↔ object ∈ known :=
    knows_heard_listing_iff (by decide +kernel)
  have knownApart : Apart settings watch.Knows :=
    apart_of_forall (fun object => (knows object).mp) (by decide +kernel)
  have held : ∀ record, (Store.empty.run calls).contains record = true
      ↔ ∃ old, watch.Knows old ∧ record.Among (RecordSource.records settings old) := by
    simpa only [knows] using contains_of_announced 120 known
  have distinct : (listing.map Cache.keyOf).Nodup := by decide +kernel
  have listedApart : Apart settings (· ∈ listing) :=
    apart_of_forall (fun _ member => member) (by decide +kernel)
  have different : ∀ old ∈ known, ∀ new ∈ listing, Cache.sameVersion old new = false := by
    decide +kernel
  have faithful : ∀ old new, watch.Knows old → new ∈ listing → Cache.keyOf old = Cache.keyOf new →
      Cache.sameVersion old new = true → old = new := by
    intro old new isKnown listed _ same
    rw [different old ((knows old).mp isKnown) new listed] at same
    cases same
  refine ⟨knownApart, held, distinct, listedApart, faithful, by decide +kernel, by decide +kernel,
    by decide +kernel, ?_⟩
  exact contains_after_listing settings 120 [.listing known] calls listing knownApart held distinct
    listedApart faithful

end Watch

end ClusterMdns
