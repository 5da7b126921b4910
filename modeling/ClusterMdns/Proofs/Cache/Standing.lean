import ClusterMdns.Proofs.Cache.PerKey
import ClusterMdns.Watcher

/-!
What a watch has sent about one key and what it knows under it.

`Standing source known batches` says that batches leave the records `known` announced: announcements
and retractions take turns, each retraction is of the very records announced before it, and a
retraction of anything may come where nothing is announced, for an object that was never known.

* `Watch.Sound.hear`: what a watch has sent under each key leaves exactly the records of the object
  standing that it knows under it, after any news. This needs that objects of one key and one version
  are the same (`OneState`), since a state that carries the version already known is not sent.
* `Standing.stands_or_retracted`: an announcement is of what stands, or a later batch retracts
  it.
* `Standing.getLast_of_some`: what stands was announced last.
* `Watch.Sound.mem_afresh_iff`: a watch that starts afresh announces exactly the objects known.
-/

namespace ClusterMdns

/-- Objects with one key that carry one version are the same. -/
def OneState {α : Type} [HasMetadata α] (given : α → Prop) : Prop :=
  ∀ first second, given first → given second → Cache.keyOf first = Cache.keyOf second →
    Cache.sameVersion first second = true → first = second

/-- Batches for one key leave records announced, or nothing. -/
inductive Standing (source : Source) : Option (List Record) → List Batch → Prop
  | unseen : Standing source none []
  | announced {batches : List Batch} (records : List Record) (before : Standing source none batches) :
      Standing source (some records) (batches ++ [⟨source, .announce, records⟩])
  | retracted {batches : List Batch} {records : List Record}
      (before : Standing source (some records) batches) :
      Standing source none (batches ++ [⟨source, .retract, records⟩])
  | unknown {batches : List Batch} (records : List Record) (before : Standing source none batches) :
      Standing source none (batches ++ [⟨source, .retract, records⟩])

namespace Standing

variable {source : Source} {known : Option (List Record)} {batches : List Batch}

theorem getLast_of_some {records : List Record} (standing : Standing source (some records) batches) :
    ∃ before, batches = before ++ [⟨source, .announce, records⟩] := by
  cases standing with
  | announced _ before => exact ⟨_, rfl⟩

/-- Where one batch of a list with one more at its end stands: it is the last, or among the
others. -/
theorem split_concat {batches before after : List Batch} {last batch : Batch}
    (split : batches ++ [last] = before ++ batch :: after) :
    (after = [] ∧ last = batch)
      ∨ ∃ shorter, after = shorter ++ [last] ∧ batches = before ++ batch :: shorter := by
  rcases List.eq_nil_or_concat' after with rfl | ⟨shorter, final, rfl⟩
  · obtain ⟨_, same⟩ := List.append_inj' split rfl
    exact .inl ⟨rfl, List.singleton_inj.mp same⟩
  · rw [← List.cons_append, ← List.append_assoc] at split
    obtain ⟨earlier, same⟩ := List.append_inj' split rfl
    exact .inr ⟨shorter, by rw [List.singleton_inj.mp same], earlier⟩

/-- **An announcement still stands, or a later batch retracts it.** -/
theorem stands_or_retracted (standing : Standing source known batches)
    {before after : List Batch} {batch : Batch} (split : batches = before ++ batch :: after)
    (announces : batch.action = .announce) :
    known = some batch.records ∨ ∃ retraction ∈ after, retraction.records = batch.records := by
  induction standing generalizing after with
  | unseen => simp at split
  | announced records _ ih =>
    rcases split_concat split with ⟨_, rfl⟩ | ⟨shorter, rfl, earlier⟩
    · exact .inl rfl
    · rcases ih earlier with impossible | ⟨retraction, member, same⟩
      · cases impossible
      · exact .inr ⟨retraction, List.mem_append_left _ member, same⟩
  | retracted _ ih =>
    rcases split_concat split with ⟨_, rfl⟩ | ⟨shorter, rfl, earlier⟩
    · cases announces
    · right
      rcases ih earlier with stands | ⟨retraction, member, same⟩
      · cases stands
        exact ⟨_, List.mem_append_right _ (List.mem_singleton_self _), rfl⟩
      · exact ⟨retraction, List.mem_append_left _ member, same⟩
  | unknown records _ ih =>
    rcases split_concat split with ⟨_, rfl⟩ | ⟨shorter, rfl, earlier⟩
    · cases announces
    · rcases ih earlier with impossible | ⟨retraction, member, same⟩
      · cases impossible
      · exact .inr ⟨retraction, List.mem_append_left _ member, same⟩

end Standing

section Watch

variable {α : Type} [RecordSource α] {settings : SyncSettings}

/-- The batches of what a change turns into leave the records of the object standing that is known
after it. -/
theorem Standing.arrival {given : α → Prop} (one : OneState given) {known : Option α} {object : α}
    {batches : List Batch}
    (standing : Standing (RecordSource.source α) (known.map (RecordSource.records settings)) batches)
    (knownGiven : ∀ old, known = some old → given old ∧ Cache.keyOf old = Cache.keyOf object)
    (isGiven : given object) :
    Standing (RecordSource.source α) (some (RecordSource.records settings object))
      (batches ++ (Cache.arrival known object).toList.flatMap (·.batches settings)) := by
  cases known with
  | none =>
    rw [show (Cache.arrival none object).toList.flatMap (·.batches settings)
      = [Batch.ofObject settings .announce object] from rfl]
    exact .announced _ standing
  | some old =>
    obtain ⟨oldGiven, sameKey⟩ := knownGiven old rfl
    by_cases same : Cache.sameVersion old object = true
    · have unchanged : old = object := one old object oldGiven isGiven sameKey same
      subst unchanged
      simpa [Cache.arrival, same] using standing
    · have both : batches ++ (Cache.arrival (some old) object).toList.flatMap (·.batches settings)
          = batches ++ [Batch.ofObject settings .retract old]
            ++ [Batch.ofObject settings .announce object] := by
        simp [Cache.arrival, same, Change.batches]
      rw [both]
      exact .announced _ (.retracted standing)

/-- A removal leaves nothing standing. -/
theorem Standing.removal {known : Option α} {batches : List Batch}
    (standing : Standing (RecordSource.source α) (known.map (RecordSource.records settings)) batches)
    (object : α) :
    Standing (RecordSource.source α) none
      (batches ++ [Batch.ofObject settings .retract (known.getD object)]) := by
  cases known with
  | none => exact .unknown _ standing
  | some old => exact .retracted standing

/-- **News keep what was sent under a key in step with what is known under it.** -/
theorem Effect.standing {given : α → Prop} (one : OneState given) {key : String}
    {event : ObjectEvent α} {known after : Option α} {change? : Option (Change α)}
    {batches : List Batch} (effect : Effect key event known after change?)
    (standing : Standing (RecordSource.source α) (known.map (RecordSource.records settings)) batches)
    (knownGiven : ∀ old, known = some old → given old ∧ Cache.keyOf old = key)
    (eventGiven : ∀ object ∈ event.objects, given object) :
    Standing (RecordSource.source α) (after.map (RecordSource.records settings))
      (batches ++ change?.toList.flatMap (·.batches settings)) := by
  cases effect with
  | untouched => simpa using standing
  | arrives last =>
    obtain ⟨member, here⟩ := mem_of_lastGiven? last
    refine standing.arrival one (fun old found => ?_) (eventGiven _ member)
    rw [here]
    exact knownGiven old found
  | @goes old held =>
    subst held
    simpa [Change.batches] using standing.removal old
  | @unknown object missing =>
    subst missing
    simpa [Change.batches] using standing.removal object

/-- What is known after news was given, if what was known before was. -/
theorem Effect.given {given : α → Prop} {key : String} {event : ObjectEvent α}
    {known after : Option α} {change? : Option (Change α)}
    (effect : Effect key event known after change?) (knownGiven : ∀ old, known = some old → given old)
    (eventGiven : ∀ object ∈ event.objects, given object) {object : α} (held : after = some object) :
    given object := by
  cases effect with
  | untouched => exact knownGiven object held
  | arrives last =>
    cases held
    exact eventGiven object (mem_of_lastGiven? last).1
  | goes => cases held
  | unknown => cases held

/-- The batches among postings that were sent under a key. -/
def Posting.about (key : String) (postings : List Posting) : List Batch :=
  (postings.filter fun posting => posting.key == key).map Posting.batch

theorem Posting.about_append (key : String) (first second : List Posting) :
    Posting.about key (first ++ second) = Posting.about key first ++ Posting.about key second := by
  rw [about, List.filter_append, List.map_append]
  rfl

/-- The postings under a key are those of the changes about it. -/
theorem Posting.about_flatMap_postings (changes : List (Change α)) (key : String) :
    Posting.about key (changes.flatMap (·.postings settings))
      = (changes.filter fun change => change.key == key).flatMap (·.batches settings) := by
  induction changes with
  | nil => rfl
  | cons change rest ih =>
    rw [about] at ih
    rw [about, List.flatMap_cons, List.filter_append, List.map_append, ih]
    by_cases here : change.key = key
    · rw [List.filter_cons_of_pos (by simpa using here), List.flatMap_cons]
      simp [Change.postings, here, List.filter_map, Function.comp_def]
    · rw [List.filter_cons_of_neg (by simpa using here)]
      simp [Change.postings, here, List.filter_map, Function.comp_def]

namespace Watch

/-- What is known and what was sent agree. -/
structure Sound (settings : SyncSettings) (given : α → Prop) (watch : Watch α) : Prop where
  keyed : Cache.Keyed watch.cache.objects
  given : ∀ key object, watch.cache.objects.get? key = some object → given object
  standing : ∀ key, Standing (RecordSource.source α) (watch.recordsOf settings key)
    (Posting.about key watch.sent)

theorem sound_start (given : α → Prop) : (start : Watch α).Sound settings given :=
  ⟨Cache.keyed_empty, nofun, fun _ => .unseen⟩

/-- **After news what is known and what was sent still agree.** -/
theorem Sound.hear {given : α → Prop} (one : OneState given) {watch : Watch α}
    (sound : watch.Sound settings given) (event : ObjectEvent α)
    (eventGiven : ∀ object ∈ event.objects, given object) :
    (watch.hear settings event).2.Sound settings given := by
  have knownGiven : ∀ key old, watch.cache.objects.get? key = some old →
      given old ∧ Cache.keyOf old = key :=
    fun key old found => ⟨sound.given key old found, sound.keyed key old found⟩
  refine ⟨sound.keyed.apply event, fun key object found => ?_, fun key => ?_⟩
  · rw [show (watch.hear settings event).2.cache = (watch.cache.apply event).2 from rfl,
      Cache.get?_apply] at found
    exact (event.effect key _).given (sound.given key) eventGiven found
  · have later : Posting.about key (watch.hear settings event).2.sent
        = Posting.about key watch.sent ++
          (event.change? key (watch.cache.objects.get? key)).toList.flatMap (·.batches settings) := by
      rw [Watch.hear, Posting.about_append, Posting.about_flatMap_postings,
        Cache.changes_at_key sound.keyed]
    have records : (watch.hear settings event).2.recordsOf settings key
        = (event.known key (watch.cache.objects.get? key)).map (RecordSource.records settings) := by
      rw [recordsOf, ← Cache.get?_apply]
      rfl
    rw [later, records]
    exact (event.effect key _).standing one (sound.standing key) (knownGiven key) eventGiven

theorem batches_hear (watch : Watch α) (event : ObjectEvent α) :
    (watch.hear settings event).1.map Posting.batch
      = (watch.cache.apply event).1.flatMap (·.batches settings) := by
  show ((watch.cache.apply event).1.flatMap (·.postings settings)).map Posting.batch = _
  simp only [List.map_flatMap, Change.postings, List.map_map, Function.comp_def, List.map_id']

/-- **A watch that starts afresh announces exactly the objects known.** -/
theorem Sound.mem_afresh_iff {given : α → Prop} {watch : Watch α} (sound : watch.Sound settings given)
    (batch : Batch) :
    batch ∈ (watch.afresh settings).map Posting.batch
      ↔ ∃ key records, watch.recordsOf settings key = some records ∧
        batch = ⟨RecordSource.source α, .announce, records⟩ := by
  have batches : (watch.afresh settings).map Posting.batch
      = (Cache.byKey (watch.cache.objects.entries.map Prod.snd)).entries.map
          fun entry => Batch.ofObject settings .announce entry.2 := by
    show (((Cache.empty : Cache α).apply (.listing _)).1.flatMap (·.postings settings)).map
      Posting.batch = _
    rw [Cache.changes_of_empty, List.flatMap_map, List.map_flatMap]
    exact List.flatMap_pure_eq_map _ _
  rw [batches, List.mem_map]
  constructor
  · rintro ⟨⟨key, object⟩, member, rfl⟩
    rw [TextMap.mem_entries_iff, Cache.get?_byKey_values sound.keyed] at member
    exact ⟨key, _, by rw [recordsOf, member, Option.map_some], rfl⟩
  · rintro ⟨key, records, known, rfl⟩
    obtain ⟨object, found, rfl⟩ := Option.map_eq_some_iff.mp known
    refine ⟨(key, object), ?_, rfl⟩
    rw [TextMap.mem_entries_iff, Cache.get?_byKey_values sound.keyed, found]

end Watch

end Watch

end ClusterMdns
