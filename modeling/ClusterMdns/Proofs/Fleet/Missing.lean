import ClusterMdns.Proofs.Fleet.Stale

/-!
When a record of a known object is missing. Two objects may have one record in common; nothing keeps
account of who announced it, so whoever retracts it takes it away from the other one too.

* `Sound.missing_iff`: at rest a record of a known object is missing exactly if the last delivery that
  mentions it retracts it and is for another object.
* `Sound.contains_eq_afresh`: if no retraction for another object mentions a record of a known object,
  the store holds what watchers that start afresh would publish.
-/

namespace ClusterMdns

theorem Watcher.Sound.mem_afresh_iff {settings : SyncSettings} {heard : News → Prop}
    {watcher : Watcher} (sound : watcher.Sound settings heard) (batch : Batch) :
    batch ∈ (watcher.afresh settings).map Posting.batch
      ↔ ∃ key records, watcher.recordsOf settings key = some records ∧
        batch = ⟨watcher.source, .announce, records⟩ := by
  cases watcher with
  | services watch => exact Watch.Sound.mem_afresh_iff sound batch
  | ingresses watch => exact Watch.Sound.mem_afresh_iff sound batch

namespace Fleet

/-- What watchers that know of nothing send on listings of the objects known. -/
def afresh (fleet : Fleet) : List Posting :=
  fleet.watchers.flatMap fun watcher => watcher.afresh fleet.settings

/-- Every retraction so far that mentions a record of a known object was for that object. -/
def RetractsOwn (fleet : Fleet) : Prop :=
  ∀ (position : Nat) (key : String) (records : List Record) (record : Record),
    fleet.recordsOf position key = some records → record.Among records →
    ∀ delivery ∈ fleet.deliveries, delivery.2.batch.action = .retract →
      record.Among delivery.2.batch.records → IsFor position key delivery

section Resting

variable {settings : SyncSettings} {ttl : UInt32} {heard : Nat → News → Prop} {fleet : Fleet}

theorem Sound.mem_afresh_iff (sound : fleet.Sound settings ttl heard) (batch : Batch) :
    batch ∈ fleet.afresh.map Posting.batch
      ↔ ∃ watcher ∈ fleet.watchers, ∃ key records, watcher.recordsOf settings key = some records ∧
        batch = ⟨watcher.source, .announce, records⟩ := by
  rw [afresh, List.map_flatMap, List.mem_flatMap, sound.sameSettings]
  refine exists_congr fun watcher => and_congr_right fun member => ?_
  obtain ⟨position, found⟩ := List.mem_iff_getElem?.mp member
  exact (sound.watchers position watcher found).mem_afresh_iff batch

/-- **Watchers that start afresh publish exactly the records of the known objects**, in whatever
order their batches arrive. -/
theorem Sound.contains_afresh_iff (sound : fleet.Sound settings ttl heard) {batches : List Batch}
    (arrive : batches.Perm (fleet.afresh.map Posting.batch)) (record : Record) :
    (Store.empty.dispatchAll ttl batches).contains record = true
      ↔ ∃ position key records, fleet.recordsOf position key = some records ∧
        record.Among records := by
  have announce : ∀ batch ∈ batches, batch.action = .announce := by
    intro batch member
    obtain ⟨_, _, _, _, _, rfl⟩ := (sound.mem_afresh_iff batch).mp (arrive.mem_iff.mp member)
    rfl
  rw [Store.contains_dispatchAll_of_announcements ttl announce]
  constructor
  · rintro ⟨batch, member, among⟩
    obtain ⟨watcher, present, key, records, known, rfl⟩ :=
      (sound.mem_afresh_iff batch).mp (arrive.mem_iff.mp member)
    obtain ⟨position, found⟩ := List.mem_iff_getElem?.mp present
    refine ⟨position, key, records, ?_, among⟩
    rw [recordsOf, found, Option.bind_some, sound.sameSettings, known]
  · rintro ⟨position, key, records, known, among⟩
    obtain ⟨watcher, found, known⟩ := Option.bind_eq_some_iff.mp known
    rw [sound.sameSettings] at known
    refine ⟨⟨watcher.source, .announce, records⟩, arrive.mem_iff.mpr ?_, among⟩
    exact (sound.mem_afresh_iff _).mpr ⟨watcher, List.mem_of_getElem? found, key, records, known, rfl⟩

/-- The delivery that decides about a record of a known object is the last one for the object or comes
after it. -/
theorem Sound.announces_or_foreign (sound : fleet.Sound settings ttl heard)
    (resting : fleet.relay.Resting) {position : Nat} {key : String} {records : List Record}
    {record : Record} (known : fleet.recordsOf position key = some records)
    (among : record.Among records) {delivery : Nat × Posting} (decides : fleet.Decides record delivery) :
    delivery.2.batch.action = .announce ∨ ¬IsFor position key delivery := by
  obtain ⟨before, own, after, split, announces, same, others⟩ := sound.announced_last resting known
  obtain ⟨earlier, later, otherwise, _, silent⟩ := decides
  subst same
  rw [split] at otherwise
  rcases List.append_eq_append_iff.mp otherwise with ⟨between, rfl, rest⟩ | ⟨between, rfl, rest⟩
  · cases between with
    | nil =>
      obtain ⟨rfl, _⟩ := List.cons.inj rest
      exact .inl announces
    | cons _ between =>
      obtain ⟨_, rfl⟩ := List.cons.inj rest
      exact .inr (others delivery (List.mem_append_right _ List.mem_cons_self))
  · cases between with
    | nil =>
      obtain ⟨rfl, _⟩ := List.cons.inj rest
      exact .inl announces
    | cons _ between =>
      -- The announcement would mention the record after its last mention.
      obtain ⟨_, rfl⟩ := List.cons.inj rest
      exact absurd among (silent own (List.mem_append_right _ List.mem_cons_self))

/-- Some delivery decides about a record of a known object. -/
theorem Sound.exists_decides (sound : fleet.Sound settings ttl heard)
    (resting : fleet.relay.Resting) {position : Nat} {key : String} {records : List Record}
    {record : Record} (known : fleet.recordsOf position key = some records)
    (among : record.Among records) : ∃ delivery, fleet.Decides record delivery := by
  obtain ⟨before, own, after, split, _, same, _⟩ := sound.announced_last resting known
  subst same
  rcases exists_lastMention_or record (fleet.relay.taken.map Prod.snd) with ⟨action, last⟩ | silent
  · obtain ⟨delivery, decides, _⟩ := (sound.lastMention_iff resting record action).mp last
    exact ⟨delivery, decides⟩
  · refine absurd among (silent own.2.batch ?_)
    rw [← sound.map_deliveries resting, split, List.map_map, List.map_append, List.map_cons]
    exact List.mem_append_right _ List.mem_cons_self

/-- **A record of a known object is missing exactly if the last delivery that mentions it retracts it
and is for another object.** -/
theorem Sound.missing_iff (sound : fleet.Sound settings ttl heard) (resting : fleet.relay.Resting)
    {position : Nat} {key : String} {records : List Record} {record : Record}
    (known : fleet.recordsOf position key = some records) (among : record.Among records) :
    fleet.store.contains record = false
      ↔ ∃ delivery, fleet.Decides record delivery ∧ delivery.2.batch.action = .retract ∧
        ¬IsFor position key delivery := by
  constructor
  · intro missing
    obtain ⟨delivery, decides⟩ := sound.exists_decides resting known among
    have retracts : delivery.2.batch.action ≠ .announce := by
      intro announces
      rw [(sound.contains_iff resting record).mpr ⟨delivery, decides, announces⟩] at missing
      cases missing
    refine ⟨delivery, decides, ?_, ?_⟩
    · cases action : delivery.2.batch.action with
      | announce => exact absurd action retracts
      | retract => rfl
    · exact (sound.announces_or_foreign resting known among decides).resolve_left retracts
  · rintro ⟨delivery, decides, retracts, _⟩
    have last := (sound.lastMention_iff resting record .retract).mpr ⟨delivery, decides, retracts⟩
    rw [Bool.eq_false_iff, sound.store_of_resting resting, Ne,
      Store.contains_dispatchAll_of_lastMention Store.sound_empty ttl last]
    exact nofun

/-- **Without retractions for other objects the store holds what watchers that start afresh
publish.** -/
theorem Sound.contains_eq_afresh (sound : fleet.Sound settings ttl heard)
    (resting : fleet.relay.Resting) (own : fleet.RetractsOwn)
    {batches : List Batch} (arrive : batches.Perm (fleet.afresh.map Posting.batch))
    (record : Record) :
    fleet.store.contains record = (Store.empty.dispatchAll ttl batches).contains record := by
  rw [Bool.eq_iff_iff, sound.contains_afresh_iff arrive]
  constructor
  · exact sound.known_of_contains resting
  · rintro ⟨position, key, records, known, among⟩
    by_contra missing
    rw [Bool.not_eq_true, sound.missing_iff resting known among] at missing
    obtain ⟨delivery, ⟨before, after, split, mentioned, _⟩, retracts, foreign⟩ := missing
    refine foreign (own position key records record known among delivery ?_ retracts mentioned)
    rw [split]
    exact List.mem_append_right _ List.mem_cons_self

end Resting

/-- A record of a known object may be missing: two ingresses give one host, and the first one goes. -/
theorem known_records_not_always_published :
    ¬∀ (settings : SyncSettings) (ttl : UInt32) (sources : List Source) (moves : List FleetMove),
      (∀ position, Faithful fun news => .hear position news ∈ moves) → .relay .cancel ∉ moves →
      ((start settings ttl sources).perform moves).relay.Resting →
      ∀ (position : Nat) (key : String) (records : List Record) (record : Record),
        ((start settings ttl sources).perform moves).recordsOf position key = some records →
        record.Among records →
        ((start settings ttl sources).perform moves).store.contains record = true := by
  intro always
  let settings : SyncSettings := ⟨[.ingress], false, "", 120, false, 30⟩
  let ingress (name version : String) : Ingress :=
    ⟨⟨some name, none, some "web", some version, .empty⟩, [some "app.local"], [some "192.0.2.1"]⟩
  let moves : List FleetMove :=
    [.hear 0 (.ingresses (.listing [ingress "a" "1", ingress "b" "1"]))]
    ++ sendSchedule 0 [.ofObject settings .announce (ingress "a" "1"),
      .ofObject settings .announce (ingress "b" "1")]
    ++ [.hear 0 (.ingresses (.deleted (ingress "a" "2")))]
    ++ sendSchedule 0 [.ofObject settings .retract (ingress "a" "1")]
  let record : Record := .built ⟨[[97, 112, 112], [108, 111, 99, 97, 108]]⟩ (.a ⟨192, 0, 2, 1⟩)
  have uncancelled : .relay .cancel ∉ moves := by
    simp [moves, cancel_not_mem_sendSchedule]
  have published := always settings 120 [.ingress] moves
    (faithful_of_nodup (by decide +kernel) (by decide +kernel)) uncancelled (by decide +kernel)
    0 "web/b" [record] record (by decide +kernel) ⟨record, List.mem_singleton_self _, .refl _⟩
  have missing : ((start settings 120 [.ingress]).perform moves).store.contains record = false := by
    decide +kernel
  rw [missing] at published
  cases published

/-- **A record is missing only where another object took it away.** Take any watchers and any moves
without a request to stop, among them any news that are faithful for each watcher. At rest a record of
an object that some watcher knows is missing exactly if the last delivery that mentions it retracts it
and is for another object. Unless a retraction for another object mentions a record of a known object,
the store holds the same records as one that watchers publish to which start afresh with listings of
the objects known, in whatever order their batches arrive. -/
theorem known_records_published_unless_withdrawn (settings : SyncSettings) (ttl : UInt32)
    (sources : List Source) (moves : List FleetMove)
    (faithful : ∀ position, Faithful fun news => .hear position news ∈ moves)
    (uncancelled : .relay .cancel ∉ moves)
    (resting : ((start settings ttl sources).perform moves).relay.Resting) :
    let fleet := (start settings ttl sources).perform moves
    (∀ (position : Nat) (key : String) (records : List Record) (record : Record),
      fleet.recordsOf position key = some records → record.Among records →
      (fleet.store.contains record = false
        ↔ ∃ delivery, fleet.Decides record delivery ∧ delivery.2.batch.action = .retract ∧
          ¬IsFor position key delivery)) ∧
    (fleet.RetractsOwn →
      ∀ batches : List Batch, batches.Perm (fleet.afresh.map Posting.batch) →
        ∀ record, fleet.store.contains record
          = (Store.empty.dispatchAll ttl batches).contains record) := by
  intro fleet
  have sound : fleet.Sound settings ttl fun position news => .hear position news ∈ moves :=
    sound_perform (sound_start settings ttl _ sources) faithful (fun _ _ member => member) uncancelled
  refine ⟨fun position key records record known among => ?_, fun own batches arrive record => ?_⟩
  · exact sound.missing_iff resting known among
  · exact sound.contains_eq_afresh resting own arrive record

/-- While two ingresses with a host in common are known, the store is the one that an announcement of
each leads to. When the first one goes, the host that only the second one gives stays, and the common
one is missing because of the retraction for the first. -/
theorem known_records_published_unless_withdrawn_shared :
    let settings : SyncSettings := ⟨[.ingress], false, "", 120, false, 30⟩
    let ingress (name version : String) (hosts : List String) : Ingress :=
      ⟨⟨some name, none, some "web", some version, .empty⟩, hosts.map some, [some "192.0.2.1"]⟩
    let first := ingress "a" "1" ["app.local"]
    let second := ingress "b" "1" ["shop.local", "APP.local"]
    let moves : List FleetMove := [.hear 0 (.ingresses (.listing [first, second]))]
      ++ sendSchedule 0 [.ofObject settings .announce first, .ofObject settings .announce second]
    let further : List FleetMove :=
      [.hear 0 (.ingresses (.deleted (ingress "a" "2" ["app.local"])))]
      ++ sendSchedule 0 [.ofObject settings .retract first]
    let before := (start settings 120 [.ingress]).perform moves
    let after := (start settings 120 [.ingress]).perform (moves ++ further)
    let app : Record := .built ⟨[[97, 112, 112], [108, 111, 99, 97, 108]]⟩ (.a ⟨192, 0, 2, 1⟩)
    let shop : Record := .built ⟨[[115, 104, 111, 112], [108, 111, 99, 97, 108]]⟩ (.a ⟨192, 0, 2, 1⟩)
    before.afresh.length = 2 ∧
      (∀ record, before.store.contains record
        = (Store.empty.dispatchAll 120 (before.afresh.map Posting.batch)).contains record) ∧
      after.store.contains shop = true ∧
      ∃ delivery, after.Decides app delivery ∧ delivery.2.batch.action = .retract ∧
        ¬IsFor 0 "web/b" delivery := by
  intro settings ingress first second moves further before after app shop
  have uncancelled : .relay .cancel ∉ moves ++ further := by
    simp [moves, further, cancel_not_mem_sendSchedule]
  have own : before.RetractsOwn := by
    have announcements : ∀ delivery ∈ before.deliveries, delivery.2.batch.action = .announce := by
      decide +kernel
    intro position key records record known among delivery member retracts
    rw [announcements delivery member] at retracts
    cases retracts
  obtain ⟨_, afresh⟩ := known_records_published_unless_withdrawn settings 120 [.ingress] moves
    (faithful_of_nodup (by decide +kernel) (by decide +kernel))
    (fun asked => uncancelled (List.mem_append_left _ asked)) (by decide +kernel)
  obtain ⟨missing, _⟩ := known_records_published_unless_withdrawn settings 120 [.ingress]
    (moves ++ further) (faithful_of_nodup (by decide +kernel) (by decide +kernel)) uncancelled
    (by decide +kernel)
  refine ⟨by decide +kernel, afresh own _ (.refl _), by decide +kernel, ?_⟩
  have known : ∃ records, after.recordsOf 0 "web/b" = some records ∧ app.Among records :=
    ⟨[shop, { app with owner := ⟨[[65, 80, 80], [108, 111, 99, 97, 108]]⟩ }], by decide +kernel,
      _, List.mem_cons_of_mem _ (List.mem_singleton_self _), by decide +kernel⟩
  obtain ⟨records, held, among⟩ := known
  exact (missing 0 "web/b" records app held among).mp (by decide +kernel)

end Fleet

end ClusterMdns
