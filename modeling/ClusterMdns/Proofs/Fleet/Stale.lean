import ClusterMdns.Proofs.Fleet.Deliveries

/-!
Nothing stale is published: at rest every published record is one of an object that some watcher
knows. Whatever news come and however watchers, senders and dispatcher interleave, no retraction is
forgotten.
-/

namespace ClusterMdns.Fleet

section Resting

variable {settings : SyncSettings} {ttl : UInt32} {heard : Nat → News → Prop} {fleet : Fleet}

/-- A record that is published at rest is one of a known object. -/
theorem Sound.known_of_contains (sound : fleet.Sound settings ttl heard)
    (resting : fleet.relay.Resting) {record : Record}
    (published : fleet.store.contains record = true) :
    ∃ position key records, fleet.recordsOf position key = some records ∧ record.Among records := by
  obtain ⟨delivery, ⟨before, after, split, among, silent⟩, announces⟩ :=
    (sound.contains_iff resting record).mp published
  refine ⟨delivery.1, delivery.2.key, delivery.2.batch.records, ?_, among⟩
  rcases sound.stands_or_withdrawn resting split announces with known | ⟨withdrawal, later, _, same⟩
  · exact known
  · -- The retraction would mention the record after its last mention.
    exact absurd (same ▸ among) (silent withdrawal later)

/-- Published records carry the time to live of the fleet and class Internet. -/
theorem Sound.stamped_of_mem (sound : fleet.Sound settings ttl heard) {record : Record}
    (published : record ∈ fleet.store.records) :
    record.ttl = ttl ∧ record.recordClass = .internet := by
  rcases Store.mem_records_run published with before | called
  · cases before
  · rw [← sound.sameTtl]
    exact sound.relay.publishes called

end Resting

/-- **No record is stale.** Take any watchers and any moves without a request to stop, among them any
news that are faithful for each watcher. At rest every published record is among those of an object
that some watcher knows, and carries the time to live of the fleet and class Internet. -/
theorem published_records_known (settings : SyncSettings) (ttl : UInt32) (sources : List Source)
    (moves : List FleetMove) (faithful : ∀ position, Faithful fun news => .hear position news ∈ moves)
    (uncancelled : .relay .cancel ∉ moves)
    (resting : ((start settings ttl sources).perform moves).relay.Resting) :
    ∀ record ∈ ((start settings ttl sources).perform moves).store.records,
      record.ttl = ttl ∧ record.recordClass = .internet ∧
        ∃ position key records,
          ((start settings ttl sources).perform moves).recordsOf position key = some records ∧
          record.Among records := by
  intro record published
  have sound := sound_perform (sound_start settings ttl (fun position news => .hear position news ∈ moves)
    sources) faithful (fun _ _ member => member) uncancelled
  have contained := Store.contains_of_mem_records (Store.sound_empty.run _) published
  obtain ⟨ttlKept, internet⟩ := sound.stamped_of_mem published
  exact ⟨ttlKept, internet, sound.known_of_contains resting contained⟩

/-- A service comes and goes while the host of an ingress changes. The ingress is listed and the
service appears before the dispatcher moves, and the batch of the service waits while the sender of
the ingresses is already at work. -/
theorem published_records_known_of_changed_host :
    let settings : SyncSettings := ⟨[.service, .ingress], true, "", 120, false, 30⟩
    let service (version : String) : Service :=
      ⟨⟨some "app", none, some "web", some version, .empty⟩, some "LoadBalancer", none, [],
        [some "192.0.2.2"]⟩
    let ingress (version host : String) : Ingress :=
      ⟨⟨some "shop", none, some "web", some version, .empty⟩, [some host], [some "192.0.2.1"]⟩
    let moves : List FleetMove :=
      [.hear 1 (.ingresses (.listing [ingress "1" "shop.local"])),
        .hear 0 (.services (.current (service "1"))), .relay (.begin 1), .relay (.begin 0),
        .relay (.offer 0)]
      ++ sendSchedule 0 [.ofObject settings .announce (service "1")]
      ++ sendSchedule 1 [.ofObject settings .announce (ingress "1" "shop.local")]
      ++ [.hear 1 (.ingresses (.current (ingress "2" "store.local"))),
        .hear 0 (.services (.deleted (service "2")))]
      ++ sendSchedule 1 [.ofObject settings .retract (ingress "1" "shop.local")]
      ++ sendSchedule 0 [.ofObject settings .retract (service "1")]
      ++ sendSchedule 1 [.ofObject settings .announce (ingress "2" "store.local")]
    let fleet := (start settings 120 [.service, .ingress]).perform moves
    let store : Record :=
      ⟨⟨[[115, 116, 111, 114, 101], [108, 111, 99, 97, 108]]⟩, .internet, 120, .a ⟨192, 0, 2, 1⟩⟩
    (∀ position, Faithful fun news => .hear position news ∈ moves) ∧ .relay .cancel ∉ moves ∧
      fleet.relay.Resting ∧ fleet.relay.taken.length = 5 ∧ fleet.store.records = [store] ∧
      ∃ position key records, fleet.recordsOf position key = some records ∧ store.Among records := by
  intro settings service ingress moves fleet store
  have faithful : ∀ position, Faithful fun news => .hear position news ∈ moves :=
    faithful_of_nodup (by decide +kernel) (by decide +kernel)
  have uncancelled : .relay .cancel ∉ moves := by
    simp [moves, cancel_not_mem_sendSchedule]
  have resting : fleet.relay.Resting := by decide +kernel
  have published : fleet.store.records = [store] := by decide +kernel
  refine ⟨faithful, uncancelled, resting, by decide +kernel, published, ?_⟩
  exact (published_records_known settings 120 [.service, .ingress] moves faithful uncancelled resting
    store (published ▸ List.mem_singleton_self store)).2.2

end ClusterMdns.Fleet
