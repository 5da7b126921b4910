import ClusterMdns.Proofs.Relay.Undisturbed
import ClusterMdns.Proofs.Store.Contents
import ClusterMdns.Watcher

/-!
What becomes of a store when the records of an object are replaced: those of its old state are retracted
one after another, then those of its new state are announced.

* `Store.Sound.filter_group_run`: calls leave the records that they are not about in their order and as
  they are.
* `Store.contains_replaced`: the store lacks what the old state alone has, and contains what the new one
  has.
* `Store.replaced_at_every_call`: up to some call nothing new is published, and from that call on nothing
  that the old state alone has.
* `Change.updated_replaces`: what the sends of an update make of any store.
-/

namespace ClusterMdns

instance (record : Record) (records : List Record) : Decidable (record.Among records) :=
  inferInstanceAs (Decidable (∃ listed ∈ records, listed.Same record))

namespace Store

/-! ### Records that calls are not about -/

section Untouched

variable {store : Store} {untouched : Record → Bool}

/-- A call leaves the records that it is not about in their order and as they are. -/
theorem Sound.filter_group_apply (sound : store.Sound) (call : Call)
    (apart : ∀ record, untouched record = true → ¬call.record.Same record) (key : RecordKey) :
    ((call.apply store).group key).filter untouched = (store.group key).filter untouched := by
  cases call with
  | publish added =>
    have left : untouched added = false := by
      rw [← Bool.not_eq_true]
      exact fun kept => apart added kept (.refl added)
    show ((store.insert added).2.group key).filter untouched = _
    rw [group_insert]
    split
    · rw [List.filter_append, List.filter_cons_of_neg (by simp [left]), List.filter_nil,
        List.append_nil]
    · rfl
  | unpublish gone =>
    show ((store.remove gone).2.group key).filter untouched = _
    rw [group_remove sound]
    split
    case isTrue own =>
      rw [remaining, List.filter_filter]
      refine List.filter_congr fun held member => ?_
      cases kept : untouched held with
      | false => rw [Bool.false_and]
      | true =>
        -- What goes with the call is of its group and has its data, so the call is about it.
        have filed : held.key = gone.key := by
          rw [sound.filed _ (mem_of_mem_groupIn member) held member, own]
        have other : held.data.fold ≠ gone.data.fold := fun data =>
          apart held kept ((Record.same_iff gone held).mpr ⟨filed.symm, data.symm⟩)
        rw [Bool.true_and, bne_iff_ne]
        exact other
    case isFalse => rfl

/-- **Calls leave the records that they are not about in their order and as they are.** -/
theorem Sound.filter_group_run (sound : store.Sound) {calls : List Call}
    (apart : ∀ call ∈ calls, ∀ record, untouched record = true → ¬call.record.Same record)
    (key : RecordKey) :
    ((store.run calls).group key).filter untouched = (store.group key).filter untouched := by
  induction calls generalizing store with
  | nil => rfl
  | cons call rest ih =>
    rw [List.forall_mem_cons] at apart
    rw [← sound.filter_group_apply call apart.1 key, ← ih (sound.apply call) apart.2]
    rfl

end Untouched

/-! ### Replacing records -/

/-- The calls that retract records and then announce others. -/
def replacement (ttl : UInt32) (old new : List Record) : List Call :=
  old.map (fun record => .unpublish (record.stamped ttl))
    ++ new.map fun record => .publish (record.stamped ttl)

section Replacement

variable {store : Store} {ttl : UInt32} {old new : List Record}

/-- **After a replacement the store contains what is new, and what it contained apart from what is
old.** -/
theorem contains_replaced (sound : store.Sound) (record : Record) :
    (store.run (replacement ttl old new)).contains record = true
      ↔ record.Among new ∨ store.contains record = true ∧ ¬record.Among old := by
  rw [replacement, run_append]
  have retracted := contains_run_calls sound ttl .retract old record
  have announced := contains_run_calls (sound.run (old.map fun record =>
    Action.retract.call (record.stamped ttl))) ttl .announce new record
  refine announced.trans ?_
  rw [retracted]
  grind

/-- A replacement is about old records and new ones only. -/
theorem filter_lookup_replaced (sound : store.Sound) (name : Name) (recordType : RecordType) :
    ((store.run (replacement ttl old new)).lookup name recordType).filter
        (fun record => ¬record.Among old ∧ ¬record.Among new)
      = (store.lookup name recordType).filter fun record => ¬record.Among old ∧ ¬record.Among new := by
  refine sound.filter_group_run ?_ _
  intro call member record kept about
  rw [decide_eq_true_eq] at kept
  rcases List.mem_append.mp member with retracts | announces
  · obtain ⟨built, listed, rfl⟩ := List.mem_map.mp retracts
    exact kept.1 ⟨built, listed, about⟩
  · obtain ⟨built, listed, rfl⟩ := List.mem_map.mp announces
    exact kept.2 ⟨built, listed, about⟩

theorem publish_notMem_retractions (ttl : UInt32) (old : List Record) (record : Record) :
    Call.publish record ∉ old.map fun gone => .unpublish (gone.stamped ttl) := by
  intro member
  obtain ⟨_, _, wrong⟩ := List.mem_map.mp member
  cases wrong

/-- What a part of the announcements publishes is new. -/
theorem among_of_publish_mem {calls : List Call} {record : Record}
    (part : calls ⊆ new.map fun record => .publish (record.stamped ttl))
    (member : .publish record ∈ calls) : ∃ built ∈ new, record = built.stamped ttl := by
  obtain ⟨built, listed, same⟩ := List.mem_map.mp (part member)
  cases same
  exact ⟨built, listed, rfl⟩

/-- **At every moment of a replacement** either everything published was published before, or nothing
published is old that is not new as well. -/
theorem replaced_at_every_call (sound : store.Sound) {first rest : List Call}
    (parted : replacement ttl old new = first ++ rest) :
    (∀ record ∈ (store.run first).records, record ∈ store.records) ∨
      ∀ record ∈ (store.run first).records, record.Among old → record.Among new := by
  rcases List.append_eq_append_iff.mp parted with ⟨begun, rfl, announces⟩ | ⟨left, retracts, _⟩
  · right
    intro record published isOld
    have part : begun ⊆ new.map fun record => .publish (record.stamped ttl) := by
      rw [announces]
      exact List.subset_append_left _ _
    rw [run_append] at published
    rcases mem_records_run published with before | announced
    · have retracted := contains_run_calls sound ttl .retract old record
      have contained := retracted.mp (contains_of_mem_records (sound.run _) before)
      rcases contained with ⟨_, wrong⟩ | ⟨gone, _⟩
      · cases wrong
      · exact absurd isOld gone
    · obtain ⟨built, listed, rfl⟩ := among_of_publish_mem part announced
      exact ⟨built, listed, .refl built⟩
  · left
    intro record published
    rcases mem_records_run published with before | announced
    · exact before
    · refine absurd ?_ (publish_notMem_retractions ttl old record)
      rw [retracts]
      exact List.mem_append_left _ announced

/-- What is published after a replacement was published before or is new, with the time to live given. -/
theorem mem_records_replaced {record : Record}
    (published : record ∈ (store.run (replacement ttl old new)).records) :
    record ∈ store.records ∨ ∃ built ∈ new, record = built.stamped ttl := by
  rcases mem_records_run published with before | announced
  · exact .inl before
  · rcases List.mem_append.mp announced with retraction | announcement
    · exact absurd retraction (publish_notMem_retractions ttl old record)
    · exact .inr (among_of_publish_mem (List.Subset.refl _) announcement)

end Replacement

end Store

/-! ### Updates -/

namespace Change

variable {α : Type} [RecordSource α]

theorem calls_updated (settings : SyncSettings) (ttl : UInt32) (old new : α) :
    ((updated old new).batches settings).flatMap (Batch.calls ttl)
      = Store.replacement ttl (RecordSource.records settings old)
          (RecordSource.records settings new) := by
  unfold batches
  rw [List.flatMap_cons, List.flatMap_singleton]
  rfl

/-- **An update replaces the records of an object.** Sent one after the other through a relay at rest, its
batches become the retractions of all old records in order and then the announcements of all new ones.
Any store contains after these calls what is new, and what it contained apart from what is old; what is
published and was not before is new, and the records that are neither old nor new stay as they are and
in their order. Up to some call everything published was published before, and from that call on
nothing is that is old and not new as well. -/
theorem updated_replaces (settings : SyncSettings) (ttl : UInt32) (old new : α) {store : Store}
    (sound : store.Sound) :
    let olds := RecordSource.records settings old
    let news := RecordSource.records settings new
    let batches := (updated old new).batches settings
    let calls := batches.flatMap (Batch.calls ttl)
    calls = olds.map (fun record => .unpublish (record.stamped ttl))
        ++ news.map (fun record => .publish (record.stamped ttl)) ∧
      (∀ (relay : Relay) position sender, relay.Calm → relay.ttl = ttl →
        relay.senders[position]? = some sender → sender.stage = .idle → sender.plan = [] →
          (relay.sendAll position batches).calls = relay.calls ++ calls) ∧
      (∀ record, (store.run calls).contains record = true
        ↔ record.Among news ∨ store.contains record = true ∧ ¬record.Among olds) ∧
      (∀ record ∈ (store.run calls).records,
        record ∈ store.records ∨ ∃ built ∈ news, record = built.stamped ttl) ∧
      (∀ name recordType,
        ((store.run calls).lookup name recordType).filter
            (fun record => ¬record.Among olds ∧ ¬record.Among news)
          = (store.lookup name recordType).filter
              fun record => ¬record.Among olds ∧ ¬record.Among news) ∧
      ∀ first rest, calls = first ++ rest →
        (∀ record ∈ (store.run first).records, record ∈ store.records) ∨
          ∀ record ∈ (store.run first).records, record.Among olds → record.Among news := by
  intro olds news batches calls
  have replaces : calls = Store.replacement ttl olds news := calls_updated settings ttl old new
  refine ⟨replaces, ?_, ?_, ?_, ?_, ?_⟩
  · rintro relay position sender calm rfl found idle planless
    rw [Relay.sendAll_eq_passed calm found idle planless]
    rfl
  · rw [replaces]
    exact Store.contains_replaced sound
  · rw [replaces]
    exact fun _ => Store.mem_records_replaced
  · rw [replaces]
    exact Store.filter_lookup_replaced sound
  · rw [replaces]
    exact fun _ _ => Store.replaced_at_every_call sound

/-- An object that gives one of its two hosts another name and shares the other host with an object of
another address. -/
theorem updated_replaces_of_shared_host :
    let ingress (host address : String) : Ingress :=
      ⟨⟨some "app", none, some "web", none, .empty⟩, [some host, some "app.local"], [some address]⟩
    let old := ingress "old.local" "192.0.2.1"
    let new := ingress "new.local" "192.0.2.1"
    let settings : SyncSettings := ⟨[.ingress], false, "", 120, false, 60⟩
    let store := Store.empty.dispatchAll 120
      [.ofObject settings .announce (ingress "APP.local" "192.0.2.2"), .ofObject settings .announce old]
    let calls := ((updated old new).batches settings).flatMap (Batch.calls 120)
    let record (host : String) (last : UInt8) : Record :=
      ⟨⟨[Name.utf8 host.toList, Name.utf8 "local".toList]⟩, .internet, 120, .a ⟨192, 0, 2, last⟩⟩
    store.Sound ∧ store.records = [record "APP" 2, record "app" 1, record "old" 1] ∧
      (store.run calls).records = [record "APP" 2, record "app" 1, record "new" 1] ∧
      ∀ first rest, calls = first ++ rest →
        (∀ record ∈ (store.run first).records, record ∈ store.records) ∨
          ∀ record ∈ (store.run first).records,
            record.Among (RecordSource.records settings old) →
              record.Among (RecordSource.records settings new) := by
  intro ingress old new settings store calls record
  have sound : store.Sound := Store.sound_empty.dispatchAll 120 _
  obtain ⟨_, _, _, _, _, always⟩ := updated_replaces settings 120 old new sound
  exact ⟨sound, by decide +kernel, by decide +kernel, always⟩

end Change

end ClusterMdns
