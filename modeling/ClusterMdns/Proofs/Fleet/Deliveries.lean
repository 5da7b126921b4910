import ClusterMdns.Proofs.Fleet.Agreement
import Mathlib.Logic.Function.Basic

/-!
Which posting of which watcher every batch taken is. The batches of one watcher are taken in the order
in which it posted them, so the n-th batch taken from a watcher is its n-th posting.

* `Sound.map_deliveries` and `Sound.about_deliveries`: at rest the deliveries are the batches taken,
  and those of one watcher and one key are what the watcher has sent under the key.
* `Sound.stands_or_withdrawn`: what a delivery announced is known under its key, or a later delivery
  for the same object retracts it.
* `Sound.announced_last`: the records of a known object were announced by the last delivery for it.
* `Sound.contains_iff`: a record is published exactly if the last delivery that mentions it announces
  it.
-/

namespace ClusterMdns

/-- The batches taken, given what each watcher has posted: the first batch of a watcher is its first
posting, and so on. -/
def labelled : (Nat → List Posting) → List (Nat × Batch) → List (Nat × Posting)
  | _, [] => []
  | queues, (position, _) :: rest =>
    match queues position with
    | [] => labelled queues rest
    | posting :: later => (position, posting) :: labelled (Function.update queues position later) rest

/-- **Batches that were taken queue by queue are the postings of the queues.** -/
theorem labelled_of_queued (taken : List (Nat × Batch)) (queues : Nat → List Posting)
    (queued : ∀ position, (taken.filter fun entry => entry.1 == position).map Prod.snd
      = (queues position).map Posting.batch) :
    (labelled queues taken).map (fun delivery => (delivery.1, delivery.2.batch)) = taken ∧
      ∀ position, ((labelled queues taken).filter fun delivery => delivery.1 == position).map Prod.snd
        = queues position := by
  induction taken generalizing queues with
  | nil => exact ⟨rfl, fun position => (List.map_eq_nil_iff.mp (queued position).symm).symm⟩
  | cons entry rest ih =>
    obtain ⟨position, batch⟩ := entry
    have first := queued position
    rw [List.filter_cons_of_pos (by simp), List.map_cons] at first
    obtain ⟨posting, later, waiting, rfl, following⟩ := List.map_eq_cons_iff.mp first.symm
    obtain ⟨whole, each⟩ := ih (Function.update queues position later) fun other => by
      by_cases here : other = position
      · subst here
        rw [Function.update_self, following]
      · rw [Function.update_of_ne here, ← queued other,
          List.filter_cons_of_neg (by simpa using Ne.symm here)]
    simp only [labelled, waiting]
    refine ⟨by rw [List.map_cons, whole], fun other => ?_⟩
    by_cases here : other = position
    · subst here
      rw [List.filter_cons_of_pos (by simp), List.map_cons, each other, Function.update_self,
        waiting]
    · rw [List.filter_cons_of_neg (by simpa using Ne.symm here), each other,
        Function.update_of_ne here]

namespace Fleet

/-- What a watcher has posted. -/
def postedBy (fleet : Fleet) (position : Nat) : List Posting :=
  (fleet.watchers[position]?.map Watcher.sent).getD []

/-- The batches taken so far, each with the position of its watcher and as the posting that it is, in
the order in which they were taken. -/
def deliveries (fleet : Fleet) : List (Nat × Posting) := labelled fleet.postedBy fleet.relay.taken

/-- Whether a delivery is for the object that a watcher knows under a key. -/
def IsFor (position : Nat) (key : String) (delivery : Nat × Posting) : Prop :=
  delivery.1 = position ∧ delivery.2.key = key

instance (position : Nat) (key : String) (delivery : Nat × Posting) :
    Decidable (IsFor position key delivery) :=
  inferInstanceAs (Decidable (_ ∧ _))

/-- Whether a delivery is the last one that mentions a record. -/
def Decides (fleet : Fleet) (record : Record) (delivery : Nat × Posting) : Prop :=
  ∃ before after, fleet.deliveries = before ++ delivery :: after ∧
    record.Among delivery.2.batch.records ∧ ∀ later ∈ after, ¬record.Among later.2.batch.records

section Resting

variable {settings : SyncSettings} {ttl : UInt32} {heard : Nat → News → Prop} {fleet : Fleet}

/-- At rest what was taken from a position is what was posted there. -/
theorem Sound.takenFrom_eq_postedBy (sound : fleet.Sound settings ttl heard)
    (resting : fleet.relay.Resting) (position : Nat) :
    fleet.relay.takenFrom position = (fleet.postedBy position).map Posting.batch := by
  cases known : fleet.watchers[position]? with
  | some watcher =>
    rw [sound.takenFrom_of_resting resting known, postedBy, known]
    rfl
  | none =>
    -- Nothing was taken from where no watcher is.
    rw [Relay.takenFrom, postedBy, known]
    refine List.map_eq_nil_iff.mpr (List.filter_eq_nil_iff.mpr fun entry taken here => ?_)
    obtain ⟨watcher, there⟩ := sound.watcher_of_taken taken
    rw [beq_iff_eq.mp here, known] at there
    cases there

/-- **At rest the deliveries are the batches taken.** -/
theorem Sound.map_deliveries (sound : fleet.Sound settings ttl heard)
    (resting : fleet.relay.Resting) :
    fleet.deliveries.map (fun delivery => (delivery.1, delivery.2.batch)) = fleet.relay.taken :=
  (labelled_of_queued _ _ (sound.takenFrom_eq_postedBy resting)).1

/-- **At rest the deliveries of one watcher and one key are what it has sent under the key.** -/
theorem Sound.about_deliveries (sound : fleet.Sound settings ttl heard)
    (resting : fleet.relay.Resting) (position : Nat) (key : String) :
    (fleet.deliveries.filter fun delivery => IsFor position key delivery).map
        (fun delivery => delivery.2.batch)
      = Posting.about key (fleet.postedBy position) := by
  have posted := (labelled_of_queued _ _ (sound.takenFrom_eq_postedBy resting)).2 position
  have both : (fleet.deliveries.filter fun delivery => IsFor position key delivery)
      = (fleet.deliveries.filter fun delivery => delivery.1 == position).filter
          fun delivery => delivery.2.key == key := by
    rw [List.filter_filter]
    refine List.filter_congr fun delivery _ => ?_
    rw [Bool.eq_iff_iff, decide_eq_true_iff, Bool.and_eq_true, beq_iff_eq, beq_iff_eq]
    exact and_comm
  rw [both, Posting.about, ← posted, List.filter_map, List.map_map]
  rfl

/-- What a watcher has sent under a key leaves the records known under it. -/
theorem Sound.standing (sound : fleet.Sound settings ttl heard) (position : Nat) (key : String) :
    ∃ source, Standing source (fleet.recordsOf position key)
      (Posting.about key (fleet.postedBy position)) := by
  unfold recordsOf postedBy
  cases known : fleet.watchers[position]? with
  | none => exact ⟨.service, .unseen⟩
  | some watcher =>
    refine ⟨watcher.source, ?_⟩
    rw [Option.bind_some, sound.sameSettings]
    exact (sound.watchers position watcher known).standing key

/-- **What a delivery announced is known under its key, or a later delivery for the same object
retracts it.** -/
theorem Sound.stands_or_withdrawn (sound : fleet.Sound settings ttl heard)
    (resting : fleet.relay.Resting) {before after : List (Nat × Posting)} {delivery : Nat × Posting}
    (split : fleet.deliveries = before ++ delivery :: after)
    (announces : delivery.2.batch.action = .announce) :
    fleet.recordsOf delivery.1 delivery.2.key = some delivery.2.batch.records ∨
      ∃ withdrawal ∈ after, IsFor delivery.1 delivery.2.key withdrawal ∧
        withdrawal.2.batch.records = delivery.2.batch.records := by
  obtain ⟨source, standing⟩ := sound.standing delivery.1 delivery.2.key
  rw [← sound.about_deliveries resting, split, List.filter_append, List.filter_cons_of_pos
    (by simp [IsFor]), List.map_append, List.map_cons] at standing
  rcases standing.stands_or_retracted rfl announces with known | ⟨retraction, member, same⟩
  · exact .inl known
  · obtain ⟨withdrawal, later, rfl⟩ := List.mem_map.mp member
    obtain ⟨later, here⟩ := List.mem_filter.mp later
    exact .inr ⟨withdrawal, later, of_decide_eq_true here, same⟩

/-- **The records of a known object were announced by the last delivery for it.** -/
theorem Sound.announced_last (sound : fleet.Sound settings ttl heard)
    (resting : fleet.relay.Resting) {position : Nat} {key : String} {records : List Record}
    (known : fleet.recordsOf position key = some records) :
    ∃ before delivery after, fleet.deliveries = before ++ delivery :: after ∧
      delivery.2.batch.action = .announce ∧ delivery.2.batch.records = records ∧
      ∀ later ∈ after, ¬IsFor position key later := by
  obtain ⟨source, standing⟩ := sound.standing position key
  rw [known] at standing
  obtain ⟨earlier, ends⟩ := standing.getLast_of_some
  rw [← sound.about_deliveries resting] at ends
  obtain ⟨firsts, lasts, split, _, last⟩ := List.map_eq_append_iff.mp ends
  obtain ⟨delivery, nothing, rfl, announces, none⟩ := List.map_eq_cons_iff.mp last
  obtain ⟨before, after, whole, _, behind⟩ := List.filter_eq_append_iff.mp split
  obtain ⟨between, later, rfl, _, _, silent⟩ := List.filter_eq_cons_iff.mp behind
  rw [List.map_eq_nil_iff.mp none, List.filter_eq_nil_iff] at silent
  refine ⟨before ++ between, delivery, later, by rw [whole, List.append_assoc], ?_, ?_, ?_⟩
  · rw [announces]
  · rw [announces]
  · exact fun other member here => silent other member (decide_eq_true here)

/-- The last batch taken that mentions a record is that of a delivery. -/
theorem Sound.lastMention_iff (sound : fleet.Sound settings ttl heard)
    (resting : fleet.relay.Resting) (record : Record) (action : Action) :
    LastMention record action (fleet.relay.taken.map Prod.snd)
      ↔ ∃ delivery, fleet.Decides record delivery ∧ delivery.2.batch.action = action := by
  rw [← sound.map_deliveries resting, List.map_map]
  constructor
  · rintro ⟨first, batch, last, split, acts, among, silent⟩
    obtain ⟨before, rest, whole, _, ends⟩ := List.map_eq_append_iff.mp split
    obtain ⟨delivery, after, rfl, rfl, rfl⟩ := List.map_eq_cons_iff.mp ends
    refine ⟨delivery, ⟨before, after, whole, among, fun later member => ?_⟩, acts⟩
    exact silent later.2.batch (List.mem_map_of_mem member)
  · rintro ⟨delivery, ⟨before, after, whole, among, silent⟩, acts⟩
    rw [whole, List.map_append, List.map_cons]
    refine ⟨_, _, _, rfl, acts, among, fun later member => ?_⟩
    obtain ⟨other, follows, rfl⟩ := List.mem_map.mp member
    exact silent other follows

/-- **At rest a record is published exactly if the last delivery that mentions it announces it.** -/
theorem Sound.contains_iff (sound : fleet.Sound settings ttl heard) (resting : fleet.relay.Resting)
    (record : Record) :
    fleet.store.contains record = true
      ↔ ∃ delivery, fleet.Decides record delivery ∧ delivery.2.batch.action = .announce := by
  rw [sound.store_of_resting resting, Store.contains_dispatchAll_iff Store.sound_empty,
    sound.lastMention_iff resting]
  constructor
  · rintro (announced | ⟨_, before⟩)
    · exact announced
    · cases before
  · exact .inl

end Resting

end Fleet

end ClusterMdns
