import ClusterMdns.Proofs.Relay.Handoff

/-!
How far senders can be ahead of the calls. A send is accepted as soon as its batch is taken, before any
of its calls is made; but the next batch is taken only when no call is left.

* `Paced`: all batches taken but the last one are applied. Every move keeps this (`Paced.moved`), since a
  batch is only added behind batches whose calls are all made.
* `Paced.applied`: hence a batch that is taken finds all batches before it applied.
* `at_most_one_ahead`: the whole of it, after any moves.
-/

namespace ClusterMdns.Relay

/-- The first batches taken, up to a number, are applied: the calls made begin with all of theirs, in
order. -/
def Applied (relay : Relay) (count : Nat) : Prop :=
  ((relay.taken.take count).flatMap fun entry => entry.2.calls relay.ttl) <+: relay.calls

instance (relay : Relay) (count : Nat) : Decidable (relay.Applied count) :=
  inferInstanceAs (Decidable (_ <+: _))

/-- All batches taken but the last one are applied. -/
def Paced (relay : Relay) : Prop :=
  (relay.taken.dropLast.flatMap fun entry => entry.2.calls relay.ttl) <+: relay.calls

theorem Paced.moved {relay next : Relay} {move : RelayMove} (paced : relay.Paced)
    (sound : relay.Sound) (moved : relay.Moved move next) : next.Paced := by
  cases moved with
  | took _ _ listening =>
    -- Nothing is left to call while the dispatcher listens.
    have called := sound.called
    rw [listening] at called
    have complete : relay.calls = relay.taken.flatMap fun entry => entry.2.calls relay.ttl :=
      (List.append_nil _).symm.trans called
    rw [Paced, List.dropLast_concat]
    exact complete ▸ List.prefix_refl _
  | called _ => exact List.IsPrefix.trans paced (List.prefix_append _ _)
  | begun | offered | refused | noticed | left | looked | finished | stopped | dropped
    | cancelled => exact paced

/-- **After any moves all batches taken but the last one are applied.** -/
theorem Paced.perform {relay : Relay} (paced : relay.Paced) (sound : relay.Sound)
    (moves : List RelayMove) : (relay.perform moves).Paced := by
  refine (perform_induction (fun next => next.Sound ∧ next.Paced) ?_ ⟨sound, paced⟩ moves).2
  rintro before next _ ⟨ok, apace⟩ made
  have moved := moved_of_move? ok.held made
  exact ⟨ok.moved moved, apace.moved ok moved⟩

/-- All batches before a batch that was taken are applied. -/
theorem Paced.applied {relay : Relay} (paced : relay.Paced) {index : Nat}
    (inside : index < relay.taken.length) : relay.Applied index := by
  have fewer : relay.taken.take index <+: relay.taken.dropLast := by
    rw [List.dropLast_eq_take]
    exact List.take_prefix_take_left (by omega)
  obtain ⟨rest, split⟩ := fewer
  refine List.IsPrefix.trans ?_ paced
  rw [← split, List.flatMap_append]
  exact List.prefix_append _ _

/-- Only one sender at a time has its batch in the slot. -/
theorem Sound.waiting_unique {relay : Relay} (sound : relay.Sound) {first second : Nat}
    {one other : Sender} {batch offered : Batch} (found : relay.senders[first]? = some one)
    (foundToo : relay.senders[second]? = some other) (waits : one.stage = .waiting batch)
    (waitsToo : other.stage = .waiting offered) : first = second := by
  have held := ((sound.accounted first one found).waiting batch).mp waits
  rw [((sound.accounted second other foundToo).waiting offered).mp waitsToo] at held
  exact (Prod.mk.inj (Option.some.inj held)).1.symm

/-- The n-th entry of a list that has a property stands in it after n others that have it. -/
theorem exists_getElem?_of_filter {α : Type} {picked : α → Bool} {entries : List α} {n : Nat}
    {entry : α} (found : (entries.filter picked)[n]? = some entry) :
    ∃ index : Nat, entries[index]? = some entry ∧
      ((entries.take index).filter picked).length = n := by
  induction entries generalizing n with
  | nil => simp at found
  | cons first rest ih =>
    by_cases here : picked first = true
    · rw [List.filter_cons_of_pos here] at found
      cases n with
      | zero => exact ⟨0, found, rfl⟩
      | succ n =>
        obtain ⟨index, there, before⟩ := ih found
        refine ⟨index + 1, there, ?_⟩
        rw [List.take_succ_cons, List.filter_cons_of_pos here, List.length_cons, before]
    · rw [List.filter_cons_of_neg here] at found
      obtain ⟨index, there, before⟩ := ih found
      refine ⟨index + 1, there, ?_⟩
      rw [List.take_succ_cons, List.filter_cons_of_neg here, before]

/-- The n-th batch of a sender, if its send was accepted, was taken after n others of the sender. -/
theorem Accounted.exists_taken {relay : Relay} {position : Nat} {sender : Sender}
    (accounted : relay.Accounted position sender) {n : Nat} {batch : Batch}
    (told : sender.outcomes[n]? = some (batch, true)) :
    ∃ index : Nat, relay.taken[index]? = some (position, batch) ∧
      ((relay.taken.take index).filter fun entry => entry.1 == position).length = n := by
  have inside : n < (relay.takenFrom position).length := (accounted.accepted_iff told).mp rfl
  have nth : (relay.takenFrom position)[n]? = some batch := by
    obtain ⟨rest, split⟩ := takenFrom_prefix_sequence accounted
    rw [← sequence_getElem? told, ← split, List.getElem?_append_left inside]
  rw [takenFrom, List.getElem?_map, Option.map_eq_some_iff] at nth
  obtain ⟨⟨origin, taken⟩, found, rfl⟩ := nth
  have own : origin = position :=
    beq_iff_eq.mp (List.mem_filter.mp (List.mem_of_getElem? found)).2
  subst own
  exact exists_getElem?_of_filter found

/-- **No sender is ahead of the calls by more than a batch.** Take any senders with what each of them
sends, and any moves. Then

* at most one batch of those taken, from whichever sender, is not applied;
* the n-th send of a sender, if it was accepted, is for a batch that was taken as the n-th of the sender,
  and all batches taken before, from whichever sender, are applied, completely and in order;
* what a sender has begun to send was taken, was refused or is the one batch under way;
* no two senders have a batch in the slot. -/
theorem at_most_one_ahead (ttl : UInt32) (plans : List (List Batch)) (moves : List RelayMove) :
    let relay := (planning ttl plans).perform moves
    (∀ first second : Nat, first < relay.taken.length → second < relay.taken.length →
      ¬relay.Applied (first + 1) → ¬relay.Applied (second + 1) → first = second) ∧
    (∀ position sender, relay.senders[position]? = some sender →
      (∀ n batch, sender.outcomes[n]? = some (batch, true) →
        ∃ index : Nat, relay.taken[index]? = some (position, batch) ∧
          ((relay.taken.take index).filter fun entry => entry.1 == position).length = n ∧
          relay.Applied index) ∧
      sender.begun = relay.takenFrom position ++ sender.refused ++ sender.stage.unsettled ∧
      sender.stage.unsettled.length ≤ 1) ∧
    ∀ (first second : Nat) (one other : Sender) (batch offered : Batch),
      relay.senders[first]? = some one → relay.senders[second]? = some other →
      one.stage = .waiting batch → other.stage = .waiting offered → first = second := by
  intro relay
  have fresh := sound_planning ttl plans
  have sound : relay.Sound := fresh.perform moves
  have begun : (planning ttl plans).Paced := List.nil_prefix
  have paced : relay.Paced := begun.perform fresh moves
  have last : ∀ index, index < relay.taken.length → ¬relay.Applied (index + 1) →
      index + 1 = relay.taken.length := by
    intro index inside owed
    by_contra other
    exact owed (paced.applied (by omega))
  refine ⟨fun first second inside insideToo owed owedToo => ?_, fun position sender found => ?_,
    fun first second one other batch offered => sound.waiting_unique⟩
  · have one := last first inside owed
    have other := last second insideToo owedToo
    omega
  · have accounted := sound.accounted position sender found
    refine ⟨fun n batch told => ?_, accounted.begun_eq, ?_⟩
    · obtain ⟨index, taken, before⟩ := accounted.exists_taken told
      have inside : index < relay.taken.length := (List.getElem?_eq_some_iff.mp taken).1
      exact ⟨index, taken, before, paced.applied inside⟩
    · cases sender.stage <;> simp [SendStage.unsettled]

/-- While the first of the two calls of a batch is made, the next batch waits in the slot and the third
sender is turned away; the batch before is applied, the one that is being applied is not. -/
theorem at_most_one_ahead_of_calls :
    let record (letter : UInt8) : Record := .built ⟨[[letter]]⟩ (.a ⟨192, 0, 2, 1⟩)
    let first : Batch := ⟨.service, .announce, [record 97]⟩
    let second : Batch := ⟨.ingress, .retract, [record 98, record 99]⟩
    let third : Batch := ⟨.service, .announce, []⟩
    let relay := (planning 120 [[first, third], [second], [third]]).perform
      [.begin 0, .offer 0, .look, .take, .begin 1, .offer 1, .notice 0, .call, .finish, .look, .take,
        .begin 0, .offer 0, .begin 2, .offer 2, .notice 1, .call]
    ¬relay.Applied 2 ∧ relay.slot = some (0, third) ∧
      (∃ index : Nat, relay.taken[index]? = some (1, second) ∧
        ((relay.taken.take index).filter fun entry => entry.1 == 1).length = 0 ∧
        relay.Applied index) ∧
      (∀ index : Nat, index < relay.taken.length → ¬relay.Applied (index + 1) → index = 1) ∧
      ∀ (position : Nat) (sender : Sender) (batch : Batch), relay.senders[position]? = some sender →
        sender.stage = .waiting batch → position = 0 := by
  intro record first second third relay
  obtain ⟨one, each, alone⟩ := at_most_one_ahead 120 [[first, third], [second], [third]]
    [.begin 0, .offer 0, .look, .take, .begin 1, .offer 1, .notice 0, .call, .finish, .look, .take,
      .begin 0, .offer 0, .begin 2, .offer 2, .notice 1, .call]
  have owed : ¬relay.Applied 2 := by decide +kernel
  have found : relay.senders[1]? = some ⟨[], .idle, [(second, true)]⟩ := by decide +kernel
  have waits : relay.senders[0]? = some ⟨[], .waiting third, [(first, true)]⟩ := by decide +kernel
  refine ⟨owed, by decide +kernel, (each 1 _ found).1 0 second rfl, fun index inside left => ?_,
    fun position sender batch there waiting => ?_⟩
  · exact one index 1 inside (by decide +kernel) left owed
  · exact alone position 0 sender _ batch third there waits waiting rfl

end ClusterMdns.Relay
