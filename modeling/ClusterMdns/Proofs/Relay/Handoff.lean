import ClusterMdns.Proofs.Relay.Accounts

/-!
The handoff is exact: whatever senders, dispatcher and whoever cancels do and in whatever order.

* `Accounted.begun_eq`: what a sender has begun to send was taken, was refused or is under way.
* `takenFrom_prefix_begun`: the batches taken from a sender are the first of those that it has begun
  to send.
* `Accounted.accepted_iff`: the send of the n-th batch of a sender is accepted exactly if at least
  n + 1 batches were taken from it.
* `Sound.calls_eq`: a batch is taken, and the dispatcher stops, only after all calls of the batches
  before.
* `accepted_eq_false_of_begun_after`: after a refused send no send that begins is accepted, whoever
  sends.
-/

namespace ClusterMdns.Relay

section Sender

variable {relay : Relay} {position : Nat} {sender : Sender}

/-- **What a sender has begun to send was taken, was refused or is under way.** -/
theorem Accounted.begun_eq (accounted : relay.Accounted position sender) :
    sender.begun = relay.takenFrom position ++ sender.refused ++ sender.stage.unsettled := by
  obtain ⟨yes, no, split, took, refused⟩ := accounted.outcomes
  have told : sender.outcomes.map Prod.fst = yes ++ no := by
    simp [split, Function.comp_def]
  have turnedDown : (sender.outcomes.filter fun outcome => !outcome.2).map Prod.fst = no := by
    simp [split, List.filter_map, Function.comp_def]
  rw [Sender.begun, Sender.refused, told, turnedDown, took]
  cases stage : sender.stage with
  | settled batch accepted =>
    cases accepted with
    | true =>
      -- A batch is taken only before anything is refused.
      have none : no = [] := by
        by_contra some
        rw [stage] at refused
        cases (refused some).2
      simp [none, SendStage.current, SendStage.accepted, SendStage.refused, SendStage.unsettled]
    | false => simp [SendStage.current, SendStage.accepted, SendStage.refused, SendStage.unsettled]
  | idle | offering | waiting | gone =>
    simp [SendStage.current, SendStage.accepted, SendStage.refused, SendStage.unsettled]

theorem takenFrom_prefix_begun (accounted : relay.Accounted position sender) :
    relay.takenFrom position <+: sender.begun := by
  rw [accounted.begun_eq, List.append_assoc]
  exact List.prefix_append _ _

theorem takenFrom_prefix_sequence (accounted : relay.Accounted position sender) :
    relay.takenFrom position <+: sender.sequence :=
  (takenFrom_prefix_begun accounted).trans (List.prefix_append _ _)

/-- The n-th outcome of a sender concerns the n-th batch of its sequence. -/
theorem sequence_getElem? {n : Nat} {batch : Batch} {accepted : Bool}
    (told : sender.outcomes[n]? = some (batch, accepted)) : sender.sequence[n]? = some batch := by
  have inside : n < (sender.outcomes.map Prod.fst).length := by
    rw [List.length_map]
    exact (List.getElem?_eq_some_iff.mp told).1
  rw [Sender.sequence, Sender.begun, List.append_assoc, List.getElem?_append_left inside,
    List.getElem?_map, told]
  rfl

/-- **The send of the n-th batch is accepted exactly if more than n batches were taken.** -/
theorem Accounted.accepted_iff (accounted : relay.Accounted position sender) {n : Nat}
    {batch : Batch} {accepted : Bool} (told : sender.outcomes[n]? = some (batch, accepted)) :
    accepted = true ↔ n < (relay.takenFrom position).length := by
  obtain ⟨yes, no, split, took, refused⟩ := accounted.outcomes
  rw [split] at told
  rw [took, List.length_append]
  by_cases early : n < yes.length
  · rw [List.getElem?_append_left (by rwa [List.length_map]), List.getElem?_map,
      Option.map_eq_some_iff] at told
    obtain ⟨_, _, same⟩ := told
    cases same
    exact ⟨fun _ => by omega, fun _ => rfl⟩
  · rw [List.getElem?_append_right (by rw [List.length_map]; omega), List.getElem?_map,
      Option.map_eq_some_iff] at told
    obtain ⟨late, found, same⟩ := told
    cases same
    have some : no ≠ [] := List.ne_nil_of_mem (List.mem_of_getElem? found)
    rw [(refused some).2]
    constructor
    · exact nofun
    · rw [List.length_nil, Nat.add_zero]
      exact fun late => absurd late early

/-- A refused send shows that the relay refuses. -/
theorem Accounted.refusing_of_mem (accounted : relay.Accounted position sender) {batch : Batch}
    (told : (batch, false) ∈ sender.outcomes) : relay.Refusing := by
  by_contra serving
  obtain ⟨yes, split, _⟩ := accounted.outcomes_of_not_refusing serving
  rw [split] at told
  obtain ⟨_, _, same⟩ := List.mem_map.mp told
  cases same

end Sender

/-- **A batch is taken, and the dispatcher stops, only after all calls of the batches before.** -/
theorem Sound.calls_eq {relay next : Relay} {move : RelayMove} (sound : relay.Sound)
    (moved : relay.Moved move next)
    (turns : next.taken ≠ relay.taken ∨ next.dispatcher = .stopped) :
    relay.calls = relay.taken.flatMap fun entry => entry.2.calls relay.ttl := by
  have done : relay.dispatcher.callsLeft = [] := by
    cases moved with
    | took _ _ listening => rw [listening]; rfl
    | stopped may => exact callsLeft_of_mayStop may
    | dropped _ _ may => exact callsLeft_of_mayStop may
    | looked ready => rw [ready]; rfl
    | called => rcases turns with turn | turn <;> contradiction
    | finished done => rw [done]; rfl
    | begun | offered | refused | noticed | left | cancelled =>
      rcases turns with turn | turn
      · contradiction
      · rw [show relay.dispatcher = .stopped from turn]
        rfl
  rw [← sound.called, done, List.append_nil]

/-- **After a refused send no send that begins is accepted**, by whichever sender. -/
theorem accepted_eq_false_of_begun_after {relay : Relay} (sound : relay.Sound)
    (refusing : relay.Refusing) (later : List RelayMove) {position : Nat} {before now : Sender}
    (found : relay.senders[position]? = some before)
    (foundLater : (relay.perform later).senders[position]? = some now) {n : Nat} {batch : Batch}
    {accepted : Bool} (begun : before.begun.length ≤ n)
    (told : now.outcomes[n]? = some (batch, accepted)) : accepted = false := by
  have accounted := (sound.perform later).accounted position now foundLater
  have frozen : (relay.perform later).takenFrom position = relay.takenFrom position := by
    rw [takenFrom, taken_perform_of_stopped sound refusing.1, takenFrom]
  have few := (takenFrom_prefix_begun (sound.accounted position before found)).length_le
  rw [Bool.eq_false_iff, Ne, accounted.accepted_iff told, frozen]
  omega

/-- **The handoff is exact.** Take any senders with what each of them sends one after another, any
moves and any later moves. Then

* what a sender has sent, sends and has yet to send is its plan; the batches taken from it are the
  first of its plan, each once and in order; and its n-th send was accepted if the n-th batch is one
  of them and refused if it is not;
* nothing else is taken;
* the calls made and those left of the last batch are the calls of the batches taken, in order;
* a further batch is taken, or the dispatcher stops, only when no call is left;
* once some send was refused, every send that begins later is refused, whoever sends. -/
theorem taken_exactly_once_in_order (ttl : UInt32) (plans : List (List Batch))
    (moves later : List RelayMove) :
    let relay := (planning ttl plans).perform moves
    (∀ position plan, plans[position]? = some plan →
      ∃ sender, relay.senders[position]? = some sender ∧ sender.sequence = plan ∧
        relay.takenFrom position <+: plan ∧
        ∀ n batch accepted, sender.outcomes[n]? = some (batch, accepted) →
          plan[n]? = some batch ∧ (accepted = true ↔ n < (relay.takenFrom position).length)) ∧
    (∀ entry ∈ relay.taken, entry.1 < plans.length) ∧
    relay.calls ++ relay.dispatcher.callsLeft
      = relay.taken.flatMap (fun entry => entry.2.calls ttl) ∧
    (∀ move next, relay.move? move = some next →
      next.taken ≠ relay.taken ∨ next.dispatcher = .stopped →
      relay.calls = relay.taken.flatMap fun entry => entry.2.calls ttl) ∧
    ∀ (refusedPosition : Nat) (refusedSender : Sender) (refusedBatch : Batch),
      relay.senders[refusedPosition]? = some refusedSender →
      (refusedBatch, false) ∈ refusedSender.outcomes →
      ∀ (position : Nat) (before now : Sender), relay.senders[position]? = some before →
        (relay.perform later).senders[position]? = some now →
        ∀ n batch accepted, before.begun.length ≤ n →
          now.outcomes[n]? = some (batch, accepted) → accepted = false := by
  intro relay
  have fresh := sound_planning ttl plans
  have sound : relay.Sound := fresh.perform moves
  have sameTtl : relay.ttl = ttl := ttl_perform fresh moves
  have sequences : relay.senders.map Sender.sequence = plans := by
    rw [sequences_perform fresh moves, planning, List.map_map]
    exact List.map_id plans
  refine ⟨fun position plan planned => ?_, fun entry member => ?_, ?_, ?_, ?_⟩
  · rw [← sequences, List.getElem?_map, Option.map_eq_some_iff] at planned
    obtain ⟨sender, found, rfl⟩ := planned
    have accounted := sound.accounted position sender found
    refine ⟨sender, found, rfl, takenFrom_prefix_sequence accounted, fun n batch accepted told => ?_⟩
    exact ⟨sequence_getElem? told, accounted.accepted_iff told⟩
  · have inside := sound.origin entry member
    rw [← sequences, List.length_map]
    exact inside
  · rw [sound.called, sameTtl]
  · intro move next made turns
    rw [sound.calls_eq (moved_of_move? sound.held made) turns, sameTtl]
  · intro refusedPosition refusedSender refusedBatch there told position before now found foundLater
      n batch accepted begun toldLater
    have refusing := (sound.accounted refusedPosition refusedSender there).refusing_of_mem told
    exact accepted_eq_false_of_begun_after sound refusing later found foundLater begun toldLater

/-- The dispatcher is asked to stop after it has looked and before it takes the batch of the first
sender, and the batch of the second one is in the slot when it stops: the first send is accepted and
its call made, the second one is refused, and so is the next one of the first sender. -/
theorem taken_exactly_once_in_order_cancelled :
    let announced : Batch := ⟨.service, .announce, [.built ⟨[[97]]⟩ (.a ⟨192, 0, 2, 1⟩)]⟩
    let retracted : Batch := ⟨.service, .retract, []⟩
    let other : Batch := ⟨.ingress, .announce, []⟩
    let relay := (planning 120 [[announced, retracted], [other]]).perform
      [.begin 0, .offer 0, .begin 1, .look, .cancel, .take, .offer 1, .notice 0, .call, .finish,
        .stop, .notice 1]
    relay.senders[1]? = some ⟨[], .idle, [(other, false)]⟩ ∧
      (relay.perform [.begin 0, .refuse 0, .notice 0]).senders[0]?
        = some ⟨[], .idle, [(announced, true), (retracted, false)]⟩ ∧
      (∃ sender, relay.senders[0]? = some sender ∧ sender.sequence = [announced, retracted] ∧
        relay.takenFrom 0 <+: [announced, retracted] ∧
        ∀ n batch accepted, sender.outcomes[n]? = some (batch, accepted) →
          [announced, retracted][n]? = some batch ∧
            (accepted = true ↔ n < (relay.takenFrom 0).length)) ∧
      ∀ n batch accepted, 1 ≤ n →
        [(announced, true), (retracted, false)][n]? = some (batch, accepted) →
          accepted = false := by
  intro announced retracted other relay
  obtain ⟨each, _, _, _, later⟩ := taken_exactly_once_in_order 120 [[announced, retracted], [other]]
    [.begin 0, .offer 0, .begin 1, .look, .cancel, .take, .offer 1, .notice 0, .call, .finish,
      .stop, .notice 1] [.begin 0, .refuse 0, .notice 0]
  have refused : relay.senders[1]? = some ⟨[], .idle, [(other, false)]⟩ := by decide +kernel
  have before : relay.senders[0]? = some ⟨[retracted], .idle, [(announced, true)]⟩ := by decide +kernel
  have now : (relay.perform [.begin 0, .refuse 0, .notice 0]).senders[0]?
      = some ⟨[], .idle, [(announced, true), (retracted, false)]⟩ := by decide +kernel
  refine ⟨refused, now, each 0 _ rfl, ?_⟩
  exact later 1 _ other refused (List.mem_singleton_self _) 0 _ _ before now
end ClusterMdns.Relay
