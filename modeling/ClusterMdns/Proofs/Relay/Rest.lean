import ClusterMdns.Proofs.Relay.Accounts
import ClusterMdns.Proofs.Store.Contents
import ClusterMdns.Proofs.Store.Interleaving

/-!
A relay at rest: nothing is left to send and no call is left to make.

* `Sound.planned`: giving more to an idle sender keeps a relay sound.
* `Accounted.takenFrom_append_outstanding`: unless sends are refused, what was taken from a sender
  and what is outstanding is its whole sequence.
* `Sound.store_of_resting`: the store of a relay at rest is the one that all batches taken lead to.
* `Sound.interleaved_of_resting`: those batches are an interleaving of what the senders send.
-/

namespace ClusterMdns.Relay

/-- Nothing is left to send and no call is left to make. -/
def Resting (relay : Relay) : Prop :=
  (∀ sender ∈ relay.senders, sender.outstanding = []) ∧ relay.dispatcher.callsLeft = []

instance (relay : Relay) : Decidable relay.Resting := inferInstanceAs (Decidable (_ ∧ _))

section Planned

variable {relay : Relay} {position : Nat} {sender : Sender}

theorem planned_eq_withSender (found : relay.senders[position]? = some sender)
    (batches : List Batch) :
    relay.planned position batches
      = relay.withSender position { sender with plan := sender.plan ++ batches } := by
  rw [planned, withSender, List.modify_eq_set_getElem?, found]
  rfl

/-- **A sender that sends nothing may be given more to send.** -/
theorem Sound.planned (sound : relay.Sound) (found : relay.senders[position]? = some sender)
    (idle : sender.stage = .idle) (batches : List Batch) :
    (relay.planned position batches).Sound := by
  have accounted := sound.accounted position sender found
  rw [planned_eq_withSender found]
  refine sound.withSender found (by rw [idle]; exact SendStage.noConfusion) ⟨?_, ?_, fun other => ?_⟩
  · exact accounted.outcomes
  · exact accounted.refusal
  · exact accounted.waiting other

theorem sequences_planned (found : relay.senders[position]? = some sender) (batches : List Batch) :
    (relay.planned position batches).senders.map Sender.sequence
      = (relay.senders.map Sender.sequence).set position (sender.sequence ++ batches) := by
  rw [planned_eq_withSender found, withSender, List.map_set]
  simp only [Sender.sequence, Sender.begun, List.append_assoc]

end Planned

/-- **Unless sends are refused, what was taken from a sender and what is outstanding is its whole
sequence.** -/
theorem Accounted.takenFrom_append_outstanding {relay : Relay} {position : Nat} {sender : Sender}
    (accounted : relay.Accounted position sender) (serving : ¬relay.Refusing) :
    relay.takenFrom position ++ sender.outstanding = sender.sequence := by
  obtain ⟨yes, split, took⟩ := accounted.outcomes_of_not_refusing serving
  have told : sender.outcomes.map Prod.fst = yes := by
    simp [split, Function.comp_def]
  rw [took, Sender.sequence, Sender.begun, told, Sender.outstanding]
  simp only [List.append_assoc, List.append_cancel_left_eq]
  rw [← List.append_assoc]
  congr 1
  cases stage : sender.stage with
  | settled batch accepted =>
    cases accepted with
    | true => rfl
    | false => exact absurd (accounted.refusal batch stage) serving
  | _ => rfl

/-- Only a request to stop makes a relay cancelled. -/
theorem cancelled_moved {relay next : Relay} {move : RelayMove} (moved : relay.Moved move next)
    (running : relay.cancelled = false) (other : move ≠ .cancel) : next.cancelled = false := by
  cases moved with
  | cancelled => exact absurd rfl other
  | _ => exact running

/-- The store of a relay without calls left is the one that the batches taken lead to. -/
theorem Sound.store_of_resting {relay : Relay} (sound : relay.Sound) (resting : relay.Resting) :
    relay.store = Store.empty.dispatchAll relay.ttl (relay.taken.map Prod.snd) := by
  have called := sound.called
  rw [resting.2, List.append_nil] at called
  rw [store, called, ← Store.run_flatMap_calls, List.flatMap_map]

/-- At rest everything that a sender sends was taken, in order, unless the relay was asked to stop. -/
theorem Sound.takenFrom_of_resting {relay : Relay} (sound : relay.Sound) (resting : relay.Resting)
    (running : relay.cancelled = false) {position : Nat} {sender : Sender}
    (found : relay.senders[position]? = some sender) : relay.takenFrom position = sender.sequence := by
  have serving : ¬relay.Refusing := by
    rintro ⟨_, asked⟩
    rw [running] at asked
    cases asked
  have whole := (sound.accounted position sender found).takenFrom_append_outstanding serving
  rwa [resting.1 sender (List.mem_of_getElem? found), List.append_nil] at whole

/-- **A relay at rest that was not asked to stop has taken an interleaving of what its senders send.**
-/
theorem Sound.interleaved_of_resting {relay : Relay} (sound : relay.Sound) (resting : relay.Resting)
    (running : relay.cancelled = false) :
    Interleaved (relay.senders.map Sender.sequence) (relay.taken.map Prod.snd) := by
  refine interleaved_of_queued relay.taken fun position => ?_
  rw [queueAt, List.getElem?_map]
  cases found : relay.senders[position]? with
  | none =>
    have beyond := List.getElem?_eq_none_iff.mp found
    have nothing : (relay.taken.filter fun entry => entry.1 == position) = [] := by
      refine List.filter_eq_nil_iff.mpr fun entry member same => ?_
      have inside := sound.origin entry member
      rw [beq_iff_eq.mp same] at inside
      omega
    rw [nothing]
    rfl
  | some sender => exact sound.takenFrom_of_resting resting running found

/-- All records that a relay has published carry its time to live and class Internet. -/
theorem Sound.publishes {relay : Relay} (sound : relay.Sound) {record : Record}
    (published : .publish record ∈ relay.calls) :
    record.ttl = relay.ttl ∧ record.recordClass = .internet := by
  have called : .publish record ∈ relay.taken.flatMap fun entry => entry.2.calls relay.ttl := by
    rw [← sound.called]
    exact List.mem_append_left _ published
  obtain ⟨entry, _, made⟩ := List.mem_flatMap.mp called
  obtain ⟨built, _, same⟩ := List.mem_map.mp made
  cases action : entry.2.action with
  | announce =>
    rw [action] at same
    cases same
    exact ⟨rfl, rfl⟩
  | retract =>
    rw [action] at same
    cases same

end ClusterMdns.Relay
