import ClusterMdns.Proofs.Relay.Handoff
import Mathlib.Algebra.GroupWithZero.Nat

/-!
A relay is never stuck. Moves that continue what is under way (`RelayMove.continues`) begin no send, let
no sender go and ask nobody to stop.

* `exists_dispatcherMove`: a dispatcher that has something to take, was asked to stop or has nobody
  left to wait for can move unless it has stopped.
* `Sound.exists_move`: while a send is under way, or the dispatcher should stop and has not, a move that
  continues is possible.
* `work_lt_of_moved`: each such move leaves less work, so there are only so many of them
  (`length_le_work`).
* `Sound.exists_return`: once the dispatcher has stopped, each send can return by moves of its sender
  alone; `Sound.outcome_of_stopped`, it returns accepted exactly if its batch was taken.
* `never_stuck`: the whole of it, after any moves.
-/

namespace ClusterMdns

/-- Whether a move continues what is under way. -/
def RelayMove.continues : RelayMove → Bool
  | .begin _ | .leave _ | .cancel => false
  | .offer _ | .refuse _ | .notice _ | .look | .take | .call | .finish | .stop => true

namespace Relay

/-- The relay after moves, each of which must be possible. -/
def follow? (relay : Relay) (moves : List RelayMove) : Option Relay := moves.foldlM move? relay

/-- A send is under way, or the dispatcher has not stopped although it was asked to or all senders are
gone. -/
def Busy (relay : Relay) : Prop :=
  (∃ sender ∈ relay.senders, sender.stage.current ≠ []) ∨
    relay.dispatcher ≠ .stopped ∧
      (relay.cancelled = true ∨ ∀ sender ∈ relay.senders, sender.stage = .gone)

theorem follow?_cons {relay next : Relay} {move : RelayMove} (made : relay.move? move = some next)
    (rest : List RelayMove) : relay.follow? (move :: rest) = next.follow? rest := by
  rw [follow?, List.foldlM_cons, made]
  rfl

/-! ### Possible moves -/

section Possible

variable {relay : Relay}

theorem isSome_stop (may : relay.mayStop = true) : (relay.move? .stop).isSome = true := by
  cases slot : relay.slot <;> simp [move?, mover?, ownMove?, may, slot]

/-- A dispatcher that has a batch to take, was asked to stop or has nobody to wait for can move. -/
theorem exists_dispatcherMove (serving : relay.dispatcher ≠ .stopped)
    (due : relay.slot.isSome = true ∨ relay.cancelled = true ∨
      ∀ sender ∈ relay.senders, sender.stage = .gone) :
    ∃ move, RelayMove.continues move = true ∧ (relay.move? move).isSome = true := by
  cases stage : relay.dispatcher with
  | stopped => exact absurd stage serving
  | ready =>
    cases asked : relay.cancelled with
    | false => exact ⟨.look, rfl, by simp [move?, mover?, ownMove?, stage, asked]⟩
    | true => exact ⟨.stop, rfl, isSome_stop (by simp [mayStop, stage, asked])⟩
  | listening =>
    cases slot : relay.slot with
    | some entry => exact ⟨.take, rfl, by simp [move?, mover?, ownMove?, stage, slot]⟩
    | none =>
      have ended : relay.cancelled = true ∨ relay.isDeserted = true := by
        rcases due with occupied | asked | deserted
        · rw [slot] at occupied
          cases occupied
        · exact .inl asked
        · exact .inr ((isDeserted_iff relay).mpr ⟨slot, deserted⟩)
      exact ⟨.stop, rfl, isSome_stop (by simpa [mayStop, stage] using ended)⟩
  | calling calls =>
    cases calls with
    | nil => exact ⟨.finish, rfl, by simp [move?, mover?, ownMove?, stage]⟩
    | cons call rest => exact ⟨.call, rfl, by simp [move?, mover?, ownMove?, stage]⟩

/-- **While something is under way that should end, a move that continues is possible.** -/
theorem Sound.exists_move (sound : relay.Sound) (busy : relay.Busy) :
    ∃ move, RelayMove.continues move = true ∧ (relay.move? move).isSome = true := by
  rcases busy with ⟨sender, member, sending⟩ | ⟨serving, ended⟩
  · obtain ⟨position, found⟩ := List.mem_iff_getElem?.mp member
    cases stage : sender.stage with
    | idle | gone =>
      rw [stage] at sending
      exact absurd rfl sending
    | settled batch accepted =>
      exact ⟨.notice position, rfl, by simp [move?, mover?, senderMove?, found, stage]⟩
    | waiting batch =>
      -- Its batch is in the slot. So the dispatcher has not stopped, and it has something to take.
      have held := ((sound.accounted position sender found).waiting batch).mp stage
      refine exists_dispatcherMove (fun stopped => ?_) (.inl (by rw [held]; rfl))
      rw [(sound.closed stopped).1] at held
      cases held
    | offering batch =>
      by_cases stopped : relay.dispatcher = .stopped
      · exact ⟨.refuse position, rfl, by simp [move?, mover?, senderMove?, found, stage, stopped]⟩
      · cases slot : relay.slot with
        | none =>
          exact ⟨.offer position, rfl,
            by simp [move?, mover?, senderMove?, found, stage, stopped, slot]⟩
        | some entry => exact exists_dispatcherMove stopped (.inl (by rw [slot]; rfl))
  · exact exists_dispatcherMove serving (.inr ended)

end Possible

/-! ### Work left -/

end Relay

/-- How many moves a send takes at most, those of the dispatcher for its batch included. -/
def SendStage.work : SendStage → Nat
  | offering batch => batch.records.length + 5
  | waiting batch => batch.records.length + 4
  | settled _ _ => 1
  | idle | gone => 0

/-- How many moves the dispatcher makes at most before it waits or has stopped. -/
def DispatcherStage.work : DispatcherStage → Nat
  | ready => 2
  | listening => 1
  | calling calls => calls.length + 3
  | stopped => 0

namespace Relay

/-- How many moves continue what is under way at most. -/
def work (relay : Relay) : Nat :=
  (relay.senders.map fun sender => sender.stage.work).sum + relay.dispatcher.work

section Work

/-- What a sum over a list gains with another entry in a place is what this one outweighs the old one
by. -/
theorem sum_map_set {α : Type} (weight : α → Nat) {entries : List α} {position : Nat} {old : α}
    (found : entries[position]? = some old) (new : α) :
    ((entries.set position new).map weight).sum + weight old
      = (entries.map weight).sum + weight new := by
  induction entries generalizing position with
  | nil => simp at found
  | cons first rest ih =>
    cases position with
    | zero =>
      obtain rfl : first = old := by simpa using found
      simp only [List.set_cons_zero, List.map_cons, List.sum_cons]
      omega
    | succ position =>
      have later := @ih position (by simpa using found)
      simp only [List.set_cons_succ, List.map_cons, List.sum_cons]
      omega

variable {relay next : Relay} {position : Nat} {sender put : Sender}

/-- There is less work if what a sender gives up outweighs what the dispatcher takes on. -/
theorem work_lt_of_set (found : relay.senders[position]? = some sender)
    (changed : next.senders = relay.senders.set position put)
    (less : put.stage.work + next.dispatcher.work < sender.stage.work + relay.dispatcher.work) :
    next.work < relay.work := by
  have sum := sum_map_set (fun sender : Sender => sender.stage.work) found put
  rw [work, work, changed]
  omega

/-- A dispatcher that may stop has work left. -/
theorem work_pos_of_mayStop (may : relay.mayStop = true) : 0 < relay.dispatcher.work := by
  unfold mayStop at may
  split at may
  case h_1 ready =>
    rw [ready]
    exact Nat.zero_lt_two
  case h_2 listening =>
    rw [listening]
    exact Nat.zero_lt_one
  case h_3 => cases may

/-- **Each move that continues what is under way leaves less work.** -/
theorem work_lt_of_moved {move : RelayMove} (moved : relay.Moved move next)
    (continues : move.continues = true) : next.work < relay.work := by
  cases moved with
  | begun | left | cancelled => cases continues
  | offered found offering _ _ =>
    refine work_lt_of_set found rfl ?_
    simp [offering, SendStage.work, withSender]
  | refused found offering _ =>
    refine work_lt_of_set found rfl ?_
    simp [offering, SendStage.work, withSender]
  | noticed found settled =>
    refine work_lt_of_set found rfl ?_
    simp [settled, SendStage.work, withSender]
  | @took _ _ batch found waiting listening _ =>
    refine work_lt_of_set found rfl ?_
    have calls : (batch.calls relay.ttl).length = batch.records.length := List.length_map _
    simp only [waiting, listening, SendStage.work, DispatcherStage.work, calls]
    omega
  | dropped found waiting may _ =>
    refine work_lt_of_set found rfl ?_
    simp only [waiting, SendStage.work, DispatcherStage.work]
    omega
  | looked ready _ => simp [work, ready, DispatcherStage.work]
  | called calling => simp [work, calling, DispatcherStage.work]
  | finished done => simp [work, done, DispatcherStage.work]
  | stopped may _ => simpa [work, DispatcherStage.work] using work_pos_of_mayStop may

/-- So many moves that continue what is under way can follow each other at most. -/
theorem length_le_work (sound : relay.Sound) {moves : List RelayMove}
    (continues : ∀ move ∈ moves, move.continues = true) (followed : relay.follow? moves = some next) :
    moves.length ≤ relay.work := by
  induction moves generalizing relay with
  | nil => exact Nat.zero_le _
  | cons move rest ih =>
    rw [follow?, List.foldlM_cons] at followed
    obtain ⟨after, made, onward⟩ := Option.bind_eq_some_iff.mp followed
    have moved := moved_of_move? sound.held made
    have less := work_lt_of_moved moved (continues move List.mem_cons_self)
    have later := ih (sound.moved moved) (fun other member => continues other (.tail _ member)) onward
    rw [List.length_cons]
    omega

end Work

/-! ### After the dispatcher has stopped -/

section Stopped

variable {relay : Relay} {position : Nat} {sender : Sender} {batch : Batch}

theorem move?_refuse (found : relay.senders[position]? = some sender)
    (offering : sender.stage = .offering batch) (stopped : relay.dispatcher = .stopped) :
    relay.move? (.refuse position)
      = some (relay.withSender position { sender with stage := .settled batch false }) := by
  rw [← atStage_eq_withSender found]
  simp [move?, mover?, senderMove?, found, offering, stopped]

theorem move?_notice {accepted : Bool} (found : relay.senders[position]? = some sender)
    (settled : sender.stage = .settled batch accepted) :
    relay.move? (.notice position) = some (relay.withSender position
      { sender with stage := .idle, outcomes := sender.outcomes ++ [(batch, accepted)] }) := by
  simp [move?, mover?, senderMove?, found, settled, withSender]

theorem follow?_notice {accepted : Bool} (found : relay.senders[position]? = some sender)
    (settled : sender.stage = .settled batch accepted) :
    relay.follow? [.notice position] = some (relay.withSender position
      { sender with stage := .idle, outcomes := sender.outcomes ++ [(batch, accepted)] }) := by
  rw [follow?_cons (move?_notice found settled)]
  rfl

/-- **Once the dispatcher has stopped, a sender can end its send alone**, accepted if its batch was taken
and refused if not. -/
theorem Sound.exists_return (sound : relay.Sound) (stopped : relay.dispatcher = .stopped)
    (found : relay.senders[position]? = some sender) (sending : batch ∈ sender.stage.current) :
    ∃ moves next, (∀ move ∈ moves, mover? move = some position) ∧ relay.follow? moves = some next ∧
      next.senders[position]? = some { sender with
        stage := .idle
        outcomes := sender.outcomes ++ [(batch, decide (sender.stage = .settled batch true))] } := by
  have inside := (List.getElem?_eq_some_iff.mp found).1
  cases stage : sender.stage with
  | idle | gone =>
    rw [stage] at sending
    cases sending
  | waiting offered =>
    have held := ((sound.accounted position sender found).waiting offered).mp stage
    rw [(sound.closed stopped).1] at held
    cases held
  | offering offered =>
    rw [stage] at sending
    obtain rfl := List.mem_singleton.mp sending
    let put : Sender := { sender with stage := .settled batch false }
    have foundPut : (relay.withSender position put).senders[position]? = some put :=
      List.getElem?_set_self inside
    refine ⟨[.refuse position, .notice position],
      (relay.withSender position put).withSender position
        { put with stage := .idle, outcomes := sender.outcomes ++ [(batch, false)] },
      by simp [mover?], ?_, ?_⟩
    · rw [follow?_cons (move?_refuse found stage stopped)]
      exact follow?_notice foundPut rfl
    · exact List.getElem?_set_self (List.getElem?_eq_some_iff.mp foundPut).1
  | settled offered accepted =>
    rw [stage] at sending
    obtain rfl := List.mem_singleton.mp sending
    refine ⟨[.notice position], relay.withSender position
      { sender with stage := .idle, outcomes := sender.outcomes ++ [(batch, accepted)] },
      by simp [mover?], follow?_notice found stage, ?_⟩
    rw [Relay.withSender, List.getElem?_set_self inside]
    cases accepted <;> simp

/-- More batches were taken from a sender than it was told about exactly if it has yet to notice one. -/
theorem Accounted.length_outcomes_lt_iff (accounted : relay.Accounted position sender) :
    sender.outcomes.length < (relay.takenFrom position).length ↔ sender.stage.accepted ≠ [] := by
  obtain ⟨yes, no, split, took, refused⟩ := accounted.outcomes
  have told : sender.outcomes.length = yes.length + no.length := by
    simp [split]
  rw [took, List.length_append, told, ← List.length_pos_iff]
  constructor
  · intro more
    omega
  · intro some
    have none : no = [] := by
      by_contra refusedSome
      rw [(refused refusedSome).2] at some
      cases some
    rw [none, List.length_nil]
    omega

/-- **A send that is under way when the dispatcher has stopped returns as it can**: accepted if its batch
was taken and refused if not. -/
theorem Sound.outcome_of_stopped (sound : relay.Sound) (stopped : relay.dispatcher = .stopped)
    (found : relay.senders[position]? = some sender) (sending : batch ∈ sender.stage.current)
    (later : List RelayMove) {now : Sender} {offered : Batch} {accepted : Bool}
    (foundLater : (relay.perform later).senders[position]? = some now)
    (told : now.outcomes[sender.outcomes.length]? = some (offered, accepted)) :
    offered = batch ∧ (accepted = true ↔ sender.stage = .settled batch true) := by
  have accounted := sound.accounted position sender found
  have onward := (sound.perform later).accounted position now foundLater
  have current : sender.stage.current = [batch] := by
    cases stage : sender.stage <;> simp_all [SendStage.current]
  constructor
  · -- The sequence of the sender is what it was.
    have same : now.sequence = sender.sequence := by
      have sequences := congrArg (·[position]?) (sequences_perform sound later)
      simpa [foundLater, found] using sequences
    have nth := sequence_getElem? told
    rw [same, Sender.sequence, Sender.begun, current, List.append_assoc,
      List.getElem?_append_right (Nat.le_of_eq (List.length_map _)), List.length_map, Nat.sub_self] at nth
    exact (Option.some.inj nth).symm
  · have frozen : (relay.perform later).takenFrom position = relay.takenFrom position := by
      rw [takenFrom, taken_perform_of_stopped sound stopped, takenFrom]
    rw [onward.accepted_iff told, frozen, accounted.length_outcomes_lt_iff]
    cases stage : sender.stage with
    | settled settledBatch accepted =>
      rw [stage] at current
      cases current
      cases accepted <;> simp [SendStage.accepted]
    | idle | offering | waiting | gone => simp [SendStage.accepted]

end Stopped

/-- **The handoff is never stuck.** Take any senders with what each of them sends, and any moves. Then

* while a send is under way, or the dispatcher has not stopped although it was asked to or all senders are
  gone, a move that continues what is under way is possible;
* only so many such moves can follow each other, so all this comes to an end however it goes on;
* once the dispatcher has stopped, a sender whose send is under way can end it alone, and however things go
  on the send returns with the same: accepted if its batch had been taken, so that it has its receipt,
  and refused in every other case. -/
theorem never_stuck (ttl : UInt32) (plans : List (List Batch)) (moves : List RelayMove) :
    let relay := (planning ttl plans).perform moves
    (relay.Busy → ∃ move : RelayMove, move.continues = true ∧ (relay.move? move).isSome = true) ∧
    (∀ steps next, (∀ move ∈ steps, RelayMove.continues move = true) →
      relay.follow? steps = some next → steps.length ≤ relay.work) ∧
    (relay.dispatcher = .stopped →
      ∀ (position : Nat) (sender : Sender) (batch : Batch), relay.senders[position]? = some sender →
        batch ∈ sender.stage.current →
        (∃ steps next, (∀ move ∈ steps, mover? move = some position) ∧
          relay.follow? steps = some next ∧
          next.senders[position]? = some { sender with
            stage := .idle
            outcomes := sender.outcomes ++ [(batch, decide (sender.stage = .settled batch true))] }) ∧
        ∀ (later : List RelayMove) (now : Sender) (offered : Batch) (accepted : Bool),
          (relay.perform later).senders[position]? = some now →
          now.outcomes[sender.outcomes.length]? = some (offered, accepted) →
          offered = batch ∧ (accepted = true ↔ sender.stage = .settled batch true)) := by
  intro relay
  have sound : relay.Sound := (sound_planning ttl plans).perform moves
  refine ⟨sound.exists_move, fun steps next continues followed => ?_,
    fun stopped position sender batch found sending => ⟨?_, ?_⟩⟩
  · exact length_le_work sound continues followed
  · exact sound.exists_return stopped found sending
  · exact fun later now offered accepted => sound.outcome_of_stopped stopped found sending later

/-- The dispatcher was asked to stop while one batch was being applied, the next was in the slot and a
third sender waited for room. Before it has stopped there is something left to do; then the first send,
which has its receipt, returns accepted and the other two are refused. -/
theorem never_stuck_after_cancel :
    let batch : Batch := ⟨.service, .announce, []⟩
    let moves : List RelayMove := [.begin 0, .offer 0, .look, .take, .begin 1, .offer 1, .begin 2,
      .cancel, .finish]
    let ending := (planning 120 [[batch], [batch], [batch]]).perform moves
    let relay := (planning 120 [[batch], [batch], [batch]]).perform (moves ++ [.stop])
    (∃ move : RelayMove, move.continues = true ∧ (ending.move? move).isSome = true) ∧
      0 < ending.work ∧
      (∃ steps next, relay.follow? steps = some next ∧
        next.senders[0]? = some ⟨[], .idle, [(batch, true)]⟩) ∧
      (∃ steps next, relay.follow? steps = some next ∧
        next.senders[1]? = some ⟨[], .idle, [(batch, false)]⟩) ∧
      ∃ accepted, (relay.perform [.refuse 2, .notice 2]).senders[2]?
        = some ⟨[], .idle, [(batch, accepted)]⟩ ∧
        (accepted = true ↔ SendStage.offering batch = .settled batch true) := by
  intro batch moves ending relay
  obtain ⟨possible, bounded, _⟩ := never_stuck 120 [[batch], [batch], [batch]] moves
  obtain ⟨_, _, returns⟩ := never_stuck 120 [[batch], [batch], [batch]] (moves ++ [.stop])
  have stopped : relay.dispatcher = .stopped := by decide +kernel
  have asked : ending.dispatcher ≠ .stopped ∧ ending.cancelled = true := by decide +kernel
  have taken : relay.senders[0]? = some ⟨[], .settled batch true, []⟩ := by decide +kernel
  have dropped : relay.senders[1]? = some ⟨[], .settled batch false, []⟩ := by decide +kernel
  have blocked : relay.senders[2]? = some ⟨[], .offering batch, []⟩ := by decide +kernel
  refine ⟨possible (.inr ⟨asked.1, .inl asked.2⟩), ?_, ?_, ?_, ?_⟩
  · exact bounded [.stop] relay (by decide) (by decide +kernel)
  · obtain ⟨⟨steps, next, _, followed, told⟩, _⟩ :=
      returns stopped 0 _ batch taken (List.mem_singleton_self _)
    exact ⟨steps, next, followed, told⟩
  · obtain ⟨⟨steps, next, _, followed, told⟩, _⟩ :=
      returns stopped 1 _ batch dropped (List.mem_singleton_self _)
    exact ⟨steps, next, followed, told⟩
  · obtain ⟨_, ends⟩ := returns stopped 2 _ batch blocked (List.mem_singleton_self _)
    have told : (relay.perform [.refuse 2, .notice 2]).senders[2]?
        = some ⟨[], .idle, [(batch, false)]⟩ := by decide +kernel
    exact ⟨false, told, (ends [.refuse 2, .notice 2] _ batch false told rfl).2⟩

end Relay

end ClusterMdns
