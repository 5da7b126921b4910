import ClusterMdns.Relay
import Mathlib.Data.List.Basic

/-!
What a move can do to a relay.

* `Relay.Moved` lists everything that a move may lead to, with what must hold before.
* `Relay.moved_of_move?`: every possible move of a relay whose slot holds the batch of a sender that
  waits for it leads to one of these.
* `perform_induction`: what every move keeps holds after any moves.
-/

namespace ClusterMdns

/-- The calls that the dispatcher still has to make. -/
def DispatcherStage.callsLeft : DispatcherStage → List Call
  | calling calls => calls
  | _ => []

namespace Relay

/-- The relay with another sender at a position. -/
def withSender (relay : Relay) (position : Nat) (sender : Sender) : Relay :=
  { relay with senders := relay.senders.set position sender }

theorem atStage_eq_withSender {relay : Relay} {position : Nat} {sender : Sender}
    (found : relay.senders[position]? = some sender) (stage : SendStage) :
    relay.atStage position stage = relay.withSender position { sender with stage := stage } := by
  rw [atStage, withSender, List.modify_eq_set_getElem?, found]
  rfl

/-- A sender after another one was put in a place is the new one or an old one elsewhere. -/
theorem getElem?_withSender {relay : Relay} {position other : Nat} {put sender : Sender}
    (found : (relay.withSender position put).senders[other]? = some sender) :
    other = position ∧ sender = put ∨ other ≠ position ∧ relay.senders[other]? = some sender := by
  by_cases here : other = position
  · subst here
    rw [withSender, List.getElem?_set_self', Option.map_eq_map, Option.map_eq_some_iff] at found
    obtain ⟨_, _, rfl⟩ := found
    exact .inl ⟨rfl, rfl⟩
  · rw [withSender, List.getElem?_set_ne (Ne.symm here)] at found
    exact .inr ⟨here, found⟩

/-- What a move may lead to. -/
inductive Moved (relay : Relay) : RelayMove → Relay → Prop
  | begun {position : Nat} {sender : Sender} {batch : Batch} {rest : List Batch}
      (found : relay.senders[position]? = some sender) (idle : sender.stage = .idle)
      (planned : sender.plan = batch :: rest) :
      Moved relay (.begin position)
        (relay.withSender position { sender with plan := rest, stage := .offering batch })
  | offered {position : Nat} {sender : Sender} {batch : Batch}
      (found : relay.senders[position]? = some sender) (offering : sender.stage = .offering batch)
      (free : relay.slot = none) (serving : relay.dispatcher ≠ .stopped) :
      Moved relay (.offer position)
        { relay.withSender position { sender with stage := .waiting batch } with
          slot := some (position, batch) }
  | refused {position : Nat} {sender : Sender} {batch : Batch}
      (found : relay.senders[position]? = some sender) (offering : sender.stage = .offering batch)
      (stopped : relay.dispatcher = .stopped) :
      Moved relay (.refuse position)
        (relay.withSender position { sender with stage := .settled batch false })
  | noticed {position : Nat} {sender : Sender} {batch : Batch} {accepted : Bool}
      (found : relay.senders[position]? = some sender)
      (settled : sender.stage = .settled batch accepted) :
      Moved relay (.notice position) (relay.withSender position
        { sender with stage := .idle, outcomes := sender.outcomes ++ [(batch, accepted)] })
  | left {position : Nat} {sender : Sender} (found : relay.senders[position]? = some sender)
      (idle : sender.stage = .idle) (done : sender.plan = []) :
      Moved relay (.leave position) (relay.withSender position { sender with stage := .gone })
  | looked (ready : relay.dispatcher = .ready) (running : relay.cancelled = false) :
      Moved relay .look { relay with dispatcher := .listening }
  | took {position : Nat} {sender : Sender} {batch : Batch}
      (found : relay.senders[position]? = some sender) (waiting : sender.stage = .waiting batch)
      (listening : relay.dispatcher = .listening) (held : relay.slot = some (position, batch)) :
      Moved relay .take
        { relay.withSender position { sender with stage := .settled batch true } with
          slot := none
          dispatcher := .calling (batch.calls relay.ttl)
          taken := relay.taken ++ [(position, batch)] }
  | called {call : Call} {rest : List Call} (calling : relay.dispatcher = .calling (call :: rest)) :
      Moved relay .call { relay with dispatcher := .calling rest, calls := relay.calls ++ [call] }
  | finished (done : relay.dispatcher = .calling []) :
      Moved relay .finish { relay with dispatcher := .ready }
  | stopped (may : relay.mayStop = true) (free : relay.slot = none) :
      Moved relay .stop { relay with dispatcher := .stopped }
  | dropped {position : Nat} {sender : Sender} {batch : Batch}
      (found : relay.senders[position]? = some sender) (waiting : sender.stage = .waiting batch)
      (may : relay.mayStop = true) (held : relay.slot = some (position, batch)) :
      Moved relay .stop
        { relay.withSender position { sender with stage := .settled batch false } with
          slot := none, dispatcher := .stopped }
  | cancelled : Moved relay .cancel { relay with cancelled := true }

/-- Whoever has a batch in the slot waits for it. -/
def SlotHeld (relay : Relay) : Prop :=
  ∀ position batch, relay.slot = some (position, batch) →
    ∃ sender, relay.senders[position]? = some sender ∧ sender.stage = .waiting batch

theorem moved_of_senderMove? {relay next : Relay} {position : Nat} {sender : Sender}
    {move : RelayMove} (mover : mover? move = some position)
    (found : relay.senders[position]? = some sender)
    (made : relay.senderMove? position sender move = some next) : relay.Moved move next := by
  cases move with
  | begin _ =>
    cases mover
    simp only [senderMove?] at made
    split at made
    case h_1 batch rest idle planned =>
      cases made
      exact .begun found idle planned
    case h_2 => cases made
  | offer _ =>
    cases mover
    simp only [senderMove?] at made
    split at made
    case h_1 batch offering =>
      split at made
      case isTrue open' =>
        cases made
        rw [Bool.and_eq_true, Option.isNone_iff_eq_none, bne_iff_ne] at open'
        rw [atStage_eq_withSender found]
        exact .offered found offering open'.1 open'.2
      case isFalse => cases made
    case h_2 => cases made
  | refuse _ =>
    cases mover
    simp only [senderMove?] at made
    split at made
    case h_1 batch offering =>
      split at made
      case isTrue stopped =>
        cases made
        rw [atStage_eq_withSender found]
        exact .refused found offering stopped
      case isFalse => cases made
    case h_2 => cases made
  | notice _ =>
    cases mover
    simp only [senderMove?] at made
    split at made
    case h_1 batch accepted settled =>
      cases made
      exact .noticed found settled
    case h_2 => cases made
  | leave _ =>
    cases mover
    simp only [senderMove?] at made
    split at made
    case isTrue done =>
      cases made
      rw [atStage_eq_withSender found]
      exact .left found done.1 done.2
    case isFalse => cases made
  | look | take | call | finish | stop | cancel => cases made

theorem moved_of_ownMove? {relay next : Relay} {move : RelayMove} (held : relay.SlotHeld)
    (made : relay.ownMove? move = some next) : relay.Moved move next := by
  cases move with
  | begin _ | offer _ | refuse _ | notice _ | leave _ => cases made
  | look =>
    simp only [ownMove?] at made
    split at made
    case isTrue free =>
      cases made
      exact .looked free.1 free.2
    case isFalse => cases made
  | take =>
    simp only [ownMove?] at made
    split at made
    case h_1 position batch listening slot =>
      cases made
      obtain ⟨sender, found, waiting⟩ := held position batch slot
      rw [atStage_eq_withSender found]
      exact .took found waiting listening slot
    case h_2 => cases made
  | call =>
    simp only [ownMove?] at made
    split at made
    case h_1 call rest calling =>
      cases made
      exact .called calling
    case h_2 => cases made
  | finish =>
    simp only [ownMove?] at made
    split at made
    case isTrue done =>
      cases made
      exact .finished done
    case isFalse => cases made
  | stop =>
    simp only [ownMove?] at made
    split at made
    case isTrue may =>
      split at made
      case h_1 free =>
        cases made
        exact .stopped may free
      case h_2 position batch slot =>
        cases made
        obtain ⟨sender, found, waiting⟩ := held position batch slot
        rw [atStage_eq_withSender found]
        exact .dropped found waiting may slot
    case isFalse => cases made
  | cancel =>
    cases made
    exact .cancelled

/-- **Every possible move leads to one of the listed relays.** -/
theorem moved_of_move? {relay next : Relay} {move : RelayMove} (held : relay.SlotHeld)
    (made : relay.move? move = some next) : relay.Moved move next := by
  unfold move? at made
  split at made
  · exact moved_of_ownMove? held made
  case h_2 position mover =>
    obtain ⟨sender, found, made⟩ := Option.bind_eq_some_iff.mp made
    exact moved_of_senderMove? mover found made

/-- What every move keeps holds after any moves. -/
theorem perform_induction (keeps : Relay → Prop)
    (step : ∀ relay next move, keeps relay → relay.move? move = some next → keeps next)
    {relay : Relay} (holds : keeps relay) (moves : List RelayMove) :
    keeps (relay.perform moves) := by
  induction moves generalizing relay with
  | nil => exact holds
  | cons move rest ih =>
    rw [perform, List.foldl_cons]
    cases made : relay.move? move with
    | none => exact ih holds
    | some next => exact ih (step relay next move holds made)

end Relay

end ClusterMdns
