import ClusterMdns.Proofs.Relay.Moves

/-!
What senders are told and what the dispatcher takes.

* `Relay.Accounted` ties one sender to the relay: its sends were accepted up to some point and refused
  from there on, the accepted ones are the batches taken from it, in order, and no send is refused
  before the dispatcher was asked to stop and did.
* `Relay.Sound` adds what holds of the whole relay: a stopped dispatcher leaves nothing in the slot,
  and the calls made and the calls left are those of the batches taken.
* `Sound.perform`: all of this holds after any moves.
* `sequences_perform`: what a sender has sent, sends and has yet to send is always its whole plan.
* `taken_perform_of_stopped`: once the dispatcher has stopped, nothing more is taken.
-/

namespace ClusterMdns

namespace SendStage

/-- The batch that is under way. -/
def current : SendStage → List Batch
  | offering batch => [batch]
  | waiting batch => [batch]
  | settled batch _ => [batch]
  | _ => []

/-- The batch that was taken, where the sender has yet to notice. -/
def accepted : SendStage → List Batch
  | settled batch true => [batch]
  | _ => []

/-- The batch that was refused, where the sender has yet to notice. -/
def refused : SendStage → List Batch
  | settled batch false => [batch]
  | _ => []

/-- The batch that is neither taken nor refused. -/
def unsettled : SendStage → List Batch
  | offering batch => [batch]
  | waiting batch => [batch]
  | _ => []

end SendStage

namespace Sender

/-- The batches that a sender has begun to send. -/
def begun (sender : Sender) : List Batch := sender.outcomes.map Prod.fst ++ sender.stage.current

/-- The batches of a sender that were refused. -/
def refused (sender : Sender) : List Batch :=
  (sender.outcomes.filter fun outcome => !outcome.2).map Prod.fst ++ sender.stage.refused

/-- All batches of a sender, in the order in which it sends them. -/
def sequence (sender : Sender) : List Batch := sender.begun ++ sender.plan

/-- The batches of a sender that are neither taken nor refused. -/
def outstanding (sender : Sender) : List Batch := sender.stage.unsettled ++ sender.plan

end Sender

namespace Relay

/-- The batches taken from a sender, in order. -/
def takenFrom (relay : Relay) (position : Nat) : List Batch :=
  (relay.taken.filter fun entry => entry.1 == position).map Prod.snd

/-- Whether sends are refused: the dispatcher was asked to stop and did. -/
def Refusing (relay : Relay) : Prop := relay.dispatcher = .stopped ∧ relay.cancelled = true

/-- What a sender was told agrees with what was taken from it. -/
structure Accounted (relay : Relay) (position : Nat) (sender : Sender) : Prop where
  /-- Sends were accepted first and refused from some point on; the accepted batches are those
  taken. -/
  outcomes : ∃ accepted refused : List Batch,
    sender.outcomes = accepted.map (·, true) ++ refused.map (·, false) ∧
    relay.takenFrom position = accepted ++ sender.stage.accepted ∧
    (refused ≠ [] → relay.Refusing ∧ sender.stage.accepted = [])
  /-- A send that is refused meets a relay that refuses. -/
  refusal : ∀ batch, sender.stage = .settled batch false → relay.Refusing
  /-- Who waits has its batch in the slot. -/
  waiting : ∀ batch, sender.stage = .waiting batch ↔ relay.slot = some (position, batch)

/-- The parts of a relay agree with each other. -/
structure Sound (relay : Relay) : Prop where
  /-- Each sender agrees with the relay. -/
  accounted : ∀ position sender, relay.senders[position]? = some sender →
    relay.Accounted position sender
  /-- Whoever has a batch in the slot waits for it. -/
  held : relay.SlotHeld
  /-- Batches were taken from senders. -/
  origin : ∀ entry ∈ relay.taken, entry.1 < relay.senders.length
  /-- A dispatcher that has stopped was asked to or had nobody to wait for, and left nothing. -/
  closed : relay.dispatcher = .stopped → relay.slot = none ∧
    (relay.cancelled = true ∨ ∀ sender ∈ relay.senders, sender.stage = .gone)
  /-- The calls made and the calls left are those of the batches taken. -/
  called : relay.calls ++ relay.dispatcher.callsLeft
    = relay.taken.flatMap fun entry => entry.2.calls relay.ttl

theorem Accounted.congr {relay next : Relay} {position : Nat} {sender : Sender}
    (accounted : relay.Accounted position sender)
    (taken : next.takenFrom position = relay.takenFrom position)
    (refusing : relay.Refusing → next.Refusing)
    (slot : ∀ batch, next.slot = some (position, batch) ↔ relay.slot = some (position, batch)) :
    next.Accounted position sender := by
  obtain ⟨yes, no, split, took, refused⟩ := accounted.outcomes
  refine ⟨⟨yes, no, split, taken.trans took, fun some => ?_⟩, fun batch refused => ?_,
    fun batch => ?_⟩
  · exact ⟨refusing (refused some).1, (refused some).2⟩
  · exact refusing (accounted.refusal batch refused)
  · rw [slot, accounted.waiting]

/-- A dispatcher that still runs has refused nothing. -/
theorem Accounted.outcomes_of_not_refusing {relay : Relay} {position : Nat} {sender : Sender}
    (accounted : relay.Accounted position sender) (serving : ¬relay.Refusing) :
    ∃ accepted : List Batch, sender.outcomes = accepted.map (·, true) ∧
      relay.takenFrom position = accepted ++ sender.stage.accepted := by
  obtain ⟨yes, no, split, took, refused⟩ := accounted.outcomes
  have none : no = [] := by
    by_contra some
    exact serving (refused some).1
  subst none
  exact ⟨yes, by rw [split, List.map_nil, List.append_nil], took⟩

theorem isDeserted_iff (relay : Relay) :
    relay.isDeserted = true
      ↔ relay.slot = none ∧ ∀ sender ∈ relay.senders, sender.stage = .gone := by
  simp [isDeserted]

/-- Why a dispatcher may stop. -/
theorem cancelled_or_deserted {relay : Relay} (may : relay.mayStop = true) :
    relay.cancelled = true ∨ relay.isDeserted = true := by
  unfold mayStop at may
  split at may
  · exact .inl may
  · exact Bool.or_eq_true_iff.mp may
  · cases may

/-- A dispatcher that may stop has no calls left. -/
theorem callsLeft_of_mayStop {relay : Relay} (may : relay.mayStop = true) :
    relay.dispatcher.callsLeft = [] := by
  unfold mayStop at may
  split at may
  case h_1 ready => rw [ready]; rfl
  case h_2 listening => rw [listening]; rfl
  case h_3 => cases may

theorem takenFrom_taken_append (relay : Relay) (position other : Nat) (batch : Batch) :
    ((relay.taken ++ [(position, batch)]).filter fun entry => entry.1 == other).map Prod.snd
      = if position = other then relay.takenFrom other ++ [batch] else relay.takenFrom other := by
  rw [List.filter_append, List.map_append, takenFrom]
  by_cases here : position = other
  · simp [here]
  · simp [here]

/-- A relay in which nothing has happened is sound. -/
theorem sound_planning (ttl : UInt32) (plans : List (List Batch)) : (planning ttl plans).Sound := by
  refine ⟨fun position sender found => ?_, fun _ _ slot => ?_, fun _ member => ?_, fun stopped => ?_,
    rfl⟩
  · rw [planning, List.getElem?_map, Option.map_eq_some_iff] at found
    obtain ⟨plan, _, rfl⟩ := found
    exact ⟨⟨[], [], rfl, rfl, fun some => absurd rfl some⟩, nofun,
      fun _ => ⟨nofun, nofun⟩⟩
  · cases slot
  · cases member
  · cases stopped

/-! ### What every move keeps -/

section Moves

variable {relay : Relay} {position : Nat} {sender : Sender}

/-- A sender that is not gone may change in every way that agrees with the relay, as long as it keeps
its batch in the slot. -/
theorem Sound.withSender (sound : relay.Sound) {put : Sender}
    (found : relay.senders[position]? = some sender) (present : sender.stage ≠ .gone)
    (accounted : relay.Accounted position put) : (relay.withSender position put).Sound := by
  refine ⟨fun other changed there => ?_, fun other batch slot => ?_, fun entry member => ?_,
    fun stopped => ⟨(sound.closed stopped).1, ?_⟩, sound.called⟩
  · rcases getElem?_withSender there with ⟨rfl, rfl⟩ | ⟨_, old⟩
    · exact accounted.congr rfl id fun _ => Iff.rfl
    · exact (sound.accounted other changed old).congr rfl id fun _ => Iff.rfl
  · obtain ⟨holder, there, waiting⟩ := sound.held other batch slot
    by_cases here : other = position
    · subst here
      refine ⟨put, ?_, (accounted.waiting batch).mpr slot⟩
      exact List.getElem?_set_self (List.getElem?_eq_some_iff.mp found).1
    · exact ⟨holder, (List.getElem?_set_ne (Ne.symm here)).trans there, waiting⟩
  · rw [Relay.withSender, List.length_set]
    exact sound.origin entry member
  · rcases (sound.closed stopped).2 with asked | deserted
    · exact .inl asked
    · exact absurd (deserted sender (List.mem_of_getElem? found)) present

/-- A sender without a send under way may go on to a stage in which nothing of it is taken, refused or in
the slot. -/
theorem Sound.of_idle (sound : relay.Sound) (found : relay.senders[position]? = some sender)
    (idle : sender.stage = .idle) (plan : List Batch) {stage : SendStage} (accepted : stage.accepted = [])
    (refused : ∀ batch, stage ≠ .settled batch false) (waiting : ∀ batch, stage ≠ .waiting batch) :
    (relay.withSender position { sender with plan := plan, stage := stage }).Sound := by
  have accounted := sound.accounted position sender found
  refine sound.withSender found (by rw [idle]; exact SendStage.noConfusion)
    ⟨?_, fun batch settled => absurd settled (refused batch), fun batch => ?_⟩
  · have outcomes := accounted.outcomes
    rw [idle] at outcomes
    rw [accepted]
    exact outcomes
  · rw [← accounted.waiting batch, idle]
    exact ⟨fun waits => absurd waits (waiting batch), nofun⟩

theorem Sound.refused (sound : relay.Sound) {batch : Batch}
    (found : relay.senders[position]? = some sender) (offering : sender.stage = .offering batch)
    (stopped : relay.dispatcher = .stopped) :
    (relay.withSender position { sender with stage := .settled batch false }).Sound := by
  have accounted := sound.accounted position sender found
  have refusing : relay.Refusing := by
    refine ⟨stopped, ?_⟩
    rcases (sound.closed stopped).2 with asked | deserted
    · exact asked
    · have gone := deserted sender (List.mem_of_getElem? found)
      rw [offering] at gone
      cases gone
  refine sound.withSender found (by rw [offering]; exact SendStage.noConfusion)
    ⟨?_, fun _ _ => refusing, fun other => ?_⟩
  · have outcomes := accounted.outcomes
    rw [offering] at outcomes
    exact outcomes
  · rw [← accounted.waiting other, offering]
    exact ⟨nofun, nofun⟩

theorem Sound.noticed (sound : relay.Sound) {batch : Batch} {accepted : Bool}
    (found : relay.senders[position]? = some sender)
    (settled : sender.stage = .settled batch accepted) :
    (relay.withSender position
      { sender with stage := .idle, outcomes := sender.outcomes ++ [(batch, accepted)] }).Sound := by
  have accounted := sound.accounted position sender found
  refine sound.withSender found (by rw [settled]; exact SendStage.noConfusion)
    ⟨?_, nofun, fun other => ?_⟩
  · obtain ⟨yes, no, split, took, refused⟩ := accounted.outcomes
    rw [settled] at took refused
    cases accepted with
    | true =>
      -- The batch was taken, so nothing was refused before it.
      have none : no = [] := by
        by_contra some
        cases (refused some).2
      subst none
      refine ⟨yes ++ [batch], [], ?_, ?_, fun some => absurd rfl some⟩
      · simp [split]
      · rw [took]
        simp [SendStage.accepted]
    | false =>
      refine ⟨yes, no ++ [batch], ?_, took, fun _ => ⟨accounted.refusal batch settled, rfl⟩⟩
      simp [split]
  · rw [← accounted.waiting other, settled]
    exact ⟨nofun, nofun⟩

theorem Sound.offered (sound : relay.Sound) {batch : Batch}
    (found : relay.senders[position]? = some sender) (offering : sender.stage = .offering batch)
    (free : relay.slot = none) (serving : relay.dispatcher ≠ .stopped) :
    Sound { relay.withSender position { sender with stage := .waiting batch } with
      slot := some (position, batch) } := by
  have accounted := sound.accounted position sender found
  refine ⟨fun other changed there => ?_, fun other held slot => ?_, fun entry member => ?_,
    fun stopped => absurd stopped serving, sound.called⟩
  · rcases getElem?_withSender there with ⟨rfl, rfl⟩ | ⟨elsewhere, old⟩
    · refine ⟨?_, nofun, fun other => ?_⟩
      · have outcomes := accounted.outcomes
        rw [offering] at outcomes
        exact outcomes
      · simp
    · refine (sound.accounted other changed old).congr rfl id fun held => ?_
      simp [free, Ne.symm elsewhere]
  · cases slot
    refine ⟨_, List.getElem?_set_self (List.getElem?_eq_some_iff.mp found).1, rfl⟩
  · rw [Relay.withSender, List.length_set]
    exact sound.origin entry member

theorem Sound.took (sound : relay.Sound) {batch : Batch}
    (found : relay.senders[position]? = some sender) (waiting : sender.stage = .waiting batch)
    (listening : relay.dispatcher = .listening) (held : relay.slot = some (position, batch)) :
    Sound { relay.withSender position { sender with stage := .settled batch true } with
      slot := none
      dispatcher := .calling (batch.calls relay.ttl)
      taken := relay.taken ++ [(position, batch)] } := by
  have serving : ¬relay.Refusing := by
    rintro ⟨stopped, _⟩
    rw [listening] at stopped
    cases stopped
  refine ⟨fun other changed there => ?_, nofun, fun entry member => ?_,
    nofun, ?_⟩
  · rcases getElem?_withSender there with ⟨rfl, rfl⟩ | ⟨elsewhere, old⟩
    · obtain ⟨yes, split, before⟩ :=
        (sound.accounted other sender found).outcomes_of_not_refusing serving
      rw [waiting] at before
      refine ⟨⟨yes, [], ?_, ?_, fun some => absurd rfl some⟩, nofun,
        fun _ => ⟨nofun, nofun⟩⟩
      · rw [split, List.map_nil, List.append_nil]
      · rw [takenFrom, takenFrom_taken_append, if_pos rfl, before]
        simp [SendStage.accepted]
    · refine (sound.accounted other changed old).congr ?_ (fun refusing => absurd refusing serving)
        fun other => ?_
      · rw [takenFrom, takenFrom_taken_append, if_neg (Ne.symm elsewhere)]
      · simp [held, Ne.symm elsewhere]
  · rw [Relay.withSender, List.length_set]
    rcases List.mem_append.mp member with before | new
    · exact sound.origin entry before
    · rw [List.mem_singleton.mp new]
      exact (List.getElem?_eq_some_iff.mp found).1
  · have called : relay.taken.flatMap (fun entry => entry.2.calls relay.ttl) = relay.calls := by
      rw [← sound.called, listening]
      exact List.append_nil _
    show relay.calls ++ batch.calls relay.ttl
      = (relay.taken ++ [(position, batch)]).flatMap fun entry => entry.2.calls relay.ttl
    rw [List.flatMap_append, called, List.flatMap_singleton]

theorem Sound.dropped (sound : relay.Sound) {batch : Batch}
    (found : relay.senders[position]? = some sender) (waiting : sender.stage = .waiting batch)
    (may : relay.mayStop = true) (held : relay.slot = some (position, batch)) :
    Sound { relay.withSender position { sender with stage := .settled batch false } with
      slot := none, dispatcher := .stopped } := by
  have asked : relay.cancelled = true := by
    rcases cancelled_or_deserted may with asked | deserted
    · exact asked
    · rw [isDeserted_iff, held] at deserted
      cases deserted.1
  refine ⟨fun other changed there => ?_, nofun, fun entry member => ?_,
    fun _ => ⟨rfl, .inl asked⟩, ?_⟩
  · rcases getElem?_withSender there with ⟨rfl, rfl⟩ | ⟨elsewhere, old⟩
    · obtain ⟨yes, no, split, took, refused⟩ := (sound.accounted other sender found).outcomes
      rw [waiting] at took
      exact ⟨⟨yes, no, split, took, fun some => ⟨⟨rfl, asked⟩, rfl⟩⟩, fun _ _ => ⟨rfl, asked⟩,
        fun _ => ⟨nofun, nofun⟩⟩
    · refine (sound.accounted other changed old).congr rfl (fun _ => ⟨rfl, asked⟩) fun other => ?_
      simp [held, Ne.symm elsewhere]
  · rw [Relay.withSender, List.length_set]
    exact sound.origin entry member
  · have called := sound.called
    rw [callsLeft_of_mayStop may] at called
    exact called

/-- A dispatcher that goes on without stopping leaves senders and slot as they are. -/
theorem Sound.withDispatcher (sound : relay.Sound) {stage : DispatcherStage} {calls : List Call}
    (before : relay.dispatcher ≠ .stopped) (serving : stage ≠ .stopped)
    (called : calls ++ stage.callsLeft = relay.calls ++ relay.dispatcher.callsLeft) :
    Sound { relay with dispatcher := stage, calls := calls } := by
  refine ⟨fun other unchanged there => ?_, sound.held, sound.origin,
    fun stopped => absurd stopped serving, called.trans sound.called⟩
  refine (sound.accounted other unchanged there).congr rfl (fun refusing => ?_) fun _ => Iff.rfl
  exact absurd refusing.1 before

theorem Sound.stopped (sound : relay.Sound) (may : relay.mayStop = true)
    (free : relay.slot = none) : Sound { relay with dispatcher := .stopped } := by
  refine ⟨fun other unchanged there => ?_, sound.held, sound.origin, fun _ => ⟨free, ?_⟩, ?_⟩
  · exact (sound.accounted other unchanged there).congr rfl (fun refusing => ⟨rfl, refusing.2⟩)
      fun _ => Iff.rfl
  · rcases cancelled_or_deserted may with asked | deserted
    · exact .inl asked
    · exact .inr ((isDeserted_iff relay).mp deserted).2
  · have called := sound.called
    rw [callsLeft_of_mayStop may] at called
    exact called

theorem Sound.cancelled (sound : relay.Sound) : Sound { relay with cancelled := true } := by
  refine ⟨fun other unchanged there => ?_, sound.held, sound.origin,
    fun stopped => ⟨(sound.closed stopped).1, .inl rfl⟩, sound.called⟩
  exact (sound.accounted other unchanged there).congr rfl (fun refusing => ⟨refusing.1, rfl⟩)
    fun _ => Iff.rfl

/-- **Every move keeps a relay sound.** -/
theorem Sound.moved {move : RelayMove} {next : Relay} (sound : relay.Sound)
    (moved : relay.Moved move next) :
    next.Sound := by
  cases moved with
  | begun found idle _ => exact sound.of_idle found idle _ rfl nofun nofun
  | offered found offering free serving => exact sound.offered found offering free serving
  | refused found offering stopped => exact sound.refused found offering stopped
  | noticed found settled => exact sound.noticed found settled
  | left found idle _ => exact sound.of_idle found idle _ rfl nofun nofun
  | looked ready _ =>
    refine sound.withDispatcher ?_ DispatcherStage.noConfusion ?_ <;> rw [ready]
    · exact DispatcherStage.noConfusion
    · rfl
  | took found waiting listening held => exact sound.took found waiting listening held
  | called calling =>
    refine sound.withDispatcher ?_ DispatcherStage.noConfusion ?_ <;> rw [calling]
    · exact DispatcherStage.noConfusion
    · rw [List.append_assoc]
      rfl
  | finished done =>
    refine sound.withDispatcher ?_ DispatcherStage.noConfusion ?_ <;> rw [done]
    · exact DispatcherStage.noConfusion
    · rfl
  | stopped may free => exact sound.stopped may free
  | dropped found waiting may held => exact sound.dropped found waiting may held
  | cancelled => exact sound.cancelled

end Moves

/-- **After any moves a relay is sound.** -/
theorem Sound.perform {relay : Relay} (sound : relay.Sound) (moves : List RelayMove) :
    (relay.perform moves).Sound :=
  perform_induction Sound (fun _ _ _ before made => before.moved (moved_of_move? before.held made))
    sound moves

/-! ### Plans and what is taken -/

/-- A sender whose sequence stays leaves all sequences as they are. -/
theorem sequences_withSender {relay : Relay} {position : Nat} {sender put : Sender}
    (found : relay.senders[position]? = some sender) (same : put.sequence = sender.sequence) :
    (relay.withSender position put).senders.map Sender.sequence
      = relay.senders.map Sender.sequence := by
  refine List.ext_getElem? fun other => ?_
  rw [withSender, List.getElem?_map, List.getElem?_map]
  by_cases here : other = position
  · subst here
    rw [List.getElem?_set_self (List.getElem?_eq_some_iff.mp found).1, found, Option.map_some, same,
      Option.map_some]
  · rw [List.getElem?_set_ne (Ne.symm here)]

/-- No move changes what a sender sends in all. -/
theorem sequences_moved {relay next : Relay} {move : RelayMove} (moved : relay.Moved move next) :
    next.senders.map Sender.sequence = relay.senders.map Sender.sequence := by
  cases moved with
  | begun found idle planned =>
    refine sequences_withSender found ?_
    simp [Sender.sequence, Sender.begun, idle, planned, SendStage.current]
  | offered found offering _ _ =>
    refine sequences_withSender found ?_
    simp [Sender.sequence, Sender.begun, offering, SendStage.current]
  | refused found offering _ =>
    refine sequences_withSender found ?_
    simp [Sender.sequence, Sender.begun, offering, SendStage.current]
  | noticed found settled =>
    refine sequences_withSender found ?_
    simp [Sender.sequence, Sender.begun, settled, SendStage.current]
  | left found idle _ =>
    refine sequences_withSender found ?_
    simp [Sender.sequence, Sender.begun, idle, SendStage.current]
  | took found waiting _ _ =>
    refine sequences_withSender found ?_
    simp [Sender.sequence, Sender.begun, waiting, SendStage.current]
  | dropped found waiting _ _ =>
    refine sequences_withSender found ?_
    simp [Sender.sequence, Sender.begun, waiting, SendStage.current]
  | looked | called | finished | stopped | cancelled => rfl

/-- **After any moves each sender has sent, sends and has yet to send what it had before.** -/
theorem sequences_perform {relay : Relay} (sound : relay.Sound) (moves : List RelayMove) :
    (relay.perform moves).senders.map Sender.sequence = relay.senders.map Sender.sequence := by
  refine (perform_induction (fun next => next.Sound ∧
    next.senders.map Sender.sequence = relay.senders.map Sender.sequence) ?_ ⟨sound, rfl⟩ moves).2
  rintro before next _ ⟨ok, same⟩ made
  have moved := moved_of_move? ok.held made
  exact ⟨ok.moved moved, (sequences_moved moved).trans same⟩

theorem ttl_moved {relay next : Relay} {move : RelayMove} (moved : relay.Moved move next) :
    next.ttl = relay.ttl := by
  cases moved <;> rfl

theorem ttl_perform {relay : Relay} (sound : relay.Sound) (moves : List RelayMove) :
    (relay.perform moves).ttl = relay.ttl := by
  refine (perform_induction (fun next => next.Sound ∧ next.ttl = relay.ttl) ?_ ⟨sound, rfl⟩ moves).2
  rintro before next _ ⟨ok, same⟩ made
  have moved := moved_of_move? ok.held made
  exact ⟨ok.moved moved, (ttl_moved moved).trans same⟩

/-- A dispatcher that has stopped stays so and takes nothing more. -/
theorem taken_moved_of_stopped {relay next : Relay} {move : RelayMove}
    (moved : relay.Moved move next)
    (stopped : relay.dispatcher = .stopped) :
    next.dispatcher = .stopped ∧ next.taken = relay.taken := by
  cases moved with
  | begun | offered | refused | noticed | left | cancelled => exact ⟨stopped, rfl⟩
  | stopped | dropped => exact ⟨rfl, rfl⟩
  | looked ready => rw [ready] at stopped; cases stopped
  | took _ _ listening => rw [listening] at stopped; cases stopped
  | called calling => rw [calling] at stopped; cases stopped
  | finished done => rw [done] at stopped; cases stopped

/-- **Once the dispatcher has stopped, nothing more is taken.** -/
theorem taken_perform_of_stopped {relay : Relay} (sound : relay.Sound)
    (stopped : relay.dispatcher = .stopped) (moves : List RelayMove) :
    (relay.perform moves).taken = relay.taken := by
  refine (perform_induction (fun next => next.Sound ∧ next.dispatcher = .stopped ∧
    next.taken = relay.taken) ?_ ⟨sound, stopped, rfl⟩ moves).2.2
  rintro before next _ ⟨ok, ended, same⟩ made
  have moved := moved_of_move? ok.held made
  have frozen := taken_moved_of_stopped moved ended
  exact ⟨ok.moved moved, frozen.1, frozen.2.trans same⟩

end Relay

end ClusterMdns
