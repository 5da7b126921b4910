import ClusterMdns.Proofs.Relay.Rest

/-!
Sends that nobody interferes with. From a calm relay the schedule of a send takes its batch, makes all
its calls and leaves the relay calm.

* `perform_sendSchedule`: what the schedule of one send leads to.
* `sendAll_eq_passed` and `perform_sendSchedules`: sending batches one after another, and making all
  moves of a plan that was given at once, both lead to `passed`.
-/

namespace ClusterMdns.Relay

/-- Nothing is under way and nobody has asked to stop. -/
structure Calm (relay : Relay) : Prop where
  ready : relay.dispatcher = .ready
  free : relay.slot = none
  running : relay.cancelled = false

/-- The relay once batches of a sender went through. -/
def passed (relay : Relay) (position : Nat) (sender : Sender) (batches : List Batch) : Relay :=
  { relay.withSender position
      { sender with outcomes := sender.outcomes ++ batches.map (·, true) } with
    taken := relay.taken ++ batches.map (position, ·)
    calls := relay.calls ++ batches.flatMap (Batch.calls relay.ttl) }

section Steps

variable {relay next : Relay}

theorem perform_cons_of_some {move : RelayMove} (made : relay.move? move = some next)
    (rest : List RelayMove) : relay.perform (move :: rest) = next.perform rest := by
  rw [perform, List.foldl_cons, made]
  rfl

theorem perform_cons_of_none {move : RelayMove} (impossible : relay.move? move = none)
    (rest : List RelayMove) : relay.perform (move :: rest) = relay.perform rest := by
  rw [perform, List.foldl_cons, impossible]
  rfl

theorem perform_append (relay : Relay) (first second : List RelayMove) :
    relay.perform (first ++ second) = (relay.perform first).perform second :=
  List.foldl_append

/-- As many calls as a batch has records make all its calls. -/
theorem perform_calls (asCall : Record → Call) (records : List Record)
    (calling : relay.dispatcher = .calling (records.map asCall)) :
    relay.perform (records.map fun _ => .call)
      = { relay with dispatcher := .calling [], calls := relay.calls ++ records.map asCall } := by
  induction records generalizing relay with
  | nil =>
    rw [List.map_nil] at calling
    rw [List.map_nil, List.map_nil, List.append_nil, ← calling]
    rfl
  | cons first rest ih =>
    have called : relay.move? .call = some { relay with
        dispatcher := .calling (rest.map asCall), calls := relay.calls ++ [asCall first] } := by
      simp [move?, mover?, ownMove?, calling]
    rw [List.map_cons, perform_cons_of_some called, ih rfl]
    simp

end Steps

section Send

variable {relay : Relay} {position : Nat} {sender : Sender} {batch : Batch} {rest : List Batch}

/-- **An undisturbed send goes through**: its batch is taken, all its calls are made and the sender is
told so. -/
theorem perform_sendSchedule (calm : relay.Calm) (found : relay.senders[position]? = some sender)
    (idle : sender.stage = .idle) (planned : sender.plan = batch :: rest) :
    relay.perform (sendSchedule position batch)
      = { relay.withSender position
            { sender with plan := rest, outcomes := sender.outcomes ++ [(batch, true)] } with
          taken := relay.taken ++ [(position, batch)]
          calls := relay.calls ++ batch.calls relay.ttl } := by
  obtain ⟨plan, stage, outcomes⟩ := sender
  obtain ⟨ttl, senders, slot, dispatcher, cancelled, taken, calls⟩ := relay
  obtain ⟨rfl, rfl, rfl⟩ := calm
  subst idle planned
  have inside : position < senders.length := (List.getElem?_eq_some_iff.mp found).1
  have standing : ∀ put, (senders.set position put)[position]? = some put :=
    fun put => List.getElem?_set_self inside
  have moved : ∀ put stage, (senders.set position put).modify position
      (fun sender : Sender => { sender with stage := stage })
        = senders.set position { put with stage := stage } := by
    intro put stage
    rw [List.modify_eq_set_getElem?, standing]
    exact List.set_set _
  have took : perform ⟨ttl, senders, none, .ready, false, taken, calls⟩
      [.begin position, .offer position, .refuse position, .look, .take]
        = ⟨ttl, senders.set position ⟨rest, .settled batch true, outcomes⟩, none,
            .calling (batch.calls ttl), false, taken ++ [(position, batch)], calls⟩ := by
    simp [perform, move?, mover?, senderMove?, ownMove?, atStage, found, standing, moved]
  have told : perform ⟨ttl, senders.set position ⟨rest, .settled batch true, outcomes⟩, none,
      .calling [], false, taken ++ [(position, batch)], calls ++ batch.calls ttl⟩
        [.finish, .notice position]
        = ⟨ttl, senders.set position ⟨rest, .idle, outcomes ++ [(batch, true)]⟩, none, .ready, false,
            taken ++ [(position, batch)], calls ++ batch.calls ttl⟩ := by
    simp [perform, move?, mover?, senderMove?, ownMove?, standing]
  rw [sendSchedule, perform_append, perform_append, took, perform_calls _ batch.records rfl]
  exact told

theorem calm_passed (calm : relay.Calm) (sender : Sender) (batches : List Batch) :
    (relay.passed position sender batches).Calm :=
  ⟨calm.ready, calm.free, calm.running⟩

theorem getElem?_passed (found : relay.senders[position]? = some sender) (batches : List Batch) :
    (relay.passed position sender batches).senders[position]?
      = some { sender with outcomes := sender.outcomes ++ batches.map (·, true) } :=
  List.getElem?_set_self (List.getElem?_eq_some_iff.mp found).1

theorem getElem?_passed_of_ne {other : Nat} (elsewhere : other ≠ position) (sender : Sender)
    (batches : List Batch) :
    (relay.passed position sender batches).senders[other]? = relay.senders[other]? :=
  List.getElem?_set_ne (Ne.symm elsewhere)

/-- Batches that go through one after another have gone through together. -/
theorem passed_passed (relay : Relay) (position : Nat) (sender : Sender) (first second : List Batch) :
    (relay.passed position sender first).passed position
        { sender with outcomes := sender.outcomes ++ first.map (·, true) } second
      = relay.passed position sender (first ++ second) := by
  simp only [passed, withSender, List.set_set, List.map_append, List.flatMap_append,
    List.append_assoc]

theorem withSender_self (found : relay.senders[position]? = some sender) :
    relay.withSender position sender = relay := by
  have same : relay.senders.set position sender = relay.senders := by
    refine List.ext_getElem? fun other => ?_
    by_cases here : other = position
    · subst here
      rw [List.getElem?_set_self (List.getElem?_eq_some_iff.mp found).1, found]
    · rw [List.getElem?_set_ne (Ne.symm here)]
  rw [withSender, same]

theorem passed_nil (found : relay.senders[position]? = some sender) :
    relay.passed position sender [] = relay := by
  simp only [passed, List.map_nil, List.flatMap_nil, List.append_nil]
  rw [withSender_self found]

/-- The moves of a plan that was given at once let the batches through. -/
theorem perform_sendSchedules (calm : relay.Calm) (found : relay.senders[position]? = some sender)
    (idle : sender.stage = .idle) (planless : sender.plan = []) (batches : List Batch) :
    (relay.planned position batches).perform (batches.flatMap (sendSchedule position))
      = relay.passed position sender batches := by
  rw [planned_eq_withSender found, planless, List.nil_append]
  induction batches generalizing relay sender with
  | nil =>
    rw [passed_nil found, List.flatMap_nil, ← planless]
    exact withSender_self found
  | cons batch rest ih =>
    have inside : position < relay.senders.length := (List.getElem?_eq_some_iff.mp found).1
    have planned : (relay.withSender position { sender with plan := batch :: rest }).senders[position]?
        = some { sender with plan := batch :: rest } := List.getElem?_set_self inside
    have calmPlanned : (relay.withSender position { sender with plan := batch :: rest }).Calm :=
      ⟨calm.ready, calm.free, calm.running⟩
    rw [List.flatMap_cons, perform_append, perform_sendSchedule calmPlanned planned idle rfl]
    have first := ih (calm_passed calm sender [batch]) (getElem?_passed found [batch]) idle planless
    rw [passed_passed, List.singleton_append] at first
    rw [← first]
    simp [passed, withSender]

/-- **Batches sent one after another from a calm relay all go through.** -/
theorem sendAll_eq_passed (calm : relay.Calm) (found : relay.senders[position]? = some sender)
    (idle : sender.stage = .idle) (planless : sender.plan = []) (batches : List Batch) :
    relay.sendAll position batches = relay.passed position sender batches := by
  induction batches generalizing relay sender with
  | nil => exact (passed_nil found).symm
  | cons batch rest ih =>
    have first : relay.send position batch = relay.passed position sender [batch] := by
      rw [send, ← perform_sendSchedules calm found idle planless [batch], List.flatMap_singleton]
    rw [sendAll, List.foldl_cons, first]
    show (relay.passed position sender [batch]).sendAll position rest = _
    rw [ih (calm_passed calm _ _) (getElem?_passed found [batch]) idle planless, passed_passed,
      List.singleton_append]

end Send

end ClusterMdns.Relay
