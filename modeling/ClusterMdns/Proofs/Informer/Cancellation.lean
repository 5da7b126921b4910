import ClusterMdns.Proofs.Informer.Course

/-!
What an informer does once it is cancelled, at whatever moment that is.

A change is delivered by a callback, which begins and ends, and cancellation may fall in between. So the
steps of an informer are taken apart into what occurs from one moment to the next (`Moment.next?`), and
taken together again they are its run (`Moment.exists_advance_run`). The token is looked at in one place
only, where the next arrival would be taken: cancelled while the changes of one event are delivered, an
informer delivers all of them first.

* `Informer.steps_of_step?`: what one step does.
* `Accounts.advance`: the changes that the handler was called for, with those that are held back, are all
  changes of the events that were taken.
* `Informer.run_of_cancelled`: a cancelled informer delivers what is held back, and tells of the first
  listing if it has to.
* `Moment.delivers_event_in_progress_then_stops`: this for every moment of cancellation.
* `Moment.called_after_cancellation`: the handler is called for a change after the callback in progress is
  over.
-/

namespace ClusterMdns

variable {α : Type}

/-! ### Occurrences and moments -/

/-- What occurs at an informer. -/
inductive Occurrence (α : Type) where
  | took (event : ObjectEvent α)
  /-- The handler is called for a change. -/
  | called (change : Change α)
  /-- The callback for a change is over. -/
  | returned (change : Change α)
  | synced
  | failed

namespace Occurrence

def event? : Occurrence α → Option (ObjectEvent α)
  | took event => some event
  | _ => none

def call? : Occurrence α → Option (Change α)
  | called change => some change
  | _ => none

/-- Whether an arrival is taken. -/
def isArrival : Occurrence α → Bool
  | took _ => true
  | failed => true
  | _ => false

/-- The events that were taken. -/
def events (occurred : List (Occurrence α)) : List (ObjectEvent α) := occurred.filterMap event?

/-- The changes that the handler was called for. -/
def calls (occurred : List (Occurrence α)) : List (Change α) := occurred.filterMap call?

theorem calls_append (first second : List (Occurrence α)) :
    calls (first ++ second) = calls first ++ calls second :=
  List.filterMap_append

theorem events_concat (occurred : List (Occurrence α)) (occurrence : Occurrence α) :
    events (occurred ++ [occurrence]) = events occurred ++ occurrence.event?.toList := by
  rw [events, List.filterMap_append]
  cases occurrence <;> rfl

theorem calls_concat (occurred : List (Occurrence α)) (occurrence : Occurrence α) :
    calls (occurred ++ [occurrence]) = calls occurred ++ occurrence.call?.toList := by
  rw [calls_append]
  cases occurrence <;> rfl

end Occurrence

namespace InformerStep

/-- What occurs first in a step. -/
def onset : InformerStep α → Occurrence α
  | took event => .took event
  | delivered change => .called change
  | synced => .synced
  | failed => .failed

/-- What occurs in a step: a callback ends after it has begun. -/
def occurrences (step : InformerStep α) : List (Occurrence α) :=
  step.onset :: step.change?.toList.map .returned

theorem calls_occurrences (steps : List (InformerStep α)) :
    Occurrence.calls (steps.flatMap occurrences) = steps.filterMap change? := by
  induction steps with
  | nil => rfl
  | cons step rest ih =>
    rw [List.flatMap_cons, Occurrence.calls_append, ih]
    cases step <;> rfl

end InformerStep

/-- An informer at a moment: between its steps or in a callback. -/
structure Moment (α : Type) where
  informer : Informer α
  /-- The change that the handler is being called for. -/
  calling : Option (Change α)

namespace Moment

def start (arrivals : List (Arrival α)) : Moment α := ⟨.start arrivals false, none⟩

/-- The moment with the token cancelled. A callback in progress goes on. -/
def cancel (moment : Moment α) : Moment α :=
  { moment with informer := { moment.informer with cancelled := true } }

end Moment

variable [HasMetadata α]

/-! ### Steps -/

namespace Informer

/-- What one step does. -/
inductive Steps : Informer α → InformerStep α → Informer α → Prop
  | deliver (incoming : List (Arrival α)) (cache : Cache α) (change : Change α)
      (rest : List (Change α)) (told cancelled : Bool) :
      Steps ⟨incoming, cache, change :: rest, told, cancelled⟩ (.delivered change)
        ⟨incoming, cache, rest, told, cancelled⟩
  | tell (incoming : List (Arrival α)) (cache : Cache α) (cancelled : Bool)
      (synced : cache.synced = true) :
      Steps ⟨incoming, cache, [], false, cancelled⟩ .synced ⟨incoming, cache, [], true, cancelled⟩
  | fail (rest : List (Arrival α)) (cache : Cache α) (told : Bool) :
      Steps ⟨.failure :: rest, cache, [], told, false⟩ .failed ⟨rest, cache, [], told, false⟩
  | take (event : ObjectEvent α) (rest : List (Arrival α)) (cache : Cache α) (told : Bool) :
      Steps ⟨.news event :: rest, cache, [], told, false⟩ (.took event)
        ⟨rest, (cache.apply event).2, (cache.apply event).1, told, false⟩

theorem steps_of_step? {informer next : Informer α} {step : InformerStep α}
    (taken : informer.step? = some (step, next)) : informer.Steps step next := by
  obtain ⟨incoming, cache, pending, told, cancelled⟩ := informer
  unfold step? at taken
  dsimp only at taken
  cases pending with
  | cons change rest =>
    cases taken
    exact .deliver incoming cache change rest told cancelled
  | nil =>
    dsimp only at taken
    split at taken
    case isTrue due =>
      obtain ⟨synced, rfl⟩ : cache.synced = true ∧ told = false := by simpa using due
      cases taken
      exact .tell incoming cache cancelled synced
    case isFalse =>
      split at taken
      case isTrue => cases taken
      case isFalse active =>
        obtain rfl := Bool.eq_false_iff.mpr active
        cases incoming with
        | nil => cases taken
        | cons arrival rest =>
          cases arrival with
          | news event =>
            cases taken
            exact .take event rest cache told
          | failure =>
            cases taken
            exact .fail rest cache told

/-- **A cancelled informer delivers what is held back** and tells of the first listing if it has to. -/
theorem run_of_cancelled (incoming : List (Arrival α)) (cache : Cache α) (pending : List (Change α))
    (told : Bool) :
    (Informer.mk incoming cache pending told true).run.1
      = pending.map .delivered ++ if (cache.synced && !told) = true then [.synced] else [] := by
  have idle : (Informer.mk incoming cache [] told true).run.1
      = if (cache.synced && !told) = true then [.synced] else [] := by
    split
    case isTrue due =>
      have tells : (Informer.mk incoming cache [] told true).step?
          = some (.synced, ⟨incoming, cache, [], true, true⟩) := by
        unfold step?
        exact if_pos due
      have stuck : (Informer.mk incoming cache [] true true).step? = none := by simp [step?]
      rw [run_of_step? tells, run_of_stuck stuck]
    case isFalse undue =>
      have stuck : (Informer.mk incoming cache [] told true).step? = none := by
        unfold step?
        exact if_neg undue
      rw [run_of_stuck stuck]
  rw [run_pending, idle]

section Cancelled

variable {incoming : List (Arrival α)} {cache : Cache α} {pending : List (Change α)} {told : Bool}

/-- A cancelled informer takes nothing that arrives. -/
theorem eq_of_mem_run_of_cancelled {step : InformerStep α}
    (taken : step ∈ (Informer.mk incoming cache pending told true).run.1) :
    (∃ change, step = .delivered change) ∨ step = .synced := by
  rw [run_of_cancelled] at taken
  rcases List.mem_append.mp taken with delivered | told
  · obtain ⟨change, _, rfl⟩ := List.mem_map.mp delivered
    exact .inl ⟨change, rfl⟩
  · split at told
    · exact .inr (List.mem_singleton.mp told)
    · cases told

/-- The changes that a cancelled informer delivers are those that it held back. -/
theorem change?_run_of_cancelled :
    (Informer.mk incoming cache pending told true).run.1.filterMap InformerStep.change? = pending := by
  have silent : (if (cache.synced && !told) = true then [InformerStep.synced] else
      ([] : List (InformerStep α))).filterMap InformerStep.change? = [] := by
    split <;> rfl
  rw [run_of_cancelled, List.filterMap_append, List.filterMap_map, silent, List.append_nil]
  exact List.filterMap_some

end Cancelled

end Informer

/-! ### From moment to moment -/

namespace Moment

/-- What occurs next, and the moment after it. -/
def next? (moment : Moment α) : Option (Occurrence α × Moment α) :=
  match moment.calling with
  | some change => some (.returned change, ⟨moment.informer, none⟩)
  | none => moment.informer.step?.map fun (step, informer) => (step.onset, ⟨informer, step.change?⟩)

/-- The next occurrences up to a number, fewer if nothing occurs any more, and the moment after them. -/
def advance : Nat → Moment α → List (Occurrence α) × Moment α
  | 0, moment => ([], moment)
  | count + 1, moment =>
    match moment.next? with
    | none => ([], moment)
    | some (occurrence, next) =>
      let (rest, last) := next.advance count
      (occurrence :: rest, last)

theorem advance_of_stuck {moment : Moment α} (stuck : moment.next? = none) (count : Nat) :
    moment.advance count = ([], moment) := by
  cases count with
  | zero => rfl
  | succ count => rw [advance, stuck]

theorem advance_of_next? {moment next : Moment α} {occurrence : Occurrence α}
    (occurs : moment.next? = some (occurrence, next)) (count : Nat) :
    moment.advance (count + 1) = (occurrence :: (next.advance count).1, (next.advance count).2) := by
  rw [advance, occurs]

theorem advance_add (moment : Moment α) (first second : Nat) :
    moment.advance (first + second)
      = ((moment.advance first).1 ++ ((moment.advance first).2.advance second).1,
          ((moment.advance first).2.advance second).2) := by
  induction first generalizing moment with
  | zero => rw [Nat.zero_add, advance, List.nil_append]
  | succ count ih =>
    cases occurs : moment.next? with
    | none => rw [advance_of_stuck occurs, advance_of_stuck occurs, advance_of_stuck occurs]; rfl
    | some pair => rw [Nat.add_right_comm, advance_of_next? occurs, advance_of_next? occurs, ih]; rfl

/-- A step is one moment, or two if the handler is called in it. -/
theorem exists_advance_of_step? {informer next : Informer α} {step : InformerStep α}
    (taken : informer.step? = some (step, next)) :
    ∃ count, (Moment.mk informer none).advance count = (step.occurrences, ⟨next, none⟩) := by
  have begins : (Moment.mk informer none).next? = some (step.onset, ⟨next, step.change?⟩) := by
    unfold next?
    dsimp only
    rw [taken]
    rfl
  cases calling : step.change? with
  | none =>
    refine ⟨1, ?_⟩
    rw [advance_of_next? begins, InformerStep.occurrences, calling]
    rfl
  | some change =>
    refine ⟨2, ?_⟩
    rw [advance_of_next? begins, InformerStep.occurrences, calling]
    rfl

/-- **The moments of an informer make up its run**, callbacks taken apart. -/
theorem exists_advance_run (informer : Informer α) :
    ∃ count, (Moment.mk informer none).advance count
      = (informer.run.1.flatMap InformerStep.occurrences, ⟨informer.run.2, none⟩) := by
  fun_induction Informer.run informer with
  | case1 informer stuck => exact ⟨0, rfl⟩
  | case2 informer step next taken shortens steps last rest ih =>
    obtain ⟨own, passed⟩ := exists_advance_of_step? taken
    obtain ⟨later, follows⟩ := ih
    refine ⟨own + later, ?_⟩
    rw [advance_add, passed, follows, rest]
    rfl

/-- From each moment a callback in progress ends, and the run of the informer follows. -/
theorem exists_advance_end (moment : Moment α) :
    ∃ count, moment.advance count
      = (moment.calling.toList.map .returned
            ++ moment.informer.run.1.flatMap InformerStep.occurrences,
          ⟨moment.informer.run.2, none⟩) := by
  obtain ⟨informer, calling⟩ := moment
  obtain ⟨count, follows⟩ := exists_advance_run informer
  cases calling with
  | none => exact ⟨count, follows⟩
  | some change =>
    have ends : (Moment.mk informer (some change)).next?
        = some (.returned change, ⟨informer, none⟩) := rfl
    refine ⟨count + 1, ?_⟩
    rw [advance_of_next? ends, follows]
    rfl

theorem next?_of_run (informer : Informer α) : (Moment.mk informer.run.2 none).next? = none := by
  unfold next?
  dsimp only
  rw [informer.step?_run_eq_none]
  rfl

end Moment

/-! ### What is held back -/

open Occurrence

/-- What was taken and called for accounts for what is held back: the changes of the events taken are
called for or held back, and those held back belong to the last event. -/
structure Accounts (occurred : List (Occurrence α)) (informer : Informer α) : Prop where
  cache : informer.cache = (Cache.empty.run (events occurred)).2
  changes : calls occurred ++ informer.pending = (Cache.empty.run (events occurred)).1
  heldBack : ∀ before event, events occurred = before ++ [event] →
    informer.pending <:+ ((Cache.empty.run before).2.apply event).1

namespace Accounts

variable {occurred : List (Occurrence α)}

theorem start (arrivals : List (Arrival α)) (cancelled : Bool) :
    Accounts [] (Informer.start arrivals cancelled) := by
  refine ⟨rfl, rfl, fun before event none => ?_⟩
  exact absurd none.symm (List.append_ne_nil_of_right_ne_nil before (List.cons_ne_nil event []))

/-- What takes no event and calls for no change leaves the account as it is. -/
theorem of_idle {informer next : Informer α} (accounts : Accounts occurred informer)
    {occurrence : Occurrence α} (noEvent : occurrence.event? = none) (noCall : occurrence.call? = none)
    (cache : next.cache = informer.cache) (pending : next.pending = informer.pending) :
    Accounts (occurred ++ [occurrence]) next := by
  have taken : events (occurred ++ [occurrence]) = events occurred := by
    rw [events_concat, noEvent, Option.toList_none, List.append_nil]
  have called : calls (occurred ++ [occurrence]) = calls occurred := by
    rw [calls_concat, noCall, Option.toList_none, List.append_nil]
  refine ⟨?_, ?_, ?_⟩
  · rw [cache, taken, accounts.cache]
  · rw [pending, called, taken, accounts.changes]
  · rw [pending, taken]
    exact accounts.heldBack

/-- **A step keeps the account.** -/
theorem step {informer next : Informer α} {step : InformerStep α}
    (accounts : Accounts occurred informer) (steps : informer.Steps step next) :
    Accounts (occurred ++ [step.onset]) next := by
  cases steps with
  | deliver incoming cache change rest told cancelled =>
    have taken : events (occurred ++ [.called change]) = events occurred :=
      (events_concat occurred _).trans (List.append_nil _)
    have called : calls (occurred ++ [.called change]) = calls occurred ++ [change] :=
      calls_concat occurred _
    refine ⟨?_, ?_, ?_⟩
    · rw [InformerStep.onset, taken]
      exact accounts.cache
    · rw [InformerStep.onset, taken, called, List.append_assoc]
      exact accounts.changes
    · rw [InformerStep.onset, taken]
      intro before event last
      exact (List.suffix_cons change rest).trans (accounts.heldBack before event last)
  | tell => exact accounts.of_idle rfl rfl rfl rfl
  | fail => exact accounts.of_idle rfl rfl rfl rfl
  | take event rest cache told =>
    have taken : events (occurred ++ [.took event]) = events occurred ++ [event] :=
      events_concat occurred _
    have called : calls (occurred ++ [.took event]) = calls occurred :=
      (calls_concat occurred _).trans (List.append_nil _)
    have before : cache = (Cache.empty.run (events occurred)).2 := accounts.cache
    have all : calls occurred ++ [] = (Cache.empty.run (events occurred)).1 := accounts.changes
    refine ⟨?_, ?_, ?_⟩
    · rw [InformerStep.onset, taken, Cache.run_concat, ← before]
    · rw [InformerStep.onset, taken, called, Cache.run_concat, ← all, ← before, List.append_nil]
    · intro earlier last parted
      rw [InformerStep.onset, taken] at parted
      obtain ⟨rfl, same⟩ := List.append_inj' parted rfl
      obtain rfl := List.singleton_inj.mp same
      exact before ▸ List.suffix_refl _

theorem next {moment next : Moment α} (accounts : Accounts occurred moment.informer)
    {occurrence : Occurrence α} (occurs : moment.next? = some (occurrence, next)) :
    Accounts (occurred ++ [occurrence]) next.informer := by
  obtain ⟨informer, calling⟩ := moment
  cases calling with
  | some change =>
    cases occurs
    exact accounts.of_idle rfl rfl rfl rfl
  | none =>
    obtain ⟨⟨step, after⟩, taken, same⟩ := Option.map_eq_some_iff.mp occurs
    cases same
    exact accounts.step (Informer.steps_of_step? taken)

/-- **The account is kept from moment to moment.** -/
theorem advance {moment : Moment α} (accounts : Accounts occurred moment.informer) (count : Nat) :
    Accounts (occurred ++ (moment.advance count).1) (moment.advance count).2.informer := by
  induction count generalizing moment occurred with
  | zero =>
    rw [Moment.advance, List.append_nil]
    exact accounts
  | succ count ih =>
    cases occurs : moment.next? with
    | none =>
      rw [Moment.advance_of_stuck occurs, List.append_nil]
      exact accounts
    | some pair =>
      rw [Moment.advance_of_next? occurs, ← List.singleton_append, ← List.append_assoc]
      exact ih (accounts.next occurs)

end Accounts

/-! ### Cancellation -/

namespace Moment

/-- From the moment of cancellation a callback in progress ends, no arrival is taken, and the handler is
called for what is held back. -/
theorem exists_end_of_cancelled (moment : Moment α) :
    ∃ further, (moment.cancel.advance further).2.next? = none ∧
      let after := (moment.cancel.advance further).1
      (∀ change, moment.calling = some change → after.head? = some (.returned change)) ∧
        (∀ occurrence ∈ after, occurrence.isArrival = false) ∧
        calls after = moment.informer.pending := by
  obtain ⟨⟨incoming, cache, pending, told, cancelled⟩, calling⟩ := moment
  obtain ⟨further, ends⟩ :=
    exists_advance_end (Moment.mk ⟨incoming, cache, pending, told, true⟩ calling)
  refine ⟨further, ?_, ?_, ?_, ?_⟩
  all_goals
    dsimp only [cancel]
    rw [ends]
  · exact next?_of_run _
  · intro change inProgress
    rw [inProgress]
    rfl
  · intro occurrence member
    rcases List.mem_append.mp member with ended | later
    · obtain ⟨change, _, rfl⟩ := List.mem_map.mp ended
      rfl
    · obtain ⟨step, taken, occurs⟩ := List.mem_flatMap.mp later
      rcases Informer.eq_of_mem_run_of_cancelled taken with ⟨change, rfl⟩ | rfl
      · rcases List.mem_pair.mp occurs with rfl | rfl <;> rfl
      · rw [List.mem_singleton.mp occurs]
        rfl
  · have ended : calls (calling.toList.map .returned) = [] := by
      cases calling <;> rfl
    rw [calls_append, ended, List.nil_append, InformerStep.calls_occurrences,
      Informer.change?_run_of_cancelled]

/-- **A cancelled informer delivers all changes of the event in progress, and then it stops.** It may be
cancelled at any moment of its run. The callback in progress ends first. No other arrival is taken. The
handler is called for all changes of the events that were taken before, so that the calls that follow the
cancellation are the last changes of the last of these events. There are none exactly if the handler had
been called for all of them. -/
theorem delivers_event_in_progress_then_stops (arrivals : List (Arrival α)) (count : Nat) :
    let before := ((start arrivals).advance count).1
    let moment := ((start arrivals).advance count).2
    ∃ further, (moment.cancel.advance further).2.next? = none ∧
      let after := (moment.cancel.advance further).1
      (∀ change, moment.calling = some change → after.head? = some (.returned change)) ∧
        (∀ occurrence ∈ after, occurrence.isArrival = false) ∧
        calls before ++ calls after = (Cache.empty.run (events before)).1 ∧
        (∀ earlier event, events before = earlier ++ [event] →
          calls after <:+ ((Cache.empty.run earlier).2.apply event).1) ∧
        (calls after = [] ↔ calls before = (Cache.empty.run (events before)).1) := by
  intro before moment
  have accounts : Accounts ([] ++ before) moment.informer :=
    Accounts.advance (Accounts.start arrivals false) count
  obtain ⟨further, stopped, ended, idle, called⟩ := exists_end_of_cancelled moment
  have changes : calls before ++ moment.informer.pending = (Cache.empty.run (events before)).1 :=
    accounts.changes
  refine ⟨further, stopped, ended, idle, ?_, ?_, ?_⟩
  · rw [called, changes]
  · rw [called]
    exact accounts.heldBack
  · rw [called, ← changes, List.self_eq_append_right]

/-- **Cancellation does not keep the handler from being called again.** Of a listing of two services the
first is being delivered when the token is cancelled. Once its callback is over, the handler is called for
the second. -/
theorem called_after_cancellation :
    let service (name : String) : Service :=
      ⟨⟨some name, none, some "web", some "1", .empty⟩, some "LoadBalancer", none, [], []⟩
    let arrivals : List (Arrival Service) := [.news (.listing [service "a", service "b"])]
    let moment := ((start arrivals).advance 2).2
    moment.calling.map Change.key = some "web/a" ∧
      (calls (moment.cancel.advance 2).1).map Change.key = ["web/b"] ∧
      ¬∀ (arrivals : List (Arrival Service)) (count further : Nat),
        calls (((start arrivals).advance count).2.cancel.advance further).1 = [] := by
  intro service arrivals moment
  have later : (calls (moment.cancel.advance 2).1).map Change.key = ["web/b"] := by decide +kernel
  refine ⟨by decide +kernel, later, fun never => ?_⟩
  rw [never arrivals 2 2] at later
  cases later

end Moment

end ClusterMdns
