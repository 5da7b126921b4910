import ClusterMdns.Cache

/-!
Following the objects of one kind. News arrive one by one; all changes that one of them amounts to
are delivered before the next is taken. Whoever waits for the first listing is told once all of its
changes are delivered. Cancellation is noticed before news are taken, not between the changes of
one.

Main statement: `Informer.step?_run_eq_none`, a run ends only where no step can be taken.
-/

namespace ClusterMdns

/-- What arrives from the cluster. -/
inductive Arrival (α : Type) where
  | news (event : ObjectEvent α)
  | failure

/-- What an informer does in a step. -/
inductive InformerStep (α : Type) where
  | took (event : ObjectEvent α)
  | delivered (change : Change α)
  | synced
  | failed

structure Informer (α : Type) where
  /-- What is still to arrive. -/
  incoming : List (Arrival α)
  cache : Cache α
  /-- The changes of the last news that are not delivered yet. -/
  pending : List (Change α)
  told : Bool
  cancelled : Bool

namespace Informer

variable {α : Type}

/-- An informer that has done nothing yet. -/
def start (incoming : List (Arrival α)) (cancelled : Bool) : Informer α :=
  ⟨incoming, .empty, [], false, cancelled⟩

variable [HasMetadata α]

/-- The next step and the informer after it; none if it has stopped or waits for arrivals. -/
def step? (informer : Informer α) : Option (InformerStep α × Informer α) :=
  match informer.pending with
  | change :: rest => some (.delivered change, { informer with pending := rest })
  | [] =>
    if informer.cache.synced && !informer.told then some (.synced, { informer with told := true })
    else if informer.cancelled then none
    else
      match informer.incoming with
      | [] => none
      | .failure :: rest => some (.failed, { informer with incoming := rest })
      | .news event :: rest =>
        let (changes, cache) := informer.cache.apply event
        some (.took event,
          { informer with incoming := rest, cache := cache, pending := changes })

/-- Each step takes an arrival or, with as many arrivals left, shortens what is to be delivered or
told. -/
theorem step?_shortens {informer next : Informer α} {step : InformerStep α}
    (taken : informer.step? = some (step, next)) :
    next.incoming.length < informer.incoming.length ∨
      next.incoming = informer.incoming ∧
        next.pending.length + (if next.told then 0 else 1)
          < informer.pending.length + (if informer.told then 0 else 1) := by
  simp only [step?] at taken
  split at taken
  case h_1 change rest pending =>
    simp only [Option.some.injEq, Prod.mk.injEq] at taken
    obtain ⟨_, rfl⟩ := taken
    exact .inr ⟨rfl, by simp [pending]⟩
  case h_2 pending =>
    split at taken
    case isTrue due =>
      simp only [Option.some.injEq, Prod.mk.injEq] at taken
      obtain ⟨_, rfl⟩ := taken
      simp only [Bool.and_eq_true, Bool.not_eq_true'] at due
      exact .inr ⟨rfl, by simp [due.2]⟩
    case isFalse =>
      split at taken
      case isTrue => simp at taken
      case isFalse =>
        split at taken
        case h_1 => simp at taken
        case h_2 rest incoming =>
          simp only [Option.some.injEq, Prod.mk.injEq] at taken
          obtain ⟨_, rfl⟩ := taken
          exact .inl (by simp [incoming])
        case h_3 event rest incoming =>
          simp only [Option.some.injEq, Prod.mk.injEq] at taken
          obtain ⟨_, rfl⟩ := taken
          exact .inl (by simp [incoming])

/-- All steps until the informer stops or waits, and the informer then. -/
def run (informer : Informer α) : List (InformerStep α) × Informer α :=
  match taken : informer.step? with
  | none => ([], informer)
  | some (step, next) =>
    have _shortens := step?_shortens taken
    let (steps, last) := next.run
    (step :: steps, last)
termination_by (informer.incoming.length, informer.pending.length + if informer.told then 0 else 1)
decreasing_by
  rcases _shortens with fewer | ⟨same, fewer⟩
  · exact Prod.Lex.left _ _ fewer
  · rw [same]
    exact Prod.Lex.right _ fewer

/-- A run ends where no step can be taken. -/
theorem step?_run_eq_none (informer : Informer α) : informer.run.2.step? = none := by
  fun_induction run informer with
  | case1 informer stuck => exact stuck
  | case2 informer step next taken shortens steps last rest ih => simpa [rest] using ih

end Informer

end ClusterMdns
