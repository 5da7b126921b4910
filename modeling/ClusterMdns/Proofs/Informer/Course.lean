import ClusterMdns.Following
import ClusterMdns.Proofs.Cache.ChangeLog

/-!
What an informer that nobody cancels does with what arrives.

Between two arrivals an informer holds nothing back: all changes are delivered, and it has told that the
first listing is delivered exactly if there was one (`Informer.between`). From there each arrival leads to
steps that depend on the cache alone (`Informer.course`), and a failure to a step of its own that changes
nothing.

* `run_between`: the run from such a state is the course of what is still to arrive.
* `course_append`: a course goes on from the cache that the earlier news leave.
* `filter_course`: without its failures a course is that of the news alone.
* `delivers_all_and_signals_once`: the changes delivered, the one signal and its place, and what failures
  change.
-/

namespace ClusterMdns

variable {α : Type}

/-- The news that arrive, if it is no failure. -/
def Arrival.event? : Arrival α → Option (ObjectEvent α)
  | news event => some event
  | failure => none

def Arrival.isFailure : Arrival α → Bool
  | failure => true
  | news _ => false

/-- Arrivals can be parted at each of their news. -/
theorem Arrival.exists_parted {arrivals : List (Arrival α)} {before after : List (ObjectEvent α)}
    {event : ObjectEvent α} (parted : arrivals.filterMap event? = before ++ event :: after) :
    ∃ front back, arrivals = front ++ .news event :: back
      ∧ front.filterMap event? = before ∧ back.filterMap event? = after := by
  obtain ⟨front, rest, rfl, newsBefore, newsRest⟩ := List.filterMap_eq_append_iff.mp parted
  obtain ⟨failures, arrival, back, rfl, noNews, here, newsAfter⟩ :=
    List.filterMap_eq_cons_iff.mp newsRest
  cases arrival with
  | failure => cases here
  | news event =>
    cases here
    refine ⟨front ++ failures, back, (List.append_assoc ..).symm, ?_, newsAfter⟩
    rw [List.filterMap_append, newsBefore, List.filterMap_eq_nil_iff.mpr noNews, List.append_nil]

def ObjectEvent.isListing : ObjectEvent α → Bool
  | listing _ => true
  | _ => false

namespace InformerStep

/-- The news that are taken in a step. -/
def event? : InformerStep α → Option (ObjectEvent α)
  | took event => some event
  | _ => none

/-- The change that is delivered in a step. -/
def change? : InformerStep α → Option (Change α)
  | delivered change => some change
  | _ => none

end InformerStep

variable [HasMetadata α]

/-- Only a listing makes a cache synced, and nothing makes it unsynced. -/
theorem Cache.synced_apply (cache : Cache α) (event : ObjectEvent α) :
    (cache.apply event).2.synced = (cache.synced || event.isListing) := by
  cases event <;> simp [apply, ObjectEvent.isListing]

theorem Cache.synced_run (cache : Cache α) (events : List (ObjectEvent α)) :
    (cache.run events).2.synced = (cache.synced || events.any ObjectEvent.isListing) := by
  induction events generalizing cache with
  | nil => simp [run]
  | cons event rest ih => simp only [run, ih, synced_apply, List.any_cons, Bool.or_assoc]

namespace Informer

/-- An informer between two arrivals, with what is still to arrive. -/
def between (cache : Cache α) (incoming : List (Arrival α)) : Informer α :=
  ⟨incoming, cache, [], cache.synced, false⟩

/-- The steps in which news are taken and their changes delivered. -/
def handling (cache : Cache α) (event : ObjectEvent α) : List (InformerStep α) :=
  .took event :: (cache.apply event).1.map .delivered

/-- What is told once the changes of news are delivered. -/
def signal (cache : Cache α) (event : ObjectEvent α) : List (InformerStep α) :=
  if event.isListing && !cache.synced then [.synced] else []

/-- The steps that news lead to. -/
def stepsOn (cache : Cache α) (event : ObjectEvent α) : List (InformerStep α) :=
  handling cache event ++ signal cache event

/-- The steps that arrivals lead to one after another. -/
def course (cache : Cache α) : List (Arrival α) → List (InformerStep α)
  | [] => []
  | .failure :: rest => .failed :: course cache rest
  | .news event :: rest => stepsOn cache event ++ course (cache.apply event).2 rest

/-! ### The run is the course -/

theorem run_of_step? {informer next : Informer α} {step : InformerStep α}
    (taken : informer.step? = some (step, next)) :
    informer.run = (step :: next.run.1, next.run.2) := by
  rw [run]
  split
  case h_1 stuck => rw [stuck] at taken; cases taken
  case h_2 other after same =>
    rw [same] at taken
    cases taken
    rfl

theorem run_of_stuck {informer : Informer α} (stuck : informer.step? = none) :
    informer.run = ([], informer) := by
  rw [run]
  split
  case h_1 => rfl
  case h_2 step next taken => rw [stuck] at taken; cases taken

/-- What is held back is delivered first, in order. -/
theorem run_pending (incoming : List (Arrival α)) (cache : Cache α) (changes : List (Change α))
    (told cancelled : Bool) :
    (Informer.mk incoming cache changes told cancelled).run
      = (changes.map .delivered ++ (Informer.mk incoming cache [] told cancelled).run.1,
          (Informer.mk incoming cache [] told cancelled).run.2) := by
  induction changes with
  | nil => rfl
  | cons change rest ih =>
    have taken : (Informer.mk incoming cache (change :: rest) told cancelled).step?
        = some (.delivered change, ⟨incoming, cache, rest, told, cancelled⟩) := rfl
    rw [run_of_step? taken, ih]
    rfl

/-- Once the changes of news are delivered, what is left to do before the next arrival is to tell of
the first listing. -/
theorem run_told (cache : Cache α) (event : ObjectEvent α) (rest : List (Arrival α)) :
    (Informer.mk rest (cache.apply event).2 [] cache.synced false).run
      = (signal cache event ++ (between (cache.apply event).2 rest).run.1,
          (between (cache.apply event).2 rest).run.2) := by
  have synced := cache.synced_apply event
  by_cases first : (event.isListing && !cache.synced) = true
  · obtain ⟨listing, unsynced⟩ : event.isListing = true ∧ cache.synced = false := by
      simpa using first
    have taken : (Informer.mk rest (cache.apply event).2 [] cache.synced false).step?
        = some (.synced, between (cache.apply event).2 rest) := by
      simp [step?, between, synced, listing, unsynced]
    rw [run_of_step? taken, signal, if_pos first]
    rfl
  · have same : (cache.apply event).2.synced = cache.synced := by
      rw [synced]
      revert first
      cases cache.synced <;> cases event.isListing <;> simp
    rw [signal, if_neg first, between, same]
    rfl

/-- **The run of an informer between two arrivals is the course of what is still to arrive**, and it
ends with the cache that the news leave. -/
theorem run_between (cache : Cache α) (incoming : List (Arrival α)) :
    (between cache incoming).run
      = (course cache incoming, between (cache.run (incoming.filterMap Arrival.event?)).2 []) := by
  induction incoming generalizing cache with
  | nil =>
    have stuck : (between cache []).step? = none := by simp [step?, between]
    rw [run_of_stuck stuck]
    rfl
  | cons arrival rest ih =>
    cases arrival with
    | failure =>
      have taken : (between cache (.failure :: rest)).step? = some (.failed, between cache rest) := by
        simp [step?, between]
      rw [run_of_step? taken, ih]
      rfl
    | news event =>
      have taken : (between cache (.news event :: rest)).step?
          = some (.took event,
              ⟨rest, (cache.apply event).2, (cache.apply event).1, cache.synced, false⟩) := by
        simp [step?, between]
      rw [run_of_step? taken, run_pending, run_told, ih]
      simp [course, stepsOn, handling, Arrival.event?, Cache.run]

/-! ### What a course holds -/

/-- A course goes on from the cache that the earlier news leave. -/
theorem course_append (cache : Cache α) (first second : List (Arrival α)) :
    course cache (first ++ second)
      = course cache first ++ course (cache.run (first.filterMap Arrival.event?)).2 second := by
  induction first generalizing cache with
  | nil => rfl
  | cons arrival rest ih =>
    cases arrival with
    | failure =>
      rw [List.cons_append, course, ih]
      rfl
    | news event =>
      rw [List.cons_append, course, ih, course, List.append_assoc]
      rfl

section Holds

variable (cache : Cache α) (event : ObjectEvent α)

theorem change?_handling :
    (handling cache event).filterMap InformerStep.change? = (cache.apply event).1 := by
  rw [handling, List.filterMap_cons_none rfl, List.filterMap_map]
  exact List.filterMap_some

theorem event?_handling : (handling cache event).filterMap InformerStep.event? = [event] := by
  simp [handling, InformerStep.event?, List.filterMap_map]

/-- Whoever does not look at the signal sees of the steps that news lead to only their handling. -/
theorem filterMap_stepsOn {β : Type} {seen? : InformerStep α → Option β} (unseen : seen? .synced = none) :
    (stepsOn cache event).filterMap seen? = (handling cache event).filterMap seen? := by
  have told : (signal cache event).filterMap seen? = [] := by
    unfold signal
    split
    · exact List.filterMap_cons_none unseen
    · rfl
  rw [stepsOn, List.filterMap_append, told, List.append_nil]

theorem countP_isSynced_stepsOn :
    (stepsOn cache event).countP InformerStep.isSynced
      = if event.isListing && !cache.synced then 1 else 0 := by
  have told : (signal cache event).countP InformerStep.isSynced
      = if event.isListing && !cache.synced then 1 else 0 := by
    unfold signal
    split <;> rfl
  simp [stepsOn, handling, told, InformerStep.isSynced, List.countP_map]

theorem isFailed_of_mem_stepsOn {step : InformerStep α} (member : step ∈ stepsOn cache event) :
    step.isFailed = false := by
  cases step with
  | failed => simp [stepsOn, handling, signal] at member
  | _ => rfl

/-- **The changes delivered in a course are those of its news, in order.** -/
theorem change?_course (arrivals : List (Arrival α)) :
    (course cache arrivals).filterMap InformerStep.change?
      = (cache.run (arrivals.filterMap Arrival.event?)).1 := by
  induction arrivals generalizing cache with
  | nil => rfl
  | cons arrival rest ih =>
    cases arrival with
    | failure => exact ih cache
    | news event =>
      rw [course, List.filterMap_append, filterMap_stepsOn cache event rfl, change?_handling, ih]
      rfl

/-- The news taken in a course are those that arrive, in order. -/
theorem event?_course (arrivals : List (Arrival α)) :
    (course cache arrivals).filterMap InformerStep.event? = arrivals.filterMap Arrival.event? := by
  induction arrivals generalizing cache with
  | nil => rfl
  | cons arrival rest ih =>
    cases arrival with
    | failure => exact ih cache
    | news event =>
      rw [course, List.filterMap_append, filterMap_stepsOn cache event rfl, event?_handling, ih]
      rfl

/-- The first listing is told of once, and nothing is told without one or of a later one. -/
theorem countP_isSynced_course (arrivals : List (Arrival α)) :
    (course cache arrivals).countP InformerStep.isSynced
      = if !cache.synced && (arrivals.filterMap Arrival.event?).any ObjectEvent.isListing
          then 1 else 0 := by
  induction arrivals generalizing cache with
  | nil => simp [course]
  | cons arrival rest ih =>
    cases arrival with
    | failure => exact ih cache
    | news event =>
      have listed : ((Arrival.news event :: rest).filterMap Arrival.event?).any ObjectEvent.isListing
          = (event.isListing || (rest.filterMap Arrival.event?).any ObjectEvent.isListing) := rfl
      rw [course, List.countP_append, countP_isSynced_stepsOn, ih, Cache.synced_apply, listed]
      cases cache.synced <;> cases event.isListing <;> simp

/-- **Without its failures a course is that of the news alone.** -/
theorem filter_course (arrivals : List (Arrival α)) :
    (course cache arrivals).filter (fun step => !step.isFailed)
      = course cache ((arrivals.filterMap Arrival.event?).map .news) := by
  induction arrivals generalizing cache with
  | nil => rfl
  | cons arrival rest ih =>
    cases arrival with
    | failure => exact ih cache
    | news event =>
      have kept : (stepsOn cache event).filter (fun step => !step.isFailed) = stepsOn cache event :=
        List.filter_eq_self.mpr fun step member => by
          rw [isFailed_of_mem_stepsOn cache event member]
          rfl
      rw [course, List.filter_append, kept, ih]
      rfl

theorem failures_course (arrivals : List (Arrival α)) :
    failures (course cache arrivals) = arrivals.countP Arrival.isFailure := by
  induction arrivals generalizing cache with
  | nil => rfl
  | cons arrival rest ih =>
    cases arrival with
    | failure =>
      rw [course, failures, List.countP_cons_of_pos rfl, List.countP_cons_of_pos rfl, ← failures, ih]
    | news event =>
      have none : failures (stepsOn cache event) = 0 :=
        List.countP_eq_zero.mpr fun step member => by
          rw [isFailed_of_mem_stepsOn cache event member]
          exact Bool.false_ne_true
      rw [course, failures, List.countP_append, ← failures, ← failures, none, ih, Nat.zero_add,
        List.countP_cons_of_neg Bool.false_ne_true]

end Holds

/-- The first listing is told of right after its changes are delivered. -/
theorem course_listing (cache : Cache α) (unsynced : cache.synced = false)
    (before after : List (Arrival α)) (objects : List α)
    (first : (before.filterMap Arrival.event?).any ObjectEvent.isListing = false) :
    course cache (before ++ .news (.listing objects) :: after)
      = (course cache before
            ++ handling (cache.run (before.filterMap Arrival.event?)).2 (.listing objects))
          ++ .synced
            :: course (cache.run (before.filterMap Arrival.event? ++ [.listing objects])).2 after := by
  have still : (cache.run (before.filterMap Arrival.event?)).2.synced = false := by
    rw [Cache.synced_run, unsynced, first, Bool.or_false]
  have told : signal (cache.run (before.filterMap Arrival.event?)).2 (.listing objects)
      = [.synced] := by
    simp [signal, still, ObjectEvent.isListing]
  rw [course_append, course, stepsOn, told, Cache.run_concat]
  simp

/-- **The signal parts a course behind the changes of the first listing.** -/
theorem exists_signal (cache : Cache α) (unsynced : cache.synced = false) {arrivals : List (Arrival α)}
    {before after : List (ObjectEvent α)} {objects : List α}
    (parted : arrivals.filterMap Arrival.event? = before ++ .listing objects :: after)
    (first : before.any ObjectEvent.isListing = false) :
    ∃ early late, course cache arrivals = early ++ .synced :: late
      ∧ early.filterMap InformerStep.event? = before ++ [.listing objects]
      ∧ early.filterMap InformerStep.change? = (cache.run (before ++ [.listing objects])).1
      ∧ late.filterMap InformerStep.event? = after
      ∧ late.filterMap InformerStep.change?
          = ((cache.run (before ++ [.listing objects])).2.run after).1 := by
  obtain ⟨front, back, rfl, rfl, rfl⟩ := Arrival.exists_parted parted
  refine ⟨_, _, course_listing cache unsynced front back objects first, ?_, ?_, ?_, ?_⟩
  · rw [List.filterMap_append, event?_course, event?_handling]
  · rw [List.filterMap_append, change?_course, change?_handling, Cache.run_concat]
  · exact event?_course _ back
  · exact change?_course _ back

/-! ### The whole run -/

theorem run_start (arrivals : List (Arrival α)) :
    (start arrivals false).run
      = (course .empty arrivals,
          between ((Cache.empty : Cache α).run (arrivals.filterMap Arrival.event?)).2 []) :=
  run_between .empty arrivals

/-- **An informer that nobody cancels delivers all changes in order, tells of the first listing once and
in its place, and is not disturbed by failures.** It takes everything that arrives; the changes delivered
and the cache at the end are those of the news, applied one after another. It tells of the first listing
exactly if there is one, and then once: with all of the listing's changes delivered, and nothing taken
after the listing. Another stream of the same news, with failures in other places, leads to the same steps
up to the failures, of which there are as many as arrive. -/
theorem delivers_all_and_signals_once (arrivals : List (Arrival α)) :
    let steps := (start arrivals false).run.1
    let last := (start arrivals false).run.2
    let events := arrivals.filterMap Arrival.event?
    (last.incoming = [] ∧ steps.filterMap InformerStep.event? = events
      ∧ steps.filterMap InformerStep.change? = (Cache.empty.run events).1
      ∧ last.cache = (Cache.empty.run events).2)
    ∧ (steps.countP InformerStep.isSynced = if events.any ObjectEvent.isListing then 1 else 0)
    ∧ (∀ before objects after, events = before ++ .listing objects :: after →
        before.any ObjectEvent.isListing = false →
        ∃ early late, steps = early ++ .synced :: late
          ∧ early.filterMap InformerStep.event? = before ++ [.listing objects]
          ∧ early.filterMap InformerStep.change? = (Cache.empty.run (before ++ [.listing objects])).1
          ∧ late.filterMap InformerStep.event? = after
          ∧ late.filterMap InformerStep.change?
              = ((Cache.empty.run (before ++ [.listing objects])).2.run after).1)
    ∧ failures steps = arrivals.countP Arrival.isFailure
    ∧ ∀ other : List (Arrival α), other.filterMap Arrival.event? = events →
        (start other false).run.1.filter (fun step => !step.isFailed)
            = steps.filter (fun step => !step.isFailed)
          ∧ (start other false).run.2 = last := by
  intro steps last events
  have ran : steps = course .empty arrivals := congrArg Prod.fst (run_start arrivals)
  have ended : last = between ((Cache.empty : Cache α).run events).2 [] :=
    congrArg Prod.snd (run_start arrivals)
  refine ⟨⟨?_, ?_, ?_, ?_⟩, ?_, ?_, ?_, ?_⟩
  case refine_1 => rw [ended]; rfl
  case refine_2 => rw [ran, event?_course]
  case refine_3 => rw [ran, change?_course]
  case refine_4 => rw [ended]; rfl
  case refine_5 => rw [ran, countP_isSynced_course]; rfl
  case refine_6 =>
    intro before objects after parted first
    rw [ran]
    exact exists_signal .empty rfl parted first
  case refine_7 => rw [ran, failures_course]
  case refine_8 =>
    intro other same
    rw [run_start, same, filter_course, ran, filter_course, same]
    exact ⟨rfl, ended.symm⟩

/-- An object is seen, listed in a new version and deleted, with a failure before the first and the
second of these. -/
theorem delivers_all_and_signals_once_with_failures :
    let ingress (version : String) : Ingress :=
      ⟨⟨some "shop", none, some "web", some version, .empty⟩, [some "shop.local"], []⟩
    let news : List (ObjectEvent Ingress) :=
      [.current (ingress "1"), .listing [ingress "2"], .deleted (ingress "2")]
    let arrivals : List (Arrival Ingress) :=
      [.failure, .news (.current (ingress "1")), .failure, .news (.listing [ingress "2"]),
        .news (.deleted (ingress "2"))]
    let steps := (start arrivals false).run.1
    (steps.filterMap InformerStep.change?).map Change.kind = ["added", "updated", "removed"]
      ∧ steps.countP InformerStep.isSynced = 1 ∧ failures steps = 2
      ∧ (∃ early late, steps = early ++ .synced :: late
        ∧ (early.filterMap InformerStep.change?).map Change.kind = ["added", "updated"]
        ∧ (late.filterMap InformerStep.change?).map Change.kind = ["removed"])
      ∧ (start (news.map .news) false).run.1.filter (fun step => !step.isFailed)
        = steps.filter (fun step => !step.isFailed) := by
  intro ingress news arrivals steps
  obtain ⟨⟨_, _, delivered, _⟩, told, place, failed, undisturbed⟩ :=
    delivers_all_and_signals_once arrivals
  obtain ⟨early, late, parted, _, deliveredEarly, _, deliveredLate⟩ :=
    place [.current (ingress "1")] [ingress "2"] [.deleted (ingress "2")] rfl rfl
  refine ⟨?_, told, failed, ⟨early, late, parted, ?_, ?_⟩, (undisturbed (news.map .news) rfl).1⟩
  · rw [delivered]
    decide +kernel
  · rw [deliveredEarly]
    decide +kernel
  · rw [deliveredLate]
    decide +kernel

end Informer

end ClusterMdns
