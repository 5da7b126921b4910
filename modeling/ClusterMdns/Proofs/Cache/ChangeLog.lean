import ClusterMdns.Cluster.Ingress
import ClusterMdns.Proofs.Cache.PerKey
import Mathlib.Data.List.Sort

/-!
The changes that news amount to, as a log of the cache. Replaying them rebuilds the cache up to states
of one version, and each key goes through a life of its own in them.

`Life key events phase` says that the changes about a key that events amount to, one after another, are
turns from `unseen` to `present` and back and lead to a phase. It grows at its end with each event,
which either leaves the key alone or amounts to exactly one change about it, and that change is a
`Turn`: the old state of an update and the state removed from a present key are what was given last
before (`lastGiven?`), and only the removal of an object unknown shows the object of the event.

* `get?_replay`: what a replay leaves under a key is what the last change about the key leaves.
* `ObjectEvent.effect`: what an event may do to a key, in four cases (`Effect`). What follows goes through
  them: `Effect.given_last`, what is known was given last; `Effect.life`, an event takes the life of a key
  one turn further or leaves it; `Effect.version`, a replay keeps to the versions known.
* `Cache.log_follows_objects`: the replay, the lives and the number of changes about a key, for any
  events.
-/

namespace ClusterMdns

variable {α : Type} [HasMetadata α]

/-! ### Runs -/

/-- The changes that events amount to one after another, and the cache after them. -/
def Cache.run : Cache α → List (ObjectEvent α) → List (Change α) × Cache α
  | cache, [] => ([], cache)
  | cache, event :: rest =>
    let (changes, next) := cache.apply event
    let (later, last) := next.run rest
    (changes ++ later, last)

theorem Cache.run_concat (cache : Cache α) (events : List (ObjectEvent α)) (event : ObjectEvent α) :
    cache.run (events ++ [event])
      = ((cache.run events).1 ++ ((cache.run events).2.apply event).1,
          ((cache.run events).2.apply event).2) := by
  induction events generalizing cache with
  | nil => simp [run]
  | cons first rest ih => simp [run, ih]

/-- Every object that a cache has come to know is known under its own key. -/
theorem Cache.keyed_run (events : List (ObjectEvent α)) :
    Keyed ((empty : Cache α).run events).2.objects := by
  induction events using List.reverseRecOn with
  | nil => exact keyed_empty
  | append_singleton events event ih =>
    rw [run_concat]
    exact ih.apply event

/-! ### Replaying changes -/

namespace Change

/-- What a change leaves under its key. -/
def result : Change α → Option α
  | added object => some object
  | updated _ new => some new
  | removed _ => none

/-- A map in which a change has been made. -/
def redo (objects : TextMap α) (change : Change α) : TextMap α :=
  match change with
  | added object => objects.insert change.key object
  | updated _ new => objects.insert change.key new
  | removed _ => objects.erase change.key

/-- The map that changes build up from nothing. -/
def replay (changes : List (Change α)) : TextMap α := changes.foldl redo .empty

theorem get?_redo (objects : TextMap α) (change : Change α) (key : String) :
    (redo objects change).get? key
      = if change.key = key then change.result else objects.get? key := by
  cases change with
  | added object => exact objects.get?_insert _ object key
  | updated old new => exact objects.get?_insert _ new key
  | removed object => exact objects.get?_erase _ key

/-- **What a replay leaves under a key is what the last change about the key leaves.** -/
theorem get?_replay (changes : List (Change α)) (key : String) :
    (replay changes).get? key
      = (changes.filter fun change => change.key == key).getLast?.bind result := by
  induction changes using List.reverseRecOn with
  | nil => rfl
  | append_singleton changes last ih =>
    rw [replay, List.foldl_append, List.foldl_cons, List.foldl_nil, get?_redo, ← replay, ih,
      List.filter_append]
    by_cases here : last.key = key
    · simp [here]
    · simp [here]

/-- What a replay leaves under a key after further changes, of which at most one is about the
key. -/
theorem get?_replay_append (changes more : List (Change α)) (key : String)
    (change? : Option (Change α))
    (atKey : more.filter (fun change => change.key == key) = change?.toList) :
    (replay (changes ++ more)).get? key
      = (change?.map result).getD ((replay changes).get? key) := by
  rw [get?_replay, get?_replay, List.filter_append, atKey]
  cases change? with
  | none => simp
  | some change => simp

end Change

/-! ### What was given last -/

theorem Effect.given_last {key : String} {events : List (ObjectEvent α)} {event : ObjectEvent α}
    {known after : Option α} {change? : Option (Change α)}
    (effect : Effect key event known after change?)
    (knownLast : ∀ old, known = some old → lastGiven? key events = some old) {object : α}
    (held : after = some object) : lastGiven? key (events ++ [event]) = some object := by
  rw [lastGiven?_concat]
  cases effect with
  | untouched notGiven => rw [notGiven, Option.none_or, knownLast object held]
  | arrives given => rw [given, held, Option.some_or]
  | goes => cases held
  | unknown => cases held

/-- **What is known under a key was given last.** -/
theorem lastGiven?_of_known (events : List (ObjectEvent α)) {key : String} {object : α}
    (known : ((Cache.empty : Cache α).run events).2.objects.get? key = some object) :
    lastGiven? key events = some object := by
  induction events using List.reverseRecOn generalizing object with
  | nil => cases known
  | append_singleton events event ih =>
    rw [Cache.run_concat, Cache.get?_apply] at known
    exact (event.effect key _).given_last (fun _ held => ih held) known

/-! ### The life of a key -/

/-- Where a key stands in the changes about it. -/
inductive Phase where
  | unseen
  | present
deriving DecidableEq, Repr

def Phase.of {β : Type} : Option β → Phase
  | none => unseen
  | some _ => present

/-- The steps that a change about a key may be. `last` was given last for the key before the event that
amounts to the change, and `now` with the event. -/
inductive Turn (event : ObjectEvent α) (last now : Option α) : Phase → Change α → Phase → Prop
  | added {object : α} (given : now = some object) :
      Turn event last now .unseen (.added object) .present
  | updated {old new : α} (replaced : last = some old) (given : now = some new) :
      Turn event last now .present (.updated old new) .present
  | removed {object : α} (held : last = some object) :
      Turn event last now .present (.removed object) .unseen
  | unknown {object : α} (payload : event = .deleted object) :
      Turn event last now .unseen (.removed object) .unseen

/-- The changes about a key that an event amounts to after others. -/
def changesAt (key : String) (before : List (ObjectEvent α)) (event : ObjectEvent α) :
    List (Change α) :=
  (((Cache.empty : Cache α).run before).2.apply event).1.filter fun change => change.key == key

/-- The changes about a key that events amount to lead from `unseen` to a phase, turn by turn. -/
inductive Life (key : String) : List (ObjectEvent α) → Phase → Prop
  | start : Life key [] .unseen
  | silent {events : List (ObjectEvent α)} {event : ObjectEvent α} {phase : Phase}
      (before : Life key events phase) (nothing : changesAt key events event = []) :
      Life key (events ++ [event]) phase
  | change {events : List (ObjectEvent α)} {event : ObjectEvent α} {phase next : Phase}
      {change : Change α} (before : Life key events phase)
      (once : changesAt key events event = [change])
      (turn : Turn event (lastGiven? key events) (lastGiven? key (events ++ [event])) phase change
        next) :
      Life key (events ++ [event]) next

section Life

variable {key : String} {events : List (ObjectEvent α)} {event : ObjectEvent α}
  {known after : Option α} {change? : Option (Change α)}

/-- An object that arrives takes the life of its key one turn further, or leaves it. -/
theorem Life.arrival (life : Life key events (.of known)) {object : α}
    (knownLast : ∀ old, known = some old → lastGiven? key events = some old)
    (given : lastGiven? key (events ++ [event]) = some object)
    (atKey : changesAt key events event = (Cache.arrival known object).toList) :
    Life key (events ++ [event]) .present := by
  cases known with
  | none => exact life.change atKey (.added given)
  | some old =>
    by_cases same : Cache.sameVersion old object = true
    · exact life.silent (by rw [atKey, Cache.arrival, if_pos same, Option.toList_none])
    · refine life.change ?_ (.updated (knownLast old rfl) given)
      rw [atKey, Cache.arrival, if_neg same, Option.toList_some]

/-- **An event takes the life of a key one turn further, or leaves it.** -/
theorem Effect.life (effect : Effect key event known after change?)
    (life : Life key events (.of known))
    (knownLast : ∀ old, known = some old → lastGiven? key events = some old)
    (atKey : changesAt key events event = change?.toList) :
    Life key (events ++ [event]) (.of after) := by
  cases effect with
  | untouched => exact life.silent atKey
  | arrives given =>
    refine life.arrival knownLast ?_ atKey
    rw [lastGiven?_concat, given, Option.some_or]
  | goes held =>
    subst held
    exact life.change atKey (.removed (knownLast _ rfl))
  | unknown missing payload =>
    subst missing
    exact life.change atKey (.unknown payload)

end Life

/-- The changes about a key that an event amounts to depend on what is known under the key. -/
theorem changesAt_eq (key : String) (before : List (ObjectEvent α)) (event : ObjectEvent α) :
    changesAt key before event
      = (event.change? key (((Cache.empty : Cache α).run before).2.objects.get? key)).toList :=
  Cache.changes_at_key (Cache.keyed_run before) event key

/-- The changes about a key lead to the phase that the cache shows. -/
theorem life_run (events : List (ObjectEvent α)) (key : String) :
    Life key events (.of (((Cache.empty : Cache α).run events).2.objects.get? key)) := by
  induction events using List.reverseRecOn with
  | nil => exact .start
  | append_singleton events event ih =>
    rw [Cache.run_concat, Cache.get?_apply]
    exact (event.effect key _).life ih (fun _ => lastGiven?_of_known events)
      (changesAt_eq key events event)

/-! ### The replay against the cache -/

/-- An event takes what is known and what a replay holds under a key to states of one version, if they
were before. -/
theorem Effect.version {key : String} {event : ObjectEvent α} {known after replayed : Option α}
    {change? : Option (Change α)} (effect : Effect key event known after change?)
    (agree : replayed.map Cache.versionOf = known.map Cache.versionOf) :
    ((change?.map Change.result).getD replayed).map Cache.versionOf
      = after.map Cache.versionOf := by
  cases effect with
  | untouched => exact agree
  | @arrives object =>
    cases known with
    | none => rfl
    | some old =>
      by_cases same : Cache.sameVersion old object = true
      · -- No change: the replay keeps the older state, in the version of the new one.
        rw [Cache.arrival, if_pos same, Option.map_none, Option.getD_none, agree]
        simp only [Cache.sameVersion, Bool.and_eq_true, beq_iff_eq] at same
        rw [Option.map_some, Option.map_some, same.2]
      · rw [Cache.arrival, if_neg same]
        rfl
  | goes => rfl
  | unknown => rfl

/-- A replay holds a state of the version that is known, under each key. -/
theorem version_replay (events : List (ObjectEvent α)) (key : String) :
    ((Change.replay ((Cache.empty : Cache α).run events).1).get? key).map Cache.versionOf
      = (((Cache.empty : Cache α).run events).2.objects.get? key).map Cache.versionOf := by
  induction events using List.reverseRecOn with
  | nil => rfl
  | append_singleton events event ih =>
    rw [Cache.run_concat, Cache.get?_apply,
      Change.get?_replay_append _ _ key _ (changesAt_eq key events event)]
    exact (event.effect key _).version ih

/-- Maps that have values under the same keys list the same keys. -/
theorem TextMap.keys_congr {β γ : Type} {first : TextMap β} {second : TextMap γ}
    (agree : ∀ key, first.contains key = second.contains key) : first.keys = second.keys := by
  have increasing : ∀ {δ : Type} (map : TextMap δ), map.keys.Pairwise (· < ·) :=
    fun map => List.pairwise_map.mpr map.increasing
  refine (increasing first).eq_of_mem_iff (increasing second) fun key => ?_
  rw [mem_keys_iff, mem_keys_iff, agree]

/-- **The changes that news amount to are a faithful log of the cache.** Replayed from nothing they
build a map with the keys of the cache and a state of the known version under each of them. Each key
goes through a life from unseen to present and back that ends in the phase the cache shows, and no
event amounts to more than one change about a key. -/
theorem Cache.log_follows_objects (events : List (ObjectEvent α)) :
    let (changes, cache) := (Cache.empty : Cache α).run events
    (Change.replay changes).keys = cache.objects.keys ∧
      (∀ key, ((Change.replay changes).get? key).map Cache.versionOf
        = (cache.objects.get? key).map Cache.versionOf) ∧
      (∀ key, Life key events (.of (cache.objects.get? key))) ∧
      ∀ key before event after, events = before ++ event :: after →
        (changesAt key before event).length ≤ 1 := by
  refine ⟨TextMap.keys_congr fun key => ?_, version_replay events, life_run events, ?_⟩
  · have shown := congrArg Option.isSome (version_replay events key)
    rwa [Option.isSome_map, Option.isSome_map] at shown
  · rintro key before event after -
    rw [changesAt_eq]
    exact Option.length_toList_le

/-- A state in the version already known takes the place of the one held, but is not in the log. -/
example :
    let ingress (host : String) : Ingress :=
      ⟨⟨some "shop", none, some "web", some "1", .empty⟩, [some host], []⟩
    let (changes, cache) := (Cache.empty : Cache Ingress).run
      [.current (ingress "old.local"), .listing [ingress "new.local"]]
    ((Change.replay changes).get? "web/shop").map (·.hosts) = some [some "old.local"] ∧
      (cache.objects.get? "web/shop").map (·.hosts) = some [some "new.local"] := by
  decide +kernel

end ClusterMdns
