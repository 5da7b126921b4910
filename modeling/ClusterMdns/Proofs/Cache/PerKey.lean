import ClusterMdns.Cache
import Mathlib.Data.List.Basic
import Mathlib.Data.List.Induction
import Mathlib.Data.List.Nodup

/-!
A cache key by key. What news do to one key depends on nothing but the news and what was known under
that key.

* `get?_apply`: what is known under a key after news, as a function of what was known.
* `changes_at_key`: of the changes that news amount to, at most one is about a key, and which one it
  is depends on what was known under it.
* `get?_byKey`: of several listed objects with one key the last counts.
* `ObjectEvent.effect`: what an event may do to a key, in four cases (`Effect`).
-/

namespace ClusterMdns

variable {α : Type} [HasMetadata α]

namespace ObjectEvent

/-- The objects that news are about. -/
def objects : ObjectEvent α → List α
  | current object => [object]
  | deleted object => [object]
  | listing objects => objects

/-- What is known under a key after news, given what was known. -/
def known (key : String) (before : Option α) : ObjectEvent α → Option α
  | current object => if Cache.keyOf object = key then some object else before
  | deleted object => if Cache.keyOf object = key then none else before
  | listing objects => (Cache.byKey objects).get? key

/-- The change under a key that news amount to, given what was known. -/
def change? (key : String) (before : Option α) : ObjectEvent α → Option (Change α)
  | current object => if Cache.keyOf object = key then Cache.arrival before object else none
  | deleted object =>
    if Cache.keyOf object = key then some (.removed (before.getD object)) else none
  | listing objects =>
    match (Cache.byKey objects).get? key with
    | some object => Cache.arrival before object
    | none => before.map .removed

end ObjectEvent

namespace Cache

/-! ### Objects under their keys -/

/-- Every object is known under its own key. -/
def Keyed (objects : TextMap α) : Prop :=
  ∀ key object, objects.get? key = some object → keyOf object = key

theorem keyed_empty : Keyed (TextMap.empty : TextMap α) := nofun

theorem Keyed.keep {objects : TextMap α} (keyed : Keyed objects) (object : α) :
    Keyed (keep objects object) := by
  intro key known found
  rw [get?_keep] at found
  split at found
  case isTrue here =>
    cases found
    exact here
  case isFalse => exact keyed key known found

theorem Keyed.erase {objects : TextMap α} (keyed : Keyed objects) (key : String) :
    Keyed (objects.erase key) := by
  intro other known found
  rw [TextMap.get?_erase] at found
  split at found
  · cases found
  · exact keyed other known found

theorem byKey_append (objects : List α) (last : α) :
    byKey (objects ++ [last]) = keep (byKey objects) last := by
  rw [byKey, TextMap.ofList, List.map_append, List.foldl_append]
  rfl

/-- **Of several listed objects with one key the last counts.** -/
theorem get?_byKey (objects : List α) (key : String) :
    (byKey objects).get? key = (objects.filter fun object => keyOf object == key).getLast? := by
  induction objects using List.reverseRecOn with
  | nil => rfl
  | append_singleton objects last ih =>
    rw [byKey_append, get?_keep, ih]
    by_cases here : keyOf last = key
    · simp [here]
    · simp [here]

theorem mem_of_get?_byKey {objects : List α} {key : String} {object : α}
    (found : (byKey objects).get? key = some object) : object ∈ objects ∧ keyOf object = key := by
  rw [get?_byKey] at found
  obtain ⟨member, here⟩ := List.mem_filter.mp (List.mem_of_getLast? found)
  exact ⟨member, beq_iff_eq.mp here⟩

theorem keyed_byKey (objects : List α) : Keyed (byKey objects) :=
  fun _ _ found => (mem_of_get?_byKey found).2

theorem Keyed.apply {cache : Cache α} (keyed : Keyed cache.objects) (event : ObjectEvent α) :
    Keyed (cache.apply event).2.objects := by
  cases event with
  | current object => exact keyed.keep object
  | deleted object => exact keyed.erase (keyOf object)
  | listing objects => exact keyed_byKey objects

/-- The key of an entry is that of its object. -/
theorem Keyed.entry {objects : TextMap α} (keyed : Keyed objects) {entry : String × α}
    (member : entry ∈ objects.entries) : keyOf entry.2 = entry.1 :=
  keyed entry.1 entry.2 ((objects.mem_entries_iff entry.1 entry.2).mp member)

/-- Listed objects with different keys are found under their keys. -/
theorem get?_byKey_iff {objects : List α} (distinct : (objects.map keyOf).Nodup) (key : String)
    (object : α) : (byKey objects).get? key = some object ↔ object ∈ objects ∧ keyOf object = key := by
  constructor
  · exact mem_of_get?_byKey
  · rintro ⟨member, rfl⟩
    have present : object ∈ objects.filter fun other => keyOf other == keyOf object :=
      List.mem_filter.mpr ⟨member, beq_self_eq_true _⟩
    rw [get?_byKey, List.getLast?_eq_some_getLast (List.ne_nil_of_mem present), Option.some.injEq]
    obtain ⟨last, same⟩ := List.mem_filter.mp (List.getLast_mem (List.ne_nil_of_mem present))
    exact List.inj_on_of_nodup_map distinct last member (beq_iff_eq.mp same)

/-- The objects of a cache, listed, are known under the same keys again. -/
theorem get?_byKey_values {objects : TextMap α} (keyed : Keyed objects) (key : String) :
    (byKey (objects.entries.map Prod.snd)).get? key = objects.get? key := by
  have own : ∀ entry ∈ objects.entries, (keyOf entry.2 == key) = (entry.1 == key) :=
    fun entry member => by rw [keyed.entry member]
  rw [get?_byKey, List.filter_map, Function.comp_def, List.filter_congr own,
    TextMap.filter_entries]
  cases objects.get? key <;> rfl

/-- To a cache that knows of nothing every listed object is new. -/
theorem changes_of_empty (objects : List α) :
    ((empty : Cache α).apply (.listing objects)).1
      = (byKey objects).entries.map fun entry => .added entry.2 := by
  simp only [apply, empty, TextMap.empty, List.filter_nil, List.map_nil, List.nil_append, arrivals,
    List.filterMap_map]
  exact congrFun (List.filterMap_eq_map (f := fun entry : String × α => Change.added entry.2)) _

/-! ### News key by key -/

/-- **What is known under a key after news depends on what was known under it.** -/
theorem get?_apply (cache : Cache α) (event : ObjectEvent α) (key : String) :
    (cache.apply event).2.objects.get? key = event.known key (cache.objects.get? key) := by
  cases event with
  | current object => exact get?_keep cache.objects object key
  | deleted object => exact cache.objects.get?_erase (keyOf object) key
  | listing objects => rfl

theorem key_of_arrival {before : Option α} {object : α} {change : Change α}
    (arrives : arrival before object = some change) : change.key = keyOf object := by
  unfold arrival at arrives
  split at arrives
  · cases arrives
    rfl
  · split at arrives
    · cases arrives
    · cases arrives
      rfl

/-- An arrival is about a key exactly if its object has the key. -/
theorem filter_arrival (before : Option α) (object : α) (key : String) :
    (arrival before object).filter (fun change => change.key == key)
      = if keyOf object = key then arrival before object else none := by
  cases arrives : arrival before object with
  | none => simp
  | some change => simp [Option.filter, key_of_arrival arrives]

/-- The removals under a key are those of the one object known under it. -/
theorem filter_removals {objects : TextMap α} (keyed : Keyed objects) (goes : String → Bool)
    (key : String) :
    ((objects.entries.filter fun entry => goes entry.1).map fun entry =>
        Change.removed entry.2).filter (fun change => change.key == key)
      = if goes key then ((objects.get? key).map .removed).toList else [] := by
  have own : ∀ entry ∈ objects.entries.filter fun entry => goes entry.1,
      ((Change.removed entry.2).key == key) = (entry.1 == key) := by
    intro entry member
    rw [Change.key, keyed.entry (List.mem_of_mem_filter member)]
  rw [List.filter_map, Function.comp_def, List.filter_congr own, List.filter_filter]
  have swapped : (objects.entries.filter fun entry => entry.1 == key && goes entry.1)
      = (objects.entries.filter fun entry => entry.1 == key).filter fun entry => goes entry.1 := by
    rw [List.filter_filter]
    exact List.filter_congr fun entry _ => Bool.and_comm _ _
  rw [swapped, TextMap.filter_entries]
  cases objects.get? key with
  | none => simp
  | some object => by_cases here : goes key = true <;> simp [here]

/-- The arrivals under a key are those of the one object listed under it. -/
theorem filter_arrivals {listed : TextMap α} (keyed : Keyed listed) (before : TextMap α)
    (key : String) :
    (arrivals before (listed.entries.map Prod.snd)).filter (fun change => change.key == key)
      = ((listed.get? key).bind (arrival (before.get? key))).toList := by
  have own : ∀ entry ∈ listed.entries,
      (arrival (before.get? (keyOf entry.2)) entry.2).filter (fun change => change.key == key)
        = if entry.1 == key then arrival (before.get? key) entry.2 else none := by
    intro entry member
    rw [filter_arrival, keyed.entry member]
    by_cases here : entry.1 = key
    · simp [here]
    · simp [here]
  have onlyKey : (listed.entries.filterMap fun entry =>
        if entry.1 == key then arrival (before.get? key) entry.2 else none)
      = (listed.entries.filter fun entry => entry.1 == key).filterMap fun entry =>
          arrival (before.get? key) entry.2 :=
    (List.filterMap_filter).symm
  rw [arrivals, List.filterMap_map, List.filter_filterMap]
  simp only [Function.comp_def]
  rw [List.filterMap_congr own, onlyKey, TextMap.filter_entries]
  cases listed.get? key with
  | none => rfl
  | some object =>
    cases arrives : arrival (before.get? key) object <;> simp [arrives]

/-- **Of the changes that news amount to at most one is about a key**, and it depends on what was
known under that key. -/
theorem changes_at_key {cache : Cache α} (keyed : Keyed cache.objects) (event : ObjectEvent α)
    (key : String) :
    (cache.apply event).1.filter (fun change => change.key == key)
      = (event.change? key (cache.objects.get? key)).toList := by
  cases event with
  | current object =>
    simp only [apply, ObjectEvent.change?]
    by_cases here : keyOf object = key
    · rw [if_pos here, here]
      refine List.filter_eq_self.mpr fun change member => ?_
      rw [key_of_arrival (Option.mem_toList.mp member), here, beq_self_eq_true]
    · rw [if_neg here]
      refine List.filter_eq_nil_iff.mpr fun change member same => here ?_
      rw [← key_of_arrival (Option.mem_toList.mp member)]
      exact beq_iff_eq.mp same
  | deleted object =>
    have own : keyOf ((cache.objects.get? (keyOf object)).getD object) = keyOf object := by
      cases found : cache.objects.get? (keyOf object) with
      | none => rfl
      | some known => exact keyed _ known found
    simp only [apply, ObjectEvent.change?]
    by_cases here : keyOf object = key
    · subst here
      simp [Change.key, own]
    · simp [Change.key, own, here]
  | listing objects =>
    simp only [apply, ObjectEvent.change?]
    rw [List.filter_append, filter_arrivals (keyed_byKey objects),
      filter_removals keyed (fun key => !(byKey objects).contains key), TextMap.contains]
    cases (byKey objects).get? key with
    | none => simp
    | some object => simp

end Cache

/-! ### What was given last -/

/-- The last object that events give for a key. -/
def lastGiven? (key : String) (events : List (ObjectEvent α)) : Option α :=
  ((events.flatMap (·.objects)).filter fun object => Cache.keyOf object == key).getLast?

theorem lastGiven?_concat (key : String) (events : List (ObjectEvent α)) (event : ObjectEvent α) :
    lastGiven? key (events ++ [event]) = (lastGiven? key [event]).or (lastGiven? key events) := by
  rw [lastGiven?, List.flatMap_append, List.filter_append, List.getLast?_append]
  rfl

theorem lastGiven?_current (key : String) (object : α) :
    lastGiven? key [.current object] = if Cache.keyOf object = key then some object else none := by
  by_cases here : Cache.keyOf object = key
  · simp [lastGiven?, ObjectEvent.objects, here]
  · simp [lastGiven?, ObjectEvent.objects, here]

theorem lastGiven?_listing (key : String) (objects : List α) :
    lastGiven? key [.listing objects] = (Cache.byKey objects).get? key := by
  rw [Cache.get?_byKey]
  simp [lastGiven?, ObjectEvent.objects]

theorem mem_of_lastGiven? {key : String} {event : ObjectEvent α} {object : α}
    (given : lastGiven? key [event] = some object) :
    object ∈ event.objects ∧ Cache.keyOf object = key := by
  obtain ⟨member, here⟩ := List.mem_filter.mp (List.mem_of_getLast? given)
  rw [List.flatMap_singleton] at member
  exact ⟨member, beq_iff_eq.mp here⟩

/-! ### What one event does to a key -/

/-- What an event may do to a key, given what was known under it: what is known after it, and the change
under the key that it amounts to. -/
inductive Effect (key : String) (event : ObjectEvent α) (known : Option α) :
    Option α → Option (Change α) → Prop
  | untouched (notGiven : lastGiven? key [event] = none) : Effect key event known known none
  | arrives {object : α} (given : lastGiven? key [event] = some object) :
      Effect key event known (some object) (Cache.arrival known object)
  | goes {old : α} (held : known = some old) : Effect key event known none (some (.removed old))
  | unknown {object : α} (missing : known = none) (payload : event = .deleted object) :
      Effect key event known none (some (.removed object))

/-- **What an event may do to a key.** -/
theorem ObjectEvent.effect (event : ObjectEvent α) (key : String) (before : Option α) :
    Effect key event before (event.known key before) (event.change? key before) := by
  cases event with
  | current object =>
    simp only [ObjectEvent.known, change?]
    split
    case isTrue here => exact .arrives (by rw [lastGiven?_current, if_pos here])
    case isFalse other => exact .untouched (by rw [lastGiven?_current, if_neg other])
  | deleted object =>
    simp only [ObjectEvent.known, change?]
    split
    case isTrue =>
      cases before with
      | none => exact .unknown rfl rfl
      | some old => exact .goes rfl
    case isFalse other => exact .untouched (by simp [lastGiven?, objects, other])
  | listing objects =>
    simp only [ObjectEvent.known, change?]
    cases listed : (Cache.byKey objects).get? key with
    | some object => exact .arrives (by rw [lastGiven?_listing, listed])
    | none =>
      cases before with
      | none => exact .untouched (by rw [lastGiven?_listing, listed])
      | some old => exact .goes rfl

end ClusterMdns
