import ClusterMdns.Cluster.Ingress
import ClusterMdns.Proofs.Cache.PerKey
import Mathlib.Data.List.Sort

/-!
What a full listing amounts to, whatever was known before it.

Maps from texts are told by their look-ups (`TextMap.ext`), and so a listing is told by the last object
that it has under each key (`Cache.get?_byKey`). This is what is known afterwards, and the changes are a
map of removals and a map of arrivals, one after the other and each in the order of its keys.

* `Cache.apply_listing`: the removals and arrivals of a listing as maps.
* `Cache.byKey_congr`: of the order of a listing only that of objects with one key counts.
* `Cache.apply_listing_again`: a listing whose objects carry versions is no news when it is repeated.
* `Cache.listing_exact`: all of it together, key by key.
-/

namespace ClusterMdns

namespace TextMap

variable {β γ : Type}

/-- A map is told by its look-ups. -/
theorem ext {first second : TextMap β} (agree : ∀ key, first.get? key = second.get? key) :
    first = second := by
  have entries : first.entries = second.entries := by
    refine List.Pairwise.eq_of_mem_iff (r := fun one other => one.1 < other.1) first.increasing
      second.increasing fun entry => ?_
    rw [mem_entries_iff, mem_entries_iff, agree]
  cases first
  cases second
  cases entries
  rfl

/-- The map of what the entries of a map give, where they give something. -/
def collect (give : String → β → Option γ) (map : TextMap β) : TextMap γ where
  entries := map.entries.filterMap fun entry => (give entry.1 entry.2).map (entry.1, ·)
  increasing := by
    refine List.Pairwise.filterMap _ ?_ map.increasing
    intro first second before one isOne other isOther
    obtain ⟨_, _, rfl⟩ := Option.map_eq_some_iff.mp isOne
    obtain ⟨_, _, rfl⟩ := Option.map_eq_some_iff.mp isOther
    exact before

theorem get?_collect (give : String → β → Option γ) (map : TextMap β) (key : String) :
    (map.collect give).get? key = (map.get? key).bind (give key) := by
  refine Option.ext fun value => ?_
  rw [← mem_entries_iff, Option.bind_eq_some_iff]
  unfold collect
  rw [List.mem_filterMap]
  constructor
  · rintro ⟨⟨own, held⟩, member, gives⟩
    obtain ⟨given, isGiven, same⟩ := Option.map_eq_some_iff.mp gives
    cases same
    exact ⟨held, (map.mem_entries_iff own held).mp member, isGiven⟩
  · rintro ⟨held, found, gives⟩
    exact ⟨(key, held), (map.mem_entries_iff key held).mpr found, by rw [gives, Option.map_some]⟩

theorem values_collect (give : String → β → Option γ) (map : TextMap β) :
    (map.collect give).entries.map Prod.snd
      = map.entries.filterMap fun entry => give entry.1 entry.2 := by
  unfold collect
  rw [List.map_filterMap]
  refine List.filterMap_congr fun entry _ => ?_
  cases give entry.1 entry.2 <;> rfl

end TextMap

namespace Cache

variable {α : Type} [HasMetadata α]

/-! ### Listings with the same objects under each key -/

/-- The last of the objects with a key. -/
def lastWith? (key : String) (objects : List α) : Option α :=
  (objects.filter fun object => keyOf object == key).getLast?

/-- Whether a listing has the objects of another, those of each key in the same order. -/
structure Rearranged (first second : List α) : Prop where
  permuted : first.Perm second
  inOrder : ∀ key, (first.filter fun object => keyOf object == key)
    = second.filter fun object => keyOf object == key

/-- Only the keys that are listed have to be looked at. -/
theorem Rearranged.of_listed {first second : List α} (permuted : first.Perm second)
    (inOrder : ∀ listed ∈ first, (first.filter fun object => keyOf object == keyOf listed)
      = second.filter fun object => keyOf object == keyOf listed) : Rearranged first second := by
  refine ⟨permuted, fun key => ?_⟩
  by_cases found : ∃ listed ∈ first, keyOf listed = key
  · obtain ⟨listed, member, rfl⟩ := found
    exact inOrder listed member
  · have missing : ∀ object ∈ first, ¬(keyOf object == key) = true :=
      fun object member same => found ⟨object, member, beq_iff_eq.mp same⟩
    rw [List.filter_eq_nil_iff.mpr missing,
      List.filter_eq_nil_iff.mpr fun object member => missing object (permuted.mem_iff.mpr member)]

/-- **Of the order of a listing only that of objects with one key counts.** -/
theorem byKey_congr {first second : List α} (rearranged : Rearranged first second) :
    byKey first = byKey second := by
  refine TextMap.ext fun key => ?_
  rw [get?_byKey, get?_byKey, rearranged.inOrder]

/-- The keys known after a listing are those of its objects. -/
theorem contains_byKey_iff (objects : List α) (key : String) :
    (byKey objects).contains key = true ↔ key ∈ objects.map keyOf := by
  rw [TextMap.contains, get?_byKey, List.getLast?_isSome, Ne, List.filter_eq_nil_iff, List.mem_map]
  simp only [beq_iff_eq, not_forall, Decidable.not_not, exists_prop]

/-! ### The changes of a listing -/

/-- The removals of a listing: of everything known that it lacks. -/
def removals (known listed : TextMap α) : TextMap (Change α) :=
  known.collect fun key old => if listed.contains key then none else some (.removed old)

/-- The arrivals of a listing: of everything listed that is not known in its version. -/
def arrivalsOf (known listed : TextMap α) : TextMap (Change α) :=
  listed.collect fun key object => arrival (known.get? key) object

/-- **What a listing amounts to**: the removals and then the arrivals, each in the order of their keys. -/
theorem apply_listing (cache : Cache α) (objects : List α) :
    cache.apply (.listing objects)
      = ((removals cache.objects (byKey objects)).entries.map Prod.snd
          ++ (arrivalsOf cache.objects (byKey objects)).entries.map Prod.snd,
        ⟨byKey objects, true⟩) := by
  have gone : ((cache.objects.entries.filter fun entry => !(byKey objects).contains entry.1).map
        fun entry => Change.removed entry.2)
      = (removals cache.objects (byKey objects)).entries.map Prod.snd := by
    rw [removals, TextMap.values_collect, ← List.filterMap_eq_map, List.filterMap_filter]
    refine List.filterMap_congr fun entry _ => ?_
    cases (byKey objects).contains entry.1 <;> rfl
  have arrived : arrivals cache.objects ((byKey objects).entries.map Prod.snd)
      = (arrivalsOf cache.objects (byKey objects)).entries.map Prod.snd := by
    rw [arrivalsOf, TextMap.values_collect, arrivals, List.filterMap_map]
    refine List.filterMap_congr fun entry member => ?_
    rw [Function.comp_apply, (keyed_byKey objects).entry member]
  unfold apply
  dsimp only
  rw [gone, arrived]

theorem get?_removals (known : TextMap α) (objects : List α) (key : String) :
    (removals known (byKey objects)).get? key
      = if key ∈ objects.map keyOf then none else (known.get? key).map .removed := by
  have listed := contains_byKey_iff objects key
  rw [removals, TextMap.get?_collect]
  by_cases here : key ∈ objects.map keyOf
  · rw [if_pos here, listed.mpr here]
    exact Option.bind_fun_none _
  · have missing : (byKey objects).contains key = false := Bool.eq_false_iff.mpr (mt listed.mp here)
    rw [if_neg here, missing]
    cases known.get? key <;> rfl

theorem get?_arrivalsOf (known : TextMap α) (objects : List α) (key : String) :
    (arrivalsOf known (byKey objects)).get? key
      = (lastWith? key objects).bind (arrival (known.get? key)) := by
  rw [arrivalsOf, TextMap.get?_collect, get?_byKey]
  rfl

theorem sameVersion_iff (old new : α) :
    sameVersion old new = true ↔ versionOf old ≠ none ∧ versionOf old = versionOf new := by
  rw [sameVersion, Bool.and_eq_true, beq_iff_eq, Option.isSome_iff_ne_none]

/-- A listing whose objects carry versions is no news when it is repeated. -/
theorem apply_listing_again {objects : List α} (versioned : ∀ object ∈ objects, versionOf object ≠ none) :
    (Cache.mk (byKey objects) true).apply (.listing objects) = ([], ⟨byKey objects, true⟩) := by
  have gone : removals (byKey objects) (byKey objects) = .empty := by
    refine TextMap.ext fun key => ?_
    rw [get?_removals]
    split
    · rfl
    case isFalse missing =>
      rw [← contains_byKey_iff, TextMap.contains, Option.not_isSome_iff_eq_none] at missing
      rw [missing]
      rfl
  have arrived : arrivalsOf (byKey objects) (byKey objects) = .empty := by
    refine TextMap.ext fun key => ?_
    rw [get?_arrivalsOf, get?_byKey, ← lastWith?]
    cases last : lastWith? key objects with
    | none => rfl
    | some object =>
      have member : object ∈ objects := List.mem_of_mem_filter (List.mem_of_getLast? last)
      have same := (sameVersion_iff object object).mpr ⟨versioned object member, rfl⟩
      rw [Option.bind_some, arrival, if_pos same]
      rfl
  rw [apply_listing, gone, arrived]
  rfl

/-- **A listing is exact.** It leaves the last object that it has under each of its keys and nothing
else. It amounts to a removal of everything known that it lacks, and then to an arrival of everything
listed, which is an addition under a new key, an update under a known one, and nothing where both states
carry one version; both follow the order of the keys. Listings that differ in the order of objects with
different keys amount to the same, and a listing whose objects carry versions is no news the second
time. -/
theorem listing_exact (cache : Cache α) (objects : List α) :
    let (changes, next) := cache.apply (.listing objects)
    (next.synced = true ∧ (∀ key, key ∈ next.objects.keys ↔ key ∈ objects.map keyOf) ∧
      ∀ key, next.objects.get? key = lastWith? key objects) ∧
    (∃ gone arrived : TextMap (Change α),
      changes = gone.entries.map Prod.snd ++ arrived.entries.map Prod.snd ∧
      (∀ key, gone.get? key
        = if key ∈ objects.map keyOf then none else (cache.objects.get? key).map .removed) ∧
      ∀ key, arrived.get? key = (lastWith? key objects).bind fun object =>
        match cache.objects.get? key with
        | none => some (.added object)
        | some old =>
          if versionOf old ≠ none ∧ versionOf old = versionOf object then none
          else some (.updated old object)) ∧
    (∀ other, Rearranged objects other → cache.apply (.listing other) = (changes, next)) ∧
    ((∀ object ∈ objects, versionOf object ≠ none) →
      next.apply (.listing objects) = ([], next)) := by
  rw [apply_listing]
  refine ⟨⟨rfl, fun key => ?_, get?_byKey objects⟩, ⟨_, _, rfl, get?_removals _ objects, ?_⟩, ?_, ?_⟩
  · rw [TextMap.mem_keys_iff, contains_byKey_iff]
  · intro key
    rw [get?_arrivalsOf]
    refine congrArg (Option.bind _) (funext fun object => ?_)
    unfold arrival
    cases cache.objects.get? key with
    | none => rfl
    | some old => exact if_congr (sameVersion_iff old object) rfl rfl
  · intro other rearranged
    rw [apply_listing, byKey_congr rearranged]
  · exact apply_listing_again

/-- Of two states listed for one object the last counts, wherever the other objects stand. -/
theorem listing_exact_of_repeated_keys :
    let ingress (name version : String) : Ingress :=
      ⟨⟨some name, none, some "web", some version, .empty⟩, [some (name ++ version ++ ".local")], []⟩
    let cache : Cache Ingress := ⟨byKey [ingress "a" "1", ingress "b" "1", ingress "c" "1"], true⟩
    let listing := [ingress "d" "1", ingress "b" "3", ingress "a" "1", ingress "b" "2"]
    let other := [ingress "b" "3", ingress "d" "1", ingress "b" "2", ingress "a" "1"]
    let (changes, next) := cache.apply (.listing listing)
    (changes.map fun change => (change.kind, change.key))
        = [("removed", "web/c"), ("updated", "web/b"), ("added", "web/d")] ∧
      (next.objects.entries.map fun entry => (entry.1, entry.2.hosts))
        = [("web/a", [some "a1.local"]), ("web/b", [some "b2.local"]), ("web/d", [some "d1.local"])] ∧
      Rearranged listing other ∧ cache.apply (.listing other) = (changes, next) ∧
      (∀ object ∈ listing, versionOf object ≠ none) ∧
      next.apply (.listing listing) = ([], next) := by
  intro ingress cache listing other
  have rearranged : Rearranged listing other := by
    refine .of_listed ((List.Perm.swap _ _ _).trans (((List.Perm.swap _ _ _).cons _).cons _)) ?_
    simp only [listing, List.forall_mem_cons]
    exact ⟨rfl, rfl, rfl, rfl, nofun⟩
  have versioned : ∀ object ∈ listing, versionOf object ≠ none := by decide +kernel
  obtain ⟨_, _, same, again⟩ := listing_exact cache listing
  exact ⟨by decide +kernel, by decide +kernel, rearranged, same other rearranged, versioned,
    again versioned⟩

end Cache

end ClusterMdns
