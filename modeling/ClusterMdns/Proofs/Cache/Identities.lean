import ClusterMdns.Proofs.Cache.ChangeLog

/-!
The objects of a cache do not disturb each other.

A key is a namespace and a name with a slash between them. Where no namespace has a slash the key tells
the two (`Cache.keyOf_eq_iff`), so that news about one identity can be told by their key, and what news do
to one key depends on that key alone. A listing is news about every identity, about each of them with the
objects that have it (`ObjectEvent.about?`).

* `Cache.of_mem_apply`: a change shows objects of its own key, each given by news or known before. So what
  holds of all objects that news give holds of all that are shown (`Cache.showsOnly_of_mem_run`).
* `Change.ShowsOnly.isAbout_eq`: the key of a change tells whom it is about.
* `ObjectEvent.known_about` and `ObjectEvent.change_about`: news and their part about an identity do the
  same to its key.
* `Cache.filter_run`: the changes about a key are those of the parts, from caches that know the same
  under the key.
* `Cache.identities_separate`: this for the whole of a run and its changes.
-/

namespace ClusterMdns

/-! ### Identities -/

/-- The namespace and the name of an object, empty where it has none. -/
def Metadata.identity (metadata : Metadata) : String × String :=
  (metadata.space.getD "", metadata.anyName)

/-- Texts in front of the first slash are told from the whole. -/
theorem eq_of_append_slash_eq {first second rest otherRest : List Char} (firstHasNone : '/' ∉ first)
    (secondHasNone : '/' ∉ second) (same : first ++ '/' :: rest = second ++ '/' :: otherRest) :
    first = second ∧ rest = otherRest := by
  have cut := congrArg (List.splitOn '/') same
  rw [List.splitOn_append_cons_self_of_not_mem firstHasNone,
    List.splitOn_append_cons_self_of_not_mem secondHasNone] at cut
  obtain rfl : first = second := List.head_eq_of_cons_eq cut
  exact ⟨rfl, List.tail_eq_of_cons_eq (List.append_cancel_left same)⟩

variable {α : Type} [HasMetadata α]

namespace Cache

def identityOf (object : α) : String × String := (HasMetadata.metadata object).identity

/-- The key of the objects that have an identity. -/
def keyOfIdentity (identity : String × String) : String := identity.1 ++ "/" ++ identity.2

theorem keyOf_eq (object : α) : keyOf object = keyOfIdentity (identityOf object) := rfl

/-- Whether the namespace of an identity has no slash. -/
def Unslashed (identity : String × String) : Prop := '/' ∉ identity.1.toList

instance (identity : String × String) : Decidable (Unslashed identity) :=
  inferInstanceAs (Decidable (_ ∉ _))

theorem keyOfIdentity_inj {first second : String × String} (firstUnslashed : Unslashed first)
    (secondUnslashed : Unslashed second) (same : keyOfIdentity first = keyOfIdentity second) :
    first = second := by
  have letters : first.1.toList ++ '/' :: first.2.toList
      = second.1.toList ++ '/' :: second.2.toList := by
    simpa [keyOfIdentity] using congrArg String.toList same
  obtain ⟨spaces, names⟩ := eq_of_append_slash_eq firstUnslashed secondUnslashed letters
  exact Prod.ext (String.toList_inj.mp spaces) (String.toList_inj.mp names)

/-- **Where namespaces have no slash the key tells the identity.** -/
theorem keyOf_eq_iff {object : α} {identity : String × String}
    (objectUnslashed : Unslashed (identityOf object)) (unslashed : Unslashed identity) :
    keyOf object = keyOfIdentity identity ↔ identityOf object = identity :=
  ⟨keyOfIdentity_inj objectUnslashed unslashed, fun same => by rw [keyOf_eq, same]⟩

end Cache

/-! ### The objects that a change shows -/

/-- The objects that a change shows. -/
def Change.objects : Change α → List α
  | added object => [object]
  | updated old new => [old, new]
  | removed object => [object]

/-- Whether a change shows an object with an identity. -/
def Change.isAbout (identity : String × String) (change : Change α) : Bool :=
  change.objects.any fun object => Cache.identityOf object = identity

/-- Whether a change shows objects of its own key only, all of which are good. -/
def Change.ShowsOnly (good : α → Prop) (change : Change α) : Prop :=
  ∀ object ∈ change.objects, Cache.keyOf object = change.key ∧ good object

namespace Change

theorem exists_mem_objects {β : Type} (change : Change β) : ∃ object, object ∈ change.objects := by
  cases change <;> exact ⟨_, List.mem_cons_self⟩

variable {identity : String × String} {change : Change α}

/-- **Where namespaces have no slash the key of a change tells whom it is about.** -/
theorem ShowsOnly.isAbout_eq
    (shows : change.ShowsOnly fun object => Cache.Unslashed (Cache.identityOf object))
    (unslashed : Cache.Unslashed identity) :
    change.isAbout identity = (change.key == Cache.keyOfIdentity identity) := by
  have own : ∀ object ∈ change.objects,
      (Cache.identityOf object = identity ↔ change.key = Cache.keyOfIdentity identity) := by
    intro object shown
    obtain ⟨key, objectUnslashed⟩ := shows object shown
    rw [← key, Cache.keyOf_eq_iff objectUnslashed unslashed]
  obtain ⟨object, shown⟩ := change.exists_mem_objects
  rw [Bool.eq_iff_iff, isAbout, List.any_eq_true, beq_iff_eq]
  simp only [decide_eq_true_eq]
  exact ⟨fun ⟨other, inside, same⟩ => (own other inside).mp same,
    fun key => ⟨object, shown, (own object shown).mpr key⟩⟩

/-- Nothing is about an identity with a slash in its namespace. -/
theorem ShowsOnly.isAbout_eq_false
    (shows : change.ShowsOnly fun object => Cache.Unslashed (Cache.identityOf object))
    (slashed : ¬Cache.Unslashed identity) : change.isAbout identity = false := by
  refine List.any_eq_false.mpr fun object shown same => slashed ?_
  rw [← of_decide_eq_true same]
  exact (shows object shown).2

/-- A change that shows only objects with an identity is about it. -/
theorem ShowsOnly.isAbout (shows : change.ShowsOnly fun object => Cache.identityOf object = identity) :
    change.isAbout identity = true := by
  obtain ⟨object, shown⟩ := change.exists_mem_objects
  exact List.any_eq_true.mpr ⟨object, shown, decide_eq_true (shows object shown).2⟩

end Change

namespace Cache

theorem of_mem_objects_arrival {known : Option α} {object shown : α} {change : Change α}
    (arrives : arrival known object = some change) (shows : shown ∈ change.objects) :
    shown = object ∨ known = some shown := by
  unfold arrival at arrives
  split at arrives
  case h_1 =>
    cases arrives
    exact .inl (List.mem_singleton.mp shows)
  case h_2 old =>
    split at arrives
    · cases arrives
    · cases arrives
      rcases List.mem_cons.mp shows with rfl | new
      · exact .inr rfl
      · exact .inl (List.mem_singleton.mp new)

/-- **A change shows objects of its own key**, each of which the news give or which was known. -/
theorem of_mem_apply {cache : Cache α} (keyed : Keyed cache.objects) {event : ObjectEvent α}
    {change : Change α} (member : change ∈ (cache.apply event).1) {object : α}
    (shows : object ∈ change.objects) :
    keyOf object = change.key ∧
      (object ∈ event.objects ∨ cache.objects.get? change.key = some object) := by
  -- The change is the one that the news amount to under its key.
  have listed : change ∈ (event.change? change.key (cache.objects.get? change.key)).toList := by
    rw [← changes_at_key keyed]
    exact List.mem_filter.mpr ⟨member, beq_self_eq_true _⟩
  have atKey : event.change? change.key (cache.objects.get? change.key) = some change :=
    Option.mem_toList.mp listed
  have source : (object ∈ event.objects ∧ keyOf object = change.key)
      ∨ cache.objects.get? change.key = some object := by
    have effect := event.effect change.key (cache.objects.get? change.key)
    rw [atKey] at effect
    generalize cache.objects.get? change.key = known at effect ⊢
    generalize event.known change.key known = after at effect
    generalize amounts : some change = change? at effect
    cases effect with
    | untouched => cases amounts
    | arrives given =>
      obtain rfl | old := of_mem_objects_arrival amounts.symm shows
      · exact .inl (mem_of_lastGiven? given)
      · exact .inr old
    | goes held =>
      cases amounts
      rw [List.mem_singleton.mp shows]
      exact .inr held
    | unknown missing payload =>
      cases amounts
      subst payload
      rw [List.mem_singleton.mp shows]
      exact .inl ⟨List.mem_singleton_self _, rfl⟩
  rcases source with ⟨given, own⟩ | known
  · exact ⟨own, .inl given⟩
  · exact ⟨keyed _ _ known, .inr known⟩

/-- What is known after news was known before, or the news give it. -/
theorem known_or_given {cache : Cache α} {event : ObjectEvent α} {key : String} {object : α}
    (known : (cache.apply event).2.objects.get? key = some object) :
    cache.objects.get? key = some object ∨ object ∈ event.objects := by
  rw [get?_apply] at known
  have effect := event.effect key (cache.objects.get? key)
  generalize event.known key (cache.objects.get? key) = after at known effect
  generalize event.change? key (cache.objects.get? key) = change? at effect
  cases effect with
  | untouched => exact .inl known
  | arrives given =>
    cases known
    exact .inr (mem_of_lastGiven? given).1
  | goes => cases known
  | unknown => cases known

/-- What holds of all objects that news give, and of all that were known, holds of all that the changes
show. -/
theorem showsOnly_of_mem_run {good : α → Prop} {events : List (ObjectEvent α)}
    (given : ∀ event ∈ events, ∀ object ∈ event.objects, good object) {cache : Cache α}
    (keyed : Keyed cache.objects)
    (known : ∀ key object, cache.objects.get? key = some object → good object)
    {change : Change α} (member : change ∈ (cache.run events).1) : change.ShowsOnly good := by
  induction events generalizing cache with
  | nil => cases member
  | cons event rest ih =>
    rw [List.forall_mem_cons] at given
    rcases List.mem_append.mp member with now | later
    · intro object shown
      obtain ⟨own, fresh | old⟩ := of_mem_apply keyed now shown
      · exact ⟨own, given.1 object fresh⟩
      · exact ⟨own, known _ _ old⟩
    · refine ih given.2 (keyed.apply event) (fun key held after => ?_) later
      rcases known_or_given after with before | fresh
      · exact known key held before
      · exact given.1 held fresh

/-- **What holds of all objects that news give holds of all that their changes show.** -/
theorem showsOnly_of_mem_run_empty {good : α → Prop} {events : List (ObjectEvent α)}
    (given : ∀ event ∈ events, ∀ object ∈ event.objects, good object) {change : Change α}
    (member : change ∈ ((empty : Cache α).run events).1) : change.ShowsOnly good := by
  refine showsOnly_of_mem_run given keyed_empty (fun key object known => ?_) member
  cases known

end Cache

/-! ### News about one identity -/

namespace ObjectEvent

/-- The part of news that is about an identity, if there is one. Every listing is news about it. -/
def about? (identity : String × String) : ObjectEvent α → Option (ObjectEvent α)
  | current object => if Cache.identityOf object = identity then some (current object) else none
  | deleted object => if Cache.identityOf object = identity then some (deleted object) else none
  | listing objects =>
    some (listing (objects.filter fun object => Cache.identityOf object = identity))

theorem of_mem_about {identity : String × String} {event part : ObjectEvent α}
    (about : event.about? identity = some part) {object : α} (member : object ∈ part.objects) :
    Cache.identityOf object = identity ∧ object ∈ event.objects := by
  cases event with
  | current given =>
    obtain ⟨own, same⟩ := Option.ite_none_right_eq_some.mp about
    cases same
    rw [List.mem_singleton.mp member]
    exact ⟨own, List.mem_singleton_self _⟩
  | deleted given =>
    obtain ⟨own, same⟩ := Option.ite_none_right_eq_some.mp about
    cases same
    rw [List.mem_singleton.mp member]
    exact ⟨own, List.mem_singleton_self _⟩
  | listing objects =>
    cases about
    obtain ⟨listed, own⟩ := List.mem_filter.mp member
    exact ⟨of_decide_eq_true own, listed⟩

section About

variable {identity : String × String} {event : ObjectEvent α}
  (given : ∀ object ∈ event.objects, Cache.Unslashed (Cache.identityOf object))
  (unslashed : Cache.Unslashed identity)

include given unslashed

/-- Of the objects that news give those with the key of an identity are those that have it. -/
theorem keyOf_eq_iff_of_mem {object : α} (member : object ∈ event.objects) :
    Cache.keyOf object = Cache.keyOfIdentity identity ↔ Cache.identityOf object = identity :=
  Cache.keyOf_eq_iff (given object member) unslashed

/-- A listing has under the key of an identity what its part about the identity has. -/
theorem get?_byKey_about {objects : List α} (listing : event = .listing objects) :
    (Cache.byKey (objects.filter fun object => Cache.identityOf object = identity)).get?
        (Cache.keyOfIdentity identity)
      = (Cache.byKey objects).get? (Cache.keyOfIdentity identity) := by
  subst listing
  rw [Cache.get?_byKey, Cache.get?_byKey, List.filter_filter]
  refine congrArg _ (List.filter_congr fun object member => ?_)
  rw [Bool.eq_iff_iff, Bool.and_eq_true, beq_iff_eq, decide_eq_true_eq,
    keyOf_eq_iff_of_mem given unslashed member, and_self]

/-- **News and their part about an identity leave the same under its key.** -/
theorem known_about (before : Option α) :
    ((event.about? identity).elim before fun part =>
        part.known (Cache.keyOfIdentity identity) before)
      = event.known (Cache.keyOfIdentity identity) before := by
  cases event with
  | current object =>
    have own := keyOf_eq_iff_of_mem given unslashed (List.mem_singleton_self object)
    by_cases here : Cache.identityOf object = identity
    · simp only [about?, if_pos here, Option.elim_some]
    · simp only [about?, if_neg here, Option.elim_none, known, if_neg (mt own.mp here)]
  | deleted object =>
    have own := keyOf_eq_iff_of_mem given unslashed (List.mem_singleton_self object)
    by_cases here : Cache.identityOf object = identity
    · simp only [about?, if_pos here, Option.elim_some]
    · simp only [about?, if_neg here, Option.elim_none, known, if_neg (mt own.mp here)]
  | listing objects => exact get?_byKey_about given unslashed rfl

/-- **News and their part about an identity amount to the same change under its key.** -/
theorem change_about (before : Option α) :
    ((event.about? identity).bind fun part =>
        part.change? (Cache.keyOfIdentity identity) before)
      = event.change? (Cache.keyOfIdentity identity) before := by
  cases event with
  | current object =>
    have own := keyOf_eq_iff_of_mem given unslashed (List.mem_singleton_self object)
    by_cases here : Cache.identityOf object = identity
    · simp only [about?, if_pos here, Option.bind_some]
    · simp only [about?, if_neg here, Option.bind_none, change?, if_neg (mt own.mp here)]
  | deleted object =>
    have own := keyOf_eq_iff_of_mem given unslashed (List.mem_singleton_self object)
    by_cases here : Cache.identityOf object = identity
    · simp only [about?, if_pos here, Option.bind_some]
    · simp only [about?, if_neg here, Option.bind_none, change?, if_neg (mt own.mp here)]
  | listing objects =>
    simp only [about?, Option.bind_some, change?, get?_byKey_about given unslashed rfl]

end About

end ObjectEvent

namespace Cache

/-- **The changes about a key are those of the parts of the news**, from caches that know the same under
the key. -/
theorem filter_run {identity : String × String} (unslashed : Unslashed identity)
    {events : List (ObjectEvent α)}
    (given : ∀ event ∈ events, ∀ object ∈ event.objects, Unslashed (identityOf object))
    {cache other : Cache α} (keyed : Keyed cache.objects) (otherKeyed : Keyed other.objects)
    (agree : other.objects.get? (keyOfIdentity identity)
      = cache.objects.get? (keyOfIdentity identity)) :
    (other.run (events.filterMap (ObjectEvent.about? identity))).1.filter
        (fun change => change.key == keyOfIdentity identity)
      = (cache.run events).1.filter fun change => change.key == keyOfIdentity identity := by
  induction events generalizing cache other with
  | nil => rfl
  | cons event rest ih =>
    rw [List.forall_mem_cons] at given
    have leaves := ObjectEvent.known_about given.1 unslashed
      (cache.objects.get? (keyOfIdentity identity))
    have amounts := ObjectEvent.change_about given.1 unslashed
      (cache.objects.get? (keyOfIdentity identity))
    rw [← get?_apply] at leaves
    simp only [run, List.filter_append, changes_at_key keyed]
    cases part : event.about? identity with
    | none =>
      rw [part] at leaves amounts
      rw [List.filterMap_cons_none part, ← amounts, Option.bind_none, Option.toList_none,
        List.nil_append]
      exact ih given.2 (keyed.apply event) otherKeyed (agree.trans leaves)
    | some partly =>
      rw [part, Option.elim_some, ← agree, ← get?_apply] at leaves
      rw [part, Option.bind_some, ← agree] at amounts
      rw [List.filterMap_cons_some part]
      simp only [run, List.filter_append, changes_at_key otherKeyed]
      rw [← agree, amounts, ih given.2 (keyed.apply event) (otherKeyed.apply partly) leaves]

/-- **Objects do not disturb each other.** Take any events in which no namespace has a slash, and any
identity. The changes about the identity that the events amount to are exactly those that the parts of the
events about it amount to on their own: the same changes in the same order, with the objects that they
show. -/
theorem identities_separate (events : List (ObjectEvent α))
    (given : ∀ event ∈ events, ∀ object ∈ event.objects, '/' ∉ (identityOf object).1.toList)
    (identity : String × String) :
    ((empty : Cache α).run events).1.filter (Change.isAbout identity)
      = ((empty : Cache α).run (events.filterMap (ObjectEvent.about? identity))).1 := by
  have partGiven : ∀ part ∈ events.filterMap (ObjectEvent.about? identity),
      ∀ object ∈ part.objects, identityOf object = identity ∧ Unslashed (identityOf object) := by
    intro part member object inside
    obtain ⟨event, happens, about⟩ := List.mem_filterMap.mp member
    obtain ⟨own, listed⟩ := ObjectEvent.of_mem_about about inside
    exact ⟨own, given event happens object listed⟩
  have shows : ∀ change ∈ ((empty : Cache α).run events).1,
      change.ShowsOnly fun object => Unslashed (identityOf object) :=
    fun _ member => showsOnly_of_mem_run_empty given member
  have partShows : ∀ change ∈ ((empty : Cache α).run
      (events.filterMap (ObjectEvent.about? identity))).1,
      change.ShowsOnly (fun object => Unslashed (identityOf object)) ∧
        change.isAbout identity = true := by
    intro change member
    have both := showsOnly_of_mem_run_empty partGiven member
    exact ⟨fun object shown => ⟨(both object shown).1, (both object shown).2.2⟩,
      Change.ShowsOnly.isAbout fun object shown => ⟨(both object shown).1, (both object shown).2.1⟩⟩
  by_cases unslashed : Unslashed identity
  · rw [List.filter_congr fun change member => (shows change member).isAbout_eq unslashed,
      ← filter_run unslashed given keyed_empty keyed_empty rfl]
    refine List.filter_eq_self.mpr fun change member => ?_
    obtain ⟨partUnslashed, about⟩ := partShows change member
    rwa [← partUnslashed.isAbout_eq unslashed]
  · have none : ((empty : Cache α).run (events.filterMap (ObjectEvent.about? identity))).1 = [] := by
      refine List.eq_nil_iff_forall_not_mem.mpr fun change member => ?_
      obtain ⟨partUnslashed, about⟩ := partShows change member
      rw [partUnslashed.isAbout_eq_false unslashed] at about
      cases about
    rw [none, List.filter_eq_nil_iff]
    intro change member about
    rw [(shows change member).isAbout_eq_false unslashed] at about
    cases about

/-- An object whose name holds a slash, among others whose names and namespaces look alike: seen, listed
twice in newer versions and deleted. -/
theorem identities_separate_of_slashed_name :
    let ingress (space : Option String) (name version : String) : Ingress :=
      ⟨⟨some name, none, space, some version, .empty⟩, [some (name ++ version)], []⟩
    let events : List (ObjectEvent Ingress) :=
      [.current (ingress (some "web") "a/b" "1"), .current (ingress (some "web") "a" "1"),
        .listing [ingress (some "web") "a/b" "2", ingress none "web/a/b" "1",
          ingress (some "web") "a/b" "3", ingress (some "a") "b" "1"],
        .deleted (ingress none "web/a/b" "1"), .deleted (ingress (some "web") "a/b" "4")]
    let parts := events.filterMap (ObjectEvent.about? ("web", "a/b"))
    (∀ event ∈ events, ∀ object ∈ event.objects, '/' ∉ (identityOf object).1.toList) ∧
      ((empty : Cache Ingress).run events).1.filter (Change.isAbout ("web", "a/b"))
        = ((empty : Cache Ingress).run parts).1 ∧
      ((empty : Cache Ingress).run parts).1.map
          (fun change => (change.kind, change.objects.map versionOf))
        = [("added", [some "1"]), ("updated", [some "1", some "3"]), ("removed", [some "3"])] := by
  intro ingress events parts
  have given : ∀ event ∈ events, ∀ object ∈ event.objects,
      '/' ∉ (identityOf object).1.toList := by decide +kernel
  exact ⟨given, identities_separate events given ("web", "a/b"), by decide +kernel⟩

/-- With a slash in a namespace another object may have the same key. -/
example :
    let ingress (space name : String) : Ingress :=
      ⟨⟨some name, none, some space, some "1", .empty⟩, [], []⟩
    let events : List (ObjectEvent Ingress) :=
      [.current (ingress "web" "a/b"), .deleted (ingress "web/a" "b")]
    (((empty : Cache Ingress).run events).1.filter (Change.isAbout ("web", "a/b"))).map Change.kind
        = ["added", "removed"] ∧
      ((empty : Cache Ingress).run (events.filterMap (ObjectEvent.about? ("web", "a/b")))).1.map
        Change.kind = ["added"] := by
  decide +kernel

end Cache

end ClusterMdns
