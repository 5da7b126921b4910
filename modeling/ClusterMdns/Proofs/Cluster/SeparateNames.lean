import ClusterMdns.Proofs.Cluster.StandardNames
import ClusterMdns.Proofs.Name.Spelling
import ClusterMdns.Proofs.Store.Replacement

/-!
Services with standard names have no record in common.

Names without capitals are spelled in one way only, and where they hold no dot and no slash they can be
told from the host and from the instance that are put together from them. Each record of a service shows
one of the two: as its owner, or as its target if it is a pointer (`Record.subject`). Pointers of different
services may well share their owners, but never their targets.

* `Name.eq_of_fold_eq`: texts without capitals are told from the bytes of a label up to case.
* `Service.subject_of_mem_records`: what the records of such a service show.
* `Service.identity_eq_of_same`: services with a record in common have one name and one namespace.
* `Service.standard_records_apart`: this for the records, and for the store in which they are.
-/

namespace ClusterMdns

open Advertisement

/-! ### Labels up to case -/

namespace Name

/-- Whether a text has no capitals from `A` to `Z`. -/
def IsSmall (text : List Char) : Prop := ∀ c ∈ text, ¬('A' ≤ c ∧ c ≤ 'Z')

instance (text : List Char) : Decidable (IsSmall text) :=
  List.decidableBAll (fun c => ¬('A' ≤ c ∧ c ≤ 'Z')) text

theorem fold_utf8 {text : List Char} (small : IsSmall text) :
    (utf8 text).map foldByte = utf8 text := by
  rw [List.map_congr_left (g := id), List.map_id]
  intro byte member
  obtain ⟨c, inside, encodes⟩ := List.mem_flatMap.mp member
  exact foldByte_of_mem_encoded (small c inside) encodes

/-- **Texts without capitals are told from the bytes of a label up to case.** -/
theorem eq_of_fold_eq {first second : List Char} (firstSmall : IsSmall first)
    (secondSmall : IsSmall second)
    (same : (utf8 first).map foldByte = (utf8 second).map foldByte) : first = second := by
  rw [fold_utf8 firstSmall, fold_utf8 secondSmall] at same
  exact utf8_injective same

end Name

/-! ### What a record shows -/

/-- The name that a record is about: the target of a pointer, else the owner. -/
def Record.subject (record : Record) : Name :=
  match record.data with
  | .ptr target => target
  | _ => record.owner

/-- Records that publish the same thing are about the same name. -/
theorem Record.Same.subject {first second : Record} (same : first.Same second) :
    first.subject.fold = second.subject.fold := by
  obtain ⟨owner, recordClass, ttl, data⟩ := first
  obtain ⟨otherOwner, otherClass, otherTtl, otherData⟩ := second
  obtain ⟨owners, folded⟩ := same
  cases data <;> cases otherData <;> simp_all [Record.subject, RecordData.fold]

namespace Service

open Name

/-- The namespace and the name of a service. -/
def identity (service : Service) : String × String :=
  (service.metadata.space.getD "", service.metadata.name.getD "")

/-- Whether a text has neither dots nor slashes nor capitals from `A` to `Z`. -/
structure IsBare (text : String) : Prop where
  undotted : '.' ∉ text.toList
  unslashed : '/' ∉ text.toList
  small : IsSmall text.toList

instance (text : String) : Decidable (IsBare text) :=
  decidable_of_iff ('.' ∉ text.toList ∧ '/' ∉ text.toList ∧ IsSmall text.toList)
    ⟨fun parts => ⟨parts.1, parts.2.1, parts.2.2⟩,
      fun whole => ⟨whole.undotted, whole.unslashed, whole.small⟩⟩

/-- Whether a service has a bare name and a bare namespace and leaves its names to them. -/
structure IsUnadorned (service : Service) : Prop where
  space : IsBare service.identity.1
  name : IsBare service.identity.2
  hostUnnamed : hostnameKey ∉ service.metadata.annotations.keys
  instanceUnnamed : instanceKey ∉ service.metadata.annotations.keys

/-- What the records of a service with some namespace and name show: its host, or an instance with
namespace, slash and name as the first label. -/
inductive Shows (space name : List Char) : List Label → Prop
  | host : Shows space name [utf8 name, utf8 space, localLabel]
  | owner (group : List Label) : Shows space name (utf8 (space ++ '/' :: name) :: group)

variable {settings : SyncSettings} {service : Service} {record : Record}

/-- **Each record of a service with standard names shows its host or its instance.** -/
theorem subject_of_mem_records (unadorned : service.IsUnadorned)
    (member : record ∈ service.records settings) :
    Shows service.identity.1.toList service.identity.2.toList record.subject.labels := by
  obtain ⟨profile, address, host, publishable, hosted, kinds⟩ := exists_of_mem_records member
  obtain ⟨name, isName, rfl⟩ := Option.map_eq_some_iff.mp publishable.named
  have named : service.identity.2 = name := by rw [identity, isName, Option.getD_some]
  rw [named]
  have nameBare := named ▸ unadorned.name
  have isHost : host.labels = [utf8 name.toList, utf8 service.identity.1.toList, localLabel] := by
    rw [(read?_eq_ok_iff.mp hosted).1, written_standardHostname nameBare.undotted
      unadorned.space.undotted (TextMap.get?_eq_none unadorned.hostUnnamed)]
    rfl
  rcases kinds with rfl | rfl | ⟨port, _, own, yields, inside, _⟩
  · have subject : (Record.built host address.forwardData).subject = host := by
      unfold Record.built Record.subject IpAddress.forwardData
      cases address.canonical <;> rfl
    rw [subject, isHost]
    exact .host
  · show Shows _ _ host.labels
    rw [isHost]
    exact .host
  · cases yields with
    | nothing => cases inside
    | found finding finds =>
      have owner : Shows service.identity.1.toList name.toList finding.owner.labels := by
        rw [(read?_eq_ok_iff.mp finds.owned).1, written_standardInstance nameBare.undotted
          unadorned.space.undotted (TextMap.get?_eq_none unadorned.instanceUnnamed)
          (groupName_ne_empty _ _)]
        exact .owner _
      simp only [Finding.records, List.mem_cons, List.not_mem_nil, or_false] at inside
      rcases inside with rfl | rfl | rfl <;> exact owner

/-- The first label of an instance holds only small letters if namespace and name do. -/
theorem isSmall_joined {space name : String} (spaceBare : IsBare space) (nameBare : IsBare name) :
    IsSmall (space.toList ++ '/' :: name.toList) := by
  intro c member
  rcases List.mem_append.mp member with inSpace | inRest
  · exact spaceBare.small c inSpace
  · rcases List.mem_cons.mp inRest with rfl | inName
    · decide
    · exact nameBare.small c inName

/-- **What is shown tells bare namespaces and names**, also up to the case of ASCII letters. -/
theorem Shows.eq_of_fold_eq {space name otherSpace otherName : String} (spaceBare : IsBare space)
    (nameBare : IsBare name) (otherSpaceBare : IsBare otherSpace) (otherNameBare : IsBare otherName)
    {labels otherLabels : List Label} (shows : Shows space.toList name.toList labels)
    (otherShows : Shows otherSpace.toList otherName.toList otherLabels)
    (same : labels.map (·.map foldByte) = otherLabels.map (·.map foldByte)) :
    space = otherSpace ∧ name = otherName := by
  cases shows with
  | host =>
    cases otherShows with
    | host =>
      simp only [List.map_cons, List.cons.injEq] at same
      have names := Name.eq_of_fold_eq nameBare.small otherNameBare.small same.1
      have spaces := Name.eq_of_fold_eq spaceBare.small otherSpaceBare.small same.2.1
      exact ⟨String.toList_injective spaces, String.toList_injective names⟩
    | owner =>
      -- A bare name holds no slash, and the first label of an instance does.
      have joined := Name.eq_of_fold_eq nameBare.small
        (isSmall_joined otherSpaceBare otherNameBare) (List.head_eq_of_cons_eq same)
      exact absurd (joined ▸ List.mem_append_cons_self) nameBare.unslashed
  | owner =>
    cases otherShows with
    | host =>
      have joined := Name.eq_of_fold_eq (isSmall_joined spaceBare nameBare)
        otherNameBare.small (List.head_eq_of_cons_eq same)
      exact absurd (joined ▸ List.mem_append_cons_self) otherNameBare.unslashed
    | owner =>
      have joined := Name.eq_of_fold_eq (isSmall_joined spaceBare nameBare)
        (isSmall_joined otherSpaceBare otherNameBare) (List.head_eq_of_cons_eq same)
      obtain ⟨spaces, _, names⟩ := (List.append_cons_inj_of_notMem spaceBare.unslashed
        nameBare.unslashed).mp joined
      exact ⟨String.toList_injective spaces, String.toList_injective names⟩

/-! ### Services with a record in common -/

section Apart

variable {first second : Service}

/-- **Services with standard names that have a record in common** have one namespace and one name. -/
theorem identity_eq_of_same (firstUnadorned : first.IsUnadorned)
    (secondUnadorned : second.IsUnadorned) {firstSettings secondSettings : SyncSettings}
    {record other : Record} (member : record ∈ first.records firstSettings)
    (otherMember : other ∈ second.records secondSettings) (same : record.Same other) :
    first.identity = second.identity := by
  obtain ⟨spaces, names⟩ := Shows.eq_of_fold_eq firstUnadorned.space firstUnadorned.name
    secondUnadorned.space secondUnadorned.name (subject_of_mem_records firstUnadorned member)
    (subject_of_mem_records secondUnadorned otherMember) (congrArg Name.labels same.subject)
  exact Prod.ext spaces names

/-- Records of a service with standard names are none of those of another. -/
theorem not_among_of_mem_records (firstUnadorned : first.IsUnadorned)
    (secondUnadorned : second.IsUnadorned) (apart : first.identity ≠ second.identity)
    {firstSettings secondSettings : SyncSettings} {record : Record}
    (member : record ∈ second.records secondSettings) :
    ¬record.Among (first.records firstSettings) := by
  rintro ⟨other, otherMember, same⟩
  exact apart (identity_eq_of_same firstUnadorned secondUnadorned otherMember member same)

/-- **Services with standard names have no record in common** unless they have one namespace and one
name, under whatever settings each of them is published. What is published of such a service stays when
another is removed, and when another is updated. -/
theorem standard_records_apart (firstUnadorned : first.IsUnadorned)
    (secondUnadorned : second.IsUnadorned) (apart : first.identity ≠ second.identity)
    (firstSettings secondSettings : SyncSettings) :
    (∀ record ∈ first.records firstSettings, ∀ other ∈ second.records secondSettings,
        ¬record.Same other) ∧
      ∀ (store : Store), store.Sound → ∀ ttl, ∀ record ∈ second.records secondSettings,
        (store.dispatchAll ttl ((Change.removed first).batches firstSettings)).contains record
            = store.contains record ∧
          ∀ new : Service, store.contains record = true →
            (store.dispatchAll ttl ((Change.updated first new).batches firstSettings)).contains record
              = true := by
  refine ⟨?_, ?_⟩
  · intro record member other otherMember same
    exact apart (identity_eq_of_same firstUnadorned secondUnadorned member otherMember same)
  · intro store sound ttl record member
    have foreign : ¬record.Among (first.records firstSettings) :=
      not_among_of_mem_records firstUnadorned secondUnadorned apart member
    refine ⟨?_, ?_⟩
    · refine Store.contains_dispatchAll_of_unmentioned sound ttl fun batch sent => ?_
      rw [List.mem_singleton.mp sent]
      exact foreign
    · intro new contained
      rw [← Store.run_flatMap_calls, Change.calls_updated, Store.contains_replaced sound]
      exact .inr ⟨contained, foreign⟩

end Apart

/-- Two services that differ only in that the one's name is the other's namespace. They share the owner of
the pointer from their address and of the pointer from their group. -/
theorem standard_records_apart_of_swapped_names :
    let settings : SyncSettings := ⟨[.service], true, "", 120, true, 60⟩
    let texts := TextMap.empty.insert textKey "\x7b\"http\": \x7b\"path\": \"/\"\x7d\x7d"
    let service (space name : String) : Service :=
      ⟨⟨some name, none, some space, none, texts⟩, none, some "10.0.0.1",
        [⟨some "http", 80, some "TCP"⟩], []⟩
    let first := service "app" "web"
    let second := service "web" "app"
    let store := Store.empty.dispatchAll 120
      [.ofObject settings .announce first, .ofObject settings .announce second]
    let left := store.dispatchAll 120 ((Change.removed first).batches settings)
    first.IsUnadorned ∧ second.IsUnadorned ∧ first.identity ≠ second.identity ∧ store.Sound ∧
      ((first.records settings).map Record.owner).filter
          (fun owner => owner ∈ (second.records settings).map Record.owner)
        = [⟨["1", "0", "0", "10", "in-addr", "arpa"].map (Name.utf8 ·.toList)⟩,
          ⟨["_http", "_tcp", "local"].map (Name.utf8 ·.toList)⟩] ∧
      ∀ record ∈ second.records settings,
        store.contains record = true ∧ left.contains record = true := by
  intro settings texts service first second store left
  have firstUnadorned : first.IsUnadorned := ⟨by decide, by decide, by decide, by decide⟩
  have secondUnadorned : second.IsUnadorned := ⟨by decide, by decide, by decide, by decide⟩
  have apart : first.identity ≠ second.identity := by decide
  have sound : store.Sound := Store.sound_empty.dispatchAll 120 _
  obtain ⟨_, kept⟩ := standard_records_apart firstUnadorned secondUnadorned apart settings settings
  refine ⟨firstUnadorned, secondUnadorned, apart, sound, by decide +kernel, ?_⟩
  intro record member
  have contained : ∀ record ∈ second.records settings, store.contains record = true := by
    decide +kernel
  refine ⟨contained record member, ?_⟩
  rw [(kept store sound 120 record member).1]
  exact contained record member

end Service

end ClusterMdns
