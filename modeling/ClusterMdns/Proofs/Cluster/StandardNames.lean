import ClusterMdns.Proofs.Cluster.Contents
import ClusterMdns.Proofs.Text.Lowercase

/-!
Services that leave their names to the standard ones.

The cluster allows names of 1 to 63 small letters, digits and hyphens. From such names the host is always
a name, so that the records of the host are never missing. The instance has namespace, slash and name in
one label, though, and the group puts an underscore in front of the name of the port, so that both can grow
past the 63 bytes of a label.

* `IsPlain.isLowered`: such names have no capitals to lower.
* `Service.read?_standardHostname`: the standard host is a name of three labels.
* `Service.eq_of_yields_standard`: a port is found exactly if namespace and name have at most 62 bytes
  together and the name of the port has at most 62.
* `Service.standard_names_found_if_room`: the records of such a service.
-/

namespace ClusterMdns

open ClusterMdns.Text Advertisement

/-! ### Names that the cluster allows -/

/-- The characters of names in the cluster. -/
def IsPlain (c : Char) : Prop := ('a' ≤ c ∧ c ≤ 'z') ∨ ('0' ≤ c ∧ c ≤ '9') ∨ c = '-'

instance (c : Char) : Decidable (IsPlain c) := inferInstanceAs (Decidable (_ ∨ _))

/-- A name as the cluster allows it: 1 to 63 small letters, digits and hyphens. -/
structure IsClusterLabel (text : String) : Prop where
  length : 1 ≤ text.toList.length ∧ text.toList.length ≤ 63
  plain : ∀ c ∈ text.toList, IsPlain c

instance (text : String) : Decidable (IsClusterLabel text) :=
  decidable_of_iff ((1 ≤ text.toList.length ∧ text.toList.length ≤ 63) ∧
      text.toList.all fun c => decide (IsPlain c)) <| by
    simp only [List.all_eq_true, decide_eq_true_eq]
    exact ⟨fun parts => ⟨parts.1, parts.2⟩, fun whole => ⟨whole.length, whole.plain⟩⟩

theorem IsPlain.lt {c : Char} (plain : IsPlain c) : c.toNat < 128 := by
  rcases plain with letter | digit | rfl
  · exact Nat.lt_of_le_of_lt letter.2 (by decide)
  · exact Nat.lt_of_le_of_lt digit.2 (by decide)
  · decide

/-- What holds of all characters of names in the cluster can be checked character by character. -/
theorem IsPlain.induction {P : Char → Prop} (all : ∀ n < 128, IsPlain (Char.ofNat n) → P (Char.ofNat n))
    {c : Char} (plain : IsPlain c) : P c := by
  have here := all c.toNat plain.lt
  rw [Char.ofNat_toNat] at here
  exact here plain

theorem IsPlain.utf8Size_eq {c : Char} (plain : IsPlain c) : c.utf8Size = 1 :=
  IsPlain.induction (P := fun c => c.utf8Size = 1) (by decide +kernel) plain

theorem IsPlain.ne_dot {c : Char} (plain : IsPlain c) : c ≠ '.' :=
  IsPlain.induction (P := fun c => c ≠ '.') (by decide +kernel) plain

/-- Names in the cluster have no capitals to lower. -/
theorem IsPlain.isLowered {c : Char} (plain : IsPlain c) : IsLowered c :=
  isLowered_of_ascii plain.lt
    (IsPlain.induction (P := fun c => ¬('A' ≤ c ∧ c ≤ 'Z')) (by decide +kernel) plain)

namespace IsClusterLabel

variable {text : String}

theorem ascii (allowed : IsClusterLabel text) : ∀ c ∈ text.toList, c.utf8Size = 1 :=
  fun c member => (allowed.plain c member).utf8Size_eq

theorem dot_not_mem (allowed : IsClusterLabel text) : '.' ∉ text.toList :=
  fun member => (allowed.plain '.' member).ne_dot rfl

theorem length_utf8 (allowed : IsClusterLabel text) :
    (Name.utf8 text.toList).length = text.toList.length :=
  Name.length_utf8 allowed.ascii

theorem ne_empty (allowed : IsClusterLabel text) : text ≠ "" := by
  rintro rfl
  exact absurd allowed.length.1 (by decide)

theorem dot_not_mem_underscored (allowed : IsClusterLabel text) : '.' ∉ '_' :: text.toList := by
  rw [List.mem_cons, not_or]
  exact ⟨by decide, allowed.dot_not_mem⟩

theorem length_underscored (allowed : IsClusterLabel text) :
    (Name.utf8 ('_' :: text.toList)).length = text.toList.length + 1 := by
  refine Name.length_utf8 ?_
  rw [List.forall_mem_cons]
  exact ⟨by decide, allowed.ascii⟩

/-- A character that is allowed, repeated. -/
theorem ofList_replicate {c : Char} (plain : IsPlain c) {count : Nat} (long : 1 ≤ count ∧ count ≤ 63) :
    IsClusterLabel (String.ofList (List.replicate count c)) := by
  constructor
  · rw [String.toList_ofList, List.length_replicate]
    exact long
  · rw [String.toList_ofList]
    intro other member
    rw [List.eq_of_mem_replicate member]
    exact plain

end IsClusterLabel

/-! ### Names from them -/

namespace Service

open Name

/-- The host of a service that leaves its name to the standard one. -/
def Profile.standardHost (profile : Profile) : Name :=
  ⟨[utf8 profile.name.toList, utf8 profile.space.toList, localLabel]⟩

/-- The group of the services on a port. -/
def standardGroup (port label : String) : Name :=
  ⟨[utf8 ('_' :: port.toList), utf8 ('_' :: label.toList), localLabel]⟩

/-- The instance of a service that leaves its name to the standard one. -/
def Profile.standardOwner (profile : Profile) (port label : String) : Name :=
  ⟨utf8 (profile.space.toList ++ '/' :: profile.name.toList) :: (standardGroup port label).labels⟩

variable {settings : SyncSettings} {service : Service} {profile : Profile} {address : IpAddress}
  {portName label : String}

theorem Transport.length_utf8 {protocol : Option String} (transport : Transport protocol label) :
    (utf8 ('_' :: label.toList)).length = 4 := by
  cases transport <;> decide

/-- The label of a standard instance: namespace, slash and name. -/
theorem length_standardInstance (nameAllowed : IsClusterLabel profile.name)
    (spaceAllowed : IsClusterLabel profile.space) :
    (utf8 (profile.space.toList ++ '/' :: profile.name.toList)).length
      = profile.space.toList.length + profile.name.toList.length + 1 := by
  have ascii : ∀ c ∈ profile.space.toList ++ '/' :: profile.name.toList, c.utf8Size = 1 := by
    rw [List.forall_mem_append, List.forall_mem_cons]
    exact ⟨spaceAllowed.ascii, by decide, nameAllowed.ascii⟩
  rw [Name.length_utf8 ascii, List.length_append, List.length_cons]
  omega

/-! #### The host -/

/-- The standard host writes name, namespace and `local`. -/
theorem written_standardHostname (nameUndotted : '.' ∉ profile.name.toList)
    (spaceUndotted : '.' ∉ profile.space.toList)
    (unnamed : profile.annotations.get? hostnameKey = none) :
    written profile.hostname = profile.standardHost.labels := by
  have ends : (profile.name ++ "." ++ profile.space ++ ".local.").toList
      = (profile.name.toList ++ '.' :: profile.space.toList) ++ ".local.".toList := by
    simp [String.toList_append]
  have hostname : profile.hostname = profile.name ++ "." ++ profile.space ++ ".local." := by
    unfold Profile.hostname
    rw [unnamed, Option.getD_none, Hostname.underLocal_eq_self ends]
  rw [hostname, written_local ends, List.splitOn_append_cons_self, List.splitOn_eq_singleton nameUndotted,
    List.splitOn_eq_singleton spaceUndotted]
  rfl

/-- **The standard host is a name.** -/
theorem read?_standardHostname (nameAllowed : IsClusterLabel profile.name)
    (spaceAllowed : IsClusterLabel profile.space)
    (unnamed : profile.annotations.get? hostnameKey = none) :
    read? profile.hostname = .ok profile.standardHost := by
  have labels := written_standardHostname nameAllowed.dot_not_mem spaceAllowed.dot_not_mem unnamed
  have nameLength := nameAllowed.length_utf8 ▸ nameAllowed.length
  have spaceLength := spaceAllowed.length_utf8 ▸ spaceAllowed.length
  refine read?_eq_ok_iff.mpr ⟨labels.symm, ?_, ?_⟩
  · unfold Profile.standardHost
    rw [List.forall_mem_cons, List.forall_mem_cons, List.forall_mem_singleton]
    exact ⟨nameLength, spaceLength, by decide⟩
  · unfold wireLength Profile.standardHost
    rw [labelsLength_cons, labelsLength_cons, labelsLength_cons, labelsLength_nil,
      length_localLabel]
    omega

/-! #### Group and instance -/

/-- The group is a name exactly if the name of the port leaves room for the underscore. -/
theorem fits_standardGroup_iff {protocol : Option String} (allowed : IsClusterLabel portName)
    (transport : Transport protocol label) :
    (standardGroup portName label).Fits ↔ portName.toList.length ≤ 62 := by
  have portLength := allowed.length_underscored
  have labelLength := transport.length_utf8
  have bounds := allowed.length
  constructor
  · intro fits
    have short := (fits.labels _ List.mem_cons_self).2
    omega
  · intro short
    constructor
    · unfold standardGroup
      rw [List.forall_mem_cons, List.forall_mem_cons, List.forall_mem_singleton,
        length_localLabel]
      omega
    · unfold wireLength standardGroup
      rw [labelsLength_cons, labelsLength_cons, labelsLength_cons, labelsLength_nil,
        length_localLabel]
      omega

/-- The instance is a name exactly if the group is one and namespace and name leave room for the slash. -/
theorem fits_standardOwner_iff {protocol : Option String} (nameAllowed : IsClusterLabel profile.name)
    (spaceAllowed : IsClusterLabel profile.space) (allowed : IsClusterLabel portName)
    (transport : Transport protocol label) :
    (profile.standardOwner portName label).Fits
      ↔ portName.toList.length ≤ 62 ∧
        profile.space.toList.length + profile.name.toList.length ≤ 62 := by
  have instanceLength := length_standardInstance nameAllowed spaceAllowed
  have portLength := allowed.length_underscored
  have labelLength := transport.length_utf8
  have bounds := allowed.length
  constructor
  · intro fits
    have short := (fits.labels _ List.mem_cons_self).2
    have later := (fits.labels _ (List.mem_cons_of_mem _ List.mem_cons_self)).2
    omega
  · rintro ⟨short, together⟩
    constructor
    · unfold Profile.standardOwner standardGroup
      rw [List.forall_mem_cons, List.forall_mem_cons, List.forall_mem_cons,
        List.forall_mem_singleton, length_localLabel]
      omega
    · unfold wireLength Profile.standardOwner standardGroup
      rw [labelsLength_cons, labelsLength_cons, labelsLength_cons, labelsLength_cons,
        labelsLength_nil, length_localLabel]
      omega

theorem written_standardGroup {protocol : Option String} (allowed : IsClusterLabel portName)
    (transport : Transport protocol label) :
    written (Discovery.groupName portName label) = (standardGroup portName label).labels := by
  rw [Discovery.written_groupName,
    lowercase_eq_self fun c member => (allowed.plain c member).isLowered,
    List.splitOn_eq_singleton allowed.dot_not_mem_underscored, List.splitOn_eq_singleton transport.dot_not_mem]
  rfl

/-- A standard instance writes namespace, slash and name as one label in front of its group. -/
theorem written_standardInstance (nameUndotted : '.' ∉ profile.name.toList)
    (spaceUndotted : '.' ∉ profile.space.toList)
    (unnamed : profile.annotations.get? instanceKey = none) {group : String} (given : group ≠ "") :
    written (profile.instanceName ++ "." ++ group)
      = utf8 (profile.space.toList ++ '/' :: profile.name.toList) :: written group := by
  have name : profile.instanceName.toList = profile.space.toList ++ '/' :: profile.name.toList := by
    unfold Profile.instanceName
    rw [unnamed, Option.getD_none]
    simp [String.toList_append]
  have undotted : '.' ∉ profile.space.toList ++ '/' :: profile.name.toList := by
    rw [List.mem_append, List.mem_cons, not_or, not_or]
    exact ⟨spaceUndotted, by decide, nameUndotted⟩
  rw [written_append _ given, name, List.splitOn_eq_singleton undotted]
  rfl

theorem groupName_ne_empty (port label : String) : Discovery.groupName port label ≠ "" := by
  intro empty
  have none := congrArg String.toList empty
  simp [Discovery.groupName, String.toList_append] at none

theorem written_instanceName {protocol : Option String} (nameAllowed : IsClusterLabel profile.name)
    (spaceAllowed : IsClusterLabel profile.space) (allowed : IsClusterLabel portName)
    (transport : Transport protocol label) (unnamed : profile.annotations.get? instanceKey = none) :
    written (profile.instanceName ++ "." ++ Discovery.groupName portName label)
      = (profile.standardOwner portName label).labels := by
  rw [written_standardInstance nameAllowed.dot_not_mem spaceAllowed.dot_not_mem unnamed
    (groupName_ne_empty portName label), written_standardGroup allowed transport]
  rfl

/-! ### Ports -/

/-- A port under a name that the cluster allows, with a number in range and a protocol that service
discovery knows. -/
structure IsStandard (port : ServicePort) (name label : String) : Prop where
  named : port.name = some name
  allowed : IsClusterLabel name
  inRange : 1 ≤ port.number ∧ port.number ≤ 65535
  transport : Transport port.protocol label

/-- Where a port is found under standard names. -/
def Profile.standardFinding (profile : Profile) (port : String) (number : UInt16) (label : String) :
    Finding :=
  ⟨port, number, label, standardGroup port label, profile.standardOwner port label⟩

/-- Whether the names of a service and of a port leave room for what is put beside them in a label. -/
def Profile.HasRoom (profile : Profile) (port : String) : Prop :=
  port.toList.length ≤ 62 ∧ profile.space.toList.length + profile.name.toList.length ≤ 62

instance (profile : Profile) (port : String) : Decidable (profile.HasRoom port) :=
  inferInstanceAs (Decidable (_ ∧ _))

variable {port : ServicePort}

theorem finds_standard (nameAllowed : IsClusterLabel profile.name)
    (spaceAllowed : IsClusterLabel profile.space)
    (unnamed : profile.annotations.get? instanceKey = none) (standard : IsStandard port portName label)
    {number : UInt16} (numbered : (number.toNat : Int) = port.number)
    (room : profile.HasRoom portName) :
    Finds profile port (profile.standardFinding portName number label) := by
  have given : profile.instanceName ≠ "" := by
    unfold Profile.instanceName
    rw [unnamed, Option.getD_none]
    intro none
    have length := congrArg (fun text => text.toList.length) none
    simp [String.toList_append] at length
  have grouped : read? (Discovery.groupName portName label) = .ok (standardGroup portName label) :=
    read?_eq_ok_iff.mpr ⟨(written_standardGroup standard.allowed standard.transport).symm,
      (fits_standardGroup_iff standard.allowed standard.transport).mpr room.1⟩
  have owned : read? (profile.instanceName ++ "." ++ Discovery.groupName portName label)
      = .ok (profile.standardOwner portName label) :=
    read?_eq_ok_iff.mpr
      ⟨(written_instanceName nameAllowed spaceAllowed standard.allowed standard.transport unnamed).symm,
        (fits_standardOwner_iff nameAllowed spaceAllowed standard.allowed standard.transport).mpr room⟩
  exact ⟨given, standard.named, standard.allowed.ne_empty, standard.inRange, numbered,
    standard.transport, grouped, owned⟩

theorem hasRoom_of_finds (nameAllowed : IsClusterLabel profile.name)
    (spaceAllowed : IsClusterLabel profile.space)
    (unnamed : profile.annotations.get? instanceKey = none) (standard : IsStandard port portName label)
    {finding : Finding} (finds : Finds profile port finding) : profile.HasRoom portName := by
  obtain rfl : finding.port = portName := Option.some.inj (finds.named.symm.trans standard.named)
  obtain rfl : finding.label = label := finds.transport.unique standard.transport
  obtain ⟨labels, fits⟩ := read?_eq_ok_iff.mp finds.owned
  rw [written_instanceName nameAllowed spaceAllowed standard.allowed standard.transport unnamed] at labels
  have owner : finding.owner = profile.standardOwner finding.port finding.label :=
    congrArg Name.mk labels
  rw [owner] at fits
  exact (fits_standardOwner_iff nameAllowed spaceAllowed standard.allowed standard.transport).mp fits

/-- **A standard port is found exactly if the names leave room in their labels.** -/
theorem eq_of_yields_standard {host : Name} (nameAllowed : IsClusterLabel profile.name)
    (spaceAllowed : IsClusterLabel profile.space)
    (unnamed : profile.annotations.get? instanceKey = none) (standard : IsStandard port portName label)
    {number : UInt16} (numbered : (number.toNat : Int) = port.number)
    {records : List Record} (yields : Yields profile host port records) :
    records = if profile.HasRoom portName then
      (profile.standardFinding portName number label).records host (profile.textFor portName) else [] := by
  cases yields with
  | found finding finds =>
    have room := hasRoom_of_finds nameAllowed spaceAllowed unnamed standard finds
    have same := finds.unique (finds_standard nameAllowed spaceAllowed unnamed standard numbered room)
    rw [if_pos room, same]
    rfl
  | nothing unfound =>
    rw [if_neg fun room => unfound _
      (finds_standard nameAllowed spaceAllowed unnamed standard numbered room)]

/-! ### The records of a service with standard names -/

/-- A service none of whose ports has room has the records of its host and no others. -/
theorem records_of_no_room (publishable : Publishable settings service profile address)
    (nameAllowed : IsClusterLabel profile.name) (spaceAllowed : IsClusterLabel profile.space)
    (hostUnnamed : hostnameKey ∉ profile.annotations.keys)
    (instanceUnnamed : instanceKey ∉ profile.annotations.keys)
    (crowded : ∀ port ∈ service.ports, ∃ portName label,
      IsStandard port portName label ∧ ¬profile.HasRoom portName) :
    service.records settings
      = [.built profile.standardHost address.forwardData,
        .built address.reverseOwner (.ptr profile.standardHost)] := by
  have hosted := read?_standardHostname nameAllowed spaceAllowed (TextMap.get?_eq_none hostUnnamed)
  rw [records_of_publishable publishable hosted, List.cons.injEq, List.cons.injEq]
  refine ⟨rfl, rfl, List.flatMap_eq_nil_iff.mpr fun port listed => ?_⟩
  obtain ⟨portName, label, standard, noRoom⟩ := crowded port listed
  have own := eq_of_yields_standard nameAllowed spaceAllowed (TextMap.get?_eq_none instanceUnnamed)
    standard (toNat_portNumber standard.inRange) (yields_portRecords hosted settings.publishAll port)
  rw [if_neg noRoom] at own
  exact own

/-- **Services under names that the cluster allows are not always published with all of their ports.** A
port is missing where namespace and name have one byte too many together, or the name of the port has. -/
theorem standard_names_not_always_found :
    let settings : SyncSettings := ⟨[.service], true, "", 120, false, 30⟩
    let serviceOf (space name port : String) : Service :=
      ⟨⟨some name, none, some space, none, .empty⟩, some "LoadBalancer", none,
        [⟨some port, 80, none⟩], [some "192.0.2.7"]⟩
    let letters (count : Nat) : String := String.ofList (List.replicate count 'a')
    let address : IpAddress := .v4 ⟨192, 0, 2, 7⟩
    ∀ space name port,
      (space, name, port) ∈ [(letters 31, letters 32, "http"), ("web", "app", letters 63)] →
      ∃ profile, Publishable settings (serviceOf space name port) profile address ∧
        IsClusterLabel profile.name ∧ IsClusterLabel profile.space ∧
        hostnameKey ∉ profile.annotations.keys ∧ instanceKey ∉ profile.annotations.keys ∧
        (∀ own ∈ (serviceOf space name port).ports, IsStandard own port "tcp") ∧
        (serviceOf space name port).records settings
          = [.built profile.standardHost address.forwardData,
            .built address.reverseOwner (.ptr profile.standardHost)] := by
  intro settings serviceOf letters address space name port given
  have long : IsClusterLabel space ∧ IsClusterLabel name ∧ IsClusterLabel port ∧
      ¬(port.toList.length ≤ 62 ∧ space.toList.length + name.toList.length ≤ 62) := by
    have repeated {count : Nat} (few : 1 ≤ count ∧ count ≤ 63) : IsClusterLabel (letters count) :=
      .ofList_replicate (by decide) few
    have length (count : Nat) : (letters count).toList.length = count := by
      rw [String.toList_ofList, List.length_replicate]
    simp only [List.mem_cons, Prod.mk.injEq, List.not_mem_nil, or_false] at given
    rcases given with ⟨rfl, rfl, rfl⟩ | ⟨rfl, rfl, rfl⟩
    · refine ⟨repeated (by decide), repeated (by decide), by decide, ?_⟩
      rw [length, length]
      decide
    · refine ⟨by decide, by decide, repeated (by decide), ?_⟩
      rw [length]
      decide
  have addressed : (lastReported? ["192.0.2.7"]).bind IpAddress.read? = some address := by
    decide +kernel
  have publishable : Publishable settings (serviceOf space name port) _ address :=
    ⟨rfl, .inl rfl, .inl rfl, addressed⟩
  have standard : ∀ own ∈ (serviceOf space name port).ports, IsStandard own port "tcp" := by
    intro own listed
    obtain rfl := List.mem_singleton.mp listed
    have inRange : (1 : Int) ≤ 80 ∧ (80 : Int) ≤ 65535 := by decide
    exact ⟨rfl, long.2.2.1, inRange, .unnamed⟩
  refine ⟨_, publishable, long.2.1, long.1, List.not_mem_nil, List.not_mem_nil, standard, ?_⟩
  exact records_of_no_room publishable long.2.1 long.1 List.not_mem_nil List.not_mem_nil
    fun own listed => ⟨port, "tcp", standard own listed, long.2.2.2⟩

/-- **Of a service with standard names the records of the host are never missing, and those of a standard
port only if the names leave no room.** The host has name, namespace and `local` as its labels. The port is
found under the instance with namespace, slash and name in one label if these take at most 62 bytes together
and the name of the port takes at most 62; otherwise it yields nothing. -/
theorem standard_names_found_if_room (publishable : Publishable settings service profile address)
    (nameAllowed : IsClusterLabel profile.name) (spaceAllowed : IsClusterLabel profile.space)
    (hostUnnamed : hostnameKey ∉ profile.annotations.keys)
    (instanceUnnamed : instanceKey ∉ profile.annotations.keys) :
    ∃ recordsOf : ServicePort → List Record,
      service.records settings
        = .built profile.standardHost address.forwardData
          :: .built address.reverseOwner (.ptr profile.standardHost)
          :: service.ports.flatMap recordsOf ∧
      ∀ port portName label, IsStandard port portName label →
        ∃ number : UInt16, (number.toNat : Int) = port.number ∧
          recordsOf port = if profile.HasRoom portName then
            (profile.standardFinding portName number label).records profile.standardHost
              (profile.textFor portName) else [] := by
  have hosted := read?_standardHostname nameAllowed spaceAllowed (TextMap.get?_eq_none hostUnnamed)
  refine ⟨_, records_of_publishable publishable hosted, ?_⟩
  intro port portName label standard
  have numbered := toNat_portNumber standard.inRange
  refine ⟨portNumber port.number, numbered, ?_⟩
  exact eq_of_yields_standard nameAllowed spaceAllowed (TextMap.get?_eq_none instanceUnnamed) standard
    numbered (yields_portRecords hosted settings.publishAll port)

/-- The longest names that leave room: 62 bytes together, and 62 for the port. -/
theorem standard_names_found_if_room_of_longest :
    let settings : SyncSettings := ⟨[.service], true, "", 120, true, 30⟩
    let letters (count : Nat) : String := String.ofList (List.replicate count 'a')
    let port : ServicePort := ⟨some (letters 62), 65535, some "UDP"⟩
    let service : Service :=
      ⟨⟨some (letters 61), none, some "b", none, .empty⟩, none, some "fd00::1",
        [⟨some "http", 0, none⟩, port], []⟩
    let address : IpAddress := .v6 ⟨#v[0xfd, 0, 0, 0, 0, 0, 0, 0, 0, 0, 0, 0, 0, 0, 0, 1]⟩
    ∃ profile, Publishable settings service profile address ∧
      IsClusterLabel profile.name ∧ IsClusterLabel profile.space ∧
      hostnameKey ∉ profile.annotations.keys ∧ instanceKey ∉ profile.annotations.keys ∧
      IsStandard port (letters 62) "udp" ∧ profile.HasRoom (letters 62) ∧
      ∃ number : UInt16, (number.toNat : Int) = port.number ∧
        ∀ record ∈ (profile.standardFinding (letters 62) number "udp").records profile.standardHost
          (profile.textFor (letters 62)), record ∈ service.records settings := by
  intro settings letters port service address
  have length (count : Nat) : (letters count).toList.length = count := by
    rw [String.toList_ofList, List.length_replicate]
  obtain ⟨profile, named⟩ : ∃ profile, service.profile? = some profile := ⟨_, rfl⟩
  have publishable : Publishable settings service profile address := by
    obtain rfl := Option.some.inj named
    exact ⟨named, .inl rfl, .inl rfl, by decide +kernel⟩
  obtain ⟨name, space, unmarked⟩ : profile.name = letters 61 ∧ profile.space = "b" ∧
      ∀ key, key ∉ profile.annotations.keys := by
    obtain rfl := Option.some.inj named
    exact ⟨rfl, rfl, fun _ => List.not_mem_nil⟩
  have nameAllowed : IsClusterLabel profile.name := by
    rw [name]
    exact .ofList_replicate (by decide) (by decide)
  have spaceAllowed : IsClusterLabel profile.space := by
    rw [space]
    decide
  have standard : IsStandard port (letters 62) "udp" :=
    ⟨rfl, .ofList_replicate (by decide) (by decide), by decide, .udp⟩
  have room : profile.HasRoom (letters 62) := by
    unfold Profile.HasRoom
    rw [name, space, length, length]
    decide
  obtain ⟨recordsOf, all, found⟩ := standard_names_found_if_room publishable nameAllowed spaceAllowed
    (unmarked _) (unmarked _)
  obtain ⟨number, numbered, own⟩ := found port (letters 62) "udp" standard
  rw [if_pos room] at own
  refine ⟨profile, publishable, nameAllowed, spaceAllowed, unmarked _, unmarked _, standard, room,
    number, numbered, ?_⟩
  rw [all, ← own]
  intro record member
  have listed : port ∈ service.ports := List.mem_cons_of_mem _ List.mem_cons_self
  exact List.mem_cons_of_mem _ (List.mem_cons_of_mem _ (List.mem_flatMap.mpr ⟨port, listed, member⟩))

end Service

end ClusterMdns
