import ClusterMdns.Cluster.IngressRecords
import ClusterMdns.Proofs.Record.Reverse

/-!
What the records of an object are, told from the fields of the object.

A service object is published if it has a name, passes the restriction to a namespace, is eligible, has an
address (`Service.Publishable`) and its host name is a name. It then has the two records of its host and,
for each port in order, the records under which the port is found (`Service.Finds`) or none.

* `Service.yields_portRecords`: a port has the three records of its finding, or there is none and it has
  no records.
* `Service.records_of_publishable` and `Service.exists_publishable`: the records of an object that is
  published, and that no other object has any.
* `Service.exists_of_mem_records`: what a record of a service object is, by cases.
* `Service.records_exact`: both together, each gate and each condition of a port spelled out.
* `Ingress.exists_of_mem_records`: each record of an ingress is the address of one of its hosts.
-/

namespace ClusterMdns

open Advertisement

/-! ### Gates -/

theorem spaceAdmitted_iff (settings : SyncSettings) (space : String) :
    spaceAdmitted settings.onlySpace? space = true
      ↔ settings.space = "" ∨ space = settings.space := by
  unfold spaceAdmitted SyncSettings.onlySpace?
  by_cases all : settings.space = ""
  · simp [all]
  · rw [if_neg (by simpa using all)]
    simp only [beq_iff_eq, all, false_or]
    exact eq_comm

namespace Service

theorem isMarked_iff (profile : Profile) :
    isMarked profile = true
      ↔ ∃ key ∈ [hostnameKey, instanceKey, textKey, publishKey], key ∈ profile.annotations.keys := by
  unfold isMarked
  rw [List.any_eq_true]
  refine exists_congr fun key => and_congr_right fun _ => ?_
  exact (profile.annotations.mem_keys_iff key).symm

/-- Whether a service object is to be published under an address: it has a name, passes the restriction
to a namespace, is eligible and has the address. -/
structure Publishable (settings : SyncSettings) (service : Service) (profile : Profile)
    (address : IpAddress) : Prop where
  named : service.profile? = some profile
  admitted : settings.space = "" ∨ profile.space = settings.space
  eligible : settings.publishAll = true
    ∨ ∃ key ∈ [hostnameKey, instanceKey, textKey, publishKey], key ∈ profile.annotations.keys
  addressed : profile.address? settings.publishInternal = some address

/-! ### The names and the text of a service -/

/-- The host name of a service: the one that an annotation gives, else name and namespace, brought under
the domain `local`. -/
def Profile.hostname (profile : Profile) : String :=
  Hostname.underLocal ((profile.annotations.get? hostnameKey).getD
    (profile.name ++ "." ++ profile.space ++ ".local."))

/-- The name of the instance: the one that an annotation gives, else namespace and name. -/
def Profile.instanceName (profile : Profile) : String :=
  (profile.annotations.get? instanceKey).getD (profile.space ++ "/" ++ profile.name)

/-- The strings in the text record of a port: the pairs configured under exactly its name in the order
of their keys, or one empty string where there are none. -/
def Profile.textFor (profile : Profile) (port : String) : List String :=
  match (profile.annotations.get? textKey).bind fun text => (PortText.read text).get? port with
  | some pairs =>
    if pairs.entries.isEmpty then [""] else pairs.entries.map fun pair => pair.1 ++ "=" ++ pair.2
  | none => [""]

theorem textOf_strings (publishAll : Bool) (profile : Profile) (port : String) :
    Discovery.textOf ((ofService publishAll profile).strings port) = profile.textFor port := by
  have texts : (ofService publishAll profile).texts
      = ((profile.annotations.get? textKey).map PortText.read).getD .empty := rfl
  unfold Profile.textFor strings
  rw [texts]
  cases profile.annotations.get? textKey with
  | none => rfl
  | some text =>
    rw [Option.map_some, Option.getD_some, Option.bind_some]
    cases (PortText.read text).get? port with
    | none => rfl
    | some pairs =>
      show Discovery.textOf (pairs.entries.map PortText.flattened) = _
      unfold Discovery.textOf
      rw [List.isEmpty_map]
      rfl

/-! ### Ports -/

/-- The label of a transport protocol in the names of service discovery, which knows TCP, also where no
protocol is named, and UDP. -/
inductive Transport : Option String → String → Prop
  | unnamed : Transport none "tcp"
  | tcp : Transport (some "TCP") "tcp"
  | udp : Transport (some "UDP") "udp"

theorem label?_named_iff (protocol : Option String) (label : String) :
    (Protocol.named protocol).label? = some label ↔ Transport protocol label := by
  constructor
  · intro known
    unfold Protocol.named at known
    split at known
    case h_1 =>
      cases known
      exact .unnamed
    case h_2 name =>
      split at known
      case isTrue tcp =>
        subst tcp
        cases known
        exact .tcp
      case isFalse =>
        split at known
        case isTrue udp =>
          subst udp
          cases known
          exact .udp
        case isFalse => cases known
  · rintro (_ | _ | _) <;> decide

theorem toNat_portNumber {number : Int} (inRange : 1 ≤ number ∧ number ≤ 65535) :
    ((portNumber number).toNat : Int) = number := by
  have small : number.toNat < UInt16.size := by
    unfold UInt16.size
    omega
  unfold portNumber
  rw [if_pos (by unfold UInt16.size; omega), UInt16.toNat_ofNat', Nat.mod_eq_of_lt small]
  omega

/-- A number out of range is the port zero, so that it does not wrap around. -/
theorem portNumber_ne_zero_iff (number : Int) :
    portNumber number ≠ 0 ↔ 1 ≤ number ∧ number ≤ 65535 := by
  constructor
  · intro given
    unfold portNumber at given
    split at given
    case isFalse => exact absurd rfl given
    case isTrue inRange =>
      unfold UInt16.size at inRange
      have positive : number ≠ 0 := by
        rintro rfl
        exact given rfl
      omega
  · intro inRange zero
    have same := toNat_portNumber inRange
    rw [zero] at same
    have none : ((0 : UInt16).toNat : Int) = 0 := rfl
    omega

/-- Where a port is found: its name and number, the label of its protocol, and the names of the group
and of the instance. -/
structure Finding where
  port : String
  number : UInt16
  label : String
  group : Name
  owner : Name

/-- The three records of a finding. -/
def Finding.records (finding : Finding) (host : Name) (texts : List String) : List Record :=
  [.built finding.group (.ptr finding.owner),
    .built finding.owner (.srv 0 0 finding.number host),
    .built finding.owner (.txt texts)]

/-- What it takes for a port of a service object to be found. -/
structure Finds (profile : Profile) (port : ServicePort) (finding : Finding) : Prop where
  instanceGiven : profile.instanceName ≠ ""
  named : port.name = some finding.port
  nameGiven : finding.port ≠ ""
  inRange : 1 ≤ port.number ∧ port.number ≤ 65535
  numbered : (finding.number.toNat : Int) = port.number
  transport : Transport port.protocol finding.label
  grouped : Name.read? (Discovery.groupName finding.port finding.label) = .ok finding.group
  owned : Name.read? (profile.instanceName ++ "." ++ Discovery.groupName finding.port finding.label)
    = .ok finding.owner

theorem Transport.unique {protocol : Option String} {label other : String}
    (transport : Transport protocol label) (again : Transport protocol other) : label = other := by
  rw [← label?_named_iff] at transport again
  exact Option.some.inj (transport.symm.trans again)

/-- The labels of protocols have no dots. -/
theorem dot_not_mem_of_label? {protocol : Protocol} {label : String}
    (known : protocol.label? = some label) : '.' ∉ '_' :: label.toList := by
  cases protocol <;> cases known <;> decide

theorem Transport.dot_not_mem {protocol : Option String} {label : String}
    (transport : Transport protocol label) : '.' ∉ '_' :: label.toList :=
  dot_not_mem_of_label? ((label?_named_iff _ _).mpr transport)

/-- A port is found in one way at most. -/
theorem Finds.unique {profile : Profile} {port : ServicePort} {finding other : Finding}
    (finds : Finds profile port finding) (again : Finds profile port other) : finding = other := by
  obtain ⟨name, number, label, group, owner⟩ := finding
  obtain ⟨otherName, otherNumber, otherLabel, otherGroup, otherOwner⟩ := other
  obtain rfl : name = otherName := Option.some.inj (finds.named.symm.trans again.named)
  obtain rfl : label = otherLabel := finds.transport.unique again.transport
  obtain rfl : number = otherNumber :=
    UInt16.toNat_inj.mp (Int.ofNat.inj (finds.numbered.trans again.numbered.symm))
  obtain rfl : group = otherGroup := Except.ok.inj (finds.grouped.symm.trans again.grouped)
  obtain rfl : owner = otherOwner := Except.ok.inj (finds.owned.symm.trans again.owned)
  rfl

/-- The records that a port of a service object yields. -/
inductive Yields (profile : Profile) (host : Name) (port : ServicePort) : List Record → Prop
  | found (finding : Finding) (finds : Finds profile port finding) :
    Yields profile host port (finding.records host (profile.textFor finding.port))
  | nothing (unfound : ∀ finding, ¬Finds profile port finding) : Yields profile host port []

end Service

/-! ### The records of one port -/

namespace Discovery

variable {instanceName service hostname : String} {protocol : Protocol} {port : UInt16}
  {strings : List String}

/-- What a group writes: the service in small letters and the protocol, each after an underscore and cut at
its dots, and `local`. -/
theorem written_groupName (service label : String) :
    Name.written (groupName service label)
      = (('_' :: Text.lowercase service.toList).splitOn '.').map Name.utf8
        ++ ((('_' :: label.toList).splitOn '.').map Name.utf8 ++ [Name.localLabel]) := by
  have ends : (groupName service label).toList
      = ('_' :: Text.lowercase service.toList ++ '.' :: '_' :: label.toList) ++ ".local.".toList := by
    simp [groupName, String.toList_append]
  rw [Name.written_local ends, List.splitOn_append_cons_self, List.map_append, List.append_assoc]

theorem records_eq_bundle {label : String} {group owner host : Name}
    (instanceGiven : instanceName ≠ "") (serviceGiven : service ≠ "") (portGiven : port ≠ 0)
    (known : protocol.label? = some label) (grouped : Name.read? (groupName service label) = .ok group)
    (owned : Name.read? (instanceName ++ "." ++ groupName service label) = .ok owner)
    (hosted : Name.read? hostname = .ok host) :
    records instanceName service protocol hostname port strings
      = bundle group owner host port strings := by
  have hostGiven : hostname ≠ "" := by
    rintro rfl
    cases hosted
  unfold records
  rw [if_neg (by simp [instanceGiven, serviceGiven, hostGiven, portGiven]), known]
  dsimp only
  rw [grouped, owned, hosted]

/-- Where a port has records, nothing that they need is missing. -/
theorem exists_of_records_ne_nil
    (inhabited : records instanceName service protocol hostname port strings ≠ []) :
    instanceName ≠ "" ∧ service ≠ "" ∧ port ≠ 0 ∧ ∃ label group owner host,
      protocol.label? = some label ∧ Name.read? (groupName service label) = .ok group ∧
        Name.read? (instanceName ++ "." ++ groupName service label) = .ok owner ∧
        Name.read? hostname = .ok host := by
  unfold records at inhabited
  split at inhabited
  case isTrue => exact absurd rfl inhabited
  case isFalse given =>
    simp only [Bool.or_eq_true, String.isEmpty_iff, beq_iff_eq, not_or] at given
    refine ⟨given.1.1.1, given.1.1.2, given.2, ?_⟩
    split at inhabited
    case h_1 => exact absurd rfl inhabited
    case h_2 label known =>
      dsimp only at inhabited
      split at inhabited
      case h_1 group owner host grouped owned hosted =>
        exact ⟨label, group, owner, host, known, grouped, owned, hosted⟩
      case h_2 => exact absurd rfl inhabited

end Discovery

namespace Service

variable {settings : SyncSettings} {service : Service} {profile : Profile} {address : IpAddress}
  {host : Name}

theorem portRecords_of_finds (accepted : Name.read? profile.hostname = .ok host) (publishAll : Bool)
    {port : ServicePort} {finding : Finding} (finds : Finds profile port finding) :
    portRecords (ofService publishAll profile) (portOf port)
      = finding.records host (profile.textFor finding.port) := by
  have number : portNumber port.number = finding.number := by
    have same := (toNat_portNumber finds.inRange).trans finds.numbered.symm
    exact UInt16.toNat_inj.mp (Int.ofNat.inj same)
  have positive : finding.number ≠ 0 := by
    rw [← number]
    exact (portNumber_ne_zero_iff port.number).mpr finds.inRange
  show Discovery.records profile.instanceName (port.name.getD "") (.named port.protocol)
    profile.hostname (portNumber port.number)
    ((ofService publishAll profile).strings (port.name.getD "")) = _
  rw [finds.named, Option.getD_some, number,
    Discovery.records_eq_bundle finds.instanceGiven finds.nameGiven positive
      ((label?_named_iff _ _).mpr finds.transport) finds.grouped finds.owned accepted]
  unfold Discovery.bundle
  rw [textOf_strings]
  rfl

/-- A port with records is found. -/
theorem exists_finds {publishAll : Bool} {port : ServicePort}
    (inhabited : portRecords (ofService publishAll profile) (portOf port) ≠ []) :
    ∃ finding, Finds profile port finding := by
  obtain ⟨instanceGiven, nameGiven, positive, label, group, owner, _, known, grouped, owned, _⟩ :=
    Discovery.exists_of_records_ne_nil inhabited
  have inRange := (portNumber_ne_zero_iff port.number).mp positive
  have named : port.name = some (portOf port).name := by
    cases given : port.name with
    | none =>
      have missing : (portOf port).name = "" := by
        show port.name.getD "" = ""
        rw [given, Option.getD_none]
      exact absurd missing nameGiven
    | some name =>
      show some name = some (port.name.getD "")
      rw [given, Option.getD_some]
  exact ⟨⟨(portOf port).name, (portOf port).number, label, group, owner⟩, instanceGiven, named,
    nameGiven, inRange, toNat_portNumber inRange, (label?_named_iff _ _).mp known, grouped, owned⟩

/-- **A port has the three records of its finding, or there is none and it has no records.** -/
theorem yields_portRecords (accepted : Name.read? profile.hostname = .ok host) (publishAll : Bool)
    (port : ServicePort) :
    Yields profile host port (portRecords (ofService publishAll profile) (portOf port)) := by
  by_cases found : ∃ finding, Finds profile port finding
  · obtain ⟨finding, finds⟩ := found
    rw [portRecords_of_finds accepted publishAll finds]
    exact .found finding finds
  · have empty : portRecords (ofService publishAll profile) (portOf port) = [] :=
      Decidable.not_not.mp fun inhabited => found (exists_finds inhabited)
    rw [empty]
    exact .nothing (not_exists.mp found)

/-! ### The records of a service object -/

/-- **The records of an object that is published: those of its host and of each port in order.** -/
theorem records_of_publishable (publishable : Publishable settings service profile address)
    (accepted : Name.read? profile.hostname = .ok host) :
    service.records settings
      = .built host address.forwardData :: .built address.reverseOwner (.ptr host)
        :: service.ports.flatMap fun port =>
          portRecords (ofService settings.publishAll profile) (portOf port) := by
  have ports : profile.ports = service.ports.map portOf := by
    obtain ⟨name, _, rfl⟩ := Option.map_eq_some_iff.mp publishable.named
    rfl
  have eligible : (ofService settings.publishAll profile).eligible = true := by
    show (settings.publishAll || isMarked profile) = true
    rw [Bool.or_eq_true, isMarked_iff]
    exact publishable.eligible
  unfold records
  rw [publishable.named, Option.map_some, Option.getD_some]
  unfold Profile.records
  rw [(spaceAdmitted_iff settings profile.space).mpr publishable.admitted]
  dsimp only
  rw [eligible, publishable.addressed]
  dsimp only
  have hosted : Name.read? (ofService settings.publishAll profile).hostname = .ok host := accepted
  rw [hostRecords_of_read? hosted, ports, List.flatMap_map]
  rfl

/-- Where the host name is none, no records are left, as those of a port need the host too. -/
theorem exists_host (advertisement : Advertisement) (ports : List Port)
    (inhabited : hostRecords advertisement.hostname address true
      ++ ports.flatMap (portRecords advertisement) ≠ []) :
    ∃ host, Name.read? advertisement.hostname = .ok host := by
  refine Classical.byContradiction fun unread => inhabited ?_
  have refused := not_exists.mp unread
  rw [hostRecords_of_not_read? refused, List.nil_append, List.flatMap_eq_nil_iff]
  intro port _
  refine Classical.byContradiction fun found => ?_
  obtain ⟨_, _, _, _, _, _, host, _, _, _, hosted⟩ := Discovery.exists_of_records_ne_nil found
  exact refused host hosted

/-- **An object with records is published.** -/
theorem exists_publishable (inhabited : service.records settings ≠ []) :
    ∃ profile address host, Publishable settings service profile address ∧
      Name.read? profile.hostname = .ok host := by
  unfold records at inhabited
  cases named : service.profile? with
  | none =>
    rw [named] at inhabited
    exact absurd rfl inhabited
  | some profile =>
    rw [named, Option.map_some, Option.getD_some] at inhabited
    unfold Profile.records at inhabited
    split at inhabited
    case isTrue => exact absurd rfl inhabited
    case isFalse admitted =>
      rw [Bool.not_eq_true', Bool.not_eq_false, spaceAdmitted_iff] at admitted
      dsimp only at inhabited
      split at inhabited
      case isTrue => exact absurd rfl inhabited
      case isFalse eligible =>
        rw [Bool.not_eq_true', Bool.not_eq_false] at eligible
        have marked := (Bool.or_eq_true _ _).mp eligible
        rw [isMarked_iff] at marked
        split at inhabited
        case h_1 => exact absurd rfl inhabited
        case h_2 address addressed =>
          obtain ⟨host, hosted⟩ := exists_host _ _ inhabited
          exact ⟨profile, address, host, ⟨named, admitted, marked, addressed⟩, hosted⟩

/-- The records of a port are among those of the object. -/
theorem portRecords_subset (publishable : Publishable settings service profile address)
    (accepted : Name.read? profile.hostname = .ok host) {port : ServicePort}
    (listed : port ∈ service.ports) :
    portRecords (ofService settings.publishAll profile) (portOf port) ⊆ service.records settings := by
  intro record inside
  rw [records_of_publishable publishable accepted]
  exact List.mem_cons_of_mem _ (List.mem_cons_of_mem _
    (List.mem_flatMap.mpr ⟨port, listed, inside⟩))

/-- Where a port is found, its records are among those of the object. -/
theorem records_subset_of_finds (publishable : Publishable settings service profile address)
    (accepted : Name.read? profile.hostname = .ok host) {port : ServicePort}
    (listed : port ∈ service.ports) {finding : Finding} (finds : Finds profile port finding) :
    finding.records host (profile.textFor finding.port) ⊆ service.records settings := by
  rw [← portRecords_of_finds accepted settings.publishAll finds]
  exact portRecords_subset publishable accepted listed

/-- **What a record of a service object is**: the address of the host, the way back, or a record that a
port yields. -/
theorem exists_of_mem_records {record : Record} (member : record ∈ service.records settings) :
    ∃ profile address host, Publishable settings service profile address ∧
      Name.read? profile.hostname = .ok host ∧
      (record = .built host address.forwardData ∨ record = .built address.reverseOwner (.ptr host) ∨
        ∃ port ∈ service.ports, ∃ own, Yields profile host port own ∧ record ∈ own ∧
          own ⊆ service.records settings) := by
  obtain ⟨profile, address, host, publishable, accepted⟩ :=
    exists_publishable (List.ne_nil_of_mem member)
  refine ⟨profile, address, host, publishable, accepted, ?_⟩
  have parts := member
  rw [records_of_publishable publishable accepted, List.mem_cons, List.mem_cons,
    List.mem_flatMap] at parts
  refine parts.imp_right (Or.imp_right fun ⟨port, listed, inside⟩ => ?_)
  exact ⟨port, listed, _, yields_portRecords accepted settings.publishAll port, inside,
    portRecords_subset publishable accepted listed⟩

/-- **The exact records of a service object.** It has none unless it is published and its host name is a
name. Then it has the address of its host, the record that leads back, and for each port in order the
three records of its finding, or none where the port is not found. What one port yields does not depend
on the others. -/
theorem records_exact (settings : SyncSettings) (service : Service) :
    (service.records settings ≠ []
      ↔ ∃ profile address host, Publishable settings service profile address ∧
        Name.read? profile.hostname = .ok host) ∧
    ∀ profile address host, Publishable settings service profile address →
      Name.read? profile.hostname = .ok host →
      ∃ recordsOf : ServicePort → List Record,
        (∀ port, Yields profile host port (recordsOf port)) ∧
        service.records settings
          = .built host address.forwardData :: .built address.reverseOwner (.ptr host)
            :: service.ports.flatMap recordsOf := by
  refine ⟨⟨exists_publishable, ?_⟩, ?_⟩
  · rintro ⟨profile, address, host, publishable, hosted⟩
    rw [records_of_publishable publishable hosted]
    exact List.cons_ne_nil _ _
  · intro profile address host publishable hosted
    refine ⟨_, fun port => yields_portRecords hosted settings.publishAll port, ?_⟩
    exact records_of_publishable publishable hosted

/-- Ports that are out of range, unnamed or of another protocol yield nothing, and the ports around them
their records. -/
theorem records_exact_around_unusable_ports :
    let settings : SyncSettings := ⟨[.service], false, "web", 120, false, 30⟩
    let annotations : TextMap String :=
      .ofList [(textKey, "\x7b\"dns\": \x7b\"zone\": \"a\"\x7d, \"http\": \x7b\x7d\x7d")]
    let service : Service :=
      ⟨⟨some "app", none, some "web", none, annotations⟩, some "LoadBalancer", none,
        [⟨some "http", 65616, none⟩, ⟨some "Dns", 53, some "UDP"⟩, ⟨some "dns", 53, some "SCTP"⟩,
          ⟨none, 80, some "TCP"⟩, ⟨some "dns", 53, some "UDP"⟩],
        [some "192.0.2.7", none]⟩
    let label (text : String) : Label := Name.utf8 text.toList
    let host : Name := ⟨[label "app", label "web", label "local"]⟩
    let group : Name := ⟨[label "_dns", label "_udp", label "local"]⟩
    let owner : Name := ⟨label "web/app" :: group.labels⟩
    let address : IpAddress := .v4 ⟨192, 0, 2, 7⟩
    let finding (port : String) : Finding := ⟨port, 53, "udp", group, owner⟩
    ∃ profile, Publishable settings service profile address ∧
      Name.read? profile.hostname = .ok host ∧
      service.records settings
        = .built host (.a ⟨192, 0, 2, 7⟩)
          :: .built ⟨["7", "2", "0", "192", "in-addr", "arpa"].map label⟩ (.ptr host)
          :: ((finding "Dns").records host [""] ++ (finding "dns").records host ["zone=a"]) ∧
      ∃ recordsOf : ServicePort → List Record,
        (∀ port, Yields profile host port (recordsOf port)) ∧
        service.records settings
          = .built host address.forwardData :: .built address.reverseOwner (.ptr host)
            :: service.ports.flatMap recordsOf := by
  intro settings annotations service label host group owner address finding
  obtain ⟨profile, named⟩ : ∃ profile, service.profile? = some profile := ⟨_, rfl⟩
  have publishable : Publishable settings service profile address := by
    obtain rfl := Option.some.inj named
    exact ⟨named, .inr rfl, .inr ⟨textKey, by decide, by decide +kernel⟩, by decide +kernel⟩
  have hosted : Name.read? profile.hostname = .ok host := by
    obtain rfl := Option.some.inj named
    decide +kernel
  refine ⟨profile, publishable, hosted, by decide +kernel, ?_⟩
  exact (records_exact settings service).2 profile address host publishable hosted

end Service

/-! ### The records of an ingress -/

namespace Ingress

variable {settings : SyncSettings} {ingress : Ingress} {record : Record}

/-- **Each record of an ingress is the address of one of its hosts under `local`.** -/
theorem exists_of_mem_records (member : record ∈ ingress.records settings) :
    ∃ host name address, Hostname.isLocal host = true ∧ Name.read? (host ++ ".") = .ok name ∧
      record = .built name (IpAddress.forwardData address) := by
  unfold records at member
  cases named : ingress.profile? with
  | none =>
    rw [named] at member
    exact absurd member List.not_mem_nil
  | some profile =>
    rw [named, Option.map_some, Option.getD_some] at member
    unfold Profile.records at member
    split at member
    case isTrue => exact absurd member List.not_mem_nil
    case isFalse =>
      split at member
      case h_1 => exact absurd member List.not_mem_nil
      case h_2 address _ =>
        obtain ⟨host, _, own⟩ := List.mem_flatMap.mp member
        unfold ruleRecords at own
        split at own
        case isFalse => exact absurd own List.not_mem_nil
        case isTrue under =>
          by_cases read : ∃ name, Name.read? (host ++ ".") = .ok name
          · obtain ⟨name, accepted⟩ := read
            rw [hostRecords_of_read? accepted] at own
            exact ⟨host, name, address, under, accepted, List.mem_singleton.mp own⟩
          · rw [hostRecords_of_not_read? (not_exists.mp read)] at own
            exact absurd own List.not_mem_nil

end Ingress

end ClusterMdns
