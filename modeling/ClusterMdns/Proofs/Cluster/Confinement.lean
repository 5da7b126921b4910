import ClusterMdns.Proofs.Cluster.Contents

/-!
The records of an object stay under `local` and lead to one another.

Host names, instances and the names of ports are free text, so that an object could try to publish under a
foreign name, or lead to a record that it does not have. Neither happens (`records_confined`): all names
belong to the domain `local` but those under which addresses are looked up in reverse, and a record leads to
records of its own set.

* `Service.isLocal_hostname`, `Service.Finds.isLocal_group` and `Service.Finds.isLocal_owner`: the names of a
  service end in `local`, whatever stands in front.
* `Service.solelyAt_records`: a service has one host, whose address is the only one.
* `Service.Yields.confined`: the records of a port lead to one another and to the host.
-/

namespace ClusterMdns

/-! ### References among records -/

/-- The address that data give. -/
def RecordData.address? : RecordData → Option IpAddress
  | .a address => some (.v4 address)
  | .aaaa address => some (.v6 address)
  | .ptr _ | .srv _ _ _ _ | .txt _ => none

/-- Whether one record of a set gives an address, and gives that one for that host. -/
def SolelyAt (records : List Record) (host : Name) (address : IpAddress) : Prop :=
  ∃ forward, records.filter (fun record => record.data.address?.isSome) = [forward] ∧
    forward.owner = host ∧ forward.data.address? = some address

/-- Whether a set has records that tell where an instance is found, and its text. -/
def Described (records : List Record) (owner : Name) : Prop :=
  (∃ record ∈ records, record.owner = owner ∧ record.recordType = .srv) ∧
    ∃ record ∈ records, record.owner = owner ∧ record.recordType = .txt

/-- Whether a record keeps to the domain `local` and to its set. A pointer is either from a group to an
instance, or from the reverse name of the address of the set back to the host. -/
def Record.ConfinedTo (records : List Record) (record : Record) : Prop :=
  match record.data with
  | .a _ | .aaaa _ | .txt _ => record.owner.IsLocal
  | .srv _ _ _ target => record.owner.IsLocal ∧ ∃ address, SolelyAt records target address
  | .ptr target =>
    (record.owner.IsLocal ∧ Described records target) ∨
      ∃ address, SolelyAt records target address ∧ record.owner = address.reverseOwner

variable {settings : SyncSettings} {host : Name} {address : IpAddress} {records : List Record}

theorem address?_forwardData (address : IpAddress) :
    address.forwardData.address? = some address.canonical := by
  unfold IpAddress.forwardData
  cases address.canonical <;> rfl

theorem confined_forward (isLocal : host.IsLocal) (records : List Record) (address : IpAddress) :
    (Record.built host address.forwardData).ConfinedTo records := by
  unfold IpAddress.forwardData Record.ConfinedTo
  cases address.canonical <;> exact isLocal

theorem confined_reverse (solely : SolelyAt records host address.canonical) :
    (Record.built address.reverseOwner (.ptr host)).ConfinedTo records :=
  .inr ⟨address.canonical, solely, address.reverseOwner_canonical.symm⟩

namespace Service

variable {service : Service} {profile : Profile} {port : ServicePort} {finding : Finding}

/-! ### Names under `local` -/

theorem isLocal_hostname (accepted : Name.read? profile.hostname = .ok host) : host.IsLocal := by
  obtain ⟨front, ends⟩ := Hostname.exists_toList_underLocal
    ((profile.annotations.get? Advertisement.hostnameKey).getD
      (profile.name ++ "." ++ profile.space ++ ".local."))
  exact Name.isLocal_of_read? ends accepted

theorem exists_toList_groupName (port label : String) :
    ∃ front, (Discovery.groupName port label).toList = front ++ ".local.".toList := by
  unfold Discovery.groupName
  exact ⟨_, String.toList_append⟩

theorem Finds.isLocal_group (finds : Finds profile port finding) : finding.group.IsLocal := by
  obtain ⟨_, ends⟩ := exists_toList_groupName finding.port finding.label
  exact Name.isLocal_of_read? ends finds.grouped

theorem Finds.isLocal_owner (finds : Finds profile port finding) : finding.owner.IsLocal := by
  obtain ⟨front, ends⟩ := exists_toList_groupName finding.port finding.label
  have whole : (profile.instanceName ++ "." ++ Discovery.groupName finding.port finding.label).toList
      = ((profile.instanceName ++ ".").toList ++ front) ++ ".local.".toList := by
    rw [String.toList_append, ends, List.append_assoc]
  exact Name.isLocal_of_read? whole finds.owned

/-! ### The set of a service -/

theorem Yields.addressless {own : List Record} (yields : Yields profile host port own) :
    own.filter (fun record => record.data.address?.isSome) = [] := by
  cases yields <;> rfl

/-- **A service has one host, whose address is the only one.** -/
theorem solelyAt_records (publishable : Publishable settings service profile address)
    (accepted : Name.read? profile.hostname = .ok host) :
    SolelyAt (service.records settings) host address.canonical := by
  have addressless : (service.ports.flatMap fun port =>
      portRecords (.ofService settings.publishAll profile) (portOf port)).filter
        (fun record => record.data.address?.isSome) = [] := by
    rw [List.filter_flatMap, List.flatMap_eq_nil_iff]
    exact fun port _ => (yields_portRecords accepted settings.publishAll port).addressless
  have given : (Record.built host address.forwardData).data.address? = some address.canonical :=
    address?_forwardData address
  refine ⟨.built host address.forwardData, ?_, rfl, given⟩
  rw [records_of_publishable publishable accepted, List.filter_cons_of_pos (by rw [given]; rfl),
    List.filter_cons_of_neg (by simp [Record.built, RecordData.address?]), addressless]

/-- **The records of a port lead to one another and to the host.** -/
theorem Yields.confined {own : List Record} (yields : Yields profile host port own)
    (present : own ⊆ records) (solely : SolelyAt records host address) :
    ∀ record ∈ own, record.ConfinedTo records := by
  cases yields with
  | found finding finds =>
    have described : Described records finding.owner := by
      have all : ∀ record ∈ finding.records host (profile.textFor finding.port), record ∈ records :=
        fun _ member => present member
      unfold Finding.records at all
      rw [List.forall_mem_cons, List.forall_mem_cons, List.forall_mem_singleton] at all
      exact ⟨⟨_, all.2.1, rfl, rfl⟩, ⟨_, all.2.2, rfl, rfl⟩⟩
    unfold Finding.records
    rw [List.forall_mem_cons, List.forall_mem_cons, List.forall_mem_singleton]
    exact ⟨.inl ⟨finds.isLocal_group, described⟩, ⟨finds.isLocal_owner, address, solely⟩,
      finds.isLocal_owner⟩
  | nothing =>
    intro record member
    exact absurd member List.not_mem_nil

theorem confined_of_mem {record : Record} (member : record ∈ service.records settings) :
    record.ConfinedTo (service.records settings) := by
  obtain ⟨profile, address, host, publishable, accepted, parts⟩ := exists_of_mem_records member
  have solely := solelyAt_records publishable accepted
  rcases parts with rfl | rfl | ⟨port, _, own, yields, inside, present⟩
  · exact confined_forward (isLocal_hostname accepted) _ address
  · exact confined_reverse solely
  · exact yields.confined present solely record inside

end Service

/-! ### The set of an ingress -/

theorem Ingress.confined_of_mem {ingress : Ingress} {record : Record}
    (member : record ∈ ingress.records settings) :
    record.ConfinedTo (ingress.records settings) := by
  obtain ⟨host, name, address, under, accepted, rfl⟩ := exists_of_mem_records member
  obtain ⟨front, ends⟩ := List.isSuffixOf_iff_suffix.mp under
  have dotted : (host ++ ".").toList = front ++ ".local.".toList := by
    rw [String.toList_append, ← ends, List.append_assoc]
    rfl
  exact confined_forward (Name.isLocal_of_read? dotted accepted) _ address

/-! ### All objects -/

/-- **The records of every object keep to the domain `local` and to their set.** Each owner is under that
domain, or is the reverse name of the only address of the set. What a record leads to, the set has. -/
theorem records_confined (settings : SyncSettings) :
    (∀ service : Service, ∀ record ∈ service.records settings,
      record.ConfinedTo (service.records settings)) ∧
    ∀ ingress : Ingress, ∀ record ∈ ingress.records settings,
      record.ConfinedTo (ingress.records settings) :=
  ⟨fun _ _ member => Service.confined_of_mem member, fun _ _ member => Ingress.confined_of_mem member⟩

/-- A service that asks for a host and an instance elsewhere, and an ingress with a host elsewhere. -/
theorem records_confined_of_foreign_names :
    let settings : SyncSettings := ⟨[.service, .ingress], false, "", 120, false, 30⟩
    let annotations : TextMap String :=
      .ofList [(Advertisement.hostnameKey, "shop.example.com."),
        (Advertisement.instanceKey, "My.Shop.local")]
    let service : Service :=
      ⟨⟨some "app", none, some "web", none, annotations⟩, some "LoadBalancer", none,
        [⟨some "http.example", 80, none⟩], [some "192.0.2.7"]⟩
    let ingress : Ingress :=
      ⟨⟨some "app", none, some "web", none, .empty⟩,
        [some "shop.example.com", some ".local", some "shop.local"], [some "192.0.2.7"]⟩
    let name (labels : List String) : Name := ⟨labels.map fun label => Name.utf8 label.toList⟩
    let host := name ["shop", "example", "com", "local"]
    let group := name ["_http", "example", "_tcp", "local"]
    let owner := name ["My", "Shop", "local", "_http", "example", "_tcp", "local"]
    let reverse := name ["7", "2", "0", "192", "in-addr", "arpa"]
    service.records settings
      = [.built host (.a ⟨192, 0, 2, 7⟩), .built reverse (.ptr host), .built group (.ptr owner),
        .built owner (.srv 0 0 80 host), .built owner (.txt [""])] ∧
    (∀ record ∈ service.records settings, record.ConfinedTo (service.records settings)) ∧
    ingress.records settings = [.built (name ["shop", "local"]) (.a ⟨192, 0, 2, 7⟩)] ∧
    ∀ record ∈ ingress.records settings, record.ConfinedTo (ingress.records settings) := by
  intro settings annotations service ingress name host group owner reverse
  refine ⟨by decide +kernel, (records_confined settings).1 service, by decide +kernel, ?_⟩
  exact (records_confined settings).2 ingress

end ClusterMdns
