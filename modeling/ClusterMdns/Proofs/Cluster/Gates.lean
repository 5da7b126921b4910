import ClusterMdns.Proofs.Cluster.Contents

/-!
Settings decide whether an object has records, and have no say in which.

An object is looked at under two settings, the second of which let through whatever the first do
(`SyncSettings.OpensTo`). Each gate that is open under the first is open under the second: the restriction
to a namespace, the marks of the object, and its address, as for a service inside the cluster a setting
decides whether it has one. Behind the gates no setting is read. The annotation that asks for nothing but
to be advertised opens a gate in the same way.

* `Service.Publishable.of_opensTo`: what is published stays published, under the same address.
* `Service.records_of_opensTo` and `Ingress.records_of_opensTo`: an object has no records, or those that it
  has under the second settings.
* `Service.ofService_marked`: the annotation makes a service eligible and changes nothing else.
* `settings_only_gate`: all of it.
-/

namespace ClusterMdns

/-- Settings that let through whatever others do: both kinds of publishing may be turned on and the
restriction to a namespace lifted. The sources, the time to live and the time for a first listing may be
any. -/
structure SyncSettings.OpensTo (settings wider : SyncSettings) : Prop where
  publishAll : settings.publishAll = true → wider.publishAll = true
  publishInternal : settings.publishInternal = true → wider.publishInternal = true
  space : wider.space = settings.space ∨ wider.space = ""

variable {settings wider : SyncSettings}

theorem SyncSettings.OpensTo.admits (opens : settings.OpensTo wider) {space : String}
    (admitted : settings.space = "" ∨ space = settings.space) :
    wider.space = "" ∨ space = wider.space := by
  rcases opens.space with kept | lifted
  · rw [kept]
    exact admitted
  · exact .inl lifted

/-! ### Services under wider settings -/

namespace Service

variable {service : Service} {profile : Profile} {address : IpAddress}

/-- An address does not change where more services have one. -/
theorem Profile.address?_of_imp {internal opened : Bool} (opens : internal = true → opened = true)
    (addressed : profile.address? internal = some address) :
    profile.address? opened = some address := by
  unfold Profile.address? at addressed ⊢
  split at addressed
  case h_1 => exact addressed
  case h_2 =>
    split at addressed
    case isTrue published => exact (if_pos (opens published)).trans addressed
    case isFalse => cases addressed
  case h_3 => cases addressed

/-- What is published stays published under wider settings, with the same address. -/
theorem Publishable.of_opensTo (opens : settings.OpensTo wider)
    (publishable : Publishable settings service profile address) :
    Publishable wider service profile address where
  named := publishable.named
  admitted := opens.admits publishable.admitted
  eligible := publishable.eligible.imp_left opens.publishAll
  addressed := profile.address?_of_imp opens.publishInternal publishable.addressed

/-- **A service has no records, or those that it has under wider settings.** -/
theorem records_of_opensTo (opens : settings.OpensTo wider) (service : Service) :
    service.records settings = [] ∨ service.records settings = service.records wider := by
  refine Classical.or_iff_not_imp_left.mpr fun inhabited => ?_
  obtain ⟨profile, address, host, publishable, accepted⟩ := exists_publishable inhabited
  rw [records_of_publishable publishable accepted,
    records_of_publishable (publishable.of_opensTo opens) accepted]
  -- The two sides differ in `publishAll`, which the records of a port do not read.
  rfl

end Service

/-! ### Ingresses under wider settings -/

namespace Ingress

theorem Profile.records_of_opensTo (opens : settings.OpensTo wider) (profile : Profile) :
    profile.records settings = [] ∨ profile.records settings = profile.records wider := by
  unfold Profile.records
  cases admitted : spaceAdmitted settings.onlySpace? profile.space with
  | false => exact .inl rfl
  | true =>
    have still : spaceAdmitted wider.onlySpace? profile.space = true :=
      (spaceAdmitted_iff _ _).mpr (opens.admits ((spaceAdmitted_iff _ _).mp admitted))
    rw [still]
    exact .inr rfl

/-- **An ingress has no records, or those that it has under wider settings.** -/
theorem records_of_opensTo (opens : settings.OpensTo wider) (ingress : Ingress) :
    ingress.records settings = [] ∨ ingress.records settings = ingress.records wider := by
  unfold records
  cases ingress.profile? with
  | none => exact .inl rfl
  | some profile => exact profile.records_of_opensTo opens

end Ingress

/-! ### The annotation that asks for nothing but to be advertised -/

namespace Service

open Advertisement

/-- A service with the annotation that asks for nothing but to be advertised. -/
def Profile.marked (profile : Profile) (value : String) : Profile :=
  { profile with annotations := profile.annotations.insert publishKey value }

/-- A service object with the annotation that asks for nothing but to be advertised. -/
def marked (service : Service) (value : String) : Service :=
  { service with metadata :=
      { service.metadata with annotations := service.metadata.annotations.insert publishKey value } }

theorem profile?_marked (service : Service) (value : String) :
    (service.marked value).profile? = service.profile?.map (·.marked value) := by
  unfold profile?
  rw [Option.map_map]
  rfl

theorem Profile.get?_marked (profile : Profile) (value : String) {key : String}
    (different : publishKey ≠ key) :
    (profile.marked value).annotations.get? key = profile.annotations.get? key := by
  rw [Profile.marked, TextMap.get?_insert, if_neg different]

theorem Profile.publishKey_mem_marked (profile : Profile) (value : String) :
    publishKey ∈ (profile.marked value).annotations.keys := by
  rw [TextMap.mem_keys_iff, TextMap.contains, Profile.marked, TextMap.get?_insert, if_pos rfl]
  rfl

/-- **The annotation makes a service eligible and changes nothing else that the service asks for.** -/
theorem ofService_marked (publishAll : Bool) (profile : Profile) (value : String) :
    ofService publishAll (profile.marked value)
      = { ofService publishAll profile with eligible := true } := by
  have eligible : isMarked (profile.marked value) = true :=
    (isMarked_iff _).mpr ⟨publishKey, by decide, profile.publishKey_mem_marked value⟩
  unfold ofService
  dsimp only
  rw [eligible, Bool.or_true, profile.get?_marked value (show publishKey ≠ hostnameKey by decide),
    profile.get?_marked value (show publishKey ≠ instanceKey by decide),
    profile.get?_marked value (show publishKey ≠ textKey by decide)]
  rfl

theorem Profile.hostname_marked (profile : Profile) (value : String) :
    (profile.marked value).hostname = profile.hostname :=
  congrArg Advertisement.hostname (ofService_marked false profile value)

/-- The annotation leaves the records of a port alone, which do not tell whether the service is eligible. -/
theorem portRecords_marked (publishAll : Bool) (profile : Profile) (value : String) (port : Port) :
    portRecords (ofService publishAll (profile.marked value)) port
      = portRecords (ofService publishAll profile) port := by
  rw [ofService_marked]
  rfl

/-- What is published stays published with the annotation, under the same address. -/
theorem Publishable.marked {service : Service} {profile : Profile} {address : IpAddress}
    (publishable : Publishable settings service profile address) (value : String) :
    Publishable settings (service.marked value) (profile.marked value) address where
  named := by rw [profile?_marked, publishable.named, Option.map_some]
  admitted := publishable.admitted
  eligible := .inr ⟨publishKey, by decide, profile.publishKey_mem_marked value⟩
  addressed := publishable.addressed

/-- **A service has no records, or those that it has with the annotation.** -/
theorem records_of_marked (settings : SyncSettings) (service : Service) (value : String) :
    service.records settings = []
      ∨ service.records settings = (service.marked value).records settings := by
  refine Classical.or_iff_not_imp_left.mpr fun inhabited => ?_
  obtain ⟨profile, address, host, publishable, accepted⟩ := exists_publishable inhabited
  have hosted : Name.read? (profile.marked value).hostname = .ok host := by
    rw [profile.hostname_marked]
    exact accepted
  rw [records_of_publishable publishable accepted,
    records_of_publishable (publishable.marked value) hosted]
  simp only [portRecords_marked]
  rfl

end Service

/-- **Settings and the annotation only gate.** Under wider settings a service or an ingress has the records
that it had, in their order, unless it had none. So has a service with the annotation that asks for nothing
but to be advertised, whatever its value. -/
theorem settings_only_gate :
    (∀ settings wider : SyncSettings, settings.OpensTo wider →
      (∀ service : Service,
        service.records settings = [] ∨ service.records settings = service.records wider) ∧
      ∀ ingress : Ingress,
        ingress.records settings = [] ∨ ingress.records settings = ingress.records wider) ∧
    ∀ (settings : SyncSettings) (service : Service) (value : String),
      service.records settings = []
        ∨ service.records settings = (service.marked value).records settings :=
  ⟨fun _ _ opens => ⟨Service.records_of_opensTo opens, Ingress.records_of_opensTo opens⟩,
    Service.records_of_marked⟩

/-- A service with both an address inside the cluster and one of its load balancer, and an ingress, once all
that can be opened is opened; the service with the annotation too. -/
theorem settings_only_gate_when_all_is_opened :
    let settings : SyncSettings := ⟨[.service, .ingress], false, "web", 120, false, 30⟩
    let wider : SyncSettings := ⟨[.ingress], true, "", 5, true, 600⟩
    let service : Service :=
      ⟨⟨some "app", none, some "web", none, .ofList [(Advertisement.hostnameKey, "shop")]⟩,
        some "LoadBalancer", some "10.0.0.7", [⟨some "http", 80, none⟩], [some "192.0.2.7"]⟩
    let ingress : Ingress :=
      ⟨⟨some "front", none, some "web", none, .empty⟩, [some "shop.local"], [some "2001:db8::7"]⟩
    settings.OpensTo wider ∧
      service.records settings ≠ [] ∧ service.records settings = service.records wider ∧
      ingress.records settings ≠ [] ∧ ingress.records settings = ingress.records wider ∧
      service.records settings = (service.marked "no").records settings := by
  intro settings wider service ingress
  have opens : settings.OpensTo wider := ⟨fun _ => rfl, fun _ => rfl, .inr rfl⟩
  have served : service.records settings ≠ [] := by decide +kernel
  have routed : ingress.records settings ≠ [] := by decide +kernel
  obtain ⟨gates, adds⟩ := settings_only_gate
  obtain ⟨services, ingresses⟩ := gates settings wider opens
  exact ⟨opens, served, (services service).resolve_left served, routed,
    (ingresses ingress).resolve_left routed,
    (adds settings service "no").resolve_left served⟩

end ClusterMdns
