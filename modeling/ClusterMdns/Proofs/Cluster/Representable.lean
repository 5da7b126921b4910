import ClusterMdns.Proofs.Cluster.Contents
import ClusterMdns.Responder.Response

/-!
Which records can be written in a message.

A message limits names, the strings of a text record and the text as a whole (`Record.Representable`), and
a response with a record beyond these limits is not sent at all. The names in records were all read as
names, so that they keep to the limits. Nothing of the kind is done for texts: they are published as they are
configured, and only those that happen to fit can be sent.

* `Responder.answer_of_representable`: representable records are sent.
* `Service.fits_of_mem`: whatever the texts, the names of a service fit, and so do all other data.
* `Service.representable_iff`: all records of a service can be sent exactly if the texts of its ports fit.
-/

namespace ClusterMdns

open Advertisement

/-! ### What fits a message -/

/-- The space that the strings of a text record take, with a byte for the length of each. -/
def textLength (strings : List String) : Nat :=
  strings.foldr (fun string length => string.utf8ByteSize + 1 + length) 0

/-- Whether the strings of a text record fit: each takes at most 255 bytes, and all of them at most 65535
with their lengths. -/
structure TextFits (strings : List String) : Prop where
  each : ∀ string ∈ strings, string.utf8ByteSize ≤ 255
  whole : textLength strings ≤ 65535

instance (strings : List String) : Decidable (TextFits strings) :=
  decidable_of_iff ((∀ string ∈ strings, string.utf8ByteSize ≤ 255) ∧ textLength strings ≤ 65535)
    ⟨fun parts => ⟨parts.1, parts.2⟩, fun fits => ⟨fits.each, fits.whole⟩⟩

/-- Whether data fit a message. -/
def RecordData.Fits : RecordData → Prop
  | .a _ | .aaaa _ => True
  | .ptr target | .srv _ _ _ target => target.Fits
  | .txt strings => TextFits strings

/-- Whether a record can be written in a message. -/
structure Record.Representable (record : Record) : Prop where
  owner : record.owner.Fits
  data : record.data.Fits

theorem encodable_of_fits {data : RecordData} (fits : data.Fits) : Responder.encodable data = true := by
  cases data with
  | txt strings =>
    unfold Responder.encodable
    rw [List.all_eq_true]
    intro string member
    exact decide_eq_true (fits.each string member)
  | _ => rfl

/-- **Representable records are sent when a question finds them.** -/
theorem Responder.answer_of_representable {records : List Record}
    (representable : ∀ record ∈ records, record.Representable) :
    answer (.found records) = some ⟨.noError, true, records.map received⟩ := by
  have encodable : records.all (fun record => Responder.encodable record.data) = true := by
    rw [List.all_eq_true]
    intro record member
    exact encodable_of_fits (representable record member).data
  unfold answer
  exact if_pos encodable

variable {settings : SyncSettings} {host : Name} {record : Record}

theorem representable_forward (hosted : host.Fits) (address : IpAddress) :
    (Record.built host address.forwardData).Representable := by
  refine ⟨hosted, ?_⟩
  show address.forwardData.Fits
  unfold IpAddress.forwardData
  cases address.canonical <;> exact trivial

theorem representable_reverse (hosted : host.Fits) (address : IpAddress) :
    (Record.built address.reverseOwner (.ptr host)).Representable :=
  ⟨address.fits_reverseOwner, hosted⟩

/-! ### The records of an ingress -/

theorem Ingress.representable_of_mem {ingress : Ingress} (member : record ∈ ingress.records settings) :
    record.Representable := by
  obtain ⟨_, _, address, _, accepted, rfl⟩ := exists_of_mem_records member
  exact representable_forward (Name.fits_of_read? accepted) address

/-! ### The records of a service -/

namespace Service

variable {service : Service} {profile : Profile} {port : ServicePort} {own : List Record}

/-- Whether the texts that are published with the ports of a service fit. -/
def TextsFit (settings : SyncSettings) (service : Service) : Prop :=
  ∀ profile address host, Publishable settings service profile address →
    Name.read? profile.hostname = .ok host →
    ∀ port ∈ service.ports, ∀ finding, Finds profile port finding →
      TextFits (profile.textFor finding.port)

theorem Finding.representable_iff {finding : Finding} (finds : Finds profile port finding)
    (hosted : host.Fits) (texts : List String) :
    (∀ record ∈ finding.records host texts, record.Representable) ↔ TextFits texts := by
  have group := Name.fits_of_read? finds.grouped
  have owner := Name.fits_of_read? finds.owned
  unfold Finding.records
  rw [List.forall_mem_cons, List.forall_mem_cons, List.forall_mem_singleton]
  constructor
  · rintro ⟨_, _, text⟩
    exact text.data
  · intro fits
    exact ⟨⟨group, owner⟩, ⟨owner, hosted⟩, ⟨owner, fits⟩⟩

/-- **The records of a port can be sent exactly if its text fits.** -/
theorem Yields.representable_iff (yields : Yields profile host port own) (hosted : host.Fits) :
    (∀ record ∈ own, record.Representable)
      ↔ ∀ finding, Finds profile port finding → TextFits (profile.textFor finding.port) := by
  cases yields with
  | found finding finds =>
    rw [Finding.representable_iff finds hosted]
    constructor
    · intro fits other again
      rw [← finds.unique again]
      exact fits
    · intro fit
      exact fit finding finds
  | nothing unfound =>
    constructor
    · intro _ finding finds
      exact absurd finds (unfound finding)
    · intro _ record member
      exact absurd member List.not_mem_nil

/-- The records of a port can be sent but for the text. -/
theorem Yields.fits_of_mem (yields : Yields profile host port own) (hosted : host.Fits)
    (member : record ∈ own) :
    record.owner.Fits ∧ (record.recordType ≠ .txt → record.Representable) := by
  cases yields with
  | nothing => exact absurd member List.not_mem_nil
  | found finding finds =>
    have group := Name.fits_of_read? finds.grouped
    have owner := Name.fits_of_read? finds.owned
    unfold Finding.records at member
    simp only [List.mem_cons, List.not_mem_nil, or_false] at member
    rcases member with rfl | rfl | rfl
    · exact ⟨group, fun _ => ⟨group, owner⟩⟩
    · exact ⟨owner, fun _ => ⟨owner, hosted⟩⟩
    · exact ⟨owner, fun other => absurd rfl other⟩

theorem fits_of_mem (member : record ∈ service.records settings) :
    record.owner.Fits ∧ (record.recordType ≠ .txt → record.Representable) := by
  obtain ⟨profile, address, host, _, accepted, parts⟩ := exists_of_mem_records member
  have hosted := Name.fits_of_read? accepted
  have forward := representable_forward hosted address
  have reverse := representable_reverse hosted address
  rcases parts with rfl | rfl | ⟨port, _, own, yields, inside, _⟩
  · exact ⟨forward.owner, fun _ => forward⟩
  · exact ⟨reverse.owner, fun _ => reverse⟩
  · exact yields.fits_of_mem hosted inside

/-- **All records of a service can be sent exactly if the texts of its ports fit.** -/
theorem representable_iff (settings : SyncSettings) (service : Service) :
    (∀ record ∈ service.records settings, record.Representable) ↔ service.TextsFit settings := by
  constructor
  · intro all profile address host publishable accepted port listed
    have yields := yields_portRecords accepted settings.publishAll port
    refine (yields.representable_iff (Name.fits_of_read? accepted)).mp fun record inside => ?_
    exact all record (portRecords_subset publishable accepted listed inside)
  · intro fit record member
    obtain ⟨profile, address, host, publishable, accepted, parts⟩ := exists_of_mem_records member
    have hosted := Name.fits_of_read? accepted
    rcases parts with rfl | rfl | ⟨port, listed, own, yields, inside, _⟩
    · exact representable_forward hosted address
    · exact representable_reverse hosted address
    · have texts := fit profile address host publishable accepted port listed
      exact (yields.representable_iff hosted).mpr texts record inside

end Service

/-! ### All objects -/

open Service

/-- **A text that is too long is published, and cannot be sent.** Here its one string takes 256 bytes. -/
theorem long_texts_published :
    let settings : SyncSettings := ⟨[.service], false, "", 120, false, 30⟩
    let letters : String := String.ofList (List.replicate 254 'v')
    let annotation : String := "\x7b\"http\": \x7b\"k\": \"" ++ letters ++ "\"\x7d\x7d"
    let service : Service :=
      ⟨⟨some "app", none, some "web", none, .ofList [(textKey, annotation)]⟩, some "LoadBalancer", none,
        [⟨some "http", 80, none⟩], [some "192.0.2.7"]⟩
    let owner : Name :=
      ⟨["web/app", "_http", "_tcp", "local"].map fun label => Name.utf8 label.toList⟩
    let text : Record := .built owner (.txt ["k=" ++ letters])
    text ∈ service.records settings ∧ ¬text.Representable ∧
      Responder.answer (.found [text]) = none := by
  intro settings letters annotation service owner text
  -- Letters are taken apart as a list, since doing so byte by byte is slow.
  have plain : letters.toList = List.replicate 254 'v' := String.toList_ofList
  have chars : annotation.toList
      = "\x7b\"http\": \x7b\"k\": \"".toList ++ List.replicate 254 'v' ++ "\"\x7d\x7d".toList := by
    rw [← plain, ← String.toList_append, ← String.toList_append]
  have configured : ((PortText.read annotation).get? "http").map PortText.strings
      = some ["k=" ++ letters] := by
    unfold PortText.read Json.read?
    rw [chars]
    decide +kernel
  obtain ⟨profile, named⟩ : ∃ profile, service.profile? = some profile := ⟨_, rfl⟩
  have publishable : Publishable settings service profile (.v4 ⟨192, 0, 2, 7⟩) := by
    obtain rfl := Option.some.inj named
    exact ⟨named, .inl rfl, .inr ⟨textKey, by decide, by decide +kernel⟩, by decide +kernel⟩
  have accepted : Name.read? profile.hostname
      = .ok ⟨["app", "web", "local"].map fun label => Name.utf8 label.toList⟩ := by
    obtain rfl := Option.some.inj named
    decide +kernel
  have texts : profile.textFor "http" = ["k=" ++ letters] := by
    have given : profile.annotations.get? textKey = some annotation := by
      obtain rfl := Option.some.inj named
      decide +kernel
    have strings : (ofService false profile).strings "http" = ["k=" ++ letters] := by
      show (((((profile.annotations.get? textKey).map PortText.read).getD .empty).get? "http").map
        PortText.strings).getD [] = _
      rw [given, Option.map_some, Option.getD_some, configured, Option.getD_some]
    rw [← textOf_strings false, strings]
    rfl
  have finds : Finds profile ⟨some "http", 80, none⟩ ⟨"http", 80, "tcp",
      ⟨["_http", "_tcp", "local"].map fun label => Name.utf8 label.toList⟩, owner⟩ := by
    obtain rfl := Option.some.inj named
    exact ⟨by decide +kernel, rfl, by decide, by decide, by decide, .unnamed, by decide +kernel,
      by decide +kernel⟩
  have all := records_subset_of_finds publishable accepted List.mem_cons_self finds
  rw [texts] at all
  have long : ¬TextFits ["k=" ++ letters] := by decide +kernel
  refine ⟨all ?_, fun representable => long representable.data, by decide +kernel⟩
  exact List.mem_cons_of_mem _ (List.mem_cons_of_mem _ List.mem_cons_self)

/-- **What is published can be sent, but for texts that do not fit.** All records of an ingress can be
sent. Of a service all names fit, all records but the texts can be sent, and the texts can be sent exactly
if they fit as they are configured. A question that finds only what can be sent is answered. -/
theorem representable_but_for_texts (settings : SyncSettings) :
    (∀ ingress : Ingress, ∀ record ∈ ingress.records settings, record.Representable) ∧
    (∀ service : Service,
      (∀ record ∈ service.records settings,
        record.owner.Fits ∧ (record.recordType ≠ .txt → record.Representable)) ∧
      ((∀ record ∈ service.records settings, record.Representable) ↔ service.TextsFit settings)) ∧
    ∀ asked : List Record, (∀ record ∈ asked, record.Representable) →
      Responder.answer (.found asked) ≠ none := by
  refine ⟨fun _ _ member => Ingress.representable_of_mem member, fun service => ⟨?_, ?_⟩, ?_⟩
  · exact fun _ member => Service.fits_of_mem member
  · exact Service.representable_iff settings service
  · intro asked representable
    rw [Responder.answer_of_representable representable]
    exact Option.some_ne_none _

/-- A service with a text that fits on one port and no text on another. -/
theorem representable_but_for_texts_of_short :
    let settings : SyncSettings := ⟨[.service, .ingress], false, "", 120, false, 30⟩
    let annotations : TextMap String :=
      .ofList [(textKey, "\x7b\"http\": \x7b\"path\": \"/shop\"\x7d\x7d")]
    let service : Service :=
      ⟨⟨some "app", none, some "web", none, annotations⟩, some "LoadBalancer", none,
        [⟨some "http", 80, none⟩, ⟨some "dns", 53, some "UDP"⟩], [some "192.0.2.7"]⟩
    let ingress : Ingress :=
      ⟨⟨some "app", none, some "web", none, .empty⟩, [some "shop.local"], [some "192.0.2.7"]⟩
    (service.records settings).length = 8 ∧ (ingress.records settings).length = 1 ∧
      ∀ asked : List Record, asked ⊆ service.records settings ++ ingress.records settings →
        Responder.answer (.found asked) ≠ none := by
  intro settings annotations service ingress
  obtain ⟨ingresses, services, sent⟩ := representable_but_for_texts settings
  have fit : service.TextsFit settings := by
    intro profile _ _ publishable _ port listed finding finds
    obtain rfl := Option.some.inj publishable.named
    rw [List.mem_cons, List.mem_singleton] at listed
    rcases listed with rfl | rfl
    · rw [← Option.some.inj finds.named]
      decide +kernel
    · rw [← Option.some.inj finds.named]
      decide +kernel
  refine ⟨by decide +kernel, by decide +kernel, fun asked inside => sent asked fun record member => ?_⟩
  rcases List.mem_append.mp (inside member) with own | own
  · exact (services service).2.mpr fit record own
  · exact ingresses ingress record own

end ClusterMdns
