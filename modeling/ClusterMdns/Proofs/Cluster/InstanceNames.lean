import ClusterMdns.Proofs.Cluster.Contents
import ClusterMdns.Proofs.Name.Spelling
import ClusterMdns.Proofs.Text.Lowercase
import ClusterMdns.Proofs.Text.Parts

/-!
What becomes of the name of an instance.

An instance is meant to keep its name in one label in front of its group (`Discovery.Intact`), whatever
characters the name holds. The two are put together as text with a dot between them, though, and the text is
cut at every dot. So each dot in the name of the instance, and each in the name of the service, begins
another label. No other character does any harm, and even a name that is cut stays apart from all others.

* `Discovery.labels_of_grouped` and `Discovery.labels_of_owned`: the labels of a group and of an instance.
* `Discovery.intact_iff`: an instance keeps its name exactly if neither it nor the service holds a dot.
* `Discovery.Publishes.eq`: instances that share an owner in a group have one name.
* `Discovery.instance_kept_unless_dotted`: all of it, for what is built and for what an annotation asks for.
* `Discovery.dotted_instance_cut`: a name that is cut.
-/

namespace ClusterMdns.Discovery

open ClusterMdns.Text
open Name (utf8 localLabel)

/-! ### Parts as labels -/

/-- The labels that the parts of a text make tell the text. -/
theorem eq_of_map_utf8_splitOn_eq {first second : List Char}
    (same : (first.splitOn '.').map utf8 = (second.splitOn '.').map utf8) : first = second := by
  have parts := (List.map_inj_right fun _ _ => Name.utf8_injective).mp same
  calc first = ['.'].intercalate (first.splitOn '.') := (List.intercalate_splitOn '.').symm
    _ = second := by rw [parts, List.intercalate_splitOn]

/-- A text without dots makes one label, and a text with dots does not. -/
theorem map_utf8_splitOn_eq_singleton_iff {text : List Char} {label : Label} :
    (text.splitOn '.').map utf8 = [label] ↔ '.' ∉ text ∧ label = utf8 text := by
  constructor
  · intro single
    obtain ⟨piece, alone, rfl⟩ := List.map_eq_singleton_iff.mp single
    have whole : ['.'].intercalate (text.splitOn '.') = text := List.intercalate_splitOn '.'
    rw [alone, List.intercalate_singleton] at whole
    subst whole
    exact ⟨not_mem_of_mem_splitOn (alone ▸ List.mem_cons_self), rfl⟩
  · rintro ⟨undotted, rfl⟩
    rw [List.splitOn_eq_singleton undotted, List.map_singleton]

/-! ### The labels of a group and of an instance -/

variable {instanceName service label : String} {group owner : Name}

/-- **The labels of a group**: what the dots of the service cut, the protocol, and `local`. -/
theorem labels_of_grouped (transport : '.' ∉ '_' :: label.toList)
    (grouped : Name.read? (groupName service label) = .ok group) :
    group.labels = (('_' :: lowercase service.toList).splitOn '.').map utf8
      ++ [utf8 ('_' :: label.toList), localLabel] := by
  rw [(Name.read?_eq_ok_iff.mp grouped).1, written_groupName, List.splitOn_eq_singleton transport]
  rfl

/-- **The labels of an instance**: what the dots of its name cut, in front of its group. -/
theorem labels_of_owned {groupText : String} (grouped : Name.read? groupText = .ok group)
    (owned : Name.read? (instanceName ++ "." ++ groupText) = .ok owner) :
    owner.labels = (instanceName.toList.splitOn '.').map utf8 ++ group.labels := by
  have given : groupText ≠ "" := by
    rintro rfl
    cases grouped
  rw [(Name.read?_eq_ok_iff.mp owned).1, Name.written_append _ given,
    (Name.read?_eq_ok_iff.mp grouped).1]

/-! ### Names that are kept -/

/-- Whether an instance keeps its name: the group has the service in small letters, the protocol and
`local` as its labels, and the instance its own name as one more label in front. -/
structure Intact (instanceName service label : String) (group owner : Name) : Prop where
  grouped : group.labels
    = [utf8 ('_' :: lowercase service.toList), utf8 ('_' :: label.toList), localLabel]
  owned : owner.labels = utf8 instanceName.toList :: group.labels

/-- **An instance keeps its name exactly if neither it nor the service holds a dot.** -/
theorem intact_iff (transport : '.' ∉ '_' :: label.toList)
    (grouped : Name.read? (groupName service label) = .ok group)
    (owned : Name.read? (instanceName ++ "." ++ groupName service label) = .ok owner) :
    Intact instanceName service label group owner
      ↔ '.' ∉ instanceName.toList ∧ '.' ∉ service.toList := by
  have groupLabels := labels_of_grouped transport grouped
  have ownerLabels := labels_of_owned grouped owned
  have underscored : '.' ∉ '_' :: lowercase service.toList ↔ '.' ∉ service.toList := by
    rw [List.mem_cons, dot_mem_lowercase_iff, not_or]
    exact and_iff_right (by decide)
  constructor
  · rintro ⟨groupKept, ownerKept⟩
    rw [groupLabels] at groupKept
    rw [ownerLabels] at ownerKept
    have servicePart : (('_' :: lowercase service.toList).splitOn '.').map utf8
        = [utf8 ('_' :: lowercase service.toList)] := List.append_cancel_right groupKept
    have instancePart : (instanceName.toList.splitOn '.').map utf8 = [utf8 instanceName.toList] :=
      List.append_cancel_right ownerKept
    exact ⟨(map_utf8_splitOn_eq_singleton_iff.mp instancePart).1,
      underscored.mp (map_utf8_splitOn_eq_singleton_iff.mp servicePart).1⟩
  · rintro ⟨instanceUndotted, serviceUndotted⟩
    rw [map_utf8_splitOn_eq_singleton_iff.mpr ⟨underscored.mpr serviceUndotted, rfl⟩] at groupLabels
    rw [map_utf8_splitOn_eq_singleton_iff.mpr ⟨instanceUndotted, rfl⟩] at ownerLabels
    exact ⟨groupLabels, ownerLabels⟩

/-! ### The records of an instance -/

/-- What it takes for an instance to have records, and which names they have. -/
theorem exists_names_of_records {protocol : Protocol} {hostname : String} {port : UInt16}
    {strings : List String}
    (inhabited : records instanceName service protocol hostname port strings ≠ []) :
    ∃ label group owner host, protocol.label? = some label ∧
      Name.read? (groupName service label) = .ok group ∧
      Name.read? (instanceName ++ "." ++ groupName service label) = .ok owner ∧
      records instanceName service protocol hostname port strings
        = bundle group owner host port strings := by
  obtain ⟨instanceGiven, serviceGiven, portGiven, label, group, owner, host, known, grouped, owned,
    hosted⟩ := exists_of_records_ne_nil inhabited
  exact ⟨label, group, owner, host, known, grouped, owned,
    records_eq_bundle instanceGiven serviceGiven portGiven known grouped owned hosted⟩

/-- Whether an instance is published as `owner` in `group`, for some service on some host and port. -/
def Publishes (instanceName : String) (group owner : Name) : Prop :=
  ∃ service protocol hostname port strings host,
    records instanceName service protocol hostname port strings = bundle group owner host port strings

theorem bundle_names_eq {host otherHost otherGroup otherOwner : Name} {port : UInt16}
    {strings : List String}
    (same : bundle group owner host port strings = bundle otherGroup otherOwner otherHost port strings) :
    group = otherGroup ∧ owner = otherOwner := by
  have pointers := List.head_eq_of_cons_eq same
  simp only [Record.built, Record.mk.injEq, RecordData.ptr.injEq, true_and] at pointers
  exact pointers

theorem Publishes.labels_eq (publishes : Publishes instanceName group owner) :
    owner.labels = (instanceName.toList.splitOn '.').map utf8 ++ group.labels := by
  obtain ⟨service, protocol, hostname, port, strings, host, published⟩ := publishes
  have inhabited : records instanceName service protocol hostname port strings ≠ [] := by
    rw [published]
    exact List.cons_ne_nil _ _
  obtain ⟨label, _, _, _, _, grouped, owned, found⟩ := exists_names_of_records inhabited
  obtain ⟨rfl, rfl⟩ := bundle_names_eq (published.symm.trans found)
  exact labels_of_owned grouped owned

/-- **Instances that share an owner in a group have one name**, even if the name is cut. -/
theorem Publishes.eq {other : String} (publishes : Publishes instanceName group owner)
    (again : Publishes other group owner) : instanceName = other := by
  have same := publishes.labels_eq.symm.trans again.labels_eq
  exact String.toList_injective (eq_of_map_utf8_splitOn_eq (List.append_cancel_right same))

/-- **An instance keeps its name unless a dot cuts it.** What is built for an instance is a pointer from its
group to its owner, and where the owner is found and its text. The owner has the pieces of the name between
its dots in front of the group, so that the name is one label exactly if it holds no dot; likewise the
service. Instances of different names never share an owner in a group. The same holds of the name that an
annotation asks for. -/
theorem instance_kept_unless_dotted (instanceName : String) :
    (∀ service protocol hostname port strings,
      records instanceName service protocol hostname port strings ≠ [] →
      ∃ label group owner host, protocol.label? = some label ∧
        records instanceName service protocol hostname port strings
          = [.built group (.ptr owner), .built owner (.srv 0 0 port host),
            .built owner (.txt (textOf strings))] ∧
        owner.labels = (instanceName.toList.splitOn '.').map utf8 ++ group.labels ∧
        (Intact instanceName service label group owner
          ↔ '.' ∉ instanceName.toList ∧ '.' ∉ service.toList)) ∧
    (∀ other group owner, Publishes instanceName group owner → Publishes other group owner →
      other = instanceName) ∧
    ∀ (profile : Service.Profile) (port : ServicePort) (finding : Service.Finding),
      profile.annotations.get? Advertisement.instanceKey = some instanceName →
      Service.Finds profile port finding →
        (Intact instanceName finding.port finding.label finding.group finding.owner
          ↔ '.' ∉ instanceName.toList ∧ '.' ∉ finding.port.toList) := by
  refine ⟨fun service protocol hostname port strings inhabited => ?_,
    fun other _ _ publishes again => again.eq publishes, fun profile port finding asked finds => ?_⟩
  · obtain ⟨label, group, owner, host, known, grouped, owned, found⟩ :=
      exists_names_of_records inhabited
    exact ⟨label, group, owner, host, known, found, labels_of_owned grouped owned,
      intact_iff (Service.dot_not_mem_of_label? known) grouped owned⟩
  · have named : profile.instanceName = instanceName := by
      rw [Service.Profile.instanceName, asked, Option.getD_some]
    exact intact_iff finds.transport.dot_not_mem finds.grouped (named ▸ finds.owned)

/-- A name with blanks, a slash, an equals sign and letters beyond ASCII, built on its own and asked for by
the annotation of a service. -/
theorem instance_kept_unless_dotted_of_odd_characters :
    let label (text : String) : Label := utf8 text.toList
    let name := "Büro/Gerät = 4"
    let group : Name := ⟨["_http", "_tcp", "local"].map label⟩
    let owner : Name := ⟨label name :: group.labels⟩
    let host : Name := ⟨["printer", "local"].map label⟩
    let profile : Service.Profile :=
      ⟨"app", "web", .loadBalancer, none, ["192.0.2.7"], [], .ofList [(Advertisement.instanceKey, name)]⟩
    let finding : Service.Finding := ⟨"HTTP", 80, "tcp", group, owner⟩
    records name "HTTP" .tcp "printer.local" 80 [] = bundle group owner host 80 [] ∧
      Intact name "HTTP" "tcp" group owner ∧
      (∀ other, Publishes other group owner → other = name) ∧
      Service.Finds profile ⟨some "HTTP", 80, none⟩ finding ∧
      (Intact name finding.port finding.label finding.group finding.owner
        ↔ '.' ∉ name.toList ∧ '.' ∉ finding.port.toList) := by
  intro label name group owner host profile finding
  obtain ⟨built, apart, asked⟩ := instance_kept_unless_dotted name
  have published : records name "HTTP" .tcp "printer.local" 80 [] = bundle group owner host 80 [] := by
    decide +kernel
  have inhabited : records name "HTTP" .tcp "printer.local" 80 [] ≠ [] := by
    rw [published]
    exact List.cons_ne_nil _ _
  obtain ⟨_, _, _, _, known, found, _, kept⟩ := built "HTTP" .tcp "printer.local" 80 [] inhabited
  obtain rfl := Option.some.inj known
  obtain ⟨rfl, rfl⟩ := bundle_names_eq (found.symm.trans published)
  have finds : Service.Finds profile ⟨some "HTTP", 80, none⟩ finding :=
    ⟨by decide +kernel, rfl, by decide, by decide, by decide, .unnamed, by decide +kernel,
      by decide +kernel⟩
  refine ⟨published, kept.mpr ⟨by decide, by decide⟩, fun other publishes => ?_, finds,
    asked profile _ finding (by decide +kernel) finds⟩
  exact apart other group owner ⟨_, _, _, _, _, _, published⟩ publishes

/-- **A name with a dot is cut.** The instance is published with two labels in front of its group, neither
of which is its name. -/
theorem dotted_instance_cut :
    let label (text : String) : Label := utf8 text.toList
    let group : Name := ⟨["_http", "_tcp", "local"].map label⟩
    let owner : Name := ⟨label "HP LaserJet 4" :: label "5" :: group.labels⟩
    let host : Name := ⟨["printer", "local"].map label⟩
    records "HP LaserJet 4.5" "http" .tcp "printer.local." 80 [] = bundle group owner host 80 [] ∧
      ¬Intact "HP LaserJet 4.5" "http" "tcp" group owner := by
  intro label group owner host
  refine ⟨by decide +kernel, fun intact => ?_⟩
  exact absurd intact.owned (by decide)

end ClusterMdns.Discovery
