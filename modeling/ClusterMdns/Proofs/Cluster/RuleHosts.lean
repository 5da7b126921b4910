import ClusterMdns.Proofs.Cluster.Contents
import ClusterMdns.Proofs.Name.Grammar
import ClusterMdns.Proofs.Record.ReverseDecoding
import Mathlib.Data.List.Basic

/-!
The exact records of an ingress.

An ingress object is withheld for one of four reasons, none of which has to do with its rules
(`Ingress.Withheld`), or it is published under one address (`Ingress.PublishedAt`). Then each rule stands for
itself: its host is a name under `local` as it is written (`Ingress.Names`) and has one record, or it has none.

* `lastReported?_eq_some_iff` and `lastReported?_eq_none_iff`: the address that is taken of those reported.
* `Ingress.withheld_or_published`: there is no fifth reason.
* `Ingress.ruleRecords_eq`: the records of one rule.
* `Ingress.records_of_rules`: all of it.
-/

namespace ClusterMdns

/-! ### The address that is reported last -/

/-- Whether a text is the last one reported: what comes after it is missing or empty. -/
structure LastReported (reported : List (Option String)) (text : String) : Prop where
  given : text ≠ ""
  last : ∃ before after, reported = before ++ some text :: after ∧
    ∀ later ∈ after, later = none ∨ later = some ""

theorem getD_eq_empty_iff {reported : Option String} :
    reported.getD "" = "" ↔ reported = none ∨ reported = some "" := by
  cases reported <;> simp

theorem lastReported?_eq_some_iff {reported : List (Option String)} {text : String} :
    lastReported? (reported.map (·.getD "")) = some text ↔ LastReported reported text := by
  unfold lastReported?
  rw [List.find?_eq_some_iff_append, Bool.not_eq_true', String.isEmpty_eq_false_iff]
  constructor
  · rintro ⟨given, after, before, parted, blank⟩
    refine ⟨given, ?_⟩
    rw [List.reverse_eq_iff, List.reverse_append, List.reverse_cons, List.append_assoc,
      List.singleton_append, List.map_eq_append_iff] at parted
    obtain ⟨first, rest, rfl, _, parted⟩ := parted
    obtain ⟨own, later, rfl, isText, isLater⟩ := List.map_eq_cons_iff.mp parted
    have ownGiven : own = some text := by
      cases own with
      | none => exact absurd isText.symm given
      | some _ => exact congrArg some isText
    refine ⟨first, later, by rw [ownGiven], fun entry member => getD_eq_empty_iff.mp ?_⟩
    have inside : entry.getD "" ∈ after := by
      rw [← List.mem_reverse, ← isLater]
      exact List.mem_map_of_mem member
    simpa using blank _ inside
  · rintro ⟨given, before, after, rfl, blank⟩
    refine ⟨given, (after.map (·.getD "")).reverse, (before.map (·.getD "")).reverse, by simp, ?_⟩
    intro entry member
    rw [List.mem_reverse] at member
    obtain ⟨later, inside, rfl⟩ := List.mem_map.mp member
    simp [getD_eq_empty_iff.mpr (blank later inside)]

theorem lastReported?_eq_none_iff {reported : List (Option String)} :
    lastReported? (reported.map (·.getD "")) = none
      ↔ ∀ entry ∈ reported, entry = none ∨ entry = some "" := by
  unfold lastReported?
  rw [List.find?_eq_none]
  simp only [List.mem_reverse, List.forall_mem_map, Bool.not_eq_true', Bool.not_eq_false,
    String.isEmpty_iff, getD_eq_empty_iff]

namespace Ingress

variable {settings : SyncSettings} {ingress : Ingress} {meant : IpAddress}

/-! ### Withheld or published -/

/-- Why an ingress object has no records, whatever its rules say. -/
inductive Withheld (settings : SyncSettings) (ingress : Ingress) : Prop
  | unnamed (missing : ingress.metadata.name = none)
  | elsewhere (restricted : settings.space ≠ "")
    (other : ingress.metadata.space.getD "" ≠ settings.space)
  | unreported (blank : ∀ entry ∈ ingress.balancerAddresses, entry = none ∨ entry = some "")
  | unreadable (text : String) (last : LastReported ingress.balancerAddresses text)
    (unread : IpAddress.read? text = none)

/-- Whether an ingress object is published, and the address that the one reported last stands for. -/
structure PublishedAt (settings : SyncSettings) (ingress : Ingress) (meant : IpAddress) : Prop where
  named : ingress.metadata.name ≠ none
  admitted : settings.space = "" ∨ ingress.metadata.space.getD "" = settings.space
  addressed : ∃ text address, LastReported ingress.balancerAddresses text ∧
    IpAddress.read? text = some address ∧ address.StandsFor meant

/-- **An object that is not withheld is published.** -/
theorem withheld_or_published (settings : SyncSettings) (ingress : Ingress) :
    Withheld settings ingress ∨ ∃ meant, PublishedAt settings ingress meant := by
  by_cases named : ingress.metadata.name = none
  · exact .inl (.unnamed named)
  by_cases admitted : settings.space = "" ∨ ingress.metadata.space.getD "" = settings.space
  · cases last : lastReported? (ingress.balancerAddresses.map (·.getD "")) with
    | none => exact .inl (.unreported (lastReported?_eq_none_iff.mp last))
    | some text =>
      rw [lastReported?_eq_some_iff] at last
      cases read : IpAddress.read? text with
      | none => exact .inl (.unreadable text last read)
      | some address =>
        exact .inr ⟨address.canonical, named, admitted, text, address, last, read,
          IpAddress.standsFor_iff.mpr rfl⟩
  · rw [not_or] at admitted
    exact .inl (.elsewhere admitted.1 admitted.2)

theorem records_of_withheld (withheld : Withheld settings ingress) : ingress.records settings = [] := by
  unfold records profile?
  cases name : ingress.metadata.name with
  | none => rfl
  | some _ =>
    rw [Option.map_some, Option.map_some, Option.getD_some]
    unfold Profile.records
    dsimp only
    split
    case isTrue => rfl
    case isFalse admitted =>
      rw [Bool.not_eq_true', Bool.not_eq_false, spaceAdmitted_iff] at admitted
      cases withheld with
      | unnamed missing =>
        rw [missing] at name
        cases name
      | elsewhere restricted other => exact absurd admitted (not_or.mpr ⟨restricted, other⟩)
      | unreported blank =>
        rw [lastReported?_eq_none_iff.mpr blank]
        rfl
      | unreadable text last unread =>
        rw [lastReported?_eq_some_iff.mpr last, Option.bind_some, unread]

/-! ### The records of one rule -/

/-- Whether a host is a name under `local` as it is written: the text ends in `.local`, and with a dot at its
end it is read as the name. -/
structure Names (host : String) (name : Name) : Prop where
  under : ∃ front, host = front ++ ".local"
  read : Name.read? (host ++ ".") = .ok name

/-- The name under which the host of a rule is published, if there is one. -/
def ruleName? (host : Option String) : Option Name :=
  host.bind fun host => if Hostname.isLocal host then (Name.read? (host ++ ".")).toOption else none

theorem isLocal_iff {host : String} :
    Hostname.isLocal host = true ↔ ∃ front, host = front ++ ".local" := by
  rw [Hostname.isLocal, List.isSuffixOf_iff_suffix]
  constructor
  · rintro ⟨front, whole⟩
    refine ⟨String.ofList front, String.toList_injective ?_⟩
    rw [String.toList_append, String.toList_ofList]
    exact whole.symm
  · rintro ⟨front, rfl⟩
    exact ⟨front.toList, String.toList_append.symm⟩

theorem toOption_eq_some_iff {host : String} {name : Name} :
    (Name.read? host).toOption = some name ↔ Name.read? host = .ok name := by
  cases Name.read? host <;> simp [Except.toOption]

theorem ruleName?_eq_some_iff {host : Option String} {name : Name} :
    ruleName? host = some name ↔ ∃ text, host = some text ∧ Names text name := by
  unfold ruleName?
  rw [Option.bind_eq_some_iff]
  refine exists_congr fun text => and_congr_right fun _ => ?_
  constructor
  · intro found
    split at found
    case isTrue under => exact ⟨isLocal_iff.mp under, toOption_eq_some_iff.mp found⟩
    case isFalse => cases found
  · rintro ⟨under, read⟩
    rw [if_pos (isLocal_iff.mpr under)]
    exact toOption_eq_some_iff.mpr read

/-- **The labels of the name are exactly what stands between the dots of the host.** -/
theorem Names.labels {host : String} {name : Name} (names : Names host name) :
    ∃ parts, ".".intercalate parts = host ∧ (∀ part ∈ parts, '.' ∉ part.toList) ∧
      name.labels = parts.map fun part => Name.utf8 part.toList := by
  obtain ⟨body, parts, cut⟩ := Name.exists_cut (host ++ ".")
  have whole : host = body := by
    rcases cut.ends with same | ⟨_, unended⟩
    · exact String.append_left_inj "." |>.mp same
    · exact absurd rfl (unended host)
  exact ⟨parts, cut.parted.trans whole.symm, cut.undotted, (cut.read?_iff.mp names.read).1⟩

/-- **A rule has one record, the address of its name, or none.** -/
theorem ruleRecords_eq (address : IpAddress) (host : Option String) :
    ruleRecords address (host.getD "")
      = ((ruleName? host).map fun name => Record.built name address.canonical.plainData).toList := by
  have forward : address.forwardData = address.canonical.plainData := by
    unfold IpAddress.forwardData
    cases address.canonical <;> rfl
  cases host with
  | none => rfl
  | some host =>
    rw [Option.getD_some, ruleRecords, ruleName?, Option.bind_some]
    split
    case isTrue =>
      cases read : Name.read? (host ++ ".") with
      | ok name =>
        rw [hostRecords_of_read? read, forward]
        rfl
      | error fault =>
        rw [hostRecords_of_not_read? (by simp [read])]
        rfl
    case isFalse => rfl

/-! ### The records of an ingress object -/

theorem records_of_publishedAt (published : PublishedAt settings ingress meant) :
    ingress.records settings
      = (ingress.hosts.filterMap ruleName?).map fun name => .built name meant.plainData := by
  obtain ⟨named, admitted, text, address, last, read, stands⟩ := published
  obtain ⟨name, given⟩ := Option.ne_none_iff_exists'.mp named
  obtain rfl := IpAddress.standsFor_iff.mp stands
  unfold records profile?
  rw [given, Option.map_some, Option.map_some, Option.getD_some, Profile.records,
    (spaceAdmitted_iff _ _).mpr admitted]
  dsimp only
  rw [lastReported?_eq_some_iff.mpr last, Option.bind_some, read]
  dsimp only
  rw [if_neg (by decide), List.flatMap_map, List.map_filterMap, List.filterMap_eq_flatMap_toList]
  exact List.flatMap_congr fun host _ => ruleRecords_eq address host

/-- **A rule without a name affects no other rule.** -/
theorem records_of_nameless_rule {before after : List (Option String)} {host : Option String}
    (hosts : ingress.hosts = before ++ host :: after) (nameless : ruleName? host = none) :
    ingress.records settings = { ingress with hosts := before ++ after }.records settings := by
  have same : ingress.hosts.filterMap ruleName? = (before ++ after).filterMap ruleName? := by
    rw [hosts, List.filterMap_append, List.filterMap_cons_none nameless, List.filterMap_append]
  rcases withheld_or_published settings ingress with withheld | ⟨meant, published⟩
  · have still : Withheld settings { ingress with hosts := before ++ after } := by
      cases withheld with
      | unnamed missing => exact .unnamed missing
      | elsewhere restricted other => exact .elsewhere restricted other
      | unreported blank => exact .unreported blank
      | unreadable text last unread => exact .unreadable text last unread
    rw [records_of_withheld withheld, records_of_withheld still]
  · have still : PublishedAt settings { ingress with hosts := before ++ after } meant :=
      ⟨published.named, published.admitted, published.addressed⟩
    rw [records_of_publishedAt published, records_of_publishedAt still, same]

/-- **The exact records of an ingress object.** It has none if it has no name, is outside of the namespace
that counts, has no address reported, or the one reported last cannot be read. Otherwise it has, in the order
of the rules, one record for each host that ends in `.local` and is a name with a dot at its end, with exactly
the labels of the host as its owner and the address reported last as its data, that of IPv4 where the address
stands for one. None of the records is a pointer, and a host that has none takes none from the others. -/
theorem records_of_rules (settings : SyncSettings) (ingress : Ingress) :
    (Withheld settings ingress → ingress.records settings = []) ∧
    (Withheld settings ingress ∨ ∃ meant, PublishedAt settings ingress meant) ∧
    (∀ meant, PublishedAt settings ingress meant →
      ingress.records settings
        = (ingress.hosts.filterMap ruleName?).map fun name => .built name meant.plainData) ∧
    (∀ host name, ruleName? host = some name ↔ ∃ text, host = some text ∧ Names text name) ∧
    (∀ host name, Names host name → ∃ parts, ".".intercalate parts = host ∧
      (∀ part ∈ parts, '.' ∉ part.toList) ∧
      name.labels = parts.map fun part => Name.utf8 part.toList) ∧
    (∀ record ∈ ingress.records settings, record.recordType ≠ .ptr) ∧
    ∀ before host after, ingress.hosts = before ++ host :: after → ruleName? host = none →
      ingress.records settings = { ingress with hosts := before ++ after }.records settings := by
  refine ⟨records_of_withheld, withheld_or_published settings ingress,
    fun _ => records_of_publishedAt, fun _ _ => ruleName?_eq_some_iff, fun _ _ => Names.labels, ?_,
    fun _ _ _ => records_of_nameless_rule⟩
  intro record member
  obtain ⟨_, _, address, _, _, rfl⟩ := exists_of_mem_records member
  show address.forwardData.recordType ≠ .ptr
  unfold IpAddress.forwardData
  cases address.canonical <;> exact nofun

/-- Rules with a host twice, with no host, an empty label, a foreign host and a dot at the end, behind an
IPv4-mapped address with blanks after it; the same object in a namespace that does not count. -/
theorem records_of_rules_of_mixed_hosts :
    let label (text : String) : Label := Name.utf8 text.toList
    let settings : SyncSettings := ⟨[.ingress], false, "web", 120, false, 30⟩
    let ingress : Ingress :=
      ⟨⟨some "front", none, some "web", none, .empty⟩,
        [some "shop.local", none, some "a..local", some "shop.example.com", some "é.Shop.local",
          some "shop.local.", some "shop.local"],
        [some "192.0.2.1", some "::ffff:192.0.2.7", none, some ""]⟩
    let shop : Name := ⟨[label "shop", label "local"]⟩
    let accented : Name := ⟨[[195, 169], label "Shop", label "local"]⟩
    let address : RecordData := .a ⟨192, 0, 2, 7⟩
    PublishedAt settings ingress (.v4 ⟨192, 0, 2, 7⟩) ∧
      ingress.records settings = [.built shop address, .built accented address, .built shop address] ∧
      Names "é.Shop.local" accented ∧
      ingress.records settings
        = { ingress with hosts := ingress.hosts.eraseIdx 2 }.records settings ∧
      Withheld { settings with space := "lan" } ingress ∧
      ingress.records { settings with space := "lan" } = [] := by
  intro label settings ingress shop accented address
  obtain ⟨_, _, exact, named, _, _, apart⟩ := records_of_rules settings ingress
  have published : PublishedAt settings ingress (.v4 ⟨192, 0, 2, 7⟩) :=
    ⟨by decide, .inr rfl, "::ffff:192.0.2.7", .v6 (.ofIPv4 ⟨192, 0, 2, 7⟩),
      ⟨by decide, [some "192.0.2.1"], [none, some ""], rfl, by decide⟩, by decide +kernel, .mapped _⟩
  have names : ingress.hosts.filterMap ruleName? = [shop, accented, shop] := by decide +kernel
  have found : ruleName? (some "é.Shop.local") = some accented := by decide +kernel
  obtain ⟨_, ⟨⟩, isName⟩ := (named _ _).mp found
  have elsewhere : Withheld { settings with space := "lan" } ingress :=
    .elsewhere (by decide) (by decide)
  refine ⟨published, ?_, isName, ?_, elsewhere, (records_of_rules _ ingress).1 elsewhere⟩
  · rw [exact _ published, names]
    rfl
  · exact apart [some "shop.local", none] (some "a..local") _ rfl (by decide +kernel)

end Ingress

end ClusterMdns
