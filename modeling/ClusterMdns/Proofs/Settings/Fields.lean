import ClusterMdns.Proofs.Settings.Keys

/-!
The places at which settings are looked for, and what environment and arguments give for them.

* `Environment.givenIn?_settings`: the environment gives for a place what the last variable gives that
  names it.
* `Arguments.givenIn?_settings`, `Arguments.map_lastUnder?_fields`: arguments give for a place what the
  option of this place gives.
* `Settings.settles_fields`: what file, environment and arguments together make of a place.
-/

namespace ClusterMdns

open ClusterMdns.Text SettingValue

namespace Settings

/-- The names of the groups of settings. -/
def groups : List String := ["sync", "kubernetes", "responder", "telemetry"]

/-- The places of the settings in a tree. -/
def fields : List (List String) :=
  [["sync", "sources"], ["sync", "publish_all"], ["sync", "namespace"], ["sync", "record_ttl"],
   ["sync", "publish_internal"], ["sync", "cache_sync_timeout_secs"], ["kubernetes", "kubeconfig"],
   ["kubernetes", "master"], ["responder", "listen_addr"], ["telemetry", "log_level"],
   ["telemetry", "prometheus_addr"], ["telemetry", "opentelemetry", "endpoint"],
   ["telemetry", "opentelemetry", "service_name"]]

theorem map_written_fields : fields.map SettingPath.written =
    ["sync.sources", "sync.publish_all", "sync.namespace", "sync.record_ttl", "sync.publish_internal",
     "sync.cache_sync_timeout_secs", "kubernetes.kubeconfig", "kubernetes.master",
     "responder.listen_addr", "telemetry.log_level", "telemetry.prometheus_addr",
     "telemetry.opentelemetry.endpoint", "telemetry.opentelemetry.service_name"] := by
  decide +kernel

theorem several_of_mem_fields : ∀ place ∈ fields, 2 ≤ place.length := by decide

theorem allSteps_of_mem_fields : ∀ place ∈ fields,
    (SettingPath.ofText (SettingPath.written place)).allSteps = place.map .key := by
  decide +kernel

/-- The text that writes a place of a setting has no capitals. -/
theorem isLowered_of_mem_fields {place : List String} (field : place ∈ fields) :
    ∀ c ∈ (SettingPath.written place).toList, IsLowered c := by
  have ascii : ∀ place ∈ fields, (SettingPath.written place).toList.all fun c =>
      decide (c.toNat < 128 ∧ ¬('A' ≤ c ∧ c ≤ 'Z')) := by
    decide +kernel
  intro c member
  obtain ⟨early, small⟩ := of_decide_eq_true (List.all_eq_true.mp (ascii place field) c member)
  exact isLowered_of_ascii early small

theorem lowered_of_mem_fields {place : List String} (field : place ∈ fields) :
    place.map lowered = place := by
  rw [List.map_congr_left (g := id), List.map_id]
  refine fun name member => lowered_eq_self fun c inside => ?_
  exact isLowered_of_mem_fields field c (SettingPath.mem_written member inside)

/-- No setting stands on the way to another. -/
theorem eq_of_prefix : ∀ place ∈ fields, ∀ other ∈ fields, other.isPrefixOf place → other = place := by
  decide +kernel

theorem exists_group_of_mem_fields {place : List String} (field : place ∈ fields) :
    ∃ name ∈ groups, ∃ rest, place = name :: rest := by
  have heads : ∀ place ∈ fields, ∃ name ∈ groups, place.head? = some name := by decide
  obtain ⟨name, group, head⟩ := heads place field
  exact ⟨name, group, List.head?_eq_some_iff.mp head⟩

theorem ofText_of_mem_groups : ∀ name ∈ groups, SettingPath.ofText name = ⟨name, []⟩ := by
  decide +kernel

end Settings

/-! ### Values under texts -/

section Texts

variable {place : List String} {entries : List (String × SettingValue)}

/-- The value of the last entry whose key is a text. -/
def lastUnder? (text : String) (entries : List (String × SettingValue)) : Option SettingValue :=
  lastSome? (fun entry => if entry.1 = text then some entry.2 else none) entries

/-- **A layer with keys in small letters and without tables** gives for the place of a setting what it has
last under the text that writes the place. -/
theorem givenIn?_eq_lastUnder? (field : place ∈ Settings.fields)
    (small : ∀ entry ∈ entries, ∀ c ∈ entry.1.toList, IsLowered c)
    (leaves : ∀ entry ∈ entries, IsLeaf entry.2) :
    givenIn? place entries = lastUnder? (SettingPath.written place) entries := by
  refine lastSome?_congr fun entry member => Option.ext fun given => ?_
  rw [givenBy?_eq_some_iff (leaves entry member)]
  constructor
  · rintro ⟨rfl, names, keys, rfl⟩
    have several := Settings.several_of_mem_fields _ field
    rw [List.length_map] at several
    rw [if_pos (SettingPath.eq_written (small entry member) keys several)]
  · intro found
    split at found
    case isTrue here =>
      refine ⟨(Option.some.inj found).symm, place, ?_, Settings.lowered_of_mem_fields field⟩
      rw [here]
      exact Settings.allSteps_of_mem_fields place field
    case isFalse => cases found

theorem lastUnder?_append (text : String) (first rest : List (String × SettingValue)) :
    lastUnder? text (first ++ rest) = (lastUnder? text rest).or (lastUnder? text first) :=
  lastSome?_append _ first rest

theorem mem_of_lastUnder? {text : String} {value : SettingValue}
    (found : lastUnder? text entries = some value) : (text, value) ∈ entries := by
  obtain ⟨entry, member, gives⟩ := List.exists_of_findSome?_eq_some found
  split at gives
  case isTrue own =>
    obtain rfl := Option.some.inj gives
    exact own ▸ List.mem_reverse.mp member
  case isFalse => cases gives

theorem lastUnder?_entries (map : TextMap SettingValue) (text : String) :
    lastUnder? text map.entries = map.get? text := by
  cases found : map.get? text with
  | none =>
    refine List.findSome?_eq_none_iff.mpr fun entry member => if_neg ?_
    rintro rfl
    rw [← Option.not_isSome_iff_eq_none] at found
    rw [List.mem_reverse] at member
    rw [(map.mem_entries_iff entry.1 entry.2).mp member] at found
    exact found rfl
  | some value =>
    obtain ⟨before, after, split, _, larger⟩ := TextMap.exists_split_entries found
    have none_after : lastUnder? text after = none := by
      refine List.findSome?_eq_none_iff.mpr fun entry member => if_neg ?_
      rintro rfl
      exact String.lt_irrefl _ (larger entry (List.mem_reverse.mp member))
    unfold lastUnder? at none_after ⊢
    rw [split, lastSome?_append, lastSome?_cons, none_after, Option.none_or, if_pos rfl,
      Option.some_or]

end Texts

/-! ### The environment -/

namespace Environment

theorem isLeaf_value (place text : String) : IsLeaf (value place text) := by
  intro entries
  unfold value
  dsimp only
  repeat' split
  all_goals nofun

theorem mem_dotted {text : List Char} {c : Char} (member : c ∈ dotted text) : c = '.' ∨ c ∈ text := by
  fun_induction dotted text with
  | case1 rest ih =>
    rcases List.mem_cons.mp member with rfl | later
    · exact .inl rfl
    · exact (ih later).imp_right fun old => List.mem_cons_of_mem _ (List.mem_cons_of_mem _ old)
  | case2 first rest _ ih =>
    rcases List.mem_cons.mp member with rfl | later
    · exact .inr List.mem_cons_self
    · exact (ih later).imp_right (List.mem_cons_of_mem _)
  | case3 => cases member

/-- The place that a variable names has no capitals. -/
theorem isLowered_of_place? {name text : String} (counts : place? name = some text) :
    ∀ c ∈ text.toList, IsLowered c := by
  intro c member
  unfold place? at counts
  dsimp only at counts
  split at counts
  case isTrue =>
    obtain rfl := Option.some.inj counts
    rw [String.toList_ofList] at member
    rcases mem_dotted member with rfl | inside
    · decide +kernel
    · exact isLowered_of_mem_lowercase (List.mem_of_mem_drop inside)
  case isFalse => cases counts

/-- Each entry that variables give is given by one of them. -/
theorem exists_of_mem_settings {environment : List (String × String)} {entry : String × SettingValue}
    (member : entry ∈ settings environment) :
    ∃ name text, place? name = some entry.1 ∧ entry.2 = value entry.1 text := by
  obtain ⟨key, held⟩ := entry
  have found := (TextMap.mem_entries_iff _ key held).mp member
  rw [TextMap.get?_ofList] at found
  obtain ⟨given, inside, gives⟩ := List.exists_of_findSome?_eq_some found
  obtain ⟨⟨name, text⟩, _, names⟩ := List.mem_filterMap.mp (List.mem_reverse.mp inside)
  obtain ⟨place, counts, rfl⟩ := Option.map_eq_some_iff.mp names
  split at gives
  case isTrue own =>
    obtain rfl : place = key := own
    exact ⟨name, text, counts, (Option.some.inj gives).symm⟩
  case isFalse => cases gives

/-- The value of the last variable that names a place. -/
def given? (environment : List (String × String)) (place : List String) : Option SettingValue :=
  let text := SettingPath.written place
  lastSome? (fun (name, content) =>
    if place? name = some text then some (value text content) else none) environment

theorem lastUnder?_settings (environment : List (String × String)) (place : List String) :
    lastUnder? (SettingPath.written place) (settings environment) = given? environment place := by
  rw [settings, lastUnder?_entries, TextMap.get?_ofList, ← List.filterMap_reverse,
    ← List.head?_filterMap, List.filterMap_filterMap, List.head?_filterMap]
  refine congrArg (List.findSome? · environment.reverse) (funext fun (name, content) => ?_)
  dsimp only
  cases place? name with
  | none => rfl
  | some text =>
    by_cases own : text = SettingPath.written place
    · rw [Option.map_some, Option.bind_some, if_pos own, if_pos (congrArg some own), own]
    · rw [Option.map_some, Option.bind_some, if_neg own, if_neg (own ∘ Option.some.inj)]

theorem isLeaf_of_mem_settings {environment : List (String × String)} {entry : String × SettingValue}
    (member : entry ∈ settings environment) : IsLeaf entry.2 := by
  obtain ⟨name, text, _, gives⟩ := exists_of_mem_settings member
  rw [gives]
  exact isLeaf_value _ _

/-- **The environment gives for a place** what the last variable gives that names it. -/
theorem givenIn?_settings {place : List String} (field : place ∈ Settings.fields)
    (environment : List (String × String)) :
    givenIn? place (settings environment) = given? environment place := by
  rw [givenIn?_eq_lastUnder? field, lastUnder?_settings]
  · intro entry member
    obtain ⟨name, text, counts, _⟩ := exists_of_mem_settings member
    exact isLowered_of_place? counts
  · exact fun entry => isLeaf_of_mem_settings

end Environment

/-! ### The arguments -/

namespace Arguments

/-- Options give values for places of settings, and none of them is a table. -/
theorem of_mem_settings {arguments : Arguments} {entry : String × SettingValue}
    (member : entry ∈ arguments.settings) :
    entry.1 ∈ Settings.fields.map SettingPath.written ∧ IsLeaf entry.2 := by
  rw [Settings.map_written_fields]
  unfold settings setting at member
  simp only [List.mem_append, Option.mem_toList, Option.map_eq_some_iff] at member
  rcases member with (((((⟨value, given, rfl⟩ | ⟨value, given, rfl⟩) | ⟨value, given, rfl⟩) |
    ⟨value, given, rfl⟩) | ⟨value, given, rfl⟩) | ⟨value, given, rfl⟩) | ⟨value, given, rfl⟩
  all_goals refine ⟨by simp, fun inner same => ?_⟩
  all_goals obtain rfl : value = table inner := same
  · split at given <;> cases given
  · split at given <;> cases given
  · obtain ⟨_, _, wrong⟩ := given
    cases wrong
  · obtain ⟨_, _, wrong⟩ := given
    cases wrong
  · split at given <;> cases given
  · obtain ⟨_, _, wrong⟩ := given
    cases wrong
  · obtain ⟨_, _, wrong⟩ := given
    cases wrong

theorem lastUnder?_setting (asked place : String) (value : Option SettingValue) :
    lastUnder? asked (setting place value) = if place = asked then value else none := by
  cases value with
  | none => exact (ite_self none).symm
  | some value => exact List.findSome?_singleton

/-- The values of the options at the places of all settings, in their order. -/
theorem map_lastUnder?_fields (arguments : Arguments) :
    Settings.fields.map (fun place => lastUnder? (SettingPath.written place) arguments.settings) =
      [if arguments.sources.isEmpty then none else some (.list (arguments.sources.map .text)),
       if arguments.publishAll then some (.flag true) else none, arguments.space.map .text,
       arguments.recordTtl.map fun ttl => .integer (ttl : Int),
       if arguments.publishInternal then some (.flag true) else none, none,
       arguments.accessFile.map .text, arguments.server.map .text, none, none, none, none, none] := by
  rw [← Function.comp_def (fun text => lastUnder? text arguments.settings) SettingPath.written,
    ← List.map_map, Settings.map_written_fields]
  simp [Arguments.settings, lastUnder?_append, lastUnder?_setting]
  cases arguments.recordTtl <;> rfl

/-- **Arguments give for a place** what the option of this place gives. -/
theorem givenIn?_settings {place : List String} (field : place ∈ Settings.fields)
    (arguments : Arguments) :
    givenIn? place arguments.settings = lastUnder? (SettingPath.written place) arguments.settings := by
  refine givenIn?_eq_lastUnder? field ?_ fun entry member => (of_mem_settings member).2
  intro entry member
  obtain ⟨other, otherField, names⟩ := List.mem_map.mp (of_mem_settings member).1
  rw [← names]
  exact Settings.isLowered_of_mem_fields otherField

end Arguments

/-! ### All layers -/

namespace Settings

/-- A value at the end of keys of which none stands before a place leaves the way to the place. -/
theorem leavesPassable_keys {value : SettingValue} {names place : List String}
    (notBefore : ∀ rest, place = names.map lowered ++ rest → rest = []) :
    LeavesPassable value place (names.map .key) := by
  induction names generalizing place with
  | nil =>
    show LeavesPassable value place []
    obtain rfl : place = [] := notBefore place rfl
    trivial
  | cons name names ih =>
    cases place with
    | nil => trivial
    | cons first rest =>
      intro own
      refine ih fun left same => notBefore left ?_
      rw [List.map_cons, own, same]
      rfl

/-- The options leave the ways to all settings to tables. -/
theorem keepsPassable_arguments {place : List String} (field : place ∈ fields) (arguments : Arguments) :
    KeepsPassable place arguments.settings := by
  intro entry member
  obtain ⟨other, otherField, names⟩ := List.mem_map.mp (Arguments.of_mem_settings member).1
  rw [← names, allSteps_of_mem_fields other otherField]
  refine leavesPassable_keys fun rest longer => ?_
  rw [lowered_of_mem_fields otherField] at longer
  have same := eq_of_prefix place field other otherField
    (List.isPrefixOf_iff_prefix.mpr ⟨rest, longer.symm⟩)
  rw [same] at longer
  exact List.self_eq_append_right.mp longer

/-- Whether file and environment set the groups of settings as tables: they give no other value for a
group, reach no item of a group or setting by an index, and the file has no key that writes a place in a
group only once it is in small letters. -/
structure IsOrderly (file : List (String × SettingValue)) (environment : List (String × String)) :
    Prop where
  filePassable : ∀ place ∈ fields, KeepsPassable place file
  environmentPassable : ∀ place ∈ fields, KeepsPassable place (Environment.settings environment)
  steady : ∀ entry ∈ file, SettingPath.IsSteady groups entry.1

instance (file : List (String × SettingValue)) (environment : List (String × String)) :
    Decidable (IsOrderly file environment) :=
  decidable_of_iff ((∀ place ∈ fields, KeepsPassable place file) ∧
      (∀ place ∈ fields, KeepsPassable place (Environment.settings environment)) ∧
      ∀ entry ∈ file, SettingPath.IsSteady groups entry.1)
    ⟨fun parts => ⟨parts.1, parts.2.1, parts.2.2⟩,
      fun whole => ⟨whole.filePassable, whole.environmentPassable, whole.steady⟩⟩

/-- **What file, environment and arguments make of the place of a setting**: the option counts, else the
variable, else the file. -/
theorem settles_fields {place : List String} (field : place ∈ fields)
    {file : List (String × SettingValue)} {environment : List (String × String)}
    (orderly : IsOrderly file environment) (arguments : Arguments) :
    let tree := overlaid [(overlaid [file, Environment.settings environment]).entries, arguments.settings]
    IsNeat place tree ∧
      Settles ((lastUnder? (SettingPath.written place) arguments.settings).or
          ((Environment.given? environment place).or (givenIn? place file)))
        none (valueAt? place (some tree)) := by
  rw [← Arguments.givenIn?_settings field, ← Environment.givenIn?_settings field]
  obtain ⟨name, group, rest, rfl⟩ := exists_group_of_mem_fields field
  refine settles_layered (ofText_of_mem_groups name group) ?_ ?_
  · rw [List.forall_mem_cons, List.forall_mem_cons, List.forall_mem_singleton]
    exact ⟨orderly.filePassable _ field, orderly.environmentPassable _ field,
      keepsPassable_arguments field arguments⟩
  · rw [List.forall_mem_append]
    refine ⟨?_, ?_⟩
    · exact fun entry member => SettingPath.stands_of_isSteady (orderly.steady entry member) group
    · intro entry member
      obtain ⟨variableName, text, counts, _⟩ := Environment.exists_of_mem_settings member
      have small : lowered entry.1 = entry.1 := lowered_eq_self (Environment.isLowered_of_place? counts)
      exact SettingPath.stands_of_isSteady (SettingPath.isSteady_of_lowered small) group

end Settings

end ClusterMdns
