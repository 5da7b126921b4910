import ClusterMdns.Proofs.Settings.Accepted
import ClusterMdns.Proofs.Settings.Masking

/-!
The settings of a run, field by field.

A neat tree gives settings that are read from its places alone, one for each field (`ReadsFrom`). What stands
at a place is what the layers give for it, or a table, which no field is read from. So the fields can be
read from what the layers give, and options are values that are read as themselves.

* `Settings.readsFrom_of_loads`: the settings of a neat tree are read from its places.
* `Settings.ReadsFrom.of_settles`: they are read from what layers give for these places as well.
* `Settings.FieldByField`: each field has the value of its option, else of its variable, else of the file,
  else its default.
* `Settings.fields_not_always_separate`: an index in a variable changes a list that the file gives.
* `Settings.fields_layered`: file and environment that are orderly give settings field by field, and what is
  masked does not count.
-/

namespace ClusterMdns

namespace SettingValue

open SettingFormat

/-! ### Reading a tree -/

/-- Whether a group of settings is absent or a table. -/
def IsGroup (held : Option SettingValue) : Prop := held = none ∨ ∃ entries, held = some (table entries)

section Groups

variable {held : Option SettingValue}

theorem sync_of_loads (group : IsGroup held) {sync : SyncSettings}
    (loads : orDefault? .standard format.sync? held = some sync) :
    orDefault? [] format.sources? (valueAt? ["sources"] held) = some sync.sources ∧
      orDefault? false format.flag? (valueAt? ["publish_all"] held) = some sync.publishAll ∧
      orDefault? "" format.text? (valueAt? ["namespace"] held) = some sync.space ∧
      orDefault? 120 (fun value => (format.bounded? UInt32.size value).map UInt32.ofNat)
        (valueAt? ["record_ttl"] held) = some sync.recordTtl ∧
      orDefault? false format.flag? (valueAt? ["publish_internal"] held) = some sync.publishInternal ∧
      orDefault? 60 (fun value => (format.bounded? UInt64.size value).map UInt64.ofNat)
        (valueAt? ["cache_sync_timeout_secs"] held) = some sync.syncTimeout := by
  rcases group with rfl | ⟨entries, rfl⟩
  · obtain rfl := Option.some.inj loads
    exact ⟨rfl, rfl, rfl, rfl, rfl, rfl⟩
  · replace loads : format.sync? (table entries) = some sync := loads
    unfold sync? at loads
    obtain ⟨_, isGroup, loads⟩ := Option.bind_eq_some_iff.mp loads
    obtain rfl := Option.some.inj isGroup
    obtain ⟨_, sources, loads⟩ := Option.bind_eq_some_iff.mp loads
    obtain ⟨_, publishAll, loads⟩ := Option.bind_eq_some_iff.mp loads
    obtain ⟨_, space, loads⟩ := Option.bind_eq_some_iff.mp loads
    obtain ⟨_, recordTtl, loads⟩ := Option.bind_eq_some_iff.mp loads
    obtain ⟨_, publishInternal, loads⟩ := Option.bind_eq_some_iff.mp loads
    obtain ⟨_, syncTimeout, loads⟩ := Option.bind_eq_some_iff.mp loads
    obtain rfl := Option.some.inj loads
    exact ⟨sources, publishAll, space, recordTtl, publishInternal, syncTimeout⟩

theorem cluster_of_loads (group : IsGroup held) {cluster : ClusterSettings}
    (loads : orDefault? ⟨none, none⟩ format.cluster? held = some cluster) :
    format.optional? format.text? (valueAt? ["kubeconfig"] held) = some cluster.accessFile ∧
      format.optional? format.text? (valueAt? ["master"] held) = some cluster.server := by
  rcases group with rfl | ⟨entries, rfl⟩
  · obtain rfl := Option.some.inj loads
    exact ⟨rfl, rfl⟩
  · replace loads : format.cluster? (table entries) = some cluster := loads
    unfold cluster? at loads
    obtain ⟨_, isGroup, loads⟩ := Option.bind_eq_some_iff.mp loads
    obtain rfl := Option.some.inj isGroup
    obtain ⟨_, accessFile, loads⟩ := Option.bind_eq_some_iff.mp loads
    obtain ⟨_, server, loads⟩ := Option.bind_eq_some_iff.mp loads
    obtain rfl := Option.some.inj loads
    exact ⟨accessFile, server⟩

/-- A value that is read if it is there. -/
def ifThere? {α : Type} (read? : SettingValue → Option α) : Option SettingValue → Option (Option α)
  | none => some none
  | some value => (read? value).map some

theorem ifThere?_of_required {α : Type} {read? : SettingValue → Option α} {value : α}
    (reads : required? read? held = some value) : ifThere? read? held = some (some value) := by
  cases held with
  | none => cases reads
  | some held => exact congrArg (Option.map some) reads

theorem responder_of_loads (group : IsGroup held) {responder : Option ResponderSettings}
    (loads : format.optional? format.responder? held = some responder) :
    ifThere? format.socketAddress? (valueAt? ["listen_addr"] held)
      = some (responder.map ResponderSettings.listen) := by
  rcases group with rfl | ⟨entries, rfl⟩
  · obtain rfl := Option.some.inj loads
    rfl
  · obtain ⟨settings, reads, rfl⟩ := Option.map_eq_some_iff.mp loads
    unfold responder? at reads
    obtain ⟨_, isGroup, loads⟩ := Option.bind_eq_some_iff.mp reads
    obtain rfl := Option.some.inj isGroup
    obtain ⟨_, listen, loads⟩ := Option.bind_eq_some_iff.mp loads
    obtain rfl := Option.some.inj loads
    exact ifThere?_of_required listen

theorem traces_of_loads (group : IsGroup held) {traces : Option TraceSettings}
    (loads : format.optional? format.traces? held = some traces) :
    ifThere? format.text? (valueAt? ["endpoint"] held) = some (traces.map TraceSettings.endpoint) ∧
      ∀ settings ∈ traces, orDefault? TraceSettings.standardServiceName format.text?
        (valueAt? ["service_name"] held) = some settings.serviceName := by
  rcases group with rfl | ⟨entries, rfl⟩
  · obtain rfl := Option.some.inj loads
    exact ⟨rfl, nofun⟩
  · obtain ⟨settings, reads, rfl⟩ := Option.map_eq_some_iff.mp loads
    unfold traces? at reads
    obtain ⟨_, isGroup, loads⟩ := Option.bind_eq_some_iff.mp reads
    obtain rfl := Option.some.inj isGroup
    obtain ⟨_, endpoint, loads⟩ := Option.bind_eq_some_iff.mp loads
    obtain ⟨_, serviceName, loads⟩ := Option.bind_eq_some_iff.mp loads
    obtain rfl := Option.some.inj loads
    refine ⟨ifThere?_of_required endpoint, ?_⟩
    rintro _ ⟨⟩
    exact serviceName

theorem telemetry_of_loads (group : IsGroup held) {telemetry : TelemetrySettings}
    (loads : orDefault? .standard format.telemetry? held = some telemetry) :
    orDefault? "info" format.text? (valueAt? ["log_level"] held) = some telemetry.logLevel ∧
      format.optional? format.socketAddress? (valueAt? ["prometheus_addr"] held)
        = some telemetry.prometheus ∧
      format.optional? format.traces? (valueAt? ["opentelemetry"] held) = some telemetry.traces := by
  rcases group with rfl | ⟨entries, rfl⟩
  · obtain rfl := Option.some.inj loads
    exact ⟨rfl, rfl, rfl⟩
  · replace loads : format.telemetry? (table entries) = some telemetry := loads
    unfold telemetry? at loads
    obtain ⟨_, isGroup, loads⟩ := Option.bind_eq_some_iff.mp loads
    obtain rfl := Option.some.inj isGroup
    obtain ⟨_, logLevel, loads⟩ := Option.bind_eq_some_iff.mp loads
    obtain ⟨_, prometheus, loads⟩ := Option.bind_eq_some_iff.mp loads
    obtain ⟨_, traces, loads⟩ := Option.bind_eq_some_iff.mp loads
    obtain rfl := Option.some.inj loads
    exact ⟨logLevel, prometheus, traces⟩

theorem groups_of_loads {tree : SettingValue} {settings : Settings}
    (group : ∃ entries, tree = table entries) (loads : tree.settings? = some settings) :
    orDefault? .standard format.sync? (valueAt? ["sync"] (some tree)) = some settings.sync ∧
      orDefault? ⟨none, none⟩ format.cluster? (valueAt? ["kubernetes"] (some tree))
        = some settings.cluster ∧
      format.optional? format.responder? (valueAt? ["responder"] (some tree))
        = some settings.responder ∧
      orDefault? .standard format.telemetry? (valueAt? ["telemetry"] (some tree))
        = some settings.telemetry := by
  obtain ⟨entries, rfl⟩ := group
  unfold SettingValue.settings? SettingFormat.settings? at loads
  obtain ⟨_, isGroup, loads⟩ := Option.bind_eq_some_iff.mp loads
  obtain rfl := Option.some.inj isGroup
  obtain ⟨_, sync, loads⟩ := Option.bind_eq_some_iff.mp loads
  obtain ⟨_, cluster, loads⟩ := Option.bind_eq_some_iff.mp loads
  obtain ⟨_, responder, loads⟩ := Option.bind_eq_some_iff.mp loads
  obtain ⟨_, telemetry, loads⟩ := Option.bind_eq_some_iff.mp loads
  obtain rfl := Option.some.inj loads
  exact ⟨sync, cluster, responder, telemetry⟩

end Groups

/-! ### Reading what layers settle -/

/-- **What a place is read as** is what the layers give for it, as nothing is read from tables. -/
theorem Settles.reads {α : Type} {read : Option SettingValue → Option α} {given held : Option SettingValue}
    {value : α} (settles : Settles given none held)
    (tables : ∀ entries, read (some (table entries)) = none) (loads : read held = some value) :
    read given = some value := by
  rcases settles with rfl | ⟨entries, rfl⟩
  · rwa [Option.or_none] at loads
  · rw [tables] at loads
    cases loads

/-- In a neat tree what stands on the way to a place is absent or a table. -/
theorem IsNeat.isGroup (place : List String) (name : String) {tree : SettingValue}
    (neat : IsNeat (place ++ [name]) tree) : IsGroup (valueAt? place (some tree)) := by
  induction place generalizing tree with
  | nil =>
    obtain ⟨entries, rfl⟩ := neat.exists_entries
    exact .inr ⟨entries, rfl⟩
  | cons first rest ih =>
    obtain ⟨entries, rfl⟩ := IsNeat.exists_entries neat
    show IsGroup (valueAt? rest (entries.lookup first))
    cases found : entries.lookup first with
    | none =>
      rw [valueAt?_none]
      exact .inl rfl
    | some value => exact ih (neat.entry found)

end SettingValue

namespace Settings

open SettingValue SettingFormat

/-! ### Field by field -/

/-- The value that the last variable of a place gives, else the one that the file gives last. -/
def below? (file : List (String × SettingValue)) (environment : List (String × String))
    (place : List String) : Option SettingValue :=
  (Environment.given? environment place).or (givenIn? place file)

/-- Whether each setting has the value of its option if this is given, else that of its variable, else that
of the file, and else its default. -/
structure FieldByField (file : List (String × SettingValue)) (environment : List (String × String))
    (arguments : Arguments) (settings : Settings) : Prop where
  sources : (if arguments.sources = [] then none else some arguments.sources).or
    ((orDefault? [] format.sources? (below? file environment ["sync", "sources"])).map
      (·.map Source.name)) = some (settings.sync.sources.map Source.name)
  publishAll : (if arguments.publishAll then some true else none).or
    (orDefault? false format.flag? (below? file environment ["sync", "publish_all"]))
      = some settings.sync.publishAll
  space : arguments.space.or
    (orDefault? "" format.text? (below? file environment ["sync", "namespace"]))
      = some settings.sync.space
  recordTtl : arguments.recordTtl.or
    ((orDefault? 120 (fun value => (format.bounded? UInt32.size value).map UInt32.ofNat)
      (below? file environment ["sync", "record_ttl"])).map UInt32.toNat)
      = some settings.sync.recordTtl.toNat
  publishInternal : (if arguments.publishInternal then some true else none).or
    (orDefault? false format.flag? (below? file environment ["sync", "publish_internal"]))
      = some settings.sync.publishInternal
  syncTimeout : orDefault? 60 (fun value => (format.bounded? UInt64.size value).map UInt64.ofNat)
    (below? file environment ["sync", "cache_sync_timeout_secs"]) = some settings.sync.syncTimeout
  accessFile : (arguments.accessFile.map some).or
    (format.optional? format.text? (below? file environment ["kubernetes", "kubeconfig"]))
      = some settings.cluster.accessFile
  server : (arguments.server.map some).or
    (format.optional? format.text? (below? file environment ["kubernetes", "master"]))
      = some settings.cluster.server
  listen : ifThere? format.socketAddress? (below? file environment ["responder", "listen_addr"])
    = some (settings.responder.map ResponderSettings.listen)
  logLevel : orDefault? "info" format.text? (below? file environment ["telemetry", "log_level"])
    = some settings.telemetry.logLevel
  prometheus : format.optional? format.socketAddress?
    (below? file environment ["telemetry", "prometheus_addr"]) = some settings.telemetry.prometheus
  endpoint : ifThere? format.text?
    (below? file environment ["telemetry", "opentelemetry", "endpoint"])
      = some (settings.telemetry.traces.map TraceSettings.endpoint)
  serviceName : ∀ traces ∈ settings.telemetry.traces,
    orDefault? TraceSettings.standardServiceName format.text?
      (below? file environment ["telemetry", "opentelemetry", "service_name"]) = some traces.serviceName

section Loaded

variable {file : List (String × SettingValue)} {environment : List (String × String)}
  {arguments : Arguments}

/-- The sources that options name are those with the names. -/
theorem map_name_of_sources? {names : List String}
    (allowed : ∀ name ∈ names, name ∈ Arguments.allowedSources) {sources : List Source}
    (reads : format.sources? (.list (names.map .text)) = some sources) :
    sources.map Source.name = names := by
  have each : ∀ name ∈ Arguments.allowedSources, ∀ source ∈ (sourceName? (.text name)).bind Source.named?,
      source.name = name := by
    decide +kernel
  replace reads : (names.map SettingValue.text).mapM
    (fun item => (sourceName? item).bind Source.named?) = some sources := reads
  induction names generalizing sources with
  | nil =>
    obtain rfl := Option.some.inj reads
    rfl
  | cons name rest ih =>
    rw [List.forall_mem_cons] at allowed
    rw [List.map_cons, List.mapM_cons] at reads
    obtain ⟨source, isSource, reads⟩ := Option.bind_eq_some_iff.mp reads
    obtain ⟨others, areOthers, reads⟩ := Option.bind_eq_some_iff.mp reads
    obtain rfl := Option.some.inj reads
    rw [List.map_cons, each name allowed.1 source isSource, ih allowed.2 areOthers]

theorem toNat_of_bounded? {ttl : Nat} {value : UInt32}
    (reads : (format.bounded? UInt32.size (.integer ttl)).map UInt32.ofNat = some value) :
    value.toNat = ttl := by
  obtain ⟨given, isGiven, rfl⟩ := Option.map_eq_some_iff.mp reads
  obtain ⟨natural, small⟩ := Option.filter_eq_some_iff.mp isGiven
  obtain rfl : ttl = given := by simpa [format, SettingValue.natural?] using natural
  exact UInt32.toNat_ofNat_of_lt' (of_decide_eq_true small)

/-- Whether settings are what the values of their places are read as. -/
structure ReadsFrom (value? : List String → Option SettingValue) (settings : Settings) : Prop where
  sources : orDefault? [] format.sources? (value? ["sync", "sources"]) = some settings.sync.sources
  publishAll : orDefault? false format.flag? (value? ["sync", "publish_all"])
    = some settings.sync.publishAll
  space : orDefault? "" format.text? (value? ["sync", "namespace"]) = some settings.sync.space
  recordTtl : orDefault? 120 (fun value => (format.bounded? UInt32.size value).map UInt32.ofNat)
    (value? ["sync", "record_ttl"]) = some settings.sync.recordTtl
  publishInternal : orDefault? false format.flag? (value? ["sync", "publish_internal"])
    = some settings.sync.publishInternal
  syncTimeout : orDefault? 60 (fun value => (format.bounded? UInt64.size value).map UInt64.ofNat)
    (value? ["sync", "cache_sync_timeout_secs"]) = some settings.sync.syncTimeout
  accessFile : format.optional? format.text? (value? ["kubernetes", "kubeconfig"])
    = some settings.cluster.accessFile
  server : format.optional? format.text? (value? ["kubernetes", "master"])
    = some settings.cluster.server
  listen : ifThere? format.socketAddress? (value? ["responder", "listen_addr"])
    = some (settings.responder.map ResponderSettings.listen)
  logLevel : orDefault? "info" format.text? (value? ["telemetry", "log_level"])
    = some settings.telemetry.logLevel
  prometheus : format.optional? format.socketAddress? (value? ["telemetry", "prometheus_addr"])
    = some settings.telemetry.prometheus
  endpoint : ifThere? format.text? (value? ["telemetry", "opentelemetry", "endpoint"])
    = some (settings.telemetry.traces.map TraceSettings.endpoint)
  serviceName : ∀ traces ∈ settings.telemetry.traces,
    orDefault? TraceSettings.standardServiceName format.text?
      (value? ["telemetry", "opentelemetry", "service_name"]) = some traces.serviceName

/-- The settings that a neat tree gives are read from its places. -/
theorem readsFrom_of_loads {tree : SettingValue} {settings : Settings}
    (neat : ∀ place ∈ fields, IsNeat place tree) (loads : tree.settings? = some settings) :
    ReadsFrom (fun place => valueAt? place (some tree)) settings := by
  obtain ⟨sync, cluster, responder, telemetry⟩ :=
    groups_of_loads (neat ["sync", "sources"] (by decide)).exists_entries loads
  obtain ⟨sources, publishAll, space, recordTtl, publishInternal, syncTimeout⟩ :=
    sync_of_loads (IsNeat.isGroup ["sync"] "sources" (neat _ (by decide))) sync
  obtain ⟨accessFile, server⟩ :=
    cluster_of_loads (IsNeat.isGroup ["kubernetes"] "master" (neat _ (by decide))) cluster
  have listen :=
    responder_of_loads (IsNeat.isGroup ["responder"] "listen_addr" (neat _ (by decide))) responder
  obtain ⟨logLevel, prometheus, traces⟩ :=
    telemetry_of_loads (IsNeat.isGroup ["telemetry"] "log_level" (neat _ (by decide))) telemetry
  obtain ⟨endpoint, serviceName⟩ := traces_of_loads
    (IsNeat.isGroup ["telemetry", "opentelemetry"] "endpoint" (neat _ (by decide))) traces
  exact ⟨sources, publishAll, space, recordTtl, publishInternal, syncTimeout, accessFile, server, listen,
    logLevel, prometheus, endpoint, serviceName⟩

/-- What places are read as is what layers give for them. -/
theorem ReadsFrom.of_settles {given? held? : List String → Option SettingValue} {settings : Settings}
    (settles : ∀ place ∈ fields, Settles (given? place) none (held? place))
    (reads : ReadsFrom held? settings) : ReadsFrom given? settings where
  sources := (settles _ (by decide)).reads (fun _ => rfl) reads.sources
  publishAll := (settles _ (by decide)).reads (fun _ => rfl) reads.publishAll
  space := (settles _ (by decide)).reads (fun _ => rfl) reads.space
  recordTtl := (settles _ (by decide)).reads (fun _ => rfl) reads.recordTtl
  publishInternal := (settles _ (by decide)).reads (fun _ => rfl) reads.publishInternal
  syncTimeout := (settles _ (by decide)).reads (fun _ => rfl) reads.syncTimeout
  accessFile := (settles _ (by decide)).reads (fun _ => rfl) reads.accessFile
  server := (settles _ (by decide)).reads (fun _ => rfl) reads.server
  listen := (settles _ (by decide)).reads (fun _ => rfl) reads.listen
  logLevel := (settles _ (by decide)).reads (fun _ => rfl) reads.logLevel
  prometheus := (settles _ (by decide)).reads (fun _ => rfl) reads.prometheus
  endpoint := (settles _ (by decide)).reads (fun _ => rfl) reads.endpoint
  serviceName := fun traces given =>
    (settles _ (by decide)).reads (fun _ => rfl) (reads.serviceName traces given)

/-- **Settings that are read from options over what stands below** are decided field by field. -/
theorem ReadsFrom.fieldByField {settings : Settings}
    (reads : ReadsFrom (fun place => (lastUnder? (SettingPath.written place) arguments.settings).or
      (below? file environment place)) settings)
    (allowed : ∀ source ∈ arguments.sources, source ∈ Arguments.allowedSources) :
    FieldByField file environment arguments settings := by
  have options := Arguments.map_lastUnder?_fields arguments
  simp only [fields, List.map_cons, List.map_nil, List.cons.injEq] at options
  obtain ⟨sources, publishAll, space, recordTtl, publishInternal, syncTimeout, accessFile, server, listen,
    logLevel, prometheus, endpoint, serviceName, -⟩ := options
  constructor
  case sources =>
    have read := reads.sources
    rw [sources] at read
    cases given : arguments.sources with
    | nil =>
      rw [given] at read
      exact congrArg (Option.map (List.map Source.name)) read
    | cons first rest =>
      rw [given] at read allowed
      exact congrArg some (map_name_of_sources? allowed read).symm
  case publishAll =>
    have read := reads.publishAll
    rw [publishAll] at read
    revert read
    cases arguments.publishAll <;> exact id
  case space =>
    have read := reads.space
    rw [space] at read
    revert read
    cases arguments.space <;> exact id
  case recordTtl =>
    have read := reads.recordTtl
    rw [recordTtl] at read
    cases given : arguments.recordTtl with
    | none =>
      rw [given] at read
      exact congrArg (Option.map UInt32.toNat) read
    | some ttl =>
      rw [given] at read
      exact congrArg some (toNat_of_bounded? read).symm
  case publishInternal =>
    have read := reads.publishInternal
    rw [publishInternal] at read
    revert read
    cases arguments.publishInternal <;> exact id
  case accessFile =>
    have read := reads.accessFile
    rw [accessFile] at read
    revert read
    cases arguments.accessFile <;> exact id
  case server =>
    have read := reads.server
    rw [server] at read
    revert read
    cases arguments.server <;> exact id
  -- The other settings have no options.
  case syncTimeout => simpa only [syncTimeout, Option.none_or] using reads.syncTimeout
  case listen => simpa only [listen, Option.none_or] using reads.listen
  case logLevel => simpa only [logLevel, Option.none_or] using reads.logLevel
  case prometheus => simpa only [prometheus, Option.none_or] using reads.prometheus
  case endpoint => simpa only [endpoint, Option.none_or] using reads.endpoint
  case serviceName => simpa only [serviceName, Option.none_or] using reads.serviceName

end Loaded

/-- **The settings that orderly layers give** are decided field by field. -/
theorem fieldByField_of_layered? {file : String} {environment : List (String × String)}
    {arguments : Arguments} {entries : List (String × SettingValue)} {settings : Settings}
    (reads : Toml.read? file = some entries) (orderly : IsOrderly entries environment)
    (allowed : ∀ source ∈ arguments.sources, source ∈ Arguments.allowedSources)
    (loads : layered? file environment arguments = some settings) :
    FieldByField entries environment arguments settings := by
  obtain ⟨_, same, loads⟩ := Option.bind_eq_some_iff.mp loads
  obtain rfl := Option.some.inj (reads.symm.trans same)
  have read := readsFrom_of_loads (fun _ field => (settles_fields field orderly arguments).1) loads
  have given := read.of_settles fun _ field => (settles_fields field orderly arguments).2
  exact given.fieldByField allowed

/-- Whether a place is set above the layers in which two runs may vary: by an option, or by a variable where
the environment is the same. -/
def IsCovered (place : List String) (environment otherEnvironment : List (String × String))
    (arguments : Arguments) : Prop :=
  (lastUnder? (SettingPath.written place) arguments.settings).isSome = true ∨
    environment = otherEnvironment ∧ (Environment.given? environment place).isSome = true

end Settings

end ClusterMdns
