import ClusterMdns.Address.Reader
import ClusterMdns.Settings

/-!
Which settings there are, what they are called and what stands for an absent one. How a value gives
a text, a number or a group of settings is up to the format that settings are written in.
-/

namespace ClusterMdns

/-- How the values of a format are read. -/
structure SettingFormat (Value : Type) where
  /-- The values of a group of settings, in the order of the names given; nothing for an absent
  one. Settings of other names are passed over. -/
  group? : List String → Value → Option (List (Option Value))
  isNothing : Value → Bool
  text? : Value → Option String
  flag? : Value → Option Bool
  natural? : Value → Option Nat
  items? : Value → Option (List Value)
  sourceName? : Value → Option String

namespace SettingFormat

variable {Value : Type} (format : SettingFormat Value)

/-- A setting with a default for where it is absent. -/
def orDefault? {α : Type} (standard : α) (read? : Value → Option α) : Option Value → Option α
  | none => some standard
  | some value => read? value

/-- A setting that may not be absent. -/
def required? {α : Type} (read? : Value → Option α) (value : Option Value) : Option α :=
  value.bind read?

/-- A setting that may be absent. -/
def optional? {α : Type} (read? : Value → Option α) : Option Value → Option (Option α)
  | none => some none
  | some value => if format.isNothing value then some none else (read? value).map some

/-- A natural number below a limit. -/
def bounded? (limit : Nat) (value : Value) : Option Nat :=
  (format.natural? value).filter (· < limit)

def sources? (value : Value) : Option (List Source) := do
  (← format.items? value).mapM fun item => (format.sourceName? item).bind Source.named?

def socketAddress? (value : Value) : Option SocketAddress :=
  (format.text? value).bind SocketAddress.read?

def sync? (value : Value) : Option SyncSettings := do
  let standard := SyncSettings.standard
  match ← format.group? ["sources", "publish_all", "namespace", "record_ttl", "publish_internal",
      "cache_sync_timeout_secs"] value with
  | [sources, publishAll, space, recordTtl, publishInternal, syncTimeout] =>
    some
      { sources := ← orDefault? standard.sources format.sources? sources
        publishAll := ← orDefault? standard.publishAll format.flag? publishAll
        space := ← orDefault? standard.space format.text? space
        recordTtl := ← orDefault? standard.recordTtl
          (fun value => (format.bounded? UInt32.size value).map UInt32.ofNat) recordTtl
        publishInternal := ← orDefault? standard.publishInternal format.flag? publishInternal
        syncTimeout := ← orDefault? standard.syncTimeout
          (fun value => (format.bounded? UInt64.size value).map UInt64.ofNat) syncTimeout }
  | _ => none

def cluster? (value : Value) : Option ClusterSettings := do
  match ← format.group? ["kubeconfig", "master"] value with
  | [accessFile, server] =>
    some ⟨← format.optional? format.text? accessFile, ← format.optional? format.text? server⟩
  | _ => none

def responder? (value : Value) : Option ResponderSettings := do
  match ← format.group? ["listen_addr"] value with
  | [listen] => some ⟨← required? format.socketAddress? listen⟩
  | _ => none

def traces? (value : Value) : Option TraceSettings := do
  match ← format.group? ["endpoint", "service_name"] value with
  | [endpoint, serviceName] =>
    some ⟨← required? format.text? endpoint,
      ← orDefault? TraceSettings.standardServiceName format.text? serviceName⟩
  | _ => none

def telemetry? (value : Value) : Option TelemetrySettings := do
  match ← format.group? ["log_level", "prometheus_addr", "opentelemetry"] value with
  | [logLevel, prometheus, traces] =>
    some ⟨← orDefault? TelemetrySettings.standard.logLevel format.text? logLevel,
      ← format.optional? format.socketAddress? prometheus,
      ← format.optional? format.traces? traces⟩
  | _ => none

def settings? (value : Value) : Option Settings := do
  match ← format.group? ["sync", "kubernetes", "responder", "telemetry"] value with
  | [sync, cluster, responder, telemetry] =>
    some ⟨← orDefault? .standard format.sync? sync,
      ← orDefault? ⟨none, none⟩ format.cluster? cluster,
      ← format.optional? format.responder? responder,
      ← orDefault? .standard format.telemetry? telemetry⟩
  | _ => none

end SettingFormat

end ClusterMdns
