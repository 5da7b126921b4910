import ClusterMdns.Address

/-!
The settings of the program, their defaults and the check that they can be run with.

Main statement: `Settings.check_eq_none_iff`, settings pass exactly if there is a source and the
time to live is positive.
-/

namespace ClusterMdns

/-- The kinds of object that records are made from. -/
inductive Source where
  | service
  | ingress
deriving DecidableEq, Repr, Inhabited

def Source.name : Source → String
  | service => "service"
  | ingress => "ingress"

def Source.named? (name : String) : Option Source :=
  if name = "service" then some .service
  else if name = "ingress" then some .ingress
  else none

structure SyncSettings where
  sources : List Source
  publishAll : Bool
  /-- The only namespace that counts; empty for all. -/
  space : String
  recordTtl : UInt32
  publishInternal : Bool
  syncTimeout : UInt64
deriving DecidableEq, Repr

namespace SyncSettings

/-- The settings where nothing is set. -/
def standard : SyncSettings := ⟨[], false, "", 120, false, 60⟩

instance : Inhabited SyncSettings := ⟨standard⟩

/-- The only namespace that counts, if there is one. -/
def onlySpace? (settings : SyncSettings) : Option String :=
  if settings.space.isEmpty then none else some settings.space

end SyncSettings

/-- Whether a namespace passes a restriction to one namespace. -/
def spaceAdmitted (only : Option String) (space : String) : Bool :=
  match only with
  | some name => name == space
  | none => true

structure ClusterSettings where
  accessFile : Option String
  server : Option String
deriving DecidableEq, Repr, Inhabited

structure ResponderSettings where
  listen : SocketAddress
deriving DecidableEq, Repr, Inhabited

structure TraceSettings where
  endpoint : String
  serviceName : String
deriving DecidableEq, Repr, Inhabited

structure TelemetrySettings where
  logLevel : String
  prometheus : Option SocketAddress
  traces : Option TraceSettings
deriving DecidableEq, Repr

namespace TelemetrySettings

/-- The settings where nothing is set. -/
def standard : TelemetrySettings := ⟨"info", none, none⟩

instance : Inhabited TelemetrySettings := ⟨standard⟩

end TelemetrySettings

/-- The name under which traces are sent where none is set. -/
def TraceSettings.standardServiceName : String := "external-mdns"

structure Settings where
  sync : SyncSettings
  cluster : ClusterSettings
  responder : Option ResponderSettings
  telemetry : TelemetrySettings
deriving DecidableEq, Repr

namespace Settings

def standard : Settings := ⟨.standard, ⟨none, none⟩, none, .standard⟩

instance : Inhabited Settings := ⟨standard⟩

/-- Why the program cannot run with settings. -/
inductive Fault where
  | noSource
  /-- The time to live is zero. -/
  | zeroTtl
deriving DecidableEq, Repr

/-- What is said about a fault. -/
def Fault.reason : Fault → String
  | noSource => "specify at least one source to sync records from"
  | zeroTtl => "record_ttl must be positive"

/-- What is wrong with settings, if anything is. -/
def check (settings : Settings) : Option Fault :=
  if settings.sync.sources.isEmpty then some .noSource
  else if settings.sync.recordTtl = 0 then some .zeroTtl
  else none

theorem check_eq_none_iff (settings : Settings) :
    settings.check = none ↔ settings.sync.sources ≠ [] ∧ settings.sync.recordTtl ≠ 0 := by
  simp only [check]
  split
  · simp_all
  · split <;> simp_all

end Settings

end ClusterMdns
