import ClusterMdns.Address.Printer
import ClusterMdns.Arguments.Help
import ClusterMdns.ClusterAccess
import ClusterMdns.Log.Completion
import ClusterMdns.Log.Filter
import ClusterMdns.Settings.File
import ClusterMdns.Settings.Layers
import ClusterMdns.TestMode

/-!
A run of the program from its arguments on: what is logged and how it ends. Settings are read first,
then what is logged is decided, and only then is anything logged. In test mode settings are not
checked, and the cluster is not spoken to. Otherwise the cluster is taken to stay silent.
-/

namespace ClusterMdns

open ClusterMdns.Text

/-- What the program finds where it runs. -/
structure Surroundings where
  environment : List (String × String)
  file? : String → Option String
  server? : String → Option String
  opens : SocketAddress → Bool

namespace Program

/-- How a run ends, as far as it goes by itself. -/
inductive Ending where
  | shown (lines : List String)
  | misused (error : UsageError)
  | unreadable
  | failed (failure : Failure)
  | waiting (closing : List Log.Line)
deriving Repr

/-- The code with which a run exits. -/
def Ending.exitCode : Ending → UInt8
  | shown _ | waiting _ => 0
  | unreadable | failed _ => 1
  | misused _ => 2

structure Course where
  lines : List Log.Line
  ending : Ending
deriving Repr

namespace Course

/-- A course with lines before it. -/
def after (lines : List Log.Line) (course : Course) : Course :=
  { course with lines := lines ++ course.lines }

/-- A course with only the lines that pass a filter. -/
def filtered (filter : Log.Filter) (course : Course) : Course :=
  { lines := course.lines.filter filter.admits
    ending := match course.ending with
      | .waiting closing => .waiting (closing.filter filter.admits)
      | ending => ending }

/-- All lines, those of the end included. -/
def log (course : Course) : List Log.Line :=
  course.lines ++ match course.ending with
    | .waiting closing => closing
    | _ => []

end Course

/-! ### What lines say -/

/-- A line of the program itself. -/
def ownLine (level : Log.Level) (message : String) (particulars : List (String × String)) :
    Log.Line :=
  ⟨level, "external_mdns", message, particulars⟩

/-- A line of the part that keeps the program running. -/
def serverLine (level : Log.Level) (message : String) (particulars : List (String × String)) :
    Log.Line :=
  ⟨level, "external_mdns::server", message, particulars⟩

def followerLine (level : Log.Level) (message : String) (particulars : List (String × String)) :
    Log.Line :=
  ⟨level, "external_mdns::informer", message, particulars⟩

/-- A line of the part that logs and measures. -/
def telemetryLine (level : Log.Level) (message : String) : Log.Line :=
  ⟨level, "external_mdns::telemetry", message, []⟩

/-- The text of a value that may be missing. -/
def optionText (valueText : α → String) : Option α → String
  | none => "None"
  | some value => "Some(" ++ valueText value ++ ")"

def sourceTitle : Source → String
  | .service => "Service"
  | .ingress => "Ingress"

def sourcesText (sources : List Source) : String :=
  "[" ++ String.intercalate ", " (sources.map sourceTitle) ++ "]"

def flagText (flag : Bool) : String := if flag then "true" else "false"

/-- The lines about settings for which the program lacks the means. -/
def warnings (settings : TelemetrySettings) : List Log.Line :=
  (settings.traces.map fun _ => telemetryLine .warn
      "opentelemetry configured but built without the `otel` feature").toList
    ++ (settings.prometheus.map fun _ => telemetryLine .warn
      "prometheus_addr configured but built without the `prometheus` feature").toList

/-- The line that shows the settings. -/
def settingsLine (arguments : Arguments) (settings : Settings) : Log.Line :=
  ownLine .info "app.config"
    [("config_file", optionText Quoted.encodePath arguments.config),
      ("sources", sourcesText settings.sync.sources),
      ("responder", optionText (fun responder => responder.listen.toText) settings.responder)]

/-- The line with which following the cluster starts. -/
def startLine (settings : SyncSettings) : Log.Line :=
  serverLine .info "starting external-mdns"
    [("sources", sourcesText settings.sources), ("publish_all", flagText settings.publishAll),
      ("namespace", Quoted.encode (settings.onlySpace?.getD "<all>")),
      ("record_ttl", toString settings.recordTtl.toNat),
      ("publish_internal", flagText settings.publishInternal)]

/-- The line with which test mode starts. -/
def testLine : Log.Line := serverLine .info "running in test mode, no connection to Kubernetes" []

/-- The lines of a responder that starts. -/
def responderLines (responder : ResponderSettings) : List Log.Line :=
  let address := [("addr", responder.listen.toText)]
  [serverLine .info "responder UDP listening" address,
    serverLine .info "responder TCP listening" address,
    serverLine .info "responder ready to serve queries" []]

/-- The line about the size of the store. -/
def sizeLine (store : Store) : Log.Line :=
  serverLine .debug "emitted store metrics"
    [("records", toString store.recordsCount), ("names", toString store.namesCount)]

/-- The lines of followers that start, and of the relay that they feed. -/
def followerLines (settings : SyncSettings) : List Log.Line :=
  ⟨.info, Batch.target, "dispatcher started", [("ttl", toString settings.recordTtl.toNat)]⟩
    :: settings.sources.map fun source =>
      followerLine .info "starting informer" [("source", source.name)]

/-- The lines about first listings that are awaited and do not come. -/
def awaitingLines (sources : List Source) : List Log.Line :=
  serverLine .info "waiting for informer caches to sync..." []
    :: sources.map (fun _ => serverLine .warn "timed out waiting for caches to sync" [])
    ++ [serverLine .info "initial sync complete"
      [("synced", "0"), ("informers", toString sources.length), ("records", "0")]]

/-- The lines of followers that are told to stop, and of the relay that they feed. -/
def stoppingLines (sources : List Source) : List Log.Line :=
  serverLine .info "waiting for informers to stop..." []
    :: sources.map (fun source =>
      followerLine .info "informer received shutdown signal" [("source", source.name)])
    ++ [⟨.info, Batch.target, "dispatcher received shutdown signal", []⟩]

/-- The lines of a program that is told to stop, with those of all that stops before it does. -/
def closingLines (stopping : List Log.Line) : List Log.Line :=
  [ownLine .info "shutdown signal received" [], serverLine .info "shutdown requested" [],
    serverLine .debug "metrics loop shutting down" []]
  ++ stopping
  ++ [serverLine .info "external-mdns stopped" [],
    ownLine .info "external-mdns shutdown complete" []]

/-! ### The course of a run -/

def failing (failure : Failure) : Course :=
  ⟨[ownLine .error ("external-mdns error: " ++ failure.message) []], .failed failure⟩

/-- Answering queries, if that is set, until the program is told to stop. -/
def serving (opens : SocketAddress → Bool) (responder : Option ResponderSettings) (store : Store)
    (stopping : List Log.Line) : Course :=
  let closing := closingLines stopping
  match responder with
  | none => ⟨[sizeLine store], .waiting closing⟩
  | some responder =>
    if opens responder.listen then ⟨responderLines responder ++ [sizeLine store], .waiting closing⟩
    else failing .socket

def testing (surroundings : Surroundings) (settings : Settings) : Course :=
  let ttl := settings.sync.recordTtl
  (serving surroundings.opens settings.responder (TestMode.store ttl) []).after
    (testLine :: TestMode.lines ttl)

/-- Following a cluster that can be reached but stays silent. -/
def following (surroundings : Surroundings) (settings : Settings) : Course :=
  let sources := settings.sync.sources
  let server := settings.cluster.shownServer surroundings.server?
  (serving surroundings.opens settings.responder .empty (stoppingLines sources)).after
    (serverLine .info "connecting to Kubernetes API" [("cluster_url", server)]
      :: followerLines settings.sync ++ awaitingLines sources)

/-- Reaching the cluster and following it. Settings that do not pass are not logged. -/
def reaching (surroundings : Surroundings) (arguments : Arguments) (settings : Settings) :
    Course :=
  match settings.check with
  | some fault => ⟨[], .failed fault.failure⟩
  | none =>
    let reached := match settings.cluster.accessFailure? surroundings.server? with
      | some failure => failing failure
      | none => following surroundings settings
    reached.after [settingsLine arguments settings, startLine settings.sync]

/-- The variable with directives that go before those of the settings. -/
def directivesVariable : String := "RUST_LOG"

/-- What is logged. Malformed directives in the variable are passed over, in the settings they are
an error. -/
def filter? (surroundings : Surroundings) (settings : TelemetrySettings) : Option Log.Filter :=
  ((surroundings.environment.lookup directivesVariable).bind Log.Filter.read?).orElse fun _ =>
    Log.Filter.read? (Log.completed settings.logLevel)

/-- The settings of a run. -/
def settings? (surroundings : Surroundings) (arguments : Arguments) : Option Settings := do
  let file ← SettingsFile.text? surroundings.file? arguments.config
  Settings.layered? file surroundings.environment arguments

def started (surroundings : Surroundings) (arguments : Arguments) (settings : Settings) : Course :=
  let course :=
    if arguments.test then testing surroundings settings
    else reaching surroundings arguments settings
  course.after (warnings settings.telemetry)

def accepted (surroundings : Surroundings) (arguments : Arguments) : Course :=
  match settings? surroundings arguments with
  | none => ⟨[], .unreadable⟩
  | some settings =>
    match filter? surroundings settings.telemetry with
    | none => ⟨[], .unreadable⟩
    | some filter => (started surroundings arguments settings).filtered filter

def course (surroundings : Surroundings) (arguments : List String) : Course :=
  match Arguments.read arguments with
  | .error .help => ⟨[], .shown Arguments.helpLines⟩
  | .error .version => ⟨[], .shown [Arguments.versionLine]⟩
  | .error error => ⟨[], .misused error⟩
  | .ok arguments => accepted surroundings arguments

end Program

end ClusterMdns
