import ClusterMdns.Arguments

/-!
What the program says of itself: its version, the arguments that it takes, and why it rejects some.
-/

namespace ClusterMdns.Arguments

/-- What is said about rejected arguments. -/
def rejection : UsageError → String
  | .unknownArgument => "an argument is not known"
  | .invalidValue => "a value is missing or not allowed"
  | .valueValidation => "a value is not a number of the right size"
  | .conflict => "an option is given more than once"
  | .tooManyValues => "an option without a value has one"
  | .help => "help is asked for"
  | .version => "the version is asked for"

def versionLine : String := "external-mdns 0.1.0"

/-- The forms of an option and what it is for. -/
structure OptionHelp where
  short : Option Char
  long : String
  purpose : String

def optionHelps : List OptionHelp :=
  [⟨some 'c', "--config <CONFIG>", "Path to configuration file (TOML). Optional"⟩,
    ⟨none, "--source <SOURCES>",
      "Resource types to publish records for; repeat for several"
        ++ " [possible values: service, ingress]"⟩,
    ⟨none, "--publish-all", "Publish every Service, including those without annotations"⟩,
    ⟨none, "--namespace <NAMESPACE>",
      "Limit sources to a namespace (default: all namespaces)"⟩,
    ⟨none, "--record-ttl <RECORD_TTL>", "DNS record time-to-live in seconds"⟩,
    ⟨none, "--publish-internal", "Publish ClusterIP Services with their cluster address"⟩,
    ⟨none, "--kubeconfig <KUBECONFIG>", "Path to a kubeconfig file"⟩,
    ⟨none, "--master <MASTER>", "URL of the Kubernetes API server"⟩,
    ⟨none, "--test",
      "Testing mode: publish a fixed record without contacting Kubernetes"⟩,
    ⟨some 'h', "--help", "Print help"⟩,
    ⟨some 'V', "--version", "Print version"⟩]

namespace OptionHelp

/-- The column in which the purposes start, counted from the long forms. -/
def purposeColumn : Nat := (optionHelps.map fun help => help.long.length).foldl max 0 + 2

def line (help : OptionHelp) : String :=
  let short := match help.short with
    | some c => "-" ++ String.singleton c ++ ", "
    | none => "    "
  let gap := String.ofList (List.replicate (purposeColumn - help.long.length) ' ')
  "  " ++ short ++ help.long ++ gap ++ help.purpose

end OptionHelp

def helpLines : List String :=
  ["Advertise Kubernetes Services and Ingresses as .local records via mDNS", "",
    "Usage: external-mdns [OPTIONS]", "", "Options:"] ++ optionHelps.map OptionHelp.line

end ClusterMdns.Arguments
