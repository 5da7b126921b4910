import ClusterMdns.Number.Reader

/-!
The arguments of the command line. Options stand in any order, each with its value after an equals
sign or as the next argument; only the source may be given more than once. The value of an option
counts once the next known option or the end is reached, so that an argument that is not known is
what is reported of the two.
-/

namespace ClusterMdns

/-- Why arguments are rejected. -/
inductive UsageError where
  | unknownArgument
  /-- A value is missing or none of those allowed. -/
  | invalidValue
  | valueValidation
  | conflict
  /-- There is a value where none belongs. -/
  | tooManyValues
  | help
  | version
deriving DecidableEq, Repr

structure Arguments where
  config : Option String
  /-- The sources, in the order given. -/
  sources : List String
  publishAll : Bool
  space : Option String
  recordTtl : Option Nat
  publishInternal : Bool
  accessFile : Option String
  server : Option String
  test : Bool
deriving DecidableEq, Repr, Inhabited

namespace Arguments

/-- What no arguments say. -/
def empty : Arguments := ⟨none, [], false, none, none, false, none, none, false⟩

inductive ValueOption where
  | config | source | space | recordTtl | accessFile | server
deriving DecidableEq, Repr

inductive Flag where
  | publishAll | publishInternal | test | help | version
deriving DecidableEq, Repr

inductive Switch where
  | valued (option : ValueOption)
  | flag (flag : Flag)
deriving DecidableEq, Repr

def longSwitch? (name : String) : Option Switch :=
  [("config", Switch.valued .config), ("source", .valued .source), ("namespace", .valued .space),
    ("record-ttl", .valued .recordTtl), ("kubeconfig", .valued .accessFile),
    ("master", .valued .server), ("publish-all", .flag .publishAll),
    ("publish-internal", .flag .publishInternal), ("test", .flag .test), ("help", .flag .help),
    ("version", .flag .version)].lookup name

def shortSwitch? (c : Char) : Option Switch :=
  if c = 'c' then some (.valued .config)
  else if c = 'h' then some (.flag .help)
  else if c = 'V' then some (.flag .version)
  else none

/-- A path, which is not empty. -/
def path (value : String) : Except UsageError String :=
  if value.isEmpty then .error .invalidValue else .ok value

def word (value : String) : Except UsageError Nat :=
  match Number.integer64? value.toList with
  | some n => if 0 ≤ n ∧ n < UInt32.size then .ok n.toNat else .error .valueValidation
  | none => .error .valueValidation

def allowedSources : List String := ["service", "ingress"]

def given (arguments : Arguments) : ValueOption → Bool
  | .config => arguments.config.isSome
  | .source => false
  | .space => arguments.space.isSome
  | .recordTtl => arguments.recordTtl.isSome
  | .accessFile => arguments.accessFile.isSome
  | .server => arguments.server.isSome

/-- What the arguments say with one more value. -/
def withValue (arguments : Arguments) (value : String) :
    ValueOption → Except UsageError Arguments
  | .config => do return { arguments with config := some (← path value) }
  | .source =>
    if allowedSources.contains value then
      .ok { arguments with sources := arguments.sources ++ [value] }
    else .error .invalidValue
  | .space => .ok { arguments with space := some value }
  | .recordTtl => do return { arguments with recordTtl := some (← word value) }
  | .accessFile => do return { arguments with accessFile := some (← path value) }
  | .server => .ok { arguments with server := some value }

/-- What the arguments say with one more option and its value, if it has one. -/
def withOption (arguments : Arguments) (option : ValueOption) (value : Option String) :
    Except UsageError Arguments :=
  match value with
  | none => .error .invalidValue
  | some value =>
    if arguments.given option then .error .conflict else arguments.withValue value option

/-- What the arguments say with one more option without a value. -/
def withFlag (arguments : Arguments) : Flag → Except UsageError Arguments
  | .publishAll =>
    if arguments.publishAll then .error .conflict else .ok { arguments with publishAll := true }
  | .publishInternal =>
    if arguments.publishInternal then .error .conflict
    else .ok { arguments with publishInternal := true }
  | .test => if arguments.test then .error .conflict else .ok { arguments with test := true }
  | .help => .error .help
  | .version => .error .version

structure Progress where
  said : Arguments
  /-- The last option and its value, which does not count yet. -/
  pending : Option (ValueOption × Option String)
  open? : Bool
  ended : Bool

namespace Progress

def start : Progress := ⟨empty, none, false, false⟩

/-- What the arguments say once the last option counts. -/
def settled (progress : Progress) : Except UsageError Arguments :=
  match progress.pending with
  | none => .ok progress.said
  | some (option, value) => progress.said.withOption option value

/-- After an option that waits for its value. -/
def opened (progress : Progress) (option : ValueOption) : Except UsageError Progress := do
  return { progress with said := ← progress.settled, pending := some (option, none), open? := true }

def attached (progress : Progress) (option : ValueOption) (value : String) :
    Except UsageError Progress := do
  let said ← (← progress.settled).withOption option (some value)
  return { progress with said := said, pending := none, open? := false }

def flagged (progress : Progress) (flag : Flag) : Except UsageError Progress := do
  let said ← (← progress.settled).withFlag flag
  return { progress with said := said, pending := none, open? := false }

/-- After an argument with a long name, and the value that is attached to it. -/
def long (progress : Progress) (name : String) (value : Option String) :
    Except UsageError Progress :=
  match longSwitch? name, value with
  | none, _ => .error .unknownArgument
  | some (.valued option), none => progress.opened option
  | some (.valued option), some value => progress.attached option value
  | some (.flag _), some _ => .error .tooManyValues
  | some (.flag flag), none => progress.flagged flag

/-- After short names that stand together. An option that takes a value has the rest as its value.
-/
def short (progress : Progress) : List Char → Except UsageError Progress
  | [] => .ok progress
  | c :: rest =>
    match shortSwitch? c, rest with
    | none, _ => .error .unknownArgument
    | some (.flag flag), _ => do (← progress.flagged flag).short rest
    | some (.valued option), [] => progress.opened option
    | some (.valued option), '=' :: value => progress.attached option (String.ofList value)
    | some (.valued option), value => progress.attached option (String.ofList value)

/-- After an argument that is no option. -/
def plain (progress : Progress) (argument : String) : Except UsageError Progress :=
  match progress.open?, progress.pending with
  | true, some (option, _) =>
    .ok { progress with pending := some (option, some argument), open? := false }
  | _, _ => .error .unknownArgument

def next (progress : Progress) (argument : String) : Except UsageError Progress :=
  if progress.ended then .error .unknownArgument
  else
    match argument.toList with
    | ['-', '-'] => .ok { progress with ended := true, open? := false }
    | '-' :: '-' :: rest =>
      let name := rest.takeWhile (· != '=')
      progress.long (String.ofList name)
        (if name.length = rest.length then none
        else some (String.ofList (rest.drop (name.length + 1))))
    | ['-'] => progress.plain argument
    | '-' :: rest => progress.short rest
    | _ => progress.plain argument

end Progress

/-- What arguments say, or why they are rejected. -/
def read (arguments : List String) : Except UsageError Arguments := do
  (← arguments.foldlM Progress.next Progress.start).settled

end Arguments

end ClusterMdns
