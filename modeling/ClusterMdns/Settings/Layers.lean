import ClusterMdns.Arguments
import ClusterMdns.Settings.Environment
import ClusterMdns.Toml.Reader

/-!
The settings of a run. They come in layers: a file, over it the environment, over both the
arguments. A layer sets only what it names; what no layer sets has its default. Values are looked at
once all layers are laid over each other, so that what is covered does not count at all.
-/

namespace ClusterMdns

namespace Arguments

/-- The setting that an option gives, if it is given. -/
def setting (place : String) (value : Option SettingValue) : List (String × SettingValue) :=
  (value.map fun value => (place, value)).toList

/-- The settings that arguments give, by their places. A flag that is not given gives none. -/
def settings (arguments : Arguments) : List (String × SettingValue) :=
  let sources := arguments.sources.map SettingValue.text
  setting "sync.sources" (if sources.isEmpty then none else some (.list sources))
    ++ setting "sync.publish_all" (if arguments.publishAll then some (.flag true) else none)
    ++ setting "sync.namespace" (arguments.space.map .text)
    ++ setting "sync.record_ttl" (arguments.recordTtl.map fun ttl => .integer ttl)
    ++ setting "sync.publish_internal"
      (if arguments.publishInternal then some (.flag true) else none)
    ++ setting "kubernetes.kubeconfig" (arguments.accessFile.map .text)
    ++ setting "kubernetes.master" (arguments.server.map .text)

end Arguments

namespace Settings

/-- Layers laid over each other, the first one lowest. -/
def overlaid (layers : List (List (String × SettingValue))) : SettingValue :=
  layers.foldl SettingValue.overlaid (.table [])

/-- The settings of a run: from the text of a file, from the environment and from arguments. None if
the file cannot be read or a value does not do. What file and environment give together is one layer
under the arguments: a key that writes a place only in small letters is read as that place then. -/
def layered? (file : String) (environment : List (String × String)) (arguments : Arguments) :
    Option Settings := do
  let fromFile ← Toml.read? file
  let found := overlaid [fromFile, Environment.settings environment]
  (overlaid [found.entries, arguments.settings]).settings?

end Settings

end ClusterMdns
