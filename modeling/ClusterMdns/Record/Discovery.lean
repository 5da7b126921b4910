import ClusterMdns.Cluster.Protocol
import ClusterMdns.Name.Reader
import ClusterMdns.Record
import ClusterMdns.Text.Lowercase

/-!
The records that let a service instance be discovered: a pointer from the group of its kind to the
instance, where the instance is found, and its text.
-/

namespace ClusterMdns.Discovery

open ClusterMdns.Text

/-- The name of the group of services of a kind. -/
def groupName (service label : String) : String :=
  "_" ++ String.ofList (lowercase service.toList) ++ "._" ++ label ++ ".local."

/-- The text of the record: an empty string where there is none. -/
def textOf (strings : List String) : List String := if strings.isEmpty then [""] else strings

/-- The three records of an instance. -/
def bundle (group owner host : Name) (port : UInt16) (strings : List String) : List Record :=
  [.built group (.ptr owner), .built owner (.srv 0 0 port host),
    .built owner (.txt (textOf strings))]

/-- The records of a service instance on one port. There are none without an instance, a service, a
host and a port, for protocols that discovery does not know, and where a name is none. -/
def records (instanceName service : String) (protocol : Protocol) (hostname : String)
    (port : UInt16) (strings : List String) : List Record :=
  if instanceName.isEmpty || service.isEmpty || hostname.isEmpty || port == 0 then []
  else
    match protocol.label? with
    | none => []
    | some label =>
      let group := groupName service label
      match Name.read? group, Name.read? (instanceName ++ "." ++ group), Name.read? hostname with
      | .ok group, .ok owner, .ok host => bundle group owner host port strings
      | _, _, _ => []

end ClusterMdns.Discovery
