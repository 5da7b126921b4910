import ClusterMdns.Cluster.Service
import ClusterMdns.Cluster.PortText
import ClusterMdns.Hostname

/-!
What the annotations of a service ask for: whether it is advertised, and under which names.
-/

namespace ClusterMdns

/-- What the annotations of a service ask for. -/
structure Advertisement where
  eligible : Bool
  hostname : String
  instanceName : String
  texts : TextMap (TextMap String)
deriving Inhabited

namespace Advertisement

def hostnameKey : String := "external-mdns.blake.github.io/hostname"

def instanceKey : String := "external-mdns.blake.github.io/service-instance"

def textKey : String := "external-mdns.blake.github.io/service-txt"

/-- The annotation that asks for nothing but to be advertised. -/
def publishKey : String := "external-mdns.blake.github.io/publish"

/-- The host name of a service that gives none. -/
def standardHostname (service : Service.Profile) : String :=
  service.name ++ "." ++ service.space ++ ".local."

/-- The name of the instance of a service that gives none. -/
def standardInstance (service : Service.Profile) : String := service.space ++ "/" ++ service.name

/-- Whether a service has one of the annotations that make it eligible. The value does not
matter. -/
def isMarked (service : Service.Profile) : Bool :=
  [hostnameKey, instanceKey, textKey, publishKey].any service.annotations.contains

/-- What a service asks for. All services are eligible if all are to be published. -/
def ofService (publishAll : Bool) (service : Service.Profile) : Advertisement :=
  let annotations := service.annotations
  { eligible := publishAll || isMarked service
    hostname := Hostname.underLocal ((annotations.get? hostnameKey).getD (standardHostname service))
    instanceName := (annotations.get? instanceKey).getD (standardInstance service)
    texts := ((annotations.get? textKey).map PortText.read).getD .empty }

/-- The texts for a port; none unless some are configured under its name. -/
def strings (advertisement : Advertisement) (port : String) : List String :=
  ((advertisement.texts.get? port).map PortText.strings).getD []

end Advertisement

end ClusterMdns
