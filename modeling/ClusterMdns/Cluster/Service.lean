import ClusterMdns.Cluster.Metadata
import ClusterMdns.Cluster.Protocol

/-!
Services of the cluster: the object as the cluster gives it, with everything optional, and its
profile, in which the cluster's defaults are filled in.
-/

namespace ClusterMdns

/-- A port of a service object. -/
structure ServicePort where
  name : Option String
  number : Int
  protocol : Option String
deriving DecidableEq, Repr, Inhabited

/-- A service object. -/
structure Service where
  metadata : Metadata
  kind : Option String
  clusterAddress : Option String
  ports : List ServicePort
  /-- The addresses that the load balancer reports; a host name instead of an address is none. -/
  balancerAddresses : List (Option String)
deriving Inhabited

instance : HasMetadata Service := ⟨Service.metadata⟩

namespace Service

/-- The types of service. -/
inductive Kind where
  /-- Reached inside the cluster, also where no type is given. -/
  | clusterIP
  | loadBalancer
  | other (name : String)
deriving DecidableEq, Repr, Inhabited

/-- The type that an object names. -/
def Kind.named : Option String → Kind
  | none => clusterIP
  | some name =>
    if name = "ClusterIP" then clusterIP
    else if name = "LoadBalancer" then loadBalancer
    else other name

/-- A port with all defaults filled in. -/
structure Port where
  name : String
  /-- The number, zero if it is out of range. -/
  number : UInt16
  protocol : Protocol
deriving DecidableEq, Repr, Inhabited

/-- A service with all defaults filled in. -/
structure Profile where
  name : String
  space : String
  kind : Kind
  clusterAddress : Option String
  /-- The addresses that the load balancer reports, an empty text for a missing one. -/
  balancerAddresses : List String
  ports : List Port
  annotations : TextMap String
deriving Inhabited

/-- A number as a port; zero if it is none. -/
def portNumber (number : Int) : UInt16 :=
  if 0 ≤ number ∧ number < UInt16.size then UInt16.ofNat number.toNat else 0

/-- A port with its defaults. -/
def portOf (port : ServicePort) : Port :=
  ⟨port.name.getD "", portNumber port.number, .named port.protocol⟩

/-- The profile of a service object; an object without a name has none. -/
def profile? (service : Service) : Option Profile :=
  service.metadata.name.map fun name =>
    { name
      space := service.metadata.space.getD ""
      kind := .named service.kind
      clusterAddress := service.clusterAddress
      balancerAddresses := service.balancerAddresses.map (·.getD "")
      ports := service.ports.map portOf
      annotations := service.metadata.annotations }

end Service

end ClusterMdns
