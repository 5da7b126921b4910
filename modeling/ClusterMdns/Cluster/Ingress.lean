import ClusterMdns.Cluster.Metadata

/-!
Ingresses of the cluster: the object as the cluster gives it and its profile with all defaults
filled in.
-/

namespace ClusterMdns

structure Ingress where
  metadata : Metadata
  hosts : List (Option String)
  /-- The addresses that the load balancer reports; a host name instead of an address is none. -/
  balancerAddresses : List (Option String)
deriving Inhabited

instance : HasMetadata Ingress := ⟨Ingress.metadata⟩

namespace Ingress

/-- An ingress with all defaults filled in. -/
structure Profile where
  name : String
  space : String
  /-- The addresses that the load balancer reports, an empty text for a missing one. -/
  balancerAddresses : List String
  /-- The host of each rule, an empty text for a missing one. -/
  hosts : List String
deriving Inhabited

/-- The profile of an ingress object; an object without a name has none. -/
def profile? (ingress : Ingress) : Option Profile :=
  ingress.metadata.name.map fun name =>
    { name
      space := ingress.metadata.space.getD ""
      balancerAddresses := ingress.balancerAddresses.map (·.getD "")
      hosts := ingress.hosts.map (·.getD "") }

end Ingress

end ClusterMdns
