import ClusterMdns.Cluster.Ingress
import ClusterMdns.Cluster.ServiceRecords

/-!
The records of an ingress: the address of each host under `local`, in the order of the rules. There
is no way back from the address, as hosts often share it.
-/

namespace ClusterMdns.Ingress

def ruleRecords (address : IpAddress) (host : String) : List Record :=
  if Hostname.isLocal host then hostRecords (host ++ ".") address false else []

/-- The records of an ingress with all defaults filled in. -/
def Profile.records (settings : SyncSettings) (ingress : Profile) : List Record :=
  if !spaceAdmitted settings.onlySpace? ingress.space then []
  else
    match (lastReported? ingress.balancerAddresses).bind IpAddress.read? with
    | none => []
    | some address => ingress.hosts.flatMap (ruleRecords address)

/-- The records of an ingress object; one without a name has none. -/
def records (settings : SyncSettings) (ingress : Ingress) : List Record :=
  (ingress.profile?.map (·.records settings)).getD []

end ClusterMdns.Ingress
