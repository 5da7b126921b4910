import ClusterMdns.Address.Reader
import ClusterMdns.Cluster.Advertisement
import ClusterMdns.Record.Discovery
import ClusterMdns.Record.Host
import ClusterMdns.Settings

/-!
The records of a service: those of its host, then those of each port in order.
-/

namespace ClusterMdns

/-- The last address that a load balancer reports, missing ones left out. -/
def lastReported? (addresses : List String) : Option String :=
  addresses.reverse.find? fun address => !address.isEmpty

namespace Service

/-- The address that a service is advertised under. A service behind a load balancer has the last
address reported; one inside the cluster has its cluster address, where such services are
published. -/
def Profile.address? (publishInternal : Bool) (service : Profile) : Option IpAddress :=
  match service.kind with
  | .loadBalancer => (lastReported? service.balancerAddresses).bind IpAddress.read?
  | .clusterIP => if publishInternal then service.clusterAddress.bind IpAddress.read? else none
  | .other _ => none

def portRecords (advertisement : Advertisement) (port : Port) : List Record :=
  Discovery.records advertisement.instanceName port.name port.protocol advertisement.hostname
    port.number (advertisement.strings port.name)

/-- The records of a service with all defaults filled in. -/
def Profile.records (settings : SyncSettings) (service : Profile) : List Record :=
  if !spaceAdmitted settings.onlySpace? service.space then []
  else
    let advertisement := Advertisement.ofService settings.publishAll service
    if !advertisement.eligible then []
    else
      match service.address? settings.publishInternal with
      | none => []
      | some address =>
        hostRecords advertisement.hostname address true
          ++ service.ports.flatMap (portRecords advertisement)

/-- The records of a service object; one without a name has none. -/
def records (settings : SyncSettings) (service : Service) : List Record :=
  (service.profile?.map (·.records settings)).getD []

end Service

end ClusterMdns
