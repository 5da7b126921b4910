import ClusterMdns.Name.Reader
import ClusterMdns.Record
import ClusterMdns.Record.Reverse

/-!
The records of a host: one that gives its address and, if asked for, one that leads from the
address back to the host. A text that is no name has no records.
-/

namespace ClusterMdns

/-- The data of the record that gives an address. -/
def IpAddress.forwardData (address : IpAddress) : RecordData :=
  match address.canonical with
  | .v4 address => .a address
  | .v6 address => .aaaa address

/-- The record that leads from an address back to its host. -/
def reverseRecords (host : Name) (address : IpAddress) : List Record :=
  match Name.read? address.canonical.reverseName with
  | .ok owner => [.built owner (.ptr host)]
  | .error _ => []

def hostRecords (hostname : String) (address : IpAddress) (withReverse : Bool) : List Record :=
  match Name.read? hostname with
  | .ok host =>
    .built host address.forwardData :: (if withReverse then reverseRecords host address else [])
  | .error _ => []

end ClusterMdns
