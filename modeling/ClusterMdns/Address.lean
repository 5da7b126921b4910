/-!
IP addresses of both families, and socket addresses.

Main statement: `IpAddress.canonical_canonical`, an address is brought to its canonical family in
one step.
-/

namespace ClusterMdns

/-- An IPv4 address: its four bytes in the order written. -/
structure IPv4 where
  first : UInt8
  second : UInt8
  third : UInt8
  fourth : UInt8
deriving DecidableEq, Repr, Inhabited

/-- An IPv6 address: its sixteen bytes, most significant first. -/
structure IPv6 where
  bytes : Vector UInt8 16
deriving DecidableEq, Repr, Inhabited

inductive IpAddress where
  | v4 (address : IPv4)
  | v6 (address : IPv6)
deriving DecidableEq, Repr, Inhabited

namespace IPv4

def bytes (address : IPv4) : List UInt8 :=
  [address.first, address.second, address.third, address.fourth]

end IPv4

namespace IPv6

def ofBytes? (bytes : List UInt8) : Option IPv6 :=
  if sixteen : bytes.length = 16 then some ⟨⟨bytes.toArray, by simpa using sixteen⟩⟩ else none

/-- The IPv4-mapped form `::ffff:a.b.c.d` of an IPv4 address. -/
def ofIPv4 (address : IPv4) : IPv6 :=
  ⟨#v[0, 0, 0, 0, 0, 0, 0, 0, 0, 0, 0xff, 0xff,
    address.first, address.second, address.third, address.fourth]⟩

/-- The IPv4 address that an IPv4-mapped address holds. -/
def mappedIPv4? (address : IPv6) : Option IPv4 :=
  let embedded : IPv4 :=
    ⟨address.bytes[12], address.bytes[13], address.bytes[14], address.bytes[15]⟩
  if ofIPv4 embedded = address then some embedded else none

/-- The eight groups of sixteen bits, most significant first. -/
def groups (address : IPv6) : List Nat :=
  let bytes := address.bytes
  [(bytes[0], bytes[1]), (bytes[2], bytes[3]), (bytes[4], bytes[5]), (bytes[6], bytes[7]),
    (bytes[8], bytes[9]), (bytes[10], bytes[11]), (bytes[12], bytes[13]),
    (bytes[14], bytes[15])].map fun pair => pair.1.toNat * 256 + pair.2.toNat

/-- The address with the given groups, if there are eight of sixteen bits. -/
def ofGroups? (groups : List Nat) : Option IPv6 :=
  if groups.all (· < 0x10000) then
    ofBytes? (groups.flatMap fun group => [UInt8.ofNat (group / 256), UInt8.ofNat (group % 256)])
  else none

theorem mappedIPv4?_ofIPv4 (address : IPv4) : (ofIPv4 address).mappedIPv4? = some address := by
  simp [mappedIPv4?, ofIPv4]

end IPv6

namespace IpAddress

/-- An IPv4-mapped IPv6 address as the IPv4 address it holds; any other address as it is. -/
def canonical : IpAddress → IpAddress
  | v4 address => v4 address
  | v6 address =>
    match address.mappedIPv4? with
    | some embedded => v4 embedded
    | none => v6 address

theorem canonical_canonical (address : IpAddress) :
    address.canonical.canonical = address.canonical := by
  cases address with
  | v4 address => rfl
  | v6 address =>
    cases embedded : address.mappedIPv4? with
    | some mapped => simp [canonical, embedded]
    | none => simp [canonical, embedded]

/-- Whether the address is the wildcard `0.0.0.0` or `::`. -/
def isUnspecified : IpAddress → Bool
  | v4 address => address.bytes.all (· == 0)
  | v6 address => address.bytes.toList.all (· == 0)

/-- Whether the address names the host itself: `127.0.0.0/8` or `::1`. -/
def isLoopback : IpAddress → Bool
  | v4 address => address.first == 127
  | v6 address => address.groups == [0, 0, 0, 0, 0, 0, 0, 1]

/-- Whether the address stands for many hosts at once: a group of hosts or all on the link. Groups
of IPv6 do not count, as they say nothing without a link. -/
def isShared : IpAddress → Bool
  | v4 address => address.first.toNat / 16 == 14 || address.bytes.all (· == 255)
  | v6 _ => false

/-- Whether a host can receive at the address whatever its own addresses are. -/
def isOpenAnywhere (address : IpAddress) : Bool :=
  let address := address.canonical
  address.isUnspecified || address.isLoopback || address.isShared

end IpAddress

/-- An address and a port. An IPv6 address may carry a scope, which is zero otherwise. -/
structure SocketAddress where
  ip : IpAddress
  port : UInt16
  scope : UInt32
deriving DecidableEq, Repr, Inhabited

end ClusterMdns
