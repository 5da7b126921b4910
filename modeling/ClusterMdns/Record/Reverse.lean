import ClusterMdns.Address
import ClusterMdns.Text.Digits

/-!
The names under which addresses are looked up in reverse: the bytes of an IPv4 address backwards
under `in-addr.arpa`, the nibbles of an IPv6 address backwards under `ip6.arpa`.
-/

namespace ClusterMdns

open ClusterMdns.Text

/-- Pieces with a dot after each. -/
def dotted (pieces : List (List Char)) : List Char := pieces.flatMap (· ++ ['.'])

def IPv4.reverseChars (address : IPv4) : List Char :=
  dotted (address.bytes.reverse.map fun byte => decimal byte.toNat) ++ "in-addr.arpa.".toList

/-- The nibbles of an IPv6 address, the last byte first and its low half before its high half. -/
def IPv6.reverseNibbles (address : IPv6) : List Nat :=
  address.bytes.toList.reverse.flatMap fun byte => [byte.toNat % 16, byte.toNat / 16]

def IPv6.reverseChars (address : IPv6) : List Char :=
  dotted (address.reverseNibbles.map fun nibble => Nat.toDigits 16 nibble) ++ "ip6.arpa.".toList

/-- The reverse name of an address; an IPv4-mapped address has that of the IPv4 address. -/
def IpAddress.reverseName (address : IpAddress) : String :=
  String.ofList <|
    match address.canonical with
    | .v4 address => address.reverseChars
    | .v6 address => address.reverseChars

end ClusterMdns
