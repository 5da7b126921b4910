import ClusterMdns.Address
import ClusterMdns.Text.Digits

/-!
Writing addresses as text. An IPv6 address shortens the first of its longest runs of at least two
zero groups to `::`, and an IPv4-mapped address shows the IPv4 address it holds.
-/

namespace ClusterMdns

open ClusterMdns.Text

namespace IPv4

/-- The dotted decimal form. -/
def chars (address : IPv4) : List Char :=
  ['.'].intercalate (address.bytes.map fun byte => decimal byte.toNat)

end IPv4

namespace IPv6

/-- The length of the run of zeros at the start. -/
def zeroRun (groups : List Nat) : Nat := (groups.takeWhile (· == 0)).length

/-- Where the first of the longest runs of zeros starts, and its length. -/
def longestZeroRun : List Nat → Nat × Nat
  | [] => (0, 0)
  | group :: rest =>
    let here := zeroRun (group :: rest)
    let later := longestZeroRun rest
    if later.2 ≤ here then (0, here) else (later.1 + 1, later.2)

/-- Groups in hexadecimal with colons between them. -/
def groupChars (groups : List Nat) : List Char :=
  [':'].intercalate (groups.map fun group => Nat.toDigits 16 group)

def chars (address : IPv6) : List Char :=
  match address.mappedIPv4? with
  | some embedded => [':', ':', 'f', 'f', 'f', 'f', ':'] ++ embedded.chars
  | none =>
    let (start, length) := longestZeroRun address.groups
    if length ≤ 1 then groupChars address.groups
    else
      groupChars (address.groups.take start) ++ [':', ':']
        ++ groupChars (address.groups.drop (start + length))

def hexDigits (address : IPv6) : List Char :=
  address.bytes.toList.flatMap fun byte =>
    Nat.toDigits 16 (byte.toNat / 16) ++ Nat.toDigits 16 (byte.toNat % 16)

end IPv6

def SocketAddress.toText (address : SocketAddress) : String :=
  let port := ':' :: decimal address.port.toNat
  String.ofList <|
    match address.ip with
    | .v4 ip => ip.chars ++ port
    | .v6 ip =>
      let scope := if address.scope = 0 then [] else '%' :: decimal address.scope.toNat
      '[' :: ip.chars ++ scope ++ ']' :: port

end ClusterMdns
