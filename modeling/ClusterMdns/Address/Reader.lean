import ClusterMdns.Address
import ClusterMdns.Text.Digits

/-!
Reading addresses from text.

An IPv4 address is four decimal parts without leading zeros. An IPv6 address is eight groups of one
to four hexadecimal digits, where one `::` may stand for one or more zero groups and the last two
groups may be written as an IPv4 address.
-/

namespace ClusterMdns

open ClusterMdns.Text

namespace IPv4

/-- One of the four parts of an IPv4 address. -/
def part? (text : List Char) : Option UInt8 := do
  guard (text.length ≤ 3 ∧ (text.length = 1 ∨ text.head? ≠ some '0'))
  let value ← natural? 10 text
  guard (value < 256)
  some (UInt8.ofNat value)

def read? (text : List Char) : Option IPv4 :=
  match text.splitOn '.' with
  | [first, second, third, fourth] => do
    some ⟨← part? first, ← part? second, ← part? third, ← part? fourth⟩
  | _ => none

end IPv4

namespace IPv6

def group? (text : List Char) : Option Nat := do
  guard (text.length ≤ 4)
  natural? 16 text

/-- The groups of one side of an IPv6 address; the last piece may be an IPv4 address. -/
def sideGroups? (allowsIPv4 : Bool) : List (List Char) → Option (List Nat)
  | [] => some []
  | [piece] =>
    match (if allowsIPv4 then IPv4.read? piece else none) with
    | some address =>
      some [address.first.toNat * 256 + address.second.toNat,
        address.third.toNat * 256 + address.fourth.toNat]
    | none => (group? piece).map fun group => [group]
  | piece :: rest => do
    let group ← group? piece
    let groups ← sideGroups? allowsIPv4 rest
    some (group :: groups)

/-- The groups of one side of a `::`, which may be empty. -/
def side? (allowsIPv4 : Bool) (text : List Char) : Option (List Nat) :=
  if text.isEmpty then some [] else sideGroups? allowsIPv4 (text.splitOn ':')

/-- What stands before and after the first `::` of a text. -/
def cutAtGap? : List Char → Option (List Char × List Char)
  | ':' :: ':' :: rest => some ([], rest)
  | c :: rest => (cutAtGap? rest).map fun cut => (c :: cut.1, cut.2)
  | [] => none

def read? (text : List Char) : Option IPv6 :=
  match cutAtGap? text with
  | none => do ofGroups? (← sideGroups? true (text.splitOn ':'))
  | some (before, after) => do
    let head ← side? false before
    let tail ← side? true after
    guard (head.length + tail.length ≤ 7)
    ofGroups? (head ++ List.replicate (8 - head.length - tail.length) 0 ++ tail)

end IPv6

def IpAddress.read? (text : String) : Option IpAddress :=
  match IPv4.read? text.toList with
  | some address => some (.v4 address)
  | none => (IPv6.read? text.toList).map .v6

namespace SocketAddress

/-- The number below a limit that decimal digits write, leading zeros allowed. -/
def numberBelow? (limit : Nat) (text : List Char) : Option Nat :=
  (natural? 10 text).filter (· < limit)

def port? (text : List Char) : Option UInt16 := (numberBelow? UInt16.size text).map UInt16.ofNat

/-- A text cut at the first occurrence of a character, if it occurs. -/
def cutAtChar? (c : Char) (text : List Char) : Option (List Char × List Char) :=
  match text.dropWhile (· != c) with
  | [] => none
  | _ :: rest => some (text.takeWhile (· != c), rest)

def readV4? (text : List Char) : Option SocketAddress := do
  let (host, port) ← cutAtChar? ':' text
  some ⟨.v4 (← IPv4.read? host), ← port? port, 0⟩

/-- The IPv6 socket address that a text writes: the address in brackets, with a scope after a
percent sign or none. -/
def readV6? (text : List Char) : Option SocketAddress := do
  let '[' :: inner := text | none
  let (host, rest) ← cutAtChar? ']' inner
  let ':' :: port := rest | none
  match cutAtChar? '%' host with
  | none => some ⟨.v6 (← IPv6.read? host), ← port? port, 0⟩
  | some (address, scope) =>
    some ⟨.v6 (← IPv6.read? address), ← port? port,
      UInt32.ofNat (← numberBelow? UInt32.size scope)⟩

def read? (text : String) : Option SocketAddress :=
  match readV4? text.toList with
  | some address => some address
  | none => readV6? text.toList

end SocketAddress

end ClusterMdns
