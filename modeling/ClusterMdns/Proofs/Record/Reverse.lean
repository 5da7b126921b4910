import ClusterMdns.Proofs.Name.Reading
import ClusterMdns.Record.Host

/-!
The names under which addresses are looked up in reverse, and the records of a host.

The reverse name of an address is written as text and read back. It is always a name, so that the record
that leads back to a host is never missing where the host has a record at all.

* `read?_dotted`: short pieces with a dot after each, in front of a zone, are read as their labels.
* `IpAddress.read?_reverseName`: the reverse name of an address is read as `IpAddress.reverseOwner`.
* `hostRecords_of_read?`: the two records of a host.
-/

namespace ClusterMdns

open ClusterMdns.Text

/-! ### Dotted parts -/

theorem splitOn_dotted {ps : List (List Char)} (undotted : ∀ piece ∈ ps, '.' ∉ piece)
    (zone : List Char) : (dotted ps ++ zone).splitOn '.' = ps ++ zone.splitOn '.' := by
  induction ps with
  | nil => rfl
  | cons piece rest ih =>
    rw [List.forall_mem_cons] at undotted
    have apart : dotted (piece :: rest) ++ zone = piece ++ '.' :: (dotted rest ++ zone) := by
      simp [dotted]
    rw [apart, List.splitOn_append_cons_self, List.splitOn_eq_singleton undotted.1, ih undotted.2]
    rfl

/-- A piece without a dot that takes one to three bytes. -/
structure IsShort (piece : List Char) : Prop where
  undotted : '.' ∉ piece
  positive : 1 ≤ (Name.utf8 piece).length
  short : (Name.utf8 piece).length ≤ 3

instance (piece : List Char) : Decidable (IsShort piece) :=
  decidable_of_iff ('.' ∉ piece ∧ 1 ≤ (Name.utf8 piece).length ∧ (Name.utf8 piece).length ≤ 3)
    ⟨fun parts => ⟨parts.1, parts.2.1, parts.2.2⟩, fun whole => ⟨whole.1, whole.2, whole.3⟩⟩

/-- **Short pieces in front of a zone are read as their labels**, as long as there are few of them. -/
theorem read?_dotted {ps : List (List Char)} (zone : List Char) (labels : List Label)
    (short : ∀ piece ∈ ps, IsShort piece) (few : ps.length ≤ 32)
    (zoned : (zone.splitOn '.').map Name.utf8 = labels) (fits : (Name.mk labels).Fits)
    (small : (Name.mk labels).labelsLength ≤ 100) :
    Name.read? (String.ofList (dotted ps ++ (zone ++ ['.'])))
      = .ok ⟨ps.map Name.utf8 ++ labels⟩ := by
  have bytes : ∀ label ∈ ps.map Name.utf8, 1 ≤ label.length ∧ label.length ≤ 3 := by
    intro label member
    obtain ⟨piece, inside, rfl⟩ := List.mem_map.mp member
    exact ⟨(short piece inside).positive, (short piece inside).short⟩
  refine Name.read?_eq_ok_iff.mpr ⟨?_, ?_, ?_⟩
  · rw [Name.written, String.toList_ofList, ← List.append_assoc, dropTerminator_concat,
      splitOn_dotted fun piece member => (short piece member).undotted, List.map_append, zoned]
  · intro label member
    rcases List.mem_append.mp member with own | own
    · exact ⟨(bytes label own).1, Nat.le_trans (bytes label own).2 (by decide)⟩
    · exact fits.labels label own
  · have total := Name.labelsLength_le fun label member => (bytes label member).2
    rw [List.length_map] at total
    rw [Name.wireLength, Name.labelsLength_append]
    omega

/-! ### Reverse names -/

theorem isShort_decimal (byte : UInt8) : IsShort (decimal byte.toNat) := by
  have all : ∀ n : Fin 256, IsShort (decimal n.val) := by decide +kernel
  exact all ⟨byte.toNat, byte.toNat_lt⟩

theorem isShort_hexDigit {nibble : Nat} (small : nibble < 16) : IsShort (Nat.toDigits 16 nibble) := by
  have all : ∀ n : Fin 16, IsShort (Nat.toDigits 16 n.val) := by decide +kernel
  exact all ⟨nibble, small⟩

/-- The labels of the reverse name: the decimal bytes backwards under `in-addr.arpa`. -/
def IPv4.reverseLabels (address : IPv4) : List Label :=
  (address.bytes.reverse.map fun byte => Name.utf8 (decimal byte.toNat))
    ++ ["in-addr", "arpa"].map fun label => Name.utf8 label.toList

/-- The labels of the reverse name: the hexadecimal nibbles backwards under `ip6.arpa`. -/
def IPv6.reverseLabels (address : IPv6) : List Label :=
  (address.reverseNibbles.map fun nibble => Name.utf8 (Nat.toDigits 16 nibble))
    ++ ["ip6", "arpa"].map fun label => Name.utf8 label.toList

/-- The name under which an address is looked up in reverse; an IPv4-mapped address has that of the
IPv4 address. -/
def IpAddress.reverseOwner (address : IpAddress) : Name :=
  ⟨match address.canonical with
    | .v4 address => address.reverseLabels
    | .v6 address => address.reverseLabels⟩

theorem IPv6.length_reverseNibbles (address : IPv6) : address.reverseNibbles.length = 32 := by
  have double : ∀ bytes : List UInt8,
      (bytes.flatMap fun byte => [byte.toNat % 16, byte.toNat / 16]).length = 2 * bytes.length := by
    intro bytes
    induction bytes with
    | nil => rfl
    | cons byte rest ih =>
      rw [List.flatMap_cons, List.length_append, ih, List.length_cons]
      show 2 + 2 * rest.length = 2 * (rest.length + 1)
      omega
  rw [reverseNibbles, double, List.length_reverse, Vector.length_toList]

theorem IPv6.reverseNibbles_lt {address : IPv6} {nibble : Nat}
    (member : nibble ∈ address.reverseNibbles) : nibble < 16 := by
  obtain ⟨byte, _, inside⟩ := List.mem_flatMap.mp member
  have bound := byte.toNat_lt
  simp only [List.mem_cons, List.not_mem_nil, or_false] at inside
  omega

/-- **The reverse name of every address is a name.** -/
theorem IpAddress.read?_reverseName (address : IpAddress) :
    Name.read? address.reverseName = .ok address.reverseOwner := by
  unfold reverseName reverseOwner
  cases address.canonical with
  | v4 address =>
    have short : ∀ piece ∈ address.bytes.reverse.map fun byte => decimal byte.toNat,
        IsShort piece := by
      intro piece member
      obtain ⟨byte, _, rfl⟩ := List.mem_map.mp member
      exact isShort_decimal byte
    have read := read?_dotted "in-addr.arpa".toList
      (["in-addr", "arpa"].map fun label => Name.utf8 label.toList) short
      (by simp [IPv4.bytes]) (by decide)
      ⟨by decide, by decide⟩ (by decide)
    rw [List.map_map] at read
    exact read
  | v6 address =>
    have short : ∀ piece ∈ address.reverseNibbles.map fun nibble => Nat.toDigits 16 nibble,
        IsShort piece := by
      intro piece member
      obtain ⟨nibble, inside, rfl⟩ := List.mem_map.mp member
      exact isShort_hexDigit (IPv6.reverseNibbles_lt inside)
    have read := read?_dotted "ip6.arpa".toList
      (["ip6", "arpa"].map fun label => Name.utf8 label.toList) short
      (Nat.le_of_eq (by rw [List.length_map, IPv6.length_reverseNibbles])) (by decide)
      ⟨by decide, by decide⟩ (by decide)
    rw [List.map_map] at read
    exact read

/-- A reverse name fits a message. -/
theorem IpAddress.fits_reverseOwner (address : IpAddress) : address.reverseOwner.Fits :=
  Name.fits_of_read? address.read?_reverseName

theorem IpAddress.reverseOwner_canonical (address : IpAddress) :
    address.canonical.reverseOwner = address.reverseOwner := by
  unfold reverseOwner
  rw [canonical_canonical]

/-! ### The records of a host -/

/-- **The records of a host: its address, and the way back.** -/
theorem hostRecords_of_read? {hostname : String} {host : Name}
    (accepted : Name.read? hostname = .ok host) (address : IpAddress) (withReverse : Bool) :
    hostRecords hostname address withReverse
      = .built host address.forwardData
        :: if withReverse then [.built address.reverseOwner (.ptr host)] else [] := by
  unfold hostRecords reverseRecords
  rw [accepted, address.canonical.read?_reverseName, address.reverseOwner_canonical]

theorem hostRecords_of_not_read? {hostname : String}
    (refused : ∀ host, Name.read? hostname ≠ .ok host) (address : IpAddress) (withReverse : Bool) :
    hostRecords hostname address withReverse = [] := by
  unfold hostRecords
  split
  case h_1 host accepted => exact absurd accepted (refused host)
  case h_2 => rfl

end ClusterMdns
