import ClusterMdns.Address.Reader
import ClusterMdns.Proofs.Record.Reverse

/-!
Reverse names tell their addresses.

The bytes of an IPv4 address are written in decimal, backwards, and the nibbles of an IPv6 address in
hexadecimal, backwards too, each under a zone of its own. Reading the labels in the other direction gives
the address back (`IpAddress.ofReverseOwner?`), so that two addresses share a reverse name only if they
stand for the same address: an IPv4-mapped address stands for the IPv4 address that it holds
(`IpAddress.StandsFor`) and is never published itself.

* `IpAddress.ofReverseOwner?_reverseOwner`: the reverse name of an address is read back.
* `IpAddress.reverseName_eq_iff`: which addresses share a reverse name.
* `hostRecords_canonical`: the two records of a host, for the address that is meant.
* `reverse_names_faithful`: all of it.
-/

namespace ClusterMdns

open ClusterMdns.Text

/-! ### Reading an address from a reverse name -/

/-- The characters of a label, one for each byte. -/
def labelText (label : Label) : List Char := label.map fun byte => Char.ofNat byte.toNat

/-- The byte that a label writes in decimal. -/
def decimalByte? (label : Label) : Option UInt8 := IPv4.part? (labelText label)

/-- The nibble that a label writes as one hexadecimal digit. -/
def nibble? (label : Label) : Option Nat :=
  match labelText label with
  | [c] => digit? 16 c
  | _ => none

/-- The bytes that nibbles make, the high half of each first. -/
def bytesOfNibbles? : List Nat → Option (List UInt8)
  | [] => some []
  | [_] => none
  | high :: low :: rest => (bytesOfNibbles? rest).map (UInt8.ofNat (16 * high + low) :: ·)

/-- The IPv4 address whose bytes four labels write. -/
def IPv4.ofLabels? : List Label → Option IPv4
  | [first, second, third, fourth] => do
    some ⟨← decimalByte? first, ← decimalByte? second, ← decimalByte? third, ← decimalByte? fourth⟩
  | _ => none

/-- The IPv6 address whose nibbles labels write. -/
def IPv6.ofLabels? (labels : List Label) : Option IPv6 := do
  IPv6.ofBytes? (← bytesOfNibbles? (← labels.mapM nibble?))

/-- The address that is looked up under a name. The labels are read backwards: first the zone, then the
address from its most significant part on. -/
def IpAddress.ofReverseOwner? (owner : Name) : Option IpAddress :=
  match owner.labels.reverse with
  | top :: zone :: parts =>
    if top ≠ Name.utf8 "arpa".toList then none
    else if zone = Name.utf8 "in-addr".toList then (IPv4.ofLabels? parts).map .v4
    else if zone = Name.utf8 "ip6".toList then (IPv6.ofLabels? parts).map .v6
    else none
  | _ => none

/-! ### Bytes and nibbles -/

theorem decimalByte?_decimal (byte : UInt8) :
    decimalByte? (Name.utf8 (decimal byte.toNat)) = some byte := by
  have all : ∀ n : Fin 256,
      decimalByte? (Name.utf8 (decimal n.val)) = some (UInt8.ofNat n.val) := by
    decide +kernel
  have here := all ⟨byte.toNat, byte.toNat_lt⟩
  rwa [UInt8.ofNat_toNat] at here

theorem nibble?_toDigits {nibble : Nat} (small : nibble < 16) :
    nibble? (Name.utf8 (Nat.toDigits 16 nibble)) = some nibble := by
  have all : ∀ n : Fin 16, nibble? (Name.utf8 (Nat.toDigits 16 n.val)) = some n.val := by
    decide +kernel
  exact all ⟨nibble, small⟩

theorem mapM_nibble? {nibbles : List Nat} (small : ∀ nibble ∈ nibbles, nibble < 16) :
    (nibbles.map fun nibble => Name.utf8 (Nat.toDigits 16 nibble)).mapM nibble? = some nibbles := by
  induction nibbles with
  | nil => rfl
  | cons nibble rest ih =>
    rw [List.forall_mem_cons] at small
    rw [List.map_cons, List.mapM_cons, nibble?_toDigits small.1, ih small.2]
    rfl

/-- A byte is made of its halves. -/
theorem bytesOfNibbles?_flatMap (bytes : List UInt8) :
    bytesOfNibbles? (bytes.flatMap fun byte => [byte.toNat / 16, byte.toNat % 16]) = some bytes := by
  induction bytes with
  | nil => rfl
  | cons byte rest ih =>
    rw [List.flatMap_cons, List.cons_append, List.cons_append, List.nil_append, bytesOfNibbles?, ih,
      Option.map_some, Nat.div_add_mod, UInt8.ofNat_toNat]

/-! ### Addresses -/

theorem IPv4.ofLabels?_decimal (address : IPv4) :
    IPv4.ofLabels? (address.bytes.map fun byte => Name.utf8 (decimal byte.toNat)) = some address := by
  show (do some (IPv4.mk (← decimalByte? _) (← decimalByte? _) (← decimalByte? _)
    (← decimalByte? _))) = _
  simp only [decimalByte?_decimal]
  rfl

/-- The nibbles of an IPv6 address, backwards once more, are the halves of its bytes in order. -/
theorem IPv6.reverse_reverseNibbles (address : IPv6) :
    address.reverseNibbles.reverse
      = address.bytes.toList.flatMap fun byte => [byte.toNat / 16, byte.toNat % 16] := by
  rw [reverseNibbles, List.reverse_flatMap, List.reverse_reverse]
  rfl

theorem IPv6.ofBytes?_toList (address : IPv6) : IPv6.ofBytes? address.bytes.toList = some address := by
  have sixteen : address.bytes.toList.length = 16 := by rw [Vector.length_toList]
  rw [ofBytes?, dif_pos sixteen, Option.some.injEq, IPv6.mk.injEq, Vector.mk_eq]
  exact Array.toArray_toList

theorem IPv6.ofLabels?_nibbles (address : IPv6) :
    IPv6.ofLabels? (address.reverseNibbles.reverse.map fun nibble =>
      Name.utf8 (Nat.toDigits 16 nibble)) = some address := by
  have small : ∀ nibble ∈ address.reverseNibbles.reverse, nibble < 16 :=
    fun _ member => IPv6.reverseNibbles_lt (List.mem_reverse.mp member)
  rw [ofLabels?, mapM_nibble? small, IPv6.reverse_reverseNibbles]
  show (bytesOfNibbles? _ >>= IPv6.ofBytes?) = _
  rw [bytesOfNibbles?_flatMap]
  exact address.ofBytes?_toList

/-- The labels of a zone, in the order in which a reverse name is read. -/
theorem reverse_zoned (parts : List Label) (zone : String) :
    (parts ++ [zone, "arpa"].map fun label => Name.utf8 label.toList).reverse
      = Name.utf8 "arpa".toList :: Name.utf8 zone.toList :: parts.reverse := by
  rw [List.reverse_append]
  rfl

theorem IpAddress.ofReverseOwner?_v4 (address : IPv4) :
    IpAddress.ofReverseOwner? ⟨address.reverseLabels⟩ = some (.v4 address) := by
  unfold ofReverseOwner? IPv4.reverseLabels
  dsimp only
  rw [reverse_zoned, ← List.map_reverse, List.reverse_reverse]
  dsimp only
  rw [if_neg (by simp), if_pos rfl, IPv4.ofLabels?_decimal]
  rfl

theorem IpAddress.ofReverseOwner?_v6 (address : IPv6) :
    IpAddress.ofReverseOwner? ⟨address.reverseLabels⟩ = some (.v6 address) := by
  unfold ofReverseOwner? IPv6.reverseLabels
  dsimp only
  rw [reverse_zoned, ← List.map_reverse]
  dsimp only
  rw [if_neg (by simp), if_neg (by decide), if_pos rfl, IPv6.ofLabels?_nibbles]
  rfl

/-- **The reverse name of an address is read back as the address in its canonical family.** -/
theorem IpAddress.ofReverseOwner?_reverseOwner (address : IpAddress) :
    IpAddress.ofReverseOwner? address.reverseOwner = some address.canonical := by
  unfold reverseOwner
  cases address.canonical with
  | v4 address => exact ofReverseOwner?_v4 address
  | v6 address => exact ofReverseOwner?_v6 address

/-- **Addresses share a reverse name exactly if they are one address in its canonical family.** -/
theorem IpAddress.reverseName_eq_iff (first second : IpAddress) :
    first.reverseName = second.reverseName ↔ first.canonical = second.canonical := by
  constructor
  · intro same
    have owners : first.reverseOwner = second.reverseOwner := by
      have read := first.read?_reverseName
      rw [same, second.read?_reverseName] at read
      exact (Except.ok.inj read).symm
    have back := first.ofReverseOwner?_reverseOwner
    rw [owners, second.ofReverseOwner?_reverseOwner] at back
    exact (Option.some.inj back).symm
  · intro same
    unfold reverseName
    rw [same]

/-! ### The address that is meant -/

namespace IpAddress

/-- Which address an address stands for: an IPv4-mapped one for the IPv4 address that it holds, any other
for itself. -/
inductive StandsFor : IpAddress → IpAddress → Prop
  | v4 (address : IPv4) : StandsFor (.v4 address) (.v4 address)
  | mapped (embedded : IPv4) : StandsFor (.v6 (.ofIPv4 embedded)) (.v4 embedded)
  | v6 (address : IPv6) (unmapped : ∀ embedded, address ≠ .ofIPv4 embedded) :
    StandsFor (.v6 address) (.v6 address)

/-- The number of labels in a reverse name: four bytes or 32 nibbles, and the zone. -/
def reverseSize : IpAddress → Nat
  | v4 _ => 6
  | v6 _ => 34

/-- The data of the record that gives an address of its family. -/
def plainData : IpAddress → RecordData
  | v4 address => .a address
  | v6 address => .aaaa address

theorem mappedIPv4?_eq_some_iff {address : IPv6} {embedded : IPv4} :
    address.mappedIPv4? = some embedded ↔ address = .ofIPv4 embedded := by
  constructor
  · intro holds
    unfold IPv6.mappedIPv4? at holds
    dsimp only at holds
    split at holds
    case isTrue same =>
      rw [← Option.some.inj holds]
      exact same.symm
    case isFalse => cases holds
  · rintro rfl
    exact IPv6.mappedIPv4?_ofIPv4 embedded

theorem canonical_of_mapped (embedded : IPv4) :
    (IpAddress.v6 (.ofIPv4 embedded)).canonical = .v4 embedded := by
  simp [canonical, IPv6.mappedIPv4?_ofIPv4]

theorem canonical_of_unmapped {address : IPv6} (unmapped : ∀ embedded, address ≠ .ofIPv4 embedded) :
    (IpAddress.v6 address).canonical = .v6 address := by
  have holdsNone : address.mappedIPv4? = none :=
    Option.eq_none_iff_forall_ne_some.mpr fun embedded holds =>
      unmapped embedded (mappedIPv4?_eq_some_iff.mp holds)
  simp [canonical, holdsNone]

/-- **An address stands for itself in its canonical family**, and for no other. -/
theorem standsFor_iff {address meant : IpAddress} :
    address.StandsFor meant ↔ address.canonical = meant := by
  constructor
  · rintro (_ | embedded | ⟨address, unmapped⟩)
    · rfl
    · exact canonical_of_mapped embedded
    · exact canonical_of_unmapped unmapped
  · rintro rfl
    cases address with
    | v4 address => exact .v4 address
    | v6 address =>
      by_cases mapped : ∃ embedded, address = .ofIPv4 embedded
      · obtain ⟨embedded, rfl⟩ := mapped
        rw [canonical_of_mapped]
        exact .mapped embedded
      · rw [canonical_of_unmapped (not_exists.mp mapped)]
        exact .v6 address (not_exists.mp mapped)

theorem length_reverseOwner (address : IpAddress) :
    address.reverseOwner.labels.length = address.canonical.reverseSize := by
  unfold reverseOwner
  cases address.canonical with
  | v4 address => rfl
  | v6 address =>
    show address.reverseLabels.length = 34
    rw [IPv6.reverseLabels, List.length_append, List.length_map, IPv6.length_reverseNibbles]
    rfl

end IpAddress

/-- **The two records of a host**: its address as it is meant, and the way back from it. -/
theorem hostRecords_canonical {hostname : String} {host : Name}
    (accepted : Name.read? hostname = .ok host) (address : IpAddress) :
    hostRecords hostname address true
      = [.built host address.canonical.plainData, .built address.reverseOwner (.ptr host)] := by
  rw [hostRecords_of_read? accepted, if_pos rfl, IpAddress.forwardData]
  cases address.canonical <;> rfl

/-- **Reverse names tell their addresses.** The reverse name of every address is a name, of 6 labels for an
address that stands for an IPv4 address and of 34 for any other, and reading it backwards gives the address
that is meant. So two addresses share a reverse name exactly if they stand for one address. A host has exactly
two records: the address that is meant, in the record of its family, and the pointer back to the host from
the reverse name of that address. -/
theorem reverse_names_faithful :
    (∀ address : IpAddress, ∃ meant owner, address.StandsFor meant ∧
      Name.read? address.reverseName = .ok owner ∧ owner.labels.length = meant.reverseSize ∧
      IpAddress.ofReverseOwner? owner = some meant ∧
      ∀ hostname host, Name.read? hostname = .ok host →
        hostRecords hostname address true
            = [.built host meant.plainData, .built owner (.ptr host)] ∧
          Name.read? meant.reverseName = .ok owner) ∧
    ∀ first second : IpAddress, first.reverseName = second.reverseName
      ↔ ∃ meant, first.StandsFor meant ∧ second.StandsFor meant := by
  refine ⟨fun address => ?_, fun first second => ?_⟩
  · refine ⟨address.canonical, address.reverseOwner, IpAddress.standsFor_iff.mpr rfl,
      address.read?_reverseName, address.length_reverseOwner, address.ofReverseOwner?_reverseOwner, ?_⟩
    intro hostname host accepted
    refine ⟨hostRecords_canonical accepted address, ?_⟩
    rw [address.canonical.read?_reverseName, address.reverseOwner_canonical]
  · rw [IpAddress.reverseName_eq_iff]
    constructor
    · intro same
      exact ⟨_, IpAddress.standsFor_iff.mpr same, IpAddress.standsFor_iff.mpr rfl⟩
    · rintro ⟨meant, firstStands, secondStands⟩
      rw [IpAddress.standsFor_iff.mp firstStands, IpAddress.standsFor_iff.mp secondStands]

/-- An IPv4-mapped address, which is published as the IPv4 address that it holds, and one that differs from
the mapped ones in one bit. -/
theorem reverse_names_faithful_of_mapped :
    let label (text : String) : Label := Name.utf8 text.toList
    let mapped : IpAddress := .v6 (.ofIPv4 ⟨192, 0, 2, 10⟩)
    let near : IpAddress := .v6 ⟨#v[0, 0, 0, 0, 0, 0, 0, 0, 0, 0, 0xff, 0xfe, 192, 0, 2, 10]⟩
    let host : Name := ⟨[label "app", label "local"]⟩
    let owner : Name := ⟨["10", "2", "0", "192", "in-addr", "arpa"].map label⟩
    Name.read? "app.local" = .ok host ∧
      hostRecords "app.local" mapped true
        = [.built host (.a ⟨192, 0, 2, 10⟩), .built owner (.ptr host)] ∧
      IpAddress.ofReverseOwner? owner = some (.v4 ⟨192, 0, 2, 10⟩) ∧
      mapped.reverseName = (IpAddress.v4 ⟨192, 0, 2, 10⟩).reverseName ∧
      mapped.reverseName ≠ near.reverseName := by
  intro label mapped near host owner
  obtain ⟨told, shared⟩ := reverse_names_faithful
  have accepted : Name.read? "app.local" = .ok host := by decide
  obtain ⟨meant, found, stands, read, _, back, records⟩ := told mapped
  obtain rfl : .v4 ⟨192, 0, 2, 10⟩ = meant := IpAddress.standsFor_iff.mp stands
  have own : Name.read? mapped.reverseName = .ok owner := by decide +kernel
  obtain rfl : owner = found := Except.ok.inj (own.symm.trans read)
  refine ⟨accepted, (records "app.local" host accepted).1, back, ?_, ?_⟩
  · exact (shared _ _).mpr ⟨_, .mapped _, .v4 _⟩
  · rw [Ne, shared]
    rintro ⟨_, first, second⟩
    rw [IpAddress.standsFor_iff] at first second
    exact absurd (first.trans second.symm) (by decide)

end ClusterMdns
