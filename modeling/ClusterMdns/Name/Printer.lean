import ClusterMdns.Name
import ClusterMdns.Text.Digits

/-!
Writing a name as text: labels with a dot after each. Printable ASCII stands for itself except for
the dot, the quote and the backslash; every other byte is a backslash and three decimal digits.
-/

namespace ClusterMdns.Name

open ClusterMdns.Text

def byteChars (byte : UInt8) : List Char :=
  let c := Char.ofNat byte.toNat
  if 0x20 ≤ byte ∧ byte ≤ 0x7e ∧ c ≠ '.' ∧ c ≠ '\\' ∧ c ≠ '"' then [c]
  else '\\' :: decimalPadded 3 byte.toNat

def labelChars (label : Label) : List Char := label.flatMap byteChars

/-- The written form of a name. The root is a single dot. -/
def toText (name : Name) : String :=
  if name.labels.isEmpty then "."
  else String.ofList (name.labels.flatMap fun label => labelChars label ++ ['.'])

end ClusterMdns.Name
