/-!
Domain names: a sequence of labels, each a sequence of bytes. All names here are absolute.

Names are compared without the case of ASCII letters; `Name.fold` is the lowercase form that stands
for all spellings of one name.

Main statement: `Name.fold_fold`, folding twice is folding once.
-/

namespace ClusterMdns

/-- One label of a name. -/
abbrev Label := List UInt8

/-- A byte with ASCII capitals turned into small letters. -/
def foldByte (byte : UInt8) : UInt8 := if 65 ≤ byte ∧ byte ≤ 90 then byte + 32 else byte

theorem foldByte_foldByte (byte : UInt8) : foldByte (foldByte byte) = foldByte byte := by
  by_cases capital : 65 ≤ byte ∧ byte ≤ 90
  · have small : ¬(65 ≤ byte + 32 ∧ byte + 32 ≤ 90) := by
      simp only [UInt8.le_iff_toNat_le, UInt8.toNat_add, UInt8.reduceToNat] at capital ⊢
      omega
    simp [foldByte, capital, small]
  · simp [foldByte, capital]

/-- An absolute domain name: its labels, most specific first. -/
structure Name where
  labels : List Label
deriving DecidableEq, Repr, Inhabited

namespace Name

def root : Name := ⟨[]⟩

/-- The name with all ASCII letters small. Two names are the same owner if these are equal. -/
def fold (name : Name) : Name := ⟨name.labels.map (·.map foldByte)⟩

/-- The space that the labels take in a message: a length byte and the bytes of each. -/
def labelsLength (name : Name) : Nat :=
  (name.labels.map fun label => label.length + 1).foldr (· + ·) 0

/-- The space that the name takes in a message: its labels and the final zero byte. -/
def wireLength (name : Name) : Nat := name.labelsLength + 1

theorem fold_fold (name : Name) : name.fold.fold = name.fold := by
  simp [fold, Function.comp_def, foldByte_foldByte]

end Name

end ClusterMdns
