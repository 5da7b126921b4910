import ClusterMdns.Number.Binary64
import ClusterMdns.Text.Digits

/-!
Reading numbers: integers of sixty-four bits, and binary numbers from decimals with or without a
point and a power of ten.
-/

namespace ClusterMdns.Number

open ClusterMdns.Text

/-- Whether a text starts with a minus sign, and what follows its sign. -/
def signed : List Char → Bool × List Char
  | '-' :: rest => (true, rest)
  | '+' :: rest => (false, rest)
  | text => (false, text)

/-- The integer that a text writes in decimal: digits with or without a sign. -/
def integer? (text : List Char) : Option Int :=
  let (negative, digits) := signed text
  (natural? 10 digits).map fun n => if negative then -n else n

/-- The integer of sixty-four bits that a text writes. -/
def integer64? (text : List Char) : Option Int :=
  (integer? text).filter fun n => Int64.minValue.toInt ≤ n ∧ n ≤ Int64.maxValue.toInt

/-- The power of ten at the end of a decimal: none, or a mark and an integer. -/
def exponent? : List Char → Option Int
  | [] => some 0
  | c :: rest => if c = 'e' ∨ c = 'E' then integer? rest else none

/-- The number that a decimal without a sign writes: digits with at most one point among or around
them, and a power of ten. -/
def unsigned? (negative : Bool) (text : List Char) : Option Binary64 := do
  let whole := text.takeWhile isDecimal
  let rest := text.drop whole.length
  let (fraction, rest) := match rest with
    | '.' :: after => (after.takeWhile isDecimal, after.dropWhile isDecimal)
    | _ => ([], rest)
  let digits ← natural? 10 (whole ++ fraction)
  let exponent ← exponent? rest
  some (.ofScientific negative digits (exponent - fraction.length))

/-- The binary number that a text writes: a decimal or the name of a special value in any case. -/
def binary64? (text : List Char) : Option Binary64 :=
  let (negative, rest) := signed text
  let name := String.ofList (rest.map Char.toLower)
  if name = "inf" ∨ name = "infinity" then some (.infinite negative)
  else if name = "nan" then some .notANumber
  else unsigned? negative rest

end ClusterMdns.Number
