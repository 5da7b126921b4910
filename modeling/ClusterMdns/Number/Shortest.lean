import ClusterMdns.Number.Binary64

/-!
The shortest decimal of a binary number: of the decimals that are read back as the number those with
the fewest digits, and of these the nearest. It is written without a power of ten, however long that
is.
-/

namespace ClusterMdns.Binary64

/-- The decimals that are read back as a number, between two bounds over a common denominator. The
bounds themselves belong to them or not. -/
structure ReadBack where
  low : Nat
  value : Nat
  high : Nat
  denominator : Nat
  closed : Bool

/-- The decimals that are read back as a positive number. -/
def readBack (mantissa : Nat) (exponent : Int) : ReadBack :=
  let narrow := mantissa = twoTo (mantissaBits - 1) ∧ minExponent < exponent
  let numerators := (4 * mantissa - (if narrow then 1 else 2), 4 * mantissa, 4 * mantissa + 2)
  let up := twoTo exponent.toNat
  { low := numerators.1 * up, value := numerators.2.1 * up, high := numerators.2.2 * up
    denominator := 4 * twoTo (-exponent).toNat
    closed := mantissa % 2 == 0 }

/-- Whether digits times a power of ten are read back as the number. -/
def ReadBack.contains (range : ReadBack) (digits : Nat) (exponent : Int) : Bool :=
  let scaledDigits := digits * tenTo exponent.toNat * range.denominator
  let unit := tenTo (-exponent).toNat
  if range.closed then range.low * unit ≤ scaledDigits && scaledDigits ≤ range.high * unit
  else range.low * unit < scaledDigits && scaledDigits < range.high * unit

/-- Whether the first of two neighbours on a decimal grid is nearer to the number than the second.
-/
def ReadBack.firstNearer (range : ReadBack) (digits : Nat) (exponent : Int) : Bool :=
  let step := tenTo exponent.toNat * range.denominator
  let unit := tenTo (-exponent).toNat
  2 * range.value * unit < (2 * digits + 1) * step

/-- The decimal with the digits of one grid that is read back as the number, if there is one. -/
def ReadBack.onGrid? (range : ReadBack) (exponent : Int) : Option Nat :=
  let below := range.value * tenTo (-exponent).toNat / (range.denominator * tenTo exponent.toNat)
  match range.contains below exponent, range.contains (below + 1) exponent with
  | true, true => some (if range.firstNearer below exponent then below else below + 1)
  | true, false => some below
  | false, true => some (below + 1)
  | false, false => none

/-- The power of ten of the first digit of a positive quotient. -/
def leadingExponent (numerator denominator : Nat) : Int :=
  if denominator ≤ numerator then ((Nat.toDigits 10 (numerator / denominator)).length : Int) - 1
  else
    match (List.range 400).find? fun places => denominator ≤ numerator * tenTo places with
    | some places => -places
    | none => 0

/-- The most digits that a shortest decimal has. -/
def maxDigits : Nat := 17

/-- A decimal without a zero at its end, where there is only one. -/
def withoutLastZero (digits : Nat) (exponent : Int) : Nat × Int :=
  if digits % 10 = 0 then (digits / 10, exponent + 1) else (digits, exponent)

/-- The shortest decimal of a positive number: its digits and the power of ten of the last one. -/
def shortest (mantissa : Nat) (exponent : Int) : Nat × Int :=
  let range := readBack mantissa exponent
  let leading := leadingExponent range.value range.denominator
  let found := (List.range maxDigits).findSome? fun (more : Nat) =>
    let last := leading - (more : Int)
    (range.onGrid? last).map fun digits => withoutLastZero digits last
  found.getD (0, 0)

/-- Digits times a power of ten, written without it. -/
def positional (digits : Nat) (exponent : Int) : List Char :=
  let written := Nat.toDigits 10 digits
  if 0 ≤ exponent then written ++ List.replicate exponent.toNat '0'
  else
    let places := (-exponent).toNat
    let padded := List.replicate (places + 1 - written.length) '0' ++ written
    padded.take (padded.length - places) ++ '.' :: padded.drop (padded.length - places)

/-- The sign of a negative number. -/
def signChars (negative : Bool) : List Char := if negative then ['-'] else []

def toText : Binary64 → String
  | notANumber => "NaN"
  | infinite negative => String.ofList (signChars negative ++ "inf".toList)
  | finite negative mantissa exponent =>
    if mantissa = 0 then String.ofList (signChars negative ++ ['0'])
    else
      let (digits, last) := shortest mantissa exponent
      String.ofList (signChars negative ++ positional digits last)

end ClusterMdns.Binary64
