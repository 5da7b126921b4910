/-!
Numbers in the binary format of sixty-four bits: a sign, a mantissa of at most fifty-three bits and
a power of two, the infinities, and the value that is no number.

`Binary64.ofScientific` gives the nearest number to a decimal, where of two equally near ones the
one with the even mantissa counts.
-/

namespace ClusterMdns

/-- A number in the binary format of sixty-four bits. -/
inductive Binary64 where
  | finite (negative : Bool) (mantissa : Nat) (exponent : Int)
  | infinite (negative : Bool)
  | notANumber
deriving DecidableEq, Repr, Inhabited

namespace Binary64

/-- The number of bits of a mantissa. -/
def mantissaBits : Nat := 53

/-- The least power of two. -/
def minExponent : Int := -1074

/-- The greatest power of two. -/
def maxExponent : Int := 971

def twoTo (n : Nat) : Nat := Nat.pow 2 n

def tenTo (n : Nat) : Nat := Nat.pow 10 n

/-- The quotient rounded to the nearest natural number, to the even one of two equally near. -/
def roundedQuotient (numerator denominator : Nat) : Nat :=
  let quotient := numerator / denominator
  let rest := 2 * (numerator % denominator)
  if rest < denominator then quotient
  else if denominator < rest then quotient + 1
  else if quotient % 2 = 0 then quotient else quotient + 1

/-- A quotient over a power of two as a quotient of natural numbers. -/
def scaled (numerator denominator : Nat) (exponent : Int) : Nat × Nat :=
  if 0 ≤ exponent then (numerator, denominator * twoTo exponent.toNat)
  else (numerator * twoTo (-exponent).toNat, denominator)

/-- The power of two over which a positive quotient is a mantissa of full length, or the least one
that there is. -/
def quotientExponent (numerator denominator : Nat) : Int :=
  let guess : Int := (numerator.log2 : Int) - denominator.log2 - (mantissaBits - 1 : Nat)
  let (top, bottom) := scaled numerator denominator guess
  let exponent := if top < bottom * twoTo (mantissaBits - 1) then guess - 1 else guess
  max exponent minExponent

/-- The number nearest to a positive quotient. -/
def ofQuotient (negative : Bool) (numerator denominator : Nat) : Binary64 :=
  let exponent := quotientExponent numerator denominator
  let (top, bottom) := scaled numerator denominator exponent
  let mantissa := roundedQuotient top bottom
  let (mantissa, exponent) :=
    if mantissa = twoTo mantissaBits then (twoTo (mantissaBits - 1), exponent + 1)
    else (mantissa, exponent)
  if maxExponent < exponent then infinite negative else finite negative mantissa exponent

/-- Beyond this power of ten everything is infinite, and below its inverse everything is zero. -/
def decimalLimit : Int := 400

/-- The number nearest to digits times a power of ten. -/
def ofScientific (negative : Bool) (digits : Nat) (exponent : Int) : Binary64 :=
  let magnitude : Int := (Nat.toDigits 10 digits).length + exponent
  if digits = 0 ∨ magnitude < -decimalLimit then finite negative 0 minExponent
  else if decimalLimit < magnitude then infinite negative
  else if 0 ≤ exponent then ofQuotient negative (digits * tenTo exponent.toNat) 1
  else ofQuotient negative digits (tenTo (-exponent).toNat)

def isZero : Binary64 → Bool
  | finite _ mantissa _ => mantissa == 0
  | _ => false

/-- The nearest natural number below a limit, the greater one of two equally near; zero for what is
negative or no number, and the last one below the limit for what is too large. -/
def roundedNatural (limit : Nat) : Binary64 → Nat
  | finite true _ _ | infinite true | notANumber => 0
  | infinite false => limit - 1
  | finite false mantissa exponent =>
    let nearest :=
      if 0 ≤ exponent then mantissa * twoTo exponent.toNat
      else (2 * mantissa + twoTo (-exponent).toNat) / (2 * twoTo (-exponent).toNat)
    min nearest (limit - 1)

end Binary64

end ClusterMdns
