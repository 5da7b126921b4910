/-!
Digits and the numbers they write.
-/

namespace ClusterMdns.Text

/-- The value of a digit in a base of at most sixteen; both cases of a letter count the same. -/
def digit? (base : Nat) (c : Char) : Option Nat :=
  let value? :=
    if '0' ≤ c ∧ c ≤ '9' then some (c.toNat - '0'.toNat)
    else if 'a' ≤ c ∧ c ≤ 'f' then some (c.toNat - 'a'.toNat + 10)
    else if 'A' ≤ c ∧ c ≤ 'F' then some (c.toNat - 'A'.toNat + 10)
    else none
  value?.filter (· < base)

def isDecimal (c : Char) : Bool := (digit? 10 c).isSome

/-- The number that digits write, given the number written before them. -/
def naturalFrom? (base : Nat) (before : Nat) : List Char → Option Nat
  | [] => some before
  | c :: rest => do naturalFrom? base (before * base + (← digit? base c)) rest

/-- The number that a text writes in a base: at least one digit and nothing else. -/
def natural? (base : Nat) (text : List Char) : Option Nat :=
  if text.isEmpty then none else naturalFrom? base 0 text

def decimal (n : Nat) : List Char := Nat.toDigits 10 n

/-- The decimal digits of a number, at least so many of them. -/
def decimalPadded (width n : Nat) : List Char :=
  List.replicate (width - (decimal n).length) '0' ++ decimal n

end ClusterMdns.Text
