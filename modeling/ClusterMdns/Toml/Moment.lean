import ClusterMdns.Text.Digits

/-!
Dates and times of TOML: a date, a time of day or both, and with both an offset from universal time.
They are kept as texts in one spelling: a capital letter between date and time, no zeros at the end
of the fraction of a second, and no fraction that is zero.
-/

namespace ClusterMdns.Toml

open ClusterMdns.Text

/-- The number that exactly so many digits at the start of a text write, and what follows. -/
def fixedDigits? (count : Nat) (text : List Char) : Option (Nat × List Char) :=
  let digits := text.take count
  if digits.length = count then (natural? 10 digits).map fun n => (n, text.drop count) else none

/-- What follows a character at the start of a text. -/
def after? (c : Char) : List Char → Option (List Char)
  | first :: rest => if first = c then some rest else none
  | [] => none

/-- Whether a year has a day more. -/
def isLeap (year : Nat) : Bool := year % 4 == 0 && (year % 100 != 0 || year % 400 == 0)

/-- The number of days of a month. -/
def monthLength (year month : Nat) : Nat :=
  if month = 2 then (if isLeap year then 29 else 28)
  else if month = 4 ∨ month = 6 ∨ month = 9 ∨ month = 11 then 30
  else 31

/-- The written form of a date at the start of a text, and what follows. -/
def date? (text : List Char) : Option (List Char × List Char) := do
  let (year, rest) ← fixedDigits? 4 text
  let (month, rest) ← fixedDigits? 2 (← after? '-' rest)
  let (day, rest) ← fixedDigits? 2 (← after? '-' rest)
  if 1 ≤ month ∧ month ≤ 12 ∧ 1 ≤ day ∧ day ≤ monthLength year month then
    some (decimalPadded 4 year ++ '-' :: decimalPadded 2 month ++ '-' :: decimalPadded 2 day, rest)
  else none

/-- The number of digits that count of the fraction of a second. -/
def fractionDigits : Nat := 9

/-- The written form of the fraction of a second at the start of a text, and what follows. -/
def fraction? : List Char → Option (List Char × List Char)
  | '.' :: rest =>
    let digits := rest.takeWhile isDecimal
    if digits.isEmpty then none
    else
      let counted := ((digits.take fractionDigits).reverse.dropWhile (· == '0')).reverse
      some (if counted.isEmpty then [] else '.' :: counted, rest.drop digits.length)
  | text => some ([], text)

/-- The written form of a time of day at the start of a text, and what follows. -/
def time? (text : List Char) : Option (List Char × List Char) := do
  let (hour, rest) ← fixedDigits? 2 text
  let (minute, rest) ← fixedDigits? 2 (← after? ':' rest)
  let (second, rest) ← fixedDigits? 2 (← after? ':' rest)
  let (fraction, rest) ← fraction? rest
  if hour < 24 ∧ minute < 60 ∧ second ≤ 60 then
    some (decimalPadded 2 hour ++ ':' :: decimalPadded 2 minute ++ ':' :: decimalPadded 2 second
      ++ fraction, rest)
  else none

/-- The written form of an offset. -/
def offset? : List Char → Option (List Char)
  | [] => some []
  | ['Z'] => some ['Z']
  | ['z'] => some ['Z']
  | sign :: rest => do
    let (hours, rest) ← fixedDigits? 2 rest
    let (minutes, rest) ← fixedDigits? 2 (← after? ':' rest)
    if (sign = '+' ∨ sign = '-') ∧ hours < 24 ∧ minutes < 60 ∧ rest = [] then
      let shown := if hours = 0 ∧ minutes = 0 then '+' else sign
      some (shown :: decimalPadded 2 hours ++ ':' :: decimalPadded 2 minutes)
    else none

/-- The written form of a date with a time after it or without. -/
def dated? (text : List Char) : Option (List Char) := do
  let (date, rest) ← date? text
  match rest with
  | [] => some date
  | mark :: rest =>
    if mark = 'T' ∨ mark = 't' ∨ mark = ' ' then
      let (time, rest) ← time? rest
      some (date ++ 'T' :: time ++ (← offset? rest))
    else none

/-- The written form of a time of day and nothing else. -/
def timeOnly? (text : List Char) : Option (List Char) := do
  let (time, rest) ← time? text
  if rest = [] then some time else none

/-- The written form of a moment. -/
def moment? (text : List Char) : Option (List Char) := (dated? text).or (timeOnly? text)

end ClusterMdns.Toml
