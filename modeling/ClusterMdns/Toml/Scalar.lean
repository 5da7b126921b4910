import ClusterMdns.Settings.Value
import ClusterMdns.Toml.Moment

/-!
Values of TOML that are a single word: truth values, numbers and moments. Digits of a number may be
set off by underscores, one at a time and only between digits.
-/

namespace ClusterMdns.Toml

open ClusterMdns.Text

/-- The digits of a number without the underscores between them; none if one stands elsewhere. -/
def ungrouped? : List Char → Option (List Char)
  | [] => none
  | [c] => if c = '_' then none else some [c]
  | c :: '_' :: rest => if c = '_' then none else (ungrouped? rest).map (c :: ·)
  | c :: rest => if c = '_' then none else (ungrouped? rest).map (c :: ·)

/-- The number that grouped digits write in a base. -/
def grouped? (base : Nat) (text : List Char) : Option Nat := (ungrouped? text).bind (natural? base)

/-- Whether digits have no zero in front of others. -/
def noLeadingZero : List Char → Bool
  | '0' :: _ :: _ => false
  | _ => true

/-- An integer of sixty-four bits. -/
def integer64? (value : Int) : Option SettingValue :=
  if Int64.minValue.toInt ≤ value ∧ value ≤ Int64.maxValue.toInt then some (.integer value)
  else none

/-- The integer that a word writes. -/
def integer? (word : List Char) : Option SettingValue :=
  match word with
  | '0' :: 'x' :: digits => (grouped? 16 digits).bind fun n => integer64? n
  | '0' :: 'o' :: digits => (grouped? 8 digits).bind fun n => integer64? n
  | '0' :: 'b' :: digits => (grouped? 2 digits).bind fun n => integer64? n
  | _ =>
    let (negative, digits) := Number.signed word
    if noLeadingZero digits then
      (grouped? 10 digits).bind fun n => integer64? (if negative then -n else n)
    else none

/-- Whether a character belongs to the digits of a number. -/
def isGroupChar (c : Char) : Bool := isDecimal c || c == '_'

/-- The power of ten at the end of a number. -/
def exponent? : List Char → Option Int
  | [] => some 0
  | mark :: rest =>
    if mark = 'e' ∨ mark = 'E' then
      let (negative, digits) := Number.signed rest
      (grouped? 10 digits).map fun n => if negative then -n else n
    else none

/-- The digits after the point of a number, and what follows. -/
def fractionPart? : List Char → Option (List Char × List Char)
  | '.' :: rest => do
    let digits := rest.takeWhile isGroupChar
    some (← ungrouped? digits, rest.drop digits.length)
  | text => some ([], text)

/-- The number with a point or a power of ten that a word without a sign writes. It is not too large
for the format. -/
def decimal? (negative : Bool) (word : List Char) : Option SettingValue := do
  let whole := word.takeWhile isGroupChar
  let rest := word.drop whole.length
  let (fraction, after) ← fractionPart? rest
  let digits ← natural? 10 ((← ungrouped? whole) ++ fraction)
  let exponent ← exponent? after
  let value := Binary64.ofScientific negative digits (exponent - fraction.length)
  if rest = [] ∨ !noLeadingZero whole ∨ value = .infinite false then none
  else some (.float value)

/-- The number that a word writes that is no integer. -/
def float? (word : List Char) : Option SettingValue :=
  let (negative, rest) := Number.signed word
  if rest = "inf".toList then some (.float (.infinite negative))
  else if rest = "nan".toList then some (.float .notANumber)
  else decimal? negative rest

/-- The value that a word writes. -/
def scalar? (word : List Char) : Option SettingValue :=
  if word = "true".toList then some (.flag true)
  else if word = "false".toList then some (.flag false)
  else
    ((integer? word).or (float? word)).or
      ((moment? word).map fun moment => .text (String.ofList moment))

/-- Whether a character may stand in a word. -/
def isWordChar (c : Char) : Bool := c.isAlphanum || "_+-.:".toList.contains c

/-- Whether a text goes on with a time of day. -/
def startsTime : List Char → Bool
  | ' ' :: a :: b :: ':' :: _ => isDecimal a && isDecimal b
  | _ => false

/-- The word at the start of a text. A date and a time with one blank between them are one word. -/
def word (text : List Char) : List Char :=
  let first := text.takeWhile isWordChar
  let rest := text.drop first.length
  if (date? first).any (·.2.isEmpty) && startsTime rest then
    first ++ ' ' :: (rest.drop 1).takeWhile isWordChar
  else first

end ClusterMdns.Toml
