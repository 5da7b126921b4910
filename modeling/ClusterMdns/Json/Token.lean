import ClusterMdns.Number.Binary64
import ClusterMdns.Text.Digits

/-!
The tokens of a JSON text. The scanner reads one character at a time and holds the text to the
strict grammar: only blank, tab, line feed and carriage return separate tokens, and a string holds
no raw control character. An escaped surrogate without its partner right beside it garbles the
string that it stands in.

Main statement: `scan_separator`, separators between tokens do not matter.
-/

namespace ClusterMdns.Json

open ClusterMdns.Text

inductive Token where
  | openObject
  | closeObject
  | openArray
  | closeArray
  | colon
  | comma
  | null
  | bool (value : Bool)
  /-- A number without fraction and exponent that fits sixty-four bits. -/
  | integer (value : Int)
  | decimal (mantissa exponent : Int)
  /-- A string, escapes resolved; nothing if it is garbled. -/
  | string (text : Option String)
deriving DecidableEq, Repr

/-- Whether something can be made of a token: it is not garbled, and no number beyond all of
sixty-four bits. -/
def Token.isIntact : Token → Bool
  | string none => false
  | decimal mantissa exponent =>
    Binary64.ofScientific false mantissa.natAbs exponent != .infinite false
  | _ => true

/-- The characters that separate tokens. -/
def isSeparator (c : Char) : Bool := c == ' ' || c == '\t' || c == '\n' || c == '\r'

/-! ### Numbers -/

/-- Whether digits are a whole part: no zero in front of another digit. -/
def isWholePart : List Char → Bool
  | [] => false
  | ['0'] => true
  | '0' :: _ => false
  | digits => digits.all isDecimal

/-- The exponent that a text writes, sign allowed. -/
def exponent? : List Char → Option Int
  | '-' :: digits => (natural? 10 digits).map fun n => -(n : Int)
  | '+' :: digits => (natural? 10 digits).map Int.ofNat
  | digits => (natural? 10 digits).map Int.ofNat

/-- A text cut before the first character that satisfies a test, that character left out. -/
def cutAt (test : Char → Bool) (text : List Char) : List Char × Option (List Char) :=
  match text.dropWhile (fun c => !test c) with
  | [] => (text, none)
  | _ :: rest => (text.takeWhile (fun c => !test c), some rest)

/-- The number that a text without its sign writes. -/
def unsigned? (negative : Bool) (text : List Char) : Option Token := do
  let (significand, exponentText) := cutAt (fun c => c == 'e' || c == 'E') text
  let (whole, fraction) := cutAt (· == '.') significand
  guard (isWholePart whole)
  let sign : Int := if negative then -1 else 1
  match fraction, exponentText with
  | none, none =>
    let value ← natural? 10 whole
    if negative = true then
      if value = 0 ∨ Int64.minValue.toInt.natAbs < value then some (.decimal (-value) 0)
      else some (.integer (-value))
    else if value < UInt64.size then some (.integer value) else some (.decimal value 0)
  | _, _ =>
    let digits := fraction.getD []
    guard (fraction.isNone || !digits.isEmpty)
    let mantissa ← natural? 10 (whole ++ digits)
    let exponent ← (exponentText.map exponent?).getD (some 0)
    some (.decimal (sign * mantissa) (exponent - digits.length))

/-- The token that a text without quotes, separators and brackets writes. -/
def bare? (text : List Char) : Option Token :=
  if text = ['n', 'u', 'l', 'l'] then some .null
  else if text = ['t', 'r', 'u', 'e'] then some (.bool true)
  else if text = ['f', 'a', 'l', 's', 'e'] then some (.bool false)
  else
    match text with
    | '-' :: rest => unsigned? true rest
    | _ => unsigned? false text

/-! ### Surrogates -/

/-- Whether a code is that of a first surrogate. -/
def isHigh (code : Nat) : Bool := 0xd800 ≤ code && code < 0xdc00

/-- Whether a code is that of a second surrogate. -/
def isLow (code : Nat) : Bool := 0xdc00 ≤ code && code < 0xe000

/-- The characters that codes stand for, two surrogates for one. -/
def paired? : List Nat → Option (List Char)
  | [] => some []
  | code :: rest =>
    if isHigh code then
      match rest with
      | [] => none
      | partner :: more =>
        if isLow partner then
          let whole := 0x10000 + (code - 0xd800) * 0x400 + (partner - 0xdc00)
          (paired? more).map (Char.ofNat whole :: ·)
        else none
    else if isLow code then none
    else (paired? rest).map (Char.ofNat code :: ·)

/-! ### The scanner -/

/-- What the scanner is in the middle of. What it gathered so far is in reverse: characters, or in a
string their codes. -/
inductive Scanning where
  | between
  | bare (gathered : List Char)
  | string (gathered : List Nat)
  | escape (gathered : List Nat)
  /-- In the hexadecimal digits of an escaped code: what those so far write, and how many are
  left. -/
  | code (gathered : List Nat) (value left : Nat)

/-- The character that a one-letter escape stands for. -/
def escaped? : Char → Option Char
  | '"' => some '"'
  | '\\' => some '\\'
  | '/' => some '/'
  | 'b' => some '\x08'
  | 'f' => some '\x0c'
  | 'n' => some '\n'
  | 'r' => some '\r'
  | 't' => some '\t'
  | _ => none

/-- The token of a structural character. -/
def structural? : Char → Option Token
  | '\x7b' => some .openObject
  | '\x7d' => some .closeObject
  | '[' => some .openArray
  | ']' => some .closeArray
  | ':' => some .colon
  | ',' => some .comma
  | _ => none

/-- One character read between tokens: the token that it completes, if any, and what follows. -/
def begin? (c : Char) : Option (List Token × Scanning) :=
  if isSeparator c then some ([], .between)
  else if c = '"' then some ([], .string [])
  else
    match structural? c with
    | some token => some ([token], .between)
    | none => some ([], .bare [c])

/-- One character read. -/
def scanChar? : Scanning → Char → Option (List Token × Scanning)
  | .between, c => begin? c
  | .bare gathered, c =>
    if isSeparator c || c == '"' || (structural? c).isSome then do
      let token ← bare? gathered.reverse
      let (tokens, next) ← begin? c
      some (token :: tokens, next)
    else some ([], .bare (c :: gathered))
  | .string gathered, c =>
    if c = '"' then
      some ([.string ((paired? gathered.reverse).map String.ofList)], .between)
    else if c = '\\' then some ([], .escape gathered)
    else if c.toNat < 0x20 then none
    else some ([], .string (c.toNat :: gathered))
  | .escape gathered, c =>
    if c = 'u' then some ([], .code gathered 0 4)
    else (escaped? c).map fun plain => ([], .string (plain.toNat :: gathered))
  | .code gathered value left, c => do
    let value := value * 16 + (← digit? 16 c)
    if left ≤ 1 then return ([], .string (value :: gathered))
    else return ([], .code gathered value (left - 1))

/-- The tokens of the rest of a text. -/
def scan : Scanning → List Char → Option (List Token)
  | .between, [] => some []
  | .bare gathered, [] => (bare? gathered.reverse).map ([·])
  | _, [] => none
  | scanning, c :: rest => do
    let (tokens, next) ← scanChar? scanning c
    (scan next rest).map (tokens ++ ·)

/-- The tokens of a text; nothing if some part of it is no token. -/
def tokens? (text : List Char) : Option (List Token) := scan .between text

/-- Separators between tokens do not matter. -/
theorem scan_separator {c : Char} (separates : isSeparator c = true) (rest : List Char) :
    scan .between (c :: rest) = scan .between rest := by
  simp [scan, scanChar?, begin?, separates]

end ClusterMdns.Json
