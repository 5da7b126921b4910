import ClusterMdns.Text.Digits

/-!
Quoted strings of TOML. A basic string knows marks for characters, a literal one is taken as it
stands; either may stand between single quotes on one line or between triple quotes on several. Each
reader starts after the opening quotes and gives the text and what follows the closing ones.
-/

namespace ClusterMdns.Toml

open ClusterMdns.Text

/-- A text and what follows it. -/
abbrev Quotation := List Char × List Char

/-- The text with one more character in front. -/
def Quotation.cons (c : Char) (quotation : Quotation) : Quotation :=
  (c :: quotation.1, quotation.2)

/-- Whether a character may stand in a string or a comment: everything but control characters, of
which only the tab may. -/
def isPlain (c : Char) : Bool := c == '\t' || ('\x20' ≤ c && c != '\x7f')

/-- The character that a mark stands for. -/
def marked? (mark : Char) : Option Char :=
  if mark = 'b' then some '\x08'
  else if mark = 't' then some '\t'
  else if mark = 'n' then some '\n'
  else if mark = 'f' then some '\x0c'
  else if mark = 'r' then some '\r'
  else if mark = '"' ∨ mark = '\\' then some mark
  else none

/-- The character whose code point is given by hexadecimal digits. -/
def codePoint? (digits : List Char) : Option Char := do
  let code ← natural? 16 digits
  if code.isValidChar then some (Char.ofNat code) else none

/-- The rest of a basic string on one line. -/
def basic? : List Char → Option Quotation
  | [] => none
  | '"' :: rest => some ([], rest)
  | '\\' :: 'u' :: a :: b :: c :: d :: rest => do
    some ((← basic? rest).cons (← codePoint? [a, b, c, d]))
  | '\\' :: 'U' :: a :: b :: c :: d :: e :: f :: g :: h :: rest => do
    some ((← basic? rest).cons (← codePoint? [a, b, c, d, e, f, g, h]))
  | '\\' :: mark :: rest => do some ((← basic? rest).cons (← marked? mark))
  | c :: rest => if isPlain c && c != '\\' then (basic? rest).map (·.cons c) else none

/-- The rest of a literal string on one line. -/
def literal? : List Char → Option Quotation
  | [] => none
  | '\'' :: rest => some ([], rest)
  | c :: rest => if isPlain c then (literal? rest).map (·.cons c) else none

/-- A text without the line end that it starts with. -/
def dropLineEnd : List Char → List Char
  | '\n' :: rest => rest
  | '\r' :: '\n' :: rest => rest
  | text => text

/-- Whether blanks and line ends are passed over within a basic string on several lines. -/
inductive Skipping where
  | off
  | toLineEnd
  | all
deriving DecidableEq

/-- The rest of a basic string on several lines. -/
def basicLines? : Skipping → List Char → Option Quotation
  | _, [] => none
  | .toLineEnd, '\n' :: rest => basicLines? .all rest
  | .toLineEnd, '\r' :: '\n' :: rest => basicLines? .all rest
  | .toLineEnd, c :: rest => if c = ' ' ∨ c = '\t' then basicLines? .toLineEnd rest else none
  | .all, '\n' :: rest => basicLines? .all rest
  | .all, '\r' :: '\n' :: rest => basicLines? .all rest
  | .all, ' ' :: rest => basicLines? .all rest
  | .all, '\t' :: rest => basicLines? .all rest
  | _, '"' :: '"' :: '"' :: '"' :: '"' :: rest => some (['"', '"'], rest)
  | _, '"' :: '"' :: '"' :: '"' :: rest => some (['"'], rest)
  | _, '"' :: '"' :: '"' :: rest => some ([], rest)
  | _, '\\' :: 'u' :: a :: b :: c :: d :: rest => do
    some ((← basicLines? .off rest).cons (← codePoint? [a, b, c, d]))
  | _, '\\' :: 'U' :: a :: b :: c :: d :: e :: f :: g :: h :: rest => do
    some ((← basicLines? .off rest).cons (← codePoint? [a, b, c, d, e, f, g, h]))
  | _, '\\' :: ' ' :: rest => basicLines? .toLineEnd rest
  | _, '\\' :: '\t' :: rest => basicLines? .toLineEnd rest
  | _, '\\' :: '\n' :: rest => basicLines? .all rest
  | _, '\\' :: '\r' :: '\n' :: rest => basicLines? .all rest
  | _, '\\' :: mark :: rest => do some ((← basicLines? .off rest).cons (← marked? mark))
  | _, '\n' :: rest => (basicLines? .off rest).map (·.cons '\n')
  | _, '\r' :: '\n' :: rest => (basicLines? .off rest).map (·.cons '\n')
  | _, c :: rest =>
    if isPlain c && c != '\\' then (basicLines? .off rest).map (·.cons c) else none

/-- The rest of a literal string on several lines. -/
def literalLines? : List Char → Option Quotation
  | [] => none
  | '\'' :: '\'' :: '\'' :: '\'' :: '\'' :: rest => some (['\'', '\''], rest)
  | '\'' :: '\'' :: '\'' :: '\'' :: rest => some (['\''], rest)
  | '\'' :: '\'' :: '\'' :: rest => some ([], rest)
  | '\n' :: rest => (literalLines? rest).map (·.cons '\n')
  | '\r' :: '\n' :: rest => (literalLines? rest).map (·.cons '\n')
  | c :: rest => if isPlain c then (literalLines? rest).map (·.cons c) else none

/-- A quoted string with its opening quotes. -/
def quotation? : List Char → Option Quotation
  | '"' :: '"' :: '"' :: rest => basicLines? .off (dropLineEnd rest)
  | '"' :: rest => basic? rest
  | '\'' :: '\'' :: '\'' :: rest => literalLines? (dropLineEnd rest)
  | '\'' :: rest => literal? rest
  | _ => none

end ClusterMdns.Toml
