import ClusterMdns.Text.Blank
import ClusterMdns.Text.Digits

/-!
The atoms of a pattern: what one character or one escape stands for, which is a character, a set of
characters or a place between characters.
-/

namespace ClusterMdns.Pattern

open ClusterMdns.Text

/-- What flags say of how a pattern is read. -/
structure Flags where
  /-- Whether blanks and comments between atoms stand for nothing. -/
  spaced : Bool
  /-- Whether the pattern is about characters. Otherwise it is about bytes, and may only ask for
  those that are ASCII. -/
  wide : Bool
deriving DecidableEq, Repr

/-- What one atom stands for. -/
inductive Atom where
  | literal (c : Char)
  | set
  | place
deriving DecidableEq, Repr

/-- A text without the blanks and comments at its start. A comment goes from a hash to the end of
the line; the flag says whether the text starts inside of one. -/
def afterSpace : Bool → List Char → List Char
  | _, [] => []
  | true, c :: rest => afterSpace (c != '\n') rest
  | false, c :: rest =>
    if isBlank c then afterSpace false rest
    else if c = '#' then afterSpace true rest
    else c :: rest

/-- A text without what stands for nothing at its start. -/
def Flags.skip (flags : Flags) (text : List Char) : List Char :=
  if flags.spaced then afterSpace false text else text

def isAscii (c : Char) : Bool := c.toNat < 128

/-- The number that so many hexadecimal digits write, given the number written before them, and what
follows. -/
def code? (flags : Flags) : Nat → Nat → List Char → Option (Nat × List Char)
  | 0, before, rest => some (before, rest)
  | count + 1, before, text =>
    match flags.skip text with
    | [] => none
    | c :: rest => do code? flags count (before * 16 + (← digit? 16 c)) rest

/-- The character with a code of so many digits, and what follows. -/
def coded? (flags : Flags) (count : Nat) (text : List Char) : Option (Atom × List Char) := do
  let (code, rest) ← code? flags count 0 text
  if code.isValidChar then return (.literal (Char.ofNat code), rest) else none

/-- The characters that a letter after a backslash stands for. -/
def controls : List (Char × Nat) :=
  [('a', 7), ('f', 12), ('t', 9), ('n', 10), ('r', 13), ('v', 11)]

/-- Whether a letter names a category of characters. -/
def namesCategory (c : Char) : Bool := "clmnpsz".contains c.toLower

/-- Whether a character stands for itself after a backslash. -/
def escapable (c : Char) : Bool := isAscii c && !c.isAlphanum && c != '<' && c != '>'

/-- What stands after a backslash, and what follows. Edges of words are known for bytes only. -/
def escape? (flags : Flags) : List Char → Option (Atom × List Char)
  | [] => none
  | c :: rest =>
    match controls.lookup c with
    | some code => some (.literal (Char.ofNat code), rest)
    | none =>
      if c = 'x' then
        (coded? flags 2 rest).filter fun (atom, _) =>
          flags.wide || match atom with
            | .literal d => isAscii d
            | _ => true
      else if c = 'u' then coded? flags 4 rest
      else if c = 'U' then coded? flags 8 rest
      else if c = 'p' ∨ c = 'P' then
        match flags.skip rest with
        | [] => none
        | d :: after => if flags.wide && namesCategory d then some (.set, after) else none
      else if "dsw".contains c then some (.set, rest)
      else if "DSW".contains c then if flags.wide then some (.set, rest) else none
      else if c = 'A' ∨ c = 'z' then some (.place, rest)
      else if "bB<>".contains c then if flags.wide then none else some (.place, rest)
      else if escapable c then some (.literal c, rest)
      else none

/-- What one character or escape inside of a set stands for, and what follows. -/
def atom? (flags : Flags) : List Char → Option (Atom × List Char)
  | [] => none
  | '\\' :: rest => escape? flags rest
  | c :: rest => some (.literal c, rest)

end ClusterMdns.Pattern
