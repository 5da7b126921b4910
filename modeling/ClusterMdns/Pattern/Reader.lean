import ClusterMdns.Pattern.Set
import ClusterMdns.Text.Alphanumeric

/-!
Whether a text is a pattern: atoms and sets, with marks of repetition behind them, alternatives
between bars, and groups in parentheses that may have a name or set flags. Repetition by count needs
a closing brace, which a pattern here cannot hold.
-/

namespace ClusterMdns.Pattern

open ClusterMdns.Text

/-- How far a pattern is read. -/
structure Reading where
  flags : Flags
  /-- The flags that hold again where the groups that are open end, the innermost first. -/
  outer : List Flags
  repeatable : Bool
  names : List (List Char)
deriving Repr

namespace Reading

/-- At the start flags are off and the pattern is about characters. -/
def start : Reading := ⟨⟨false, true⟩, [], false, []⟩

/-- Something read that can be repeated. -/
def item (reading : Reading) : Reading := { reading with repeatable := true }

/-- A group opened, inside of which flags hold. -/
def opened (reading : Reading) (flags : Flags) : Reading :=
  { reading with flags := flags, outer := reading.flags :: reading.outer, repeatable := false }

/-- The innermost group closed, if one is open. -/
def closed? (reading : Reading) : Option Reading :=
  match reading.outer with
  | [] => none
  | flags :: outer => some { reading with flags := flags, outer := outer, repeatable := true }

end Reading

/-- Whether letters set flags: each is known and stands there once, and so may a minus sign, which
turns off those behind it. -/
def areFlags (letters : List Char) : Bool :=
  letters.all ("imsURux-".contains ·) && decide letters.Nodup && letters.getLast? != some '-'

/-- The flags after letters set them. -/
def Flags.set (flags : Flags) (letters : List Char) : Flags :=
  let on := letters.takeWhile (· != '-')
  let after := fun letter flag => on.contains letter || (flag && !letters.contains letter)
  ⟨after 'x' flags.spaced, after 'u' flags.wide⟩

/-- Whether a name can stand for a group: a letter or an underscore, then letters, digits, points,
brackets and underscores. -/
def isGroupName : List Char → Bool
  | [] => false
  | c :: rest =>
    (c == '_' || isAlphabetic c)
      && rest.all fun c => isAlphanumeric c || "_.[]".contains c

/-- A group with a name opened, and what follows the name. -/
def named? (reading : Reading) (text : List Char) : Option (Reading × List Char) :=
  let name := text.takeWhile (· != '>')
  match text.drop name.length with
  | '>' :: rest =>
    if isGroupName name && !reading.names.contains name then
      some (({ reading with names := name :: reading.names }).opened reading.flags, rest)
    else none
  | _ => none

/-- Flags set, for a group or for the rest of the one that is open, and what follows them. -/
def flagged? (reading : Reading) (text : List Char) : Option (Reading × List Char) :=
  let letters := text.takeWhile fun c => c != ':' && c != ')'
  if !areFlags letters then none
  else
    let flags := reading.flags.set letters
    match text.drop letters.length with
    | ':' :: rest => some (reading.opened flags, rest)
    | ')' :: rest =>
      if letters.isEmpty then none
      else some ({ reading with flags := flags, repeatable := false }, rest)
    | _ => none

/-- What comes after an opening parenthesis read, and what follows. -/
def group? (reading : Reading) (text : List Char) : Option (Reading × List Char) :=
  match reading.flags.skip text with
  | '?' :: 'P' :: '<' :: rest | '?' :: '<' :: rest => named? reading rest
  | '?' :: rest => flagged? reading rest
  | rest => some (reading.opened reading.flags, rest)

/-- What follows a mark of repetition: a question mark right behind it belongs to it. -/
def afterRepetition : List Char → List Char
  | '?' :: rest => rest
  | rest => rest

/-- The next part of a pattern read, and what follows. -/
def step? (reading : Reading) (c : Char) (rest : List Char) : Option (Reading × List Char) :=
  if c = '(' then group? reading rest
  else if c = ')' then reading.closed?.map (·, rest)
  else if c = '|' then some ({ reading with repeatable := false }, rest)
  else if c = '[' then
    ((opened? reading.flags rest).bind (afterSet? reading.flags (rest.length + 1) 0)).map
      (reading.item, ·)
  else if "?*+".contains c then
    if reading.repeatable then some (reading, afterRepetition rest) else none
  else if c = '{' then none
  else if c = '\\' then (escape? reading.flags rest).map fun (_, after) => (reading.item, after)
  else if c = '.' then if reading.flags.wide then some (reading.item, rest) else none
  else some (reading.item, rest)

/-- Whether the rest of a pattern is well formed. The number bounds its parts. -/
def completes : Nat → Reading → List Char → Bool
  | 0, _, _ => false
  | limit + 1, reading, text =>
    match reading.flags.skip text with
    | [] => reading.outer.isEmpty
    | c :: rest =>
      match step? reading c rest with
      | none => false
      | some (next, after) => completes limit next after

def isPattern (text : List Char) : Bool := completes (text.length + 1) .start text

end ClusterMdns.Pattern
