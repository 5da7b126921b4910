import ClusterMdns.Pattern.Atom

/-!
Sets in brackets: characters, ranges of characters, named sets and further sets in brackets, with
operators between them.
-/

namespace ClusterMdns.Pattern

open ClusterMdns.Text

/-- The names of the sets that stand between colons. -/
def setNames : List String :=
  ["alnum", "alpha", "ascii", "blank", "cntrl", "digit", "graph", "lower", "print", "punct",
    "space", "upper", "word", "xdigit"]

/-- Whether a set with a name is left out, rather than asked for, and what follows it, if one stands
behind a bracket: a colon, perhaps a caret, the name, a colon and the other bracket. -/
def namedSet? : List Char → Option (Bool × List Char)
  | ':' :: rest =>
    let (negated, rest) := match rest with
      | '^' :: more => (true, more)
      | _ => (false, rest)
    let name := rest.takeWhile (· != ':')
    match rest.drop name.length with
    | ':' :: ']' :: after =>
      if setNames.contains (String.ofList name) then some (negated, after) else none
    | _ => none
  | _ => none

/-- What follows dashes, of which there are at most so many. -/
def afterDashes (flags : Flags) : Nat → List Char → List Char
  | limit + 1, '-' :: rest => afterDashes flags limit (flags.skip rest)
  | _, text => text

/-- What follows the bracket of a set, the caret that turns it around, and the dashes or the other
bracket that stand for themselves at its start. -/
def opened? (flags : Flags) (text : List Char) : Option (List Char) :=
  match flags.skip text with
  | '^' :: rest => if flags.wide then some (literals (flags.skip rest)) else none
  | rest => some (literals rest)
where
  literals : List Char → List Char
    | ']' :: rest => rest
    | rest => afterDashes flags rest.length rest

/-- Whether an atom can stand in a set on its own. -/
def Atom.inSet (flags : Flags) : Atom → Bool
  | .literal c => flags.wide || isAscii c
  | .set => true
  | .place => false

/-- Whether two atoms are the ends of a range. -/
def Atom.isRange (flags : Flags) : Atom → Atom → Bool
  | .literal first, .literal last =>
    decide (first ≤ last) && (flags.wide || isAscii last)
  | _, _ => false

/-- What follows a character, an escape or a range in a set. A dash before the end of the set or
before another dash makes no range. -/
def afterItem? (flags : Flags) (text : List Char) : Option (List Char) := do
  let (first, rest) ← atom? flags text
  let alone := if first.inSet flags then some (flags.skip rest) else none
  match flags.skip rest with
  | '-' :: more =>
    match flags.skip more with
    | ']' :: _ | '-' :: _ => alone
    | more =>
      let (last, after) ← atom? flags more
      if first.isRange flags last then some after else none
  | _ => alone

/-- What follows a set that is open, as are so many around it. The first number bounds the items. -/
def afterSet? (flags : Flags) : Nat → Nat → List Char → Option (List Char)
  | 0, _, _ => none
  | limit + 1, depth, text =>
    match flags.skip text with
    | [] => none
    | '[' :: rest =>
      match namedSet? rest with
      | some (negated, after) =>
        if negated && !flags.wide then none else afterSet? flags limit depth after
      | none => (opened? flags rest).bind (afterSet? flags limit (depth + 1))
    | ']' :: rest =>
      match depth with
      | 0 => some rest
      | depth + 1 => afterSet? flags limit depth rest
    | '&' :: '&' :: rest | '-' :: '-' :: rest | '~' :: '~' :: rest =>
      afterSet? flags limit depth rest
    | item => (afterItem? flags item).bind (afterSet? flags limit depth)

end ClusterMdns.Pattern
