import ClusterMdns.Number.Reader
import ClusterMdns.Pattern.Reader

/-!
Directives about what is logged: each has a limit for the lines of some targets or of all, perhaps
only for those that have some particular. Brackets hold the name of a span of lines, a particular in
braces or both. No span is ever entered here, nor are particulars of one looked at, so a directive
about a span or about the value of a particular has no effect.
-/

namespace ClusterMdns.Log

open ClusterMdns.Text

/-- Which lines of its targets a directive is for. -/
inductive Scope where
  | all
  | having (particular : String)
  | spans
deriving DecidableEq, Repr, Inhabited

/-- How far some lines are logged. -/
structure Directive where
  target : List Char
  scope : Scope
  /-- The rank of the last level that is logged; zero for none. -/
  limit : Nat
deriving DecidableEq, Repr, Inhabited

namespace Directive

/-! ### The parts of a directive -/

/-- The limits that have names. -/
def namedLimits : List (String × Nat) :=
  [("off", 0), ("error", 1), ("warn", 2), ("info", 3), ("debug", 4), ("trace", 5)]

def widest : Nat := 5

/-- The limit that a text gives: a name, in which case does not count, or a number. -/
def limit? (text : List Char) : Option Nat :=
  let number? := if text.head? = some '-' then none else Number.integer? text
  match number? with
  | some n => if n ≤ widest then some n.toNat else none
  | none => namedLimits.lookup (String.ofList (text.map Char.toLower))

/-- The limit that stands behind an equals sign; left out it is the widest. -/
def givenLimit? (text : List Char) : Option Nat :=
  if text.isEmpty then some widest else limit? text

/-- Whether the name of a target can start with a character. -/
def startsTarget (c : Char) : Bool := isAlphanumeric c || c = '-' || c = ':' || c = '_'

/-- The lines that a text in braces asks for: those with a particular of a name, or with a value for
it, which is a number or a pattern. -/
def scope? (text : List Char) : Option Scope :=
  let name := text.takeWhile (· != '=')
  match text.drop name.length with
  | [] => some (.having (String.ofList name))
  | _ :: rest =>
    let value := rest.takeWhile (· != '=')
    if (Number.binary64? value).isSome || Pattern.isPattern value then some .spans else none

/-! ### Reading a directive

The blanks around a directive do not count where its parts begin and end, but the parts are cut out
of the text with the blanks in front of it, at these very positions. So a directive with blanks in
front of it is about other targets and particulars than it looks. -/

/-- A limit, if the text has one at a position, and nothing else there. -/
def limitAt? (text : List Char) (position : Nat) : Option Nat :=
  match (trim text).drop position with
  | [] => some widest
  | '=' :: _ => givenLimit? (text.drop (position + 1))
  | _ => none

/-- The scope that a text gives from a position inside of brackets on, and the position behind
them. -/
def scopeAt? (text : List Char) (start : Nat) : Option (Scope × Nat) :=
  let inside := (trim text).drop start
  let span := inside.takeWhile fun c => c != ']' && c != '{'
  match inside.drop span.length with
  | ']' :: _ => some (.spans, start + span.length + 1)
  | '{' :: rest =>
    let first := start + span.length + 1
    let field := rest.takeWhile (· != '}')
    match rest.drop field.length with
    | '}' :: ']' :: _ =>
      if field.isEmpty then none
      else
        (scope? ((text.drop first).take field.length)).map fun scope =>
          (if span.isEmpty then scope else .spans, first + field.length + 2)
    | _ => none
  | _ => none

/-- The directive with brackets that open before a position. -/
def bracketed? (text target : List Char) (start : Nat) : Option Directive := do
  let (scope, stop) ← scopeAt? text start
  return ⟨target, scope, ← limitAt? text stop⟩

/-- What one directive says; none if it is malformed. A text that is no limit is a target without a
limit, which includes the blanks around it. -/
def read? (text : List Char) : Option Directive :=
  match trim text with
  | [] => none
  | '[' :: _ => bracketed? text [] 1
  | c :: rest =>
    if !startsTarget c then none
    else
      let length := ((c :: rest).takeWhile fun d => d != '=' && d != '[').length
      let target := text.take length
      match (c :: rest).drop length with
      | [] =>
        match limit? text with
        | some limit => some ⟨[], .all, limit⟩
        | none => some ⟨text, .all, widest⟩
      | '[' :: _ => bracketed? text target (length + 1)
      | _ => (limitAt? text length).map fun limit => ⟨target, .all, limit⟩

end Directive

end ClusterMdns.Log
