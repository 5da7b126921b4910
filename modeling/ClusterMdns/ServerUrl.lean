import ClusterMdns.Text.Ending

/-!
The address of a server as a URL, what may be wrong with it and how it is shown. It is a scheme, an
authority and the rest, of which only the authority is needed. Without a scheme there is nothing but
the authority, and nothing can be asked for. Otherwise the path comes before the path of everything
that is asked for.
-/

namespace ClusterMdns.ServerUrl

open ClusterMdns.Text

/-- What is wrong with a URL. -/
inductive Fault where
  /-- There is nothing at all. -/
  | empty
  | tooLong
  | schemeTooLong
  | character
  | authority
  | format
deriving DecidableEq, Repr

/-- What is said about a fault. -/
def Fault.reason : Fault → String
  | empty => "empty string"
  | tooLong => "uri too long"
  | schemeTooLong => "scheme too long"
  | character => "invalid uri character"
  | authority => "invalid authority"
  | format => "invalid format"

/-- The longest URL, in bytes. -/
def maxLength : Nat := 65534

/-- The longest scheme. -/
def maxSchemeLength : Nat := 64

/-- Whether a character may stand in a scheme. -/
def isSchemeChar (c : Char) : Bool := c.isAlphanum || "+-.~".toList.contains c

/-- Whether a character may stand in an authority. -/
def isAuthorityChar (c : Char) : Bool :=
  c.isAlphanum || "!$&'()*+,-.:;=@[]_~".toList.contains c

/-- Whether a character ends the authority. -/
def endsAuthority (c : Char) : Bool := c == '/' || c == '?' || c == '#'

/-- What follows a scheme and its mark: none if there is no scheme. -/
def afterScheme? (url : List Char) : Except Fault (Option (List Char)) :=
  let scheme := url.takeWhile isSchemeChar
  let rest := url.dropWhile isSchemeChar
  if url.length > 3 ∧ "://".toList.isPrefixOf rest then
    if scheme.length > maxSchemeLength then .error .schemeTooLong else .ok (some (rest.drop 3))
  else .ok none

/-- What was seen of an authority so far. -/
structure AuthorityScan where
  colons : Nat
  opened : Bool
  closed : Bool
  percent : Bool
  afterAt : Bool

/-- The most colons that an authority may hold in a row of parts. -/
def maxColons : Nat := 8

/-- What was seen of an authority after one more character. -/
def AuthorityScan.next (scan : AuthorityScan) (c : Char) : Except Fault AuthorityScan :=
  let scan := { scan with afterAt := c == '@' }
  if c = ':' then
    if scan.colons ≥ maxColons then .error .authority
    else .ok { scan with colons := scan.colons + 1 }
  else if c = '[' then
    if scan.percent || scan.opened then .error .authority else .ok { scan with opened := true }
  else if c = ']' then
    if !scan.opened || scan.closed then .error .authority
    else .ok { scan with closed := true, colons := 0, percent := false }
  else if c = '@' then .ok { scan with colons := 0, percent := false }
  else if c = '%' then .ok { scan with percent := true }
  else if isAuthorityChar c then .ok scan
  else .error .character

/-- What is wrong with an authority. -/
def authorityFault? (authority : List Char) : Option Fault :=
  match authority.foldlM AuthorityScan.next ⟨0, false, false, false, false⟩ with
  | .error fault => some fault
  | .ok scan =>
    if scan.opened != scan.closed || scan.colons > 1 || scan.afterAt || scan.percent then
      some .authority
    else none

/-- Whether a character may stand in a path. -/
def isPathChar (c : Char) : Bool :=
  '\x21' ≤ c && c ≤ '\x7e' && !"#<>?`".toList.contains c

/-- Whether a character may stand in a query. -/
def isQueryChar (c : Char) : Bool := '\x21' ≤ c && c ≤ '\x7e' && !"\"#<>".toList.contains c

/-- What is wrong with the path and the query of a URL. What follows a number sign does not count.
-/
def restFault? (rest : List Char) : Option Fault :=
  let counted := rest.takeWhile (· != '#')
  let path := counted.takeWhile (· != '?')
  let query := (counted.dropWhile (· != '?')).drop 1
  if path.all isPathChar && query.all isQueryChar then none else some .character

def pathOf (rest : List Char) : List Char := rest.takeWhile fun c => c != '?' && c != '#'

/-- What is wrong with a URL of more than one character that does not start with a slash. -/
def partsFault? (url : List Char) : Option Fault :=
  match afterScheme? url with
  | .error fault => some fault
  | .ok none =>
    let authority := url.takeWhile fun c => !endsAuthority c
    (authorityFault? authority).or
      (if authority.length = url.length then none else some .format)
  | .ok (some parts) =>
    let authority := parts.takeWhile fun c => !endsAuthority c
    (authorityFault? authority).or
      (if authority.isEmpty then some .format else restFault? (parts.drop authority.length))

def fault? (text : String) : Option Fault :=
  let url := text.toList
  if text.utf8ByteSize > maxLength then some .tooLong
  else
    match url with
    | [] => some .empty
    | ['/'] | ['*'] => none
    | [c] => if endsAuthority c then some .character else authorityFault? [c]
    | '/' :: _ => restFault? url
    | _ => partsFault? url

/-- What comes before the path of everything that is asked for, if anything can be. -/
def base? (text : String) : Option (List Char) :=
  match afterScheme? text.toList with
  | .ok (some parts) => some (dropTrailing '/' (pathOf (parts.dropWhile fun c => !endsAuthority c)))
  | _ => none

/-! ### How a URL is shown -/

/-- A scheme as it is shown: the usual two in small letters. -/
def shownScheme (scheme : List Char) : List Char :=
  let small := scheme.map Char.toLower
  if small = "http".toList ∨ small = "https".toList then small else scheme

/-- The rest of a URL as it is shown: with a path, and without what follows a number sign. -/
def shownRest (rest : List Char) : List Char :=
  let counted := rest.takeWhile (· != '#')
  if (pathOf counted).isEmpty then '/' :: counted else counted

def shown (text : String) : String :=
  let url := text.toList
  match afterScheme? url with
  | .ok (some parts) =>
    let authority := parts.takeWhile fun c => !endsAuthority c
    String.ofList (shownScheme (url.takeWhile isSchemeChar) ++ "://".toList ++ authority
      ++ shownRest (parts.drop authority.length))
  | _ => String.ofList (url.takeWhile (· != '#'))

end ClusterMdns.ServerUrl
