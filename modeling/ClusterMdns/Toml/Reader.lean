import ClusterMdns.Toml.Node
import ClusterMdns.Toml.Quotation
import ClusterMdns.Toml.Scalar

/-!
Reading a TOML document: lines with a key and a value, headers of tables and of tables in lists, and
comments. Lists and tables within a line nest only so deep, and a key has only so many parts; apart
from that the readers are bounded by a number that no text reaches.
-/

namespace ClusterMdns.Toml

/-- Whether a character is a blank within a line. -/
def isSpace (c : Char) : Bool := c == ' ' || c == '\t'

/-- A text without the blanks that it starts with. -/
def skipSpace (text : List Char) : List Char := text.dropWhile isSpace

/-- Whether a character may stand in a key without quotes. -/
def isBareChar (c : Char) : Bool := c.isAlphanum || c == '_' || c == '-'

/-- What follows a comment, if there is one. -/
def skipComment? : List Char → Option (List Char)
  | '#' :: rest =>
    let after := rest.dropWhile isPlain
    match after with
    | [] | '\n' :: _ | '\r' :: '\n' :: _ => some after
    | _ => none
  | text => some text

/-- What follows the end of a line: blanks, a comment and the line end. -/
def endLine? (text : List Char) : Option (List Char) := do
  match ← skipComment? (skipSpace text) with
  | [] => some []
  | '\n' :: rest => some rest
  | '\r' :: '\n' :: rest => some rest
  | _ => none

/-- What follows blanks, comments and line ends within a list. -/
def skipLines? : Nat → List Char → Option (List Char)
  | 0, text => some text
  | limit + 1, text =>
    match skipSpace text with
    | '\n' :: rest => skipLines? limit rest
    | '\r' :: '\n' :: rest => skipLines? limit rest
    | '#' :: rest => do skipLines? limit (← skipComment? ('#' :: rest))
    | rest => some rest

/-- One part of a key, and what follows. -/
def keyPart? (text : List Char) : Option (String × List Char) :=
  match text with
  | '"' :: rest => (basic? rest).map fun quotation => (String.ofList quotation.1, quotation.2)
  | '\'' :: rest => (literal? rest).map fun quotation => (String.ofList quotation.1, quotation.2)
  | _ =>
    let name := text.takeWhile isBareChar
    if name.isEmpty then none else some (String.ofList name, text.drop name.length)

/-- The limit of the parts of a key, and of the lists and tables that a value is inside of. -/
def depthLimit : Nat := 80

/-- The parts of a key with dots between them, and what follows with blanks left out. -/
def parts? : Nat → List Char → Option (List String × List Char)
  | 0, _ => none
  | limit + 1, text => do
    let (part, rest) ← keyPart? (skipSpace text)
    match skipSpace rest with
    | '.' :: rest =>
      let (parts, rest) ← parts? limit rest
      some (part :: parts, rest)
    | rest => some ([part], rest)

/-- The parts of a key, and what follows with blanks left out. -/
def key? (text : List Char) : Option (List String × List Char) := parts? (depthLimit - 1) text

mutual

/-- A value, and what follows. The second number is how deep lists and tables may nest in it. -/
def value? : Nat → Nat → List Char → Option (SettingValue × List Char)
  | 0, _, _ => none
  | limit + 1, depth, text =>
    match text, depth with
    | '[' :: rest, depth + 1 => do items? limit depth [] (← skipLines? rest.length rest)
    | '\x7b' :: rest, depth + 1 =>
      match skipSpace rest with
      | '\x7d' :: rest => some (.table [], rest)
      | rest => pairs? limit depth [] rest
    | '"' :: _, _ | '\'' :: _, _ =>
      (quotation? text).map fun quotation => (.text (String.ofList quotation.1), quotation.2)
    | _, _ =>
      let found := word text
      (scalar? found).map fun value => (value, text.drop found.length)

/-- The rest of a list after some items, and what follows. -/
def items? : Nat → Nat → List SettingValue → List Char → Option (SettingValue × List Char)
  | 0, _, _, _ => none
  | limit + 1, depth, items, text =>
    match text with
    | ']' :: rest => some (.list items, rest)
    | _ => do
      let (value, rest) ← value? limit depth text
      match ← skipLines? rest.length rest with
      | ',' :: rest => items? limit depth (items ++ [value]) (← skipLines? rest.length rest)
      | ']' :: rest => some (.list (items ++ [value]), rest)
      | _ => none

/-- The rest of a table within a line after some entries, and what follows. -/
def pairs? : Nat → Nat → Entries → List Char → Option (SettingValue × List Char)
  | 0, _, _, _ => none
  | limit + 1, depth, entries, text => do
    let (parts, rest) ← key? text
    let (value, rest) ← value? limit depth (skipSpace (← after? '=' rest))
    let entries ← Node.set? entries parts.dropLast (parts.getLastD "") value
    match skipSpace rest with
    | ',' :: rest => pairs? limit depth entries rest
    | '\x7d' :: rest => some (.table (Node.values entries), rest)
    | _ => none

end

/-- What was read of a document. -/
structure Document where
  entries : Entries
  place : List String

namespace Document

def empty : Document := ⟨[], []⟩

/-- A document after the header of a table. -/
def open? (document : Document) (parts : List String) : Option Document := do
  let entries ← Node.atTable? (Node.opened? (parts.getLastD "")) document.entries parts.dropLast
  some ⟨entries, parts⟩

/-- A document after the header of one more table in a list. -/
def add? (document : Document) (parts : List String) : Option Document := do
  let entries ← Node.atTable? (Node.added? (parts.getLastD "")) document.entries parts.dropLast
  some ⟨entries, parts⟩

/-- A document after a line with a key and a value. -/
def set? (document : Document) (parts : List String) (value : SettingValue) : Option Document := do
  let entries ← Node.atTable?
    (fun entries => Node.set? entries parts.dropLast (parts.getLastD "") value)
    document.entries document.place
  some { document with entries := entries }

/-- A document after one more line, and what follows. -/
def line? (document : Document) (text : List Char) : Option (Document × List Char) := do
  match skipSpace text with
  | '[' :: '[' :: rest =>
    let (parts, rest) ← key? rest
    let rest ← after? ']' (← after? ']' rest)
    some (← document.add? parts, ← endLine? rest)
  | '[' :: rest =>
    let (parts, rest) ← key? rest
    some (← document.open? parts, ← endLine? (← after? ']' rest))
  | rest =>
    match rest with
    | [] | '#' :: _ | '\n' :: _ | '\r' :: '\n' :: _ => some (document, ← endLine? rest)
    | _ =>
      let (parts, rest) ← key? rest
      let (value, rest) ← value? text.length (depthLimit - 1) (skipSpace (← after? '=' rest))
      some (← document.set? parts value, ← endLine? rest)

def lines? : Nat → Document → List Char → Option Document
  | _, document, [] => some document
  | 0, _, _ => none
  | limit + 1, document, text => do
    let (document, rest) ← document.line? text
    lines? limit document rest

end Document

/-- A text without the mark of its byte order. -/
def withoutMark : List Char → List Char
  | '\ufeff' :: rest => rest
  | text => text

/-- The settings that a text writes. -/
def read? (text : String) : Option (List (String × SettingValue)) :=
  let chars := withoutMark text.toList
  (Document.empty.lines? chars.length chars).map fun document => Node.values document.entries

end ClusterMdns.Toml
