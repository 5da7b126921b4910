import ClusterMdns.Settings.Value

/-!
The tree that a TOML document builds up. A table may be opened by a header of its own, stand on the
way to one, or stand on the way to a key with dots; this decides what may still be added to it. No
key is set twice.
-/

namespace ClusterMdns.Toml

/-- Where a table comes from. -/
inductive Origin where
  | header
  | implied
  | dotted
deriving DecidableEq, Repr

/-- A node of the tree. -/
inductive Node where
  | leaf (value : SettingValue)
  | table (origin : Origin) (entries : List (String × Node))
  | tables (elements : List (List (String × Node)))
deriving Inhabited

abbrev Entries := List (String × Node)

namespace Node

def find? (key : String) (entries : Entries) : Option Node :=
  (entries.find? fun entry => entry.1 == key).map Prod.snd

/-- Entries with another node for a key. -/
def replaced (key : String) (node : Node) (entries : Entries) : Entries :=
  if entries.any (·.1 == key) then
    entries.map fun entry => if entry.1 == key then (key, node) else entry
  else entries ++ [(key, node)]

/-- A list with another last item. -/
def withLast (elements : List Entries) (last : Entries) : List Entries :=
  elements.dropLast ++ [last]

/-- Entries with a value for a key that has none yet. `way` holds the keys before the last dot. -/
def set? (entries : Entries) (way : List String) (key : String) (value : SettingValue) :
    Option Entries :=
  match way with
  | [] => if entries.any (·.1 == key) then none else some (entries ++ [(key, .leaf value)])
  | first :: rest => do
    let isLast := rest.isEmpty
    match find? first entries with
    | none => some (entries ++ [(first, .table .dotted (← set? [] rest key value))])
    | some (.table origin inner) =>
      if origin = .dotted ∨ (origin = .implied ∧ !isLast) then
        some (replaced first (.table origin (← set? inner rest key value)) entries)
      else none
    | some (.tables elements) =>
      if isLast then none
      else
        let inner ← set? (elements.getLastD []) rest key value
        some (replaced first (.tables (withLast elements inner)) entries)
    | some (.leaf _) => none

/-- Entries changed at the table that a way of headers leads to. Tables on the way that are missing
are implied. -/
def atTable? (change : Entries → Option Entries) (entries : Entries) : List String → Option Entries
  | [] => change entries
  | first :: rest => do
    match find? first entries with
    | none => some (entries ++ [(first, .table .implied (← atTable? change [] rest))])
    | some (.table origin inner) =>
      some (replaced first (.table origin (← atTable? change inner rest)) entries)
    | some (.tables elements) =>
      let inner ← atTable? change (elements.getLastD []) rest
      some (replaced first (.tables (withLast elements inner)) entries)
    | some (.leaf _) => none

/-- Entries with a table opened by its header. A table is opened only once, and only if no key with
dots made it. -/
def opened? (key : String) (entries : Entries) : Option Entries :=
  match find? key entries with
  | none => some (entries ++ [(key, .table .header [])])
  | some (.table .implied inner) => some (replaced key (.table .header inner) entries)
  | some _ => none

/-- Entries with one more table in a list of tables. -/
def added? (key : String) (entries : Entries) : Option Entries :=
  match find? key entries with
  | none => some (entries ++ [(key, .tables [[]])])
  | some (.tables elements) => some (replaced key (.tables (elements ++ [[]])) entries)
  | some _ => none

mutual

def value : Node → SettingValue
  | leaf value => value
  | table _ entries => .table (values entries)
  | tables elements => .list (elementValues elements)

def values : List (String × Node) → List (String × SettingValue)
  | [] => []
  | (key, node) :: rest => (key, node.value) :: values rest

def elementValues : List (List (String × Node)) → List SettingValue
  | [] => []
  | entries :: rest => .table (values entries) :: elementValues rest

end

end Node

end ClusterMdns.Toml
