/-!
Where the file with settings is found. A file that arguments name has to be there, if only with its
ending left out; the file that is looked for otherwise may be missing.
-/

namespace ClusterMdns.SettingsFile

/-- The ending that the name of a settings file has. -/
def ending : String := ".toml"

/-- The path, without its ending, at which a file is looked for where arguments name none. -/
def standardPath : String := "external-mdns"

def fileName (path : List Char) : List Char := (path.reverse.takeWhile (· != '/')).reverse

/-- Whether the file at a path is a settings file: its name is more than the ending alone. -/
def hasEnding (path : String) : Bool :=
  let name := fileName path.toList
  ending.toList.isSuffixOf name && decide (ending.length < name.length)

/-- Whether a piece of a path leads nowhere: it is empty or a single dot. -/
def leadsNowhere (piece : List Char) : Bool := piece.isEmpty || piece == ['.']

/-- A path with the ending behind the file name that it leads to. None if it leads to no name, but
up or nowhere. -/
def withEnding? (path : String) : Option String :=
  match (path.toList.splitOn '/').reverse.dropWhile leadsNowhere with
  | [] => none
  | name :: before =>
    if name = "..".toList then none
    else some (String.ofList (['/'].intercalate (before.reverse ++ [name])) ++ ending)

/-- The paths that are tried, one after the other. -/
def paths (given : Option String) : List String :=
  let path := given.getD standardPath
  path :: (withEnding? path).toList

/-- The text of the settings file among files. A file without the ending is none, and one at the
path itself hides the file with the ending; only a file that arguments name is missed. -/
def text? (file? : String → Option String) : Option String → Option String
  | some path =>
    match file? path with
    | some text => if hasEnding path then some text else none
    | none => (withEnding? path).bind file?
  | none =>
    match file? standardPath with
    | some _ => some ""
    | none => some ((file? (standardPath ++ ending)).getD "")

end ClusterMdns.SettingsFile
