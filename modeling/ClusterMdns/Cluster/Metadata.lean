import ClusterMdns.TextMap

/-!
What every object of the cluster carries about itself.
-/

namespace ClusterMdns

/-- The metadata of an object. Everything is optional. -/
structure Metadata where
  name : Option String
  generateName : Option String
  space : Option String
  /-- The version, which changes with every change of the object. -/
  version : Option String
  annotations : TextMap String

instance : Inhabited Metadata := ⟨none, none, none, none, .empty⟩

/-- Objects with metadata. -/
class HasMetadata (α : Type) where
  metadata : α → Metadata

namespace Metadata

/-- The name, else what the name would start with, else nothing. -/
def anyName (metadata : Metadata) : String :=
  match metadata.name with
  | some name => name
  | none => metadata.generateName.getD ""

/-- The text that identifies an object among those of its kind: namespace, slash, name. -/
def key (metadata : Metadata) : String :=
  metadata.space.getD "" ++ "/" ++ metadata.anyName

end Metadata

end ClusterMdns
