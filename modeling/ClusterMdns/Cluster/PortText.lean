import ClusterMdns.Cluster.Decoder
import ClusterMdns.Json.Reader

/-!
The annotation with the text of each port: a JSON object from port names to objects from keys to
texts. It counts as a whole or not at all.
-/

namespace ClusterMdns.PortText

/-- The pairs for each port that a JSON value gives. -/
def ofJson? (value : Json) : Option (TextMap (TextMap String)) := do
  let entries ← (← Cluster.members? value).mapM fun member => do
    some (member.1, ← Cluster.textMap? member.2)
  some (TextMap.ofList entries)

/-- The pairs for each port; none at all if the text is malformed anywhere. -/
def read (text : String) : TextMap (TextMap String) :=
  ((Json.read? text).bind ofJson?).getD .empty

/-- One pair as it is published. -/
def flattened (pair : String × String) : String := pair.1 ++ "=" ++ pair.2

/-- The texts published for pairs, in the order of their keys. -/
def strings (pairs : TextMap String) : List String := pairs.entries.map flattened

end ClusterMdns.PortText
