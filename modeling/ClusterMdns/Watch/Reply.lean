import ClusterMdns.Cache
import ClusterMdns.Cluster.Decoder
import ClusterMdns.Watcher

/-!
What the cluster's server sends: pages of a listing and streams of notices. A notice tells of one
object, marks a place in the stream or reports an error. What is made of named parts may mostly be
written as an object or as an array with the parts in their order.
-/

namespace ClusterMdns

/-- Objects that can be asked for. -/
class ServedObject (α : Type) extends RecordSource α where
  decode? : Json → Option α

instance : ServedObject Service where
  decode? := Cluster.service?

instance : ServedObject Ingress where
  decode? := Cluster.ingress?

inductive Reply where
  /-- A page of a listing: its objects, its version, and where the next page starts, if there is
  one. -/
  | page (items : List Json) (version : String) (next : Option String)
  | stream (notices : List Json) (staysOpen : Bool)
  | failure
  | silence

/-- A page of a listing. -/
structure Page (α : Type) where
  objects : List α
  /-- The version of the listing; empty if there is none. -/
  version : String
  /-- Where the next page starts; empty if there is none. -/
  next : String

namespace Page

variable {α : Type} [ServedObject α]

def ofItems? (items : List Json) (version next : Option String) : Option (Page α) :=
  (items.mapM (ServedObject.decode? (α := α))).map fun objects =>
    ⟨objects, version.getD "", next.getD ""⟩

def items? : Json → Option (List Json)
  | .array items => some items
  | .null => some []
  | _ => none

/-- Reads a page. What else an object says of itself does not count. -/
def ofJson? (value : Json) : Option (Page α) := do
  let members ← Cluster.members? value
  let items ← items? (← Json.lastMember? "items" members)
  let metadata ← match Json.lastMember? "metadata" members with
    | none => some []
    | some metadata => Cluster.members? metadata
  let _ ← Cluster.optional? Cluster.int64? metadata "remainingItemCount"
  let _ ← Cluster.optional? Json.string? metadata "selfLink"
  ofItems? items (← Cluster.optional? Json.string? metadata "resourceVersion")
    (← Cluster.optional? Json.string? metadata "continue")

/-- The page that a reply holds. A stream that ends after one line is read as a page as well. -/
def ofReply? : Reply → Option (Page α)
  | .page items version next => ofItems? items (some version) next
  | .stream [value] false => ofJson? value
  | _ => none

end Page

/-- What a notice tells. -/
inductive Notice (α : Type) where
  | news (event : ObjectEvent α)
  | mark
  | broken
  | lost

namespace Notice

variable {α : Type}

/-- The code of the error that the place in the stream is too old. -/
def goneCode : Int := 410

/-- The member that a text is expected in: absent is empty, and nothing but a text will do. -/
def statusText? (members : List (String × Json)) (key : String) : Option String :=
  match Json.lastMember? key members with
  | none => some ""
  | some value => value.string?

def errorCode? : Json → Option Int
  | .array [.string _, .string _, .string _, code] => Cluster.natural16? code
  | .object members => do
    let _ ← (← Json.lastMember? "status" members).string?
    let _ ← statusText? members "message"
    let _ ← statusText? members "reason"
    Cluster.natural16? (← Json.lastMember? "code" members)
  | _ => none

/-- Whether the metadata of a mark hold a version, and perhaps annotations. -/
def isMarkMetadata : Json → Bool
  | .array [.string _] => true
  | .array [.string _, annotations] => (Cluster.textMap? annotations).isSome
  | .object members =>
    ((Json.lastMember? "resourceVersion" members).bind Json.string?).isSome
      && ((Json.lastMember? "annotations" members).map Cluster.textMap?).all Option.isSome
  | _ => false

/-- Whether a value marks a place in the stream. -/
def isMark : Json → Bool
  | .object members =>
    ((Json.lastMember? "apiVersion" members).bind Json.string?).isSome
      && ((Json.lastMember? "kind" members).bind Json.string?).isSome
      && (Json.lastMember? "metadata" members).any isMarkMetadata
  | _ => false

/-- News of an object, which must carry a version. -/
def ofObject [ServedObject α] (event : α → ObjectEvent α) (value : Json) : Notice α :=
  match (ServedObject.decode? value : Option α) with
  | none => broken
  | some object => if ((Cache.versionOf object).getD "").isEmpty then lost else news (event object)

/-- The notice of a kind about a subject. -/
def ofSubject [ServedObject α] (kind : String) (subject : Json) : Notice α :=
  if kind = "ADDED" ∨ kind = "MODIFIED" then ofObject .current subject
  else if kind = "DELETED" then ofObject .deleted subject
  else if kind = "BOOKMARK" then if isMark subject then mark else broken
  else if kind = "ERROR" then if errorCode? subject = some goneCode then lost else broken
  else broken

/-- The kind that a member names: a text, or the key of a `null`. -/
def kind? : Json → Option String
  | .string kind => some kind
  | .object [(kind, .null)] => some kind
  | _ => none

def ofJson [ServedObject α] : Json → Notice α
  | .array [.string kind, subject] => ofSubject kind subject
  | .object members =>
    match (Json.lastMember? "type" members).bind kind?, Json.lastMember? "object" members with
    | some kind, some subject => ofSubject kind subject
    | _, _ => broken
  | _ => broken

end Notice

end ClusterMdns
