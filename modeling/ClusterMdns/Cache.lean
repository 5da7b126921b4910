import ClusterMdns.Cluster.Metadata

/-!
The last known state of the objects of one kind, and the changes that news about them amount to. A
listing replaces everything: objects that it lacks are removed first, then each listed object is
taken over, both in the order of the keys. An object in the version already known is no change, but
takes the place of the one held.

Main statement: `get?_keep`, what taking over one object does to every key.
-/

namespace ClusterMdns

/-- News about objects of one kind. -/
inductive ObjectEvent (α : Type) where
  | current (object : α)
  | deleted (object : α)
  | listing (objects : List α)

/-- A change of what is known. -/
inductive Change (α : Type) where
  | added (object : α)
  | updated (old new : α)
  /-- An object went away; its last known state. -/
  | removed (object : α)

def Change.kind {α : Type} : Change α → String
  | added _ => "added"
  | updated _ _ => "updated"
  | removed _ => "removed"

/-- What is known of the objects of one kind. -/
structure Cache (α : Type) where
  objects : TextMap α
  synced : Bool

namespace Cache

variable {α : Type}

def empty : Cache α := ⟨.empty, false⟩

instance : Inhabited (Cache α) := ⟨empty⟩

variable [HasMetadata α]

def keyOf (object : α) : String := (HasMetadata.metadata object).key

def versionOf (object : α) : Option String := (HasMetadata.metadata object).version

/-- Whether two states of an object carry one version. States without a version never do. -/
def sameVersion (old new : α) : Bool :=
  (versionOf old).isSome && versionOf old == versionOf new

/-- The change that a state of an object is, given what was known of it. -/
def arrival (known : Option α) (object : α) : Option (Change α) :=
  match known with
  | none => some (.added object)
  | some old => if sameVersion old object then none else some (.updated old object)

/-- Takes over one object. -/
def keep (objects : TextMap α) (object : α) : TextMap α := objects.insert (keyOf object) object

/-- After an object is taken over, its key has it and every other key what it had. -/
theorem get?_keep (objects : TextMap α) (object : α) (key : String) :
    (keep objects object).get? key
      = if keyOf object = key then some object else objects.get? key :=
  objects.get?_insert (keyOf object) object key

/-- Objects by their keys; of several with one key the last. -/
def byKey (objects : List α) : TextMap α :=
  TextMap.ofList (objects.map fun object => (keyOf object, object))

/-- The changes that objects amount to whose keys are different. -/
def arrivals (known : TextMap α) (objects : List α) : List (Change α) :=
  objects.filterMap fun object => arrival (known.get? (keyOf object)) object

/-- The changes that news amount to, and the cache after them. -/
def apply (cache : Cache α) : ObjectEvent α → List (Change α) × Cache α
  | .current object =>
    ((arrival (cache.objects.get? (keyOf object)) object).toList,
      { cache with objects := keep cache.objects object })
  | .deleted object =>
    ([.removed ((cache.objects.get? (keyOf object)).getD object)],
      { cache with objects := cache.objects.erase (keyOf object) })
  | .listing objects =>
    let listed := byKey objects
    let gone := cache.objects.entries.filter fun entry => !listed.contains entry.1
    (gone.map (fun entry => .removed entry.2)
        ++ arrivals cache.objects (listed.entries.map Prod.snd),
      ⟨listed, true⟩)

end Cache

def Change.key {α : Type} [HasMetadata α] : Change α → String
  | added object => Cache.keyOf object
  | updated _ new => Cache.keyOf new
  | removed object => Cache.keyOf object

end ClusterMdns
