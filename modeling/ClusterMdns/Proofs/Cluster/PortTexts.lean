import ClusterMdns.Cluster.PortText
import ClusterMdns.Proofs.Cache.Listing
import ClusterMdns.Proofs.Json.Reading
import ClusterMdns.Proofs.Text.ByteOrder

/-!
Which texts count as the text of each port, and what they say.

A text counts if it writes a document (`Writes`): for each port, in the order written and with repetitions, the
keys and values that are configured for it. Of what is repeated the last counts, for ports and within a port for
keys (`IsLast`).

* `TextMap.get?_ofList_eq_some_iff`: a map of entries has for a key what the last entry with it has.
* `read_of_writes` and `read_of_not_writes`: a text is read as its document, and as nothing if it writes none.
* `ofDocument_congr`: in a document without repetitions the order does not matter.
* `lists_strings`: the strings for pairs are one for each key, in the order of the bytes of the keys.
-/

namespace ClusterMdns

/-! ### The last entry with a key -/

/-- Whether the last entry with a key has a value. -/
def IsLast {α : Type} (entries : List (String × α)) (key : String) (value : α) : Prop :=
  ∃ before after, entries = before ++ (key, value) :: after ∧ ∀ later ∈ after, later.1 ≠ key

/-- A key that occurs has a last entry. -/
theorem exists_isLast {α : Type} {entries : List (String × α)} {key : String}
    (occurs : key ∈ entries.map Prod.fst) : ∃ value, IsLast entries key value := by
  induction entries with
  | nil => exact absurd occurs List.not_mem_nil
  | cons entry rest ih =>
    by_cases again : key ∈ rest.map Prod.fst
    · obtain ⟨value, before, after, rfl, others⟩ := ih again
      exact ⟨value, entry :: before, after, rfl, others⟩
    · obtain rfl := (List.mem_cons.mp occurs).resolve_right again
      refine ⟨entry.2, [], rest, rfl, fun later member same => again ?_⟩
      exact List.mem_map.mpr ⟨later, member, same⟩

namespace TextMap

variable {α : Type} {entries other : List (String × α)} {key : String} {value : α}

/-- **A map of entries has for a key what the last entry with it has.** -/
theorem get?_ofList_eq_some_iff : (ofList entries).get? key = some value ↔ IsLast entries key value := by
  rw [get?_ofList, List.findSome?_eq_some_iff]
  constructor
  · rintro ⟨after, entry, before, split, found, others⟩
    rw [Option.ite_none_right_eq_some] at found
    obtain ⟨rfl, found⟩ := found
    obtain rfl := Option.some.inj found
    refine ⟨before.reverse, after.reverse, ?_, fun later member same => ?_⟩
    · rw [← List.reverse_reverse entries, split, List.reverse_append, List.reverse_cons,
        List.append_assoc]
      rfl
    · have missed := others later (List.mem_reverse.mp member)
      rw [if_pos same] at missed
      cases missed
  · rintro ⟨before, after, rfl, others⟩
    refine ⟨after.reverse, (key, value), before.reverse, ?_, if_pos rfl, fun later member => ?_⟩
    · rw [List.reverse_append, List.reverse_cons, List.append_assoc]
      rfl
    · exact if_neg (others later (List.mem_reverse.mp member))

theorem get?_ofList_eq_none (missing : key ∉ entries.map Prod.fst) : (ofList entries).get? key = none := by
  refine Option.eq_none_iff_forall_ne_some.mpr fun value found => missing ?_
  obtain ⟨before, after, rfl, _⟩ := get?_ofList_eq_some_iff.mp found
  exact List.mem_map_of_mem (List.mem_append_right before List.mem_cons_self)

end TextMap

/-- Where no key is repeated, each entry is the last with its key. -/
theorem isLast_iff_mem {α : Type} {entries : List (String × α)} (distinct : (entries.map Prod.fst).Nodup)
    {key : String} {value : α} : IsLast entries key value ↔ (key, value) ∈ entries := by
  constructor
  · rintro ⟨before, after, rfl, _⟩
    exact List.mem_append_right before List.mem_cons_self
  · intro member
    obtain ⟨before, after, rfl⟩ := List.append_of_mem member
    refine ⟨before, after, rfl, fun later follows same => ?_⟩
    rw [List.map_append, List.map_cons, List.nodup_append, List.nodup_cons] at distinct
    exact distinct.2.1.1 (List.mem_map.mpr ⟨later, follows, same⟩)

/-- The order of entries does not matter where no key is repeated. -/
theorem TextMap.ofList_perm {α : Type} {entries other : List (String × α)}
    (distinct : (entries.map Prod.fst).Nodup) (same : entries.Perm other) : ofList entries = ofList other := by
  refine ext fun key => Option.ext fun value => ?_
  rw [get?_ofList_eq_some_iff, get?_ofList_eq_some_iff, isLast_iff_mem distinct,
    isLast_iff_mem ((same.map Prod.fst).nodup_iff.mp distinct)]
  exact same.mem_iff

namespace PortText

/-! ### Documents -/

/-- What a text says, in the order written and with repetitions: for each port keys and values. -/
abbrev Document := List (String × List (String × String))

/-- Keys and values as an object. -/
def pairsJson (pairs : List (String × String)) : Json :=
  .object (pairs.map fun pair => (pair.1, .string pair.2))

def Document.toJson (document : Document) : Json :=
  .object (document.map fun entry => (entry.1, pairsJson entry.2))

/-- Whether a text is strict JSON for a document: an object of objects of strings. -/
def Writes (text : String) (document : Document) : Prop :=
  Json.Writes text.toList (Json.written document.toJson)

/-- The pairs for each port that a document gives. -/
def ofDocument (document : Document) : TextMap (TextMap String) :=
  .ofList (document.map fun entry => (entry.1, .ofList entry.2))

theorem balanced_toJson (document : Document) :
    Json.Balanced Json.depthLimit 0 (Json.written document.toJson) := by
  refine Json.balanced_object (by decide) fun member listed => ?_
  obtain ⟨entry, _, rfl⟩ := List.mem_map.mp listed
  refine Json.balanced_object (by decide) fun member listed => ?_
  obtain ⟨pair, _, rfl⟩ := List.mem_map.mp listed
  exact Json.balanced_string pair.2

section Decoding

variable {α β : Type} {decode? : Json → Option α} {encode : β → Json} {result : β → α}

/-- Members are decoded one by one. -/
theorem mapM_members_iff
    (decodes : ∀ value found,
      decode? value = some found ↔ ∃ content, value = encode content ∧ result content = found)
    {members : List (String × Json)} {entries : List (String × α)} :
    (members.mapM fun member => (decode? member.2).bind fun found => some (member.1, found)) = some entries
      ↔ ∃ contents : List (String × β), members = contents.map (fun entry => (entry.1, encode entry.2)) ∧
        contents.map (fun entry => (entry.1, result entry.2)) = entries := by
  induction members generalizing entries with
  | nil =>
    rw [List.mapM_nil]
    constructor
    · intro found
      exact ⟨[], rfl, Option.some.inj found⟩
    · rintro ⟨contents, empty, rfl⟩
      rw [List.map_eq_nil_iff.mp empty.symm]
      rfl
  | cons member rest ih =>
    rw [List.mapM_cons]
    constructor
    · intro found
      obtain ⟨_, decoded, found⟩ := Option.bind_eq_some_iff.mp found
      obtain ⟨first, decoded, same⟩ := Option.bind_eq_some_iff.mp decoded
      obtain ⟨more, others, found⟩ := Option.bind_eq_some_iff.mp found
      obtain ⟨content, isContent, rfl⟩ := (decodes member.2 first).mp decoded
      obtain ⟨contents, rfl, rfl⟩ := ih.mp others
      refine ⟨(member.1, content) :: contents, ?_, ?_⟩
      · rw [List.map_cons, ← isContent]
      · rw [← Option.some.inj found, ← Option.some.inj same]
        rfl
    · rintro ⟨contents, listed, rfl⟩
      obtain ⟨content, contents, rfl, rfl, rfl⟩ := List.map_eq_cons_iff.mp listed.symm
      rw [ih.mpr ⟨contents, rfl, rfl⟩, (decodes _ _).mpr ⟨content.2, rfl, rfl⟩]
      rfl

/-- An object is decoded into the map of its members, where each of them decodes. -/
theorem object_iff
    (decodes : ∀ value found,
      decode? value = some found ↔ ∃ content, value = encode content ∧ result content = found)
    {value : Json} {map : TextMap α} :
    ((Cluster.members? value).bind fun members =>
        (members.mapM fun member =>
          (decode? member.2).bind fun found => some (member.1, found)).bind fun entries =>
            some (TextMap.ofList entries)) = some map
      ↔ ∃ contents : List (String × β), value = .object (contents.map fun entry => (entry.1, encode entry.2)) ∧
        .ofList (contents.map fun entry => (entry.1, result entry.2)) = map := by
  constructor
  · intro found
    obtain ⟨members, isObject, decoded⟩ := Option.bind_eq_some_iff.mp found
    obtain ⟨entries, decoded, gathered⟩ := Option.bind_eq_some_iff.mp decoded
    obtain ⟨contents, rfl, rfl⟩ := (mapM_members_iff decodes).mp decoded
    unfold Cluster.members? at isObject
    split at isObject
    · exact ⟨contents, congrArg _ (Option.some.inj isObject), Option.some.inj gathered⟩
    · cases isObject
  · rintro ⟨contents, rfl, rfl⟩
    rw [Cluster.members?, Option.bind_some, (mapM_members_iff decodes).mpr ⟨contents, rfl, rfl⟩]
    rfl

end Decoding

/-- Keys and values are decoded from their object, and from nothing else. -/
theorem textMap?_eq_some_iff (value : Json) (map : TextMap String) :
    Cluster.textMap? value = some map ↔ ∃ pairs, value = pairsJson pairs ∧ .ofList pairs = map := by
  have texts : ∀ value text, Json.string? value = some text
      ↔ ∃ content, value = .string content ∧ id content = text := by
    intro value text
    cases value <;> simp [Json.string?]
  refine (object_iff texts).trans ?_
  simp only [id, Prod.mk.eta, List.map_id']
  rfl

/-- Documents are decoded from their objects, and from nothing else. -/
theorem ofJson?_eq_some_iff {value : Json} {map : TextMap (TextMap String)} :
    ofJson? value = some map ↔ ∃ document : Document, value = document.toJson ∧ ofDocument document = map :=
  object_iff textMap?_eq_some_iff

variable {text : String} {document : Document}

/-- A port has the pairs of its last occurrence. -/
theorem get?_ofDocument {port : String} {pairs : List (String × String)} (last : IsLast document port pairs) :
    (ofDocument document).get? port = some (.ofList pairs) := by
  obtain ⟨before, after, rfl, others⟩ := last
  refine TextMap.get?_ofList_eq_some_iff.mpr ⟨_, _, List.map_append, fun later member => ?_⟩
  obtain ⟨entry, follows, rfl⟩ := List.mem_map.mp member
  exact others entry follows

theorem get?_ofDocument_eq_none {port : String} (unnamed : port ∉ document.map Prod.fst) :
    (ofDocument document).get? port = none := by
  refine TextMap.get?_ofList_eq_none fun named => unnamed ?_
  rwa [List.map_map] at named

theorem writes_iff : Writes text document ↔ Json.read? text = some document.toJson :=
  (Json.read?_eq_some_iff (balanced_toJson document)).symm

instance : Decidable (Writes text document) :=
  decidable_of_iff _ (Json.tokens?_eq_some_iff (balanced_toJson document).plain)

theorem exists_writes_iff :
    (∃ document, Writes text document) ↔ ((Json.read? text).bind ofJson?).isSome = true := by
  rw [Option.isSome_iff_exists]
  constructor
  · rintro ⟨document, writes⟩
    refine ⟨ofDocument document, ?_⟩
    rw [writes_iff.mp writes, Option.bind_some, ofJson?_eq_some_iff]
    exact ⟨document, rfl, rfl⟩
  · rintro ⟨map, found⟩
    obtain ⟨value, reads, decodes⟩ := Option.bind_eq_some_iff.mp found
    obtain ⟨document, rfl, _⟩ := ofJson?_eq_some_iff.mp decodes
    exact ⟨document, writes_iff.mpr reads⟩

/-- **A text is read as its document.** -/
theorem read_of_writes (writes : Writes text document) : read text = ofDocument document := by
  have decoded : ofJson? document.toJson = some (ofDocument document) :=
    ofJson?_eq_some_iff.mpr ⟨document, rfl, rfl⟩
  rw [read, writes_iff.mp writes, Option.bind_some, decoded, Option.getD_some]

/-- **A text that writes no document is read as nothing.** -/
theorem read_of_not_writes (malformed : ∀ document, ¬ Writes text document) : read text = .empty := by
  rw [← not_exists, exists_writes_iff, Option.not_isSome_iff_eq_none] at malformed
  rw [read, malformed, Option.getD_none]

/-! ### The order of a document -/

/-- Whether documents without repetitions differ only in the order of their ports and keys. -/
structure Reordered (first second : Document) : Prop where
  ports : (first.map Prod.fst).Nodup
  keys : ∀ entry ∈ first, (entry.2.map Prod.fst).Nodup
  same : ∃ middle : Document, first.Perm middle ∧
    List.Forall₂ (fun entry other => entry.1 = other.1 ∧ entry.2.Perm other.2) middle second

/-- **In a document without repetitions the order does not matter.** -/
theorem ofDocument_congr {first second : Document} (reordered : Reordered first second) :
    ofDocument first = ofDocument second := by
  obtain ⟨middle, moved, matched⟩ := reordered.same
  have inner : middle.map (fun entry => (entry.1, TextMap.ofList entry.2))
      = second.map fun entry => (entry.1, TextMap.ofList entry.2) := by
    have distinct : ∀ entry ∈ middle, (entry.2.map Prod.fst).Nodup :=
      fun entry member => reordered.keys entry (moved.mem_iff.mpr member)
    clear moved reordered
    induction matched with
    | nil => rfl
    | cons same _ ih =>
      rw [List.forall_mem_cons] at distinct
      rw [List.map_cons, List.map_cons, same.1, TextMap.ofList_perm distinct.1 same.2, ih distinct.2]
  rw [ofDocument, ofDocument, ← inner]
  refine TextMap.ofList_perm ?_ (moved.map _)
  rw [List.map_map]
  exact reordered.ports

/-! ### The strings for a port -/

/-- Whether strings list what pairs say: for each key the last value that it has, as one string each, in the
order of the bytes of the keys. -/
def Lists (pairs : List (String × String)) (strings : List String) : Prop :=
  ∃ entries : List (String × String), strings = entries.map (fun entry => entry.1 ++ "=" ++ entry.2) ∧
    entries.Pairwise (fun first second => Name.utf8 first.1.toList < Name.utf8 second.1.toList) ∧
    ∀ key value, (key, value) ∈ entries ↔ IsLast pairs key value

/-- **The strings for pairs are one for each key, in the order of the bytes of the keys.** -/
theorem lists_strings (pairs : List (String × String)) : Lists pairs (strings (.ofList pairs)) := by
  refine ⟨(TextMap.ofList pairs).entries, rfl, ?_, fun key value => ?_⟩
  · exact (TextMap.ofList pairs).increasing.imp Name.lt_iff_utf8_lt.mp
  · rw [TextMap.mem_entries_iff, TextMap.get?_ofList_eq_some_iff]

end PortText

end ClusterMdns
