import ClusterMdns.Proofs.Cluster.Contents
import ClusterMdns.Proofs.Cluster.PortTexts

/-!
What the text records of a service say, told from the text of its annotation.

The annotation is read once for all ports. Either it writes a document, and then each port has the strings of its
last occurrence in it, or it is malformed somewhere, and then no port has any. What the service asks for depends
on the document alone, so that texts of one document, or of documents that differ only in their order, have the
same records.

* `Service.strings_of_writes` and `Service.strings_of_not_writes`: the strings for each port in either case.
* `Service.ofService_withText`: what a service asks for, as far as it depends on the text.
* `Service.texts_all_or_nothing`: all of it together, with the records of the ports.
-/

namespace ClusterMdns.Service

open Advertisement

/-! ### Strings for a port -/

section Strings

variable {profile : Profile} {text : String}

theorem strings_of_annotated (annotated : profile.annotations.get? textKey = some text) (publishAll : Bool)
    (port : String) :
    (ofService publishAll profile).strings port
      = (((PortText.read text).get? port).map PortText.strings).getD [] := by
  show (((((profile.annotations.get? textKey).map PortText.read).getD .empty).get? port).map
    PortText.strings).getD [] = _
  rw [annotated, Option.map_some, Option.getD_some]

theorem eligible_of_annotated (annotated : profile.annotations.get? textKey = some text)
    (publishAll : Bool) : (ofService publishAll profile).eligible = true := by
  have marked : isMarked profile = true := by
    refine (isMarked_iff profile).mpr ⟨textKey, by decide, ?_⟩
    rw [TextMap.mem_keys_iff, TextMap.contains, annotated, Option.isSome_some]
  show (publishAll || isMarked profile) = true
  rw [marked, Bool.or_true]

/-- **A port that is named has the strings of its last occurrence, and any other port none.** -/
theorem strings_of_writes (annotated : profile.annotations.get? textKey = some text) (publishAll : Bool)
    {document : PortText.Document} (writes : PortText.Writes text document) (port : String) :
    (port ∈ document.map Prod.fst → ∃ pairs, IsLast document port pairs ∧
      PortText.Lists pairs ((ofService publishAll profile).strings port)) ∧
    (port ∉ document.map Prod.fst → (ofService publishAll profile).strings port = []) := by
  rw [strings_of_annotated annotated, PortText.read_of_writes writes]
  constructor
  · intro named
    obtain ⟨pairs, last⟩ := exists_isLast named
    rw [PortText.get?_ofDocument last]
    exact ⟨pairs, last, PortText.lists_strings pairs⟩
  · intro unnamed
    rw [PortText.get?_ofDocument_eq_none unnamed]
    rfl

/-- **No port has strings if the text is malformed anywhere.** -/
theorem strings_of_not_writes (annotated : profile.annotations.get? textKey = some text) (publishAll : Bool)
    (malformed : ∀ document, ¬ PortText.Writes text document) (port : String) :
    (ofService publishAll profile).strings port = [] := by
  rw [strings_of_annotated annotated, PortText.read_of_not_writes malformed]
  rfl

end Strings

/-! ### Services that differ in the text only -/

/-- A service with a text for its ports. -/
def Profile.withText (profile : Profile) (text : String) : Profile :=
  { profile with annotations := profile.annotations.insert textKey text }

variable (profile : Profile) (text : String)

theorem Profile.get?_withText {key : String} (different : textKey ≠ key) :
    (profile.withText text).annotations.get? key = profile.annotations.get? key := by
  rw [withText, TextMap.get?_insert, if_neg different]

theorem Profile.get?_withText_textKey :
    (profile.withText text).annotations.get? textKey = some text := by
  rw [withText, TextMap.get?_insert, if_pos rfl]

/-- **What a service asks for, as far as it depends on the text**: nothing but the strings. -/
theorem ofService_withText (publishAll : Bool) :
    ofService publishAll (profile.withText text)
      = { ofService publishAll profile with eligible := true, texts := PortText.read text } := by
  have annotated := profile.get?_withText_textKey text
  have eligible : (publishAll || isMarked (profile.withText text)) = true :=
    eligible_of_annotated annotated publishAll
  unfold ofService
  dsimp only
  rw [eligible, annotated, profile.get?_withText text (show textKey ≠ hostnameKey by decide),
    profile.get?_withText text (show textKey ≠ instanceKey by decide)]
  rfl

/-- **A service with malformed text has the bundle of each port, with one empty string as its text.** -/
theorem portRecords_of_not_writes {profile : Profile} {text : String} {host : Name} {port : ServicePort}
    {finding : Finding} (annotated : profile.annotations.get? textKey = some text) (publishAll : Bool)
    (malformed : ∀ document, ¬ PortText.Writes text document) (finds : Finds profile port finding)
    (accepted : Name.read? profile.hostname = .ok host) :
    portRecords (ofService publishAll profile) (portOf port) = finding.records host [""] := by
  rw [portRecords_of_finds accepted publishAll finds, ← textOf_strings publishAll,
    strings_of_not_writes annotated publishAll malformed]
  rfl

/-- **The text of the ports counts as a whole or not at all, and its order does not matter.** Whatever the text,
the service is eligible. If the text writes a document, each port named in it has one string for each key of its
last occurrence, with the last value of the key and in the order of the bytes of the keys, and no other port has
any. In every other case no port has any, and the bundle of each port has a single empty string as its text.
Texts of documents without repetitions that differ only in their order, and so in their separators, ask for the
same and give each port the same records, and the service the same. -/
theorem texts_all_or_nothing (profile : Profile) (publishAll : Bool) :
    (∀ text, profile.annotations.get? textKey = some text →
      let asked := ofService publishAll profile
      asked.eligible = true ∧
      (∀ document, PortText.Writes text document → ∀ port,
        (port ∈ document.map Prod.fst →
          ∃ pairs, IsLast document port pairs ∧ PortText.Lists pairs (asked.strings port)) ∧
        (port ∉ document.map Prod.fst → asked.strings port = [])) ∧
      ((∀ document, ¬ PortText.Writes text document) →
        (∀ port, asked.strings port = []) ∧
        ∀ port finding host, Finds profile port finding → Name.read? profile.hostname = .ok host →
          portRecords asked (portOf port) = finding.records host [""])) ∧
    ∀ first second document reordered, PortText.Writes first document →
      PortText.Writes second reordered → PortText.Reordered document reordered →
      ofService publishAll (profile.withText first) = ofService publishAll (profile.withText second) ∧
      (∀ port, portRecords (ofService publishAll (profile.withText first)) port
        = portRecords (ofService publishAll (profile.withText second)) port) ∧
      ∀ settings, (profile.withText first).records settings = (profile.withText second).records settings := by
  constructor
  · intro text annotated asked
    refine ⟨eligible_of_annotated annotated publishAll,
      fun document writes => strings_of_writes annotated publishAll writes, fun malformed => ?_⟩
    exact ⟨strings_of_not_writes annotated publishAll malformed,
      fun port finding host => portRecords_of_not_writes annotated publishAll malformed⟩
  · intro first second document reordered writes rewrites same
    have read : PortText.read first = PortText.read second := by
      rw [PortText.read_of_writes writes, PortText.read_of_writes rewrites, PortText.ofDocument_congr same]
    have asked : ∀ publishAll, ofService publishAll (profile.withText first)
        = ofService publishAll (profile.withText second) := by
      intro publishAll
      rw [ofService_withText, ofService_withText, read]
    refine ⟨asked publishAll, fun port => by rw [asked], fun settings => ?_⟩
    unfold Profile.records
    rw [asked]
    rfl

/-- A text with repetitions, one with a number as a value, and two texts of one document in different orders,
one of which spells a key with an escape. -/
theorem texts_all_or_nothing_with_repetitions :
    let profile : Profile := ⟨"app", "web", .loadBalancer, none, ["192.0.2.7"], [], .empty⟩
    let repeated := "\x7b\"http\": \x7b\"z\": \"1\"\x7d, \"dns\": \x7b\x7d, \"http\": "
      ++ "\x7b\"b\": \"x\", \"a\": \"2\", \"b\": \"y\"\x7d\x7d"
    let document : PortText.Document :=
      [("http", [("z", "1")]), ("dns", []), ("http", [("b", "x"), ("a", "2"), ("b", "y")])]
    let malformed := "\x7b\"http\": \x7b\"a\": \"1\"\x7d, \"dns\": \x7b\"b\": 2\x7d\x7d"
    let first := "\x7b\"http\":\x7b\"a\":\"1\",\"b\":\"2\"\x7d,\"dns\":\x7b\x7d\x7d"
    let second := "\x7b\"dns\": \x7b\x7d, \"http\": \x7b\"b\": \"2\", \"\\u0061\": \"1\"\x7d\x7d\n"
    let label (text : String) : Label := Name.utf8 text.toList
    let host : Name := ⟨[label "app", label "web", label "local"]⟩
    let group : Name := ⟨[label "_http", label "_tcp", label "local"]⟩
    let owner : Name := ⟨label "web/app" :: group.labels⟩
    (∃ pairs, IsLast document "http" pairs ∧
      PortText.Lists pairs ((ofService false (profile.withText repeated)).strings "http")) ∧
    (ofService false (profile.withText repeated)).strings "http" = ["a=2", "b=y"] ∧
    (ofService false (profile.withText malformed)).eligible = true ∧
    (ofService false (profile.withText malformed)).strings "http" = [] ∧
    portRecords (ofService false (profile.withText malformed)) (portOf ⟨some "http", 80, none⟩)
      = [.built group (.ptr owner), .built owner (.srv 0 0 80 host), .built owner (.txt [""])] ∧
    ofService false (profile.withText first) = ofService false (profile.withText second) := by
  intro profile repeated document malformed first second label host group owner
  have writes : PortText.Writes repeated document := by decide +kernel
  have unwritten : ∀ document, ¬PortText.Writes malformed document :=
    not_exists.mp (mt PortText.exists_writes_iff.mp (by decide +kernel))
  have finds : Finds (profile.withText malformed) ⟨some "http", 80, none⟩
      ⟨"http", 80, "tcp", group, owner⟩ :=
    ⟨by decide +kernel, rfl, by decide, by decide, by decide, .unnamed, by decide +kernel,
      by decide +kernel⟩
  have accepted : Name.read? (profile.withText malformed).hostname = .ok host := by decide +kernel
  have reordered : PortText.Reordered [("http", [("a", "1"), ("b", "2")]), ("dns", [])]
      [("dns", []), ("http", [("b", "2"), ("a", "1")])] :=
    ⟨by decide, by decide, [("dns", []), ("http", [("a", "1"), ("b", "2")])], .swap ..,
      .cons ⟨rfl, .refl _⟩ (.cons ⟨rfl, .swap ..⟩ .nil)⟩
  have told := (texts_all_or_nothing (profile.withText repeated) false).1 repeated
    (profile.get?_withText_textKey repeated)
  have refused := (texts_all_or_nothing (profile.withText malformed) false).1 malformed
    (profile.get?_withText_textKey malformed)
  have same := (texts_all_or_nothing profile false).2 first second _ _ (by decide +kernel)
    (by decide +kernel) reordered
  refine ⟨(told.2.1 document writes "http").1 (by decide), by decide +kernel, refused.1,
    (refused.2.2 unwritten).1 "http", ?_, same.1⟩
  exact (refused.2.2 unwritten).2 _ _ host finds accepted

end ClusterMdns.Service
