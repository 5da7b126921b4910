import ClusterMdns.Proofs.Cluster.TextRecords
import Mathlib.Data.List.Forall2

/-!
What the strings for a port tell about the pairs that are configured for it.

A pair is published as one string, its key and its value on the two sides of an equals sign. A value may hold
such signs and so may a key, and where a key does, the string can be cut into a key and a value at another of its
signs as well (`Recuts`). Nothing else is lost.

* `PortText.flattened_eq_iff`: pairs with one string are equal or cuts of it at different signs.
* `PortText.cut_flattened_iff`: cutting at the first sign gives a pair back exactly if its key holds none.
* `Service.pairs_kept_apart_but_for_recuts`: both for all pairs of a port.
-/

namespace ClusterMdns

namespace PortText

/-! ### One pair -/

/-- Whether two pairs cut one string at different equals signs, the first pair at the later one. -/
def Recuts (first second : String × String) : Prop :=
  ∃ middle, first.1 = second.1 ++ "=" ++ middle ∧ second.2 = middle ++ "=" ++ first.2

variable {first second pair : String × String}

theorem toList_flattened (pair : String × String) :
    (flattened pair).toList = pair.1.toList ++ '=' :: pair.2.toList := by
  rw [flattened, String.toList_append, String.toList_append, List.append_assoc]
  rfl

theorem Recuts.flattened_eq (recuts : Recuts first second) : flattened first = flattened second := by
  obtain ⟨middle, key, value⟩ := recuts
  simp only [flattened, key, value, String.append_assoc]

/-- Where the key of one pair goes on in the other, the pairs are equal or the longer key takes in a sign. -/
theorem eq_or_recuts {rest : List Char} (key : second.1.toList = first.1.toList ++ rest)
    (value : '=' :: first.2.toList = rest ++ '=' :: second.2.toList) :
    first = second ∨ Recuts second first := by
  cases rest with
  | nil =>
    rw [List.append_nil] at key
    exact .inl (Prod.ext (String.toList_inj.mp key.symm) (String.toList_inj.mp (List.cons.inj value).2))
  | cons sign middle =>
    obtain ⟨rfl, following⟩ := List.cons.inj value
    refine .inr ⟨String.ofList middle, String.toList_inj.mp ?_, String.toList_inj.mp ?_⟩
    · simp only [key, String.toList_append, String.toList_ofList, List.append_assoc]
      rfl
    · simp only [following, String.toList_append, String.toList_ofList, List.append_assoc, List.append_eq]
      rfl

/-- **Pairs with one string are equal, or they cut it at different equals signs.** -/
theorem flattened_eq_iff :
    flattened first = flattened second ↔ first = second ∨ Recuts first second ∨ Recuts second first := by
  constructor
  · intro same
    rw [← String.toList_inj, toList_flattened, toList_flattened, List.append_eq_append_iff] at same
    obtain ⟨rest, key, value⟩ | ⟨rest, key, value⟩ := same
    · exact (eq_or_recuts key value).imp_right .inr
    · exact (eq_or_recuts key value).imp .symm .inl
  · rintro (rfl | recuts | recuts)
    · rfl
    · exact recuts.flattened_eq
    · exact recuts.flattened_eq.symm

/-- A string cut at its first equals sign. -/
def cut (text : String) : String × String :=
  (String.ofList (text.toList.takeWhile (· != '=')),
    String.ofList ((text.toList.dropWhile (· != '=')).drop 1))

/-- **Cutting at the first equals sign gives a pair back exactly if its key holds none.** -/
theorem cut_flattened_iff : cut (flattened pair) = pair ↔ '=' ∉ pair.1.toList := by
  constructor
  · intro kept sign
    have key : String.ofList ((flattened pair).toList.takeWhile (· != '=')) = pair.1 :=
      congrArg Prod.fst kept
    rw [← key, String.toList_ofList] at sign
    exact Bool.false_ne_true (List.all_eq_true.mp List.all_takeWhile '=' sign)
  · intro plain
    have unsigned : ∀ c ∈ pair.1.toList, (c != '=') = true :=
      fun c member => bne_iff_ne.mpr fun same => plain (same ▸ member)
    rw [cut, toList_flattened, List.takeWhile_append_of_pos unsigned, List.dropWhile_append_of_pos unsigned,
      List.takeWhile_cons_of_neg (by decide), List.dropWhile_cons_of_neg (by decide), List.append_nil]
    exact Prod.ext String.ofList_toList String.ofList_toList

end PortText

/-! ### All pairs of a port -/

namespace Service

variable {profile : Profile} {text other port : String} {first second : TextMap String}

/-- Whether a text that counts configures pairs for a port. -/
def Configures (text port : String) (map : TextMap String) : Prop :=
  ∃ document pairs, PortText.Writes text document ∧ IsLast document port pairs ∧ map = .ofList pairs

theorem Configures.strings (configures : Configures text port first) (profile : Profile) (publishAll : Bool) :
    (Advertisement.ofService publishAll (profile.withText text)).strings port = PortText.strings first := by
  obtain ⟨document, pairs, writes, last, rfl⟩ := configures
  rw [strings_of_annotated (profile.get?_withText_textKey text), PortText.read_of_writes writes,
    PortText.get?_ofDocument last]
  rfl

/-- Whether two pairs are equal or cut one string at different equals signs. -/
def SameString (pair other : String × String) : Prop :=
  pair = other ∨ PortText.Recuts pair other ∨ PortText.Recuts other pair

theorem strings_eq_iff : PortText.strings first = PortText.strings second
    ↔ List.Forall₂ SameString first.entries second.entries := by
  rw [PortText.strings, PortText.strings, ← List.forall₂_eq_eq_eq, List.forall₂_map_left_iff,
    List.forall₂_map_right_iff]
  simp only [PortText.flattened_eq_iff]
  rfl

/-- **Cutting each string at its first equals sign gives the pairs back exactly if no key holds one.** -/
theorem map_cut_strings_iff : (PortText.strings first).map PortText.cut = first.entries
    ↔ ∀ key ∈ first.keys, '=' ∉ key.toList := by
  calc (PortText.strings first).map PortText.cut = first.entries
      ↔ first.entries.map (PortText.cut ∘ PortText.flattened) = first.entries.map id := by
        rw [PortText.strings, List.map_map, List.map_id]
    _ ↔ ∀ pair ∈ first.entries, '=' ∉ pair.1.toList := by
        rw [List.map_inj_left]
        exact forall_congr' fun pair => imp_congr_right fun _ => PortText.cut_flattened_iff
    _ ↔ ∀ key ∈ first.keys, '=' ∉ key.toList := by rw [TextMap.keys, List.forall_mem_map]

/-- Without equals signs in the keys, the strings tell what the pairs are. -/
theorem eq_of_strings_eq (plain : ∀ key ∈ first.keys, '=' ∉ key.toList)
    (others : ∀ key ∈ second.keys, '=' ∉ key.toList)
    (same : PortText.strings first = PortText.strings second) : first = second := by
  have entries : first.entries = second.entries := by
    rw [← map_cut_strings_iff.mpr plain, same, map_cut_strings_iff.mpr others]
  cases first
  cases second
  cases entries
  rfl

/-- **The strings for a port tell its pairs apart, but for cuts of one string.** For two texts that count and
configure pairs for a port, the strings for the port are equal exactly if the pairs are equally many and, in the
order of their keys, each pair is the other or cuts the same string at another equals sign. So they are different
for different pairs where no key holds an equals sign. Cutting each string at its first equals sign gives the
pairs back exactly if no key holds one. -/
theorem pairs_kept_apart_but_for_recuts (profile : Profile) (publishAll : Bool) {text other port : String}
    {first second : TextMap String} (configures : Configures text port first)
    (reconfigures : Configures other port second) :
    let strings := fun text => (Advertisement.ofService publishAll (profile.withText text)).strings port
    (strings text = strings other ↔ List.Forall₂ SameString first.entries second.entries) ∧
    ((∀ key ∈ first.keys ++ second.keys, '=' ∉ key.toList) → first ≠ second →
      strings text ≠ strings other) ∧
    ((strings text).map PortText.cut = first.entries ↔ ∀ key ∈ first.keys, '=' ∉ key.toList) := by
  intro strings
  have told : strings text = PortText.strings first := configures.strings profile publishAll
  have retold : strings other = PortText.strings second := reconfigures.strings profile publishAll
  rw [told, retold]
  refine ⟨strings_eq_iff, fun plain different same => different ?_, map_cut_strings_iff⟩
  rw [List.forall_mem_append] at plain
  exact eq_of_strings_eq plain.1 plain.2 same

/-- Texts with equals signs in the values only. -/
theorem pairs_kept_apart_but_for_recuts_with_signs_in_values :
    let profile : Profile := ⟨"app", "web", .loadBalancer, none, ["192.0.2.7"], [], .empty⟩
    let text := "\x7b\"http\": \x7b\"v\": \"2\", \"path\": \"/?q=1\"\x7d\x7d"
    let other := "\x7b\"http\": \x7b\"path\": \"/?q\", \"v\": \"2\"\x7d\x7d"
    let first := TextMap.ofList [("v", "2"), ("path", "/?q=1")]
    let second := TextMap.ofList [("path", "/?q"), ("v", "2")]
    let strings := fun text => (Advertisement.ofService false (profile.withText text)).strings "http"
    Configures text "http" first ∧ Configures other "http" second ∧ strings text = ["path=/?q=1", "v=2"] ∧
      strings text ≠ strings other ∧ (strings text).map PortText.cut = first.entries := by
  intro profile text other first second strings
  have configures : Configures text "http" first :=
    ⟨[("http", [("v", "2"), ("path", "/?q=1")])], _, by decide +kernel, ⟨[], [], rfl, nofun⟩, rfl⟩
  have reconfigures : Configures other "http" second :=
    ⟨[("http", [("path", "/?q"), ("v", "2")])], _, by decide +kernel, ⟨[], [], rfl, nofun⟩, rfl⟩
  have different : first ≠ second :=
    fun same => absurd (congrArg TextMap.entries same) (by decide +kernel)
  obtain ⟨_, apart, cut⟩ := pairs_kept_apart_but_for_recuts profile false configures reconfigures
  exact ⟨configures, reconfigures, by decide +kernel, apart (by decide +kernel) different,
    cut.mpr (by decide +kernel)⟩

/-- **Pairs are not always kept apart.** Different pairs, a sign in the key of one and in the value of the other,
have the same string, and cutting it at its first sign gives those of the second text for both. -/
theorem pairs_not_always_kept_apart :
    let profile : Profile := ⟨"app", "web", .loadBalancer, none, ["192.0.2.7"], [], .empty⟩
    let text := "\x7b\"http\": \x7b\"a=b\": \"c\"\x7d\x7d"
    let other := "\x7b\"http\": \x7b\"a\": \"b=c\"\x7d\x7d"
    let first := TextMap.ofList [("a=b", "c")]
    let second := TextMap.ofList [("a", "b=c")]
    let strings := fun text => (Advertisement.ofService false (profile.withText text)).strings "http"
    Configures text "http" first ∧ Configures other "http" second ∧
      first.entries ≠ [] ∧ second.entries ≠ [] ∧ first ≠ second ∧
      strings text = ["a=b=c"] ∧ strings other = ["a=b=c"] ∧
      (strings text).map PortText.cut ≠ first.entries := by
  intro profile text other first second strings
  have configures : Configures text "http" first :=
    ⟨[("http", [("a=b", "c")])], _, by decide +kernel, ⟨[], [], rfl, nofun⟩, rfl⟩
  have reconfigures : Configures other "http" second :=
    ⟨[("http", [("a", "b=c")])], _, by decide +kernel, ⟨[], [], rfl, nofun⟩, rfl⟩
  have different : first ≠ second :=
    fun same => absurd (congrArg TextMap.entries same) (by decide +kernel)
  exact ⟨configures, reconfigures, by decide +kernel, by decide +kernel, different, by decide +kernel,
    by decide +kernel, by decide +kernel⟩

end Service

end ClusterMdns
