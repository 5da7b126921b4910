import ClusterMdns.Name.Printer
import ClusterMdns.Proofs.Name.Reading
import ClusterMdns.Proofs.Text.Parts
import Mathlib.Algebra.GroupWithZero.Nat

/-!
The grammar of names.

A text is cut at its dots, after one dot at its end has been taken off (`Name.Cut`). It is a name exactly if
each part has 1 to 63 bytes and all of them, with a byte for the length of each and one at the end, take at
most 255. Nothing is lost on the way: the labels are the bytes of the parts, and joined by dots they are read
as the same name again.

* `Name.cut_iff`: every text is cut in exactly one way.
* `Name.Cut.accepted_iff`: what it takes for the parts of a text to be the labels of a name.
* `Name.read?_concat_dot` and `Name.not_read?_concat_dot`: one dot at the end is optional, two are too many.
* `Name.accepts_grammar`: all of it.
-/

namespace ClusterMdns

namespace Name

open ClusterMdns.Text

/-! ### Cutting a text at its dots -/

/-- How a text is cut: `body` is the text without one dot at its end, if it ends in one, and `parts` are
what stands between the dots of the body. -/
structure Cut (text body : String) (parts : List String) : Prop where
  ends : text = body ++ "." ∨ (text = body ∧ ∀ front, text ≠ front ++ ".")
  parted : ".".intercalate parts = body
  undotted : ∀ part ∈ parts, '.' ∉ part.toList
  inhabited : parts ≠ []

theorem getLast?_eq_dot_iff {text : String} :
    text.toList.getLast? = some '.' ↔ ∃ front, text = front ++ "." := by
  rw [List.getLast?_eq_some_iff]
  constructor
  · rintro ⟨front, whole⟩
    refine ⟨String.ofList front, String.toList_injective ?_⟩
    rw [whole, String.toList_append, String.toList_ofList]
    rfl
  · rintro ⟨front, rfl⟩
    exact ⟨front.toList, String.toList_append⟩

theorem dropTerminator_of_not_ends {text : String} (unended : ∀ front, text ≠ front ++ ".") :
    dropTerminator '.' text.toList = text.toList := by
  rw [dropTerminator, if_neg fun ends => ?_]
  obtain ⟨front, whole⟩ := getLast?_eq_dot_iff.mp ends
  exact unended front whole

theorem toList_dotted (parts : List String) :
    (".".intercalate parts).toList = ['.'].intercalate (parts.map String.toList) :=
  toList_intercalate_singleton '.' parts

/-- **Every text is cut in exactly one way.** -/
theorem cut_iff {text body : String} {parts : List String} :
    Cut text body parts ↔ body.toList = dropTerminator '.' text.toList ∧
      parts.map String.toList = body.toList.splitOn '.' := by
  rw [← parted_iff]
  constructor
  · intro cut
    refine ⟨?_, cut.parted, cut.undotted, cut.inhabited⟩
    rcases cut.ends with rfl | ⟨rfl, unended⟩
    · rw [String.toList_append]
      exact (dropTerminator_concat '.' body.toList).symm
    · exact (dropTerminator_of_not_ends unended).symm
  · rintro ⟨bodied, parted⟩
    refine ⟨?_, parted.whole, parted.plain, parted.inhabited⟩
    by_cases ends : ∃ front, text = front ++ "."
    · obtain ⟨front, rfl⟩ := ends
      left
      rw [String.toList_append] at bodied
      rw [String.toList_injective (bodied.trans (dropTerminator_concat '.' front.toList))]
    · have unended := not_exists.mp ends
      rw [dropTerminator_of_not_ends unended] at bodied
      exact .inr ⟨(String.toList_injective bodied).symm, unended⟩

theorem exists_cut (text : String) : ∃ body parts, Cut text body parts := by
  obtain ⟨parts, parted⟩ := exists_parted '.' (String.ofList (dropTerminator '.' text.toList))
  exact ⟨_, parts, cut_iff.mpr ⟨String.toList_ofList, parted_iff.mp parted⟩⟩

/-! ### The space of the parts -/

theorem length_utf8_toList (part : String) : (utf8 part.toList).length = part.utf8ByteSize := by
  rw [String.utf8ByteSize, ← String.ofList_toList (s := part), String.toByteArray_ofList,
    String.toList_ofList, List.utf8Encode, List.size_toByteArray, utf8]

/-- The bytes of a joined text are the bytes of its parts, joined by the byte of a dot. -/
theorem utf8_intercalate (texts : List (List Char)) :
    utf8 (['.'].intercalate texts) = [46].intercalate (texts.map utf8) := by
  cases texts with
  | nil => rfl
  | cons text rest =>
    rw [List.map_cons, intercalate_cons, intercalate_cons, utf8, List.flatMap_append, List.flatMap_assoc,
      List.flatMap_map]
    rfl

/-- The labels that the parts of a text make fit a message exactly if the parts keep to the limits. -/
theorem fits_iff (parts : List String) :
    (Name.mk (parts.map fun part => utf8 part.toList)).Fits
      ↔ (∀ part ∈ parts, 1 ≤ part.utf8ByteSize ∧ part.utf8ByteSize ≤ 63) ∧
        (parts.map (·.utf8ByteSize + 1)).sum + 1 ≤ 255 := by
  have space : (Name.mk (parts.map fun part => utf8 part.toList)).wireLength
      = (parts.map (·.utf8ByteSize + 1)).sum + 1 := by
    simp only [wireLength, labelsLength, List.map_map, Function.comp_def, length_utf8_toList]
    rfl
  constructor
  · intro fits
    rw [← space]
    refine ⟨fun part member => ?_, fits.whole⟩
    rw [← length_utf8_toList]
    exact fits.labels _ (List.mem_map_of_mem member)
  · rintro ⟨each, whole⟩
    refine ⟨List.forall_mem_map.mpr fun part member => ?_, space ▸ whole⟩
    rw [length_utf8_toList]
    exact each part member

/-! ### Reading -/

variable {text body : String} {parts : List String} {name : Name}

theorem Cut.written_eq (cut : Cut text body parts) :
    written text = parts.map fun part => utf8 part.toList := by
  obtain ⟨bodied, parted⟩ := cut_iff.mp cut
  rw [written, ← bodied, ← parted, List.map_map]
  rfl

/-- A text is read as the name whose labels are the bytes of its parts, if they fit a message. -/
theorem Cut.read?_iff (cut : Cut text body parts) :
    read? text = .ok name ↔ name.labels = parts.map (fun part => utf8 part.toList) ∧ name.Fits := by
  rw [read?_eq_ok_iff, cut.written_eq]

/-- **A text is a name exactly if its parts keep to the limits.** -/
theorem Cut.accepted_iff (cut : Cut text body parts) :
    (∃ name, read? text = .ok name) ↔ body ≠ "" ∧
      (∀ part ∈ parts, 1 ≤ part.utf8ByteSize ∧ part.utf8ByteSize ≤ 63) ∧
      (parts.map (·.utf8ByteSize + 1)).sum + 1 ≤ 255 := by
  rw [← fits_iff]
  constructor
  · rintro ⟨⟨labels⟩, accepted⟩
    obtain ⟨rfl, fits⟩ := cut.read?_iff.mp accepted
    refine ⟨?_, fits⟩
    rintro rfl
    -- The only part of an empty text is empty.
    have parted := (cut_iff.mp cut).2
    obtain ⟨part, rfl, none⟩ := List.map_eq_singleton_iff.mp (show _ = [[]] from parted)
    have positive := (fits.labels (utf8 part.toList) List.mem_cons_self).1
    rw [none] at positive
    exact absurd positive (by decide)
  · rintro ⟨_, fits⟩
    exact ⟨_, cut.read?_iff.mpr ⟨rfl, fits⟩⟩

/-- Names are absolute: their written form ends in a dot. -/
theorem exists_toText_eq (name : Name) : ∃ front, name.toText = front ++ "." := by
  obtain ⟨labels⟩ := name
  rcases List.eq_nil_or_concat labels with rfl | ⟨front, last, rfl⟩
  · exact ⟨"", rfl⟩
  · refine ⟨String.ofList ((front.flatMap fun label => labelChars label ++ ['.'])
      ++ labelChars last), ?_⟩
    rw [toText, if_neg (by simp), List.concat_eq_append, List.flatMap_append, List.flatMap_singleton,
      ← List.append_assoc, String.ofList_append]

/-- **One dot at the end is optional.** -/
theorem read?_concat_dot (unended : ∀ front, text ≠ front ++ ".") :
    read? (text ++ ".") = .ok name ↔ read? text = .ok name := by
  have same : written (text ++ ".") = written text := by
    unfold written
    rw [dropTerminator_of_not_ends unended, String.toList_append]
    exact congrArg (fun body => (body.splitOn '.').map utf8) (dropTerminator_concat '.' text.toList)
  rw [read?_eq_ok_iff, read?_eq_ok_iff, same]

/-- **Two dots at the end are too many.** -/
theorem not_read?_concat_dot (ended : ∃ front, text = front ++ ".") :
    read? (text ++ ".") ≠ .ok name := by
  intro accepted
  obtain ⟨labels, fits⟩ := read?_eq_ok_iff.mp accepted
  have empty : [] ∈ name.labels := by
    rw [labels, written, String.toList_append]
    refine List.mem_map.mpr ⟨[], ?_, rfl⟩
    rw [show ".".toList = ['.'] from rfl, dropTerminator_concat]
    exact nil_mem_splitOn (getLast?_eq_dot_iff.mpr ended)
  exact absurd (fits.labels [] empty).1 (by decide)

/-- A name is read from the body of its text too. -/
theorem Cut.read?_body (cut : Cut text body parts) (accepted : read? text = .ok name) :
    read? body = .ok name := by
  rcases cut.ends with rfl | ⟨rfl, _⟩
  · refine (read?_concat_dot fun front ended => ?_).mp accepted
    exact not_read?_concat_dot ⟨front, ended⟩ accepted
  · exact accepted

/-- **The grammar of names.** A text is a name exactly if, without one dot at its end, it is not empty, each
part between its dots has 1 to 63 bytes, and the parts take at most 255 bytes with one more for each and one
for the end. The name is absolute, its labels are the bytes of the parts in their order, and joined by dots
they are read as the same name. Whether a dot ends the text does not matter, but there may not be two. -/
theorem accepts_grammar (text : String) : ∃ body parts, Cut text body parts ∧
    ((∃ name, read? text = .ok name) ↔ body ≠ "" ∧
      (∀ part ∈ parts, 1 ≤ part.utf8ByteSize ∧ part.utf8ByteSize ≤ 63) ∧
      (parts.map (·.utf8ByteSize + 1)).sum + 1 ≤ 255) ∧
    (∀ name, read? text = .ok name →
      name.labels = parts.map (fun part => utf8 part.toList) ∧
      (∃ front, name.toText = front ++ ".") ∧
      [46].intercalate name.labels = utf8 body.toList ∧ read? body = .ok name) ∧
    ((∀ front, text ≠ front ++ ".") →
      ∀ name, read? (text ++ ".") = .ok name ↔ read? text = .ok name) ∧
    ((∃ front, text = front ++ ".") → ∀ name, read? (text ++ ".") ≠ .ok name) := by
  obtain ⟨body, parts, cut⟩ := exists_cut text
  refine ⟨body, parts, cut, cut.accepted_iff, fun name accepted => ?_,
    fun unended _ => read?_concat_dot unended, fun ended _ => not_read?_concat_dot ended⟩
  have labels := (cut.read?_iff.mp accepted).1
  refine ⟨labels, exists_toText_eq name, ?_, cut.read?_body accepted⟩
  rw [labels, ← cut.parted, toList_dotted, utf8_intercalate, List.map_map]
  rfl

/-- A text with a dot at its end, a label of 63 bytes, and one of three bytes for two characters. -/
theorem accepts_grammar_of_longest_label :
    let letters : String := String.ofList (List.replicate 63 'a')
    let text : String := "aé." ++ letters ++ ".local"
    let name : Name := ⟨[[97, 195, 169], List.replicate 63 97, localLabel]⟩
    (∀ front, text ≠ front ++ ".") ∧ read? text = .ok name ∧
      (∃ parts, ".".intercalate parts = text ∧ name.labels = parts.map fun part => utf8 part.toList) ∧
      read? (text ++ ".") = .ok name ∧ (∃ front, text ++ "." = front ++ ".") ∧
      ∀ other, read? (text ++ "." ++ ".") ≠ .ok other := by
  intro letters text name
  have unended : ∀ front, text ≠ front ++ "." := by
    intro front ended
    exact absurd (getLast?_eq_dot_iff.mpr ⟨front, ended⟩) (by decide)
  have accepted : read? text = .ok name := by decide +kernel
  obtain ⟨body, parts, cut, _, lossless, optional, _⟩ := accepts_grammar text
  obtain ⟨_, _, _, _, _, _, refused⟩ := accepts_grammar (text ++ ".")
  have whole : text = body := (cut.ends.resolve_left (unended body)).1
  exact ⟨unended, accepted, ⟨parts, cut.parted.trans whole.symm, (lossless name accepted).1⟩,
    (optional unended name).mpr accepted, ⟨text, rfl⟩, refused ⟨text, rfl⟩⟩

end Name

end ClusterMdns
