import Mathlib.Data.List.Basic

/-!
The parts of a text.

Parts stand between the occurrences of a separator: joined by it they are the text, and none of them holds it
(`Text.Parted`). Every text has its parts in exactly one way, and they are what `List.splitOn` cuts it into.

* `intercalate_cons` and `intercalate_concat`: a joined list from its first part on, and up to its last.
* `not_mem_of_mem_splitOn`: what a text is cut into does not hold the separator.
* `exists_splitOn_append` and `exists_splitOn_prepend`: what is added at an end of a text is added to the part there.
* `parted_iff`: the parts of a text are what it is cut into.
* `Parted.concat` and `Parted.exists_front`: the last part apart from those before it.
-/

namespace ClusterMdns

/-! ### Joined lists -/

section Joining

variable {α : Type} (separator : α)

/-- A joined list: its first part, then each other part after a separator. -/
theorem intercalate_cons (own : List α) (rest : List (List α)) :
    [separator].intercalate (own :: rest) = own ++ rest.flatMap (separator :: ·) := by
  induction rest generalizing own with
  | nil => rw [List.intercalate_singleton, List.flatMap_nil, List.append_nil]
  | cons next rest ih => rw [List.intercalate_cons_cons, ih, List.flatMap_cons, List.append_assoc,
      List.singleton_append, List.cons_append]

/-- A joined list: each part but the last before a separator, then the last. -/
theorem intercalate_concat (front : List (List α)) (last : List α) :
    [separator].intercalate (front ++ [last]) = front.flatMap (· ++ [separator]) ++ last := by
  induction front with
  | nil => exact List.intercalate_singleton
  | cons own front ih =>
    have inhabited : front ++ [last] ≠ [] := List.append_ne_nil_of_right_ne_nil _ (List.cons_ne_nil _ _)
    rw [List.cons_append, List.intercalate_cons_of_ne_nil inhabited, ih, List.flatMap_cons,
      List.append_assoc (own ++ [separator])]

end Joining

namespace Text

variable {separator : Char}

/-! ### Cutting joined and longer texts -/

section Cutting

variable {text added part : List Char} {parts : List (List Char)}

/-- What a text is cut into does not hold the separator. -/
theorem not_mem_of_mem_splitOn (member : part ∈ text.splitOn separator) : separator ∉ part := by
  induction text generalizing part with
  | nil =>
    rw [List.splitOn_nil, List.mem_singleton] at member
    rw [member]
    exact List.not_mem_nil
  | cons c rest ih =>
    rw [List.splitOn_cons_eq_if_modifyHead] at member
    split at member
    case isTrue =>
      rcases List.mem_cons.mp member with rfl | later
      · exact List.not_mem_nil
      · exact ih later
    case isFalse other =>
      obtain ⟨first, more, whole⟩ := List.exists_cons_of_ne_nil (List.splitOn_ne_nil separator rest)
      rw [whole] at member ih
      rcases List.mem_cons.mp member with rfl | later
      · rw [List.mem_cons, not_or]
        exact ⟨fun same => other (beq_iff_eq.mpr same.symm), ih List.mem_cons_self⟩
      · exact ih (List.mem_cons_of_mem _ later)

/-- Joined texts are cut into what each of them is cut into, one text after another. -/
theorem splitOn_intercalate_eq_flatMap (inhabited : parts ≠ []) :
    ([separator].intercalate parts).splitOn separator = parts.flatMap (List.splitOn separator) := by
  induction parts with
  | nil => exact absurd rfl inhabited
  | cons part rest ih =>
    cases rest with
    | nil => rw [List.intercalate_singleton, List.flatMap_singleton]
    | cons next more =>
      rw [List.flatMap_cons, ← ih (List.cons_ne_nil next more), List.intercalate_cons_cons, List.append_assoc,
        List.singleton_append, List.splitOn_append_cons_self]

/-- A text that ends in the separator has an empty part at its end. -/
theorem nil_mem_splitOn (ends : text.getLast? = some separator) : [] ∈ text.splitOn separator := by
  obtain ⟨front, rfl⟩ := List.getLast?_eq_some_iff.mp ends
  rw [List.splitOn_append_cons_self, List.mem_append]
  exact .inr List.mem_cons_self

/-- What is added at the end of a text goes to the last of its parts. -/
theorem exists_splitOn_append (text : List Char) (plain : separator ∉ added) :
    ∃ front last, text.splitOn separator = front ++ [last] ∧
      (text ++ added).splitOn separator = front ++ [last ++ added] := by
  induction text with
  | nil => exact ⟨[], [], rfl, List.splitOn_eq_singleton plain⟩
  | cons c rest ih =>
    obtain ⟨front, last, whole, longer⟩ := ih
    rw [List.cons_append, List.splitOn_cons_eq_if_modifyHead, List.splitOn_cons_eq_if_modifyHead, whole, longer]
    by_cases here : c == separator
    · rw [if_pos here, if_pos here]
      exact ⟨[] :: front, last, rfl, rfl⟩
    · rw [if_neg here, if_neg here]
      -- The character belongs to the first part, which is the last one too if there is no other.
      cases front with
      | nil => exact ⟨[], c :: last, rfl, rfl⟩
      | cons first more => exact ⟨(c :: first) :: more, last, rfl, rfl⟩

/-- What is added before a text goes to the first of its parts. -/
theorem exists_splitOn_prepend (text : List Char) (plain : separator ∉ added) :
    ∃ first more, text.splitOn separator = first :: more ∧
      (added ++ text).splitOn separator = (added ++ first) :: more := by
  induction added with
  | nil =>
    obtain ⟨first, more, whole⟩ := List.exists_cons_of_ne_nil (List.splitOn_ne_nil separator text)
    exact ⟨first, more, whole, whole⟩
  | cons c rest ih =>
    rw [List.mem_cons, not_or] at plain
    obtain ⟨first, more, whole, longer⟩ := ih plain.2
    refine ⟨first, more, whole, ?_⟩
    rw [List.cons_append, List.splitOn_cons_eq_if_modifyHead, if_neg (mt beq_iff_eq.mp (Ne.symm plain.1)), longer]
    rfl

end Cutting

/-! ### The parts of a text -/

/-- The parts of a text: joined by the separator they are the text, and none of them holds it. -/
structure Parted (separator : Char) (text : String) (parts : List String) : Prop where
  whole : (String.singleton separator).intercalate parts = text
  plain : ∀ part ∈ parts, separator ∉ part.toList
  inhabited : parts ≠ []

variable {text : String} {parts : List String}

theorem toList_intercalate_singleton (separator : Char) (parts : List String) :
    ((String.singleton separator).intercalate parts).toList
      = [separator].intercalate (parts.map String.toList) := by
  rw [String.toList_intercalate, String.toList_singleton]

/-- **The parts of a text are what it is cut into.** -/
theorem parted_iff : Parted separator text parts
    ↔ parts.map String.toList = text.toList.splitOn separator := by
  constructor
  · intro parted
    rw [← parted.whole, toList_intercalate_singleton, List.splitOn_intercalate]
    · exact List.forall_mem_map.mpr parted.plain
    · exact mt List.map_eq_nil_iff.mp parted.inhabited
  · intro whole
    refine ⟨?_, ?_, ?_⟩
    · apply String.toList_injective
      rw [toList_intercalate_singleton, whole, List.intercalate_splitOn]
    · intro part member
      exact not_mem_of_mem_splitOn (whole ▸ List.mem_map_of_mem member)
    · rintro rfl
      exact List.splitOn_ne_nil separator text.toList whole.symm

theorem exists_parted (separator : Char) (text : String) : ∃ parts, Parted separator text parts := by
  refine ⟨(text.toList.splitOn separator).map String.ofList, parted_iff.mpr ?_⟩
  rw [List.map_map]
  simp [Function.comp_def]

theorem Parted.unique (parted : Parted separator text parts) {others : List String}
    (again : Parted separator text others) : parts = others :=
  List.map_injective_iff.mpr (fun _ _ same => String.toList_injective same)
    ((parted_iff.mp parted).trans (parted_iff.mp again).symm)

/-- A separator and a text without one add a part at the end. -/
theorem Parted.concat (parted : Parted separator text parts) {last : String} (plain : separator ∉ last.toList) :
    Parted separator (text ++ String.singleton separator ++ last) (parts ++ [last]) := by
  rw [parted_iff] at parted ⊢
  rw [String.toList_append, String.toList_append, String.toList_singleton, List.append_assoc,
    List.singleton_append, List.splitOn_append_cons_self, ← parted, List.splitOn_eq_singleton plain, List.map_append]
  rfl

/-- Without the last one, the parts of a text are those of what stands before the last separator. -/
theorem Parted.exists_front {last : String} (parted : Parted separator text (parts ++ [last]))
    (inhabited : parts ≠ []) :
    ∃ front, text = front ++ String.singleton separator ++ last ∧ Parted separator front parts := by
  refine ⟨(String.singleton separator).intercalate parts, ?_, rfl,
    fun part member => parted.plain part (List.mem_append_left _ member), inhabited⟩
  rw [← parted.whole, String.intercalate_append_of_ne_nil inhabited (List.cons_ne_nil last []),
    String.intercalate_singleton]

end Text

end ClusterMdns
