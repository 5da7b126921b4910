import ClusterMdns.Text.Blank
import Mathlib.Data.List.DropRight

/-!
Texts without the blanks at their ends.

A trimmed text has no blank at either end (`Text.Bare`), and all that is gone are blanks around it
(`Text.Trimmed`). This says what it is: there is no other text of which both hold.

* `trim_prepend` and `trim_append`: blanks around a text do not count.
* `trim_eq_self` and `bare_trim`: nothing is taken from a text without blanks at its ends, and nothing is left to
  take from a trimmed one.
* `trimmed_iff`: what is left of a text.
-/

namespace ClusterMdns.Text

/-- Whether a text has no blank at either end. -/
structure Bare (text : List Char) : Prop where
  starts : ∀ c ∈ text.head?, isBlank c = false
  ends : ∀ c ∈ text.getLast?, isBlank c = false

theorem bare_iff (text : List Char) : Bare text
    ↔ text.head?.all (fun c => !isBlank c) = true ∧ text.getLast?.all (fun c => !isBlank c) = true := by
  simp only [Option.all_eq_true, Bool.not_eq_true']
  exact ⟨fun bare => ⟨bare.starts, bare.ends⟩, fun both => ⟨both.1, both.2⟩⟩

instance (text : List Char) : Decidable (Bare text) := decidable_of_iff _ (bare_iff text).symm

variable {text before after : List Char}

theorem trim_prepend (text : List Char) (blank : ∀ c ∈ before, isBlank c = true) :
    trim (before ++ text) = trim text := by
  rw [trim, trimStart, List.dropWhile_append_of_pos blank]
  rfl

theorem trimEnd_append (text : List Char) (blank : ∀ c ∈ after, isBlank c = true) :
    trimEnd (text ++ after) = trimEnd text := by
  have turned : ∀ c ∈ after.reverse, isBlank c = true := fun c member => blank c (List.mem_reverse.mp member)
  rw [trimEnd, List.reverse_append, List.dropWhile_append_of_pos turned]
  rfl

theorem trim_append (text : List Char) (blank : ∀ c ∈ after, isBlank c = true) :
    trim (text ++ after) = trim text := by
  rw [trim, trim, trimStart, List.dropWhile_append]
  split
  case isTrue nothing =>
    -- There is nothing but blanks.
    rw [List.dropWhile_eq_nil_iff.mpr blank, trimStart, List.isEmpty_iff.mp nothing]
  case isFalse => exact trimEnd_append _ blank

/-- **Nothing is taken from a text without blanks at its ends.** -/
theorem trim_eq_self (bare : Bare text) : trim text = text := by
  have starts : trimStart text = text := by
    cases text with
    | nil => rfl
    | cons c rest => exact List.dropWhile_cons_of_neg (by simp [bare.starts c rfl])
  rw [trim, starts]
  refine List.rdropWhile_eq_self_iff.mpr fun inhabited => ?_
  simp [bare.ends _ (List.getLast?_eq_some_getLast inhabited)]

/-- What is cut off is blank. -/
theorem exists_eq_trim_framed (text : List Char) :
    ∃ before after, text = before ++ trim text ++ after ∧ ∀ c ∈ before ++ after, isBlank c = true := by
  refine ⟨text.takeWhile isBlank, (trimStart text).rtakeWhile isBlank, ?_, ?_⟩
  · have rest : trim text ++ (trimStart text).rtakeWhile isBlank = trimStart text :=
      List.rdropWhile_append_rtakeWhile
    rw [List.append_assoc, rest]
    exact List.takeWhile_append_dropWhile.symm
  · rw [List.forall_mem_append]
    exact ⟨List.all_eq_true.mp List.all_takeWhile, fun c => List.mem_rtakeWhile_imp⟩

theorem isBlank_of_mem_head? (text : List Char) {c : Char} (first : c ∈ (text.dropWhile isBlank).head?) :
    isBlank c = false := by
  have stops := List.head?_dropWhile_not isBlank text
  rw [Option.mem_def.mp first] at stops
  exact stops

/-- **A trimmed text has no blank at either end.** -/
theorem bare_trim (text : List Char) : Bare (trim text) := by
  constructor
  · intro c first
    -- The first character is that of the text without the blanks before it.
    obtain ⟨rest, whole⟩ : trim text <+: trimStart text := List.rdropWhile_prefix isBlank (trimStart text)
    refine isBlank_of_mem_head? text ?_
    rw [← trimStart, ← whole, Option.mem_def, List.head?_append, Option.mem_def.mp first, Option.some_or]
  · intro c last
    rw [trim, trimEnd, List.getLast?_reverse] at last
    exact isBlank_of_mem_head? _ last

/-- A text without the blanks at its ends: `core` has none there, and what the text has more are blanks around
it. -/
structure Trimmed (text core : String) : Prop where
  framed : ∃ before after, text = before ++ core ++ after ∧
    ∀ c ∈ before.toList ++ after.toList, isBlank c = true
  bare : Bare core.toList

/-- **What is left of a text without the blanks at its ends.** -/
theorem trimmed_iff {text core : String} : Trimmed text core ↔ core.toList = trim text.toList := by
  constructor
  · rintro ⟨⟨before, after, rfl, blank⟩, bare⟩
    rw [List.forall_mem_append] at blank
    rw [String.toList_append, String.toList_append, trim_append _ blank.2, trim_prepend _ blank.1,
      trim_eq_self bare]
  · intro left
    obtain ⟨before, after, whole, blank⟩ := exists_eq_trim_framed text.toList
    refine ⟨⟨String.ofList before, String.ofList after, String.toList_injective ?_, ?_⟩, left ▸ bare_trim _⟩
    · simp only [String.toList_append, String.toList_ofList, left, ← whole]
    · simpa only [String.toList_ofList] using blank

theorem exists_trimmed (text : String) : ∃ core, Trimmed text core :=
  ⟨_, trimmed_iff.mpr String.toList_ofList⟩

end ClusterMdns.Text
