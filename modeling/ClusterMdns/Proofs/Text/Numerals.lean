import ClusterMdns.Number.Reader

/-!
Which characters the text of a number has.

A number is either the name of a special value or written with digits, signs, a point and a mark for a power of
ten (`IsNumeric`). Each reader is followed through the text that it takes, so that a text with any other character
is no number.

* `isNumeric_of_integer?`: an integer is written with such characters.
* `isNumeric_of_binary64?`: so is any other number, unless it is named.
-/

namespace ClusterMdns.Number

open ClusterMdns.Text

/-- Whether a character may stand in a number that is written without a name. -/
def IsNumeric (c : Char) : Prop := isDecimal c = true ∨ c ∈ ['+', '-', '.', 'e', 'E']

theorem isDecimal_of_naturalFrom? {digits : List Char} {before n : Nat}
    (reads : naturalFrom? 10 before digits = some n) : ∀ c ∈ digits, isDecimal c = true := by
  induction digits generalizing before with
  | nil => exact fun _ member => absurd member List.not_mem_nil
  | cons c rest ih =>
    obtain ⟨worth, isDigit, reads⟩ := Option.bind_eq_some_iff.mp reads
    refine List.forall_mem_cons.mpr ⟨?_, ih reads⟩
    rw [isDecimal, isDigit, Option.isSome_some]

theorem isDecimal_of_natural? {digits : List Char} {n : Nat} (reads : natural? 10 digits = some n) :
    ∀ c ∈ digits, isDecimal c = true := by
  unfold natural? at reads
  split at reads
  · cases reads
  · exact isDecimal_of_naturalFrom? reads

theorem isNumeric_of_signed {text : List Char} (rest : ∀ c ∈ (signed text).2, IsNumeric c) :
    ∀ c ∈ text, IsNumeric c := by
  unfold signed at rest
  split at rest
  · exact List.forall_mem_cons.mpr ⟨.inr (by decide), rest⟩
  · exact List.forall_mem_cons.mpr ⟨.inr (by decide), rest⟩
  · exact rest

theorem isNumeric_of_integer? {text : List Char} {n : Int} (reads : integer? text = some n) :
    ∀ c ∈ text, IsNumeric c := by
  obtain ⟨_, reads, _⟩ := Option.map_eq_some_iff.mp reads
  obtain ⟨_, digits, _⟩ := Option.bind_eq_some_iff.mp reads
  exact isNumeric_of_signed fun c member => .inl (isDecimal_of_natural? digits c member)

theorem isNumeric_of_exponent? {text : List Char} {n : Int} (reads : exponent? text = some n) :
    ∀ c ∈ text, IsNumeric c := by
  unfold exponent? at reads
  split at reads
  · exact fun _ member => absurd member List.not_mem_nil
  · split at reads
    case isTrue mark =>
      refine List.forall_mem_cons.mpr ⟨.inr ?_, isNumeric_of_integer? reads⟩
      obtain rfl | rfl := mark <;> decide
    case isFalse => cases reads

theorem isNumeric_of_unsigned? {negative : Bool} {text : List Char} {x : Binary64}
    (reads : unsigned? negative text = some x) : ∀ c ∈ text, IsNumeric c := by
  have decimals : ∀ text : List Char, ∀ c ∈ text.takeWhile isDecimal, IsNumeric c :=
    fun text c member => .inl (List.all_eq_true.mp List.all_takeWhile c member)
  have rest : text.drop (text.takeWhile isDecimal).length = text.dropWhile isDecimal := by
    conv => lhs; arg 2; rw [← List.takeWhile_append_dropWhile (p := isDecimal) (l := text)]
    exact List.drop_left
  rw [← List.takeWhile_append_dropWhile (p := isDecimal) (l := text), List.forall_mem_append]
  refine ⟨decimals text, ?_⟩
  unfold unsigned? at reads
  dsimp only at reads
  rw [rest] at reads
  split at reads
  case h_1 after point =>
    obtain ⟨_, _, reads⟩ := Option.bind_eq_some_iff.mp reads
    obtain ⟨_, exponent, _⟩ := Option.bind_eq_some_iff.mp reads
    rw [point, List.forall_mem_cons, ← List.takeWhile_append_dropWhile (p := isDecimal) (l := after),
      List.forall_mem_append]
    exact ⟨.inr (by decide), decimals after, isNumeric_of_exponent? exponent⟩
  case h_2 =>
    obtain ⟨_, _, reads⟩ := Option.bind_eq_some_iff.mp reads
    obtain ⟨_, exponent, _⟩ := Option.bind_eq_some_iff.mp reads
    exact isNumeric_of_exponent? exponent

/-- Whether a text is the name of a special value, with or without a sign. -/
def NamesValue (text : List Char) : Prop :=
  String.ofList ((signed text).2.map Char.toLower) ∈ ["inf", "infinity", "nan"]

/-- A number is a name, or written with digits, signs, points and marks for powers of ten. -/
theorem isNumeric_of_binary64? {text : List Char} {x : Binary64} (reads : binary64? text = some x)
    (unnamed : ¬NamesValue text) : ∀ c ∈ text, IsNumeric c := by
  simp only [NamesValue, List.mem_cons, List.not_mem_nil, or_false, not_or] at unnamed
  unfold binary64? at reads
  dsimp only at reads
  rw [if_neg (not_or.mpr ⟨unnamed.1, unnamed.2.1⟩), if_neg unnamed.2.2] at reads
  exact isNumeric_of_signed (isNumeric_of_unsigned? reads)

end ClusterMdns.Number
