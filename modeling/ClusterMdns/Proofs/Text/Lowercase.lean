import ClusterMdns.Text.Lowercase

/-!
Lowercasing twice is lowercasing once.

No capital becomes a capital. This is checked once, on the table of capitals and run by run: the forms that
the capitals of one run become lie apart from each run, or between its capitals where it leaves out every
other character. All about texts follows from it.

* `isLowered_of_mem_lowercaseChar`: the lowercase form of a character has no capitals.
* `lowercase_eq_flatMap`: without capital sigmas each character is lowered on its own.
* `lowercase_eq_self`: a text without capitals is its own lowercase form.
* `lowercase_lowercase`: lowercasing twice is lowercasing once.
* `dot_mem_lowercase_iff`: a lowercase form has a dot exactly if the text has one.
-/

namespace ClusterMdns.Text

/-! ### The table of capitals -/

namespace LowercaseRun

/-- The code point that the first character of a run becomes. -/
def lowest (run : LowercaseRun) : Nat := (run.first + run.distance).toNat

/-- The code point that the last character of a run becomes. -/
def highest (run : LowercaseRun) : Nat := run.lowest + (run.last - run.first)

/-- Whether the capitals of a run become characters that lie apart from another run or in its gaps. -/
def misses (run other : LowercaseRun) : Bool :=
  run.highest < other.first || other.last < run.lowest ||
    (other.stride == 2 && (run.lowest - other.first) % 2 == 1 &&
      (run.stride == 2 || run.first == run.last))

variable {run other : LowercaseRun} {code : Nat}

/-- What a character of a run becomes, counted from the first. -/
theorem shifted_eq (positive : 0 ≤ run.first + run.distance) (inside : run.contains code = true) :
    (code + run.distance).toNat = run.lowest + (code - run.first) := by
  simp only [contains, Bool.and_eq_true, decide_eq_true_eq] at inside
  unfold lowest
  omega

theorem contains_eq_false_of_misses (misses : run.misses other = true)
    (positive : 0 ≤ run.first + run.distance) (inside : run.contains code = true) :
    other.contains (code + run.distance).toNat = false := by
  rw [shifted_eq positive inside, ← Bool.not_eq_true]
  intro hit
  simp only [LowercaseRun.misses, Bool.or_eq_true, Bool.and_eq_true, decide_eq_true_eq,
    beq_iff_eq] at misses
  simp only [contains, Bool.and_eq_true, decide_eq_true_eq, beq_iff_eq] at inside hit
  rcases misses with (above | below) | ⟨⟨stride, odd⟩, sparse⟩
  · unfold highest at above
    omega
  · omega
  · rw [stride] at hit
    rcases sparse with sparse | single
    · rw [sparse] at inside
      omega
    · omega

end LowercaseRun

theorem misses_of_mem_runs : ∀ run ∈ lowercaseRuns, 0 ≤ run.first + run.distance ∧
    (run.highest < 'İ'.toNat ∨ 'İ'.toNat < run.lowest) ∧
      lowercaseRuns.all run.misses = true := by
  decide +kernel

/-! ### Characters without capitals -/

theorem toNat_ofNat {code : Nat} (valid : code.isValidChar) : (Char.ofNat code).toNat = code := by
  rw [Char.ofNat, dif_pos valid]
  rfl

/-- Whether a character is its own lowercase form. -/
def IsLowered (c : Char) : Prop := c ≠ 'İ' ∧ ∀ run ∈ lowercaseRuns, run.contains c.toNat = false

instance (c : Char) : Decidable (IsLowered c) := inferInstanceAs (Decidable (_ ∧ _))

/-- Of the first 128 characters only those from `A` to `Z` are capitals. -/
theorem isLowered_of_ascii {c : Char} (ascii : c.toNat < 128) (small : ¬('A' ≤ c ∧ c ≤ 'Z')) :
    IsLowered c := by
  have beyond : ∀ run ∈ lowercaseRuns, (run.first = 0x41 ∧ run.last = 0x5a) ∨ 128 ≤ run.first := by
    decide +kernel
  refine ⟨?_, fun run member => ?_⟩
  · rintro rfl
    exact absurd ascii (by decide)
  · rw [← Bool.not_eq_true]
    intro inside
    simp only [LowercaseRun.contains, Bool.and_eq_true, decide_eq_true_eq] at inside
    rcases beyond run member with ⟨first, last⟩ | high
    · rw [first, last] at inside
      exact small inside.1
    · omega

theorem IsLowered.lowercaseChar_eq {c : Char} (lowered : IsLowered c) : lowercaseChar c = [c] := by
  have missed : lowercaseRuns.find? (·.contains c.toNat) = none := by
    rw [List.find?_eq_none]
    intro run member
    rw [lowered.2 run member]
    decide
  rw [lowercaseChar, if_neg lowered.1, missed]

theorem IsLowered.ne_sigma {c : Char} (lowered : IsLowered c) : c ≠ 'Σ' := by
  rintro rfl
  exact absurd lowered (by decide +kernel)

/-- **The lowercase form of a character** has no capitals. -/
theorem isLowered_of_mem_lowercaseChar {c d : Char} (member : d ∈ lowercaseChar c) : IsLowered d := by
  unfold lowercaseChar at member
  split at member
  case isTrue =>
    simp only [List.mem_cons, List.not_mem_nil, or_false] at member
    rcases member with rfl | rfl <;> decide +kernel
  case isFalse undotted =>
    split at member
    next run found =>
      obtain rfl := List.mem_singleton.mp member
      have listed := List.mem_of_find?_eq_some found
      have inside := List.find?_some (p := fun run : LowercaseRun => run.contains c.toNat) found
      obtain ⟨positive, apart, missed⟩ := misses_of_mem_runs run listed
      by_cases valid : (c.toNat + run.distance).toNat.isValidChar
      · refine ⟨?_, fun other otherListed => ?_⟩
        · intro dotted
          have code := congrArg Char.toNat dotted
          rw [toNat_ofNat valid, LowercaseRun.shifted_eq positive inside] at code
          simp only [LowercaseRun.contains, Bool.and_eq_true, decide_eq_true_eq] at inside
          unfold LowercaseRun.highest at apart
          omega
        · rw [toNat_ofNat valid]
          exact LowercaseRun.contains_eq_false_of_misses (List.all_eq_true.mp missed other otherListed)
            positive inside
      · rw [Char.ofNat, dif_neg valid]
        decide +kernel
    next missed =>
      obtain rfl := List.mem_singleton.mp member
      refine ⟨undotted, fun run listed => ?_⟩
      have miss := List.find?_eq_none.mp missed run listed
      exact Bool.not_eq_true _ ▸ miss

/-! ### Texts -/

/-- Without capital sigmas each character is lowered on its own. -/
theorem lowercase_eq_flatMap {text : List Char} (unfinished : 'Σ' ∉ text) :
    lowercase text = text.flatMap lowercaseChar := by
  have after : ∀ before, lowercaseAfter before text = text.flatMap lowercaseChar := by
    induction text with
    | nil => exact fun _ => rfl
    | cons c rest ih =>
      intro before
      rw [List.mem_cons, not_or] at unfinished
      unfold lowercaseAfter
      rw [if_neg (Ne.symm unfinished.1), ih unfinished.2, List.flatMap_cons]
  exact after []

/-- **A text without capitals is its own lowercase form.** -/
theorem lowercase_eq_self {text : List Char} (lowered : ∀ c ∈ text, IsLowered c) :
    lowercase text = text := by
  rw [lowercase_eq_flatMap fun member => (lowered 'Σ' member).ne_sigma rfl]
  rw [List.flatMap_def, List.map_congr_left fun c member => (lowered c member).lowercaseChar_eq,
    ← List.flatMap_def, List.flatMap_singleton']

theorem isLowered_of_mem_lowercaseAfter {before text : List Char} {d : Char}
    (member : d ∈ lowercaseAfter before text) : IsLowered d := by
  induction text generalizing before with
  | nil => exact absurd member List.not_mem_nil
  | cons c rest ih =>
    unfold lowercaseAfter at member
    rcases List.mem_append.mp member with own | later
    · split at own
      · split at own <;> (obtain rfl := List.mem_singleton.mp own; decide +kernel)
      · exact isLowered_of_mem_lowercaseChar own
    · exact ih later

/-- A lowercase form has no capitals. -/
theorem isLowered_of_mem_lowercase {text : List Char} {d : Char} (member : d ∈ lowercase text) :
    IsLowered d :=
  isLowered_of_mem_lowercaseAfter member

/-- **Lowercasing twice is lowercasing once.** -/
theorem lowercase_lowercase (text : List Char) : lowercase (lowercase text) = lowercase text :=
  lowercase_eq_self fun _ => isLowered_of_mem_lowercase

/-! ### Dots -/

/-- No character but the dot becomes a dot. -/
theorem dot_mem_lowercaseChar_iff {c : Char} : '.' ∈ lowercaseChar c ↔ c = '.' := by
  constructor
  · intro member
    unfold lowercaseChar at member
    split at member
    case isTrue => exact absurd member (by decide)
    case isFalse =>
      split at member
      next run found =>
        have becomes := List.mem_singleton.mp member
        have above : ∀ run ∈ lowercaseRuns, '.'.toNat < run.lowest := by decide +kernel
        have listed := List.mem_of_find?_eq_some found
        have inside := List.find?_some (p := fun run : LowercaseRun => run.contains c.toNat) found
        by_cases valid : (c.toNat + run.distance).toNat.isValidChar
        · have code := congrArg Char.toNat becomes
          rw [toNat_ofNat valid, LowercaseRun.shifted_eq (misses_of_mem_runs run listed).1 inside]
            at code
          have high := above run listed
          omega
        · have invalid : Char.ofNat (c.toNat + run.distance).toNat = '\x00' := dif_neg valid
          exact absurd (becomes.trans invalid) (by decide)
      next => exact (List.mem_singleton.mp member).symm
  · rintro rfl
    decide +kernel

theorem dot_mem_lowercaseAfter_iff (before text : List Char) :
    '.' ∈ lowercaseAfter before text ↔ '.' ∈ text := by
  induction text generalizing before with
  | nil => exact Iff.rfl
  | cons c rest ih =>
    unfold lowercaseAfter
    rw [List.mem_append, ih, List.mem_cons]
    refine or_congr_left ?_
    split
    case isTrue sigma =>
      subst sigma
      split <;> decide
    case isFalse => exact dot_mem_lowercaseChar_iff.trans eq_comm

/-- **A lowercase form has a dot exactly if the text has one.** -/
theorem dot_mem_lowercase_iff {text : List Char} : '.' ∈ lowercase text ↔ '.' ∈ text :=
  dot_mem_lowercaseAfter_iff [] text

end ClusterMdns.Text
