import ClusterMdns.Proofs.Settings.Relaying
import ClusterMdns.Proofs.Text.Parts
import Mathlib.Data.List.TakeWhile

/-!
Keys as texts, and the places that they write.

* `SettingPath.toList_of_parse?`: a text that writes a place by keys alone is these keys with dots between.
* `SettingPath.stands_of_isSteady`: a key that a layer leaves at the root is read as the name that it is.
* `SettingValue.givenBy?_eq_some_iff`: for which places a value is given that is no table.
-/

namespace ClusterMdns

open ClusterMdns.Text

namespace SettingPath

/-! ### Reading keys -/

/-- A text that writes steps by keys alone is these keys, each after a dot. -/
theorem eq_of_steps? {limit : Nat} {chars : List Char} {names : List String}
    (reads : steps? limit chars = some (names.map .key)) :
    chars = names.flatMap fun name => '.' :: name.toList := by
  fun_induction steps? limit chars generalizing names with
  | case1 =>
    obtain rfl := List.map_eq_nil_iff.mp (Option.some.inj reads).symm
    rfl
  | case4 =>
    rename_i ih
    obtain ⟨steps, later, same⟩ := Option.map_eq_some_iff.mp reads
    cases names with
    | nil => cases same
    | cons first others =>
      rw [List.map_cons, List.cons.injEq, PathStep.key.injEq] at same
      obtain ⟨rfl, rfl⟩ := same
      rw [List.flatMap_cons, String.toList_ofList, List.cons_append, ← ih later]
      exact congrArg ('.' :: ·) (List.prefix_iff_eq_append.mp (List.takeWhile_prefix _)).symm
  | case5 =>
    obtain ⟨_, _, same⟩ := Option.map_eq_some_iff.mp reads
    cases names <;> cases same
  | case2 => cases reads
  | case3 => cases reads
  | case6 => cases reads
  | case7 => cases reads

/-- A text that writes a place starts with the root of the place, and its steps follow. -/
theorem exists_of_parse? {text : String} {path : SettingPath} (reads : parse? text = some path) :
    ∃ chars rest, text.toList = chars ++ rest ∧ path.root = String.ofList chars ∧ chars ≠ [] ∧
      (∀ c ∈ chars, isKeyChar c = true) ∧ steps? rest.length rest = some path.steps := by
  unfold parse? at reads
  dsimp only at reads
  split at reads
  case isTrue => cases reads
  case isFalse filled =>
    obtain ⟨steps, later, rfl⟩ := Option.map_eq_some_iff.mp reads
    rw [List.isEmpty_iff] at filled
    refine ⟨_, _, ?_, rfl, filled, fun c => List.mem_takeWhile_imp, later⟩
    exact (List.prefix_iff_eq_append.mp (List.takeWhile_prefix _)).symm

/-- **A text that writes a place by keys alone** is these keys with dots between. -/
theorem toList_of_parse? {text : String} {path : SettingPath} {names : List String}
    (reads : parse? text = some path) (keys : path.steps = names.map .key) :
    text.toList = path.root.toList ++ names.flatMap fun name => '.' :: name.toList := by
  obtain ⟨chars, rest, whole, root, _, _, steps⟩ := exists_of_parse? reads
  rw [keys] at steps
  rw [whole, root, String.toList_ofList, eq_of_steps? steps]

/-- A text of characters of keys writes itself. -/
theorem parse?_ofList {chars : List Char} (keys : ∀ c ∈ chars, isKeyChar c = true)
    (filled : chars ≠ []) : parse? (String.ofList chars) = some ⟨String.ofList chars, []⟩ := by
  unfold parse?
  dsimp only
  rw [String.toList_ofList, List.takeWhile_eq_self_iff.mpr keys, List.drop_length, if_neg]
  · rfl
  · rwa [List.isEmpty_iff]

/-! ### Keys in small letters -/

theorem isKeyChar_lt {c : Char} (key : isKeyChar c = true) : c.toNat < 128 := by
  delta isKeyChar Char.isAlphanum Char.isAlpha Char.isUpper Char.isLower Char.isDigit at key
  simp only [Bool.or_eq_true, Bool.and_eq_true, decide_eq_true_eq, beq_iff_eq, ge_iff_le,
    UInt32.le_iff_toNat_le] at key
  rcases key with ((((⟨_, capital⟩ | ⟨_, small⟩) | ⟨_, digit⟩) | rfl) | rfl) | rfl
  · exact Nat.lt_of_le_of_lt capital (by decide)
  · exact Nat.lt_of_le_of_lt small (by decide)
  · exact Nat.lt_of_le_of_lt digit (by decide)
  all_goals decide

/-- The lowercase forms of characters of keys are characters of keys. -/
theorem isKeyChar_lowercaseChar {c : Char} (key : isKeyChar c = true) :
    lowercaseChar c ≠ [] ∧ ∀ d ∈ lowercaseChar c, isKeyChar d = true := by
  have all : ∀ n < 128, isKeyChar (Char.ofNat n) = true →
      lowercaseChar (Char.ofNat n) ≠ [] ∧ (lowercaseChar (Char.ofNat n)).all isKeyChar = true := by
    decide +kernel
  have own := all c.toNat (isKeyChar_lt key)
  rw [Char.ofNat_toNat] at own
  obtain ⟨filled, keys⟩ := own key
  exact ⟨filled, List.all_eq_true.mp keys⟩

/-- The root of a place that a text writes is itself a key, also in small letters. -/
theorem ofText_lowered_root {text : String} {path : SettingPath} (reads : parse? text = some path) :
    ofText (SettingValue.lowered path.root) = ⟨SettingValue.lowered path.root, []⟩ := by
  obtain ⟨chars, _, _, root, filled, keys, _⟩ := exists_of_parse? reads
  have unfinished : 'Σ' ∉ chars := fun member => absurd (keys 'Σ' member) (by decide)
  have small : lowercase chars = chars.flatMap lowercaseChar := lowercase_eq_flatMap unfinished
  unfold ofText SettingValue.lowered
  rw [root, String.toList_ofList, small, parse?_ofList, Option.getD_some]
  · intro c member
    obtain ⟨original, inside, becomes⟩ := List.mem_flatMap.mp member
    exact (isKeyChar_lowercaseChar (keys original inside)).2 c becomes
  · obtain ⟨first, others, rfl⟩ := List.exists_cons_of_ne_nil filled
    rw [List.flatMap_cons]
    exact List.append_ne_nil_of_left_ne_nil
      (isKeyChar_lowercaseChar (keys first List.mem_cons_self)).1 _

/-- Whether a text that writes no place as it stands writes none inside of certain names in small letters
either. -/
def IsSteady (names : List String) (text : String) : Prop :=
  parse? text = none → ∀ path ∈ parse? (SettingValue.lowered text),
    path.steps = [] ∨ SettingValue.lowered path.root ∉ names

instance (names : List String) (text : String) : Decidable (IsSteady names text) :=
  inferInstanceAs (Decidable (_ → _))

/-- **A key that a layer leaves at the root** is read as the name that it is. -/
theorem stands_of_isSteady {names : List String} {name text : String} (steady : IsSteady names text)
    (member : name ∈ names) :
    SettingValue.Stands name (SettingValue.lowered (ofText text).root) := by
  intro leads
  cases reads : parse? text with
  | some path =>
    have itself : ofText text = path := by rw [ofText, reads, Option.getD_some]
    rw [itself]
    exact ofText_lowered_root reads
  | none =>
    have itself : ofText text = ⟨text, []⟩ := by rw [ofText, reads, Option.getD_none]
    rw [itself] at leads ⊢
    dsimp only at leads ⊢
    cases again : parse? (SettingValue.lowered text) with
    | none => rw [ofText, again, Option.getD_none]
    | some path =>
      have path? : ofText (SettingValue.lowered text) = path := by rw [ofText, again, Option.getD_some]
      rw [path?] at leads ⊢
      rcases steady reads path again with single | elsewhere
      · have whole := toList_of_parse? again (single.trans List.map_nil.symm)
        rw [List.flatMap_nil, List.append_nil] at whole
        rw [String.toList_injective whole, ← single]
      · exact absurd (leads ▸ member) elsewhere

theorem isSteady_of_lowered {names : List String} {text : String}
    (small : SettingValue.lowered text = text) : IsSteady names text := by
  intro unread path again
  rw [small, unread] at again
  cases again

/-! ### Places as texts -/

/-- The text that writes a place by its keys. -/
def written (place : List String) : String := String.ofList (['.'].intercalate (place.map String.toList))

theorem toList_written (name : String) (rest : List String) :
    (written (name :: rest)).toList
      = name.toList ++ rest.flatMap fun name => '.' :: name.toList := by
  rw [written, String.toList_ofList, List.map_cons, intercalate_cons, List.flatMap_map]

theorem mem_written {name : String} {place : List String} (member : name ∈ place) :
    name.toList ⊆ (written place).toList := by
  cases place with
  | nil => cases member
  | cons first rest =>
    rw [toList_written]
    rcases List.mem_cons.mp member with rfl | later
    · exact List.subset_append_left _ _
    · intro c inside
      exact List.mem_append_right _ (List.mem_flatMap.mpr ⟨name, later, List.mem_cons_of_mem _ inside⟩)

/-- A text without capitals that writes a place by several keys is the text that writes it in small
letters. -/
theorem eq_written {text : String} {names : List String} (small : ∀ c ∈ text.toList, IsLowered c)
    (keys : (ofText text).allSteps = names.map .key) (several : 2 ≤ names.length) :
    text = written (names.map SettingValue.lowered) := by
  cases reads : parse? text with
  | none =>
    rw [ofText, reads, Option.getD_none] at keys
    have single : 1 = (names.map PathStep.key).length := congrArg List.length keys
    rw [List.length_map] at single
    omega
  | some path =>
    rw [ofText, reads, Option.getD_some] at keys
    cases names with
    | nil => cases keys
    | cons root names =>
      obtain ⟨rootKey, steps⟩ := List.cons.inj keys
      have whole := toList_of_parse? reads steps
      rw [PathStep.key.inj rootKey, ← toList_written] at whole
      have itself := String.toList_injective whole
      have each : ∀ name ∈ root :: names, SettingValue.lowered name = id name := fun name member =>
        SettingValue.lowered_eq_self fun c inside => small c (itself ▸ mem_written member inside)
      rw [List.map_congr_left each, List.map_id]
      exact itself

end SettingPath

namespace SettingValue

variable {value : SettingValue} {place : List String}

/-- **A value that is no table is given for a place** exactly if its steps are the keys of the place. -/
theorem givenBy?_eq_some_iff (leaf : IsLeaf value) (steps : List PathStep)
    (given : SettingValue) :
    givenBy? value place steps = some given
      ↔ given = value ∧ ∃ names : List String, steps = names.map .key ∧ names.map lowered = place := by
  induction steps generalizing place with
  | nil =>
    unfold givenBy?
    rw [leaf.given?_eq]
    cases place with
    | nil =>
      rw [if_pos rfl, Option.some.injEq]
      exact ⟨fun same => ⟨same.symm, [], rfl, rfl⟩, fun same => same.1.symm⟩
    | cons name rest =>
      rw [if_neg (List.cons_ne_nil name rest)]
      constructor
      · intro gives
        cases gives
      · rintro ⟨_, names, empty, same⟩
        obtain rfl := List.map_eq_nil_iff.mp empty.symm
        cases same
  | cons step steps ih =>
    cases place with
    | nil =>
      constructor
      · intro gives
        cases step <;> cases gives
      · rintro ⟨_, names, keys, same⟩
        obtain rfl := List.map_eq_nil_iff.mp same
        cases keys
    | cons name rest =>
      cases step with
      | item index =>
        constructor
        · intro gives
          cases gives
        · rintro ⟨_, names, keys, same⟩
          cases names <;> cases keys
      | key key =>
        unfold givenBy?
        split
        case isTrue own =>
          rw [ih]
          constructor
          · rintro ⟨same, names, rfl, rfl⟩
            exact ⟨same, key :: names, rfl, by rw [List.map_cons, own]⟩
          · rintro ⟨same, names, keys, inside⟩
            cases names with
            | nil => cases keys
            | cons first others =>
              exact ⟨same, others, (List.cons.inj keys).2, (List.cons.inj inside).2⟩
        case isFalse other =>
          constructor
          · intro gives
            cases gives
          · rintro ⟨same, names, keys, inside⟩
            cases names with
            | nil => cases keys
            | cons first others =>
              obtain rfl := PathStep.key.inj (List.cons.inj keys).1
              exact absurd (List.cons.inj inside).1 other

end SettingValue

end ClusterMdns
