import ClusterMdns.Name.Reader
import Mathlib.Data.List.Forall2

/-!
Spellings of a name.

Two names are spellings of one name if they have the same labels, byte by byte, up to the case of the
letters from `A` to `Z` (`Name.Respells`). This says nothing of lowercase forms, which are how such names
are told: equal when folded. Letters beyond ASCII have no second spelling: all bytes of their encoding are
128 or more, and folding leaves these alone.

* `foldByte_eq_iff`: folded bytes are equal exactly if the bytes are the same letter.
* `Name.fold_eq_iff_respells`: the same for names.
* `Name.map_foldByte_utf8`: folding the bytes of a text is folding its ASCII letters.
* `Name.respells_utf8_iff`: names with texts as their labels are spellings of one name exactly if the
  texts agree character by character up to the case of ASCII letters.
-/

namespace ClusterMdns

/-- Whether two codes are equal, or those of the capital and the small form of one ASCII letter. -/
def SameLetter (first second : Nat) : Prop :=
  first = second ∨ (65 ≤ first ∧ first ≤ 90 ∧ second = first + 32)
    ∨ (65 ≤ second ∧ second ≤ 90 ∧ first = second + 32)

instance (first second : Nat) : Decidable (SameLetter first second) :=
  inferInstanceAs (Decidable (_ ∨ _))

/-- Lists become equal under a map exactly if it makes their entries equal, one by one. -/
theorem map_eq_map_iff_forall₂ {α β : Type} (f : α → β) (first second : List α) :
    first.map f = second.map f ↔ List.Forall₂ (fun a b => f a = f b) first second := by
  rw [← List.forall₂_eq_eq_eq, List.forall₂_map_left_iff, List.forall₂_map_right_iff]

/-! ### Bytes -/

theorem toNat_foldByte (byte : UInt8) :
    (foldByte byte).toNat
      = if 65 ≤ byte.toNat ∧ byte.toNat ≤ 90 then byte.toNat + 32 else byte.toNat := by
  have capital : (65 ≤ byte ∧ byte ≤ 90) ↔ 65 ≤ byte.toNat ∧ byte.toNat ≤ 90 := by
    simp only [UInt8.le_iff_toNat_le, UInt8.reduceToNat]
  unfold foldByte
  simp only [capital]
  split
  case isTrue within =>
    have step : (32 : UInt8).toNat = 32 := rfl
    rw [UInt8.toNat_add, step]
    omega
  case isFalse => rfl

/-- **Folded bytes are equal exactly if the bytes are the same letter.** -/
theorem foldByte_eq_iff (first second : UInt8) :
    foldByte first = foldByte second ↔ SameLetter first.toNat second.toNat := by
  rw [← UInt8.toNat_inj, toNat_foldByte, toNat_foldByte, SameLetter]
  split <;> split <;> omega

/-- The bytes of a character that is no ASCII capital are none either. -/
theorem foldByte_of_mem_encoded {c : Char} (small : ¬('A' ≤ c ∧ c ≤ 'Z')) {byte : UInt8}
    (member : byte ∈ String.utf8EncodeChar c) : foldByte byte = byte := by
  have notCapital : ¬(65 ≤ byte.toNat ∧ byte.toNat ≤ 90) := by
    intro capital
    unfold String.utf8EncodeChar at member
    dsimp only at member
    split at member
    case isTrue ascii =>
      have code : byte.toNat = c.val.toNat := by
        rw [List.mem_singleton.mp member, UInt8.toNat_ofNat']
        exact Nat.mod_eq_of_lt (by omega)
      rw [code] at capital
      exact small capital
    case isFalse =>
      -- Every byte of a longer form has its highest bit set.
      have high : 128 ≤ byte.toNat := by
        split at member
        case isTrue =>
          simp only [List.mem_cons, List.not_mem_nil, or_false] at member
          rcases member with rfl | rfl <;> (rw [UInt8.toNat_ofNat']; omega)
        case isFalse =>
          split at member
          all_goals simp only [List.mem_cons, List.not_mem_nil, or_false] at member
          · rcases member with rfl | rfl | rfl <;> (rw [UInt8.toNat_ofNat']; omega)
          · rcases member with rfl | rfl | rfl | rfl <;> (rw [UInt8.toNat_ofNat']; omega)
      omega
  rw [foldByte, if_neg (by rwa [UInt8.le_iff_toNat_le, UInt8.le_iff_toNat_le])]

/-! ### Characters -/

theorem toNat_toLower (c : Char) :
    c.toLower.toNat = if 65 ≤ c.toNat ∧ c.toNat ≤ 90 then c.toNat + 32 else c.toNat := by
  have capital : (c.val ≥ 'A'.val ∧ c.val ≤ 'Z'.val) ↔ 65 ≤ c.toNat ∧ c.toNat ≤ 90 := by
    simp only [ge_iff_le, UInt32.le_iff_toNat_le]
    rfl
  unfold Char.toLower
  by_cases within : c.val ≥ 'A'.val ∧ c.val ≤ 'Z'.val
  · rw [dif_pos within, if_pos (capital.mp within)]
    have bound : c.val.toNat ≤ 90 := (capital.mp within).2
    have step : (32 : UInt32).toNat = 32 := rfl
    show (c.val + 32).toNat = c.val.toNat + 32
    rw [UInt32.toNat_add, step]
    omega
  · rw [dif_neg within, if_neg (mt capital.mpr within)]

theorem toLower_eq_iff (first second : Char) :
    first.toLower = second.toLower ↔ SameLetter first.toNat second.toNat := by
  rw [← Char.toNat_inj, toNat_toLower, toNat_toLower, SameLetter]
  split <;> split <;> omega

/-- Folding the bytes of a character is folding the character. -/
theorem map_foldByte_utf8EncodeChar (c : Char) :
    (String.utf8EncodeChar c).map foldByte = String.utf8EncodeChar c.toLower := by
  by_cases capital : 65 ≤ c.toNat ∧ c.toNat ≤ 90
  · have checked : ∀ code < 91, 65 ≤ code →
        (String.utf8EncodeChar (Char.ofNat code)).map foldByte
          = String.utf8EncodeChar (Char.ofNat code).toLower := by
      decide
    have here := checked c.toNat (by omega) capital.1
    rwa [Char.ofNat_toNat] at here
  · have unchanged : c.toLower = c := by
      rw [← Char.toNat_inj, toNat_toLower, if_neg capital]
    rw [unchanged]
    exact (List.map_congr_left fun byte member => foldByte_of_mem_encoded capital member).trans
      (List.map_id _)

namespace Name

/-- Folding the bytes of a text is folding its ASCII letters. -/
theorem map_foldByte_utf8 (text : List Char) :
    (utf8 text).map foldByte = utf8 (text.map Char.toLower) := by
  unfold utf8
  rw [List.map_flatMap, List.flatMap_map]
  exact List.flatMap_congr fun c _ => map_foldByte_utf8EncodeChar c

theorem utf8_injective {first second : List Char} (same : utf8 first = utf8 second) :
    first = second := by
  have bytes : first.utf8Encode = second.utf8Encode := congrArg List.toByteArray same
  refine String.ofList_injective (String.toByteArray_inj.mp ?_)
  rw [String.toByteArray_ofList, String.toByteArray_ofList, bytes]

/-! ### Names -/

/-- Whether two names differ at most in the case of ASCII letters. -/
def Respells (first second : Name) : Prop :=
  List.Forall₂ (List.Forall₂ fun byte other => SameLetter byte.toNat other.toNat)
    first.labels second.labels

/-- **Folded names are equal exactly if the names are spellings of one name.** -/
theorem fold_eq_iff_respells (first second : Name) :
    first.fold = second.fold ↔ first.Respells second := by
  unfold fold Respells
  rw [Name.mk.injEq, map_eq_map_iff_forall₂]
  simp only [map_eq_map_iff_forall₂, foldByte_eq_iff]

instance (first second : Name) : Decidable (first.Respells second) :=
  decidable_of_iff _ (fold_eq_iff_respells first second)

/-- **Names of texts are spellings of one name exactly if the texts agree character by character** up to
the case of ASCII letters. Letters beyond ASCII agree only if they are equal. -/
theorem respells_utf8_iff (first second : List (List Char)) :
    (Name.mk (first.map utf8)).Respells ⟨second.map utf8⟩
      ↔ List.Forall₂ (List.Forall₂ fun c other => SameLetter c.toNat other.toNat) first second := by
  rw [← fold_eq_iff_respells, fold, fold, Name.mk.injEq, List.map_map, List.map_map,
    map_eq_map_iff_forall₂]
  have folded (text other : List Char) :
      (((·.map foldByte) ∘ utf8) text = ((·.map foldByte) ∘ utf8) other)
        ↔ List.Forall₂ (fun c other => SameLetter c.toNat other.toNat) text other := by
    rw [Function.comp_apply, Function.comp_apply, map_foldByte_utf8, map_foldByte_utf8]
    simp only [← toLower_eq_iff, ← map_eq_map_iff_forall₂]
    exact ⟨utf8_injective, congrArg utf8⟩
  simp only [folded]

end Name

end ClusterMdns
