import ClusterMdns.Name.Reader
import Mathlib.Tactic.SplitIfs

/-!
The order of texts is that of their bytes.

Texts are compared character by character, while what leaves the program is compared byte by byte. UTF-8 is
made so that the two agree: the first byte tells the length of a character, the longer ones have the greater
first bytes, and the bits of the code stand in the bytes from the highest to the lowest.

* `utf8EncodeChar_append_lt`: the bytes of a smaller character come first, whatever follows them.
* `lt_iff_utf8_lt`: texts are ordered as their bytes are.
-/

namespace ClusterMdns.Name

theorem ofNat_cons_lt_iff {a b : Nat} (fits : a < 256) (other : b < 256) (x y : List UInt8) :
    UInt8.ofNat a :: x < UInt8.ofNat b :: y ↔ a < b ∨ a = b ∧ x < y := by
  rw [List.cons_lt_cons_iff, UInt8.lt_iff_toNat_lt, ← UInt8.toNat_inj,
    UInt8.toNat_ofNat_of_lt' fits, UInt8.toNat_ofNat_of_lt' other]

/-- **The bytes of a smaller character come first**, whatever follows them. -/
theorem utf8EncodeChar_append_lt {c d : Char} (before : c < d) (x y : List UInt8) :
    String.utf8EncodeChar c ++ x < String.utf8EncodeChar d ++ y := by
  have order : c.val.toNat < d.val.toNat := before
  have bound : d.val.toNat < 0x110000 := by
    have valid := d.valid
    simp only [UInt32.isValidChar, Nat.isValidChar] at valid
    omega
  unfold String.utf8EncodeChar
  generalize c.val.toNat = m at *
  generalize d.val.toNat = n at *
  have fourth (k : Nat) : k / 262144 = k / 64 / 64 / 64 := by omega
  have third (k : Nat) : k / 4096 = k / 64 / 64 := by omega
  dsimp only
  split_ifs <;>
    simp (disch := omega) only [List.cons_append, List.nil_append, ofNat_cons_lt_iff] <;>
    try omega
  -- Left are two characters of four bytes, which are compared from the highest six bits down.
  rw [fourth, fourth, third, third]
  rcases Nat.lt_trichotomy (m / 64) (n / 64) with higher | higher | higher
  · rcases Nat.lt_trichotomy (m / 64 / 64) (n / 64 / 64) with highest | highest | highest <;> omega
  · omega
  · omega

theorem utf8_lt_of_lt {first second : List Char} (before : first < second) :
    utf8 first < utf8 second := by
  induction first generalizing second with
  | nil =>
    cases second with
    | nil => exact absurd before (List.lt_irrefl [])
    | cons d rest =>
      cases bytes : utf8 (d :: rest) with
      | nil =>
        have size := String.length_utf8EncodeChar d
        rw [utf8, List.flatMap_cons, List.append_eq_nil_iff] at bytes
        rw [bytes.1] at size
        exact absurd size (Nat.ne_of_lt d.utf8Size_pos)
      | cons byte more => exact List.nil_lt_cons byte more
  | cons c rest ih =>
    cases second with
    | nil => exact absurd before (List.not_lt_nil _)
    | cons d more =>
      rw [List.cons_lt_cons_iff] at before
      unfold utf8
      rw [List.flatMap_cons, List.flatMap_cons]
      rcases before with smaller | ⟨rfl, later⟩
      · exact utf8EncodeChar_append_lt smaller _ _
      · exact List.append_left_lt (ih later)

/-- **Texts are ordered as their bytes are.** -/
theorem lt_iff_utf8_lt {first second : String} :
    first < second ↔ utf8 first.toList < utf8 second.toList := by
  constructor
  · intro before
    exact utf8_lt_of_lt before
  · intro before
    refine String.not_le.mp fun le => ?_
    by_cases same : second = first
    · subst same
      exact List.lt_irrefl _ before
    · have after : second < first := by
        refine String.not_le.mp fun ge => same (String.le_antisymm le ge)
      exact List.lt_asymm before (utf8_lt_of_lt after)

end ClusterMdns.Name
