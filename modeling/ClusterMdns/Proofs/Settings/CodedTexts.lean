import ClusterMdns.Toml.Reader
import Mathlib.Algebra.Group.Nat.Defs

/-!
A file that sets the namespace, for every text.

A string of a file may have each of its characters written by its code, in eight hexadecimal digits after a
backslash. So there is a file for every text, whatever characters it has.

* `quotation?_coded`: a string in which all characters are written by their codes is read as the text.
* `read?_spaceFile`: a file with such a string sets the namespace to the text and nothing else.
-/

namespace ClusterMdns.Toml

open ClusterMdns.Text

/-- The code of a character in eight hexadecimal digits. -/
def codeDigits (code : Nat) : List Char :=
  [7, 6, 5, 4, 3, 2, 1, 0].map fun place => Nat.digitChar (code / 16 ^ place % 16)

theorem digit?_digitChar : ∀ worth < 16, digit? 16 (Nat.digitChar worth) = some worth := by decide

theorem codePoint?_codeDigits (c : Char) : codePoint? (codeDigits c.toNat) = some c := by
  have valid : c.toNat.isValidChar := c.valid
  have reads : natural? 16 (codeDigits c.toNat) = some c.toNat := by
    have digit (place : Nat) : digit? 16 (Nat.digitChar (c.toNat / 16 ^ place % 16))
        = some (c.toNat / 16 ^ place % 16) := digit?_digitChar _ (Nat.mod_lt _ (by decide))
    have bound : c.toNat < 16 ^ 8 := by
      unfold Nat.isValidChar at valid
      omega
    simp only [codeDigits, List.map_cons, List.map_nil, natural?, naturalFrom?, digit, List.isEmpty_cons,
      Bool.false_eq_true, if_false, Option.bind_eq_bind, Option.bind_some]
    congr 1
    omega
  rw [codePoint?, reads]
  show (if _ then _ else _) = _
  rw [if_pos valid, Char.ofNat_toNat]

/-- A text with each character written by its code. -/
def coded (text : List Char) : List Char := text.flatMap fun c => '\\' :: 'U' :: codeDigits c.toNat

theorem basic?_coded (text : List Char) : basic? (coded text ++ ['"']) = some (text, []) := by
  induction text with
  | nil => rfl
  | cons c rest ih =>
    show (basic? (coded rest ++ ['"'])).bind (fun quotation =>
      (codePoint? (codeDigits c.toNat)).bind fun c => some (quotation.cons c)) = _
    rw [ih, codePoint?_codeDigits]
    rfl

theorem quotation?_coded (text : List Char) : quotation? ('"' :: (coded text ++ ['"'])) = some (text, []) := by
  rw [← basic?_coded text]
  cases text <;> rfl

/-- A line that sets the namespace, each character written by its code. -/
def spaceLine (text : List Char) : List Char :=
  ['s', 'y', 'n', 'c', '.', 'n', 'a', 'm', 'e', 's', 'p', 'a', 'c', 'e', ' ', '=', ' ']
    ++ '"' :: (coded text ++ ['"'])

theorem line?_spaceLine (text : List Char) : Document.empty.line? (spaceLine text)
    = some (⟨[("sync", .table .dotted [("namespace", .leaf (.text (String.ofList text)))])], []⟩, []) := by
  have key : key? (spaceLine text)
      = some (["sync", "namespace"], '=' :: ' ' :: '"' :: (coded text ++ ['"'])) := rfl
  have value : value? (spaceLine text).length (depthLimit - 1) ('"' :: (coded text ++ ['"']))
      = some (.text (String.ofList text), []) := by
    show (quotation? ('"' :: (coded text ++ ['"']))).map _ = _
    rw [quotation?_coded]
    rfl
  have skipped : skipSpace (spaceLine text) = spaceLine text := rfl
  unfold Document.line?
  rw [skipped]
  split
  case h_1 same => exact absurd (List.cons.inj same).1 (by decide)
  case h_2 same => exact absurd (List.cons.inj same).1 (by decide)
  case h_3 =>
    dsimp only
    split
    case h_1 same => exact absurd same (List.cons_ne_nil _ _)
    case h_2 same => exact absurd (List.cons.inj same).1 (by decide)
    case h_3 same => exact absurd (List.cons.inj same).1 (by decide)
    case h_4 same => exact absurd (List.cons.inj same).1 (by decide)
    case h_5 =>
      rw [key]
      show (value? (spaceLine text).length (depthLimit - 1) ('"' :: (coded text ++ ['"']))).bind _ = _
      rw [value]
      rfl

/-- A file that sets the namespace to a text and nothing else. -/
def spaceFile (text : String) : String := String.ofList (spaceLine text.toList)

theorem read?_spaceFile (text : String) :
    read? (spaceFile text) = some [("sync", .table [("namespace", .text text)])] := by
  rw [read?, spaceFile, String.toList_ofList]
  have lines : Document.empty.lines? (spaceLine text.toList).length (spaceLine text.toList)
      = some ⟨[("sync", .table .dotted [("namespace", .leaf (.text text))])], []⟩ := by
    show (Document.empty.line? (spaceLine text.toList)).bind _ = _
    rw [line?_spaceLine, String.ofList_toList]
    rfl
  show (Document.empty.lines? (spaceLine text.toList).length (spaceLine text.toList)).map _ = _
  rw [lines]
  rfl

end ClusterMdns.Toml
