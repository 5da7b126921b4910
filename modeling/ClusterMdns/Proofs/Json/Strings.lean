import ClusterMdns.Json.Token
import ClusterMdns.Proofs.Text.Lowercase
import Mathlib.Algebra.Group.Nat.Defs

/-!
The strings of JSON: what the scanner makes of the characters between two quotes.

A string is written with plain characters and marks for characters (`Spells`). The scanner first gathers codes
(`Gathers`), one for each character or mark, and pairs the surrogates among them when the string is complete.

* `scan_gathered` and `exists_of_scan_string`: what follows an opening quote is scanned exactly if it is
  characters and marks up to a closing quote.
* `spells_iff`: a text is spelled exactly if codes that pair to it can be gathered.
-/

namespace ClusterMdns.Json

open ClusterMdns.Text

/-- What is written between the quotes of a string, and the text that it spells: characters that stand for
themselves, characters after a backslash, the code of a character in four hexadecimal digits, and two
surrogates for a character whose code is longer. -/
inductive Spells : List Char → List Char → Prop
  | nil : Spells [] []
  | plain {c : Char} {written text : List Char} (unmarked : c ≠ '"' ∧ c ≠ '\\')
    (printable : 0x20 ≤ c.toNat) (rest : Spells written text) : Spells (c :: written) (c :: text)
  | short {mark c : Char} {written text : List Char} (known : escaped? mark = some c)
    (rest : Spells written text) : Spells ('\\' :: mark :: written) (c :: text)
  | code {digits written text : List Char} {c : Char} (four : digits.length = 4)
    (writes : natural? 16 digits = some c.toNat) (rest : Spells written text) :
    Spells ('\\' :: 'u' :: (digits ++ written)) (c :: text)
  | pair {digits more written text : List Char} {high low : Nat} {c : Char}
    (four : digits.length = 4) (writes : natural? 16 digits = some high)
    (first : 0xd800 ≤ high ∧ high < 0xdc00)
    (fourMore : more.length = 4) (writesMore : natural? 16 more = some low)
    (second : 0xdc00 ≤ low ∧ low < 0xe000)
    (whole : c.toNat = 0x10000 + (high - 0xd800) * 0x400 + (low - 0xdc00))
    (rest : Spells written text) :
    Spells ('\\' :: 'u' :: (digits ++ '\\' :: 'u' :: (more ++ written))) (c :: text)

/-- What is written between the quotes of a string, and the codes that are gathered from it. -/
inductive Gathers : List Char → List Nat → Prop
  | nil : Gathers [] []
  | plain {c : Char} {written : List Char} {codes : List Nat} (unmarked : c ≠ '"' ∧ c ≠ '\\')
    (printable : 0x20 ≤ c.toNat) (rest : Gathers written codes) :
    Gathers (c :: written) (c.toNat :: codes)
  | short {mark c : Char} {written : List Char} {codes : List Nat} (known : escaped? mark = some c)
    (rest : Gathers written codes) : Gathers ('\\' :: mark :: written) (c.toNat :: codes)
  | code {digits written : List Char} {code : Nat} {codes : List Nat} (four : digits.length = 4)
    (writes : natural? 16 digits = some code) (rest : Gathers written codes) :
    Gathers ('\\' :: 'u' :: (digits ++ written)) (code :: codes)

/-! ### One character at a time -/

theorem scan_cons (scanning : Scanning) (c : Char) (rest : List Char) :
    scan scanning (c :: rest)
      = (scanChar? scanning c).bind fun taken => (scan taken.2 rest).map (taken.1 ++ ·) := by
  cases scanning <;> rfl

/-- A character that completes no token. -/
theorem scan_cons_of_silent {scanning next : Scanning} {c : Char}
    (silent : scanChar? scanning c = some ([], next)) (rest : List Char) :
    scan scanning (c :: rest) = scan next rest := by
  rw [scan_cons, silent, Option.bind_some]
  exact Option.map_id'

theorem scanChar?_plain {c : Char} (unmarked : c ≠ '"' ∧ c ≠ '\\') (printable : 0x20 ≤ c.toNat)
    (gathered : List Nat) :
    scanChar? (.string gathered) c = some ([], .string (c.toNat :: gathered)) := by
  rw [scanChar?, if_neg unmarked.1, if_neg unmarked.2, if_neg (Nat.not_lt.mpr printable)]

theorem scanChar?_backslash (gathered : List Nat) :
    scanChar? (.string gathered) '\\' = some ([], .escape gathered) := rfl

theorem scanChar?_short {mark c : Char} (known : escaped? mark = some c) (gathered : List Nat) :
    scanChar? (.escape gathered) mark = some ([], .string (c.toNat :: gathered)) := by
  have notCode : mark ≠ 'u' := by
    rintro rfl
    cases known
  rw [scanChar?, if_neg notCode, known, Option.map_some]

theorem scanChar?_u (gathered : List Nat) :
    scanChar? (.escape gathered) 'u' = some ([], .code gathered 0 4) := rfl

/-! ### The digits of a code -/

theorem scanChar?_digit {c : Char} {worth : Nat} (isDigit : digit? 16 c = some worth)
    (gathered : List Nat) (value left : Nat) :
    scanChar? (.code gathered value left) c
      = some ([], if left ≤ 1 then .string ((value * 16 + worth) :: gathered)
          else .code gathered (value * 16 + worth) (left - 1)) := by
  rw [scanChar?, isDigit]
  by_cases last : left ≤ 1 <;> simp [last]

/-- What the digits of a code write, given the number before them. -/
theorem scan_digits {left : Nat} (positive : 1 ≤ left) {digits : List Char} (all : digits.length = left)
    {value code : Nat} (writes : naturalFrom? 16 value digits = some code) (gathered : List Nat)
    (rest : List Char) :
    scan (.code gathered value left) (digits ++ rest) = scan (.string (code :: gathered)) rest := by
  induction digits generalizing value left with
  | nil => exact absurd all (Nat.ne_of_lt positive)
  | cons digit more ih =>
    rw [naturalFrom?] at writes
    obtain ⟨worth, isDigit, writes⟩ := Option.bind_eq_some_iff.mp writes
    rw [List.cons_append, scan_cons_of_silent (scanChar?_digit isDigit gathered value left)]
    rw [List.length_cons] at all
    by_cases last : left ≤ 1
    · obtain rfl : more = [] := List.eq_nil_of_length_eq_zero (by omega)
      obtain rfl := Option.some.inj writes
      rw [if_pos last, List.nil_append]
    · rw [if_neg last]
      exact ih (by omega) (by omega) writes

/-- What is scanned as a code starts with as many digits as are left. -/
theorem exists_digits_of_scan {left : Nat} (positive : 1 ≤ left) {gathered : List Nat} {value : Nat}
    {text : List Char} {tokens : List Token} (scans : scan (.code gathered value left) text = some tokens) :
    ∃ digits rest code, text = digits ++ rest ∧ digits.length = left ∧
      naturalFrom? 16 value digits = some code ∧ scan (.string (code :: gathered)) rest = some tokens := by
  induction text generalizing value left with
  | nil => cases scans
  | cons c rest ih =>
    cases isDigit : digit? 16 c with
    | none =>
      rw [scan_cons, scanChar?, isDigit] at scans
      cases scans
    | some worth =>
      rw [scan_cons_of_silent (scanChar?_digit isDigit gathered value left)] at scans
      by_cases last : left ≤ 1
      · rw [if_pos last] at scans
        refine ⟨[c], rest, value * 16 + worth, rfl, by rw [List.length_singleton]; omega, ?_, scans⟩
        rw [naturalFrom?, isDigit]
        rfl
      · rw [if_neg last] at scans
        obtain ⟨digits, after, code, rfl, all, writes, scans⟩ := ih (by omega) scans
        refine ⟨c :: digits, after, code, rfl, by rw [List.length_cons]; omega, ?_, scans⟩
        rw [naturalFrom?, isDigit]
        exact writes

theorem naturalFrom?_of_four {digits : List Char} (four : digits.length = 4) :
    naturalFrom? 16 0 digits = natural? 16 digits := by
  rw [natural?, if_neg]
  rw [List.isEmpty_iff]
  rintro rfl
  cases four

/-! ### The codes of a string -/

/-- The token of a string, given its codes. -/
def stringToken (codes : List Nat) : Token := .string ((paired? codes).map String.ofList)

/-- **Characters and marks up to a closing quote are scanned as a string.** -/
theorem scan_gathered {written : List Char} {codes : List Nat} (gathers : Gathers written codes)
    (gathered : List Nat) (rest : List Char) :
    scan (.string gathered) (written ++ '"' :: rest)
      = (scan .between rest).map (stringToken (gathered.reverse ++ codes) :: ·) := by
  induction gathers generalizing gathered with
  | nil =>
    rw [List.nil_append, scan_cons, scanChar?, if_pos rfl, Option.bind_some, List.append_nil]
    rfl
  | plain unmarked printable _ ih =>
    rw [List.cons_append, scan_cons_of_silent (scanChar?_plain unmarked printable gathered), ih,
      List.reverse_cons, List.append_assoc, List.singleton_append]
  | short known _ ih =>
    rw [List.cons_append, List.cons_append, scan_cons_of_silent (scanChar?_backslash gathered),
      scan_cons_of_silent (scanChar?_short known gathered), ih, List.reverse_cons, List.append_assoc,
      List.singleton_append]
  | code four writes _ ih =>
    rw [← naturalFrom?_of_four four] at writes
    rw [List.cons_append, List.cons_append, List.append_assoc,
      scan_cons_of_silent (scanChar?_backslash gathered), scan_cons_of_silent (scanChar?_u gathered),
      scan_digits (by decide) four writes, ih, List.reverse_cons, List.append_assoc,
      List.singleton_append]

/-- What is scanned within a string ends there, or starts with a character or a mark for one. -/
theorem ends_or_gathers {gathered : List Nat} {text : List Char} {tokens : List Token}
    (scans : scan (.string gathered) text = some tokens) :
    (∃ rest, text = '"' :: rest ∧
      (scan .between rest).map (stringToken gathered.reverse :: ·) = some tokens) ∨
    ∃ front rest code, text = front ++ rest ∧ front ≠ [] ∧
      (∀ written codes, Gathers written codes → Gathers (front ++ written) (code :: codes)) ∧
      scan (.string (code :: gathered)) rest = some tokens := by
  cases text with
  | nil => cases scans
  | cons c rest =>
    by_cases closes : c = '"'
    · subst closes
      rw [scan_cons, scanChar?, if_pos rfl, Option.bind_some] at scans
      exact .inl ⟨rest, rfl, scans⟩
    right
    by_cases marks : c = '\\'
    · subst marks
      rw [scan_cons_of_silent (scanChar?_backslash gathered)] at scans
      cases rest with
      | nil => cases scans
      | cons mark rest =>
        by_cases isCode : mark = 'u'
        · subst isCode
          rw [scan_cons_of_silent (scanChar?_u gathered)] at scans
          obtain ⟨digits, rest, code, rfl, four, writes, scans⟩ :=
            exists_digits_of_scan (by decide) scans
          rw [naturalFrom?_of_four four] at writes
          refine ⟨'\\' :: 'u' :: digits, rest, code, rfl, List.cons_ne_nil _ _, ?_, scans⟩
          exact fun written codes => .code four writes
        · cases known : escaped? mark with
          | none =>
            rw [scan_cons, scanChar?, if_neg isCode, known] at scans
            cases scans
          | some c =>
            rw [scan_cons_of_silent (scanChar?_short known gathered)] at scans
            refine ⟨['\\', mark], rest, c.toNat, rfl, List.cons_ne_nil _ _, ?_, scans⟩
            exact fun written codes => .short known
    · by_cases control : c.toNat < 0x20
      · rw [scan_cons, scanChar?, if_neg closes, if_neg marks, if_pos control] at scans
        cases scans
      · have printable := Nat.not_lt.mp control
        rw [scan_cons_of_silent (scanChar?_plain ⟨closes, marks⟩ printable gathered)] at scans
        refine ⟨[c], rest, c.toNat, rfl, List.cons_ne_nil _ _, ?_, scans⟩
        exact fun written codes => .plain ⟨closes, marks⟩ printable

/-- **What is scanned as a string is characters and marks up to a closing quote.** -/
theorem exists_of_scan_string {gathered : List Nat} {text : List Char} {tokens : List Token}
    (scans : scan (.string gathered) text = some tokens) :
    ∃ written codes rest, text = written ++ '"' :: rest ∧ Gathers written codes ∧
      (scan .between rest).map (stringToken (gathered.reverse ++ codes) :: ·) = some tokens := by
  -- By induction on the length, as a mark takes several characters.
  induction size : text.length using Nat.strongRecOn generalizing gathered text with
  | ind length ih =>
    rcases ends_or_gathers scans with ⟨rest, rfl, scans⟩ | ⟨front, rest, code, rfl, some, adds, scans⟩
    · exact ⟨[], [], rest, rfl, .nil, by rwa [List.append_nil]⟩
    · have positive := List.length_pos_iff.mpr some
      rw [List.length_append] at size
      obtain ⟨written, codes, after, rfl, gathers, scans⟩ := ih rest.length (by omega) scans rfl
      refine ⟨front ++ written, code :: codes, after, (List.append_assoc ..).symm,
        adds written codes gathers, ?_⟩
      rwa [List.reverse_cons, List.append_assoc, List.singleton_append] at scans

/-! ### The text of a string -/

theorem not_surrogate (c : Char) : isHigh c.toNat = false ∧ isLow c.toNat = false := by
  have valid := c.valid
  simp only [UInt32.isValidChar, Nat.isValidChar] at valid
  simp only [isHigh, isLow, Char.toNat, Bool.and_eq_false_iff, decide_eq_false_iff_not]
  omega

/-- The code of a character stands for it. -/
theorem paired?_cons (c : Char) (codes : List Nat) :
    paired? (c.toNat :: codes) = (paired? codes).map (c :: ·) := by
  rw [paired?.eq_def]
  simp [not_surrogate c, Char.ofNat_toNat]

/-- A first and a second surrogate stand for one character. -/
theorem paired?_pair {high low : Nat} (first : 0xd800 ≤ high ∧ high < 0xdc00)
    (second : 0xdc00 ≤ low ∧ low < 0xe000) {c : Char}
    (whole : c.toNat = 0x10000 + (high - 0xd800) * 0x400 + (low - 0xdc00)) (codes : List Nat) :
    paired? (high :: low :: codes) = (paired? codes).map (c :: ·) := by
  have isFirst : isHigh high = true := by simp [isHigh, first]
  have isSecond : isLow low = true := by simp [isLow, second]
  rw [paired?, if_pos isFirst]
  dsimp only
  rw [if_pos isSecond, ← whole, Char.ofNat_toNat]

theorem Spells.exists_gathers {written text : List Char} (spells : Spells written text) :
    ∃ codes, Gathers written codes ∧ paired? codes = some text := by
  induction spells with
  | nil => exact ⟨[], .nil, rfl⟩
  | plain unmarked printable _ ih =>
    obtain ⟨codes, gathers, pairs⟩ := ih
    exact ⟨_, .plain unmarked printable gathers, by rw [paired?_cons, pairs, Option.map_some]⟩
  | short known _ ih =>
    obtain ⟨codes, gathers, pairs⟩ := ih
    exact ⟨_, .short known gathers, by rw [paired?_cons, pairs, Option.map_some]⟩
  | code four writes _ ih =>
    obtain ⟨codes, gathers, pairs⟩ := ih
    exact ⟨_, .code four writes gathers, by rw [paired?_cons, pairs, Option.map_some]⟩
  | pair four writes first fourMore writesMore second whole _ ih =>
    obtain ⟨codes, gathers, pairs⟩ := ih
    refine ⟨_, .code four writes (.code fourMore writesMore gathers), ?_⟩
    rw [paired?_pair first second whole, pairs, Option.map_some]

/-! ### The text that codes pair to -/

theorem digit?_lt {base : Nat} {c : Char} {worth : Nat} (isDigit : digit? base c = some worth) :
    worth < base :=
  of_decide_eq_true (Option.filter_eq_some_iff.mp isDigit).2

theorem naturalFrom?_lt {base before number : Nat} {digits : List Char}
    (writes : naturalFrom? base before digits = some number) :
    number < (before + 1) * base ^ digits.length := by
  induction digits generalizing before with
  | nil =>
    obtain rfl := Option.some.inj writes
    rw [List.length_nil, Nat.pow_zero, Nat.mul_one]
    exact Nat.lt_succ_self before
  | cons c rest ih =>
    rw [naturalFrom?] at writes
    obtain ⟨worth, isDigit, writes⟩ := Option.bind_eq_some_iff.mp writes
    have below : before * base + worth + 1 ≤ (before + 1) * base := by
      have := digit?_lt isDigit
      rw [Nat.succ_mul]
      omega
    calc number < (before * base + worth + 1) * base ^ rest.length := ih writes
      _ ≤ (before + 1) * base * base ^ rest.length := Nat.mul_le_mul_right _ below
      _ = (before + 1) * base ^ (c :: rest).length := by
        rw [List.length_cons, Nat.pow_succ', Nat.mul_assoc]

/-- A code of four digits that is no surrogate is that of a character. -/
theorem exists_char_of_four {digits : List Char} {code : Nat} (four : digits.length = 4)
    (writes : natural? 16 digits = some code) (notHigh : isHigh code = false)
    (notLow : isLow code = false) : ∃ c : Char, c.toNat = code := by
  rw [← naturalFrom?_of_four four] at writes
  have below := naturalFrom?_lt writes
  rw [four] at below
  simp only [isHigh, isLow, Bool.and_eq_false_iff, decide_eq_false_iff_not] at notHigh notLow
  exact ⟨Char.ofNat code, toNat_ofNat (by unfold Nat.isValidChar; omega)⟩

/-- Two surrogates write a character. -/
theorem exists_char_of_pair {high low : Nat} (first : isHigh high = true) (second : isLow low = true) :
    ∃ c : Char, c.toNat = 0x10000 + (high - 0xd800) * 0x400 + (low - 0xdc00) := by
  simp only [isHigh, isLow, Bool.and_eq_true, decide_eq_true_eq] at first second
  exact ⟨Char.ofNat _, toNat_ofNat (by unfold Nat.isValidChar; omega)⟩

/-- Where a code was gathered first, either it is that of a character, which is written in front, or it is
written in four digits. -/
theorem Gathers.cases_cons {written : List Char} {code : Nat} {codes : List Nat}
    (gathers : Gathers written (code :: codes)) :
    ∃ rest, Gathers rest codes ∧
      ((∃ c : Char, c.toNat = code ∧ ∀ text, Spells rest text → Spells written (c :: text)) ∨
        ∃ digits, written = '\\' :: 'u' :: (digits ++ rest) ∧ digits.length = 4 ∧
          natural? 16 digits = some code) := by
  cases gathers with
  | plain unmarked printable rest =>
    exact ⟨_, rest, .inl ⟨_, rfl, fun _ => .plain unmarked printable⟩⟩
  | short known rest => exact ⟨_, rest, .inl ⟨_, rfl, fun _ => .short known⟩⟩
  | code four writes rest => exact ⟨_, rest, .inr ⟨_, rfl, four, writes⟩⟩

/-- A surrogate is written in four digits. -/
theorem Gathers.cases_surrogate {written : List Char} {code : Nat} {codes : List Nat}
    (gathers : Gathers written (code :: codes)) (surrogate : isHigh code = true ∨ isLow code = true) :
    ∃ digits rest, written = '\\' :: 'u' :: (digits ++ rest) ∧ digits.length = 4 ∧
      natural? 16 digits = some code ∧ Gathers rest codes := by
  obtain ⟨rest, remaining, ⟨c, rfl, -⟩ | ⟨digits, rfl, four, writes⟩⟩ := gathers.cases_cons
  · obtain ⟨notHigh, notLow⟩ := not_surrogate c
    rw [notHigh, notLow] at surrogate
    exact (surrogate.elim Bool.false_ne_true Bool.false_ne_true).elim
  · exact ⟨digits, rest, rfl, four, writes, remaining⟩

theorem Gathers.spells {written text : List Char} {codes : List Nat} (gathers : Gathers written codes)
    (pairs : paired? codes = some text) : Spells written text := by
  -- By the cases in which codes are paired, as two surrogates are taken at once.
  induction codes using paired?.induct generalizing written text with
  | case1 =>
    cases gathers
    obtain rfl := Option.some.inj pairs
    exact .nil
  | case2 high first =>
    rw [paired?, if_pos first] at pairs
    cases pairs
  | case3 high first low codes second ih =>
    obtain ⟨c, isWhole⟩ := exists_char_of_pair first second
    obtain ⟨digits, rest, rfl, four, writes, gathers⟩ := gathers.cases_surrogate (.inl first)
    obtain ⟨more, rest, rfl, fourMore, writesMore, gathers⟩ := gathers.cases_surrogate (.inr second)
    simp only [isHigh, isLow, Bool.and_eq_true, decide_eq_true_eq] at first second
    rw [paired?_pair first second isWhole] at pairs
    obtain ⟨text, paired, rfl⟩ := Option.map_eq_some_iff.mp pairs
    exact .pair four writes first fourMore writesMore second isWhole (ih gathers paired)
  | case4 high first other codes lone =>
    rw [paired?, if_pos first] at pairs
    dsimp only at pairs
    rw [if_neg lone] at pairs
    cases pairs
  | case5 low codes notHigh second =>
    rw [paired?.eq_def] at pairs
    simp [notHigh, second] at pairs
  | case6 code codes notHigh notLow ih =>
    rw [Bool.not_eq_true] at notHigh notLow
    obtain ⟨rest, remaining, ⟨c, rfl, adds⟩ | ⟨digits, rfl, four, writes⟩⟩ := gathers.cases_cons
    · rw [paired?_cons] at pairs
      obtain ⟨text, paired, rfl⟩ := Option.map_eq_some_iff.mp pairs
      exact adds text (ih remaining paired)
    · obtain ⟨c, rfl⟩ := exists_char_of_four four writes notHigh notLow
      rw [paired?_cons] at pairs
      obtain ⟨text, paired, rfl⟩ := Option.map_eq_some_iff.mp pairs
      exact .code four writes (ih remaining paired)

/-- **A text is spelled exactly if codes that pair to it can be gathered.** -/
theorem spells_iff {written text : List Char} :
    Spells written text ↔ ∃ codes, Gathers written codes ∧ paired? codes = some text :=
  ⟨Spells.exists_gathers, fun ⟨_, gathers, pairs⟩ => gathers.spells pairs⟩

end ClusterMdns.Json
