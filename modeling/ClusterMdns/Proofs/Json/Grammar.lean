import ClusterMdns.Proofs.Json.Strings

/-!
The grammar of JSON beside its scanner: which tokens a text writes.

Only structural characters and intact strings are spelled out (`Token.IsPlain`), as a text with any other
token is told from one without by the tokens alone.

* `tokens?_of_writes`: a text is scanned into the tokens that it writes.
* `tokens?_eq_some_iff`: it is scanned into plain tokens exactly if it writes them.
-/

namespace ClusterMdns.Json

/-- The tokens that a text writes: structural characters and strings between quotes, with separators
anywhere between them. -/
inductive Writes : List Char → List Token → Prop
  | nil : Writes [] []
  | separator {c : Char} {text : List Char} {tokens : List Token} (separates : isSeparator c = true)
    (rest : Writes text tokens) : Writes (c :: text) tokens
  | structural {c : Char} {token : Token} {text : List Char} {tokens : List Token}
    (known : structural? c = some token) (rest : Writes text tokens) :
    Writes (c :: text) (token :: tokens)
  | string {written value text : List Char} {tokens : List Token} (spells : Spells written value)
    (rest : Writes text tokens) :
    Writes ('"' :: (written ++ '"' :: text)) (.string (some (String.ofList value)) :: tokens)

/-- Whether a token is a structural character or an intact string. -/
def Token.IsPlain : Token → Prop
  | .openObject | .closeObject | .openArray | .closeArray | .colon | .comma | .string (some _) => True
  | _ => False

/-! ### Tokens that begin between others -/

theorem scan_structural {c : Char} {token : Token} (known : structural? c = some token)
    (rest : List Char) : scan .between (c :: rest) = (scan .between rest).map (token :: ·) := by
  have apart : isSeparator c = false ∧ c ≠ '"' := by
    unfold structural? at known
    split at known
    all_goals first | exact ⟨rfl, by decide⟩ | cases known
  rw [scan_cons, scanChar?, begin?, apart.1, if_neg Bool.false_ne_true, if_neg apart.2, known]
  rfl

theorem scan_quote (rest : List Char) : scan .between ('"' :: rest) = scan (.string []) rest :=
  scan_cons_of_silent rfl rest

/-- **A text is scanned into the tokens that it writes.** -/
theorem tokens?_of_writes {text : List Char} {tokens : List Token} (writes : Writes text tokens) :
    tokens? text = some tokens := by
  unfold tokens?
  induction writes with
  | nil => rfl
  | separator separates _ ih => rw [scan_separator separates, ih]
  | structural known _ ih => rw [scan_structural known, ih, Option.map_some]
  | string spells _ ih =>
    obtain ⟨codes, gathers, pairs⟩ := spells_iff.mp spells
    rw [scan_quote, scan_gathered gathers, ih, Option.map_some, List.reverse_nil, List.nil_append,
      stringToken, pairs, Option.map_some]

/-! ### Tokens that are not plain -/

theorem not_isPlain_of_unsigned? {negative : Bool} {text : List Char} {token : Token}
    (reads : unsigned? negative text = some token) : ¬ token.IsPlain := by
  unfold unsigned? at reads
  obtain ⟨_, _, reads⟩ := Option.bind_eq_some_iff.mp reads
  dsimp only at reads
  split at reads
  · obtain ⟨value, _, reads⟩ := Option.bind_eq_some_iff.mp reads
    split at reads
    all_goals
      split at reads
      all_goals
        obtain rfl := Option.some.inj reads
        exact not_false
  · obtain ⟨_, _, reads⟩ := Option.bind_eq_some_iff.mp reads
    obtain ⟨mantissa, _, reads⟩ := Option.bind_eq_some_iff.mp reads
    obtain ⟨exponent, _, reads⟩ := Option.bind_eq_some_iff.mp reads
    obtain rfl := Option.some.inj reads
    exact not_false

theorem not_isPlain_of_bare? {text : List Char} {token : Token} (reads : bare? text = some token) :
    ¬ token.IsPlain := by
  unfold bare? at reads
  split at reads
  case isTrue =>
    obtain rfl := Option.some.inj reads
    exact not_false
  case isFalse =>
    split at reads
    case isTrue =>
      obtain rfl := Option.some.inj reads
      exact not_false
    case isFalse =>
      split at reads
      case isTrue =>
        obtain rfl := Option.some.inj reads
        exact not_false
      case isFalse =>
        split at reads
        all_goals exact not_isPlain_of_unsigned? reads

/-- What is scanned from within a token without quotes starts with it. -/
theorem exists_of_scan_bare {gathered text : List Char} {tokens : List Token}
    (scans : scan (.bare gathered) text = some tokens) :
    ∃ token rest written, bare? written = some token ∧ tokens = token :: rest := by
  induction text generalizing gathered with
  | nil =>
    obtain ⟨token, reads, rfl⟩ := Option.map_eq_some_iff.mp scans
    exact ⟨token, [], _, reads, rfl⟩
  | cons c text ih =>
    by_cases ends : (isSeparator c || c == '"' || (structural? c).isSome) = true
    · rw [scan_cons, scanChar?, if_pos ends] at scans
      obtain ⟨taken, takes, scans⟩ := Option.bind_eq_some_iff.mp scans
      obtain ⟨token, reads, takes⟩ := Option.bind_eq_some_iff.mp takes
      obtain ⟨begun, _, takes⟩ := Option.bind_eq_some_iff.mp takes
      obtain rfl := Option.some.inj takes
      obtain ⟨rest, _, rfl⟩ := Option.map_eq_some_iff.mp scans
      exact ⟨token, _, _, reads, rfl⟩
    · have silent : scanChar? (.bare gathered) c = some ([], .bare (c :: gathered)) := by
        rw [scanChar?, if_neg ends]
      rw [scan_cons_of_silent silent] at scans
      exact ih scans

/-- A text that is scanned into plain tokens writes them. -/
theorem writes_of_tokens? {text : List Char} {tokens : List Token}
    (scans : tokens? text = some tokens) (plain : ∀ token ∈ tokens, token.IsPlain) :
    Writes text tokens := by
  -- By induction on the length, as a string takes several characters.
  induction size : text.length using Nat.strongRecOn generalizing text tokens with
  | ind length ih =>
    subst size
    unfold tokens? at scans ih
    cases text with
    | nil =>
      obtain rfl := Option.some.inj scans
      exact .nil
    | cons c text =>
      cases separates : isSeparator c with
      | true =>
        rw [scan_separator separates] at scans
        exact .separator separates (ih text.length (Nat.lt_succ_self _) scans plain rfl)
      | false =>
        by_cases quotes : c = '"'
        · subst quotes
          rw [scan_quote] at scans
          obtain ⟨written, codes, rest, rfl, gathers, scans⟩ := exists_of_scan_string scans
          obtain ⟨more, scanned, rfl⟩ := Option.map_eq_some_iff.mp scans
          rw [List.forall_mem_cons] at plain
          cases pairs : paired? codes with
          | none =>
            refine absurd plain.1 ?_
            rw [stringToken, List.reverse_nil, List.nil_append, pairs]
            exact not_false
          | some value =>
            rw [stringToken, List.reverse_nil, List.nil_append, pairs]
            refine .string (spells_iff.mpr ⟨codes, gathers, pairs⟩) (ih rest.length ?_ scanned plain.2 rfl)
            rw [List.length_cons, List.length_append, List.length_cons]
            omega
        · cases known : structural? c with
          | some token =>
            rw [scan_structural known] at scans
            obtain ⟨more, scanned, rfl⟩ := Option.map_eq_some_iff.mp scans
            rw [List.forall_mem_cons] at plain
            exact .structural known (ih text.length (Nat.lt_succ_self _) scanned plain.2 rfl)
          | none =>
            have silent : scanChar? .between c = some ([], .bare [c]) := by
              rw [scanChar?, begin?, separates, if_neg Bool.false_ne_true, if_neg quotes, known]
            rw [scan_cons_of_silent silent] at scans
            obtain ⟨token, _, _, reads, rfl⟩ := exists_of_scan_bare scans
            exact absurd (plain token List.mem_cons_self) (not_isPlain_of_bare? reads)

/-- **A text is scanned into plain tokens exactly if it writes them.** -/
theorem tokens?_eq_some_iff {text : List Char} {tokens : List Token}
    (plain : ∀ token ∈ tokens, token.IsPlain) : tokens? text = some tokens ↔ Writes text tokens :=
  ⟨fun scans => writes_of_tokens? scans plain, tokens?_of_writes⟩

end ClusterMdns.Json
