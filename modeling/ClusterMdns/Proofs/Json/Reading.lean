import ClusterMdns.Proofs.Json.Grammar
import ClusterMdns.Proofs.Json.Values

/-!
Which texts are read as a value that consists of objects and strings.

The tokens of such a value are plain, and as long as it is shallow enough they close what they open before they
nest too deep (`Balanced`). Then nothing stands in the way of reading it.

* `balanced_object`: an object is balanced if each of its members is, one level deeper.
* `read?_eq_some_iff`: a value with balanced tokens is read from exactly the texts that write them.
-/

namespace ClusterMdns.Json

/-- Whether tokens are plain and close what they open, at a depth from which they may nest up to a limit. -/
structure Balanced (limit depth : Nat) (tokens : List Token) : Prop where
  plain : ∀ token ∈ tokens, token.IsPlain
  nests : ∀ rest, nestsWithin limit depth (tokens ++ rest) = nestsWithin limit depth rest

variable {limit depth : Nat}

theorem balanced_nil : Balanced limit depth [] :=
  ⟨fun _ member => absurd member List.not_mem_nil, fun _ => rfl⟩

theorem Balanced.append {first second : List Token} (balanced : Balanced limit depth first)
    (more : Balanced limit depth second) : Balanced limit depth (first ++ second) where
  plain token member := (List.mem_append.mp member).elim (balanced.plain token) (more.plain token)
  nests rest := by rw [List.append_assoc, balanced.nests, more.nests]

theorem balanced_singleton {token : Token} (plain : token.IsPlain)
    (flat : ∀ rest, nestsWithin limit depth (token :: rest) = nestsWithin limit depth rest) :
    Balanced limit depth [token] where
  plain other member := by
    obtain rfl := List.mem_singleton.mp member
    exact plain
  nests := flat

theorem balanced_string (text : String) : Balanced limit depth [.string (some text)] :=
  balanced_singleton trivial fun _ => rfl

theorem balanced_intercalate {parts : List (List Token)}
    (each : ∀ part ∈ parts, Balanced limit depth part) :
    Balanced limit depth ([.comma].intercalate parts) := by
  cases parts with
  | nil => exact balanced_nil
  | cons own rest =>
    rw [List.forall_mem_cons] at each
    rw [intercalate_cons]
    refine each.1.append ?_
    replace each := each.2
    induction rest with
    | nil => exact balanced_nil
    | cons next rest ih =>
      rw [List.forall_mem_cons] at each
      have comma : Balanced limit depth [.comma] := balanced_singleton trivial fun _ => rfl
      exact (comma.append each.1).append (ih each.2)

/-- **An object is balanced if each of its members is, one level deeper.** -/
theorem balanced_object {members : List (String × Json)} (room : depth < limit)
    (each : ∀ member ∈ members, Balanced limit (depth + 1) (written member.2)) :
    Balanced limit depth (written (.object members)) := by
  have inner : ∀ part ∈ writtenMembers members, Balanced limit (depth + 1) part := by
    induction members with
    | nil => exact fun _ member => absurd member List.not_mem_nil
    | cons member rest ih =>
      rw [List.forall_mem_cons] at each
      have colon : Balanced limit (depth + 1) [.colon] := balanced_singleton trivial fun _ => rfl
      rw [writtenMembers, List.forall_mem_cons]
      exact ⟨(balanced_string member.1).append (colon.append each.1), ih each.2⟩
  have listed := balanced_intercalate inner
  rw [written]
  constructor
  · intro token member
    rw [List.cons_append, List.mem_cons, List.mem_append, List.mem_singleton] at member
    obtain rfl | member | rfl := member
    · exact trivial
    · exact listed.plain token member
    · exact trivial
  · intro rest
    rw [List.append_assoc, List.cons_append, nestsWithin, decide_eq_true room, Bool.true_and,
      listed.nests]
    rfl

theorem isIntact_of_isPlain {token : Token} (plain : token.IsPlain) : token.isIntact = true := by
  cases token with
  | string text =>
    cases text with
    | none => exact absurd plain not_false
    | some text => rfl
  | null | bool | integer | decimal => exact absurd plain not_false
  | _ => rfl

/-- **A value with balanced tokens is read from exactly the texts that write them.** -/
theorem read?_eq_some_iff {value : Json} (balanced : Balanced depthLimit 0 (written value)) {text : String} :
    read? text = some value ↔ Writes text.toList (written value) := by
  have intact : (written value).all Token.isIntact = true :=
    List.all_eq_true.mpr fun token member => isIntact_of_isPlain (balanced.plain token member)
  have nested : nestsWithin depthLimit 0 (written value) = true := by
    rw [← List.append_nil (written value), balanced.nests]
    rfl
  constructor
  · intro reads
    obtain ⟨tokens, scans, reads⟩ := Option.bind_eq_some_iff.mp reads
    split at reads
    case isFalse => cases reads
    case isTrue whole =>
      rw [Bool.and_eq_true, List.all_eq_true] at whole
      obtain rfl : tokens = written value :=
        eq_written_of_ofTokens? (fun garbled => Bool.false_ne_true (whole.1 _ garbled)) reads
      exact writes_of_tokens? scans balanced.plain
  · intro writes
    rw [read?, tokens?_of_writes writes]
    show (if _ then _ else _) = _
    rw [intact, nested, Bool.and_true, if_pos rfl, ofTokens?_written]

end ClusterMdns.Json
