import ClusterMdns.Json.Reader
import ClusterMdns.Proofs.Text.Parts

/-!
The reader of JSON and the tokens of a value.

Each value has its tokens (`written`). Going forward, the reader takes them and has the value. Going back, what
a reader has taken is told from its stack: for each open array or object the items or members read so far, each
followed by a comma (`Frame`), and then what it is in the middle of (`Consumed`).

* `ofTokens?_written`: each value is read back from its tokens.
* `Consumed.take?`: the step lemma, what a reader has taken after one more token.
* `eq_written_of_ofTokens?`: tokens without garbled strings are read as a value only if they are its tokens.
-/

namespace ClusterMdns.Json

mutual

/-- The tokens of a value. -/
def written : Json → List Token
  | .null => [.null]
  | .bool value => [.bool value]
  | .integer value => [.integer value]
  | .decimal mantissa exponent => [.decimal mantissa exponent]
  | .string text => [.string (some text)]
  | .array items => .openArray :: [.comma].intercalate (writtenItems items) ++ [.closeArray]
  | .object members => .openObject :: [.comma].intercalate (writtenMembers members) ++ [.closeObject]
  | .garbled => [.string none]

/-- The tokens of each item of an array. -/
def writtenItems : List Json → List (List Token)
  | [] => []
  | item :: rest => written item :: writtenItems rest

/-- The tokens of each member of an object. -/
def writtenMembers : List (String × Json) → List (List Token)
  | [] => []
  | (key, value) :: rest => (.string (some key) :: .colon :: written value) :: writtenMembers rest

end

/-! ### From a value to its tokens and back -/

namespace Reader

/-- Members as they are kept while an object is open, where a key may be garbled. -/
def keyed (members : List (String × Json)) : List (Option String × Json) :=
  members.map fun member => (some member.1, member.2)

theorem objectOf_keyed (members : List (String × Json)) : objectOf (keyed members) = .object members := by
  have whole : (keyed members).mapM (fun member => member.1.map fun key => (key, member.2))
      = some members := by
    unfold keyed
    induction members with
    | nil => rfl
    | cons member rest ih =>
      rw [List.map_cons, List.mapM_cons, ih]
      rfl
  rw [objectOf, whole]

/-- Where an array may end, the tokens of a value are taken as where it may not. -/
theorem foldlM_written_of_valueOrEnd (value : Json) (stack : List Open) :
    (written value).foldlM take? ⟨stack, .valueOrEnd⟩ = (written value).foldlM take? ⟨stack, .value⟩ := by
  cases value <;> rfl

mutual

/-- **The reader takes the tokens of a value and has it.** -/
theorem foldlM_written (value : Json) (stack : List Open) :
    (written value).foldlM take? ⟨stack, .value⟩ = some (place stack value) :=
  match value with
  | .null | .bool _ | .integer _ | .decimal _ _ | .string _ | .garbled => rfl
  | .array [] => rfl
  | .object [] => rfl
  | .array (item :: rest) => by
    have first : (written item).foldlM take? ⟨.array [] :: stack, .valueOrEnd⟩
        = some ⟨.array [item] :: stack, .commaOrEnd⟩ := by
      rw [foldlM_written_of_valueOrEnd, foldlM_written item]
      rfl
    have closed : [Token.closeArray].foldlM take? ⟨.array (rest.reverse ++ [item]) :: stack, .commaOrEnd⟩
        = some (place stack (.array (item :: rest))) := by
      show some (place stack (.array (rest.reverse ++ [item]).reverse)) = _
      rw [List.reverse_append, List.reverse_reverse, List.reverse_singleton, List.singleton_append]
    rw [written, writtenItems, intercalate_cons, List.cons_append, List.foldlM_cons, List.append_assoc]
    show (written item ++ _).foldlM take? ⟨.array [] :: stack, .valueOrEnd⟩ = _
    rw [List.foldlM_append, first]
    show (_ ++ [Token.closeArray]).foldlM take? ⟨.array [item] :: stack, .commaOrEnd⟩ = _
    rw [List.foldlM_append, foldlM_writtenItems rest]
    exact closed
  | .object ((key, member) :: rest) => by
    obtain ⟨last, following⟩ := foldlM_writtenMembers rest [(some key, member)] (some key) stack
    have closed : [Token.closeObject].foldlM take?
        ⟨.object ((keyed rest).reverse ++ [(some key, member)]) last :: stack, .commaOrEnd⟩
        = some (place stack (.object ((key, member) :: rest))) := by
      show some (place stack (objectOf ((keyed rest).reverse ++ [(some key, member)]).reverse)) = _
      rw [List.reverse_append, List.reverse_reverse, ← objectOf_keyed]
      rfl
    rw [written, writtenMembers, intercalate_cons, List.cons_append, List.foldlM_cons, List.append_assoc]
    show (written member ++ _).foldlM take? ⟨.object [] (some key) :: stack, .value⟩ = _
    rw [List.foldlM_append, foldlM_written member]
    show (_ ++ [Token.closeObject]).foldlM take?
      ⟨.object [(some key, member)] (some key) :: stack, .commaOrEnd⟩ = _
    rw [List.foldlM_append, following]
    exact closed

/-- The reader takes further items of an array, each after a comma. -/
theorem foldlM_writtenItems (items before : List Json) (stack : List Open) :
    ((writtenItems items).flatMap (.comma :: ·)).foldlM take? ⟨.array before :: stack, .commaOrEnd⟩
      = some ⟨.array (items.reverse ++ before) :: stack, .commaOrEnd⟩ :=
  match items with
  | [] => rfl
  | item :: rest => by
    rw [writtenItems, List.flatMap_cons, List.foldlM_append]
    show ((written item).foldlM take? ⟨.array before :: stack, .value⟩).bind _ = _
    rw [foldlM_written item, Option.bind_some]
    show ((writtenItems rest).flatMap _).foldlM take? ⟨.array (item :: before) :: stack, .commaOrEnd⟩ = _
    rw [foldlM_writtenItems rest, List.reverse_cons, List.append_assoc, List.singleton_append]

/-- The reader takes further members of an object, each after a comma. -/
theorem foldlM_writtenMembers (members : List (String × Json)) (before : List (Option String × Json))
    (key : Option String) (stack : List Open) :
    ∃ last, ((writtenMembers members).flatMap (.comma :: ·)).foldlM take?
        ⟨.object before key :: stack, .commaOrEnd⟩
      = some ⟨.object ((keyed members).reverse ++ before) last :: stack, .commaOrEnd⟩ :=
  match members with
  | [] => ⟨key, rfl⟩
  | (name, value) :: rest => by
    obtain ⟨last, following⟩ :=
      foldlM_writtenMembers rest ((some name, value) :: before) (some name) stack
    refine ⟨last, ?_⟩
    rw [writtenMembers, List.flatMap_cons, List.foldlM_append]
    show ((written value).foldlM take? ⟨.object before (some name) :: stack, .value⟩).bind _ = _
    rw [foldlM_written value, Option.bind_some]
    refine following.trans ?_
    rw [keyed, keyed, List.map_cons, List.reverse_cons, List.append_assoc, List.singleton_append]

end

end Reader

/-- **Each value is read back from its tokens.** -/
theorem ofTokens?_written (value : Json) : ofTokens? (written value) = some value := by
  rw [ofTokens?, Reader.start, Reader.foldlM_written]
  rfl

/-! ### What a reader has taken -/

/-- Items or members that are each followed by a comma. -/
def followed (parts : List (List Token)) : List Token := parts.flatMap (· ++ [.comma])

theorem writtenItems_concat (items : List Json) (last : Json) :
    writtenItems (items ++ [last]) = writtenItems items ++ [written last] := by
  induction items with
  | nil => rfl
  | cons item rest ih => rw [List.cons_append, writtenItems, writtenItems, ih, List.cons_append]

theorem writtenMembers_concat (members : List (String × Json)) (key : String) (value : Json) :
    writtenMembers (members ++ [(key, value)])
      = writtenMembers members ++ [.string (some key) :: .colon :: written value] := by
  induction members with
  | nil => rfl
  | cons member rest ih => rw [List.cons_append, writtenMembers, writtenMembers, ih, List.cons_append]

theorem followed_concat (parts : List (List Token)) (last : List Token) :
    followed (parts ++ [last]) = followed parts ++ (last ++ [.comma]) := by
  rw [followed, List.flatMap_append, List.flatMap_singleton]
  rfl

namespace Reader

/-- What has been taken of an open array or object that waits for a value: the items or members so far,
each followed by a comma, and the key of the member that the value is for. -/
inductive Frame : Open → List Token → Prop
  | array (items : List Json) :
    Frame (.array items) (.openArray :: followed (writtenItems items.reverse))
  | object (members : List (String × Json)) (key : String) :
    Frame (.object (keyed members) (some key))
      (.openObject :: followed (writtenMembers members.reverse) ++ [.string (some key), .colon])

/-- What has been taken where a value is awaited, outermost first. -/
inductive Stacked : List Open → List Token → Prop
  | nil : Stacked [] []
  | cons {innermost : Open} {stack : List Open} {own before : List Token} (frame : Frame innermost own)
    (outer : Stacked stack before) : Stacked (innermost :: stack) (before ++ own)

/-- What a reader has taken, where no key and no text was garbled. -/
inductive Consumed : Reader → List Token → Prop
  | value {stack : List Open} {before : List Token} (outer : Stacked stack before) :
    Consumed ⟨stack, .value⟩ before
  | valueOrEnd {stack : List Open} {before : List Token} (outer : Stacked stack before) :
    Consumed ⟨.array [] :: stack, .valueOrEnd⟩ (before ++ [.openArray])
  | keyOrEnd {stack : List Open} {before : List Token} (outer : Stacked stack before) :
    Consumed ⟨.object [] none :: stack, .keyOrEnd⟩ (before ++ [.openObject])
  | key {stack : List Open} {before : List Token} (members : List (String × Json))
    (last : Option String) (outer : Stacked stack before) :
    Consumed ⟨.object (keyed members) last :: stack, .key (keyed members)⟩
      (before ++ .openObject :: followed (writtenMembers members.reverse))
  | colon {stack : List Open} {before : List Token} (members : List (String × Json)) (key : String)
    (outer : Stacked stack before) :
    Consumed ⟨.object (keyed members) (some key) :: stack, .colon⟩
      (before ++ .openObject :: (followed (writtenMembers members.reverse) ++ [.string (some key)]))
  | item {stack : List Open} {before : List Token} (items : List Json) (last : Json)
    (outer : Stacked stack before) :
    Consumed ⟨.array (last :: items) :: stack, .commaOrEnd⟩
      (before ++ .openArray :: (followed (writtenItems items.reverse) ++ written last))
  | member {stack : List Open} {before : List Token} (members : List (String × Json)) (key : String)
    (value : Json) (outer : Stacked stack before) :
    Consumed ⟨.object (keyed ((key, value) :: members)) (some key) :: stack, .commaOrEnd⟩
      (before ++ .openObject :: (followed (writtenMembers members.reverse)
        ++ .string (some key) :: .colon :: written value))
  | nothing (value : Json) : Consumed ⟨[], .nothing value⟩ (written value)

variable {stack : List Open} {before : List Token}

/-- A value is placed where it is awaited. -/
theorem Stacked.place (outer : Stacked stack before) (value : Json) :
    Consumed (place stack value) (before ++ written value) := by
  cases outer with
  | nil => exact .nothing value
  | cons frame outer =>
    cases frame with
    | array items =>
      rw [List.append_assoc]
      exact .item items value outer
    | object members key =>
      rw [List.append_assoc, List.cons_append, List.cons_append, List.append_assoc]
      exact .member members key value outer

/-- What a reader that awaits a value has taken after one more token. -/
theorem Stacked.takeValue? (outer : Stacked stack before) {token : Token}
    (intact : token ≠ .string none) {next : Reader} (taken : takeValue? stack token = some next) :
    Consumed next (before ++ [token]) := by
  cases token with
  | null =>
    obtain rfl := Option.some.inj taken
    exact outer.place .null
  | bool value =>
    obtain rfl := Option.some.inj taken
    exact outer.place (.bool value)
  | integer value =>
    obtain rfl := Option.some.inj taken
    exact outer.place (.integer value)
  | decimal mantissa exponent =>
    obtain rfl := Option.some.inj taken
    exact outer.place (.decimal mantissa exponent)
  | string text =>
    cases text with
    | none => exact absurd rfl intact
    | some text =>
      obtain rfl := Option.some.inj taken
      exact outer.place (.string text)
  | openArray =>
    obtain rfl := Option.some.inj taken
    exact .valueOrEnd outer
  | openObject =>
    obtain rfl := Option.some.inj taken
    exact .keyOrEnd outer
  | closeArray | closeObject | colon | comma => cases taken

theorem written_array_concat (items : List Json) (last : Json) :
    written (.array (items ++ [last]))
      = .openArray :: (followed (writtenItems items) ++ written last) ++ [.closeArray] := by
  rw [written, writtenItems_concat, intercalate_concat]
  rfl

theorem written_object_concat (members : List (String × Json)) (key : String) (value : Json) :
    written (.object (members ++ [(key, value)]))
      = .openObject :: (followed (writtenMembers members)
        ++ .string (some key) :: .colon :: written value) ++ [.closeObject] := by
  rw [written, writtenMembers_concat, intercalate_concat]
  rfl

theorem keyed_reverse (members : List (String × Json)) :
    (keyed members).reverse = keyed members.reverse :=
  List.map_reverse.symm

/-- **What a reader has taken after one more token.** -/
theorem Consumed.take? {reader : Reader} (consumed : Consumed reader before) {token : Token}
    (intact : token ≠ .string none) {next : Reader} (taken : take? reader token = some next) :
    Consumed next (before ++ [token]) := by
  cases consumed with
  | value outer => exact outer.takeValue? intact taken
  | valueOrEnd outer =>
    by_cases ends : token = .closeArray
    · subst ends
      obtain rfl := Option.some.inj taken
      rw [List.append_assoc]
      exact outer.place (.array [])
    · have within : Stacked _ _ := .cons (.array []) outer
      refine within.takeValue? intact (Eq.trans ?_ taken)
      cases token with
      | closeArray => exact absurd rfl ends
      | _ => rfl
  | keyOrEnd outer =>
    cases token with
    | closeObject =>
      obtain rfl := Option.some.inj taken
      rw [List.append_assoc]
      exact outer.place (.object [])
    | string text =>
      cases text with
      | none => exact absurd rfl intact
      | some key =>
        obtain rfl := Option.some.inj taken
        rw [List.append_assoc]
        exact .colon [] key outer
    | _ => cases taken
  | key members last outer =>
    cases token with
    | string text =>
      cases text with
      | none => exact absurd rfl intact
      | some key =>
        obtain rfl := Option.some.inj taken
        rw [List.append_assoc]
        exact .colon members key outer
    | _ => cases taken
  | colon members key outer =>
    cases token with
    | colon =>
      obtain rfl := Option.some.inj taken
      rw [List.append_assoc, List.cons_append, List.append_assoc]
      exact .value (.cons (.object members key) outer)
    | _ => cases taken
  | item items last outer =>
    cases token with
    | comma =>
      obtain rfl := Option.some.inj taken
      have within : Stacked _ _ := .cons (.array (last :: items)) outer
      rw [List.reverse_cons, writtenItems_concat, followed_concat, ← List.append_assoc] at within
      rw [List.append_assoc]
      exact .value within
    | closeArray =>
      obtain rfl := Option.some.inj taken
      rw [List.append_assoc, ← written_array_concat, ← List.reverse_cons]
      exact outer.place _
    | _ => cases taken
  | member members key value outer =>
    cases token with
    | comma =>
      obtain rfl := Option.some.inj taken
      have next := Consumed.key ((key, value) :: members) (some key) outer
      rw [List.reverse_cons, writtenMembers_concat, followed_concat, ← List.append_assoc] at next
      rw [List.append_assoc]
      exact next
    | closeObject =>
      obtain rfl := Option.some.inj taken
      rw [List.append_assoc, ← written_object_concat, ← List.reverse_cons, keyed_reverse,
        objectOf_keyed]
      exact outer.place _
    | _ => cases taken
  | nothing value => cases taken

/-- What a reader has taken after more tokens. -/
theorem Consumed.foldlM {reader : Reader} {tokens : List Token} (consumed : Consumed reader before)
    (intact : .string none ∉ tokens) {last : Reader}
    (taken : tokens.foldlM Reader.take? reader = some last) : Consumed last (before ++ tokens) := by
  induction tokens generalizing reader before with
  | nil =>
    obtain rfl := Option.some.inj taken
    rwa [List.append_nil]
  | cons token rest ih =>
    rw [List.mem_cons, not_or] at intact
    obtain ⟨next, takes, taken⟩ := Option.bind_eq_some_iff.mp taken
    have more := ih (consumed.take? (Ne.symm intact.1) takes) intact.2 taken
    rwa [List.append_assoc, List.singleton_append] at more

end Reader

/-- **Tokens without garbled strings are read as a value only if they are its tokens.** -/
theorem eq_written_of_ofTokens? {tokens : List Token} {value : Json} (intact : .string none ∉ tokens)
    (reads : ofTokens? tokens = some value) : tokens = written value := by
  obtain ⟨last, taken, complete⟩ := Option.bind_eq_some_iff.mp reads
  have consumed := Reader.Consumed.foldlM (.value .nil) intact taken
  rw [List.nil_append] at consumed
  cases consumed with
  | nothing value =>
    obtain rfl := Option.some.inj complete
    rfl
  | _ => cases complete

end ClusterMdns.Json
