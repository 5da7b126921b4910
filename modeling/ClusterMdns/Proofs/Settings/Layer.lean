import ClusterMdns.Settings.Path
import ClusterMdns.TextMap

/-!
What a layer of settings makes of the value at a place in a tree.

Of all that a layer gives for a place, the last value counts that is no table: tables are merged into what
is there. A table may still come to stand at the place, which no setting is read from (`Settles`). This
needs that the way to the place stays passable, that is that a layer gives the tables on it nothing but
tables and reaches none of them by an index.

* `Settles.trans`: layers on top of each other, of which the upper one counts.
* `settles_merged`, `settles_setSteps`: one value set, by merging and at the end of steps.
* `settles_overlaid`: a whole layer.
-/

namespace ClusterMdns

/-- The steps from the root of a tree to a place. -/
def SettingPath.allSteps (path : SettingPath) : List PathStep := .key path.root :: path.steps

namespace SettingValue

/-! ### Places -/

/-- Whether a value is no table. -/
def IsLeaf (value : SettingValue) : Prop := ∀ entries, value ≠ table entries

/-- The value at the end of the keys of a place, if there is one. -/
def valueAt? : List String → Option SettingValue → Option SettingValue
  | [], value => value
  | name :: rest, value => valueAt? rest ((value.getD nothing).entries.lookup name)

@[simp]
theorem valueAt?_none (place : List String) : valueAt? place none = none := by
  induction place with
  | nil => rfl
  | cons name rest ih => exact ih

/-- What the last of several gives that gives anything. -/
def lastSome? {α : Type} (read? : α → Option SettingValue) (all : List α) : Option SettingValue :=
  all.reverse.findSome? read?

/-- The last value other than a table that a value gives for a place in it. The case of its keys does
not count. -/
def given? : List String → SettingValue → Option SettingValue
  | [], table _ => none
  | [], value => some value
  | name :: rest, value =>
    lastSome? (fun entry => if lowered entry.1 = name then given? rest entry.2 else none)
      value.entries

/-- The last value other than a table that a value at the end of steps gives for a place. -/
def givenBy? (value : SettingValue) : List String → List PathStep → Option SettingValue
  | place, [] => given? place value
  | name :: rest, .key key :: steps =>
    if lowered key = name then givenBy? value rest steps else none
  | _, _ => none

/-- Whether all that a value holds on the way to a place in it is tables. -/
def IsPassable : List String → SettingValue → Prop
  | [], _ => True
  | name :: rest, table entries =>
    ∀ entry ∈ entries, lowered entry.1 = name → IsPassable rest entry.2
  | _ :: _, _ => False

instance decidableIsPassable : (place : List String) → (value : SettingValue) →
    Decidable (IsPassable place value)
  | [], _ => isTrue trivial
  | name :: rest, table entries =>
    have := decidableIsPassable rest
    inferInstanceAs (Decidable (∀ entry ∈ entries, lowered entry.1 = name → IsPassable rest entry.2))
  | _ :: _, nothing | _ :: _, flag _ | _ :: _, integer _ | _ :: _, float _ | _ :: _, text _
  | _ :: _, list _ => isFalse id

/-- Whether a value at the end of steps leaves the way to a place to tables. -/
def LeavesPassable (value : SettingValue) : List String → List PathStep → Prop
  | place, [] => IsPassable place value
  | [], .key _ :: _ => True
  | name :: rest, .key key :: steps => lowered key = name → LeavesPassable value rest steps
  | _, .item _ :: _ => False

instance decidableLeavesPassable (value : SettingValue) : (place : List String) →
    (steps : List PathStep) → Decidable (LeavesPassable value place steps)
  | place, [] => decidable_of_iff (IsPassable place value) (by rw [LeavesPassable])
  | [], .key _ :: _ => isTrue trivial
  | name :: rest, .key key :: steps =>
    have := decidableLeavesPassable value rest steps
    inferInstanceAs (Decidable (lowered key = name → LeavesPassable value rest steps))
  | [], .item _ :: _ | _ :: _, .item _ :: _ => isFalse id

/-- The last value other than a table that a layer gives for a place. -/
def givenIn? (place : List String) (entries : List (String × SettingValue)) : Option SettingValue :=
  lastSome? (fun entry => givenBy? entry.2 place (SettingPath.ofText entry.1).allSteps) entries

/-- Whether a layer leaves the way to a place to tables. -/
def KeepsPassable (place : List String) (entries : List (String × SettingValue)) : Prop :=
  ∀ entry ∈ entries, LeavesPassable entry.2 place (SettingPath.ofText entry.1).allSteps

instance (place : List String) (entries : List (String × SettingValue)) :
    Decidable (KeepsPassable place entries) :=
  inferInstanceAs (Decidable (∀ entry ∈ entries, _))

/-! ### Values that are no tables -/

section Leaves

variable {value : SettingValue}

theorem IsLeaf.entries_eq (leaf : IsLeaf value) : value.entries = [] := by
  cases value with
  | table entries => exact absurd rfl (leaf entries)
  | _ => rfl

theorem IsLeaf.merged_eq (leaf : IsLeaf value) (old : Option SettingValue) : merged old value = value := by
  cases value with
  | table entries => exact absurd rfl (leaf entries)
  | _ => rfl

/-- A value that is no table is given for its own place alone. -/
theorem IsLeaf.given?_eq (leaf : IsLeaf value) (place : List String) :
    given? place value = if place = [] then some value else none := by
  cases place with
  | nil =>
    cases value with
    | table entries => exact absurd rfl (leaf entries)
    | _ => rfl
  | cons name rest =>
    unfold given?
    rw [leaf.entries_eq, if_neg (List.cons_ne_nil name rest)]
    rfl

end Leaves

/-! ### One layer on another -/

/-- Whether a place where a value is given holds this value then, or what it held where none is given.
It may also hold a table instead. -/
def Settles (given old new : Option SettingValue) : Prop :=
  new = given.or old ∨ ∃ entries, new = some (table entries)

theorem Settles.refl (old : Option SettingValue) : Settles none old old := .inl rfl

theorem Settles.of_table {given old : Option SettingValue} (entries : List (String × SettingValue)) :
    Settles given old (some (table entries)) :=
  .inr ⟨entries, rfl⟩

/-- **Of two layers the upper one counts** where it gives a value. -/
theorem Settles.trans {first second old between new : Option SettingValue}
    (lower : Settles first old between) (upper : Settles second between new) :
    Settles (second.or first) old new := by
  rcases upper with rfl | table
  · cases second with
    | some value => exact .inl rfl
    | none =>
      rw [Option.none_or, Option.none_or]
      exact lower
  · exact .inr table

/-! ### Entries -/

theorem lookup_placedIn (key name : String) (value : SettingValue)
    (entries : List (String × SettingValue)) :
    (placedIn key value entries).lookup name
      = if key = name then some value else entries.lookup name := by
  induction entries with
  | nil => exact lookup_cons_eq_if name (key, value) []
  | cons entry rest ih =>
    unfold placedIn
    split
    case isTrue own =>
      rw [lookup_cons_eq_if, lookup_cons_eq_if, own]
      split <;> rfl
    case isFalse other =>
      rw [lookup_cons_eq_if, lookup_cons_eq_if, ih]
      split
      case isTrue found =>
        rw [if_neg]
        rintro rfl
        exact other found
      case isFalse => rfl

theorem lastSome?_cons {α : Type} (read? : α → Option SettingValue) (first : α) (rest : List α) :
    lastSome? read? (first :: rest) = (lastSome? read? rest).or (read? first) := by
  unfold lastSome?
  rw [List.reverse_cons, List.findSome?_append, List.findSome?_singleton]

theorem lastSome?_append {α : Type} (read? : α → Option SettingValue) (first rest : List α) :
    lastSome? read? (first ++ rest) = (lastSome? read? rest).or (lastSome? read? first) := by
  unfold lastSome?
  rw [List.reverse_append, List.findSome?_append]

theorem lastSome?_congr {α : Type} {read? other? : α → Option SettingValue} {all : List α}
    (agree : ∀ one ∈ all, read? one = other? one) : lastSome? read? all = lastSome? other? all := by
  induction all with
  | nil => rfl
  | cons first rest ih =>
    rw [List.forall_mem_cons] at agree
    rw [lastSome?_cons, lastSome?_cons, agree.1, ih agree.2]

theorem exists_mergedEntries_eq (old entries : List (String × SettingValue)) :
    ∃ merged, mergedEntries (table old) entries = table merged := by
  induction entries generalizing old with
  | nil => exact ⟨old, rfl⟩
  | cons entry rest ih =>
    obtain ⟨name, value⟩ := entry
    exact ih _

/-! ### Values set in a tree -/

section Tree

variable {name : String} {rest : List String}

/-- What stands under a name after a value was placed under a key. -/
theorem Settles.placed {key : String} {value : SettingValue} {entries : List (String × SettingValue)}
    {given : Option SettingValue}
    (own : lowered key = name →
      Settles given (valueAt? rest (entries.lookup name)) (valueAt? rest (some value))) :
    Settles (if lowered key = name then given else none) (valueAt? rest (entries.lookup name))
      (valueAt? rest ((placedIn (lowered key) value entries).lookup name)) := by
  rw [lookup_placedIn]
  split
  case isTrue same => exact own same
  case isFalse => exact .refl _

/-- **A value merged into a tree** settles each place that it leaves passable. -/
theorem settles_merged {place : List String} {value : SettingValue} {old : Option SettingValue}
    (passable : IsPassable place value) :
    Settles (given? place value) (valueAt? place old) (valueAt? place (some (merged old value))) := by
  induction place generalizing value old with
  | nil =>
    cases value with
    | table entries =>
      cases entries with
      | nil =>
        cases old with
        | none => exact .of_table []
        | some held => exact .refl _
      | cons entry rest =>
        obtain ⟨name, value⟩ := entry
        obtain ⟨entries, isTable⟩ := exists_mergedEntries_eq
          (placedIn (lowered name) (merged ((old.getD (table [])).entries.lookup (lowered name)) value)
            (old.getD (table [])).entries) rest
        exact .inr ⟨entries, congrArg some isTable⟩
    | _ => exact .inl rfl
  | cons name rest ih =>
    cases value with
    | table entries =>
      -- One entry after the other is merged into the tree.
      have each : ∀ tree : SettingValue,
          Settles (given? (name :: rest) (table entries)) (valueAt? (name :: rest) (some tree))
            (valueAt? (name :: rest) (some (mergedEntries tree entries))) := by
        induction entries with
        | nil => exact fun tree => .refl _
        | cons entry more inner =>
          intro tree
          obtain ⟨key, value⟩ := entry
          unfold IsPassable at passable
          rw [List.forall_mem_cons] at passable
          unfold given?
          rw [entries, lastSome?_cons]
          refine Settles.trans ?_ (inner passable.2 _)
          exact Settles.placed fun own => own ▸ ih (passable.1 own)
      cases old with
      | none => exact each (table [])
      | some held => exact each held
    | _ => exact absurd passable id

/-- **A value set at the end of steps** settles each place that it leaves passable. -/
theorem settles_setSteps {value : SettingValue} {steps : List PathStep} {place : List String}
    {old : Option SettingValue} (passable : LeavesPassable value place steps) :
    Settles (givenBy? value place steps) (valueAt? place old)
      (valueAt? place (some (setSteps value steps old))) := by
  induction steps generalizing place old with
  | nil =>
    unfold LeavesPassable at passable
    unfold givenBy?
    exact settles_merged passable
  | cons step steps ih =>
    cases step with
    | item index => cases place <;> exact absurd passable id
    | key key =>
      cases place with
      | nil => exact .of_table _
      | cons name rest =>
        exact Settles.placed fun own => own ▸ ih (passable own)

/-- **A layer** settles each place that it leaves passable. -/
theorem settles_overlaid {place : List String} {entries : List (String × SettingValue)}
    (passable : KeepsPassable place entries) (tree : SettingValue) :
    Settles (givenIn? place entries) (valueAt? place (some tree))
      (valueAt? place (some (tree.overlaid entries))) := by
  induction entries generalizing tree with
  | nil => exact .refl _
  | cons entry more ih =>
    unfold KeepsPassable at passable
    rw [List.forall_mem_cons] at passable
    unfold givenIn?
    rw [lastSome?_cons]
    exact Settles.trans (settles_setSteps passable.1) (ih passable.2 _)

end Tree

end SettingValue

end ClusterMdns
