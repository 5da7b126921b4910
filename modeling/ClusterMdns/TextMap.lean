/-!
Maps from texts. The entries are kept in increasing order of their keys, so that equal maps are
equal as values and going through a map meets the keys in order.

Main statements: `get?_insert`, `get?_ofList` and `get?_erase` say what each operation does to every key,
and `mem_keys_iff` ties the listed keys to the look-up.
-/

namespace ClusterMdns

/-- What is found among entries with one more in front. -/
theorem lookup_cons_eq_if {α β : Type} [DecidableEq α] (key : α) (entry : α × β) (rest : List (α × β)) :
    (entry :: rest).lookup key = if entry.1 = key then some entry.2 else rest.lookup key := by
  obtain ⟨own, value⟩ := entry
  by_cases here : own = key
  · rw [if_pos here, here, List.lookup_cons_self]
  · rw [if_neg here, List.lookup_cons, beq_eq_false_iff_ne.mpr (Ne.symm here)]

/-- A map from texts, its entries in strictly increasing order of their keys. -/
structure TextMap (α : Type) where
  entries : List (String × α)
  increasing : entries.Pairwise fun first second => first.1 < second.1

namespace TextMap

variable {α : Type}

def empty : TextMap α := ⟨[], .nil⟩

instance : Inhabited (TextMap α) := ⟨empty⟩

/-- The keys, in increasing order. -/
def keys (map : TextMap α) : List String := map.entries.map Prod.fst

def size (map : TextMap α) : Nat := map.entries.length

def get? (map : TextMap α) (key : String) : Option α := map.entries.lookup key

def contains (map : TextMap α) (key : String) : Bool := (map.get? key).isSome

/-- Entries in increasing order with one more, which takes the place of an entry with its key. -/
def placed (key : String) (value : α) : List (String × α) → List (String × α)
  | [] => [(key, value)]
  | entry :: rest =>
    if key < entry.1 then (key, value) :: entry :: rest
    else if entry.1 = key then (key, value) :: rest
    else entry :: placed key value rest

theorem mem_placed {key : String} {value : α} {entries : List (String × α)}
    {entry : String × α} (mem : entry ∈ placed key value entries) :
    entry = (key, value) ∨ entry ∈ entries := by
  induction entries with
  | nil => simpa [placed] using mem
  | cons first rest ih =>
    simp only [placed] at mem
    split at mem
    · simpa using mem
    · split at mem
      · simp only [List.mem_cons] at mem ⊢
        rcases mem with same | later
        · exact .inl same
        · exact .inr (.inr later)
      · simp only [List.mem_cons] at mem ⊢
        rcases mem with same | later
        · exact .inr (.inl same)
        · rcases ih later with same | old
          · exact .inl same
          · exact .inr (.inr old)

theorem placed_increasing (key : String) (value : α) {entries : List (String × α)}
    (increasing : entries.Pairwise fun first second => first.1 < second.1) :
    (placed key value entries).Pairwise fun first second => first.1 < second.1 := by
  induction entries with
  | nil => simp [placed]
  | cons first rest ih =>
    rw [List.pairwise_cons] at increasing
    simp only [placed]
    split
    case isTrue before =>
      refine List.pairwise_cons.2 ⟨fun entry mem => ?_, List.pairwise_cons.2 increasing⟩
      rcases List.mem_cons.1 mem with rfl | later
      · exact before
      · exact String.lt_trans before (increasing.1 entry later)
    case isFalse notBefore =>
      split
      case isTrue same =>
        subst same
        exact List.pairwise_cons.2 ⟨fun entry mem => increasing.1 entry mem, increasing.2⟩
      case isFalse different =>
        refine List.pairwise_cons.2 ⟨fun entry mem => ?_, ih increasing.2⟩
        rcases mem_placed mem with rfl | later
        · refine String.not_le.1 fun le => ?_
          exact different (String.le_antisymm (String.not_lt.1 notBefore) le)
        · exact increasing.1 entry later

/-- The map with a value for a key, in place of the one it had. -/
def insert (map : TextMap α) (key : String) (value : α) : TextMap α :=
  ⟨placed key value map.entries, placed_increasing key value map.increasing⟩

def erase (map : TextMap α) (key : String) : TextMap α :=
  ⟨map.entries.filter fun entry => entry.1 != key, map.increasing.filter _⟩

/-- The map of a list of entries, in which a later entry replaces an earlier one with its key. -/
def ofList (entries : List (String × α)) : TextMap α :=
  entries.foldl (fun map entry => map.insert entry.1 entry.2) empty

theorem lookup_placed (key : String) (value : α) {entries : List (String × α)}
    (increasing : entries.Pairwise fun first second => first.1 < second.1) (asked : String) :
    (placed key value entries).lookup asked
      = if key = asked then some value else entries.lookup asked := by
  induction entries with
  | nil => exact lookup_cons_eq_if asked (key, value) []
  | cons first rest ih =>
    rw [List.pairwise_cons] at increasing
    rw [placed]
    split
    · rw [lookup_cons_eq_if]
    · split
      case isTrue same =>
        rw [lookup_cons_eq_if, lookup_cons_eq_if, same]
        split <;> rfl
      case isFalse different =>
        rw [lookup_cons_eq_if, lookup_cons_eq_if, ih increasing.2]
        by_cases here : first.1 = asked
        · subst here
          simp [Ne.symm different]
        · simp [here]

/-- After an insertion the key has the new value and every other key what it had. -/
theorem get?_insert (map : TextMap α) (key : String) (value : α) (asked : String) :
    (map.insert key value).get? asked = if key = asked then some value else map.get? asked :=
  lookup_placed key value map.increasing asked

theorem get?_empty (asked : String) : (empty : TextMap α).get? asked = none := rfl

/-- A map of entries has for a key what the last entry with this key has. -/
theorem get?_ofList (entries : List (String × α)) (key : String) :
    (ofList entries).get? key
      = entries.reverse.findSome? fun entry => if entry.1 = key then some entry.2 else none := by
  have from? : ∀ map : TextMap α,
      (entries.foldl (fun map entry => map.insert entry.1 entry.2) map).get? key
        = (entries.reverse.findSome? fun entry => if entry.1 = key then some entry.2 else none).or
          (map.get? key) := by
    induction entries with
    | nil => exact fun _ => rfl
    | cons entry rest ih =>
      intro map
      rw [List.foldl_cons, ih, get?_insert, List.reverse_cons, List.findSome?_append,
        List.findSome?_singleton, Option.or_assoc]
      split
      · rw [Option.some_or]
      · rw [Option.none_or]
  rw [ofList, from? empty, get?_empty, Option.or_none]

/-- After a removal the key has no value and every other key what it had. -/
theorem get?_erase (map : TextMap α) (key asked : String) :
    (map.erase key).get? asked = if key = asked then none else map.get? asked := by
  simp only [get?, erase]
  induction map.entries with
  | nil => simp
  | cons first rest ih =>
    by_cases gone : first.1 = key
    · rw [List.filter_cons_of_neg (by simp [gone]), ih]
      by_cases here : key = asked
      · simp [here]
      · simp [here, lookup_cons_eq_if, gone]
    · rw [List.filter_cons_of_pos (by simp [gone])]
      simp only [lookup_cons_eq_if, ih]
      by_cases here : key = asked
      · subst here
        simp [gone]
      · simp [here]

/-- A key is listed exactly if it has a value. -/
theorem mem_keys_iff (map : TextMap α) (key : String) :
    key ∈ map.keys ↔ map.contains key = true := by
  rw [keys, contains, get?, List.lookup_isSome_iff, List.mem_map]
  refine exists_congr fun entry => and_congr_right fun _ => ?_
  rw [beq_iff_eq, eq_comm]

theorem get?_eq_none {map : TextMap α} {key : String} (missing : key ∉ map.keys) :
    map.get? key = none := by
  rw [mem_keys_iff, contains, Bool.not_eq_true, Option.isSome_eq_false_iff,
    Option.isNone_iff_eq_none] at missing
  exact missing

/-- Of a key there is the entry that the look-up finds, and no other. -/
theorem filter_entries (map : TextMap α) (key : String) :
    map.entries.filter (fun entry => entry.1 == key) = ((map.get? key).map (key, ·)).toList := by
  obtain ⟨entries, increasing⟩ := map
  simp only [get?]
  induction entries with
  | nil => rfl
  | cons first rest ih =>
    rw [List.pairwise_cons] at increasing
    by_cases here : first.1 = key
    · have others : rest.filter (fun entry => entry.1 == key) = [] := by
        refine List.filter_eq_nil_iff.mpr fun entry later same => ?_
        have before := increasing.1 entry later
        rw [here, beq_iff_eq.mp same] at before
        exact String.lt_irrefl key before
      subst here
      rw [List.filter_cons_of_pos (by simp), others, lookup_cons_eq_if, if_pos rfl]
      rfl
    · rw [List.filter_cons_of_neg (by simpa using here), lookup_cons_eq_if, if_neg here]
      exact ih increasing.2

/-- The entries are what the look-up finds. -/
theorem mem_entries_iff (map : TextMap α) (key : String) (value : α) :
    (key, value) ∈ map.entries ↔ map.get? key = some value := by
  have same : (key, value) ∈ map.entries
      ↔ (key, value) ∈ map.entries.filter fun entry => entry.1 == key := by
    simp
  rw [same, filter_entries, Option.mem_toList, Option.map_eq_some_iff]
  simp

/-- The keys before that of an entry are smaller and those after it larger. -/
theorem exists_split_entries {map : TextMap α} {key : String} {value : α}
    (found : map.get? key = some value) :
    ∃ before after, map.entries = before ++ (key, value) :: after ∧
      (∀ entry ∈ before, entry.1 < key) ∧ ∀ entry ∈ after, key < entry.1 := by
  obtain ⟨before, after, split⟩ := List.append_of_mem ((map.mem_entries_iff key value).mpr found)
  have increasing := map.increasing
  rw [split, List.pairwise_append, List.pairwise_cons] at increasing
  refine ⟨before, after, split, fun entry member => ?_, increasing.2.1.1⟩
  exact increasing.2.2 entry member (key, value) List.mem_cons_self

end TextMap

end ClusterMdns
