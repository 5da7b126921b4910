import ClusterMdns.Proofs.Settings.Fields
import Mathlib.Data.List.Forall2

/-!
What a higher layer sets does not depend on what the lower ones have there.

Two runs whose layers are the same but for what is no table at one place build up trees that are the same
but for this place (`SameBut`), whatever else the layers do. As soon as a layer sets the place itself the
trees are the same, and stay so.

* `SameBut.merged`, `SameBut.setSteps`, `SameBut.overlaid`: values, steps and layers set in both trees.
* `overlaid_eq_of_mem`: a layer that sets the place makes the trees equal.
* `Settings.layered_eq_of_variable`, `Settings.layered_eq_of_option`: masking by a variable and by an option.
-/

namespace ClusterMdns

namespace SettingValue

/-! ### Entries that are the same but for a name -/

/-- Whether entries are the same but for the value of the first one under a name. -/
inductive DifferUnder (name : String) (related : SettingValue → SettingValue → Prop) :
    List (String × SettingValue) → List (String × SettingValue) → Prop
  | here {value change : SettingValue} (after : List (String × SettingValue)) :
      related value change → DifferUnder name related ((name, value) :: after) ((name, change) :: after)
  | later {entry : String × SettingValue} {rest others : List (String × SettingValue)} :
      entry.1 ≠ name → DifferUnder name related rest others →
        DifferUnder name related (entry :: rest) (entry :: others)

section Entries

variable {name key : String} {related : SettingValue → SettingValue → Prop}
  {entries others : List (String × SettingValue)}

theorem DifferUnder.exists_lookup (differ : DifferUnder name related entries others) :
    ∃ value change, entries.lookup name = some value ∧ others.lookup name = some change ∧
      related value change := by
  induction differ with
  | here after same => exact ⟨_, _, List.lookup_cons_self, List.lookup_cons_self, same⟩
  | later other _ ih =>
    obtain ⟨value, change, found, foundOther, same⟩ := ih
    refine ⟨value, change, ?_, ?_, same⟩
    · rw [lookup_cons_eq_if, if_neg other, found]
    · rw [lookup_cons_eq_if, if_neg other, foundOther]

theorem DifferUnder.lookup_eq (differ : DifferUnder name related entries others) (other : key ≠ name) :
    entries.lookup key = others.lookup key := by
  induction differ with
  | here after =>
    rw [lookup_cons_eq_if, lookup_cons_eq_if, if_neg (Ne.symm other), if_neg (Ne.symm other)]
  | later _ _ ih =>
    rw [lookup_cons_eq_if, lookup_cons_eq_if, ih]

/-- Values that differ may be placed under the name. -/
theorem DifferUnder.placed_own (differ : DifferUnder name related entries others)
    {also : SettingValue → SettingValue → Prop} {value change : SettingValue} (same : also value change) :
    DifferUnder name also (placedIn name value entries) (placedIn name change others) := by
  induction differ with
  | here after =>
    unfold placedIn
    rw [if_pos rfl, if_pos rfl]
    exact .here after same
  | later other _ ih =>
    unfold placedIn
    rw [if_neg other, if_neg other]
    exact .later other ih

/-- A value may be placed under another key. -/
theorem DifferUnder.placed_other (differ : DifferUnder name related entries others) (other : key ≠ name)
    (value : SettingValue) :
    DifferUnder name related (placedIn key value entries) (placedIn key value others) := by
  induction differ with
  | here after same =>
    unfold placedIn
    rw [if_neg (Ne.symm other), if_neg (Ne.symm other)]
    exact .here _ same
  | later apart rest ih =>
    unfold placedIn
    split
    case isTrue => exact .later other rest
    case isFalse => exact .later apart ih

theorem differUnder_placedIn {value change : SettingValue} (same : related value change)
    (entries : List (String × SettingValue)) :
    DifferUnder name related (placedIn name value entries) (placedIn name change entries) := by
  induction entries with
  | nil => exact .here [] same
  | cons entry rest ih =>
    unfold placedIn
    split
    case isTrue => exact .here rest same
    case isFalse other => exact .later other ih

theorem DifferUnder.eq (differ : DifferUnder name Eq entries others) : entries = others := by
  induction differ with
  | here after same => rw [same]
  | later _ _ ih => rw [ih]

end Entries

/-! ### Values that are the same but for a place -/

/-- Whether two values to be set are the same but for what is no table at a place in them. -/
def VariesAt : List String → SettingValue → SettingValue → Prop
  | [], one, other => one = other ∨ IsLeaf one ∧ IsLeaf other
  | name :: rest, one, other => one = other ∨ ∃ entries others, one = table entries ∧
      other = table others ∧ List.Forall₂ (fun entry change => entry.1 = change.1 ∧
        (entry.2 = change.2 ∨ lowered entry.1 = name ∧ VariesAt rest entry.2 change.2)) entries others

/-- What is left of a place after steps on the way to it. -/
def left? : List String → List PathStep → Option (List String)
  | place, [] => some place
  | name :: rest, .key key :: steps => if lowered key = name then left? rest steps else none
  | _, _ => none

/-- Whether two layers are the same but for what is no table at a place. -/
def LayersVaryAt (place : List String) (one other : List (String × SettingValue)) : Prop :=
  List.Forall₂ (fun entry change => entry.1 = change.1 ∧ (entry.2 = change.2 ∨
    ∃ rest, left? place (SettingPath.ofText entry.1).allSteps = some rest ∧
      VariesAt rest entry.2 change.2)) one other

/-- Whether two trees are the same but for what is no table at a place. -/
def SameBut : List String → SettingValue → SettingValue → Prop
  | [], one, other => one = other ∨ IsLeaf one ∧ IsLeaf other
  | name :: rest, one, other => one = other ∨ ∃ entries others, one = table entries ∧
      other = table others ∧ DifferUnder name (SameBut rest) entries others

/-- Whether what two trees have somewhere is the same but for a place in it. -/
inductive HeldSameBut (place : List String) : Option SettingValue → Option SettingValue → Prop
  | same (held : Option SettingValue) : HeldSameBut place held held
  | differ {one other : SettingValue} : SameBut place one other →
      HeldSameBut place (some one) (some other)

theorem VariesAt.refl (place : List String) (value : SettingValue) : VariesAt place value value := by
  cases place <;> exact .inl rfl

theorem LayersVaryAt.refl (place : List String) (layer : List (String × SettingValue)) :
    LayersVaryAt place layer layer :=
  List.forall₂_same.mpr fun _ _ => ⟨rfl, .inl rfl⟩

theorem SameBut.refl (place : List String) (value : SettingValue) : SameBut place value value := by
  cases place <;> exact .inl rfl

section Trees

variable {name key : String} {rest place : List String} {one other value change : SettingValue}
  {old oldOther : Option SettingValue}

theorem SameBut.of_entry (same : SameBut (name :: rest) one other) (key : String) :
    one.entries.lookup key = other.entries.lookup key ∨ key = name ∧
      HeldSameBut rest (one.entries.lookup key) (other.entries.lookup key) := by
  rcases same with rfl | ⟨entries, others, rfl, rfl, differ⟩
  · exact .inl rfl
  · by_cases own : key = name
    · obtain ⟨value, change, found, foundOther, same⟩ := differ.exists_lookup
      refine .inr ⟨own, ?_⟩
      show HeldSameBut rest (entries.lookup key) (others.lookup key)
      rw [own, found, foundOther]
      exact .differ same
    · exact .inl (differ.lookup_eq own)

/-- Values placed under a key leave trees the same but for a place. -/
theorem SameBut.placed (same : SameBut (name :: rest) one other)
    (values : value = change ∨ key = name ∧ SameBut rest value change) :
    SameBut (name :: rest) (table (placedIn key value one.entries))
      (table (placedIn key change other.entries)) := by
  by_cases own : key = name
  · have related : SameBut rest value change := by
      rcases values with rfl | ⟨_, related⟩
      · exact .refl rest value
      · exact related
    refine .inr ⟨_, _, rfl, rfl, ?_⟩
    rw [own]
    rcases same with rfl | ⟨entries, others, rfl, rfl, differ⟩
    · exact differUnder_placedIn related one.entries
    · exact differ.placed_own related
  · obtain rfl : value = change := values.resolve_right fun wrong => own wrong.1
    rcases same with rfl | ⟨entries, others, rfl, rfl, differ⟩
    · exact .refl _ _
    · exact .inr ⟨_, _, rfl, rfl, differ.placed_other own value⟩

/-- Trees stay the same but for a place when what stands under a key is changed in both, in the same way
unless the key leads to the place. -/
theorem SameBut.update (same : SameBut (name :: rest) one other)
    (set setOther : Option SettingValue → SettingValue)
    (elsewhere : key ≠ name → ∀ held, set held = setOther held)
    (onWay : key = name → ∀ held heldOther, HeldSameBut rest held heldOther →
      SameBut rest (set held) (setOther heldOther)) :
    SameBut (name :: rest) (table (placedIn key (set (one.entries.lookup key)) one.entries))
      (table (placedIn key (setOther (other.entries.lookup key)) other.entries)) := by
  refine same.placed ?_
  by_cases own : key = name
  · refine .inr ⟨own, onWay own _ _ ?_⟩
    rcases same.of_entry key with equal | ⟨_, related⟩
    · rw [equal]
      exact .same _
    · exact related
  · rcases same.of_entry key with equal | ⟨wrong, _⟩
    · rw [equal]
      exact .inl (elsewhere own _)
    · exact absurd wrong own

/-- Values that differ below a name are tables. -/
theorem VariesAt.tables (values : VariesAt (name :: rest) value change) :
    (IsLeaf value ∧ value = change) ∨ ∃ entries others, value = table entries ∧ change = table others ∧
      List.Forall₂ (fun entry change => entry.1 = change.1 ∧ (entry.2 = change.2 ∨
        lowered entry.1 = name ∧ VariesAt rest entry.2 change.2)) entries others := by
  rcases values with rfl | tables
  · cases value with
    | table entries =>
      exact .inr ⟨entries, entries, rfl, rfl, List.forall₂_same.mpr fun _ _ => ⟨rfl, .inl rfl⟩⟩
    | _ => exact .inl ⟨nofun, rfl⟩
  · exact .inr tables

/-- What is the same but for itself has the same entries. -/
theorem SameBut.entries_eq (same : SameBut [] one other) : one.entries = other.entries := by
  rcases same with rfl | ⟨leaf, leafOther⟩
  · rfl
  · rw [leaf.entries_eq, leafOther.entries_eq]

/-- **Values merged into both trees** leave them the same but for a place. -/
theorem SameBut.merged (values : VariesAt place value change)
    (held : HeldSameBut place old oldOther) :
    SameBut place (merged old value) (merged oldOther change) := by
  induction place generalizing value change old oldOther with
  | nil =>
    rcases values with rfl | ⟨leaf, leafOther⟩
    · cases value with
      | table entries =>
        cases held with
        | same => exact .refl _ _
        | differ same =>
          cases entries with
          | nil => exact same
          | cons entry more =>
            -- The first entry already makes the same table of both.
            obtain ⟨name, value⟩ := entry
            refine .inl ?_
            show mergedEntries (table (placedIn _ (merged (List.lookup _ _) value) _)) more
              = mergedEntries (table (placedIn _ (merged (List.lookup _ _) value) _)) more
            rw [Option.getD_some, Option.getD_some, same.entries_eq]
      | _ => exact .refl _ _
    · rw [leaf.merged_eq, leafOther.merged_eq]
      exact .inr ⟨leaf, leafOther⟩
  | cons name rest ih =>
    replace values := values.tables
    obtain ⟨leaf, rfl⟩ | ⟨entries, others, rfl, rfl, vary⟩ := values
    · rw [leaf.merged_eq, leaf.merged_eq]
      exact .refl _ _
    · have each : ∀ tree otherTree, SameBut (name :: rest) tree otherTree →
          SameBut (name :: rest) (mergedEntries tree entries) (mergedEntries otherTree others) := by
        induction vary with
        | nil => exact fun _ _ same => same
        | @cons entry change _ _ own _ inner =>
          intro tree otherTree same
          obtain ⟨key, value⟩ := entry
          obtain ⟨_, otherValue⟩ := change
          obtain ⟨rfl, own⟩ := own
          dsimp only at own
          refine inner _ _ (same.update (fun held => .merged held value)
            (fun held => .merged held otherValue) ?_ ?_)
          · intro elsewhere held
            rw [own.resolve_right fun wrong => elsewhere wrong.1]
          · intro _ held heldOther related
            refine ih ?_ related
            rcases own with rfl | ⟨_, vary⟩
            · exact .refl _ _
            · exact vary
      cases held with
      | same held => exact each _ _ (.refl _ _)
      | differ same => exact each _ _ same

/-- **A value set at the end of steps in both trees** leaves them the same but for a place. -/
theorem SameBut.setSteps {steps : List PathStep}
    (values : value = change ∨ ∃ left, left? place steps = some left ∧ VariesAt left value change)
    (held : HeldSameBut place old oldOther) :
    SameBut place (setSteps value steps old) (setSteps change steps oldOther) := by
  induction steps generalizing place old oldOther with
  | nil =>
    unfold left? at values
    refine SameBut.merged ?_ held
    rcases values with rfl | ⟨left, same, vary⟩
    · exact .refl _ _
    · exact Option.some.inj same ▸ vary
  | cons step steps ih =>
    cases step with
    | item index =>
      have unled : left? place (.item index :: steps) = none := by cases place <;> rfl
      obtain rfl : value = change := values.resolve_right fun ⟨_, leads, _⟩ => by
        rw [unled] at leads
        cases leads
      cases held with
      | same => exact .refl _ _
      | @differ one other same =>
        cases place with
        | nil => exact .inr ⟨nofun, nofun⟩
        | cons name rest =>
          -- Tables that differ have no items.
          rcases same with rfl | ⟨entries, others, rfl, rfl, _⟩
          · exact .refl _ _
          · exact .inl rfl
    | key key =>
      have same : SameBut place (old.getD nothing) (oldOther.getD nothing) := by
        cases held with
        | same => exact .refl _ _
        | differ same => exact same
      cases place with
      | nil =>
        obtain rfl : value = change := values.resolve_right nofun
        refine .inl ?_
        show table (placedIn _ (setSteps value steps (List.lookup _ _)) _)
          = table (placedIn _ (setSteps value steps (List.lookup _ _)) _)
        rw [same.entries_eq]
      | cons name rest =>
        unfold left? at values
        refine same.update (setSteps value steps) (setSteps change steps) ?_ ?_
        · intro elsewhere held
          rw [if_neg elsewhere] at values
          rw [values.resolve_right nofun]
        · intro own held heldOther related
          rw [if_pos own] at values
          exact ih values related

/-- **Layers laid over both trees** leave them the same but for a place. -/
theorem SameBut.overlaid {entries others : List (String × SettingValue)}
    (layers : LayersVaryAt place entries others) (same : SameBut place one other) :
    SameBut place (one.overlaid entries) (other.overlaid others) := by
  induction layers generalizing one other with
  | nil => exact same
  | @cons entry change _ _ own _ ih =>
    obtain ⟨key, value⟩ := entry
    obtain ⟨_, changed⟩ := change
    obtain ⟨rfl, own⟩ := own
    exact ih (SameBut.setSteps own (.differ same))

/-- **What a place is set to itself** counts alone. -/
theorem setSteps_eq_of_sameBut (leaf : IsLeaf value) (small : place.map lowered = place)
    (held : HeldSameBut place old oldOther) :
    setSteps value (place.map .key) old = setSteps value (place.map .key) oldOther := by
  induction place generalizing old oldOther with
  | nil =>
    show merged old value = merged oldOther value
    rw [leaf.merged_eq, leaf.merged_eq]
  | cons name rest ih =>
    cases held with
    | same => rfl
    | differ same =>
      rcases same with rfl | ⟨entries, others, rfl, rfl, differ⟩
      · rfl
      · obtain ⟨ownSmall, restSmall⟩ := List.cons.inj small
        obtain ⟨held, heldOther, found, foundOther, same⟩ := differ.exists_lookup
        show table (placedIn (lowered name) (setSteps value (rest.map .key) (entries.lookup (lowered name)))
            entries)
          = table (placedIn (lowered name) (setSteps value (rest.map .key) (others.lookup (lowered name)))
            others)
        rw [ownSmall, found, foundOther, ih restSmall (.differ same)]
        exact congrArg table (differ.placed_own rfl).eq

/-- **A layer that sets the place** where trees differ makes them the same. -/
theorem overlaid_eq_of_mem (small : place.map lowered = place) (same : SameBut place one other)
    {entries : List (String × SettingValue)} {entry : String × SettingValue} (member : entry ∈ entries)
    (leaf : IsLeaf entry.2) (sets : (SettingPath.ofText entry.1).allSteps = place.map .key) :
    one.overlaid entries = other.overlaid entries := by
  obtain ⟨before, after, rfl⟩ := List.append_of_mem member
  have reached : SameBut place (one.overlaid before) (other.overlaid before) :=
    same.overlaid (.refl place before)
  have set : (one.overlaid before).setAt (.ofText entry.1) entry.2
      = (other.overlaid before).setAt (.ofText entry.1) entry.2 := by
    show setSteps entry.2 (SettingPath.ofText entry.1).allSteps _
      = setSteps entry.2 (SettingPath.ofText entry.1).allSteps _
    rw [sets]
    exact setSteps_eq_of_sameBut leaf small (.differ reached)
  unfold SettingValue.overlaid at set ⊢
  rw [List.foldl_append, List.foldl_append, List.foldl_cons, List.foldl_cons, set]

end Trees

/-! ### A tree as a layer -/

/-- Trees that are the same but for a place are values of this kind, too. -/
theorem SameBut.variesAt {place : List String} {one other : SettingValue}
    (small : place.map lowered = place) (same : SameBut place one other) : VariesAt place one other := by
  induction place generalizing one other with
  | nil => exact same
  | cons name rest ih =>
    rcases same with rfl | ⟨entries, others, rfl, rfl, differ⟩
    · exact .refl _ _
    · obtain ⟨ownSmall, restSmall⟩ := List.cons.inj small
      refine .inr ⟨entries, others, rfl, rfl, ?_⟩
      induction differ with
      | here after same =>
        refine .cons ⟨rfl, .inr ⟨ownSmall, ih restSmall same⟩⟩ ?_
        exact List.forall₂_same.mpr fun _ _ => ⟨rfl, .inl rfl⟩
      | later _ _ inner => exact .cons ⟨rfl, .inl rfl⟩ inner

/-- Trees that are the same but for a place are layers of this kind, too. -/
theorem SameBut.layersVaryAt {name : String} {rest : List String} {one other : SettingValue}
    (single : SettingPath.ofText name = ⟨name, []⟩) (small : (name :: rest).map lowered = name :: rest)
    (same : SameBut (name :: rest) one other) :
    LayersVaryAt (name :: rest) one.entries other.entries := by
  rcases same with rfl | ⟨entries, others, rfl, rfl, differ⟩
  · exact .refl _ _
  · obtain ⟨ownSmall, restSmall⟩ := List.cons.inj small
    show LayersVaryAt (name :: rest) entries others
    induction differ with
    | here after same =>
      refine .cons ⟨rfl, .inr ⟨rest, ?_, same.variesAt restSmall⟩⟩ (LayersVaryAt.refl _ after)
      rw [single]
      show (if lowered name = name then left? rest [] else none) = some rest
      rw [if_pos ownSmall]
      cases rest <;> rfl
    | later _ _ inner => exact .cons ⟨rfl, .inl rfl⟩ inner

end SettingValue

/-! ### Maps with related values -/

section Maps

variable {α : Type} {related : String → α → α → Prop}

/-- Whether entries have the same keys and related values. -/
def EntriesRelated (related : String → α → α → Prop) : List (String × α) → List (String × α) → Prop :=
  List.Forall₂ fun entry change => entry.1 = change.1 ∧ related entry.1 entry.2 change.2

theorem EntriesRelated.placed {entries others : List (String × α)}
    (all : EntriesRelated related entries others) {key : String} {value change : α}
    (own : related key value change) :
    EntriesRelated related (TextMap.placed key value entries) (TextMap.placed key change others) := by
  induction all with
  | nil => exact .cons ⟨rfl, own⟩ .nil
  | @cons entry other _ _ first rest ih =>
    unfold TextMap.placed
    rw [← first.1]
    split
    case isTrue => exact .cons ⟨rfl, own⟩ (.cons first rest)
    case isFalse =>
      split
      case isTrue => exact .cons ⟨rfl, own⟩ rest
      case isFalse => exact .cons first ih

theorem EntriesRelated.ofList {entries others : List (String × α)}
    (all : EntriesRelated related entries others) :
    EntriesRelated related (TextMap.ofList entries).entries (TextMap.ofList others).entries := by
  have fold : ∀ map other : TextMap α, EntriesRelated related map.entries other.entries →
      EntriesRelated related
        (entries.foldl (fun map entry => map.insert entry.1 entry.2) map).entries
        (others.foldl (fun map entry => map.insert entry.1 entry.2) other).entries := by
    induction all with
    | nil => exact fun _ _ started => started
    | @cons entry other _ _ first _ ih =>
      intro map otherMap started
      refine ih _ _ ?_
      show EntriesRelated related (TextMap.placed entry.1 entry.2 map.entries)
        (TextMap.placed other.1 other.2 otherMap.entries)
      rw [← first.1]
      exact started.placed first.2
  exact fold .empty .empty .nil

end Maps

/-! ### Runs -/

namespace Environment

open SettingValue

/-- Whether two environments are the same but for what the variables of a place say. -/
def VariesAt (place : List String) (one other : List (String × String)) : Prop :=
  List.Forall₂ (fun entry change => entry.1 = change.1 ∧ (entry.2 = change.2 ∨
    place? entry.1 = some (SettingPath.written place))) one other

/-- Environments that are the same but for a place give entries that are. -/
theorem entriesRelated_settings {place : List String} {one other : List (String × String)}
    (vary : VariesAt place one other) :
    EntriesRelated (fun key value change => value = change ∨
        key = SettingPath.written place ∧ IsLeaf value ∧ IsLeaf change)
      (settings one) (settings other) := by
  refine EntriesRelated.ofList ?_
  induction vary with
  | nil => exact .nil
  | @cons entry change _ _ own _ ih =>
    obtain ⟨name, text⟩ := entry
    obtain ⟨_, changed⟩ := change
    obtain ⟨rfl, own⟩ := own
    rw [List.filterMap_cons, List.filterMap_cons]
    dsimp only at own ⊢
    cases names : place? name with
    | none => exact ih
    | some key =>
      refine .cons ⟨rfl, ?_⟩ ih
      rcases own with rfl | leads
      · exact .inl rfl
      · exact .inr ⟨Option.some.inj (names.symm.trans leads), isLeaf_value _ _, isLeaf_value _ _⟩

theorem left?_keys {place : List String} (small : place.map lowered = place) :
    left? place (place.map .key) = some [] := by
  induction place with
  | nil => rfl
  | cons name rest ih =>
    obtain ⟨ownSmall, restSmall⟩ := List.cons.inj small
    exact (if_pos ownSmall).trans (ih restSmall)

/-- Environments that are the same but for a place are layers of this kind. -/
theorem layersVaryAt_settings {place : List String} (field : place ∈ Settings.fields)
    {one other : List (String × String)} (vary : VariesAt place one other) :
    LayersVaryAt place (settings one) (settings other) := by
  refine (entriesRelated_settings vary).imp fun entry change own => ⟨own.1, ?_⟩
  rcases own.2 with same | ⟨writes, leaf, leafOther⟩
  · exact .inl same
  · refine .inr ⟨[], ?_, .inr ⟨leaf, leafOther⟩⟩
    rw [writes, Settings.allSteps_of_mem_fields place field]
    exact left?_keys (Settings.lowered_of_mem_fields field)

end Environment

namespace Settings

open SettingValue

variable {place : List String} {one other : List (String × SettingValue)}
  {file otherFile : String} {environment otherEnvironment : List (String × String)}

/-- Runs whose layers come to equal trees have equal settings. -/
theorem layered?_congr {arguments : Arguments} (reads : Toml.read? file = some one)
    (readsOther : Toml.read? otherFile = some other)
    (same : overlaid [(overlaid [one, Environment.settings environment]).entries, arguments.settings]
      = overlaid [(overlaid [other, Environment.settings otherEnvironment]).entries,
          arguments.settings]) :
    layered? file environment arguments = layered? otherFile otherEnvironment arguments := by
  unfold layered?
  rw [reads, readsOther]
  exact congrArg SettingValue.settings? same

/-- **What a variable sets** does not depend on what the file has there. -/
theorem layered_eq_of_variable (field : place ∈ fields) (reads : Toml.read? file = some one)
    (readsOther : Toml.read? otherFile = some other) (vary : LayersVaryAt place one other)
    (given : (Environment.given? environment place).isSome = true) (arguments : Arguments) :
    layered? file environment arguments = layered? otherFile environment arguments := by
  obtain ⟨value, isGiven⟩ := Option.isSome_iff_exists.mp given
  rw [← Environment.lastUnder?_settings] at isGiven
  have member := mem_of_lastUnder? isGiven
  have found : overlaid [one, Environment.settings environment]
      = overlaid [other, Environment.settings environment] :=
    overlaid_eq_of_mem (lowered_of_mem_fields field)
      ((SameBut.refl place (table [])).overlaid vary) member
      (Environment.isLeaf_of_mem_settings member) (allSteps_of_mem_fields place field)
  refine layered?_congr reads readsOther ?_
  rw [found]

/-- **What an option sets** does not depend on what file and environment have there. -/
theorem layered_eq_of_option (field : place ∈ fields) (reads : Toml.read? file = some one)
    (readsOther : Toml.read? otherFile = some other) (vary : LayersVaryAt place one other)
    (environmentsVary : Environment.VariesAt place environment otherEnvironment) {arguments : Arguments}
    (given : (lastUnder? (SettingPath.written place) arguments.settings).isSome = true) :
    layered? file environment arguments = layered? otherFile otherEnvironment arguments := by
  obtain ⟨value, isGiven⟩ := Option.isSome_iff_exists.mp given
  have member := mem_of_lastUnder? isGiven
  have small := lowered_of_mem_fields field
  have sets := allSteps_of_mem_fields place field
  have found : SameBut place (overlaid [one, Environment.settings environment])
      (overlaid [other, Environment.settings otherEnvironment]) :=
    ((SameBut.refl place (table [])).overlaid vary).overlaid
      (Environment.layersVaryAt_settings field environmentsVary)
  refine layered?_congr reads readsOther ?_
  obtain ⟨name, group, rest, rfl⟩ := exists_group_of_mem_fields field
  have again := found.layersVaryAt (ofText_of_mem_groups name group) small
  exact overlaid_eq_of_mem small ((SameBut.refl _ (table [])).overlaid again) member
    (Arguments.of_mem_settings member).2 sets

end Settings

end ClusterMdns
