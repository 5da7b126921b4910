import ClusterMdns.Proofs.Settings.Layer
import ClusterMdns.Proofs.Text.Lowercase
import ClusterMdns.Settings.Layers

/-!
A tree of settings laid over nothing once more.

The keys that layers leave in a tree are in small letters and differ from each other, at the root and in the
tables on the way to a place (`IsNeat`). When its entries are set anew one after the other, each place keeps
its value therefore, tables apart, which are merged into nothing. At the root this needs that the keys are
read as the names that they are (`Stands`).

* `IsNeat.overlaid`: layers that keep the way to a place passable leave neat trees.
* `valueAt?_merged_none`, `valueAt?_relaid`: the value at a place of a neat tree that is laid over nothing.
* `settles_layered`: what file, environment and arguments make of a place.
-/

namespace ClusterMdns.SettingValue

open ClusterMdns.Text

theorem lowered_lowered (text : String) : lowered (lowered text) = lowered text := by
  unfold lowered
  rw [String.toList_ofList, lowercase_lowercase]

theorem lowered_eq_self {text : String} (small : ∀ c ∈ text.toList, IsLowered c) :
    lowered text = text := by
  unfold lowered
  rw [lowercase_eq_self small, String.ofList_toList]

/-! ### Entries -/

theorem mem_placedIn {key : String} {value : SettingValue} {entries : List (String × SettingValue)}
    {entry : String × SettingValue} (member : entry ∈ placedIn key value entries) :
    entry = (key, value) ∨ entry ∈ entries := by
  induction entries with
  | nil => exact .inl (List.mem_singleton.mp member)
  | cons first rest ih =>
    unfold placedIn at member
    split at member
    case isTrue =>
      rcases List.mem_cons.mp member with same | later
      · exact .inl same
      · exact .inr (List.mem_cons_of_mem _ later)
    case isFalse =>
      rcases List.mem_cons.mp member with rfl | later
      · exact .inr List.mem_cons_self
      · exact (ih later).imp_right (List.mem_cons_of_mem _)

theorem nodup_placedIn {key : String} {value : SettingValue} {entries : List (String × SettingValue)}
    (distinct : (entries.map Prod.fst).Nodup) : ((placedIn key value entries).map Prod.fst).Nodup := by
  induction entries with
  | nil => exact List.nodup_cons.mpr ⟨List.not_mem_nil, List.nodup_nil⟩
  | cons first rest ih =>
    rw [List.map_cons, List.nodup_cons] at distinct
    unfold placedIn
    split
    case isTrue own =>
      rw [List.map_cons, List.nodup_cons]
      exact ⟨own ▸ distinct.1, distinct.2⟩
    case isFalse other =>
      rw [List.map_cons, List.nodup_cons]
      refine ⟨?_, ih distinct.2⟩
      intro member
      obtain ⟨entry, inside, same⟩ := List.mem_map.mp member
      rcases mem_placedIn inside with rfl | old
      · exact other same.symm
      · exact distinct.1 (same ▸ List.mem_map_of_mem old)

/-! ### Neat trees -/

/-- Whether all on the way to a place is tables, of which the keys differ and only the name on the way is
read as it. -/
def IsNeat : List String → SettingValue → Prop
  | [], _ => True
  | name :: rest, table entries => (entries.map Prod.fst).Nodup ∧
      ∀ entry ∈ entries, (lowered entry.1 = name ↔ entry.1 = name) ∧
        (entry.1 = name → IsNeat rest entry.2)
  | _ :: _, _ => False

section Neat

variable {name : String} {rest place : List String} {entries : List (String × SettingValue)}

theorem isNeat_nothing : IsNeat (name :: rest) (table []) := ⟨List.nodup_nil, nofun⟩

theorem IsNeat.exists_entries {tree : SettingValue} (neat : IsNeat (name :: rest) tree) :
    ∃ entries, tree = table entries := by
  cases tree with
  | table entries => exact ⟨entries, rfl⟩
  | _ => exact absurd neat id

theorem IsNeat.entry {value : SettingValue} (neat : IsNeat (name :: rest) (table entries))
    (found : entries.lookup name = some value) : IsNeat rest value := by
  obtain ⟨before, after, rfl, _⟩ := List.lookup_eq_some_iff.mp found
  exact (neat.2 _ List.mem_append_cons_self).2 rfl

theorem IsNeat.isPassable {value : SettingValue} (neat : IsNeat place value) :
    IsPassable place value := by
  induction place generalizing value with
  | nil => exact trivial
  | cons name rest ih =>
    obtain ⟨entries, rfl⟩ := neat.exists_entries
    intro entry member reads
    obtain ⟨own, inner⟩ := neat.2 entry member
    exact ih (inner (own.mp reads))

theorem IsNeat.placed {key : String} {value : SettingValue}
    (neat : IsNeat (name :: rest) (table entries)) (own : lowered key = name → IsNeat rest value) :
    IsNeat (name :: rest) (table (placedIn (lowered key) value entries)) := by
  refine ⟨nodup_placedIn neat.1, fun entry member => ?_⟩
  rcases mem_placedIn member with rfl | old
  · exact ⟨by rw [lowered_lowered], own⟩
  · exact neat.2 entry old

theorem IsNeat.merged {value : SettingValue} {old : Option SettingValue}
    (passable : IsPassable place value) (neat : ∀ held ∈ old, IsNeat place held) :
    IsNeat place (merged old value) := by
  induction place generalizing value old with
  | nil => exact trivial
  | cons name rest ih =>
    cases value with
    | table entries =>
      have each : ∀ tree, IsNeat (name :: rest) tree → IsNeat (name :: rest) (mergedEntries tree entries) := by
        induction entries with
        | nil => exact fun _ neat => neat
        | cons entry more inner =>
          intro tree neat
          obtain ⟨held, rfl⟩ := neat.exists_entries
          unfold IsPassable at passable
          rw [List.forall_mem_cons] at passable
          refine inner passable.2 _ (neat.placed fun own => ih (passable.1 own) ?_)
          intro value found
          exact neat.entry (own ▸ found)
      cases old with
      | none => exact each _ isNeat_nothing
      | some held => exact each _ (neat held rfl)
    | _ => exact absurd passable id

theorem IsNeat.setSteps {value : SettingValue} {steps : List PathStep} {old : Option SettingValue}
    (passable : LeavesPassable value place steps) (neat : ∀ held ∈ old, IsNeat place held) :
    IsNeat place (setSteps value steps old) := by
  induction steps generalizing place old with
  | nil =>
    unfold LeavesPassable at passable
    exact .merged passable neat
  | cons step steps ih =>
    cases step with
    | item index => cases place <;> exact absurd passable id
    | key key =>
      cases place with
      | nil => exact trivial
      | cons name rest =>
        have neatEntries : IsNeat (name :: rest) (table (old.getD nothing).entries) := by
          cases old with
          | none => exact isNeat_nothing
          | some held =>
            obtain ⟨entries, rfl⟩ := (neat held rfl).exists_entries
            exact neat _ rfl
        refine neatEntries.placed fun own => ih (passable own) ?_
        intro value found
        exact neatEntries.entry (own ▸ found)

/-- **Layers that keep the way to a place passable leave neat trees.** -/
theorem IsNeat.overlaid {tree : SettingValue} (neat : IsNeat place tree)
    (passable : KeepsPassable place entries) : IsNeat place (tree.overlaid entries) := by
  induction entries generalizing tree with
  | nil => exact neat
  | cons entry more ih =>
    unfold KeepsPassable at passable
    rw [List.forall_mem_cons] at passable
    refine ih (.setSteps passable.1 ?_) passable.2
    rintro _ ⟨⟩
    exact neat

end Neat

/-! ### Trees laid over nothing -/

section Relaid

variable {name : String} {rest place : List String} {entries : List (String × SettingValue)}

theorem mergedEntries_eq_foldl (tree : SettingValue) (entries : List (String × SettingValue)) :
    mergedEntries tree entries = entries.foldl (fun tree entry =>
      table (placedIn (lowered entry.1) (merged (tree.entries.lookup (lowered entry.1)) entry.2)
        tree.entries)) tree := by
  induction entries generalizing tree with
  | nil => rfl
  | cons entry rest ih =>
    obtain ⟨key, value⟩ := entry
    exact ih _

section Steps

variable {step : SettingValue → String × SettingValue → SettingValue}

/-- Entries of other names leave what is set under a name. -/
theorem lookup_foldl_of_other
    (keeps : ∀ entry ∈ entries, ∀ tree, (step tree entry).entries.lookup name
      = tree.entries.lookup name) (tree : SettingValue) :
    (entries.foldl step tree).entries.lookup name = tree.entries.lookup name := by
  induction entries generalizing tree with
  | nil => rfl
  | cons entry more ih =>
    rw [List.forall_mem_cons] at keeps
    rw [List.foldl_cons, ih keeps.2, keeps.1]

/-- Entries with different keys leave under a name what the one with this key sets there. -/
theorem lookup_foldl
    (sets : ∀ entry ∈ entries, ∀ tree, (step tree entry).entries.lookup name
      = if entry.1 = name then some (merged (tree.entries.lookup name) entry.2)
        else tree.entries.lookup name)
    (distinct : (entries.map Prod.fst).Nodup) {tree : SettingValue}
    (unset : tree.entries.lookup name = none) :
    (entries.foldl step tree).entries.lookup name = (entries.lookup name).map (merged none) := by
  induction entries generalizing tree with
  | nil => exact unset
  | cons entry more ih =>
    rw [List.forall_mem_cons] at sets
    rw [List.map_cons, List.nodup_cons] at distinct
    have own := sets.1 tree
    rw [unset] at own
    rw [List.foldl_cons, lookup_cons_eq_if]
    split at own
    case isTrue here =>
      rw [if_pos here, lookup_foldl_of_other, own]
      · rfl
      · intro later member tree
        rw [sets.2 later member, if_neg]
        intro same
        exact distinct.1 (here ▸ same ▸ List.mem_map_of_mem member)
    case isFalse other =>
      rw [if_neg other]
      exact ih sets.2 distinct.2 own

end Steps

/-- **A neat tree merged into nothing** has at each place what it had, merged into nothing. -/
theorem valueAt?_merged_none {tree : SettingValue} (neat : IsNeat place tree) :
    valueAt? place (some (merged none tree)) = (valueAt? place (some tree)).map (merged none) := by
  induction place generalizing tree with
  | nil => rfl
  | cons name rest ih =>
    obtain ⟨entries, rfl⟩ := neat.exists_entries
    have set : (merged none (table entries)).entries.lookup name
        = (entries.lookup name).map (merged none) := by
      show (mergedEntries (table []) entries).entries.lookup name = _
      rw [mergedEntries_eq_foldl]
      refine lookup_foldl ?_ neat.1 rfl
      intro entry member tree
      show (placedIn _ _ _).lookup name = _
      rw [lookup_placedIn]
      by_cases own : entry.1 = name
      · have same : lowered entry.1 = name := (neat.2 entry member).1.mpr own
        rw [if_pos same, if_pos own, same]
      · have other : lowered entry.1 ≠ name := fun same => own ((neat.2 entry member).1.mp same)
        rw [if_neg other, if_neg own]
    show valueAt? rest ((merged none (table entries)).entries.lookup name) = _
    rw [set]
    show _ = (valueAt? rest (entries.lookup name)).map (merged none)
    cases found : entries.lookup name with
    | none => rw [Option.map_none, valueAt?_none, Option.map_none]
    | some value => exact ih (neat.entry found)

end Relaid

/-! ### Keys at the root -/

/-- Whether a key that leads to a name is this name, as it is read at the root. -/
def Stands (name key : String) : Prop :=
  lowered (SettingPath.ofText key).root = name → SettingPath.ofText key = ⟨key, []⟩

section Root

variable {name : String} {rest place : List String} {tree : SettingValue}
  {entries : List (String × SettingValue)}

/-- The keys at the root of a tree are those that were there and the roots of the places that were set. -/
theorem stands_overlaid (stand : ∀ entry ∈ tree.entries, Stands name entry.1)
    (set : ∀ entry ∈ entries, Stands name (lowered (SettingPath.ofText entry.1).root)) :
    ∀ entry ∈ (tree.overlaid entries).entries, Stands name entry.1 := by
  induction entries generalizing tree with
  | nil => exact stand
  | cons first more ih =>
    rw [List.forall_mem_cons] at set
    refine ih ?_ set.2
    intro entry member
    rcases mem_placedIn member with rfl | old
    · exact set.1
    · exact stand entry old

/-- The entries of a neat tree, set anew, keep the way to its places passable. -/
theorem IsNeat.keepsPassable (neat : IsNeat (name :: rest) tree)
    (stand : ∀ entry ∈ tree.entries, Stands name entry.1) :
    KeepsPassable (name :: rest) tree.entries := by
  obtain ⟨entries, rfl⟩ := neat.exists_entries
  intro entry member leads
  have itself := stand entry member leads
  rw [itself] at leads ⊢
  show LeavesPassable entry.2 rest []
  unfold LeavesPassable
  obtain ⟨reads, inner⟩ := neat.2 entry member
  exact (inner (reads.mp leads)).isPassable

/-- **A neat tree laid over nothing** has at each place what it had, merged into nothing. -/
theorem valueAt?_relaid (single : SettingPath.ofText name = ⟨name, []⟩)
    (neat : IsNeat (name :: rest) tree) (stand : ∀ entry ∈ tree.entries, Stands name entry.1) :
    valueAt? (name :: rest) (some (overlaid (table []) tree.entries))
      = (valueAt? (name :: rest) (some tree)).map (merged none) := by
  obtain ⟨entries, rfl⟩ := neat.exists_entries
  have set : (overlaid (table []) entries).entries.lookup name
      = (entries.lookup name).map (merged none) := by
    refine lookup_foldl ?_ neat.1 rfl
    intro entry member tree
    obtain ⟨reads, _⟩ := neat.2 entry member
    show (placedIn _ _ _).lookup name = _
    rw [lookup_placedIn]
    by_cases own : entry.1 = name
    · have same : lowered name = name := own ▸ reads.mpr own
      rw [own, single, if_pos same, if_pos rfl, same]
      rfl
    · rw [if_neg own]
      refine if_neg fun leads => ?_
      have itself := stand entry member leads
      rw [itself] at leads
      exact own (reads.mp leads)
  show valueAt? rest ((overlaid (table []) entries).entries.lookup name)
    = (valueAt? rest (entries.lookup name)).map (merged none)
  rw [set]
  cases found : entries.lookup name with
  | none => rw [Option.map_none, valueAt?_none, Option.map_none]
  | some value => exact valueAt?_merged_none (neat.entry found)

end Root

/-! ### Layers in two turns -/

section Layered

variable {name : String} {rest place : List String}

theorem isLeaf_of_lastSome? {α : Type} {read? : α → Option SettingValue} {all : List α}
    {given : SettingValue} (leaves : ∀ one given, read? one = some given → IsLeaf given)
    (found : lastSome? read? all = some given) : IsLeaf given := by
  obtain ⟨one, _, gives⟩ := List.exists_of_findSome?_eq_some found
  exact leaves one given gives

theorem isLeaf_of_given? {place : List String} {value given : SettingValue}
    (gives : given? place value = some given) : IsLeaf given := by
  induction place generalizing value given with
  | nil =>
    rintro inner rfl
    cases value <;> cases gives
  | cons name rest ih =>
    refine isLeaf_of_lastSome? (fun entry given gives => ?_) gives
    split at gives
    · exact ih gives
    · cases gives

theorem isLeaf_of_givenBy? {value given : SettingValue} {place : List String} {steps : List PathStep}
    (gives : givenBy? value place steps = some given) : IsLeaf given := by
  induction steps generalizing place with
  | nil =>
    unfold givenBy? at gives
    exact isLeaf_of_given? gives
  | cons step steps ih =>
    cases place with
    | nil => cases step <;> cases gives
    | cons name rest =>
      cases step with
      | item index => cases gives
      | key key =>
        unfold givenBy? at gives
        split at gives
        · exact ih gives
        · cases gives

/-- What a layer gives for a place is no table. -/
theorem isLeaf_of_givenIn? {place : List String} {entries : List (String × SettingValue)}
    {given : SettingValue} (gives : givenIn? place entries = some given) : IsLeaf given :=
  isLeaf_of_lastSome? (fun _ _ => isLeaf_of_givenBy?) gives

/-- What is no table stays as it is when it is merged into nothing, and a table stays a table. -/
theorem Settles.map_merged {given new : Option SettingValue} (leaf : ∀ value ∈ given, IsLeaf value)
    (settles : Settles given none new) : Settles given none (new.map (merged none)) := by
  rcases settles with rfl | ⟨entries, rfl⟩
  · rw [Option.or_none]
    cases given with
    | none => exact .refl none
    | some value =>
      rw [Option.map_some, (leaf value rfl).merged_eq]
      exact .inl rfl
  · obtain ⟨merged, isTable⟩ := exists_mergedEntries_eq [] entries
    exact .inr ⟨merged, congrArg some isTable⟩

/-- **What three layers make of a place**, of which the two lower ones are laid over nothing together before
the upper one follows: the uppermost value given for it stands there, or a table does. -/
theorem settles_layered (single : SettingPath.ofText name = ⟨name, []⟩)
    {lower middle upper : List (String × SettingValue)}
    (passable : ∀ layer ∈ [lower, middle, upper], KeepsPassable (name :: rest) layer)
    (set : ∀ entry ∈ lower ++ middle, Stands name (lowered (SettingPath.ofText entry.1).root)) :
    let tree := Settings.overlaid [(Settings.overlaid [lower, middle]).entries, upper]
    IsNeat (name :: rest) tree ∧
      Settles ((givenIn? (name :: rest) upper).or
          ((givenIn? (name :: rest) middle).or (givenIn? (name :: rest) lower)))
        none (valueAt? (name :: rest) (some tree)) := by
  intro tree
  rw [List.forall_mem_append] at set
  simp only [List.forall_mem_cons, List.not_mem_nil, false_implies, implies_true, and_true] at passable
  obtain ⟨lowerPassable, middlePassable, upperPassable⟩ := passable
  have foundNeat : IsNeat (name :: rest) (Settings.overlaid [lower, middle]) :=
    (isNeat_nothing.overlaid lowerPassable).overlaid middlePassable
  have foundSettles : Settles ((givenIn? (name :: rest) middle).or (givenIn? (name :: rest) lower)) none
      (valueAt? (name :: rest) (some (Settings.overlaid [lower, middle]))) := by
    have settles := (settles_overlaid lowerPassable (table [])).trans
      (settles_overlaid middlePassable _)
    rwa [show valueAt? (name :: rest) (some (table [])) = none from valueAt?_none rest] at settles
  have stand : ∀ entry ∈ (Settings.overlaid [lower, middle]).entries, Stands name entry.1 :=
    stands_overlaid (stands_overlaid nofun set.1) set.2
  have againNeat := isNeat_nothing.overlaid (foundNeat.keepsPassable stand)
  refine ⟨againNeat.overlaid upperPassable, ?_⟩
  have again := foundSettles.map_merged fun value given => by
    rcases Option.or_eq_some_iff.mp given with byMiddle | ⟨_, byLower⟩
    · exact isLeaf_of_givenIn? byMiddle
    · exact isLeaf_of_givenIn? byLower
  rw [← valueAt?_relaid single foundNeat stand] at again
  exact again.trans (settles_overlaid upperPassable _)

end Layered

end ClusterMdns.SettingValue
