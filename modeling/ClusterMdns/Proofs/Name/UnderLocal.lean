import ClusterMdns.Proofs.Name.Grammar
import Mathlib.Data.List.DropRight

/-!
Host names brought under `local`.

Dots at the end of a host name do not count (`Hostname.Undotted`). What is left is brought under the domain
`local` unless it is there, so that nothing happens to a name that has been brought there before. The labels
below `local` are the parts between the dots, without a last part `local` that stands after another
(`Hostname.Below`).

* `undotted_iff`: what is left without the dots at the end.
* `underLocal_of_under` and `underLocal_of_not_under`: names that are under `local` and names that are not.
* `exists_below`: what the parts of a host name become.
* `projects_onto_local`: all of it, down to the labels of the name that is read.
-/

namespace ClusterMdns

namespace Text

variable (c : Char) (text : List Char)

theorem dropTrailing_append_replicate (count : Nat) :
    dropTrailing c (text ++ List.replicate count c) = dropTrailing c text := by
  have run : ∀ d ∈ List.replicate count c, (d == c) = true :=
    fun d member => beq_iff_eq.mpr (List.eq_of_mem_replicate member)
  rw [dropTrailing, List.reverse_append, List.reverse_replicate, List.dropWhile_append_of_pos run]
  rfl

theorem exists_eq_dropTrailing_append :
    ∃ count, text = dropTrailing c text ++ List.replicate count c := by
  have run : text.rtakeWhile (· == c) = List.replicate (text.rtakeWhile (· == c)).length c := by
    refine List.eq_replicate_iff.mpr ⟨rfl, fun d member => ?_⟩
    have same : (d == c) = true := List.mem_rtakeWhile_imp (p := (· == c)) member
    exact beq_iff_eq.mp same
  have whole : text.rdropWhile (· == c) ++ text.rtakeWhile (· == c) = text :=
    List.rdropWhile_append_rtakeWhile
  rw [run] at whole
  exact ⟨_, whole.symm⟩

theorem dropTrailing_eq_self_iff : dropTrailing c text = text ↔ text.getLast? ≠ some c := by
  refine List.rdropWhile_eq_self_iff.trans ?_
  constructor
  · intro unended ends
    have inhabited : text ≠ [] := by
      rintro rfl
      cases ends
    exact unended inhabited
      (beq_iff_eq.mpr ((List.getLast_eq_iff_getLast?_eq_some inhabited).mpr ends))
  · intro unended inhabited same
    exact unended ((List.getLast_eq_iff_getLast?_eq_some inhabited).mp (beq_iff_eq.mp same))

/-- Nothing is left of the run at the end. -/
theorem getLast?_dropTrailing : (dropTrailing c text).getLast? ≠ some c :=
  (dropTrailing_eq_self_iff c _).mp (List.rdropWhile_idempotent _ text)

end Text

namespace Hostname

open ClusterMdns.Text

/-! ### Dots at the end -/

/-- A number of dots. -/
def dots (count : Nat) : String := String.ofList (List.replicate count '.')

/-- A host name without the dots at its end. -/
structure Undotted (hostname stem : String) : Prop where
  dotted : ∃ count, hostname = stem ++ dots count
  unended : ∀ front, stem ≠ front ++ "."

variable {hostname stem : String}

theorem getLast?_ne_dot_iff : stem.toList.getLast? ≠ some '.' ↔ ∀ front, stem ≠ front ++ "." :=
  (not_congr Name.getLast?_eq_dot_iff).trans not_exists

theorem toList_append_dots (stem : String) (count : Nat) :
    (stem ++ dots count).toList = stem.toList ++ List.replicate count '.' := by
  rw [String.toList_append, dots, String.toList_ofList]

/-- **Every host name is in exactly one way a text that does not end in a dot, and dots.** -/
theorem undotted_iff : Undotted hostname stem ↔ stem.toList = dropTrailing '.' hostname.toList := by
  constructor
  · rintro ⟨⟨count, rfl⟩, unended⟩
    rw [toList_append_dots, dropTrailing_append_replicate]
    exact ((dropTrailing_eq_self_iff '.' stem.toList).mpr (getLast?_ne_dot_iff.mpr unended)).symm
  · intro left
    obtain ⟨count, whole⟩ := exists_eq_dropTrailing_append '.' hostname.toList
    refine ⟨⟨count, String.toList_injective ?_⟩, getLast?_ne_dot_iff.mp ?_⟩
    · rw [toList_append_dots, left]
      exact whole
    · rw [left]
      exact getLast?_dropTrailing '.' hostname.toList

theorem exists_undotted (hostname : String) : ∃ stem, Undotted hostname stem :=
  ⟨_, undotted_iff.mpr String.toList_ofList⟩

/-- Dots at the end do not count. -/
theorem underLocal_append_dots (hostname : String) (count : Nat) :
    underLocal (hostname ++ dots count) = underLocal hostname := by
  unfold underLocal
  rw [toList_append_dots, dropTrailing_append_replicate]

/-! ### Names under `local` and others -/

theorem isSuffixOf_local_iff (stem : String) :
    ('.' :: localDomain).isSuffixOf (stem.toList ++ ['.']) = true ↔ ∃ front, stem = front ++ ".local" := by
  rw [List.isSuffixOf_iff_suffix]
  constructor
  · rintro ⟨front, whole⟩
    have ends : stem.toList ++ ['.'] = (front ++ ".local".toList) ++ ['.'] := by
      rw [← whole, List.append_assoc]
      rfl
    refine ⟨String.ofList front, String.toList_injective ?_⟩
    rw [String.toList_append, String.toList_ofList]
    exact List.append_cancel_right ends
  · rintro ⟨front, rfl⟩
    refine ⟨front.toList, ?_⟩
    rw [String.toList_append, List.append_assoc]
    rfl

theorem underLocal_of_under {front : String} (undotted : Undotted hostname (front ++ ".local")) :
    underLocal hostname = front ++ ".local." := by
  have under := (isSuffixOf_local_iff (front ++ ".local")).mpr ⟨front, rfl⟩
  unfold underLocal
  rw [← undotted_iff.mp undotted]
  dsimp only
  rw [if_pos under, String.toList_append, List.append_assoc, String.ofList_append, String.ofList_toList]
  rfl

theorem underLocal_of_not_under (undotted : Undotted hostname stem)
    (outside : ∀ front, stem ≠ front ++ ".local") : underLocal hostname = stem ++ ".local." := by
  have notUnder := mt (isSuffixOf_local_iff stem).mp (not_exists.mpr outside)
  unfold underLocal
  rw [← undotted_iff.mp undotted]
  dsimp only
  rw [if_neg notUnder, List.append_assoc, String.ofList_append, String.ofList_toList]
  rfl

/-- **A host name stays as it is exactly if it ends in `local` after a dot, and in one dot.** -/
theorem underLocal_eq_self_iff :
    underLocal hostname = hostname ↔ ∃ front, hostname = front ++ ".local." := by
  constructor
  · intro same
    obtain ⟨front, ends⟩ := exists_toList_underLocal hostname
    rw [same] at ends
    refine ⟨String.ofList front, String.toList_injective ?_⟩
    simp only [ends, String.toList_append, String.toList_ofList]
  · rintro ⟨front, rfl⟩
    exact underLocal_eq_self String.toList_append

/-! ### What the parts become -/

/-- The parts of a host name without a last part `local` that stands after another. -/
structure Below (parts below : List String) : Prop where
  inhabited : below ≠ []
  cut : parts = below ++ ["local"]
    ∨ parts = below ∧ ∀ front, front ≠ [] → parts ≠ front ++ ["local"]

/-- **The parts of a host name are those of what is put before `local`**, without the last one if the name is
there already. -/
theorem exists_below {parts : List String} (undotted : Undotted hostname stem)
    (parted : Parted '.' stem parts) :
    ∃ front below, Below parts below ∧ Parted '.' front below ∧ underLocal hostname = front ++ ".local." := by
  by_cases under : ∃ front, stem = front ++ ".local"
  · obtain ⟨front, rfl⟩ := under
    obtain ⟨below, before⟩ := exists_parted '.' front
    have whole : Parted '.' (front ++ "." ++ "local") (below ++ ["local"]) := before.concat (by decide)
    rw [String.append_assoc] at whole
    exact ⟨front, below, ⟨before.inhabited, .inl (parted.unique whole)⟩, before, underLocal_of_under undotted⟩
  · refine ⟨stem, parts, ⟨parted.inhabited, .inr ⟨rfl, ?_⟩⟩, parted,
      underLocal_of_not_under undotted (not_exists.mp under)⟩
    -- Were `local` the last of several parts, the name would be under it.
    rintro front inhabited rfl
    obtain ⟨before, whole, _⟩ := parted.exists_front inhabited
    exact under ⟨before, whole.trans (String.append_assoc ..)⟩

/-- What stands before the domain writes the labels of its parts. -/
theorem written_of_parted {front : String} {below : List String} (parted : Parted '.' front below) :
    Name.written (front ++ ".local.") = (below ++ ["local"]).map fun part => Name.utf8 part.toList := by
  rw [Name.written_local String.toList_append, ← parted_iff.mp parted, List.map_map, List.map_append]
  rfl

/-- **Host names are projected onto the names under `local`.** Take any host name.

* Brought under `local` it ends in that domain after a dot. It stays as it is exactly if it ends so, and hence
  when it is brought there again. Dots added at its end make no difference.
* What is brought there is a name exactly if the labels that follow fit a message, and it is the name with these:
  one for each part that stands between the dots of the host name, without the dots at its end and without a last
  part `local` after another, and the label `local`. Such a name is below `local`, not that domain itself. -/
theorem projects_onto_local (hostname : String) :
    (∃ front, underLocal hostname = front ++ ".local.") ∧
    (underLocal hostname = hostname ↔ ∃ front, hostname = front ++ ".local.") ∧
    underLocal (underLocal hostname) = underLocal hostname ∧
    (∀ count, underLocal (hostname ++ dots count) = underLocal hostname) ∧
    ∃ stem parts below, Undotted hostname stem ∧ Parted '.' stem parts ∧ Below parts below ∧
      ∀ name, (Name.read? (underLocal hostname) = .ok name ↔
          name.labels = (below ++ ["local"]).map (fun part => Name.utf8 part.toList) ∧ name.Fits) ∧
        (Name.read? (underLocal hostname) = .ok name → name.IsLocal) := by
  obtain ⟨stem, undotted⟩ := exists_undotted hostname
  obtain ⟨parts, parted⟩ := exists_parted '.' stem
  obtain ⟨front, below, cut, before, ends⟩ := exists_below undotted parted
  refine ⟨⟨front, ends⟩, underLocal_eq_self_iff, underLocal_eq_self_iff.mpr ⟨front, ends⟩,
    underLocal_append_dots hostname, stem, parts, below, undotted, parted, cut, fun name => ?_⟩
  rw [ends, Name.read?_eq_ok_iff, written_of_parted before]
  refine ⟨Iff.rfl, fun reads => ?_⟩
  exact Name.isLocal_of_read? String.toList_append
    (Name.read?_eq_ok_iff.mpr (written_of_parted before ▸ reads))

/-- Of two parts `local` and two dots at the end, one part stays below the domain and one dot is left. -/
theorem projects_onto_local_of_repeated_domain :
    let hostname := "é.local.local.."
    let projected := "é.local.local."
    let name : Name := ⟨[[195, 169], Name.localLabel, Name.localLabel]⟩
    (∃ front, projected = front ++ ".local.") ∧ underLocal projected = projected ∧
      underLocal (hostname ++ dots 3) = projected ∧
      Name.read? (underLocal hostname) = .ok name ∧ 2 ≤ name.labels.length ∧
      ∃ below, Below ["é", "local", "local"] below ∧
        name.labels = (below ++ ["local"]).map fun part => Name.utf8 part.toList := by
  intro hostname projected name
  have brought : underLocal hostname = projected := by decide +kernel
  have accepted : Name.read? (underLocal hostname) = .ok name := by decide +kernel
  obtain ⟨ends, _, again, dotted, stem, parts, below, undotted, parted, cut, reads⟩ :=
    projects_onto_local hostname
  have left : Undotted hostname "é.local.local" := undotted_iff.mpr (by decide +kernel)
  have same : stem = "é.local.local" :=
    String.toList_injective ((undotted_iff.mp undotted).trans (undotted_iff.mp left).symm)
  have whole : Parted '.' stem ["é", "local", "local"] := parted_iff.mpr (by rw [same]; decide +kernel)
  rw [parted.unique whole] at cut
  rw [brought] at ends again dotted
  exact ⟨ends, again, dotted 3, accepted, ((reads name).2 accepted).below, below, cut,
    ((reads name).1.mp accepted).1⟩

end Hostname

end ClusterMdns
