import ClusterMdns.Hostname
import ClusterMdns.Name.Reader

/-!
Which texts are names.

A text writes the labels between its dots (`Name.written`), whether or not they can be a name. What
decides is the space that they take: a name fits a message if each label has 1 to 63 bytes and all of
them, with the final zero, take at most 255 (`Name.Fits`).

* `length_utf8`: text of ASCII characters has as many bytes as characters.
* `read?_eq_ok_iff`: a text is read as a name exactly if the labels that it writes fit a message.
* `isLocal_of_read?`: what ends in the domain `local` after a dot is read as a name under that domain.
* `Hostname.exists_toList_underLocal`: host names are brought to that form.
-/

namespace ClusterMdns.Name

open ClusterMdns.Text

/-! ### The space of labels -/

/-- Whether a name fits a message: its labels have 1 to 63 bytes and take at most 255 with the final
zero. -/
structure Fits (name : Name) : Prop where
  labels : ∀ label ∈ name.labels, 1 ≤ label.length ∧ label.length ≤ 63
  whole : name.wireLength ≤ 255

theorem labelsLength_cons (label : Label) (rest : List Label) :
    (Name.mk (label :: rest)).labelsLength = label.length + 1 + (Name.mk rest).labelsLength := rfl

theorem labelsLength_nil : (Name.mk []).labelsLength = 0 := rfl

theorem labelsLength_append (first second : List Label) :
    (Name.mk (first ++ second)).labelsLength
      = (Name.mk first).labelsLength + (Name.mk second).labelsLength := by
  induction first with
  | nil => simp [labelsLength]
  | cons label rest ih =>
    rw [List.cons_append, labelsLength_cons, labelsLength_cons, ih]
    omega

/-- Labels with a byte each take at least two. -/
theorem length_le_labelsLength {labels : List Label} (inhabited : ∀ label ∈ labels, label ≠ []) :
    2 * labels.length ≤ (Name.mk labels).labelsLength := by
  induction labels with
  | nil => simp
  | cons label rest ih =>
    rw [List.forall_mem_cons] at inhabited
    have positive := List.length_pos_iff.mpr inhabited.1
    have later := ih inhabited.2
    rw [labelsLength_cons, List.length_cons]
    omega

theorem labelsLength_le {labels : List Label} {longest : Nat}
    (short : ∀ label ∈ labels, label.length ≤ longest) :
    (Name.mk labels).labelsLength ≤ (longest + 1) * labels.length := by
  induction labels with
  | nil => simp [labelsLength]
  | cons label rest ih =>
    rw [List.forall_mem_cons] at short
    have later := ih short.2
    rw [labelsLength_cons, List.length_cons, Nat.mul_add, Nat.mul_one]
    omega

/-! ### Text as bytes -/

theorem utf8_eq_nil_iff {text : List Char} : utf8 text = [] ↔ text = [] := by
  cases text with
  | nil => simp [utf8]
  | cons c rest =>
    have positive : 0 < (String.utf8EncodeChar c).length := by
      rw [String.length_utf8EncodeChar]
      exact Char.utf8Size_pos c
    have long : utf8 (c :: rest) ≠ [] := by
      intro none
      rw [utf8, List.flatMap_cons, List.append_eq_nil_iff] at none
      rw [none.1] at positive
      exact absurd positive (Nat.lt_irrefl 0)
    simp [long]

/-- Text of ASCII characters has as many bytes as characters. -/
theorem length_utf8 {text : List Char} (ascii : ∀ c ∈ text, c.utf8Size = 1) :
    (utf8 text).length = text.length := by
  induction text with
  | nil => rfl
  | cons c rest ih =>
    rw [List.forall_mem_cons] at ascii
    have later := ih ascii.2
    unfold utf8 at later ⊢
    rw [List.flatMap_cons, List.length_append, String.length_utf8EncodeChar, ascii.1, later,
      List.length_cons]
    omega

/-! ### Labels that make a name -/

theorem overflow?_eq_none_iff {reached : Nat} (fits : reached ≤ maxWireLength)
    (labels : List Label) :
    overflow? reached labels = none ↔ reached + (Name.mk labels).labelsLength ≤ maxWireLength := by
  induction labels generalizing reached with
  | nil => simpa [overflow?, labelsLength] using fits
  | cons label rest ih =>
    simp only [overflow?, labelsLength_cons]
    split
    · simp only [reduceCtorEq, false_iff]
      omega
    · rw [ih (by omega)]
      omega

/-- Labels that fit a message make a name. -/
theorem ofLabels?_of_fits {labels : List Label} (fits : (Name.mk labels).Fits) :
    ofLabels? labels = .ok ⟨labels⟩ := by
  have short : ∀ label ∈ labels, label.length ≤ maxLabelLength :=
    fun label member => (fits.labels label member).2
  have total : 1 + (Name.mk labels).labelsLength ≤ maxWireLength := by
    rw [Nat.add_comm]
    exact fits.whole
  -- The limit on the number of labels never decides, as each of them takes two bytes or more.
  have few : 2 * labels.length ≤ (Name.mk labels).labelsLength :=
    length_le_labelsLength fun label member =>
      List.length_pos_iff.mp (fits.labels label member).1
  have parted : labels.partition (fun label => decide (label.length ≤ maxLabelLength))
      = (labels, []) := by
    rw [List.partition_eq_filter_filter, Prod.mk.injEq, List.filter_eq_self,
      List.filter_eq_nil_iff]
    exact ⟨by simpa using short, by simpa using short⟩
  unfold ofLabels?
  rw [parted]
  dsimp only
  rw [if_neg (by unfold maxWireLength at total; omega), if_neg (by simp),
    (overflow?_eq_none_iff (by decide) labels).mpr total]

/-- Labels that make a name fit a message if none of them is empty. -/
theorem fits_of_ofLabels? {labels : List Label} (inhabited : ∀ label ∈ labels, label ≠ [])
    {name : Name} (accepted : ofLabels? labels = .ok name) : name.Fits := by
  obtain rfl := ofLabels?_labels accepted
  simp only [ofLabels?, List.partition_eq_filter_filter] at accepted
  split at accepted
  case isTrue => cases accepted
  case isFalse few =>
    split at accepted
    case isTrue => cases accepted
    case isFalse short =>
      split at accepted
      case h_1 => cases accepted
      case h_2 within =>
        rw [overflow?_eq_none_iff (by decide)] at within
        rw [Bool.not_eq_true', Bool.not_eq_false, List.isEmpty_iff, List.filter_eq_nil_iff] at short
        refine ⟨fun label member => ⟨List.length_pos_iff.mpr (inhabited label member), ?_⟩, ?_⟩
        · have kept := short label member
          simp only [Function.comp_apply, Bool.not_eq_true', decide_eq_false_iff_not,
            Decidable.not_not] at kept
          exact kept
        · rw [wireLength, Nat.add_comm]
          exact within

/-! ### Texts that are names -/

/-- The labels that a text writes: the bytes between its dots, a dot at its end apart. -/
def written (text : String) : List Label :=
  ((dropTerminator '.' text.toList).splitOn '.').map utf8

/-- What stands before a dot writes labels of its own. -/
theorem written_append (first : String) {second : String} (inhabited : second ≠ "") :
    written (first ++ "." ++ second) = (first.toList.splitOn '.').map utf8 ++ written second := by
  have parted : (first ++ "." ++ second).toList = first.toList ++ '.' :: second.toList := by
    simp [String.toList_append]
  have given : second.toList ≠ [] := mt String.toList_eq_nil_iff.mp inhabited
  unfold written
  rw [parted, dropTerminator_append_cons _ _ _ given, List.splitOn_append_cons_self, List.map_append]

/-- **A text is a name exactly if the labels that it writes fit a message.** -/
theorem read?_eq_ok_iff {text : String} {name : Name} :
    read? text = .ok name ↔ name.labels = written text ∧ name.Fits := by
  have empty : ((dropTerminator '.' text.toList).splitOn '.').any List.isEmpty = true
      ↔ ∃ label ∈ written text, label = [] := by
    simp [written, utf8_eq_nil_iff]
  unfold read?
  dsimp only
  constructor
  · intro accepted
    split at accepted
    case isTrue => cases accepted
    case isFalse inhabited =>
      rw [empty, not_exists] at inhabited
      refine ⟨ofLabels?_labels accepted, fits_of_ofLabels? ?_ accepted⟩
      exact fun label member none => inhabited label ⟨member, none⟩
  · rintro ⟨same, fits⟩
    have inhabited : ¬∃ label ∈ written text, label = [] := by
      rintro ⟨label, member, rfl⟩
      rw [← same] at member
      exact absurd (fits.labels [] member).1 (by decide)
    rw [if_neg (mt empty.mp inhabited)]
    show ofLabels? (written text) = .ok name
    rw [← same]
    exact ofLabels?_of_fits fits

instance (text : String) (name : Name) : Decidable (read? text = .ok name) :=
  decidable_of_iff ((read? text).toOption = some name) <| by
    cases read? text <;> simp [Except.toOption]

theorem fits_of_read? {text : String} {name : Name} (accepted : read? text = .ok name) : name.Fits :=
  (read?_eq_ok_iff.mp accepted).2

/-! ### Names under `local` -/

/-- The label of the domain that all advertised names belong to. -/
def localLabel : Label := utf8 "local".toList

theorem length_localLabel : localLabel.length = 5 := by decide

/-- Whether a name is under the domain `local` and not that domain itself. -/
structure IsLocal (name : Name) : Prop where
  below : 2 ≤ name.labels.length
  last : name.labels.getLast? = some localLabel

/-- What stands before the domain `local` writes labels of its own. -/
theorem written_local {text : String} {front : List Char}
    (ends : text.toList = front ++ ".local.".toList) :
    written text = (front.splitOn '.').map utf8 ++ [localLabel] := by
  have parted : text.toList = (front ++ '.' :: "local".toList) ++ ['.'] := by
    rw [ends, List.append_assoc]
    rfl
  have whole : "local".toList.splitOn '.' = ["local".toList] := by decide
  rw [written, parted, dropTerminator_concat, List.splitOn_append_cons_self, whole, List.map_append]
  rfl

/-- **What ends in the domain `local` after a dot is read as a name under that domain.** -/
theorem isLocal_of_read? {text : String} {front : List Char} {name : Name}
    (ends : text.toList = front ++ ".local.".toList) (accepted : read? text = .ok name) :
    name.IsLocal := by
  have labels := (read?_eq_ok_iff.mp accepted).1
  rw [written_local ends] at labels
  have positive := List.length_pos_iff.mpr (List.splitOn_ne_nil '.' front)
  constructor
  · rw [labels, List.length_append, List.length_map, List.length_singleton]
    omega
  · rw [labels, List.getLast?_append]
    rfl

end ClusterMdns.Name

/-! ### Host names -/

namespace ClusterMdns.Hostname

open ClusterMdns.Text

/-- A host name brought under `local` ends in that domain after a dot. -/
theorem exists_toList_underLocal (hostname : String) :
    ∃ front, (underLocal hostname).toList = front ++ ".local.".toList := by
  unfold underLocal
  dsimp only
  rw [String.toList_ofList]
  split
  case isTrue ends =>
    obtain ⟨front, whole⟩ := List.isSuffixOf_iff_suffix.mp ends
    exact ⟨front, whole.symm⟩
  case isFalse =>
    refine ⟨dropTrailing '.' hostname.toList, ?_⟩
    rw [List.append_assoc]
    rfl

/-- A host name that ends in `local` after a dot, and in one dot, stays as it is. -/
theorem underLocal_eq_self {hostname : String} {front : List Char}
    (ends : hostname.toList = front ++ ".local.".toList) : underLocal hostname = hostname := by
  have trimmed : dropTrailing '.' hostname.toList ++ ['.'] = hostname.toList := by
    rw [ends]
    simp [dropTrailing]
  have under : ('.' :: localDomain).isSuffixOf hostname.toList = true :=
    List.isSuffixOf_iff_suffix.mpr ⟨front, ends.symm⟩
  unfold underLocal
  rw [trimmed]
  dsimp only
  rw [if_pos under, String.ofList_toList]

end ClusterMdns.Hostname
