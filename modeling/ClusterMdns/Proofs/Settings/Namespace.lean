import ClusterMdns.Cluster.ServiceRecords
import ClusterMdns.Proofs.Settings.CodedTexts
import ClusterMdns.Proofs.Settings.Fields
import ClusterMdns.Proofs.Text.Numerals

/-!
Three ways to name a namespace, of which one does not keep every text.

An option and a file give the text itself, which goes through the layers as it is. A variable gives what the text
looks like, a truth value or a number where it can be read as one, and the setting is the written form of that
(`Settings.rewritten`). Nothing else is set in any of the three runs (`spaceEntries`).

* `Settings.layered?_of_option`, `Settings.layered?_of_file` and `Settings.layered?_of_variable`: the settings of a
  run in which nothing but the namespace is set, in each of the three ways.
* `Settings.rewritten_eq_self`: a text with a character that no number has is kept.
* `Settings.namespace_kept_unless_rewritten`: all of it together.
* `Settings.namespace_of_digits_rewritten`: a namespace that is not kept.
-/

namespace ClusterMdns

open SettingValue

/-! ### An option with a value attached -/

namespace Arguments

/-- After a long name with a value attached. -/
theorem Progress.next_attached {progress : Progress} (running : progress.ended = false) {argument : String}
    {name value : List Char} (plain : '=' ∉ name)
    (chars : argument.toList = '-' :: '-' :: (name ++ '=' :: value)) :
    progress.next argument = progress.long (String.ofList name) (some (String.ofList value)) := by
  have taken : (name ++ '=' :: value).takeWhile (· != '=') = name := by
    have others : ∀ c ∈ name, (c != '=') = true :=
      fun c member => bne_iff_ne.mpr fun same => plain (same ▸ member)
    rw [List.takeWhile_append_of_pos others, List.takeWhile_cons_of_neg (by decide), List.append_nil]
  have longer : name.length ≠ (name ++ '=' :: value).length := by
    rw [List.length_append, List.length_cons]
    omega
  have left : (name ++ '=' :: value).drop (name.length + 1) = value := by
    rw [List.drop_append, List.drop_of_length_le (Nat.le_succ _), Nat.add_sub_cancel_left]
    rfl
  unfold Progress.next
  rw [running, if_neg Bool.false_ne_true, chars]
  split
  case h_1 same => cases name <;> cases same
  case h_2 rest _ same =>
    obtain rfl : name ++ '=' :: value = rest := (List.cons.inj (List.cons.inj same).2).2
    rw [taken]
    dsimp only
    rw [if_neg longer, left]
  case h_3 same => cases same
  case h_4 _ _ other _ same => exact (other _ (List.cons.inj same).2.symm).elim
  case h_5 _ other _ _ => exact (other _ rfl).elim

/-- An option with its value attached. -/
theorem read_space (text : String) :
    read ["--namespace=" ++ text] = .ok { empty with space := some text } := by
  have chars : ("--namespace=" ++ text).toList = '-' :: '-' :: ("namespace".toList ++ '=' :: text.toList) := by
    rw [String.toList_append]
    rfl
  have next : Progress.next .start ("--namespace=" ++ text)
      = .ok { Progress.start with said := { empty with space := some text } } := by
    rw [Progress.next_attached rfl (by decide) chars, String.ofList_toList, String.ofList_toList]
    rfl
  rw [read, List.foldlM_cons, next]
  rfl

end Arguments

/-! ### Trees with a namespace only -/

/-- The entries of a tree with nothing but a value for the namespace. -/
def spaceEntries (value : SettingValue) : List (String × SettingValue) :=
  [("sync", .table [("namespace", value)])]

/-- The settings with nothing set but the namespace. -/
def Settings.within (space : String) : Settings :=
  { Settings.standard with sync := { SyncSettings.standard with space } }

variable {value : SettingValue}

/-- A namespace that is set where nothing stands. -/
theorem placed_space (single : merged none value = value) :
    table [(lowered "sync", table [(lowered "namespace", merged none value)])] = table (spaceEntries value) := by
  have small : ["sync", "namespace"].map lowered = ["sync", "namespace"] :=
    Settings.lowered_of_mem_fields (by decide)
  have sync : lowered "sync" = "sync" := (List.cons.inj small).1
  have space : lowered "namespace" = "namespace" := (List.cons.inj (List.cons.inj small).2).1
  rw [sync, space, single]
  rfl

/-- A namespace that is set in a table. -/
theorem overlaid_spaceEntries (single : merged none value = value) :
    (table []).overlaid (spaceEntries value) = table (spaceEntries value) := by
  show (table []).setAt (SettingPath.ofText "sync") (table [("namespace", value)]) = _
  rw [Settings.ofText_of_mem_groups "sync" (by decide)]
  exact placed_space single

/-- A namespace that is set at its place. -/
theorem overlaid_space (single : merged none value = value) :
    (table []).overlaid [("sync.namespace", value)] = table (spaceEntries value) := by
  have path : SettingPath.ofText "sync.namespace" = ⟨"sync", [.key "namespace"]⟩ := by decide +kernel
  show (table []).setAt (SettingPath.ofText "sync.namespace") value = _
  rw [path]
  exact placed_space single

/-- What is read from a tree with nothing but a namespace. -/
theorem settings?_spaceEntries {space : String} (written : value.text? = some space) :
    (table (spaceEntries value)).settings? = some (Settings.within space) := by
  have sync : format.sync? (table [("namespace", value)])
      = some { SyncSettings.standard with space } := by
    show (value.text?).bind _ = _
    rw [written]
    rfl
  show (format.sync? (table [("namespace", value)])).bind _ = _
  rw [sync]
  rfl

/-! ### Runs with a namespace only -/

namespace Settings

variable {file text : String} {arguments : Arguments}

/-- The settings of a run, given what file and environment leave together. -/
theorem layered?_of_found {environment : List (String × String)}
    {fromFile entries : List (String × SettingValue)} (reads : Toml.read? file = some fromFile)
    (found : overlaid [fromFile, Environment.settings environment] = table entries) :
    layered? file environment arguments = (overlaid [entries, arguments.settings]).settings? := by
  unfold layered?
  rw [reads, Option.bind_eq_bind, Option.bind_some, found]
  rfl

theorem read?_empty : Toml.read? "" = some [] := by rfl

/-- The settings of a run with a namespace in its arguments. -/
theorem layered?_of_option (text : String) :
    layered? "" [] { Arguments.empty with space := some text } = some (within text) := by
  have nothingFound : overlaid [[], Environment.settings []] = table [] := rfl
  rw [layered?_of_found read?_empty nothingFound]
  have laid : overlaid [[], [("sync.namespace", .text text)]] = table (spaceEntries (.text text)) :=
    overlaid_space rfl
  exact (congrArg SettingValue.settings? laid).trans (settings?_spaceEntries rfl)

/-- The settings of a run in which file and environment give a namespace and nothing else. -/
theorem layered?_of_spaceEntries {environment : List (String × String)}
    {fromFile : List (String × SettingValue)} {space : String} (reads : Toml.read? file = some fromFile)
    (found : overlaid [fromFile, Environment.settings environment] = table (spaceEntries value))
    (single : merged none value = value) (written : value.text? = some space) :
    layered? file environment .empty = some (within space) := by
  rw [layered?_of_found reads found]
  have laid : overlaid [spaceEntries value, []] = table (spaceEntries value) := overlaid_spaceEntries single
  exact (congrArg SettingValue.settings? laid).trans (settings?_spaceEntries written)

/-- Whether a file sets the namespace to a text, and nothing else. -/
def SetsSpace (file text : String) : Prop := Toml.read? file = some (spaceEntries (.text text))

/-- The text that entries with nothing else set the namespace to. -/
def spaceOf? : List (String × SettingValue) → Option String
  | [("sync", .table [("namespace", .text text)])] => some text
  | _ => none

theorem spaceOf?_eq_some_iff {entries : List (String × SettingValue)} :
    spaceOf? entries = some text ↔ entries = spaceEntries (.text text) := by
  constructor
  · intro found
    unfold spaceOf? at found
    split at found
    · rw [Option.some.inj found]
      rfl
    · cases found
  · rintro rfl
    rfl

instance : Decidable (SetsSpace file text) :=
  decidable_of_iff ((Toml.read? file).bind spaceOf? = some text) <| by
    rw [Option.bind_eq_some_iff]
    simp only [spaceOf?_eq_some_iff, exists_eq_right]
    rfl

/-- The settings of a run with a namespace in its file. -/
theorem layered?_of_file (sets : SetsSpace file text) : layered? file [] .empty = some (within text) :=
  layered?_of_spaceEntries sets (overlaid_spaceEntries rfl) rfl rfl

/-- The variable of the namespace. -/
def spaceVariable : String := "EXTERNAL_MDNS__SYNC__NAMESPACE"

theorem settings_spaceVariable (text : String) : Environment.settings [(spaceVariable, text)]
    = [("sync.namespace", Environment.value "sync.namespace" text)] := by
  have place : Environment.place? spaceVariable = some "sync.namespace" := by decide +kernel
  rw [Environment.settings, List.filterMap_cons]
  dsimp only
  rw [place]
  rfl

/-! ### What a variable makes of a text -/

/-- What a variable makes of a text: the written form of the truth value or the number that it looks like. -/
def rewritten (text : String) : String :=
  if lowered text = "true" ∨ lowered text = "false" then lowered text
  else
    match Number.integer64? text.toList with
    | some value => integerText value
    | none =>
      match Number.binary64? text.toList with
      | some value => value.toText
      | none => text

/-- A variable gives the namespace a single value, which is written as a text. -/
theorem value_namespace (text : String) :
    merged none (Environment.value "sync.namespace" text) = Environment.value "sync.namespace" text ∧
      (Environment.value "sync.namespace" text).text? = some (rewritten text) := by
  unfold Environment.value rewritten
  dsimp only
  split
  case isTrue isTrue =>
    rw [if_pos (.inl isTrue), isTrue]
    exact ⟨rfl, rfl⟩
  case isFalse notTrue =>
    split
    case isTrue isFalse =>
      rw [if_pos (.inr isFalse), isFalse]
      exact ⟨rfl, rfl⟩
    case isFalse notFalse =>
      rw [if_neg (not_or.mpr ⟨notTrue, notFalse⟩)]
      cases Number.integer64? text.toList with
      | some value => exact ⟨rfl, rfl⟩
      | none =>
        cases Number.binary64? text.toList with
        | some value => exact ⟨rfl, rfl⟩
        | none => exact ⟨rfl, rfl⟩

/-- **The settings of a run with a namespace in its environment.** -/
theorem layered?_of_variable (text : String) :
    layered? "" [(spaceVariable, text)] .empty = some (within (rewritten text)) := by
  obtain ⟨single, written⟩ := value_namespace text
  refine layered?_of_spaceEntries read?_empty ?_ single written
  rw [settings_spaceVariable]
  exact overlaid_space single

/-- A text with a character that no number has is kept, unless it is a truth value or the name of a number. -/
theorem rewritten_eq_self {text : String} (notTrue : lowered text ≠ "true") (notFalse : lowered text ≠ "false")
    (unnamed : ¬Number.NamesValue text.toList) (other : ∃ c ∈ text.toList, ¬Number.IsNumeric c) :
    rewritten text = text := by
  obtain ⟨c, member, notNumeric⟩ := other
  have noInteger : Number.integer64? text.toList = none := by
    refine Option.eq_none_iff_forall_ne_some.mpr fun value reads => notNumeric ?_
    exact Number.isNumeric_of_integer? (Option.filter_eq_some_iff.mp reads).1 c member
  have noNumber : Number.binary64? text.toList = none := by
    refine Option.eq_none_iff_forall_ne_some.mpr fun value reads => notNumeric ?_
    exact Number.isNumeric_of_binary64? reads unnamed c member
  rw [rewritten, if_neg (not_or.mpr ⟨notTrue, notFalse⟩), noInteger, noNumber]

/-! ### All three -/

theorem within_inj {space other : String} : within space = within other ↔ space = other :=
  ⟨fun same => congrArg (fun settings => settings.sync.space) same, congrArg within⟩

/-- **An option and a file keep every namespace, a variable only those that it does not rewrite.** For every text,
the settings of a run with nothing but an option for the namespace, or with nothing but a file that sets it, have
the text as it is, and there is such a file. With nothing but the variable they have what the variable makes of the
text, and so the three agree exactly if this is the text. It is for every text with a character that no number
has, but for truth values and names of numbers. -/
theorem namespace_kept_unless_rewritten (text : String) :
    (∃ arguments, Arguments.read ["--namespace=" ++ text] = .ok arguments ∧
      layered? "" [] arguments = some (within text)) ∧
    (∃ file, SetsSpace file text) ∧
    (∀ file, SetsSpace file text → layered? file [] .empty = some (within text)) ∧
    layered? "" [(spaceVariable, text)] .empty = some (within (rewritten text)) ∧
    (layered? "" [(spaceVariable, text)] .empty = some (within text) ↔ rewritten text = text) ∧
    (lowered text ≠ "true" → lowered text ≠ "false" → ¬Number.NamesValue text.toList →
      (∃ c ∈ text.toList, ¬Number.IsNumeric c) → rewritten text = text) := by
  refine ⟨⟨_, Arguments.read_space text, layered?_of_option text⟩, ⟨_, Toml.read?_spaceFile text⟩,
    fun file => layered?_of_file, layered?_of_variable text, ?_, rewritten_eq_self⟩
  rw [layered?_of_variable, Option.some_inj, within_inj]

/-- A namespace with digits and a letter that no number has. -/
theorem namespace_kept_unless_rewritten_of_letters :
    let text := "team-7x"
    let file := "# nothing else is set\n[sync]\nnamespace = \"team-7x\"\n"
    SetsSpace file text ∧ layered? file [] .empty = some (within text) ∧
      layered? "" [(spaceVariable, text)] .empty = some (within text) := by
  intro text file
  have sets : SetsSpace file text := by decide +kernel
  obtain ⟨_, _, byFile, _, agrees, kept⟩ := namespace_kept_unless_rewritten text
  refine ⟨sets, byFile file sets, agrees.mpr (kept (by decide +kernel) (by decide +kernel) ?_ ?_)⟩
  · unfold Number.NamesValue
    decide +kernel
  · exact ⟨'t', by decide +kernel, by unfold Number.IsNumeric; decide +kernel⟩

/-- **A namespace of digits is not always kept.** A service in the namespace `007` has records under the option and
none under the variable, which restricts the run to the namespace `7`. -/
theorem namespace_of_digits_rewritten :
    let service : Service :=
      ⟨⟨some "app", none, some "007", none, .ofList [(Advertisement.publishKey, "")]⟩, some "LoadBalancer",
        none, [], [some "192.0.2.7"]⟩
    layered? "" [] { Arguments.empty with space := some "007" } = some (within "007") ∧
      layered? "" [(spaceVariable, "007")] .empty = some (within "7") ∧
      (within "007").sync.onlySpace? = some "007" ∧ (within "7").sync.onlySpace? = some "7" ∧
      service.records (within "007").sync ≠ [] ∧ service.records (within "7").sync = [] := by
  intro service
  refine ⟨layered?_of_option "007", ?_, by decide, by decide, by decide +kernel, by decide +kernel⟩
  rw [layered?_of_variable]
  decide +kernel

end Settings

end ClusterMdns
