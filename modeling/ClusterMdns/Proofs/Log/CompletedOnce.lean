import ClusterMdns.Log.Completion
import ClusterMdns.Proofs.Text.Parts
import ClusterMdns.Proofs.Text.Trimming

/-!
Directives are completed once.

What a level says is kept. Behind it stand directives for those parts of the client that it does not name, and
whether it names one can be told of what is kept as well: the blanks that are cut off stand outside of what its
directives name (`namedTargets_trim`). So a completed level names every part of the client
(`mem_namedTargets_completedChars`), and completing it again adds nothing.

* `names_iff`: the target that a directive names.
* `completedChars_eq`: a completed level as its directives between commas.
* `completes_once`: what is added, and that nothing is added the second time.
-/

namespace ClusterMdns.Log

open ClusterMdns.Text

/-! ### The targets that directives name -/

/-- Whether a directive names a target: what stands before the first equals sign of the directive, if it has one,
is the target with nothing but blanks around it. -/
def Names (directive target : String) : Prop :=
  ∃ front, Trimmed front target ∧ '=' ∉ front.toList ∧
    (directive = front ∨ ∃ rest, directive = front ++ "=" ++ rest)

section Named

variable {directive blanks front : List Char}

theorem forall_bne_of_unsigned (unsigned : '=' ∉ front) : ∀ c ∈ front, (c != '=') = true :=
  fun _ member => bne_iff_ne.mpr fun same => unsigned (same ▸ member)

theorem namedTarget_of_unsigned (unsigned : '=' ∉ directive) : namedTarget directive = trim directive := by
  rw [namedTarget, List.takeWhile_eq_self_iff.mpr (forall_bne_of_unsigned unsigned)]

theorem namedTarget_append_sign (unsigned : '=' ∉ front) (rest : List Char) :
    namedTarget (front ++ '=' :: rest) = trim front := by
  rw [namedTarget, List.takeWhile_append_of_pos (forall_bne_of_unsigned unsigned),
    List.takeWhile_cons_of_neg (by decide), List.append_nil]

theorem sign_not_mem (blank : ∀ c ∈ blanks, isBlank c = true) : '=' ∉ blanks :=
  fun sign => absurd (blank '=' sign) (by decide)

/-- Blanks before a directive do not count. -/
theorem namedTarget_prepend (directive : List Char) (blank : ∀ c ∈ blanks, isBlank c = true) :
    namedTarget (blanks ++ directive) = namedTarget directive := by
  have plain := forall_bne_of_unsigned (sign_not_mem blank)
  rw [namedTarget, List.takeWhile_append_of_pos plain, trim_prepend _ blank]
  rfl

/-- Blanks after a directive do not count. -/
theorem namedTarget_append (directive : List Char) (blank : ∀ c ∈ blanks, isBlank c = true) :
    namedTarget (directive ++ blanks) = namedTarget directive := by
  by_cases sign : '=' ∈ directive
  · obtain ⟨front, rest, rfl, unsigned⟩ := List.eq_append_cons_of_mem sign
    rw [List.append_assoc, List.cons_append, namedTarget_append_sign unsigned,
      namedTarget_append_sign unsigned]
  · have unsigned : '=' ∉ directive ++ blanks :=
      fun member => (List.mem_append.mp member).elim sign (sign_not_mem blank)
    rw [namedTarget_of_unsigned unsigned, trim_append _ blank, namedTarget_of_unsigned sign]

end Named

/-- **A directive names exactly one target.** -/
theorem names_iff {directive target : String} :
    Names directive target ↔ target.toList = namedTarget directive.toList := by
  constructor
  · rintro ⟨front, trimmed, unsigned, rfl | ⟨rest, rfl⟩⟩
    · rw [namedTarget_of_unsigned unsigned, trimmed_iff.mp trimmed]
    · rw [String.toList_append, String.toList_append, List.append_assoc, trimmed_iff.mp trimmed]
      exact (namedTarget_append_sign unsigned rest.toList).symm
  · intro named
    by_cases sign : '=' ∈ directive.toList
    · obtain ⟨front, rest, whole, unsigned⟩ := List.eq_append_cons_of_mem sign
      rw [whole, namedTarget_append_sign unsigned] at named
      refine ⟨String.ofList front, trimmed_iff.mpr ?_, ?_, .inr ⟨String.ofList rest, ?_⟩⟩
      · rw [named, String.toList_ofList]
      · rwa [String.toList_ofList]
      · apply String.toList_injective
        simp only [whole, String.toList_append, String.toList_ofList, List.append_assoc]
        rfl
    · rw [namedTarget_of_unsigned sign] at named
      exact ⟨directive, trimmed_iff.mpr named, sign, .inl rfl⟩

instance (directive target : String) : Decidable (Names directive target) :=
  decidable_of_iff _ names_iff.symm

section Targets

variable {blanks : List Char}

theorem comma_not_mem (blank : ∀ c ∈ blanks, isBlank c = true) : ',' ∉ blanks :=
  fun comma => absurd (blank ',' comma) (by decide)

theorem namedTargets_prepend (level : List Char) (blank : ∀ c ∈ blanks, isBlank c = true) :
    namedTargets (blanks ++ level) = namedTargets level := by
  obtain ⟨first, more, whole, longer⟩ := exists_splitOn_prepend level (comma_not_mem blank)
  rw [namedTargets, namedTargets, whole, longer, List.map_cons, List.map_cons, namedTarget_prepend first blank]

theorem namedTargets_append (level : List Char) (blank : ∀ c ∈ blanks, isBlank c = true) :
    namedTargets (level ++ blanks) = namedTargets level := by
  obtain ⟨front, last, whole, longer⟩ := exists_splitOn_append level (comma_not_mem blank)
  rw [namedTargets, namedTargets, whole, longer, List.map_append, List.map_append, List.map_singleton,
    List.map_singleton, namedTarget_append last blank]

/-- **Blanks at the ends of a level are no part of what its directives name.** -/
theorem namedTargets_trim (level : List Char) : namedTargets (trim level) = namedTargets level := by
  obtain ⟨before, after, whole, blank⟩ := exists_eq_trim_framed level
  rw [List.forall_mem_append] at blank
  conv => rhs; rw [whole, namedTargets_append _ blank.2, namedTargets_prepend _ blank.1]

/-- Levels between commas name what each of them names. -/
theorem namedTargets_intercalate {levels : List (List Char)} (inhabited : levels ≠ []) :
    namedTargets ([','].intercalate levels) = levels.flatMap namedTargets := by
  rw [namedTargets, splitOn_intercalate_eq_flatMap inhabited, List.map_flatMap]
  rfl

end Targets

/-! ### Directives put together -/

/-- The parts of the client that no directive names. -/
def unnamed (level : List Char) : List (List Char) :=
  clientTargets.filter fun target => !(namedTargets level).contains target

/-- A text as directives. -/
def given (text : List Char) : List (List Char) := if text = [] then [] else [text]

/-- Directives appended one after another stand between commas. -/
theorem foldl_appended (start : List Char) {directives : List (List Char)}
    (inhabited : ∀ directive ∈ directives, directive ≠ []) :
    directives.foldl appended start = [','].intercalate (given start ++ directives) := by
  induction directives generalizing start with
  | nil =>
    unfold given
    split
    case isTrue none => exact none
    case isFalse => exact List.intercalate_singleton.symm
  | cons directive rest ih =>
    rw [List.forall_mem_cons] at inhabited
    rw [List.foldl_cons, ih _ inhabited.2]
    -- The first one stands alone where nothing was given before it, else behind a comma.
    cases start with
    | nil => simp [appended, given, inhabited.1]
    | cons c more =>
      have whole : appended (c :: more) directive = (c :: more) ++ ',' :: directive := rfl
      rw [whole]
      cases rest <;> simp [given, List.intercalate_cons_cons]

theorem mem_unnamed_iff {level target : List Char} :
    target ∈ unnamed level ↔ target ∈ clientTargets ∧ target ∉ namedTargets level := by
  simp [unnamed]

theorem heldDirective_ne_nil (target : List Char) : heldDirective target ≠ [] := by
  simp [heldDirective]

/-- **A completed level is what was given, and a directive for each part of the client that it does not name,
between commas.** -/
theorem completedChars_eq (level : List Char) :
    completedChars level = [','].intercalate (given (trim level) ++ (unnamed level).map heldDirective) :=
  foldl_appended (trim level) (List.forall_mem_map.mpr fun target _ => heldDirective_ne_nil target)

/-! ### Completing twice -/

theorem namedTargets_heldDirective : ∀ target ∈ clientTargets, namedTargets (heldDirective target) = [target] := by
  decide

theorem bare_heldDirective : ∀ target ∈ clientTargets, Bare (heldDirective target) := by
  decide

/-- **A completed level names every part of the client.** -/
theorem mem_namedTargets_completedChars (level : List Char) {target : List Char}
    (known : target ∈ clientTargets) : target ∈ namedTargets (completedChars level) := by
  rw [completedChars_eq]
  by_cases named : target ∈ namedTargets level
  · rw [← namedTargets_trim] at named
    have start : given (trim level) = [trim level] := by
      refine if_neg fun nothing => ?_
      -- Where nothing is given, only the empty target is named.
      rw [nothing] at named
      rw [List.mem_singleton.mp (show target ∈ [[]] from named)] at known
      exact absurd known (by decide)
    rw [start, List.singleton_append, namedTargets_intercalate (List.cons_ne_nil _ _)]
    exact List.mem_flatMap.mpr ⟨_, List.mem_cons_self, named⟩
  · have held : heldDirective target ∈ given (trim level) ++ (unnamed level).map heldDirective :=
      List.mem_append_right _ (List.mem_map_of_mem (mem_unnamed_iff.mpr ⟨known, named⟩))
    rw [namedTargets_intercalate (List.ne_nil_of_mem held)]
    refine List.mem_flatMap.mpr ⟨_, held, ?_⟩
    rw [namedTargets_heldDirective target known]
    exact List.mem_singleton_self target

theorem bare_appended {directives directive : List Char} (bare : Bare directives) (held : Bare directive)
    (inhabited : directive ≠ []) : Bare (appended directives directive) := by
  cases directives with
  | nil => exact held
  | cons c rest =>
    constructor
    · intro first starts
      exact bare.starts first starts
    · intro last ends
      refine held.ends last ?_
      rwa [appended, if_neg (by simp), List.getLast?_append_of_ne_nil _ (List.cons_ne_nil ',' directive),
        List.getLast?_cons_of_ne_nil inhabited] at ends

theorem bare_foldl_appended {start : List Char} (bare : Bare start) {directives : List (List Char)}
    (held : ∀ directive ∈ directives, Bare directive ∧ directive ≠ []) :
    Bare (directives.foldl appended start) := by
  induction directives generalizing start with
  | nil => exact bare
  | cons first rest ih =>
    rw [List.forall_mem_cons] at held
    exact ih (bare_appended bare held.1.1 held.1.2) held.2

/-- A completed level has no blank at either end. -/
theorem bare_completedChars (level : List Char) : Bare (completedChars level) := by
  refine bare_foldl_appended (bare_trim level) (List.forall_mem_map.mpr fun target missing => ?_)
  exact ⟨bare_heldDirective target (mem_unnamed_iff.mp missing).1, heldDirective_ne_nil target⟩

/-- **Completing a level twice is completing it once.** -/
theorem completedChars_completedChars (level : List Char) :
    completedChars (completedChars level) = completedChars level := by
  have none : unnamed (completedChars level) = [] := by
    refine List.eq_nil_iff_forall_not_mem.mpr fun target missing => ?_
    obtain ⟨known, unknown⟩ := mem_unnamed_iff.mp missing
    exact unknown (mem_namedTargets_completedChars level known)
  calc completedChars (completedChars level)
      = ((unnamed (completedChars level)).map heldDirective).foldl appended (trim (completedChars level)) := rfl
    _ = trim (completedChars level) := by rw [none]; rfl
    _ = completedChars level := trim_eq_self (bare_completedChars level)

/-! ### Levels as texts -/

/-- The parts of the client that are held at warnings. -/
def guarded : List String := clientTargets.map String.ofList

theorem mem_namedTargets_iff {level : String} {directives : List String} (parted : Parted ',' level directives)
    (target : String) :
    target.toList ∈ namedTargets level.toList ↔ ∃ directive ∈ directives, Names directive target := by
  rw [namedTargets, ← parted_iff.mp parted, List.map_map, List.mem_map]
  simp only [names_iff, Function.comp_apply, eq_comm]

theorem map_toList_given (core : String) :
    (if core = "" then [] else [core]).map String.toList = given core.toList := by
  unfold given
  simp only [String.toList_eq_nil_iff]
  split <;> rfl

/-- **A level is completed once, and nothing that it says is overridden.** Take any level, its text without the
blanks at its ends, and its directives, which are its parts between commas. A completed level is that text, if
there is any, and behind it between commas one directive for each part of the client that is missing, in the order
of the table. Missing are those that no directive names before its first equals sign. Completed again, it stays as
it is. -/
theorem completes_once (level : String) :
    ∃ (core : String) (directives missing : List String),
      Trimmed level core ∧ Parted ',' level directives ∧
      missing.Sublist guarded ∧ missing.Nodup ∧
      (∀ target ∈ guarded, target ∈ missing ↔ ∀ directive ∈ directives, ¬Names directive target) ∧
      completed level
        = ",".intercalate ((if core = "" then [] else [core]) ++ missing.map (· ++ "=warn")) ∧
      completed (completed level) = completed level := by
  obtain ⟨core, trimmed⟩ := exists_trimmed level
  obtain ⟨directives, parted⟩ := exists_parted ',' level
  have part : ((unnamed level.toList).map String.ofList).Sublist guarded := List.filter_sublist.map _
  refine ⟨core, directives, _, trimmed, parted, part, part.nodup (by decide), ?_, ?_, ?_⟩
  · refine List.forall_mem_map.mpr fun target known => ?_
    have named := mem_namedTargets_iff parted (String.ofList target)
    rw [String.toList_ofList] at named
    rw [List.mem_map_of_injective (fun _ _ same => String.ofList_injective same), mem_unnamed_iff, named]
    simp only [known, true_and, not_exists, not_and]
  · apply String.toList_injective
    rw [completed, String.toList_ofList, completedChars_eq, ← trimmed_iff.mp trimmed, ← map_toList_given]
    refine Eq.trans ?_ (toList_intercalate_singleton ',' _).symm
    rw [List.map_append, List.map_map, List.map_map]
    refine congrArg (fun held => [','].intercalate (_ ++ held)) (List.map_congr_left fun target _ => ?_)
    simp only [Function.comp_apply, String.toList_append, String.toList_ofList]
    rfl
  · rw [completed, completed, String.toList_ofList, completedChars_completedChars]

/-- A level with blanks around it and around its targets, an empty directive, and one with two equals signs. It
names `hyper`, with which another part of the client begins. -/
theorem completes_once_around_blanks :
    let level := " hyper = debug,,h2=off=x, tower "
    let whole :=
      "hyper = debug,,h2=off=x, tower,kube_client=warn,kube_runtime=warn,hyper_util=warn,rustls=warn"
    completed level = whole ∧ completed whole = whole ∧ "hyper" ∈ guarded ∧ "hyper_util" ∈ guarded ∧
      ∃ missing : List String, missing.Sublist guarded ∧ "hyper_util" ∈ missing ∧ "hyper" ∉ missing := by
  intro level whole
  have same : completed level = whole := by decide +kernel
  obtain ⟨_, directives, missing, _, parted, part, _, named, _, again⟩ := completes_once level
  have cut : directives = [" hyper = debug", "", "h2=off=x", " tower "] :=
    parted.unique (parted_iff.mpr (by decide +kernel))
  rw [same] at again
  rw [cut] at named
  exact ⟨same, again, by decide, by decide, missing, part,
    (named "hyper_util" (by decide)).mpr (by decide +kernel),
    mt (named "hyper" (by decide)).mp (by decide +kernel)⟩

end ClusterMdns.Log
