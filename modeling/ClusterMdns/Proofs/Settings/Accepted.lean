import ClusterMdns.Arguments

/-!
What holds of all arguments that are accepted.

* `Arguments.sources_of_read`: the sources are among those allowed.
-/

namespace ClusterMdns.Arguments

theorem exists_of_bind_eq_ok {ε α β : Type} {first : Except ε α} {next : α → Except ε β} {result : β}
    (done : first >>= next = .ok result) : ∃ value, first = .ok value ∧ next value = .ok result := by
  cases first with
  | error => cases done
  | ok value => exact ⟨value, rfl, done⟩

/-- Whether the sources that arguments give are among those allowed. -/
def IsAllowed (arguments : Arguments) : Prop := ∀ source ∈ arguments.sources, source ∈ allowedSources

variable {arguments said : Arguments}

theorem IsAllowed.withValue {value : String} {option : ValueOption} (allowed : arguments.IsAllowed)
    (accepted : arguments.withValue value option = .ok said) : said.IsAllowed := by
  cases option with
  | source =>
    unfold Arguments.withValue at accepted
    dsimp only at accepted
    split at accepted
    case isTrue known =>
      cases accepted
      intro source member
      rcases List.mem_append.mp member with old | new
      · exact allowed source old
      · rw [List.mem_singleton.mp new]
        exact List.contains_iff_mem.mp known
    case isFalse => cases accepted
  | config =>
    obtain ⟨_, _, same⟩ := exists_of_bind_eq_ok accepted
    cases same
    exact allowed
  | recordTtl =>
    obtain ⟨_, _, same⟩ := exists_of_bind_eq_ok accepted
    cases same
    exact allowed
  | accessFile =>
    obtain ⟨_, _, same⟩ := exists_of_bind_eq_ok accepted
    cases same
    exact allowed
  | space =>
    cases accepted
    exact allowed
  | server =>
    cases accepted
    exact allowed

theorem IsAllowed.withOption {value : Option String} {option : ValueOption}
    (allowed : arguments.IsAllowed) (accepted : arguments.withOption option value = .ok said) :
    said.IsAllowed := by
  cases value with
  | none => cases accepted
  | some value =>
    unfold Arguments.withOption at accepted
    dsimp only at accepted
    split at accepted
    · cases accepted
    · exact allowed.withValue accepted

theorem IsAllowed.withFlag {flag : Flag} (allowed : arguments.IsAllowed)
    (accepted : arguments.withFlag flag = .ok said) : said.IsAllowed := by
  unfold Arguments.withFlag at accepted
  split at accepted
  all_goals first
    | cases accepted
    | (split at accepted <;> cases accepted; exact allowed)

namespace Progress

variable {progress next : Progress}

theorem isAllowed_settled (allowed : progress.said.IsAllowed) (accepted : progress.settled = .ok said) :
    said.IsAllowed := by
  unfold settled at accepted
  split at accepted
  · cases accepted
    exact allowed
  · exact allowed.withOption accepted

theorem isAllowed_opened {option : ValueOption} (allowed : progress.said.IsAllowed)
    (accepted : progress.opened option = .ok next) : next.said.IsAllowed := by
  obtain ⟨said, isSettled, same⟩ := exists_of_bind_eq_ok accepted
  cases same
  exact isAllowed_settled allowed isSettled

theorem isAllowed_attached {option : ValueOption} {value : String} (allowed : progress.said.IsAllowed)
    (accepted : progress.attached option value = .ok next) : next.said.IsAllowed := by
  obtain ⟨settled, isSettled, taken⟩ := exists_of_bind_eq_ok accepted
  obtain ⟨said, takes, same⟩ := exists_of_bind_eq_ok taken
  cases same
  exact (isAllowed_settled allowed isSettled).withOption takes

theorem isAllowed_flagged {flag : Flag} (allowed : progress.said.IsAllowed)
    (accepted : progress.flagged flag = .ok next) : next.said.IsAllowed := by
  obtain ⟨settled, isSettled, taken⟩ := exists_of_bind_eq_ok accepted
  obtain ⟨said, takes, same⟩ := exists_of_bind_eq_ok taken
  cases same
  exact (isAllowed_settled allowed isSettled).withFlag takes

theorem isAllowed_long {name : String} {value : Option String} (allowed : progress.said.IsAllowed)
    (accepted : progress.long name value = .ok next) : next.said.IsAllowed := by
  unfold long at accepted
  split at accepted
  · cases accepted
  · exact isAllowed_opened allowed accepted
  · exact isAllowed_attached allowed accepted
  · cases accepted
  · exact isAllowed_flagged allowed accepted

theorem isAllowed_short {names : List Char} (allowed : progress.said.IsAllowed)
    (accepted : progress.short names = .ok next) : next.said.IsAllowed := by
  induction names generalizing progress with
  | nil =>
    cases accepted
    exact allowed
  | cons c rest ih =>
    unfold short at accepted
    split at accepted
    · cases accepted
    · obtain ⟨later, isLater, more⟩ := exists_of_bind_eq_ok accepted
      exact ih (isAllowed_flagged allowed isLater) more
    · exact isAllowed_opened allowed accepted
    · exact isAllowed_attached allowed accepted
    · exact isAllowed_attached allowed accepted

theorem isAllowed_plain {argument : String} (allowed : progress.said.IsAllowed)
    (accepted : progress.plain argument = .ok next) : next.said.IsAllowed := by
  unfold plain at accepted
  split at accepted
  · cases accepted
    exact allowed
  · cases accepted

theorem isAllowed_next {argument : String} (allowed : progress.said.IsAllowed)
    (accepted : progress.next argument = .ok next) : next.said.IsAllowed := by
  unfold Progress.next at accepted
  split at accepted
  · cases accepted
  · split at accepted
    · cases accepted
      exact allowed
    · exact isAllowed_long allowed accepted
    · exact isAllowed_plain allowed accepted
    · exact isAllowed_short allowed accepted
    · exact isAllowed_plain allowed accepted

theorem isAllowed_foldlM {words : List String} (allowed : progress.said.IsAllowed)
    (accepted : words.foldlM Progress.next progress = .ok next) : next.said.IsAllowed := by
  induction words generalizing progress with
  | nil =>
    cases accepted
    exact allowed
  | cons word rest ih =>
    rw [List.foldlM_cons] at accepted
    obtain ⟨later, isLater, more⟩ := exists_of_bind_eq_ok accepted
    exact ih (isAllowed_next allowed isLater) more

end Progress

/-- **Accepted arguments** give only sources that are allowed. -/
theorem sources_of_read {words : List String} (accepted : read words = .ok arguments) :
    ∀ source ∈ arguments.sources, source ∈ allowedSources := by
  obtain ⟨progress, reached, isSettled⟩ := exists_of_bind_eq_ok accepted
  have started : Progress.start.said.IsAllowed := nofun
  exact Progress.isAllowed_settled (Progress.isAllowed_foldlM started reached) isSettled

end ClusterMdns.Arguments
