import ClusterMdns.Proofs.Store.Contents
import ClusterMdns.Responder.Inquiry

/-!
What a lookup answers when calls come between its reads.

A lookup that finds records answers for the state of its first read, and one that answers that the name
is unknown for the state of its last. An answer without data is made from both, and there may be no
state that it is right for: the name is unknown at the first read, and a record of the type asked for is
the first that is published under it.

* `Store.Passage`: the states that a store goes through, one call at a time; `Passage.publishedAnew`, a
  name that becomes known and never is without a record of a type becomes so by the publication of one;
  `Passage.bare_or_publishedAnew`, what this leaves for a name without such a record at first.
* `Inquiry.Traced` ties what a lookup answers to the states it has witnessed. Reads and calls keep it
  (`Traced.read`, `Traced.callMade`), so it holds after any steps (`Traced.perform`).
* `lookupAcross_of_ne_nil`: where the first read finds records, they are the answer for its state.
* `Inquiry.answers_witnessed_unless_published_anew`: the outcomes after any steps.
-/

namespace ClusterMdns

namespace Store

/-! ### States of a store -/

/-- A name under which something is looked up is known. -/
theorem hasName_of_lookup_ne_nil {store : Store} {name : Name} {recordType : RecordType}
    (found : store.lookup name recordType ≠ []) : store.hasName name = true := by
  obtain ⟨held, inside⟩ := List.exists_mem_of_ne_nil _ found
  rw [hasName, List.contains_iff_mem]
  exact List.mem_map_of_mem (mem_of_mem_groupIn inside)

/-- Nothing is looked up under a name that is unknown. -/
theorem lookup_of_not_hasName {store : Store} {name : Name} (unknown : store.hasName name = false)
    (recordType : RecordType) : store.lookup name recordType = [] := by
  by_contra found
  rw [hasName_of_lookup_ne_nil found] at unknown
  cases unknown

/-- The call after which records of a name and type are found where the name was unknown publishes
one of them. -/
theorem publishes_of_unknown {store : Store} {name : Name} {recordType : RecordType} {call : Call}
    (unknown : store.hasName name = false) (found : (call.apply store).lookup name recordType ≠ []) :
    ∃ record, call = .publish record ∧ record.owner.fold = name.fold ∧
      record.recordType = recordType := by
  have nothing := lookup_of_not_hasName unknown recordType
  cases call with
  | publish record =>
    by_cases own : (⟨name.fold, recordType⟩ : RecordKey) = record.key
    · exact ⟨record, rfl, congrArg RecordKey.owner own.symm,
        congrArg RecordKey.recordType own.symm⟩
    · refine absurd ?_ found
      rw [← nothing]
      exact (group_insert store record _).trans (if_neg fun here => own here.1)
  | unpublish record =>
    -- A withdrawal brings no new key.
    obtain ⟨held, inside⟩ := List.exists_mem_of_ne_nil _ found
    have before : (⟨name.fold, recordType⟩ : RecordKey) ∈ store.groups.map Prod.fst := by
      have after := List.mem_map_of_mem (f := Prod.fst) (mem_of_mem_groupIn inside)
      simp only [Call.apply, Call.run, remove] at after
      split at after
      · exact (keys_withdrawn_sublist record).subset after
      · exact after
    obtain ⟨group, member, same⟩ := List.mem_map.mp before
    have known : store.hasName name = true := by
      rw [hasName, List.contains_iff_mem]
      exact List.mem_map.mpr ⟨group, member, congrArg RecordKey.owner same⟩
    rw [known] at unknown
    cases unknown

/-- The states that a store goes through, with a call from each to the next. -/
inductive Passage : Store → Store → List Store → Prop
  | still (store : Store) : Passage store store [store]
  | onward {first last : Store} {states : List Store} (passage : Passage first last states)
      (call : Call) : Passage first (call.apply last) (states ++ [call.apply last])

/-- Among states a record of a name and type is published while the name is unknown. -/
def PublishedAnew (name : Name) (recordType : RecordType) (states : List Store) : Prop :=
  ∃ (before : Store) (record : Record),
    [before, (Call.publish record).apply before] <:+: states ∧ before.hasName name = false ∧
      record.owner.fold = name.fold ∧ record.recordType = recordType

namespace Passage

variable {first last : Store} {states : List Store} {name : Name} {recordType : RecordType}

theorem head?_eq (passage : Passage first last states) : states.head? = some first := by
  induction passage with
  | still => rfl
  | onward _ call ih => rw [List.head?_append, ih, Option.some_or]

theorem getLast?_eq (passage : Passage first last states) : states.getLast? = some last := by
  cases passage with
  | still => rfl
  | onward => exact List.getLast?_concat

/-- **A name that becomes known and never is without a record of a type becomes so by the publication of
one.** -/
theorem publishedAnew (passage : Passage first last states) (unknown : first.hasName name = false)
    (typed : ∀ state ∈ states, state.hasName name = false ∨ state.lookup name recordType ≠ [])
    (found : last.lookup name recordType ≠ []) : PublishedAnew name recordType states := by
  induction passage with
  | still => exact absurd (lookup_of_not_hasName unknown recordType) found
  | @onward last states passage call ih =>
    have earlier : ∀ state ∈ states, state.hasName name = false ∨ state.lookup name recordType ≠ [] :=
      fun state member => typed state (List.mem_append_left _ member)
    have there : last ∈ states := List.mem_of_getLast? passage.getLast?_eq
    rcases earlier last there with still | already
    · -- The name becomes known by this very call.
      obtain ⟨record, rfl, owner, sameType⟩ := publishes_of_unknown still found
      refine ⟨last, record, ?_, still, owner, sameType⟩
      obtain ⟨before, rfl⟩ := List.getLast?_eq_some_iff.mp passage.getLast?_eq
      rw [List.append_assoc]
      exact (List.suffix_append _ _).isInfix
    · obtain ⟨before, record, inside, rest⟩ := ih earlier already
      exact ⟨before, record, inside.trans (List.prefix_append _ _).isInfix, rest⟩

/-- **A name that is without a record of a type at first and known at last is known without one in some
state, or it was unknown at first and a record of the type was published while it was.** -/
theorem bare_or_publishedAnew (passage : Passage first last states)
    (nothing : first.lookup name recordType = []) (known : last.hasName name = true) :
    (∃ state ∈ states, state.hasName name = true ∧ state.lookup name recordType = []) ∨
      (∀ state ∈ states, state.hasName name = false ∨ state.lookup name recordType ≠ []) ∧
        first.hasName name = false ∧ last.lookup name recordType ≠ [] ∧
        PublishedAnew name recordType states := by
  by_cases bare : ∃ state ∈ states, state.hasName name = true ∧ state.lookup name recordType = []
  · exact .inl bare
  · have typed : ∀ state ∈ states, state.hasName name = false ∨ state.lookup name recordType ≠ [] := by
      intro state member
      cases here : state.hasName name with
      | false => exact .inl rfl
      | true => exact .inr fun none => bare ⟨state, member, here, none⟩
    have unknown : first.hasName name = false :=
      (typed first (List.mem_of_head? passage.head?_eq)).resolve_right (not_not_intro nothing)
    have found : last.lookup name recordType ≠ [] :=
      (typed last (List.mem_of_getLast? passage.getLast?_eq)).resolve_left
        (by rw [known]; exact Bool.noConfusion)
    exact .inr ⟨typed, unknown, found, passage.publishedAnew unknown typed found⟩

end Passage

end Store

namespace Responder

variable {add? : RecordSet → Record → Option RecordSet}

/-! ### Two reads -/

section Reads

variable {first last : Store} {states : List Store} {name : Name} {recordType : RecordType}

/-- A lookup whose first read finds records answers for the state of that read. -/
theorem lookupAcross_of_ne_nil (found : first.lookup name recordType ≠ []) (second : Store) :
    lookupAcross add? first second name recordType = lookupBy add? first name recordType :=
  InquiryStage.answered.inj ((Inquiry.stageAfter_of_ne_nil found second).symm.trans
    (Inquiry.stageAfter_of_ne_nil found first))

/-- An uninterrupted lookup that finds nothing asks whether the name is known. -/
theorem lookupBy_of_eq_nil (nothing : first.lookup name recordType = []) :
    lookupBy add? first name recordType = if first.hasName name then .noData else .unknownName :=
  Inquiry.lookupAcross_of_eq_nil nothing first

/-- A lookup that finds records does not answer that the name is unknown. -/
theorem lookupBy_ne_unknownName (found : first.lookup name recordType ≠ []) :
    lookupBy add? first name recordType ≠ .unknownName := by
  have filled : ¬(first.lookup name recordType).isEmpty = true := by rwa [List.isEmpty_iff]
  simp only [lookupBy, lookupAcross, if_neg filled]
  split <;> exact LookupOutcome.noConfusion

end Reads

namespace Inquiry

/-! ### What a lookup has witnessed -/

/-- What a lookup has seen so far, by how far it is. -/
inductive Traced (add? : RecordSet → Record → Option RecordSet) (name : Name)
    (recordType : RecordType) : Inquiry → Prop
  | asking (store : Store) : Traced add? name recordType (start store name recordType)
  | doubting {first last : Store} {states : List Store} (passage : Store.Passage first last states)
      (nothing : first.lookup name recordType = []) :
      Traced add? name recordType ⟨name, recordType, last, .doubting, states⟩
  | answered {first last : Store} {states : List Store} (passage : Store.Passage first last states)
      (store : Store) :
      Traced add? name recordType
        ⟨name, recordType, store, .answered (lookupAcross add? first last name recordType), states⟩

section Steps

variable {name : Name} {recordType : RecordType} {inquiry : Inquiry}

theorem Traced.read (traced : Traced add? name recordType inquiry) :
    Traced add? name recordType (inquiry.read add?) := by
  cases traced with
  | asking store =>
    by_cases nothing : store.lookup name recordType = []
    · have doubting : stageAfter add? name recordType (store.lookup name recordType) = .doubting :=
        stageAfter_of_eq_nil nothing
      simp only [Inquiry.read, start, doubting]
      exact .doubting (.still store) nothing
    · have settled : stageAfter add? name recordType (store.lookup name recordType) = .answered _ :=
        stageAfter_of_ne_nil nothing store
      simp only [Inquiry.read, start, settled]
      exact .answered (.still store) store
  | @doubting first last states passage nothing =>
    rw [Inquiry.read, ← lookupAcross_of_eq_nil nothing]
    exact .answered passage last
  | answered passage store => exact .answered passage store

theorem Traced.callMade (traced : Traced add? name recordType inquiry) (call : Call) :
    Traced add? name recordType (inquiry.callMade call) := by
  cases traced with
  | asking store => exact .asking (call.apply store)
  | doubting passage nothing => exact .doubting (passage.onward call) nothing
  | answered passage store => exact .answered passage (call.apply store)

/-- **What a lookup has seen stays traced, whatever comes next.** -/
theorem Traced.perform (traced : Traced add? name recordType inquiry) (steps : List InquiryStep) :
    Traced add? name recordType (inquiry.perform add? steps) := by
  induction steps generalizing inquiry with
  | nil => exact traced
  | cons step rest ih =>
    cases step with
    | read => exact ih traced.read
    | call call => exact ih (traced.callMade call)

/-- The outcome of a lookup is made from the first and the last of the states witnessed. -/
theorem Traced.passage {outcome : LookupOutcome} (traced : Traced add? name recordType inquiry)
    (answered : inquiry.stage = .answered outcome) :
    ∃ first last, Store.Passage first last inquiry.witnessed ∧
      lookupAcross add? first last name recordType = outcome := by
  cases traced with
  | asking => cases answered
  | doubting => cases answered
  | @answered first last _ passage =>
    exact ⟨first, last, passage, InquiryStage.answered.inj answered⟩

/-! ### Reads to come -/

theorem readsLeft_stageAfter (records : List Record) :
    (stageAfter add? name recordType records).readsLeft ≤ 1 := by
  unfold stageAfter
  split
  · exact Nat.le_refl 1
  · split <;> exact Nat.zero_le 1

theorem readsLeft_read (inquiry : Inquiry) :
    (inquiry.read add?).stage.readsLeft ≤ inquiry.stage.readsLeft - 1 := by
  unfold read
  split
  case h_1 asking =>
    rw [asking]
    exact readsLeft_stageAfter _
  case h_2 => exact Nat.zero_le _
  case h_3 outcome answered =>
    rw [answered]
    exact Nat.zero_le _

theorem stage_callMade (inquiry : Inquiry) (call : Call) :
    (inquiry.callMade call).stage = inquiry.stage := by
  unfold callMade
  split <;> rfl

theorem readsLeft_perform (inquiry : Inquiry) (steps : List InquiryStep) :
    (inquiry.perform add? steps).stage.readsLeft ≤ inquiry.stage.readsLeft - steps.count .read := by
  induction steps generalizing inquiry with
  | nil => exact Nat.le_refl _
  | cons step rest ih =>
    cases step with
    | read =>
      have now : (inquiry.read add?).stage.readsLeft ≤ _ := readsLeft_read inquiry
      have later := ih (inquiry.read add?)
      rw [List.count_cons_self]
      exact Nat.le_trans later (by omega)
    | call call =>
      have later := ih (inquiry.callMade call)
      rw [stage_callMade] at later
      rwa [List.count_cons_of_ne InquiryStep.noConfusion]

/-- A lookup that has made both its reads is answered. -/
theorem exists_answered_of_count (store : Store) {steps : List InquiryStep}
    (reads : 2 ≤ steps.count .read) :
    ∃ outcome, ((start store name recordType).perform add? steps).stage = .answered outcome := by
  have left : ((start store name recordType).perform add? steps).stage.readsLeft ≤ _ :=
    readsLeft_perform _ steps
  have none : ((start store name recordType).perform add? steps).stage.readsLeft = 0 := by
    have begun : (start store name recordType).stage.readsLeft = 2 := rfl
    omega
  cases stage : ((start store name recordType).perform add? steps).stage with
  | asking => rw [stage] at none; cases none
  | doubting => rw [stage] at none; cases none
  | answered outcome => exact ⟨outcome, rfl⟩

end Steps

/-! ### Outcomes -/

/-- A lookup may answer that there are no data although this is right for no state of the store from
its first read to its last: in each of them the name is unknown or has a record of the type. The one
call between the reads publishes the first record of the name. -/
theorem answers_not_always_witnessed :
    let name : Name := ⟨[[97, 112, 112], [108, 111, 99, 97, 108]]⟩
    let record : Record := (Record.built name (.a ⟨192, 0, 2, 1⟩)).stamped 120
    let inquiry := (start .empty name .a).perform RecordSet.insert?
      [.read, .call (.publish record), .read]
    inquiry.stage = .answered .noData ∧
      (∀ state ∈ inquiry.witnessed, lookup state name .a ≠ .noData) ∧
      ∀ state ∈ inquiry.witnessed, state.hasName name = false ∨ state.lookup name .a ≠ [] := by
  decide +kernel

/-- **A lookup answers for a state of the store from its first read to its last, unless a record of the
name and type is published while the name is unknown.** Take any store and any steps. After two reads
the lookup is answered. Records are always those of the first of the states witnessed, and that the name
is unknown is always right for the last. The outcome is the one that a lookup without interruption has
in one of the states, or it is that there are no data although in each of them the name was unknown or
had records of the type; then the name was unknown at first and has such records at last, and one of them
was published while it was unknown. -/
theorem answers_witnessed_unless_published_anew (add? : RecordSet → Record → Option RecordSet)
    (store : Store) (name : Name) (recordType : RecordType) (steps : List InquiryStep) :
    let inquiry := (start store name recordType).perform add? steps
    let states := inquiry.witnessed
    (2 ≤ steps.count .read → ∃ outcome, inquiry.stage = .answered outcome) ∧
    ∀ outcome, inquiry.stage = .answered outcome →
      ∃ first last, states.head? = some first ∧ states.getLast? = some last ∧
        (∀ records, outcome = .found records → lookupBy add? first name recordType = outcome) ∧
        (outcome = .unknownName → lookupBy add? last name recordType = outcome) ∧
        ((∃ state ∈ states, lookupBy add? state name recordType = outcome) ∨
          outcome = .noData ∧
            (∀ state ∈ states, state.hasName name = false ∨ state.lookup name recordType ≠ []) ∧
            first.hasName name = false ∧ last.lookup name recordType ≠ [] ∧
            Store.PublishedAnew name recordType states) := by
  intro inquiry states
  refine ⟨exists_answered_of_count store, fun outcome answered => ?_⟩
  have traced : Traced add? name recordType inquiry := (Traced.asking store).perform steps
  obtain ⟨first, last, passage, across⟩ := traced.passage answered
  have atFirst : first ∈ states := List.mem_of_head? passage.head?_eq
  have atLast : last ∈ states := List.mem_of_getLast? passage.getLast?_eq
  refine ⟨first, last, passage.head?_eq, passage.getLast?_eq, ?_⟩
  by_cases nothing : first.lookup name recordType = []
  · rw [lookupAcross_of_eq_nil nothing] at across
    cases known : last.hasName name with
    | false =>
      rw [known] at across
      subst across
      have right : lookupBy add? last name recordType = .unknownName := by
        rw [lookupBy_of_eq_nil (Store.lookup_of_not_hasName known recordType), known]
        rfl
      exact ⟨fun _ same => LookupOutcome.noConfusion same, fun _ => right,
        .inl ⟨last, atLast, right⟩⟩
    | true =>
      rw [known, if_pos rfl] at across
      subst across
      refine ⟨fun _ same => LookupOutcome.noConfusion same,
        fun same => LookupOutcome.noConfusion same, ?_⟩
      rcases passage.bare_or_publishedAnew nothing known with ⟨state, member, here, none⟩ | anew
      · refine .inl ⟨state, member, ?_⟩
        rw [lookupBy_of_eq_nil none, if_pos here]
      · exact .inr ⟨rfl, anew⟩
  · have right : lookupBy add? first name recordType = outcome := by
      rw [← lookupAcross_of_ne_nil nothing last, across]
    exact ⟨fun _ _ => right, fun unknown => absurd (right.trans unknown) (lookupBy_ne_unknownName nothing),
      .inl ⟨first, atFirst, right⟩⟩

/-- An address is replaced by one of the other family between the reads of a lookup for the new type: the
answer that there are no data is right for the state of the first read, and the name is unknown in the
state between the calls. -/
theorem answers_witnessed_unless_published_anew_replaced :
    let name (letter : UInt8) : Name := ⟨[[letter]]⟩
    let old : Record := .built (name 97) (.a ⟨192, 0, 2, 1⟩)
    let new : Record := .built (name 65) (.aaaa ⟨#v[253, 0, 0, 0, 0, 0, 0, 0, 0, 0, 0, 0, 0, 0, 0, 1]⟩)
    let steps : List InquiryStep := [.read, .call (.unpublish old), .call (.publish new), .read]
    let inquiry := (start (Store.empty.run [.publish old]) (name 65) .aaaa).perform
      RecordSet.insert? steps
    2 ≤ steps.count .read ∧ (∃ outcome, inquiry.stage = .answered outcome) ∧
      inquiry.stage = .answered .noData ∧
      ∃ state ∈ inquiry.witnessed, lookup state (name 65) .aaaa = .noData := by
  intro name old new steps inquiry
  have reads : 2 ≤ steps.count .read := by decide
  have answered : inquiry.stage = .answered .noData := by decide +kernel
  obtain ⟨answers, outcomes⟩ := answers_witnessed_unless_published_anew RecordSet.insert?
    (Store.empty.run [.publish old]) (name 65) .aaaa steps
  refine ⟨reads, answers reads, answered, ?_⟩
  obtain ⟨_, _, _, _, _, _, right | ⟨_, typed, _⟩⟩ := outcomes .noData answered
  · exact right
  · exact absurd typed (by decide +kernel)

end Inquiry

end Responder

end ClusterMdns
