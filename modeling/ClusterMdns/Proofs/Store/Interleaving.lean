import Mathlib.Data.List.Basic

/-!
Interleavings of queues: `Interleaved` says that a list takes everything that queues hold, the entries
of each queue in their order. What is labelled with the queues it comes from is an interleaving if the
entries with each label are the queue (`interleaved_of_queued`).
-/

namespace ClusterMdns

/-- A list that takes everything that queues hold, each time the first of what is left of one. -/
inductive Interleaved {α : Type} : List (List α) → List α → Prop
  | done {queues : List (List α)} (taken : ∀ queue ∈ queues, queue = []) : Interleaved queues []
  | next {queues : List (List α)} {position : Nat} {first : α} {left later : List α}
      (waiting : queues[position]? = some (first :: left))
      (rest : Interleaved (queues.set position left) later) : Interleaved queues (first :: later)

/-- The queue at a position; nothing beyond the last one. -/
def queueAt {α : Type} (queues : List (List α)) (position : Nat) : List α :=
  queues[position]?.getD []

section Interleaved

variable {α : Type} {queues : List (List α)}

theorem queueAt_set {position : Nat} (inside : position < queues.length) (left : List α)
    (other : Nat) :
    queueAt (queues.set position left) other
      = if other = position then left else queueAt queues other := by
  by_cases here : other = position
  · subst here
    rw [queueAt, List.getElem?_set_self inside, if_pos rfl]
    rfl
  · rw [queueAt, List.getElem?_set_ne (Ne.symm here), if_neg here, queueAt]

theorem lt_length_of_queueAt_ne_nil {position : Nat} (some : queueAt queues position ≠ []) :
    position < queues.length := by
  by_contra beyond
  rw [queueAt, List.getElem?_eq_none (Nat.le_of_not_lt beyond)] at some
  exact some rfl

theorem queueAt_eq_getElem {position : Nat} (inside : position < queues.length) :
    queueAt queues position = queues[position] := by
  rw [queueAt, List.getElem?_eq_getElem inside, Option.getD_some]

/-- **What is taken queue by queue, in the order of each, is an interleaving.** -/
theorem interleaved_of_queued (taken : List (Nat × α))
    (queued : ∀ position, (taken.filter fun entry => entry.1 == position).map Prod.snd
      = queueAt queues position) : Interleaved queues (taken.map Prod.snd) := by
  induction taken generalizing queues with
  | nil =>
    refine .done fun queue member => ?_
    obtain ⟨position, inside, rfl⟩ := List.mem_iff_getElem.mp member
    rw [← queueAt_eq_getElem inside, ← queued position]
    rfl
  | cons entry rest ih =>
    obtain ⟨position, value⟩ := entry
    have first := queued position
    rw [List.filter_cons_of_pos (by simp), List.map_cons] at first
    have inside : position < queues.length :=
      lt_length_of_queueAt_ne_nil (by rw [← first]; exact List.cons_ne_nil _ _)
    have waiting := List.getElem?_eq_getElem inside
    rw [← queueAt_eq_getElem inside, ← first] at waiting
    refine .next waiting (ih fun other => ?_)
    rw [queueAt_set inside]
    split
    case isTrue here => rw [here]
    case isFalse elsewhere =>
      rw [← queued other, List.filter_cons_of_neg (by simpa using Ne.symm elsewhere)]

end Interleaved

end ClusterMdns
