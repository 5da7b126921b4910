import ClusterMdns.Log.Directive
import ClusterMdns.Log.Line

/-!
Which lines are logged. Directives stand between commas. Of those that are for a line the one that
says most about it counts: the one that names most of its target, then one that names a particular,
and of two particulars the one that is later in the alphabet. Of two that say the same the last
counts. Without a directive for it a line is not logged.

Main statement: `Filter.admits_of_rank_le`, where a line is logged, so is every line of its target
with the same particulars that matters more.
-/

namespace ClusterMdns.Log

open ClusterMdns.Text

namespace Scope

/-- Whether lines are in a scope, given the names of their particulars. -/
def covers (names : List String) : Scope → Bool
  | all => true
  | having particular => names.contains particular
  | spans => false

/-- Whether a scope says less about lines than another. -/
def isWider : Scope → Scope → Bool
  | all, having _ => true
  | having first, having second => decide (first < second)
  | _, _ => false

end Scope

namespace Directive

/-- Whether a directive is for lines of a target with particulars of some names. -/
def covers (directive : Directive) (target : String) (names : List String) : Bool :=
  directive.target.isPrefixOf target.toList && directive.scope.covers names

/-- Whether a directive says less about the lines that it is for than another one for them. -/
def isWider (directive other : Directive) : Bool :=
  decide (directive.target.length < other.target.length)
    || (directive.target.length == other.target.length && directive.scope.isWider other.scope)

end Directive

/-- What is logged, as directives. -/
structure Filter where
  directives : List Directive
deriving DecidableEq, Repr, Inhabited

namespace Filter

/-- The filter that a text of directives describes, if none of them is malformed. -/
def read? (text : String) : Option Filter := do
  let texts := (text.toList.splitOn ',').filter fun piece => !piece.isEmpty
  return ⟨← texts.mapM Directive.read?⟩

/-- The one of two directives that counts: the one that says more, else the later one. -/
def preferred (before : Option Directive) (directive : Directive) : Option Directive :=
  match before with
  | none => some directive
  | some other => if directive.isWider other then some other else some directive

/-- The rank of the last level that is logged of lines of a target with particulars of some names;
zero for none. -/
def limit (filter : Filter) (target : String) (names : List String) : Nat :=
  let covering := filter.directives.filter (·.covers target names)
  ((covering.foldl preferred none).map (·.limit)).getD 0

def admits (filter : Filter) (line : Line) : Bool :=
  decide (line.level.rank ≤ filter.limit line.target line.names)

/-- Where a line is logged, so is every line of its target with the same particulars that matters
more. -/
theorem admits_of_rank_le {filter : Filter} {line other : Line} (same : other.target = line.target)
    (alike : other.names = line.names) (rank_le : other.level.rank ≤ line.level.rank)
    (admitted : filter.admits line = true) : filter.admits other = true := by
  simp only [admits, decide_eq_true_eq] at admitted ⊢
  rw [same, alike]
  exact Nat.le_trans rank_le admitted

end Filter

end ClusterMdns.Log
