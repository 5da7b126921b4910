import ClusterMdns.Text.Blank

/-!
Completing the directives that say what is logged: the parts of the client for the cluster are held
at warnings unless a directive names them.
-/

namespace ClusterMdns.Log

open ClusterMdns.Text

def clientTargets : List (List Char) :=
  ["kube_client", "kube_runtime", "hyper", "hyper_util", "tower", "h2", "rustls"].map String.toList

/-- The target that a directive names: what stands before its first equals sign, without blanks
around it. -/
def namedTarget (directive : List Char) : List Char := trim (directive.takeWhile (· != '='))

/-- The targets that directives name. -/
def namedTargets (level : List Char) : List (List Char) := (level.splitOn ',').map namedTarget

def appended (directives directive : List Char) : List Char :=
  if directives.isEmpty then directive else directives ++ ',' :: directive

/-- The directive that holds a target at warnings. -/
def heldDirective (target : List Char) : List Char := target ++ "=warn".toList

/-- The directives for a configured level. -/
def completedChars (level : List Char) : List Char :=
  let missing := clientTargets.filter fun target => !(namedTargets level).contains target
  (missing.map heldDirective).foldl appended (trim level)

def completed (level : String) : String := String.ofList (completedChars level.toList)

end ClusterMdns.Log
