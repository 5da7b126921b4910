import ClusterMdns.Settings
import ClusterMdns.Text.Quoted

/-!
Why the program fails, and what is said about it.
-/

namespace ClusterMdns

/-- Why the program fails. -/
inductive Failure where
  | settings (reason : String)
  | accessFile
  | access
  | socket
deriving DecidableEq, Repr

/-- What is said about a failure, up to the details of whatever caused it. -/
def Failure.message : Failure → String
  | settings reason => "Invalid configuration: " ++ reason
  | accessFile => "Kubeconfig error"
  | access => "Kube config inference error"
  | socket => "IO error"

/-- The short form of a failure: its kind, and what is wrong with settings. -/
def Failure.label : Failure → String
  | settings reason => "Config(" ++ Text.Quoted.encode reason ++ ")"
  | accessFile => "Kubeconfig"
  | access => "InferConfig"
  | socket => "Io"

def Settings.Fault.failure (fault : Fault) : Failure := .settings fault.reason

end ClusterMdns
