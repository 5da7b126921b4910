/-!
Transport protocols of service ports.
-/

namespace ClusterMdns

/-- A transport protocol. -/
inductive Protocol where
  /-- TCP, also where no protocol is given. -/
  | tcp
  | udp
  | other (name : String)
deriving DecidableEq, Repr, Inhabited

namespace Protocol

/-- The protocol that an object names. -/
def named : Option String → Protocol
  | none => tcp
  | some name => if name = "TCP" then tcp else if name = "UDP" then udp else other name

/-- The label of a protocol in the names of service discovery, which knows TCP and UDP only. -/
def label? : Protocol → Option String
  | tcp => some "tcp"
  | udp => some "udp"
  | other _ => none

/-- The name of a protocol as objects give it. -/
def name : Protocol → String
  | tcp => "TCP"
  | udp => "UDP"
  | other name => name

/-- A protocol is found under its own name. -/
theorem named_name (protocol : Protocol) (plain : ∀ name, protocol ≠ other name) :
    named (some protocol.name) = protocol := by
  cases protocol with
  | tcp => rfl
  | udp => decide
  | other name => exact absurd rfl (plain name)

end Protocol

end ClusterMdns
