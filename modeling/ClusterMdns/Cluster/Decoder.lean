import ClusterMdns.Cluster.Ingress
import ClusterMdns.Cluster.Service
import ClusterMdns.Json

/-!
Decoding the objects of the cluster from JSON. Fields that are not read may hold anything; a field
that is read holds a value of its kind or is absent or `null`. Where an object states its kind or
the version of its interface, both must be the expected ones.
-/

namespace ClusterMdns.Cluster

/-- An optional field of an object: nothing if it is absent or `null`, a failure if it does not
decode. -/
def optional? {α : Type} (decode? : Json → Option α) (members : List (String × Json))
    (key : String) : Option (Option α) :=
  match Json.lastMember? key members with
  | none => some none
  | some .null => some none
  | some value => (decode? value).map some

def members? : Json → Option (List (String × Json))
  | .object members => some members
  | _ => none

def list? {α : Type} (decode? : Json → Option α) : Json → Option (List α)
  | .array items => items.mapM decode?
  | _ => none

def textMap? (value : Json) : Option (TextMap String) := do
  let entries ← (← members? value).mapM fun member => do some (member.1, ← member.2.string?)
  some (TextMap.ofList entries)

/-- An integer within bounds. -/
def integerWithin? (least greatest : Int) : Json → Option Int
  | .integer value => if least ≤ value ∧ value ≤ greatest then some value else none
  | _ => none

def int32? : Json → Option Int := integerWithin? Int32.minValue.toInt Int32.maxValue.toInt

def int64? : Json → Option Int := integerWithin? Int64.minValue.toInt Int64.maxValue.toInt

def natural16? : Json → Option Int := integerWithin? 0 (UInt16.size - 1)

/-- Whether a field that states a fixed text states it, where it is present. -/
def statesOnly (expected key : String) (members : List (String × Json)) : Bool :=
  match Json.lastMember? key members with
  | none => true
  | some (.string text) => text == expected
  | some _ => false

def metadata? (value : Json) : Option Metadata := do
  let members ← members? value
  some
    { name := ← optional? Json.string? members "name"
      generateName := ← optional? Json.string? members "generateName"
      space := ← optional? Json.string? members "namespace"
      version := ← optional? Json.string? members "resourceVersion"
      annotations := (← optional? textMap? members "annotations").getD .empty }

/-- The addresses that a load balancer reports, in the status of an object. -/
def balancerAddresses? (members : List (String × Json)) : Option (List (Option String)) := do
  let status := (← optional? members? members "status").getD []
  let balancer := (← optional? members? status "loadBalancer").getD []
  let points := (← optional? (list? members?) balancer "ingress").getD []
  points.mapM fun point => optional? Json.string? point "ip"

def servicePort? (value : Json) : Option ServicePort := do
  let members ← members? value
  some
    { name := ← optional? Json.string? members "name"
      number := (← optional? int32? members "port").getD 0
      protocol := ← optional? Json.string? members "protocol" }

def service? (value : Json) : Option Service := do
  let members ← members? value
  guard (statesOnly "v1" "apiVersion" members && statesOnly "Service" "kind" members)
  let spec := (← optional? members? members "spec").getD []
  some
    { metadata := (← optional? metadata? members "metadata").getD default
      kind := ← optional? Json.string? spec "type"
      clusterAddress := ← optional? Json.string? spec "clusterIP"
      ports := (← optional? (list? servicePort?) spec "ports").getD []
      balancerAddresses := ← balancerAddresses? members }

def ingress? (value : Json) : Option Ingress := do
  let members ← members? value
  guard (statesOnly "networking.k8s.io/v1" "apiVersion" members
    && statesOnly "Ingress" "kind" members)
  let spec := (← optional? members? members "spec").getD []
  let rules := (← optional? (list? members?) spec "rules").getD []
  some
    { metadata := (← optional? metadata? members "metadata").getD default
      hosts := ← rules.mapM fun rule => optional? Json.string? rule "host"
      balancerAddresses := ← balancerAddresses? members }

end ClusterMdns.Cluster
