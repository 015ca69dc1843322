import Switchboard.Message.Token

/-!
Counters of deployments and of dispatched requests, and the size of the live table, as an exporter
has them that is installed before anything is recorded. What is recorded before an exporter is
installed, such as the first deployment of a service that installs it later, is not counted.
-/

namespace Switchboard

structure Metrics where
  succeeded : Nat
  failed : Nat
  routes : Option Nat
  answered : List ((Method × UInt16) × Nat)

namespace Metrics

def initial : Metrics := ⟨0, 0, none, []⟩

def countOf (metrics : Metrics) (method : Method) (status : UInt16) : Nat :=
  (metrics.answered.lookup (method, status)).getD 0

def increment (key : Method × UInt16) :
    List ((Method × UInt16) × Nat) → List ((Method × UInt16) × Nat)
  | [] => [(key, 1)]
  | (other, count) :: counts =>
    if other = key then (other, count + 1) :: counts else (other, count) :: increment key counts

def recordAnswer (metrics : Metrics) (method : Method) (status : UInt16) : Metrics :=
  { metrics with answered := increment (method, status) metrics.answered }

def recordSuccess (metrics : Metrics) (routes : Nat) : Metrics :=
  { metrics with succeeded := metrics.succeeded + 1, routes := some routes }

def recordFailure (metrics : Metrics) : Metrics :=
  { metrics with failed := metrics.failed + 1 }

def deploymentLine (outcome : String) (count : Nat) : List String :=
  if count = 0 then []
  else ["adapter_deployments_total\x7boutcome=\"" ++ outcome ++ "\"\x7d " ++ toString count]

def answeredLine : (Method × UInt16) × Nat → String
  | ((method, status), count) =>
    "adapter_requests_total\x7bmethod=\"" ++ method.name ++ "\",status=\"" ++
      toString status.toNat ++ "\"\x7d " ++ toString count

def methodTotal (metrics : Metrics) (method : Method) : Nat :=
  (metrics.answered.filter fun ((other, _), _) => other = method).foldr
    (fun (_, count) total => count + total) 0

def durationLine (metrics : Metrics) (method : Method) : String :=
  "adapter_request_duration_seconds_count\x7bmethod=\"" ++ method.name ++ "\"\x7d " ++
    toString (metrics.methodTotal method)

def lines (metrics : Metrics) : List String :=
  let methods := (metrics.answered.map fun ((method, _), _) => method).eraseDups
  let routes := match metrics.routes with
    | some routes => ["adapter_routes " ++ toString routes]
    | none => []
  let deployments :=
    deploymentLine "success" metrics.succeeded ++ deploymentLine "failure" metrics.failed
  let all := deployments ++ routes ++ metrics.answered.map answeredLine ++
    methods.map metrics.durationLine
  all.mergeSort fun a b => decide (a ≤ b)

end Metrics

end Switchboard
