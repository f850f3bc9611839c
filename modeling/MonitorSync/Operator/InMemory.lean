import MonitorSync.Kube.InMemory
import MonitorSync.Operator.Context
import MonitorSync.Remote.InMemory
set_option autoImplicit false

/-!
# The operator's surroundings in memory

An API server and a platform that every client reaches, where chosen requests and calls fail without
effect, and where all that is asked is kept.

## Main definitions

* `Surroundings` — the two systems, and what they were asked
* `Surroundings.answer` — the answer to a call, and the systems after it
* `Surroundings.run` — running a pass
-/

namespace MonitorSync

/-- The systems around the operator, and what they were asked, newest first. -/
structure Surroundings where
  cluster : InMemoryCluster
  platform : InMemoryPlatform
  /-- Requests to the API server, with the code of each reply. -/
  requests : List (ApiRequest × Nat) := []
  calls : List RemoteCall := []

/-- What shall fail: the `n`th request of its verb and resource, with a code; the `n`th call to the
platform. Both are counted from zero. -/
structure Faults where
  request : ApiRequest → Nat → Option Nat
  call : Nat → RemoteCall → Option Failure

/-- The code of a reply to a request that succeeds. -/
def ApiRequest.successCode : ApiRequest → Nat
  | .createEvent .. => 201
  | _ => 200

namespace Surroundings

/-- How many requests of the same verb and resource came before. -/
def countAlike (r : ApiRequest) (w : Surroundings) : Nat :=
  (w.requests.filter fun q => q.1.verb = r.verb && q.1.resource = r.resource).length

/-- The answer to a request to the API server. -/
def answerApi (faults : Faults) (r : ApiRequest) (w : Surroundings) : r.Answer × Surroundings :=
  match faults.request r (w.countAlike r) with
  | some code => (.error (.refused code ""), { w with requests := (r, code) :: w.requests })
  | none =>
    let (reply, cluster) := InMemoryCluster.answer r w.cluster
    let code := match reply with
      | .ok _ => r.successCode
      | .error fault => fault.code?.getD 0
    (reply, { w with cluster := cluster, requests := (r, code) :: w.requests })

/-- The answer to a call to the platform. -/
def answerRemote (faults : Faults) (c : RemoteCall) (w : Surroundings) :
    c.Answer × Surroundings :=
  let next := { w with calls := c :: w.calls }
  match faults.call w.calls.length c with
  | some f => (.error f, next)
  | none =>
    let (reply, platform) := InMemoryPlatform.answer c w.platform
    (reply, { next with platform := platform })

/-- The answer to a call. -/
def answer {Client : Type} (faults : Faults) :
    (c : OperatorCall Client) → Surroundings → c.Answer × Surroundings
  | .api r, w => w.answerApi faults r
  | .remote _ c, w => w.answerRemote faults c

/-- Runs a pass: its result, the registry after it, and the systems after it. -/
def run {Client α : Type} (faults : Faults) (pass : Operator Client α)
    (registry : Registry Client) (w : Surroundings) :
    (Except OperatorFailure α × Registry Client) × Surroundings :=
  Program.run (answer faults) ((ExceptT.run pass).run registry) w

end Surroundings

end MonitorSync
