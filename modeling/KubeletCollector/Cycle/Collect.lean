import KubeletCollector.Cycle.Pass
import KubeletCollector.Cycle.Task
import KubeletCollector.Source.Choice

/-!
One cycle: the ready nodes are listed and each is collected, directly if the session says so, and through
the proxy if that fails or is not to be. What a node did not yield goes into the report and touches no
other node. The nodes are collected in turn or, if several may be at once, side by side.
-/

namespace KubeletCollector

namespace Cycle

def component : String := "collector.fetcher"

/-- A fault of one node, to be reported; any other ends the cycle. -/
def isReported (f : Fault) : Bool :=
  f.isOwn || f.isSystem

/-- The reported outcome of a pass: nothing if it succeeded. -/
def reported {α : Type} (act : Act α) : Act (Option Fault) := do
  match ← Act.attempt act with
  | .ok _ => return none
  | .error f => if isReported f then return some f else throw f

/-- Whether a node is asked directly. Fargate nodes have no kubelet that could be reached. -/
def goesDirect (session : Session) (node : NodeInfo) : Act Bool := do
  if session.mode ≠ .direct then return false
  return !(← Source.meetsFargate node)

def warned (node : NodeInfo) (report : FailureReport) : FailureReport :=
  if node.providerId.isEmpty then
    { report with failures := report.failures.put node.name .missingProviderId }
  else report

def noted (node : NodeInfo) (direct : Option Fault) (report : FailureReport) : FailureReport :=
  match direct with
  | none => report
  | some f => { report with failures := report.failures.put node.name (.directPath f) }

/-- The report after a node was collected through the proxy; `direct` is why it was not directly. -/
def recovered (node : NodeInfo) (direct : Option Fault) (report : FailureReport) : FailureReport :=
  match direct with
  | none => report
  | some f =>
    { failures :=
        if node.providerId.isEmpty then report.failures.put node.name .missingProviderId
        else report.failures.drop node.name
      fallbacks := report.fallbacks.put node.name (.directPath f) }

/-- The report after the pass through the proxy, which is where a node ends that was not collected
directly. -/
def proxied (node : NodeInfo) (direct failed : Option Fault) (report : FailureReport) : FailureReport :=
  match failed with
  | some f => { report with failures := report.failures.put node.name (.proxyPath f) }
  | none => recovered node direct report

def proxyTask (session : Session) (job : Job) (node : NodeInfo) (direct : Option Fault) : Task :=
  .stage (reported (job.proxyPass session)) (proxied node direct) fun _ => .ended

def nodeTask (session : Session) (job : Job) (node : NodeInfo) : Task :=
  .stage (goesDirect session node) (fun _ => warned node) fun
    | true => .stage (reported (job.directPass session node)) (noted node) fun
      | none => .ended
      | some f =>
        .stage (Act.log .warning component "direct_fetch_failed"
          [("node", .ofText? node.name), ("error", .text f.message)]) (fun _ report => report)
          fun _ => proxyTask session job node (some f)
    | false => proxyTask session job node none

structure Plan where
  session : Session
  artifactPrefix : String
  dir : Path
  hostUrl : String
  maxConcurrency : Int := 1

def Plan.job (plan : Plan) (node : NodeInfo) : Job :=
  ⟨node.name, plan.artifactPrefix, plan.dir, plan.hostUrl⟩

def Plan.task (plan : Plan) (node : NodeInfo) : Task :=
  nodeTask plan.session (plan.job node) node

def Plan.collect (plan : Plan) (report : FailureReport) (node : NodeInfo) : Act FailureReport :=
  (plan.task node).run report

/-- One node after the other; a fault that is not reported ends the cycle. -/
def inTurn (plan : Plan) (nodes : List NodeInfo) : Act FailureReport :=
  nodes.foldlM plan.collect {}

/-- The nodes side by side, no more at once than the plan allows. The schedule of the outside says which
of them goes on when. -/
def sideBySide (plan : Plan) (nodes : List NodeInfo) : Act FailureReport :=
  .atomic fun o => Pool.run plan.maxConcurrency o.schedule { tasks := nodes.map plan.task } o

def nodes (backoff : Backoff) : Act (List NodeInfo) := do
  match ← Act.attempt (Directory.readyNodes backoff) with
  | .ok nodes => return nodes
  | .error f => throw (.listing f)

def collect (plan : Plan) (backoff : Backoff) : Act FailureReport := do
  let nodes ← nodes backoff
  let report ←
    if plan.maxConcurrency ≤ 1 then inTurn plan nodes
    else sideBySide plan nodes
  Act.log .debug component "node_data_downloaded"
    [("nodes", .integer nodes.length), ("failed", .integer report.failures.length),
     ("fallbacks", .integer report.fallbacks.length)]
  return report

end Cycle

end KubeletCollector
