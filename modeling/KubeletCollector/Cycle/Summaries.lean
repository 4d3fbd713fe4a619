import KubeletCollector.Cycle.Collect

/-!
A cycle as the agent runs it: collect, log what is in the report, and hand the directory to the baseline
hook if there is one. A failing hook takes nothing back.
-/

namespace KubeletCollector

/-- What is called on the directory of a finished cycle, and whether it will fail. -/
structure BaselineHook where
  fault : Option Fault := none

namespace Cycle

structure Outcome where
  report : FailureReport
  hookFault : Option Fault := none

def baselineText (f : Fault) : String :=
  "error updating node baseline files: " ++ f.message

/-- Logs the failures of a report, all at once, and its fallbacks, one by one. -/
def logReport (report : FailureReport) : Act Unit := do
  if !report.failures.isEmpty then
    Act.log .warning "collector.summaries" "failed_to_get_node_metrics"
      [("failures", .byNode report.failures.texts)]
  report.fallbacks.forM fun (node, f) =>
    Act.log .info "collector.summaries" "node_recovered_via_proxy"
      [("node", .ofText? node), ("direct_error", .text f.message)]

/-- Calls the baseline hook, which sees the files below the directory. -/
def callHook (hook : BaselineHook) (dir : Path) : Act (Option Fault) := do
  let files := (← get).files
  let seen := match files.locate dir with
    | .ok loc => files.below loc
    | .error _ => []
  Act.note (.hooked dir seen)
  return hook.fault

def retrieve (plan : Plan) (backoff : Backoff) (hook : Option BaselineHook) : Act Outcome := do
  let report ← collect plan backoff
  logReport report
  match hook with
  | none => return { report }
  | some hook => return { report, hookFault := ← callHook hook plan.dir }

def Plan.ofSettings (settings : Settings) (session : Session) (dir : Path) : Plan :=
  { session, dir
    artifactPrefix := settings.collection.artifactPrefix
    hostUrl := settings.kubelet.hostUrl
    maxConcurrency := settings.collection.maxConcurrency }

end Cycle

end KubeletCollector
