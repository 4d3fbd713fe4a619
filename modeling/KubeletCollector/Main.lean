import KubeletCollector.Agent.Command

/-!
The command line as a program. It has the settings of its process and an outside without a cluster.
-/

namespace KubeletCollector

def settingKeys : List String :=
  ["CLUSTER_NAME", "CLUSTER_HOST_URL", "BEARER_TOKEN", "BEARER_TOKEN_PATH", "CA_FILE",
   "FORCE_KUBE_PROXY", "PROBE_TIMEOUT", "FETCH_TIMEOUT", "RETRIEVE_NODE_SUMMARIES",
   "RETRIEVE_STATS_CONTAINER", "COLLECTION_RETRY_LIMIT", "POLL_INTERVAL", "OUTPUT_DIR",
   "ARTIFACT_PREFIX", "MAX_CONCURRENT_FETCHES", "API_ENABLED", "API_PORT", "LOG_LEVEL",
   "LOG_FORMAT"].map ("NODESTATS_" ++ ·) ++ ["KUBERNETES_SERVICE_HOST", "KUBERNETES_SERVICE_PORT"]

def processEnvironment : IO Environment := do
  let mut env : Environment := []
  for key in settingKeys do
    if let some value ← IO.getEnv key then env := env ++ [(key, value)]
  return env

/-- Does what the arguments ask for, prints what that leaves, and says how it ended. -/
def commandLine (args : List String) : IO UInt32 := do
  match ((Command.execute args (← processEnvironment) 1).outcome {}).1 with
  | .ok finished =>
    IO.print (finished.printed.getD "")
    return finished.code.toUInt32
  | .error f =>
    IO.eprintln f.message
    return 1

end KubeletCollector

def main (args : List String) : IO UInt32 :=
  KubeletCollector.commandLine args
