import KubeletCollector.Cycle.Summaries
import KubeletCollector.State

/-!
The agent between start and stop. It probes once, and then runs cycles; neither a failed probe nor a
failed cycle ends it. What is no failure of the collector's own kind crashes the cycle, and the loop
around the cycles records that and goes on.
-/

namespace KubeletCollector

structure Agent where
  settings : Settings
  state : CollectionState := {}
  hook : Option BaselineHook := none
  backoff : Backoff := {}
  nodeClient : Option Client := none
  clusterClient : Option Client := none
  /-- Whether the client of the cluster's API is open. -/
  apiOpen : Bool := false
  /-- Whether it was ever started, with settings that could be read. -/
  started : Bool := false

namespace Agent

def component : String := "app"

def version : String := "0.1.0"

/-- Settles how nodes are reached. That they cannot be reached is a result like any other. -/
def probe (agent : Agent) : Act CollectionState := do
  match agent.nodeClient, agent.clusterClient with
  | some nodeClient, some clusterClient =>
    let state := agent.state
    if !agent.settings.collection.retrieveSummaries then
      Act.log .info component "node summary collection disabled by configuration" []
      return state
    match ← Act.attempt (Source.choose agent.settings agent.backoff nodeClient clusterClient) with
    | .ok (.usable session) => return { state with session := some session }
    | .ok (.unreachable session cause) =>
      let error := Source.unreachableText cause
      Act.log .error component "node metrics unreachable; collection disabled"
        [("error", .text error)]
      return { state with session := some session, probeError := error }
    | .error f =>
      if !f.isOwn then throw f
      Act.log .error component "connectivity probe failed; collection disabled"
        [("error", .text f.message)]
      return { state with probeError := f.message }
  | _, _ => throw .unassembled

def sampleDir (settings : Settings) (time : Instant) : Path :=
  (Path.ofText settings.collection.outputDir).child ("sample-" ++ time.stamp)

def collectInto (agent : Agent) (session : Session) (dir : Path) : Act Cycle.Outcome := do
  Act.makeDirectories dir
  Cycle.retrieve (.ofSettings agent.settings session dir) agent.backoff agent.hook

def runCycle (agent : Agent) : Act CollectionState := do
  let state := agent.state
  match state.session.filter Session.retrieveSummaries with
  | none => return state
  | some session =>
    let dir := sampleDir agent.settings (← Act.now)
    let place := ("sample_dir", LogValue.text dir.text)
    match ← Act.attempt (agent.collectInto session dir) with
    | .ok ⟨report, none⟩ =>
      Act.log .info component "collection cycle complete"
        [place, ("failed_nodes", .integer report.failures.length)]
      return { state.recordReport report (← Act.now) with lastError := "" }
    | .ok ⟨report, some f⟩ =>
      let error := Cycle.baselineText f
      Act.log .error component "baseline update failed" [("error", .text error), place]
      return { state.recordReport report (← Act.now) with lastError := error }
    | .error f =>
      if !Cycle.isReported f then throw f
      Act.log .error component "collection cycle failed" [("error", .text f.message), place]
      return { state with lastError := f.message }

/-- One round of the loop: a cycle, crash or not, and a rest. -/
def round (agent : Agent) : Act CollectionState := do
  let state ← match ← Act.attempt agent.runCycle with
    | .ok state => pure state
    | .error f => do
      Act.log .error component "collection cycle crashed" [("error", .text f.message)]
      pure { agent.state with lastError := "collection cycle crashed: " ++ f.message }
  Act.note (.rested agent.settings.collection.pollInterval)
  return state

def rounds (agent : Agent) : (count : Nat) → Act (List CollectionState)
  | 0 => return []
  | count + 1 => do
    let state ← agent.round
    return state :: (← { agent with state }.rounds count)

/-- The seconds a component may take to close. -/
def closeGrace : Int := 15

/-- Closes a component. A failure is logged and stops nothing. -/
def closeQuietly (part : Component) : Act Unit := do
  match ← Act.attempt (Act.close part) with
  | .ok () => return ()
  | .error f =>
    if f.isTimeout then
      Act.log .warning part.text "component close timed out" [("timeout", .integer closeGrace)]
    else
      Act.log .error part.text "component close raised an error" [("error", .text f.message)]

/-- Closes what is open, in the reverse of the order in which it was opened. An agent that was never
started has nothing to stop. -/
def stop (agent : Agent) : Act Agent := do
  if !agent.started then return agent
  Act.log .info component "nodestats shutting down" []
  if agent.clusterClient.isSome then closeQuietly .clusterClient
  if agent.nodeClient.isSome then closeQuietly .nodeClient
  if agent.apiOpen && (← get).platform.apiCloses then closeQuietly .apiClient
  Act.log .info component "nodestats stopped" []
  return { agent with nodeClient := none, clusterClient := none, apiOpen := false }

end Agent

end KubeletCollector
