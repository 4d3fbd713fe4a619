import KubeletCollector.Agent.Basic
import KubeletCollector.Outside.Logging
import KubeletCollector.Settings.Environment

/-!
A whole run of an agent: its parts are opened one after the other, it probes, serves its status, runs
cycles until it is told to stop, and closes what it opened. A part that cannot be opened ends the run;
whatever ends it, the parts that are open are closed.
-/

namespace KubeletCollector

/-- A part without which there is no agent. -/
inductive Part where
  | apiClient
  | transport
deriving DecidableEq, Repr

def Part.text : Part → String
  | .apiClient => "k8s_client"
  | .transport => "transport"

inductive StartFault where
  | part (part : Part) (cause : Fault)
  | other (cause : Fault)
deriving DecidableEq, Repr

inductive RunEnd where
  | stopped
  /-- A part could not be opened. -/
  | fatal
  | fault (cause : Fault)
deriving DecidableEq, Repr

structure Run where
  ending : RunEnd
  /-- The state at the end of each round. -/
  states : List CollectionState := []
  final : CollectionState := {}

/-- Opens the client of the cluster's API with the configuration of the pod or, if there is none, of the
user. -/
def openApi : Act Unit := do
  Act.note .inClusterConfig
  match (← get).platform.inClusterFault with
  | none => return ()
  | some (.clusterConfig _) =>
    Act.note .kubeConfig
    Act.raiseIf (← get).platform.kubeConfigFault
  | some f => throw f

namespace Agent

/-- Makes the status server. Without it the agent goes on. -/
def startServer (settings : Settings) : Act Unit := do
  if settings.api.enabled then
    Act.note (.serverMade "0.0.0.0" settings.api.port)
    match (← get).platform.serverFault with
    | none =>
      Act.log .info component "rest api started" [("port", .integer settings.api.port)]
    | some f =>
      Act.log .warning component "rest api failed to start; status endpoint unavailable"
        [("error", .text f.message)]

/-- Opens the parts. Of the two clients it keeps both or neither. -/
def openParts (agent : Agent) : Act (Agent × Option StartFault) := do
  Act.log .debug component "starting k8s client" []
  match ← Act.attempt openApi with
  | .error f => return (agent, some (.part .apiClient f))
  | .ok () =>
    Act.log .info component "k8s client started" []
    let agent := { agent with apiOpen := true }
    match ← Act.attempt (buildClients agent.settings) with
    | .error f => return (agent, some (.part .transport f))
    | .ok (nodeClient, clusterClient) =>
      return ({ agent with nodeClient := some nodeClient, clusterClient := some clusterClient }, none)

def enterService (agent : Agent) : Act (Agent × Option StartFault) := do
  match ← Act.attempt agent.probe with
  | .error f => return (agent, some (.other f))
  | .ok state =>
    if state.isEnabled then Act.log .info component "collection loop started" []
    startServer agent.settings
    Act.log .info component "nodestats started" [("mode", .text state.modeText)]
    return ({ agent with state }, none)

/-- Sets up logging, unless the settings, which may be given, name a format that there is not. -/
def setUpLogging (settings : LogSettings) : Act Unit := do
  let _ ← Act.ofExcept (Logging.setUp settings.level settings.format)
  Act.note (.loggingSet settings.level settings.format)

/-- Starts an agent. What it had opened when it failed stays open; before logging is set up it has not
begun. -/
def start (agent : Agent) : Act (Agent × Option StartFault) := do
  match ← Act.attempt (setUpLogging agent.settings.log) with
  | .error f => return (agent, some (.other f))
  | .ok () =>
    Act.log .info component "nodestats starting" [("version", .text version)]
    match ← { agent with started := true }.openParts with
    | (agent, some fault) => return (agent, some fault)
    | (agent, none) => agent.enterService

/-- Starts an agent with settings that are given, or else with those of the environment. Without
settings nothing is started. -/
def startWith (given : Option Settings) (env : Environment) (hook : Option BaselineHook) :
    Act (Agent × Option StartFault) :=
  match given, Settings.load env with
  | some settings, _ | none, .ok settings => start { settings, hook }
  | none, .error cause => return ({ settings := {}, hook }, some (.other (.setting cause)))

def collectFor (agent : Agent) (count : Nat) : Act (Agent × List CollectionState) := do
  if !agent.state.isEnabled then return (agent, [])
  let states ← agent.rounds (max count 1)
  return ({ agent with state := states.getLast?.getD agent.state }, states)

/-- How serving ended: what kept the agent from starting, if anything did, its states at the end of
each round, and the agent once it was stopped. -/
structure Served where
  fault : Option StartFault
  states : List CollectionState
  agent : Agent

/-- Starts an agent, runs it for a number of rounds and stops it. It is stopped also if it could not
be started. -/
def serve (given : Option Settings) (env : Environment) (hook : Option BaselineHook) (count : Nat) :
    Act Served := do
  match ← startWith given env hook with
  | (agent, some fault) => return { fault := some fault, states := [], agent := ← agent.stop }
  | (agent, none) =>
    let (agent, states) ← agent.collectFor count
    return { fault := none, states, agent := ← agent.stop }

def endOf : StartFault → Act RunEnd
  | .part part cause => do
    Act.log .critical part.text "fatal startup error" [("error", .text cause.message)]
    return .fatal
  | .other cause => return .fault cause

def run (given : Option Settings) (env : Environment) (count : Nat) : Act Run := do
  let served ← serve given env none count
  match served.fault with
  | some fault => return { ending := ← endOf fault, final := served.agent.state }
  | none => return { ending := .stopped, states := served.states, final := served.agent.state }

end Agent

end KubeletCollector
