import KubeletCollector.Number.Decimal
import KubeletCollector.Outside.Act

/-!
The directory of nodes. Listing is tried again after a conflict, with pauses that grow; any other fault
ends it at once. The nodes that are ready stay in listing order.
-/

namespace KubeletCollector

/-- How often an action is tried, and how long the pauses between the tries are. -/
structure Backoff where
  steps : Int := 4
  duration : Float := 0.01
  factor : Float := 5.0
  jitter : Float := 0.1

namespace Backoff

/-- The pauses of a number of tries: each is longer than the one before by the factor, and is spread by
chance. -/
def pausesFrom (backoff : Backoff) (duration : Float) : (count : Nat) → Act (List Float)
  | 0 => return []
  | count + 1 => do
    let spread := 0.0 + duration * backoff.jitter * (← Act.fraction)
    let rest ← backoff.pausesFrom (duration * backoff.factor) count
    return (duration + spread) :: rest

def pauses (backoff : Backoff) : Act (List Float) :=
  backoff.pausesFrom backoff.duration (backoff.steps - 1).toNat

end Backoff

namespace Directory

def component : String := "collector.node_directory"

/-- Tries an action; after a conflict it pauses and tries again while there are pauses left. -/
def retryWith {α : Type} (act : Act α) : (pauses : List Float) → Act α
  | [] => act
  | pause :: pauses => do
    match ← Act.attempt act with
    | .ok a => return a
    | .error f =>
      if f.isConflict then
        Act.log .debug component "node_list_conflict_retry"
          [("delay_seconds", .decimal (Number.roundPlaces pause 4))]
        Act.note (.paused pause)
        retryWith act pauses
      else throw f

/-- Tries an action again after a conflict. The pauses are settled before the first try. -/
def retryOnConflict {α : Type} (backoff : Backoff) (act : Act α) : Act α := do
  retryWith act (← backoff.pauses)

def nodes (backoff : Backoff) : Act (List NodeInfo) := do
  let entries ← retryOnConflict backoff Act.askForNodes
  match snapshots entries with
  | .ok nodes => return nodes
  | .error f => throw f

def logNotReady (node : NodeInfo) : Act Unit :=
  Act.log .debug component "node_not_ready"
    [("node", .ofText? node.name),
     ("condition", match node.condition? "Ready" with
      | some c => .condition c
      | none => .nothing)]

/-- The nodes that are ready; that there are none is a fault. -/
def readyNodes (backoff : Backoff) : Act (List NodeInfo) := do
  let all ← nodes backoff
  (all.filter (!·.isReady)).forM logNotReady
  let ready := all.filter NodeInfo.isReady
  if ready.isEmpty then throw .noReadyNodes
  if ready.length ≠ all.length then
    Act.log .info component "some_nodes_not_ready"
      [("ready", .integer ready.length), ("total", .integer all.length)]
  return ready

def address (node : NodeInfo) : Except Fault (Option String × Int) :=
  match node.internalAddress? with
  | some a => .ok (a.address, node.kubeletPort)
  | none => .error (.noInternalAddress node.name)

end Directory

end KubeletCollector
