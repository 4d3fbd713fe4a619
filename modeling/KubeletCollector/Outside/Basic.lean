import KubeletCollector.Node.Snapshot
import KubeletCollector.Outside.Event
import KubeletCollector.Outside.Log
import KubeletCollector.Time.Instant

/-!
The outside as the collector meets it: what it will answer, the files it holds, and the record of what
was done to it. An answer that is given is used up, except the last one, which is given again and again.
-/

namespace KubeletCollector

open Text

inductive Listing where
  | nodes (entries : List (Option NodeObject))
  | fault (cause : Fault)
deriving DecidableEq, Repr

inductive Reply where
  | response (status : Int) (chunks : List Bytes) (broken : Option Fault)
  | fault (cause : Fault)
deriving DecidableEq, Repr

def nextOf {α : Type} : List α → Option (α × List α)
  | [] => none
  | [a] => some (a, [a])
  | a :: b :: rest => some (a, b :: rest)

abbrev Routes := List (String × List Reply)

/-- The reply to a request, and the routes afterwards. What has no route is not found. -/
def Routes.take (routes : Routes) (line : String) : Reply × Routes :=
  match (routes.lookup line).bind nextOf with
  | none => (.response 404 [] none, routes)
  | some (reply, rest) =>
    (reply, routes.map fun entry => if entry.1 = line then (line, rest) else entry)

/-- What may go wrong while the parts of an agent are set up and closed. -/
structure Platform where
  inClusterFault : Option Fault := none
  kubeConfigFault : Option Fault := none
  /-- Why the client of a side cannot be made. -/
  clientFault : Side → Option Fault := fun _ => none
  serverFault : Option Fault := none
  closeFault : Component → Option Fault := fun _ => none
  /-- Whether the client of the cluster's API can be closed at all. -/
  apiCloses : Bool := true

/-- What happens next where several tasks are under way. -/
inductive Choice where
  /-- A task goes on to where it next waits. -/
  | go (task : Nat)
  /-- Another task is let in. -/
  | letIn
  /-- The tasks are no longer waited for, which takes a fault of one of them. -/
  | leave
deriving DecidableEq, Repr

structure Outside where
  now : Instant := { year := 2026, month := 1, day := 2, hour := 3, minute := 4, second := 5 }
  /-- The fractions that chance will give, in turn and round again. -/
  fractions : List Float := [0.0]
  /-- How tasks take turns. Once that is used up, each goes on to its end, one after the other. -/
  schedule : List Choice := []
  listings : List Listing := [.nodes []]
  nodeRoutes : Routes := []
  clusterRoutes : Routes := []
  files : FileTree := {}
  platform : Platform := {}
  trace : List Event := []
  log : List LogRecord := []

def Outside.routes (outside : Outside) : Side → Routes
  | .node => outside.nodeRoutes
  | .cluster => outside.clusterRoutes

def Outside.setRoutes (outside : Outside) : Side → Routes → Outside
  | .node, routes => { outside with nodeRoutes := routes }
  | .cluster, routes => { outside with clusterRoutes := routes }

end KubeletCollector
