import KubeletCollector.Endpoint.Kind
import KubeletCollector.Files.Tree

/-!
What the collector does to the outside, event by event.
-/

namespace KubeletCollector

open Text

/-- The two ways to a kubelet: straight to its node, or through the cluster's API server. -/
inductive Side where
  | node
  | cluster
deriving DecidableEq, Repr

/-- A probe asks whether an endpoint answers; a fetch takes its content. -/
inductive Purpose where
  | probe
  | fetch
deriving DecidableEq, Repr

structure Request where
  side : Side
  purpose : Purpose
  method : String
  url : String
  headers : List (String × String)
  body : Option Bytes
  timeout : Option Float

/-- What identifies a request to the one who answers it. -/
def Request.line (r : Request) : String :=
  r.method ++ " " ++ r.url

inductive Verification where
  | off
  | system
  | authority (file : String)
deriving DecidableEq, Repr

/-- What an agent opens and has to close. -/
inductive Component where
  | nodeClient
  | clusterClient
  | apiClient
deriving DecidableEq, Repr

def Component.text : Component → String
  | .nodeClient => "node_client"
  | .clusterClient => "cluster_client"
  | .apiClient => "k8s_client"

inductive Event where
  /-- The nodes were asked for. -/
  | listed
  /-- A pause before another attempt. -/
  | paused (seconds : Float)
  /-- The rest between two cycles. -/
  | rested (seconds : Int)
  | requested (request : Request)
  /-- The baseline hook was called on a directory with these files. -/
  | hooked (dir : Path) (files : List (Location × Entry))
  | closed (component : Component)
  | loggingSet (level format : String)
  | inClusterConfig
  | kubeConfig
  /-- A client was made. -/
  | clientMade (timeout : Float) (verification : Verification)
  /-- The status server was made. -/
  | serverMade (host : String) (port : Int)

end KubeletCollector
