/-!
Nodes. `NodeObject` is a node as the cluster describes it: any part of it may be missing. `NodeInfo` is
the snapshot of it that the collector works with, and answers what a node is called, whether it is
ready, where its kubelet listens and whether it is a Fargate node, which has no kubelet to talk to.
-/

namespace KubeletCollector

structure Condition where
  type : Option String
  status : Option String
  reason : Option String
  message : Option String
deriving DecidableEq, Repr

structure Address where
  type : Option String
  address : Option String
deriving DecidableEq, Repr

/-- The names a node goes by; a label may lack a value. -/
structure Metadata where
  name : Option String
  labels : List (String × Option String)
deriving DecidableEq, Repr

/-- What a node reports about itself; a list may have gaps. -/
structure NodeStatus where
  conditions : List (Option Condition)
  addresses : List (Option Address)
  kubeletPort : Option Int
deriving DecidableEq, Repr

structure NodeObject where
  metadata : Option Metadata
  providerId : Option String
  status : Option NodeStatus
deriving DecidableEq, Repr

structure NodeInfo where
  name : Option String
  conditions : List Condition := []
  addresses : List Address := []
  kubeletPort : Int := 10250
  labels : List (String × Option String) := []
  providerId : String := ""
deriving DecidableEq, Repr

def nameText (name : Option String) : String :=
  name.getD "None"

namespace NodeInfo

def label? (node : NodeInfo) (key : String) : Option String :=
  (node.labels.lookup key).join

def condition? (node : NodeInfo) (type : String) : Option Condition :=
  node.conditions.find? (·.type = some type)

def isReady (node : NodeInfo) : Bool :=
  match node.condition? "Ready" with
  | some c => c.status = some "True"
  | none => false

def isFargate (node : NodeInfo) : Bool :=
  node.label? "eks.amazonaws.com/compute-type" = some "fargate"

/-- The first address inside the cluster's network. Others are never used. -/
def internalAddress? (node : NodeInfo) : Option Address :=
  node.addresses.find? (·.type = some "InternalIP")

end NodeInfo

end KubeletCollector
