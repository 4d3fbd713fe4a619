import KubeletCollector.Fault.Basic

/-!
Snapshots: what the collector keeps of a node that the cluster describes. A missing part leaves its
default behind; a gap in a list is a fault. Labels are ordered by their keys.
-/

namespace KubeletCollector

/-- The entries of a list that may have gaps; each is looked at for `field`. -/
def withoutGaps {α : Type} (field : String) (entries : List (Option α)) : Except Fault (List α) :=
  entries.mapM fun
    | some a => .ok a
    | none => .error (.gap field)

def Condition.filled (c : Condition) : Condition :=
  { c with reason := some (c.reason.getD ""), message := some (c.message.getD "") }

def sortLabels (labels : List (String × Option String)) : List (String × Option String) :=
  labels.mergeSort fun a b => a.1 ≤ b.1

def NodeObject.snapshot (node : NodeObject) : Except Fault NodeInfo := do
  let conditions ← withoutGaps "type" ((node.status.map NodeStatus.conditions).getD [])
  let addresses ← withoutGaps "type" ((node.status.map NodeStatus.addresses).getD [])
  return {
    name := match node.metadata with
      | some m => m.name
      | none => some ""
    conditions := conditions.map Condition.filled
    addresses
    kubeletPort := (node.status.bind NodeStatus.kubeletPort).getD 0
    labels := sortLabels ((node.metadata.map Metadata.labels).getD [])
    providerId := node.providerId.getD "" }

def snapshots (nodes : List (Option NodeObject)) : Except Fault (List NodeInfo) := do
  nodes.mapM fun
    | some node => node.snapshot
    | none => .error (.gap "metadata")

end KubeletCollector
