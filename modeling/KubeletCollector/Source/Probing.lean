import KubeletCollector.Client.Transfer
import KubeletCollector.Endpoint.Address
import KubeletCollector.Endpoint.Mask

/-!
Probing a path to a node. Every endpoint is asked once, in fetch order, and marked in a mask; a fault ends
it early. A path works if the summary and one of the other endpoints answer.
-/

namespace KubeletCollector.Source

def component : String := "collector.prober"

structure Probing where
  client : Client
  endpoints : NodeEndpoints
  retrieveContainers : Bool
  timeout : Option Float

namespace Probing

/-- Whether one endpoint answers. The container endpoint is only asked if its content is wanted. -/
def answers (probing : Probing) (kind : EndpointKind) : Act Bool := do
  if kind = .container && !probing.retrieveContainers then return false
  match probing.endpoints.url? kind with
  | none => throw .addressWithoutValue
  | some url =>
    let available := (← probing.client.probe url kind.method probing.timeout).isSome
    Act.log .info component "endpoint_availability"
      [("endpoint", .text kind.label), ("available", .flag available)]
    return available

/-- Probes endpoints in turn and marks each in the mask, up to the first fault. -/
def marksFrom (probing : Probing) :
    List EndpointKind → EndpointMask → Act (EndpointMask × Option Fault)
  | [], mask => return (mask, none)
  | kind :: kinds, mask => do
    match ← Act.attempt (probing.answers kind) with
    | .error f => return (mask, some f)
    | .ok available =>
      match mask.set? kind available with
      | none => return (mask, some .frozenMask)
      | some mask => probing.marksFrom kinds mask

def marks (probing : Probing) (mask : EndpointMask) : Act (EndpointMask × Option Fault) :=
  probing.marksFrom EndpointKind.fetchOrder mask

end Probing

/-- A path is usable if the summary and one of the other endpoints answer. -/
def isUsable (mask : EndpointMask) : Bool :=
  mask.summary && (mask.cadvisor || mask.container)

structure PathProbe where
  mask : EndpointMask
  usable : Bool
  fault : Option Fault

/-- Probes a path from scratch. A failed exchange makes it unusable; other faults end the probing. -/
def probePath (label : String) (probing : Probing) : Act PathProbe := do
  match ← probing.marks {} with
  | (mask, some (.probe url cause)) =>
    Act.log .warning component "node_probe_error"
      [("path", .text label), ("error", .text (Fault.probe url cause).message)]
    return ⟨mask, false, some (.probe url cause)⟩
  | (_, some f) => throw f
  | (mask, none) =>
    Act.log .info component "node_probe_result"
      [("path", .text label), ("success", .flag (isUsable mask)),
       ("endpoints", .texts (mask.kinds.map EndpointKind.text))]
    return ⟨mask, isUsable mask, none⟩

end KubeletCollector.Source
