import KubeletCollector.Directory
import KubeletCollector.Session
import KubeletCollector.Source.Probing

/-!
The source of node metrics, settled once per run. The first ready node is probed, directly if that is
allowed and then through the proxy. The direct path is taken if it works, and else the proxy. If neither
works there is a session too, one that collects nothing.
-/

namespace KubeletCollector

inductive Source where
  | usable (session : Session)
  | unreachable (session : Session) (cause : Option Fault)

namespace Source

def unreachableText (cause : Option Fault) : String :=
  "unable to retrieve node metrics. Please verify RBAC roles"
    ++ (match cause with
      | some f => ": " ++ f.message
      | none => "")

def fargateDocs : String := "https://docs.aws.amazon.com/eks/latest/userguide/fargate.html"

/-- Whether a node is a Fargate node; one that is gets logged. -/
def meetsFargate (node : NodeInfo) : Act Bool := do
  if node.isFargate then
    Act.log .debug component "fargate_node_found" [("node", .ofText? node.name)]
  return node.isFargate

/-- Whether kubelets may be asked directly: not if the proxy is forced, nor if any node is a Fargate
node. -/
def allowsDirect (forceProxy : Bool) (nodes : List NodeInfo) : Bool :=
  !forceProxy && !nodes.any NodeInfo.isFargate

def decideDirect (forceProxy : Bool) (nodes : List NodeInfo) : Act Bool := do
  if forceProxy then
    Act.log .info component "direct_connect_disabled" [("reason", .text "force_kube_proxy is set")]
  else if let some node := nodes.find? NodeInfo.isFargate then
    let _ ← meetsFargate node
    Act.log .info component "direct_connect_disabled"
      [("reason", .text "fargate node found in cluster"), ("node", .ofText? node.name),
       ("docs", .text fargateDocs)]
  return allowsDirect forceProxy nodes

def logSelected (mode : ConnectionMode) (node : NodeInfo) : Act Unit :=
  Act.log .info component "node_source_selected"
    [("mode", .text mode.text), ("node", .ofText? node.name)]

def candidates (backoff : Backoff) : Act (List NodeInfo × NodeInfo × Option String × Int) := do
  match ← Act.attempt (Directory.readyNodes backoff) with
  | .error f => throw (.sourceNodes f)
  | .ok [] => throw (.sourceNodes .noReadyNodes)
  | .ok (first :: rest) =>
    match Directory.address first with
    | .error f => throw (.sourceAddress f)
    | .ok (ip, port) => return (first :: rest, first, ip, port)

def choose (settings : Settings) (backoff : Backoff) (nodeClient clusterClient : Client) :
    Act Source := do
  let (nodes, first, ip, port) ← candidates backoff
  let probing (client : Client) (endpoints : NodeEndpoints) : Probing :=
    ⟨client, endpoints, settings.collection.retrieveContainers, some settings.kubelet.probeTimeout⟩
  let direct := probing nodeClient (.direct ip port)
  let proxy := probing clusterClient (.proxy settings.kubelet.hostUrl (nameText first.name))
  let directProbe ← if ← decideDirect settings.kubelet.forceProxy nodes
    then probePath "direct" direct
    else pure ⟨{}, false, none⟩
  let proxyProbe ← probePath "proxy" proxy
  let session : Session := {
    mode := .unreachable
    directMask := directProbe.mask.freeze
    proxyMask := proxyProbe.mask.freeze
    probedNode := first.name
    probedAt := ← Act.now }
  if directProbe.usable then
    logSelected .direct first
    return .usable { session with
      mode := .direct, nodeClient := some nodeClient, clusterClient := some clusterClient }
  if proxyProbe.usable then
    logSelected .proxy first
    return .usable { session with mode := .proxy, clusterClient := some clusterClient }
  return .unreachable { session with retrieveSummaries := false } proxyProbe.fault

end Source

end KubeletCollector
