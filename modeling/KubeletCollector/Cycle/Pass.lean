import KubeletCollector.Client.Transfer
import KubeletCollector.Directory
import KubeletCollector.Endpoint.Address
import KubeletCollector.Session

/-!
A pass over the endpoints of one node. It fetches every endpoint of a mask through one client and leaves
either all artifacts or, if one cannot be fetched, none.
-/

namespace KubeletCollector

/-- For what node a pass is made, and how its artifacts are named and placed. -/
structure Job where
  node : Option String
  artifactPrefix : String
  dir : Path
  hostUrl : String

namespace Job

def component : String := "collector.fetcher"

def target (job : Job) (kind : EndpointKind) : Path :=
  job.dir.child (artifactName job.artifactPrefix (nameText job.node) kind)

def body (kind : EndpointKind) : Option Text.Bytes :=
  if kind = .container then some (Text.utf8 containersRequest) else none

def fetchKind (job : Job) (client : Client) (endpoints : NodeEndpoints) (kind : EndpointKind) :
    Act Path := do
  Act.log .debug component "fetching_endpoint"
    [("node", .ofText? job.node), ("endpoint", .text kind.text)]
  match endpoints.url? kind with
  | none => throw .addressWithoutValue
  | some url =>
    client.fetch ⟨kind.method, url, body kind, job.target kind⟩
    return job.target kind

/-- Fetches endpoints in turn. After a fault that the collector reports, what was written is removed. -/
def passFrom (job : Job) (client : Client) (endpoints : NodeEndpoints) (written : List Path) :
    List EndpointKind → Act (List Path)
  | [] => return written
  | kind :: kinds => do
    match ← Act.attempt (job.fetchKind client endpoints kind) with
    | .ok path => job.passFrom client endpoints (written ++ [path]) kinds
    | .error f =>
      if f.isOwn || f.isSystem then written.forM Act.removeFile
      throw f

/-- The artifacts of every endpoint in the mask, in fetch order. -/
def pass (job : Job) (client : Client) (mask : EndpointMask) (endpoints : NodeEndpoints) :
    Act (List Path) := do
  if mask.kinds.isEmpty then throw .emptyMask
  job.passFrom client endpoints [] mask.kinds

def directPass (job : Job) (session : Session) (node : NodeInfo) : Act (List Path) := do
  match Directory.address node with
  | .error f => throw (.nodeAddress f)
  | .ok (ip, port) =>
    match session.nodeClient with
    | none => throw .noNodeClient
    | some client => job.pass client session.directMask (.direct ip port)

def proxyPass (job : Job) (session : Session) : Act (List Path) := do
  match session.clusterClient with
  | none => throw .noClusterClient
  | some client => job.pass client session.proxyMask (.proxy job.hostUrl (nameText job.node))

end Job

end KubeletCollector
