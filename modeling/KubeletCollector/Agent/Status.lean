import KubeletCollector.Agent.Basic
import KubeletCollector.Document

/-!
The status that an agent serves. It answers `GET` on two paths: whether it is there at all, and what its
collecting has come to. If the state cannot be read or shown, the answer says no more than that.
-/

namespace KubeletCollector

structure Response where
  status : Nat
  body : Option Document

namespace Status

def nameOf (name : Option String) : Except Fault String :=
  match name with
  | some name => .ok name
  | none => .error (.gap "name")

def faultsDocument (faults : NodeFaults) : Except Fault Document := do
  return .table (← faults.texts.mapM fun (node, text) => do return (← nameOf node, .text text))

def maskDocument (mask : EndpointMask) : Document :=
  .texts (mask.kinds.map EndpointKind.text)

def sessionDocument (session : Session) : Except Fault Document := do
  return .table [
    ("mode", .text session.mode.text),
    ("direct_endpoints", maskDocument session.directMask),
    ("proxy_endpoints", maskDocument session.proxyMask),
    ("probed_node", .text (← nameOf session.probedNode)),
    ("probed_at", .text session.probedAt.text)]

def stateDocument (clusterName : String) (state : CollectionState) : Except Fault Document := do
  let session ← match state.session with
    | some session => sessionDocument session
    | none => .ok .nothing
  let report := state.lastReport.getD {}
  return .table [
    ("cluster_name", .text clusterName),
    ("collection_enabled", .flag state.isEnabled),
    ("session", session),
    ("probe_error", .text state.probeError),
    ("cycles_completed", .integer state.cyclesCompleted),
    ("last_cycle_at", match state.lastCycleAt with
      | some time => .text time.text
      | none => .nothing),
    ("last_error", .text state.lastError),
    ("failed_nodes", ← faultsDocument report.failures),
    ("fallback_nodes", ← faultsDocument report.fallbacks)]

def detail (text : String) : Document :=
  .table [("detail", .text text)]

def healthDocument : Document :=
  .table [("status", .text "ok"), ("version", .text Agent.version)]

def internalError : Document :=
  .table [("error", .text "INTERNAL_ERROR"), ("detail", .text "An unexpected error occurred.")]

/-- A path without its query and without slashes at its end. -/
def bare (path : String) : List Char :=
  Url.dropEndSlashes (path.toList.takeWhile fun c => c != '?' && c != '#')

def answer (clusterName : String) (state : Except Fault CollectionState) (method path : String) :
    Act (Nat × Document) := do
  match state.bind (stateDocument clusterName) with
  | .ok document => return (200, document)
  | .error f =>
    Act.log .error "api.app" "unhandled_exception"
      [("path", .text path), ("method", .text method), ("error", .text f.message)]
    return (500, internalError)

/-- Answers a request in any case of its method. `state` is read only where it is shown, and a request
for the head of an answer gets no body. -/
def respond (clusterName : String) (state : Except Fault CollectionState) (method path : String) :
    Act Response := do
  let method := method.toUpper
  let health := bare path = "/api/v1/health".toList
  let known := health || bare path = "/api/v1/status".toList
  let (status, body) ←
    if !known then pure (404, detail "Not Found")
    else if method ≠ "GET" then pure (405, detail "Method Not Allowed")
    else if health then pure (200, healthDocument)
    else answer clusterName state method path
  return ⟨status, if method = "HEAD" then none else some body⟩

end Status

end KubeletCollector
