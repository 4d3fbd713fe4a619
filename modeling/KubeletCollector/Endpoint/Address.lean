import KubeletCollector.Endpoint.Kind
import KubeletCollector.Url.Host

/-!
Where the endpoints of a node are found, and what their artifacts are called. A kubelet is reached at
its own address, or through the API server, which passes requests on to the node's proxy.
-/

namespace KubeletCollector

/-- The endpoint `kind` of the kubelet that listens at `ip` and `port`; an address with colons stands in
brackets. -/
def directUrl (ip : String) (port : Int) (kind : EndpointKind) : String :=
  "https://" ++ (if ip.toList.contains ':' then "[" ++ ip ++ "]" else ip) ++ ":" ++ toString port
    ++ kind.route

/-- The endpoint `kind` of the node `name` behind the API server at `host`. -/
def proxyUrl (host name : String) (kind : EndpointKind) : String :=
  String.ofList (Url.dropEndSlashes host.toList) ++ "/api/v1/nodes/" ++ name ++ "/proxy" ++ kind.route

def artifactName (start node : String) (kind : EndpointKind) : String :=
  start ++ "-" ++ kind.artifactLabel ++ "-" ++ node

/-- The endpoints of one node; a node may report an address without a value. -/
inductive NodeEndpoints where
  | direct (ip : Option String) (port : Int)
  | proxy (host name : String)
deriving DecidableEq, Repr

/-- The URL of an endpoint. There is none for an address without a value. -/
def NodeEndpoints.url? : NodeEndpoints → EndpointKind → Option String
  | .direct ip port, kind => ip.map (directUrl · port kind)
  | .proxy host name, kind => some (proxyUrl host name kind)

def containersRequest : String :=
  "\x7b\"num_stats\":1,\"subcontainers\":true\x7d"

end KubeletCollector
