import KubeletCollector.Client.Basic
import KubeletCollector.Endpoint.Mask

/-!
Sessions: how the nodes of a cluster are reached for the lifetime of an agent. The masks of a session
are frozen.
-/

namespace KubeletCollector

inductive ConnectionMode where
  | direct
  | proxy
  | unreachable
deriving DecidableEq, Repr

namespace ConnectionMode

def text : ConnectionMode → String
  | .direct => "direct"
  | .proxy => "proxy"
  | .unreachable => "unreachable"

def ofText? (s : String) : Option ConnectionMode :=
  [direct, proxy, unreachable].find? (·.text = s)

theorem ofText?_text (mode : ConnectionMode) : ofText? mode.text = some mode := by
  cases mode <;> decide

end ConnectionMode

structure Session where
  mode : ConnectionMode
  directMask : EndpointMask
  proxyMask : EndpointMask
  nodeClient : Option Client := none
  clusterClient : Option Client := none
  retrieveSummaries : Bool := true
  probedNode : Option String := some ""
  probedAt : Instant

def Session.sealed (session : Session) : Session :=
  { session with directMask := session.directMask.freeze, proxyMask := session.proxyMask.freeze }

end KubeletCollector
