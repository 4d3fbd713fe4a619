/-!
The three surfaces of a kubelet that the collector fetches.
-/

namespace KubeletCollector

inductive EndpointKind where
  | summary
  | cadvisor
  | container
deriving DecidableEq, Repr

namespace EndpointKind

def text : EndpointKind → String
  | .summary => "stats_summary"
  | .cadvisor => "cadvisor"
  | .container => "container"

def fetchOrder : List EndpointKind :=
  [.summary, .cadvisor, .container]

theorem mem_fetchOrder (kind : EndpointKind) : kind ∈ fetchOrder := by
  cases kind <;> decide

def ofText? (s : String) : Option EndpointKind :=
  fetchOrder.find? (·.text = s)

theorem ofText?_text (kind : EndpointKind) : ofText? kind.text = some kind := by
  cases kind <;> decide

def route : EndpointKind → String
  | .summary => "/stats/summary"
  | .cadvisor => "/metrics/cadvisor"
  | .container => "/stats/container/"

/-- The endpoint as reports of its availability call it. -/
def label : EndpointKind → String
  | .summary => "/stats/summary"
  | .cadvisor => "/metrics/cadvisor"
  | .container => "/stats/container"

def artifactLabel : EndpointKind → String
  | .summary => "summary"
  | .cadvisor => "cadvisor_metrics"
  | .container => "container"

/-- The container statistics are asked for with a body, the others without. -/
def method : EndpointKind → String
  | .container => "POST"
  | _ => "GET"

end EndpointKind

end KubeletCollector
