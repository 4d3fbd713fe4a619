/-!
What the agent can be told: how to reach the cluster and the kubelets, what to collect and where to put
it, whether to serve its status, and how to log.
-/

namespace KubeletCollector

structure KubeletSettings where
  hostUrl : String := "https://kubernetes.default.svc"
  token : String := ""
  tokenPath : String := "/var/run/secrets/kubernetes.io/serviceaccount/token"
  caFile : String := ""
  forceProxy : Bool := false
  probeTimeout : Float := 30.0
  fetchTimeout : Float := 60.0

structure CollectionSettings where
  retrieveSummaries : Bool := true
  retrieveContainers : Bool := true
  retryLimit : Int := 1
  pollInterval : Int := 180
  outputDir : String := "/tmp/nodestats"
  artifactPrefix : String := "stats"
  maxConcurrency : Int := 1

structure StatusSettings where
  enabled : Bool := true
  port : Int := 8080

structure LogSettings where
  level : String := "info"
  format : String := "json"

structure Settings where
  clusterName : String := ""
  kubelet : KubeletSettings := {}
  collection : CollectionSettings := {}
  api : StatusSettings := {}
  log : LogSettings := {}

end KubeletCollector
