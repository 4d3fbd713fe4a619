import KubeletCollector.Number.Decimal
import KubeletCollector.Settings.Basic
import KubeletCollector.Settings.Error

/-!
Reading the settings from environment variables. Each setting has a reader of its own; numbers are
brought into their range, everything else that is malformed is refused, and of several malformed values
the first in the order of the fields decides the error.
-/

namespace KubeletCollector

open Text Number

abbrev Environment := List (String × String)

namespace Environment

def get? (env : Environment) (key : String) : Option String :=
  env.lookup ("NODESTATS_" ++ key)

def text (env : Environment) (key default : String) : String :=
  (env.get? key).getD default

/-- A flag is set by `true`, `1` or `yes` in any case. Only Latin capitals have a lower form in these
words' letters, so folding them is enough. -/
def flag (env : Environment) (key : String) (default : Bool) : Bool :=
  match env.get? key with
  | none => default
  | some value => ["true", "1", "yes"].contains value.toLower

/-- Raised to the lower bound first, then lowered to the upper one. -/
def clamp (least greatest : Option Int) (n : Int) : Int :=
  let n := match least with
    | some least => max n least
    | none => n
  match greatest with
  | some greatest => min n greatest
  | none => n

/-- An integer brought into its range. The default is written out whether or not it is needed, and
where the variable is not set it is read back like any other text. -/
def integer (env : Environment) (key : String) (default : Int) (least greatest : Option Int) :
    Except SettingError Int :=
  match writeInteger? default with
  | none => .error .longDefault
  | some written =>
    let value := env.text key written
    match readInteger value.toList with
    | .ok n => .ok (clamp least greatest n)
    | .error cause => .error (.integer value cause)

/-- The floor, if it compares greater than the value; a value that is no number is kept. -/
def raise (least : Option Float) (x : Float) : Float :=
  match least with
  | some least => if least > x then least else x
  | none => x

def decimal (env : Environment) (key : String) (default : Float) (least : Option Float) :
    Except SettingError Float :=
  match env.get? key with
  | none => .ok (raise least default)
  | some value =>
    match readDecimal? value.toList with
    | some x => .ok (raise least x)
    | none => .error (.decimal value)

end Environment

def hostUrl (value : String) : Except SettingError String :=
  match Url.host value.toList with
  | .ok url => .ok (String.ofList url)
  | .error cause => .error (.host cause)

def logLevel (value : String) : Except SettingError String :=
  if ["debug", "info", "warning", "error"].contains value.toLower then .ok value.toLower
  else .error (.logLevel value)

def logFormat (value : String) : Except SettingError String :=
  if ["json", "console"].contains value.toLower then .ok value.toLower
  else .error (.logFormat value)

/-- The API server as a pod sees it: host and port from the cluster's own variables, an address with
colons in brackets, and a fixed name if there is no host. -/
def defaultHostUrl (env : Environment) : String :=
  let host := (env.lookup "KUBERNETES_SERVICE_HOST").getD ""
  let port := (env.lookup "KUBERNETES_SERVICE_PORT").getD "443"
  if host.isEmpty then "https://kubernetes.default.svc"
  else if host.toList.contains ':' then "https://[" ++ host ++ "]:" ++ port
  else "https://" ++ host ++ ":" ++ port

def Settings.load (env : Environment) : Except SettingError Settings := do
  let hostUrl ← hostUrl (env.text "CLUSTER_HOST_URL" (defaultHostUrl env))
  let probeTimeout ← env.decimal "PROBE_TIMEOUT" 30.0 (some 1.0)
  let fetchTimeout ← env.decimal "FETCH_TIMEOUT" 60.0 (some 1.0)
  let retryLimit ← env.integer "COLLECTION_RETRY_LIMIT" 1 (some 0) (some 10)
  let pollInterval ← env.integer "POLL_INTERVAL" 180 (some 5) none
  let maxConcurrency ← env.integer "MAX_CONCURRENT_FETCHES" 1 (some 1) (some 64)
  let port ← env.integer "API_PORT" 8080 (some 1024) (some 65535)
  let level ← logLevel (env.text "LOG_LEVEL" "info")
  let format ← logFormat (env.text "LOG_FORMAT" "json")
  return {
    clusterName := env.text "CLUSTER_NAME" ""
    kubelet := {
      hostUrl
      token := env.text "BEARER_TOKEN" ""
      tokenPath := env.text "BEARER_TOKEN_PATH" "/var/run/secrets/kubernetes.io/serviceaccount/token"
      caFile := env.text "CA_FILE" ""
      forceProxy := env.flag "FORCE_KUBE_PROXY" false
      probeTimeout
      fetchTimeout }
    collection := {
      retrieveSummaries := env.flag "RETRIEVE_NODE_SUMMARIES" true
      retrieveContainers := env.flag "RETRIEVE_STATS_CONTAINER" true
      retryLimit
      pollInterval
      outputDir := env.text "OUTPUT_DIR" "/tmp/nodestats"
      artifactPrefix := env.text "ARTIFACT_PREFIX" "stats"
      maxConcurrency }
    api := { enabled := env.flag "API_ENABLED" true, port }
    log := { level, format } }

end KubeletCollector
