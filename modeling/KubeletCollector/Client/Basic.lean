import KubeletCollector.Outside.Act
import KubeletCollector.Settings.Basic
import KubeletCollector.Text.Blank

/-!
Clients. A client sends requests on one side, shows a token if it has one, and knows how often a failed
fetch is repeated. The client for nodes accepts any certificate, for kubelets sign their own.
-/

namespace KubeletCollector

open Text

structure Client where
  side : Side
  token : String := ""
  /-- How many attempts may follow the first one. -/
  retries : Nat := 1
  pause : Float := 1.0

namespace Client

/-- A client with a retry limit; a limit below zero is none. -/
def withLimit (side : Side) (token : String) (limit : Int) (pause : Float) : Client :=
  { side, token, retries := limit.toNat, pause }

def headers (client : Client) : List (String × String) :=
  if client.token.isEmpty then [] else [("Authorization", "Bearer " ++ client.token)]

def connect (side : Side) (timeout : Float) (verification : Verification) : Act Unit := do
  Act.note (.clientMade timeout verification)
  Act.raiseIf ((← get).platform.clientFault side)

def forNodes (token : String) (timeout : Float) (limit : Int) : Act Client := do
  connect .node timeout .off
  return withLimit .node token limit 1.0

def forCluster (token : String) (timeout : Float) (limit : Int) (caFile : String) : Act Client := do
  connect .cluster timeout (if caFile.isEmpty then .system else .authority caFile)
  return withLimit .cluster token limit 1.0

end Client

/-- A path with a slash or a point at its end leads to no file. -/
def endsLikeDirectory (path : String) : Bool :=
  match (fields '/' path.toList).getLast? with
  | some name => name = [] ∨ name = ['.']
  | none => true

/-- The token to show: the configured one, or what the token file holds. Without either there is none. -/
def bearerToken (settings : KubeletSettings) : Act String := do
  if !settings.token.isEmpty then return settings.token
  let path := Path.ofText settings.tokenPath
  if path.hasNull || endsLikeDirectory settings.tokenPath then return ""
  match (← get).files.read? path with
  | none => return ""
  | some bytes =>
    match decodeUtf8 bytes with
    | .ok cs => return String.ofList (trim isBlank (unifyLineEnds cs))
    | .error cause => throw (.undecodable cause)

def buildClients (settings : Settings) : Act (Client × Client) := do
  let token ← bearerToken settings.kubelet
  let limit := settings.collection.retryLimit
  let nodeClient ← Client.forNodes token settings.kubelet.probeTimeout limit
  let clusterClient ←
    Client.forCluster token settings.kubelet.fetchTimeout limit settings.kubelet.caFile
  return (nodeClient, clusterClient)

end KubeletCollector
