import KubeletCollector.Client.Basic
import KubeletCollector.Outside.Files

/-!
What clients do. A probe asks once whether an endpoint answers with status 200. A fetch writes the
content of an endpoint to a file and is repeated after a failure; what a failed attempt wrote does not
stay, unless the failure is of a kind that no client expects.
-/

namespace KubeletCollector.Client

open Text

def component : String := "collector.transport"

/-- A failed exchange as the fault of a probe; other faults stay as they are. -/
def probeFault (url : String) (f : Fault) : Fault :=
  if f.isWire then .probe url f else f

/-- The body of an endpoint that answers with status 200, and nothing if it answers otherwise. -/
def probe (client : Client) (url method : String) (timeout : Option Float) : Act (Option Bytes) := do
  match ← Act.exchange ⟨client.side, .probe, method, url, client.headers, none, timeout⟩ with
  | .fault f | .response _ _ (some f) => throw (probeFault url f)
  | .response status chunks none =>
    if status = 200 then return some chunks.flatten
    Act.log .debug component "probe_unavailable"
      [("url", .text url), ("method", .text method), ("status_code", .integer status)]
    return none

structure Download where
  method : String
  url : String
  body : Option Bytes
  target : Path

def Download.request (d : Download) (client : Client) : Request :=
  let content := match d.body with
    | some _ => [("Content-Type", "application/json")]
    | none => []
  ⟨client.side, .fetch, d.method, d.url, client.headers ++ content, d.body, none⟩

def addChunk (file : Location) (chunk : Bytes) : Act Unit := do
  Act.await
  Act.appendTo file chunk

def receive (d : Download) : Reply → Act Unit
  | .fault f => throw f
  | .response status chunks broken => do
    if status ≠ 200 then
      throw (.fetch d.url ("invalid response " ++ toString status) (some status))
    let file ← Act.openEmpty d.target
    chunks.forM (addChunk file)
    Act.await
    Act.raiseIf broken

/-- The text of a failed exchange, or the name of its kind if it has none. -/
def failureText (f : Fault) : String :=
  if !f.message.isEmpty then f.message
  else match f with
    | .wire kind _ => kind.name
    | _ => "InvalidURL"

/-- One attempt. What the wire or the system broke off leaves no file behind. -/
def transfer (client : Client) (d : Download) : Act Unit := do
  let result ← Act.attempt (do receive d (← Act.exchange (d.request client)))
  -- the response is closed, and that is waited for
  Act.await
  match result with
  | .ok () => return ()
  | .error f =>
    if f.isWire then
      Act.removeFile d.target
      throw (.fetch d.url (failureText f) none)
    if f.isSystem then Act.removeFile d.target
    throw f

/-- Attempt number `attempt`, and `more` after it if it fails. -/
def fetchFrom (client : Client) (d : Download) : (more attempt : Nat) → Act Unit
  | more, attempt => do
    if attempt ≠ 1 then
      Act.note (.paused client.pause)
      Act.await
    match ← Act.attempt (client.transfer d) with
    | .ok () => return ()
    | .error f =>
      if !f.isFetch then throw f
      Act.log .debug component "fetch_attempt_failed"
        [("url", .text d.url), ("attempt", .integer attempt), ("error", .text f.message)]
      match more with
      | 0 => throw f
      | more + 1 => client.fetchFrom d more (attempt + 1)

def fetch (client : Client) (d : Download) : Act Unit :=
  client.fetchFrom d client.retries 1

end KubeletCollector.Client
