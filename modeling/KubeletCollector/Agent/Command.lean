import KubeletCollector.Agent.Run
import KubeletCollector.Document

/-!
The command line. `run` runs the agent; `probe` settles once how nodes are reached and prints what it
found. Options stand before the words of the main command, and anywhere among those of a subcommand;
after `--` everything is a word.
-/

namespace KubeletCollector

inductive Command where
  | help
  | misuse
  | run
  | probe (forceProxy : Bool)
deriving DecidableEq, Repr

namespace Command

def looksLikeOption (word : String) : Bool :=
  word.toList.head? = some '-' && 1 < word.length

/-- The options among the arguments and the words, unless there is an option that is not known. Where
options and words may not be mixed, the first word ends the options. -/
def scan (known : List String) (mixed : Bool) : List String → Option (List String × List String)
  | [] => some ([], [])
  | word :: rest =>
    if word = "--" then some ([], rest)
    else if looksLikeOption word then
      if known.contains word then (scan known mixed rest).map fun r => (word :: r.1, r.2) else none
    else if mixed then (scan known mixed rest).map fun r => (r.1, word :: r.2)
    else some ([], word :: rest)

/-- A subcommand takes no words. Asking for help comes before everything but an unknown option. -/
def subcommand (known : List String) (args : List String) (command : List String → Command) : Command :=
  match scan ("--help" :: known) true args with
  | none => .misuse
  | some (options, words) =>
    if options.contains "--help" then .help
    else if words.isEmpty then command options
    else .misuse

def mainOptions : List String := ["--help", "--version"]

def ofArgs (args : List String) : Command :=
  match scan mainOptions false args with
  | none => .misuse
  | some (_ :: _, _) => .help
  | some ([], []) => .misuse
  | some ([], "run" :: rest) => subcommand [] rest fun _ => .run
  | some ([], "probe" :: rest) =>
    subcommand ["--force-proxy"] rest fun options => .probe (options.contains "--force-proxy")
  | some ([], words) =>
    match scan mainOptions false words with
    | some (_ :: _, _) => .help
    | _ => .misuse

structure Finished where
  code : Nat
  printed : Option String := none

def sessionEntries (session : Session) : List (String × Document) :=
  let mask (m : EndpointMask) : Document := .texts (m.kinds.map EndpointKind.text)
  [("mode", .text session.mode.text),
   ("direct_endpoints", mask session.directMask),
   ("proxy_endpoints", mask session.proxyMask),
   ("probed_node", match session.probedNode with
    | some name => .text name
    | none => .nothing),
   ("retrieve_node_summaries", .flag session.retrieveSummaries)]

/-- What is printed of a probe, and the exit code: 0 if the nodes can be reached, 2 if they cannot, and 1
if that could not be found out. -/
def summary : Except Fault Source → Act Finished
  | .ok (.usable session) => return ⟨0, some (Document.table (sessionEntries session)).page⟩
  | .ok (.unreachable session cause) =>
    return ⟨2, some (Document.table
      (sessionEntries session ++ [("error", .text (Source.unreachableText cause))])).page⟩
  | .error f =>
    if f.isOwn then
      return ⟨1, some (Document.table [("mode", .nothing), ("error", .text f.message)]).page⟩
    else throw f

/-- Closes what a probe opened. Here a failure to close is not passed over. -/
def closeAll : Act Unit := do
  Act.close .clusterClient
  Act.close .nodeClient
  if !(← get).platform.apiCloses then throw (.gap "close")
  Act.close .apiClient

def probeOnce (env : Environment) (forceProxy : Bool) : Act Finished := do
  match Settings.load env with
  | .error cause => throw (.setting cause)
  | .ok settings =>
    let settings := { settings with
      kubelet.forceProxy := settings.kubelet.forceProxy || forceProxy }
    Act.note (.loggingSet settings.log.level "console")
    openApi
    let (nodeClient, clusterClient) ← buildClients settings
    let outcome ← Act.attempt (Source.choose settings {} nodeClient clusterClient)
    closeAll
    summary outcome

/-- Does what the arguments ask for; an agent runs for a number of rounds. -/
def execute (args : List String) (env : Environment) (rounds : Nat) : Act Finished := do
  match ofArgs args with
  | .help => return ⟨0, none⟩
  | .misuse => return ⟨2, none⟩
  | .probe forceProxy => probeOnce env forceProxy
  | .run =>
    match (← Agent.run none env rounds).ending with
    | .stopped => return ⟨0, none⟩
    | .fatal => return ⟨1, none⟩
    | .fault f => throw f

end Command

end KubeletCollector
