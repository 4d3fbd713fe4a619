import KubeletCollector.Fault.Kinds
import KubeletCollector.Files.Tree
import KubeletCollector.Node.Basic
import KubeletCollector.Settings.Error

/-!
Faults: everything that can end an action, whether it came from outside or was found by the collector.
The collector's own faults carry what they were caused by. One function gives a fault its text, and
three predicates tell the families apart that the collector treats differently.
-/

namespace KubeletCollector

open Text

inductive Fault where
  /-- An exchange over the wire failed. -/
  | wire (kind : WireKind) (text : String)
  /-- The wire refused a URL. -/
  | badUrl (text : String)
  /-- The system refused a service. -/
  | system (kind : SystemKind) (text : String)
  /-- A file operation failed on a path. -/
  | file (cause : FileError) (path : Path)
  /-- The cluster's API answered with an error. -/
  | api (status : Option Int) (reason : Option String)
  /-- There is no configuration to reach the cluster with. -/
  | clusterConfig (text : String)
  /-- A component reported a failure in the collector's own terms. -/
  | own (kind : OwnKind) (text : String)
  /-- Anything else, by its name. -/
  | foreign (name text : String)
  /-- A path holds a null character. -/
  | nullInPath
  /-- Nothing stands where something with this field is needed. -/
  | gap (field : String)
  /-- A node's address has no value. -/
  | addressWithoutValue
  /-- A write to a frozen mask. -/
  | frozenMask
  /-- A text that is no kind of endpoint. -/
  | unknownKind (text : String)
  /-- A text that is no connection mode. -/
  | unknownMode (text : String)
  /-- A key that is not there. -/
  | unknownKey (key : String)
  /-- The agent was used before its parts were there. -/
  | unassembled
  | setting (cause : SettingError)
  | undecodable (cause : Malformed)
  | noReadyNodes
  | noInternalAddress (node : Option String)
  /-- The nodes could not be listed for a cycle. -/
  | listing (cause : Fault)
  /-- The nodes could not be listed for probing. -/
  | sourceNodes (cause : Fault)
  /-- The node to be probed has no usable address. -/
  | sourceAddress (cause : Fault)
  | probe (url : String) (cause : Fault)
  | fetch (url detail : String) (status : Option Int)
  | emptyMask
  | noNodeClient
  | noClusterClient
  | nodeAddress (cause : Fault)
  | directPath (cause : Fault)
  | proxyPath (cause : Fault)
  | missingProviderId
deriving DecidableEq, Repr

namespace Fault

def orNone (value : Option String) : String :=
  value.getD "None"

def message : Fault → String
  | .wire _ text | .badUrl text | .system _ text | .clusterConfig text | .own _ text
  | .foreign _ text => text
  | .file cause path =>
    "[Errno " ++ toString cause.number ++ "] " ++ cause.text ++ ": " ++ quoted path.text
  | .api status reason =>
    "(" ++ orNone (status.map toString) ++ ")\nReason: " ++ orNone reason ++ "\n"
  | .nullInPath => "embedded null byte"
  | .gap field => "'NoneType' object has no attribute " ++ quoted field
  | .addressWithoutValue => "argument of type 'NoneType' is not iterable"
  | .frozenMask => "endpoint mask is frozen"
  | .unknownKind text => quoted text ++ " is not a valid EndpointKind"
  | .unknownMode text => quoted text ++ " is not a valid ConnectionMode"
  | .unknownKey key => quoted key
  | .unassembled => ""
  | .setting cause => cause.message
  | .undecodable cause => cause.message
  | .noReadyNodes => "there were 0 nodes in a ready state"
  | .noInternalAddress node => "could not find internal IP address for node " ++ nameText node
  | .listing cause => "unable to get a list of nodes: " ++ cause.message
  | .sourceNodes cause => "error retrieving nodes: " ++ cause.message
  | .sourceAddress cause => "error retrieving node addresses: " ++ cause.message
  | .probe url cause => "probe of " ++ url ++ " failed: " ++ cause.message
  | .fetch url detail _ => "fetch of " ++ url ++ " failed: " ++ detail
  | .emptyMask => "no endpoints available for this connection path"
  | .noNodeClient => "no direct node client configured"
  | .noClusterClient => "no cluster client configured"
  | .nodeAddress cause => "problem getting node address: " ++ cause.message
  | .directPath cause => "direct connect failed (will attempt proxy): " ++ cause.message
  | .proxyPath cause => "proxy connect failed: " ++ cause.message
  | .missingProviderId =>
    "Provider ID for node does not exist. "
      ++ "If this condition persists it will cause inconsistent cluster allocation"

/-- The wire failed or refused a URL: what a client counts as a failed exchange. -/
def isWire : Fault → Bool
  | .wire .. | .badUrl _ => true
  | _ => false

def isSystem : Fault → Bool
  | .system .. | .file .. => true
  | _ => false

def isTimeout : Fault → Bool
  | .system .timeout _ => true
  | _ => false

/-- The collector's own faults, which it reports and works around. -/
def isOwn : Fault → Bool
  | .own .. | .noReadyNodes | .noInternalAddress _ | .listing _ | .sourceNodes _ | .sourceAddress _
  | .probe .. | .fetch .. | .emptyMask | .noNodeClient | .noClusterClient | .nodeAddress _
  | .directPath _ | .proxyPath _ | .missingProviderId => true
  | _ => false

def isFetch : Fault → Bool
  | .fetch .. => true
  | _ => false

/-- Two writers are at work at once: the one answer of the API that is worth another attempt. -/
def isConflict : Fault → Bool
  | .api (some 409) _ => true
  | _ => false

end Fault

end KubeletCollector
