import KubeletCollector.Node.Basic

/-!
What the collector logs: an event, how grave it is, which part of the collector saw it, and its fields.
-/

namespace KubeletCollector

inductive LogLevel where
  | debug
  | info
  | warning
  | error
  | critical
deriving DecidableEq, Repr

def LogLevel.text : LogLevel → String
  | .debug => "debug"
  | .info => "info"
  | .warning => "warning"
  | .error => "error"
  | .critical => "critical"

inductive LogValue where
  | nothing
  | text (s : String)
  | integer (n : Int)
  | decimal (x : Float)
  | flag (b : Bool)
  | texts (ss : List String)
  | byNode (entries : List (Option String × String))
  | condition (c : Condition)
deriving Repr

def LogValue.ofText? : Option String → LogValue
  | some s => .text s
  | none => .nothing

structure LogRecord where
  level : LogLevel
  component : String
  event : String
  fields : List (String × LogValue)
deriving Repr

end KubeletCollector
