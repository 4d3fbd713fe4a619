import KubeletCollector.Fault.Basic
import KubeletCollector.Outside.Log

/-!
Where log records go. Records below a threshold are dropped; the others are written as one line each. The
loggers of chatty libraries are held to warnings at least.
-/

namespace KubeletCollector

def LogLevel.number : LogLevel → Nat
  | .debug => 10
  | .info => 20
  | .warning => 30
  | .error => 40
  | .critical => 50

def LogLevel.ofMethod? : String → Option LogLevel
  | "debug" => some .debug
  | "info" | "msg" => some .info
  | "warning" | "warn" => some .warning
  | "error" | "exception" => some .error
  | "critical" | "fatal" => some .critical
  | _ => none

namespace Logging

/-- The capital of an ASCII letter, and of the two other letters that share a capital with one. -/
def capital (c : Char) : Char :=
  if c.toNat = 0x131 then 'I' else if c.toNat = 0x17f then 'S' else c.toUpper

def capitals (level : String) : String :=
  String.ofList (level.toList.map capital)

/-- The threshold that a level name stands for in any case; an unknown name stands for `info`. -/
def threshold (level : String) : Nat :=
  ([("CRITICAL", 50), ("FATAL", 50), ("ERROR", 40), ("WARNING", 30), ("WARN", 30), ("INFO", 20),
    ("DEBUG", 10), ("NOTSET", 0)].lookup (capitals level)).getD 20

def chattyThreshold (level : String) : Nat :=
  max (threshold level) LogLevel.warning.number

inductive Format where
  | json
  | console
deriving DecidableEq, Repr

def format (name : String) : Except String Format :=
  if name = "json" then .ok .json
  else if name = "console" then .ok .console
  else .error ("Invalid log format: " ++ name ++ ". Must be one of ('json', 'console')")

/-- The format to log in, or why logging cannot be set up. One name is found among the levels and stands
for a text, which no threshold is. -/
def setUp (level name : String) : Except Fault Format :=
  match format name with
  | .error text => .error (.foreign "ValueError" text)
  | .ok format =>
    if capitals level = "BASIC_FORMAT" then
      .error (.foreign "KeyError" "'%(levelname)s:%(name)s:%(message)s'")
    else .ok format

/-- What a line holds: the fields, among which a component of its own replaces the logger's, and the
event and the level, which no field replaces. -/
def lineFields {α : Type} (ofText : String → α) (component event : String) (level : LogLevel)
    (fields : List (String × α)) : List (String × α) :=
  let kept := fields.filter fun e => e.1 ≠ "event" ∧ e.1 ≠ "level" ∧ e.1 ≠ "ts"
  let component := if kept.any (·.1 = "component") then [] else [("component", ofText component)]
  component ++ kept ++ [("event", ofText event), ("level", ofText level.text)]

def consoleLines (event : String) : Nat :=
  1 + event.toList.count '\n'

end Logging

end KubeletCollector
