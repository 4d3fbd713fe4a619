import KubeletCollector.Report
import KubeletCollector.Session

/-!
What an agent knows about its own collecting: the session, what probing came to, and the latest cycle.
-/

namespace KubeletCollector

structure CollectionState where
  session : Option Session := none
  probeError : String := ""
  cyclesCompleted : Nat := 0
  lastCycleAt : Option Instant := none
  lastReport : Option FailureReport := none
  lastError : String := ""

namespace CollectionState

def isEnabled (state : CollectionState) : Bool :=
  state.session.any Session.retrieveSummaries

def modeText (state : CollectionState) : String :=
  match state.session with
  | some session => session.mode.text
  | none => "disabled"

def recordReport (state : CollectionState) (report : FailureReport) (time : Instant) :
    CollectionState :=
  { state with
    lastReport := some report
    lastCycleAt := some time
    cyclesCompleted := state.cyclesCompleted + 1 }

end CollectionState

end KubeletCollector
