import KubeletCollector.Fault.Basic

/-!
Reports: which nodes a cycle failed to collect, and which it collected only through the proxy. Nodes
stand in the order in which they were first entered.
-/

namespace KubeletCollector

open Text

abbrev NodeFaults := List (Option String × Fault)

namespace NodeFaults

/-- Enters a fault; a node that is there keeps its place. -/
def put (faults : NodeFaults) (node : Option String) (fault : Fault) : NodeFaults :=
  match faults with
  | [] => [(node, fault)]
  | (other, old) :: rest =>
    if other = node then (node, fault) :: rest else (other, old) :: put rest node fault

def drop (faults : NodeFaults) (node : Option String) : NodeFaults :=
  Association.without node faults

def get? (faults : NodeFaults) (node : Option String) : Option Fault :=
  faults.lookup node

theorem get?_put (faults : NodeFaults) (node other : Option String) (fault : Fault) :
    (faults.put node fault).get? other = if other = node then some fault else faults.get? other := by
  have unequal {a b : Option String} (h : a ≠ b) : (a == b) = false := by simpa using h
  induction faults with
  | nil =>
    by_cases h : other = node
    · simp [put, get?, h]
    · simp [put, get?, List.lookup_cons, unequal h, h]
  | cons entry faults ih =>
    obtain ⟨name, old⟩ := entry
    simp only [get?] at ih
    by_cases hn : name = node
    · subst hn
      by_cases h : other = name
      · simp [put, get?, h]
      · simp [put, get?, List.lookup_cons, unequal h, h]
    · by_cases h : other = name
      · subst h
        simp [put, get?, hn]
      · simp [put, get?, List.lookup_cons, hn, unequal h, ih]

theorem get?_drop (faults : NodeFaults) (node other : Option String) :
    (faults.drop node).get? other = if other = node then none else faults.get? other :=
  Association.lookup_without node other faults

def ofList (entries : List (Option String × Fault)) : NodeFaults :=
  entries.foldl (fun faults e => faults.put e.1 e.2) []

def texts (faults : NodeFaults) : List (Option String × String) :=
  faults.map fun (node, fault) => (node, fault.message)

end NodeFaults

/-- What a cycle could not do. A node in `fallbacks` was collected, though not directly. -/
structure FailureReport where
  failures : NodeFaults := []
  fallbacks : NodeFaults := []
deriving DecidableEq, Repr

namespace FailureReport

def shownName : Option String → String
  | some name => quoted name
  | none => "None"

/-- The report in one line: every failure with its text, and how many fallbacks there were. -/
def text (report : FailureReport) : String :=
  "FailureReport(failures=\x7b"
    ++ String.intercalate ", "
      (report.failures.texts.map fun (node, text) => shownName node ++ ": " ++ quoted text)
    ++ "\x7d, fallbacks=" ++ toString report.fallbacks.length ++ ")"

end FailureReport

end KubeletCollector
