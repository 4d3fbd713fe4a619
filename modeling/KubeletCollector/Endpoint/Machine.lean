import KubeletCollector.Association
import KubeletCollector.Endpoint.Mask

/-!
Masks under names, and the steps that make, change, copy and ask them. A step that fails changes
nothing.
-/

namespace KubeletCollector

abbrev MaskTable := List (String × EndpointMask)

inductive MaskStep where
  | create (name : String) (kinds : List EndpointKind) (frozen : Bool)
  | mark (name : String) (kind : EndpointKind) (available : Bool)
  | freeze (name into : String)
  /-- A session is given the mask, and what it holds gets a name. -/
  | share (name into : String)
  | has (name : String) (kind : EndpointKind)
  | alike (name other : String)
deriving DecidableEq, Repr

inductive MaskError where
  | frozen
  | unknown (name : String)
deriving DecidableEq, Repr

namespace MaskTable

def bind (table : MaskTable) (name : String) (mask : EndpointMask) : MaskTable :=
  Association.bound name mask table

theorem lookup_bind (table : MaskTable) (name other : String) (mask : EndpointMask) :
    (table.bind name mask).lookup other = if other = name then some mask else table.lookup other :=
  Association.lookup_bound name other mask table

def find (table : MaskTable) (name : String) : Except MaskError EndpointMask :=
  match table.lookup name with
  | some mask => .ok mask
  | none => .error (.unknown name)

/-- What a step answers, if it asks something, and the table after it. A session holds the very mask it
was given if that is frozen, and a frozen copy of it otherwise. -/
def step (table : MaskTable) : MaskStep → Except MaskError (Option Bool × MaskTable)
  | .create name kinds frozen => .ok (none, table.bind name (.ofKinds kinds frozen))
  | .mark name kind available => do
    match (← table.find name).set? kind available with
    | some mask => return (none, table.bind name mask)
    | none => throw .frozen
  | .freeze name into => do
    return (none, table.bind into (← table.find name).freeze)
  | .share name into => do
    let mask ← table.find name
    return (some mask.frozen, table.bind into mask.freeze)
  | .has name kind => do
    return (some ((← table.find name).has kind), table)
  | .alike name other => do
    return (some ((← table.find name).alike (← table.find other)), table)

def run (table : MaskTable) (steps : List MaskStep) : MaskTable :=
  steps.foldl (fun table step => match table.step step with
    | .ok (_, table) => table
    | .error _ => table) table

end MaskTable

end KubeletCollector
