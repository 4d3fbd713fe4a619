import KubeletCollector.Text.Split

/-!
Paths. A path is a start and a list of names; empty names and `.` are dropped when a path is read, and
`..` stays, for only the tree that is walked can tell where it leads.
-/

namespace KubeletCollector

open Text

/-- Where a path starts. Two slashes, and no more, are a start of their own. -/
inductive PathStart where
  | here
  | root
  | doubleRoot
deriving DecidableEq, Repr

def PathStart.text : PathStart → String
  | .here => ""
  | .root => "/"
  | .doubleRoot => "//"

structure Path where
  start : PathStart
  names : List String
deriving DecidableEq, Repr

namespace Path

def startOf : List Char → PathStart
  | '/' :: '/' :: '/' :: _ => .root
  | '/' :: '/' :: _ => .doubleRoot
  | '/' :: _ => .root
  | _ => .here

def namesOf (cs : List Char) : List String :=
  ((fields '/' cs).filter fun f => f ≠ [] ∧ f ≠ ['.']).map String.ofList

def ofText (s : String) : Path :=
  ⟨startOf s.toList, namesOf s.toList⟩

/-- The empty path is written as a point. -/
def text (p : Path) : String :=
  if p.start = .here ∧ p.names = [] then "."
  else p.start.text ++ String.intercalate "/" p.names

/-- `q` as seen from `p`; a path that has a start of its own stands for itself. -/
def join (p q : Path) : Path :=
  if q.start = .here then ⟨p.start, p.names ++ q.names⟩ else q

def child (p : Path) (s : String) : Path :=
  p.join (ofText s)

def parent (p : Path) : Path :=
  ⟨p.start, p.names.dropLast⟩

/-- No path of a file system holds a null character. -/
def hasNull (p : Path) : Bool :=
  p.names.any fun name => name.toList.contains (Char.ofNat 0)

end Path

end KubeletCollector
