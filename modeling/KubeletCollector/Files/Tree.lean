import KubeletCollector.Association
import KubeletCollector.Files.Path
import KubeletCollector.Text.Utf8

/-!
A tree of files. It maps locations, which are names from the root downwards, to files and directories.
A path is walked name by name: every name but the last must lead into a directory.
-/

namespace KubeletCollector

open Text

/-- Names from the root downwards. -/
abbrev Location := List String

inductive Entry where
  | file (content : Bytes)
  | directory
deriving DecidableEq, Repr

inductive FileError where
  | notFound
  | exists
  | notADirectory
  | isADirectory
  | nameTooLong
deriving DecidableEq, Repr

namespace FileError

def number : FileError → Nat
  | .notFound => 2
  | .exists => 17
  | .notADirectory => 20
  | .isADirectory => 21
  | .nameTooLong => 36

def text : FileError → String
  | .notFound => "No such file or directory"
  | .exists => "File exists"
  | .notADirectory => "Not a directory"
  | .isADirectory => "Is a directory"
  | .nameTooLong => "File name too long"

end FileError

/-- What stands at each location but the root, which is a directory. -/
structure FileTree where
  entries : List (Location × Entry) := []
deriving DecidableEq, Repr

namespace FileTree

def get? (tree : FileTree) (loc : Location) : Option Entry :=
  if loc = [] then some .directory else tree.entries.lookup loc

def erase (tree : FileTree) (loc : Location) : FileTree :=
  ⟨Association.without loc tree.entries⟩

def put (tree : FileTree) (loc : Location) (entry : Entry) : FileTree :=
  ⟨Association.bound loc entry tree.entries⟩

theorem get?_erase (tree : FileTree) (loc other : Location) :
    (tree.erase loc).get? other = if other = loc ∧ other ≠ [] then none else tree.get? other := by
  by_cases h : other = []
  · simp [get?, h]
  · simp [get?, erase, Association.lookup_without, h]

theorem get?_put (tree : FileTree) (loc other : Location) (entry : Entry) :
    (tree.put loc entry).get? other =
      if other = loc ∧ other ≠ [] then some entry else tree.get? other := by
  by_cases h : other = []
  · simp [get?, h]
  · simp [get?, put, Association.lookup_bound, h]

/-- The longest name, in bytes. -/
def longestName : Nat := 255

def step (tree : FileTree) (loc : Location) (name : String) : Except FileError Location :=
  match tree.get? loc with
  | none => .error .notFound
  | some (.file _) => .error .notADirectory
  | some .directory =>
    if name = ".." then .ok loc.dropLast
    else if longestName < (utf8 name).length then .error .nameTooLong
    else .ok (loc ++ [name])

/-- The location a path leads to; there may be nothing there yet. -/
def locate (tree : FileTree) (p : Path) : Except FileError Location :=
  p.names.foldlM (step tree) []

def read? (tree : FileTree) (p : Path) : Option Bytes :=
  match tree.locate p with
  | .error _ => none
  | .ok loc =>
    match tree.get? loc with
    | some (.file content) => some content
    | _ => none

/-- Makes the file empty, new if need be. -/
def truncate (tree : FileTree) (p : Path) : Except FileError (Location × FileTree) := do
  let loc ← tree.locate p
  match tree.get? loc with
  | some .directory => throw .isADirectory
  | _ => return (loc, tree.put loc (.file []))

def append (tree : FileTree) (loc : Location) (bytes : Bytes) : FileTree :=
  match tree.get? loc with
  | some (.file content) => tree.put loc (.file (content ++ bytes))
  | _ => tree

def remove (tree : FileTree) (p : Path) : Except FileError FileTree := do
  let loc ← tree.locate p
  match tree.get? loc with
  | none => throw .notFound
  | some .directory => throw .isADirectory
  | some (.file _) => return tree.erase loc

def makeDirectory (tree : FileTree) (p : Path) : Except FileError FileTree := do
  let loc ← tree.locate p
  match tree.get? loc with
  | none => return tree.put loc .directory
  | some _ => throw .exists

/-- Whether the path leads to a directory; a name that is too long is an error. -/
def isDirectory (tree : FileTree) (p : Path) : Except FileError Bool :=
  match tree.locate p with
  | .ok loc => .ok (tree.get? loc = some .directory)
  | .error .nameTooLong => .error .nameTooLong
  | .error _ => .ok false

/-- Makes a directory; one that is there already is as good. -/
def ensureDirectory (tree : FileTree) (p : Path) : Except FileError FileTree :=
  match tree.makeDirectory p with
  | .error .notFound => .error .notFound
  | .error e => do if ← tree.isDirectory p then return tree else throw e
  | .ok tree => .ok tree

/-- What lies below a location, by the names from there on. -/
def below (tree : FileTree) (loc : Location) : List (Location × Entry) :=
  tree.entries.filterMap fun (place, entry) =>
    if loc.isPrefixOf place ∧ place ≠ loc then some (place.drop loc.length, entry) else none

end FileTree

end KubeletCollector
