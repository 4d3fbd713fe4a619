import KubeletCollector.Outside.Act

/-!
Actions on files. A refusal of the tree becomes a fault that names the path.
-/

namespace KubeletCollector.Act

open Text

def onFiles {α : Type} (p : Path) (op : FileTree → Except FileError (α × FileTree)) : Act α :=
  atomic fun o =>
    if p.hasNull then (.error .nullInPath, o)
    else match op o.files with
      | .error cause => (.error (.file cause p), o)
      | .ok (a, files) => (.ok a, { o with files })

/-- Opens a file for writing; nothing of its content stays. -/
def openEmpty (p : Path) : Act Location :=
  onFiles p fun tree => tree.truncate p

def appendTo (loc : Location) (bytes : Bytes) : Act Unit :=
  modify fun o => { o with files := o.files.append loc bytes }

/-- Removes a file; one that is not there is as good as removed. -/
def removeFile (p : Path) : Act Unit :=
  onFiles p fun tree =>
    match tree.remove p with
    | .ok tree => .ok ((), tree)
    | .error .notFound => .ok ((), tree)
    | .error cause => .error cause

def ensureDirectory (p : Path) : Act Unit :=
  onFiles p fun tree => (tree.ensureDirectory p).map ((), ·)

/-- Makes a directory and, first, the directories above it that are missing; `names` are the names of
`p` from the last to the first. -/
def makeDirectoriesFrom (start : PathStart) : (names : List String) → Act Unit
  | [] => ensureDirectory ⟨start, []⟩
  | name :: above => do
    let p : Path := ⟨start, (name :: above).reverse⟩
    match ← attempt (ensureDirectory p) with
    | .ok () => return ()
    | .error (.file .notFound _) =>
      makeDirectoriesFrom start above
      ensureDirectory p
    | .error f => throw f

def makeDirectories (p : Path) : Act Unit :=
  makeDirectoriesFrom p.start p.names.reverse

end KubeletCollector.Act
