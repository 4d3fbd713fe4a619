import KubeletCollector.Endpoint.Address
import KubeletCollector.Files.Tree

/-! Where artifacts stand. A walk through the tree depends on its directories alone, so
what happens to files moves no path. Below a directory that is there, a plain name
leads to a place of its own, or is too long to lead anywhere. -/

namespace KubeletCollector

open Text

def FileTree.SameDirectories (tree tree' : FileTree) : Prop :=
  ∀ loc, tree'.get? loc = some .directory ↔ tree.get? loc = some .directory

namespace FileTree

theorem step_of_directory {tree tree' : FileTree} {loc : Location} (name : String)
    (h : tree.get? loc = some .directory) (h' : tree'.get? loc = some .directory) :
    tree'.step loc name = tree.step loc name := by
  unfold step
  rw [h, h']

theorem directory_of_step {tree : FileTree} {loc next : Location} {name : String}
    (h : tree.step loc name = .ok next) : tree.get? loc = some .directory := by
  unfold step at h
  split at h
  · cases h
  · cases h
  · assumption

/-- A walk is not disturbed by directories that are there besides. -/
theorem walk_mono {tree tree' : FileTree}
    (hs : ∀ loc, tree.get? loc = some .directory → tree'.get? loc = some .directory)
    {names : List String} {loc place : Location} (h : names.foldlM (step tree) loc = .ok place) :
    names.foldlM (step tree') loc = .ok place := by
  induction names generalizing loc with
  | nil => exact h
  | cons name names ih =>
    rw [List.foldlM_cons] at h ⊢
    rcases hstep : tree.step loc name with e | next
    · rw [hstep] at h
      cases h
    · have hd := directory_of_step hstep
      rw [step_of_directory name hd (hs loc hd), hstep]
      rw [hstep] at h
      exact ih h

theorem locate_same {tree tree' : FileTree} (hs : SameDirectories tree tree') {p : Path}
    {place : Location} : tree'.locate p = .ok place ↔ tree.locate p = .ok place :=
  ⟨walk_mono fun loc => (hs loc).1, walk_mono fun loc => (hs loc).2⟩

structure Opens (tree : FileTree) (dir : Path) (place : Location) : Prop where
  clean : dir.hasNull = false
  leads : tree.locate dir = .ok place
  stands : tree.get? place = some .directory

theorem Opens.same {tree tree' : FileTree} {dir : Path} {place : Location}
    (h : Opens tree dir place) (hs : SameDirectories tree tree') : Opens tree' dir place :=
  ⟨h.clean, (locate_same hs).2 h.leads, (hs place).2 h.stands⟩

end FileTree

/-- A name with a hyphen and without slashes is one name, and neither `.` nor `..`. -/
structure PlainName (name : String) : Prop where
  hyphen : '-' ∈ name.toList
  whole : '/' ∉ name.toList

namespace Path

theorem fields_of_notMem {sep : Char} {cs : List Char} (h : sep ∉ cs) : fields sep cs = [cs] := by
  induction cs with
  | nil => rfl
  | cons c cs ih =>
    rw [List.mem_cons, not_or] at h
    simp only [fields, if_neg (Ne.symm h.1), ih h.2]

theorem startOf_of_notMem {cs : List Char} (h : '/' ∉ cs) : startOf cs = .here := by
  unfold startOf
  split <;> simp_all

theorem ofText_plain {name : String} (h : PlainName name) : ofText name = ⟨.here, [name]⟩ := by
  have hne : name.toList ≠ [] ∧ name.toList ≠ ['.'] := by
    constructor <;> intro he <;> have := h.hyphen <;> simp_all
  have hnames : namesOf name.toList = [name] := by
    unfold namesOf
    rw [fields_of_notMem h.whole, List.filter_cons_of_pos (by simpa using hne)]
    simp
  rw [ofText, startOf_of_notMem h.whole, hnames]

theorem child_plain (p : Path) {name : String} (h : PlainName name) :
    p.child name = ⟨p.start, p.names ++ [name]⟩ := by
  rw [child, ofText_plain h]
  rfl

theorem mem_of_mem_fields {sep c : Char} {cs f : List Char} (hf : f ∈ fields sep cs) (hc : c ∈ f) :
    c ∈ cs := by
  induction cs generalizing f with
  | nil => simp_all [fields]
  | cons d cs ih =>
    simp only [fields] at hf
    split at hf
    · rcases List.mem_cons.1 hf with rfl | hf
      · cases hc
      · exact List.mem_cons_of_mem d (ih hf hc)
    · split at hf
      · simp_all
      · rename_i g gs hfields
        rcases List.mem_cons.1 hf with rfl | hf
        · rcases List.mem_cons.1 hc with rfl | hc
          · exact List.mem_cons_self
          · exact List.mem_cons_of_mem d (ih (by simp [hfields]) hc)
        · exact List.mem_cons_of_mem d (ih (by simp [hfields, hf]) hc)

theorem hasNull_ofText {s : String} (hn : Char.ofNat 0 ∉ s.toList) :
    (ofText s).hasNull = false := by
  simp only [hasNull, ofText, namesOf, List.any_eq_false]
  intro name hmem
  obtain ⟨f, hf, rfl⟩ := List.mem_map.1 hmem
  have hmem := (List.mem_filter.1 hf).1
  simpa using fun hc => hn (mem_of_mem_fields hmem hc)

theorem hasNull_child (p : Path) {name : String} (hp : p.hasNull = false)
    (hn : Char.ofNat 0 ∉ name.toList) : (p.child name).hasNull = false := by
  have hname := hasNull_ofText hn
  unfold child join
  split
  · unfold hasNull at hp hname ⊢
    rw [List.any_append, hp, hname]
    rfl
  · exact hname

end Path

theorem PlainName.ne_up {name : String} (h : PlainName name) : name ≠ ".." := by
  rintro rfl
  exact absurd h.hyphen (by decide)

def fitsName (name : String) : Bool :=
  (utf8 name).length ≤ FileTree.longestName

theorem FileTree.Opens.locate_child {tree : FileTree} {dir : Path} {place : Location}
    (h : Opens tree dir place) {name : String} (hn : PlainName name) :
    tree.locate (dir.child name) =
      if fitsName name then .ok (place ++ [name]) else .error .nameTooLong := by
  have hl := h.leads
  unfold locate at hl ⊢
  rw [Path.child_plain dir hn, List.foldlM_append, hl]
  show (tree.step place name >>= fun loc => pure loc) = _
  have hstep : tree.step place name =
      if fitsName name then .ok (place ++ [name]) else .error .nameTooLong := by
    unfold step fitsName
    rw [h.stands]
    by_cases hf : (utf8 name).length ≤ longestName
    · simp [hn.ne_up, hf, Nat.not_lt.2 hf]
    · simp [hn.ne_up, hf, Nat.lt_of_not_le hf]
  rw [hstep]
  split <;> rfl

end KubeletCollector
