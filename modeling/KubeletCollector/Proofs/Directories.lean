import KubeletCollector.Proofs.Outcome
import KubeletCollector.Proofs.Place

/-! Making directories. They come to be where nothing was, every file stays as it is, and a
path that was made leads where its names say, however many directories were missing. -/

namespace KubeletCollector

open Text

/-- Where `name` leads from the directory at `loc`, if it leads anywhere. -/
def Location.enter (loc : Location) (name : String) : Location :=
  if name = ".." then loc.dropLast else loc ++ [name]

/-- Where a path leads, if it leads anywhere. -/
def Path.place (p : Path) : Location :=
  p.names.foldl Location.enter []

namespace FileTree

variable {tree files files' : FileTree} {p : Path} {loc : Location}

theorem enter_of_step {next : Location} {name : String} (h : tree.step loc name = .ok next) :
    next = loc.enter name := by
  have hd := directory_of_step h
  unfold step at h
  unfold Location.enter
  simp only [hd] at h
  by_cases hup : name = ".."
  · rw [if_pos hup] at h ⊢
    exact (Except.ok.inj h).symm
  · rw [if_neg hup] at h ⊢
    split at h
    · cases h
    · exact (Except.ok.inj h).symm

theorem enter_of_walk {names : List String} {place : Location}
    (h : names.foldlM (step tree) loc = .ok place) : place = names.foldl Location.enter loc := by
  induction names generalizing loc with
  | nil => exact (Except.ok.inj h).symm
  | cons name names ih =>
    rw [List.foldlM_cons] at h
    rcases hs : tree.step loc name with e | next <;> rw [hs] at h
    · cases h
    · obtain rfl := enter_of_step hs
      exact ih h

theorem place_of_locate (h : tree.locate p = .ok loc) : loc = p.place :=
  enter_of_walk h

def Grows (tree files : FileTree) : Prop :=
  ∀ loc, files.get? loc = tree.get? loc ∨
    (tree.get? loc = none ∧ files.get? loc = some .directory)

theorem Grows.refl (tree : FileTree) : Grows tree tree :=
  fun _ => Or.inl rfl

theorem Grows.trans (h : Grows tree files) (h' : Grows files files') : Grows tree files' := by
  intro loc
  rcases h loc with he | ⟨hn, hd⟩ <;> rcases h' loc with he' | ⟨hn', hd'⟩
  · exact Or.inl (he'.trans he)
  · exact Or.inr ⟨he.symm.trans hn', hd'⟩
  · exact Or.inr ⟨hn, he'.trans hd⟩
  · cases hn'.symm.trans hd

theorem Grows.directory (h : Grows tree files) (hd : tree.get? loc = some .directory) :
    files.get? loc = some .directory := by
  rcases h loc with he | ⟨-, hd'⟩
  · exact he.trans hd
  · exact hd'

theorem Grows.file (h : Grows tree files) {content : Bytes} :
    files.get? loc = some (.file content) ↔ tree.get? loc = some (.file content) := by
  rcases h loc with he | ⟨hn, hd⟩
  · rw [he]
  · rw [hn, hd]
    exact ⟨nofun, nofun⟩

theorem grows_put (hn : tree.get? loc = none) : Grows tree (tree.put loc .directory) := by
  intro other
  rw [get?_put]
  split
  · rename_i h
    exact Or.inr ⟨h.1 ▸ hn, rfl⟩
  · exact Or.inl rfl

theorem makeDirectory_ok (h : tree.makeDirectory p = .ok files) :
    Grows tree files ∧ files.locate p = .ok p.place ∧
      files.get? p.place = some .directory := by
  unfold makeDirectory at h
  rcases hl : tree.locate p with e | loc <;> rw [hl] at h
  · cases h
  · obtain rfl := place_of_locate hl
    simp only [bind, Except.bind] at h
    split at h
    · rename_i hnone
      cases h
      have hgrows := grows_put hnone
      have hne : p.place ≠ [] := by
        intro hroot
        simp [get?, hroot] at hnone
      refine ⟨hgrows, walk_mono (fun _ => hgrows.directory) hl, ?_⟩
      rw [get?_put, if_pos ⟨rfl, hne⟩]
    · cases h

theorem isDirectory_ok (h : tree.isDirectory p = .ok true) :
    tree.locate p = .ok p.place ∧ tree.get? p.place = some .directory := by
  unfold isDirectory at h
  split at h
  · rename_i loc hl
    obtain rfl := place_of_locate hl
    exact ⟨hl, by simpa using h⟩
  · cases h
  · cases h

theorem ensureDirectory_ok (h : tree.ensureDirectory p = .ok files) :
    Grows tree files ∧ files.locate p = .ok p.place ∧
      files.get? p.place = some .directory := by
  unfold ensureDirectory at h
  split at h
  · cases h
  · rcases hd : tree.isDirectory p with e | b <;> rw [hd] at h
    · cases h
    · cases b
      · cases h
      · cases h
        exact ⟨Grows.refl tree, isDirectory_ok hd⟩
  · rename_i made hmade
    cases h
    exact makeDirectory_ok hmade

end FileTree

namespace Act

/-- How making directories ends: if all went well, the path opens a directory. -/
structure Made (p : Path) (result : Except Fault Unit) (tree files : FileTree) : Prop where
  grows : tree.Grows files
  opens : result = .ok () → files.Opens p p.place
  fault : ∀ f, result = .error f → f = .nullInPath ∨ ∃ cause path, f = .file cause path

theorem ensureDirectory_makes (p : Path) (o : Outside) :
    ∃ result files, (ensureDirectory p).outcome o = (result, { o with files }) ∧
      Made p result o.files files := by
  unfold ensureDirectory
  rw [outcome_onFiles]
  by_cases hn : p.hasNull = true
  · rw [if_pos hn]
    exact ⟨_, o.files, rfl, FileTree.Grows.refl _, nofun, by rintro _ ⟨⟩; exact Or.inl rfl⟩
  · rw [if_neg hn]
    rcases he : o.files.ensureDirectory p with cause | files
    · refine ⟨_, o.files, rfl, FileTree.Grows.refl _, nofun, ?_⟩
      rintro _ ⟨⟩
      exact Or.inr ⟨cause, p, rfl⟩
    · obtain ⟨hgrows, hleads, hstands⟩ := FileTree.ensureDirectory_ok he
      exact ⟨_, files, rfl, hgrows, fun _ => ⟨by simpa using hn, hleads, hstands⟩, nofun⟩

/-- By induction on the names, from the last to the first: what is above is made first. -/
theorem makeDirectoriesFrom_makes (start : PathStart) (names : List String) (o : Outside) :
    ∃ result files, (makeDirectoriesFrom start names).outcome o = (result, { o with files }) ∧
      Made ⟨start, names.reverse⟩ result o.files files := by
  induction names generalizing o with
  | nil => exact ensureDirectory_makes _ o
  | cons name above ih =>
    obtain ⟨result, files, hout, hmade⟩ := ensureDirectory_makes ⟨start, (name :: above).reverse⟩ o
    unfold makeDirectoriesFrom
    simp only [outcome_bind, outcome_attempt, hout]
    split
    · exact ⟨_, files, rfl, hmade⟩
    · obtain ⟨result₁, files₁, hout₁, hmade₁⟩ := ih { o with files }
      rw [outcome_bind, hout₁]
      cases result₁ with
      | error f =>
        exact ⟨_, files₁, rfl, hmade.grows.trans hmade₁.grows, nofun, hmade₁.fault⟩
      | ok u =>
        obtain ⟨result₂, files₂, hout₂, hmade₂⟩ :=
          ensureDirectory_makes ⟨start, (name :: above).reverse⟩ { o with files := files₁ }
        refine ⟨result₂, files₂, hout₂, ?_, hmade₂.opens, hmade₂.fault⟩
        exact hmade.grows.trans (hmade₁.grows.trans hmade₂.grows)
    · exact ⟨_, files, rfl, hmade.grows, nofun, hmade.fault⟩

theorem makeDirectories_makes (p : Path) (o : Outside) :
    ∃ result files, (makeDirectories p).outcome o = (result, { o with files }) ∧
      Made p result o.files files := by
  have h := makeDirectoriesFrom_makes p.start p.names.reverse o
  rwa [List.reverse_reverse] at h

end Act

end KubeletCollector
