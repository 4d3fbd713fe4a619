import KubeletCollector.Proofs.Landing

/-! Two runs of one action. Outsides that look alike at the places that an action writes are
changed alike by it, as long as its requests are answered alike. What else there is makes no
difference, and may change in between. -/

namespace KubeletCollector

open Text

/-- What an action has to do with: some requests, and some places of a directory. -/
structure View where
  asks : Request → Prop
  spots : Location → Prop
  dir : Path
  place : Location

def View.scope (view : View) : Scope where
  asks := view.asks
  writes := view.spots

/-- The places of the view may be written, and nothing may be asked. -/
def View.quiet (view : View) : Scope where
  asks _ := False
  writes := view.spots

structure View.Alike (view : View) (o a : Outside) : Prop where
  files : ∀ loc, view.spots loc → a.files.get? loc = o.files.get? loc
  opens : o.files.Opens view.dir view.place
  opens' : a.files.Opens view.dir view.place

namespace Act

variable {α β : Type}

/-- Runs of `act` from related outsides end in related outsides, with one result; what they
return satisfies `V`, and a fault that ends them `E`. -/
def Mirrors (R : Outside → Outside → Prop) (V : α → Prop) (E : Fault → Prop) (act : Act α) : Prop :=
  ∀ o a, R o a → (act.outcome a).1 = (act.outcome o).1 ∧ R (act.outcome o).2 (act.outcome a).2 ∧
    match (act.outcome o).1 with
    | .ok v => V v
    | .error f => E f

variable {R : Outside → Outside → Prop} {V : α → Prop} {W : β → Prop} {E E' : Fault → Prop}

theorem Mirrors.pure {v : α} (h : V v) : Mirrors R V E (pure v) :=
  fun _ _ hr => ⟨rfl, hr, h⟩

theorem Mirrors.throw {f : Fault} (h : E f) : Mirrors R V E (throw f : Act α) :=
  fun _ _ hr => ⟨rfl, hr, h⟩

theorem Mirrors.bind {act : Act α} {next : α → Act β} (h : Mirrors R V E act)
    (hn : ∀ v, V v → Mirrors R W E (next v)) : Mirrors R W E (act >>= next) := by
  intro o a hr
  obtain ⟨he, hr', hv⟩ := h o a hr
  rw [outcome_bind, outcome_bind]
  rcases ho : act.outcome o with ⟨f | v, o'⟩ <;> rcases ha : act.outcome a with ⟨g | w, a'⟩ <;>
    rw [ho, ha] at he <;> rw [ho] at hv <;> rw [ho, ha] at hr' <;> cases he
  · exact ⟨rfl, hr', hv⟩
  · exact hn v hv o' a' hr'

theorem Mirrors.attempt {act : Act α} {next : Except Fault α → Act β} (h : Mirrors R V E act)
    (hok : ∀ v, V v → Mirrors R W E' (next (.ok v)))
    (herr : ∀ f, E f → Mirrors R W E' (next (.error f))) :
    Mirrors R W E' (Act.attempt act >>= next) := by
  intro o a hr
  obtain ⟨he, hr', hv⟩ := h o a hr
  rw [outcome_bind, outcome_bind, outcome_attempt, outcome_attempt]
  rcases ho : act.outcome o with ⟨f | v, o'⟩ <;> rcases ha : act.outcome a with ⟨g | w, a'⟩ <;>
    rw [ho, ha] at he <;> rw [ho] at hv <;> rw [ho, ha] at hr' <;> cases he
  · exact herr f hv o' a' hr'
  · exact hok v hv o' a' hr'

end Act

section Primitives

open Act

variable {view : View} {E : Fault → Prop}

theorem mirrors_log (level : LogLevel) (component event : String)
    (fields : List (String × LogValue)) :
    Mirrors view.Alike (fun _ => True) E (Act.log level component event fields) :=
  fun _ _ h => ⟨rfl, ⟨h.files, h.opens, h.opens'⟩, trivial⟩

theorem mirrors_note (event : Event) :
    Mirrors view.Alike (fun _ => True) E (Act.note event) :=
  fun _ _ h => ⟨rfl, ⟨h.files, h.opens, h.opens'⟩, trivial⟩

/-- The same is put or erased at a place that holds no directory. -/
theorem View.Alike.landed {o a : Outside} (h : view.Alike o a) {loc : Location}
    {content content' : Option Bytes} {files files' : FileTree} (he : content' = content)
    (ho : FileTree.Landed loc content o.files files)
    (ha : FileTree.Landed loc content' a.files files')
    (hd : o.files.get? loc ≠ some .directory) (hd' : a.files.get? loc ≠ some .directory) :
    view.Alike { o with files } { a with files := files' } := by
  subst he
  refine ⟨fun other hs => ?_, h.opens.same (ho.sameDirectories hd),
    h.opens'.same (ha.sameDirectories hd')⟩
  by_cases hother : other = loc
  · subst hother
    show files'.get? other = files.get? other
    rw [ho.here, ha.here]
  · show files'.get? other = files.get? other
    rw [ho.elsewhere other hother, ha.elsewhere other hother]
    exact h.files other hs

theorem mirrors_appendTo {loc : Location} (hs : view.spots loc) (bytes : Bytes) :
    Mirrors view.Alike (fun _ => True) E (Act.appendTo loc bytes) := by
  intro o a h
  rw [outcome_appendTo, outcome_appendTo]
  refine ⟨rfl, ?_, trivial⟩
  have hsame := h.files loc hs
  unfold FileTree.append
  rw [hsame]
  split
  · rename_i content hg
    have hd : o.files.get? loc ≠ some .directory := by simp [hg]
    have hne := FileTree.ne_root_of_no_directory hd
    exact h.landed rfl (FileTree.landed_put _ _ hne) (FileTree.landed_put _ _ hne) hd (hsame ▸ hd)
  · exact h

structure View.Shows (view : View) (p : Path) : Prop where
  leads : ∃ loc?, ∀ tree : FileTree, tree.Opens view.dir view.place → tree.locate p = loc?
  spots : ∀ (tree : FileTree) (loc : Location), tree.Opens view.dir view.place →
    tree.locate p = .ok loc → view.spots loc

theorem View.Shows.located {p : Path} (hp : view.Shows p) {o a : Outside}
    (h : view.Alike o a) : a.files.locate p = o.files.locate p := by
  obtain ⟨loc?, hl⟩ := hp.leads
  rw [hl _ h.opens, hl _ h.opens']

theorem mirrors_openEmpty {p : Path} (hp : view.Shows p)
    (hnull : p.hasNull = true → E .nullInPath) (href : ∀ cause, E (.file cause p)) :
    Mirrors view.Alike view.spots E (Act.openEmpty p) := by
  intro o a h
  by_cases hn : p.hasNull = true
  · rw [outcome_openEmpty_null hn, outcome_openEmpty_null hn]
    exact ⟨rfl, h, hnull hn⟩
  have hla := hp.located h
  rcases hl : o.files.locate p with cause | loc <;> rw [hl] at hla
  · rw [outcome_openEmpty_refused hn hl, outcome_openEmpty_refused hn hla]
    exact ⟨rfl, h, href cause⟩
  · have hs := hp.spots _ loc h.opens hl
    have hsame := h.files loc hs
    by_cases hd : o.files.get? loc = some .directory
    · rw [outcome_openEmpty_directory hn hl hd, outcome_openEmpty_directory hn hla (hsame ▸ hd)]
      exact ⟨rfl, h, href _⟩
    · have hd' : a.files.get? loc ≠ some .directory := hsame ▸ hd
      have hne := FileTree.ne_root_of_no_directory hd
      have hlands := FileTree.landed_put o.files [] hne
      have hlands' := FileTree.landed_put a.files [] hne
      rw [outcome_openEmpty hn hl hd, outcome_openEmpty hn hla hd']
      exact ⟨rfl, h.landed rfl hlands hlands' hd hd', hs⟩

theorem mirrors_removeFile {p : Path} (hp : view.Shows p)
    (hnull : p.hasNull = true → E .nullInPath) (href : ∀ cause, E (.file cause p)) :
    Mirrors view.Alike (fun _ => True) E (Act.removeFile p) := by
  intro o a h
  by_cases hn : p.hasNull = true
  · rw [outcome_removeFile_null hn, outcome_removeFile_null hn]
    exact ⟨rfl, h, hnull hn⟩
  have hla := hp.located h
  rcases hl : o.files.locate p with cause | loc <;> rw [hl] at hla
  · rw [outcome_removeFile_refused hn hl, outcome_removeFile_refused hn hla]
    by_cases hc : cause = .notFound
    · rw [if_pos hc]
      exact ⟨rfl, h, trivial⟩
    · rw [if_neg hc]
      exact ⟨rfl, h, href cause⟩
  · have hsame := h.files loc (hp.spots _ loc h.opens hl)
    rw [outcome_removeFile hn hl, outcome_removeFile hn hla, hsame]
    rcases hg : o.files.get? loc with _ | _ | _
    · exact ⟨rfl, h, trivial⟩
    · have hd : o.files.get? loc ≠ some .directory := by simp [hg]
      have hne := FileTree.ne_root_of_no_directory hd
      have hlands := FileTree.landed_erase o.files hne
      have hlands' := FileTree.landed_erase a.files hne
      exact ⟨rfl, h.landed rfl hlands hlands' hd (hsame ▸ hd), trivial⟩
    · exact ⟨rfl, h, href _⟩

end Primitives

def View.pairing (view : View) : Pairing where
  rel := view.Alike
  moves := Within view.quiet
  asks r r' := r' = r ∧ view.asks r
  answers _ reply := reply.Ordinary

section Pairings

open Act

variable {view : View} {α : Type} {V : α → Prop} {E : Fault → Prop} {act : Act α} {o a : Outside}

theorem View.inStep (hact : act = Act.atomic act.outcome) (h : Mirrors view.Alike V E act)
    (hk : ∀ o : Outside, o.files.Opens view.dir view.place → Keeps (Within view.quiet o) V E act) :
    act.InStep view.pairing V E act := by
  refine Act.InStep.immediate hact hact fun o a hr => ?_
  obtain ⟨hsame, halike, hv⟩ := h o a hr
  have hmove := (hk o hr.opens o (Within.refl _ o)).1
  have hmove' := (hk a hr.opens' a (Within.refl _ a)).1
  exact ⟨halike, hmove, hmove', hsame, hv⟩

theorem View.Shows.reaches {p : Path} (hp : view.Shows p) (ho : o.files.Opens view.dir view.place) :
    Reaches view.quiet o p :=
  fun loc hl => hp.spots o.files loc ho hl

end Pairings

def View.logic (view : View) : Act.Logic where
  pairing := view.pairing
  asks := view.asks
  reaches := view.Shows
  spots := view.spots
  asked hr := ⟨rfl, hr⟩
  log _ _ _ _ := View.inStep rfl (mirrors_log _ _ _ _) fun _ _ => keeps_log _ _ _ _
  note hq hm _ := View.inStep rfl (mirrors_note _) fun _ _ => keeps_note hq hm
  openEmpty hp hnull href := View.inStep (Act.atomic_eq _) (mirrors_openEmpty hp hnull href)
    fun _ ho => keeps_openEmpty (hp.reaches ho) hnull href
  appendTo bytes hs := View.inStep rfl (mirrors_appendTo hs bytes) fun _ _ => keeps_appendTo hs bytes
  removeFile hp hnull href := View.inStep (Act.atomic_eq _) (mirrors_removeFile hp hnull href)
    fun _ ho => keeps_removeFile (hp.reaches ho) hnull href

end KubeletCollector
