import KubeletCollector.Outside.Files

/-! What each primitive does to the outside, and the rules by which an invariant
passes through an action. An action is followed outcome by outcome, never by
its monad. -/

namespace KubeletCollector

theorem bind_eq_ok {ε α β : Type} {x : Except ε α} {next : α → Except ε β} {b : β} :
    x >>= next = .ok b ↔ ∃ a, x = .ok a ∧ next a = .ok b := by
  cases x <;> simp [bind, Except.bind]

/-- What is read off a result shows that there is one. -/
theorem ok_of_toOption {ε α β : Type} {x : Except ε α} {read : α → β} {b : β}
    (h : x.toOption.map read = some b) : ∃ a, x = .ok a ∧ read a = b := by
  cases x with
  | error e => cases h
  | ok a => exact ⟨a, rfl, Option.some.inj h⟩

namespace Act

open Text

variable {α β : Type}

theorem ite_bind (c : Prop) [Decidable c] (act other : Act α) (next : α → Act β) :
    (if c then act else other) >>= next = if c then act >>= next else other >>= next := by
  split <;> rfl

/-- What ends well ended well step by step. -/
theorem ok_of_bind {act : Act α} {next : α → Act β} {b : β} {o o' : Outside}
    (h : (act >>= next).outcome o = (.ok b, o')) :
    ∃ a o₁, act.outcome o = (.ok a, o₁) ∧ (next a).outcome o₁ = (.ok b, o') := by
  rw [outcome_bind] at h
  rcases hact : act.outcome o with ⟨f | a, o₁⟩ <;> rw [hact] at h
  · cases h
  · exact ⟨a, o₁, rfl, h⟩

/-- An action for the sake of which something else is returned. -/
theorem outcome_returning (act : Act α) (b : β) (o : Outside) :
    (act >>= fun _ => pure b).outcome o = ((act.outcome o).1.map fun _ => b, (act.outcome o).2) := by
  rw [outcome_bind]
  rcases act.outcome o with ⟨f | a, o'⟩ <;> rfl

theorem atomic_eq (run : Outside → Except Fault α × Outside) :
    atomic run = atomic (atomic run).outcome :=
  congrArg atomic (funext fun o => (outcome_atomic run o).symm)

@[simp] theorem outcome_note (e : Event) (o : Outside) :
    outcome (note e) o = (.ok (), { o with trace := o.trace ++ [e] }) := rfl

@[simp] theorem outcome_log (level : LogLevel) (component event : String)
    (fields : List (String × LogValue)) (o : Outside) :
    outcome (log level component event fields) o =
      (.ok (), { o with log := o.log ++ [⟨level, component, event, fields⟩] }) := rfl

@[simp] theorem outcome_appendTo (loc : Location) (bytes : Bytes) (o : Outside) :
    outcome (appendTo loc bytes) o = (.ok (), { o with files := o.files.append loc bytes }) := rfl

@[simp] theorem outcome_now (o : Outside) : outcome now o = (.ok o.now, o) := rfl

theorem outcome_onFiles (p : Path) (op : FileTree → Except FileError (α × FileTree)) (o : Outside) :
    outcome (onFiles p op) o =
      if p.hasNull then (.error .nullInPath, o)
      else match op o.files with
        | .error cause => (.error (.file cause p), o)
        | .ok (a, files) => (.ok a, { o with files }) := by
  exact outcome_atomic _ o

section Files

variable {p : Path} {o : Outside} {loc : Location} {cause : FileError}

theorem outcome_openEmpty_null (hn : p.hasNull = true) :
    outcome (openEmpty p) o = (.error .nullInPath, o) := by
  rw [openEmpty, outcome_onFiles, if_pos hn]

theorem outcome_openEmpty_refused (hn : ¬ p.hasNull = true) (hl : o.files.locate p = .error cause) :
    outcome (openEmpty p) o = (.error (.file cause p), o) := by
  rw [openEmpty, outcome_onFiles, if_neg hn]
  simp only [FileTree.truncate, hl, bind, Except.bind]

theorem outcome_openEmpty_directory (hn : ¬ p.hasNull = true) (hl : o.files.locate p = .ok loc)
    (hd : o.files.get? loc = some .directory) :
    outcome (openEmpty p) o = (.error (.file .isADirectory p), o) := by
  rw [openEmpty, outcome_onFiles, if_neg hn]
  simp only [FileTree.truncate, hl, bind, Except.bind, hd]
  rfl

theorem outcome_openEmpty (hn : ¬ p.hasNull = true) (hl : o.files.locate p = .ok loc)
    (hd : o.files.get? loc ≠ some .directory) :
    outcome (openEmpty p) o = (.ok loc, { o with files := o.files.put loc (.file []) }) := by
  have ht : o.files.truncate p = .ok (loc, o.files.put loc (.file [])) := by
    simp only [FileTree.truncate, hl, bind, Except.bind]
    rfl
  rw [openEmpty, outcome_onFiles, if_neg hn]
  simp only [ht]

theorem outcome_removeFile_null (hn : p.hasNull = true) :
    outcome (removeFile p) o = (.error .nullInPath, o) := by
  rw [removeFile, outcome_onFiles, if_pos hn]

theorem outcome_removeFile_refused (hn : ¬ p.hasNull = true)
    (hl : o.files.locate p = .error cause) :
    outcome (removeFile p) o =
      (if cause = .notFound then .ok () else .error (.file cause p), o) := by
  rw [removeFile, outcome_onFiles, if_neg hn]
  simp only [FileTree.remove, hl, bind, Except.bind]
  cases cause <;> rfl

theorem outcome_removeFile (hn : ¬ p.hasNull = true) (hl : o.files.locate p = .ok loc) :
    outcome (removeFile p) o =
      match o.files.get? loc with
      | none => (.ok (), o)
      | some (.file _) => (.ok (), { o with files := o.files.erase loc })
      | some .directory => (.error (.file .isADirectory p), o) := by
  rw [removeFile, outcome_onFiles, if_neg hn]
  rcases hg : o.files.get? loc with _ | _ | _ <;>
    simp only [FileTree.remove, hl, bind, Except.bind, hg] <;> rfl

end Files

/-- `act` keeps `I`; what it returns satisfies `V`, and a fault that ends it `E`. -/
def Keeps (I : Outside → Prop) (V : α → Prop) (E : Fault → Prop) (act : Act α) : Prop :=
  ∀ o, I o → I (act.outcome o).2 ∧
    match (act.outcome o).1 with
    | .ok a => V a
    | .error f => E f

variable {I : Outside → Prop} {V : α → Prop} {W : β → Prop} {E E' : Fault → Prop}

theorem Keeps.pure {a : α} (h : V a) : Keeps I V E (pure a) :=
  fun _ hi => ⟨hi, h⟩

theorem Keeps.throw {f : Fault} (h : E f) : Keeps I V E (throw f : Act α) :=
  fun _ hi => ⟨hi, h⟩

theorem Keeps.bind {act : Act α} {next : α → Act β} (h : Keeps I V E act)
    (hn : ∀ a, V a → Keeps I W E (next a)) : Keeps I W E (act >>= next) := by
  intro o hi
  obtain ⟨hi', hr⟩ := h o hi
  rw [outcome_bind]
  rcases hact : act.outcome o with ⟨_ | a, o'⟩ <;> rw [hact] at hi' hr
  · exact ⟨hi', hr⟩
  · exact hn a hr o' hi'

/-- A fault that is handed over as a value is dealt with like one. -/
theorem Keeps.attempt {act : Act α} {next : Except Fault α → Act β} (h : Keeps I V E act)
    (hok : ∀ a, V a → Keeps I W E' (next (.ok a)))
    (herr : ∀ f, E f → Keeps I W E' (next (.error f))) :
    Keeps I W E' (Act.attempt act >>= next) := by
  intro o hi
  obtain ⟨hi', hr⟩ := h o hi
  rw [outcome_bind, outcome_attempt]
  rcases hact : act.outcome o with ⟨f | a, o'⟩ <;> rw [hact] at hi' hr
  · exact herr f hr o' hi'
  · exact hok a hr o' hi'

theorem Keeps.mono {act : Act α} {V' : α → Prop} (h : Keeps I V E act)
    (hv : ∀ a, V a → V' a) (he : ∀ f, E f → E' f) : Keeps I V' E' act := by
  intro o hi
  obtain ⟨hi', hr⟩ := h o hi
  refine ⟨hi', ?_⟩
  rcases hact : (act.outcome o).1 with f | a <;> rw [hact] at hr
  · exact he f hr
  · exact hv a hr

theorem Keeps.forM {act : α → Act Unit} (as : List α)
    (h : ∀ a ∈ as, Keeps I (fun _ => True) E (act a)) :
    Keeps I (fun _ => True) E (as.forM act) := by
  induction as with
  | nil => exact Keeps.pure trivial
  | cons a as ih =>
    show Keeps I _ E (act a >>= fun _ => as.forM act)
    exact Keeps.bind (h a (by simp)) fun _ _ => ih fun b hb => h b (by simp [hb])

/-- What a kept invariant says of one run. -/
theorem Keeps.run {act : Act α} (h : Keeps I V E act) {o : Outside} (hi : I o) :
    I (act.outcome o).2 ∧ ∀ a, (act.outcome o).1 = .ok a → V a := by
  obtain ⟨hi', hr⟩ := h o hi
  refine ⟨hi', fun a ha => ?_⟩
  rwa [ha] at hr

/-- What an action that cannot fail returns, and where it leaves the outside. -/
theorem Keeps.returns {act : Act α} (h : Keeps I V (fun _ => False) act) {o : Outside} (hi : I o) :
    ∃ a o', act.outcome o = (.ok a, o') ∧ V a ∧ I o' := by
  obtain ⟨hi', hr⟩ := h o hi
  rcases hact : act.outcome o with ⟨f | a, o'⟩ <;> rw [hact] at hi' hr
  · exact hr.elim
  · exact ⟨a, o', rfl, hr, hi'⟩

end Act

end KubeletCollector
