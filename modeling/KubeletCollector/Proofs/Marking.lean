import KubeletCollector.Endpoint.Machine
import Mathlib.Data.List.Induction

/-! The history of a mask under its name. Until the name is bound anew, a mask that is not frozen is
what it was made of and what was marked in it since, and a frozen one stays what it was. -/

namespace KubeletCollector

namespace EndpointMask

theorem ext_has {a b : EndpointMask} (hk : ∀ kind, a.has kind = b.has kind)
    (hf : a.frozen = b.frozen) : a = b := by
  obtain ⟨summary, cadvisor, container, frozen⟩ := a
  obtain ⟨summary', cadvisor', container', frozen'⟩ := b
  obtain rfl : summary = summary' := hk .summary
  obtain rfl : cadvisor = cadvisor' := hk .cadvisor
  obtain rfl : container = container' := hk .container
  obtain rfl : frozen = frozen' := hf
  rfl

theorem has_ofKinds (kinds : List EndpointKind) (frozen : Bool) (kind : EndpointKind) :
    (ofKinds kinds frozen).has kind = kinds.contains kind := by
  have hfold (start : EndpointMask) :
      (kinds.foldl (mark · · true) start).has kind = (start.has kind || kinds.contains kind) := by
    induction kinds generalizing start with
    | nil => simp
    | cons k kinds ih =>
      rw [List.foldl_cons, ih, has_mark, List.contains_cons]
      by_cases h : kind = k
      · simp [h]
      · rw [if_neg h, beq_false_of_ne h, Bool.false_or]
  have hnone : ({} : EndpointMask).has kind = false := by cases kind <;> rfl
  have hsame : (ofKinds kinds frozen).has kind = (kinds.foldl (mark · · true) {}).has kind := by
    cases kind <;> rfl
  rw [hsame, hfold, hnone, Bool.false_or]

end EndpointMask

namespace MaskStep

def target? : MaskStep → Option String
  | .create name _ _ => some name
  | .freeze _ into => some into
  | .share _ into => some into
  | .mark .. | .has .. | .alike .. => none

def marking? (name : String) (kind : EndpointKind) : MaskStep → Option Bool
  | .mark other what available => if other = name ∧ what = kind then some available else none
  | _ => none

def lastMarking? (name : String) (kind : EndpointKind) (steps : List MaskStep) : Option Bool :=
  (steps.filterMap (marking? name kind)).getLast?

theorem lastMarking?_cons (name : String) (kind : EndpointKind) (step : MaskStep)
    (steps : List MaskStep) (first : Bool) :
    (lastMarking? name kind (step :: steps)).getD first =
      (lastMarking? name kind steps).getD ((step.marking? name kind).getD first) := by
  unfold lastMarking?
  rw [List.filterMap_cons]
  cases step.marking? name kind with
  | none => rfl
  | some available => rw [List.getLast?_cons, Option.getD_some, Option.getD_some]

end MaskStep

/-- The mask called `name` after a step that does not bind the name. -/
def EndpointMask.met (mask : EndpointMask) (name : String) : MaskStep → EndpointMask
  | .mark other kind available =>
    if other = name ∧ mask.frozen = false then mask.mark kind available else mask
  | _ => mask

namespace EndpointMask

variable {mask : EndpointMask} {name : String}

theorem frozen_met (step : MaskStep) : (mask.met name step).frozen = mask.frozen := by
  cases step with
  | mark other kind available =>
    rw [met]
    split
    · exact frozen_mark mask kind available
    · rfl
  | create | freeze | share | has | alike => rfl

theorem met_frozen (hf : mask.frozen = true) (step : MaskStep) : mask.met name step = mask := by
  cases step with
  | mark other kind available => exact if_neg fun h => by simp [hf] at h
  | create | freeze | share | has | alike => rfl

theorem has_met (hf : mask.frozen = false) (step : MaskStep) (kind : EndpointKind) :
    (mask.met name step).has kind = (step.marking? name kind).getD (mask.has kind) := by
  cases step with
  | mark other what available =>
    by_cases ho : other = name
    · rw [met, if_pos ⟨ho, hf⟩, has_mark, MaskStep.marking?]
      by_cases hk : what = kind
      · rw [if_pos hk.symm, if_pos ⟨ho, hk⟩, Option.getD_some]
      · rw [if_neg fun h => hk h.symm, if_neg fun h => hk h.2, Option.getD_none]
    · rw [met, if_neg fun h => ho h.1, MaskStep.marking?, if_neg fun h => ho h.1,
        Option.getD_none]
  | create | freeze | share | has | alike => rfl

/-- The mask called `name` after steps that do not bind the name. -/
def metAll (mask : EndpointMask) (name : String) (steps : List MaskStep) : EndpointMask :=
  steps.foldl (fun mask step => mask.met name step) mask

theorem frozen_metAll (mask : EndpointMask) (name : String) (steps : List MaskStep) :
    (mask.metAll name steps).frozen = mask.frozen := by
  induction steps generalizing mask with
  | nil => rfl
  | cons step steps ih => exact (ih (mask.met name step)).trans (frozen_met step)

theorem metAll_frozen (hf : mask.frozen = true) (steps : List MaskStep) :
    mask.metAll name steps = mask := by
  induction steps with
  | nil => rfl
  | cons step steps ih =>
    show (mask.met name step).metAll name steps = mask
    rw [met_frozen hf, ih]

/-- Of each kind its last marking counts. -/
theorem has_metAll (hf : mask.frozen = false) (steps : List MaskStep) (kind : EndpointKind) :
    (mask.metAll name steps).has kind =
      (MaskStep.lastMarking? name kind steps).getD (mask.has kind) := by
  induction steps generalizing mask with
  | nil => rfl
  | cons step steps ih =>
    show ((mask.met name step).metAll name steps).has kind = _
    rw [ih ((frozen_met step).trans hf), has_met hf, MaskStep.lastMarking?_cons]

end EndpointMask

namespace MaskTable

/-- The table that is left by a result; a failure leaves it as it was. -/
def left (table : MaskTable) : Except MaskError (Option Bool × MaskTable) → MaskTable
  | .ok (_, table) => table
  | .error _ => table

def after (table : MaskTable) (step : MaskStep) : MaskTable :=
  table.left (table.step step)

theorem run_cons (table : MaskTable) (step : MaskStep) (steps : List MaskStep) :
    table.run (step :: steps) = (table.after step).run steps := rfl

theorem run_append (table : MaskTable) (steps more : List MaskStep) :
    table.run (steps ++ more) = (table.run steps).run more :=
  List.foldl_append

/-- None of the steps binds the name anew: each binds no name or another one, or it fails. -/
inductive Retains (name : String) : MaskTable → List MaskStep → Prop
  | nil {table : MaskTable} : Retains name table []
  | cons {table : MaskTable} {step : MaskStep} {steps : List MaskStep} :
      (step.target? = some name → ∃ cause, table.step step = .error cause) →
      Retains name (table.after step) steps → Retains name table (step :: steps)

variable {table : MaskTable} {name : String} {mask : EndpointMask} {step : MaskStep}
  {steps more : List MaskStep}

theorem Retains.append (h : Retains name table steps) (h' : Retains name (table.run steps) more) :
    Retains name table (steps ++ more) := by
  induction h with
  | nil => exact h'
  | cons hstep _ ih => exact Retains.cons hstep (ih h')

theorem after_of_ok {answer : Option Bool} {table' : MaskTable}
    (h : table.step step = .ok (answer, table')) : table.after step = table' := by
  rw [after, h]
  rfl

theorem after_of_error {cause : MaskError} (h : table.step step = .error cause) :
    table.after step = table := by
  rw [after, h]
  rfl

theorem find_of_lookup (h : table.lookup name = some mask) : table.find name = .ok mask := by
  rw [find, h]

theorem find_of_none (h : table.lookup name = none) : table.find name = .error (.unknown name) := by
  rw [find, h]

theorem step_freeze {into : String} (h : table.lookup name = some mask) :
    table.step (.freeze name into) = .ok (none, table.bind into mask.freeze) := by
  rw [MaskTable.step, find_of_lookup h]
  rfl

theorem step_share {into : String} (h : table.lookup name = some mask) :
    table.step (.share name into) = .ok (some mask.frozen, table.bind into mask.freeze) := by
  rw [MaskTable.step, find_of_lookup h]
  rfl

theorem step_mark (h : table.lookup name = some mask) (kind : EndpointKind) (available : Bool) :
    table.step (.mark name kind available) =
      if mask.frozen then .error .frozen
      else .ok (none, table.bind name (mask.mark kind available)) := by
  rw [MaskTable.step, find_of_lookup h]
  simp only [Bind.bind, Except.bind, EndpointMask.set?]
  cases mask.frozen <;> rfl

inductive Does (table : MaskTable) (step : MaskStep) : Prop
  /-- It asks a question, or it fails. -/
  | nothing : table.after step = table →
      (∀ into, step.target? = some into → ∃ cause, table.step step = .error cause) →
      (∀ name mask, table.lookup name = some mask → mask.met name step = mask) → Does table step
  /-- It binds a name, to a mask that is frozen or just made. -/
  | binds {into : String} {mask : EndpointMask} {answer : Option Bool} :
      step.target? = some into → table.step step = .ok (answer, table.bind into mask) →
      (mask.frozen = false → ∃ kinds, step = .create into kinds false ∧
        mask = .ofKinds kinds false) → Does table step
  /-- It marks a kind in a mask that is not frozen. -/
  | marks {name : String} {kind : EndpointKind} {available : Bool} {mask : EndpointMask} :
      step = .mark name kind available → table.lookup name = some mask → mask.frozen = false →
      table.after step = table.bind name (mask.mark kind available) → Does table step

theorem does (table : MaskTable) (step : MaskStep) : table.Does step := by
  -- a step that does not find its mask fails
  have hmissing {cause : MaskError} (h : table.step step = .error cause)
      (hm : ∀ name mask, table.lookup name = some mask → mask.met name step = mask) :
      table.Does step :=
    .nothing (after_of_error h) (fun _ _ => ⟨cause, h⟩) hm
  cases step with
  | create name kinds frozen =>
    refine .binds rfl rfl fun hf => ?_
    obtain rfl : frozen = false := hf
    exact ⟨kinds, rfl, rfl⟩
  | mark name kind available =>
    cases hl : table.lookup name with
    | none =>
      refine hmissing (by rw [MaskTable.step, find_of_none hl]; rfl) fun other mask hother => ?_
      have hne : name ≠ other := by
        rintro rfl
        rw [hl] at hother
        cases hother
      exact if_neg fun h => hne h.1
    | some mask =>
      have hs := step_mark hl kind available
      cases hf : mask.frozen with
      | true =>
        rw [hf] at hs
        refine hmissing hs fun other mask' hother => if_neg ?_
        rintro ⟨rfl, hf'⟩
        obtain rfl : mask = mask' := Option.some.inj (hl.symm.trans hother)
        rw [hf] at hf'
        cases hf'
      | false =>
        rw [hf] at hs
        exact .marks rfl hl hf (after_of_ok hs)
  | freeze name into =>
    cases hl : table.lookup name with
    | none => exact hmissing (by rw [MaskTable.step, find_of_none hl]; rfl) fun _ _ _ => rfl
    | some mask => exact .binds rfl (step_freeze hl) nofun
  | share name into =>
    cases hl : table.lookup name with
    | none => exact hmissing (by rw [MaskTable.step, find_of_none hl]; rfl) fun _ _ _ => rfl
    | some mask => exact .binds rfl (step_share hl) nofun
  | has name kind =>
    refine .nothing ?_ nofun fun _ _ _ => rfl
    rw [after, MaskTable.step]
    cases table.find name <;> rfl
  | alike name other =>
    refine .nothing ?_ nofun fun _ _ _ => rfl
    rw [after, MaskTable.step]
    cases table.find name with
    | error cause => rfl
    | ok mask => cases table.find other <;> rfl

/-- What a step that does not bind a name makes of the mask under it. -/
theorem lookup_after (hk : step.target? = some name → ∃ cause, table.step step = .error cause) :
    (table.after step).lookup name = (table.lookup name).map fun mask => mask.met name step := by
  cases table.does step with
  | nothing hafter _ hmet =>
    rw [hafter]
    cases hl : table.lookup name with
    | none => rfl
    | some mask => exact congrArg some (hmet name mask hl).symm
  | @binds into mask answer htarget hs _ =>
    have hne : name ≠ into := by
      rintro rfl
      obtain ⟨cause, hc⟩ := hk htarget
      rw [hs] at hc
      cases hc
    have hmet (mask : EndpointMask) : mask.met name step = mask := by
      cases step with
      | mark => cases htarget
      | create | freeze | share | has | alike => rfl
    rw [after_of_ok hs, lookup_bind, if_neg hne]
    simp only [hmet, Option.map_id']
  | @marks other kind available mask hstep hl hf hafter =>
    subst hstep
    rw [hafter, lookup_bind]
    by_cases hn : name = other
    · subst hn
      rw [if_pos rfl, hl, Option.map_some, EndpointMask.met, if_pos ⟨rfl, hf⟩]
    · have hmet (mask : EndpointMask) : mask.met name (.mark other kind available) = mask :=
        if_neg fun h => hn h.1.symm
      rw [if_neg hn]
      simp only [hmet, Option.map_id']

theorem lookup_run (hk : Retains name table steps) (h : table.lookup name = some mask) :
    (table.run steps).lookup name = some (mask.metAll name steps) := by
  induction hk generalizing mask with
  | nil => exact h
  | @cons table step steps hstep _ ih =>
    have hmet : (table.after step).lookup name = some (mask.met name step) := by
      rw [lookup_after hstep, h, Option.map_some]
    exact ih hmet

/-- What a name is bound to, it was bound to by a step, and it was not bound anew since. -/
theorem bound_since (h : (run [] steps).lookup name = some mask) :
    ∃ before step after start, steps = before ++ step :: after ∧
      ((run [] before).after step).lookup name = some start ∧
      (start.frozen = false → ∃ kinds, step = .create name kinds false ∧
        start = .ofKinds kinds false) ∧
      Retains name ((run [] before).after step) after := by
  induction steps using List.reverseRecOn generalizing mask with
  | nil => cases h
  | append_singleton steps step ih =>
    by_cases hk : step.target? = some name → ∃ cause, (run [] steps).step step = .error cause
    · rw [run_append] at h
      have hafter := (lookup_after hk).symm.trans h
      obtain ⟨mask', hmask', -⟩ := Option.map_eq_some_iff.1 hafter
      obtain ⟨before, first, after, start, rfl, hstart, hmade, hretains⟩ := ih hmask'
      refine ⟨before, first, after ++ [step], start, by simp, hstart, hmade, hretains.append ?_⟩
      rw [run_append] at hk
      exact .cons hk .nil
    · rw [Classical.not_imp] at hk
      cases (run [] steps).does step with
      | nothing _ hfails => exact absurd (hfails name hk.1) hk.2
      | @binds into start answer htarget hs hmade =>
        obtain rfl : into = name := Option.some.inj (htarget.symm.trans hk.1)
        refine ⟨steps, step, [], start, rfl, ?_, hmade, .nil⟩
        rw [after_of_ok hs, lookup_bind, if_pos rfl]
      | marks hstep =>
        rw [hstep] at hk
        cases hk.1

/-- A mask that is not frozen is what it was made of and what was last marked in it. -/
theorem lookup_iff_written : (run [] steps).lookup name = some mask ∧ mask.frozen = false ↔
    ∃ before kinds after, steps = before ++ .create name kinds false :: after ∧
      Retains name ((run [] before).after (.create name kinds false)) after ∧
      mask.frozen = false ∧
      ∀ kind, mask.has kind = (MaskStep.lastMarking? name kind after).getD (kinds.contains kind) := by
  constructor
  · rintro ⟨hl, hf⟩
    obtain ⟨before, step, after, start, rfl, hstart, hmade, hretains⟩ := bound_since hl
    rw [run_append, run_cons, lookup_run hretains hstart] at hl
    obtain rfl := Option.some.inj hl
    rw [EndpointMask.frozen_metAll] at hf
    obtain ⟨kinds, rfl, rfl⟩ := hmade hf
    refine ⟨before, kinds, after, rfl, hretains, EndpointMask.frozen_metAll _ _ _, fun kind => ?_⟩
    rw [EndpointMask.has_metAll rfl, EndpointMask.has_ofKinds]
  · rintro ⟨before, kinds, after, rfl, hretains, hf, hhas⟩
    refine ⟨?_, hf⟩
    have hstart : ((run [] before).after (.create name kinds false)).lookup name =
        some (.ofKinds kinds false) := by
      rw [after_of_ok rfl, lookup_bind, if_pos rfl]
    rw [run_append, run_cons, lookup_run hretains hstart]
    refine congrArg some (EndpointMask.ext_has (fun kind => ?_) ?_)
    · rw [EndpointMask.has_metAll rfl, EndpointMask.has_ofKinds, hhas]
    · rw [EndpointMask.frozen_metAll, hf]
      rfl

end MaskTable

end KubeletCollector
