import KubeletCollector.Cycle.Collect

/-! What the task of a node enters into the report, which all tasks share: entries of that node, and
nothing that depends on what stands there of others. -/

namespace KubeletCollector

structure FailureReport.SameFor (name : Option String) (report report' : FailureReport) : Prop where
  failures : report'.failures.get? name = report.failures.get? name
  fallbacks : report'.fallbacks.get? name = report.fallbacks.get? name

namespace FailureReport.SameFor

variable {name : Option String} {report report₁ report₂ : FailureReport}

theorem refl (name : Option String) (report : FailureReport) : SameFor name report report :=
  ⟨rfl, rfl⟩

theorem symm (h : SameFor name report report₁) : SameFor name report₁ report :=
  ⟨h.failures.symm, h.fallbacks.symm⟩

theorem trans (h : SameFor name report report₁) (h' : SameFor name report₁ report₂) :
    SameFor name report report₂ :=
  ⟨h'.failures.trans h.failures, h'.fallbacks.trans h.fallbacks⟩

end FailureReport.SameFor

namespace Cycle

open FailureReport

structure EntersFor (name : Option String) (enter : FailureReport → FailureReport) : Prop where
  others : ∀ other ≠ name, ∀ report, SameFor other report (enter report)
  own : ∀ {report report'}, SameFor name report report' → SameFor name (enter report) (enter report')

inductive Task.SpeaksOf (name : Option String) : Task → Prop
  | ended : SpeaksOf name .ended
  | stage {α : Type} {act : Act α} {enter : α → FailureReport → FailureReport} {next : α → Task} :
      (∀ a, EntersFor name (enter a)) → (∀ a, SpeaksOf name (next a)) →
      SpeaksOf name (.stage act enter next)

/-- A task that keeps to what holds of the report. -/
inductive Task.Upholds (P : FailureReport → Prop) : Task → Prop
  | ended : Upholds P .ended
  | stage {α : Type} {act : Act α} {enter : α → FailureReport → FailureReport} {next : α → Task} :
      (∀ a report, P report → P (enter a report)) → (∀ a, Upholds P (next a)) →
      Upholds P (.stage act enter next)

namespace EntersFor

variable {name : Option String} {enter enter' : FailureReport → FailureReport}

theorem nothing (name : Option String) : EntersFor name fun report => report :=
  ⟨fun other _ => SameFor.refl other, id⟩

theorem failure (name : Option String) (f : Fault) :
    EntersFor name fun report => { report with failures := report.failures.put name f } where
  others other hne report := by
    refine ⟨?_, rfl⟩
    rw [NodeFaults.get?_put, if_neg hne]
  own h := by
    refine ⟨?_, h.fallbacks⟩
    rw [NodeFaults.get?_put, NodeFaults.get?_put, if_pos rfl, if_pos rfl]

theorem warned (node : NodeInfo) : EntersFor node.name (warned node) := by
  unfold Cycle.warned
  by_cases hp : node.providerId.isEmpty = true
  · simpa [hp] using failure node.name .missingProviderId
  · simpa [hp] using nothing node.name

theorem noted (node : NodeInfo) (direct : Option Fault) : EntersFor node.name (noted node direct) := by
  cases direct with
  | none => exact nothing node.name
  | some f => exact failure node.name (.directPath f)

theorem recovered (node : NodeInfo) (direct : Option Fault) :
    EntersFor node.name (recovered node direct) := by
  cases direct with
  | none => exact nothing node.name
  | some f =>
    unfold Cycle.recovered
    constructor
    · intro other hne report
      constructor
      · dsimp only
        split <;> simp [NodeFaults.get?_put, NodeFaults.get?_drop, hne]
      · simp [NodeFaults.get?_put, hne]
    · intro report report' _
      constructor
      · dsimp only
        split <;> simp [NodeFaults.get?_put, NodeFaults.get?_drop]
      · simp [NodeFaults.get?_put]

theorem proxied (node : NodeInfo) (direct failed : Option Fault) :
    EntersFor node.name (proxied node direct failed) := by
  cases failed with
  | none => exact recovered node direct
  | some f => exact failure node.name (.proxyPath f)

end EntersFor

theorem speaksOf_proxyTask (session : Session) (job : Job) (node : NodeInfo)
    (direct : Option Fault) : (proxyTask session job node direct).SpeaksOf node.name :=
  Task.SpeaksOf.stage (EntersFor.proxied node direct) fun _ => Task.SpeaksOf.ended

theorem Plan.speaksOf_task (plan : Plan) (node : NodeInfo) : (plan.task node).SpeaksOf node.name := by
  refine Task.SpeaksOf.stage (fun _ => EntersFor.warned node) fun direct => ?_
  cases direct with
  | false => exact speaksOf_proxyTask _ _ node none
  | true =>
    refine Task.SpeaksOf.stage (EntersFor.noted node) fun failed => ?_
    cases failed with
    | none => exact Task.SpeaksOf.ended
    | some f =>
      exact Task.SpeaksOf.stage (fun _ => EntersFor.nothing node.name) fun _ =>
        speaksOf_proxyTask _ _ node (some f)

namespace Task.SpeaksOf

variable {name : Option String} {task : Task}

theorem of_stage {α : Type} {act : Act α} {enter : α → FailureReport → FailureReport}
    {next : α → Task} (h : SpeaksOf name (.stage act enter next)) :
    (∀ a, EntersFor name (enter a)) ∧ ∀ a, (next a).SpeaksOf name := by
  cases h with
  | stage henter hnext => exact ⟨henter, hnext⟩

theorem walk (h : task.SpeaksOf name) (stop : Bool) (report : FailureReport) (o : Outside) :
    (task.walk stop report o).task.SpeaksOf name ∧ ∀ other ≠ name,
      SameFor other report (task.walk stop report o).report := by
  induction h generalizing report o with
  | ended => exact ⟨ended, fun other _ => SameFor.refl other report⟩
  | @stage α act enter next henter hnext ih =>
    unfold Task.walk
    rcases act.walk stop o with ⟨rest, o₁⟩
    cases rest with
    | done a =>
      obtain ⟨hlast, hothers⟩ := ih a (enter a report) o₁
      exact ⟨hlast, fun other hne => ((henter a).others other hne report).trans (hothers other hne)⟩
    | fail f => exact ⟨ended, fun other _ => SameFor.refl other report⟩
    | step move rest => exact ⟨stage henter hnext, fun other _ => SameFor.refl other report⟩
    | ask r rest => exact ⟨stage henter hnext, fun other _ => SameFor.refl other report⟩
    | wait rest => exact ⟨stage henter hnext, fun other _ => SameFor.refl other report⟩

end Task.SpeaksOf

theorem Task.Upholds.walk {P : FailureReport → Prop} {task : Task} (h : task.Upholds P) (stop : Bool)
    {report : FailureReport} (hp : P report) (o : Outside) :
    (task.walk stop report o).task.Upholds P ∧ P (task.walk stop report o).report := by
  induction h generalizing report o with
  | ended => exact ⟨ended, hp⟩
  | @stage α act enter next henter hnext ih =>
    unfold Task.walk
    rcases act.walk stop o with ⟨rest, o₁⟩
    cases rest with
    | done a => exact ih a (henter a report hp) o₁
    | fail f => exact ⟨ended, hp⟩
    | step move rest => exact ⟨stage henter hnext, hp⟩
    | ask r rest => exact ⟨stage henter hnext, hp⟩
    | wait rest => exact ⟨stage henter hnext, hp⟩

end Cycle

end KubeletCollector
