import KubeletCollector.Cycle.Task
import KubeletCollector.Proofs.Pairing
import Mathlib.Data.List.Forall2

/-! Pools of tasks in step. Where tasks are in step one by one, so are two pools of them that take
turns by the same schedule, whatever it says. -/

namespace KubeletCollector

namespace Cycle

/-- The two tasks go in step, stage by stage, and enter the same. -/
inductive Task.InStep (p : Pairing) (E : Fault → Prop) : Task → Task → Prop
  | ended : InStep p E .ended .ended
  | stage {α : Type} {V : α → Prop} {act act' : Act α}
      {enter : α → FailureReport → FailureReport} {next next' : α → Task} :
      act.InStep p V E act' → (∀ a, V a → InStep p E (next a) (next' a)) →
      InStep p E (.stage act enter next) (.stage act' enter next')

/-- So do two stretches, with one report and one fault. -/
structure Task.Stretch.InStep (p : Pairing) (E : Fault → Prop) (s s' : Task.Stretch) : Prop where
  task : s.task.InStep p E s'.task
  report : s'.report = s.report
  fault : s'.fault = s.fault
  faults : ∀ f, s.fault = some f → E f

/-- And two pools. -/
structure Pool.InStep (p : Pairing) (E : Fault → Prop) (pool pool' : Pool) : Prop where
  tasks : List.Forall₂ (Task.InStep p E) pool.tasks pool'.tasks
  begun : pool'.begun = pool.begun
  report : pool'.report = pool.report
  first : pool'.first = pool.first
  faults : ∀ f, pool.first = some f → E f

end Cycle

/-- Outsides that correspond have one schedule, and it is in no one's way. -/
structure Pairing.Scheduled (p : Pairing) : Prop where
  same : ∀ {o a}, p.rel o a → a.schedule = o.schedule
  set : ∀ {o a} schedule, p.rel o a → p.rel { o with schedule } { a with schedule }
  did : ∀ {o o'} schedule, p.moves o o' → p.moves o { o' with schedule }

theorem Pairing.Scheduled.rescheduled {p : Pairing} (h : p.Scheduled) {o a o' a' : Outside}
    (hb : p.Beside o a o' a') (schedule : List Choice) :
    p.Beside o a { o' with schedule } { a' with schedule } :=
  ⟨h.set schedule hb.rel, h.did schedule hb.did, h.did schedule hb.did'⟩

namespace Cycle

open Pairing

variable {p : Pairing} {E : Fault → Prop} {o a o₁ a₁ : Outside}

namespace Task.InStep

variable {task task' : Task}

theorem run (h : task.InStep p E task') (report : FailureReport) :
    (task.run report).InStep p (fun _ => True) E (task'.run report) := by
  induction h generalizing report with
  | ended => exact Act.InStep.pure trivial
  | stage hact _ ih => exact Act.InStep.bind hact fun a ha => ih a ha _

theorem isEnded (h : task.InStep p E task') : task'.isEnded = task.isEnded := by
  cases h <;> rfl

/-- By induction on the stages; the last one of the stretch may be left half done. -/
theorem walk (hp : p.Sound) (stop : Bool) (h : task.InStep p E task')
    (report : FailureReport) (hr : p.rel o a) :
    (task.walk stop report o).InStep p E (task'.walk stop report a) ∧
      p.Beside o a (task.walk stop report o).outside (task'.walk stop report a).outside := by
  induction h generalizing o a report with
  | ended => exact ⟨⟨ended, rfl, rfl, nofun⟩, hp.beside hr⟩
  | @stage α V act act' enter next next' hact hnext ih =>
    have hwalk := hp.walk stop hact hr
    rcases hw : act.walk stop o with ⟨rest, o₁⟩
    rcases hw' : act'.walk stop a with ⟨rest', a₁⟩
    rw [hw, hw'] at hwalk
    obtain ⟨hrest, hbeside⟩ := hwalk
    simp only [Task.walk, hw, hw']
    cases hrest with
    | done hv =>
      obtain ⟨hlast, hbeside'⟩ := ih _ hv (enter _ report) hbeside.rel
      exact ⟨hlast, hp.beside_trans hbeside hbeside'⟩
    | fail hf => exact ⟨⟨ended, rfl, rfl, by rintro _ ⟨⟩; exact hf⟩, hbeside⟩
    | step hmove hrest =>
      exact ⟨⟨stage (Act.InStep.step hmove hrest) hnext, rfl, rfl, nofun⟩, hbeside⟩
    | ask hasks hrest =>
      exact ⟨⟨stage (Act.InStep.ask hasks hrest) hnext, rfl, rfl, nofun⟩, hbeside⟩
    | wait hrest =>
      exact ⟨⟨stage (Act.InStep.wait hrest) hnext, rfl, rfl, nofun⟩, hbeside⟩

end Task.InStep

namespace Pool.InStep

variable {pool pool' : Pool}

theorem forall₂_set {α β : Type*} {R : α → β → Prop} {as : List α} {bs : List β}
    (h : List.Forall₂ R as bs) {a : α} {b : β} (hab : R a b) (i : Nat) :
    List.Forall₂ R (as.set i a) (bs.set i b) := by
  induction h generalizing i with
  | nil => exact List.Forall₂.nil
  | cons hhead htail ih =>
    cases i with
    | zero => exact List.Forall₂.cons hab htail
    | succ i => exact List.Forall₂.cons hhead (ih i)

theorem outcome (h : pool.InStep p E pool') : pool'.outcome = pool.outcome := by
  unfold Pool.outcome
  rw [h.first, h.report]

theorem errors (h : pool.InStep p E pool') (f : Fault) (hf : pool.outcome = .error f) : E f := by
  unfold Pool.outcome at hf
  split at hf
  · rename_i g hfirst
    cases hf
    exact h.faults f hfirst
  · cases hf

theorem isOver (h : pool.InStep p E pool') : pool'.isOver = pool.isOver := by
  unfold Pool.isOver
  have htasks := h.tasks
  generalize pool.tasks = tasks, pool'.tasks = tasks' at htasks
  induction htasks with
  | nil => rfl
  | cons ht _ ih => rw [List.all_cons, List.all_cons, ht.isEnded, ih]

theorem underWay {tasks tasks' : List Task} (h : List.Forall₂ (Task.InStep p E) tasks tasks')
    (begun : Nat) : (tasks'.take begun).countP (fun task => !task.isEnded) =
      (tasks.take begun).countP fun task => !task.isEnded := by
  induction h generalizing begun with
  | nil => rfl
  | cons ht _ ih =>
    cases begun with
    | zero => rfl
    | succ begun => rw [List.take_succ_cons, List.take_succ_cons, List.countP_cons,
        List.countP_cons, ih, ht.isEnded]

theorem letIn (h : pool.InStep p E pool') (limit : Int) :
    (pool.letIn limit).InStep p E (pool'.letIn limit) := by
  unfold Pool.letIn
  rw [h.begun, underWay h.tasks]
  split
  · exact ⟨h.tasks, rfl, h.report, h.first, h.faults⟩
  · exact h

theorem go (hp : p.Sound) (h : pool.InStep p E pool') (stop : Bool) (i : Nat)
    (hr : p.rel o a) : (pool.go stop o i).1.InStep p E (pool'.go stop a i).1 ∧
      p.Beside o a (pool.go stop o i).2 (pool'.go stop a i).2 := by
  have hlength := h.tasks.length_eq
  unfold Pool.go
  by_cases hi : i < pool.tasks.length
  · have hi' : i < pool'.tasks.length := hlength ▸ hi
    have htask : pool.tasks[i].InStep p E pool'.tasks[i] := h.tasks.get hi hi'
    obtain ⟨hstretch, hbeside⟩ := htask.walk hp stop pool.report hr
    rw [List.getElem?_eq_getElem hi, List.getElem?_eq_getElem hi']
    dsimp only
    rw [h.report, h.first, hstretch.report, hstretch.fault]
    refine ⟨⟨?_, h.begun, rfl, rfl, fun f hf => ?_⟩, hbeside⟩
    · exact forall₂_set h.tasks hstretch.task i
    · cases hfirst : pool.first with
      | some g => exact h.faults f (by simpa [hfirst] using hf)
      | none => exact hstretch.faults f (by simpa [hfirst] using hf)
  · rw [List.getElem?_eq_none (Nat.le_of_not_lt hi),
      List.getElem?_eq_none (hlength ▸ Nat.le_of_not_lt hi)]
    exact ⟨h, hp.beside hr⟩

theorem follow (hp : p.Sound) (h : pool.InStep p E pool') (limit : Int) (choice : Choice)
    (hr : p.rel o a) : (pool.follow limit o choice).1.InStep p E (pool'.follow limit a choice).1 ∧
      p.Beside o a (pool.follow limit o choice).2 (pool'.follow limit a choice).2 := by
  cases choice with
  | go i =>
    simp only [Pool.follow, h.begun]
    split
    · exact h.go hp true i hr
    · exact ⟨h, hp.beside hr⟩
  | letIn => exact ⟨h.letIn limit, hp.beside hr⟩
  | leave => exact ⟨h, hp.beside hr⟩

theorem finish (hp : p.Sound) (h : pool.InStep p E pool') (hr : p.rel o a) :
    (pool.finish o).1.InStep p E (pool'.finish a).1 ∧
      p.Beside o a (pool.finish o).2 (pool'.finish a).2 := by
  unfold Pool.finish
  rw [h.tasks.length_eq]
  generalize List.range pool'.tasks.length = is
  induction is generalizing pool pool' o a with
  | nil => exact ⟨h, hp.beside hr⟩
  | cons i is ih =>
    obtain ⟨hgone, hbeside⟩ := h.go hp false i hr
    obtain ⟨hrest, hbeside'⟩ := ih hgone hbeside.rel
    exact ⟨hrest, hp.beside_trans hbeside hbeside'⟩

/-- By induction on the choices: both pools come to the same. -/
theorem run (hp : p.Sound) (hs : p.Scheduled) (h : pool.InStep p E pool')
    (limit : Int) (choices : List Choice) (hr : p.rel o a) :
    (pool'.run limit choices a).1 = (pool.run limit choices o).1 ∧
      p.Beside o a (pool.run limit choices o).2 (pool'.run limit choices a).2 ∧
      ∀ f, (pool.run limit choices o).1 = .error f → E f := by
  induction choices generalizing pool pool' o a with
  | nil =>
    obtain ⟨hend, hbeside⟩ := h.finish hp hr
    exact ⟨hend.outcome, hs.rescheduled hbeside [], hend.errors⟩
  | cons choice choices ih =>
    have hfollow := h.follow hp limit choice hr
    unfold Pool.run
    rw [h.isOver, h.first]
    split
    · exact ⟨h.outcome, hs.rescheduled (hp.beside hr) _, h.errors⟩
    · split
      · rename_i f hfirst
        exact ⟨rfl, hs.rescheduled (hp.beside hr) _, by rintro _ ⟨⟩; exact h.faults f hfirst⟩
      · obtain ⟨hsame, hbeside, hfault⟩ := ih hfollow.1 hfollow.2.rel
        exact ⟨hsame, hp.beside_trans hfollow.2 hbeside, hfault⟩

end Pool.InStep

/-- Tasks that are in step are so side by side, under every schedule. -/
theorem inStep_run (hp : p.Sound) (hs : p.Scheduled) {tasks tasks' : List Task}
    (h : List.Forall₂ (Task.InStep p E) tasks tasks') (limit : Int) :
    (Act.atomic fun o => Pool.run limit o.schedule { tasks } o).InStep p (fun _ => True) E
      (Act.atomic fun o => Pool.run limit o.schedule { tasks := tasks' } o) := by
  refine Act.InStep.immediate (Act.atomic_eq _) (Act.atomic_eq _) fun o a hr => ?_
  have hpools : Pool.InStep p E { tasks } { tasks := tasks' } := ⟨h, rfl, rfl, rfl, nofun⟩
  obtain ⟨hsame, hbeside, hfaults⟩ := hpools.run hp hs limit o.schedule hr
  rw [Act.outcome_atomic, Act.outcome_atomic, hs.same hr]
  refine ⟨hbeside.rel, hbeside.did, hbeside.did', hsame, ?_⟩
  split
  · trivial
  · rename_i f hf
    exact hfaults f hf

end Cycle

end KubeletCollector
