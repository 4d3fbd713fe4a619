import KubeletCollector.Proofs.Entries
import KubeletCollector.Proofs.Pairing
import KubeletCollector.Proofs.Shape
import KubeletCollector.Proofs.Within

/-! How a pool moves: one stretch of one task after the other. A cycle that comes to an end has
moved its pool to where every task has ended, in whatever order the tasks took turns. -/

namespace KubeletCollector

namespace Cycle

namespace Task

variable {task : Task} {report : FailureReport} {o : Outside}

theorem walk_to_end (task : Task) (report : FailureReport) (o : Outside) :
    (task.walk false report o).task = .ended ∧
      ∀ report' o', (task.run report).outcome o = (.ok report', o') →
        task.walk false report o = ⟨.ended, report', none, o'⟩ := by
  induction task generalizing report o with
  | ended =>
    refine ⟨rfl, fun report' o' h => ?_⟩
    cases h
    rfl
  | stage act enter next ih =>
    unfold walk run
    rw [Act.walk_to_end, Act.outcome_bind]
    rcases act.outcome o with ⟨f | a, o₁⟩
    · refine ⟨rfl, fun report' o' h => ?_⟩
      cases h
    · exact ih a (enter a report) o₁

/-- What is left after a stretch leads to the same outcome, unless a fault ended it. -/
theorem outcome_walk (stop : Bool) (h : (task.walk stop report o).fault = none) :
    ((task.walk stop report o).task.run (task.walk stop report o).report).outcome
        (task.walk stop report o).outside = (task.run report).outcome o := by
  induction task generalizing report o with
  | ended => rfl
  | stage act enter next ih =>
    have hact := Act.outcome_walk stop act o
    unfold walk at h ⊢
    rw [run, Act.outcome_bind, ← hact]
    rcases hw : act.walk stop o with ⟨rest, o₁⟩
    rw [hw] at h
    cases rest with
    | done a => exact ih a h
    | fail f => cases h
    | step move rest => exact Act.outcome_bind ..
    | ask r rest => exact Act.outcome_bind ..
    | wait rest => exact Act.outcome_bind ..

end Task

/-- From one moment of a pool to another, by stretches of tasks and by letting tasks in. The list says
which requests were sent meanwhile, in order, and by which of the tasks. -/
inductive Pool.Moves : Pool → Outside → List (Nat × Request) → Pool → Outside → Prop
  | refl {pool : Pool} {o : Outside} : Moves pool o [] pool o
  | go {pool pool' : Pool} {o o' : Outside} {order : List (Nat × Request)} (stop : Bool) (i : Nat) :
      Moves (pool.go stop o i).1 (pool.go stop o i).2 order pool' o' →
      Moves pool o ((o.asked (pool.go stop o i).2).map (Prod.mk i) ++ order) pool' o'
  | letIn {pool pool' : Pool} {o o' : Outside} {order : List (Nat × Request)} (limit : Int) :
      Moves (pool.letIn limit) o order pool' o' → Moves pool o order pool' o'

structure Pool.Done (pool : Pool) (report : FailureReport) : Prop where
  ended : pool.isOver = true
  first : pool.first = none
  report : pool.report = report

namespace Pool

variable {pool : Pool} {o o' : Outside} {report : FailureReport}

theorem go_some {task : Task} {j : Nat} (stop : Bool) (o : Outside)
    (ht : pool.tasks[j]? = some task) :
    (pool.go stop o j).1.report = (task.walk stop pool.report o).report ∧
      (pool.go stop o j).1.first = pool.first.or (task.walk stop pool.report o).fault ∧
      (pool.go stop o j).2 = (task.walk stop pool.report o).outside := by
  unfold go
  rw [ht]
  exact ⟨rfl, rfl, rfl⟩

/-- Letting a task in changes nothing but how many have begun. -/
theorem letIn_eq (pool : Pool) (limit : Int) :
    pool.letIn limit = { pool with begun := (pool.letIn limit).begun } := by
  unfold letIn
  split <;> rfl

theorem go_none {j : Nat} (stop : Bool) (o : Outside) (ht : pool.tasks[j]? = none) :
    pool.go stop o j = (pool, o) := by
  unfold go
  rw [ht]

theorem length_go (pool : Pool) (stop : Bool) (o : Outside) (i : Nat) :
    (pool.go stop o i).1.tasks.length = pool.tasks.length := by
  unfold go
  split
  · rfl
  · exact List.length_set

theorem tasks_go (pool : Pool) (stop : Bool) (o : Outside) (i j : Nat) :
    (pool.go stop o i).1.tasks[j]? = if j = i then
        pool.tasks[i]?.map fun task => (task.walk stop pool.report o).task
      else pool.tasks[j]? := by
  unfold go
  by_cases hi : i < pool.tasks.length
  · rw [List.getElem?_eq_getElem hi]
    by_cases hj : j = i
    · subst hj
      simp [hi]
    · simp [hj, List.getElem?_set_ne (Ne.symm hj)]
  · rw [List.getElem?_eq_none (Nat.le_of_not_lt hi)]
    by_cases hj : j = i
    · simp [hj, hi]
    · simp [hj]

/-- What is said of each task by its position is said of them after a stretch, if it is of the task that
went on. -/
theorem forall_go {P : Nat → Task → Prop} (pool : Pool) (stop : Bool) (o : Outside) (i : Nat)
    (hown : ∀ task, pool.tasks[i]? = some task → P i (task.walk stop pool.report o).task)
    (hothers : ∀ j task, j ≠ i → pool.tasks[j]? = some task → P j task) :
    ∀ j task, (pool.go stop o i).1.tasks[j]? = some task → P j task := by
  intro j task ht
  rw [tasks_go] at ht
  split at ht
  · rename_i hj
    obtain ⟨task', ht', rfl⟩ := Option.map_eq_some_iff.1 ht
    exact hj ▸ hown task' ht'
  · rename_i hj
    exact hothers j task hj ht

theorem isOver_iff : pool.isOver = true ↔
    ∀ (i : Nat) (task : Task), pool.tasks[i]? = some task → task = .ended := by
  have hended (task : Task) : task.isEnded = true ↔ task = .ended := by
    cases task <;> simp [Task.isEnded]
  simp only [isOver, List.all_eq_true, List.mem_iff_getElem?, hended]
  exact ⟨fun h i task ht => h task ⟨i, ht⟩, fun h task ⟨i, ht⟩ => h i task ht⟩

/-- By induction on the positions: a task whose turn came has ended, and stays so. -/
theorem isOver_finish (pool : Pool) (o : Outside) : (pool.finish o).1.isOver = true := by
  have hrest (is : List Nat) : ∀ (pool : Pool) (o : Outside),
      (∀ (i : Nat) (task : Task), i ∉ is → pool.tasks[i]? = some task → task = .ended) →
        (is.foldl (fun s i => s.1.go false s.2 i) (pool, o)).1.isOver = true := by
    induction is with
    | nil => exact fun pool o h => isOver_iff.2 fun i task => h i task List.not_mem_nil
    | cons j is ih =>
      intro pool o h
      refine ih (pool.go false o j).1 (pool.go false o j).2 fun i task hi ht => ?_
      refine forall_go (P := fun i task => i ∉ is → task = .ended) pool false o j ?_ ?_ i task ht hi
      · exact fun task' _ _ => (Task.walk_to_end task' pool.report o).1
      · exact fun k task' hk ht' hk' => h k task' (by simp [hk, hk']) ht'
  refine hrest _ pool o fun i task hi ht => ?_
  rw [List.getElem?_eq_none (by simpa using hi)] at ht
  cases ht

/-- A fault that was the first stays so. -/
theorem Moves.first {order : List (Nat × Request)} {last : Pool}
    (h : Moves pool o order last o') (hf : pool.first ≠ none) : last.first ≠ none := by
  induction h with
  | refl => exact hf
  | letIn limit _ ih => exact ih (by rwa [letIn_eq])
  | @go pool _ o _ _ stop i _ ih =>
    refine ih ?_
    rcases ht : pool.tasks[i]? with _ | task
    · rwa [go_none stop o ht]
    · rw [(go_some stop o ht).2.1]
      obtain ⟨f, hf⟩ := Option.ne_none_iff_exists'.1 hf
      simp [hf]

/-- A task whose first stretch ends in a fault, wherever it begins, leaves one behind. -/
theorem Moves.raised {order : List (Nat × Request)} {last : Pool} {task : Task} {i : Nat}
    (h : Moves pool o order last o') (hover : last.isOver = true) (ht : pool.tasks[i]? = some task)
    (hf : ∀ stop report o, (task.walk stop report o).fault ≠ none) : last.first ≠ none := by
  induction h with
  | @refl pool o =>
    obtain rfl := isOver_iff.1 hover i task ht
    exact absurd rfl (hf true {} o)
  | letIn limit _ ih => exact ih hover (by rwa [letIn_eq])
  | @go pool _ o _ _ stop j hmoves ih =>
    by_cases hj : i = j
    · subst hj
      refine hmoves.first ?_
      rw [(go_some stop o ht).2.1]
      exact fun hnone => hf stop pool.report o (Option.or_eq_none_iff.1 hnone).2
    · refine ih hover ?_
      rw [tasks_go, if_neg hj]
      exact ht

/-- What every task keeps to still holds of the report in the end. -/
theorem Moves.upholds {P : FailureReport → Prop} {order : List (Nat × Request)} {last : Pool}
    (h : Moves pool o order last o') (hp : P pool.report)
    (ht : ∀ (i : Nat) (task : Task), pool.tasks[i]? = some task → task.Upholds P) : P last.report := by
  induction h with
  | refl => exact hp
  | @letIn pool _ _ _ _ limit _ ih =>
    rw [letIn_eq] at ih
    exact ih hp ht
  | @go pool _ o _ _ stop i _ ih =>
    rcases hi : pool.tasks[i]? with _ | task
    · rw [go_none stop o hi] at ih
      exact ih hp ht
    · obtain ⟨hlast, hreport⟩ := (ht i task hi).walk stop hp o
      refine ih ?_ (forall_go pool stop o i ?_ fun j task' _ => ht j task')
      · rw [(go_some stop o hi).1]
        exact hreport
      · intro task' ht'
        cases hi.symm.trans ht'
        exact hlast

theorem done_of_outcome (ho : pool.isOver = true) (h : pool.outcome = .ok report) :
    pool.Done report := by
  unfold outcome at h
  split at h
  · cases h
  · rename_i hfirst
    exact ⟨ho, hfirst, Except.ok.inj h⟩

/-- What can be reached after some positions had their turn. -/
theorem moves_foldl {pool' : Pool} {rest : List (Nat × Request)} (is : List Nat)
    (h : Moves (is.foldl (fun s i => s.1.go false s.2 i) (pool, o)).1
      (is.foldl (fun s i => s.1.go false s.2 i) (pool, o)).2 rest pool' o') :
    ∃ order, Moves pool o order pool' o' := by
  induction is generalizing pool o with
  | nil => exact ⟨rest, h⟩
  | cons i is ih =>
    obtain ⟨order, hmoves⟩ := ih h
    exact ⟨_, Moves.go false i hmoves⟩

/-- By induction on the choices: where the tasks take turns and no fault comes of it, each is brought
to its end. -/
theorem moves_of_run {limit : Int} {choices : List Choice}
    (h : pool.run limit choices o = (.ok report, o')) :
    ∃ order last done schedule, Moves pool o order last done ∧ last.Done report ∧
      o' = { done with schedule } := by
  induction choices generalizing pool o with
  | nil =>
    unfold run at h
    have hstay : Moves (pool.finish o).1 (pool.finish o).2 [] (pool.finish o).1 (pool.finish o).2 :=
      Moves.refl
    obtain ⟨order, hmoves⟩ := moves_foldl _ hstay
    obtain ⟨hok, rfl⟩ := Prod.mk.inj h
    exact ⟨order, _, _, _, hmoves, done_of_outcome (isOver_finish pool o) hok, rfl⟩
  | cons choice choices ih =>
    unfold run at h
    split at h
    · rename_i hover
      obtain ⟨hok, rfl⟩ := Prod.mk.inj h
      exact ⟨_, _, _, _, Moves.refl, done_of_outcome hover hok, rfl⟩
    · split at h
      · cases h
      · obtain ⟨order, last, done, schedule, hmoves, hrest⟩ := ih h
        split at hmoves
        · split at hmoves
          · exact ⟨_, last, done, schedule, Moves.go true _ hmoves, hrest⟩
          · exact ⟨order, last, done, schedule, hmoves, hrest⟩
        · exact ⟨order, last, done, schedule, Moves.letIn limit hmoves, hrest⟩
        · exact ⟨order, last, done, schedule, hmoves, hrest⟩

end Pool

variable {plan : Plan} {nodes : List NodeInfo} {report report' : FailureReport} {o o' : Outside}

def Plan.pool (plan : Plan) (nodes : List NodeInfo) : Pool where
  tasks := nodes.map plan.task

/-- One node after the other is one of the orders. -/
theorem moves_of_inTurn {ended : List Task} (he : ∀ task ∈ ended, task = .ended)
    (h : (nodes.foldlM plan.collect report).outcome o = (.ok report', o')) :
    ∃ order last, Pool.Moves { tasks := ended ++ nodes.map plan.task, report } o order last o' ∧
      last.Done report' := by
  induction nodes generalizing ended report o with
  | nil =>
    cases h
    refine ⟨[], _, .refl, Pool.isOver_iff.2 fun i task ht => he task ?_, rfl, rfl⟩
    exact List.mem_of_getElem? (by simpa using ht)
  | cons n nodes ih =>
    rw [List.foldlM_cons] at h
    obtain ⟨report₁, o₁, hcollect, hrest⟩ := Act.ok_of_bind h
    have hwalk := (Task.walk_to_end (plan.task n) report o).2 report₁ o₁ hcollect
    have hgo : Pool.go false { tasks := ended ++ (n :: nodes).map plan.task, report } o ended.length =
        ({ tasks := (ended ++ [.ended]) ++ nodes.map plan.task, report := report₁ }, o₁) := by
      simp [Pool.go, hwalk]
    have he' : ∀ task ∈ ended ++ [Task.ended], task = .ended := by
      intro task ht
      exact (List.mem_append.1 ht).elim (he task) List.mem_singleton.1
    obtain ⟨order, last, hmoves, hlast⟩ := ih he' hrest
    generalize ({ tasks := ended ++ (n :: nodes).map plan.task, report } : Pool) = pool at hgo ⊢
    have hrest' : Pool.Moves (pool.go false o ended.length).1 (pool.go false o ended.length).2 order
        last o' := by
      rw [hgo]
      exact hmoves
    exact ⟨_, last, Pool.Moves.go false ended.length hrest', hlast⟩

/-- However many nodes are collected at once: a cycle that returns a report has brought the task of
every node to its end. -/
theorem moves_of_work (h : (plan.work nodes).outcome o = (.ok report, o')) :
    ∃ order last done schedule log, (plan.pool nodes).Moves o order last done ∧ last.Done report ∧
      o' = { done with schedule, log } := by
  obtain ⟨report', o₁, hcollect, hlog⟩ := Act.ok_of_bind h
  cases hlog
  split at hcollect
  · have hnone : ∀ task ∈ ([] : List Task), task = .ended := nofun
    obtain ⟨order, last, hmoves, hlast⟩ := moves_of_inTurn hnone hcollect
    exact ⟨order, last, o₁, o₁.schedule, _, hmoves, hlast, rfl⟩
  · rw [sideBySide, Act.outcome_atomic] at hcollect
    obtain ⟨order, last, done, schedule, hmoves, hlast, rfl⟩ := Pool.moves_of_run hcollect
    exact ⟨order, last, done, schedule, _, hmoves, hlast, rfl⟩

end Cycle

end KubeletCollector
