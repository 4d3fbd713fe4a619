import KubeletCollector.Outside.Act
import KubeletCollector.Report

/-!
Tasks, of which several can be under way at once. A task goes from stage to stage and enters into the
report that all tasks share what came of each. Only where the action of a stage waits for the outside
does another task get its turn.
-/

namespace KubeletCollector.Cycle

inductive Task : Type 1 where
  | ended
  | stage {α : Type} (act : Act α) (enter : α → FailureReport → FailureReport) (next : α → Task)

namespace Task

def isEnded : Task → Bool
  | ended => true
  | stage .. => false

/-- The task with nothing else under way, as an action. -/
def run : Task → FailureReport → Act FailureReport
  | ended, report => return report
  | stage act enter next, report => do
    let a ← act
    (next a).run (enter a report)

structure Stretch where
  task : Task
  report : FailureReport
  fault : Option Fault
  outside : Outside

/-- A stretch of a task, to its end or, if it is to stop there, to where it next waits. A fault ends it. -/
def walk (stop : Bool) : Task → FailureReport → Outside → Stretch
  | ended, report, o => ⟨ended, report, none, o⟩
  | stage act enter next, report, o =>
    match act.walk stop o with
    | (.done a, o) => (next a).walk stop (enter a report) o
    | (.fail f, o) => ⟨ended, report, some f, o⟩
    | (rest, o) => ⟨stage rest enter next, report, none, o⟩

end Task

/-- The tasks of a cycle, of which the first `begun` have begun, with the report as it is so far and
the fault that was the first. -/
structure Pool where
  tasks : List Task
  begun : Nat := 0
  report : FailureReport := {}
  first : Option Fault := none

namespace Pool

def isOver (pool : Pool) : Bool :=
  pool.tasks.all Task.isEnded

def outcome (pool : Pool) : Except Fault FailureReport :=
  match pool.first with
  | some f => .error f
  | none => .ok pool.report

def go (stop : Bool) (pool : Pool) (o : Outside) (i : Nat) : Pool × Outside :=
  match pool.tasks[i]? with
  | none => (pool, o)
  | some task =>
    let stretch := task.walk stop pool.report o
    ({ pool with
        tasks := pool.tasks.set i stretch.task
        report := stretch.report
        first := pool.first.or stretch.fault }, stretch.outside)

/-- Lets in the next task, unless `limit` of them are under way. -/
def letIn (limit : Int) (pool : Pool) : Pool :=
  if (pool.tasks.take pool.begun).countP (fun task => !task.isEnded) < limit then
    { pool with begun := pool.begun + 1 }
  else pool

/-- Only a task that was let in can go on. -/
def follow (limit : Int) (pool : Pool) (o : Outside) : Choice → Pool × Outside
  | .go i => if i < pool.begun then pool.go true o i else (pool, o)
  | .letIn => (pool.letIn limit, o)
  | .leave => (pool, o)

/-- Every task goes on to its end, one after the other. -/
def finish (pool : Pool) (o : Outside) : Pool × Outside :=
  (List.range pool.tasks.length).foldl (fun s i => s.1.go false s.2 i) (pool, o)

/-- The tasks take turns as they are told to. After a fault the others may be left to themselves; what
they do then is nobody's. -/
def run (limit : Int) : List Choice → Pool → Outside → Except Fault FailureReport × Outside
  | [], pool, o =>
    let (pool, o) := pool.finish o
    (pool.outcome, { o with schedule := [] })
  | choice :: choices, pool, o =>
    if pool.isOver then (pool.outcome, { o with schedule := choice :: choices })
    else
      match choice, pool.first with
      | .leave, some f => (.error f, { o with schedule := choices })
      | choice, _ =>
        let (pool, o) := pool.follow limit o choice
        run limit choices pool o

end Pool

end KubeletCollector.Cycle
