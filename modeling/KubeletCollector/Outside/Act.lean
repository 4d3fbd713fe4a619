import KubeletCollector.Outside.Basic

/-!
Actions. An action changes the outside step by step and ends in a value or in a fault; what was done
before a fault stays done. Where it waits for the outside, other actions may go on. `attempt` hands a
fault over as a value, so that one can decide what becomes of it.
-/

namespace KubeletCollector

open Text

inductive Act (α : Type) : Type where
  | done (a : α)
  | fail (f : Fault)
  /-- What comes next depends on the outside as it was before the step. -/
  | step (move : Outside → Outside) (next : Outside → Act α)
  | ask (request : Request) (next : Reply → Act α)
  | wait (rest : Act α)

namespace Outside

def reply (o : Outside) (r : Request) : Reply :=
  ((o.routes r.side).take r.line).1

def afterRequest (o : Outside) (r : Request) : Outside :=
  ({ o with trace := o.trace ++ [Event.requested r] } : Outside).setRoutes r.side
    ((o.routes r.side).take r.line).2

end Outside

namespace Act

variable {α β : Type}

def andThen : Act α → (α → Act β) → Act β
  | done a, next => next a
  | fail f, _ => fail f
  | step move rest, next => step move fun o => (rest o).andThen next
  | ask r rest, next => ask r fun reply => (rest reply).andThen next
  | wait rest, next => wait (rest.andThen next)

instance : Monad Act where
  pure := done
  bind := andThen

instance : MonadStateOf Outside Act where
  get := step id done
  set o := step (fun _ => o) fun _ => done ()
  modifyGet f := step (fun o => (f o).2) fun o => done (f o).1

def attempt : Act α → Act (Except Fault α)
  | done a => done (.ok a)
  | fail f => done (.error f)
  | step move rest => step move fun o => (rest o).attempt
  | ask r rest => ask r fun reply => (rest reply).attempt
  | wait rest => wait rest.attempt

instance : MonadExceptOf Fault Act where
  throw := fail
  tryCatch act handle := act.attempt.andThen fun
    | .ok a => done a
    | .error f => handle f

def ofExcept : Except Fault α → Act α
  | .ok a => done a
  | .error f => fail f

/-- What is done in one step, fault or not. -/
def atomic (run : Outside → Except Fault α × Outside) : Act α :=
  step (fun o => (run o).2) fun o => ofExcept (run o).1

def await : Act Unit :=
  wait (done ())

/-- The outcome of an action that nothing else interferes with, and the outside after it. -/
def outcome : Act α → Outside → Except Fault α × Outside
  | done a, o => (.ok a, o)
  | fail f, o => (.error f, o)
  | step move rest, o => (rest o).outcome (move o)
  | ask r rest, o => (rest (o.reply r)).outcome (o.afterRequest r)
  | wait rest, o => rest.outcome o

/-- A stretch of an action, to its end or, if it is to stop there, to where it next waits: what is left
of it, and the outside. -/
def walk (stop : Bool) : Act α → Outside → Act α × Outside
  | done a, o => (done a, o)
  | fail f, o => (fail f, o)
  | step move rest, o => (rest o).walk stop (move o)
  | ask r rest, o => (rest (o.reply r)).walk stop (o.afterRequest r)
  | wait rest, o => if stop then (rest, o) else rest.walk stop o

@[simp] theorem outcome_pure (a : α) (o : Outside) :
    outcome (pure a) o = (.ok a, o) := rfl

@[simp] theorem outcome_throw (f : Fault) (o : Outside) :
    outcome (throw f : Act α) o = (.error f, o) := rfl

theorem outcome_bind (act : Act α) (next : α → Act β) (o : Outside) :
    outcome (act >>= next) o =
      match outcome act o with
      | (.ok a, o) => outcome (next a) o
      | (.error f, o) => (.error f, o) := by
  show outcome (act.andThen next) o = _
  induction act generalizing o with
  | done a => rfl
  | fail f => rfl
  | step move rest ih => exact ih o (move o)
  | ask r rest ih => exact ih (o.reply r) (o.afterRequest r)
  | wait rest ih => exact ih o

@[simp] theorem outcome_attempt (act : Act α) (o : Outside) :
    outcome (attempt act) o = (.ok (outcome act o).1, (outcome act o).2) := by
  induction act generalizing o with
  | done a => rfl
  | fail f => rfl
  | step move rest ih => exact ih o (move o)
  | ask r rest ih => exact ih (o.reply r) (o.afterRequest r)
  | wait rest ih => exact ih o

@[simp] theorem outcome_atomic (run : Outside → Except Fault α × Outside) (o : Outside) :
    outcome (atomic run) o = run o := by
  show outcome (ofExcept (run o).1) (run o).2 = run o
  rcases run o with ⟨f | a, o'⟩ <;> rfl

@[simp] theorem outcome_await (o : Outside) : outcome await o = (.ok (), o) := rfl

@[simp] theorem outcome_get (o : Outside) : outcome get o = (.ok o, o) := rfl

@[simp] theorem outcome_modify (f : Outside → Outside) (o : Outside) :
    outcome (modify f) o = (.ok (), f o) := rfl

theorem andThen_assoc {γ : Type} (act : Act α) (next : α → Act β) (last : β → Act γ) :
    (act.andThen next).andThen last = act.andThen fun a => (next a).andThen last := by
  induction act with
  | done a => rfl
  | fail f => rfl
  | step move rest ih => exact congrArg (step move) (funext ih)
  | ask r rest ih => exact congrArg (ask r) (funext ih)
  | wait rest ih => exact congrArg wait ih

theorem andThen_done (act : Act α) : act.andThen done = act := by
  induction act with
  | done a => rfl
  | fail f => rfl
  | step move rest ih => exact congrArg (step move) (funext ih)
  | ask r rest ih => exact congrArg (ask r) (funext ih)
  | wait rest ih => exact congrArg wait ih

instance : LawfulMonad Act :=
  LawfulMonad.mk' Act andThen_done (fun _ _ => rfl) andThen_assoc

def note (event : Event) : Act Unit :=
  modify fun o => { o with trace := o.trace ++ [event] }

def log (level : LogLevel) (component event : String) (fields : List (String × LogValue)) :
    Act Unit :=
  modify fun o => { o with log := o.log ++ [⟨level, component, event, fields⟩] }

def raiseIf (fault : Option Fault) : Act Unit :=
  match fault with
  | some f => throw f
  | none => return ()

def now : Act Instant :=
  return (← get).now

def fraction : Act Float := do
  match (← get).fractions with
  | [] => return 0.0
  | r :: rest =>
    modify fun o => { o with fractions := rest ++ [r] }
    return r

def askForNodes : Act (List (Option NodeObject)) := do
  note .listed
  match nextOf (← get).listings with
  | none => return []
  | some (listing, rest) =>
    modify fun o => { o with listings := rest }
    match listing with
    | .nodes entries => return entries
    | .fault f => throw f

def exchange (request : Request) : Act Reply := do
  await
  let reply ← ask request done
  await
  return reply

def close (component : Component) : Act Unit := do
  note (.closed component)
  raiseIf ((← get).platform.closeFault component)

end Act

end KubeletCollector
