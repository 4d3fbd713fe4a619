import KubeletCollector.Agent.Basic
import KubeletCollector.Proofs.Directories
import KubeletCollector.Proofs.Ending

/-! Cycles as an agent runs them, one after another. A cycle goes one of three ways: its
download is finished and goes into the state, whatever the hook then does; it fails with what
the collector reports, or it crashes. Between two turns the outside and the hook may change. -/

namespace KubeletCollector

open Act

/-- One step of an agent among others, with the hook that it meets. -/
structure Turn where
  hook : Option BaselineHook
  before : Outside
  after : Outside
  old : CollectionState
  new : CollectionState

/-- Turns in which an agent does `step`, and the state after them. A fault leaves the state. -/
inductive Agent.Repeats (step : Agent → Act CollectionState) (agent : Agent) :
    List Turn → CollectionState → Prop
  | start : Repeats step agent [] agent.state
  | turn {turns : List Turn} {state : CollectionState} (hook : Option BaselineHook)
      {before after : Outside} {result : Except Fault CollectionState} :
      Repeats step agent turns state →
      (step { agent with state, hook }).outcome before = (result, after) →
      Repeats step agent (turns ++ [⟨hook, before, after, state, result.toOption.getD state⟩])
        (result.toOption.getD state)

namespace Cycle

def finish (hook : Option BaselineHook) (dir : Path) (report : FailureReport) : Act Outcome :=
  logReport report >>= fun _ =>
    match hook with
    | none => pure { report }
    | some hook => callHook hook dir >>= fun hookFault => pure { report, hookFault }

theorem retrieve_eq (plan : Plan) (backoff : Backoff) (hook : Option BaselineHook) :
    retrieve plan backoff hook = collect plan backoff >>= finish hook plan.dir := by
  rfl

theorem keeps_logReport {start : Outside} {E : Fault → Prop} (report : FailureReport) :
    Keeps (Within Scope.idle start) (fun _ => True) E (logReport report) := by
  unfold logReport
  split
  · exact Keeps.bind (keeps_log _ _ _ _) fun _ _ => Keeps.forM _ fun _ _ => keeps_log _ _ _ _
  · exact Keeps.forM _ fun _ _ => keeps_log _ _ _ _

theorem keeps_callHook {start : Outside} {E : Fault → Prop} (hook : BaselineHook) (dir : Path) :
    Keeps (Within Scope.idle start) (fun f => f = hook.fault) E (callHook hook dir) := by
  refine Keeps.bind (V := fun _ => True) (fun o h => ⟨h, trivial⟩) fun o _ => ?_
  exact Keeps.bind (keeps_note rfl rfl) fun _ _ => Keeps.pure rfl

/-- A download that is finished stays finished, whatever the hook does. -/
theorem keeps_finish {start : Outside} {E : Fault → Prop} (hook : Option BaselineHook)
    (dir : Path) (report : FailureReport) :
    Keeps (Within Scope.idle start)
      (fun outcome => outcome = ⟨report, hook.bind BaselineHook.fault⟩) E
      (finish hook dir report) := by
  refine Keeps.bind (keeps_logReport report) fun _ _ => ?_
  cases hook with
  | none => exact Keeps.pure rfl
  | some hook =>
    refine Keeps.bind (keeps_callHook hook dir) fun f hf => Keeps.pure ?_
    rw [hf]
    rfl

end Cycle

namespace Agent

def download (agent : Agent) (session : Session) (time : Instant) : Act FailureReport :=
  let dir := sampleDir agent.settings time
  Act.makeDirectories dir >>= fun _ =>
    Cycle.collect (.ofSettings agent.settings session dir) agent.backoff

/-- A download makes its directory, and then is a cycle's collection. -/
theorem outcome_download (agent : Agent) (session : Session) (time : Instant) (o : Outside) :
    ∃ made files, Made (sampleDir agent.settings time) made o.files files ∧
      (Act.makeDirectories (sampleDir agent.settings time)).outcome o =
        (made, { o with files }) ∧
      (agent.download session time).outcome o =
        match made with
        | .error f => (.error f, { o with files })
        | .ok () => (Cycle.collect
            (.ofSettings agent.settings session (sampleDir agent.settings time))
            agent.backoff).outcome { o with files } := by
  obtain ⟨made, files, hout, hmade⟩ := makeDirectories_makes (sampleDir agent.settings time) o
  refine ⟨made, files, hmade, hout, ?_⟩
  unfold download
  rw [outcome_bind, hout]
  cases made <;> simp only

def finished (agent : Agent) (report : FailureReport) (time : Instant) : CollectionState :=
  { agent.state.recordReport report time with
    lastError := (agent.hook.bind BaselineHook.fault).elim "" Cycle.baselineText }

inductive Cycled (agent : Agent) (session : Session) (o : Outside) :
    Except Fault CollectionState → Outside → Prop
  | finished {report : FailureReport} {done o' : Outside} :
      (agent.download session o.now).outcome o = (.ok report, done) →
      Within Scope.idle done o' → Cycled agent session o (.ok (agent.finished report o'.now)) o'
  | failed {f : Fault} {done o' : Outside} :
      (agent.download session o.now).outcome o = (.error f, done) → Cycle.isReported f = true →
      Within Scope.idle done o' →
      Cycled agent session o (.ok { agent.state with lastError := f.message }) o'
  | crashed {f : Fault} {done : Outside} :
      (agent.download session o.now).outcome o = (.error f, done) → Cycle.isReported f = false →
      Cycled agent session o (.error f) done

/-- However a cycle goes, it keeps the session, and is a download and what asks and writes nothing. -/
theorem Cycled.download {agent : Agent} {session : Session} {o o' : Outside}
    {result : Except Fault CollectionState} (h : agent.Cycled session o result o') :
    (result.toOption.getD agent.state).session = agent.state.session ∧ ∃ report done,
      (agent.download session o.now).outcome o = (report, done) ∧ Within Scope.idle done o' := by
  cases h with
  | finished hd hidle => exact ⟨rfl, _, _, hd, hidle⟩
  | failed hd _ hidle => exact ⟨rfl, _, _, hd, hidle⟩
  | crashed hd _ => exact ⟨rfl, _, _, hd, Within.refl _ _⟩

theorem collectInto_eq (agent : Agent) (session : Session) (time : Instant) :
    agent.collectInto session (sampleDir agent.settings time) =
      agent.download session time >>=
        Cycle.finish agent.hook (sampleDir agent.settings time) := by
  unfold collectInto download
  simp only [bind_assoc, Cycle.retrieve_eq, Cycle.Plan.ofSettings]

variable {agent : Agent} {session : Session} {o done : Outside}

theorem collectInto_finished {report : FailureReport} {time : Instant}
    (h : (agent.download session time).outcome o = (.ok report, done)) :
    ∃ o', (agent.collectInto session (sampleDir agent.settings time)).outcome o =
        (.ok ⟨report, agent.hook.bind BaselineHook.fault⟩, o') ∧ Within Scope.idle done o' := by
  have hfinish : Keeps (Within Scope.idle done)
      (fun outcome => outcome = ⟨report, agent.hook.bind BaselineHook.fault⟩) (fun _ => False)
      (Cycle.finish agent.hook (sampleDir agent.settings time) report) :=
    Cycle.keeps_finish agent.hook _ report
  obtain ⟨_, o', hout, rfl, hidle⟩ := hfinish.returns (Within.refl _ done)
  rw [collectInto_eq, outcome_bind, h]
  exact ⟨o', hout, hidle⟩

theorem collectInto_broken {f : Fault} {time : Instant}
    (h : (agent.download session time).outcome o = (.error f, done)) :
    (agent.collectInto session (sampleDir agent.settings time)).outcome o = (.error f, done) := by
  rw [collectInto_eq, outcome_bind, h]

theorem logged_idle {o : Outside} (h : Within Scope.idle done o) (log : List LogRecord) :
    Within Scope.idle done { o with log } :=
  ⟨h.news, h.files, h.directories, h.marks, h.platform⟩

theorem cycled_of_runCycle {result : Except Fault CollectionState} {o' : Outside}
    (hs : agent.state.session.filter Session.retrieveSummaries = some session)
    (h : agent.runCycle.outcome o = (result, o')) : agent.Cycled session o result o' := by
  suffices agent.Cycled session o (agent.runCycle.outcome o).1 (agent.runCycle.outcome o).2 by
    rwa [h] at this
  unfold runCycle
  simp only [hs, outcome_bind, outcome_now, outcome_attempt]
  rcases hd : (agent.download session o.now).outcome o with ⟨f | report, done⟩
  · simp only [collectInto_broken hd]
    by_cases hf : Cycle.isReported f = true
    · simp only [hf, Bool.not_true, Bool.false_eq_true, ↓reduceIte, outcome_bind, outcome_log]
      exact Cycled.failed hd hf (logged_idle (Within.refl _ done) _)
    · rw [Bool.not_eq_true] at hf
      simp only [hf, Bool.not_false, ↓reduceIte]
      exact Cycled.crashed hd hf
  · obtain ⟨o', hout, hidle⟩ := collectInto_finished hd
    simp only [hout]
    have hdone (log : List LogRecord) := Cycled.finished hd (logged_idle hidle log)
    cases hf : agent.hook.bind BaselineHook.fault with
    | none =>
      simp only [finished, hf, Option.elim] at hdone
      exact hdone _
    | some f =>
      simp only [finished, hf, Option.elim] at hdone
      exact hdone _

end Agent

end KubeletCollector
