import KubeletCollector.Proofs.Alongside
import KubeletCollector.Proofs.Rounds

/-! What a baseline hook can do to a cycle. It is called last, on a download that is finished, and
what it is called on stays. So runs with different hooks, or with none, differ in the call, in
what they log and in the last error. -/

namespace KubeletCollector

open Text Act

def FileTree.under (files : FileTree) (dir : Path) : List (Location × Entry) :=
  match files.locate dir with
  | .ok loc => files.below loc
  | .error _ => []

namespace Cycle

def hookCall (hook : Option BaselineHook) (dir : Path) (files : FileTree) : List Event :=
  if hook.isSome then [.hooked dir (files.under dir)] else []

theorem onlyLogs_logReport (report : FailureReport) : (logReport report).OnlyLogs () := by
  have hfallbacks : OnlyLogs (report.fallbacks.forM fun (entry : Option String × Fault) =>
      Act.log .info "collector.summaries" "node_recovered_via_proxy"
        [("node", .ofText? entry.1), ("direct_error", .text entry.2.message)]) () :=
    OnlyLogs.forM _ fun _ => OnlyLogs.log _ _ _ _
  unfold logReport
  split
  · exact OnlyLogs.bind (OnlyLogs.log _ _ _ _) hfallbacks
  · exact hfallbacks

/-- Nothing follows on a finished download but logging and the call of the hook. -/
theorem outcome_finish (hook : Option BaselineHook) (dir : Path) (report : FailureReport)
    (o : Outside) : ∃ log, (finish hook dir report).outcome o =
      (.ok ⟨report, hook.bind BaselineHook.fault⟩,
        { o with trace := o.trace ++ hookCall hook dir o.files, log }) := by
  obtain ⟨log, hlog⟩ := onlyLogs_logReport report o
  refine ⟨log, ?_⟩
  unfold finish
  rw [outcome_bind, hlog]
  cases hook with
  | none => simp [hookCall]
  | some hook => rfl

end Cycle

namespace Agent

variable {agent : Agent} {session : Session} {o : Outside}

/-- What comes of a cycle is settled once its download is over. -/
theorem outcome_runCycle (agent : Agent)
    (hs : agent.state.session.filter Session.retrieveSummaries = some session) :
    ∃ log, agent.runCycle.outcome o =
      match (agent.download session o.now).outcome o with
      | (.ok report, o₁) => (.ok (agent.finished report o₁.now),
          { o₁ with
            trace := o₁.trace ++
              Cycle.hookCall agent.hook (sampleDir agent.settings o.now) o₁.files
            log })
      | (.error f, o₁) =>
        (if Cycle.isReported f then .ok { agent.state with lastError := f.message } else .error f,
          { o₁ with log }) := by
  unfold runCycle
  simp only [hs, outcome_bind, outcome_now, outcome_attempt]
  rcases hd : (agent.download session o.now).outcome o with ⟨f | report, done⟩
  · simp only [collectInto_broken hd]
    by_cases hf : Cycle.isReported f = true
    · simp only [hf, Bool.not_true, Bool.false_eq_true, ↓reduceIte, outcome_bind, outcome_log]
      exact ⟨_, rfl⟩
    · rw [Bool.not_eq_true] at hf
      simp only [hf, Bool.not_false, ↓reduceIte]
      exact ⟨done.log, rfl⟩
  · obtain ⟨log, hfinish⟩ :=
      Cycle.outcome_finish agent.hook (sampleDir agent.settings o.now) report done
    rw [collectInto_eq, outcome_bind, hd]
    simp only [hfinish]
    cases hf : agent.hook.bind BaselineHook.fault with
    | none =>
      simp only [finished, hf]
      exact ⟨_, rfl⟩
    | some f =>
      simp only [finished, hf]
      exact ⟨_, rfl⟩

/-- A download calls no hook. -/
theorem hookings_download (agent : Agent) (session : Session) (time : Instant) (o : Outside) :
    hookings ((agent.download session time).outcome o).2.trace = hookings o.trace := by
  have hself : Alongside o o o o := Alongside.start (o.pads_recorded o.trace o.log)
  obtain ⟨-, ⟨-, events, hnews, -, hnone⟩, -⟩ := Alongside.download agent session time o o hself
  rw [hnews, hookings_append, hnone, List.append_nil]

/-- What a download reports of itself is about its directory or about its listing. -/
theorem reported_of_download {f : Fault} {done : Outside} {time : Instant}
    (h : (agent.download session time).outcome o = (.error f, done))
    (hf : Cycle.isReported f = true) :
    (∃ cause path, f = .file cause path) ∨ ∃ g, f = .listing g := by
  obtain ⟨made, files, hmade, -, hdownload⟩ := agent.outcome_download session time o
  rw [h] at hdownload
  cases made with
  | error g =>
    cases hdownload
    rcases hmade.fault f rfl with rfl | hfile
    · cases hf
    · exact Or.inl hfile
  | ok u =>
    let plan := Cycle.Plan.ofSettings agent.settings session (sampleDir agent.settings time)
    have hcovers (n : NodeInfo) (_ : n ∈ Directory.readyAt agent.backoff { o with files }) :=
      Covers.unreported { o with files } plan.session (plan.job n) n
    have hcollect : (Cycle.collect plan agent.backoff).outcome { o with files } =
        (.error f, done) := hdownload.symm
    rcases Cycle.collect_within hcovers with ⟨g, o', -, hlost, -⟩ |
      ⟨o₁, result, o', -, hran, -, hbad⟩
    · rw [hcollect] at hlost
      cases hlost
      exact Or.inr ⟨g, rfl⟩
    · rw [hcollect] at hran
      cases hran
      cases (hbad f rfl).symm.trans hf

end Agent

section Texts

theorem head_append {s : String} (h : s ≠ "") (t : String) :
    (s ++ t).toList.head? = s.toList.head? := by
  have hne : s.toList ≠ [] := by simpa using h
  rw [String.toList_append, List.head?_append_of_ne_nil _ hne]

theorem Fault.message_ne_baselineText {f : Fault}
    (h : (∃ cause path, f = .file cause path) ∨ ∃ g, f = .listing g) (g : Fault) :
    f.message ≠ Cycle.baselineText g := by
  have hblame : (Cycle.baselineText g).toList.head? = some 'e' := head_append (by decide) _
  have hfile (cause : FileError) (path : Path) :
      ("[Errno " ++ toString cause.number ++ "] " ++ cause.text ++ ": " ++
        quoted path.text).toList.head? = some '[' := by
    simp only [String.append_assoc]
    exact head_append (by decide) _
  have hlisting (cause : Fault) :
      ("unable to get a list of nodes: " ++ cause.message).toList.head? = some 'u' :=
    head_append (by decide) _
  intro he
  rcases h with ⟨cause, path, hf⟩ | ⟨cause, hf⟩
  · rw [← he, hf] at hblame
    cases (hfile cause path).symm.trans hblame
  · rw [← he, hf] at hblame
    cases (hlisting cause).symm.trans hblame

end Texts

/-- An outside as it would be without hooks: no call of one is on record, and no log is kept. -/
def Outside.unhooked (o : Outside) : Outside :=
  { o with trace := o.trace.filter fun event => event.hooked?.isNone, log := [] }

theorem Outside.files_unhooked {o a : Outside} (h : a.unhooked = o.unhooked) :
    a.files = o.files := by
  have hfiles : a.unhooked.files = o.unhooked.files := by rw [h]
  exact hfiles

def CollectionState.unblamed (state : CollectionState) : CollectionState :=
  { state with lastError := "" }

namespace Agent

variable {agent : Agent} {session : Session} {o : Outside}

def finishes (agent : Agent) (session : Session) (o : Outside) : Bool :=
  ((agent.download session o.now).outcome o).1.isOk

/-- What a hook has to do with a cycle that ended in `result` and left `o'`. -/
structure Hooked (agent : Agent) (session : Session) (o : Outside)
    (result : Except Fault CollectionState) (o' : Outside) : Prop where
  /-- After a finished download nothing is done but to call the hook on what is there. -/
  last : ∀ report done, (agent.download session o.now).outcome o = (.ok report, done) →
    result = .ok (agent.finished report done.now) ∧ o'.files = done.files ∧
      o'.trace = done.trace ++ Cycle.hookCall agent.hook (sampleDir agent.settings o.now) o'.files
  /-- Without a report the hook has no part in how the cycle ends. -/
  broken : ∀ f done, (agent.download session o.now).outcome o = (.error f, done) →
    result = (if Cycle.isReported f then .ok { agent.state with lastError := f.message }
      else .error f) ∧ o'.files = done.files ∧ o'.trace = done.trace
  once : hookings o'.trace = hookings o.trace ++
    if agent.finishes session o && agent.hook.isSome then
      [(sampleDir agent.settings o.now, o'.files.under (sampleDir agent.settings o.now))]
    else []
  /-- The hook is blamed exactly if it was called and failed. -/
  blamed : (∃ state f, result = .ok state ∧ state.lastError = Cycle.baselineText f) ↔
    agent.finishes session o = true ∧ ∃ hook f, agent.hook = some hook ∧ hook.fault = some f

theorem hookings_hookCall (hook : Option BaselineHook) (dir : Path) (files : FileTree) :
    hookings (Cycle.hookCall hook dir files) =
      if hook.isSome then [(dir, files.under dir)] else [] := by
  cases hook <;> rfl

theorem filter_hookCall (hook : Option BaselineHook) (dir : Path) (files : FileTree) :
    (Cycle.hookCall hook dir files).filter (fun event => event.hooked?.isNone) = [] := by
  cases hook <;> rfl

theorem runCycle_hooked (agent : Agent)
    (hs : agent.state.session.filter Session.retrieveSummaries = some session) (o : Outside) :
    agent.Hooked session o (agent.runCycle.outcome o).1 (agent.runCycle.outcome o).2 := by
  obtain ⟨log, hrun⟩ := outcome_runCycle (o := o) agent hs
  have hnone := hookings_download agent session o.now o
  rw [hrun]
  rcases hd : (agent.download session o.now).outcome o with ⟨f | report, done⟩ <;>
    rw [hd] at hnone
  · have hbroken : agent.finishes session o = false := by
      unfold finishes
      rw [hd]
      rfl
    refine ⟨fun report done' h => ?_, fun g done' h => ?_, by simpa [hbroken] using hnone, ?_⟩
    · cases hd.symm.trans h
    · cases hd.symm.trans h
      exact ⟨rfl, rfl, rfl⟩
    · simp only [hbroken, Bool.false_eq_true, false_and, iff_false]
      rintro ⟨state, g, hresult, hblame⟩
      by_cases hf : Cycle.isReported f = true
      · rw [if_pos hf] at hresult
        cases hresult
        exact Fault.message_ne_baselineText (reported_of_download hd hf) g hblame
      · rw [if_neg hf] at hresult
        cases hresult
  · have hfinished : agent.finishes session o = true := by
      unfold finishes
      rw [hd]
      rfl
    refine ⟨fun report' done' h => ?_, fun f done' h => ?_, ?_, ?_⟩
    · cases hd.symm.trans h
      exact ⟨rfl, rfl, rfl⟩
    · cases hd.symm.trans h
    · simp only [hookings_append, hookings_hookCall, hnone, hfinished, Bool.true_and]
    · simp only [hfinished, true_and]
      constructor
      · rintro ⟨state, f, hresult, hblame⟩
        cases hresult
        unfold finished at hblame
        cases hh : agent.hook with
        | none =>
          rw [hh] at hblame
          exact absurd hblame.symm (Cycle.baselineText_ne_empty f)
        | some hook =>
          cases hf : hook.fault with
          | none =>
            rw [hh, Option.bind_some, hf] at hblame
            exact absurd hblame.symm (Cycle.baselineText_ne_empty f)
          | some g => exact ⟨hook, g, rfl, hf⟩
      · rintro ⟨hook, f, hh, hf⟩
        refine ⟨_, f, rfl, ?_⟩
        unfold finished
        rw [hh, Option.bind_some, hf]
        rfl

/-- The hook does not show in a download. -/
theorem download_hook (agent : Agent) (hook : Option BaselineHook) (session : Session)
    (time : Instant) :
    ({ agent with hook } : Agent).download session time = agent.download session time := by
  rfl

/-- What a cycle would be without a hook is a matter of its download. -/
theorem runCycle_unhooked (agent : Agent)
    (hs : agent.state.session.filter Session.retrieveSummaries = some session) (o : Outside) :
    (agent.runCycle.outcome o).1.map CollectionState.unblamed =
        (match (agent.download session o.now).outcome o with
        | (.ok report, o₁) => .ok (agent.state.recordReport report o₁.now).unblamed
        | (.error f, _) => if Cycle.isReported f then .ok agent.state.unblamed else .error f) ∧
      (agent.runCycle.outcome o).2.unhooked =
        ((agent.download session o.now).outcome o).2.unhooked := by
  obtain ⟨log, hrun⟩ := outcome_runCycle (o := o) agent hs
  rw [hrun]
  rcases (agent.download session o.now).outcome o with ⟨f | report, done⟩
  · refine ⟨?_, rfl⟩
    by_cases hf : Cycle.isReported f = true
    · simp only [hf, ↓reduceIte]
      rfl
    · simp only [hf, Bool.false_eq_true, ↓reduceIte]
      rfl
  · refine ⟨rfl, ?_⟩
    unfold Outside.unhooked
    simp only [List.filter_append, filter_hookCall, List.append_nil]

/-- A cycle does the same whatever hook there is, and if there is none: apart from the last error,
from the log and from the call itself nothing can be told apart. The hook is called once and
last, on the directory of the cycle, exactly if the download returns a report, and it is
blamed exactly if it is called and fails. -/
theorem hook_alters_nothing (agent : Agent) {session : Session}
    (hs : agent.state.session = some session) (hr : session.retrieveSummaries = true)
    (o : Outside) :
    let ran (hook : Option BaselineHook) := ({ agent with hook } : Agent).runCycle.outcome o
    (∀ hook hook', (ran hook').1.map CollectionState.unblamed =
          (ran hook).1.map CollectionState.unblamed ∧
        (ran hook').2.unhooked = (ran hook).2.unhooked) ∧
      ∀ hook, ({ agent with hook } : Agent).Hooked session o (ran hook).1 (ran hook).2 := by
  intro ran
  have hcollects : agent.state.session.filter Session.retrieveSummaries = some session := by
    simp [hs, Option.filter, hr]
  refine ⟨fun hook hook' => ?_, fun hook => runCycle_hooked { agent with hook } hcollects o⟩
  obtain ⟨hresult, hleft⟩ := runCycle_unhooked { agent with hook } hcollects o
  obtain ⟨hresult', hleft'⟩ := runCycle_unhooked { agent with hook := hook' } hcollects o
  simp only [download_hook] at hresult hleft hresult' hleft'
  exact ⟨hresult'.trans hresult.symm, hleft'.trans hleft.symm⟩

end Agent

/-! A hook that fails after a cycle over two nodes. -/

namespace Sample

def failing : BaselineHook where
  fault := some (.foreign "ValueError" "no baseline")

def blaming : Agent :=
  { agent with hook := some failing }

theorem blaming_finishes : blaming.finishes session outside = true := by
  decide +kernel

/-- The hook is called on what a cycle without it leaves too, and is blamed, and that is all. -/
theorem failing_hook_alters_nothing :
    let ran (hook : Option BaselineHook) := ({ agent with hook } : Agent).runCycle.outcome outside
    (∃ state f, (ran (some failing)).1 = .ok state ∧
        state.lastError = Cycle.baselineText f) ∧
      hookings (ran (some failing)).2.trace = [(Agent.sampleDir settings outside.now,
        (ran none).2.files.under (Agent.sampleDir settings outside.now))] ∧
      (ran none).1.map CollectionState.unblamed =
        (ran (some failing)).1.map CollectionState.unblamed ∧
      (ran none).2.unhooked = (ran (some failing)).2.unhooked := by
  intro ran
  obtain ⟨hsame, hhooked⟩ := Agent.hook_alters_nothing agent rfl rfl outside
  obtain ⟨hresult, hleft⟩ := hsame (some failing) none
  have hfailing : blaming.Hooked session outside (ran (some failing)).1 (ran (some failing)).2 :=
    hhooked (some failing)
  have hfiles : (ran none).2.files = (ran (some failing)).2.files :=
    Outside.files_unhooked hleft
  refine ⟨hfailing.blamed.2 ⟨blaming_finishes, failing, _, rfl, rfl⟩, ?_, hresult, hleft⟩
  have honce := hfailing.once
  rw [blaming_finishes] at honce
  rw [hfiles]
  exact honce

end Sample

end KubeletCollector
