import KubeletCollector.Agent.Status
import KubeletCollector.Proofs.Hooks
import KubeletCollector.Proofs.Leftovers
import KubeletCollector.Proofs.Sessions

/-! What an agent knows of its own collecting, and what its status shows of that. How the nodes are
reached is settled once and stays. Where they are not reached nothing is ever collected, so
a state is one of three kinds, and of each kind all of it can be shown. -/

namespace KubeletCollector

open Act

inductive Standing where
  | unsettled
  | unreachable
  | collecting

/-- Nothing is recorded as collected, and no turn did anything. -/
structure Idle (turns : List Turn) (state : CollectionState) : Prop where
  cycles : state.cyclesCompleted = 0
  report : state.lastReport = none
  time : state.lastCycleAt = none
  still : ∀ turn ∈ turns, turn.after = turn.before

/-- The state after some turns stands in one of the ways. -/
inductive Standing.Holds (turns : List Turn) (state : CollectionState) : Standing → Prop
  | unsettled : state.session = none → Idle turns state → Holds turns state .unsettled
  | unreachable {session : Session} : state.session = some session →
      session.mode = .unreachable → session.retrieveSummaries = false →
      session.nodeClient = none → session.clusterClient = none → state.probeError ≠ "" →
      Idle turns state → Holds turns state .unreachable
  | collecting {session : Session} : state.session = some session →
      (session.mode = .proxy ∧ session.nodeClient = none ∧ session.clusterClient.isSome ∨
        session.mode = .direct ∧ session.nodeClient.isSome ∧ session.clusterClient.isSome) →
      state.isEnabled = true → state.probeError = "" → Holds turns state .collecting

/-- The ways exclude each other. -/
theorem Standing.Holds.unique {turns : List Turn} {state : CollectionState}
    {standing other : Standing} (h : standing.Holds turns state) (h' : other.Holds turns state) :
    other = standing := by
  cases h with
  | unsettled hs hidle =>
    cases h' with
    | unsettled => rfl
    | unreachable hs' => cases hs.symm.trans hs'
    | collecting hs' => cases hs.symm.trans hs'
  | unreachable hs hm =>
    cases h' with
    | unsettled hs' => cases hs.symm.trans hs'
    | unreachable => rfl
    | collecting hs' hclients =>
      obtain rfl := Option.some.inj (hs.symm.trans hs')
      rcases hclients with ⟨hm', -⟩ | ⟨hm', -⟩ <;> cases hm.symm.trans hm'
  | collecting hs hclients =>
    cases h' with
    | unsettled hs' => cases hs.symm.trans hs'
    | unreachable hs' hm =>
      obtain rfl := Option.some.inj (hs.symm.trans hs')
      rcases hclients with ⟨hm', -⟩ | ⟨hm', -⟩ <;> cases hm.symm.trans hm'
    | collecting => rfl

namespace Agent

variable {agent : Agent} {o : Outside} {turns : List Turn} {state : CollectionState}
  {standing : Standing}

/-- Probing leaves the state alone, or it settles it by a choice. -/
theorem probed_state (agent : Agent) (o : Outside) :
    (agent.probe.outcome o).1.toOption.getD agent.state = agent.state ∨
      ∃ nodeClient clusterClient chosen o₁,
        (Source.choose agent.settings agent.backoff nodeClient clusterClient).outcome o =
          (chosen, o₁) ∧ (agent.probe.outcome o).1 = agent.state.settled chosen := by
  cases hn : agent.nodeClient with
  | none =>
    refine Or.inl ?_
    unfold probe
    rw [hn]
    rfl
  | some nodeClient =>
    cases hc : agent.clusterClient with
    | none =>
      refine Or.inl ?_
      unfold probe
      rw [hn, hc]
      rfl
    | some clusterClient =>
      cases hr : agent.settings.collection.retrieveSummaries with
      | false =>
        refine Or.inl ?_
        unfold probe
        simp only [hn, hc, hr]
        rfl
      | true =>
        obtain ⟨log, hprobe⟩ := outcome_probe hn hc hr rfl (o := o)
        exact Or.inr ⟨nodeClient, clusterClient, _, _, rfl, congrArg Prod.fst hprobe⟩

/-- A fresh agent that has probed has no session, or one that is made for the first ready node. -/
theorem probed_fresh (ha : agent.state = {}) (o : Outside) :
    let state := (agent.probe.outcome o).1.toOption.getD agent.state
    (∃ probeError, state = { probeError }) ∨ ∃ nodeClient clusterClient first source,
      (Directory.readyAt agent.backoff o).head? = some first ∧
        Source.Made nodeClient clusterClient first.name source ∧
          CollectionState.settled {} (.ok source) = .ok state := by
  rcases agent.probed_state o with hsame | ⟨nodeClient, clusterClient, chosen, o₁, hchosen, hprobe⟩
  · exact Or.inl ⟨"", hsame.trans ha⟩
  · rw [hprobe, ha]
    rcases chosen with f | source
    · refine Or.inl ?_
      simp only [CollectionState.settled]
      split
      · exact ⟨_, rfl⟩
      · exact ⟨"", rfl⟩
    · obtain ⟨first, hfirst, hmade⟩ := Source.choose_made hchosen
      refine Or.inr ⟨nodeClient, clusterClient, first, source, hfirst, hmade, ?_⟩
      cases hmade <;> rfl

/-- A fresh agent that has probed stands in one of the ways. -/
theorem stands_probed (ha : agent.state = {}) (o : Outside) : ∃ standing : Standing,
    standing.Holds [] ((agent.probe.outcome o).1.toOption.getD agent.state) := by
  have hidle {state : CollectionState} (hc : state.cyclesCompleted = 0)
      (hr : state.lastReport = none) (ht : state.lastCycleAt = none) : Idle [] state :=
    ⟨hc, hr, ht, fun turn hmem => absurd hmem List.not_mem_nil⟩
  rcases probed_fresh ha o with ⟨probeError, hstate⟩ |
    ⟨nodeClient, clusterClient, first, source, -, hmade, hstate⟩
  · rw [hstate]
    exact ⟨_, Standing.Holds.unsettled rfl (hidle rfl rfl rfl)⟩
  · generalize (agent.probe.outcome o).1.toOption.getD agent.state = state at hstate
    cases hmade with
    | direct hm hn hc hr =>
      cases hstate
      refine ⟨_, Standing.Holds.collecting rfl (Or.inr ⟨hm, by simp [hn], by simp [hc]⟩) ?_ rfl⟩
      simpa [CollectionState.isEnabled] using hr
    | proxy hm hn hc hr =>
      cases hstate
      refine ⟨_, Standing.Holds.collecting rfl (Or.inl ⟨hm, hn, by simp [hc]⟩) ?_ rfl⟩
      simpa [CollectionState.isEnabled] using hr
    | unreachable hm hn hc hr =>
      cases hstate
      exact ⟨_, Standing.Holds.unreachable rfl hm hr hn hc (append_ne_empty (by decide))
        (hidle rfl rfl rfl)⟩

/-- Without a session to collect in, a cycle does nothing. -/
theorem runCycle_disabled (agent : Agent) (h : agent.state.isEnabled = false) (o : Outside) :
    agent.runCycle.outcome o = (.ok agent.state, o) := by
  have hnone : agent.state.session.filter Session.retrieveSummaries = none := by
    unfold CollectionState.isEnabled at h
    cases hs : agent.state.session <;> simp_all [Option.filter]
  unfold runCycle
  simp only [hnone]
  rfl

/-- What a cycle changes in a state is its record. -/
theorem runCycle_keeps (agent : Agent) (o : Outside) :
    let state := (agent.runCycle.outcome o).1.toOption.getD agent.state
    state.session = agent.state.session ∧ state.probeError = agent.state.probeError := by
  rcases hs : agent.state.session.filter Session.retrieveSummaries with _ | session
  · unfold runCycle
    simp only [hs]
    exact ⟨rfl, rfl⟩
  · obtain ⟨log, hrun⟩ := outcome_runCycle (o := o) agent hs
    rw [hrun]
    rcases (agent.download session o.now).outcome o with ⟨f | report, done⟩
    · dsimp only
      split
      · exact ⟨rfl, rfl⟩
      · exact ⟨rfl, rfl⟩
    · exact ⟨rfl, rfl⟩

/-- How the nodes are reached stays as it is from turn to turn. -/
theorem stands_turn (h : standing.Holds turns state) (hook : Option BaselineHook)
    {before after : Outside} {result : Except Fault CollectionState}
    (hrun : ({ agent with state, hook } : Agent).runCycle.outcome before = (result, after)) :
    standing.Holds (turns ++ [⟨hook, before, after, state, result.toOption.getD state⟩])
      (result.toOption.getD state) := by
  have hidle (hoff : state.isEnabled = false) (hidle : Idle turns state) :
      result = .ok state ∧
        Idle (turns ++ [⟨hook, before, after, state, result.toOption.getD state⟩]) state := by
    have hnothing := runCycle_disabled { agent with state, hook } hoff before
    rw [hrun] at hnothing
    obtain ⟨rfl, rfl⟩ := Prod.mk.inj hnothing
    refine ⟨rfl, hidle.cycles, hidle.report, hidle.time, fun turn hmem => ?_⟩
    rcases List.mem_append.1 hmem with hm | hm
    · exact hidle.still turn hm
    · rw [List.mem_singleton.1 hm]
  cases h with
  | unsettled hs hnothing =>
    obtain ⟨rfl, hstill⟩ := hidle (by simp [CollectionState.isEnabled, hs]) hnothing
    exact Standing.Holds.unsettled hs hstill
  | unreachable hs hm hr hn hc he hnothing =>
    obtain ⟨rfl, hstill⟩ := hidle (by simp [CollectionState.isEnabled, hs, hr]) hnothing
    exact Standing.Holds.unreachable hs hm hr hn hc he hstill
  | collecting hs hclients hr he =>
    obtain ⟨hsession, herror⟩ := runCycle_keeps { agent with state, hook } before
    rw [hrun] at hsession herror
    refine Standing.Holds.collecting (hsession.trans hs) hclients ?_ (herror.trans he)
    unfold CollectionState.isEnabled at hr ⊢
    exact hsession ▸ hr

/-- By induction on the turns. -/
theorem stands_repeats (h : agent.Repeats runCycle turns state)
    (hstart : standing.Holds [] agent.state) : standing.Holds turns state := by
  induction h with
  | start => exact hstart
  | turn hook _ hrun ih => exact stands_turn ih hook hrun

end Agent

/-! What is shown has names. -/

def NodeFaults.Named (faults : NodeFaults) : Prop :=
  ∀ entry ∈ faults, entry.1 ≠ none

namespace NodeFaults

variable {faults : NodeFaults} {node : Option String}

theorem Named.put (h : faults.Named) (hn : node ≠ none) (fault : Fault) :
    (faults.put node fault).Named := by
  induction faults with
  | nil =>
    intro entry hmem
    obtain rfl := List.mem_singleton.1 hmem
    exact hn
  | cons first faults ih =>
    have hrest : Named faults := fun entry hmem => h entry (List.mem_cons_of_mem _ hmem)
    unfold NodeFaults.put
    split
    · exact List.forall_mem_cons.2 ⟨hn, hrest⟩
    · exact List.forall_mem_cons.2 ⟨h first List.mem_cons_self, ih hrest⟩

theorem Named.drop (h : faults.Named) (node : Option String) : (faults.drop node).Named :=
  fun entry hmem => h entry (List.mem_of_mem_filter hmem)

end NodeFaults

structure FailureReport.Named (report : FailureReport) : Prop where
  failures : report.failures.Named
  fallbacks : report.fallbacks.Named

namespace Cycle

theorem named_recovered {report : FailureReport} {n : NodeInfo} (h : report.Named)
    (hn : n.name ≠ none) (direct : Option Fault) : (recovered n direct report).Named := by
  cases direct with
  | none => exact h
  | some f =>
    refine ⟨?_, h.fallbacks.put hn _⟩
    dsimp only [recovered]
    split
    · exact h.failures.put hn _
    · exact h.failures.drop _

theorem upholds_proxyTask {n : NodeInfo} (hn : n.name ≠ none) (session : Session) (job : Job)
    (direct : Option Fault) : (proxyTask session job n direct).Upholds FailureReport.Named := by
  refine Task.Upholds.stage (fun failed report h => ?_) fun _ => Task.Upholds.ended
  cases failed with
  | none => exact named_recovered h hn direct
  | some f => exact ⟨h.failures.put hn _, h.fallbacks⟩

/-- What the task of a node with a name enters is of a node with a name. -/
theorem Plan.upholds_task {n : NodeInfo} (hn : n.name ≠ none) (plan : Plan) :
    (plan.task n).Upholds FailureReport.Named := by
  refine Task.Upholds.stage (fun _ report h => ?_) fun direct => ?_
  · unfold warned
    split
    · exact ⟨h.failures.put hn _, h.fallbacks⟩
    · exact h
  · cases direct with
    | false => exact upholds_proxyTask hn _ _ none
    | true =>
      refine Task.Upholds.stage (fun failed report h => ?_) fun failed => ?_
      · cases failed with
        | none => exact h
        | some f => exact ⟨h.failures.put hn _, h.fallbacks⟩
      · cases failed with
        | none => exact Task.Upholds.ended
        | some f =>
          exact Task.Upholds.stage (fun _ _ h => h) fun _ => upholds_proxyTask hn _ _ (some f)

end Cycle

namespace Agent

variable {agent : Agent} {session : Session} {turn : Turn}

/-- The report of a turn is of nodes that it found ready. -/
theorem named_download {report : FailureReport} {done : Outside}
    (hn : ∀ n ∈ agent.readyIn turn, n.name ≠ none)
    (h : (agent.download session turn.before.now).outcome turn.before = (.ok report, done)) :
    report.Named := by
  obtain ⟨made, files, hmade, hmake, hdownload⟩ :=
    agent.outcome_download session turn.before.now turn.before
  rw [h] at hdownload
  cases made with
  | error f => cases hdownload
  | ok u =>
    rw [readyIn_eq hmake] at hn
    cases Cycle.ends_of_ok hdownload.symm with
    | unlisted _ _ hcollect => cases hdownload.trans hcollect
    | collected hl hmoves hlast hcollect =>
      cases hdownload.trans hcollect
      rw [Directory.readyAt_eq hl] at hn
      refine hlast.report ▸ hmoves.upholds ⟨nofun, nofun⟩ fun i task ht => ?_
      rw [Cycle.Plan.pool, List.getElem?_map] at ht
      obtain ⟨n, hi, rfl⟩ := Option.map_eq_some_iff.1 ht
      exact Cycle.Plan.upholds_task (hn n (List.mem_of_getElem? hi)) _

end Agent

structure CollectionState.Named (state : CollectionState) : Prop where
  probed : ∀ session, state.session = some session → session.probedNode ≠ none
  report : ∀ report, state.lastReport = some report → report.Named

namespace Agent

variable {agent : Agent} {turns : List Turn} {state : CollectionState}

theorem named_probed (ha : agent.state = {}) {o : Outside}
    (hn : ∀ n ∈ Directory.readyAt agent.backoff o, n.name ≠ none) :
    ((agent.probe.outcome o).1.toOption.getD agent.state).Named := by
  rcases probed_fresh ha o with ⟨probeError, hstate⟩ |
    ⟨nodeClient, clusterClient, first, source, hfirst, hmade, hstate⟩
  · rw [hstate]
    exact ⟨fun _ hs => (by cases hs), fun _ hr => (by cases hr)⟩
  · have hname : first.name ≠ none := hn first (List.mem_of_mem_head? hfirst)
    generalize (agent.probe.outcome o).1.toOption.getD agent.state = state at hstate
    cases hmade with
    | direct _ _ _ _ hp | proxy _ _ _ _ hp | unreachable _ _ _ _ hp =>
      cases hstate
      refine ⟨fun session hs => ?_, fun report hr => (by cases hr)⟩
      obtain rfl := Option.some.inj hs
      rw [hp]
      exact hname

theorem named_turn (h : state.Named) (hook : Option BaselineHook)
    {before after : Outside} {result : Except Fault CollectionState}
    (hrun : ({ agent with state, hook } : Agent).runCycle.outcome before = (result, after))
    (hn : ∀ n ∈ agent.readyIn ⟨hook, before, after, state, result.toOption.getD state⟩,
      n.name ≠ none) : (result.toOption.getD state).Named := by
  rcases hs : state.session.filter Session.retrieveSummaries with _ | session
  · unfold runCycle at hrun
    simp only [hs] at hrun
    cases hrun
    exact h
  · obtain ⟨log, hcycle⟩ := outcome_runCycle (o := before) { agent with state, hook } hs
    rw [hrun] at hcycle
    rcases hd : (({ agent with state, hook } : Agent).download session before.now).outcome before
      with ⟨f | report, done⟩ <;> rw [hd] at hcycle
    · obtain ⟨rfl, -⟩ := Prod.mk.inj hcycle
      split
      · exact ⟨h.probed, h.report⟩
      · exact h
    · obtain ⟨rfl, -⟩ := Prod.mk.inj hcycle
      refine ⟨h.probed, fun report' hlast => ?_⟩
      obtain rfl := Option.some.inj hlast
      exact named_download hn hd

theorem named_repeats (h : agent.Repeats runCycle turns state) (hstart : agent.state.Named)
    (hn : ∀ turn ∈ turns, ∀ n ∈ agent.readyIn turn, n.name ≠ none) : state.Named := by
  induction h with
  | start => exact hstart
  | turn hook _ hrun ih =>
    have hbefore := ih fun turn hmem => hn turn (List.mem_append_left _ hmem)
    exact named_turn hbefore hook hrun (hn _ (List.mem_append_right _ (List.mem_singleton_self _)))

end Agent

def Document.lookup? (key : String) : Document → Option Document
  | .table entries => entries.lookup key
  | _ => none

namespace Status

/-- The table shows the faults, each with its text and in order. -/
def Tabulates (body : Document) (key : String) (faults : NodeFaults) : Prop :=
  ∃ entries, body.lookup? key = some (.table entries) ∧
    entries.map (fun e => (some e.1, e.2)) = faults.map fun e => (e.1, Document.text e.2.message)

def faultEntry : Option String × String → Except Fault (String × Document)
  | (node, text) => do return (← nameOf node, .text text)

theorem faultsDocument_eq (faults : NodeFaults) :
    faultsDocument faults = Document.table <$> faults.texts.mapM faultEntry := by
  rfl

theorem faultEntries_named {faults : NodeFaults} (h : faults.Named) :
    ∃ entries, faults.texts.mapM faultEntry = .ok entries ∧
      entries.map (fun e => (some e.1, e.2)) =
        faults.map fun e => (e.1, Document.text e.2.message) := by
  induction faults with
  | nil => exact ⟨[], rfl, rfl⟩
  | cons first faults ih =>
    obtain ⟨hfirst, hrest⟩ := List.forall_mem_cons.1 h
    obtain ⟨node, fault⟩ := first
    obtain ⟨name, rfl⟩ := Option.ne_none_iff_exists'.1 hfirst
    obtain ⟨entries, hentries, hsame⟩ := ih hrest
    refine ⟨(name, .text fault.message) :: entries, ?_, ?_⟩
    · rw [NodeFaults.texts, List.map_cons, List.mapM_cons, ← NodeFaults.texts, hentries]
      rfl
    · rw [List.map_cons, List.map_cons, hsame]

theorem faultsDocument_named {faults : NodeFaults} (h : faults.Named) :
    ∃ entries, faultsDocument faults = .ok (.table entries) ∧
      entries.map (fun e => (some e.1, e.2)) =
        faults.map fun e => (e.1, Document.text e.2.message) := by
  obtain ⟨entries, hentries, hsame⟩ := faultEntries_named h
  exact ⟨entries, by rw [faultsDocument_eq, hentries]; rfl, hsame⟩

theorem sessionDocument_named {session : Session} (h : session.probedNode ≠ none) :
    ∃ shown, sessionDocument session = .ok shown ∧
      shown.lookup? "mode" = some (.text session.mode.text) := by
  obtain ⟨name, hname⟩ := Option.ne_none_iff_exists'.1 h
  unfold sessionDocument
  rw [hname]
  exact ⟨_, rfl, rfl⟩

/-- What is shown of a state whose nodes have names. -/
theorem stateDocument_named (clusterName : String) {state : CollectionState} (h : state.Named) :
    ∃ body, stateDocument clusterName state = .ok body ∧
      body.lookup? "collection_enabled" = some (.flag state.isEnabled) ∧
      (body.lookup? "session").bind (·.lookup? "mode") =
        state.session.map (fun session => .text session.mode.text) ∧
      Tabulates body "failed_nodes" (state.lastReport.getD {}).failures ∧
      Tabulates body "fallback_nodes" (state.lastReport.getD {}).fallbacks := by
  have hreport : (state.lastReport.getD {}).Named := by
    cases hl : state.lastReport with
    | none => exact ⟨fun _ hmem => absurd hmem List.not_mem_nil,
        fun _ hmem => absurd hmem List.not_mem_nil⟩
    | some report => exact h.report report hl
  obtain ⟨failed, hfailed, hfailed'⟩ := faultsDocument_named hreport.failures
  obtain ⟨fallbacks, hfallbacks, hfallbacks'⟩ := faultsDocument_named hreport.fallbacks
  unfold stateDocument
  cases hs : state.session with
  | none =>
    simp only [hfailed, hfallbacks]
    exact ⟨_, rfl, rfl, rfl, ⟨failed, rfl, hfailed'⟩, ⟨fallbacks, rfl, hfallbacks'⟩⟩
  | some session =>
    obtain ⟨shown, hshown, hmode⟩ := sessionDocument_named (h.probed session hs)
    simp only [hshown, hfailed, hfallbacks]
    exact ⟨_, rfl, rfl, hmode, ⟨failed, rfl, hfailed'⟩, ⟨fallbacks, rfl, hfallbacks'⟩⟩

theorem respond_status (clusterName : String) {state : CollectionState} {body : Document}
    (h : stateDocument clusterName state = .ok body) (o : Outside) :
    (respond clusterName (.ok state) "GET" "/api/v1/status").outcome o =
      (.ok ⟨200, some body⟩, o) := by
  have hget : "GET".toUpper = "GET" := by decide +kernel
  have hpath : bare "/api/v1/status" = "/api/v1/status".toList := by decide +kernel
  unfold respond answer
  simp only [hget, hpath, Except.bind, h]
  rfl

structure Shows (body : Document) (state : CollectionState) : Prop where
  enabled : body.lookup? "collection_enabled" = some (.flag state.isEnabled)
  /-- It says that there is collecting exactly if it shows a mode in which there is. -/
  mode : body.lookup? "collection_enabled" = some (.flag true) ↔
    (body.lookup? "session").bind (·.lookup? "mode") = some (.text "direct") ∨
      (body.lookup? "session").bind (·.lookup? "mode") = some (.text "proxy")
  failed : Tabulates body "failed_nodes" (state.lastReport.getD {}).failures
  fallbacks : Tabulates body "fallback_nodes" (state.lastReport.getD {}).fallbacks

/-- A state that stands in one of the ways, with a name for every node, can be shown. -/
theorem shows_of_stands (clusterName : String) {turns : List Turn} {state : CollectionState}
    {standing : Standing} (h : standing.Holds turns state) (hn : state.Named) :
    ∃ body, stateDocument clusterName state = .ok body ∧ Shows body state := by
  obtain ⟨body, hbody, henabled, hmode, hfailed, hfallbacks⟩ := stateDocument_named clusterName hn
  refine ⟨body, hbody, henabled, ?_, hfailed, hfallbacks⟩
  rw [henabled, hmode]
  cases h with
  | unsettled hs =>
    simp [hs, CollectionState.isEnabled]
  | unreachable hs hm hr =>
    simp [hs, hm, hr, CollectionState.isEnabled, ConnectionMode.text]
  | collecting hs hclients hr =>
    rcases hclients with ⟨hm, -⟩ | ⟨hm, -⟩ <;> simp [hs, hm, hr, ConnectionMode.text]

end Status

/-- Whatever an agent has probed and however many cycles it has run since, its state stands in one
of three ways and in no other, and its status can be asked for and shows the state: whether
there is collecting, which is to be seen from the mode too, and every fault of the last report. -/
theorem reached_coherent (agent : Agent) (ha : agent.state = {}) (o : Outside)
    (hn : ∀ n ∈ Directory.readyAt agent.backoff o, n.name ≠ none)
    {turns : List Turn} {state : CollectionState}
    (hrun : ({ agent with
      state := (agent.probe.outcome o).1.toOption.getD agent.state } : Agent).Repeats
        Agent.runCycle turns state)
    (hturns : ∀ turn ∈ turns, ∀ n ∈ agent.readyIn turn, n.name ≠ none) :
    (∃! standing : Standing, standing.Holds turns state) ∧
      ∀ clusterName o', ∃ body, (Status.respond clusterName (.ok state) "GET"
        "/api/v1/status").outcome o' = (.ok ⟨200, some body⟩, o') ∧ Status.Shows body state := by
  obtain ⟨standing, hstart⟩ := agent.stands_probed ha o
  have hstands : standing.Holds turns state := Agent.stands_repeats hrun hstart
  have hnamed : state.Named := Agent.named_repeats hrun (Agent.named_probed ha hn) hturns
  refine ⟨⟨standing, hstands, fun other => hstands.unique⟩, fun clusterName o' => ?_⟩
  obtain ⟨body, hbody, hshows⟩ := Status.shows_of_stands clusterName hstands hnamed
  exact ⟨body, Status.respond_status clusterName hbody o', hshows⟩

/-! An agent that probes a cluster of one node and then runs a cycle. -/

namespace Sample

def fresh : Agent where
  settings
  backoff := { steps := 1 }
  nodeClient := some nodeClient
  clusterClient := some clusterClient

def probed : Agent :=
  { fresh with state := (fresh.probe.outcome answering).1.toOption.getD fresh.state }

def probedTurn : Turn :=
  let ran := probed.runCycle.outcome answering
  ⟨none, answering, ran.2, probed.state, ran.1.toOption.getD probed.state⟩

theorem repeats_probed : probed.Repeats Agent.runCycle [probedTurn] probedTurn.new :=
  Agent.Repeats.turn none Agent.Repeats.start rfl

theorem named_answering : (∀ n ∈ Directory.readyAt fresh.backoff answering, n.name ≠ none) ∧
    ∀ turn ∈ [probedTurn], ∀ n ∈ fresh.readyIn turn, n.name ≠ none := by
  have hready : Directory.readyAt fresh.backoff answering = [node "a" "10.0.0.1"] := by
    decide +kernel
  have hturn : fresh.readyIn probedTurn = [node "a" "10.0.0.1"] := by
    decide +kernel
  constructor
  · rw [hready]
    decide
  · intro turn hmem
    rw [List.mem_singleton.1 hmem, hturn]
    decide

/-- After the cycle the status says that there is collecting. -/
theorem coherent_after_cycle : ∃ turns state, probed.Repeats Agent.runCycle turns state ∧
    state.cyclesCompleted = 1 ∧ (∃! standing : Standing, standing.Holds turns state) ∧
      ∃ body, (Status.respond "c" (.ok state) "GET" "/api/v1/status").outcome {} =
          (.ok ⟨200, some body⟩, {}) ∧
        body.lookup? "collection_enabled" = some (.flag true) := by
  have henabled : probedTurn.new.isEnabled = true := by
    decide +kernel
  have hcycles : probedTurn.new.cyclesCompleted = 1 := by
    decide +kernel
  obtain ⟨hstands, hstatus⟩ :=
    reached_coherent fresh rfl answering named_answering.1 repeats_probed named_answering.2
  obtain ⟨body, hbody, hshows⟩ := hstatus "c" {}
  exact ⟨_, _, repeats_probed, hcycles, hstands, body, hbody, henabled ▸ hshows.enabled⟩

end Sample

end KubeletCollector
