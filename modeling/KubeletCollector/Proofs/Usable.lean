import KubeletCollector.Proofs.Accounts
import KubeletCollector.Proofs.Choice

/-! Which nodes that count as collected have usable data: the summary and one of the other
endpoints, the rule by which a probed path is accepted. A session that goes direct
keeps its proxy mask whatever the verdict on the proxy was, so a node that is recovered
through the proxy has what that mask holds, usable or not. -/

namespace KubeletCollector

open Text Act

/-- The artifacts of a node meet the rule of probing. -/
def Job.Usable (job : Job) (place : Location) (files : FileTree) : Prop :=
  (files.get? (job.spot place .summary)).isSome ∧
    ((files.get? (job.spot place .cadvisor)).isSome ∨
      (files.get? (job.spot place .container)).isSome)

namespace Job

variable {job : Job} {place : Location} {client : Client} {endpoints : NodeEndpoints} {o : Outside}
  {mask : EndpointMask} {files : FileTree}

theorem Holds.isSome_iff (h : job.Holds place client endpoints o mask.kinds files)
    (kind : EndpointKind) :
    (files.get? (job.spot place kind)).isSome ↔ mask.has kind = true := by
  rw [h.files]
  by_cases hm : kind ∈ mask.kinds
  · have := h.whole kind hm
    simp [hm, EndpointMask.mem_kinds.1 hm, this]
  · simp [hm, mt EndpointMask.mem_kinds.2 hm]

theorem Holds.usable_iff (h : job.Holds place client endpoints o mask.kinds files) :
    job.Usable place files ↔ Source.isUsable mask = true := by
  unfold Usable
  rw [h.isSome_iff, h.isSome_iff, h.isSome_iff]
  simp [Source.isUsable, EndpointMask.has]

end Job

namespace Cycle

section Verdicts

variable {plan : Plan} {place : Location} {o o₁ o₀ o₀' hand : Outside} {nodes ready : List NodeInfo}
  {n : NodeInfo} {report : FailureReport} {files : FileTree} {settings : Settings}
  {nodeClient clusterClient : Client}

/-- By the verdict: a direct pass leaves the direct mask, which was found usable, and a proxy
pass the proxy mask. -/
theorem Plan.Accounted.usable_iff (h : plan.Accounted place hand n report files)
    (hs : Source.Chosen settings nodeClient clusterClient ready plan.session)
    (hf : ∀ f, report.failures.get? n.name ≠ some (.proxyPath f)) :
    (plan.job n).Usable place files ↔
      (n.AskedDirectly plan.session ∧ report.fallbacks.get? n.name = none) ∨
        Source.isUsable plan.session.proxyMask = true := by
  obtain ⟨verdict, hjudged, hfailure, hfallback⟩ := h
  cases hjudged with
  | direct hy hkept =>
    obtain ⟨client, a, -, -, hholds⟩ := hkept
    rw [hholds.usable_iff, hfallback]
    simp [(hs.direct hy.1.1).1, hy.1, Verdict.fallback]
  | proxy why hd hy hkept hwhy =>
    obtain ⟨client, -, hholds⟩ := hkept
    rw [hholds.usable_iff, hfallback]
    cases why with
    | none =>
      have : ¬ n.AskedDirectly plan.session := fun hn => by simpa using hwhy.2 hn
      simp [this]
    | some f => simp [Verdict.fallback]
  | failed why cause => exact absurd hfailure (hf cause)

/-- A node that is not reported as failed has usable data exactly if it was collected
directly or the proxy was found usable when the session was chosen. -/
theorem collected_usable_iff (plan : Plan) {backoff₀ backoff : Backoff}
    (hs : (Source.choose settings backoff₀ nodeClient clusterClient).outcome o₀ =
      (.ok (.usable plan.session), o₀'))
    (hl : (Directory.readyNodes backoff).outcome o = (.ok nodes, o₁))
    (h : plan.Serves place o nodes) (hbare : ∀ n ∈ nodes, (plan.job n).Bare place o.files) :
    (plan.session.mode = .proxy → Source.isUsable plan.session.proxyMask = true) ∧
      ∃ report o', (collect plan backoff).outcome o = (.ok report, o') ∧
        ∀ n ∈ nodes, (∀ f, report.failures.get? n.name ≠ some (.proxyPath f)) →
          ((plan.job n).Usable place o'.files ↔
            (n.AskedDirectly plan.session ∧ report.fallbacks.get? n.name = none) ∨
              Source.isUsable plan.session.proxyMask = true) := by
  obtain ⟨ready, -, -, hchosen⟩ := Source.choose_sound hs
  have hlisted := (Directory.readyNodes_within Scope.idle hl).1
  have h₁ := h.within hlisted
  obtain ⟨order, report, o', hruns⟩ := h₁.runs
  have hcollect := (outcome_collect_listed plan hl).trans hruns.work
  refine ⟨hchosen.proxy, report, o', hcollect, fun n hn hf => ?_⟩
  obtain ⟨i, hi⟩ := List.mem_iff_getElem?.1 hn
  have hbare₁ : (plan.job n).Bare place o₁.files := fun kind =>
    (hlisted.files _ id).trans (hbare n hn kind)
  obtain ⟨hand, -, haccounted⟩ := hruns.accounts h₁ hi hbare₁
  exact haccounted.usable_iff hchosen hf

end Verdicts

end Cycle

/-! A cycle with the session of the one node, when its kubelet no longer answers. -/

namespace Sample

open KubeletCollector.Cycle

def silent : Outside := { answering with nodeRoutes := [] }

def alone : List NodeInfo := [node "a" "10.0.0.1"]

def planOf (session : Session) : Plan :=
  { plan with session }

def leavesNoTrace : Bool :=
  match chosen? with
  | none => false
  | some session =>
    match (collect (planOf session) { steps := 1 }).outcome silent with
    | (.ok report, o') => report.failures.isEmpty &&
      (o'.files.get? (((planOf session).job (node "a" "10.0.0.1")).spot [] .summary)).isNone
    | _ => false

theorem leavesNoTrace_eq : leavesNoTrace = true := by decide +kernel

theorem chosen : ∃ session o₀' report o',
    (Source.choose settings { steps := 1 } nodeClient clusterClient).outcome answering =
        (.ok (.usable session), o₀') ∧
      (collect (planOf session) { steps := 1 }).outcome silent = (.ok report, o') ∧
      report.failures = [] ∧ ¬ ((planOf session).job (node "a" "10.0.0.1")).Usable [] o'.files := by
  have h := leavesNoTrace_eq
  unfold leavesNoTrace at h
  split at h
  · cases h
  · rename_i session hs
    obtain ⟨o₀', hchoose⟩ := chosen_usable hs
    split at h
    · rename_i report o' hout
      obtain ⟨hreport, hsummary⟩ := Bool.and_eq_true_iff.1 h
      refine ⟨session, o₀', report, o', hchoose, hout, List.isEmpty_iff.1 hreport, fun hu => ?_⟩
      have := hu.1
      rw [Option.isNone_iff_eq_none.1 hsummary] at this
      cases this
    · cases h

theorem silent_listed : (Directory.readyNodes { steps := 1 }).outcome silent =
    (.ok alone, { silent with trace := silent.trace ++ [.listed] }) :=
  listed_described [("a", "10.0.0.1")] rfl (by decide)

theorem silent_serves {session : Session} {o' : Outside}
    (h : (Source.choose settings { steps := 1 } nodeClient clusterClient).outcome answering =
      (.ok (.usable session), o')) : (planOf session).Serves [] silent alone where
  wired := by
    obtain ⟨ready, -, -, hs⟩ := Source.choose_sound h
    exact hs.wired rfl rfl
  opens := ⟨rfl, rfl, rfl⟩
  ordinary := by
    apply Outside.ordinary_of_routes
    · simp [silent]
    · simp [silent, answering, Reply.Ordinary, Reply.fault?]
  start := (⟨by decide, by decide⟩ : PlainText "agent")
  named := by
    intro n hn
    obtain rfl := List.mem_singleton.1 hn
    exact ⟨"a", rfl, by decide, by decide⟩
  distinct := by decide
  addressed := by
    intro n hn a ha
    obtain rfl := List.mem_singleton.1 hn
    cases ha
    exact ⟨_, rfl⟩

theorem silent_bare (session : Session) :
    ∀ n ∈ alone, ((planOf session).job n).Bare [] silent.files :=
  fun _ _ _ => rfl

/-- What tells usable data from other data, where the proxy was not found usable. -/
theorem usable_iff_of_silent : ∃ session,
    (session.mode = .proxy → Source.isUsable session.proxyMask = true) ∧
      ∃ report o', (collect (planOf session) { steps := 1 }).outcome silent = (.ok report, o') ∧
        ∀ n ∈ alone, (∀ f, report.failures.get? n.name ≠ some (.proxyPath f)) →
          (((planOf session).job n).Usable [] o'.files ↔
            (n.AskedDirectly session ∧ report.fallbacks.get? n.name = none) ∨
              Source.isUsable session.proxyMask = true) := by
  obtain ⟨session, o₀', -, -, hs, -⟩ := chosen
  exact ⟨session, collected_usable_iff (planOf session) hs silent_listed (silent_serves hs)
    (silent_bare session)⟩

/-- A chosen session, and a cycle that reports nothing of a node and leaves no summary of it. -/
theorem collected_without_summary : ∃ session o₀' o₁ report o',
    (Source.choose settings { steps := 1 } nodeClient clusterClient).outcome answering =
        (.ok (.usable session), o₀') ∧
      (Directory.readyNodes { steps := 1 }).outcome silent = (.ok alone, o₁) ∧
      (planOf session).Serves [] silent alone ∧
      (∀ n ∈ alone, ((planOf session).job n).Bare [] silent.files) ∧
      (collect (planOf session) { steps := 1 }).outcome silent = (.ok report, o') ∧
      ∃ n ∈ alone, (∀ f, report.failures.get? n.name ≠ some (.proxyPath f)) ∧
        ¬ ((planOf session).job n).Usable [] o'.files := by
  obtain ⟨session, o₀', report, o', hs, hcollect, hreport, hbare⟩ := chosen
  refine ⟨session, o₀', _, report, o', hs, silent_listed, silent_serves hs, silent_bare session,
    hcollect, node "a" "10.0.0.1", by simp [alone], ?_, hbare⟩
  rw [hreport]
  exact nofun

end Sample

end KubeletCollector
