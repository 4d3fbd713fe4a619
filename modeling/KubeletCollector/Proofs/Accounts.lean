import KubeletCollector.Proofs.Sharing

/-! The report and the files give the same account of every node of a cycle, whichever way the nodes
take turns: that of the node alone, with the replies that it was dealt. -/

namespace KubeletCollector

open Text Act

namespace Cycle

open FailureReport

namespace Verdict

def failure (node : NodeInfo) : Verdict → Option Fault
  | .direct | .proxy _ => if node.providerId.isEmpty then some .missingProviderId else none
  | .failed _ cause => some (.proxyPath cause)

def fallback : Verdict → Option Fault
  | .proxy (some f) => some (.directPath f)
  | _ => none

variable {node : NodeInfo} {report : FailureReport}

theorem failures_warned (node : NodeInfo) (report : FailureReport) (name : Option String) :
    (warned node report).failures.get? name =
      if name = node.name ∧ node.providerId.isEmpty then some .missingProviderId
      else report.failures.get? name := by
  unfold warned
  by_cases hp : node.providerId.isEmpty = true
  · simp [hp, NodeFaults.get?_put]
  · simp [hp]

theorem fallbacks_warned (node : NodeInfo) (report : FailureReport) :
    (warned node report).fallbacks = report.fallbacks := by
  unfold warned
  split <;> rfl

theorem fallbacks_noted (node : NodeInfo) (why : Option Fault) (report : FailureReport) :
    (noted node why report).fallbacks = report.fallbacks := by
  cases why <;> rfl

theorem enter_own (verdict : Verdict) (hf : report.failures.get? node.name = none)
    (hb : report.fallbacks.get? node.name = none) :
    (verdict.enter node report).failures.get? node.name = verdict.failure node ∧
      (verdict.enter node report).fallbacks.get? node.name = verdict.fallback := by
  have hw : (warned node report).failures.get? node.name =
      if node.providerId.isEmpty then some .missingProviderId else none := by
    rw [failures_warned, hf]
    simp
  cases verdict with
  | direct => exact ⟨hw, by rw [enter, fallbacks_warned, hb]; rfl⟩
  | proxy why =>
    cases why with
    | none => exact ⟨hw, by simp only [enter, recovered, noted, fallbacks_warned, hb]; rfl⟩
    | some f =>
      simp only [enter, recovered, noted, fallback, failure]
      constructor
      · split <;> simp [NodeFaults.get?_put, NodeFaults.get?_drop]
      · simp [NodeFaults.get?_put]
  | failed why cause =>
    simp only [enter, fallbacks_noted, fallbacks_warned, NodeFaults.get?_put, if_true]
    exact ⟨rfl, hb⟩

end Verdict

variable {plan : Plan} {place : Location} {o o₁ o' a a' : Outside} {nodes : List NodeInfo}
  {n : NodeInfo} {report : FailureReport} {files : FileTree} {verdict : Verdict}
  {order : List (Nat × Request)} {i : Nat} {rs : List Request}

/-- The report and the files give the same account of a node, by the replies that `hand` has in store. -/
def Plan.Accounted (plan : Plan) (place : Location) (hand : Outside) (n : NodeInfo)
    (report : FailureReport) (files : FileTree) : Prop :=
  ∃ verdict, Judged plan.session (plan.job n) n hand place files verdict ∧
    report.failures.get? n.name = verdict.failure n ∧
      report.fallbacks.get? n.name = verdict.fallback

/-- What the node at a position has in hand when the requests of a cycle are sent in some order: the
outside as it is found, but with the replies in store that were dealt to the node. With them it sends,
alone, just those of the requests that are its own. -/
structure Plan.Hand (plan : Plan) (i : Nat) (n : NodeInfo) (o : Outside)
    (order : List (Nat × Request)) (hand : Outside) : Prop where
  restocked : o.Restocked hand
  deals : o.Deals i hand order
  asks : hand.asked ((plan.collect {} n).outcome hand).2 = part i order

/-- A cycle reports and leaves of a node what a visit to that node alone comes to, with these
requests. -/
structure Plan.Solo (plan : Plan) (place : Location) (n : NodeInfo) (a : Outside) (rs : List Request)
    (report : FailureReport) (files : FileTree) (verdict : Verdict) (a' : Outside) : Prop where
  visit : (visit plan.session (plan.job n) n).outcome a = (.ok verdict, a')
  failures : report.failures.get? n.name = verdict.failure n
  fallbacks : report.fallbacks.get? n.name = verdict.fallback
  files : ∀ kind, files.get? ((plan.job n).spot place kind) =
    a'.files.get? ((plan.job n).spot place kind)
  asked : a.asked a' = rs

/-- A cycle in which every node came to what it would have come to alone, whatever outside with the
replies it was dealt it had met. -/
structure Plan.Runs (plan : Plan) (place : Location) (nodes : List NodeInfo) (o : Outside)
    (order : List (Nat × Request)) (report : FailureReport) (o' : Outside) : Prop where
  work : (plan.work nodes).outcome o = (.ok report, o')
  within : Within (plan.scope place nodes) o o'
  asked : o.asked o' = order.map Prod.snd
  asks : ∀ entry ∈ order, ∃ n, nodes[entry.1]? = some n ∧ plan.Asks n entry.2
  others : ∀ name, (∀ n ∈ nodes, name ≠ n.name) →
    report.failures.get? name = none ∧ report.fallbacks.get? name = none
  solo : ∀ i n a, nodes[i]? = some n → (plan.view place n).Alike o a → o.Deals i a order →
    ∃ verdict a', plan.Solo place n a (part i order) report o'.files verdict a'

theorem Plan.Serves.runs (h : plan.Serves place o nodes) :
    ∃ order report o', plan.Runs place nodes o order report o' := by
  obtain ⟨report, o', hwork, hwithin⟩ := h.work
  obtain ⟨order, last, done, schedule, log, hmoves, hlast, rfl⟩ := moves_of_work hwork
  have hothers (name : Option String) (hne : ∀ n ∈ nodes, name ≠ n.name) :
      report.failures.get? name = none ∧ report.fallbacks.get? name = none := by
    have hsame := hmoves.others h.underway hne
    rw [hlast.report] at hsame
    exact ⟨hsame.failures, hsame.fallbacks⟩
  refine ⟨order, report, _, hwork, hwithin, (hmoves.asked h.underway).2, hmoves.asks h.underway,
    hothers, ?_⟩
  intro i n a hn ha hd
  have hshadows : plan.Shadows place i n (plan.pool nodes) o (plan.task n) {} a :=
    { inStep := by
        intro task ht
        rw [Plan.pool, List.getElem?_map, hn] at ht
        cases ht
        exact h.inStep_task (List.mem_of_getElem? hn)
      report := SameFor.refl n.name {}
      alike := ha }
  obtain ⟨report', a', hout, hreport, halike, -, hasked⟩ :=
    hmoves.alone h.underway hlast.ended hn hshadows hd
  obtain ⟨verdict, hvisit, rfl⟩ := visit_of_collect hout
  have hfailures : ({} : FailureReport).failures.get? n.name = none := rfl
  have hfallbacks : ({} : FailureReport).fallbacks.get? n.name = none := rfl
  obtain ⟨hfailure, hfallback⟩ := verdict.enter_own hfailures hfallbacks
  rw [hlast.report] at hreport
  exact ⟨verdict, a', hvisit, hreport.failures.symm.trans hfailure,
    hreport.fallbacks.symm.trans hfallback, fun kind => (halike.files _ ⟨kind, rfl⟩).symm, hasked⟩

/-- With the replies it is dealt a node is served alone. -/
theorem Plan.Serves.restocked (h : plan.Serves place o nodes) (hr : o.Restocked a)
    (ho : a.Ordinary) : plan.Serves place a nodes := by
  obtain ⟨nodeRoutes, clusterRoutes, rfl⟩ := hr
  exact { h with opens := h.opens, ordinary := ho }

namespace Plan.Runs

/-- Every node has a hand, and a cycle comes to what a visit comes to that is dealt it. -/
theorem hand (hr : plan.Runs place nodes o order report o') (h : plan.Serves place o nodes)
    (hn : nodes[i]? = some n) : ∃ hand verdict done, plan.Hand i n o order hand ∧
      plan.Serves place hand nodes ∧
      plan.Solo place n hand (part i order) report o'.files verdict done := by
  obtain ⟨hand, hrestocked, hordinary, hdeals⟩ := Outside.exists_deals i order h.ordinary
  have hserves := h.restocked hrestocked hordinary
  have halike : (plan.view place n).Alike o hand :=
    ⟨fun loc _ => by rw [hrestocked.files], h.opens, hserves.opens⟩
  obtain ⟨verdict, done, hsolo⟩ := hr.solo i n hand hn halike hdeals
  have hcollect : (plan.collect {} n).outcome hand = (.ok (verdict.enter n {}), done) := by
    unfold Plan.collect Plan.task
    rw [run_nodeTask, outcome_bind, hsolo.visit]
    rfl
  refine ⟨hand, verdict, done, ⟨hrestocked, hdeals, ?_⟩, hserves, hsolo⟩
  rw [hcollect]
  exact hsolo.asked

/-- What is found at a node's places is what a visit leaves that is dealt the node's hand. -/
theorem left (hr : plan.Runs place nodes o order report o') (h : plan.Serves place o nodes)
    (hn : nodes[i]? = some n)
    (hd : ∀ kind, o.files.get? ((plan.job n).spot place kind) ≠ some .directory) :
    ∃ hand verdict, plan.Hand i n o order hand ∧
      Left plan.session (plan.job n) n hand place o'.files verdict ∧
      report.failures.get? n.name = verdict.failure n ∧
      report.fallbacks.get? n.name = verdict.fallback := by
  obtain ⟨hand, verdict, done, hhand, hserves, hsolo⟩ := hr.hand h hn
  rw [← hhand.restocked.files] at hd
  have hleft := hserves.left (List.mem_of_getElem? hn) hd hsolo.visit
  exact ⟨hand, verdict, hhand, hleft.same hsolo.files, hsolo.failures, hsolo.fallbacks⟩

theorem accounts (hr : plan.Runs place nodes o order report o') (h : plan.Serves place o nodes)
    (hn : nodes[i]? = some n) (hbare : (plan.job n).Bare place o.files) :
    ∃ hand, plan.Hand i n o order hand ∧ plan.Accounted place hand n report o'.files := by
  obtain ⟨hand, verdict, hhand, hleft, hentries⟩ := hr.left h hn fun kind => by simp [hbare kind]
  refine ⟨hand, hhand, verdict, hleft.judged_of_clear fun kind => Or.inr ?_, hentries⟩
  rw [hhand.restocked.files]
  exact hbare kind

end Plan.Runs

/-- A cycle changes its nodes' places only. -/
theorem files_elsewhere (hlisted : Within Scope.idle o o₁)
    (hw : Within (plan.scope place nodes) o₁ o') {loc : Location}
    (h : ∀ n ∈ nodes, ∀ kind, loc ≠ (plan.job n).spot place kind) :
    o'.files.get? loc = o.files.get? loc := by
  refine (hw.files loc ?_).trans (hlisted.files loc id)
  rintro ⟨n, hn, kind, he⟩
  exact h n hn kind he

/-- After a cycle the report and the files agree on every ready node, and neither says anything else:
places that are no ready node's hold what they held, and the report names no other node. Whatever
order the requests were sent in, each node's account is the one that the replies to its own requests
give. -/
theorem collect_accounts {backoff : Backoff}
    (hl : (Directory.readyNodes backoff).outcome o = (.ok nodes, o₁))
    (h : plan.Serves place o nodes) (hbare : ∀ n ∈ nodes, (plan.job n).Bare place o.files) :
    ∃ report o' order, (collect plan backoff).outcome o = (.ok report, o') ∧
      o₁.asked o' = order.map Prod.snd ∧
      (∀ i n, nodes[i]? = some n →
        ∃ hand, plan.Hand i n o₁ order hand ∧ plan.Accounted place hand n report o'.files) ∧
      (∀ loc, (∀ n ∈ nodes, ∀ kind, loc ≠ (plan.job n).spot place kind) →
        o'.files.get? loc = o.files.get? loc) ∧
      ∀ name, (∀ n ∈ nodes, name ≠ n.name) →
        report.failures.get? name = none ∧ report.fallbacks.get? name = none := by
  have hlisted := (Directory.readyNodes_within Scope.idle hl).1
  have h₁ := h.within hlisted
  obtain ⟨order, report, o', hruns⟩ := h₁.runs
  have hcollect := (outcome_collect_listed plan hl).trans hruns.work
  refine ⟨report, o', order, hcollect, hruns.asked, fun i n hn => ?_,
    fun _ => files_elsewhere hlisted hruns.within, hruns.others⟩
  have hbare₁ : (plan.job n).Bare place o₁.files := fun kind =>
    (hlisted.files _ id).trans (hbare n (List.mem_of_getElem? hn) kind)
  exact hruns.accounts h₁ hn hbare₁

/-- The account of a cycle over two nodes side by side, of which the second needs the proxy. -/
theorem accounts_of_two : ∃ report o' order,
    (collect Sample.sideways { steps := 1 }).outcome Sample.outside = (.ok report, o') ∧
      Sample.listing.asked o' = order.map Prod.snd ∧
      (∀ i n, Sample.nodes[i]? = some n → ∃ hand, Sample.sideways.Hand i n Sample.listing order hand ∧
        Sample.sideways.Accounted [] hand n report o'.files) ∧
      (∀ loc, (∀ n ∈ Sample.nodes, ∀ kind, loc ≠ (Sample.sideways.job n).spot [] kind) →
        o'.files.get? loc = Sample.outside.files.get? loc) ∧
      ∀ name, (∀ n ∈ Sample.nodes, name ≠ n.name) →
        report.failures.get? name = none ∧ report.fallbacks.get? name = none :=
  collect_accounts Sample.listed (Sample.serves.sideways 2) Sample.bare

end Cycle

end KubeletCollector
