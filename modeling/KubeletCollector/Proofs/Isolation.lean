import KubeletCollector.Proofs.Accounts

/-! A node is collected as if it were alone. Other nodes ask other lines, so whichever way the nodes take
turns, a node is dealt what its lines had in store at first, in the same order. What it comes to depends
on that alone, and so neither on its place in the listing nor on how many nodes are collected at once. -/

namespace KubeletCollector

open Text Act

structure Outside.Shares (o a : Outside) : Prop where
  script : ∀ side, a.script side = o.script side
  files : ∀ loc, a.files.get? loc = o.files.get? loc

/-- What asks and writes nothing leaves replies and files as they are. -/
theorem Outside.Shares.idle {o a o₁ a₁ : Outside} (h : o.Shares a) (ho : Within Scope.idle o o₁)
    (ha : Within Scope.idle a a₁) : o₁.Shares a₁ where
  script side := by
    funext line
    rw [ha.script_unasked nofun, ho.script_unasked nofun, h.script side]
  files loc := by rw [ha.files loc id, ho.files loc id, h.files loc]

theorem Outside.asked_idle {o o₁ o' : Outside} (h : Within Scope.idle o o₁)
    (h' : o₁.trace <+: o'.trace) : o.asked o' = o₁.asked o' := by
  rw [Outside.asked_append h.grows h', h.asked_nothing, List.nil_append]

namespace Cycle

/-- Kubelets that are asked directly listen at addresses of their own. -/
def Plan.Apart (plan : Plan) (nodes : List NodeInfo) : Prop :=
  ∀ n ∈ nodes, ∀ m ∈ nodes, n.name ≠ m.name →
    n.AskedDirectly plan.session → m.AskedDirectly plan.session →
      ∀ a b, n.internalAddress? = some a → m.internalAddress? = some b →
        ¬ (a.address = b.address ∧ n.kubeletPort = m.kubeletPort)

open scoped Classical in
noncomputable def Plan.ofNode (plan : Plan) (n : NodeInfo) (rs : List Request) : List Request :=
  rs.filter (plan.Asks n)

variable {plan : Plan} {place : Location} {o o₁ o' a a₁ a' : Outside} {nodes nodes' : List NodeInfo}
  {n m : NodeInfo} {report report' : FailureReport}

theorem Plan.Apart.subset (h : plan.Apart nodes) (hs : nodes' ⊆ nodes) : plan.Apart nodes' :=
  fun n hn m hm => h n (hs hn) m (hs hm)

/-- No line is asked for the sake of two nodes. -/
theorem Plan.Apart.lines (hapart : plan.Apart nodes) (h : plan.Serves place o nodes)
    (hn : n ∈ nodes) (hm : m ∈ nodes) (hne : n.name ≠ m.name) {r q : Request} (hr : plan.Asks n r)
    (hq : plan.Asks m q) (hside : q.side = r.side) : q.line ≠ r.line := by
  obtain ⟨kind, hmethod, hr⟩ := hr
  obtain ⟨kind', hmethod', hq⟩ := hq
  intro hl
  have hline : kind'.method ++ " " ++ q.url = kind.method ++ " " ++ r.url := by
    rw [← hmethod, ← hmethod']
    exact hl
  have hurl := url_of_line hline
  rcases hr with ⟨hs, hd, a, ip, ha, hip, hu⟩ | ⟨hs, hu⟩ <;>
    rcases hq with ⟨hs', hd', b, ip', hb, hip', hu'⟩ | ⟨hs', hu'⟩
  · obtain ⟨hipeq, hport, -⟩ := directUrl_inj (hu'.symm.trans (hurl.trans hu))
    exact hapart n hn m hm hne hd hd' a b ha hb ⟨by rw [hip, hip', hipeq], hport.symm⟩
  · cases hs'.symm.trans (hside.trans hs)
  · cases hs'.symm.trans (hside.trans hs)
  · have htext := (proxyUrl_inj (hu'.symm.trans (hurl.trans hu))).1
    obtain ⟨name, hname, -⟩ := h.named n hn
    obtain ⟨name', hname', -⟩ := h.named m hm
    rw [hname, hname'] at htext hne
    exact hne (congrArg some htext.symm)

theorem Plan.ofNode_self {start : Outside} (hw : Within (plan.scope place [n]) start o') :
    plan.ofNode n (start.asked o') = start.asked o' := by
  rw [ofNode, List.filter_eq_self]
  intro r hr
  obtain ⟨m, hm, hq⟩ := hw.asked r hr
  obtain rfl := List.mem_singleton.1 hm
  simpa using hq

namespace Plan.Serves

theorem shared (h : plan.Serves place o nodes) (hs : o.Shares a) : plan.Serves place a nodes where
  wired := h.wired
  opens := h.opens.same fun loc => by rw [hs.files loc]
  ordinary side line i := by
    rw [hs.script side]
    exact h.ordinary side line i
  start := h.start
  named := h.named
  distinct := h.distinct
  addressed := h.addressed

end Plan.Serves

/-- Two cycles come to the same for a node: in the report, in the files and in what is
asked for its sake. -/
structure Plan.Agree (plan : Plan) (place : Location) (n : NodeInfo)
    (report report' : FailureReport) (o o' a a' : Outside) : Prop where
  failures : report'.failures.get? n.name = report.failures.get? n.name
  fallbacks : report'.fallbacks.get? n.name = report.fallbacks.get? n.name
  files : ∀ kind, a'.files.get? ((plan.job n).spot place kind) =
    o'.files.get? ((plan.job n).spot place kind)
  requests : plan.ofNode n (a.asked a') = plan.ofNode n (o.asked o')

namespace Plan.Runs

variable {order : List (Nat × Request)} {i : Nat}

/-- Who asks what a node asks is the node. -/
theorem of_asks (hr : plan.Runs place nodes o order report o') (h : plan.Serves place o nodes)
    (hapart : plan.Apart nodes) (hn : nodes[i]? = some n) {r : Request} (hasks : plan.Asks n r)
    {entry : Nat × Request} (hentry : entry ∈ order) (hside : entry.2.side = r.side)
    (hline : entry.2.line = r.line) : entry.1 = i := by
  obtain ⟨m, hm, hq⟩ := hr.asks entry hentry
  refine Decidable.byContradiction fun hne => ?_
  have hnames := h.ne_of_ne hn hm hne
  exact hapart.lines h (List.mem_of_getElem? hn) (List.mem_of_getElem? hm) hnames hasks hq hside hline

/-- A node is dealt what its lines had in store at first. -/
theorem deals (hr : plan.Runs place nodes o order report o') (h : plan.Serves place o nodes)
    (hapart : plan.Apart nodes) (hn : nodes[i]? = some n) (hs : o.Shares a) : o.Deals i a order := by
  rintro before r after rfl
  obtain ⟨m, hm, hasks⟩ := hr.asks (i, r) (by simp)
  cases hn.symm.trans hm
  rw [hs.script, heard_part]
  exact fun entry hentry => hr.of_asks h hapart hn hasks (by simp [hentry])

/-- A node's part of the requests is what is asked for its sake. -/
theorem ofNode_asked (hr : plan.Runs place nodes o order report o') (h : plan.Serves place o nodes)
    (hapart : plan.Apart nodes) (hn : nodes[i]? = some n) :
    plan.ofNode n (o.asked o') = part i order := by
  rw [hr.asked, ofNode, part, List.filter_map]
  refine congrArg _ (List.filter_congr fun entry hentry => decide_eq_decide.2 ⟨fun hasks => ?_, ?_⟩)
  · exact hr.of_asks h hapart hn hasks hentry rfl rfl
  · rintro rfl
    obtain ⟨m, hm, hasks⟩ := hr.asks entry hentry
    cases hn.symm.trans hm
    exact hasks

/-- What a cycle comes to for a node is what a visit to it alone comes to, made from where the cycle
began or from any outside with the same replies and files. -/
theorem solo_shared (hr : plan.Runs place nodes o order report o') (h : plan.Serves place o nodes)
    (hapart : plan.Apart nodes) (hn : n ∈ nodes) (hs : o.Shares a) :
    ∃ verdict a', plan.Solo place n a (plan.ofNode n (o.asked o')) report o'.files verdict a' := by
  obtain ⟨i, hi⟩ := List.mem_iff_getElem?.1 hn
  have halike : (plan.view place n).Alike o a :=
    ⟨fun loc _ => hs.files loc, h.opens, (h.shared hs).opens⟩
  rw [hr.ofNode_asked h hapart hi]
  exact hr.solo i n a hi halike (hr.deals h hapart hi hs)

end Plan.Runs

/-- Two cycles that begin with the same replies and files and both collect a node, among whichever
others. -/
theorem runs_agree {k : Int} {order order' : List (Nat × Request)}
    (hr : plan.Runs place nodes o order report o') (h : plan.Serves place o nodes)
    (hapart : plan.Apart nodes) (hs : o.Shares a) (hsub : nodes' ⊆ nodes)
    (hd : (nodes'.map NodeInfo.name).Nodup)
    (hr' : Plan.Runs { plan with maxConcurrency := k } place nodes' a order' report' a')
    (hn : n ∈ nodes') : plan.Agree place n report report' o o' a a' := by
  have h' := ((h.subset hsub hd).shared hs).sideways k
  have hapart' : Plan.Apart { plan with maxConcurrency := k } nodes' := hapart.subset hsub
  have hself : a.Shares a := ⟨fun _ => rfl, fun _ => rfl⟩
  obtain ⟨verdict, done, hsolo⟩ := hr.solo_shared h hapart (hsub hn) hs
  obtain ⟨verdict', done', hsolo'⟩ := hr'.solo_shared h' hapart' hn hself
  cases hsolo.visit.symm.trans hsolo'.visit
  exact ⟨hsolo'.failures.trans hsolo.failures.symm, hsolo'.fallbacks.trans hsolo.fallbacks.symm,
    fun kind => (hsolo'.files kind).trans (hsolo.files kind).symm, hsolo'.asked.symm.trans hsolo.asked⟩

/-- A cycle over some of the nodes, in any order, beside a cycle over all of them. -/
theorem collect_agree {backoff : Backoff} {k : Int} {order : List (Nat × Request)}
    (hl : (Directory.readyNodes backoff).outcome a = (.ok nodes', a₁))
    (h : plan.Serves place o nodes) (hapart : plan.Apart nodes) (hsub : nodes' ⊆ nodes)
    (hd : (nodes'.map NodeInfo.name).Nodup) (hs : o.Shares a) (hlisted : Within Scope.idle o o₁)
    (hr : plan.Runs place nodes o₁ order report o') :
    ∃ order' report' a', Plan.Runs { plan with maxConcurrency := k } place nodes' a₁ order' report' a' ∧
      (collect { plan with maxConcurrency := k } backoff).outcome a = (.ok report', a') ∧
      ∀ n ∈ nodes', plan.Agree place n report report' o o' a a' := by
  have hlisted' := (Directory.readyNodes_within Scope.idle hl).1
  have h₁ := h.within hlisted
  have hs₁ := hs.idle hlisted hlisted'
  obtain ⟨order', report', a', hr'⟩ := (((h₁.subset hsub hd).shared hs₁).sideways k).runs
  refine ⟨order', report', a', hr', (outcome_collect_listed _ hl).trans hr'.work, fun n hn => ?_⟩
  have hagree := runs_agree hr h₁ hapart hs₁ hsub hd hr' hn
  refine ⟨hagree.failures, hagree.fallbacks, hagree.files, ?_⟩
  rw [Outside.asked_idle hlisted' hr'.within.grows, Outside.asked_idle hlisted hr.within.grows,
    hagree.requests]

section Permuted

variable {k : Int} {order order' : List (Nat × Request)} (hperm : nodes'.Perm nodes)
  (hagree : ∀ n ∈ nodes', plan.Agree place n report report' o o' a a')
  (hr : plan.Runs place nodes o₁ order report o')
  (hr' : Plan.Runs { plan with maxConcurrency := k } place nodes' a₁ order' report' a')

include hperm hagree hr hr'

/-- Two cycles over the same nodes that agree on each of them report the same. -/
theorem reports_same (name : Option String) :
    report'.failures.get? name = report.failures.get? name ∧
      report'.fallbacks.get? name = report.fallbacks.get? name := by
  by_cases hname : ∃ n ∈ nodes, name = n.name
  · obtain ⟨n, hn, rfl⟩ := hname
    have hn := hagree n (hperm.mem_iff.2 hn)
    exact ⟨hn.failures, hn.fallbacks⟩
  · have hne (n : NodeInfo) (hn : n ∈ nodes) : name ≠ n.name := fun he => hname ⟨n, hn, he⟩
    obtain ⟨hf, hb⟩ := hr.others name hne
    obtain ⟨hf', hb'⟩ := hr'.others name fun n hn => hne n (hperm.mem_iff.1 hn)
    exact ⟨hf'.trans hf.symm, hb'.trans hb.symm⟩

/-- They leave the same files. -/
theorem files_same (hs : o.Shares a) (hlisted : Within Scope.idle o o₁)
    (hlisted' : Within Scope.idle a a₁) (loc : Location) : a'.files.get? loc = o'.files.get? loc := by
  by_cases hloc : ∃ n ∈ nodes, ∃ kind, loc = (plan.job n).spot place kind
  · obtain ⟨n, hn, kind, rfl⟩ := hloc
    exact (hagree n (hperm.mem_iff.2 hn)).files kind
  · have hne (n : NodeInfo) (hn : n ∈ nodes) (kind : EndpointKind) :
        loc ≠ (plan.job n).spot place kind := fun he => hloc ⟨n, hn, kind, he⟩
    have ho := files_elsewhere hlisted hr.within hne
    have ha := files_elsewhere hlisted' hr'.within fun n hn => hne n (hperm.mem_iff.1 hn)
    exact ha.trans ((hs.files loc).trans ho.symm)

end Permuted

/-- Every node comes to the same as if it were listed alone, whatever else is listed. So the
order of the listing and the bound on concurrency show neither in the report, read
as a map, nor in the files. -/
theorem collect_isolated {backoff : Backoff}
    (hl : (Directory.readyNodes backoff).outcome o = (.ok nodes, o₁))
    (h : plan.Serves place o nodes) (hapart : plan.Apart nodes) :
    ∃ report o', (collect plan backoff).outcome o = (.ok report, o') ∧
      ∀ (k : Int) (backoff' : Backoff) (a a₁ : Outside) (nodes' : List NodeInfo), o.Shares a →
        (Directory.readyNodes backoff').outcome a = (.ok nodes', a₁) →
          (∀ n ∈ nodes, nodes' = [n] → ∃ report' a',
            (collect { plan with maxConcurrency := k } backoff').outcome a = (.ok report', a') ∧
              plan.Agree place n report report' o o' a a' ∧
              a.asked a' = plan.ofNode n (a.asked a')) ∧
          (nodes'.Perm nodes → ∃ report' a',
            (collect { plan with maxConcurrency := k } backoff').outcome a = (.ok report', a') ∧
              (∀ name, report'.failures.get? name = report.failures.get? name ∧
                report'.fallbacks.get? name = report.fallbacks.get? name) ∧
              ∀ loc, a'.files.get? loc = o'.files.get? loc) := by
  have hlisted := (Directory.readyNodes_within Scope.idle hl).1
  obtain ⟨order, report, o', hr⟩ := (h.within hlisted).runs
  have hcollect := (outcome_collect_listed plan hl).trans hr.work
  refine ⟨report, o', hcollect, fun k backoff' a a₁ nodes' hs hl' => ?_⟩
  have hlisted' := (Directory.readyNodes_within Scope.idle hl').1
  constructor
  · rintro n hn rfl
    obtain ⟨order', report', a', hr', hcollect', hagree⟩ := collect_agree (k := k) hl' h hapart
      (by simpa using hn) (by simp) hs hlisted hr
    refine ⟨report', a', hcollect', hagree n (by simp), ?_⟩
    rw [Outside.asked_idle hlisted' hr'.within.grows]
    exact (Plan.ofNode_self hr'.within).symm
  · intro hperm
    obtain ⟨order', report', a', hr', hcollect', hagree⟩ := collect_agree (k := k) hl' h hapart
      hperm.subset ((hperm.map _).nodup_iff.2 h.distinct) hs hlisted hr
    exact ⟨report', a', hcollect', reports_same hperm hagree hr hr',
      files_same hperm hagree hr hr' hs hlisted hlisted'⟩

end Cycle

/-! One of the two nodes alone, and both in the other order. -/

namespace Sample

open KubeletCollector.Cycle

def second : List (String × String) := [("b", "10.0.0.2")]

def turned : List (String × String) := [("b", "10.0.0.2"), ("a", "10.0.0.1")]

def listingOf (named : List (String × String)) : Outside :=
  { outside with listings := [.nodes (named.map fun n => some (described n.1 n.2))] }

theorem shares (named : List (String × String)) : outside.Shares (listingOf named) :=
  ⟨fun side => by cases side <;> rfl, fun _ => rfl⟩

theorem apart : plan.Apart nodes := by
  intro n hn m hm hne _ _ a b ha hb
  simp only [nodes, List.mem_cons, List.not_mem_nil, or_false] at hn hm
  rcases hn with rfl | rfl <;> rcases hm with rfl | rfl <;> first
    | exact absurd rfl hne
    | cases ha; cases hb; decide

/-- The second node alone, and both in the other order with eight set off at once. -/
theorem isolated_of_two : ∃ report o',
    (collect plan { steps := 1 }).outcome outside = (.ok report, o') ∧
      (∃ report' a', (collect plan { steps := 1 }).outcome (listingOf second) = (.ok report', a') ∧
        plan.Agree [] (node "b" "10.0.0.2") report report' outside o' (listingOf second) a') ∧
      ∃ report' a', (collect { plan with maxConcurrency := 8 } { steps := 1 }).outcome
          (listingOf turned) = (.ok report', a') ∧
        (∀ name, report'.failures.get? name = report.failures.get? name ∧
          report'.fallbacks.get? name = report.fallbacks.get? name) ∧
        ∀ loc, a'.files.get? loc = o'.files.get? loc := by
  obtain ⟨report, o', hcollect, hsame⟩ := collect_isolated listed serves apart
  refine ⟨report, o', hcollect, ?_, ?_⟩
  · obtain ⟨halone, -⟩ := hsame 1 { steps := 1 } _ _ _ (shares second)
      (listed_described second rfl (by decide))
    obtain ⟨report', a', hout, hagree, -⟩ := halone (node "b" "10.0.0.2") (by simp [nodes]) rfl
    exact ⟨report', a', hout, hagree⟩
  · obtain ⟨-, hturned⟩ := hsame 8 { steps := 1 } _ _ _ (shares turned)
      (listed_described turned rfl (by decide))
    exact hturned (List.Perm.swap _ _ _)

end Sample

end KubeletCollector
