import KubeletCollector.Proofs.Choice
import KubeletCollector.Proofs.Ending

/-! Who is asked on the node side: kubelets of ready nodes outside Fargate, at their internal
addresses. In a session that does not go direct nobody is, and a session goes direct
only if that was allowed when it was chosen. A run is a choice and then cycles, each
with an outside of its own, so listings and replies may change in any way between them. -/

namespace KubeletCollector

open Text Act

/-- A request to the kubelet of a ready node, at its internal address. -/
def NodeInfo.Reached (n : NodeInfo) (r : Request) : Prop :=
  n.isReady = true ∧ n.isFargate = false ∧ ∃ a ip kind, n.internalAddress? = some a ∧
    a.address = some ip ∧ r.url = directUrl ip n.kubeletPort kind

/-- Kubelets are asked only if that is `permitted`, and only those of `ready` nodes. -/
def kubelets (permitted : Prop) (ready : List NodeInfo) : Scope where
  asks r := r.side = .node → permitted ∧ ∃ n ∈ ready, n.Reached r
  writes _ := True

def noKubelet : Scope where
  asks r := r.side ≠ .node
  writes _ := True

namespace Session.Wired

variable {session : Session} {job : Job} {n : NodeInfo} {start : Outside} {ready : List NodeInfo}

theorem covers (h : session.Wired) (hn : n ∈ ready) (hr : n.isReady = true) :
    Covers ((kubelets (session.mode = .direct) ready).logic start) (fun _ => True) session job
      n where
  direct hd client a hc ha := by
    refine Passes.free (fun _ _ _ => trivial) fun kind _ url hu _ => ?_
    obtain ⟨ip, hip, rfl⟩ := NodeEndpoints.direct_of_url hu
    exact ⟨hd.1, n, hn, hr, hd.2, a, ip, kind, ha, hip, rfl⟩
  proxy client hc := by
    refine Passes.free (fun _ _ _ => trivial) fun kind _ url _ hside => ?_
    cases (h.cluster client hc).symm.trans hside

/-- A node without an internal address is collected without asking its kubelet. -/
theorem covers_unaddressed (h : session.Wired) (ha : n.internalAddress? = none) :
    Covers (noKubelet.logic start) (fun _ => True) session job n where
  direct _ _ a _ hsome := by cases ha.symm.trans hsome
  proxy client hc := by
    refine Passes.free (fun _ _ _ => trivial) fun kind _ url _ hside => ?_
    cases (h.cluster client hc).symm.trans hside

end Session.Wired

namespace Cycle

theorem collect_kubelets (plan : Plan) (h : plan.session.Wired) (backoff : Backoff) (o : Outside) :
    Within (kubelets (plan.session.mode = .direct) (Directory.readyAt backoff o)) o
      ((collect plan backoff).outcome o).2 := by
  have hready := (Directory.readyAt_within backoff o Scope.idle).2
  have hcovers (n : NodeInfo) (hn : n ∈ Directory.readyAt backoff o) :
      Covers ((kubelets (plan.session.mode = .direct) (Directory.readyAt backoff o)).logic o)
        (fun _ => True) plan.session (plan.job n) n := h.covers hn (hready n hn)
  rcases collect_within hcovers with ⟨f, o', -, hout, hidle⟩ |
    ⟨-, result, o', -, hout, hwithin, -⟩
  · rw [hout]
    exact hidle.mono nofun nofun
  · rw [hout]
    exact hwithin

end Cycle

namespace Source

variable {settings : Settings} {nodeClient clusterClient : Client}

theorem keeping_direct {n : NodeInfo} {a : Address} {ready : List NodeInfo} {permitted : Prop}
    (hp : permitted) (hf : n.isFargate = false) (hn : n ∈ ready) (hr : n.isReady = true)
    (ha : n.internalAddress? = some a) :
    (probingOf settings nodeClient (.direct a.address n.kubeletPort)).Allowed
      ((kubelets permitted ready).logic start) := by
  intro kind url _ hu _
  obtain ⟨ip, hip, rfl⟩ := NodeEndpoints.direct_of_url hu
  exact ⟨hp, n, hn, hr, hf, a, ip, kind, ha, hip, rfl⟩

theorem keeping_cluster {scope : Scope} {endpoints : NodeEndpoints}
    (hc : clusterClient.side = .cluster) (ha : ∀ r : Request, r.side = .cluster → scope.asks r) :
    (probingOf settings clusterClient endpoints).Allowed (scope.logic start) :=
  fun _ _ _ _ => ha _ hc

theorem not_fargate_of_allows {forceProxy : Bool} {ready : List NodeInfo} {n : NodeInfo}
    (h : allowsDirect forceProxy ready = true) (hn : n ∈ ready) : n.isFargate = false := by
  unfold allowsDirect at h
  simp only [Bool.and_eq_true, Bool.not_eq_true', List.any_eq_false] at h
  simpa using h.2 n hn

theorem cluster_not_node {r : Request} (h : r.side = .cluster) : r.side ≠ .node := by
  rw [h]
  exact nofun

/-- Choosing asks the first ready node at most, and only if that is allowed. -/
theorem choose_kubelets (settings : Settings) (nodeClient : Client)
    (hc : clusterClient.side = .cluster) (backoff : Backoff) (o : Outside) :
    Within (kubelets (allowsDirect settings.kubelet.forceProxy (Directory.readyAt backoff o) = true)
        (Directory.readyAt backoff o)) o
      ((choose settings backoff nodeClient clusterClient).outcome o).2 := by
  obtain ⟨-, hready⟩ := Directory.readyAt_within backoff o Scope.idle
  refine choose_within settings nodeClient clusterClient fun first a hhead ha => ⟨fun hp => ?_, ?_⟩
  · have hfirst := List.mem_of_head? hhead
    exact keeping_direct hp (not_fargate_of_allows hp hfirst) hfirst (hready first hfirst) ha
  · exact keeping_cluster hc fun r hr hn => absurd hn (cluster_not_node hr)

/-- If the first ready node has no internal address, nothing is asked at all. -/
theorem choose_unaddressed (settings : Settings) (nodeClient clusterClient : Client)
    {backoff : Backoff} {o : Outside} {n : NodeInfo}
    (hn : (Directory.readyAt backoff o).head? = some n) (ha : n.internalAddress? = none) :
    Within Scope.idle o
      ((choose settings backoff nodeClient clusterClient).outcome o).2 := by
  refine choose_within settings nodeClient clusterClient fun first a hhead hsome => ?_
  obtain rfl := Option.some.inj (hn.symm.trans hhead)
  cases ha.symm.trans hsome

end Source

/-- One step of a run, by the listing that it made and the outside around it. -/
structure Step where
  backoff : Backoff
  before : Outside
  after : Outside

def Step.ready (step : Step) : List NodeInfo :=
  Directory.readyAt step.backoff step.before

def Step.sent (step : Step) : List Request :=
  step.before.asked step.after

/-- A run: a choice, and cycles with the session that it came to. -/
inductive Ran (settings : Settings) (nodeClient clusterClient : Client) :
    Except Fault Source → Step → List Step → Prop
  | chose {backoff : Backoff} {before after : Outside} {result : Except Fault Source} :
      (Source.choose settings backoff nodeClient clusterClient).outcome before = (result, after) →
      Ran settings nodeClient clusterClient result ⟨backoff, before, after⟩ []
  | cycled {source : Source} {first : Step} {steps : List Step} {plan : Cycle.Plan}
      {backoff : Backoff} {before after : Outside} {result : Except Fault FailureReport} :
      Ran settings nodeClient clusterClient (.ok source) first steps →
      plan.session = source.session →
      (Cycle.collect plan backoff).outcome before = (result, after) →
      Ran settings nodeClient clusterClient (.ok source) first (steps ++ [⟨backoff, before, after⟩])

section Runs

variable {settings : Settings} {nodeClient clusterClient : Client} {result : Except Fault Source}
  {first : Step} {steps : List Step}

namespace Ran

theorem chosen (h : Ran settings nodeClient clusterClient result first steps) {source : Source}
    (hr : result = .ok source) :
    Source.Chosen settings nodeClient clusterClient first.ready source.session := by
  induction h with
  | chose hout =>
    subst hr
    obtain ⟨ready, o₁, hl, hchosen⟩ := Source.choose_sound hout
    unfold Step.ready
    rw [Directory.readyAt_eq hl]
    exact hchosen
  | cycled _ _ _ ih => exact ih hr

theorem first_kubelets (h : Ran settings nodeClient clusterClient result first steps)
    (hc : clusterClient.side = .cluster) :
    Within (kubelets (Source.allowsDirect settings.kubelet.forceProxy first.ready = true)
        first.ready) first.before first.after := by
  induction h with
  | @chose backoff before after _ hout =>
    have hw := Source.choose_kubelets settings nodeClient hc backoff before
    rw [hout] at hw
    exact hw
  | cycled _ _ _ ih => exact ih

/-- By induction on the run: what its cycles ask is settled by the mode of its session. -/
theorem cycles_kubelets (h : Ran settings nodeClient clusterClient result first steps)
    (hn : nodeClient.side = .node) (hc : clusterClient.side = .cluster) :
    ∀ step ∈ steps, ∃ source, result = .ok source ∧
      Within (kubelets (source.session.mode = .direct) step.ready) step.before step.after := by
  induction h with
  | chose _ =>
    intro step hmem
    cases hmem
  | @cycled source first steps plan backoff before after _ hran hs hout ih =>
    intro step hmem
    rcases List.mem_append.1 hmem with hm | hm
    · exact ih step hm
    · obtain rfl := List.mem_singleton.1 hm
      refine ⟨source, rfl, ?_⟩
      have hw := Cycle.collect_kubelets plan (hs ▸ (hran.chosen rfl).wired hn hc) backoff before
      rw [hout, hs] at hw
      exact hw

theorem first_unaddressed (h : Ran settings nodeClient clusterClient result first steps)
    {n : NodeInfo} (hn : first.ready.head? = some n) (ha : n.internalAddress? = none) :
    first.sent = [] := by
  induction h with
  | @chose backoff before after _ hout =>
    have hw := Source.choose_unaddressed settings nodeClient clusterClient hn ha
    rw [hout] at hw
    exact hw.asked_nothing
  | cycled _ _ _ ih => exact ih hn

end Ran

/-- Along every run: who is asked on the node side is a ready node outside Fargate with an
internal address; nobody is if the proxy is forced, if a Fargate node was ready at the
start, or, in cycles, if the session does not go direct; and a node without an
internal address never is. -/
theorem ran_kubelets (h : Ran settings nodeClient clusterClient result first steps)
    (hn : nodeClient.side = .node) (hc : clusterClient.side = .cluster) :
    (∀ step ∈ first :: steps, ∀ r ∈ step.sent, r.side = .node → ∃ n ∈ step.ready, n.Reached r) ∧
      ((settings.kubelet.forceProxy = true ∨ ∃ n ∈ first.ready, n.isFargate = true) →
        ∀ step ∈ first :: steps, ∀ r ∈ step.sent, r.side ≠ .node) ∧
      (∀ source, result = .ok source → source.session.mode ≠ .direct →
        ∀ step ∈ steps, ∀ r ∈ step.sent, r.side ≠ .node) ∧
      ∀ n : NodeInfo, n.internalAddress? = none →
        (first.ready.head? = some n → first.sent = []) ∧
          ∀ (source : Source) (plan : Cycle.Plan) (report : FailureReport) (before : Outside),
            result = .ok source → plan.session = source.session →
              ∀ r ∈ before.asked ((plan.collect report n).outcome before).2, r.side ≠ .node := by
  have hfirst := (h.first_kubelets hc).asked
  have hcycles := h.cycles_kubelets hn hc
  refine ⟨?_, ?_, ?_, ?_⟩
  · rintro step (_ | ⟨_, hmem⟩) r hr hside
    · exact (hfirst r hr hside).2
    · obtain ⟨source, -, hw⟩ := hcycles step hmem
      exact (hw.asked r hr hside).2
  · intro hforbidden
    have hnot : ¬ Source.allowsDirect settings.kubelet.forceProxy first.ready = true := by
      intro hallowed
      rcases hforbidden with hforce | ⟨n, hmem, hfargate⟩
      · rw [hforce] at hallowed
        cases hallowed
      · rw [Source.not_fargate_of_allows hallowed hmem] at hfargate
        cases hfargate
    rintro step (_ | ⟨_, hmem⟩) r hr hside
    · exact hnot (hfirst r hr hside).1
    · obtain ⟨source, hs, hw⟩ := hcycles step hmem
      exact hnot ((h.chosen hs).direct (hw.asked r hr hside).1).2
  · intro source hs hmode step hmem r hr hside
    obtain ⟨source', hs', hw⟩ := hcycles step hmem
    obtain rfl := Except.ok.inj (hs.symm.trans hs')
    exact hmode (hw.asked r hr hside).1
  · intro n ha
    refine ⟨fun hhead => h.first_unaddressed hhead ha, ?_⟩
    intro source plan report before hs hp
    have hwired : plan.session.Wired := hp ▸ (h.chosen hs).wired hn hc
    have hcover : Covers (noKubelet.logic before) (fun _ => True) plan.session (plan.job n) n :=
      hwired.covers_unaddressed ha
    exact ((hcover.collect report).keeps before (Within.refl _ before)).1.asked

end Runs

/-- A run of a choice and a cycle. -/
theorem ran_kubelets_of_one : ∃ source first step,
    Ran Sample.settings Sample.nodeClient Sample.clusterClient (.ok source) first [step] ∧
      ∀ s ∈ [first, step], ∀ r ∈ s.sent, r.side = .node → ∃ n ∈ s.ready, n.Reached r := by
  have hsome : Sample.chosen?.isSome = true := by decide +kernel
  obtain ⟨session, hs⟩ := Option.isSome_iff_exists.1 hsome
  obtain ⟨o', hchoose⟩ := Sample.chosen_usable hs
  let plan : Cycle.Plan :=
    { session, artifactPrefix := "agent", dir := ⟨.root, []⟩, hostUrl := "http://api" }
  rcases hcollect : (Cycle.collect plan {}).outcome o' with ⟨result, after⟩
  have hran := Ran.cycled (Ran.chose hchoose) rfl hcollect
  exact ⟨_, _, _, hran, (ran_kubelets hran rfl rfl).1⟩

end KubeletCollector
