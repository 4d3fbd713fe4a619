import KubeletCollector.Proofs.Blur
import KubeletCollector.Proofs.Shutdown

/-! How starting ends where nothing fails but the listing and the wire. A path that fails to be
probed is one more result, and so is a cluster without a node to probe. One thing gets out: the
first node has an address without a value, and it is to be asked directly. -/

namespace KubeletCollector

open Act

def Outside.OnlyWire (o : Outside) : Prop :=
  ∀ side line i f, (o.script side line i).fault? = some f → f.isWire = true

def Fault.OfProbe (f : Fault) : Prop :=
  ∃ url cause, f = .probe url cause

/-- Which nodes are ready does not depend on what is on record. -/
theorem Directory.readyAt_recorded (backoff : Backoff) (o : Outside) (trace : List Event)
    (log : List LogRecord) :
    Directory.readyAt backoff { o with trace, log } = Directory.readyAt backoff o := by
  have hhidden : Blur.all.Hides o { o with trace, log } := ⟨trace, log, rfl, trivial, trivial⟩
  unfold Directory.readyAt
  rw [(Blur.all.readyNodes backoff o _ hhidden).1]

namespace Source

def Probing.Addressed (probing : Probing) : Prop :=
  ∀ kind, ∃ url, probing.endpoints.url? kind = some url

variable {start : Outside}

theorem keeps_probe (hw : start.OnlyWire) (client : Client) (url method : String)
    (timeout : Option Float) :
    Keeps (Within Scope.all start) (fun _ => True) Fault.OfProbe
      (client.probe url method timeout) := by
  unfold Client.probe
  refine Keeps.bind (keeps_exchange trivial) fun reply ⟨i, hreply⟩ => ?_
  have hthrow (f : Fault) (hf : reply.fault? = some f) :
      Keeps (Within Scope.all start) (fun _ => True) Fault.OfProbe
        (throw (Client.probeFault url f) : Act (Option Text.Bytes)) := by
    refine Keeps.throw ⟨url, f, ?_⟩
    rw [Client.probeFault, if_pos (hw _ _ i f (hreply ▸ hf))]
  rcases reply with ⟨status, chunks, _ | f⟩ | f
  · dsimp only
    split
    · exact Keeps.pure trivial
    · exact Keeps.bind (keeps_log _ _ _ _) fun _ _ => Keeps.pure trivial
  · exact hthrow f rfl
  · exact hthrow f rfl

namespace Probing.Addressed

variable {start : Outside} {probing : Probing}

theorem answers (h : probing.Addressed) (hw : start.OnlyWire) (kind : EndpointKind) :
    Keeps (Within Scope.all start) (fun _ => True) Fault.OfProbe (probing.answers kind) := by
  unfold Probing.answers
  split
  · exact Keeps.pure trivial
  · obtain ⟨url, hu⟩ := h kind
    simp only [hu]
    refine Keeps.bind (keeps_probe hw _ _ _ _) fun _ _ => ?_
    exact Keeps.bind (keeps_log _ _ _ _) fun _ _ => Keeps.pure trivial

/-- A mask that takes writes takes all of them. -/
theorem marksFrom (h : probing.Addressed) (hw : start.OnlyWire) (kinds : List EndpointKind)
    {mask : EndpointMask} (hm : mask.frozen = false) :
    Keeps (Within Scope.all start) (fun marked => ∀ f, marked.2 = some f → f.OfProbe)
      (fun _ => False) (probing.marksFrom kinds mask) := by
  induction kinds generalizing mask with
  | nil => exact Keeps.pure nofun
  | cons kind kinds ih =>
    unfold Probing.marksFrom
    refine Keeps.attempt (h.answers hw kind) (fun available _ => ?_) fun f hf => Keeps.pure ?_
    · simp only [EndpointMask.set?, hm, Bool.false_eq_true, ↓reduceIte]
      exact ih ((EndpointMask.frozen_mark mask kind available).trans hm)
    · rintro _ ⟨⟩
      exact hf

theorem probePath (h : probing.Addressed) (hw : start.OnlyWire) (label : String) :
    Keeps (Within Scope.all start) (fun _ => True) (fun _ => False)
      (Source.probePath label probing) := by
  unfold Source.probePath Probing.marks
  refine Keeps.bind (h.marksFrom hw EndpointKind.fetchOrder rfl) fun ⟨mask, fault⟩ hfault => ?_
  cases fault with
  | none => exact Keeps.bind (keeps_log _ _ _ _) fun _ _ => Keeps.pure trivial
  | some f =>
    obtain ⟨url, cause, rfl⟩ := hfault f rfl
    exact Keeps.bind (keeps_log _ _ _ _) fun _ _ => Keeps.pure trivial

end Probing.Addressed

/-- At an address without a value not even the first endpoint can be asked. -/
theorem probePath_unaddressed (label : String) {probing : Probing} {port : Int}
    (h : probing.endpoints = .direct none port) (o : Outside) :
    (probePath label probing).outcome o = (.error .addressWithoutValue, o) := by
  have hfirst : (probing.answers .summary).outcome o = (.error .addressWithoutValue, o) := by
    unfold Probing.answers
    rw [h]
    rfl
  unfold probePath Probing.marks EndpointKind.fetchOrder Probing.marksFrom
  simp only [outcome_bind, outcome_attempt, hfirst]
  rfl

/-- A choice that is made, or that fails as the agent expects it to. -/
inductive Decided : Except Fault Source → Prop
  | usable {session : Session} : session.mode = .direct ∨ session.mode = .proxy →
      session.retrieveSummaries = true → Decided (.ok (.usable session))
  | unreachable {session : Session} {cause : Option Fault} : session.mode = .unreachable →
      session.retrieveSummaries = false → Decided (.ok (.unreachable session cause))
  | failed {f : Fault} : f.isOwn = true → f.message ≠ "" → Decided (.error f)

/-- Of some ready nodes, the first is to be asked directly at an address without a value. -/
structure Stranded (settings : Settings) (ready : List NodeInfo) : Prop where
  direct : allowsDirect settings.kubelet.forceProxy ready = true
  unaddressed : ∃ first a, ready.head? = some first ∧ first.internalAddress? = some a ∧
    a.address = none

variable {settings : Settings} {backoff : Backoff} {nodeClient clusterClient : Client}
  {o o₁ : Outside}

theorem candidates_own {f : Fault} (h : (candidates backoff).outcome o = (.error f, o₁)) :
    f.isOwn = true ∧ f.message ≠ "" := by
  unfold candidates at h
  rw [outcome_bind, outcome_attempt] at h
  rcases hl : (Directory.readyNodes backoff).outcome o with ⟨g | _ | ⟨n, rest⟩, o'⟩ <;>
    simp only [hl] at h
  · cases h
    exact ⟨rfl, append_ne_empty (by decide)⟩
  · cases h
    exact ⟨rfl, append_ne_empty (by decide)⟩
  · cases ha : Directory.address n with
    | error g =>
      rw [ha] at h
      cases h
      exact ⟨rfl, append_ne_empty (by decide)⟩
    | ok a =>
      rw [ha] at h
      cases h

theorem candidates_found {first : NodeInfo} {a : Address}
    (hh : (Directory.readyAt backoff o).head? = some first)
    (ha : first.internalAddress? = some a) : ∃ o₁, (candidates backoff).outcome o =
      (.ok (Directory.readyAt backoff o, first, a.address, first.kubeletPort), o₁) := by
  unfold candidates
  rw [outcome_bind, outcome_attempt]
  unfold Directory.readyAt at hh ⊢
  rcases hl : (Directory.readyNodes backoff).outcome o with ⟨f | _ | ⟨n, rest⟩, o₁⟩ <;>
    simp only [hl] at hh ⊢
  · cases hh
  · cases hh
  · cases hh
    simp only [Directory.address, ha]
    exact ⟨o₁, rfl⟩

/-- Whether it is so can be told from the node that would be probed. -/
theorem stranded_iff {ready : List NodeInfo} {first : NodeInfo} {ip : Option String} {port : Int}
    (hc : (candidates backoff).outcome o = (.ok (ready, first, ip, port), o₁)) :
    Stranded settings (Directory.readyAt backoff o) ↔
      allowsDirect settings.kubelet.forceProxy ready = true ∧ ip = none := by
  obtain ⟨hl, hhead, a, ha, rfl, rfl⟩ := candidates_ok hc
  rw [Directory.readyAt_eq hl]
  constructor
  · rintro ⟨hallowed, n, b, hn, hb, hnone⟩
    cases hhead.symm.trans hn
    cases ha.symm.trans hb
    exact ⟨hallowed, hnone⟩
  · rintro ⟨hallowed, hnone⟩
    exact ⟨hallowed, first, a, hhead, ha, hnone⟩

theorem Decided.of_keeps {I : Outside → Prop} {act : Act Source}
    (h : Keeps I (fun source => Decided (.ok source)) (fun _ => False) act) (hi : I o) :
    Decided (act.outcome o).1 := by
  obtain ⟨source, o', hout, hdecided, -⟩ := h.returns hi
  rw [hout]
  exact hdecided

theorem choose_decides (hw : o.OnlyWire) (hs : ¬ Stranded settings (Directory.readyAt backoff o)) :
    Decided ((choose settings backoff nodeClient clusterClient).outcome o).1 := by
  rcases hc : (candidates backoff).outcome o with ⟨f | ⟨ready, first, ip, port⟩, o₁⟩
  · obtain ⟨hown, hmessage⟩ := candidates_own hc
    unfold choose
    rw [outcome_bind, hc]
    exact Decided.failed hown hmessage
  rw [stranded_iff hc] at hs
  have hlisted := (Directory.readyNodes_within Scope.all (candidates_ok hc).1).1
  unfold choose
  rw [outcome_bind, hc]
  refine Decided.of_keeps (I := Within Scope.all o) ?_ hlisted
  have hdecide := holds_decideDirect (L := Scope.all.logic o) (E := fun _ => False)
    settings.kubelet.forceProxy ready
  refine Keeps.bind hdecide.keeps fun allowed hallowed => ?_
  dsimp only
  rw [← ite_bind]
  refine Keeps.bind (V := fun _ => True) ?_ fun directProbe _ => ?_
  · cases allowed with
    | false => exact Keeps.pure trivial
    | true =>
      obtain ⟨address, rfl⟩ := Option.ne_none_iff_exists'.1 fun hnone => hs ⟨hallowed.symm, hnone⟩
      exact Probing.Addressed.probePath (fun kind => ⟨_, rfl⟩) hw "direct"
  refine Keeps.bind (Probing.Addressed.probePath (fun kind => ⟨_, rfl⟩) hw "proxy")
    fun proxyProbe _ => ?_
  refine Keeps.bind (V := fun _ => True) (fun o h => ⟨h, trivial⟩) fun probedAt _ => ?_
  split
  · exact Keeps.bind (keeps_log _ _ _ _) fun _ _ => Keeps.pure (Decided.usable (Or.inl rfl) rfl)
  · split
    · exact Keeps.bind (keeps_log _ _ _ _) fun _ _ => Keeps.pure (Decided.usable (Or.inr rfl) rfl)
    · exact Keeps.pure (Decided.unreachable rfl rfl)

theorem choose_stranded (hs : Stranded settings (Directory.readyAt backoff o)) :
    ((choose settings backoff nodeClient clusterClient).outcome o).1 =
      .error .addressWithoutValue := by
  obtain ⟨hallowed, first, a, hhead, ha, hnone⟩ := hs
  obtain ⟨o₁, hc⟩ := candidates_found hhead ha
  have hdecide (ready : List NodeInfo) : Keeps (Within Scope.all o₁)
      (fun allowed => allowed = allowsDirect settings.kubelet.forceProxy ready) (fun _ => False)
      (decideDirect settings.kubelet.forceProxy ready) :=
    (holds_decideDirect (L := Scope.all.logic o₁) _ ready).keeps
  obtain ⟨allowed, o₂, hdecided, rfl, -⟩ :=
    (hdecide (Directory.readyAt backoff o)).returns (Within.refl _ o₁)
  unfold choose
  simp only [outcome_bind, hc, hdecided, hallowed, hnone, ↓reduceIte]
  rw [probePath_unaddressed "direct" rfl]

end Source

namespace Agent

/-- How nodes are reached is settled: they are collected from, directly or through the proxy, or
they are not, and unless the configuration says so the state tells why. -/
inductive Settled (settings : Settings) (state : CollectionState) : Prop
  | collects {session : Session} : state.session = some session → state.isEnabled = true →
      session.mode = .direct ∨ session.mode = .proxy → Settled settings state
  | disabled : state.isEnabled = false →
      (∀ session, state.session = some session → session.mode = .unreachable) →
      (settings.collection.retrieveSummaries = true → state.probeError ≠ "") →
      Settled settings state

theorem Settled.unset {settings : Settings} {state : CollectionState} (h : state.session = none)
    (he : settings.collection.retrieveSummaries = true → state.probeError ≠ "") :
    Settled settings state := by
  refine Settled.disabled ?_ (fun session hs => ?_) he
  · rw [CollectionState.isEnabled, h]
    rfl
  · cases h.symm.trans hs

/-- The agent is to collect, and to ask the first of the nodes directly at an address without a
value. -/
structure Stranded (settings : Settings) (ready : List NodeInfo) : Prop
    extends Source.Stranded settings ready where
  collects : settings.collection.retrieveSummaries = true

variable {settings : Settings} {hook : Option BaselineHook} {clients : Client × Client}
  {o : Outside}

theorem probe_settles (hw : o.OnlyWire) (hs : ¬ Stranded settings (Directory.readyAt {} o)) :
    ∃ state o', (assembled settings hook clients).probe.outcome o = (.ok state, o') ∧
      Settled settings state := by
  unfold probe assembled
  dsimp only
  by_cases hr : settings.collection.retrieveSummaries = true
  · have hdecided : Source.Decided
        ((Source.choose settings {} clients.1 clients.2).outcome o).1 :=
      Source.choose_decides hw fun h => hs ⟨h, hr⟩
    simp only [hr, Bool.not_true, Bool.false_eq_true, ↓reduceIte, outcome_bind, outcome_attempt]
    rcases hc : (Source.choose settings {} clients.1 clients.2).outcome o with ⟨chosen, o₁⟩
    rw [hc] at hdecided
    cases hdecided with
    | usable hmode hcollects =>
      refine ⟨_, o₁, rfl, Settled.collects rfl ?_ hmode⟩
      simpa [CollectionState.isEnabled] using hcollects
    | unreachable hmode hcollects =>
      refine ⟨_, _, rfl, Settled.disabled ?_ ?_ fun _ => append_ne_empty (by decide)⟩
      · simpa [CollectionState.isEnabled] using hcollects
      · rintro _ ⟨⟩
        exact hmode
    | failed hown hmessage =>
      simp only [hown, Bool.not_true, Bool.false_eq_true, ↓reduceIte, outcome_bind, outcome_log,
        outcome_pure]
      exact ⟨_, _, rfl, Settled.unset rfl fun _ => hmessage⟩
  · rw [Bool.not_eq_true] at hr
    simp only [hr, Bool.not_false, ↓reduceIte, outcome_bind, outcome_log, outcome_pure]
    exact ⟨_, _, rfl, Settled.unset rfl fun h => by cases hr.symm.trans h⟩

theorem probe_stranded (hs : Stranded settings (Directory.readyAt {} o)) :
    ((assembled settings hook clients).probe.outcome o).1 = .error .addressWithoutValue := by
  have hchosen : ((Source.choose settings {} clients.1 clients.2).outcome o).1 =
      .error .addressWithoutValue := Source.choose_stranded hs.toStranded
  unfold probe assembled
  simp only [hs.collects, Bool.not_true, Bool.false_eq_true, ↓reduceIte, outcome_bind,
    outcome_attempt, hchosen]
  rfl

/-- An agent that was to ask such a node does not start. -/
theorem start_stranded (settings : Settings) (hook : Option BaselineHook) (o : Outside)
    (ho : .clusterClient ∈ o.startable settings)
    (hs : Stranded settings (Directory.readyAt {} o)) :
    ∃ agent o', (start { settings, hook }).outcome o =
      (.ok (agent, some (.other .addressWithoutValue)), o') := by
  obtain ⟨hf, ho⟩ := Outside.mem_startable.1 ho
  obtain ⟨agent, fault, o₁, ⟨-, trace, log, rfl⟩, hopened, hstart⟩ := outcome_start hook o hf
  obtain ⟨rfl, clients, rfl⟩ := hopened.all ho
  rw [← Directory.readyAt_recorded {} o trace log] at hs
  simp only [enterService_eq, outcome_bind, outcome_attempt, probe_stranded hs] at hstart
  exact ⟨_, _, hstart⟩

theorem start_settles (settings : Settings) (hook : Option BaselineHook) (o : Outside)
    (ho : .clusterClient ∈ o.startable settings) (hw : o.OnlyWire)
    (hs : ¬ Stranded settings (Directory.readyAt {} o)) :
    ∃ agent o', (start { settings, hook }).outcome o = (.ok (agent, none), o') ∧
      Settled settings agent.state := by
  obtain ⟨hf, ho⟩ := Outside.mem_startable.1 ho
  obtain ⟨agent, fault, o₁, ⟨-, trace, log, rfl⟩, hopened, hstart⟩ := outcome_start hook o hf
  obtain ⟨rfl, clients, rfl⟩ := hopened.all ho
  rw [← Directory.readyAt_recorded {} o trace log] at hs
  have hprobes : ∃ state o₂, (assembled settings hook clients).probe.outcome
      { o with trace, log } = (.ok state, o₂) ∧ Settled settings state := probe_settles hw hs
  obtain ⟨state, o₂, hprobe, hsettled⟩ := hprobes
  obtain ⟨_, o₃, hentered, rfl, -⟩ :=
    ((assembled settings hook clients).closed_enter state).returns (Outside.Closed.refl o₂)
  simp only [enterService_eq, outcome_bind, outcome_attempt, hprobe] at hstart
  exact ⟨_, o₃, hstart.trans hentered, hsettled⟩

/-- An agent that can set up its log and open all its parts settles how nodes are reached, unless it is
to ask its first node directly at an address without a value. Then the fault of that address is what
keeps it from starting. -/
theorem start_settles_iff (settings : Settings) (hook : Option BaselineHook) (o : Outside)
    (ho : .clusterClient ∈ o.startable settings) (hw : o.OnlyWire) :
    ((∃ agent o', (start { settings, hook }).outcome o = (.ok (agent, none), o') ∧
        Settled settings agent.state) ↔ ¬ Stranded settings (Directory.readyAt {} o)) ∧
      (Stranded settings (Directory.readyAt {} o) → ∃ agent o',
        (start { settings, hook }).outcome o =
          (.ok (agent, some (.other .addressWithoutValue)), o')) := by
  refine ⟨⟨?_, start_settles settings hook o ho hw⟩, start_stranded settings hook o ho⟩
  rintro ⟨agent, o', hok, -⟩ hs
  obtain ⟨other, o'', hfault⟩ := start_stranded settings hook o ho hs
  rw [hok] at hfault
  cases hfault

end Agent

/-! A cluster of one node and nobody to answer for it. -/

namespace Sample

def lone (n : NodeObject) : Outside where
  listings := [.nodes [some n]]

theorem lone_onlyWire (n : NodeObject) : (lone n).OnlyWire := by
  intro side line i f hf
  have hnone : (lone n).script side line i = .response 404 [] none := by
    cases side <;> exact Routes.script_unrouted rfl i
  rw [hnone] at hf
  cases hf

theorem lone_ready {n : NodeObject} {info : NodeInfo} (hs : n.snapshot = .ok info)
    (hr : info.isReady = true) : Directory.readyAt {} (lone n) = [info] := by
  have hsnapshots : snapshots [some n] = .ok [info] := by
    simp only [snapshots, List.mapM_cons, List.mapM_nil, hs]
    rfl
  exact Directory.readyAt_undisturbed rfl hsnapshots (by simpa using hr) (by simp)

theorem castaway_stranded : Agent.Stranded settings (Directory.readyAt {} (lone unaddressed)) := by
  rw [lone_ready snapshot_unaddressed (by decide)]
  exact ⟨⟨by decide, castaway, _, rfl, rfl, rfl⟩, rfl⟩

theorem unaddressed_startable : .clusterClient ∈ (lone unaddressed).startable settings := by
  decide +kernel

theorem described_startable :
    .clusterClient ∈ (lone (described "a" "10.0.0.1")).startable settings := by
  decide +kernel

/-- The node without an address keeps the agent from starting. -/
theorem start_fails_unaddressed : .clusterClient ∈ (lone unaddressed).startable settings ∧
    (lone unaddressed).OnlyWire ∧
      ∃ agent o', (Agent.start { settings }).outcome (lone unaddressed) =
        (.ok (agent, some (.other .addressWithoutValue)), o') :=
  ⟨unaddressed_startable, lone_onlyWire _,
    Agent.start_stranded settings none _ unaddressed_startable castaway_stranded⟩

/-- Both ends of a start: with a node that has an address, though nobody answers, and with one that
has none. -/
theorem settles_of_two :
    (∃ agent o', (Agent.start { settings }).outcome (lone (described "a" "10.0.0.1")) =
        (.ok (agent, none), o') ∧ Agent.Settled settings agent.state) ∧
      ¬ ∃ agent o', (Agent.start { settings }).outcome (lone unaddressed) =
        (.ok (agent, none), o') ∧ Agent.Settled settings agent.state := by
  constructor
  · refine (Agent.start_settles_iff settings none _ described_startable (lone_onlyWire _)).1.2 ?_
    rw [lone_ready (snapshot_described "a" "10.0.0.1") (by decide)]
    rintro ⟨⟨-, first, a, ⟨⟩, ⟨⟩, ⟨⟩⟩, -⟩
  · intro h
    exact (Agent.start_settles_iff settings none _ unaddressed_startable (lone_onlyWire _)).1.1 h
      castaway_stranded

end Sample

end KubeletCollector
