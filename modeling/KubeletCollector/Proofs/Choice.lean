import KubeletCollector.Proofs.Bounds
import KubeletCollector.Proofs.Listing

/-! How a session comes about. Probing asks each endpoint of its path at most once, and a
path that was found usable has a usable mask. A session that goes direct was allowed
to; one that goes by the proxy alone found the proxy usable. -/

namespace KubeletCollector

open Text Act

variable {L : Act.Logic}

def Source.Probing.request (probing : Source.Probing) (url : String) (kind : EndpointKind) :
    Request :=
  ⟨probing.client.side, .probe, kind.method, url, probing.client.headers, none, probing.timeout⟩

def Source.Probing.Includes (probing : Source.Probing) (kind : EndpointKind) : Prop :=
  kind = .container → probing.retrieveContainers = true

def Source.Probing.Allowed (L : Act.Logic) (probing : Source.Probing) : Prop :=
  ∀ kind url, probing.Includes kind → probing.endpoints.url? kind = some url →
    L.asks (probing.request url kind)

namespace Source

theorem holds_probe {probing : Probing} {url : String} {kind : EndpointKind}
    (h : L.asks (probing.request url kind)) :
    L.Holds (fun _ => True) (fun _ => True)
      (probing.client.probe url kind.method probing.timeout) := by
  unfold Client.probe
  refine L.bind (L.exchange h) fun reply _ => ?_
  rcases reply with ⟨status, chunks, _ | f⟩ | f
  · by_cases hs : status = 200
    · simp only [hs, ↓reduceIte]
      exact L.pure trivial
    · simp only [hs, ↓reduceIte]
      exact L.bind (L.log _ _ _ _) fun _ _ => L.pure trivial
  · exact L.throw trivial
  · exact L.throw trivial

namespace Probing.Allowed

variable {probing : Probing}

theorem answers (h : probing.Allowed L) (kind : EndpointKind) :
    L.Holds (fun _ => True) (fun _ => True) (probing.answers kind) := by
  unfold Probing.answers
  split
  · exact L.pure trivial
  · rename_i hask
    have hincludes : probing.Includes kind := fun hk => by simpa [hk] using hask
    cases hu : probing.endpoints.url? kind with
    | none => exact L.throw trivial
    | some url =>
      refine L.bind (holds_probe (h kind url hincludes hu)) fun _ _ => ?_
      exact L.bind (L.log _ _ _ _) fun _ _ => L.pure trivial

theorem marksFrom (h : probing.Allowed L) (kinds : List EndpointKind) (mask : EndpointMask) :
    L.Holds (fun _ => True) (fun _ => True) (probing.marksFrom kinds mask) := by
  induction kinds generalizing mask with
  | nil => exact L.pure trivial
  | cons kind kinds ih =>
    unfold Probing.marksFrom
    refine L.attempt (h.answers kind) (fun available _ => ?_) fun f _ => L.pure trivial
    cases hm : mask.set? kind available with
    | none =>
      simp only [hm]
      exact L.pure trivial
    | some next =>
      simp only [hm]
      exact ih next

/-- What probing a path keeps to, and that its verdict is about its mask. -/
theorem probePath (h : probing.Allowed L) (label : String) :
    L.Holds (fun p => p.usable = true → isUsable p.mask = true) (fun _ => True)
      (Source.probePath label probing) := by
  unfold Source.probePath
  refine L.bind (h.marksFrom EndpointKind.fetchOrder {}) fun ⟨mask, fault⟩ _ => ?_
  cases fault with
  | none => exact L.bind (L.log _ _ _ _) fun _ _ => L.pure id
  | some f =>
    cases f with
    | probe url cause => exact L.bind (L.log _ _ _ _) fun _ _ => L.pure nofun
    | _ => exact L.throw trivial

end Probing.Allowed

/-- What a session owes to the probing that it comes from, for the nodes that were ready. -/
structure Chosen (settings : Settings) (nodeClient clusterClient : Client) (ready : List NodeInfo)
    (session : Session) : Prop where
  direct : session.mode = .direct →
    isUsable session.directMask = true ∧ allowsDirect settings.kubelet.forceProxy ready = true
  proxy : session.mode = .proxy → isUsable session.proxyMask = true
  node : ∀ client, session.nodeClient = some client → client = nodeClient
  cluster : ∀ client, session.clusterClient = some client → client = clusterClient

theorem Chosen.wired {settings : Settings} {nodeClient clusterClient : Client}
    {ready : List NodeInfo} {session : Session}
    (h : Chosen settings nodeClient clusterClient ready session) (hn : nodeClient.side = .node)
    (hc : clusterClient.side = .cluster) : session.Wired :=
  ⟨fun client he => h.node client he ▸ hn, fun client he => h.cluster client he ▸ hc⟩

def session : Source → Session
  | .usable session | .unreachable session _ => session

def probingOf (settings : Settings) (client : Client) (endpoints : NodeEndpoints) : Probing :=
  ⟨client, endpoints, settings.collection.retrieveContainers, some settings.kubelet.probeTimeout⟩

theorem holds_decideDirect {E : Fault → Prop} (forceProxy : Bool) (nodes : List NodeInfo) :
    L.Holds (fun allowed => allowed = allowsDirect forceProxy nodes) E
      (decideDirect forceProxy nodes) := by
  unfold decideDirect
  have hend : L.Holds (fun allowed => allowed = allowsDirect forceProxy nodes) E
      (pure (allowsDirect forceProxy nodes)) := L.pure rfl
  by_cases hf : forceProxy = true
  · rw [if_pos hf]
    exact L.bind (L.log _ _ _ _) fun _ _ => hend
  · rw [if_neg hf]
    cases nodes.find? NodeInfo.isFargate with
    | none => exact hend
    | some node =>
      refine L.bind (Covers.meetsFargate node) fun _ _ => ?_
      exact L.bind (L.log _ _ _ _) fun _ _ => hend

/-- A choice among nodes that were listed: what it asks is what probing asks, and the
node itself is only probed if that is allowed. -/
theorem choose_keeps (settings : Settings) (nodeClient clusterClient : Client) {scope : Scope}
    {start o o₁ : Outside} {backoff : Backoff} {ready : List NodeInfo} {first : NodeInfo}
    {ip : Option String} {port : Int}
    (hc : (candidates backoff).outcome o = (.ok (ready, first, ip, port), o₁))
    (hw : Within scope start o₁)
    (hd : allowsDirect settings.kubelet.forceProxy ready = true →
      (probingOf settings nodeClient (.direct ip port)).Allowed (scope.logic start))
    (hp : (probingOf settings clusterClient
      (.proxy settings.kubelet.hostUrl (nameText first.name))).Allowed (scope.logic start)) :
    Within scope start ((choose settings backoff nodeClient clusterClient).outcome o).2 ∧
      ∀ source, ((choose settings backoff nodeClient clusterClient).outcome o).1 = .ok source →
        Chosen settings nodeClient clusterClient ready source.session := by
  unfold choose
  rw [outcome_bind, hc]
  refine Keeps.run (E := fun _ => True)
    (V := fun s : Source => Chosen settings nodeClient clusterClient ready s.session) ?_ hw
  refine Keeps.bind (holds_decideDirect (L := scope.logic start) _ _).keeps fun allowed ha => ?_
  dsimp only
  rw [← ite_bind]
  refine Keeps.bind
    (V := fun p : PathProbe => p.usable = true → isUsable p.mask = true ∧ allowed = true) ?_
    fun directProbe hdirect => ?_
  · cases allowed with
    | true =>
      have hprobe := ((hd ha.symm).probePath "direct").keeps
      exact hprobe.mono (fun p hu h => ⟨hu h, rfl⟩) fun _ => id
    | false => exact Keeps.pure nofun
  refine Keeps.bind (hp.probePath "proxy").keeps fun proxyProbe hproxy => ?_
  refine Keeps.bind (V := fun _ => True) (fun o h => ⟨h, trivial⟩) fun probedAt _ => ?_
  by_cases hu : directProbe.usable = true
  · rw [if_pos hu]
    obtain ⟨hmask, rfl⟩ := hdirect hu
    refine Keeps.bind (keeps_log _ _ _ _) fun _ _ => Keeps.pure ?_
    exact ⟨fun _ => ⟨hmask, ha.symm⟩, nofun, by simp [session, eq_comm], by simp [session, eq_comm]⟩
  rw [if_neg hu]
  by_cases hv : proxyProbe.usable = true
  · rw [if_pos hv]
    refine Keeps.bind (keeps_log _ _ _ _) fun _ _ => Keeps.pure ?_
    exact ⟨nofun, fun _ => hproxy hv, nofun, by simp [session, eq_comm]⟩
  · rw [if_neg hv]
    exact Keeps.pure ⟨nofun, nofun, nofun, nofun⟩

/-- The candidate is the first of the ready nodes, at its internal address. -/
theorem candidates_ok {backoff : Backoff} {o o₁ : Outside} {ready : List NodeInfo}
    {first : NodeInfo} {ip : Option String} {port : Int}
    (h : (candidates backoff).outcome o = (.ok (ready, first, ip, port), o₁)) :
    (Directory.readyNodes backoff).outcome o = (.ok ready, o₁) ∧ ready.head? = some first ∧
      ∃ a, first.internalAddress? = some a ∧ ip = a.address ∧ port = first.kubeletPort := by
  unfold candidates at h
  rw [outcome_bind, outcome_attempt] at h
  rcases hl : (Directory.readyNodes backoff).outcome o with ⟨f | _ | ⟨n, rest⟩, o'⟩ <;>
    simp only [hl] at h
  · cases h
  · cases h
  · unfold Directory.address at h
    cases ha : n.internalAddress? with
    | none =>
      rw [ha] at h
      cases h
    | some a =>
      rw [ha] at h
      cases h
      exact ⟨rfl, rfl, a, ha, rfl, rfl⟩

/-- Without a candidate nothing is asked but the listing. -/
theorem candidates_error {backoff : Backoff} {o o₁ : Outside} {f : Fault}
    (h : (candidates backoff).outcome o = (.error f, o₁)) :
    ((Directory.readyNodes backoff).outcome o).2 = o₁ := by
  unfold candidates at h
  rw [outcome_bind, outcome_attempt] at h
  rcases hl : (Directory.readyNodes backoff).outcome o with ⟨f | _ | ⟨n, rest⟩, o'⟩ <;>
    simp only [hl] at h
  · exact (Prod.mk.inj h).2
  · exact (Prod.mk.inj h).2
  · cases ha : Directory.address n with
    | error g =>
      rw [ha] at h
      exact (Prod.mk.inj h).2
    | ok a =>
      rw [ha] at h
      cases h

/-- What choosing keeps to, if probing the first ready node does. -/
theorem choose_within (settings : Settings) (nodeClient clusterClient : Client) {scope : Scope}
    {backoff : Backoff} {o : Outside}
    (h : ∀ first a, (Directory.readyAt backoff o).head? = some first →
      first.internalAddress? = some a →
        (allowsDirect settings.kubelet.forceProxy (Directory.readyAt backoff o) = true →
          (probingOf settings nodeClient (.direct a.address first.kubeletPort)).Allowed
            (scope.logic o)) ∧
        (probingOf settings clusterClient
          (.proxy settings.kubelet.hostUrl (nameText first.name))).Allowed (scope.logic o)) :
    Within scope o ((choose settings backoff nodeClient clusterClient).outcome o).2 := by
  obtain ⟨hlisted, -⟩ := Directory.readyAt_within backoff o scope
  rcases hcand : (candidates backoff).outcome o with ⟨f | ⟨ready, first, ip, port⟩, o₁⟩
  · unfold choose
    rw [outcome_bind, hcand]
    rw [candidates_error hcand] at hlisted
    exact hlisted
  · obtain ⟨hl, hhead, a, ha, rfl, rfl⟩ := candidates_ok hcand
    rw [hl] at hlisted
    rw [Directory.readyAt_eq hl] at h
    obtain ⟨hd, hp⟩ := h first a hhead ha
    exact (choose_keeps settings nodeClient clusterClient hcand hlisted hd hp).1

/-- Every session that is chosen owes itself to some listing. -/
theorem choose_sound {settings : Settings} {backoff : Backoff} {nodeClient clusterClient : Client}
    {o o' : Outside} {source : Source}
    (h : (choose settings backoff nodeClient clusterClient).outcome o = (.ok source, o')) :
    ∃ ready o₁, (Directory.readyNodes backoff).outcome o = (.ok ready, o₁) ∧
      Chosen settings nodeClient clusterClient ready source.session := by
  rcases hc : (candidates backoff).outcome o with ⟨f | ⟨ready, first, ip, port⟩, o₁⟩
  · unfold choose at h
    rw [outcome_bind, hc] at h
    cases h
  · have hkeeps := choose_keeps settings nodeClient clusterClient hc (Within.refl Scope.all o₁)
      (fun _ _ _ _ _ => trivial) fun _ _ _ _ => trivial
    exact ⟨ready, o₁, (candidates_ok hc).1, hkeeps.2 source (by rw [h])⟩

end Source

/-! A choice among one node, whose kubelet answers in full and whose proxy has no summary. -/

namespace Sample

def settings : Settings where
  kubelet := { hostUrl := "http://api" }
  collection := { retrieveContainers := false, artifactPrefix := "agent" }

def nodeClient : Client := { side := .node }

def clusterClient : Client := { side := .cluster }

def answering : Outside where
  listings := [.nodes [some (described "a" "10.0.0.1")]]
  nodeRoutes := [("GET https://10.0.0.1:10250/stats/summary", [.response 200 [] none]),
    ("GET https://10.0.0.1:10250/metrics/cadvisor", [.response 200 [] none])]
  clusterRoutes :=
    [("GET http://api/api/v1/nodes/a/proxy/metrics/cadvisor", [.response 200 [] none])]

def chosen? : Option Session :=
  match ((Source.choose settings { steps := 1 } nodeClient clusterClient).outcome answering).1 with
  | .ok (.usable session) => some session
  | _ => none

theorem chosen_usable {session : Session} (h : chosen? = some session) :
    ∃ o', (Source.choose settings { steps := 1 } nodeClient clusterClient).outcome answering =
      (.ok (.usable session), o') := by
  unfold chosen? at h
  split at h
  · rename_i usable hs
    obtain rfl := Option.some.inj h
    exact ⟨_, Prod.ext hs rfl⟩
  · cases h

end Sample

end KubeletCollector
