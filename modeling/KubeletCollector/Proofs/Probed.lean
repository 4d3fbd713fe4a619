import KubeletCollector.Proofs.NodeSide
import KubeletCollector.Proofs.Turns

/-! What is fetched was probed. An endpoint stands in a mask of a session because its probe
was answered with status 200 when the session was chosen, and a cycle fetches what stands in
the masks and nothing else. -/

namespace KubeletCollector

open Text Act

/-- `q` was sent between two moments, and `reply` is what it was answered. -/
def Outside.Answered (before after : Outside) (q : Request) (reply : Reply) : Prop :=
  ∃ earlier later, before.asked after = earlier ++ q :: later ∧
    reply = before.script q.side q.line (heard q.side q.line earlier)

namespace Outside

variable {o o₁ o' : Outside} {q : Request} {reply : Reply}

theorem answered_exchange (o : Outside) (q : Request) :
    o.Answered (o.afterRequest q) q (o.script q.side q.line 0) :=
  ⟨[], [], by simp [asked, requests, Event.request?], rfl⟩

theorem Answered.after (h : o.Answered o₁ q reply) (hg : o.trace <+: o₁.trace)
    (hg' : o₁.trace <+: o'.trace) : o.Answered o' q reply := by
  obtain ⟨earlier, later, hasked, hreply⟩ := h
  refine ⟨earlier, later ++ o₁.asked o', ?_, hreply⟩
  rw [asked_append hg hg', hasked, List.append_assoc, List.cons_append]

/-- What was asked before a moment is what its scripts have moved on by. -/
theorem Answered.before {scope : Scope} (h : o₁.Answered o' q reply) (hw : Within scope o o₁)
    (hg : o₁.trace <+: o'.trace) : o.Answered o' q reply := by
  obtain ⟨earlier, later, hasked, rfl⟩ := h
  refine ⟨o.asked o₁ ++ earlier, later, ?_, ?_⟩
  · rw [asked_append hw.grows hg, hasked, List.append_assoc]
  · obtain ⟨events, ht, -, hs⟩ := hw.news
    have hevents : o.asked o₁ = requests events := by
      rw [asked, ht, List.drop_left]
    rw [hs, hevents, heard_append, Nat.add_comm]

end Outside

/-- A request for an endpoint, by the route at the end of its URL. -/
def Request.IsFor (r : Request) (kind : EndpointKind) : Prop :=
  ∃ head, r.url.toList = head ++ kind.route.toList

theorem Request.IsFor.unique {r : Request} {kind other : EndpointKind} (h : r.IsFor kind)
    (h' : r.IsFor other) : kind = other := by
  obtain ⟨head, hu⟩ := h
  obtain ⟨head', hu'⟩ := h'
  exact (EndpointKind.route_inj (hu.symm.trans hu')).2

theorem NodeEndpoints.route_of_url {endpoints : NodeEndpoints} {kind : EndpointKind} {url : String}
    (h : endpoints.url? kind = some url) : ∃ head, url.toList = head ++ kind.route.toList := by
  cases endpoints with
  | direct ip port =>
    obtain ⟨value, -, rfl⟩ := NodeEndpoints.direct_of_url h
    exact ⟨_, toList_directUrl value port kind⟩
  | proxy host name =>
    obtain rfl := Option.some.inj h
    exact ⟨_, toList_proxyUrl host name kind⟩

namespace Source

def Probing.Confirmed (probing : Probing) (kind : EndpointKind) (before after : Outside) : Prop :=
  probing.Includes kind ∧ ∃ url chunks, probing.endpoints.url? kind = some url ∧
    before.Answered after (probing.request url kind) (.response 200 chunks none)

namespace Probing

variable {probing : Probing} {kind : EndpointKind} {o o₁ o' : Outside}

theorem Confirmed.after (h : probing.Confirmed kind o o₁) (hg : o.trace <+: o₁.trace)
    (hg' : o₁.trace <+: o'.trace) : probing.Confirmed kind o o' := by
  obtain ⟨hincludes, url, chunks, hu, hanswered⟩ := h
  exact ⟨hincludes, url, chunks, hu, hanswered.after hg hg'⟩

theorem Confirmed.before {scope : Scope} (h : probing.Confirmed kind o₁ o')
    (hw : Within scope o o₁) (hg : o₁.trace <+: o'.trace) : probing.Confirmed kind o o' := by
  obtain ⟨hincludes, url, chunks, hu, hanswered⟩ := h
  exact ⟨hincludes, url, chunks, hu, hanswered.before hw hg⟩

theorem allowed_all (probing : Probing) (o : Outside) : probing.Allowed (Scope.all.logic o) :=
  fun _ _ _ _ => trivial

theorem answers_within {result : Except Fault Bool}
    (h : (probing.answers kind).outcome o = (result, o')) : Within Scope.all o o' := by
  have hk := ((probing.allowed_all o).answers kind).keeps o (Within.refl _ o)
  rw [h] at hk
  exact hk.1

theorem marksFrom_within {kinds : List EndpointKind} {mask : EndpointMask}
    {result : Except Fault (EndpointMask × Option Fault)}
    (h : (probing.marksFrom kinds mask).outcome o = (result, o')) : Within Scope.all o o' := by
  have hk := ((probing.allowed_all o).marksFrom kinds mask).keeps o (Within.refl _ o)
  rw [h] at hk
  exact hk.1

theorem probePath_within {label : String} {result : Except Fault PathProbe}
    (h : (probePath label probing).outcome o = (result, o')) : Within Scope.all o o' := by
  have hk := ((probing.allowed_all o).probePath label).keeps o (Within.refl _ o)
  rw [h] at hk
  exact hk.1

/-- A probe that finds something was answered with status 200. -/
theorem answered_of_probe {url : String} {body : Bytes}
    (h : (probing.client.probe url kind.method probing.timeout).outcome o = (.ok (some body), o')) :
    ∃ chunks, o.Answered o' (probing.request url kind) (.response 200 chunks none) := by
  unfold Client.probe at h
  obtain ⟨reply, o₁, hexchange, h⟩ := ok_of_bind h
  have hanswered : o.Answered o₁ (probing.request url kind) reply := by
    cases hexchange
    exact Outside.answered_exchange o _
  rcases reply with ⟨status, chunks, _ | f⟩ | f
  · by_cases hs : status = 200
    · subst hs
      cases h
      exact ⟨chunks, hanswered⟩
    · simp only [if_neg hs] at h
      obtain ⟨-, -, -, h⟩ := ok_of_bind h
      cases h
  · cases h
  · cases h

theorem confirmed_of_answers (h : (probing.answers kind).outcome o = (.ok true, o')) :
    probing.Confirmed kind o o' := by
  unfold Probing.answers at h
  split at h
  · cases h
  · rename_i hask
    have hincludes : probing.Includes kind := fun hk => by simpa [hk] using hask
    cases hu : probing.endpoints.url? kind with
    | none =>
      rw [hu] at h
      cases h
    | some url =>
      simp only [hu] at h
      obtain ⟨body, o₁, hprobe, h⟩ := ok_of_bind h
      cases body with
      | none => cases h
      | some body =>
        cases h
        obtain ⟨chunks, hanswered⟩ := answered_of_probe hprobe
        exact ⟨hincludes, url, chunks, hu, hanswered⟩

/-- By induction on the kinds that are left: what a mask holds in the end it held before, or
it was probed since. -/
theorem confirmed_of_marksFrom {kinds : List EndpointKind} {mask mask' : EndpointMask}
    {fault : Option Fault}
    (h : (probing.marksFrom kinds mask).outcome o = (.ok (mask', fault), o'))
    (hk : mask'.has kind = true) : mask.has kind = true ∨ probing.Confirmed kind o o' := by
  induction kinds generalizing mask o with
  | nil =>
    cases h
    exact Or.inl hk
  | cons first kinds ih =>
    unfold Probing.marksFrom at h
    rw [outcome_bind, outcome_attempt] at h
    rcases hfirst : (probing.answers first).outcome o with ⟨f | available, o₁⟩ <;>
      rw [hfirst] at h
    · cases h
      exact Or.inl hk
    · simp only at h
      have hw := answers_within hfirst
      unfold EndpointMask.set? at h
      by_cases hfrozen : mask.frozen = true
      · rw [if_pos hfrozen] at h
        cases h
        exact Or.inl hk
      · rw [if_neg hfrozen] at h
        have hgrows := (marksFrom_within h).grows
        rcases ih h with hmarked | hconfirmed
        · rw [EndpointMask.has_mark] at hmarked
          split at hmarked
          · subst kind
            subst available
            exact Or.inr ((confirmed_of_answers hfirst).after hw.grows hgrows)
          · exact Or.inl hmarked
        · exact Or.inr (hconfirmed.before hw hgrows)

theorem confirmed_of_probePath {label : String} {path : PathProbe}
    (h : (probePath label probing).outcome o = (.ok path, o')) (hk : path.mask.has kind = true) :
    probing.Confirmed kind o o' := by
  unfold probePath at h
  obtain ⟨⟨mask, fault⟩, o₁, hmarks, h⟩ := ok_of_bind h
  have hend : path.mask = mask ∧ o'.trace = o₁.trace := by
    cases fault with
    | none =>
      cases h
      exact ⟨rfl, rfl⟩
    | some f =>
      cases f with
      | probe url cause =>
        cases h
        exact ⟨rfl, rfl⟩
      | _ => cases h
  rw [hend.1] at hk
  rcases confirmed_of_marksFrom hmarks hk with hnone | hconfirmed
  · cases kind <;> cases hnone
  · exact hconfirmed.after (marksFrom_within hmarks).grows (hend.2 ▸ List.prefix_refl _)

end Probing

/-- What the masks of a session owe to the probing between two moments. -/
structure Probed (settings : Settings) (nodeClient clusterClient : Client) (session : Session)
    (before after : Outside) : Prop where
  frozen : session.directMask.frozen = true ∧ session.proxyMask.frozen = true
  direct : ∀ kind, session.directMask.has kind = true →
    ∃ endpoints, (probingOf settings nodeClient endpoints).Confirmed kind before after
  proxy : ∀ kind, session.proxyMask.has kind = true →
    ∃ endpoints, (probingOf settings clusterClient endpoints).Confirmed kind before after

def probes (settings : Settings) (nodeClient clusterClient : Client) : Scope where
  asks r := ∃ client endpoints kind url, (client = nodeClient ∨ client = clusterClient) ∧
    (probingOf settings client endpoints).Includes kind ∧ endpoints.url? kind = some url ∧
    r = (probingOf settings client endpoints).request url kind
  writes _ := False

section Choosing

variable {settings : Settings} {backoff : Backoff} {nodeClient clusterClient : Client}
  {o o' : Outside} {source : Source}

theorem probed_of_choose
    (h : (choose settings backoff nodeClient clusterClient).outcome o = (.ok source, o')) :
    Probed settings nodeClient clusterClient source.session o o' := by
  unfold choose at h
  obtain ⟨⟨ready, first, ip, port⟩, o₁, hcand, h⟩ := ok_of_bind h
  obtain ⟨allowed, o₂, hdecide, h⟩ := ok_of_bind h
  dsimp only at h
  rw [← ite_bind] at h
  obtain ⟨directProbe, o₃, hdirect, h⟩ := ok_of_bind h
  obtain ⟨proxyProbe, o₄, hproxy, h⟩ := ok_of_bind h
  obtain ⟨now, o₅, hnow, h⟩ := ok_of_bind h
  cases hnow
  have hend : o'.trace = o₄.trace ∧ source.session.directMask = directProbe.mask.freeze ∧
      source.session.proxyMask = proxyProbe.mask.freeze := by
    split at h
    · cases h
      exact ⟨rfl, rfl, rfl⟩
    · split at h
      · cases h
        exact ⟨rfl, rfl, rfl⟩
      · cases h
        exact ⟨rfl, rfl, rfl⟩
  have hlisted := (Directory.readyNodes_within Scope.all (candidates_ok hcand).1).1
  have hdecided : Within Scope.all o o₂ := by
    have hk := (holds_decideDirect (L := Scope.all.logic o) (E := fun _ => True)
      settings.kubelet.forceProxy ready).keeps o₁ hlisted
    rw [hdecide] at hk
    exact hk.1
  have hstarted : Within Scope.all o o₃ := by
    cases allowed with
    | false =>
      cases hdirect
      exact hdecided
    | true => exact hdecided.trans (Probing.probePath_within hdirect)
  have hproxied := Probing.probePath_within hproxy
  have hgrows : o₄.trace <+: o'.trace := hend.1 ▸ List.prefix_refl _
  refine ⟨?_, fun kind hk => ?_, fun kind hk => ?_⟩
  · rw [hend.2.1, hend.2.2]
    exact ⟨rfl, rfl⟩
  · rw [hend.2.1, EndpointMask.has_freeze] at hk
    cases allowed with
    | false =>
      cases hdirect
      cases kind <;> cases hk
    | true =>
      have hprobed := Probing.probePath_within hdirect
      have hrest := hproxied.grows.trans hgrows
      have hconfirmed := Probing.confirmed_of_probePath hdirect hk
      have hlater := hconfirmed.after hprobed.grows hrest
      exact ⟨_, hlater.before hdecided (hprobed.grows.trans hrest)⟩
  · rw [hend.2.2, EndpointMask.has_freeze] at hk
    have hconfirmed := Probing.confirmed_of_probePath hproxy hk
    have hlater := hconfirmed.after hproxied.grows hgrows
    exact ⟨_, hlater.before hstarted (hproxied.grows.trans hgrows)⟩

theorem choose_probes (settings : Settings) (backoff : Backoff) (nodeClient clusterClient : Client)
    (o : Outside) : Within (probes settings nodeClient clusterClient) o
      ((choose settings backoff nodeClient clusterClient).outcome o).2 := by
  refine choose_within settings nodeClient clusterClient fun first a _ _ => ⟨fun _ => ?_, ?_⟩
  · exact fun kind url hi hu => ⟨nodeClient, _, kind, url, Or.inl rfl, hi, hu, rfl⟩
  · exact fun kind url hi hu => ⟨clusterClient, _, kind, url, Or.inr rfl, hi, hu, rfl⟩

end Choosing

end Source

namespace Request

/-- A request shows a token if there is one to show, and no other. -/
def Shows (r : Request) (token : String) : Prop :=
  ∀ value, ("Authorization", value) ∈ r.headers ↔ token ≠ "" ∧ value = "Bearer " ++ token

structure Shaped (r : Request) (kind : EndpointKind) : Prop where
  isFor : r.IsFor kind
  plain : kind ≠ .container →
    r.method = "GET" ∧ r.body = none ∧ ∀ value, ("Content-Type", value) ∉ r.headers
  posted : kind = .container →
    r.method = "POST" ∧ r.body = some (utf8 containersRequest) ∧
      ∀ value, ("Content-Type", value) ∈ r.headers ↔ value = "application/json"

end Request

section Requests

variable {client : Client} {kind : EndpointKind} {url : String}

theorem Client.mem_headers (client : Client) (name value : String) :
    (name, value) ∈ client.headers ↔
      name = "Authorization" ∧ client.token ≠ "" ∧ value = "Bearer " ++ client.token := by
  unfold Client.headers
  split
  · simp_all
  · simp_all

theorem shows_probe (probing : Source.Probing) (url : String) (kind : EndpointKind) :
    (probing.request url kind).Shows probing.client.token := by
  intro value
  simp [Source.Probing.request, Client.mem_headers]

theorem shows_download (job : Job) (client : Client) (url : String) (kind : EndpointKind) :
    ((job.download url kind).request client).Shows client.token := by
  intro value
  cases kind <;>
    simp [Job.download, Client.Download.request, Job.body, Client.mem_headers]

theorem shaped_download (job : Job) (client : Client)
    (hu : ∃ head, url.toList = head ++ kind.route.toList) :
    ((job.download url kind).request client).Shaped kind := by
  refine ⟨hu, fun hne => ?_, fun he => ?_⟩
  · have hbody : Job.body kind = none := if_neg hne
    refine ⟨?_, hbody, fun value => ?_⟩
    · cases kind <;> first | rfl | exact absurd rfl hne
    · simp [Job.download, Client.Download.request, hbody, Client.mem_headers]
  · subst he
    refine ⟨rfl, rfl, fun value => ?_⟩
    simp [Job.download, Client.Download.request, Job.body, Client.mem_headers]

end Requests

/-- An endpoint was probed through a client between two moments, and answered with 200. -/
def Client.Confirmed (client : Client) (kind : EndpointKind) (before after : Outside) : Prop :=
  ∃ q chunks, q.side = client.side ∧ q.purpose = .probe ∧ q.IsFor kind ∧
    before.Answered after q (.response 200 chunks none)

theorem Source.Probing.Confirmed.client {probing : Source.Probing} {kind : EndpointKind}
    {before after : Outside} (h : probing.Confirmed kind before after) :
    probing.client.Confirmed kind before after := by
  obtain ⟨-, url, chunks, hu, hanswered⟩ := h
  exact ⟨_, chunks, rfl, rfl, NodeEndpoints.route_of_url hu, hanswered⟩

/-- What the cycles of a session ask: the endpoints of its masks, by its clients. -/
def Session.fetches (session : Session) : Scope where
  asks r := ∃ client job url kind,
    ((session.nodeClient = some client ∧ session.directMask.has kind = true) ∨
      (session.clusterClient = some client ∧ session.proxyMask.has kind = true)) ∧
    (∃ head, url.toList = head ++ kind.route.toList) ∧
    r = (Job.download job url kind).request client
  writes _ := True

theorem Session.covers_fetches (session : Session) (start : Outside) (job : Job) (n : NodeInfo) :
    Covers (session.fetches.logic start) (fun _ => True) session job n where
  direct _ client _ hc _ := Passes.free (fun _ _ _ => trivial) fun kind hkind url hu =>
    ⟨client, job, url, kind, Or.inl ⟨hc, EndpointMask.mem_kinds.1 hkind⟩,
      NodeEndpoints.route_of_url hu, rfl⟩
  proxy client hc := Passes.free (fun _ _ _ => trivial) fun kind hkind url hu =>
    ⟨client, job, url, kind, Or.inr ⟨hc, EndpointMask.mem_kinds.1 hkind⟩,
      NodeEndpoints.route_of_url hu, rfl⟩

def Turn.sent (turn : Turn) : List Request :=
  turn.before.asked turn.after

namespace Agent

variable {agent : Agent} {session : Session} {o o' done : Outside} {turns : List Turn}
  {state : CollectionState}

theorem download_fetches {time : Instant} {result : Except Fault FailureReport}
    (h : (agent.download session time).outcome o = (result, done)) :
    o.trace <+: done.trace ∧ ∀ r ∈ o.asked done, session.fetches.asks r := by
  obtain ⟨made, files, -, -, hdownload⟩ := agent.outcome_download session time o
  rw [h] at hdownload
  cases made with
  | error f =>
    cases hdownload
    refine ⟨List.prefix_refl _, ?_⟩
    simp [Outside.asked, requests]
  | ok u =>
    let plan := Cycle.Plan.ofSettings agent.settings session (sampleDir agent.settings time)
    have hcovers (n : NodeInfo) (_ : n ∈ Directory.readyAt agent.backoff { o with files }) :
        Covers (session.fetches.logic { o with files }) (fun _ => True) plan.session (plan.job n)
          n :=
      session.covers_fetches { o with files } (plan.job n) n
    rcases Cycle.collect_within hcovers with ⟨f, o₁, -, hcollect, hidle⟩ |
      ⟨-, result, o₁, -, hcollect, hwithin, -⟩
    · cases hcollect.symm.trans hdownload.symm
      exact ⟨hidle.grows, fun r hr => (hidle.asked r hr).elim⟩
    · cases hcollect.symm.trans hdownload.symm
      exact ⟨hwithin.grows, hwithin.asked⟩

/-- A cycle keeps the session, and asks for what stands in its masks. -/
theorem runCycle_fetches (hs : agent.state.session = some session)
    {result : Except Fault CollectionState} (h : agent.runCycle.outcome o = (result, o')) :
    (result.toOption.getD agent.state).session = some session ∧
      ∀ r ∈ o.asked o', session.fetches.asks r := by
  by_cases hr : session.retrieveSummaries = true
  · have hcollects : agent.state.session.filter Session.retrieveSummaries = some session := by
      simp [hs, Option.filter, hr]
    obtain ⟨hsession, report, done, hd, hidle⟩ := (cycled_of_runCycle hcollects h).download
    obtain ⟨hgrows, hasks⟩ := download_fetches hd
    refine ⟨hsession.trans hs, ?_⟩
    rw [Outside.asked_append hgrows hidle.grows, hidle.asked_nothing, List.append_nil]
    exact hasks
  · have hcollects : agent.state.session.filter Session.retrieveSummaries = none := by
      simp [hs, Option.filter, hr]
    unfold runCycle at h
    simp only [hcollects] at h
    cases h
    exact ⟨hs, by simp [Outside.asked, requests]⟩

theorem repeats_fetches (h : agent.Repeats runCycle turns state)
    (hs : agent.state.session = some session) :
    state.session = some session ∧
      ∀ turn ∈ turns, turn.new.session = some session ∧
        ∀ r ∈ turn.sent, session.fetches.asks r := by
  induction h with
  | start => exact ⟨hs, fun turn hmem => absurd hmem List.not_mem_nil⟩
  | turn hook _ hout ih =>
    obtain ⟨hstate, hturns⟩ := ih
    have hcycle := runCycle_fetches hstate hout
    refine ⟨hcycle.1, fun turn hmem => ?_⟩
    rcases List.mem_append.1 hmem with hm | hm
    · exact hturns turn hm
    · rw [List.mem_singleton.1 hm]
      exact hcycle

end Agent

section Runs

variable {settings : Settings} {backoff : Backoff} {nodeClient clusterClient : Client}
  {session : Session} {agent : Agent} {o o' : Outside} {turns : List Turn} {state : CollectionState}
  {r : Request}

theorem shows_of_probes (hn : nodeClient.side = .node) (hc : clusterClient.side = .cluster)
    (h : (Source.probes settings nodeClient clusterClient).asks r) :
    (r.side = .node → r.Shows nodeClient.token) ∧
      (r.side = .cluster → r.Shows clusterClient.token) := by
  obtain ⟨client, endpoints, kind, url, rfl | rfl, -, -, rfl⟩ := h <;>
    refine ⟨fun hside => ?_, fun hside => ?_⟩
  · exact shows_probe _ url kind
  · cases hn.symm.trans hside
  · cases hc.symm.trans hside
  · exact shows_probe _ url kind

/-- Containers are probed only if they are wanted. -/
theorem not_container_of_probes (hno : settings.collection.retrieveContainers = false)
    (h : (Source.probes settings nodeClient clusterClient).asks r) : ¬ r.IsFor .container := by
  intro hcontainer
  obtain ⟨client, endpoints, kind, url, -, hincludes, hu, rfl⟩ := h
  have hfor : ((Source.probingOf settings client endpoints).request url kind).IsFor kind :=
    NodeEndpoints.route_of_url hu
  cases hno.symm.trans (hincludes (hfor.unique hcontainer))

section Fetches

variable {ready : List NodeInfo}
  (hchosen : Source.Chosen settings nodeClient clusterClient ready session)
  (hprobed : Source.Probed settings nodeClient clusterClient session o o')

include hchosen

theorem shows_of_fetches (hn : nodeClient.side = .node) (hc : clusterClient.side = .cluster)
    (h : session.fetches.asks r) :
    (r.side = .node → r.Shows nodeClient.token) ∧
      (r.side = .cluster → r.Shows clusterClient.token) := by
  obtain ⟨client, job, url, kind, ⟨hclient, -⟩ | ⟨hclient, -⟩, -, rfl⟩ := h
  · obtain rfl := hchosen.node client hclient
    refine ⟨fun _ => shows_download job client url kind, fun hside => ?_⟩
    cases hn.symm.trans hside
  · obtain rfl := hchosen.cluster client hclient
    refine ⟨fun hside => ?_, fun _ => shows_download job client url kind⟩
    cases hc.symm.trans hside

include hprobed

/-- A request of a cycle is for a kind that its side's mask holds, and that was probed there. -/
theorem shaped_of_fetches (hn : nodeClient.side = .node) (hc : clusterClient.side = .cluster)
    (h : session.fetches.asks r) :
    ∃ kind, r.Shaped kind ∧
      (r.side = .node → session.directMask.has kind = true ∧ nodeClient.Confirmed kind o o') ∧
      (r.side = .cluster →
        session.proxyMask.has kind = true ∧ clusterClient.Confirmed kind o o') := by
  obtain ⟨client, job, url, kind, ⟨hclient, hmask⟩ | ⟨hclient, hmask⟩, hu, rfl⟩ := h
  · obtain rfl := hchosen.node client hclient
    obtain ⟨endpoints, hconfirmed⟩ := hprobed.direct kind hmask
    refine ⟨kind, shaped_download job client hu, fun _ => ⟨hmask, hconfirmed.client⟩, fun hside => ?_⟩
    cases hn.symm.trans hside
  · obtain rfl := hchosen.cluster client hclient
    obtain ⟨endpoints, hconfirmed⟩ := hprobed.proxy kind hmask
    refine ⟨kind, shaped_download job client hu, fun hside => ?_, fun _ => ⟨hmask, hconfirmed.client⟩⟩
    cases hc.symm.trans hside

omit hchosen in
theorem not_container_of_fetches (hno : settings.collection.retrieveContainers = false)
    (h : session.fetches.asks r) : ¬ r.IsFor .container := by
  intro hcontainer
  obtain ⟨client, job, url, kind, hmask, hu, rfl⟩ := h
  have hfor : ((job.download url kind).request client).IsFor kind := hu
  obtain rfl := hfor.unique hcontainer
  rcases hmask with ⟨-, hmask⟩ | ⟨-, hmask⟩
  · obtain ⟨endpoints, hincludes, -⟩ := hprobed.direct _ hmask
    cases hno.symm.trans (hincludes rfl)
  · obtain ⟨endpoints, hincludes, -⟩ := hprobed.proxy _ hmask
    cases hno.symm.trans (hincludes rfl)

end Fetches

/-- Along every run from the choice of a session on: the session stays as it is; what a cycle
asks is for an endpoint that its client's mask holds, for the probe of it through that client
was answered with status 200; it is shaped for the endpoint; every request shows the token of
its client; and nothing asks for containers if they are not wanted. -/
theorem fetched_as_probed
    (hchoose : (Source.choose settings backoff nodeClient clusterClient).outcome o =
      (.ok (.usable session), o'))
    (hn : nodeClient.side = .node) (hc : clusterClient.side = .cluster)
    (hran : agent.Repeats Agent.runCycle turns state) (hs : agent.state.session = some session) :
    (session.directMask.frozen = true ∧ session.proxyMask.frozen = true ∧
        ∀ turn ∈ turns, turn.new.session = some session) ∧
      (∀ turn ∈ turns, ∀ r ∈ turn.sent, ∃ kind, r.Shaped kind ∧
        (r.side = .node →
          session.directMask.has kind = true ∧ nodeClient.Confirmed kind o o') ∧
        (r.side = .cluster →
          session.proxyMask.has kind = true ∧ clusterClient.Confirmed kind o o')) ∧
      (∀ r ∈ o.asked o' ++ turns.flatMap Turn.sent,
        (r.side = .node → r.Shows nodeClient.token) ∧
          (r.side = .cluster → r.Shows clusterClient.token)) ∧
      (settings.collection.retrieveContainers = false →
        ∀ r ∈ o.asked o' ++ turns.flatMap Turn.sent, ¬ r.IsFor .container) := by
  obtain ⟨ready, -, -, hchosen⟩ := Source.choose_sound hchoose
  have hprobed := Source.probed_of_choose hchoose
  obtain ⟨-, hturns⟩ := Agent.repeats_fetches hran hs
  have hfirst : ∀ r ∈ o.asked o', (Source.probes settings nodeClient clusterClient).asks r := by
    have hw := Source.choose_probes settings backoff nodeClient clusterClient o
    rw [hchoose] at hw
    exact hw.asked
  have hrun {P : Request → Prop}
      (hp : ∀ r, (Source.probes settings nodeClient clusterClient).asks r → P r)
      (hf : ∀ r, session.fetches.asks r → P r) :
      ∀ r ∈ o.asked o' ++ turns.flatMap Turn.sent, P r := by
    intro r hr
    rcases List.mem_append.1 hr with hr | hr
    · exact hp r (hfirst r hr)
    · obtain ⟨turn, hmem, hr⟩ := List.mem_flatMap.1 hr
      exact hf r ((hturns turn hmem).2 r hr)
  refine ⟨⟨hprobed.frozen.1, hprobed.frozen.2, fun turn hmem => (hturns turn hmem).1⟩, ?_, ?_, ?_⟩
  · exact fun turn hmem r hr => shaped_of_fetches hchosen hprobed hn hc ((hturns turn hmem).2 r hr)
  · exact hrun (fun r => shows_of_probes hn hc) fun r => shows_of_fetches hchosen hn hc
  · intro hno
    exact hrun (fun r => not_container_of_probes hno) fun r => not_container_of_fetches hprobed hno

end Runs

/-- A choice and a cycle with the session that it came to. -/
theorem fetched_as_probed_of_one : ∃ session o' turns state,
    (Source.choose Sample.settings { steps := 1 } Sample.nodeClient Sample.clusterClient).outcome
        Sample.answering = (.ok (.usable session), o') ∧
      Agent.Repeats Agent.runCycle
        { settings := Sample.settings, state := { session := some session } } turns state ∧
      turns.length = 1 ∧
      (∀ turn ∈ turns, ∀ r ∈ turn.sent, r.side = .node →
        ∃ kind, r.Shaped kind ∧ Sample.nodeClient.Confirmed kind Sample.answering o') ∧
      ∀ r ∈ Sample.answering.asked o' ++ turns.flatMap Turn.sent, ¬ r.IsFor .container := by
  have hsome : Sample.chosen?.isSome = true := by decide +kernel
  obtain ⟨session, hs⟩ := Option.isSome_iff_exists.1 hsome
  obtain ⟨o', hchoose⟩ := Sample.chosen_usable hs
  let agent : Agent := { settings := Sample.settings, state := { session := some session } }
  rcases hcycle : agent.runCycle.outcome o' with ⟨result, after⟩
  have hran : agent.Repeats Agent.runCycle _ _ := Agent.Repeats.turn none Agent.Repeats.start hcycle
  obtain ⟨-, hturns, -, hcontainer⟩ := fetched_as_probed hchoose rfl rfl hran rfl
  refine ⟨session, o', _, _, hchoose, hran, rfl, fun turn hmem r hr hside => ?_, hcontainer rfl⟩
  obtain ⟨kind, hshaped, hnode, -⟩ := hturns turn hmem r hr
  exact ⟨kind, hshaped, (hnode hside).2⟩

end KubeletCollector
