import KubeletCollector.Proofs.Sessions
import KubeletCollector.Proofs.Settling

/-! How nodes are reached, told from the replies to the probes. A path is probed endpoint by
endpoint up to the first exchange that fails; what has answered by then is in its mask, and it
works if none has failed and enough have answered. The direct path is probed first, if it is
allowed, and taken if it works; the proxy path is probed in any case. -/

namespace KubeletCollector

open Text Act

namespace Source.Probing

variable (probing : Probing) (o : Outside)

def request? (kind : EndpointKind) : Option Request :=
  if kind = .container && !probing.retrieveContainers then none
  else (probing.endpoints.url? kind).map fun url => probing.request url kind

/-- Whether an endpoint is probed and answers with status 200. -/
def finds (kind : EndpointKind) : Bool :=
  (probing.request? kind).any fun r => (o.script r.side r.line 0).whole?.isSome

def fault? (kind : EndpointKind) : Option Fault :=
  (probing.request? kind).bind fun r => (o.script r.side r.line 0).fault?.map (.probe r.url)

/-- Of some endpoints, those up to the first whose probe fails, that one included. -/
def reached : List EndpointKind → List EndpointKind
  | [] => []
  | kind :: kinds => if (probing.fault? o kind).isSome then [kind] else kind :: reached kinds

def sent : List Request :=
  (probing.reached o EndpointKind.fetchOrder).filterMap probing.request?

def found : List EndpointKind :=
  (probing.reached o EndpointKind.fetchOrder).filter (probing.finds o)

def failure? : Option Fault :=
  EndpointKind.fetchOrder.findSome? (probing.fault? o)

/-- No probe on the path fails, the summary answers, and so does one of the other endpoints. -/
structure Works : Prop where
  unfailing : ∀ r ∈ probing.sent o, (o.script r.side r.line 0).fault? = none
  summary : probing.finds o .summary = true
  metrics : probing.finds o .cadvisor = true ∨ probing.finds o .container = true

variable {probing : Probing} {o o' start : Outside} {kind : EndpointKind}
  {kinds : List EndpointKind}

theorem side_of_request {r : Request} (h : probing.request? kind = some r) :
    r.side = probing.client.side := by
  unfold request? at h
  split at h
  · cases h
  · obtain ⟨url, -, rfl⟩ := Option.map_eq_some_iff.1 h
    rfl

/-- No two endpoints are probed with the same line. -/
theorem line_inj {kind' : EndpointKind} {r r' : Request} (h : probing.request? kind = some r)
    (h' : probing.request? kind' = some r') (hl : r.line = r'.line) : kind = kind' := by
  unfold request? at h h'
  split at h
  · cases h
  split at h'
  · cases h'
  obtain ⟨url, hu, rfl⟩ := Option.map_eq_some_iff.1 h
  obtain ⟨url', hu', rfl⟩ := Option.map_eq_some_iff.1 h'
  obtain rfl : url = url' := url_of_line hl
  exact NodeEndpoints.url_inj hu hu'

/-- A probe that fails has found nothing. -/
theorem finds_of_fault {f : Fault} (h : probing.fault? o kind = some f) :
    probing.finds o kind = false := by
  unfold fault? at h
  unfold finds
  cases hr : probing.request? kind with
  | none => rfl
  | some r =>
    rw [hr, Option.bind_some] at h
    obtain ⟨g, hg, -⟩ := Option.map_eq_some_iff.1 h
    rcases hs : o.script r.side r.line 0 with ⟨status, chunks, _ | broken⟩ | cause
    · rw [hs] at hg
      cases hg
    · simp [hs, Reply.whole?]
    · simp [hs, Reply.whole?]

/-- Where no probe fails, every endpoint is reached. -/
theorem reached_of_unfailing (h : kinds.findSome? (probing.fault? o) = none) :
    probing.reached o kinds = kinds := by
  induction kinds with
  | nil => rfl
  | cons kind kinds ih =>
    rw [List.findSome?_cons] at h
    cases hf : probing.fault? o kind with
    | some f => simp [hf] at h
    | none =>
      rw [hf] at h
      rw [reached, hf, ih h]
      rfl

/-- The probe that fails first has been sent. -/
theorem reached_of_failure {f : Fault} (h : kinds.findSome? (probing.fault? o) = some f) :
    ∃ kind ∈ probing.reached o kinds, probing.fault? o kind = some f := by
  induction kinds with
  | nil => cases h
  | cons kind kinds ih =>
    rw [List.findSome?_cons] at h
    cases hf : probing.fault? o kind with
    | some g =>
      rw [hf] at h
      refine ⟨kind, ?_, h ▸ hf⟩
      simp [reached, hf]
    | none =>
      rw [hf] at h
      obtain ⟨other, hmem, hother⟩ := ih h
      exact ⟨other, by simp [reached, hf, hmem], hother⟩

theorem unfailing_iff : (∀ r ∈ probing.sent o, (o.script r.side r.line 0).fault? = none) ↔
    probing.failure? o = none := by
  unfold sent failure?
  constructor
  · intro h
    cases hf : EndpointKind.fetchOrder.findSome? (probing.fault? o) with
    | none => rfl
    | some f =>
      obtain ⟨kind, hmem, hfault⟩ := reached_of_failure hf
      obtain ⟨r, hr, hs⟩ := Option.bind_eq_some_iff.1 hfault
      rw [h r (List.mem_filterMap.2 ⟨kind, hmem, hr⟩)] at hs
      cases hs
  · intro h r hmem
    obtain ⟨kind, hkind, hr⟩ := List.mem_filterMap.1 hmem
    have hnone := List.findSome?_eq_none_iff.1 h kind (EndpointKind.mem_fetchOrder kind)
    unfold fault? at hnone
    rw [hr, Option.bind_some] at hnone
    exact Option.map_eq_none_iff.1 hnone

/-- Two moments at which an endpoint's probe is answered alike. -/
theorem congr (h : ∀ r, probing.request? kind = some r →
      o.script r.side r.line = start.script r.side r.line) :
    probing.finds o kind = probing.finds start kind ∧
      probing.fault? o kind = probing.fault? start kind := by
  unfold finds fault?
  cases hr : probing.request? kind with
  | none => exact ⟨rfl, rfl⟩
  | some r => simp [h r hr]

def asked (probing : Probing) (kind : EndpointKind) (o : Outside) : Outside :=
  match probing.request? kind with
  | none => o
  | some r => o.afterRequest r

theorem trace_asked : (probing.asked kind o).trace =
    o.trace ++ (probing.request? kind).toList.map Event.requested := by
  unfold asked
  cases probing.request? kind with
  | none => exact (List.append_nil _).symm
  | some r => exact Outside.trace_afterRequest o r

/-- A probe leaves alone the lines of other sides, and those of the other endpoints. -/
theorem script_asked {side : Side} {line : String}
    (h : ∀ r, probing.request? kind = some r → r.side = side → r.line ≠ line) :
    (probing.asked kind o).script side line = o.script side line := by
  unfold asked
  cases hr : probing.request? kind with
  | none => rfl
  | some r =>
    funext i
    rw [Outside.script_afterRequest, heard_eq_zero]
    · rfl
    · intro r' hmem
      rw [List.mem_singleton.1 hmem]
      exact h r hr

/-- A probe has three outcomes: a fault of its own, the content, and nothing. -/
theorem outcome_probe (probing : Probing) (o : Outside) (url : String) (kind : EndpointKind)
    {reply : Reply}
    (hs : o.script probing.client.side (probing.request url kind).line 0 = reply)
    (hw : ∀ f, reply.fault? = some f → f.isWire = true) :
    ∃ log, (probing.client.probe url kind.method probing.timeout).outcome o =
      (match reply.fault? with
        | some f => .error (.probe url f)
        | none => .ok reply.whole?,
      { o.afterRequest (probing.request url kind) with log }) := by
  have hexchange : (Act.exchange ⟨probing.client.side, .probe, kind.method, url,
        probing.client.headers, none, probing.timeout⟩).outcome o =
      (.ok reply, o.afterRequest (probing.request url kind)) := by
    rw [← hs]
    rfl
  have hprobe {f : Fault} (hf : f.isWire = true) : Client.probeFault url f = .probe url f :=
    if_pos hf
  unfold Client.probe
  rw [outcome_bind, hexchange]
  rcases reply with ⟨status, chunks, _ | f⟩ | f
  · by_cases h : status = 200
    · simp only [Reply.fault?, Reply.whole?, if_pos h]
      exact ⟨_, rfl⟩
    · simp only [Reply.fault?, Reply.whole?, if_neg h]
      exact ⟨_, rfl⟩
  · simp only [Reply.fault?, hprobe (hw f rfl)]
    exact ⟨_, rfl⟩
  · simp only [Reply.fault?, hprobe (hw f rfl)]
    exact ⟨_, rfl⟩

theorem outcome_answers (ha : probing.Addressed) (kind : EndpointKind)
    (hw : ∀ r, probing.request? kind = some r → ∀ f,
      (o.script r.side r.line 0).fault? = some f → f.isWire = true) :
    ∃ log, (probing.answers kind).outcome o =
      (match probing.fault? o kind with
        | some f => .error f
        | none => .ok (probing.finds o kind),
      { probing.asked kind o with log }) := by
  unfold request? at hw
  unfold answers finds fault? asked request?
  split
  · exact ⟨o.log, rfl⟩
  · rename_i hincludes
    obtain ⟨url, hu⟩ := ha kind
    obtain ⟨log, hprobe⟩ := outcome_probe probing o url kind rfl
      (hw _ (by rw [if_neg hincludes, hu]; rfl))
    have hside : (probing.request url kind).side = probing.client.side := rfl
    simp only [hu, Option.map_some, Option.bind_some, Option.any_some, hside]
    rw [outcome_bind, hprobe]
    cases (o.script probing.client.side (probing.request url kind).line 0).fault? with
    | none => exact ⟨_, rfl⟩
    | some f => exact ⟨log, rfl⟩

/-- The lines of some endpoints are answered as at the start. -/
def Alike (probing : Probing) (start o : Outside) (kinds : List EndpointKind) : Prop :=
  ∀ kind ∈ kinds, ∀ r, probing.request? kind = some r →
    o.script r.side r.line = start.script r.side r.line

/-- Once the first of some endpoints was probed, the others are answered as before. -/
theorem Alike.rest (h : probing.Alike start o (kind :: kinds)) (hn : (kind :: kinds).Nodup)
    (log : List LogRecord) : probing.Alike start { probing.asked kind o with log } kinds := by
  intro other hmem r hr
  have hkeeps : (probing.asked kind o).script r.side r.line = o.script r.side r.line := by
    refine script_asked fun r' hr' _ hl => ?_
    obtain rfl := line_inj hr' hr hl
    exact (List.nodup_cons.1 hn).1 hmem
  exact hkeeps.trans (h other (List.mem_cons_of_mem kind hmem) r hr)

/-- By induction on the endpoints that are left, each of which is answered as at the start. -/
theorem marksFrom_surveys (ha : probing.Addressed) (hw : start.OnlyWire)
    (kinds : List EndpointKind) (mask : EndpointMask) (hn : kinds.Nodup)
    (hsame : probing.Alike start o kinds) (hm : mask.frozen = false) :
    ∃ mask' o', (probing.marksFrom kinds mask).outcome o =
        (.ok (mask', kinds.findSome? (probing.fault? start)), o') ∧
      (∀ kind, mask'.has kind =
        if kind ∈ probing.reached start kinds ∧ probing.fault? start kind = none
        then probing.finds start kind else mask.has kind) ∧
      o'.trace = o.trace ++
        ((probing.reached start kinds).filterMap probing.request?).map Event.requested ∧
      ∀ side, side ≠ probing.client.side → o'.script side = o.script side := by
  induction kinds generalizing o mask with
  | nil => exact ⟨mask, o, rfl, fun _ => by simp [reached], by simp [reached], fun _ _ => rfl⟩
  | cons kind kinds ih =>
    have hkind := hsame kind List.mem_cons_self
    obtain ⟨hfinds, hfault⟩ := congr hkind
    obtain ⟨log, hout⟩ := outcome_answers ha kind fun r hr f hf =>
      hw _ _ 0 f (hkind r hr ▸ hf)
    have hother : ∀ side, side ≠ probing.client.side →
        (probing.asked kind o).script side = o.script side := by
      intro side hside
      funext line
      refine script_asked fun r hr hr' => ?_
      exact absurd (hr'.symm.trans (side_of_request hr)) hside
    unfold marksFrom
    rw [outcome_bind, outcome_attempt, hout, hfinds, hfault]
    cases hf : probing.fault? start kind with
    | some f =>
      refine ⟨mask, { probing.asked kind o with log }, by simp [hf], fun other => ?_, ?_, hother⟩
      · rw [if_neg]
        rintro ⟨hmem, hnone⟩
        have he : other = kind := by simpa [reached, hf] using hmem
        cases (he ▸ hnone).symm.trans hf
      · rw [show ({ probing.asked kind o with log } : Outside).trace = _ from trace_asked]
        cases hr : probing.request? kind <;> simp [reached, hf, hr]
    | none =>
      obtain ⟨mask', o', hmarks, hhas, htrace, hfar⟩ :=
        ih (o := { probing.asked kind o with log }) (mask.mark kind (probing.finds start kind))
          (List.nodup_cons.1 hn).2 (hsame.rest hn log) ((EndpointMask.frozen_mark _ _ _).trans hm)
      refine ⟨mask', o', ?_, fun other => ?_, ?_, fun side hside =>
        (hfar side hside).trans (hother side hside)⟩
      · simpa [EndpointMask.set?, hm, hf] using hmarks
      · rw [hhas, EndpointMask.has_mark]
        by_cases hk : other = kind
        · simp [hk, reached, hf]
        · simp [hk, reached, hf]
      · rw [htrace, show ({ probing.asked kind o with log } : Outside).trace = _ from trace_asked]
        cases hr : probing.request? kind <;> simp [reached, hf, hr]

theorem reached_append (probing : Probing) (o : Outside) (kinds : List EndpointKind) :
    ∃ rest, kinds = probing.reached o kinds ++ rest := by
  induction kinds with
  | nil => exact ⟨[], rfl⟩
  | cons kind kinds ih =>
    unfold reached
    split
    · exact ⟨kinds, rfl⟩
    · obtain ⟨rest, hrest⟩ := ih
      exact ⟨rest, congrArg (kind :: ·) hrest⟩

/-- What a mask holds that was marked from nothing. -/
theorem kinds_of_marks {mask : EndpointMask}
    (h : ∀ kind, mask.has kind =
      if kind ∈ probing.reached o EndpointKind.fetchOrder ∧ probing.fault? o kind = none
      then probing.finds o kind else false) : mask.kinds = probing.found o := by
  have hhas (kind : EndpointKind) : mask.has kind =
      (decide (kind ∈ probing.reached o EndpointKind.fetchOrder) && probing.finds o kind) := by
    rw [h kind]
    cases hf : probing.fault? o kind with
    | none => by_cases hmem : kind ∈ probing.reached o EndpointKind.fetchOrder <;> simp [hmem]
    | some f => simp [finds_of_fault hf]
  obtain ⟨rest, hrest⟩ := reached_append probing o EndpointKind.fetchOrder
  have hnodup : (probing.reached o EndpointKind.fetchOrder ++ rest).Nodup :=
    hrest ▸ (by decide : EndpointKind.fetchOrder.Nodup)
  have hapart (kind : EndpointKind) (hmem : kind ∈ rest) :
      kind ∉ probing.reached o EndpointKind.fetchOrder := fun hk =>
    (List.nodup_append.1 hnodup).2.2 kind hk kind hmem rfl
  have hfirst : (probing.reached o EndpointKind.fetchOrder).filter mask.has = probing.found o :=
    List.filter_congr fun kind hmem => by simp [hhas, hmem]
  have hlast : rest.filter mask.has = [] :=
    List.filter_eq_nil_iff.2 fun kind hmem => by simp [hhas, hapart kind hmem]
  refine (congrArg (List.filter mask.has) hrest).trans ?_
  rw [List.filter_append, hfirst, hlast, List.append_nil]

/-- What probing a path has shown, by the replies to its probes. -/
structure Shows (probing : Probing) (o : Outside) (p : PathProbe) : Prop where
  usable : p.usable = true ↔ probing.Works o
  kinds : p.mask.kinds = probing.found o
  fault : p.fault = probing.failure? o

theorem probePath_surveys (label : String) (ha : probing.Addressed) (hw : start.OnlyWire)
    (hsame : probing.Alike start o EndpointKind.fetchOrder) :
    ∃ p o', (probePath label probing).outcome o = (.ok p, o') ∧ probing.Shows start p ∧
      o'.trace = o.trace ++ (probing.sent start).map Event.requested ∧
      ∀ side, side ≠ probing.client.side → o'.script side = o.script side := by
  obtain ⟨mask, o', hmarks, hhas, htrace, hfar⟩ := marksFrom_surveys ha hw
    EndpointKind.fetchOrder {} (by decide) hsame rfl
  have hempty (kind : EndpointKind) : ({} : EndpointMask).has kind = false := by
    cases kind <;> rfl
  simp only [hempty] at hhas
  have hkinds := kinds_of_marks hhas
  unfold probePath marks
  rw [outcome_bind, hmarks]
  cases hf : probing.failure? start with
  | some f =>
    obtain ⟨kind, -, hfault⟩ := reached_of_failure hf
    obtain ⟨r, -, hr⟩ := Option.bind_eq_some_iff.1 hfault
    obtain ⟨cause, -, rfl⟩ := Option.map_eq_some_iff.1 hr
    have hbroken : ¬ probing.Works start := fun h => by
      cases (unfailing_iff.1 h.unfailing).symm.trans hf
    unfold failure? at hf
    simp only [hf]
    exact ⟨_, _, rfl, ⟨by simp [hbroken], hkinds, by rw [failure?, hf]⟩, htrace, hfar⟩
  | none =>
    have hreached := reached_of_unfailing hf
    have hall (kind : EndpointKind) : mask.has kind = probing.finds start kind := by
      rw [hhas, if_pos]
      exact ⟨hreached.symm ▸ EndpointKind.mem_fetchOrder kind,
        List.findSome?_eq_none_iff.1 hf kind (EndpointKind.mem_fetchOrder kind)⟩
    have husable : isUsable mask = true ↔ probing.Works start := by
      have hverdict : isUsable mask = (mask.has .summary &&
        (mask.has .cadvisor || mask.has .container)) := rfl
      rw [hverdict, hall, hall, hall, Bool.and_eq_true, Bool.or_eq_true]
      exact ⟨fun h => ⟨unfailing_iff.2 hf, h.1, h.2⟩, fun h => ⟨h.summary, h.metrics⟩⟩
    unfold failure? at hf
    simp only [hf]
    exact ⟨_, _, rfl, ⟨husable, hkinds, by rw [failure?, hf]⟩, htrace, hfar⟩

end Source.Probing

namespace Source

open Probing

variable {o : Outside}

theorem outcome_decideDirect (forceProxy : Bool) (nodes : List NodeInfo) (o : Outside) :
    ∃ log, (decideDirect forceProxy nodes).outcome o =
      (.ok (allowsDirect forceProxy nodes), { o with log }) := by
  unfold decideDirect meetsFargate
  by_cases hf : forceProxy = true
  · rw [if_pos hf]
    exact ⟨_, rfl⟩
  · rw [if_neg hf]
    cases nodes.find? NodeInfo.isFargate with
    | none => exact ⟨o.log, rfl⟩
    | some node => cases hn : node.isFargate <;> exact ⟨_, by simp [hn, outcome_bind]; rfl⟩

/-- A source, by what probing its paths has shown. -/
structure Surveyed (direct proxy : Probing) (allowed : Bool) (o : Outside) (source : Source) :
    Prop where
  byNode : source.session.mode = .direct ↔ allowed = true ∧ direct.Works o
  byProxy : source.session.mode = .proxy ↔ ¬ (allowed = true ∧ direct.Works o) ∧ proxy.Works o
  byNeither : source.session.mode = .unreachable ↔
    ¬ (allowed = true ∧ direct.Works o) ∧ ¬ proxy.Works o
  cause : ∀ session cause, source = .unreachable session cause → cause = proxy.failure? o ∧
    ∀ f, cause = some f → ∃ start, unreachableText cause = start ++ f.message
  directMask : source.session.directMask.frozen = true ∧
    source.session.directMask.kinds = if allowed then direct.found o else []
  proxyMask : source.session.proxyMask.frozen = true ∧
    source.session.proxyMask.kinds = proxy.found o

theorem kinds_freeze (mask : EndpointMask) : mask.freeze.kinds = mask.kinds := by
  unfold EndpointMask.kinds
  exact List.filter_congr fun kind _ => EndpointMask.has_freeze mask kind

/-- The direct path is probed if that is allowed, and otherwise it shows nothing. -/
theorem directProbe_surveys {direct : Probing} (allowed : Bool) (ha : direct.Addressed)
    {start : Outside} (hw : start.OnlyWire) (hsame : direct.Alike start o EndpointKind.fetchOrder) :
    ∃ p o', (if allowed then probePath "direct" direct else pure ⟨{}, false, none⟩).outcome o =
        (.ok p, o') ∧
      (p.usable = true ↔ allowed = true ∧ direct.Works start) ∧
      (p.mask.kinds = if allowed then direct.found start else []) ∧
      o'.trace = o.trace ++ (if allowed then direct.sent start else []).map Event.requested ∧
      ∀ side, side ≠ direct.client.side → o'.script side = o.script side := by
  cases allowed with
  | false => exact ⟨⟨{}, false, none⟩, o, rfl, by simp, rfl, by simp, fun _ _ => rfl⟩
  | true =>
    obtain ⟨p, o', hout, hshows, htrace, hfar⟩ := probePath_surveys "direct" ha hw hsame
    exact ⟨p, o', hout, by simpa using hshows.usable, hshows.kinds, htrace, hfar⟩

theorem unreachableText_of_cause (f : Fault) :
    ∃ start, unreachableText (some f) = start ++ f.message := by
  refine ⟨"unable to retrieve node metrics. Please verify RBAC roles" ++ ": ", ?_⟩
  rw [String.append_assoc]
  rfl

/-- What is settled once both paths were probed. -/
def conclude (nodeClient clusterClient : Client) (first : NodeInfo) (p q : PathProbe) :
    Act Source :=
  Act.now >>= fun probedAt =>
    let session : Session := {
      mode := .unreachable
      directMask := p.mask.freeze
      proxyMask := q.mask.freeze
      probedNode := first.name
      probedAt }
    if p.usable then
      logSelected .direct first >>= fun _ => pure (.usable { session with
        mode := .direct, nodeClient := some nodeClient, clusterClient := some clusterClient })
    else if q.usable then
      logSelected .proxy first >>= fun _ => pure (.usable { session with
        mode := .proxy, clusterClient := some clusterClient })
    else pure (.unreachable { session with retrieveSummaries := false } q.fault)

theorem choose_eq (settings : Settings) (backoff : Backoff) (nodeClient clusterClient : Client) :
    choose settings backoff nodeClient clusterClient = candidates backoff >>=
      fun (nodes, first, ip, port) => decideDirect settings.kubelet.forceProxy nodes >>=
      fun allowed => (if allowed
          then probePath "direct" (probingOf settings nodeClient (.direct ip port))
          else pure ⟨{}, false, none⟩) >>=
      fun p => probePath "proxy" (probingOf settings clusterClient
          (.proxy settings.kubelet.hostUrl (nameText first.name))) >>=
      fun q => conclude nodeClient clusterClient first p q := by
  unfold choose
  simp only [ite_bind]
  rfl

theorem conclude_surveyed (nodeClient clusterClient : Client) (first : NodeInfo)
    {direct proxy : Probing} {allowed : Bool}
    {p q : PathProbe} {start : Outside}
    (hp : p.usable = true ↔ allowed = true ∧ direct.Works start)
    (hk : p.mask.kinds = if allowed then direct.found start else [])
    (hq : proxy.Shows start q) (o : Outside) :
    ∃ source o', (conclude nodeClient clusterClient first p q).outcome o = (.ok source, o') ∧
      Made nodeClient clusterClient first.name source ∧
      Surveyed direct proxy allowed start source ∧ o'.trace = o.trace := by
  have hmasks : (p.mask.freeze.frozen = true ∧
      p.mask.freeze.kinds = if allowed then direct.found start else []) ∧
      q.mask.freeze.frozen = true ∧ q.mask.freeze.kinds = proxy.found start :=
    ⟨⟨rfl, (kinds_freeze _).trans hk⟩, rfl, (kinds_freeze _).trans hq.kinds⟩
  unfold conclude
  simp only [outcome_bind, outcome_now]
  cases hpu : p.usable with
  | true =>
    have hdirect := hp.1 hpu
    refine ⟨_, _, rfl, .direct rfl rfl rfl rfl rfl, ?_, rfl⟩
    refine ⟨by simp [session, hdirect], by simp [session, hdirect], by simp [session, hdirect],
      ?_, hmasks.1, hmasks.2⟩
    rintro _ _ ⟨⟩
  | false =>
    have hdirect : ¬ (allowed = true ∧ direct.Works start) := fun h => by
      cases (hp.2 h).symm.trans hpu
    cases hqu : q.usable with
    | true =>
      have hproxy := hq.usable.1 hqu
      refine ⟨_, _, rfl, .proxy rfl rfl rfl rfl rfl, ?_, rfl⟩
      refine ⟨by simp [session, hdirect], by simp [session, hdirect, hproxy],
        by simp [session, hproxy], ?_, hmasks.1, hmasks.2⟩
      rintro _ _ ⟨⟩
    | false =>
      have hproxy : ¬ proxy.Works start := fun h => by
        cases (hq.usable.2 h).symm.trans hqu
      refine ⟨_, _, rfl, .unreachable rfl rfl rfl rfl rfl, ?_, rfl⟩
      refine ⟨by simp [session, hdirect], by simp [session, hproxy],
        by simp [session, hdirect, hproxy], ?_, hmasks.1, hmasks.2⟩
      intro session cause he
      cases he
      exact ⟨hq.fault, fun f hf => hf ▸ unreachableText_of_cause f⟩

/-- How nodes are reached, if the first ready one has an address and nothing fails but the wire.
Each path is probed at most once, the direct one first. -/
theorem choose_surveys (settings : Settings) (backoff : Backoff)
    (nodeClient clusterClient : Client) {first : NodeInfo} {a : Address} {ip : String}
    (hh : (Directory.readyAt backoff o).head? = some first)
    (ha : first.internalAddress? = some a) (hip : a.address = some ip)
    (hn : nodeClient.side = .node) (hc : clusterClient.side = .cluster) (hw : o.OnlyWire) :
    let allowed := allowsDirect settings.kubelet.forceProxy (Directory.readyAt backoff o)
    let direct := probingOf settings nodeClient (.direct a.address first.kubeletPort)
    let proxy := probingOf settings clusterClient
      (.proxy settings.kubelet.hostUrl (nameText first.name))
    ∃ source o', (choose settings backoff nodeClient clusterClient).outcome o =
        (.ok source, o') ∧
      Made nodeClient clusterClient first.name source ∧
      Surveyed direct proxy allowed o source ∧
      o'.trace = ((Directory.readyNodes backoff).outcome o).2.trace ++
        ((if allowed then direct.sent o else []) ++ proxy.sent o).map Event.requested := by
  intro allowed direct proxy
  obtain ⟨o₁, hcand⟩ := candidates_found hh ha
  obtain ⟨hlisted, -⟩ := candidates_ok hcand
  have hidle := (Directory.readyNodes_within Scope.idle hlisted).1
  have hscript (side : Side) (line : String) : o₁.script side line = o.script side line :=
    hidle.script_unasked fun _ hr => hr.elim
  obtain ⟨log, hdecide⟩ :=
    outcome_decideDirect settings.kubelet.forceProxy (Directory.readyAt backoff o) o₁
  have hurl (kind : EndpointKind) : ∃ url, direct.endpoints.url? kind = some url :=
    ⟨directUrl ip first.kubeletPort kind, by simp [direct, probingOf, NodeEndpoints.url?, hip]⟩
  obtain ⟨p, o₂, hdirect, husable, hkinds, htrace, hfar⟩ := directProbe_surveys
    (o := { o₁ with log }) allowed hurl hw fun kind _ r _ => hscript r.side r.line
  have hcluster : proxy.Alike o o₂ EndpointKind.fetchOrder := by
    intro kind _ r hr
    have hside : r.side = .cluster := (side_of_request hr).trans hc
    have hne : Side.cluster ≠ direct.client.side := by
      rw [show direct.client.side = .node from hn]
      decide
    rw [hside, hfar .cluster hne]
    exact hscript .cluster r.line
  obtain ⟨q, o₃, hproxy, hshows, htrace', -⟩ :=
    probePath_surveys "proxy" (fun kind => ⟨_, rfl⟩) hw hcluster
  obtain ⟨source, o', hout, hmade, hsurveyed, htrace''⟩ :=
    conclude_surveyed nodeClient clusterClient first husable hkinds hshows o₃
  refine ⟨source, o', ?_, hmade, hsurveyed, ?_⟩
  · rw [choose_eq, outcome_bind, hcand]
    dsimp only
    rw [outcome_bind, hdecide]
    dsimp only
    rw [outcome_bind, hdirect]
    dsimp only
    rw [outcome_bind, hproxy]
    exact hout
  · rw [htrace'', htrace', htrace, hlisted, List.map_append, List.append_assoc]

end Source

/-! A node whose kubelet answers one probe and refuses the next, while its proxy answers all but one
in full. -/

namespace Sample

def thorough : Settings :=
  { settings with collection := { settings.collection with retrieveContainers := true } }

def forked : Outside where
  listings := [.nodes [some (described "a" "10.0.0.1")]]
  nodeRoutes := [("GET https://10.0.0.1:10250/stats/summary", [.response 200 [] none]),
    ("GET https://10.0.0.1:10250/metrics/cadvisor", [.fault (.wire .connect "refused")])]
  clusterRoutes :=
    [("GET http://api/api/v1/nodes/a/proxy/stats/summary", [.response 200 [] none]),
      ("POST http://api/api/v1/nodes/a/proxy/stats/container/", [.response 200 [] none])]

def directly : Source.Probing :=
  Source.probingOf thorough nodeClient (.direct (some "10.0.0.1") 10250)

def throughProxy : Source.Probing :=
  Source.probingOf thorough clusterClient (.proxy "http://api" "a")

theorem forked_ready : Directory.readyAt {} forked = [node "a" "10.0.0.1"] :=
  Directory.readyAt_undisturbed rfl (snapshots_described [("a", "10.0.0.1")])
    (by simp [node]; decide) (by simp)

theorem forked_onlyWire : forked.OnlyWire := by
  intro side line i
  have hall (routes : Routes) (h : ∀ entry ∈ routes, ∀ reply ∈ entry.2, ∀ f,
      reply.fault? = some f → f.isWire = true) : ∀ f,
      (routes.script line i).fault? = some f → f.isWire = true :=
    Routes.script_forall (P := fun reply => ∀ f, reply.fault? = some f → f.isWire = true) nofun h
      line i
  cases side with
  | node => exact hall forked.nodeRoutes (by simp [forked, Reply.fault?, Fault.isWire])
  | cluster => exact hall forked.clusterRoutes (by simp [forked, Reply.fault?])

theorem directly_fails : ¬ directly.Works forked := by
  intro h
  have hnone := Source.Probing.unfailing_iff.1 h.unfailing
  exact absurd hnone (by decide +kernel)

theorem throughProxy_works : throughProxy.Works forked where
  unfailing := Source.Probing.unfailing_iff.2 (by decide +kernel)
  summary := by decide +kernel
  metrics := Or.inr (by decide +kernel)

/-- The proxy is chosen, after five probes; the mask of the direct path keeps what was found before
its probing failed. -/
theorem forked_surveyed : (Directory.readyAt {} forked).head? = some (node "a" "10.0.0.1") ∧
    forked.OnlyWire ∧ ∃ source o',
      (Source.choose thorough {} nodeClient clusterClient).outcome forked = (.ok source, o') ∧
      source.session.mode = .proxy ∧ source.session.directMask.kinds = [.summary] ∧
      source.session.proxyMask.kinds = [.summary, .container] ∧
      o'.trace = ((Directory.readyNodes {}).outcome forked).2.trace ++
        (directly.sent forked ++ throughProxy.sent forked).map Event.requested ∧
      (directly.sent forked ++ throughProxy.sent forked).length = 5 := by
  have hhead : (Directory.readyAt {} forked).head? = some (node "a" "10.0.0.1") := by
    rw [forked_ready]
    rfl
  have hallowed : Source.allowsDirect thorough.kubelet.forceProxy
      (Directory.readyAt {} forked) = true := by
    rw [forked_ready]
    decide
  obtain ⟨source, o', hout, -, hsurveyed, htrace⟩ := Source.choose_surveys thorough {}
    nodeClient clusterClient hhead rfl rfl rfl rfl forked_onlyWire
  have hdirect := hsurveyed.directMask.2
  rw [hallowed] at hdirect htrace
  refine ⟨hhead, forked_onlyWire, source, o', hout, ?_, ?_, ?_, htrace, by decide +kernel⟩
  · exact hsurveyed.byProxy.2 ⟨fun h => directly_fails h.2, throughProxy_works⟩
  · exact hdirect.trans (by decide +kernel)
  · exact hsurveyed.proxyMask.2.trans (by decide +kernel)

end Sample

end KubeletCollector
