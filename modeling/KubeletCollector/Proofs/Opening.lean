import KubeletCollector.Agent.Run
import KubeletCollector.Proofs.Choice
import KubeletCollector.Proofs.Loading

/-! What is opened and what is closed. Whether a part can be opened does not depend on what is
on record, so the parts that an agent opens can be told before it starts. Most actions close
nothing; what they leave of the record is a longer one. -/

namespace KubeletCollector

open Text Act

def Outside.released (before after : Outside) : List Component :=
  closes (after.trace.drop before.trace.length)

/-- Between two moments these parts were asked to close, and the platform stayed as it was. -/
structure Outside.Closed (before after : Outside) (parts : List Component) : Prop where
  grows : before.trace <+: after.trace
  closes : closes after.trace = closes before.trace ++ parts
  platform : after.platform = before.platform

namespace Outside.Closed

variable {before middle after : Outside} {parts more : List Component}

theorem refl (o : Outside) : o.Closed o [] :=
  ⟨List.prefix_refl _, (List.append_nil _).symm, rfl⟩

theorem trans (h : before.Closed middle parts) (h' : middle.Closed after more) :
    before.Closed after (parts ++ more) :=
  ⟨h.grows.trans h'.grows, by rw [h'.closes, h.closes, List.append_assoc],
    h'.platform.trans h.platform⟩

theorem released_eq (h : before.Closed after parts) : before.released after = parts := by
  obtain ⟨events, ht⟩ := h.grows
  have hparts := h.closes
  rw [← ht, closes_append] at hparts
  rw [Outside.released, ← ht, List.drop_left]
  exact List.append_cancel_left hparts

end Outside.Closed

theorem Within.closed {scope : Scope} {before after : Outside} (h : Within scope before after) :
    before.Closed after [] :=
  ⟨h.grows, by rw [h.closes, List.append_nil], h.platform⟩

section Quiet

variable {start : Outside} {α : Type} {E : Fault → Prop}

/-- An action that keeps to some scope wherever it starts closes nothing. -/
theorem Act.Keeps.closed {act : Act α} {V : α → Prop} (scope : Scope)
    (h : ∀ o, Keeps (Within scope o) V E act) : Keeps (start.Closed · []) V E act := by
  intro o ho
  obtain ⟨hwithin, hr⟩ := h o o (Within.refl scope o)
  exact ⟨ho.trans hwithin.closed, hr⟩

theorem closed_log (level : LogLevel) (component event : String)
    (fields : List (String × LogValue)) :
    Keeps (start.Closed · []) (fun _ => True) E (Act.log level component event fields) :=
  Keeps.closed Scope.idle fun _ => keeps_log level component event fields

theorem closed_note {event : Event} (h : event.closed? = none) :
    Keeps (start.Closed · []) (fun _ => True) E (Act.note event) := by
  refine fun o ho => ⟨ho.trans ⟨List.prefix_append _ _, ?_, rfl⟩, trivial⟩
  simp [KubeletCollector.closes, h]

theorem closed_choose (settings : Settings) (backoff : Backoff)
    (nodeClient clusterClient : Client) : Keeps (start.Closed · []) (fun _ => True) (fun _ => True)
      (Source.choose settings backoff nodeClient clusterClient) := by
  refine Keeps.closed Scope.all fun o o₁ h => ⟨h.trans ?_, ?_⟩
  · exact Source.choose_within settings nodeClient clusterClient fun _ _ _ _ =>
      ⟨fun _ _ _ _ _ => trivial, fun _ _ _ _ => trivial⟩
  · split <;> trivial

/-- Asking a part to close, whether that fails or not. -/
theorem outcome_close (part : Component) (o : Outside) :
    ∃ o', (Act.close part).outcome o =
        ((o.platform.closeFault part).elim (.ok ()) .error, o') ∧ o.Closed o' [part] := by
  refine ⟨{ o with trace := o.trace ++ [.closed part] }, ?_, List.prefix_append _ _, ?_, rfl⟩
  · unfold Act.close
    simp only [outcome_bind, outcome_note, outcome_get]
    cases o.platform.closeFault part <;> rfl
  · exact closes_append _ _

end Quiet

/-- Nothing was done but to put something on record, and nothing of that closes a part. -/
structure Outside.Noted (start o : Outside) : Prop where
  closed : start.Closed o []
  rest : ∃ trace log, o = { start with trace, log }

theorem noted_log {start : Outside} {E : Fault → Prop} (level : LogLevel)
    (component event : String) (fields : List (String × LogValue)) :
    Keeps start.Noted (fun _ => True) E (Act.log level component event fields) := by
  rintro o ⟨hclosed, trace, log, rfl⟩
  exact ⟨⟨⟨hclosed.grows, hclosed.closes, hclosed.platform⟩, _, _, rfl⟩, trivial⟩

namespace Act

variable {α β : Type} {act : Act α} {o : Outside} {events : List Event}

/-- Whatever is on record, the action ends in `result`; it adds `events` to the record, none of
them a mark, and does nothing else. -/
structure Records (act : Act α) (o : Outside) (result : Except Fault α) (events : List Event) :
    Prop where
  outcome : ∀ trace log, act.outcome { o with trace, log } =
    (result, { o with trace := trace ++ events, log })
  marks : marks events = []

theorem Records.here {result : Except Fault α} (h : act.Records o result events) :
    act.outcome o = (result, { o with trace := o.trace ++ events }) :=
  h.outcome o.trace o.log

theorem Records.silent {result : Except Fault α}
    (h : ∀ trace log, act.outcome { o with trace, log } = (result, { o with trace, log })) :
    act.Records o result [] :=
  ⟨fun trace log => by rw [h, List.append_nil], rfl⟩

theorem Records.pure (a : α) : (pure a : Act α).Records o (.ok a) [] :=
  Records.silent fun _ _ => rfl

theorem Records.bind {a : α} {next : α → Act β} {result : Except Fault β} {more : List Event}
    (h : act.Records o (.ok a) events) (hn : (next a).Records o result more) :
    (act >>= next).Records o result (events ++ more) := by
  refine ⟨fun trace log => ?_, by rw [marks_append, h.marks, hn.marks]; rfl⟩
  rw [outcome_bind, h.outcome]
  simp only [hn.outcome, List.append_assoc]

theorem Records.broken {f : Fault} {next : α → Act β} (h : act.Records o (.error f) events) :
    (act >>= next).Records o (.error f) events :=
  ⟨fun trace log => by rw [outcome_bind, h.outcome], h.marks⟩

theorem Records.closed {result : Except Fault α} (h : act.Records o result events) :
    o.Closed (act.outcome o).2 [] := by
  rw [h.here]
  refine ⟨List.prefix_append _ _, ?_, rfl⟩
  rw [closes_append, ← closes_marks events, h.marks]
  rfl

theorem Records.keeps {result : Except Fault α} (h : act.Records o result events) :
    Keeps o.Noted (fun a => result = .ok a) (fun f => result = .error f) act := by
  rintro o₁ ⟨hclosed, trace, log, rfl⟩
  have hthere : act.Records { o with trace, log } result events := ⟨h.outcome, h.marks⟩
  have hmore := hthere.closed
  rw [hthere.here] at hmore ⊢
  refine ⟨⟨hclosed.trans hmore, _, _, rfl⟩, ?_⟩
  cases result <;> rfl

/-- What follows on an action that closes nothing. -/
theorem Records.closed_bind {a : α} {next : α → Act β} {parts : List Component}
    (h : act.Records o (.ok a) events)
    (hn : ∀ o₁ : Outside, o₁.platform = o.platform → o₁.Closed ((next a).outcome o₁).2 parts) :
    o.Closed ((act >>= next).outcome o).2 parts := by
  have hclosed := h.closed
  rw [h.here] at hclosed
  rw [outcome_bind, h.here]
  exact hclosed.trans (hn _ rfl)

end Act

theorem records_openApi (o : Outside) : ∃ result events, openApi.Records o result events := by
  unfold openApi
  cases hf : o.platform.inClusterFault with
  | none => exact ⟨.ok (), [.inClusterConfig], by simp [outcome_bind, hf], rfl⟩
  | some f =>
    by_cases hc : ∃ message, f = .clusterConfig message
    · obtain ⟨message, rfl⟩ := hc
      cases hk : o.platform.kubeConfigFault with
      | none =>
        exact ⟨.ok (), [.inClusterConfig, .kubeConfig],
          by simp [outcome_bind, hf, hk, raiseIf], rfl⟩
      | some g =>
        exact ⟨.error g, [.inClusterConfig, .kubeConfig],
          by simp [outcome_bind, hf, hk, raiseIf], rfl⟩
    · refine ⟨.error f, [.inClusterConfig], fun trace log => ?_, rfl⟩
      simp only [outcome_bind, outcome_note, outcome_get, hf]
      cases f <;> first | rfl | exact absurd ⟨_, rfl⟩ hc

theorem records_bearerToken (kubelet : KubeletSettings) (o : Outside) :
    ∃ result, (bearerToken kubelet).Records o result [] := by
  unfold bearerToken
  by_cases ht : kubelet.token.isEmpty = true
  · by_cases hp : (Path.ofText kubelet.tokenPath).hasNull || endsLikeDirectory kubelet.tokenPath
    · exact ⟨.ok "", Records.silent fun _ _ => by simp [ht, hp]⟩
    · cases hr : o.files.read? (Path.ofText kubelet.tokenPath) with
      | none => exact ⟨.ok "", Records.silent fun _ _ => by simp [ht, hp, outcome_bind, hr]⟩
      | some bytes =>
        cases hd : decodeUtf8 bytes with
        | ok cs => exact ⟨_, Records.silent fun _ _ => by simp [ht, hp, outcome_bind, hr, hd]; rfl⟩
        | error cause =>
          exact ⟨_, Records.silent fun _ _ => by simp [ht, hp, outcome_bind, hr, hd]; rfl⟩
  · exact ⟨.ok kubelet.token, Records.silent fun _ _ => by simp [ht]⟩

theorem records_client (client : Client) (timeout : Float) (verification : Verification)
    (o : Outside) : ∃ events,
      (Client.connect client.side timeout verification >>= fun _ => pure client).Records o
        ((o.platform.clientFault client.side).elim (.ok client) .error) events := by
  refine ⟨[.clientMade timeout verification], fun trace log => ?_, rfl⟩
  unfold Client.connect
  cases hf : o.platform.clientFault client.side <;> simp [outcome_bind, hf, raiseIf, -bind_pure_comp]

def Act.succeeds {α : Type} (act : Act α) (o : Outside) : Bool :=
  (act.outcome o).1.isOk

/-- The parts that can be opened with some settings, in order. The first one that cannot be opened
ends it. -/
def Outside.openable (o : Outside) (settings : Settings) : List Component :=
  if !openApi.succeeds o then []
  else if !(bearerToken settings.kubelet).succeeds o || (o.platform.clientFault .node).isSome then
    [.apiClient]
  else if (o.platform.clientFault .cluster).isSome then [.apiClient, .nodeClient]
  else [.apiClient, .nodeClient, .clusterClient]

/-- What is on record makes no difference. -/
theorem Outside.openable_recorded (o : Outside) (settings : Settings) (trace : List Event)
    (log : List LogRecord) : { o with trace, log }.openable settings = o.openable settings := by
  obtain ⟨made, noted, hapi⟩ := records_openApi o
  obtain ⟨token, htoken⟩ := records_bearerToken settings.kubelet o
  unfold Outside.openable Act.succeeds
  rw [hapi.outcome, htoken.outcome, hapi.here, htoken.here]

/-- The parts that an agent opens with some settings: none if logging cannot be set up with them, for
that comes first. -/
def Outside.startable (o : Outside) (settings : Settings) : List Component :=
  if (Logging.setUp settings.log.level settings.log.format).isOk then o.openable settings else []

theorem Outside.mem_startable {o : Outside} {settings : Settings} {part : Component} :
    part ∈ o.startable settings ↔
      (Logging.setUp settings.log.level settings.log.format).isOk = true ∧ part ∈ o.openable settings := by
  unfold startable
  split <;> simp_all

/-- With settings that were loaded, logging can be set up. -/
theorem Outside.startable_of_load {env : Environment} {settings : Settings}
    (h : Settings.load env = .ok settings) (o : Outside) :
    o.startable settings = o.openable settings := by
  have hknown : ∀ level ∈ levelNames, ∀ format ∈ formatNames,
      (Logging.setUp level format).isOk = true := by decide
  have hvalid := (loaded_of_load h).validated
  exact if_pos (hknown _ hvalid.level.mem _ hvalid.format.mem)

/-- The parts that an agent opens with the settings that are given, or else with those of the
environment. -/
def Outside.opened (o : Outside) (given : Option Settings) (env : Environment) : List Component :=
  match given, Settings.load env with
  | some settings, _ | none, .ok settings => o.startable settings
  | none, .error _ => []

theorem Outside.opened_of_load {env : Environment} {settings : Settings}
    (h : Settings.load env = .ok settings) (o : Outside) :
    o.opened none env = o.openable settings := by
  unfold opened
  rw [h]
  exact startable_of_load h o

inductive Opening (settings : Settings) (o : Outside) : List Component → Prop
  | unopened {f : Fault} {events : List Event} :
      openApi.Records o (.error f) events → Opening settings o []
  | partly {f : Fault} {noted events : List Event} {parts : List Component} :
      openApi.Records o (.ok ()) noted → (buildClients settings).Records o (.error f) events →
      .clusterClient ∉ parts → Opening settings o (.apiClient :: parts)
  | opened {clients : Client × Client} {noted events : List Event} :
      openApi.Records o (.ok ()) noted → (buildClients settings).Records o (.ok clients) events →
      Opening settings o [.apiClient, .nodeClient, .clusterClient]

theorem opening (settings : Settings) (o : Outside) : Opening settings o (o.openable settings) := by
  obtain ⟨made, noted, hapi⟩ := records_openApi o
  obtain ⟨token, htoken⟩ := records_bearerToken settings.kubelet o
  unfold Outside.openable Act.succeeds
  rw [hapi.here, htoken.here]
  rcases made with f | u
  · exact Opening.unopened hapi
  rcases token with f | token
  · exact Opening.partly hapi htoken.broken List.not_mem_nil
  let nodeClient := Client.withLimit .node token settings.collection.retryLimit 1.0
  let clusterClient := Client.withLimit .cluster token settings.collection.retryLimit 1.0
  obtain ⟨_, hnode⟩ := records_client nodeClient settings.kubelet.probeTimeout .off o
  obtain ⟨_, hcluster⟩ := records_client clusterClient settings.kubelet.fetchTimeout
    (if settings.kubelet.caFile.isEmpty then .system else .authority settings.kubelet.caFile) o
  change Act.Records _ o ((o.platform.clientFault .node).elim _ _) _ at hnode
  change Act.Records _ o ((o.platform.clientFault .cluster).elim _ _) _ at hcluster
  rcases hn : o.platform.clientFault .node with _ | f <;> rw [hn] at hnode
  · rcases hc : o.platform.clientFault .cluster with _ | f <;> rw [hc] at hcluster
    · have hpair : (pure (nodeClient, clusterClient) : Act _).Records o _ [] := Records.pure _
      exact Opening.opened hapi (htoken.bind (hnode.bind (hcluster.bind hpair)))
    · exact Opening.partly hapi (htoken.bind (hnode.bind hcluster.broken)) (by decide)
  · exact Opening.partly hapi (htoken.bind hnode.broken) List.not_mem_nil

theorem Outside.opened_all {o : Outside} {given : Option Settings} {env : Environment}
    (h : .clusterClient ∈ o.opened given env) :
    o.opened given env = [.apiClient, .nodeClient, .clusterClient] := by
  unfold opened startable openable at *
  grind

end KubeletCollector
