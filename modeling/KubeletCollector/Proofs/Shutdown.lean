import KubeletCollector.Proofs.Opening
import KubeletCollector.Proofs.Rounds

/-! How an agent lets go of what it opened. Nothing but its stop closes anything, and a stop asks
every open part to close, whether or not the parts before it could be. What is open when it
is stopped is what could be opened, for neither probing nor a round opens or loses a part. -/

namespace KubeletCollector

open Act

namespace Act

variable {α β : Type}

/-- From `o`, the action returns `a` and asks these parts to close. -/
def Releases (act : Act α) (o : Outside) (a : α) (parts : List Component) : Prop :=
  ∃ o', act.outcome o = (.ok a, o') ∧ o.Closed o' parts

theorem Releases.pure (o : Outside) (a : α) : (pure a : Act α).Releases o a [] :=
  ⟨o, rfl, Outside.Closed.refl o⟩

theorem Releases.bind {act : Act α} {next : α → Act β} {o : Outside} {a : α} {b : β}
    {parts more : List Component} (h : act.Releases o a parts)
    (hn : ∀ o₁ : Outside, o₁.platform = o.platform → (next a).Releases o₁ b more) :
    (act >>= next).Releases o b (parts ++ more) := by
  obtain ⟨o₁, hout, hclosed⟩ := h
  obtain ⟨o₂, hnext, hmore⟩ := hn o₁ hclosed.platform
  refine ⟨o₂, ?_, hclosed.trans hmore⟩
  rw [outcome_bind, hout]
  exact hnext

theorem Releases.log {next : Act β} {o : Outside} {b : β} {parts : List Component}
    {level : LogLevel} {component event : String} {fields : List (String × LogValue)}
    (hn : ∀ o₁ : Outside, o₁.platform = o.platform → next.Releases o₁ b parts) :
    (Act.log level component event fields >>= fun _ => next).Releases o b parts :=
  have hlog : (Act.log level component event fields).Releases o () [] :=
    ⟨_, rfl, List.prefix_refl _, (List.append_nil _).symm, rfl⟩
  hlog.bind fun o₁ h₁ => hn o₁ h₁

theorem Releases.get {next : Outside → Act β} {o : Outside} {b : β} {parts : List Component}
    (h : (next o).Releases o b parts) : (MonadState.get >>= next).Releases o b parts :=
  h

end Act

namespace Agent

def closing (agent : Agent) (platform : Platform) : List Component :=
  if !agent.started then []
  else (if agent.clusterClient.isSome then [.clusterClient] else []) ++
    ((if agent.nodeClient.isSome then [.nodeClient] else []) ++
      if agent.apiOpen && platform.apiCloses then [.apiClient] else [])

def stopped (agent : Agent) : Agent :=
  if !agent.started then agent
  else { agent with nodeClient := none, clusterClient := none, apiOpen := false }

def enter (agent : Agent) (state : CollectionState) : Act (Agent × Option StartFault) := do
  if state.isEnabled then Act.log .info component "collection loop started" []
  startServer agent.settings
  Act.log .info component "nodestats started" [("mode", .text state.modeText)]
  return ({ agent with state }, none)

theorem enterService_eq (agent : Agent) :
    agent.enterService = Act.attempt agent.probe >>= fun
      | .error f => pure (agent, some (.other f))
      | .ok state => agent.enter state := by
  rfl

section Quiet

variable {start : Outside} {E : Fault → Prop}

theorem closed_startServer (settings : Settings) :
    Keeps (start.Closed · []) (fun _ => True) E (startServer settings) := by
  unfold startServer
  split
  · refine Keeps.bind (closed_note rfl) fun _ _ => ?_
    refine Keeps.bind (V := fun _ => True) (fun o h => ⟨h, trivial⟩) fun o _ => ?_
    split <;> exact closed_log _ _ _ _
  · exact Keeps.pure trivial

/-- An agent that has probed gets ready without fail. -/
theorem closed_enter (agent : Agent) (state : CollectionState) :
    Keeps (start.Closed · []) (fun p => p = ({ agent with state }, none)) E
      (agent.enter state) := by
  have hserver : Keeps (start.Closed · [])
      (fun p : Agent × Option StartFault => p = ({ agent with state }, none)) E
      (startServer agent.settings >>= fun _ =>
        Act.log .info component "nodestats started" [("mode", .text state.modeText)] >>= fun _ =>
          pure ({ agent with state }, none)) := by
    refine Keeps.bind (closed_startServer _) fun _ _ => ?_
    exact Keeps.bind (closed_log _ _ _ _) fun _ _ => Keeps.pure rfl
  unfold enter
  dsimp only
  split
  · exact Keeps.bind (closed_log _ _ _ _) fun _ _ => hserver
  · exact hserver

theorem Downloaded.closed {agent : Agent} {time : Instant} {o done : Outside}
    {result : Except Fault FailureReport} (h : agent.Downloaded time o result done) :
    o.Closed done [] :=
  ⟨h.grows, by rw [← closes_marks done.trace, h.marks, closes_marks, List.append_nil], h.platform⟩

end Quiet

/-- What is closed of the parts that could be opened: the clients only if there are both. -/
def closingOf (parts : List Component) (platform : Platform) : List Component :=
  (if .clusterClient ∈ parts then [.clusterClient, .nodeClient] else []) ++
    if .apiClient ∈ parts ∧ platform.apiCloses = true then [.apiClient] else []

/-- An agent with all its parts, about to probe. -/
def assembled (settings : Settings) (hook : Option BaselineHook) (clients : Client × Client) :
    Agent where
  settings := settings
  hook := hook
  nodeClient := some clients.1
  clusterClient := some clients.2
  apiOpen := true
  started := true

/-- What an agent is once it has opened the parts that it can open. -/
structure Opened (settings : Settings) (hook : Option BaselineHook) (o : Outside) (agent : Agent)
    (fault : Option StartFault) : Prop where
  closing : agent.closing = closingOf (o.openable settings)
  all : .clusterClient ∈ o.openable settings →
    fault = none ∧ ∃ clients, agent = assembled settings hook clients

theorem keeps_openParts (settings : Settings) (hook : Option BaselineHook) (o : Outside) :
    Keeps o.Noted (fun p => Opened settings hook o p.1 p.2) (fun _ => False)
      ({ settings, hook, started := true } : Agent).openParts := by
  unfold openParts
  refine Keeps.bind (noted_log _ _ _ _) fun _ _ => ?_
  have hopening := opening settings o
  suffices h : ∀ parts, o.openable settings = parts → Opening settings o parts → Keeps o.Noted
      (fun p : Agent × Option StartFault => Opened settings hook o p.1 p.2) (fun _ => False) _ from
    h _ rfl hopening
  rintro parts hparts (hapi | ⟨hapi, hclients, hpart⟩ | ⟨hapi, hclients⟩)
  · refine Keeps.attempt hapi.keeps nofun fun f _ => Keeps.pure ⟨?_, ?_⟩
    · funext platform
      simp [Agent.closing, closingOf, hparts]
    · simp [hparts]
  · refine Keeps.attempt hapi.keeps (fun _ _ => ?_) nofun
    refine Keeps.bind (noted_log _ _ _ _) fun _ _ => ?_
    refine Keeps.attempt hclients.keeps nofun fun f _ => Keeps.pure ⟨?_, ?_⟩
    · funext platform
      simp [Agent.closing, closingOf, hparts, hpart]
    · simp [hparts, hpart]
  · refine Keeps.attempt hapi.keeps (fun _ _ => ?_) nofun
    refine Keeps.bind (noted_log _ _ _ _) fun _ _ => ?_
    refine Keeps.attempt hclients.keeps (fun clients _ => Keeps.pure ⟨?_, ?_⟩) nofun
    · funext platform
      simp [Agent.closing, closingOf, hparts]
    · exact fun _ => ⟨rfl, clients, rfl⟩

/-- Starting sets up logging, opens the parts and, if that was all of them, goes on to probe. -/
theorem outcome_start {settings : Settings} (hook : Option BaselineHook) (o : Outside)
    (hf : (Logging.setUp settings.log.level settings.log.format).isOk = true) :
    ∃ agent fault o₁, o.Noted o₁ ∧ Opened settings hook o agent fault ∧
      (start { settings, hook }).outcome o =
        match fault with
        | some fault => (.ok (agent, some fault), o₁)
        | none => agent.enterService.outcome o₁ := by
  let o₀ : Outside := { o with
    trace := o.trace ++ [.loggingSet settings.log.level settings.log.format]
    log := o.log ++ [⟨.info, component, "nodestats starting", [("version", .text version)]⟩] }
  have hnoted : o.Noted o₀ := ⟨⟨List.prefix_append _ _, closes_append _ _, rfl⟩, _, _, rfl⟩
  obtain ⟨⟨agent, fault⟩, o₁, hout, hopened, hnoted⟩ :=
    (keeps_openParts settings hook o).returns hnoted
  have hlogging : (Act.attempt (setUpLogging settings.log)).outcome o =
      (.ok (.ok ()),
        { o with trace := o.trace ++ [.loggingSet settings.log.level settings.log.format] }) := by
    unfold setUpLogging
    cases hl : Logging.setUp settings.log.level settings.log.format with
    | ok format => rfl
    | error f =>
      rw [hl] at hf
      cases hf
  refine ⟨agent, fault, o₁, hnoted, hopened, ?_⟩
  unfold start
  simp only [outcome_bind, hlogging, outcome_log]
  rw [hout]
  cases fault <;> rfl

end Agent

end KubeletCollector
