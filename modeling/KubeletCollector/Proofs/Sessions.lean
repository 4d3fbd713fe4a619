import KubeletCollector.Agent.Basic
import KubeletCollector.Proofs.Choice

/-! The sessions that a choice can come to, and the states that probing makes of them. A session
that collects has the clients that its mode needs; one that does not has none, and it is about
the first ready node in any case. -/

namespace KubeletCollector

open Act

namespace Source

inductive Made (nodeClient clusterClient : Client) (node : Option String) : Source → Prop
  | direct {session : Session} : session.mode = .direct → session.nodeClient = some nodeClient →
      session.clusterClient = some clusterClient → session.retrieveSummaries = true →
      session.probedNode = node → Made nodeClient clusterClient node (.usable session)
  | proxy {session : Session} : session.mode = .proxy → session.nodeClient = none →
      session.clusterClient = some clusterClient → session.retrieveSummaries = true →
      session.probedNode = node → Made nodeClient clusterClient node (.usable session)
  | unreachable {session : Session} {cause : Option Fault} : session.mode = .unreachable →
      session.nodeClient = none → session.clusterClient = none →
      session.retrieveSummaries = false → session.probedNode = node →
      Made nodeClient clusterClient node (.unreachable session cause)

variable {settings : Settings} {backoff : Backoff} {nodeClient clusterClient : Client}
  {o o' : Outside} {source : Source}

theorem choose_made
    (h : (choose settings backoff nodeClient clusterClient).outcome o = (.ok source, o')) :
    ∃ first, (Directory.readyAt backoff o).head? = some first ∧
      Made nodeClient clusterClient first.name source := by
  rcases hc : (candidates backoff).outcome o with ⟨f | ⟨ready, first, ip, port⟩, o₁⟩
  · unfold choose at h
    rw [outcome_bind, hc] at h
    cases h
  obtain ⟨hl, hhead, -⟩ := candidates_ok hc
  refine ⟨first, by rw [Directory.readyAt_eq hl, hhead], ?_⟩
  unfold choose at h
  rw [outcome_bind, hc] at h
  refine (Keeps.run (V := Made nodeClient clusterClient first.name) (E := fun _ => True) ?_
    (Within.refl Scope.all o₁)).2 source (congrArg Prod.fst h)
  have hallowed (probing : Probing) : probing.Allowed (Scope.all.logic o₁) :=
    fun _ _ _ _ => trivial
  refine Keeps.bind (holds_decideDirect (L := Scope.all.logic o₁) _ _).keeps fun allowed _ => ?_
  dsimp only
  rw [← ite_bind]
  refine Keeps.bind (V := fun p => p.usable = true → isUsable p.mask = true) ?_
    fun directProbe _ => ?_
  · split
    · exact ((hallowed _).probePath "direct").keeps
    · exact Keeps.pure nofun
  refine Keeps.bind ((hallowed _).probePath "proxy").keeps fun proxyProbe _ => ?_
  refine Keeps.bind (V := fun _ => True) (fun o h => ⟨h, trivial⟩) fun probedAt _ => ?_
  split
  · exact Keeps.bind (keeps_log _ _ _ _) fun _ _ => Keeps.pure (Made.direct rfl rfl rfl rfl rfl)
  · split
    · exact Keeps.bind (keeps_log _ _ _ _) fun _ _ => Keeps.pure (Made.proxy rfl rfl rfl rfl rfl)
    · exact Keeps.pure (Made.unreachable rfl rfl rfl rfl rfl)

end Source

def CollectionState.settled (state : CollectionState) :
    Except Fault Source → Except Fault CollectionState
  | .ok (.usable session) => .ok { state with session := some session }
  | .ok (.unreachable session cause) =>
    .ok { state with session := some session, probeError := Source.unreachableText cause }
  | .error f => if f.isOwn then .ok { state with probeError := f.message } else .error f

/-- Probing is a choice and, at most, a line in the log. -/
theorem Agent.outcome_probe {agent : Agent} {nodeClient clusterClient : Client}
    (hn : agent.nodeClient = some nodeClient) (hc : agent.clusterClient = some clusterClient)
    (hr : agent.settings.collection.retrieveSummaries = true) {o o₁ : Outside}
    {chosen : Except Fault Source}
    (h : (Source.choose agent.settings agent.backoff nodeClient clusterClient).outcome o =
      (chosen, o₁)) :
    ∃ log, agent.probe.outcome o = (agent.state.settled chosen, { o₁ with log }) := by
  unfold probe CollectionState.settled
  simp only [hn, hc, hr, Bool.not_true, Bool.false_eq_true, ↓reduceIte]
  rw [outcome_bind, outcome_attempt, h]
  rcases chosen with f | session | ⟨session, cause⟩
  · cases hf : f.isOwn with
    | false => exact ⟨o₁.log, by simp only [hf]; rfl⟩
    | true => exact ⟨_, by simp only [hf]; rfl⟩
  · exact ⟨o₁.log, rfl⟩
  · exact ⟨_, rfl⟩

end KubeletCollector
