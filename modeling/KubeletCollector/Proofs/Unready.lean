import KubeletCollector.Proofs.Hooks

/-! Nodes that are not ready. Whether they are listed or not makes no difference to an agent: neither
to how it reaches the others, nor to any of its cycles. -/

namespace KubeletCollector

open Act

/-- What happened to two outsides was the same, and they differ in no more than nodes that are not
ready and what is on record. -/
structure Outside.Shadows (o a o' a' : Outside) : Prop where
  pads : o'.Pads a'
  news : ∃ events, o'.trace = o.trace ++ events ∧ a'.trace = a.trace ++ events

namespace Act

variable {α β : Type}

/-- The action does not notice nodes that are listed and not ready. -/
def Overlooks (act : Act α) : Prop :=
  ∀ o a, o.Pads a → (act.outcome a).1 = (act.outcome o).1 ∧
    o.Shadows a (act.outcome o).2 (act.outcome a).2

theorem Overlooks.pure (v : α) : Overlooks (pure v : Act α) :=
  fun _ _ h => ⟨rfl, h, [], by simp, by simp⟩

theorem Overlooks.throw (f : Fault) : Overlooks (throw f : Act α) :=
  fun _ _ h => ⟨rfl, h, [], by simp, by simp⟩

theorem Overlooks.of_mirrors {act : Act α} {V : α → Prop} {E : Fault → Prop}
    (h : ∀ o₀ a₀, Mirrors (Alongside o₀ a₀) V E act) : act.Overlooks := by
  intro o a hpads
  obtain ⟨hresult, ⟨hpads', events, ho, ha, -⟩, -⟩ := h o a o a (Alongside.start hpads)
  exact ⟨hresult, hpads', events, ho, ha⟩

theorem Overlooks.log (level : LogLevel) (component event : String)
    (fields : List (String × LogValue)) : Overlooks (Act.log level component event fields) :=
  Overlooks.of_mirrors (E := fun _ => True) fun _ _ => Alongside.log level component event fields

theorem Overlooks.bind {act : Act α} {next : α → Act β} (h : act.Overlooks)
    (hn : ∀ v, (next v).Overlooks) : (act >>= next).Overlooks := by
  intro o a hpads
  obtain ⟨hresult, hpads', events, ho, ha⟩ := h o a hpads
  rw [outcome_bind, outcome_bind]
  rcases hout : act.outcome o with ⟨f | v, o₁⟩ <;> rcases hout' : act.outcome a with ⟨g | w, a₁⟩ <;>
    rw [hout, hout'] at hresult hpads' <;> rw [hout] at ho <;> rw [hout'] at ha <;> cases hresult
  · exact ⟨rfl, hpads', events, ho, ha⟩
  · obtain ⟨hresult, hpads'', events', ho', ha'⟩ := hn v o₁ a₁ hpads'
    refine ⟨hresult, hpads'', events ++ events', ?_, ?_⟩
    · rw [ho', ho, List.append_assoc]
    · rw [ha', ha, List.append_assoc]

theorem Overlooks.attempt {act : Act α} (h : act.Overlooks) : (Act.attempt act).Overlooks := by
  intro o a hpads
  obtain ⟨hresult, hshadows⟩ := h o a hpads
  rw [outcome_attempt, outcome_attempt, hresult]
  exact ⟨rfl, hshadows⟩

end Act

namespace Agent

variable {agent : Agent}

theorem overlooks_probe (agent : Agent) : agent.probe.Overlooks := by
  unfold probe
  split
  · rename_i nodeClient clusterClient _ _
    split
    · exact Overlooks.bind (Overlooks.log _ _ _ _) fun _ => Overlooks.pure _
    · have hchoose : (Source.choose agent.settings agent.backoff nodeClient
          clusterClient).Overlooks := Overlooks.of_mirrors fun _ _ => Alongside.choose _ _ _ _
      refine Overlooks.bind hchoose.attempt fun result => ?_
      split
      · exact Overlooks.pure _
      · exact Overlooks.bind (Overlooks.log _ _ _ _) fun _ => Overlooks.pure _
      · dsimp only
        split
        · exact Overlooks.throw _
        · exact Overlooks.bind (Overlooks.log _ _ _ _) fun _ => Overlooks.pure _
  · exact Overlooks.throw _

/-- The hook sees the same files, and the report is the same: both are a matter of the download. -/
theorem overlooks_runCycle (agent : Agent) : agent.runCycle.Overlooks := by
  intro o a hpads
  rcases hs : agent.state.session.filter Session.retrieveSummaries with _ | session
  · unfold runCycle
    simp only [hs]
    exact Overlooks.pure agent.state o a hpads
  · have hdownload : (agent.download session o.now).Overlooks :=
      Overlooks.of_mirrors fun _ _ => Alongside.download agent session o.now
    obtain ⟨hresult, hpads', events, ho, ha⟩ := hdownload o a hpads
    obtain ⟨log, hrun⟩ := outcome_runCycle (o := o) agent hs
    obtain ⟨log', hrun'⟩ := outcome_runCycle (o := a) agent hs
    rw [hpads.now] at hrun'
    rw [hrun, hrun']
    rcases hd : (agent.download session o.now).outcome o with ⟨f | report, done⟩ <;>
      rcases hd' : (agent.download session o.now).outcome a with ⟨g | report', done'⟩ <;>
      rw [hd, hd'] at hresult hpads' <;> rw [hd] at ho <;> rw [hd'] at ha <;> cases hresult
    · exact ⟨rfl, hpads'.recorded _ _ _ _, events, ho, ha⟩
    · have hdone : done.Pads done' := hpads'
      dsimp only
      let call := Cycle.hookCall agent.hook (sampleDir agent.settings o.now) done.files
      refine ⟨by rw [hdone.now], hdone.recorded _ _ _ _, events ++ call, ?_, ?_⟩
      · rw [ho, List.append_assoc]
      · rw [ha, hdone.files, List.append_assoc]

def cycles (agent : Agent) :
    List (Instant × Option BaselineHook) → Act (List (Except Fault CollectionState))
  | [] => return []
  | (time, hook) :: rest => do
    modify fun o => { o with now := time }
    let result ← Act.attempt ({ agent with hook } : Agent).runCycle
    let state := result.toOption.getD agent.state
    return result :: (← ({ agent with state } : Agent).cycles rest)

/-- What probing comes to and, after that, every cycle. -/
def life (agent : Agent) (times : List (Instant × Option BaselineHook)) :
    Act (Except Fault CollectionState × List (Except Fault CollectionState)) := do
  let probed ← Act.attempt agent.probe
  let state := probed.toOption.getD agent.state
  return (probed, ← ({ agent with state } : Agent).cycles times)

theorem overlooks_cycles (agent : Agent) (times : List (Instant × Option BaselineHook)) :
    (agent.cycles times).Overlooks := by
  induction times generalizing agent with
  | nil => exact Overlooks.pure []
  | cons next rest ih =>
    obtain ⟨time, hook⟩ := next
    have htime : Overlooks (modify fun o => { o with now := time }) := by
      rintro o _ ⟨listings, trace, log, hl, rfl⟩
      exact ⟨rfl, ⟨listings, trace, log, hl, rfl⟩, [], by simp, by simp⟩
    refine Overlooks.bind htime fun _ => ?_
    refine Overlooks.bind (overlooks_runCycle _).attempt fun result => ?_
    exact Overlooks.bind (ih _) fun _ => Overlooks.pure _

theorem overlooks_life (agent : Agent) (times : List (Instant × Option BaselineHook)) :
    (agent.life times).Overlooks := by
  refine Overlooks.bind agent.overlooks_probe.attempt fun probed => ?_
  exact Overlooks.bind (overlooks_cycles _ times) fun _ => Overlooks.pure _

end Agent

/-- Nodes that are listed and not ready influence nothing: not how the nodes are reached, not what a
cycle collects, and not the life of an agent, however many cycles it has. The results are the same,
and so are the files, the requests and whatever else is done. -/
theorem unready_overlooked {o a : Outside} (h : o.Pads a) :
    let same {α : Type} (act : Act α) := (act.outcome a).1 = (act.outcome o).1 ∧
      (act.outcome a).2.files = (act.outcome o).2.files ∧
      ∃ events, (act.outcome o).2.trace = o.trace ++ events ∧
        (act.outcome a).2.trace = a.trace ++ events
    (∀ settings backoff nodeClient clusterClient,
        same (Source.choose settings backoff nodeClient clusterClient)) ∧
      (∀ plan backoff, same (Cycle.collect plan backoff)) ∧
      ∀ agent times, same (Agent.life agent times) := by
  intro same
  have hsame {α : Type} {act : Act α} (hact : act.Overlooks) : same act := by
    obtain ⟨hresult, hpads, hnews⟩ := hact o a h
    exact ⟨hresult, hpads.files, hnews⟩
  refine ⟨fun settings backoff nodeClient clusterClient => hsame ?_,
    fun plan backoff => hsame ?_, fun agent times => hsame (agent.overlooks_life times)⟩
  · exact Overlooks.of_mirrors fun _ _ => Alongside.choose settings backoff nodeClient clusterClient
  · exact Overlooks.of_mirrors fun _ _ => Alongside.collect plan backoff

/-! A cluster of one node that is ready, and the same among two that are not: a Fargate node
without an address, and another node of the same name. -/

namespace Sample

def shy (name : String) (labels : List (String × Option String)) : NodeObject where
  metadata := some ⟨some name, labels⟩
  providerId := none
  status := some {
    conditions := [some ⟨some "Ready", some "False", none, none⟩]
    addresses := []
    kubeletPort := none }

def crowded : Outside :=
  { answering with
    listings := [.nodes [some (shy "z" [("eks.amazonaws.com/compute-type", some "fargate")]),
      some (described "a" "10.0.0.1"), some (shy "a" [])]] }

theorem crowded_pads : answering.Pads crowded := by
  have hshy (name : String) (labels : List (String × Option String)) :
      ∃ info, (shy name labels).snapshot = .ok info ∧ info.isReady = false := ⟨_, rfl, rfl⟩
  obtain ⟨fargate, hfargate, hnot⟩ := hshy "z" [("eks.amazonaws.com/compute-type", some "fargate")]
  obtain ⟨double, hdouble, hnot'⟩ := hshy "a" []
  refine ⟨crowded.listings, _, _, List.Forall₂.cons (Listing.Pads.nodes ?_) List.Forall₂.nil, rfl⟩
  exact Padded.insert hfargate hnot (Padded.keep _ (Padded.insert hdouble hnot' Padded.nil))

/-- The crowd goes unnoticed by an agent that probes and then runs two cycles. -/
theorem crowd_overlooked : answering.listings ≠ crowded.listings ∧
    let agent : Agent :=
      { settings, nodeClient := some nodeClient, clusterClient := some clusterClient }
    let times := [(answering.now, none), ({ answering.now with second := 8 }, none)]
    ((agent.life times).outcome crowded).1 = ((agent.life times).outcome answering).1 ∧
      ((agent.life times).outcome crowded).2.files =
        ((agent.life times).outcome answering).2.files := by
  refine ⟨by decide, ?_⟩
  intro agent times
  obtain ⟨hresult, hfiles, -⟩ := (unready_overlooked crowded_pads).2.2 agent times
  exact ⟨hresult, hfiles⟩

end Sample

end KubeletCollector
