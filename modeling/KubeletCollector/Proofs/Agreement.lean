import KubeletCollector.Proofs.Alongside
import KubeletCollector.Proofs.ProbeOnce
import KubeletCollector.Proofs.Sessions
import KubeletCollector.Proofs.Settling

/-! A single probe and the probing of an agent. The two are written apart from each other, with
handlers of their own, and come to the same: what the one prints, and its exit code, can
be told from the state of the other. -/

namespace KubeletCollector

open Text Number Act

/-- The nodes are asked for, an endpoint is, or either is waited for. -/
def Event.isAsk : Event → Bool
  | .listed | .paused _ | .requested _ => true
  | _ => false

def asks (events : List Event) : List Event :=
  events.filter Event.isAsk

theorem asks_append (events more : List Event) :
    asks (events ++ more) = asks events ++ asks more :=
  List.filter_append events more

def Outside.sought (before after : Outside) : List Event :=
  asks (after.trace.drop before.trace.length)

theorem Outside.sought_eq {before after : Outside} {events : List Event}
    (h : after.trace = before.trace ++ events) : before.sought after = asks events := by
  rw [sought, h, List.drop_left]

def Outside.Unasked (before after : Outside) : Prop :=
  ∃ events, after.trace = before.trace ++ events ∧ asks events = []

theorem Outside.Unasked.refl (o : Outside) : o.Unasked o :=
  ⟨[], (List.append_nil _).symm, rfl⟩

theorem asks_of_unasked {before after : Outside} {events : List Event} (h : before.Unasked after)
    (ht : after.trace = before.trace ++ events) : asks events = [] := by
  obtain ⟨more, hmore, hnone⟩ := h
  rwa [List.append_cancel_left (ht.symm.trans hmore)]

section Unasked

variable {start : Outside} {E : Fault → Prop}

theorem unasked_note {event : Event} (h : event.isAsk = false) :
    Keeps start.Unasked (fun _ => True) E (Act.note event) := by
  rintro o ⟨events, ht, hnone⟩
  refine ⟨⟨events ++ [event], ?_, ?_⟩, trivial⟩
  · rw [outcome_note, ht, List.append_assoc]
  · rw [asks_append, hnone]
    simp [asks, h]

theorem unasked_get {α : Type} {V : α → Prop} {next : Outside → Act α}
    (h : ∀ o, Keeps start.Unasked V E (next o)) : Keeps start.Unasked V E (get >>= next) :=
  Keeps.bind (V := fun _ => True) (fun _ ho => ⟨ho, trivial⟩) fun o _ => h o

theorem unasked_raiseIf (f : Option Fault) :
    Keeps start.Unasked (fun _ => True) (fun _ => True) (Act.raiseIf f) := by
  cases f with
  | none => exact Keeps.pure trivial
  | some f => exact Keeps.throw trivial

theorem unasked_openApi : Keeps start.Unasked (fun _ => True) (fun _ => True) openApi := by
  unfold openApi
  refine Keeps.bind (unasked_note rfl) fun _ _ => unasked_get fun o => ?_
  split
  · exact Keeps.pure trivial
  · exact Keeps.bind (unasked_note rfl) fun _ _ => unasked_get fun o => unasked_raiseIf _
  · exact Keeps.throw trivial

theorem unasked_buildClients (settings : Settings) :
    Keeps start.Unasked (fun _ => True) (fun _ => True) (buildClients settings) := by
  have htoken : Keeps start.Unasked (fun _ => True) (fun _ => True)
      (bearerToken settings.kubelet) := by
    intro o ho
    obtain ⟨result, hrecords⟩ := records_bearerToken settings.kubelet o
    rw [hrecords.here, List.append_nil]
    exact ⟨ho, by cases result <;> trivial⟩
  have hconnect (side : Side) (timeout : Float) (verification : Verification) (client : Client) :
      Keeps start.Unasked (fun _ => True) (fun _ => True)
        (Client.connect side timeout verification >>= fun _ => pure client) := by
    refine Keeps.bind (V := fun _ => True) ?_ fun _ _ => Keeps.pure trivial
    exact Keeps.bind (unasked_note rfl) fun _ _ => unasked_get fun o => unasked_raiseIf _
  refine Keeps.bind htoken fun token _ => ?_
  refine Keeps.bind (hconnect _ _ _ _) fun nodeClient _ => ?_
  exact Keeps.bind (hconnect _ _ _ _) fun clusterClient _ => Keeps.pure trivial

/-- Opening asks for nothing. -/
theorem unasked_opening (settings : Settings) (o : Outside) :
    o.Unasked ((openApi >>= fun _ => buildClients settings).outcome o).2 :=
  (Keeps.run (Keeps.bind unasked_openApi fun _ _ => unasked_buildClients settings)
    (Outside.Unasked.refl o)).1

end Unasked

namespace Command

/-- What a single probe says where an agent would be left in this state. -/
def told (state : CollectionState) : Finished :=
  match state.session with
  | none => ⟨1, some (Document.table [("mode", .nothing), ("error", .text state.probeError)]).page⟩
  | some session =>
    if session.retrieveSummaries then ⟨0, some (Document.table (sessionEntries session)).page⟩
    else ⟨2, some (Document.table
      (sessionEntries session ++ [("error", .text state.probeError)])).page⟩

theorem code_told_unset {state : CollectionState} (h : state.session = none) :
    (told state).code = 1 := by
  unfold told
  rw [h]

theorem code_told {state : CollectionState} {session : Session} (h : state.session = some session) :
    (told state).code = if session.retrieveSummaries then 0 else 2 := by
  unfold told
  rw [h]
  cases hr : session.retrieveSummaries <;> simp [hr]

/-- A summary says what the choice would make of the state of an agent. -/
theorem outcome_summary_told {settings : Settings} {backoff : Backoff}
    {nodeClient clusterClient : Client} {chosen : Except Fault Source} {o o₁ : Outside}
    (h : (Source.choose settings backoff nodeClient clusterClient).outcome o = (chosen, o₁))
    (o₂ : Outside) : (summary chosen).outcome o₂ =
      ((CollectionState.settled {} chosen).map told, o₂) := by
  rcases chosen with f | source
  · unfold summary CollectionState.settled
    cases hf : f.isOwn <;> simp only [hf] <;> rfl
  · obtain ⟨first, -, hmade⟩ := Source.choose_made h
    cases hmade with
    | direct _ _ _ hr | proxy _ _ _ hr | unreachable _ _ _ hr =>
      simp [summary, CollectionState.settled, told, hr, Except.map]

end Command

/-- Every part can be opened with these settings, and closed. -/
structure Outside.Sound (o : Outside) (settings : Settings) : Prop where
  opens : .clusterClient ∈ o.openable settings
  closes : ∀ part, o.platform.closeFault part = none
  apiCloses : o.platform.apiCloses = true

namespace Command

theorem outcome_closeAll {o : Outside} (hf : ∀ part, o.platform.closeFault part = none)
    (ha : o.platform.apiCloses = true) : closeAll.outcome o = (.ok (), { o with
      trace := o.trace ++ [.closed .clusterClient, .closed .nodeClient, .closed .apiClient] }) := by
  have hclose (part : Component) (o₁ : Outside) (h : o₁.platform = o.platform) :
      (Act.close part).outcome o₁ = (.ok (), { o₁ with trace := o₁.trace ++ [.closed part] }) := by
    unfold Act.close Act.raiseIf
    simp only [outcome_bind, outcome_note, outcome_get, h, hf, outcome_pure]
  unfold closeAll
  simp [outcome_bind, hclose, ha]

theorem opened_of_sound {settings : Settings} {o : Outside} (hs : o.Sound settings) :
    ∃ clients noted events, openApi.Records o (.ok ()) noted ∧
      (buildClients settings).Records o (.ok clients) events := by
  have hopens := hs.opens
  generalize hparts : o.openable settings = parts at hopens
  cases hparts ▸ opening settings o with
  | unopened hapi => cases hopens
  | partly hapi hclients hpart => exact absurd (List.mem_of_ne_of_mem (by decide) hopens) hpart
  | opened hapi hclients => exact ⟨_, _, _, hapi, hclients⟩

section Probing

variable {env : Environment} {settings : Settings} {o : Outside} {clients : Client × Client}
  {noted events : List Event}

def opened (o : Outside) (settings : Settings) (events : List Event) : Outside :=
  { o with trace := o.trace ++ [.loggingSet settings.log.level "console"] ++ events }

/-- A single probe that can open and close its parts is a choice, told and then closed. -/
theorem outcome_probeOnce (hl : Settings.load env = .ok settings) (hs : o.Sound settings)
    (hapi : openApi.Records o (.ok ()) noted)
    (hclients : (buildClients settings).Records o (.ok clients) events)
    {chosen : Except Fault Source} {o₁ : Outside}
    (hc : (Source.choose settings {} clients.1 clients.2).outcome
      (opened o settings (noted ++ events)) = (chosen, o₁)) :
    (probeOnce env false).outcome o = ((CollectionState.settled {} chosen).map told,
      { o₁ with trace :=
          o₁.trace ++ [.closed .clusterClient, .closed .nodeClient, .closed .apiClient] }) := by
  have hplatform : o₁.platform = o.platform := by
    have hclosed := (closed_choose settings {} clients.1 clients.2 _
      (Outside.Closed.refl (opened o settings (noted ++ events)))).1
    rw [hc] at hclosed
    exact hclosed.platform
  have hclose := outcome_closeAll (o := o₁) (by simpa [hplatform] using hs.closes)
    (by rw [hplatform]; exact hs.apiCloses)
  have hopening : (openApi >>= fun _ => buildClients settings).Records o (.ok clients)
      (noted ++ events) := hapi.bind hclients
  have hforce : ({ settings with
      kubelet.forceProxy := settings.kubelet.forceProxy || false } : Settings) = settings := by
    rw [Bool.or_false]
  have hprobe : (probeOnce env false).outcome o = (openAndChoose settings).outcome
      { o with trace := o.trace ++ [.loggingSet settings.log.level "console"] } := by
    unfold probeOnce
    simp only [hl, hforce]
    rfl
  rw [hprobe, openAndChoose, ← bind_assoc, outcome_bind, hopening.outcome]
  simp only
  rw [outcome_bind, outcome_attempt]
  unfold opened at hc
  simp only [hc, outcome_bind, hclose]
  exact outcome_summary_told hc _

theorem outcome_probe_assembled (hook : Option BaselineHook)
    (hr : settings.collection.retrieveSummaries = true) {chosen : Except Fault Source}
    {o₁ : Outside} (hc : (Source.choose settings {} clients.1 clients.2).outcome o = (chosen, o₁)) :
    ∃ log, (Agent.assembled settings hook clients).probe.outcome o =
      (CollectionState.settled {} chosen, { o₁ with log }) := by
  have hbackoff : (Agent.assembled settings hook clients).backoff = {} := rfl
  have hstate : (Agent.assembled settings hook clients).state = {} := rfl
  rw [← hstate]
  refine Agent.outcome_probe rfl rfl hr ?_
  rw [hbackoff]
  exact hc

/-- A single probe asks for what the probing of an agent does, and tells what that would leave. -/
theorem probeOnce_follows (hl : Settings.load env = .ok settings)
    (hr : settings.collection.retrieveSummaries = true) (hs : o.Sound settings)
    (hapi : openApi.Records o (.ok ()) noted)
    (hclients : (buildClients settings).Records o (.ok clients) events)
    (hook : Option BaselineHook) (trace : List Event) (log : List LogRecord) {a' : Outside}
    {state : Except Fault CollectionState}
    (hp : (Agent.assembled settings hook clients).probe.outcome { o with trace, log } =
      (state, a')) :
    ∃ o', (probeOnce env false).outcome o = (state.map told, o') ∧
      o.sought o' = ({ o with trace, log } : Outside).sought a' := by
  -- both choose in the same world, of which the one has the opening on record
  have hpads : (opened o settings (noted ++ events)).Pads { o with trace, log } :=
    Outside.pads_recorded _ trace log
  obtain ⟨hsame, ⟨-, asked, ho, ha, -⟩, -⟩ := Alongside.choose settings {} clients.1 clients.2
    _ _ (Alongside.start hpads)
  rcases hc : (Source.choose settings {} clients.1 clients.2).outcome
    (opened o settings (noted ++ events)) with ⟨chosen, o₁⟩
  rcases hd : (Source.choose settings {} clients.1 clients.2).outcome { o with trace, log } with
    ⟨chosen', a₁⟩
  rw [hc, hd] at hsame
  rw [hc] at ho
  rw [hd] at ha
  obtain rfl : chosen' = chosen := hsame
  obtain ⟨log', hprobe⟩ := outcome_probe_assembled hook hr hd
  obtain ⟨rfl, rfl⟩ := Prod.mk.inj (hprobe.symm.trans hp)
  refine ⟨_, outcome_probeOnce hl hs hapi hclients hc, Eq.trans ?_ (Outside.sought_eq ha).symm⟩
  have hunasked : asks (noted ++ events) = [] :=
    asks_of_unasked (unasked_opening settings o) (by rw [(hapi.bind hclients).here])
  have hsingle : o₁.trace = o.trace ++
      ([.loggingSet settings.log.level "console"] ++ (noted ++ events) ++ asked) := by
    simpa only [opened, List.append_assoc] using ho
  rw [Outside.sought_eq (by rw [hsingle, List.append_assoc])]
  simp only [asks_append, hunasked]
  exact List.append_nil _

/-- The exit code of a single probe classifies the state that the probing of an agent leaves. -/
structure Classifies (code : Nat) (state : CollectionState) : Prop where
  collects : code = 0 ↔ state.isEnabled = true
  unreachable : code = 2 ↔ ∃ session, state.session = some session ∧ session.mode = .unreachable
  unset : code = 1 ↔ state.session = none

theorem classifies_told {nodeClient clusterClient : Client} {backoff : Backoff}
    {chosen : Except Fault Source} {o₁ : Outside} {state : CollectionState}
    (hc : (Source.choose settings backoff nodeClient clusterClient).outcome o = (chosen, o₁))
    (hs : CollectionState.settled {} chosen = .ok state) : Classifies (told state).code state := by
  rcases chosen with f | source
  · simp only [CollectionState.settled] at hs
    split at hs <;> cases hs
    rw [code_told_unset rfl]
    exact ⟨by simp [CollectionState.isEnabled], by simp, by simp⟩
  · obtain ⟨first, -, hmade⟩ := Source.choose_made hc
    cases hmade with
    | direct hm _ _ hr | proxy hm _ _ hr | unreachable hm _ _ hr =>
      cases hs
      rw [code_told rfl, hr]
      exact ⟨by simp [CollectionState.isEnabled, hr], by simp [hm], by simp⟩

end Probing

end Command

/-! Forcing the proxy by the environment. No other setting is read from the variable for it. -/

def Environment.forced (env : Environment) : Environment :=
  ("NODESTATS_FORCE_KUBE_PROXY", "true") :: env

namespace Environment

variable (env : Environment)

theorem lookup_forced {key : String} (h : key ≠ "NODESTATS_FORCE_KUBE_PROXY") :
    env.forced.lookup key = env.lookup key := by
  rw [forced, List.lookup_cons, beq_eq_false_iff_ne.2 h]

theorem get?_forced {key : String} (h : key ≠ "FORCE_KUBE_PROXY") :
    env.forced.get? key = env.get? key :=
  env.lookup_forced fun he => h (String.append_right_inj "NODESTATS_" |>.1 he)

theorem text_forced {key : String} (default : String) (h : key ≠ "FORCE_KUBE_PROXY") :
    env.forced.text key default = env.text key default := by
  rw [text, text, env.get?_forced h]

theorem flag_forced {key : String} (default : Bool) (h : key ≠ "FORCE_KUBE_PROXY") :
    env.forced.flag key default = env.flag key default := by
  rw [flag, flag, env.get?_forced h]

theorem flag_force (default : Bool) : env.forced.flag "FORCE_KUBE_PROXY" default = true := by
  have hset : env.forced.get? "FORCE_KUBE_PROXY" = some "true" := by
    rw [get?, forced, List.lookup_cons, beq_iff_eq.2 (by decide)]
  rw [flag, hset]
  show ["true", "1", "yes"].contains "true".toLower = true
  decide +kernel

theorem integer_forced {key : String} (default : Int) (least greatest : Option Int)
    (h : key ≠ "FORCE_KUBE_PROXY") :
    env.forced.integer key default least greatest = env.integer key default least greatest := by
  simp only [integer, env.text_forced _ h]

theorem decimal_forced {key : String} (default : Float) (least : Option Float)
    (h : key ≠ "FORCE_KUBE_PROXY") :
    env.forced.decimal key default least = env.decimal key default least := by
  rw [decimal, decimal, env.get?_forced h]

theorem defaultHostUrl_forced : defaultHostUrl env.forced = defaultHostUrl env := by
  rw [defaultHostUrl, defaultHostUrl, env.lookup_forced (by decide), env.lookup_forced (by decide)]

end Environment

theorem Settings.load_forced (env : Environment) : Settings.load env.forced =
    (fun settings => { settings with kubelet.forceProxy := true }) <$> Settings.load env := by
  unfold Settings.load
  simp (disch := decide) only [Environment.text_forced, Environment.flag_forced,
    Environment.flag_force, Environment.integer_forced, Environment.decimal_forced,
    Environment.defaultHostUrl_forced]
  simp only [map_bind, map_pure]

namespace Command

theorem probeOnce_forced (env : Environment) : probeOnce env true = probeOnce env.forced false := by
  unfold probeOnce
  rw [Settings.load_forced]
  cases Settings.load env with
  | error cause => rfl
  | ok settings =>
    simp only [Bool.or_true, Functor.map, Except.map, Bool.or_false]

/-- Where its parts can be opened and closed, a single probe asks for what the probing of an agent
with the settings of the same environment asks for, is ended by the same fault if by any, and
else tells the state that the agent is left in. To force the proxy is to set it in the
environment. -/
theorem probe_agrees (env : Environment) :
    (∀ settings o, Settings.load env = .ok settings →
      settings.collection.retrieveSummaries = true → o.Sound settings →
      ∃ clients, ∀ hook trace log,
        let a : Outside := { o with trace, log }
        let single := (probeOnce env false).outcome o
        let probed := (Agent.assembled settings hook clients).probe.outcome a
        ((buildClients settings).outcome a).1 = .ok clients ∧
          o.sought single.2 = a.sought probed.2 ∧ single.1 = probed.1.map told ∧
          ∀ state, probed.1 = .ok state → Classifies (told state).code state) ∧
    probeOnce env true = probeOnce env.forced false := by
  refine ⟨fun settings o hl hr hs => ?_, probeOnce_forced env⟩
  obtain ⟨clients, noted, events, hapi, hclients⟩ := opened_of_sound hs
  refine ⟨clients, fun hook trace log => ?_⟩
  dsimp only
  rcases hc : (Source.choose settings {} clients.1 clients.2).outcome { o with trace, log } with
    ⟨chosen, a₁⟩
  obtain ⟨log', hprobe⟩ := outcome_probe_assembled hook hr hc
  obtain ⟨o', hsingle, hsought⟩ := probeOnce_follows hl hr hs hapi hclients hook trace log hprobe
  rw [hprobe, hsingle]
  exact ⟨by rw [hclients.outcome], hsought, rfl, fun state => classifies_told hc⟩

end Command

/-! A cluster of one node and nobody to answer for it, probed with nothing in the environment. -/

namespace Sample

def unanswered : Outside :=
  lone (described "a" "10.0.0.1")

theorem unanswered_sound : ∃ settings, Settings.load [] = .ok settings ∧
    settings.collection.retrieveSummaries = true ∧ unanswered.Sound settings := by
  have hload : (Settings.load []).toOption.map (·.collection.retrieveSummaries) = some true := by
    decide +kernel
  have hopened : .clusterClient ∈ unanswered.opened none [] := by
    decide +kernel
  obtain ⟨settings, hs, hsummaries⟩ := ok_of_toOption hload
  rw [Outside.opened_of_load hs] at hopened
  exact ⟨settings, hs, hsummaries, hopened, fun _ => rfl, rfl⟩

/-- The nodes cannot be reached, says the single probe, and the agent finds the same. -/
theorem probe_agrees_unanswered : ∃ settings clients state,
    Settings.load [] = .ok settings ∧ settings.collection.retrieveSummaries = true ∧
      unanswered.Sound settings ∧
      ((Agent.assembled settings none clients).probe.outcome unanswered).1 = .ok state ∧
      ((Command.probeOnce [] false).outcome unanswered).1 = .ok (Command.told state) ∧
      (Command.told state).code = 2 ∧
      ∃ session, state.session = some session ∧ session.mode = .unreachable := by
  have hcode : ((Command.probeOnce [] false).outcome unanswered).1.toOption.map (·.code) =
      some 2 := by
    decide +kernel
  obtain ⟨settings, hl, hr, hs⟩ := unanswered_sound
  obtain ⟨clients, hagrees⟩ := (Command.probe_agrees []).1 settings unanswered hl hr hs
  obtain ⟨-, -, htold, hclass⟩ := hagrees none [] []
  change _ = Except.map Command.told
    ((Agent.assembled settings none clients).probe.outcome unanswered).1 at htold
  rcases hp : ((Agent.assembled settings none clients).probe.outcome unanswered).1 with f | state
  · rw [htold, hp] at hcode
    cases hcode
  · rw [htold, hp] at hcode
    have htwo : (Command.told state).code = 2 := Option.some.inj hcode
    refine ⟨settings, clients, state, hl, hr, hs, hp, ?_, htwo, ?_⟩
    · rw [htold, hp]
      rfl
    · exact (hclass state hp).unreachable.1 htwo

end Sample

end KubeletCollector
