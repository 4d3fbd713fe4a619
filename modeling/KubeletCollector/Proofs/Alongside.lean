import KubeletCollector.Proofs.Choice
import KubeletCollector.Proofs.Mirror
import KubeletCollector.Proofs.Padding
import KubeletCollector.Proofs.Turns

/-! Two runs of which the second finds more nodes in its listings, none of them ready. Whatever
follows on a listing goes by the nodes that are ready. So the two runs end alike, ask and write the
same, and differ in what they log. -/

namespace KubeletCollector

open Text Act

/-- The same was done to both since they were `o₀` and `a₀`, and no hook was called. -/
structure Alongside (o₀ a₀ o a : Outside) : Prop where
  pads : o.Pads a
  news : ∃ events, o.trace = o₀.trace ++ events ∧ a.trace = a₀.trace ++ events ∧
    hookings events = []

theorem Alongside.start {o a : Outside} (h : o.Pads a) : Alongside o a o a :=
  ⟨h, [], by simp, by simp, rfl⟩

variable {o₀ a₀ o a : Outside} {E : Fault → Prop}

theorem Alongside.logged (h : Alongside o₀ a₀ o a) (log log' : List LogRecord) :
    Alongside o₀ a₀ { o with log } { a with log := log' } := by
  obtain ⟨⟨listings, trace, _, hl, rfl⟩, hnews⟩ := h
  exact ⟨⟨listings, trace, log', hl, rfl⟩, hnews⟩

theorem Alongside.noted (h : Alongside o₀ a₀ o a) (event : Event) (hh : event.hooked? = none) :
    Alongside o₀ a₀ { o with trace := o.trace ++ [event] }
      { a with trace := a.trace ++ [event] } := by
  obtain ⟨⟨listings, trace, log, hl, rfl⟩, events, ho, ha, hnone⟩ := h
  refine ⟨⟨listings, _, log, hl, rfl⟩, events ++ [event], ?_, ?_, ?_⟩
  · rw [ho, List.append_assoc]
  · rw [ha, List.append_assoc]
  · rw [hookings_append, hnone]
    simp [hookings, hh]

theorem Alongside.rerouted (h : Alongside o₀ a₀ o a) (side : Side) (routes : Routes) :
    Alongside o₀ a₀ (o.setRoutes side routes) (a.setRoutes side routes) := by
  obtain ⟨⟨listings, trace, log, hl, rfl⟩, hnews⟩ := h
  cases side <;> exact ⟨⟨listings, trace, log, hl, rfl⟩, hnews⟩

namespace Alongside

section Primitives

theorem log (level : LogLevel) (component event : String) (fields : List (String × LogValue)) :
    Mirrors (Alongside o₀ a₀) (fun _ => True) E (Act.log level component event fields) :=
  fun _ _ h => ⟨rfl, h.logged _ _, trivial⟩

theorem note {event : Event} (hh : event.hooked? = none) :
    Mirrors (Alongside o₀ a₀) (fun _ => True) E (Act.note event) :=
  fun _ _ h => ⟨rfl, h.noted event hh, trivial⟩

theorem now : Mirrors (Alongside o₀ a₀) (fun _ => True) E Act.now := by
  rintro o _ ⟨⟨listings, trace, log, hl, rfl⟩, hnews⟩
  exact ⟨rfl, ⟨⟨listings, trace, log, hl, rfl⟩, hnews⟩, trivial⟩

theorem onFiles {α : Type} {V : α → Prop} (p : Path)
    (op : FileTree → Except FileError (α × FileTree)) (hv : ∀ v, V v)
    (hnull : p.hasNull = true → E .nullInPath) (href : ∀ cause, E (.file cause p)) :
    Mirrors (Alongside o₀ a₀) V E (Act.onFiles p op) := by
  rintro o _ ⟨⟨listings, trace, log, hl, rfl⟩, hnews⟩
  rw [outcome_onFiles, outcome_onFiles]
  by_cases hn : p.hasNull = true
  · rw [if_pos hn, if_pos hn]
    exact ⟨rfl, ⟨⟨listings, trace, log, hl, rfl⟩, hnews⟩, hnull hn⟩
  · rw [if_neg hn, if_neg hn]
    dsimp only
    cases op o.files with
    | error cause => exact ⟨rfl, ⟨⟨listings, trace, log, hl, rfl⟩, hnews⟩, href cause⟩
    | ok done => exact ⟨rfl, ⟨⟨listings, trace, log, hl, rfl⟩, hnews⟩, hv done.1⟩

theorem appendTo (loc : Location) (bytes : Bytes) :
    Mirrors (Alongside o₀ a₀) (fun _ => True) E (Act.appendTo loc bytes) := by
  rintro o _ ⟨⟨listings, trace, log, hl, rfl⟩, hnews⟩
  exact ⟨rfl, ⟨⟨listings, trace, log, hl, rfl⟩, hnews⟩, trivial⟩

end Primitives

/-- The two runs, which may do anything as long as they do the same. -/
def pairing (o₀ a₀ : Outside) : Pairing where
  rel := Alongside o₀ a₀
  moves _ _ := True
  asks r r' := r' = r
  answers _ _ := True

theorem sound (o₀ a₀ : Outside) : (pairing o₀ a₀).Sound where
  refl _ := trivial
  trans _ _ := trivial
  reply := by
    rintro _ r o a rfl h
    unfold Outside.reply
    rw [h.pads.routes r.side]
    exact ⟨rfl, trivial⟩
  sent := by
    rintro _ r o a rfl h
    unfold Outside.afterRequest
    rw [h.pads.routes r.side]
    exact ⟨(h.noted (.requested r) rfl).rerouted r.side _, trivial, trivial⟩

theorem scheduled (o₀ a₀ : Outside) : (pairing o₀ a₀).Scheduled where
  same := by
    rintro o _ ⟨⟨listings, trace, log, hl, rfl⟩, -⟩
    rfl
  set := by
    rintro o _ schedule ⟨⟨listings, trace, log, hl, rfl⟩, hnews⟩
    exact ⟨⟨listings, trace, log, hl, rfl⟩, hnews⟩
  did _ _ := trivial

theorem inStep {α : Type} {V : α → Prop} {act : Act α} (hact : act = Act.atomic act.outcome)
    (h : Mirrors (Alongside o₀ a₀) V E act) : act.InStep (pairing o₀ a₀) V E act := by
  refine Act.InStep.immediate hact hact fun o a hr => ?_
  obtain ⟨hsame, hrel, hv⟩ := h o a hr
  exact ⟨hrel, trivial, trivial, hsame, hv⟩

def logic (o₀ a₀ : Outside) : Act.Logic where
  pairing := pairing o₀ a₀
  asks _ := True
  reaches _ := True
  spots _ := True
  asked _ := rfl
  log _ _ _ _ := inStep rfl (log _ _ _ _)
  note _ _ hh := inStep rfl (note hh)
  openEmpty _ hnull href := inStep (Act.atomic_eq _) (onFiles _ _ (fun _ => trivial) hnull href)
  appendTo bytes _ := inStep rfl (appendTo _ bytes)
  removeFile _ hnull href := inStep (Act.atomic_eq _) (onFiles _ _ (fun _ => trivial) hnull href)

theorem mirrors {α : Type} {V : α → Prop} {act : Act α} (h : (logic o₀ a₀).Holds V E act) :
    Mirrors (Alongside o₀ a₀) V E act := by
  intro o a hr
  obtain ⟨hsame, hbeside, hv⟩ := (sound o₀ a₀).outcome h hr
  exact ⟨hsame, hbeside.rel, hv⟩

/-- From outsides that are alongside, an action ends in what two listings answer, of which the
second holds more. -/
def Answers (o₀ a₀ : Outside) (act : Act (List (Option NodeObject))) : Prop :=
  ∀ o a, Alongside o₀ a₀ o a → ∃ (listing more : Listing) (o' a' : Outside), listing.Pads more ∧
    act.outcome o = (listing.answer, o') ∧ act.outcome a = (more.answer, a') ∧
      Alongside o₀ a₀ o' a'

/-- What is listed next, if anything is. -/
theorem listed (h : Alongside o₀ a₀ o a) :
    (nextOf o.listings = none ∧ nextOf a.listings = none) ∨
      ∃ listing rest more rest', nextOf o.listings = some (listing, rest) ∧
        nextOf a.listings = some (more, rest') ∧ listing.Pads more ∧
          Alongside o₀ a₀ { o with listings := rest } { a with listings := rest' } := by
  obtain ⟨⟨listings, trace, log, hl, rfl⟩, hnews⟩ := h
  rcases ho : o.listings with _ | ⟨listing, _ | ⟨next, rest⟩⟩ <;> rw [ho] at hl
  · cases hl
    exact Or.inl ⟨rfl, rfl⟩
  · cases hl with
    | cons hpads hnil =>
      have hsame := List.Forall₂.cons hpads hnil
      cases hnil
      exact Or.inr ⟨_, _, _, _, rfl, rfl, hpads, ⟨_, trace, log, hsame, rfl⟩, hnews⟩
  · cases hl with
    | cons hpads hrest =>
      have hleft := hrest
      cases hrest
      exact Or.inr ⟨_, _, _, _, rfl, rfl, hpads, ⟨_, trace, log, hleft, rfl⟩, hnews⟩

theorem answers_askForNodes : Answers o₀ a₀ Act.askForNodes := by
  intro o a h
  rw [outcome_askForNodes, outcome_askForNodes]
  rcases h.listed with ⟨ho, ha⟩ | ⟨listing, rest, more, rest', ho, ha, hpads, hrest⟩ <;>
    rw [ho, ha]
  · exact ⟨.nodes [], .nodes [], _, _, Listing.Pads.refl _, rfl, rfl, h.noted .listed rfl⟩
  · exact ⟨listing, more, _, _, hpads, rfl, rfl, hrest.noted .listed rfl⟩

theorem answers_retryWith {act : Act (List (Option NodeObject))} (h : Answers o₀ a₀ act)
    (pauses : List Float) : Answers o₀ a₀ (Directory.retryWith act pauses) := by
  induction pauses with
  | nil => exact h
  | cons pause pauses ih =>
    intro o a hs
    obtain ⟨listing, more, o', a', hpads, ho, ha, h'⟩ := h o a hs
    unfold Directory.retryWith
    rw [outcome_bind, outcome_bind, outcome_attempt, outcome_attempt, ho, ha]
    cases hpads with
    | nodes hp => exact ⟨_, _, o', a', Listing.Pads.nodes hp, rfl, rfl, h'⟩
    | fault f =>
      by_cases hc : f.isConflict = true
      · simp only [Listing.answer, hc, ↓reduceIte, outcome_bind, outcome_log, outcome_note]
        exact ih _ _ ((h'.noted (.paused pause) rfl).logged _ _)
      · simp only [Listing.answer, hc]
        exact ⟨_, _, o', a', Listing.Pads.fault f, rfl, rfl, h'⟩

theorem fraction : Mirrors (Alongside o₀ a₀) (fun _ => True) E Act.fraction := by
  rintro o _ ⟨⟨listings, trace, log, hl, rfl⟩, hnews⟩
  unfold Act.fraction
  simp only [outcome_bind, outcome_get]
  split
  · exact ⟨rfl, ⟨⟨listings, trace, log, hl, rfl⟩, hnews⟩, trivial⟩
  · exact ⟨rfl, ⟨⟨listings, trace, log, hl, rfl⟩, hnews⟩, trivial⟩

theorem pausesFrom (backoff : Backoff) (duration : Float) (count : Nat) :
    Mirrors (Alongside o₀ a₀) (fun _ => True) E (backoff.pausesFrom duration count) := by
  induction count generalizing duration with
  | zero => exact Mirrors.pure trivial
  | succ count ih =>
    unfold Backoff.pausesFrom
    exact Mirrors.bind fraction fun r _ => Mirrors.bind (ih _) fun _ _ => Mirrors.pure trivial

theorem readyNodes (backoff : Backoff) :
    Mirrors (Alongside o₀ a₀) (fun _ => True) (fun _ => True) (Directory.readyNodes backoff) := by
  intro o a h
  obtain ⟨hpauses, h₁, -⟩ := pausesFrom (E := fun _ => True) backoff backoff.duration
    (backoff.steps - 1).toNat o a h
  obtain ⟨pauses, fractions, -, hp⟩ := Directory.outcome_pausesFrom backoff backoff.duration
    (backoff.steps - 1).toNat o
  obtain ⟨pauses', fractions', -, hp'⟩ := Directory.outcome_pausesFrom backoff backoff.duration
    (backoff.steps - 1).toNat a
  rw [hp, hp'] at hpauses h₁
  cases hpauses
  obtain ⟨listing, more, o₂, a₂, hpads, ho, ha, h₂⟩ :=
    answers_retryWith answers_askForNodes pauses _ _ h₁
  obtain ⟨log, hready⟩ := Directory.outcome_readyNodes (Directory.outcome_nodes hp ho)
  obtain ⟨log', hready'⟩ := Directory.outcome_readyNodes (Directory.outcome_nodes hp' ha)
  rw [hready, hready', hpads.ready]
  refine ⟨rfl, h₂.logged log log', ?_⟩
  split <;> trivial

theorem candidates (backoff : Backoff) :
    Mirrors (Alongside o₀ a₀) (fun _ => True) (fun _ => True) (Source.candidates backoff) := by
  refine Mirrors.attempt (readyNodes backoff) (fun ready _ => ?_) fun _ _ => Mirrors.throw trivial
  cases ready with
  | nil => exact Mirrors.throw trivial
  | cons first rest =>
    dsimp only
    split
    · exact Mirrors.throw trivial
    · exact Mirrors.pure trivial

/-- How the nodes are reached does not depend on nodes that are not ready. -/
theorem choose (settings : Settings) (backoff : Backoff) (nodeClient clusterClient : Client) :
    Mirrors (Alongside o₀ a₀) (fun _ => True) (fun _ => True)
      (Source.choose settings backoff nodeClient clusterClient) := by
  have hallowed (probing : Source.Probing) : probing.Allowed (logic o₀ a₀) :=
    fun _ _ _ _ => trivial
  unfold Source.choose
  refine Mirrors.bind (candidates backoff) fun ⟨ready, first, ip, port⟩ _ => ?_
  have hdecide := Source.holds_decideDirect (L := logic o₀ a₀) (E := fun _ => True)
    settings.kubelet.forceProxy ready
  refine Mirrors.bind (mirrors hdecide) fun allowed _ => ?_
  dsimp only
  rw [← ite_bind]
  refine Mirrors.bind (V := fun p => p.usable = true → Source.isUsable p.mask = true) ?_
    fun directProbe _ => ?_
  · split
    · exact mirrors ((hallowed _).probePath "direct")
    · exact Mirrors.pure nofun
  refine Mirrors.bind (mirrors ((hallowed _).probePath "proxy")) fun proxyProbe _ => ?_
  refine Mirrors.bind now fun probedAt _ => ?_
  split
  · exact Mirrors.bind (log _ _ _ _) fun _ _ => Mirrors.pure trivial
  · split
    · exact Mirrors.bind (log _ _ _ _) fun _ _ => Mirrors.pure trivial
    · exact Mirrors.pure trivial

theorem collect_eq (plan : Cycle.Plan) (backoff : Backoff) :
    Cycle.collect plan backoff = Cycle.nodes backoff >>= plan.work := by
  unfold Cycle.collect Cycle.Plan.work
  simp only [ite_bind]

/-- What a cycle collects does not depend on them either. -/
theorem collect (plan : Cycle.Plan) (backoff : Backoff) :
    Mirrors (Alongside o₀ a₀) (fun _ => True) (fun _ => True) (Cycle.collect plan backoff) := by
  have hpasses (job : Job) (client : Client) (endpoints : NodeEndpoints)
      (kinds : List EndpointKind) :
      Passes (logic o₀ a₀) (fun _ => True) job client endpoints kinds :=
    Passes.free (fun _ => trivial) fun _ _ _ _ => trivial
  rw [collect_eq]
  refine Mirrors.bind (V := fun _ => True) ?_ fun ready _ => ?_
  · exact Mirrors.attempt (readyNodes backoff) (fun _ _ => Mirrors.pure trivial)
      fun _ _ => Mirrors.throw trivial
  · have hwork : (logic o₀ a₀).Holds (fun _ => True) (fun _ => True) (plan.work ready) :=
      Cycle.holds_work (sound o₀ a₀) (scheduled o₀ a₀) ready fun n _ =>
        ⟨fun _ client a _ _ => hpasses _ client _ _, fun client _ => hpasses _ client _ _⟩
    exact mirrors hwork

theorem makeDirectoriesFrom (start : PathStart) (names : List String) :
    Mirrors (Alongside o₀ a₀) (fun _ => True) (fun _ => True)
      (Act.makeDirectoriesFrom start names) := by
  have hensure (p : Path) : Mirrors (Alongside o₀ a₀) (fun _ => True) (fun _ => True)
      (Act.ensureDirectory p) :=
    onFiles p _ (fun _ => trivial) (fun _ => trivial) fun _ => trivial
  induction names with
  | nil => exact hensure _
  | cons name above ih =>
    unfold Act.makeDirectoriesFrom
    refine Mirrors.attempt (hensure _) (fun _ _ => Mirrors.pure trivial) fun f _ => ?_
    split
    · exact Mirrors.pure trivial
    · exact Mirrors.bind ih fun _ _ => hensure _
    · exact Mirrors.throw trivial

theorem download (agent : Agent) (session : Session) (time : Instant) :
    Mirrors (Alongside o₀ a₀) (fun _ => True) (fun _ => True) (agent.download session time) :=
  Mirrors.bind (makeDirectoriesFrom _ _) fun _ _ => collect _ _

end Alongside

end KubeletCollector
