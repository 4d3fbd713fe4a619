import KubeletCollector.Proofs.Choice
import KubeletCollector.Proofs.Turns

/-! The loop around the cycles. Every round ends in a rest, whatever became of its cycle. A
finished download is recorded even if the hook fails; any other round leaves the record as it
was and only says what went wrong. -/

namespace KubeletCollector

open Act

/-- Whatever the replies are, what breaks off a node's collection is none of the faults that
go into the report. -/
theorem Covers.unreported (o : Outside) (session : Session) (job : Job) (n : NodeInfo) :
    Covers (Scope.all.logic o) (fun f => Cycle.isReported f = false) session job n := by
  have hspoken (f : Fault) : Spoken (fun f => Cycle.isReported f = false) f := by
    unfold Spoken
    cases h : Cycle.isReported f
    · exact Or.inr h
    · exact Or.inl rfl
  have hpasses (client : Client) (endpoints : NodeEndpoints) (kinds : List EndpointKind) :
      Passes (Scope.all.logic o) (fun f => Cycle.isReported f = false) job client endpoints kinds :=
    { download := fun _ _ _ _ => ⟨trivial, fun _ _ => trivial, fun _ => rfl,
        fun _ _ f _ => Or.inr (hspoken f)⟩
      address := fun _ _ _ => rfl }
  exact ⟨fun _ client a _ _ => hpasses client _ _, fun client _ => hpasses client _ _⟩

section Texts

theorem append_ne_empty {s t : String} (h : s ≠ "") : s ++ t ≠ "" :=
  fun he => h (String.append_eq_empty_iff.1 he).1

theorem Fault.message_file (cause : FileError) (path : Path) :
    (Fault.file cause path).message ≠ "" := by
  have htext : "[Errno " ++ toString cause.number ++ "] " ++ cause.text ++ ": " ++
      Text.quoted path.text ≠ "" := by
    repeat apply append_ne_empty
    decide
  exact htext

theorem Fault.message_listing (cause : Fault) : (Fault.listing cause).message ≠ "" := by
  have htext : "unable to get a list of nodes: " ++ cause.message ≠ "" :=
    append_ne_empty (by decide)
  exact htext

theorem Cycle.baselineText_ne_empty (f : Fault) : Cycle.baselineText f ≠ "" :=
  append_ne_empty (by decide)

end Texts

namespace Agent

variable {agent : Agent} {session : Session} {o done : Outside}

def list (agent : Agent) (time : Instant) : Act (List NodeInfo) :=
  Act.makeDirectories (sampleDir agent.settings time) >>= fun _ =>
    Directory.readyNodes agent.backoff

structure Downloaded (agent : Agent) (time : Instant) (o : Outside)
    (result : Except Fault FailureReport) (done : Outside) : Prop where
  grows : o.trace <+: done.trace
  marks : marks done.trace = marks o.trace
  platform : done.platform = o.platform
  fault : ∀ f, result = .error f → Cycle.isReported f = true → f.message ≠ ""
  unlisted : ∀ f o', (agent.list time).outcome o = (.error f, o') →
    (∃ g, result = .error g) ∧ o.asked done = []

theorem download_spec (agent : Agent) (session : Session) (time : Instant) (o : Outside) :
    agent.Downloaded time o ((agent.download session time).outcome o).1
      ((agent.download session time).outcome o).2 := by
  obtain ⟨made, files, hmade, hout, hdownload⟩ := agent.outcome_download session time o
  rw [hdownload]
  cases made with
  | error f =>
    refine ⟨List.prefix_refl _, rfl, rfl, ?_, fun _ _ _ => ⟨⟨f, rfl⟩, ?_⟩⟩
    · rintro _ ⟨⟩ hreported
      rcases hmade.fault f rfl with rfl | ⟨cause, path, rfl⟩
      · cases hreported
      · exact Fault.message_file cause path
    · simp [Outside.asked, requests]
  | ok u =>
    let plan := Cycle.Plan.ofSettings agent.settings session (sampleDir agent.settings time)
    have hcovers (n : NodeInfo) (_ : n ∈ Directory.readyAt agent.backoff { o with files }) :=
      Covers.unreported { o with files } plan.session (plan.job n) n
    rcases Cycle.collect_within hcovers with ⟨f, o', hl, hcollect, hidle⟩ |
      ⟨o₁, result, o', hl, hcollect, hwithin, hbad⟩ <;> simp only [plan] at hcollect <;>
      simp only [hcollect]
    · refine ⟨hidle.grows, hidle.marks, hidle.platform, ?_,
        fun _ _ _ => ⟨⟨_, rfl⟩, hidle.asked_nothing⟩⟩
      rintro _ ⟨⟩ -
      exact Fault.message_listing f
    · refine ⟨hwithin.grows, hwithin.marks, hwithin.platform, fun f hf hreported => ?_,
        fun f o'' hlist => ?_⟩
      · cases (hbad f hf).symm.trans hreported
      · unfold list at hlist
        rw [outcome_bind, hout] at hlist
        cases hl.symm.trans hlist

def rested (agent : Agent) (o : Outside) : Outside :=
  { o with trace := o.trace ++ [.rested agent.settings.collection.pollInterval] }

inductive Rounded (agent : Agent) (session : Session) (o : Outside) :
    CollectionState → Outside → Prop
  | finished {report : FailureReport} {done o' : Outside} :
      (agent.download session o.now).outcome o = (.ok report, done) → Within Scope.idle done o' →
      Rounded agent session o (agent.finished report o'.now) o'
  | broken {f : Fault} {done o' : Outside} {error : String} :
      (agent.download session o.now).outcome o = (.error f, done) → Within Scope.idle done o' →
      error ≠ "" → Rounded agent session o { agent.state with lastError := error } o'

/-- A round never fails, and rests once its cycle is over. -/
theorem round_rounded (agent : Agent) {session : Session}
    (hs : agent.state.session.filter Session.retrieveSummaries = some session) (o : Outside) :
    ∃ state o', agent.round.outcome o = (.ok state, agent.rested o') ∧
      agent.Rounded session o state o' := by
  unfold round
  simp only [outcome_bind, outcome_attempt]
  rcases hrun : agent.runCycle.outcome o with ⟨result, o₁⟩
  cases cycled_of_runCycle hs hrun with
  | finished hd hidle => exact ⟨_, o₁, rfl, Rounded.finished hd hidle⟩
  | failed hd hf hidle =>
    have herror := (agent.download_spec session o.now o).fault _ (by rw [hd]) hf
    exact ⟨_, o₁, rfl, Rounded.broken hd hidle herror⟩
  | crashed hd hf =>
    have hlogged (log : List LogRecord) := logged_idle (Within.refl _ o₁) log
    exact ⟨_, _, rfl, Rounded.broken hd (hlogged _) (append_ne_empty (by decide))⟩

/-- A turn in which nothing went wrong, the hook included. -/
def Clean (agent : Agent) (session : Session) (turn : Turn) : Prop :=
  (∃ report done, (agent.download session turn.before.now).outcome turn.before =
      (.ok report, done)) ∧
    turn.hook.bind BaselineHook.fault = none

/-- The record of finished downloads stays as it was. -/
def Unrecorded (turn : Turn) : Prop :=
  turn.new.lastReport = turn.old.lastReport ∧ turn.new.lastCycleAt = turn.old.lastCycleAt ∧
    turn.new.cyclesCompleted = turn.old.cyclesCompleted

/-- What a round does to the state of an agent, and what it does to the outside. -/
structure Heeds (agent : Agent) (session : Session) (turn : Turn) : Prop where
  frozen : turn.new.session = turn.old.session ∧ turn.new.probeError = turn.old.probeError
  finished : ∀ report done,
    (agent.download session turn.before.now).outcome turn.before = (.ok report, done) →
      turn.new.lastReport = some report ∧ turn.new.lastCycleAt = some turn.after.now ∧
        turn.new.cyclesCompleted = turn.old.cyclesCompleted + 1
  broken : ∀ f done,
    (agent.download session turn.before.now).outcome turn.before = (.error f, done) →
      Unrecorded turn
  /-- Without a directory, or without nodes, there is no download and nothing is asked. -/
  unlisted : ∀ f o', (agent.list turn.before.now).outcome turn.before = (.error f, o') →
    (∃ g done,
        (agent.download session turn.before.now).outcome turn.before = (.error g, done)) ∧
      Unrecorded turn ∧ turn.before.asked turn.after = []
  lastError : turn.new.lastError = "" ↔ agent.Clean session turn
  /-- The round ends in a rest, its only one. -/
  rest : turn.after.trace.getLast? = some (.rested agent.settings.collection.pollInterval) ∧
    rests turn.after.trace =
      rests turn.before.trace ++ [agent.settings.collection.pollInterval]

/-- What a round leaves on record, from its download on. -/
theorem events_rested {time : Instant} {result : Except Fault FailureReport} {o' : Outside}
    (h : agent.Downloaded time o result done) (hidle : Within Scope.idle done o') :
    (∀ f o'', (agent.list time).outcome o = (.error f, o'') →
        (∃ g, result = .error g) ∧ o.asked (agent.rested o') = []) ∧
      (agent.rested o').trace.getLast? = some (.rested agent.settings.collection.pollInterval) ∧
      rests (agent.rested o').trace =
        rests o.trace ++ [agent.settings.collection.pollInterval] := by
  refine ⟨fun f o'' hlist => ⟨(h.unlisted f o'' hlist).1, ?_⟩, by simp [rested], ?_⟩
  · have hrested : o'.asked (agent.rested o') = [] := by
      simp [Outside.asked, rested, requests, Event.request?]
    rw [Outside.asked_append (h.grows.trans hidle.grows) (List.prefix_append _ _), hrested,
      Outside.asked_append h.grows hidle.grows, hidle.asked_nothing, (h.unlisted f o'' hlist).2]
    rfl
  · rw [rested, rests_append, hidle.rests, ← rests_marks done.trace, h.marks, rests_marks]
    rfl

variable {turns : List Turn} {state : CollectionState}

/-- One round more, from a state that collects. -/
theorem heeds_of_round {hook : Option BaselineHook} {before after : Outside}
    {result : Except Fault CollectionState}
    (hs : state.session.filter Session.retrieveSummaries = some session)
    (h : ({ agent with state, hook } : Agent).round.outcome before = (result, after)) :
    ∃ new, result = .ok new ∧ agent.Heeds session ⟨hook, before, after, state, new⟩ := by
  obtain ⟨new, o', hout, hrounded⟩ := round_rounded { agent with state, hook } hs before
  obtain ⟨rfl, rfl⟩ := Prod.mk.inj (hout.symm.trans h)
  refine ⟨new, rfl, ?_⟩
  cases hrounded with
  | @finished report done _ hd hidle =>
    -- neither the state nor the hook shows in a download
    have hd : (agent.download session before.now).outcome before = (.ok report, done) := hd
    have hspec := agent.download_spec session before.now before
    rw [hd] at hspec
    obtain ⟨hunlisted, hrest⟩ := events_rested hspec hidle
    refine ⟨⟨rfl, rfl⟩, ?_, ?_, ?_, ?_, hrest⟩
    · intro report' done' hd'
      cases hd.symm.trans hd'
      exact ⟨rfl, rfl, rfl⟩
    · intro f done' hd'
      cases hd.symm.trans hd'
    · intro f o'' hlist
      obtain ⟨⟨g, hg⟩, -⟩ := hunlisted f o'' hlist
      cases hg
    · unfold Clean finished
      cases hf : hook.bind BaselineHook.fault with
      | none => simp [hd]
      | some f => simp [Cycle.baselineText_ne_empty]
  | @broken f done _ error hd hidle herror =>
    have hd : (agent.download session before.now).outcome before = (.error f, done) := hd
    have hspec := agent.download_spec session before.now before
    rw [hd] at hspec
    obtain ⟨hunlisted, hrest⟩ := events_rested hspec hidle
    refine ⟨⟨rfl, rfl⟩, ?_, fun _ _ _ => ⟨rfl, rfl, rfl⟩, ?_, ?_, hrest⟩
    · intro report' done' hd'
      cases hd.symm.trans hd'
    · intro f' o'' hlist
      exact ⟨⟨f, done, hd⟩, ⟨rfl, rfl, rfl⟩, (hunlisted f' o'' hlist).2⟩
    · simp [Clean, hd, herror]

structure Kept (agent : Agent) (session : Session) (turns : List Turn) (state : CollectionState) :
    Prop where
  frozen : state.session = some session ∧ state.probeError = ""
  lastError : state.lastError = "" ↔ ∀ turn, turns.getLast? = some turn → agent.Clean session turn
  lastReport : state.lastReport = none ↔ state.cyclesCompleted = 0
  lastCycleAt : state.lastCycleAt = none ↔ state.cyclesCompleted = 0

theorem Kept.collects (h : agent.Kept session turns state)
    (hr : session.retrieveSummaries = true) :
    state.session.filter Session.retrieveSummaries = some session := by
  rw [h.frozen.1]
  simp [Option.filter, hr]

theorem Kept.round {turn : Turn} (h : agent.Kept session turns turn.old)
    (ht : agent.Heeds session turn) : agent.Kept session (turns ++ [turn]) turn.new := by
  have hlast : turn.new.lastError = "" ↔
      ∀ last, (turns ++ [turn]).getLast? = some last → agent.Clean session last := by
    simpa using ht.lastError
  have hfrozen : turn.new.session = some session ∧ turn.new.probeError = "" :=
    ⟨ht.frozen.1.trans h.frozen.1, ht.frozen.2.trans h.frozen.2⟩
  rcases hd : (agent.download session turn.before.now).outcome turn.before with ⟨f | report, done⟩
  · obtain ⟨hreport, htime, hcount⟩ := ht.broken f done hd
    refine ⟨hfrozen, hlast, ?_, ?_⟩
    · rw [hreport, hcount]
      exact h.lastReport
    · rw [htime, hcount]
      exact h.lastCycleAt
  · obtain ⟨hreport, htime, hcount⟩ := ht.finished report done hd
    exact ⟨hfrozen, hlast, by simp [hreport, hcount], by simp [htime, hcount]⟩

/-- By induction on the run: every turn is a round from a state that still collects. -/
theorem kept_of_repeats (h : agent.Repeats round turns state)
    (hs : agent.state = { session := some session }) (hr : session.retrieveSummaries = true) :
    (∀ turn ∈ turns, agent.Heeds session turn) ∧ agent.Kept session turns state := by
  induction h with
  | start =>
    refine ⟨fun turn hmem => absurd hmem List.not_mem_nil, ?_⟩
    constructor <;> simp [hs]
  | @turn turns state hook before after result _ hout ih =>
    obtain ⟨hturns, hkept⟩ := ih
    obtain ⟨new, rfl, hheeds⟩ := heeds_of_round (hkept.collects hr) hout
    refine ⟨fun turn hmem => ?_, hkept.round hheeds⟩
    rcases List.mem_append.1 hmem with hm | hm
    · exact hturns turn hm
    · rw [List.mem_singleton.1 hm]
      exact hheeds

/-- A run goes on for as long as the loop does. -/
theorem rounds_repeat (h : agent.Repeats round turns state)
    (hs : agent.state = { session := some session }) (hr : session.retrieveSummaries = true)
    (hook : Option BaselineHook) (count : Nat) (before : Outside) :
    ∃ more final after, (({ agent with state, hook } : Agent).rounds count).outcome before =
        (.ok (more.map Turn.new), after) ∧
      agent.Repeats round (turns ++ more) final ∧ more.length = count := by
  induction count generalizing turns state before with
  | zero => exact ⟨[], state, before, rfl, by simpa using h, rfl⟩
  | succ count ih =>
    have hkept := (kept_of_repeats h hs hr).2
    obtain ⟨new, middle, hout⟩ : ∃ new middle,
        ({ agent with state, hook } : Agent).round.outcome before = (.ok new, middle) := by
      obtain ⟨new, o', hout, -⟩ := round_rounded { agent with state, hook } (hkept.collects hr) before
      exact ⟨new, _, hout⟩
    have hnext := Repeats.turn hook h hout
    obtain ⟨more, final, after, hrounds, hrepeats, hlength⟩ := ih hnext middle
    have hrounds : (({ agent with state := new, hook } : Agent).rounds count).outcome middle =
        (.ok (more.map Turn.new), after) := hrounds
    rw [List.append_assoc] at hrepeats
    refine ⟨_, final, after, ?_, hrepeats, by simp [hlength]⟩
    unfold rounds
    rw [outcome_bind, hout]
    simp only [outcome_bind, hrounds]
    rfl

/-- Along every run of the loop, from an agent that collects and has no record yet: each
round heeds what became of its cycle, the record is what the rounds so far make of it, and
any number of rounds may follow. -/
theorem rounds_kept (h : agent.Repeats round turns state)
    (hs : agent.state = { session := some session }) (hr : session.retrieveSummaries = true) :
    (∀ turn ∈ turns, agent.Heeds session turn) ∧ agent.Kept session turns state ∧
      ∀ (hook : Option BaselineHook) (count : Nat) (before : Outside), ∃ more final after,
        (({ agent with state, hook } : Agent).rounds count).outcome before =
            (.ok (more.map Turn.new), after) ∧
          agent.Repeats round (turns ++ more) final ∧ more.length = count := by
  obtain ⟨hturns, hkept⟩ := kept_of_repeats h hs hr
  exact ⟨hturns, hkept, rounds_repeat h hs hr⟩

end Agent

/-! A run of two rounds, of which the second finds no nodes. -/

namespace Sample

def agent : Agent where
  settings
  state := { session := some session }
  backoff := { steps := 1 }

def losing : Outside :=
  { outside with listings := outside.listings ++ [.nodes []] }

theorem rounds_kept_of_two : ∃ turns state, agent.Repeats Agent.round turns state ∧
    turns.length = 2 ∧ (∀ turn ∈ turns, agent.Heeds session turn) ∧
      agent.Kept session turns state := by
  have hstart : agent.Repeats Agent.round [] agent.state := Agent.Repeats.start
  obtain ⟨turns, state, after, -, hrepeats, hlength⟩ :=
    Agent.rounds_repeat hstart rfl rfl none 2 losing
  obtain ⟨hturns, hkept, -⟩ := Agent.rounds_kept hrepeats rfl rfl
  exact ⟨turns, state, hrepeats, hlength, hturns, hkept⟩

end Sample

end KubeletCollector
