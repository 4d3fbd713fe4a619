import KubeletCollector.Proofs.Accounts
import KubeletCollector.Proofs.Rounds

/-! Cycles that begin within one second share a directory. What such a cycle finds there of a
node belies its account of the node exactly if the node's visit leaves it alone, and it was
put there by a cycle of the same second that visited a node of that name. -/

namespace KubeletCollector

open Text Act

section Stamps

theorem Instant.slash_notMem_digits (width n : Nat) : '/' ∉ Instant.digits width n := by
  induction width generalizing n with
  | zero => exact List.not_mem_nil
  | succ width ih =>
    have hlast : '/' ≠ asciiDigit (n % 10) := by
      have all : ∀ m ∈ List.range 10, '/' ≠ asciiDigit m := by decide
      exact all _ (List.mem_range.2 (Nat.mod_lt _ (by decide)))
    simp [digits, ih, hlast]

theorem Instant.slash_notMem_stamp (t : Instant) : '/' ∉ t.stamp.toList := by
  have hyear : '/' ∉ Nat.toDigits 10 t.year := fun h =>
    absurd (Nat.isDigit_of_mem_toDigits (by decide) (by decide) h) (by decide)
  simp [stamp, padded, String.toList_append, slash_notMem_digits, hyear]

namespace Agent

variable {settings : Settings} {time time' : Instant}

/-- A cycle's directory lies in the output directory and is named for the second it began in. -/
theorem place_sampleDir (settings : Settings) (time : Instant) :
    (sampleDir settings time).place =
      (Path.ofText settings.collection.outputDir).place ++ ["sample-" ++ time.stamp] := by
  have hplain : PlainName ("sample-" ++ time.stamp) := by
    constructor
    · simp [String.toList_append]
    · simpa [String.toList_append] using time.slash_notMem_stamp
  unfold sampleDir Path.place
  rw [Path.child_plain _ hplain, List.foldl_append]
  simp [Location.enter, hplain.ne_up]

theorem stamp_of_place (h : (sampleDir settings time).place = (sampleDir settings time').place) :
    time.stamp = time'.stamp := by
  rw [place_sampleDir, place_sampleDir] at h
  have hname := (List.cons.inj (List.append_cancel_left h)).1
  have hlist := congrArg String.toList hname
  rw [String.toList_append, String.toList_append] at hlist
  exact String.toList_inj.1 (List.append_cancel_left hlist)

end Agent

end Stamps

theorem Judged.no_directory {session : Session} {job : Job} {node : NodeInfo} {o : Outside}
    {place : Location} {files : FileTree} {verdict : Cycle.Verdict}
    (h : Judged session job node o place files verdict) (kind : EndpointKind) :
    files.get? (job.spot place kind) ≠ some .directory := by
  have hfile {client : Client} {endpoints : NodeEndpoints} {kinds : List EndpointKind}
      (h : job.Holds place client endpoints o kinds files) :
      files.get? (job.spot place kind) ≠ some .directory := by
    rw [h.files]
    split
    · cases job.offer client endpoints o kind <;> simp
    · exact nofun
  cases h with
  | direct _ hkept =>
    obtain ⟨client, a, -, -, hholds⟩ := hkept
    exact hfile hholds
  | proxy _ _ _ hkept _ =>
    obtain ⟨client, -, hholds⟩ := hkept
    exact hfile hholds
  | failed _ _ _ _ hbare => simp [hbare kind]

namespace Cycle

/-- Nothing is left over at the place of an artifact: no directory bears its name, and if
anything stood there before, a visit of the node with the replies of `hand` touches it. -/
structure Plan.Clear (plan : Plan) (place : Location) (hand : Outside) (n : NodeInfo)
    (old new : FileTree) (kind : EndpointKind) : Prop where
  file : new.get? ((plan.job n).spot place kind) ≠ some .directory
  touched : Touches plan.session (plan.job n) n hand kind ∨
    old.get? ((plan.job n).spot place kind) = none

variable {plan : Plan} {place : Location} {o o₁ o' hand : Outside} {nodes : List NodeInfo}
  {n : NodeInfo} {report : FailureReport}

/-- The directories that a cycle makes first change nothing about that. -/
theorem Plan.Clear.grown {old grown new : FileTree} {kind : EndpointKind} (hg : old.Grows grown)
    (hs : grown.SameDirectories new) :
    plan.Clear place hand n old new kind ↔ plan.Clear place hand n grown new kind := by
  have hsame (hd : new.get? ((plan.job n).spot place kind) ≠ some .directory) :
      grown.get? ((plan.job n).spot place kind) = old.get? ((plan.job n).spot place kind) :=
    (hg _).resolve_right fun hmade => hd ((hs _).2 hmade.2)
  constructor <;> rintro ⟨hd, ht⟩
  · exact ⟨hd, hsame hd ▸ ht⟩
  · exact ⟨hd, hsame hd ▸ ht⟩

theorem Plan.Clear.same {old tree files : FileTree} {kind : EndpointKind}
    (h : plan.Clear place hand n old tree kind) (hs : ∀ loc, files.get? loc = tree.get? loc) :
    plan.Clear place hand n old files kind :=
  ⟨hs _ ▸ h.file, h.touched⟩

theorem Plan.Accounted.same {tree files : FileTree}
    (h : plan.Accounted place hand n report tree)
    (hs : ∀ loc, files.get? loc = tree.get? loc) : plan.Accounted place hand n report files := by
  obtain ⟨verdict, hjudged, hentries⟩ := h
  exact ⟨verdict, hjudged.same fun _ => hs _, hentries⟩

/-- A cycle asks and writes for the sake of its nodes only. -/
theorem Plan.Serves.stays_within {backoff : Backoff}
    (h : plan.Serves place o (Directory.readyAt backoff o)) :
    Within (plan.scope place (Directory.readyAt backoff o)) o
      ((Cycle.collect plan backoff).outcome o).2 := by
  let scope := plan.scope place (Directory.readyAt backoff o)
  have hcovers (n : NodeInfo) (hn : n ∈ Directory.readyAt backoff o) :
      Covers (scope.logic o) (fun _ => False) plan.session (plan.job n) n :=
    h.covers_own hn
  rcases Cycle.collect_within hcovers with ⟨f, o', -, hcollect, hidle⟩ |
    ⟨-, result, o', -, hcollect, hwithin, -⟩ <;> rw [hcollect]
  · exact hidle.mono (fun _ hr => hr.elim) fun _ hl => hl.elim
  · exact hwithin

/-- A cycle's account of a node is right exactly if nothing is left over at its places. -/
theorem Plan.Runs.accounted_iff_clear {order : List (Nat × Request)} {i : Nat}
    (hr : plan.Runs place nodes o₁ order report o') (h : plan.Serves place o₁ nodes)
    (hlisted : Within Scope.idle o o₁) (hn : nodes[i]? = some n) :
    ∃ hand, plan.Hand i n o₁ order hand ∧ (plan.Accounted place hand n report o'.files ↔
      ∀ kind, plan.Clear place hand n o.files o'.files kind) := by
  by_cases hd : ∀ kind, o'.files.get? ((plan.job n).spot place kind) ≠ some .directory
  · have hd₁ (kind : EndpointKind) :
        o₁.files.get? ((plan.job n).spot place kind) ≠ some .directory :=
      fun he => hd kind ((hr.within.directories _).2 he)
    obtain ⟨hand, verdict, hhand, hleft, hfailure, hfallback⟩ := hr.left h hn hd₁
    have hold (kind : EndpointKind) : hand.files.get? ((plan.job n).spot place kind) =
        o.files.get? ((plan.job n).spot place kind) := by
      rw [hhand.restocked.files, hlisted.files _ id]
    refine ⟨hand, hhand, ?_, ?_⟩
    · rintro ⟨other, hjudged, -⟩ kind
      exact ⟨hd kind, hold kind ▸ hleft.clear_of_judged hjudged kind⟩
    · intro hclear
      refine ⟨verdict, hleft.judged_of_clear fun kind => ?_, hfailure, hfallback⟩
      rw [hold kind]
      exact (hclear kind).touched
  · obtain ⟨hand, -, -, hhand, -⟩ := hr.hand h hn
    refine ⟨hand, hhand, ?_, fun hclear => absurd (fun kind => (hclear kind).file) hd⟩
    rintro ⟨other, hjudged, -⟩
    exact absurd hjudged.no_directory hd

end Cycle

namespace Agent

variable {agent : Agent} {session : Session} {turn : Turn} {turns : List Turn}
  {state : CollectionState} {done : Outside} {result : Except Fault FailureReport}

def plan (agent : Agent) (session : Session) (time : Instant) : Cycle.Plan :=
  .ofSettings agent.settings session (sampleDir agent.settings time)

@[simp] theorem plan_dir (agent : Agent) (session : Session) (time : Instant) :
    (agent.plan session time).dir = sampleDir agent.settings time := by
  simp only [plan, Cycle.Plan.ofSettings]

def spot (agent : Agent) (time : Instant) (n : NodeInfo) (kind : EndpointKind) : Location :=
  (sampleDir agent.settings time).place ++
    [artifactName agent.settings.collection.artifactPrefix (nameText n.name) kind]

/-- The nodes that a turn finds ready, none if it does not get so far. -/
def readyIn (agent : Agent) (turn : Turn) : List NodeInfo :=
  ((agent.list turn.before.now).outcome turn.before).1.toOption.getD []

/-- The outside as it is when a turn has listed its nodes. -/
def listedIn (agent : Agent) (turn : Turn) : Outside :=
  ((agent.list turn.before.now).outcome turn.before).2

/-- What a turn says of a node is right, by the replies of `hand`. -/
def AccountedIn (agent : Agent) (session : Session) (turn : Turn) (hand : Outside) (n : NodeInfo)
    (report : FailureReport) (files : FileTree) : Prop :=
  (agent.plan session turn.before.now).Accounted (sampleDir agent.settings turn.before.now).place
    hand n report files

/-- Nothing is left over at the places of a node, by the replies of `hand`. -/
def ClearIn (agent : Agent) (session : Session) (turn : Turn) (hand : Outside) (n : NodeInfo)
    (files : FileTree) : Prop :=
  ∀ kind, (agent.plan session turn.before.now).Clear
    (sampleDir agent.settings turn.before.now).place hand n turn.before.files files kind

/-- What a turn is promised: nothing fails but the wire and the system, and the nodes that are
ready have names of their own, and addresses that have values. -/
structure Fair (agent : Agent) (turn : Turn) : Prop where
  ordinary : turn.before.Ordinary
  named : ∀ n ∈ agent.readyIn turn, ∃ name, n.name = some name ∧ PlainText name
  distinct : ((agent.readyIn turn).map NodeInfo.name).Nodup
  addressed : ∀ n ∈ agent.readyIn turn, n.Addressed

/-- No artifact is there, of any node and any time. -/
def Free (agent : Agent) (files : FileTree) : Prop :=
  ∀ time n kind content, files.get? (agent.spot time n kind) ≠ some (.file content)

def filesAfter (start : FileTree) (turns : List Turn) : FileTree :=
  (turns.getLast?.map fun turn => turn.after.files).getD start

/-- Nobody else writes: every turn finds the files as the turn before has left them. -/
def Alone (start : FileTree) (turns : List Turn) : Prop :=
  ∀ earlier turn later, turns = earlier ++ turn :: later →
    turn.before.files = filesAfter start earlier

theorem spot_inj {time time' : Instant} {n m : NodeInfo} {kind kind' : EndpointKind}
    (h : agent.spot time n kind = agent.spot time' m kind') :
    time.stamp = time'.stamp ∧ nameText n.name = nameText m.name := by
  obtain ⟨hplace, hname⟩ := List.append_inj' h rfl
  exact ⟨stamp_of_place hplace, (artifactName_inj (List.cons.inj hname).1).1⟩

/-- Every turn of a run is a cycle with the session that the agent has from the first. -/
theorem downloads_of_repeats (h : agent.Repeats runCycle turns state)
    (hs : agent.state.session.filter Session.retrieveSummaries = some session) :
    state.session.filter Session.retrieveSummaries = some session ∧
      ∀ turn ∈ turns, ∃ result done,
        (agent.download session turn.before.now).outcome turn.before = (result, done) ∧
          Within Scope.idle done turn.after := by
  induction h with
  | start => exact ⟨hs, fun turn hmem => absurd hmem List.not_mem_nil⟩
  | @turn turns state hook before after result _ hout ih =>
    obtain ⟨hstate, hturns⟩ := ih
    obtain ⟨hsession, hdownload⟩ := (cycled_of_runCycle hstate hout).download
    refine ⟨by rw [hsession]; exact hstate, fun turn hmem => ?_⟩
    rcases List.mem_append.1 hmem with hm | hm
    · exact hturns turn hm
    · -- neither the state nor the hook shows in a download
      rw [List.mem_singleton.1 hm]
      exact hdownload

section Turns

variable (hw : session.Wired) (hp : PlainText agent.settings.collection.artifactPrefix)
  (hfair : agent.Fair turn)

theorem outcome_list {files : FileTree} (hmake :
    (Act.makeDirectories (sampleDir agent.settings turn.before.now)).outcome turn.before =
      (.ok (), { turn.before with files })) :
    (agent.list turn.before.now).outcome turn.before =
      (Directory.readyNodes agent.backoff).outcome { turn.before with files } := by
  unfold list
  rw [outcome_bind, hmake]

theorem readyIn_eq {files : FileTree} (hmake :
    (Act.makeDirectories (sampleDir agent.settings turn.before.now)).outcome turn.before =
      (.ok (), { turn.before with files })) :
    agent.readyIn turn = Directory.readyAt agent.backoff { turn.before with files } := by
  unfold readyIn Directory.readyAt
  rw [outcome_list hmake]
  cases ((Directory.readyNodes agent.backoff).outcome { turn.before with files }).1 <;> rfl

include hw hp hfair

/-- Once its directory is made, a turn serves its nodes. -/
theorem Fair.serves {files : FileTree}
    (hmade : Act.Made (sampleDir agent.settings turn.before.now) (.ok ()) turn.before.files files) :
    (agent.plan session turn.before.now).Serves (sampleDir agent.settings turn.before.now).place
      { turn.before with files } (agent.readyIn turn) where
  wired := hw
  opens := by
    rw [plan_dir]
    exact hmade.opens rfl
  ordinary := hfair.ordinary
  start := hp
  named := hfair.named
  distinct := hfair.distinct
  addressed := hfair.addressed

/-- A turn brings forth no file but the artifacts of its nodes. -/
theorem file_of_download
    (h : (agent.download session turn.before.now).outcome turn.before = (result, done))
    {loc : Location} {content : Bytes} (hfile : done.files.get? loc = some (.file content)) :
    (∃ old, turn.before.files.get? loc = some (.file old)) ∨
      ∃ n ∈ agent.readyIn turn, ∃ kind, loc = agent.spot turn.before.now n kind := by
  obtain ⟨made, files, hmade, hmake, hdownload⟩ :=
    agent.outcome_download session turn.before.now turn.before
  rw [h] at hdownload
  have hbefore (hsame : done.files.get? loc = files.get? loc) :
      ∃ old, turn.before.files.get? loc = some (.file old) :=
    ⟨content, hmade.grows.file.1 (hsame.symm.trans hfile)⟩
  cases made with
  | error f =>
    cases hdownload
    exact Or.inl (hbefore rfl)
  | ok u =>
    have hserves := hfair.serves hw hp hmade
    rw [readyIn_eq hmake] at hserves ⊢
    have hcollect : (Cycle.collect (agent.plan session turn.before.now) agent.backoff).outcome
        { turn.before with files } = (result, done) := hdownload.symm
    have hwithin := hserves.stays_within
    rw [hcollect] at hwithin
    by_cases hspot : ∃ n ∈ Directory.readyAt agent.backoff { turn.before with files },
        ∃ kind, loc = agent.spot turn.before.now n kind
    · exact Or.inr hspot
    · exact Or.inl (hbefore (hwithin.files loc hspot))

/-- A turn's account of a node is right exactly if nothing is left over at its places. -/
theorem accounted_of_download {report : FailureReport}
    (h : (agent.download session turn.before.now).outcome turn.before = (.ok report, done)) :
    ∃ order, (agent.listedIn turn).asked done = order.map Prod.snd ∧
      (agent.listedIn turn).trace <+: done.trace ∧
      ∀ i n, (agent.readyIn turn)[i]? = some n →
        ∃ hand, (agent.plan session turn.before.now).Hand i n (agent.listedIn turn) order hand ∧
          (agent.AccountedIn session turn hand n report done.files ↔
            agent.ClearIn session turn hand n done.files) := by
  obtain ⟨made, files, hmade, hmake, hdownload⟩ :=
    agent.outcome_download session turn.before.now turn.before
  rw [h] at hdownload
  cases made with
  | error f => cases hdownload
  | ok u =>
    have hcollect : (Cycle.collect (agent.plan session turn.before.now) agent.backoff).outcome
        { turn.before with files } = (.ok report, done) := hdownload.symm
    have hserves := hfair.serves hw hp hmade
    rcases hl : (Directory.readyNodes agent.backoff).outcome { turn.before with files } with
      ⟨f | nodes, o₁⟩
    · cases hcollect.symm.trans (Cycle.outcome_collect_unlisted _ hl)
    · have hidle := (Directory.readyNodes_within Scope.idle hl).1
      have hnodes : agent.readyIn turn = nodes := by
        rw [readyIn_eq hmake, Directory.readyAt_eq hl]
      have hlisted : agent.listedIn turn = o₁ := by
        rw [listedIn, outcome_list hmake, hl]
      have hwithin := (readyIn_eq hmake ▸ hserves).stays_within
      rw [hcollect] at hwithin
      rw [hnodes] at hserves ⊢
      rw [hlisted]
      have hserves₁ := hserves.within hidle
      obtain ⟨order, report', done', hruns⟩ := hserves₁.runs
      cases hcollect.symm.trans ((Cycle.outcome_collect_listed _ hl).trans hruns.work)
      refine ⟨order, hruns.asked, hruns.within.grows, fun i n hn => ?_⟩
      obtain ⟨hand, hhand, hiff⟩ := hruns.accounted_iff_clear hserves₁ hidle hn
      refine ⟨hand, hhand, hiff.trans (forall_congr' fun kind => ?_)⟩
      exact (Cycle.Plan.Clear.grown hmade.grows hwithin.directories).symm

end Turns

theorem filesAfter_snoc (start : FileTree) (turns : List Turn) (turn : Turn) :
    filesAfter start (turns ++ [turn]) = turn.after.files := by
  simp [filesAfter]

theorem Alone.initial {start : FileTree} {more : List Turn} (h : Alone start (turns ++ more)) :
    Alone start turns := by
  rintro earlier turn later rfl
  exact h earlier turn (later ++ more) (by simp)

/-- What a turn says of its nodes, after `earlier` turns. -/
structure Told (agent : Agent) (session : Session) (earlier : List Turn) (turn : Turn) : Prop where
  /-- Where the turn finishes, its account of a node is right exactly if nothing is left over
  at the places of the node's artifacts. -/
  right : ∀ report done,
    (agent.download session turn.before.now).outcome turn.before = (.ok report, done) →
      ∃ order, (agent.listedIn turn).asked turn.after = order.map Prod.snd ∧
        ∀ i n, (agent.readyIn turn)[i]? = some n →
          ∃ hand, (agent.plan session turn.before.now).Hand i n (agent.listedIn turn) order hand ∧
            (agent.AccountedIn session turn hand n report turn.after.files ↔
              agent.ClearIn session turn hand n turn.after.files)
  /-- What could be left over was put there within the same second, by a turn that found a node
  of that name ready. -/
  origin : ∀ n ∈ agent.readyIn turn, ∀ kind content,
    turn.before.files.get? (agent.spot turn.before.now n kind) = some (.file content) →
      ∃ t ∈ earlier, t.before.now.stamp = turn.before.now.stamp ∧
        ∃ m ∈ agent.readyIn t, m.name = n.name

section Runs

variable {start : FileTree}
  (hs : agent.state.session.filter Session.retrieveSummaries = some session)
  (hw : session.Wired) (hp : PlainText agent.settings.collection.artifactPrefix)
  (hfree : agent.Free start)

include hs hw hp hfree

/-- By induction on the run: an artifact was there before a turn, or is one of its nodes'. -/
theorem origin_of_file (h : agent.Repeats runCycle turns state) (halone : Alone start turns)
    (hfair : ∀ turn ∈ turns, agent.Fair turn) {time : Instant} {n : NodeInfo}
    {kind : EndpointKind} {content : Bytes}
    (hfile : (filesAfter start turns).get? (agent.spot time n kind) = some (.file content)) :
    ∃ t ∈ turns, t.before.now.stamp = time.stamp ∧
      ∃ m ∈ agent.readyIn t, nameText m.name = nameText n.name := by
  induction h generalizing content with
  | start => exact absurd hfile (hfree time n kind content)
  | @turn turns state hook before after result hrun hout ih =>
    have hlast := List.mem_append_right turns (List.mem_singleton_self
      (⟨hook, before, after, state, result.toOption.getD state⟩ : Turn))
    obtain ⟨result', done, hd, hidle⟩ :=
      (downloads_of_repeats (Repeats.turn hook hrun hout) hs).2 _ hlast
    rw [filesAfter_snoc, hidle.files _ id] at hfile
    rcases file_of_download hw hp (hfair _ hlast) hd hfile with ⟨old, hold⟩ | ⟨m, hm, _, hspot⟩
    · rw [halone turns _ [] rfl] at hold
      obtain ⟨t, ht, horigin⟩ :=
        ih halone.initial (fun t ht => hfair t (List.mem_append_left _ ht)) hold
      exact ⟨t, List.mem_append_left _ ht, horigin⟩
    · obtain ⟨hstamp, hname⟩ := spot_inj hspot
      exact ⟨_, hlast, hstamp.symm, m, hm, hname.symm⟩

theorem told_of_last (h : agent.Repeats runCycle turns state)
    (hd : (agent.download session turn.before.now).outcome turn.before = (result, done))
    (hidle : Within Scope.idle done turn.after) (halone : Alone start (turns ++ [turn]))
    (hfair : ∀ t ∈ turns ++ [turn], agent.Fair t) : agent.Told session turns turn where
  right report done' hd' := by
    cases hd.symm.trans hd'
    have hsame (loc : Location) : turn.after.files.get? loc = done.files.get? loc :=
      hidle.files loc id
    obtain ⟨order, hasked, hgrows, hiff⟩ := accounted_of_download hw hp (hfair turn (by simp)) hd
    refine ⟨order, ?_, fun i n hn => ?_⟩
    · rw [Outside.asked_append hgrows hidle.grows, hidle.asked_nothing, List.append_nil, hasked]
    · obtain ⟨hand, hhand, hright⟩ := hiff i n hn
      refine ⟨hand, hhand, ?_, ?_⟩
      · intro haccounted kind
        exact (hright.1 (haccounted.same fun loc => (hsame loc).symm) kind).same hsame
      · intro hclear
        exact (hright.2 fun kind => (hclear kind).same fun loc => (hsame loc).symm).same hsame
  origin n hn kind content hfile := by
    rw [halone turns turn [] rfl] at hfile
    obtain ⟨t, ht, hstamp, m, hm, htext⟩ := origin_of_file hs hw hp hfree h halone.initial
      (fun t ht => hfair t (List.mem_append_left _ ht)) hfile
    obtain ⟨name, hname, -⟩ := (hfair turn (by simp)).named n hn
    obtain ⟨name', hname', -⟩ := (hfair t (List.mem_append_left _ ht)).named m hm
    rw [hname, hname'] at htext
    exact ⟨t, ht, hstamp, m, hm, by rw [hname, hname', show name' = name from htext]⟩

/-- Along every run of cycles that nobody else's writing disturbs: what a finished turn says of a
node is right exactly if nothing is left over at the places of the node's artifacts, and what
could be left over was put there within the same second. -/
theorem turns_accounted_iff (h : agent.Repeats runCycle turns state) (halone : Alone start turns)
    (hfair : ∀ turn ∈ turns, agent.Fair turn) :
    ∀ earlier turn later, turns = earlier ++ turn :: later → agent.Told session earlier turn := by
  induction h with
  | start => simp
  | @turn turns state hook before after result hrun hout ih =>
    intro earlier turn later hturns
    rcases List.eq_nil_or_concat later with rfl | ⟨more, last, rfl⟩
    · obtain ⟨rfl, hlast⟩ := List.append_inj' hturns rfl
      obtain rfl := (List.cons.inj hlast).1
      obtain ⟨result', done, hd, hidle⟩ :=
        (downloads_of_repeats (Repeats.turn hook hrun hout) hs).2 _
          (List.mem_append_right turns (List.mem_singleton_self _))
      exact told_of_last hs hw hp hfree hrun hd hidle halone hfair
    · rw [List.concat_eq_append, ← List.cons_append, ← List.append_assoc] at hturns
      have hinitial := (List.append_inj' hturns rfl).1
      exact ih halone.initial (fun t ht => hfair t (List.mem_append_left _ ht)) _ _ _ hinitial

end Runs

end Agent

/-! Two cycles within one second. In the first the kubelet of the one node answers, in the
second it refuses. -/

namespace Sample

def willing : Outside where
  listings := [.nodes [some (described "a" "10.0.0.1")]]
  nodeRoutes := [("GET https://10.0.0.1:10250/stats/summary", [.response 200 [[65]] none])]

def turnFrom (state : CollectionState) (before : Outside) : Turn :=
  let ran := ({ agent with state } : Agent).runCycle.outcome before
  ⟨none, before, ran.2, state, ran.1.toOption.getD state⟩

def earlierTurn : Turn := turnFrom agent.state willing

def refusing : Outside :=
  { willing with
    files := earlierTurn.after.files
    nodeRoutes := [("GET https://10.0.0.1:10250/stats/summary", [.response 500 [] none])] }

def laterTurn : Turn := turnFrom earlierTurn.new refusing

theorem repeats_two : agent.Repeats Agent.runCycle [earlierTurn, laterTurn] laterTurn.new :=
  Agent.Repeats.turn none (Agent.Repeats.turn none Agent.Repeats.start rfl) rfl

theorem readyIn_two {turn : Turn} (h : turn ∈ [earlierTurn, laterTurn]) :
    agent.readyIn turn = [node "a" "10.0.0.1"] := by
  have hfirst : agent.readyIn earlierTurn = [node "a" "10.0.0.1"] := by decide +kernel
  have hsecond : agent.readyIn laterTurn = [node "a" "10.0.0.1"] := by decide +kernel
  simp only [List.mem_cons, List.not_mem_nil, or_false] at h
  rcases h with rfl | rfl <;> assumption

theorem fair_two : ∀ turn ∈ [earlierTurn, laterTurn], agent.Fair turn := by
  intro turn hturn
  have hready := readyIn_two hturn
  constructor
  · simp only [List.mem_cons, List.not_mem_nil, or_false] at hturn
    rcases hturn with rfl | rfl <;> apply Outside.ordinary_of_routes <;>
      simp [earlierTurn, laterTurn, turnFrom, willing, refusing, Reply.Ordinary, Reply.fault?]
  · intro n hn
    obtain rfl := List.mem_singleton.1 (hready ▸ hn)
    exact ⟨"a", rfl, by decide, by decide⟩
  · rw [hready]
    decide
  · intro n hn a ha
    obtain rfl := List.mem_singleton.1 (hready ▸ hn)
    cases ha
    exact ⟨_, rfl⟩

theorem alone_two : Agent.Alone {} [earlierTurn, laterTurn] := by
  intro earlier turn later h
  rcases earlier with _ | ⟨t, _ | ⟨t', earlier⟩⟩
  · obtain rfl := (List.cons.inj h).1
    rfl
  · obtain ⟨rfl, hrest⟩ := List.cons.inj h
    obtain rfl := (List.cons.inj hrest).1
    rfl
  · simp at h

theorem free_nothing : agent.Free {} := by
  intro time n kind content
  unfold FileTree.get?
  split <;> simp

/-- What the report of the later turn has for the node, and what stands at its place. -/
def leftOver : Option (Option Fault × Option Entry) :=
  match (agent.download session laterTurn.before.now).outcome laterTurn.before with
  | (.ok report, _) => some (report.failures.get? (some "a"),
      laterTurn.after.files.get? (agent.spot laterTurn.before.now (node "a" "10.0.0.1") .summary))
  | _ => none

theorem leftOver_eq : leftOver = some
    (some (.proxyPath (.fetch "http://api/api/v1/nodes/a/proxy/stats/summary"
      "invalid response 404" (some 404))), some (.file [65])) := by
  decide +kernel

/-- What is said of the nodes in two turns of the same second. -/
theorem told_of_two : ∃ turns state, agent.Repeats Agent.runCycle turns state ∧
    turns.length = 2 ∧ ∀ earlier turn later, turns = earlier ++ turn :: later →
      agent.Told session earlier turn :=
  ⟨_, _, repeats_two, rfl, Agent.turns_accounted_iff rfl serves.wired serves.start free_nothing
    repeats_two alone_two fair_two⟩

/-- A run in which a node is reported as failed while an artifact of it is there: the turn before
left it, and the turn itself did not touch it. -/
theorem artifact_outlasts_failure : ∃ turns state, agent.Repeats Agent.runCycle turns state ∧
    session.Wired ∧ PlainText agent.settings.collection.artifactPrefix ∧ Agent.Alone {} turns ∧
    agent.Free {} ∧ (∀ turn ∈ turns, agent.Fair turn) ∧ ∃ earlier turn later,
      turns = earlier ++ turn :: later ∧ ∃ report done,
      (agent.download session turn.before.now).outcome turn.before = (.ok report, done) ∧
        ∃ n ∈ agent.readyIn turn, (∃ cause, report.failures.get? n.name = some (.proxyPath cause)) ∧
          ∃ kind content,
            turn.after.files.get? (agent.spot turn.before.now n kind) = some (.file content) := by
  refine ⟨[earlierTurn, laterTurn], _, repeats_two, serves.wired, serves.start, alone_two,
    free_nothing, fair_two, [earlierTurn], laterTurn, [], rfl, ?_⟩
  have hleft := leftOver_eq
  unfold leftOver at hleft
  split at hleft
  · rename_i report done hd
    obtain ⟨hreport, hfile⟩ := Prod.mk.inj (Option.some.inj hleft)
    refine ⟨report, done, hd, node "a" "10.0.0.1", ?_, ⟨_, hreport⟩, .summary, [65], hfile⟩
    rw [readyIn_two (by simp)]
    exact List.mem_cons_self
  · cases hleft

end Sample

end KubeletCollector
