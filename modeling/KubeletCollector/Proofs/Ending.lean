import KubeletCollector.Proofs.Fleet
import KubeletCollector.Proofs.Moves

/-! How a cycle ends. It finds no nodes and asks for nothing else, or it brings the task of every node
that is ready to its end and reports what came of each. One thing breaks it off: a node that is asked
directly at an address without a value, for that fault is none that goes into the report. -/

namespace KubeletCollector

open Text Act

/-- A node that is asked directly at an address without a value. -/
def NodeInfo.Lost (n : NodeInfo) (session : Session) : Prop :=
  n.AskedDirectly session ∧ session.nodeClient.isSome ∧ session.directMask.kinds ≠ [] ∧
    ∃ a, n.internalAddress? = some a ∧ a.address = none

namespace Cycle

inductive Plan.Ends (plan : Plan) (backoff : Backoff) (o : Outside) : Prop
  | unlisted {f : Fault} {o' : Outside} :
      (Directory.readyNodes backoff).outcome o = (.error f, o') → o.asked o' = [] →
      (Cycle.collect plan backoff).outcome o = (.error (.listing f), o') → Ends plan backoff o
  /-- The tasks of the ready nodes took turns in some way until every one had ended, and what they
  entered is the report. -/
  | collected {ready : List NodeInfo} {o₁ done : Outside} {order : List (Nat × Request)} {last : Pool}
      {report : FailureReport} {schedule : List Choice} {log : List LogRecord} :
      (Directory.readyNodes backoff).outcome o = (.ok ready, o₁) →
      (plan.pool ready).Moves o₁ order last done → last.Done report →
      (Cycle.collect plan backoff).outcome o = (.ok report, { done with schedule, log }) →
      Ends plan backoff o

/-- No null character gets into a path, and nothing fails but the wire and the system. -/
structure Plan.Clean (plan : Plan) (o : Outside) (nodes : List NodeInfo) : Prop where
  ordinary : o.Ordinary
  dir : plan.dir.hasNull = false
  start : Char.ofNat 0 ∉ plan.artifactPrefix.toList
  names : ∀ n ∈ nodes, Char.ofNat 0 ∉ (nameText n.name).toList

variable {plan : Plan} {backoff : Backoff} {o o₁ o' : Outside} {nodes : List NodeInfo}
  {n : NodeInfo} {report report' : FailureReport}

/-- A cycle that returns a report has brought the task of every ready node to its end. -/
theorem ends_of_ok (h : (collect plan backoff).outcome o = (.ok report, o')) :
    plan.Ends backoff o := by
  rcases hl : (Directory.readyNodes backoff).outcome o with ⟨f | ready, o₁⟩
  · rw [outcome_collect_unlisted plan hl] at h
    cases h
  · obtain ⟨order, last, done, schedule, log, hmoves, hlast, rfl⟩ :=
      moves_of_work ((outcome_collect_listed plan hl).symm.trans h)
    exact Plan.Ends.collected hl hmoves hlast h

/-- How a cycle ends, if every node's collection keeps to a scope. -/
theorem collect_within {scope : Scope} {bad : Fault → Prop}
    (h : ∀ n ∈ Directory.readyAt backoff o,
      Covers (scope.logic o) bad plan.session (plan.job n) n) :
    (∃ f o', (Directory.readyNodes backoff).outcome o = (.error f, o') ∧
        (collect plan backoff).outcome o = (.error (.listing f), o') ∧ Within Scope.idle o o') ∨
      ∃ o₁ result o',
        (Directory.readyNodes backoff).outcome o = (.ok (Directory.readyAt backoff o), o₁) ∧
        (collect plan backoff).outcome o = (result, o') ∧ Within scope o o' ∧
        ∀ f, result = .error f → bad f := by
  rcases hl : (Directory.readyNodes backoff).outcome o with ⟨f | ready, o₁⟩
  · have hidle := (Directory.readyAt_within backoff o Scope.idle).1
    rw [hl] at hidle
    exact Or.inl ⟨f, o₁, rfl, outcome_collect_unlisted plan hl, hidle⟩
  · rw [Directory.readyAt_eq hl] at h
    have hlisted := (Directory.readyNodes_within scope hl).1
    have hwork : (scope.logic o).Holds (fun _ => True) bad (plan.work ready) :=
      holds_work (scope.sound o) (scope.scheduled o) ready h
    obtain ⟨hwithin, hresult⟩ := hwork.keeps o₁ hlisted
    rcases hout : (plan.work ready).outcome o₁ with ⟨result, o'⟩
    rw [hout] at hwithin hresult
    refine Or.inr ⟨o₁, result, o', by rw [Directory.readyAt_eq hl], ?_, hwithin, ?_⟩
    · exact (outcome_collect_listed plan hl).trans hout
    rintro f rfl
    exact hresult

namespace Plan.Clean

theorem target (h : plan.Clean o nodes) (hn : n ∈ nodes) (kind : EndpointKind) :
    ((plan.job n).target kind).hasNull = false :=
  Path.hasNull_child plan.dir h.dir (null_notMem_artifactName kind h.start (h.names n hn))

theorem admits (h : plan.Clean o nodes) (hn : n ∈ nodes) {bad : Fault → Prop} (client : Client)
    (url : String) (kind : EndpointKind) :
    Admits (Scope.all.logic o) bad client ((plan.job n).download url kind) where
  asks := trivial
  reaches _ _ := trivial
  null hnull := by cases (h.target hn kind).symm.trans hnull
  replies := by
    rintro _ ⟨i, rfl⟩ f hf
    exact (h.ordinary _ _ i f hf).imp_right Spoken.system

/-- Nothing breaks off a node's collection but an address without a value. -/
theorem covers (h : plan.Clean o nodes) (hn : n ∈ nodes) {bad : Fault → Prop}
    (hbad : n.Lost plan.session → bad .addressWithoutValue) :
    Covers (Scope.all.logic o) bad plan.session (plan.job n) n where
  direct hd client a hc ha :=
    { download := fun kind _ url _ => h.admits hn client url kind
      address := by
        intro kind hkind hnone
        have hmask : plan.session.directMask.kinds ≠ [] := List.ne_nil_of_mem hkind
        have haddress : a.address = none := by simpa [NodeEndpoints.url?] using hnone
        exact hbad ⟨hd, by simp [hc], hmask, a, ha, haddress⟩ }
  proxy client hc :=
    { download := fun kind _ url _ => h.admits hn client url kind
      address := nofun }

end Plan.Clean

end Cycle

namespace NodeInfo.Lost

open KubeletCollector.Cycle

variable {n : NodeInfo} {session : Session}

theorem directPass (h : n.Lost session) (job : Job) :
    ∃ move, job.directPass session n = Act.step move fun _ => Act.fail .addressWithoutValue := by
  obtain ⟨-, hclient, hmask, a, ha, hnone⟩ := h
  obtain ⟨client, hc⟩ := Option.isSome_iff_exists.1 hclient
  obtain ⟨kind, kinds, hkinds⟩ := List.exists_cons_of_ne_nil hmask
  unfold Job.directPass Directory.address
  simp only [ha, hc, hnone, Job.pass, hkinds]
  exact ⟨_, rfl⟩

/-- The task of such a node ends in that fault before it waits for anything. -/
theorem walk {plan : Plan} (h : n.Lost plan.session) (stop : Bool) (report : FailureReport)
    (o : Outside) :
    ((plan.task n).walk stop report o).fault = some .addressWithoutValue := by
  obtain ⟨move, hpass⟩ := h.directPass (plan.job n)
  have hreported : reported ((plan.job n).directPass plan.session n) =
      Act.step move fun _ => Act.fail .addressWithoutValue := by
    rw [hpass]
    rfl
  unfold Plan.task nodeTask
  rw [goesDirect_eq h.1, hreported]
  rfl

end NodeInfo.Lost

namespace Cycle

variable {plan : Plan} {backoff : Backoff} {o : Outside}

/-- A cycle that ends of its own has met no such node. -/
theorem Plan.Ends.none_lost (h : plan.Ends backoff o) :
    ∀ n ∈ Directory.readyAt backoff o, ¬ n.Lost plan.session := by
  intro n hn hlost
  cases h with
  | unlisted hl _ _ =>
    rw [Directory.readyAt, hl] at hn
    cases hn
  | @collected ready o₁ done order last report schedule log hl hmoves hlast hcollect =>
    rw [Directory.readyAt_eq hl] at hn
    obtain ⟨i, hi⟩ := List.mem_iff_getElem?.1 hn
    have ht : (plan.pool ready).tasks[i]? = some (plan.task n) := by
      rw [Plan.pool, List.getElem?_map, hi, Option.map_some]
    refine hmoves.raised hlast.ended ht (fun stop report o => ?_) hlast.first
    rw [hlost.walk]
    exact nofun

/-- A cycle ends of its own unless it meets such a node, and then the fault of its address
is the outcome. -/
theorem ends_or_lost (h : plan.Clean o (Directory.readyAt backoff o)) :
    plan.Ends backoff o ∨
      ((∃ n ∈ Directory.readyAt backoff o, n.Lost plan.session) ∧
        ((collect plan backoff).outcome o).1 = .error .addressWithoutValue) := by
  have hcovers (n : NodeInfo) (hn : n ∈ Directory.readyAt backoff o) :
      Covers (Scope.all.logic o) (fun f => f = .addressWithoutValue ∧
        ∃ n ∈ Directory.readyAt backoff o, n.Lost plan.session) plan.session (plan.job n) n :=
    h.covers hn fun hlost => ⟨rfl, n, hn, hlost⟩
  rcases collect_within hcovers with ⟨f, o', hl, hout, hidle⟩ | ⟨-, result, o', -, hout, -, hbad⟩
  · exact Or.inl (Plan.Ends.unlisted hl hidle.asked_nothing hout)
  · cases result with
    | ok report => exact Or.inl (ends_of_ok hout)
    | error f =>
      obtain ⟨rfl, hlost⟩ := hbad f rfl
      exact Or.inr ⟨hlost, by rw [hout]⟩

/-- A cycle lists no nodes and asks for nothing else, or brings the collection of every ready node to its
end, however many are collected at once and whichever way they take turns, exactly if no node is asked
directly at an address without a value. If one is, the fault of its address is what leaves the cycle. -/
theorem ends_iff_none_lost (plan : Plan) (backoff : Backoff) (o : Outside)
    (h : plan.Clean o (Directory.readyAt backoff o)) :
    (plan.Ends backoff o ↔ ∀ n ∈ Directory.readyAt backoff o, ¬ n.Lost plan.session) ∧
      ((∃ n ∈ Directory.readyAt backoff o, n.Lost plan.session) →
        ((collect plan backoff).outcome o).1 = .error .addressWithoutValue) := by
  rcases ends_or_lost h with hends | ⟨⟨n, hn, hlost⟩, hout⟩
  · refine ⟨⟨fun h => h.none_lost, fun _ => hends⟩, fun ⟨n, hn, hlost⟩ => ?_⟩
    exact absurd hlost (hends.none_lost n hn)
  · refine ⟨⟨fun h => h.none_lost, fun hnone => absurd hlost (hnone n hn)⟩, fun _ => hout⟩

end Cycle

/-! Two nodes, of which the first has an address without a value. -/

namespace Sample

open KubeletCollector.Cycle

def unaddressed : NodeObject :=
  { described "a" "" with status := some {
      conditions := [some ⟨some "Ready", some "True", some "", some ""⟩]
      addresses := [some ⟨some "InternalIP", none⟩]
      kubeletPort := some 10250 } }

def adrift : Outside :=
  { outside with listings := [.nodes [some unaddressed, some (described "b" "10.0.0.2")]] }

def castaway : NodeInfo :=
  { node "a" "" with addresses := [⟨some "InternalIP", none⟩] }

theorem snapshot_unaddressed : unaddressed.snapshot = .ok castaway := by
  simp [NodeObject.snapshot, unaddressed, described, castaway, node, withoutGaps, sortLabels]
  rfl

theorem adrift_listed : (Directory.readyNodes { steps := 1 }).outcome adrift =
    (.ok [castaway, node "b" "10.0.0.2"], { adrift with trace := adrift.trace ++ [.listed] }) := by
  have hsnapshots : snapshots [some unaddressed, some (described "b" "10.0.0.2")] =
      .ok [castaway, node "b" "10.0.0.2"] := by
    simp only [snapshots, List.mapM_cons, List.mapM_nil, snapshot_unaddressed, snapshot_described]
    rfl
  exact Directory.readyNodes_undisturbed (by decide) rfl hsnapshots (by decide) (by decide)

theorem adrift_ready :
    Directory.readyAt { steps := 1 } adrift = [castaway, node "b" "10.0.0.2"] :=
  Directory.readyAt_eq adrift_listed

theorem adrift_clean : plan.Clean adrift (Directory.readyAt { steps := 1 } adrift) where
  ordinary := serves.ordinary
  dir := rfl
  start := by decide
  names := by
    rw [adrift_ready]
    decide

theorem castaway_lost : castaway.Lost session :=
  ⟨⟨rfl, rfl⟩, rfl, by decide, _, rfl, rfl⟩

/-- The node without an address takes the cycle down. -/
theorem adrift_aborts : plan.Clean adrift (Directory.readyAt { steps := 1 } adrift) ∧
    ¬ plan.Ends { steps := 1 } adrift := by
  refine ⟨adrift_clean, fun hends => ?_⟩
  have hmem : castaway ∈ Directory.readyAt { steps := 1 } adrift := by
    rw [adrift_ready]
    exact List.mem_cons_self
  exact hends.none_lost castaway hmem castaway_lost

/-- Both ends of a cycle: over two nodes that have addresses, and over those two. -/
theorem ends_of_two : plan.Ends { steps := 1 } outside ∧
    ((collect plan { steps := 1 }).outcome adrift).1 = .error .addressWithoutValue := by
  have hready : Directory.readyAt { steps := 1 } outside = nodes := Directory.readyAt_eq listed
  have hclean : plan.Clean outside (Directory.readyAt { steps := 1 } outside) :=
    { adrift_clean with names := by rw [hready]; decide }
  constructor
  · refine (ends_iff_none_lost plan { steps := 1 } outside hclean).1.2 fun n hn hlost => ?_
    obtain ⟨-, -, -, a, ha, hnone⟩ := hlost
    obtain ⟨ip, hip⟩ := serves.addressed n (hready ▸ hn) a ha
    cases hip.symm.trans hnone
  · refine (ends_iff_none_lost plan { steps := 1 } adrift adrift_clean).2 ⟨castaway, ?_, castaway_lost⟩
    rw [adrift_ready]
    exact List.mem_cons_self

end Sample

end KubeletCollector
