import KubeletCollector.Directory
import KubeletCollector.Proofs.Within

/-! Listing sends no request and writes nothing, however often it is repeated, and
what it returns is ready. -/

namespace KubeletCollector

open Act

variable {scope : Scope} {start : Outside} {E : Fault → Prop}

theorem keeps_fraction : Keeps (Within scope start) (fun _ => True) E Act.fraction := by
  intro o h
  unfold Act.fraction
  simp only [outcome_bind, outcome_get]
  split
  · exact ⟨h, trivial⟩
  · exact ⟨⟨h.news, h.files, h.directories, h.marks, h.platform⟩, trivial⟩

theorem keeps_pausesFrom (backoff : Backoff) (duration : Float) (count : Nat) :
    Keeps (Within scope start) (fun _ => True) E (backoff.pausesFrom duration count) := by
  induction count generalizing duration with
  | zero => exact Keeps.pure trivial
  | succ count ih =>
    unfold Backoff.pausesFrom
    refine Keeps.bind keeps_fraction fun r _ => ?_
    exact Keeps.bind (ih _) fun _ _ => Keeps.pure trivial

theorem keeps_askForNodes :
    Keeps (Within scope start) (fun _ => True) (fun _ => True) Act.askForNodes := by
  refine Keeps.bind (keeps_note rfl rfl) fun _ _ => ?_
  intro o h
  simp only [outcome_bind, outcome_get]
  split
  · exact ⟨h, trivial⟩
  · rename_i listing rest _
    have h' : Within scope start { o with listings := rest } :=
      ⟨h.news, h.files, h.directories, h.marks, h.platform⟩
    cases listing with
    | nodes entries => exact ⟨h', trivial⟩
    | fault f => exact ⟨h', trivial⟩

namespace Directory

theorem keeps_retryWith {α : Type} {act : Act α}
    (h : Keeps (Within scope start) (fun _ => True) (fun _ => True) act) (pauses : List Float) :
    Keeps (Within scope start) (fun _ => True) (fun _ => True) (retryWith act pauses) := by
  induction pauses with
  | nil => exact h
  | cons pause pauses ih =>
    unfold retryWith
    refine Keeps.attempt h (fun _ _ => Keeps.pure trivial) fun f _ => ?_
    by_cases hc : f.isConflict = true
    · simp only [hc, ↓reduceIte]
      exact Keeps.bind (keeps_log _ _ _ _) fun _ _ => Keeps.bind (keeps_note rfl rfl) fun _ _ => ih
    · simp only [hc, Bool.false_eq_true, ↓reduceIte]
      exact Keeps.throw trivial

theorem keeps_nodes (backoff : Backoff) :
    Keeps (Within scope start) (fun _ => True) (fun _ => True) (nodes backoff) := by
  refine Keeps.bind (V := fun _ => True) ?_ fun entries _ => ?_
  · exact Keeps.bind (keeps_pausesFrom backoff _ _) fun pauses _ =>
      keeps_retryWith keeps_askForNodes pauses
  · rcases snapshots entries with f | all
    · exact Keeps.throw trivial
    · exact Keeps.pure trivial

theorem keeps_readyNodes (backoff : Backoff) :
    Keeps (Within scope start) (fun ready => ∀ n ∈ ready, n.isReady = true) (fun _ => True)
      (readyNodes backoff) := by
  refine Keeps.bind (keeps_nodes backoff) fun all _ => ?_
  refine Keeps.bind (Keeps.forM _ fun n _ => keeps_log _ _ _ _) fun _ _ => ?_
  have hready : ∀ n ∈ all.filter NodeInfo.isReady, n.isReady = true :=
    fun n hn => (List.mem_filter.1 hn).2
  by_cases he : (all.filter NodeInfo.isReady).isEmpty = true
  · simp only [he, ↓reduceIte]
    exact Keeps.throw trivial
  · simp only [he, Bool.false_eq_true, ↓reduceIte]
    by_cases hl : (all.filter NodeInfo.isReady).length ≠ all.length
    · simp only [if_pos hl]
      exact Keeps.bind (keeps_log _ _ _ _) fun _ _ => Keeps.pure hready
    · simp only [if_neg hl]
      exact Keeps.pure hready

/-- What listing returns is ready, and no file or script has changed meanwhile. -/
theorem readyNodes_within {backoff : Backoff} {o o' : Outside} {ready : List NodeInfo}
    (scope : Scope) (h : (readyNodes backoff).outcome o = (.ok ready, o')) :
    Within scope o o' ∧ ∀ n ∈ ready, n.isReady = true := by
  have hk := keeps_readyNodes backoff o (Within.refl scope o)
  rwa [h] at hk

/-- The nodes that a listing finds ready, none if it fails. -/
def readyAt (backoff : Backoff) (o : Outside) : List NodeInfo :=
  match ((readyNodes backoff).outcome o).1 with
  | .ok ready => ready
  | .error _ => []

theorem readyAt_eq {backoff : Backoff} {o o' : Outside} {ready : List NodeInfo}
    (h : (readyNodes backoff).outcome o = (.ok ready, o')) : readyAt backoff o = ready := by
  unfold readyAt
  rw [h]

theorem readyAt_within (backoff : Backoff) (o : Outside) (scope : Scope) :
    Within scope o ((readyNodes backoff).outcome o).2 ∧
      ∀ n ∈ readyAt backoff o, n.isReady = true := by
  obtain ⟨hw, hr⟩ := keeps_readyNodes backoff o (Within.refl scope o)
  refine ⟨hw, fun n hn => ?_⟩
  unfold readyAt at hn
  split at hn
  · rename_i ready hok
    rw [hok] at hr
    exact hr n hn
  · cases hn

/-- Nodes that are all ready stay as they were listed. -/
theorem readyNodes_of_nodes {backoff : Backoff} {o o' : Outside} {all : List NodeInfo}
    (hn : (nodes backoff).outcome o = (.ok all, o')) (hr : ∀ n ∈ all, n.isReady = true)
    (hne : all ≠ []) : (readyNodes backoff).outcome o = (.ok all, o') := by
  have hfilter : all.filter NodeInfo.isReady = all := List.filter_eq_self.2 hr
  have hnone : all.filter (!·.isReady) = [] := by
    rw [List.filter_eq_nil_iff]
    intro n hn
    simp [hr n hn]
  have he : all.isEmpty = false := by simpa using hne
  unfold readyNodes
  rw [outcome_bind, hn]
  simp only [hnone, hfilter]
  rw [outcome_bind]
  simp [he]

section Undisturbed

variable {backoff : Backoff} {o : Outside} {entries : List (Option NodeObject)}
  {all : List NodeInfo}

theorem askForNodes_undisturbed (hl : o.listings = [.nodes entries]) :
    askForNodes.outcome o = (.ok entries, { o with trace := o.trace ++ [.listed] }) := by
  unfold askForNodes
  simp only [outcome_bind, outcome_note, outcome_get, hl, nextOf]
  simp only [outcome_modify, outcome_pure]

/-- One listing that is answered at once, with nodes that are all ready. -/
theorem readyNodes_undisturbed (hb : backoff.steps ≤ 1) (hl : o.listings = [.nodes entries])
    (hs : snapshots entries = .ok all) (hr : ∀ n ∈ all, n.isReady = true) (hne : all ≠ []) :
    (readyNodes backoff).outcome o = (.ok all, { o with trace := o.trace ++ [.listed] }) := by
  have hsteps : (backoff.steps - 1).toNat = 0 := by omega
  have hpauses : backoff.pauses = pure [] := by
    unfold Backoff.pauses
    rw [hsteps]
    rfl
  refine readyNodes_of_nodes ?_ hr hne
  unfold nodes retryOnConflict
  rw [hpauses, pure_bind, outcome_bind]
  rw [show (retryWith askForNodes []) = askForNodes from rfl, askForNodes_undisturbed hl]
  simp only [hs]
  rfl

theorem outcome_pausesFrom (backoff : Backoff) (duration : Float) (count : Nat) (o : Outside) :
    ∃ pauses fractions, pauses.length = count ∧
      (backoff.pausesFrom duration count).outcome o = (.ok pauses, { o with fractions }) := by
  induction count generalizing duration o with
  | zero => exact ⟨[], o.fractions, rfl, rfl⟩
  | succ count ih =>
    have hfraction : ∃ r fractions, Act.fraction.outcome o = (.ok r, { o with fractions }) := by
      unfold Act.fraction
      simp only [outcome_bind, outcome_get]
      cases hf : o.fractions with
      | nil => exact ⟨0.0, [], by simp [← hf]⟩
      | cons r rest => exact ⟨r, rest ++ [r], rfl⟩
    obtain ⟨r, fractions, hr⟩ := hfraction
    obtain ⟨pauses, fractions', hlength, hp⟩ :=
      ih (duration * backoff.factor) { o with fractions }
    refine ⟨(duration + (0.0 + duration * backoff.jitter * r)) :: pauses, fractions',
      congrArg (· + 1) hlength, ?_⟩
    unfold Backoff.pausesFrom
    rw [outcome_bind, hr]
    simp only [outcome_bind, hp]
    rfl

/-- However many tries there are, the first one is enough. -/
theorem readyAt_undisturbed (hl : o.listings = [.nodes entries]) (hs : snapshots entries = .ok all)
    (hr : ∀ n ∈ all, n.isReady = true) (hne : all ≠ []) : readyAt backoff o = all := by
  obtain ⟨pauses, fractions, -, hp⟩ := outcome_pausesFrom backoff backoff.duration
    (backoff.steps - 1).toNat o
  let o' : Outside := { o with fractions, trace := o.trace ++ [.listed] }
  have hask : askForNodes.outcome { o with fractions } = (.ok entries, o') :=
    askForNodes_undisturbed hl
  have hretry : (retryWith askForNodes pauses).outcome { o with fractions } = (.ok entries, o') := by
    cases pauses with
    | nil => exact hask
    | cons pause pauses =>
      unfold retryWith
      rw [outcome_bind, outcome_attempt, hask]
      rfl
  have hnodes : (nodes backoff).outcome o = (.ok all, o') := by
    unfold nodes retryOnConflict Backoff.pauses
    simp only [outcome_bind, hp, hretry, hs]
    rfl
  exact readyAt_eq (readyNodes_of_nodes hnodes hr hne)

end Undisturbed

end Directory

/-! A node as the cluster describes it, and its snapshot. -/

namespace Sample

def described (name ip : String) : NodeObject where
  metadata := some ⟨some name, []⟩
  providerId := some "id"
  status := some {
    conditions := [some ⟨some "Ready", some "True", some "", some ""⟩]
    addresses := [some ⟨some "InternalIP", some ip⟩]
    kubeletPort := some 10250 }

def node (name ip : String) : NodeInfo where
  name := some name
  conditions := [⟨some "Ready", some "True", some "", some ""⟩]
  addresses := [⟨some "InternalIP", some ip⟩]
  providerId := "id"

theorem snapshot_described (name ip : String) :
    (described name ip).snapshot = .ok (node name ip) := by
  simp [NodeObject.snapshot, described, node, withoutGaps, sortLabels]
  rfl

theorem snapshots_described (named : List (String × String)) :
    snapshots (named.map fun n => some (described n.1 n.2)) =
      .ok (named.map fun n => node n.1 n.2) := by
  induction named with
  | nil => rfl
  | cons n named ih =>
    unfold snapshots at ih ⊢
    simp only [List.map_cons, List.mapM_cons, snapshot_described, ih]
    rfl

/-- The listing of nodes that are described by their names and addresses. -/
theorem listed_described {o : Outside} (named : List (String × String))
    (hl : o.listings = [.nodes (named.map fun n => some (described n.1 n.2))]) (hne : named ≠ []) :
    (Directory.readyNodes { steps := 1 }).outcome o =
      (.ok (named.map fun n => node n.1 n.2), { o with trace := o.trace ++ [.listed] }) := by
  have hready : ∀ n ∈ named.map fun n => node n.1 n.2, n.isReady = true := by
    intro n hn
    obtain ⟨⟨name, ip⟩, -, rfl⟩ := List.mem_map.1 hn
    rfl
  have hsome : named.map (fun n => node n.1 n.2) ≠ [] := by simpa using hne
  exact Directory.readyNodes_undisturbed (by decide) hl (snapshots_described named) hready hsome

end Sample

end KubeletCollector
