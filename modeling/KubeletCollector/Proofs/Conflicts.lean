import KubeletCollector.Proofs.Padding
import Mathlib.Data.List.ReduceOption

/-! The law of listing. The cluster is asked again after each conflict, with a pause in between,
while there are pauses left. The last answer decides what listing ends in: its own fault, or the
nodes in it that are ready. -/

namespace KubeletCollector

open Act

def Listing.isConflict : Listing → Bool
  | .nodes _ => false
  | .fault f => f.isConflict

namespace Outside

/-- Listing number `i` that is still to come. The last one in store comes again and again, and
where nothing is in store no node is listed. -/
def listing (o : Outside) (i : Nat) : Listing :=
  o.listings.getD (min i (o.listings.length - 1)) (.nodes [])

def conflicts (o : Outside) (limit : Nat) : Nat :=
  ((List.range limit).takeWhile fun i => (o.listing i).isConflict).length

def onceListed (o : Outside) : Outside :=
  { o with
    listings := ((nextOf o.listings).map Prod.snd).getD []
    trace := o.trace ++ [.listed] }

theorem outcome_onceListed (o : Outside) :
    askForNodes.outcome o = ((o.listing 0).answer, o.onceListed) := by
  rw [outcome_askForNodes]
  unfold listing onceListed
  rcases o.listings with _ | ⟨a, _ | ⟨b, rest⟩⟩ <;> rfl

theorem listing_onceListed (o : Outside) (i : Nat) :
    o.onceListed.listing i = o.listing (i + 1) := by
  unfold listing onceListed
  rcases o.listings with _ | ⟨a, _ | ⟨b, rest⟩⟩ <;> simp [nextOf]

theorem conflicts_le (o : Outside) (limit : Nat) : o.conflicts limit ≤ limit := by
  have hle := (List.takeWhile_prefix (l := List.range limit)
    fun i => (o.listing i).isConflict).length_le
  rwa [List.length_range] at hle

theorem conflicts_succ (o : Outside) (limit : Nat) :
    o.conflicts (limit + 1) =
      if (o.listing 0).isConflict then o.onceListed.conflicts limit + 1 else 0 := by
  unfold conflicts
  rw [List.range_succ_eq_map, List.takeWhile_cons]
  split
  · simp only [List.takeWhile_map, List.length_cons, List.length_map, listing_onceListed]
    rfl
  · rfl

/-- A lower limit counts the same conflicts, as far as it reaches. -/
theorem conflicts_min (o : Outside) (limit : Nat) :
    o.conflicts limit = min (o.conflicts (limit + 1)) limit := by
  induction limit generalizing o with
  | zero => simp [conflicts]
  | succ limit ih =>
    rw [conflicts_succ o limit, conflicts_succ o (limit + 1)]
    split
    · rw [ih o.onceListed]
      omega
    · simp

end Outside

def tries (pauses : List Float) : List Event :=
  .listed :: pauses.flatMap fun pause => [.paused pause, .listed]

def Event.isListed : Event → Bool
  | .listed => true
  | _ => false

theorem countP_tries (pauses : List Float) :
    (tries pauses).countP Event.isListed = pauses.length + 1 := by
  unfold tries
  rw [List.countP_cons, List.countP_flatMap]
  simp [Event.isListed, Function.comp_def]

namespace Directory

/-- An answer that is no conflict ends the tries. -/
theorem outcome_retryWith_settled {o : Outside} (pauses : List Float)
    (h : (o.listing 0).isConflict = false) :
    (retryWith askForNodes pauses).outcome o = ((o.listing 0).answer, o.onceListed) := by
  cases pauses with
  | nil => exact o.outcome_onceListed
  | cons pause pauses =>
    unfold retryWith
    rw [outcome_bind, outcome_attempt, o.outcome_onceListed]
    cases hl : o.listing 0 with
    | nodes entries => rfl
    | fault f =>
      have hf : f.isConflict = false := by rwa [hl] at h
      simp only [Listing.answer, hf, Bool.false_eq_true, ↓reduceIte]
      rfl

/-- After a conflict there is a pause, and the other tries. -/
theorem outcome_retryWith_conflict {o : Outside} (pause : Float) (pauses : List Float)
    (h : (o.listing 0).isConflict = true) :
    ∃ log, (retryWith askForNodes (pause :: pauses)).outcome o =
      (retryWith askForNodes pauses).outcome
        { o.onceListed with trace := o.trace ++ [.listed, .paused pause], log } := by
  cases hl : o.listing 0 with
  | nodes entries =>
    rw [hl] at h
    cases h
  | fault f =>
    have hf : f.isConflict = true := by rwa [hl] at h
    conv in retryWith askForNodes (pause :: pauses) => unfold retryWith
    rw [outcome_bind, outcome_attempt, o.outcome_onceListed, hl]
    simp only [Listing.answer, hf, ↓reduceIte, outcome_bind, outcome_log, outcome_note]
    exact ⟨_, by simp only [Outside.onceListed, List.append_assoc]; rfl⟩

/-- The tries end with the first answer that is no conflict, or with the pauses. -/
theorem outcome_retryWith (pauses : List Float) (o : Outside) :
    ∃ o', (retryWith askForNodes pauses).outcome o =
        ((o.listing (o.conflicts pauses.length)).answer, o') ∧
      o'.trace = o.trace ++ tries (pauses.take (o.conflicts pauses.length)) := by
  induction pauses generalizing o with
  | nil => exact ⟨o.onceListed, o.outcome_onceListed, rfl⟩
  | cons pause pauses ih =>
    rw [List.length_cons, o.conflicts_succ]
    by_cases hc : (o.listing 0).isConflict = true
    · obtain ⟨log, hnext⟩ := outcome_retryWith_conflict pause pauses hc
      obtain ⟨o', hout, htrace⟩ :=
        ih { o.onceListed with trace := o.trace ++ [.listed, .paused pause], log }
      have hlisting (i : Nat) : Outside.listing
          { o.onceListed with trace := o.trace ++ [.listed, .paused pause], log } i =
            o.listing (i + 1) := o.listing_onceListed i
      rw [hlisting] at hout
      rw [if_pos hc]
      refine ⟨o', hnext.trans hout, htrace.trans ?_⟩
      simp only [List.append_assoc]
      rfl
    · rw [if_neg hc]
      exact ⟨o.onceListed, outcome_retryWith_settled _ (by simpa using hc), rfl⟩

end Directory

/-- The first condition of type `Ready` that the node reports has the status `True`. -/
def NodeObject.reportsReady (node : NodeObject) : Bool :=
  let conditions := ((node.status.map NodeStatus.conditions).getD []).reduceOption
  (conditions.find? (·.type = some "Ready")).any (·.status = some "True")

theorem mapM_eq_ok {ε α β : Type} {f : α → Except ε β} {as : List α} {bs : List β} :
    as.mapM f = .ok bs ↔ List.Forall₂ (fun a b => f a = .ok b) as bs := by
  induction as generalizing bs with
  | nil =>
    rw [List.mapM_nil, List.forall₂_nil_left_iff]
    exact ⟨fun h => (Except.ok.inj h).symm, fun h => congrArg Except.ok h.symm⟩
  | cons a as ih =>
    rw [List.mapM_cons, bind_eq_ok, List.forall₂_cons_left_iff]
    constructor
    · rintro ⟨b, hb, h⟩
      obtain ⟨rest, hrest, h⟩ := bind_eq_ok.1 h
      exact ⟨b, rest, hb, ih.1 hrest, (Except.ok.inj h).symm⟩
    · rintro ⟨b, rest, hb, hrest, rfl⟩
      exact ⟨b, hb, bind_eq_ok.2 ⟨rest, ih.2 hrest, rfl⟩⟩

theorem withoutGaps_ok {α : Type} {field : String} {entries : List (Option α)} {as : List α}
    (h : withoutGaps field entries = .ok as) : entries = as.map some := by
  rw [← List.forall₂_eq_eq_eq, List.forall₂_map_right_iff]
  refine (mapM_eq_ok.1 h).imp fun entry a ha => ?_
  cases entry with
  | none => cases ha
  | some b => exact congrArg some (Except.ok.inj ha)

/-- A snapshot is ready exactly if its node reports it. -/
theorem isReady_snapshot {node : NodeObject} {info : NodeInfo} (h : node.snapshot = .ok info) :
    info.isReady = node.reportsReady := by
  obtain ⟨conditions, hc, h⟩ := bind_eq_ok.1 h
  obtain ⟨addresses, -, h⟩ := bind_eq_ok.1 h
  cases h
  have hfind : (conditions.map Condition.filled).find? (·.type = some "Ready") =
      (conditions.find? (·.type = some "Ready")).map Condition.filled := by
    rw [List.find?_map]
    rfl
  unfold NodeObject.reportsReady NodeInfo.isReady NodeInfo.condition?
  simp only [withoutGaps_ok hc, List.reduceOption, List.filterMap_map, hfind, Function.comp_apply,
    id_eq, List.filterMap_some]
  cases conditions.find? (·.type = some "Ready") <;> rfl

/-- The snapshots of the nodes that report to be ready are the snapshots that are ready. -/
theorem snapshots_filter {entries : List (Option NodeObject)} {all : List NodeInfo}
    (h : snapshots entries = .ok all) :
    snapshots (entries.filter (·.any NodeObject.reportsReady)) =
      .ok (all.filter NodeInfo.isReady) := by
  refine mapM_eq_ok.2 (List.rel_filter ?_ (mapM_eq_ok.1 h))
  intro entry info hinfo
  cases entry with
  | none => cases hinfo
  | some node =>
    show node.reportsReady = true ↔ info.isReady = true
    rw [isReady_snapshot hinfo]

/-- What listing ends in, after the answer that decides: the fault that came, a gap among the
nodes, or the nodes that report to be ready, of which there has to be one. -/
inductive Listing.Yields : Listing → Except Fault (List NodeInfo) → Prop
  | fault (f : Fault) : Yields (.fault f) (.error f)
  | gap {entries : List (Option NodeObject)} {f : Fault} :
      snapshots entries = .error f → Yields (.nodes entries) (.error f)
  | noneReady {entries : List (Option NodeObject)} {all : List NodeInfo} :
      snapshots entries = .ok all → entries.filter (·.any NodeObject.reportsReady) = [] →
        Yields (.nodes entries) (.error .noReadyNodes)
  | someReady {entries : List (Option NodeObject)} {all infos : List NodeInfo} :
      snapshots entries = .ok all → entries.filter (·.any NodeObject.reportsReady) ≠ [] →
        snapshots (entries.filter (·.any NodeObject.reportsReady)) = .ok infos →
          Yields (.nodes entries) (.ok infos)

theorem Listing.yields (listing : Listing) : listing.Yields
    (Directory.someReady ((listing.answer.bind snapshots).map (·.filter NodeInfo.isReady))) := by
  cases listing with
  | fault f => exact Yields.fault f
  | nodes entries =>
    show Yields _ (Directory.someReady ((snapshots entries).map (·.filter NodeInfo.isReady)))
    cases hs : snapshots entries with
    | error f => exact Yields.gap hs
    | ok all =>
      have hready := snapshots_filter hs
      show Yields _ (Directory.someReady (.ok (all.filter NodeInfo.isReady)))
      cases hf : all.filter NodeInfo.isReady with
      | nil =>
        rw [hf] at hready
        exact Yields.noneReady hs (List.forall₂_nil_right_iff.1 (mapM_eq_ok.1 hready))
      | cons info infos =>
        rw [hf] at hready
        refine Yields.someReady hs (fun hnone => ?_) hready
        rw [hnone] at hready
        cases hready

namespace Directory

/-- The law of listing. The pauses are drawn before anything else, one fewer than there may be
tries. The tries go on over conflicts, with the first of these pauses in between, and the last
answer decides what listing ends in. -/
theorem readyNodes_listed (backoff : Backoff) (o : Outside) :
    let most := (max backoff.steps 1).toNat
    let calls := min (o.conflicts most + 1) most
    ∃ pauses fractions result o' events,
      backoff.pauses.outcome o = (.ok pauses, { o with fractions }) ∧
      pauses.length = (max (backoff.steps - 1) 0).toNat ∧
      (readyNodes backoff).outcome o = (result, o') ∧
      o'.trace = o.trace ++ events ∧
      events = tries (pauses.take (calls - 1)) ∧
      events.countP Event.isListed = calls ∧
      (o.listing (calls - 1)).Yields result := by
  intro most calls
  obtain ⟨pauses, fractions, hlength, hpauses⟩ :=
    outcome_pausesFrom backoff backoff.duration (backoff.steps - 1).toNat o
  have hmost : most = pauses.length + 1 := by omega
  have hcalls : calls - 1 = o.conflicts pauses.length := by
    have hmin := o.conflicts_min pauses.length
    rw [← hmost] at hmin
    omega
  obtain ⟨o₁, hout, htrace⟩ := outcome_retryWith pauses { o with fractions }
  obtain ⟨log, hready⟩ := outcome_readyNodes (outcome_nodes hpauses hout)
  have hle := o.conflicts_le pauses.length
  refine ⟨pauses, fractions, _, _, tries (pauses.take (calls - 1)), hpauses, by omega, hready,
    ?_, rfl, ?_, ?_⟩
  · rw [hcalls]
    exact htrace
  · rw [countP_tries, List.length_take, hcalls]
    omega
  · rw [hcalls]
    exact Listing.yields _

end Directory

end KubeletCollector
