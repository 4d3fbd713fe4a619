import KubeletCollector.Proofs.Listing
import Mathlib.Data.List.Forall2

/-! Listings with more nodes in them, none of them ready. Listing drops those nodes again, and all
that shows of them is in the log. -/

namespace KubeletCollector

open Act

/-- The second list holds what the first one holds, and besides nodes that are not ready. -/
inductive Padded : List (Option NodeObject) → List (Option NodeObject) → Prop
  | nil : Padded [] []
  | keep (entry : Option NodeObject) {entries more : List (Option NodeObject)} :
      Padded entries more → Padded (entry :: entries) (entry :: more)
  | insert {n : NodeObject} {info : NodeInfo} {entries more : List (Option NodeObject)} :
      n.snapshot = .ok info → info.isReady = false → Padded entries more →
      Padded entries (some n :: more)

theorem Padded.refl (entries : List (Option NodeObject)) : Padded entries entries := by
  induction entries with
  | nil => exact Padded.nil
  | cons entry entries ih => exact Padded.keep entry ih

def NodeInfo.ofEntry : Option NodeObject → Except Fault NodeInfo
  | some node => node.snapshot
  | none => .error (.gap "metadata")

theorem snapshots_cons (entry : Option NodeObject) (entries : List (Option NodeObject)) :
    snapshots (entry :: entries) =
      (NodeInfo.ofEntry entry).bind fun info => (snapshots entries).map (info :: ·) := by
  have hall (entries : List (Option NodeObject)) :
      snapshots entries = entries.mapM NodeInfo.ofEntry := rfl
  rw [hall, hall, List.mapM_cons]
  cases NodeInfo.ofEntry entry with
  | error f => rfl
  | ok info => cases entries.mapM NodeInfo.ofEntry <;> rfl

/-- The nodes that are ready are the same, and so is the fault if there is one. -/
theorem Padded.ready {entries more : List (Option NodeObject)} (h : Padded entries more) :
    (snapshots more).map (·.filter NodeInfo.isReady) =
      (snapshots entries).map (·.filter NodeInfo.isReady) := by
  induction h with
  | nil => rfl
  | @keep entry entries more _ ih =>
    rw [snapshots_cons, snapshots_cons]
    cases NodeInfo.ofEntry entry with
    | error f => rfl
    | ok info =>
      revert ih
      cases snapshots entries <;> cases snapshots more <;>
        simp +contextual [Except.map, Except.bind, List.filter_cons]
  | @insert n info entries more hs hr _ ih =>
    have hentry : NodeInfo.ofEntry (some n) = .ok info := hs
    rw [snapshots_cons, hentry, ← ih]
    cases snapshots more <;> simp [Except.map, Except.bind, hr]

inductive Listing.Pads : Listing → Listing → Prop
  | nodes {entries more : List (Option NodeObject)} :
      Padded entries more → Pads (.nodes entries) (.nodes more)
  | fault (cause : Fault) : Pads (.fault cause) (.fault cause)

theorem Listing.Pads.refl (listing : Listing) : listing.Pads listing := by
  cases listing with
  | nodes entries => exact Pads.nodes (Padded.refl entries)
  | fault cause => exact Pads.fault cause

/-- Two outsides that differ in nodes that are listed and not ready, and in what is on record. -/
def Outside.Pads (o a : Outside) : Prop :=
  ∃ listings trace log, List.Forall₂ Listing.Pads o.listings listings ∧
    a = { o with listings, trace, log }

/-- What is on record makes no difference. -/
theorem Outside.pads_recorded (o : Outside) (trace : List Event) (log : List LogRecord) :
    o.Pads { o with trace, log } :=
  ⟨o.listings, trace, log, List.forall₂_same.2 fun listing _ => Listing.Pads.refl listing, rfl⟩

namespace Outside.Pads

variable {o a : Outside}

theorem routes (h : o.Pads a) (side : Side) : a.routes side = o.routes side := by
  obtain ⟨listings, trace, log, -, rfl⟩ := h
  cases side <;> rfl

theorem files (h : o.Pads a) : a.files = o.files := by
  obtain ⟨listings, trace, log, -, rfl⟩ := h
  rfl

theorem now (h : o.Pads a) : a.now = o.now := by
  obtain ⟨listings, trace, log, -, rfl⟩ := h
  rfl

theorem recorded (h : o.Pads a) (trace trace' : List Event) (log log' : List LogRecord) :
    Outside.Pads { o with trace, log } { a with trace := trace', log := log' } := by
  obtain ⟨listings, _, _, hl, rfl⟩ := h
  exact ⟨listings, trace', log', hl, rfl⟩

end Outside.Pads

/-- The action does nothing but log, and returns `v`. -/
def Act.OnlyLogs {α : Type} (act : Act α) (v : α) : Prop :=
  ∀ o, ∃ log, act.outcome o = (.ok v, { o with log })

namespace Act.OnlyLogs

variable {α β : Type}

theorem pure (v : α) : OnlyLogs (pure v) v :=
  fun o => ⟨o.log, rfl⟩

theorem log (level : LogLevel) (component event : String) (fields : List (String × LogValue)) :
    OnlyLogs (Act.log level component event fields) () :=
  fun _ => ⟨_, rfl⟩

theorem bind {act : Act α} {next : α → Act β} {v : α} {w : β} (h : act.OnlyLogs v)
    (hn : (next v).OnlyLogs w) : (act >>= next).OnlyLogs w := by
  intro o
  obtain ⟨log, hlog⟩ := h o
  obtain ⟨log', hlog'⟩ := hn { o with log }
  exact ⟨log', by rw [outcome_bind, hlog]; exact hlog'⟩

theorem forM {step : α → Act Unit} (as : List α) (h : ∀ a, (step a).OnlyLogs ()) :
    (as.forM step).OnlyLogs () := by
  induction as with
  | nil => exact OnlyLogs.pure ()
  | cons a as ih => exact OnlyLogs.bind (h a) ih

end Act.OnlyLogs

def Listing.answer : Listing → Except Fault (List (Option NodeObject))
  | .nodes entries => .ok entries
  | .fault cause => .error cause

theorem outcome_askForNodes (o : Outside) :
    Act.askForNodes.outcome o =
      match nextOf o.listings with
      | none => (.ok [], { o with trace := o.trace ++ [.listed] })
      | some (listing, rest) =>
        (listing.answer, { o with listings := rest, trace := o.trace ++ [.listed] }) := by
  unfold Act.askForNodes
  simp only [outcome_bind, outcome_note, outcome_get]
  cases nextOf o.listings with
  | none => rfl
  | some next =>
    obtain ⟨listing, rest⟩ := next
    cases listing <;> rfl

theorem Listing.Pads.ready {listing more : Listing} (h : listing.Pads more) :
    (more.answer.bind snapshots).map (·.filter NodeInfo.isReady) =
      (listing.answer.bind snapshots).map (·.filter NodeInfo.isReady) := by
  cases h with
  | nodes h => exact h.ready
  | fault cause => rfl

namespace Directory

theorem outcome_nodes {backoff : Backoff} {pauses : List Float} {listing : Listing}
    {o o₁ o' : Outside} (hp : backoff.pauses.outcome o = (.ok pauses, o₁))
    (hr : (retryWith Act.askForNodes pauses).outcome o₁ = (listing.answer, o')) :
    (nodes backoff).outcome o = (listing.answer.bind snapshots, o') := by
  unfold nodes retryOnConflict
  simp only [outcome_bind, hp, hr]
  cases listing with
  | fault f => rfl
  | nodes entries =>
    simp only [Listing.answer, Except.bind]
    cases snapshots entries <;> rfl

def someReady : Except Fault (List NodeInfo) → Except Fault (List NodeInfo)
  | .ok [] => .error .noReadyNodes
  | result => result

/-- What is listed as ready is a filter of what is listed, and the rest is logging. -/
theorem outcome_readyNodes {backoff : Backoff} {result : Except Fault (List NodeInfo)}
    {o o₁ : Outside} (h : (nodes backoff).outcome o = (result, o₁)) :
    ∃ log, (readyNodes backoff).outcome o =
      (someReady (result.map (·.filter NodeInfo.isReady)), { o₁ with log }) := by
  unfold readyNodes
  rw [outcome_bind, h]
  cases result with
  | error f => exact ⟨o₁.log, rfl⟩
  | ok all =>
    have hlogs : OnlyLogs ((all.filter (!·.isReady)).forM logNotReady) () :=
      OnlyLogs.forM _ fun n => OnlyLogs.log _ _ _ _
    obtain ⟨log, hlog⟩ := hlogs o₁
    simp only [Except.map]
    rw [outcome_bind, hlog]
    rcases hr : all.filter NodeInfo.isReady with _ | ⟨n, ready⟩
    · exact ⟨log, rfl⟩
    · have hrest : OnlyLogs (if (n :: ready).length ≠ all.length then
          Act.log .info component "some_nodes_not_ready"
            [("ready", .integer (n :: ready).length), ("total", .integer all.length)] >>= fun _ =>
              pure (n :: ready)
          else pure (n :: ready)) (n :: ready) := by
        split
        · exact OnlyLogs.bind (OnlyLogs.log _ _ _ _) (OnlyLogs.pure _)
        · exact OnlyLogs.pure _
      obtain ⟨log', hlog'⟩ := hrest { o₁ with log }
      exact ⟨log', hlog'⟩

end Directory

end KubeletCollector
