import KubeletCollector.Cycle.Summaries
import KubeletCollector.Proofs.Script

/-! Two runs that differ in nothing but what is on record. Listing, the files, the log and the
hook are handled without a look at the record, so what sends no request keeps such runs
together. -/

namespace KubeletCollector

open Text Act

namespace Act

variable {α β : Type}

/-- From related outsides the two actions end alike, and they leave related outsides. -/
def Agrees (R : Outside → Outside → Prop) (act act' : Act α) : Prop :=
  ∀ o a, R o a → (act'.outcome a).1 = (act.outcome o).1 ∧ R (act.outcome o).2 (act'.outcome a).2

variable {R : Outside → Outside → Prop} {act act' : Act α}

theorem Agrees.pure (v : α) : Agrees R (pure v) (pure v) :=
  fun _ _ h => ⟨rfl, h⟩

theorem Agrees.throw (f : Fault) : Agrees R (throw f : Act α) (throw f) :=
  fun _ _ h => ⟨rfl, h⟩

theorem Agrees.bind {next next' : α → Act β} (h : Agrees R act act')
    (hn : ∀ v, Agrees R (next v) (next' v)) : Agrees R (act >>= next) (act' >>= next') := by
  intro o a hr
  obtain ⟨he, hr'⟩ := h o a hr
  rw [outcome_bind, outcome_bind]
  rcases ho : act.outcome o with ⟨f | v, o'⟩ <;> rcases ha : act'.outcome a with ⟨g | w, a'⟩ <;>
    rw [ho, ha] at he hr' <;> cases he
  · exact ⟨rfl, hr'⟩
  · exact hn v o' a' hr'

theorem Agrees.attempt (h : Agrees R act act') :
    Agrees R (Act.attempt act) (Act.attempt act') := by
  intro o a hr
  obtain ⟨he, hr'⟩ := h o a hr
  rw [outcome_attempt, outcome_attempt, he]
  exact ⟨rfl, hr'⟩

theorem Agrees.ite (c : Prop) [Decidable c] {other other' : Act α} (h : Agrees R act act')
    (ho : Agrees R other other') :
    Agrees R (if c then act else other) (if c then act' else other') := by
  split
  · exact h
  · exact ho

theorem Agrees.forM {step step' : β → Act Unit} (bs : List β)
    (h : ∀ b, Agrees R (step b) (step' b)) : Agrees R (bs.forM step) (bs.forM step') := by
  induction bs with
  | nil => exact Agrees.pure ()
  | cons b bs ih => exact Agrees.bind (h b) fun _ => ih

end Act

/-- What may differ between two records. -/
structure Blur where
  traces : List Event → List Event → Prop
  logs : List LogRecord → List LogRecord → Prop
  noted {trace trace' : List Event} {event : Event} : traces trace trace' → event.request? = none →
    traces (trace ++ [event]) (trace' ++ [event])
  logged {log log' : List LogRecord} (r : LogRecord) : logs log log' →
    logs (log ++ [r]) (log' ++ [r])

def Blur.Hides (blur : Blur) (o a : Outside) : Prop :=
  ∃ trace log, a = { o with trace, log } ∧ blur.traces o.trace trace ∧ blur.logs o.log log

namespace Blur

def all : Blur where
  traces _ _ := True
  logs _ _ := True
  noted _ _ := trivial
  logged _ _ := trivial

variable (blur : Blur)

theorem log (level : LogLevel) (component event : String) (fields : List (String × LogValue)) :
    Agrees blur.Hides (Act.log level component event fields)
      (Act.log level component event fields) := by
  rintro o _ ⟨trace, log, rfl, ht, hl⟩
  exact ⟨rfl, trace, _, rfl, ht, blur.logged _ hl⟩

theorem note {event : Event} (h : event.request? = none) :
    Agrees blur.Hides (Act.note event) (Act.note event) := by
  rintro o _ ⟨trace, log, rfl, ht, hl⟩
  exact ⟨rfl, _, log, rfl, blur.noted ht h, hl⟩

theorem now : Agrees blur.Hides Act.now Act.now := by
  rintro o _ ⟨trace, log, rfl, ht, hl⟩
  exact ⟨rfl, trace, log, rfl, ht, hl⟩

section Listing

theorem fraction : Agrees blur.Hides Act.fraction Act.fraction := by
  rintro o _ ⟨trace, log, rfl, ht, hl⟩
  unfold Act.fraction
  simp only [outcome_bind, outcome_get]
  split
  · exact ⟨rfl, trace, log, rfl, ht, hl⟩
  · exact ⟨rfl, trace, log, rfl, ht, hl⟩

theorem askForNodes : Agrees blur.Hides Act.askForNodes Act.askForNodes := by
  refine Agrees.bind (blur.note rfl) fun _ => ?_
  rintro o _ ⟨trace, log, rfl, ht, hl⟩
  simp only [outcome_bind, outcome_get]
  split
  · exact ⟨rfl, trace, log, rfl, ht, hl⟩
  · split
    · exact ⟨rfl, trace, log, rfl, ht, hl⟩
    · exact ⟨rfl, trace, log, rfl, ht, hl⟩

theorem pausesFrom (backoff : Backoff) (duration : Float) (count : Nat) :
    Agrees blur.Hides (backoff.pausesFrom duration count) (backoff.pausesFrom duration count) := by
  induction count generalizing duration with
  | zero => exact Agrees.pure []
  | succ count ih =>
    unfold Backoff.pausesFrom
    exact Agrees.bind blur.fraction fun r => Agrees.bind (ih _) fun rest => Agrees.pure _

theorem retryWith {α : Type} {act : Act α} (h : Agrees blur.Hides act act) (pauses : List Float) :
    Agrees blur.Hides (Directory.retryWith act pauses) (Directory.retryWith act pauses) := by
  induction pauses with
  | nil => exact h
  | cons pause pauses ih =>
    unfold Directory.retryWith
    refine Agrees.bind h.attempt fun result => ?_
    cases result with
    | ok v => exact Agrees.pure v
    | error f =>
      refine Agrees.ite _ ?_ (Agrees.throw f)
      exact Agrees.bind (blur.log _ _ _ _) fun _ => Agrees.bind (blur.note rfl) fun _ => ih

theorem nodes (backoff : Backoff) :
    Agrees blur.Hides (Directory.nodes backoff) (Directory.nodes backoff) := by
  refine Agrees.bind ?_ fun entries => ?_
  · exact Agrees.bind (blur.pausesFrom backoff _ _) fun pauses =>
      blur.retryWith blur.askForNodes pauses
  · cases snapshots entries with
    | ok all => exact Agrees.pure all
    | error f => exact Agrees.throw f

theorem readyNodes (backoff : Backoff) :
    Agrees blur.Hides (Directory.readyNodes backoff) (Directory.readyNodes backoff) := by
  refine Agrees.bind (blur.nodes backoff) fun all => ?_
  refine Agrees.bind (Agrees.forM _ fun n => blur.log _ _ _ _) fun _ => ?_
  dsimp only
  refine Agrees.ite _ (Agrees.throw _) ?_
  refine Agrees.ite _ ?_ (Agrees.pure _)
  exact Agrees.bind (blur.log _ _ _ _) fun _ => Agrees.pure _

end Listing

section Files

theorem onFiles {α : Type} (p : Path) (op : FileTree → Except FileError (α × FileTree)) :
    Agrees blur.Hides (Act.onFiles p op) (Act.onFiles p op) := by
  rintro o _ ⟨trace, log, rfl, ht, hl⟩
  rw [outcome_onFiles, outcome_onFiles]
  by_cases hp : p.hasNull = true
  · rw [if_pos hp, if_pos hp]
    exact ⟨rfl, trace, log, rfl, ht, hl⟩
  · rw [if_neg hp, if_neg hp]
    dsimp only
    cases op o.files with
    | error cause => exact ⟨rfl, trace, log, rfl, ht, hl⟩
    | ok done => exact ⟨rfl, trace, log, rfl, ht, hl⟩

theorem openEmpty (p : Path) : Agrees blur.Hides (Act.openEmpty p) (Act.openEmpty p) :=
  blur.onFiles p _

theorem removeFile (p : Path) : Agrees blur.Hides (Act.removeFile p) (Act.removeFile p) :=
  blur.onFiles p _

theorem appendTo (loc : Location) (bytes : Bytes) :
    Agrees blur.Hides (Act.appendTo loc bytes) (Act.appendTo loc bytes) := by
  rintro o _ ⟨trace, log, rfl, ht, hl⟩
  exact ⟨rfl, trace, log, rfl, ht, hl⟩

theorem ensureDirectory (p : Path) :
    Agrees blur.Hides (Act.ensureDirectory p) (Act.ensureDirectory p) :=
  blur.onFiles p _

theorem makeDirectoriesFrom (start : PathStart) (names : List String) :
    Agrees blur.Hides (Act.makeDirectoriesFrom start names)
      (Act.makeDirectoriesFrom start names) := by
  induction names with
  | nil => exact blur.ensureDirectory _
  | cons name above ih =>
    unfold Act.makeDirectoriesFrom
    refine Agrees.bind (blur.ensureDirectory _).attempt fun result => ?_
    split
    · exact Agrees.pure ()
    · exact Agrees.bind ih fun _ => blur.ensureDirectory _
    · exact Agrees.throw _

end Files

section Reporting

theorem logReport (report : FailureReport) :
    Agrees blur.Hides (Cycle.logReport report) (Cycle.logReport report) := by
  have hfallbacks := Agrees.forM report.fallbacks fun (entry : Option String × Fault) =>
    blur.log .info "collector.summaries" "node_recovered_via_proxy"
      [("node", .ofText? entry.1), ("direct_error", .text entry.2.message)]
  unfold Cycle.logReport
  exact Agrees.ite _ (Agrees.bind (blur.log _ _ _ _) fun _ => hfallbacks) hfallbacks

theorem callHook (hook : BaselineHook) (dir : Path) :
    Agrees blur.Hides (Cycle.callHook hook dir) (Cycle.callHook hook dir) := by
  rintro o _ ⟨trace, log, rfl, ht, hl⟩
  exact ⟨rfl, _, log, rfl, blur.noted ht rfl, hl⟩

end Reporting

end Blur

end KubeletCollector
