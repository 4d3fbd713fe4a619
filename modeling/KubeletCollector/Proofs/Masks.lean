import KubeletCollector.Proofs.Ownership
import Mathlib.Data.Finset.Card

/-! What becomes of masks over any steps that make, mark, copy and share them. Memory and table go on
alike, what is frozen stays, and of the rest the last marking counts. -/

namespace KubeletCollector

namespace MaskMemory

variable {mem mem' : MaskMemory} {table : MaskTable} {name : String}

theorem Shows.frozen (h : mem.Shows table) {place copy : Nat}
    (hk : mem.Freezes place mem' copy) (into : String) :
    (mem'.call into copy).Shows (table.bind into (mem.mask place).freeze) := by
  have hfrozen : (mem'.mask copy).frozen = true := by
    rw [hk.mask]
    rfl
  rw [← hk.mask]
  exact (h.spared hk.spares).called hk.lt fun hf => by simp [hfrozen] at hf

/-- Masks are alike exactly if their sets hold the same. -/
theorem alike_mask (place other : Nat) :
    (mem.mask place).alike (mem.mask other) = true ↔ mem.held place = mem.held other := by
  simp only [EndpointMask.alike_iff, mask, EndpointMask.has_ofSet, decide_eq_decide, Finset.ext_iff]

/-- What came of the memory came of the table, and both gave one answer. -/
structure Follows (table : MaskTable) (done : Except MaskError (Option Bool) × MaskMemory)
    (result : Except MaskError (Option Bool × MaskTable)) : Prop where
  answer : done.1 = result.map Prod.fst
  shows : done.2.Shows (MaskTable.left table result)

/-- What is done with the mask of a name is done in the table with what the mask is. -/
theorem Follows.on (h : mem.Shows table)
    {act : Nat → Except MaskError (Option Bool) × MaskMemory}
    {next : EndpointMask → Except MaskError (Option Bool × MaskTable)}
    (hact : ∀ place, mem.names.lookup name = some place →
      Follows table (act place) (next (mem.mask place))) :
    Follows table (mem.on name act) (table.find name >>= next) := by
  unfold MaskMemory.on
  cases hn : mem.names.lookup name with
  | none =>
    rw [MaskTable.find_of_none (h.missing hn)]
    exact ⟨rfl, h⟩
  | some place =>
    rw [MaskTable.find_of_lookup (h.lookup hn)]
    exact hact place hn

/-- What a step does to the memory it does to the table. -/
theorem step_follows (h : mem.Shows table) (step : MaskStep) :
    Follows table (mem.step step) (table.step step) := by
  cases step with
  | create name kinds frozen =>
    have hfresh (other : String) : mem.names.lookup other ≠ some mem.maskCount :=
      fun ho => (h.sound.named_lt other _ ho).ne rfl
    have hspares : mem.Spares (mem.make kinds.toFinset frozen).2 := spares_make h.sound
    have hlt : (mem.make kinds.toFinset frozen).1 < (mem.make kinds.toFinset frozen).2.maskCount :=
      Nat.lt_succ_self _
    refine ⟨rfl, ?_⟩
    show Shows _ (table.bind name (.ofKinds kinds frozen))
    rw [← EndpointMask.ofSet_toFinset, ← mask_made]
    exact (h.spared hspares).called hlt fun _ => hfresh
  | mark name kind available =>
    refine Follows.on h fun place hn => ?_
    cases hf : (mem.mask place).frozen with
    | true =>
      simp only [set_frozen hf, EndpointMask.set?, hf]
      exact ⟨rfl, h⟩
    | false =>
      have hmarked := h.marked hn hf kind available
      simp only [set_unfrozen hf, EndpointMask.set?, hf] at hmarked ⊢
      exact ⟨rfl, hmarked⟩
  | freeze name into =>
    exact Follows.on h fun place _ => ⟨rfl, h.frozen (freezes_freeze h.sound place) into⟩
  | share name into =>
    refine Follows.on h fun place hn => ?_
    have hp := h.sound.named_lt name place hn
    have hkeeps := (keeps_openSession h.sound hp hp).2
    refine ⟨?_, h.frozen hkeeps.toFreezes into⟩
    simp [Except.map, pure, Except.pure, hkeeps.same]
  | has name kind =>
    refine Follows.on h fun place hn => ⟨?_, h⟩
    rw [mask, EndpointMask.has_ofSet]
    rfl
  | alike name other =>
    refine Follows.on h fun place hn => Follows.on h fun place' hn' => ⟨?_, h⟩
    simp [Except.map, pure, Except.pure, ← alike_mask]

theorem run_shows (h : mem.Shows table) (steps : List MaskStep) :
    (mem.run steps).Shows (table.run steps) := by
  induction steps generalizing mem table with
  | nil => exact h
  | cons step steps ih => exact ih (step_follows h step).shows

theorem shows_empty : Shows {} [] where
  sound := ⟨nofun, nofun, nofun, nofun⟩
  shown _ := rfl

/-- Masks only come to be, and frozen ones stay as they are. -/
structure Grows (mem mem' : MaskMemory) : Prop where
  count : mem.maskCount ≤ mem'.maskCount
  frozen : ∀ place < mem.maskCount, (mem.mask place).frozen = true →
    mem'.mask place = mem.mask place

theorem Grows.refl (mem : MaskMemory) : mem.Grows mem :=
  ⟨le_rfl, fun _ _ _ => rfl⟩

theorem Grows.trans {mem'' : MaskMemory} (h : mem.Grows mem') (h' : mem'.Grows mem'') :
    mem.Grows mem'' where
  count := h.count.trans h'.count
  frozen place hp hf := by
    have hsame := h.frozen place hp hf
    rw [h'.frozen place (hp.trans_le h.count) (hsame ▸ hf), hsame]

theorem Spares.grows (h : mem.Spares mem') : mem.Grows mem' :=
  ⟨h.count, fun place hp _ => h.kept place hp⟩

/-- What holds of a failure for want of the mask, and of what is done with the mask if there is one,
holds of both. -/
theorem on_cases {act : Nat → Except MaskError (Option Bool) × MaskMemory}
    {P : Except MaskError (Option Bool) × MaskMemory → Prop}
    (hnone : P (.error (.unknown name), mem))
    (hsome : ∀ place, mem.names.lookup name = some place → P (act place)) :
    P (mem.on name act) := by
  unfold MaskMemory.on
  cases hn : mem.names.lookup name with
  | none => exact hnone
  | some place => exact hsome place hn

theorem set_grows (hs : mem.Sound) {place : Nat} (hp : place < mem.maskCount)
    (kind : EndpointKind) (available : Bool) : mem.Grows (mem.set place kind available).2 := by
  cases hf : (mem.mask place).frozen with
  | true =>
    rw [set_frozen hf]
    exact Grows.refl mem
  | false =>
    have hcount : (mem.set place kind available).2.maskCount = mem.maskCount := by
      rw [set_unfrozen hf]
    refine ⟨hcount.ge, fun other ho hf' => ?_⟩
    rw [mask_set hs hp hf ho, if_neg]
    rintro rfl
    rw [hf] at hf'
    cases hf'

theorem step_grows (hs : mem.Sound) (step : MaskStep) : mem.Grows (mem.step step).2 := by
  -- a name that is given to a mask changes no mask
  have hcall {mem' : MaskMemory} (h : mem.Spares mem') (into : String) (place : Nat) :
      mem.Grows (mem'.call into place) :=
    ⟨h.grows.count, h.grows.frozen⟩
  have hsame := Grows.refl mem
  have hon {name : String} {act : Nat → Except MaskError (Option Bool) × MaskMemory} :
      (∀ place, mem.names.lookup name = some place → mem.Grows (act place).2) →
        mem.Grows (mem.on name act).2 :=
    on_cases (P := fun done => mem.Grows done.2) hsame
  cases step with
  | create name kinds frozen => exact hcall (spares_make hs) name _
  | mark name kind available =>
    exact hon fun place hn => set_grows hs (hs.named_lt name place hn) kind available
  | freeze name into =>
    exact hon fun place _ => hcall (freezes_freeze hs place).spares into _
  | share name into =>
    refine hon fun place hn => ?_
    have hp := hs.named_lt name place hn
    exact hcall (keeps_openSession hs hp hp).2.spares into _
  | has name kind => exact hon fun _ _ => hsame
  | alike name other => exact hon fun _ _ => hon fun _ _ => hsame

theorem run_grows (h : mem.Shows table) (steps : List MaskStep) : mem.Grows (mem.run steps) := by
  induction steps generalizing mem table with
  | nil => exact Grows.refl mem
  | cons step steps ih =>
    exact (step_grows h.sound step).trans (ih (step_follows h step).shows)

/-- A step that fails changes nothing. -/
theorem step_failed {step : MaskStep} {cause : MaskError} :
    (mem.step step).1 = .error cause → (mem.step step).2 = mem := by
  have hon {name : String} {act : Nat → Except MaskError (Option Bool) × MaskMemory} :
      (∀ place, mem.names.lookup name = some place →
        (act place).1 = .error cause → (act place).2 = mem) →
        (mem.on name act).1 = .error cause → (mem.on name act).2 = mem :=
    on_cases (P := fun done => done.1 = .error cause → done.2 = mem) fun _ => rfl
  cases step with
  | create name kinds frozen => exact nofun
  | mark name kind available =>
    refine hon fun place _ => ?_
    cases hf : (mem.mask place).frozen with
    | true =>
      rw [set_frozen hf]
      exact fun _ => rfl
    | false =>
      rw [set_unfrozen hf]
      exact nofun
  | freeze name into => exact hon fun _ _ => nofun
  | share name into => exact hon fun _ _ => nofun
  | has name kind => exact hon fun _ _ => nofun
  | alike name other => exact hon fun _ _ => hon fun _ _ => nofun

/-- A session keeps the masks that it is given, and its values are what lies in memory. -/
structure Opens (mem : MaskMemory) (place place' : Nat) (mem' : MaskMemory)
    (opened : SessionMasks) : Prop where
  direct : mem.Keeps place mem' opened.direct
  proxy : mem.Keeps place' mem' opened.proxy
  shown : ∀ session : Session, session.directMask = mem.mask place →
    session.proxyMask = mem.mask place' → session.sealed.directMask = mem'.mask opened.direct ∧
      session.sealed.proxyMask = mem'.mask opened.proxy

theorem opens_openSession (hs : mem.Sound) {direct proxy : Nat} (hd : direct < mem.maskCount)
    (hp : proxy < mem.maskCount) :
    mem.Opens direct proxy (mem.openSession direct proxy).2 (mem.openSession direct proxy).1 := by
  obtain ⟨hdirect, hproxy⟩ := keeps_openSession hs hd hp
  refine ⟨hdirect, hproxy, fun session h h' => ⟨?_, ?_⟩⟩
  · rw [hdirect.mask, ← h]
    rfl
  · rw [hproxy.mask, ← h']
    rfl

/-- The kinds of a mask are listed in fetch order, each once. How many there are, whether one is
among them and whether two masks are alike can be read off the list. -/
structure Listed (mem : MaskMemory) (place : Nat) : Prop where
  order : (mem.mask place).kinds.Sublist [.summary, .cadvisor, .container]
  nodup : (mem.mask place).kinds.Nodup
  length : (mem.mask place).kinds.length = (mem.held place).card
  mem_iff : ∀ kind, kind ∈ (mem.mask place).kinds ↔ kind ∈ mem.held place
  has_iff : ∀ kind, (mem.mask place).has kind = true ↔ kind ∈ (mem.mask place).kinds
  alike_iff : ∀ other, (mem.mask place).alike (mem.mask other) = true ↔
    (mem.mask place).kinds = (mem.mask other).kinds

theorem listed (mem : MaskMemory) (place : Nat) : mem.Listed place := by
  have hheld (kind : EndpointKind) : kind ∈ (mem.mask place).kinds ↔ kind ∈ mem.held place := by
    rw [EndpointMask.mem_kinds, mask, EndpointMask.has_ofSet, decide_eq_true_iff]
  have hnodup := (mem.mask place).nodup_kinds
  refine ⟨List.filter_sublist, hnodup, ?_, hheld, fun kind => EndpointMask.mem_kinds.symm,
    fun other => ⟨fun h => ?_, fun h => ?_⟩⟩
  · rw [← List.toFinset_card_of_nodup hnodup]
    refine congrArg Finset.card (Finset.ext fun kind => ?_)
    rw [List.mem_toFinset, hheld]
  · exact List.filter_congr fun kind _ => EndpointMask.alike_iff.1 h kind
  · refine EndpointMask.alike_iff.2 fun kind => Bool.eq_iff_iff.2 ?_
    rw [← EndpointMask.mem_kinds, ← EndpointMask.mem_kinds, h]

end MaskMemory

/-- What holds after any steps. `mem` is the memory after them, and `table` tells what lies there under
each name. -/
structure MasksKept (steps : List MaskStep) (mem : MaskMemory) (table : MaskTable) : Prop where
  sound : mem.Sound
  shown : ∀ name, (mem.names.lookup name).map mem.mask = table.lookup name
  answered : ∀ step, (mem.step step).1 = (table.step step).map Prod.fst
  /-- A mask that is not frozen was made by a step and kept its name since, and of each kind the last
  marking counts, or else what the mask was made of. -/
  written : ∀ name mask, table.lookup name = some mask ∧ mask.frozen = false ↔
    ∃ before kinds after, steps = before ++ .create name kinds false :: after ∧
      MaskTable.Retains name ((MaskTable.run [] before).after (.create name kinds false)) after ∧
      mask.frozen = false ∧
      ∀ kind, mask.has kind = (MaskStep.lastMarking? name kind after).getD (kinds.contains kind)
  refused : ∀ name place kind available, mem.names.lookup name = some place →
    (mem.mask place).frozen = true → mem.step (.mark name kind available) = (.error .frozen, mem)
  failed : ∀ step cause, (mem.step step).1 = .error cause → (mem.step step).2 = mem
  /-- A frozen mask stays what it is whatever comes, and a name for it stands for it until the name is
  bound anew. -/
  frozen : ∀ place < mem.maskCount, (mem.mask place).frozen = true →
    ∀ more, (mem.run more).mask place = mem.mask place
  retained : ∀ name mask, table.lookup name = some mask → mask.frozen = true →
    ∀ more, table.Retains name more → (table.run more).lookup name = some mask
  /-- Neither freezing nor a session changes what was there. A frozen copy is new, and a session has
  a new one of a mask exactly if the mask is not frozen. -/
  copied : ∀ place < mem.maskCount, mem.Freezes place (mem.freeze place).2 (mem.freeze place).1 ∧
    mem.maskCount ≤ (mem.freeze place).1
  opened : ∀ direct < mem.maskCount, ∀ proxy < mem.maskCount,
    mem.Opens direct proxy (mem.openSession direct proxy).2 (mem.openSession direct proxy).1
  named : ∀ name into mask, table.lookup name = some mask → ∀ step,
    step = .freeze name into ∨ step = .share name into → ∀ other,
      (table.after step).lookup other =
        if other = into then some mask.freeze else table.lookup other
  listed : ∀ place, mem.Listed place

/-- Whatever is done to masks under names, each is what was done to it alone. -/
theorem masks_kept (steps : List MaskStep) :
    MasksKept steps (MaskMemory.run {} steps) (MaskTable.run [] steps) := by
  have h := MaskMemory.run_shows MaskMemory.shows_empty steps
  refine ⟨h.sound, h.shown, fun step => (MaskMemory.step_follows h step).answer,
    fun name mask => MaskTable.lookup_iff_written, fun name place kind available hn hf => ?_,
    fun step cause => MaskMemory.step_failed,
    fun place hp hf more => (MaskMemory.run_grows h more).frozen place hp hf,
    fun name mask hl hf more hk => ?_,
    fun place _ => ⟨MaskMemory.freezes_freeze h.sound place, le_rfl⟩,
    fun direct hd proxy hp => MaskMemory.opens_openSession h.sound hd hp,
    fun name into mask hl step hstep other => ?_, MaskMemory.listed _⟩
  · rw [MaskMemory.step, MaskMemory.on, hn]
    exact MaskMemory.set_frozen hf
  · rw [MaskTable.lookup_run hk hl, EndpointMask.metAll_frozen hf]
  · have hafter : (MaskTable.run [] steps).after step =
        (MaskTable.run [] steps).bind into mask.freeze := by
      rcases hstep with rfl | rfl
      · exact MaskTable.after_of_ok (MaskTable.step_freeze hl)
      · exact MaskTable.after_of_ok (MaskTable.step_share hl)
    rw [hafter, MaskTable.lookup_bind]

namespace Sample

/-- A copy does not show what is written to the mask later, and refuses what is written to itself. -/
theorem masks_kept_copied :
    let steps : List MaskStep := [.create "a" [.summary] false, .freeze "a" "b"]
    let later : List MaskStep := [.mark "a" .cadvisor true, .share "b" "c"]
    ((MaskTable.run [] steps).run later).lookup "b" = some (.ofKinds [.summary] true) ∧
      (MaskMemory.run {} steps).step (.mark "b" .cadvisor true) =
        (.error .frozen, MaskMemory.run {} steps) := by
  intro steps later
  have h := masks_kept steps
  have hlater : MaskTable.Retains "b" (MaskTable.run [] steps) later :=
    .cons nofun (.cons (fun hc => absurd hc (by decide)) .nil)
  have hn : (MaskMemory.run {} steps).names.lookup "b" = some 1 := by decide
  refine ⟨h.retained "b" _ (by decide) (by decide) later hlater, h.refused "b" 1 _ _ hn ?_⟩
  have hl : some ((MaskMemory.run {} steps).mask 1) = some (.ofKinds [.summary] true) := by
    rw [← Option.map_some, ← hn, h.shown]
    decide
  rw [Option.some.inj hl]
  decide

end Sample

end KubeletCollector
