import KubeletCollector.Proofs.Marking
import KubeletCollector.Session
import Mathlib.Data.Finset.Dedup
import Mathlib.Data.Finset.Erase
import Mathlib.Data.Finset.Insert

/-! Masks as they lie in memory, where names and sessions refer to them and where each of them refers
to a set. Two masks could own one set there, and a write to one would show in the other. No step
brings that about, so masks can be taken for values: what a name stands for is read off a table. -/

namespace KubeletCollector

def EndpointMask.ofSet (kinds : Finset EndpointKind) (frozen : Bool) : EndpointMask where
  summary := .summary ∈ kinds
  cadvisor := .cadvisor ∈ kinds
  container := .container ∈ kinds
  frozen

def markIn (kinds : Finset EndpointKind) (kind : EndpointKind) (available : Bool) :
    Finset EndpointKind :=
  if available then insert kind kinds else kinds.erase kind

namespace EndpointMask

theorem has_ofSet (kinds : Finset EndpointKind) (frozen : Bool) (kind : EndpointKind) :
    (ofSet kinds frozen).has kind = decide (kind ∈ kinds) := by
  cases kind <;> rfl

theorem ofSet_toFinset (kinds : List EndpointKind) (frozen : Bool) :
    ofSet kinds.toFinset frozen = ofKinds kinds frozen := by
  refine ext_has (fun kind => ?_) rfl
  rw [has_ofSet, has_ofKinds]
  simp

theorem ofSet_markIn (kinds : Finset EndpointKind) (frozen : Bool) (kind : EndpointKind)
    (available : Bool) :
    ofSet (markIn kinds kind available) frozen = (ofSet kinds frozen).mark kind available := by
  refine ext_has (fun other => ?_) (frozen_mark (ofSet kinds frozen) kind available).symm
  rw [has_ofSet, has_mark, has_ofSet]
  cases available <;> by_cases h : other = kind <;> simp [markIn, h]

end EndpointMask

/-- A mask as it lies in memory: the place of the set that holds its kinds, and whether the mask
refuses writes. -/
structure MaskObject where
  owned : Nat
  frozen : Bool

/-- Sets and masks by their places, and the places of the masks that have names. -/
structure MaskMemory where
  sets : Nat → Finset EndpointKind := fun _ => ∅
  masks : Nat → MaskObject := fun _ => ⟨0, false⟩
  setCount : Nat := 0
  maskCount : Nat := 0
  names : List (String × Nat) := []

structure SessionMasks where
  direct : Nat
  proxy : Nat

namespace MaskMemory

def held (mem : MaskMemory) (place : Nat) : Finset EndpointKind :=
  mem.sets (mem.masks place).owned

def mask (mem : MaskMemory) (place : Nat) : EndpointMask :=
  .ofSet (mem.held place) (mem.masks place).frozen

def make (mem : MaskMemory) (kinds : Finset EndpointKind) (frozen : Bool) : Nat × MaskMemory :=
  (mem.maskCount, { mem with
    sets := Function.update mem.sets mem.setCount kinds
    masks := Function.update mem.masks mem.maskCount ⟨mem.setCount, frozen⟩
    setCount := mem.setCount + 1
    maskCount := mem.maskCount + 1 })

def set (mem : MaskMemory) (place : Nat) (kind : EndpointKind) (available : Bool) :
    Except MaskError (Option Bool) × MaskMemory :=
  if (mem.mask place).frozen then (.error .frozen, mem)
  else (.ok none, { mem with
    sets := Function.update mem.sets (mem.masks place).owned
      (markIn (mem.held place) kind available) })

def freeze (mem : MaskMemory) (place : Nat) : Nat × MaskMemory :=
  mem.make (mem.held place) true

/-- A mask that a session can keep: the mask itself if it is frozen, and a frozen copy otherwise. -/
def keep (mem : MaskMemory) (place : Nat) : Nat × MaskMemory :=
  if (mem.mask place).frozen then (place, mem) else mem.freeze place

def openSession (mem : MaskMemory) (direct proxy : Nat) : SessionMasks × MaskMemory :=
  let first := mem.keep direct
  let second := first.2.keep proxy
  (⟨first.1, second.1⟩, second.2)

def call (mem : MaskMemory) (name : String) (place : Nat) : MaskMemory :=
  { mem with names := Association.bound name place mem.names }

def on (mem : MaskMemory) (name : String)
    (act : Nat → Except MaskError (Option Bool) × MaskMemory) :
    Except MaskError (Option Bool) × MaskMemory :=
  match mem.names.lookup name with
  | some place => act place
  | none => (.error (.unknown name), mem)

/-- What a step answers or why it fails, and the memory after it. Whether a session holds the very
mask that it was given is told by the places. -/
def step (mem : MaskMemory) : MaskStep → Except MaskError (Option Bool) × MaskMemory
  | .create name kinds frozen =>
    let made := mem.make kinds.toFinset frozen
    (.ok none, made.2.call name made.1)
  | .mark name kind available => mem.on name fun place => mem.set place kind available
  | .freeze name into => mem.on name fun place =>
    let copy := mem.freeze place
    (.ok none, copy.2.call into copy.1)
  | .share name into => mem.on name fun place =>
    let session := mem.openSession place place
    (.ok (some (session.1.proxy = place)), session.2.call into session.1.proxy)
  | .has name kind => mem.on name fun place => (.ok (some (kind ∈ mem.held place)), mem)
  | .alike name other => mem.on name fun place => mem.on other fun place' =>
    (.ok (some (mem.held place = mem.held place')), mem)

def run (mem : MaskMemory) (steps : List MaskStep) : MaskMemory :=
  steps.foldl (fun mem step => (mem.step step).2) mem

/-- Every mask owns a set of its own, names stand for masks that there are, and a mask that is not
frozen has one name. -/
structure Sound (mem : MaskMemory) : Prop where
  owned_lt : ∀ place < mem.maskCount, (mem.masks place).owned < mem.setCount
  apart : ∀ place < mem.maskCount, ∀ other < mem.maskCount,
    (mem.masks place).owned = (mem.masks other).owned → place = other
  named_lt : ∀ name place, mem.names.lookup name = some place → place < mem.maskCount
  single : ∀ name other place, mem.names.lookup name = some place →
    mem.names.lookup other = some place → (mem.mask place).frozen = false → name = other

/-- All masks are still there as they were, and they have the same names. -/
structure Spares (mem mem' : MaskMemory) : Prop where
  sound : mem'.Sound
  count : mem.maskCount ≤ mem'.maskCount
  names : mem'.names = mem.names
  kept : ∀ place < mem.maskCount, mem'.mask place = mem.mask place

theorem Spares.refl {mem : MaskMemory} (h : mem.Sound) : mem.Spares mem :=
  ⟨h, le_rfl, rfl, fun _ _ => rfl⟩

theorem Spares.trans {mem mem' mem'' : MaskMemory} (h : mem.Spares mem') (h' : mem'.Spares mem'') :
    mem.Spares mem'' where
  sound := h'.sound
  count := h.count.trans h'.count
  names := h'.names.trans h.names
  kept place hp := (h'.kept place (hp.trans_le h.count)).trans (h.kept place hp)

section Making

variable {mem : MaskMemory} {kinds : Finset EndpointKind} {frozen : Bool}

theorem mask_made : (mem.make kinds frozen).2.mask (mem.make kinds frozen).1 =
    .ofSet kinds frozen := by
  simp only [make, mask, held, Function.update_self]

theorem masks_make {place : Nat} (hp : place < mem.maskCount) :
    (mem.make kinds frozen).2.masks place = mem.masks place :=
  Function.update_of_ne hp.ne _ _

theorem mask_make (hs : mem.Sound) {place : Nat} (hp : place < mem.maskCount) :
    (mem.make kinds frozen).2.mask place = mem.mask place := by
  have hset : (mem.masks place).owned ≠ mem.setCount := (hs.owned_lt place hp).ne
  unfold mask held
  rw [masks_make hp]
  simp only [make, Function.update_of_ne hset]

/-- A new mask owns a new set, so what was there is spared. -/
theorem spares_make (hs : mem.Sound) : mem.Spares (mem.make kinds frozen).2 := by
  have hnew : (mem.make kinds frozen).2.masks mem.maskCount = ⟨mem.setCount, frozen⟩ :=
    Function.update_self _ _ _
  have hcount : (mem.make kinds frozen).2.maskCount = mem.maskCount + 1 := rfl
  have hsets : (mem.make kinds frozen).2.setCount = mem.setCount + 1 := rfl
  refine ⟨⟨fun place hp => ?_, fun place hp other ho h => ?_, fun name place h => ?_,
    fun name other place h h' hf => ?_⟩, Nat.le_succ _, rfl, fun place => mask_make hs⟩
  · rw [hcount] at hp
    rw [hsets]
    rcases Nat.lt_succ_iff_lt_or_eq.1 hp with hp | rfl
    · rw [masks_make hp]
      exact (hs.owned_lt place hp).trans (Nat.lt_succ_self _)
    · rw [hnew]
      exact Nat.lt_succ_self _
  · rw [hcount] at hp ho
    rcases Nat.lt_succ_iff_lt_or_eq.1 hp with hp | rfl <;>
      rcases Nat.lt_succ_iff_lt_or_eq.1 ho with ho | rfl
    · rw [masks_make hp, masks_make ho] at h
      exact hs.apart place hp other ho h
    · rw [masks_make hp, hnew] at h
      exact absurd h (hs.owned_lt place hp).ne
    · rw [masks_make ho, hnew] at h
      exact absurd h.symm (hs.owned_lt other ho).ne
    · rfl
  · exact (hs.named_lt name place h).trans (Nat.lt_succ_self _)
  · rw [mask_make hs (hs.named_lt name place h)] at hf
    exact hs.single name other place h h' hf

end Making

section Keeping

/-- At `copy` there is a frozen mask that holds what the mask at `place` does, and all that was there
is spared. -/
structure Freezes (mem : MaskMemory) (place : Nat) (mem' : MaskMemory) (copy : Nat) : Prop where
  spares : mem.Spares mem'
  lt : copy < mem'.maskCount
  mask : mem'.mask copy = (mem.mask place).freeze

/-- A session keeps the mask itself if it is frozen, and a new one otherwise. -/
structure Keeps (mem : MaskMemory) (place : Nat) (mem' : MaskMemory) (kept : Nat) : Prop
    extends mem.Freezes place mem' kept where
  same : kept = place ↔ (mem.mask place).frozen = true
  new : kept ≠ place → mem.maskCount ≤ kept

variable {mem : MaskMemory}

theorem freezes_freeze (hs : mem.Sound) (place : Nat) :
    mem.Freezes place (mem.freeze place).2 (mem.freeze place).1 :=
  ⟨spares_make hs, Nat.lt_succ_self _, mask_made⟩

theorem keeps_keep (hs : mem.Sound) {place : Nat} (hp : place < mem.maskCount) :
    mem.Keeps place (mem.keep place).2 (mem.keep place).1 := by
  unfold keep
  split
  · rename_i hf
    have hsame : mem.mask place = (mem.mask place).freeze :=
      EndpointMask.ext_has (fun kind => (EndpointMask.has_freeze _ kind).symm) hf
    exact ⟨⟨Spares.refl hs, hp, hsame⟩, iff_of_true rfl hf, fun h => absurd rfl h⟩
  · rename_i hf
    exact ⟨freezes_freeze hs place, iff_of_false hp.ne' hf, fun _ => le_rfl⟩

/-- A session keeps both of the masks that it is given. -/
theorem keeps_openSession (hs : mem.Sound) {direct proxy : Nat} (hd : direct < mem.maskCount)
    (hp : proxy < mem.maskCount) :
    let session := mem.openSession direct proxy
    mem.Keeps direct session.2 session.1.direct ∧ mem.Keeps proxy session.2 session.1.proxy := by
  have hfirst := keeps_keep hs hd
  have hsecond := keeps_keep hfirst.spares.sound (hp.trans_le hfirst.spares.count)
  have hsame := hfirst.spares.kept proxy hp
  have hspares := hfirst.spares.trans hsecond.spares
  refine ⟨⟨⟨hspares, hfirst.lt.trans_le hsecond.spares.count, ?_⟩, hfirst.same, hfirst.new⟩,
    ⟨⟨hspares, hsecond.lt, ?_⟩, ?_, fun h => hfirst.spares.count.trans (hsecond.new h)⟩⟩
  · exact (hsecond.spares.kept _ hfirst.lt).trans hfirst.mask
  · rw [← hsame]
    exact hsecond.mask
  · rw [← hsame]
    exact hsecond.same

end Keeping

section Writing

variable {mem : MaskMemory} {place : Nat} {kind : EndpointKind} {available : Bool}

theorem set_frozen (hf : (mem.mask place).frozen = true) :
    mem.set place kind available = (.error .frozen, mem) :=
  if_pos hf

theorem set_unfrozen (hf : (mem.mask place).frozen = false) :
    mem.set place kind available = (.ok none, { mem with
      sets := Function.update mem.sets (mem.masks place).owned
        (markIn (mem.held place) kind available) }) :=
  if_neg (by simp [hf])

/-- A write shows in the mask that it is addressed to and in no other one. -/
theorem mask_set (hs : mem.Sound) (hp : place < mem.maskCount)
    (hf : (mem.mask place).frozen = false) {other : Nat} (ho : other < mem.maskCount) :
    (mem.set place kind available).2.mask other =
      if other = place then (mem.mask place).mark kind available else mem.mask other := by
  rw [set_unfrozen hf]
  by_cases h : other = place
  · subst h
    rw [if_pos rfl, mask, mask, ← EndpointMask.ofSet_markIn]
    simp only [held, Function.update_self]
  · have hset : (mem.masks other).owned ≠ (mem.masks place).owned :=
      fun he => h (hs.apart other ho place hp he)
    rw [if_neg h]
    simp only [mask, held, Function.update_of_ne hset]

theorem sound_set (hs : mem.Sound) : (mem.set place kind available).2.Sound := by
  cases hf : (mem.mask place).frozen with
  | true =>
    rw [set_frozen hf]
    exact hs
  | false =>
    rw [set_unfrozen hf]
    exact ⟨hs.owned_lt, hs.apart, hs.named_lt, hs.single⟩

end Writing

/-- The memory is sound, and a table shows its masks by their names. -/
structure Shows (mem : MaskMemory) (table : MaskTable) : Prop where
  sound : mem.Sound
  shown : ∀ name, (mem.names.lookup name).map mem.mask = table.lookup name

section Showing

variable {mem mem' : MaskMemory} {table : MaskTable} {name : String} {place : Nat}

theorem Shows.lookup (h : mem.Shows table) (hn : mem.names.lookup name = some place) :
    table.lookup name = some (mem.mask place) := by
  rw [← h.shown, hn, Option.map_some]

theorem Shows.missing (h : mem.Shows table) (hn : mem.names.lookup name = none) :
    table.lookup name = none := by
  rw [← h.shown, hn, Option.map_none]

theorem Shows.spared (h : mem.Shows table) (hk : mem.Spares mem') : mem'.Shows table where
  sound := hk.sound
  shown name := by
    rw [← h.shown, hk.names]
    cases hn : mem.names.lookup name with
    | none => rfl
    | some place => exact congrArg some (hk.kept place (h.sound.named_lt name place hn))

/-- A mask may get a name if it is frozen or has none yet. -/
theorem Shows.called (h : mem.Shows table) (hp : place < mem.maskCount)
    (hf : (mem.mask place).frozen = false → ∀ other, mem.names.lookup other ≠ some place) :
    (mem.call name place).Shows (table.bind name (mem.mask place)) := by
  have hlookup (other : String) : (mem.call name place).names.lookup other =
      if other = name then some place else mem.names.lookup other :=
    Association.lookup_bound name other place mem.names
  refine ⟨⟨h.sound.owned_lt, h.sound.apart, fun other place' ho => ?_,
    fun one other place' h₁ h₂ hf' => ?_⟩, fun other => ?_⟩
  · rw [hlookup] at ho
    split at ho
    · cases ho
      exact hp
    · exact h.sound.named_lt other place' ho
  · rw [hlookup] at h₁ h₂
    split at h₁ <;> split at h₂
    · simp_all
    · cases h₁
      exact absurd h₂ (hf hf' other)
    · cases h₂
      exact absurd h₁ (hf hf' one)
    · exact h.sound.single one other place' h₁ h₂ hf'
  · rw [hlookup, MaskTable.lookup_bind, ← h.shown]
    split <;> rfl

/-- What is written to a mask shows under its name alone. -/
theorem Shows.marked (h : mem.Shows table) (hn : mem.names.lookup name = some place)
    (hf : (mem.mask place).frozen = false) (kind : EndpointKind) (available : Bool) :
    (mem.set place kind available).2.Shows
      (table.bind name ((mem.mask place).mark kind available)) := by
  have hp := h.sound.named_lt name place hn
  have hnames : (mem.set place kind available).2.names = mem.names := by
    rw [set_unfrozen hf]
  refine ⟨sound_set h.sound, fun other => ?_⟩
  rw [hnames, MaskTable.lookup_bind]
  by_cases ho : other = name
  · subst ho
    rw [if_pos rfl, hn, Option.map_some, mask_set h.sound hp hf hp, if_pos rfl]
  · rw [if_neg ho, ← h.shown]
    cases hl : mem.names.lookup other with
    | none => rfl
    | some place' =>
      have hne : place' ≠ place := by
        rintro rfl
        exact ho (h.sound.single other name place' hl hn hf)
      rw [Option.map_some, mask_set h.sound hp hf (h.sound.named_lt other place' hl), if_neg hne,
        Option.map_some]

end Showing

end MaskMemory

end KubeletCollector
