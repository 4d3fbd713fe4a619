import KubeletCollector.Number.Decimal

/-! Which 64-bit numbers compare with nothing. It is the one value that is no number, and no digits
are read as it: rounding does not give it, nor do a product with and a quotient by what is neither
zero nor infinite. -/

namespace KubeletCollector.Number

open Float.Model Float.Model.UnpackedFloat

section Packing

theorem isNaN_unpack {spec : Format} {b : BitVec spec.numBits} :
    (UnpackedFloat.unpack spec b).isNaN = true ↔
      unpackExponent b = -1#_ ∧ unpackMantissa b ≠ 0#_ := by
  unfold UnpackedFloat.unpack
  dsimp only
  by_cases he : unpackExponent b = -1#_
  · rw [if_pos he]
    by_cases hm : unpackMantissa b = 0#_
    · rw [if_pos hm]
      exact iff_of_false Bool.false_ne_true fun h => h.2 hm
    · rw [if_neg hm]
      exact iff_of_true rfl ⟨he, hm⟩
  · have hsmall : ¬ (unpackExponent b = -1#_ ∧ unpackMantissa b ≠ 0#_) := fun h => he h.1
    rw [if_neg he]
    by_cases hz : unpackExponent b = 0#_
    · rw [if_pos hz]
      by_cases hm : unpackMantissa b = 0#_
      · rw [dif_pos hm]
        exact iff_of_false Bool.false_ne_true hsmall
      · rw [dif_neg hm]
        exact iff_of_false Bool.false_ne_true hsmall
    · rw [if_neg hz]
      exact iff_of_false Bool.false_ne_true hsmall

/-- Packing keeps what is no number apart from everything else. -/
theorem isNaN_pack (u : UnpackedFloat) : (Float.Model.pack u).isNaN = u.isNaN := by
  rw [Bool.eq_iff_iff]
  change (UnpackedFloat.unpack Format.binary64 (UnpackedFloat.pack _ u)).isNaN = true ↔ _
  rw [isNaN_unpack]
  fun_cases UnpackedFloat.pack Format.binary64 u with
  | case1 => exact iff_of_true (by decide) rfl
  | case2 s => exact iff_of_false (by simp [packedInfinity]) Bool.false_ne_true
  | case3 s => exact iff_of_false (by simp [packedZero]) Bool.false_ne_true
  | case4 s m e hm biased h => exact iff_of_false (by simp [packedInfinity]) Bool.false_ne_true
  | case5 s m e hm bits biased h₁ h₂ =>
    -- the largest exponent is kept for infinities, so it is not reached
    have hne : BitVec.ofNat 11 biased ≠ -1#11 := by
      have hlt : biased + 1 < 2048 := Nat.lt_of_not_le h₁
      intro heq
      have hlargest : (BitVec.ofNat 11 biased).toNat = 2047 := congrArg BitVec.toNat heq
      rw [BitVec.toNat_ofNat, Nat.mod_eq_of_lt (by omega)] at hlargest
      omega
    rw [unpackExponent_packComponents]
    exact iff_of_false (fun h => hne h.1) Bool.false_ne_true
  | case6 s m e hm bits biased h₁ h₂ => exact iff_of_false (by simp) Bool.false_ne_true

end Packing

section Comparing

theorem compare_eq_none {u v : UnpackedFloat} :
    u.compare v = none ↔ u.isNaN = true ∨ v.isNaN = true := by
  constructor
  · -- of two numbers, the signs alone may already tell
    intro h
    rcases u with s | _ | s | ⟨s, m, e, hm⟩ <;> rcases v with t | _ | t | ⟨t, n, f, hn⟩ <;> first
      | exact Or.inl rfl
      | exact Or.inr rfl
      | (cases s <;> cases t <;> cases h)
  · rintro (h | h)
    · cases u <;> cases h
      rfl
    · cases v <;> cases h
      cases u <;> rfl

theorem swap_sizes (m n : Nat) (e f : Int) :
    (compare f e).then (compare n m) = ((compare e f).then (compare m n)).swap := by
  rw [Ordering.swap_then, ← Std.OrientedOrd.eq_swap, ← Std.OrientedOrd.eq_swap]

theorem compare_swap (u v : UnpackedFloat) : v.compare u = (u.compare v).map Ordering.swap := by
  cases u with
  | notANumber => cases v <;> rfl
  | infinity s =>
    cases v with
    | infinity t => cases s <;> cases t <;> rfl
    | _ => cases s <;> rfl
  | zero s =>
    cases v with
    | infinity t | finite t n f hn => cases t <;> rfl
    | _ => rfl
  | finite s m e hm =>
    cases v with
    | notANumber => rfl
    | infinity t => cases t <;> rfl
    | zero t => cases s <;> rfl
    -- two finite numbers of one sign are told apart by exponent and mantissa
    | finite t n f hn =>
      cases s <;> cases t
      · exact congrArg (fun o => some o.swap) (swap_sizes m n e f)
      · rfl
      · rfl
      · exact congrArg some (swap_sizes m n e f)

theorem lt_iff {x y : Float} :
    x < y ↔ x.toModel.unpack.compare y.toModel.unpack = some .lt := by
  change x.lt y = true ↔ _
  rw [Float.lt, decide_eq_true_eq]
  change x.toModel.unpack.lt y.toModel.unpack = true ↔ _
  rw [UnpackedFloat.lt, beq_iff_eq]

theorem le_iff {x y : Float} :
    x ≤ y ↔ (x.toModel.unpack.compare y.toModel.unpack).any (·.isLE) = true := by
  change x.le y = true ↔ _
  rw [Float.le, decide_eq_true_eq]
  rfl

theorem lt_irrefl (x : Float) : ¬ x < x := by
  intro h
  rw [lt_iff] at h
  have hswap := compare_swap x.toModel.unpack x.toModel.unpack
  rw [h] at hswap
  cases hswap

/-- Two values that are numbers compare one way or the other. -/
theorem le_of_not_lt {x y : Float} (hx : x.isNaN = false) (hy : y.isNaN = false)
    (h : ¬ y < x) : x ≤ y := by
  rw [lt_iff, compare_swap x.toModel.unpack] at h
  rw [le_iff]
  cases ho : x.toModel.unpack.compare y.toModel.unpack with
  | none =>
    rcases compare_eq_none.1 ho with hnan | hnan
    · exact absurd (hx.symm.trans hnan) (by decide)
    · exact absurd (hy.symm.trans hnan) (by decide)
  | some o =>
    rw [ho] at h
    cases o with
    | lt => rfl
    | eq => rfl
    | gt => exact absurd rfl h

theorem isNaN_of_lt {x y : Float} (h : x < y) : x.isNaN = false := by
  refine Bool.eq_false_iff.2 fun hnan => ?_
  rw [lt_iff, compare_eq_none.2 (.inl hnan)] at h
  cases h

/-- What is at least anything is a number. -/
theorem isNaN_of_le {x y : Float} (h : x ≤ y) : y.isNaN = false := by
  refine Bool.eq_false_iff.2 fun hnan => ?_
  rw [le_iff] at h
  rw [compare_eq_none.2 (.inr hnan)] at h
  cases h

end Comparing

section Rounding

variable {spec : Format}

theorem isNaN_dite {c : Prop} [Decidable c] {u : c → UnpackedFloat} {v : ¬ c → UnpackedFloat}
    (hu : ∀ h, (u h).isNaN = false) (hv : ∀ h, (v h).isNaN = false) :
    (if h : c then u h else v h).isNaN = false := by
  by_cases h : c
  · rw [dif_pos h]
    exact hu h
  · rw [dif_neg h]
    exact hv h

theorem isNaN_ite (c : Prop) [Decidable c] {u v : UnpackedFloat} (hu : u.isNaN = false)
    (hv : v.isNaN = false) : (if c then u else v).isNaN = false :=
  isNaN_dite (fun _ => hu) fun _ => hv

theorem isNaN_roundWithAccuracy (s : Sign) (m : Nat) (e : Int) (accuracy : Accuracy) :
    (roundWithAccuracy spec s m e accuracy).isNaN = false := by
  unfold roundWithAccuracy
  exact isNaN_dite (fun _ => rfl) fun _ => rfl

theorem isNaN_normalize (m e : Int) (s : Sign) :
    (UnpackedFloat.normalize spec m e s).isNaN = false := by
  unfold UnpackedFloat.normalize
  split
  · exact isNaN_roundWithAccuracy ..
  · rfl
  · exact isNaN_roundWithAccuracy ..

variable {s : Sign} {m : Nat} {e : Int} {hm : 0 < m}

theorem isNaN_mul_finite (u : UnpackedFloat) :
    (UnpackedFloat.mul spec u (.finite s m e hm)).isNaN = u.isNaN := by
  cases u with
  | infinity s' => rfl
  | notANumber => rfl
  | zero s' => rfl
  | finite s' m' e' hm' => exact isNaN_roundWithAccuracy ..

theorem isNaN_div_finite (u : UnpackedFloat) :
    (UnpackedFloat.div spec u (.finite s m e hm)).isNaN = u.isNaN := by
  cases u with
  | infinity s' => rfl
  | notANumber => rfl
  | zero s' => rfl
  | finite s' m' e' hm' => exact isNaN_roundWithAccuracy ..

theorem isNaN_ofScientific (m : Nat) (e : Int) :
    (UnpackedFloat.ofScientific spec m e).isNaN = false := by
  unfold UnpackedFloat.ofScientific
  refine isNaN_dite (fun _ => rfl) fun _ => ?_
  refine isNaN_ite _ rfl (isNaN_ite _ rfl (isNaN_ite _ ?_ ?_))
  · rw [isNaN_mul_finite]
    rfl
  · rw [isNaN_div_finite]
    rfl

end Rounding

section Reading

theorem isNaN_neg (x : Float) : (-x).isNaN = x.isNaN := by
  change (Float.Model.pack x.toModel.unpack.neg).isNaN = x.toModel.unpack.isNaN
  rw [isNaN_pack]
  cases x.toModel.unpack <;> rfl

theorem isNaN_signed (negative : Bool) (x : Float) :
    (if negative then -x else x).isNaN = x.isNaN := by
  cases negative with
  | false => rfl
  | true => exact isNaN_neg x

def isProper (x : Float) : Bool :=
  match x.toModel.unpack with
  | .finite .. => true
  | _ => false

theorem finite_of_isProper {x : Float} (h : isProper x = true) :
    ∃ s m e hm, x.toModel.unpack = .finite s m e hm := by
  unfold isProper at h
  cases hx : x.toModel.unpack with
  | finite s m e hm => exact ⟨s, m, e, hm, rfl⟩
  | _ =>
    rw [hx] at h
    cases h

theorem isNaN_mul {x y : Float} (h : isProper y = true) : (x * y).isNaN = x.isNaN := by
  change (Float.Model.pack (UnpackedFloat.mul _ x.toModel.unpack y.toModel.unpack)).isNaN = _
  obtain ⟨s, m, e, hm, hy⟩ := finite_of_isProper h
  rw [isNaN_pack, hy, isNaN_mul_finite]
  rfl

theorem isNaN_div {x y : Float} (h : isProper y = true) : (x / y).isNaN = x.isNaN := by
  change (Float.Model.pack (UnpackedFloat.div _ x.toModel.unpack y.toModel.unpack)).isNaN = _
  obtain ⟨s, m, e, hm, hy⟩ := finite_of_isProper h
  rw [isNaN_pack, hy, isNaN_div_finite]
  rfl

theorem isProper_powers : ∀ p ∈ Float.exactlyRepresentablePowersOfTen, isProper p = true := by
  decide +kernel

theorem isNaN_toFloat (n : UInt64) : n.toFloat.isNaN = false := by
  change (Float.Model.pack (UnpackedFloat.ofUInt64 _ n)).isNaN = false
  rw [isNaN_pack]
  exact isNaN_normalize ..

/-- A decimal number is a number, however large or small it is. -/
theorem isNaN_scientific (m : Nat) (negative : Bool) (e : Nat) :
    (Float.ofScientific m negative e).isNaN = false := by
  unfold Float.ofScientific
  split
  · rename_i hsmall
    have hlisted : e < Float.exactlyRepresentablePowersOfTen.size := Nat.lt_succ_of_le hsmall.2
    have hproper := isProper_powers _ (Array.getElem_mem hlisted)
    cases negative with
    | true => exact (isNaN_div hproper).trans (isNaN_toFloat _)
    | false => exact (isNaN_mul hproper).trans (isNaN_toFloat _)
  · change (Float.Model.pack (UnpackedFloat.ofScientific _ m _)).isNaN = false
    rw [isNaN_pack, isNaN_ofScientific]

theorem isNaN_nearest (m : Nat) (scale : Int) : (nearest m scale).isNaN = false := by
  unfold nearest
  split
  · decide +kernel
  dsimp only
  split
  · decide +kernel
  split
  · decide +kernel
  · exact isNaN_scientific ..

theorem isNaN_unsignedDecimal {cs : List Char} {x : Float} (h : unsignedDecimal? cs = some x) :
    x.isNaN = false := by
  unfold unsignedDecimal? at h
  simp only [Option.ite_none_left_eq_some, Option.map_eq_some_iff] at h
  obtain ⟨-, e, -, rfl⟩ := h
  exact isNaN_nearest ..

end Reading

end KubeletCollector.Number
