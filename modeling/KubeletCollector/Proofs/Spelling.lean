import KubeletCollector.Proofs.Distinct
import KubeletCollector.Settings.Environment
import Mathlib.Data.List.Basic
import Mathlib.Data.List.Induction
import Mathlib.Data.List.TakeWhile

/-! How an integer can be spelled: in decimal digits, with zeros in front of them and single underscores
between them, a sign before and blanks around. A text is read as an integer exactly if it spells it, so
an integer that is written is read back, and an integer setting survives its text. -/

namespace KubeletCollector

open Text Number

namespace Number

/-- The text is made of the digits, with one underscore or none between any two of them. -/
inductive Grouped : (digits text : List Char) → Prop
  | last (c : Char) : Grouped [c] [c]
  | next (c : Char) {digits text : List Char} :
      Grouped digits text → Grouped (c :: digits) (c :: text)
  | gap (c : Char) {digits text : List Char} :
      Grouped digits text → Grouped (c :: digits) (c :: '_' :: text)

def blanks : List Char :=
  [' ', '\t', '\n', '\x0b', '\x0c', '\r']

inductive Signed (n : Int) : (front : List Char) → Prop
  | bare : 0 ≤ n → Signed n []
  | plus : 0 ≤ n → Signed n ['+']
  | minus : n ≤ 0 → Signed n ['-']

/-- One of the ways to write `n`: its digits with zeros in front of them make the body. -/
structure Spelling (n : Int) where
  before : List Char
  front : List Char
  zeros : Nat
  body : List Char
  after : List Char
  blank_before : ∀ c ∈ before, c ∈ blanks
  signed : Signed n front
  grouped : Grouped (List.replicate zeros '0' ++ Nat.toDigits 10 n.natAbs) body
  blank_after : ∀ c ∈ after, c ∈ blanks

def Spelling.text {n : Int} (s : Spelling n) : List Char :=
  s.before ++ (s.front ++ s.body) ++ s.after

/-- How many digits are written; an underscore is none. -/
def Spelling.width {n : Int} (s : Spelling n) : Nat :=
  s.zeros + digitCount n

section Digits

variable {c : Char} {d : Nat} {digits text : List Char} {values : List Nat}

theorem isDigit_iff : c.isDigit = true ↔ 48 ≤ c.toNat ∧ c.toNat < 58 := by
  rw [Char.isDigit, Bool.and_eq_true, decide_eq_true_eq, decide_eq_true_eq]
  change 48 ≤ c.toNat ∧ c.toNat ≤ 57 ↔ _
  omega

theorem ne_of_isDigit {e : Char} (h : c.isDigit = true) (he : e.isDigit = false) : c ≠ e := by
  rintro rfl
  rw [h] at he
  cases he

theorem asciiDigit?_eq_some_iff : asciiDigit? c = some d ↔ c.isDigit = true ∧ c.toNat - 48 = d := by
  rw [isDigit_iff, asciiDigit?]
  split
  · rename_i h
    simp [h]
  · rename_i h
    simp [h]

theorem digitRun_digit (h : c.isDigit = true) (text : List Char) :
    digitRun (c :: text) = (moreDigits text).map fun r => ((c.toNat - 48) :: r.1, r.2) := by
  rw [digitRun, asciiDigit?_eq_some_iff.2 ⟨h, rfl⟩]

theorem moreDigits_underscore (text : List Char) : moreDigits ('_' :: text) = digitRun text := by
  cases text <;> rfl

theorem moreDigits_digit (h : c.isDigit = true) (text : List Char) :
    moreDigits (c :: text) = digitRun (c :: text) := by
  have hne : c ≠ '_' := ne_of_isDigit h rfl
  rw [digitRun_digit h, moreDigits.eq_4 c text (fun he _ => hne he) (fun _ _ he _ => hne he),
    asciiDigit?_eq_some_iff.2 ⟨h, rfl⟩]

theorem Grouped.head (h : Grouped digits text) :
    ∃ c rest more, digits = c :: rest ∧ text = c :: more := by
  cases h with
  | last c => exact ⟨c, [], [], rfl, rfl⟩
  | next c h => exact ⟨c, _, _, rfl, rfl⟩
  | gap c h => exact ⟨c, _, _, rfl, rfl⟩

theorem Grouped.ne_nil (h : Grouped digits text) : digits ≠ [] := by
  obtain ⟨c, rest, more, rfl, -⟩ := h.head
  exact List.cons_ne_nil c rest

theorem Grouped.mem (h : Grouped digits text) (hc : c ∈ text) : c = '_' ∨ c ∈ digits := by
  induction h with
  | last e => exact .inr hc
  | next e h ih =>
    rcases List.mem_cons.1 hc with rfl | hc
    · exact .inr List.mem_cons_self
    · exact (ih hc).imp id (List.mem_cons_of_mem _)
  | gap e h ih =>
    rcases List.mem_cons.1 hc with rfl | hc
    · exact .inr List.mem_cons_self
    rcases List.mem_cons.1 hc with rfl | hc
    · exact .inl rfl
    · exact (ih hc).imp id (List.mem_cons_of_mem _)

/-- Digits stand as they are where nothing is put between them. -/
theorem grouped_self (h : digits ≠ []) : Grouped digits digits := by
  induction digits with
  | nil => exact absurd rfl h
  | cons c digits ih =>
    cases digits with
    | nil => exact .last c
    | cons e digits => exact .next c (ih (List.cons_ne_nil e digits))

/-- Grouped digits are read to their end. -/
theorem digitRun_grouped (h : Grouped digits text) (hd : ∀ c ∈ digits, c.isDigit = true) :
    digitRun text = some (digits.map fun c => c.toNat - 48, []) := by
  induction h with
  | last c => exact digitRun_digit (hd c List.mem_cons_self) []
  | next c h ih =>
    obtain ⟨hc, hd⟩ := List.forall_mem_cons.1 hd
    obtain ⟨e, rest, more, rfl, rfl⟩ := h.head
    rw [digitRun_digit hc, moreDigits_digit (hd e List.mem_cons_self), ih hd]
    rfl
  | gap c h ih =>
    obtain ⟨hc, hd⟩ := List.forall_mem_cons.1 hd
    rw [digitRun_digit hc, moreDigits_underscore, ih hd]
    rfl

/-- A digit that is read goes in front of those that are read behind it. -/
theorem grouped_cons (hc : asciiDigit? c = some d)
    (h : (moreDigits text).map (fun r => (d :: r.1, r.2)) = some (values, []))
    (ih : ∀ later, moreDigits text = some (later, []) →
      ∃ digits, Grouped (c :: digits) (c :: text) ∧ (∀ e ∈ digits, e.isDigit = true) ∧
        digits.map (fun e => e.toNat - 48) = later) :
    ∃ digits, Grouped (c :: digits) (c :: text) ∧ (∀ e ∈ c :: digits, e.isDigit = true) ∧
      (c :: digits).map (fun e => e.toNat - 48) = values := by
  obtain ⟨⟨later, rest⟩, hlater, h⟩ := Option.map_eq_some_iff.1 h
  cases h
  obtain ⟨digits, hgrouped, hd, rfl⟩ := ih later hlater
  obtain ⟨hdigit, rfl⟩ := asciiDigit?_eq_some_iff.1 hc
  exact ⟨digits, hgrouped, List.forall_mem_cons.2 ⟨hdigit, hd⟩, rfl⟩

/-- What is read to its end behind a digit is grouped with it. -/
theorem grouped_of_moreDigits (h : moreDigits text = some (values, [])) (c : Char) :
    ∃ digits, Grouped (c :: digits) (c :: text) ∧ (∀ e ∈ digits, e.isDigit = true) ∧
      digits.map (fun e => e.toNat - 48) = values := by
  fun_induction moreDigits text generalizing values c with
  | case1 =>
    cases h
    exact ⟨[], .last c, by simp, rfl⟩
  | case2 => cases h
  | case3 e text d he ih =>
    -- an underscore stands between the two digits
    obtain ⟨digits, hgrouped, hd, hvalues⟩ := grouped_cons he h fun later hlater => ih hlater e
    exact ⟨e :: digits, .gap c hgrouped, hd, hvalues⟩
  | case4 => cases h
  | case5 e text _ _ d he ih =>
    obtain ⟨digits, hgrouped, hd, hvalues⟩ := grouped_cons he h fun later hlater => ih hlater e
    exact ⟨e :: digits, .next c hgrouped, hd, hvalues⟩
  | case6 => cases h

theorem grouped_of_digitRun (h : digitRun text = some (values, [])) :
    ∃ digits, Grouped digits text ∧ (∀ c ∈ digits, c.isDigit = true) ∧
      digits.map (fun c => c.toNat - 48) = values := by
  cases text with
  | nil => cases h
  | cons c text =>
    rw [digitRun] at h
    split at h
    · rename_i d hc
      obtain ⟨digits, hgrouped, hd, hvalues⟩ :=
        grouped_cons hc h fun later hlater => grouped_of_moreDigits hlater c
      exact ⟨c :: digits, hgrouped, hd, hvalues⟩
    · cases h

end Digits

section Values

variable {digits : List Char}

theorem ofDigits_map (digits : List Char) :
    ofDigits (digits.map fun c => c.toNat - 48) = Nat.ofDigitChars 10 digits 0 := by
  rw [Nat.ofDigitChars_eq_foldl, ofDigits, List.foldl_map]
  rfl

theorem isDigit_zeros (zeros m : Nat) :
    ∀ c ∈ List.replicate zeros '0' ++ Nat.toDigits 10 m, c.isDigit = true := by
  intro c hc
  rcases List.mem_append.1 hc with hc | hc
  · rw [List.eq_of_mem_replicate hc]
    rfl
  · exact Nat.isDigit_of_mem_toDigits (by decide) (by decide) hc

theorem ofDigitChars_zeros (zeros m : Nat) :
    Nat.ofDigitChars 10 (List.replicate zeros '0' ++ Nat.toDigits 10 m) 0 = m := by
  rw [Nat.ofDigitChars_append, Nat.ofDigitChars_replicate_zero, Nat.mul_zero,
    Nat.ofDigitChars_ten_toDigits]

theorem toDigits_digit {c : Char} (h : c.isDigit = true) :
    Nat.toDigits 10 (c.toNat - 48) = [c] ∧ c.toNat - 48 < 10 := by
  have hbounds := isDigit_iff.1 h
  have hten : c.toNat - 48 < 10 := by omega
  refine ⟨?_, hten⟩
  rw [Nat.toDigits_of_lt_base hten, List.cons.injEq]
  refine ⟨Char.toNat_inj.1 ?_, rfl⟩
  rw [Nat.toNat_digitChar_of_lt_ten hten]
  omega

/-- Digits are those of their value with zeros in front. -/
theorem eq_zeros_append (hne : digits ≠ []) (h : ∀ c ∈ digits, c.isDigit = true) :
    ∃ zeros, digits =
      List.replicate zeros '0' ++ Nat.toDigits 10 (Nat.ofDigitChars 10 digits 0) := by
  induction digits using List.reverseRecOn with
  | nil => exact absurd rfl hne
  | append_singleton digits c ih =>
    obtain ⟨hd, hc⟩ := List.forall_mem_append.1 h
    obtain ⟨hlast, hten⟩ := toDigits_digit (hc c (List.mem_singleton_self c))
    have hvalue : Nat.ofDigitChars 10 (digits ++ [c]) 0 =
        10 * Nat.ofDigitChars 10 digits 0 + (c.toNat - 48) :=
      Nat.ofDigitChars_append 0
    rw [hvalue]
    by_cases hfirst : digits = []
    · subst hfirst
      exact ⟨0, by rw [Nat.ofDigitChars_nil, Nat.mul_zero, Nat.zero_add, hlast]; rfl⟩
    obtain ⟨zeros, hdigits⟩ := ih hfirst hd
    generalize Nat.ofDigitChars 10 digits 0 = m at hdigits ⊢
    rcases Nat.eq_zero_or_pos m with rfl | hpos
    · -- the digits so far are all zeros, and the last of them is one more in front
      rw [Nat.toDigits_zero, ← List.replicate_succ'] at hdigits
      exact ⟨zeros + 1, by rw [Nat.mul_zero, Nat.zero_add, hlast, ← hdigits]⟩
    · refine ⟨zeros, ?_⟩
      calc digits ++ [c]
        _ = List.replicate zeros '0' ++ (Nat.toDigits 10 m ++ Nat.toDigits 10 (c.toNat - 48)) := by
          rw [hlast, ← List.append_assoc, ← hdigits]
        _ = List.replicate zeros '0' ++ Nat.toDigits 10 (10 * m + (c.toNat - 48)) := by
          rw [Nat.toDigits_append_toDigits (by decide) hpos hten]

/-- Grouped digits are read as their value where there are not too many of them. -/
theorem readNatural_grouped {text : List Char} (h : Grouped digits text)
    (hd : ∀ c ∈ digits, c.isDigit = true) (hlimit : digits.length ≤ digitLimit) :
    readNatural text = .ok (Nat.ofDigitChars 10 digits 0) := by
  rw [readNatural, digitRun_grouped h hd]
  simp only [List.length_map, List.isEmpty_nil, if_true, ofDigits_map,
    if_neg (Nat.not_lt.2 hlimit)]

theorem grouped_of_readNatural {text : List Char} {m : Nat} (h : readNatural text = .ok m) :
    ∃ digits, Grouped digits text ∧ (∀ c ∈ digits, c.isDigit = true) ∧
      digits.length ≤ digitLimit ∧ Nat.ofDigitChars 10 digits 0 = m := by
  unfold readNatural at h
  split at h
  · cases h
  rename_i values rest hrun
  split at h
  · cases h
  rename_i hlimit
  split at h
  · rename_i hrest
    cases h
    obtain rfl := List.isEmpty_iff.1 hrest
    obtain ⟨digits, hgrouped, hd, rfl⟩ := grouped_of_digitRun hrun
    rw [List.length_map] at hlimit
    exact ⟨digits, hgrouped, hd, Nat.not_lt.1 hlimit, (ofDigits_map digits).symm⟩
  · cases h

end Values

section Signs

variable {n : Int} {front : List Char}

/-- A sign is taken off the digits, and gives the integer back that they have the size of. -/
theorem sign_signed (h : Signed n front) {c : Char} (hc : c.isDigit = true) (text : List Char) :
    ∃ negative, sign (front ++ c :: text) = (negative, c :: text) ∧
      (if negative then -(n.natAbs : Int) else n.natAbs) = n := by
  cases h with
  | bare hn =>
    refine ⟨false, ?_, Int.natAbs_of_nonneg hn⟩
    rw [List.nil_append, sign]
    · intro _ he
      exact ne_of_isDigit hc rfl (List.cons.inj he).1
    · intro _ he
      exact ne_of_isDigit hc rfl (List.cons.inj he).1
  | plus hn => exact ⟨false, rfl, Int.natAbs_of_nonneg hn⟩
  | minus hn =>
    refine ⟨true, rfl, ?_⟩
    rw [if_pos rfl, Int.ofNat_natAbs_of_nonpos hn, Int.neg_neg]

theorem Signed.mem (h : Signed n front) {c : Char} (hc : c ∈ front) : c = '-' ∨ c = '+' := by
  cases h with
  | bare => cases hc
  | plus => exact .inr (List.mem_singleton.1 hc)
  | minus => exact .inl (List.mem_singleton.1 hc)

theorem signed_of_sign (text : List Char) (m : Nat) :
    ∃ front, Signed (if (sign text).1 then -(m : Int) else m) front ∧
      text = front ++ (sign text).2 := by
  unfold sign
  split
  · exact ⟨['-'], .minus (by simp), rfl⟩
  · exact ⟨['+'], .plus (by simp), rfl⟩
  · exact ⟨[], .bare (by simp), rfl⟩

end Signs

section Blanks

variable {p : Char → Bool} {before core after : List Char}

theorem dropWhile_core (hb : ∀ c ∈ before, p c = true) (hc : ∀ c ∈ core, p c = false)
    (hne : core ≠ []) (rest : List Char) :
    (before ++ (core ++ rest)).dropWhile p = core ++ rest := by
  rw [List.dropWhile_append_of_pos hb]
  cases core with
  | nil => exact absurd rfl hne
  | cons c core =>
    rw [List.cons_append, List.dropWhile_cons_of_neg]
    simpa using hc c List.mem_cons_self

theorem trim_append (hb : ∀ c ∈ before, p c = true) (hc : ∀ c ∈ core, p c = false)
    (ha : ∀ c ∈ after, p c = true) (hne : core ≠ []) : trim p (before ++ core ++ after) = core := by
  have hend : (after.reverse ++ core.reverse).dropWhile p = core.reverse := by
    have hback := dropWhile_core (fun c h => ha c (List.mem_reverse.1 h))
      (fun c h => hc c (List.mem_reverse.1 h)) (List.reverse_ne_nil_iff.2 hne) []
    rwa [List.append_nil] at hback
  rw [trim, List.append_assoc, dropWhile_core hb hc hne, List.reverse_append, hend,
    List.reverse_reverse]

/-- Trimming takes nothing but what it is told to from the ends. -/
theorem exists_trim (p : Char → Bool) (cs : List Char) :
    ∃ before after, (∀ c ∈ before, p c = true) ∧ (∀ c ∈ after, p c = true) ∧
      cs = before ++ trim p cs ++ after := by
  refine ⟨cs.takeWhile p, ((cs.dropWhile p).reverse.takeWhile p).reverse,
    fun c => List.mem_takeWhile_imp, fun c hc => List.mem_takeWhile_imp (List.mem_reverse.1 hc), ?_⟩
  rw [List.append_assoc, trim, ← List.reverse_append, List.takeWhile_append_dropWhile,
    List.reverse_reverse, List.takeWhile_append_dropWhile]

theorem isAsciiBlank_iff {c : Char} : isAsciiBlank c = true ↔ c ∈ blanks := by
  have hcodes : c ∈ blanks ↔ c.toNat ∈ blanks.map Char.toNat :=
    (List.mem_map_of_injective fun _ _ => Char.toNat_inj.1).symm
  have hlist : blanks.map Char.toNat = [32, 9, 10, 11, 12, 13] := rfl
  rw [hcodes, hlist, isAsciiBlank, inRanges_iff]
  simp only [List.mem_cons, List.not_mem_nil, or_false, exists_eq_or_imp, exists_eq_left]
  omega

end Blanks

namespace Spelling

variable {n : Int}

/-- What can stand between the blanks. -/
theorem mem_core (s : Spelling n) {c : Char} (h : c ∈ s.front ++ s.body) :
    (c = '-' ∨ c = '+') ∨ c = '_' ∨ c.isDigit = true := by
  rcases List.mem_append.1 h with h | h
  · exact .inl (s.signed.mem h)
  · exact .inr ((s.grouped.mem h).imp id (isDigit_zeros s.zeros n.natAbs c))

theorem not_blank (s : Spelling n) : ∀ c ∈ s.front ++ s.body, isAsciiBlank c = false := by
  have hdigits : ∀ c ∈ blanks, c.isDigit = false := by simp [blanks]
  intro c hc
  rcases s.mem_core hc with (rfl | rfl) | rfl | hdigit
  · rfl
  · rfl
  · rfl
  · rw [Bool.eq_false_iff, ne_eq, isAsciiBlank_iff]
    exact fun hblank => ne_of_isDigit hdigit (hdigits c hblank) rfl

theorem ascii_of_mem (s : Spelling n) {c : Char} (h : c ∈ s.text) : c.toNat < 128 := by
  have hblank : ∀ c ∈ blanks, c.toNat < 128 := by simp [blanks]
  rcases List.mem_append.1 h with h | h
  · rcases List.mem_append.1 h with h | h
    · exact hblank c (s.blank_before c h)
    · rcases s.mem_core h with (rfl | rfl) | rfl | hdigit
      · decide
      · decide
      · decide
      · have := isDigit_iff.1 hdigit
        omega
  · exact hblank c (s.blank_after c h)

/-- A spelling holds no digits or blanks of other scripts. -/
theorem map_standIn_text (s : Spelling n) : s.text.map standIn = s.text := by
  have hsame : ∀ c ∈ s.text, standIn c = c := by
    intro c hc
    rw [standIn, if_pos]
    exact decide_eq_true (s.ascii_of_mem hc)
  rw [List.map_congr_left hsame, List.map_id']

/-- The spelling with nothing but the digits, and a minus where there has to be one. -/
def bare (n : Int) : Spelling n where
  before := []
  front := if 0 ≤ n then [] else ['-']
  zeros := 0
  body := Nat.toDigits 10 n.natAbs
  after := []
  blank_before := by simp
  signed := by
    split
    · exact .bare ‹_›
    · exact .minus (by omega)
  grouped := grouped_self Nat.toDigits_ne_nil
  blank_after := by simp

theorem width_bare (n : Int) : (bare n).width = digitCount n :=
  Nat.zero_add _

/-- It is the text of the integer. -/
theorem text_bare (n : Int) : (bare n).text = (toString n).toList := by
  have hbare : (bare n).text = (if 0 ≤ n then [] else ['-']) ++ Nat.toDigits 10 n.natAbs :=
    List.append_nil _
  rw [hbare, toList_toString]
  split
  · have hsize : n.natAbs = n.toNat := by omega
    rw [hsize, List.nil_append]
  · have hsize : n.natAbs = (-n).toNat := by omega
    rw [hsize, List.singleton_append]

end Spelling

section Reading

variable {n : Int} {cs : List Char}

theorem readInteger_eq (cs : List Char) : readInteger cs =
    (readNatural (sign (plain cs)).2).map fun m => if (sign (plain cs)).1 then -(m : Int) else m :=
  rfl

/-- A spelling is read as the integer that it spells, and so is a text with digits or blanks of other
scripts in their places. -/
theorem readInteger_spelled (s : Spelling n) (hlimit : s.width ≤ digitLimit)
    (h : cs.map standIn = s.text) : readInteger cs = .ok n := by
  obtain ⟨c, rest, more, hdigits, htext⟩ := s.grouped.head
  have hd := isDigit_zeros s.zeros n.natAbs
  have hc : c.isDigit = true := hd c (hdigits ▸ List.mem_cons_self)
  have hplain : plain cs = s.front ++ s.body := by
    rw [plain, h]
    refine trim_append (fun c h => isAsciiBlank_iff.2 (s.blank_before c h)) s.not_blank
      (fun c h => isAsciiBlank_iff.2 (s.blank_after c h)) ?_
    rw [htext]
    exact List.append_ne_nil_of_right_ne_nil _ (List.cons_ne_nil c more)
  have hread : readNatural s.body = .ok n.natAbs := by
    rw [readNatural_grouped s.grouped hd, ofDigitChars_zeros]
    rwa [List.length_append, List.length_replicate]
  obtain ⟨negative, hsign, hvalue⟩ := sign_signed s.signed hc more
  rw [readInteger_eq, hplain, htext, hsign, ← htext, hread]
  exact congrArg Except.ok hvalue

/-- What is read as an integer spells it. -/
theorem exists_spelling (h : readInteger cs = .ok n) :
    ∃ s : Spelling n, s.width ≤ digitLimit ∧ s.text = cs.map standIn := by
  rw [readInteger_eq] at h
  cases hm : readNatural (sign (plain cs)).2 with
  | error cause =>
    rw [hm] at h
    cases h
  | ok m =>
    rw [hm] at h
    obtain ⟨front, hsigned, hplain⟩ := signed_of_sign (plain cs) m
    have hn : (if (sign (plain cs)).1 then -(m : Int) else m) = n := Except.ok.inj h
    rw [hn] at hsigned
    have hsize : n.natAbs = m := by
      rw [← hn]
      split <;> simp
    obtain ⟨digits, hgrouped, hd, hlimit, hvalue⟩ := grouped_of_readNatural hm
    obtain ⟨zeros, hdigits⟩ := eq_zeros_append hgrouped.ne_nil hd
    obtain ⟨before, after, hb, ha, hcs⟩ := exists_trim isAsciiBlank (cs.map standIn)
    rw [hvalue, ← hsize] at hdigits
    refine ⟨⟨before, front, zeros, (sign (plain cs)).2, after,
      fun c h => isAsciiBlank_iff.1 (hb c h), hsigned, hdigits ▸ hgrouped,
      fun c h => isAsciiBlank_iff.1 (ha c h)⟩, ?_, ?_⟩
    · rw [hdigits, List.length_append, List.length_replicate] at hlimit
      exact hlimit
    · rw [Spelling.text, ← hplain, hcs]
      rfl

end Reading

end Number

namespace Environment

variable {env : Environment} {key : String} {default : Int} {least greatest : Option Int}

theorem clamp_eq (least greatest : Option Int) (n : Int) :
    clamp least greatest n = greatest.elim id min (least.elim id max n) := by
  cases least <;> cases greatest <;> simp only [clamp, Option.elim_none, Option.elim_some, id_eq] <;>
    omega

theorem integer_set {value : String} (hd : digitCount default ≤ digitLimit)
    (hv : env.get? key = some value) :
    env.integer key default least greatest =
      ((readInteger value.toList).map (clamp least greatest)).mapError (.integer value) := by
  rw [integer, writeInteger?, if_neg (Nat.not_lt.2 hd)]
  simp only [text, hv, Option.getD_some]
  cases readInteger value.toList <;> rfl

/-- A default is read back from its own text. -/
theorem integer_unset (hd : digitCount default ≤ digitLimit) (hv : env.get? key = none) :
    env.integer key default least greatest = .ok (clamp least greatest default) := by
  have hread : readInteger (toString default).toList = .ok default := by
    rw [← Spelling.text_bare]
    refine readInteger_spelled (Spelling.bare default) ?_ (Spelling.map_standIn_text _)
    rwa [Spelling.width_bare]
  rw [integer, writeInteger?, if_neg (Nat.not_lt.2 hd)]
  simp only [text, hv, Option.getD_none, hread]

end Environment

/-- An integer setting survives its text. Where it is not set, it is the default, and where it is set to
a spelling of an integer, it is that integer; whatever else it is set to is refused, unless it becomes a
spelling once the digits and blanks of other scripts are replaced. Each time the integer is raised to
the lower bound first and then lowered to the upper one. -/
theorem integer_survives_text (env : Environment) (key : String) {default : Int}
    (least greatest : Option Int) (hd : digitCount default ≤ digitLimit) :
    (env.get? key = none →
      env.integer key default least greatest =
        .ok (greatest.elim id min (least.elim id max default))) ∧
    (∀ (n : Int) (s : Spelling n), s.width ≤ digitLimit →
      env.get? key = some (String.ofList s.text) →
      env.integer key default least greatest =
        .ok (greatest.elim id min (least.elim id max n))) ∧
    ∀ value m, env.get? key = some value → env.integer key default least greatest = .ok m →
      ∃ (n : Int) (s : Spelling n), s.width ≤ digitLimit ∧ s.text = value.toList.map standIn ∧
        m = greatest.elim id min (least.elim id max n) := by
  simp only [← Environment.clamp_eq]
  refine ⟨fun hv => Environment.integer_unset hd hv, fun n s hlimit hv => ?_, fun value m hv h => ?_⟩
  · rw [Environment.integer_set hd hv, String.toList_ofList,
      readInteger_spelled s hlimit s.map_standIn_text]
    rfl
  · rw [Environment.integer_set hd hv] at h
    cases hread : readInteger value.toList with
    | error cause =>
      rw [hread] at h
      cases h
    | ok n =>
      rw [hread] at h
      obtain ⟨s, hlimit, htext⟩ := exists_spelling hread
      exact ⟨n, s, hlimit, htext, (Except.ok.inj h).symm⟩

namespace Sample

/-- Eighteen, spelled with all that can go with its digits. -/
def padded : Spelling 18 where
  before := ['\t', ' ']
  front := ['+']
  zeros := 2
  body := ['0', '0', '_', '1', '_', '8']
  after := ['\n']
  blank_before := by simp [blanks]
  signed := .plus (by decide)
  grouped := .next '0' (.gap '0' (.gap '1' (.last '8')))
  blank_after := by simp [blanks]

/-- A port below its range, and an interval in digits of another script. -/
def spelled : Environment :=
  [("NODESTATS_API_PORT", "\t +00_1_8\n"), ("NODESTATS_POLL_INTERVAL", "\u0661_\u0668")]

theorem survives_spelled :
    (digitCount 8080 ≤ digitLimit ∧ padded.width ≤ digitLimit) ∧
      spelled.integer "API_PORT" 8080 (some 1024) (some 65535) = .ok 1024 ∧
      spelled.integer "MAX_CONCURRENT_FETCHES" 8080 (some 1) (some 64) = .ok 64 ∧
      ∃ (n : Int) (s : Spelling n), s.text = "1_8".toList ∧ max 5 n = 18 := by
  have hdefault : digitCount 8080 ≤ digitLimit := by decide
  have hwidth : padded.width ≤ digitLimit := by decide
  obtain ⟨-, hset, -⟩ := integer_survives_text spelled "API_PORT" (some 1024) (some 65535) hdefault
  obtain ⟨hunset, -, -⟩ :=
    integer_survives_text spelled "MAX_CONCURRENT_FETCHES" (some 1) (some 64) hdefault
  obtain ⟨-, -, hread⟩ := integer_survives_text spelled "POLL_INTERVAL" (some 5) none hdefault
  obtain ⟨n, s, -, htext, hn⟩ := hread "\u0661_\u0668" 18 (by decide +kernel) (by decide +kernel)
  refine ⟨⟨hdefault, hwidth⟩, hset 18 padded hwidth (by decide +kernel), hunset (by decide +kernel),
    n, s, ?_, hn.symm⟩
  rw [htext]
  decide +kernel

end Sample

end KubeletCollector
