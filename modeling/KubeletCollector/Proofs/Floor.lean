import KubeletCollector.Proofs.Loading
import KubeletCollector.Proofs.Unordered

/-! A time limit is raised to its floor. A comparison with the floor decides, and what is no number
compares with nothing: it stays what it is. So a limit is at least its floor unless a variable names
what is no number. -/

namespace KubeletCollector

open Text

namespace Number

/-- The text names what is no number, in any case of its letters, with a sign and blanks around it or
without. -/
def NamesNaN (cs : List Char) : Prop :=
  (sign (plain cs)).2.map Char.toLower = "nan".toList

instance : DecidablePred NamesNaN :=
  fun cs => inferInstanceAs (Decidable ((sign (plain cs)).2.map Char.toLower = "nan".toList))

section Underscores

variable {previous : Option Char} {cs text : List Char}

theorem withoutUnderscores_eq_self (h : '_' ∉ cs) : withoutUnderscores previous cs = some cs := by
  fun_induction withoutUnderscores previous cs with
  | case1 previous => rfl
  | case2 previous cs d e he hp ih => simp at h
  | case3 previous cs hd => simp at h
  | case4 previous c cs hc ih => simp [ih (fun hm => h (List.mem_cons_of_mem _ hm))]

/-- An underscore stands between digits, so where there are none nothing is taken out. -/
theorem eq_of_withoutUnderscores (h : withoutUnderscores previous cs = some text)
    (hd : ∀ c ∈ text, asciiDigit? c = none) : text = cs := by
  fun_induction withoutUnderscores previous cs generalizing text with
  | case1 previous =>
    cases h
    rfl
  | case2 previous cs d e he hp ih =>
    -- the digit behind the underscore would be in the text
    obtain rfl := ih h hd
    cases text with
    | nil => cases he
    | cons c text => exact absurd ((hd c (List.mem_cons_self ..)).symm.trans he) (by simp)
  | case3 previous cs hp => cases h
  | case4 previous c cs hc ih =>
    obtain ⟨rest, hrest, rfl⟩ := Option.map_eq_some_iff.1 h
    rw [ih hrest fun c hm => hd c (List.mem_cons_of_mem _ hm)]

end Underscores

section Names

theorem mem_of_sign {c : Char} {text : List Char} (h : c ∈ text) :
    c = '-' ∨ c = '+' ∨ c ∈ (sign text).2 := by
  unfold sign
  split
  · rcases List.mem_cons.1 h with rfl | h
    · exact .inl rfl
    · exact .inr (.inr h)
  · rcases List.mem_cons.1 h with rfl | h
    · exact .inr (.inl rfl)
    · exact .inr (.inr h)
  · exact .inr (.inr h)

theorem noDigit_of_isAlpha {c : Char} (h : c.isAlpha = true) :
    asciiDigit? c = none ∧ c ≠ '_' := by
  refine ⟨?_, by rintro rfl; exact absurd h (by decide)⟩
  rw [asciiDigit?, if_neg]
  rintro ⟨-, hlt⟩
  rcases Bool.or_eq_true_iff.1 h with h | h
  · have hupper : 65 ≤ c.toNat := (of_decide_eq_true h).1
    omega
  · have hlower : 97 ≤ c.toNat := of_decide_eq_true (Bool.and_eq_true_iff.1 h).1
    omega

theorem isAlpha_of_toLower {c : Char} (h : c.toLower.isAlpha = true) : c.isAlpha = true := by
  by_cases hu : 65 ≤ c.val ∧ c.val ≤ 90
  · exact Bool.or_eq_true_iff.2 (Or.inl (decide_eq_true hu))
  · have hsame : c.toLower = c := dif_neg hu
    rwa [hsame] at h

/-- No letter of the name is a digit or an underscore, nor is a sign in front of it. -/
theorem noDigit_of_names {c : Char} {text : List Char}
    (h : (sign text).2.map Char.toLower = "nan".toList) (hc : c ∈ text) :
    asciiDigit? c = none ∧ c ≠ '_' := by
  have hletters : "nan".toList.all Char.isAlpha = true := by decide +kernel
  rcases mem_of_sign hc with rfl | rfl | hc
  · decide
  · decide
  · have hname := List.all_eq_true.1 hletters c.toLower (h ▸ List.mem_map_of_mem hc)
    exact noDigit_of_isAlpha (isAlpha_of_toLower hname)

end Names

/-- Of the names and the digits that are read, one name is that of no number. -/
theorem isNaN_unsigned {cs : List Char} {x : Float}
    (h : ((named? cs).orElse fun _ => unsignedDecimal? cs) = some x) :
    x.isNaN = true ↔ cs.map Char.toLower = "nan".toList := by
  unfold named? at h
  simp only [← String.toList_inj, String.toList_ofList] at h
  split at h
  · rename_i hinf
    cases h
    have hother : ¬ cs.map Char.toLower = "nan".toList := by
      rcases hinf with hinf | hinf <;> rw [hinf] <;> decide +kernel
    exact iff_of_false (by decide +kernel) hother
  split at h
  · rename_i hnan
    cases h
    exact iff_of_true (by decide +kernel) hnan
  · rename_i hnan
    exact iff_of_false (Bool.eq_false_iff.1 (isNaN_unsignedDecimal h)) hnan

/-- A text is read as no number exactly if it names it. -/
theorem isNaN_readDecimal {cs : List Char} {x : Float} (h : readDecimal? cs = some x) :
    x.isNaN = true ↔ NamesNaN cs := by
  obtain ⟨text, htext, h⟩ := Option.bind_eq_some_iff.1 h
  obtain ⟨y, hy, h⟩ := Option.bind_eq_some_iff.1 h
  have hsigned : x.isNaN = y.isNaN := by
    cases h
    exact isNaN_signed ..
  rw [hsigned, isNaN_unsigned hy, NamesNaN]
  constructor
  · intro hnan
    rwa [← eq_of_withoutUnderscores htext fun c hc => (noDigit_of_names hnan hc).1]
  · intro hnan
    have hplain : '_' ∉ plain cs := fun hm => (noDigit_of_names hnan hm).2 rfl
    rw [withoutUnderscores_eq_self hplain] at htext
    rwa [← Option.some.inj htext]

end Number

namespace Environment

section Raising

variable {least : Float}

theorem isNaN_raise (hl : least.isNaN = false) (x : Float) :
    (raise (some least) x).isNaN = x.isNaN := by
  unfold raise
  dsimp only
  split
  · rename_i hx
    rw [hl, Number.isNaN_of_lt hx]
  · rfl

theorem le_raise_iff (hl : least.isNaN = false) (x : Float) :
    least ≤ raise (some least) x ↔ x.isNaN = false := by
  constructor
  · intro h
    rw [← isNaN_raise hl x]
    exact Number.isNaN_of_le h
  · intro hx
    unfold raise
    dsimp only
    split
    · exact Number.le_of_not_lt hl hl (Number.lt_irrefl least)
    · exact Number.le_of_not_lt hl hx ‹_›

end Raising

/-- The variable for `key` is set and names what is no number. -/
def NamesNaN (env : Environment) (key : String) : Prop :=
  ∃ value, env.get? key = some value ∧ Number.NamesNaN value.toList

/-- How a time limit stands to its floor: it is no number where the variable names that, and is at
least its floor everywhere else. -/
structure Floored (env : Environment) (key : String) (least limit : Float) : Prop where
  unordered : limit.isNaN = true ↔ env.NamesNaN key
  least_le : least ≤ limit ↔ ¬ env.NamesNaN key

theorem floored_of_decimal {env : Environment} {key : String} {default least limit : Float}
    (hd : default.isNaN = false) (hl : least.isNaN = false)
    (h : env.decimal key default (some least) = .ok limit) : Floored env key least limit := by
  obtain ⟨given, rfl, hgiven⟩ : ∃ given, limit = raise (some least) given ∧
      (given.isNaN = true ↔ env.NamesNaN key) := by
    unfold decimal at h
    unfold NamesNaN
    cases hv : env.get? key with
    | none =>
      rw [hv] at h
      cases h
      refine ⟨default, rfl, iff_of_false (Bool.eq_false_iff.1 hd) ?_⟩
      rintro ⟨value, hnone, -⟩
      cases hnone
    | some value =>
      simp only [hv] at h
      cases hr : Number.readDecimal? value.toList with
      | none =>
        rw [hr] at h
        cases h
      | some given =>
        rw [hr] at h
        cases h
        refine ⟨given, rfl, (Number.isNaN_readDecimal hr).trans ⟨fun hn => ⟨value, rfl, hn⟩, ?_⟩⟩
        rintro ⟨other, hother, hn⟩
        rwa [Option.some.inj hother]
  refine ⟨by rw [isNaN_raise hl, hgiven], ?_⟩
  rw [le_raise_iff hl, ← hgiven, Bool.not_eq_true]

end Environment

/-- Both time limits of the settings are at least one second, except for one that is set to what is no
number. -/
theorem timeouts_floored {env : Environment} {settings : Settings}
    (h : Settings.load env = .ok settings) :
    env.Floored "PROBE_TIMEOUT" 1.0 settings.kubelet.probeTimeout ∧
      env.Floored "FETCH_TIMEOUT" 1.0 settings.kubelet.fetchTimeout := by
  have hone : (1.0 : Float).isNaN = false := by decide +kernel
  have hloaded := loaded_of_load h
  exact ⟨Environment.floored_of_decimal (by decide +kernel) hone hloaded.probeTimeout,
    Environment.floored_of_decimal (by decide +kernel) hone hloaded.fetchTimeout⟩

namespace Sample

def limited : Environment :=
  [("NODESTATS_PROBE_TIMEOUT", "0_0.5"), ("NODESTATS_FETCH_TIMEOUT", " -NaN ")]

theorem timeouts_floored_limited : ∃ settings, Settings.load limited = .ok settings ∧
    1.0 ≤ settings.kubelet.probeTimeout ∧ settings.kubelet.fetchTimeout.isNaN = true := by
  have hload : (Settings.load limited).toOption.map (fun _ => ()) = some () := by decide +kernel
  obtain ⟨settings, hs, -⟩ := ok_of_toOption hload
  obtain ⟨hprobe, hfetch⟩ := timeouts_floored hs
  refine ⟨settings, hs, hprobe.least_le.2 ?_, hfetch.unordered.2 ⟨" -NaN ", rfl, ?_⟩⟩
  · rintro ⟨value, hvalue, hnan⟩
    cases hvalue
    revert hnan
    decide +kernel
  · decide +kernel

/-- A limit that is no number is not raised to its floor. -/
theorem not_floored_of_nan : ∃ settings,
    Settings.load [("NODESTATS_PROBE_TIMEOUT", "nan")] = .ok settings ∧
      ¬ (1.0 : Float) ≤ settings.kubelet.probeTimeout := by
  have hload : (Settings.load [("NODESTATS_PROBE_TIMEOUT", "nan")]).toOption.map
      (fun settings => decide ((1.0 : Float) ≤ settings.kubelet.probeTimeout)) = some false := by
    decide +kernel
  obtain ⟨settings, hs, hshort⟩ := ok_of_toOption hload
  exact ⟨settings, hs, of_decide_eq_false hshort⟩

end Sample

end KubeletCollector
