import KubeletCollector.Proofs.Loading

/-! What slashes at the end of a base URL come to: nothing. They are read behind the scheme and the
authority whatever stands in front of them, so a text is judged as it would be without them, and a
base that was accepted loses all of them at once. -/

namespace KubeletCollector

namespace Url

/-- The same refusal, of the text `cs`. -/
def HostError.about (cs : List Char) : HostError → HostError
  | .parts cause => .parts cause
  | .refused _ => .refused cs

section Behind

variable (cs : List Char) (n : Nat)

theorem isLineOrTab_slashes : ∀ c ∈ List.replicate n '/', isLineOrTab c = false := by
  intro c hc
  rw [List.eq_of_mem_replicate hc]
  rfl

theorem clean_slashes :
    clean (cs ++ List.replicate n '/') = clean cs ++ List.replicate n '/' := by
  by_cases hblank : cs.dropWhile (·.toNat ≤ 32) = []
  · -- nothing of the text is left, and the first slash is no blank
    have hkept : (List.replicate n '/').filter (!isLineOrTab ·) = List.replicate n '/' :=
      List.filter_eq_self.2 fun c hc => by simp [isLineOrTab_slashes n c hc]
    have hdrop : (List.replicate n '/').dropWhile (·.toNat ≤ 32) = List.replicate n '/' := by
      cases n <;> rfl
    rw [clean, clean, List.dropWhile_append, hblank, hdrop]
    exact hkept
  · exact clean_append hblank (isLineOrTab_slashes n)

theorem takeScheme_slashes :
    takeScheme (cs ++ List.replicate n '/') =
      ((takeScheme cs).1, (takeScheme cs).2 ++ List.replicate n '/') := by
  by_cases hcolon : ':' ∈ cs
  · obtain ⟨scheme, rest, rfl, hbefore⟩ := List.eq_append_cons_of_mem hcolon
    rw [List.append_assoc, List.cons_append, takeScheme, takeScheme, cut?_cons hbefore,
      cut?_cons hbefore]
    cases scheme with
    | nil => rfl
    | cons s ss =>
      by_cases hs : (s.isAlpha && ss.all isSchemeChar) = true
      · simp only [if_pos hs]
      · simp only [if_neg hs, List.append_assoc, List.cons_append]
  · have hnone : ':' ∉ cs ++ List.replicate n '/' := by
      rw [List.mem_append, List.mem_replicate]
      rintro (h | ⟨-, h⟩)
      · exact hcolon h
      · exact absurd h (by decide)
    rw [takeScheme, takeScheme, cut?_of_notMem hcolon, cut?_of_notMem hnone]

/-- Slashes alone announce an authority without characters, or none. -/
theorem takeAuthority_slashes_nil : (takeAuthority (List.replicate n '/')).1 = [] := by
  rcases n with _ | _ | _ | n <;> rfl

theorem takeAuthority_slashes :
    (takeAuthority (cs ++ List.replicate n '/')).1 = (takeAuthority cs).1 := by
  rcases cs with _ | ⟨a, _ | ⟨b, cs⟩⟩
  · exact takeAuthority_slashes_nil n
  · by_cases ha : a = '/'
    · subst ha
      exact takeAuthority_slashes_nil (n + 1)
    · cases n <;> simp [takeAuthority, ha]
  · by_cases hab : a = '/' ∧ b = '/'
    · obtain ⟨rfl, rfl⟩ := hab
      have hstop : (List.replicate n '/').takeWhile (!endsAuthority ·) = [] := by
        cases n <;> rfl
      simp only [List.cons_append, takeAuthority, List.takeWhile_append, hstop, List.append_nil]
      split
      · rename_i hall
        exact (List.takeWhile_prefix _).eq_of_length hall |>.symm
      · rfl
    · have hnone (ds : List Char) : (takeAuthority (a :: b :: ds)).1 = [] := by
        unfold takeAuthority
        split
        · rename_i heq
          simp only [List.cons.injEq] at heq
          exact absurd ⟨heq.1, heq.2.1⟩ hab
        · rfl
      rw [List.cons_append, List.cons_append, hnone, hnone]

theorem dropEndSlashes_slashes :
    dropEndSlashes (cs ++ List.replicate n '/') = dropEndSlashes cs := by
  have hall : ∀ c ∈ List.replicate n '/', (c == '/') = true := by
    intro c hc
    rw [List.eq_of_mem_replicate hc]
    rfl
  rw [dropEndSlashes, List.reverse_append, List.reverse_replicate,
    List.dropWhile_append_of_pos hall]
  rfl

/-- A text with slashes behind it gives the base that it gives without them, or it is refused for
the same cause. -/
theorem host_slashes :
    host (cs ++ List.replicate n '/') =
      (host cs).mapError (HostError.about (cs ++ List.replicate n '/')) := by
  have hscheme := takeScheme_slashes (clean cs) n
  have hauthority := takeAuthority_slashes (takeScheme (clean cs)).2 n
  rw [host, host, split_eq, split_eq, clean_slashes, hscheme]
  dsimp only
  rw [hauthority]
  cases checkAuthority (takeAuthority (takeScheme (clean cs)).2).1 with
  | error cause => rfl
  | ok _ =>
    simp only [Except.map, partsOf, dropEndSlashes_slashes]
    split <;> rfl

end Behind

/-- A refusal is about the text that was given. -/
theorem about_of_host {cs : List Char} {cause : HostError} (h : host cs = .error cause) :
    cause.about cs = cause := by
  unfold host at h
  split at h
  · cases h
    rfl
  · split at h <;> cases h
    rfl

end Url

/-- The same refusal, of `value`. -/
def SettingError.about (value : String) : SettingError → SettingError
  | .host cause => .host (cause.about value.toList)
  | cause => cause

def withSlashes (value : String) (n : Nat) : String :=
  value ++ String.ofList (List.replicate n '/')

theorem toList_withSlashes (value : String) (n : Nat) :
    (withSlashes value n).toList = value.toList ++ List.replicate n '/' := by
  rw [withSlashes, String.toList_append, String.toList_ofList]

theorem hostUrl_withSlashes (value : String) (n : Nat) :
    hostUrl (withSlashes value n) =
      (hostUrl value).mapError (SettingError.about (withSlashes value n)) := by
  unfold hostUrl
  rw [toList_withSlashes, Url.host_slashes]
  cases Url.host value.toList with
  | ok base => rfl
  | error cause =>
    simp only [Except.mapError, SettingError.about, toList_withSlashes]

theorem about_of_hostUrl {value : String} {cause : SettingError}
    (h : hostUrl value = .error cause) : cause.about value = cause := by
  unfold hostUrl at h
  cases hhost : Url.host value.toList with
  | ok base =>
    rw [hhost] at h
    cases h
  | error refusal =>
    rw [hhost] at h
    cases h
    exact congrArg SettingError.host (Url.about_of_host hhost)

theorem SettingError.about_about (cause : SettingError) (value other : String) :
    (cause.about other).about value = cause.about value := by
  cases cause with
  | host refusal => cases refusal <;> rfl
  | longDefault | integer | decimal | logLevel | logFormat => rfl

/-- What is accepted is its base and slashes behind that. -/
theorem eq_withSlashes_of_hostUrl {value base : String} (h : hostUrl value = .ok base) :
    ∃ n, value = withSlashes base n := by
  obtain ⟨given, -, -, -, rfl⟩ := hostUrl_eq_ok.1 h
  obtain ⟨n, hn⟩ := Url.dropEndSlashes_append value.toList
  refine ⟨n, String.toList_inj.1 ?_⟩
  rw [toList_withSlashes, String.toList_ofList]
  exact hn

/-- The proxy's URLs are the same with slashes behind the server's. -/
theorem proxyUrl_withSlashes (host name : String) (n : Nat) (kind : EndpointKind) :
    proxyUrl (withSlashes host n) name kind = proxyUrl host name kind := by
  rw [proxyUrl, proxyUrl, toList_withSlashes, Url.dropEndSlashes_slashes]

/-- An accepted base URL is what is left of the text without its end slashes, it is accepted as it is,
and it leads to the same endpoints. A text that is refused is refused for the same cause with any
slashes put behind it or taken away from its end. -/
theorem hostUrl_normalises (value : String) :
    (∀ base, hostUrl value = .ok base →
      '/' ∉ base.toList.getLast? ∧
      (∃ n, value = withSlashes base n) ∧
      hostUrl base = .ok base ∧
      ∀ name kind, proxyUrl value name kind = proxyUrl base name kind) ∧
    ∀ cause, hostUrl value = .error cause →
      (∀ n, hostUrl (withSlashes value n) = .error (cause.about (withSlashes value n))) ∧
      ∀ shorter n, value = withSlashes shorter n →
        hostUrl shorter = .error (cause.about shorter) := by
  refine ⟨fun base h => ?_, fun cause h => ⟨fun n => ?_, ?_⟩⟩
  · obtain ⟨n, rfl⟩ := eq_withSlashes_of_hostUrl h
    refine ⟨(baseOf_hostUrl h).last, ⟨n, rfl⟩, ?_, fun name => proxyUrl_withSlashes base name n⟩
    rw [hostUrl_withSlashes] at h
    cases hbase : hostUrl base with
    | ok other =>
      rw [hbase] at h
      exact h
    | error cause =>
      rw [hbase] at h
      cases h
  · rw [hostUrl_withSlashes, h]
    rfl
  · rintro shorter n rfl
    rw [hostUrl_withSlashes] at h
    cases hshorter : hostUrl shorter with
    | ok base =>
      rw [hshorter] at h
      cases h
    | error refusal =>
      rw [hshorter] at h
      cases h
      rw [SettingError.about_about, about_of_hostUrl hshorter]

namespace Sample

/-- An address in brackets behind a blank, and a bracket that is never closed. -/
theorem hostUrl_normalises_bracketed :
    hostUrl " https://[fd00::1]:6443//" = .ok " https://[fd00::1]:6443" ∧
      hostUrl " https://[fd00::1]:6443" = .ok " https://[fd00::1]:6443" ∧
      hostUrl "https://[fd00::1/" = .error (.host (.parts .unbalancedBrackets)) ∧
      hostUrl "https://[fd00::1" = .error (.host (.parts .unbalancedBrackets)) := by
  have hgood : hostUrl " https://[fd00::1]:6443//" = .ok " https://[fd00::1]:6443" := by decide +kernel
  have hbad : hostUrl "https://[fd00::1/" = .error (.host (.parts .unbalancedBrackets)) := by decide +kernel
  have hslash : "https://[fd00::1/" = withSlashes "https://[fd00::1" 1 := by decide +kernel
  exact ⟨hgood, ((hostUrl_normalises _).1 _ hgood).2.2.1, hbad,
    ((hostUrl_normalises _).2 _ hbad).2 _ 1 hslash⟩

end Sample

end KubeletCollector
