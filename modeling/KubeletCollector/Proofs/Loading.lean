import KubeletCollector.Proofs.Extension
import KubeletCollector.Proofs.Outcome
import KubeletCollector.Proofs.Spelling

/-! What loading the settings refuses and what it returns. Nine settings have a reader that may
refuse their value. The first refusal in their order is the error; if there is none, every setting
is within its range or its set. -/

namespace KubeletCollector

open Text Number

/-- The settings whose values may be refused. -/
inductive CheckedSetting where
  | hostUrl
  | probeTimeout
  | fetchTimeout
  | retryLimit
  | pollInterval
  | maxConcurrency
  | port
  | logLevel
  | logFormat
deriving DecidableEq, Repr

def refusalOf {α : Type} : Except SettingError α → Option SettingError
  | .ok _ => none
  | .error cause => some cause

def integerRefusal? (value : String) : Option SettingError :=
  match readInteger value.toList with
  | .ok _ => none
  | .error cause => some (.integer value cause)

def decimalRefusal? (value : String) : Option SettingError :=
  match readDecimal? value.toList with
  | some _ => none
  | none => some (.decimal value)

def urlRefusal? (value : String) : Option SettingError :=
  match Url.split value.toList with
  | .error cause => some (.host (.parts cause))
  | .ok parts =>
    if (parts.scheme = "http".toList ∨ parts.scheme = "https".toList) ∧ parts.authority ≠ [] then
      none
    else some (.host (.refused value.toList))

/-- Why a text is refused that has to be one of `names`, in any case of its letters. -/
def nameRefusal? (names : List String) (refusal : String → SettingError) (value : String) :
    Option SettingError :=
  if value.toLower ∈ names then none else some (refusal value)

def levelNames : List String := ["debug", "info", "warning", "error"]

def formatNames : List String := ["json", "console"]

namespace CheckedSetting

def order : List CheckedSetting :=
  [.hostUrl, .probeTimeout, .fetchTimeout, .retryLimit, .pollInterval, .maxConcurrency, .port,
   .logLevel, .logFormat]

theorem mem_order (setting : CheckedSetting) : setting ∈ order := by
  cases setting <;> decide

/-- Why the environment's value for a setting is refused, if it is. A variable that is not set is
never refused; where the URL of the server is not set, the one that a pod sees is looked at. -/
def refusal? (env : Environment) : CheckedSetting → Option SettingError
  | .hostUrl => urlRefusal? (env.text "CLUSTER_HOST_URL" (defaultHostUrl env))
  | .probeTimeout => (env.get? "PROBE_TIMEOUT").bind decimalRefusal?
  | .fetchTimeout => (env.get? "FETCH_TIMEOUT").bind decimalRefusal?
  | .retryLimit => (env.get? "COLLECTION_RETRY_LIMIT").bind integerRefusal?
  | .pollInterval => (env.get? "POLL_INTERVAL").bind integerRefusal?
  | .maxConcurrency => (env.get? "MAX_CONCURRENT_FETCHES").bind integerRefusal?
  | .port => (env.get? "API_PORT").bind integerRefusal?
  | .logLevel => (env.get? "LOG_LEVEL").bind (nameRefusal? levelNames .logLevel)
  | .logFormat => (env.get? "LOG_FORMAT").bind (nameRefusal? formatNames .logFormat)

end CheckedSetting

section Refusing

variable {α β : Type} {env : Environment}

/-- One reader and what is read after it, against one setting and those behind it. -/
theorem refusalOf_bind {x : Except SettingError α} {next : α → Except SettingError β}
    {refusal? : CheckedSetting → Option SettingError} {setting : CheckedSetting}
    {later : List CheckedSetting} (hx : refusalOf x = refusal? setting)
    (h : ∀ a, refusalOf (next a) = later.findSome? refusal?) :
    refusalOf (x >>= next) = (setting :: later).findSome? refusal? := by
  rw [List.findSome?_cons, ← hx]
  cases x with
  | error cause => rfl
  | ok a => exact h a

theorem refusalOf_eq_some {x : Except SettingError α} {cause : SettingError} :
    refusalOf x = some cause ↔ x = .error cause := by
  cases x <;> simp [refusalOf]

theorem refusalOf_eq_none {x : Except SettingError α} : refusalOf x = none ↔ ∃ a, x = .ok a := by
  cases x <;> simp [refusalOf]

theorem refusalOf_integer {default : Int} (hd : digitCount default ≤ digitLimit) (key : String)
    (least greatest : Option Int) :
    refusalOf (env.integer key default least greatest) = (env.get? key).bind integerRefusal? := by
  unfold integerRefusal?
  cases hv : env.get? key with
  | none =>
    rw [Environment.integer_unset hd hv]
    rfl
  | some value =>
    rw [Environment.integer_set hd hv, Option.bind_some]
    cases readInteger value.toList <;> rfl

theorem refusalOf_decimal (key : String) (default : Float) (least : Option Float) :
    refusalOf (env.decimal key default least) = (env.get? key).bind decimalRefusal? := by
  unfold Environment.decimal decimalRefusal?
  cases env.get? key with
  | none => rfl
  | some value =>
    simp only [Option.bind_some]
    cases readDecimal? value.toList <;> rfl

theorem isWebScheme_iff {scheme : List Char} :
    Url.isWebScheme scheme = true ↔ scheme = "http".toList ∨ scheme = "https".toList := by
  simp [Url.isWebScheme]

theorem refusalOf_hostUrl (value : String) : refusalOf (hostUrl value) = urlRefusal? value := by
  unfold hostUrl Url.host urlRefusal?
  cases Url.split value.toList with
  | error cause => rfl
  | ok parts =>
    have hbase : (Url.isWebScheme parts.scheme && !parts.authority.isEmpty) = true ↔
        (parts.scheme = "http".toList ∨ parts.scheme = "https".toList) ∧
          parts.authority ≠ [] := by
      simp [isWebScheme_iff]
    by_cases hc : (Url.isWebScheme parts.scheme && !parts.authority.isEmpty) = true
    · simp only [if_pos hc, if_pos (hbase.1 hc)]
      rfl
    · simp only [if_neg hc, if_neg (mt hbase.2 hc)]
      rfl

theorem refusalOf_name (names : List String) (refusal : String → SettingError) (value : String) :
    refusalOf (if names.contains value.toLower then .ok value.toLower else .error (refusal value)) =
      nameRefusal? names refusal value := by
  unfold nameRefusal?
  simp only [List.contains_iff_mem]
  split <;> rfl

/-- A reader of texts with a default that it accepts refuses no more than it refuses of what is
set. -/
theorem refusalOf_text {read : String → Except SettingError String}
    {refusal? : String → Option SettingError} {key default : String}
    (hread : ∀ value, refusalOf (read value) = refusal? value) (h : refusal? default = none) :
    refusalOf (read (env.text key default)) = (env.get? key).bind refusal? := by
  unfold Environment.text
  rw [hread]
  cases env.get? key with
  | none => exact h
  | some value => rfl

end Refusing

/-- Loading refuses what the first of its readers to refuse anything refuses. -/
theorem refusalOf_load (env : Environment) :
    refusalOf (Settings.load env) =
      CheckedSetting.order.findSome? (CheckedSetting.refusal? env) := by
  have hlevel := refusalOf_name levelNames .logLevel
  have hformat := refusalOf_name formatNames .logFormat
  unfold Settings.load CheckedSetting.order
  refine refusalOf_bind (refusalOf_hostUrl _) fun hostUrl => ?_
  refine refusalOf_bind (refusalOf_decimal ..) fun probeTimeout => ?_
  refine refusalOf_bind (refusalOf_decimal ..) fun fetchTimeout => ?_
  refine refusalOf_bind (refusalOf_integer (by decide) ..) fun retryLimit => ?_
  refine refusalOf_bind (refusalOf_integer (by decide) ..) fun pollInterval => ?_
  refine refusalOf_bind (refusalOf_integer (by decide) ..) fun maxConcurrency => ?_
  refine refusalOf_bind (refusalOf_integer (by decide) ..) fun port => ?_
  refine refusalOf_bind (refusalOf_text hlevel (by decide +kernel)) fun level => ?_
  refine refusalOf_bind (refusalOf_text hformat (by decide +kernel)) fun format => ?_
  rfl

/-- What every reader returned when the settings were loaded. -/
structure Loaded (env : Environment) (settings : Settings) : Prop where
  hostUrl :
    hostUrl (env.text "CLUSTER_HOST_URL" (defaultHostUrl env)) = .ok settings.kubelet.hostUrl
  probeTimeout :
    env.decimal "PROBE_TIMEOUT" 30.0 (some 1.0) = .ok settings.kubelet.probeTimeout
  fetchTimeout :
    env.decimal "FETCH_TIMEOUT" 60.0 (some 1.0) = .ok settings.kubelet.fetchTimeout
  retryLimit :
    env.integer "COLLECTION_RETRY_LIMIT" 1 (some 0) (some 10) = .ok settings.collection.retryLimit
  pollInterval :
    env.integer "POLL_INTERVAL" 180 (some 5) none = .ok settings.collection.pollInterval
  maxConcurrency :
    env.integer "MAX_CONCURRENT_FETCHES" 1 (some 1) (some 64) =
      .ok settings.collection.maxConcurrency
  port : env.integer "API_PORT" 8080 (some 1024) (some 65535) = .ok settings.api.port
  level : logLevel (env.text "LOG_LEVEL" "info") = .ok settings.log.level
  format : logFormat (env.text "LOG_FORMAT" "json") = .ok settings.log.format

theorem loaded_of_load {env : Environment} {settings : Settings}
    (h : Settings.load env = .ok settings) : Loaded env settings := by
  unfold Settings.load at h
  obtain ⟨host, hhost, h⟩ := bind_eq_ok.1 h
  obtain ⟨probe, hprobe, h⟩ := bind_eq_ok.1 h
  obtain ⟨fetch, hfetch, h⟩ := bind_eq_ok.1 h
  obtain ⟨limit, hlimit, h⟩ := bind_eq_ok.1 h
  obtain ⟨interval, hinterval, h⟩ := bind_eq_ok.1 h
  obtain ⟨concurrency, hconcurrency, h⟩ := bind_eq_ok.1 h
  obtain ⟨port, hport, h⟩ := bind_eq_ok.1 h
  obtain ⟨level, hlevel, h⟩ := bind_eq_ok.1 h
  obtain ⟨format, hformat, h⟩ := bind_eq_ok.1 h
  cases h
  exact ⟨hhost, hprobe, hfetch, hlimit, hinterval, hconcurrency, hport, hlevel, hformat⟩

section Ranges

def Environment.GivesInteger (env : Environment) (key : String) (default given : Int) : Prop :=
  match env.get? key with
  | none => given = default
  | some value => readInteger value.toList = .ok given

/-- `n` is `given` where that lies between `least` and `greatest`, and else the nearer of the two. -/
structure BroughtBetween (least : Int) (greatest : Option Int) (given n : Int) : Prop where
  least_le : least ≤ n
  le_greatest : ∀ most ∈ greatest, n ≤ most
  kept : least ≤ given → (∀ most ∈ greatest, given ≤ most) → n = given
  raised : given < least → n = least
  lowered : ∀ most ∈ greatest, most < given → n = most

theorem broughtBetween_clamp {least : Int} {greatest : Option Int}
    (h : ∀ most ∈ greatest, least ≤ most) (given : Int) :
    BroughtBetween least greatest given (Environment.clamp (some least) greatest given) := by
  cases greatest with
  | none =>
    simp only [Environment.clamp]
    exact ⟨by omega, by simp, fun hl _ => by omega, fun hl => by omega, by simp⟩
  | some most =>
    have hle := h most rfl
    simp only [Environment.clamp]
    refine ⟨by omega, fun m hm => ?_, fun hl hg => ?_, fun hl => by omega, fun m hm hg => ?_⟩
    · obtain rfl := Option.some.inj hm
      omega
    · have := hg most rfl
      omega
    · obtain rfl := Option.some.inj hm
      omega

theorem broughtBetween_of_integer {env : Environment} {key : String} {default least n : Int}
    {greatest : Option Int} (hd : digitCount default ≤ digitLimit)
    (hg : ∀ most ∈ greatest, least ≤ most)
    (h : env.integer key default (some least) greatest = .ok n) :
    ∃ given, env.GivesInteger key default given ∧ BroughtBetween least greatest given n := by
  unfold Environment.GivesInteger
  cases hv : env.get? key with
  | none =>
    rw [Environment.integer_unset hd hv] at h
    cases h
    exact ⟨default, rfl, broughtBetween_clamp hg default⟩
  | some value =>
    rw [Environment.integer_set hd hv] at h
    cases hr : readInteger value.toList with
    | error cause =>
      rw [hr] at h
      cases h
    | ok given =>
      rw [hr] at h
      cases h
      exact ⟨given, hr, broughtBetween_clamp hg given⟩

end Ranges

/-- `base` is a URL with a web scheme and an authority, without the slashes at its end. -/
structure BaseOf (value base : String) : Prop where
  accepted : ∃ given, Url.split value.toList = .ok given ∧
    (given.scheme = "http".toList ∨ given.scheme = "https".toList) ∧ given.authority ≠ []
  shortened : base = String.ofList (Url.dropEndSlashes value.toList)
  last : '/' ∉ base.toList.getLast?

theorem Url.slash_notMem_last (cs : List Char) : '/' ∉ (dropEndSlashes cs).getLast? := by
  intro h
  have hne : dropEndSlashes cs ≠ [] := List.ne_nil_of_mem (List.mem_of_mem_getLast? h)
  have hlast := List.rdropWhile_last_not (· == '/') cs hne
  rw [List.getLast?_eq_some_getLast hne, Option.mem_some_iff] at h
  exact hlast (beq_iff_eq.2 h)

theorem baseOf_hostUrl {value base : String} (h : hostUrl value = .ok base) :
    BaseOf value base := by
  obtain ⟨given, hgiven, hweb, hauthority, rfl⟩ := hostUrl_eq_ok.1 h
  refine ⟨⟨given, hgiven, isWebScheme_iff.1 hweb, hauthority⟩, rfl, ?_⟩
  rw [String.toList_ofList]
  exact Url.slash_notMem_last _

/-- `name` is what `value` writes in any case, and one of `names`. -/
structure ChosenAmong (names : List String) (value name : String) : Prop where
  lower : name = value.toLower
  mem : name ∈ names

theorem chosenAmong_of_ok {names : List String} {value name : String} {cause : SettingError}
    (h : (if names.contains value.toLower then .ok value.toLower else .error cause) =
      (.ok name : Except SettingError String)) : ChosenAmong names value name := by
  split at h
  · rename_i hmem
    cases h
    exact ⟨rfl, by simpa using hmem⟩
  · cases h

/-- What holds of the settings that an environment gives. -/
structure Validated (env : Environment) (settings : Settings) : Prop where
  hostUrl : BaseOf (env.text "CLUSTER_HOST_URL" (defaultHostUrl env)) settings.kubelet.hostUrl
  retryLimit : ∃ given, env.GivesInteger "COLLECTION_RETRY_LIMIT" 1 given ∧
    BroughtBetween 0 (some 10) given settings.collection.retryLimit
  pollInterval : ∃ given, env.GivesInteger "POLL_INTERVAL" 180 given ∧
    BroughtBetween 5 none given settings.collection.pollInterval
  maxConcurrency : ∃ given, env.GivesInteger "MAX_CONCURRENT_FETCHES" 1 given ∧
    BroughtBetween 1 (some 64) given settings.collection.maxConcurrency
  port : ∃ given, env.GivesInteger "API_PORT" 8080 given ∧
    BroughtBetween 1024 (some 65535) given settings.api.port
  level : ChosenAmong levelNames (env.text "LOG_LEVEL" "info") settings.log.level
  format : ChosenAmong formatNames (env.text "LOG_FORMAT" "json") settings.log.format

theorem Loaded.validated {env : Environment} {settings : Settings} (h : Loaded env settings) :
    Validated env settings where
  hostUrl := baseOf_hostUrl h.hostUrl
  retryLimit := broughtBetween_of_integer (by decide) (by simp) h.retryLimit
  pollInterval := broughtBetween_of_integer (by decide) (by simp) h.pollInterval
  maxConcurrency := broughtBetween_of_integer (by decide) (by simp) h.maxConcurrency
  port := broughtBetween_of_integer (by decide) (by simp) h.port
  level := chosenAmong_of_ok h.level
  format := chosenAmong_of_ok h.format

/-- Loading is refused with the first refusal there is, returns exactly if there is none, and what it
returns lies within its ranges and sets. -/
theorem load_validates (env : Environment) :
    (∀ cause, Settings.load env = .error cause ↔
      CheckedSetting.order.findSome? (CheckedSetting.refusal? env) = some cause) ∧
    ((∃ settings, Settings.load env = .ok settings) ↔
      ∀ setting, CheckedSetting.refusal? env setting = none) ∧
    ∀ settings, Settings.load env = .ok settings → Validated env settings := by
  refine ⟨fun cause => ?_, ?_, fun settings h => (loaded_of_load h).validated⟩
  · rw [← refusalOf_load, refusalOf_eq_some]
  · rw [← refusalOf_eq_none, refusalOf_load, List.findSome?_eq_none_iff]
    exact ⟨fun h setting => h setting setting.mem_order, fun h setting _ => h setting⟩

namespace Sample

/-- The port is refused and not the level, which comes after it. -/
def misread : Environment :=
  [("NODESTATS_LOG_LEVEL", "verbose"), ("NODESTATS_API_PORT", "80 80"),
   ("NODESTATS_MAX_CONCURRENT_FETCHES", "500")]

def overridden : Environment :=
  [("NODESTATS_CLUSTER_HOST_URL", "https://api.example:6443/"),
   ("NODESTATS_MAX_CONCURRENT_FETCHES", "500"), ("NODESTATS_LOG_LEVEL", "DEBUG")]

theorem load_validates_overridden :
    Settings.load misread = .error (.integer "80 80" .malformed) ∧
      ∃ settings, Settings.load overridden = .ok settings ∧ Validated overridden settings ∧
        settings.collection.maxConcurrency = 64 ∧ settings.log.level = "debug" := by
  have hrefused : CheckedSetting.order.findSome? (CheckedSetting.refusal? misread) =
      some (.integer "80 80" .malformed) := by
    decide +kernel
  have hnone : ∀ setting, CheckedSetting.refusal? overridden setting = none := by
    intro setting
    cases setting <;> decide +kernel
  obtain ⟨-, hreturns, hvalidated⟩ := load_validates overridden
  obtain ⟨settings, hs⟩ := hreturns.2 hnone
  have hv := hvalidated settings hs
  refine ⟨((load_validates misread).1 _).2 hrefused, settings, hs, hv, ?_, ?_⟩
  · obtain ⟨given, hgiven, hbrought⟩ := hv.maxConcurrency
    have hread : readInteger "500".toList = .ok 500 := by decide +kernel
    obtain rfl : given = 500 := by
      have hsame : readInteger "500".toList = .ok given := hgiven
      rw [hread] at hsame
      exact (Except.ok.inj hsame).symm
    exact hbrought.lowered 64 rfl (by decide)
  · rw [hv.level.lower]
    decide +kernel

end Sample

end KubeletCollector
