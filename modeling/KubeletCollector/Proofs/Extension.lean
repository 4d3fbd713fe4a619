import KubeletCollector.Proofs.Distinct
import KubeletCollector.Settings.Environment
import Mathlib.Data.List.DropRight
import Mathlib.Data.List.TakeWhile

/-! What becomes of a base URL when a path is put behind it. Scheme and authority stay, and what was
behind them stays in front of the path. So the path is asked for exactly if the base has no query and
no fragment: else it ends up in one of them. -/

namespace KubeletCollector.Url

/-- What a text with a scheme and an authority is made of, once it is clean. -/
structure Spells (text scheme authority rest : List Char) : Prop where
  spelling : clean text = scheme ++ ':' :: '/' :: '/' :: (authority ++ rest)
  first : ∃ s ∈ scheme.head?, s.isAlpha = true
  letters : ∀ c ∈ scheme, isSchemeChar c = true
  bounded : ∀ c ∈ authority, endsAuthority c = false
  stops : ∀ c ∈ rest.head?, endsAuthority c = true

section Cutting

variable {sep : Char} {cs more : List Char}

theorem cut?_of_notMem (h : sep ∉ cs) : cut? sep cs = none := by
  have hall : cs.dropWhile (· != sep) = [] := by
    rw [List.dropWhile_eq_nil_iff]
    intro c hc
    simpa using fun he : c = sep => h (he ▸ hc)
  rw [cut?, hall]

theorem cut?_cons (h : sep ∉ cs) : cut? sep (cs ++ sep :: more) = some (cs, more) := by
  have hall : ∀ c ∈ cs, (c != sep) = true := by
    intro c hc
    simpa using fun he : c = sep => h (he ▸ hc)
  rw [cut?, List.dropWhile_append_of_pos hall, List.takeWhile_append_of_pos hall]
  simp

theorem cut_of_notMem (h : sep ∉ cs) : cut sep cs = (cs, []) := by
  rw [cut, cut?_of_notMem h, Option.getD_none]

theorem cut_cons (h : sep ∉ cs) : cut sep (cs ++ sep :: more) = (cs, more) := by
  rw [cut, cut?_cons h, Option.getD_some]

/-- Where there is no `sep` in what is put behind, the cut stays where it was. -/
theorem cut_append_of_mem (h : sep ∈ cs) :
    cut sep (cs ++ more) = ((cut sep cs).1, (cut sep cs).2 ++ more) := by
  obtain ⟨before, after, rfl, hb⟩ := List.eq_append_cons_of_mem h
  rw [cut_cons hb, List.append_assoc, List.cons_append, cut_cons hb]

theorem cut_append_of_notMem (h : sep ∉ cs) (hm : sep ∉ more) :
    cut sep (cs ++ more) = (cs ++ more, []) :=
  cut_of_notMem fun hc => (List.mem_append.1 hc).elim h hm

end Cutting

/-- Cleaning drops no visible character. -/
theorem mem_clean {c : Char} {cs : List Char} (h : 32 < c.toNat) : c ∈ clean cs ↔ c ∈ cs := by
  have hline : isLineOrTab c = false := by
    simp only [isLineOrTab, Bool.or_eq_false_iff, beq_eq_false_iff_ne]
    refine ⟨⟨?_, ?_⟩, ?_⟩ <;> rintro rfl <;> exact absurd h (by decide)
  have hdrop : c ∈ cs.dropWhile (·.toNat ≤ 32) ↔ c ∈ cs := by
    refine ⟨fun hc => (List.dropWhile_sublist _).subset hc, fun hc => ?_⟩
    rw [← List.takeWhile_append_dropWhile (p := (·.toNat ≤ 32)) (l := cs)] at hc
    refine (List.mem_append.1 hc).resolve_left fun ht => ?_
    have := List.mem_takeWhile_imp ht
    simp only [decide_eq_true_eq] at this
    omega
  rw [clean, List.mem_filter, hdrop, hline]
  simp

def partsOf (scheme authority rest : List Char) : Parts where
  scheme
  authority
  path := (cut '?' (cut '#' rest).1).1
  query := (cut '?' (cut '#' rest).1).2
  fragment := (cut '#' rest).2

section Parsing

theorem takeScheme_eq {scheme rest : List Char} (hf : ∃ s ∈ scheme.head?, s.isAlpha = true)
    (hl : ∀ c ∈ scheme, isSchemeChar c = true) :
    takeScheme (scheme ++ ':' :: rest) = (scheme.map Char.toLower, rest) := by
  have hcolon : ':' ∉ scheme := fun h => absurd (hl _ h) (by decide)
  obtain ⟨s, hs, halpha⟩ := hf
  cases scheme with
  | nil => cases hs
  | cons t ss =>
    obtain rfl : t = s := Option.some.inj hs
    have hall : ss.all isSchemeChar = true :=
      List.all_eq_true.2 fun c hc => hl c (List.mem_cons_of_mem _ hc)
    rw [takeScheme, cut?_cons hcolon]
    simp only [halpha, hall, Bool.and_self, ↓reduceIte]

theorem takeScheme_some {cs : List Char} (h : (takeScheme cs).1 ≠ []) :
    ∃ scheme rest, cs = scheme ++ ':' :: rest ∧ (∃ s ∈ scheme.head?, s.isAlpha = true) ∧
      ∀ c ∈ scheme, isSchemeChar c = true := by
  by_cases hcolon : ':' ∈ cs
  · obtain ⟨scheme, rest, rfl, hb⟩ := List.eq_append_cons_of_mem hcolon
    rw [takeScheme, cut?_cons hb] at h
    cases scheme with
    | nil => exact absurd rfl h
    | cons s ss =>
      refine ⟨s :: ss, rest, rfl, ?_⟩
      by_cases hc : (s.isAlpha && ss.all isSchemeChar) = true
      · obtain ⟨halpha, hall⟩ := Bool.and_eq_true_iff.1 hc
        refine ⟨⟨s, rfl, halpha⟩, fun c hc => ?_⟩
        rcases List.mem_cons.1 hc with rfl | hc
        · simp [isSchemeChar, Char.isAlphanum, halpha]
        · exact List.all_eq_true.1 hall c hc
      · simp only [if_neg hc] at h
        exact absurd rfl h
  · rw [takeScheme, cut?_of_notMem hcolon] at h
    exact absurd rfl h

theorem takeAuthority_eq {authority rest : List Char}
    (hb : ∀ c ∈ authority, endsAuthority c = false)
    (hs : ∀ c ∈ rest.head?, endsAuthority c = true) :
    takeAuthority ('/' :: '/' :: (authority ++ rest)) = (authority, rest) := by
  have hall : ∀ c ∈ authority, (!endsAuthority c) = true := fun c hc => by simp [hb c hc]
  rw [takeAuthority, List.takeWhile_append_of_pos hall, List.dropWhile_append_of_pos hall]
  cases rest with
  | nil => simp
  | cons c rest => simp [hs c rfl]

theorem takeAuthority_some {cs : List Char} (h : (takeAuthority cs).1 ≠ []) :
    ∃ authority rest, cs = '/' :: '/' :: (authority ++ rest) ∧
      (∀ c ∈ authority, endsAuthority c = false) ∧ ∀ c ∈ rest.head?, endsAuthority c = true := by
  unfold takeAuthority at h
  split at h
  · rename_i cs
    refine ⟨cs.takeWhile (!endsAuthority ·), cs.dropWhile (!endsAuthority ·),
      by rw [List.takeWhile_append_dropWhile], fun c hc => ?_, fun c hc => ?_⟩
    · simpa using List.mem_takeWhile_imp hc
    · have := List.head?_dropWhile_not (!endsAuthority ·) cs
      rw [Option.mem_def.1 hc] at this
      simpa using this
  · exact absurd rfl h

/-- The parts of a text are read off what it is once it is clean. -/
theorem split_eq (text : List Char) :
    split text =
      let scheme := takeScheme (clean text)
      let authority := takeAuthority scheme.2
      (checkAuthority authority.1).map fun _ => partsOf scheme.1 authority.1 authority.2 := by
  unfold split partsOf
  dsimp only
  cases checkAuthority (takeAuthority (takeScheme (clean text)).2).1 <;> rfl

theorem split_of_spells {text scheme authority rest : List Char}
    (h : Spells text scheme authority rest) :
    split text = (checkAuthority authority).map fun _ =>
      partsOf (scheme.map Char.toLower) authority rest := by
  rw [split_eq, h.spelling, takeScheme_eq h.first h.letters]
  dsimp only
  rw [takeAuthority_eq h.bounded h.stops]

/-- What has a scheme and an authority is spelled from them. -/
theorem spells_of_split {text : List Char} {parts : Parts} (h : split text = .ok parts)
    (hs : parts.scheme ≠ []) (ha : parts.authority ≠ []) :
    ∃ scheme rest, Spells text scheme parts.authority rest ∧
      checkAuthority parts.authority = .ok () ∧
        parts = partsOf (scheme.map Char.toLower) parts.authority rest := by
  have heq := h
  rw [split_eq] at h
  cases hc : checkAuthority (takeAuthority (takeScheme (clean text)).2).1 with
  | error cause =>
    simp only [hc, Except.map] at h
    cases h
  | ok u =>
    simp only [hc, Except.map] at h
    cases h
    obtain ⟨scheme, behind, hclean, hfirst, hletters⟩ := takeScheme_some hs
    rw [hclean, takeScheme_eq hfirst hletters] at ha hc ⊢
    obtain ⟨authority, rest, rfl, hbounded, hstops⟩ := takeAuthority_some ha
    rw [takeAuthority_eq hbounded hstops] at hc ⊢
    exact ⟨scheme, rest, ⟨hclean, hfirst, hletters, hbounded, hstops⟩, hc, rfl⟩

end Parsing

section Slashes

theorem dropEndSlashes_append (cs : List Char) :
    ∃ n, cs = dropEndSlashes cs ++ List.replicate n '/' := by
  refine ⟨(cs.reverse.takeWhile (· == '/')).length, ?_⟩
  have hall : cs.reverse.takeWhile (· == '/') =
      List.replicate (cs.reverse.takeWhile (· == '/')).length '/' :=
    List.eq_replicate_of_mem fun c hc => by simpa using List.mem_takeWhile_imp hc
  rw [← List.reverse_replicate, ← hall, dropEndSlashes, ← List.reverse_append,
    List.takeWhile_append_dropWhile, List.reverse_reverse]

theorem dropEndSlashes_idem (cs : List Char) :
    dropEndSlashes (dropEndSlashes cs) = dropEndSlashes cs :=
  List.rdropWhile_idempotent (· == '/') cs

/-- What ends in something else than a slash loses none of it with the slashes behind it. -/
theorem eq_of_append_slashes {a b rest : List Char} {n : Nat} (hb : '/' ∉ b.getLast?)
    (h : a ++ List.replicate n '/' = b ++ rest) :
    ∃ r, a = b ++ r ∧ rest = r ++ List.replicate n '/' := by
  rcases List.append_eq_append_iff.1 h with ⟨c, rfl, hc⟩ | ⟨c, rfl, hc⟩
  · rcases List.eq_nil_or_concat c with rfl | ⟨c, x, rfl⟩
    · exact ⟨[], by simp, by simpa using hc.symm⟩
    · have hx : x ∈ List.replicate n '/' := by simp [hc]
      obtain rfl := List.eq_of_mem_replicate hx
      simp at hb
  · exact ⟨c, rfl, hc⟩

end Slashes

section Behind

variable {text scheme authority rest : List Char}

theorem clean_append {cs more : List Char} (h : cs.dropWhile (·.toNat ≤ 32) ≠ [])
    (hm : ∀ c ∈ more, isLineOrTab c = false) : clean (cs ++ more) = clean cs ++ more := by
  have hkept : more.filter (!isLineOrTab ·) = more :=
    List.filter_eq_self.2 fun c hc => by simp [hm c hc]
  have hdrop : (cs ++ more).dropWhile (·.toNat ≤ 32) = cs.dropWhile (·.toNat ≤ 32) ++ more := by
    rw [List.dropWhile_append, if_neg (by simpa using h)]
  rw [clean, clean, hdrop, List.filter_append, hkept]

/-- The slashes at the end of a text are no part of its scheme and authority. -/
theorem Spells.without (h : Spells text scheme authority rest) (ha : authority ≠ []) :
    ∃ r n, rest = r ++ List.replicate n '/' ∧ Spells (dropEndSlashes text) scheme authority r := by
  obtain ⟨n, hn⟩ := dropEndSlashes_append text
  have hvisible : (dropEndSlashes text).dropWhile (·.toNat ≤ 32) ≠ [] := by
    -- else the text would be nothing but slashes once it is clean, and have no scheme
    intro hnil
    obtain ⟨s, hs, halpha⟩ := h.first
    have hmem : s ∈ clean text := by
      rw [h.spelling]
      exact List.mem_append_left _ (List.mem_of_mem_head? hs)
    rw [clean, hn, List.dropWhile_append, hnil] at hmem
    have hslash := (List.dropWhile_sublist _).subset (List.mem_filter.1 hmem).1
    obtain rfl := List.eq_of_mem_replicate hslash
    exact absurd halpha (by decide)
  have hslashes : ∀ c ∈ List.replicate n '/', isLineOrTab c = false := by
    intro c hc
    rw [List.eq_of_mem_replicate hc]
    rfl
  have hclean : clean (dropEndSlashes text) ++ List.replicate n '/' =
      (scheme ++ ':' :: '/' :: '/' :: authority) ++ rest := by
    rw [← clean_append hvisible hslashes, ← hn, h.spelling]
    simp
  have hlast : '/' ∉ (scheme ++ ':' :: '/' :: '/' :: authority).getLast? := by
    have hsplit : scheme ++ ':' :: '/' :: '/' :: authority =
        (scheme ++ [':', '/', '/']) ++ authority := by simp
    rw [hsplit, List.getLast?_append, List.getLast?_eq_some_getLast ha, Option.some_or]
    intro hslash
    have hin := h.bounded _ (List.getLast_mem ha)
    rw [Option.mem_some_iff.1 hslash] at hin
    exact absurd hin (by decide)
  obtain ⟨r, hr, hrest⟩ := eq_of_append_slashes hlast hclean
  refine ⟨r, n, hrest, ⟨by simpa using hr, h.first, h.letters, h.bounded, fun c hc => ?_⟩⟩
  refine h.stops c ?_
  rw [hrest, List.head?_append, Option.mem_def.1 hc]
  rfl

/-- What is put behind a text comes to stand behind all of it. -/
theorem Spells.append {more : List Char} (h : Spells text scheme authority rest)
    (hm : more.head? = some '/') (hl : ∀ c ∈ more, isLineOrTab c = false) :
    Spells (text ++ more) scheme authority (rest ++ more) where
  spelling := by
    have hvisible : text.dropWhile (·.toNat ≤ 32) ≠ [] := by
      intro hnil
      have hclean := h.spelling
      rw [clean, hnil] at hclean
      simp at hclean
    rw [clean_append hvisible hl, h.spelling]
    simp
  first := h.first
  letters := h.letters
  bounded := h.bounded
  stops := by
    intro c hc
    cases rest with
    | nil =>
      obtain rfl : '/' = c := Option.some.inj (hm.symm.trans hc)
      rfl
    | cons r rest => exact h.stops c hc

/-- What cleaning leaves of a text holds a mark of a query or a fragment behind the authority or
nowhere. -/
theorem Spells.mem_iff (h : Spells text scheme authority rest) {c : Char}
    (hc : c = '?' ∨ c = '#') : c ∈ text ↔ c ∈ rest := by
  have hvisible : 32 < c.toNat := by
    rcases hc with rfl | rfl <;> decide
  have hscheme : c ∉ scheme := by
    intro hm
    have := h.letters c hm
    rcases hc with rfl | rfl <;> exact absurd this (by decide)
  have hauthority : c ∉ authority := by
    intro hm
    have := h.bounded c hm
    rcases hc with rfl | rfl <;> exact absurd this (by decide)
  rw [← mem_clean hvisible, h.spelling]
  rcases hc with rfl | rfl <;> simp [hscheme, hauthority]

end Behind

/-- The parts ask for something that ends in `route`, without a query and a fragment. Parameters
would stand behind a semicolon in the last segment of the path, and there are none either. -/
structure Parts.AsksFor (parts : Parts) (route : List Char) : Prop where
  path : route <:+ parts.path
  parameters : ';' ∉ parts.path.rtakeWhile (· != '/')
  query : parts.query = []
  fragment : parts.fragment = []

section Route

variable {scheme authority rest route : List Char}

/-- Behind a base with a fragment, a route belongs to that fragment. -/
theorem fragment_partsOf (h : '#' ∈ rest) :
    (partsOf scheme authority (rest ++ route)).fragment = (cut '#' rest).2 ++ route := by
  rw [partsOf, cut_append_of_mem h]

/-- Behind a base with a query and no fragment, a route belongs to that query. -/
theorem query_partsOf (hf : '#' ∉ route) (hn : '#' ∉ rest) (h : '?' ∈ rest) :
    (partsOf scheme authority (rest ++ route)).query = (cut '?' rest).2 ++ route := by
  rw [partsOf, cut_append_of_notMem hn hf, cut_append_of_mem h]

/-- What is put in front of a text with a slash does not change its last segment. -/
theorem rtakeWhile_append_of_slash (hs : '/' ∈ route) :
    (rest ++ route).rtakeWhile (· != '/') = route.rtakeWhile (· != '/') := by
  have hshort : (route.reverse.takeWhile (· != '/')).length ≠ route.reverse.length := by
    intro hlen
    have hall := (List.takeWhile_prefix _).eq_of_length hlen
    rw [List.takeWhile_eq_self_iff] at hall
    exact absurd (hall '/' (List.mem_reverse.2 hs)) (by decide)
  rw [List.rtakeWhile, List.rtakeWhile, List.reverse_append, List.takeWhile_append, if_neg hshort]

theorem asksFor_partsOf (hs : '/' ∈ route) (hp : ';' ∉ route.rtakeWhile (· != '/'))
    (hq : '?' ∉ route) (hf : '#' ∉ route) (hn : '?' ∉ rest ∧ '#' ∉ rest) :
    (partsOf scheme authority (rest ++ route)).AsksFor route := by
  rw [partsOf, cut_append_of_notMem hn.2 hf, cut_append_of_notMem hn.1 hq]
  exact ⟨List.suffix_append rest route, by rwa [rtakeWhile_append_of_slash hs], rfl, rfl⟩

/-- A route behind a base is asked for exactly if no query and no fragment begins in the base. -/
theorem asksFor_iff (hs : '/' ∈ route) (hp : ';' ∉ route.rtakeWhile (· != '/'))
    (hq : '?' ∉ route) (hf : '#' ∉ route) :
    (partsOf scheme authority (rest ++ route)).AsksFor route ↔ '?' ∉ rest ∧ '#' ∉ rest := by
  have hne : route ≠ [] := List.ne_nil_of_mem hs
  refine ⟨fun h => ?_, asksFor_partsOf hs hp hq hf⟩
  have hfragment : '#' ∉ rest := by
    intro hm
    have hnil := h.fragment
    rw [fragment_partsOf hm] at hnil
    exact hne (List.append_eq_nil_iff.1 hnil).2
  refine ⟨fun hm => ?_, hfragment⟩
  have hnil := h.query
  rw [query_partsOf hf hfragment hm] at hnil
  exact hne (List.append_eq_nil_iff.1 hnil).2

end Route

end KubeletCollector.Url

namespace KubeletCollector

def nodeRoute (name : String) (kind : EndpointKind) : String :=
  "/api/v1/nodes/" ++ name ++ "/proxy" ++ kind.route

theorem toList_nodeRoute (name : String) (kind : EndpointKind) :
    (nodeRoute name kind).toList =
      "/api/v1/nodes/".toList ++ (name.toList ++ "/proxy".toList ++ kind.route.toList) := by
  change ("/api/v1/nodes/" ++ name ++ "/proxy" ++ kind.route).toList = _
  simp only [String.toList_append, List.append_assoc]

/-- A name that stays what it is in a path: it holds no tab, no line end and no mark of a query or a
fragment. Nodes are named by letters, digits, dots and hyphens. -/
def KeepsInPath (name : String) : Prop :=
  ∀ c ∈ name.toList, Url.isLineOrTab c = false ∧ c ≠ '?' ∧ c ≠ '#'

instance (name : String) : Decidable (KeepsInPath name) :=
  List.decidableBAll (fun c => Url.isLineOrTab c = false ∧ c ≠ '?' ∧ c ≠ '#') name.toList

theorem head?_nodeRoute (name : String) (kind : EndpointKind) :
    (nodeRoute name kind).toList.head? = some '/' := by
  have hslash : "/api/v1/nodes/".toList.head? = some '/' := by decide +kernel
  rw [toList_nodeRoute, List.head?_append, hslash]
  rfl

theorem mem_nodeRoute {name : String} (hn : KeepsInPath name) {kind : EndpointKind} {c : Char}
    (h : c ∈ (nodeRoute name kind).toList) : Url.isLineOrTab c = false ∧ c ≠ '?' ∧ c ≠ '#' := by
  have hnodes : KeepsInPath "/api/v1/nodes/" := by decide +kernel
  have hproxy : KeepsInPath "/proxy" := by decide +kernel
  have hroute : KeepsInPath kind.route := by
    cases kind <;> decide +kernel
  simp only [toList_nodeRoute, List.mem_append] at h
  rcases h with h | (h | h) | h
  · exact hnodes c h
  · exact hn c h
  · exact hproxy c h
  · exact hroute c h

theorem semicolon_notMem_nodeRoute (name : String) (kind : EndpointKind) :
    ';' ∉ (nodeRoute name kind).toList.rtakeWhile (· != '/') := by
  have hslash : '/' ∈ kind.route.toList := by
    cases kind <;> decide +kernel
  rw [toList_nodeRoute, ← List.append_assoc, Url.rtakeWhile_append_of_slash hslash]
  cases kind <;> decide +kernel

/-- What is accepted as a base URL has a web scheme and an authority, and it loses its end slashes. -/
theorem hostUrl_eq_ok {value base : String} : hostUrl value = .ok base ↔
    ∃ given, Url.split value.toList = .ok given ∧ Url.isWebScheme given.scheme = true ∧
      given.authority ≠ [] ∧ base = String.ofList (Url.dropEndSlashes value.toList) := by
  unfold hostUrl Url.host
  cases hs : Url.split value.toList with
  | error cause => simp
  | ok given =>
    by_cases hg : (Url.isWebScheme given.scheme && !given.authority.isEmpty) = true
    · have hgood : Url.isWebScheme given.scheme = true ∧ given.authority ≠ [] := by
        simpa using hg
      simp only [if_pos hg, Except.ok.injEq]
      constructor
      · rintro rfl
        exact ⟨given, rfl, hgood.1, hgood.2, rfl⟩
      · rintro ⟨other, -, -, -, rfl⟩
        rfl
    · have hbad : Url.isWebScheme given.scheme = true → given.authority = [] := by
        simpa using hg
      simp only [if_neg hg, reduceCtorEq, false_iff]
      rintro ⟨other, hother, hweb, hne, -⟩
      cases hother
      exact hne (hbad hweb)

/-- What the proxy's URL of a node comes to at a server with an accepted URL: it has the scheme and
the authority that were given, and it asks for the endpoint of the node exactly if neither a query
nor a fragment was given. The endpoint belongs to the fragment if there is one, and else to the
query. -/
theorem proxyUrl_parts {value base name : String} (h : hostUrl value = .ok base)
    (hn : KeepsInPath name) (kind : EndpointKind) :
    ∃ given parts, Url.split value.toList = .ok given ∧
      Url.isWebScheme given.scheme = true ∧ given.authority ≠ [] ∧
      Url.split (proxyUrl base name kind).toList = .ok parts ∧
      parts.scheme = given.scheme ∧ parts.authority = given.authority ∧
      (parts.AsksFor (nodeRoute name kind).toList ↔ '?' ∉ value.toList ∧ '#' ∉ value.toList) ∧
      ('#' ∈ value.toList → (nodeRoute name kind).toList <:+ parts.fragment) ∧
      ('#' ∉ value.toList → '?' ∈ value.toList → (nodeRoute name kind).toList <:+ parts.query) := by
  obtain ⟨given, hgiven, hweb, hauthority, rfl⟩ := hostUrl_eq_ok.1 h
  have hscheme : given.scheme ≠ [] := by
    intro hnil
    rw [hnil] at hweb
    exact absurd hweb (by decide)
  obtain ⟨scheme, rest, hspells, hcheck, hparts⟩ := Url.spells_of_split hgiven hscheme hauthority
  obtain ⟨r, n, rfl, hbase⟩ := hspells.without hauthority
  have hstart := head?_nodeRoute name kind
  have hurl := hbase.append hstart fun c hc => (mem_nodeRoute hn hc).1
  have htext : (proxyUrl (String.ofList (Url.dropEndSlashes value.toList)) name kind).toList =
      Url.dropEndSlashes value.toList ++ (nodeRoute name kind).toList := by
    rw [toList_proxyUrl, String.toList_ofList, Url.dropEndSlashes_idem, toList_nodeRoute]
    simp only [List.append_assoc]
  have hmem {c : Char} (hc : c = '?' ∨ c = '#') : c ∈ value.toList ↔ c ∈ r := by
    rw [hspells.mem_iff hc, List.mem_append]
    rcases hc with rfl | rfl <;> simp
  have hq : '?' ∉ (nodeRoute name kind).toList := fun hc => (mem_nodeRoute hn hc).2.1 rfl
  have hf : '#' ∉ (nodeRoute name kind).toList := fun hc => (mem_nodeRoute hn hc).2.2 rfl
  refine ⟨given,
    Url.partsOf (scheme.map Char.toLower) given.authority (r ++ (nodeRoute name kind).toList),
    hgiven, hweb, hauthority, ?_, ?_, rfl, ?_, fun hm => ?_, fun hm hm' => ?_⟩
  · rw [htext, Url.split_of_spells hurl, hcheck]
    rfl
  · rw [hparts]
    rfl
  · rw [hmem (.inl rfl), hmem (.inr rfl)]
    exact Url.asksFor_iff (List.mem_of_mem_head? hstart)
      (semicolon_notMem_nodeRoute name kind) hq hf
  · rw [Url.fragment_partsOf ((hmem (.inr rfl)).1 hm)]
    exact List.suffix_append _ _
  · rw [Url.query_partsOf hf (fun hc => hm ((hmem (.inr rfl)).2 hc)) ((hmem (.inl rfl)).1 hm')]
    exact List.suffix_append _ _

namespace Sample

theorem proxyUrl_parts_of_slash :
    hostUrl "https://api.example:6443/" = .ok "https://api.example:6443" ∧
      KeepsInPath "node-1.b" ∧
        ∃ parts, Url.split (proxyUrl "https://api.example:6443" "node-1.b" .container).toList =
            .ok parts ∧
          parts.authority = "api.example:6443".toList ∧
            parts.AsksFor (nodeRoute "node-1.b" .container).toList := by
  have hbase : hostUrl "https://api.example:6443/" = .ok "https://api.example:6443" := by
    decide +kernel
  have hname : KeepsInPath "node-1.b" := by decide +kernel
  obtain ⟨given, parts, hgiven, -, -, hparts, -, hauthority, hasks, -⟩ :=
    proxyUrl_parts hbase hname .container
  refine ⟨hbase, hname, parts, hparts, ?_, hasks.2 ⟨by decide +kernel, by decide +kernel⟩⟩
  have hsplit : (Url.split "https://api.example:6443/".toList).toOption.map (·.authority) =
      some "api.example:6443".toList := by decide +kernel
  rw [hgiven] at hsplit
  exact hauthority.trans (Option.some.inj hsplit)

/-- A query in the base URL takes in the whole path of the endpoint. -/
theorem query_takes_route :
    hostUrl "http://api?x" = .ok "http://api?x" ∧ KeepsInPath "a" ∧
      ∃ parts, Url.split (proxyUrl "http://api?x" "a" .summary).toList = .ok parts ∧
        parts.path = [] ∧ parts.query = "x/api/v1/nodes/a/proxy/stats/summary".toList ∧
          ¬ parts.AsksFor (nodeRoute "a" .summary).toList := by
  have hname : KeepsInPath "a" := by decide +kernel
  refine ⟨by decide +kernel, hname, ⟨"http".toList, "api".toList, [],
    "x/api/v1/nodes/a/proxy/stats/summary".toList, []⟩, by decide +kernel, rfl, rfl, fun h => ?_⟩
  exact absurd h.query (by decide +kernel)

end Sample

end KubeletCollector
