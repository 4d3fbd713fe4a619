import KubeletCollector.Proofs.Attempts
import KubeletCollector.Proofs.Distinct

/-! The course of a pass, fetch by fetch and for replies of any kind: what it puts on record, what
it writes, and where it stops. Each endpoint is told by the script of its line and by what stood at
its place before the pass began, for no other endpoint of the pass asks that line or writes that
place. -/

namespace KubeletCollector

open Text Act

theorem NodeEndpoints.url_inj {endpoints : NodeEndpoints} {kind kind' : EndpointKind} {url : String}
    (h : endpoints.url? kind = some url) (h' : endpoints.url? kind' = some url) : kind = kind' := by
  cases endpoints with
  | direct ip port =>
    cases ip with
    | none => cases h
    | some ip =>
      have he := (Option.some.inj h).trans (Option.some.inj h').symm
      exact (directUrl_inj he).2.2
  | proxy host name =>
    have he := (Option.some.inj h).trans (Option.some.inj h').symm
    exact (proxyUrl_inj he).2

namespace Job

def artifact (job : Job) (kind : EndpointKind) : String :=
  artifactName job.artifactPrefix (nameText job.node) kind

def spot (job : Job) (place : Location) (kind : EndpointKind) : Location :=
  place ++ [job.artifact kind]

/-- The names that a job puts together are names of files. -/
structure Orderly (job : Job) : Prop where
  plain : ∀ kind, PlainName (job.artifact kind)
  clean : ∀ kind, Char.ofNat 0 ∉ (job.artifact kind).toList

variable {job : Job} {client : Client} {endpoints : NodeEndpoints} {o o' : Outside}
  {place : Location} {kind : EndpointKind}

theorem spot_inj {kind kind' : EndpointKind} (h : job.spot place kind = job.spot place kind') :
    kind = kind' :=
  (artifactName_inj (List.cons.inj (List.append_cancel_left h)).1).2

theorem locate_target {tree : FileTree} (ho : tree.Opens job.dir place) (hj : job.Orderly)
    (kind : EndpointKind) :
    tree.locate (job.target kind) =
      if fitsName (job.artifact kind) then .ok (job.spot place kind) else .error .nameTooLong :=
  ho.locate_child (hj.plain kind)

theorem clean_target (hd : job.dir.hasNull = false) (hj : job.Orderly) (kind : EndpointKind) :
    ¬ (job.target kind).hasNull = true := by
  rw [Bool.not_eq_true]
  exact Path.hasNull_child job.dir hd (hj.clean kind)

theorem leads_target {tree : FileTree} (ho : tree.Opens job.dir place) (hj : job.Orderly)
    (hf : fitsName (job.artifact kind) = true) :
    tree.Leads (job.target kind) (job.spot place kind) :=
  ⟨clean_target ho.clean hj kind, by rw [locate_target ho hj, if_pos hf]⟩

def alone (job : Job) (client : Client) (endpoints : NodeEndpoints) (place : Location)
    (kind : EndpointKind) : Scope where
  asks r := ∃ url, endpoints.url? kind = some url ∧ r = (job.download url kind).request client
  writes loc := loc = job.spot place kind

def Unasked (job : Job) (client : Client) (endpoints : NodeEndpoints) (start o : Outside)
    (kind : EndpointKind) : Prop :=
  ∀ url, endpoints.url? kind = some url →
    o.script client.side ((job.download url kind).request client).line =
      start.script client.side ((job.download url kind).request client).line

namespace Unasked

variable {start : Outside} {kinds : List EndpointKind}

/-- Another endpoint of the pass is still answered as it was. -/
theorem alone {kind' : EndpointKind} (hne : kind' ≠ kind)
    (hw : Within (job.alone client endpoints place kind) o o') :
    job.Unasked client endpoints o o' kind' := by
  intro url' hu'
  apply hw.script_unasked
  rintro r ⟨url, hu, rfl⟩ - hl
  obtain rfl : url = url' := url_of_line hl
  exact hne (NodeEndpoints.url_inj hu' hu)

/-- Once the first of some endpoints has been asked, the others are still answered as at the start. -/
theorem rest (hw : Within (job.alone client endpoints place kind) o o')
    (hn : (kind :: kinds).Nodup)
    (h : ∀ other ∈ kind :: kinds, job.Unasked client endpoints start o other) :
    ∀ other ∈ kinds, job.Unasked client endpoints start o' other := by
  intro other hmem url hu
  have hne : other ≠ kind := by
    rintro rfl
    exact (List.nodup_cons.1 hn).1 hmem
  exact (alone hne hw url hu).trans (h other (List.mem_cons_of_mem kind hmem) url hu)

end Unasked

def announced (job : Job) (kind : EndpointKind) (o : Outside) : Outside :=
  { o with log := o.log ++ [⟨.debug, component, "fetching_endpoint",
    [("node", .ofText? job.node), ("endpoint", .text kind.text)]⟩] }

theorem outcome_fetchKind {url : String} (hu : endpoints.url? kind = some url) (o : Outside) :
    (job.fetchKind client endpoints kind).outcome o =
      (((client.fetch (job.download url kind)).outcome (job.announced kind o)).1.map
          fun _ => job.target kind,
        ((client.fetch (job.download url kind)).outcome (job.announced kind o)).2) := by
  unfold fetchKind
  rw [outcome_bind, outcome_log, hu]
  exact outcome_returning _ _ _

/-- Where no directory can hold the artifact, its fetch fails and leaves all as it is. -/
theorem fetch_unfit (client : Client) (ho : o.files.Opens job.dir place) (hj : job.Orderly)
    (hf : fitsName (job.artifact kind) = false) (url : String) :
    ∃ f o', (client.fetch (job.download url kind)).outcome o = (.error f, o') ∧
      o'.files = o.files := by
  have hnowhere (loc : Location) : o.files.locate (job.download url kind).target ≠ .ok loc := by
    rw [show o.files.locate (job.download url kind).target = _ from locate_target ho hj kind,
      if_neg (by simp [hf])]
    exact nofun
  obtain ⟨hfiles, hfails⟩ := Client.fetchFrom_refused hnowhere client client.retries 1 o rfl
  unfold Client.fetch
  rcases hrun : (client.fetchFrom (job.download url kind) client.retries 1).outcome o with
    ⟨f | u, o'⟩ <;> rw [hrun] at hfiles hfails
  · exact ⟨f, o', rfl, hfiles⟩
  · exact hfails.elim

theorem removed_lands (ho : o.files.Opens job.dir place) (hj : job.Orderly)
    (done : List EndpointKind) (hfit : ∀ kind ∈ done, fitsName (job.artifact kind) = true)
    (hd : ∀ kind, o.files.get? (job.spot place kind) ≠ some .directory) :
    ∃ files, ((done.map job.target).forM Act.removeFile).outcome o = (.ok (), { o with files }) ∧
      ∀ kind, files.get? (job.spot place kind) =
        if kind ∈ done then none else o.files.get? (job.spot place kind) := by
  induction done generalizing o with
  | nil => exact ⟨o.files, rfl, fun _ => by simp⟩
  | cons first done ih =>
    obtain ⟨files, hout, hland⟩ :=
      removeFile_lands (leads_target ho hj (hfit first (by simp))) (hd first)
    have hsame := hland.sameDirectories (hd first)
    obtain ⟨files', hrest, hgone⟩ := ih (o := { o with files }) (ho.same hsame)
      (fun kind hk => hfit kind (by simp [hk]))
      (fun kind hk => hd kind ((hsame _).1 hk))
    refine ⟨files', ?_, fun kind => ?_⟩
    · show (Act.removeFile (job.target first) >>= fun _ =>
        (done.map job.target).forM Act.removeFile).outcome o = _
      rw [outcome_bind, hout]
      exact hrest
    · rw [hgone]
      by_cases hk : kind = first
      · subst hk
        simp [hland.here]
      · simp [hk, hland.elsewhere _ fun he => hk (spot_inj he)]

def script (job : Job) (client : Client) (o : Outside) (url : String) (kind : EndpointKind) :
    Nat → Reply :=
  o.script client.side ((job.download url kind).request client).line

/-- How the fetch of an endpoint ends, what it leaves at its place, which held `before`, and what
it puts on record. If no directory can hold the artifact, all that is told is that it fails. -/
inductive Ends (job : Job) (client : Client) (endpoints : NodeEndpoints) (o : Outside)
    (kind : EndpointKind) (before : Option Bytes) :
    Except Fault Unit → Option Bytes → List Event → Prop
  | unaddressed : endpoints.url? kind = none →
      Ends job client endpoints o kind before (.error .addressWithoutValue) before []
  | unfit {url : String} {f : Fault} {events : List Event} : endpoints.url? kind = some url →
      fitsName (job.artifact kind) = false →
      Ends job client endpoints o kind before (.error f) before events
  | asked {url : String} {again : Nat} : endpoints.url? kind = some url →
      fitsName (job.artifact kind) = true →
      Repeats (job.script client o url kind) client.retries again →
      Ends job client endpoints o kind before ((job.script client o url kind again).result url)
        (remaining (job.script client o url kind) again before)
        (client.attempts (job.download url kind) again)

/-- Where a pass stops: the endpoint, the fault of its fetch, and what that leaves at its place. -/
structure Stop where
  kind : EndpointKind
  fault : Fault
  left : Option Bytes

/-- The course of a pass over endpoints: what is put on record, what is written, and where the pass
stops unless it succeeds. -/
inductive Course (job : Job) (client : Client) (endpoints : NodeEndpoints) (o : Outside)
    (before : EndpointKind → Option Bytes) :
    List EndpointKind → List Event → List (EndpointKind × Bytes) → Option Stop → Prop
  | done : Course job client endpoints o before [] [] [] none
  | next {kind : EndpointKind} {kinds : List EndpointKind} {content : Bytes}
      {events more : List Event} {written : List (EndpointKind × Bytes)} {stop : Option Stop} :
      job.Ends client endpoints o kind (before kind) (.ok ()) (some content) events →
      Course job client endpoints o before kinds more written stop →
      Course job client endpoints o before (kind :: kinds) (events ++ more)
        ((kind, content) :: written) stop
  | stop {kind : EndpointKind} {kinds : List EndpointKind} {f : Fault} {left : Option Bytes}
      {events : List Event} :
      job.Ends client endpoints o kind (before kind) (.error f) left events →
      Course job client endpoints o before (kind :: kinds) events [] (some ⟨kind, f, left⟩)

def Stands (job : Job) (place : Location) (contents : EndpointKind → Option Bytes)
    (tree : FileTree) : Prop :=
  ∀ kind, tree.get? (job.spot place kind) = (contents kind).map Entry.file

theorem stands_of_no_directory {tree : FileTree}
    (h : ∀ kind, tree.get? (job.spot place kind) ≠ some .directory) :
    ∃ contents, job.Stands place contents tree :=
  Classical.skolem.1 fun kind => FileTree.content_of_no_directory (h kind)

theorem Ends.congr {before left : Option Bytes} {result : Except Fault Unit} {events : List Event}
    {start : Outside} (h : job.Ends client endpoints o kind before result left events)
    (hs : job.Unasked client endpoints start o kind) :
    job.Ends client endpoints start kind before result left events := by
  cases h with
  | unaddressed hu => exact .unaddressed hu
  | unfit hu hf => exact .unfit hu hf
  | asked hu hf hr =>
    rename_i url again
    have he : job.script client o url kind = job.script client start url kind := hs url hu
    rw [he] at hr ⊢
    exact .asked hu hf hr

/-- A fetch keeps to its scope, whatever it is answered with. -/
theorem fetchKind_alone (client : Client) (endpoints : NodeEndpoints)
    (ho : o.files.Opens job.dir place) (hj : job.Orderly) (kind : EndpointKind) :
    Within (job.alone client endpoints place kind) o
      ((job.fetchKind client endpoints kind).outcome o).2 := by
  have hp : Passes ((job.alone client endpoints place kind).logic o) (fun _ => True) job client
      endpoints [kind] := by
    refine ⟨fun k hk url hu => ?_, fun _ _ _ => trivial⟩
    obtain rfl := List.mem_singleton.1 hk
    refine ⟨⟨url, hu, rfl⟩, fun loc hl => ?_, fun _ => trivial, fun _ _ _ _ => Or.inr (Or.inr trivial)⟩
    have hc := locate_target ho hj k
    rw [show o.files.locate (job.target k) = .ok loc from hl] at hc
    split at hc
    · exact Except.ok.inj hc
    · cases hc
  exact ((hp.fetchKind (List.mem_singleton_self kind)).keeps o (Within.refl _ o)).1

theorem fetchKind_ends (client : Client) (endpoints : NodeEndpoints)
    (ho : o.files.Opens job.dir place) (hj : job.Orderly) {before : Option Bytes}
    (hg : o.files.get? (job.spot place kind) = before.map Entry.file) :
    ∃ result left events o',
      (job.fetchKind client endpoints kind).outcome o =
        (result.map fun _ => job.target kind, o') ∧
      job.Ends client endpoints o kind before result left events ∧
      o'.trace = o.trace ++ events ∧
      FileTree.Landed (job.spot place kind) left o.files o'.files := by
  cases hu : endpoints.url? kind with
  | none =>
    have hout : (job.fetchKind client endpoints kind).outcome o =
        (.error .addressWithoutValue, job.announced kind o) := by
      unfold fetchKind
      rw [outcome_bind, outcome_log, hu]
      rfl
    exact ⟨.error .addressWithoutValue, before, [], _, hout, .unaddressed hu,
      (List.append_nil _).symm, .refl hg⟩
  | some url =>
    cases hf : fitsName (job.artifact kind) with
    | true =>
      obtain ⟨again, o', hrepeats, hout, htrace, hland⟩ :=
        Client.fetchFrom_attempts client (job.download url kind) (o := job.announced kind o)
          client.retries 1 (by decide) (leads_target ho hj hf) hg rfl
      refine ⟨_, _, _, o', ?_, .asked hu hf hrepeats, htrace, hland⟩
      rw [outcome_fetchKind hu, Client.fetch, hout]
      rfl
    | false =>
      obtain ⟨f, o', hout, hfiles⟩ := fetch_unfit client (o := job.announced kind o) ho hj hf url
      obtain ⟨events, htrace⟩ := (fetchKind_alone client endpoints ho hj kind).grows
      rw [outcome_fetchKind hu, hout] at htrace ⊢
      exact ⟨.error f, before, events, o', rfl, .unfit hu hf, htrace.symm, hfiles.symm ▸ .refl hg⟩

theorem Ends.written {before left : Option Bytes} {events : List Event}
    (h : job.Ends client endpoints o kind before (.ok ()) left events) :
    fitsName (job.artifact kind) = true ∧ ∃ content, left = some content := by
  generalize hr : (Except.ok () : Except Fault Unit) = result at h
  cases h with
  | unaddressed => cases hr
  | unfit => cases hr
  | asked hu hf hrepeats =>
    obtain ⟨content, hw⟩ := Reply.whole_of_result hr.symm
    exact ⟨hf, content, remaining_whole hw before⟩

def filed : List (EndpointKind × Bytes) → (EndpointKind → Option Bytes) →
    EndpointKind → Option Bytes
  | [], contents => contents
  | (kind, content) :: written, contents =>
    filed written fun other => if other = kind then some content else contents other

/-- What stands where once a pass has stopped that had fetched `done`: a fault that goes into the
report takes that back. -/
def stopped (done : List EndpointKind) (contents : EndpointKind → Option Bytes) (s : Stop) :
    EndpointKind → Option Bytes :=
  fun kind =>
    if kind = s.kind then s.left
    else if Cycle.isReported s.fault = true ∧ kind ∈ done then none else contents kind

/-- How a pass ends, and what stands where then. -/
def ending (job : Job) (done : List EndpointKind) (contents : EndpointKind → Option Bytes) :
    Option Stop → Except Fault (List Path) × (EndpointKind → Option Bytes)
  | none => (.ok (done.map job.target), contents)
  | some s => (.error s.fault, stopped done contents s)

theorem stop_stands {done : List EndpointKind} {contents : EndpointKind → Option Bytes} {s : Stop}
    (ho : o.files.Opens job.dir place) (hj : job.Orderly)
    (hfits : ∀ kind ∈ done, fitsName (job.artifact kind) = true) (hnot : s.kind ∉ done)
    (hstands : job.Stands place
      (fun kind => if kind = s.kind then s.left else contents kind) o.files)
    (rest : List Path → Act (List Path)) :
    ∃ files, (goOn (done.map job.target) rest (.error s.fault)).outcome o =
        (.error s.fault, { o with files }) ∧
      job.Stands place (stopped done contents s) files := by
  simp only [goOn]
  split
  · rename_i hreported
    have hd (kind : EndpointKind) : o.files.get? (job.spot place kind) ≠ some .directory :=
      FileTree.no_directory (hstands kind)
    obtain ⟨files, hout, hgone⟩ := removed_lands ho hj done hfits hd
    refine ⟨files, ?_, fun kind => ?_⟩
    · rw [outcome_bind, hout]
      rfl
    · unfold stopped
      rw [hgone, hstands]
      by_cases hk : kind = s.kind
      · simp [hk, hnot]
      · by_cases hmem : kind ∈ done <;> simp [hk, hmem, hreported]
  · rename_i hreported
    refine ⟨o.files, rfl, fun kind => ?_⟩
    simp only [stopped, hreported, Bool.false_eq_true, false_and, if_false]
    exact hstands kind

/-- By induction on the endpoints that are left. Those before them are in place, and each of them
finds its line and its place as at the start. -/
theorem passFrom_course (client : Client) (start : Outside)
    (before : EndpointKind → Option Bytes) (kinds done : List EndpointKind)
    {contents : EndpointKind → Option Bytes} (hn : (done ++ kinds).Nodup)
    (ho : o.files.Opens job.dir place) (hj : job.Orderly)
    (hfits : ∀ kind ∈ done, fitsName (job.artifact kind) = true)
    (hsame : ∀ kind ∈ kinds, job.Unasked client endpoints start o kind)
    (hstands : job.Stands place contents o.files)
    (hbefore : ∀ kind ∈ kinds, contents kind = before kind) :
    ∃ events written stop o',
      job.Course client endpoints start before kinds events written stop ∧
      (job.passFrom client endpoints (done.map job.target) kinds).outcome o =
        ((job.ending (done ++ written.map Prod.fst) (filed written contents) stop).1, o') ∧
      o'.trace = o.trace ++ events ∧
      job.Stands place
        (job.ending (done ++ written.map Prod.fst) (filed written contents) stop).2 o'.files := by
  induction kinds generalizing done o contents with
  | nil =>
    refine ⟨[], [], none, o, .done, ?_, (List.append_nil _).symm, hstands⟩
    simp [passFrom, ending]
  | cons kind kinds ih =>
    have hnot : kind ∉ done := fun hd => (List.nodup_append.1 hn).2.2 kind hd kind (by simp) rfl
    have hkind := hsame kind List.mem_cons_self
    obtain ⟨result, left, events, o₁, hout, hends, htrace, hland⟩ :=
      fetchKind_ends client endpoints ho hj (hstands kind)
    have hwithin := fetchKind_alone client endpoints ho hj kind
    rw [hout] at hwithin
    rw [hbefore kind List.mem_cons_self] at hends
    have hstart := hends.congr hkind
    have hstands' : job.Stands place
        (fun other => if other = kind then left else contents other) o₁.files := by
      intro other
      by_cases hk : other = kind
      · simp [hk, hland.here]
      · simp [hk, hland.elsewhere _ fun he => hk (spot_inj he), hstands other]
    rw [passFrom_cons, outcome_bind, outcome_attempt, hout]
    cases result with
    | error f =>
      obtain ⟨files, hgo, hstopped⟩ := stop_stands (s := ⟨kind, f, left⟩) (hwithin.opens ho) hj
        hfits hnot hstands' fun written => job.passFrom client endpoints written kinds
      refine ⟨events, [], some ⟨kind, f, left⟩, { o₁ with files }, .stop hstart, ?_, htrace, ?_⟩
      · simpa [ending, Except.map] using hgo
      · simpa [ending, filed] using hstopped
    | ok u =>
      obtain ⟨hfit, content, rfl⟩ := hstart.written
      have hfits' : ∀ other ∈ done ++ [kind], fitsName (job.artifact other) = true := by
        intro other hmem
        rcases List.mem_append.1 hmem with hmem | hmem
        · exact hfits other hmem
        · exact List.mem_singleton.1 hmem ▸ hfit
      have hnodup := (List.nodup_append.1 hn).2.1
      have hunasked := Unasked.rest hwithin hnodup hsame
      obtain ⟨more, written, stop, o', hcourse, hpass, htrace', hstands''⟩ :=
        ih (done ++ [kind]) (by simpa using hn) (hwithin.opens ho) hfits' hunasked hstands'
          fun other hmem => by
            have hne : other ≠ kind := fun he => (List.nodup_cons.1 hnodup).1 (he ▸ hmem)
            rw [if_neg hne]
            exact hbefore other (List.mem_cons_of_mem kind hmem)
      refine ⟨events ++ more, (kind, content) :: written, stop, o', .next hstart hcourse, ?_, ?_, ?_⟩
      · simpa [goOn, Except.map, filed] using hpass
      · rw [htrace', htrace, List.append_assoc]
      · simpa [filed] using hstands''

theorem pass_course (client : Client) {mask : EndpointMask} (endpoints : NodeEndpoints)
    (hm : mask.kinds ≠ []) (before : EndpointKind → Option Bytes)
    (ho : o.files.Opens job.dir place) (hj : job.Orderly)
    (hstands : job.Stands place before o.files) :
    ∃ events written stop o',
      job.Course client endpoints o before mask.kinds events written stop ∧
      (job.pass client mask endpoints).outcome o =
        ((job.ending (written.map Prod.fst) (filed written before) stop).1, o') ∧
      o'.trace = o.trace ++ events ∧
      job.Stands place (job.ending (written.map Prod.fst) (filed written before) stop).2
        o'.files := by
  unfold pass
  rw [if_neg fun he => hm (List.isEmpty_iff.1 he)]
  exact passFrom_course client o before mask.kinds [] (by simpa using mask.nodup_kinds)
    ho hj nofun (fun _ _ _ _ => rfl) hstands fun _ _ => rfl

section Courses

variable {before contents : EndpointKind → Option Bytes} {kinds : List EndpointKind}
  {events : List Event} {written : List (EndpointKind × Bytes)} {s : Stop}

theorem filed_of_notMem (h : kind ∉ written.map Prod.fst) :
    filed written contents kind = contents kind := by
  induction written generalizing contents with
  | nil => rfl
  | cons w written ih =>
    rw [List.map_cons, List.mem_cons, not_or] at h
    exact (ih h.2).trans (if_neg h.1)

/-- A pass that succeeds has fetched all of its endpoints, each in full. -/
theorem Course.whole (h : job.Course client endpoints o before kinds events written none)
    (hn : kinds.Nodup) (contents : EndpointKind → Option Bytes) :
    written.map Prod.fst = kinds ∧ ∀ kind ∈ kinds, ∃ content own,
      job.Ends client endpoints o kind (before kind) (.ok ()) (some content) own ∧
      filed written contents kind = some content := by
  generalize hs : (none : Option Stop) = stop at h
  induction h generalizing contents with
  | done => exact ⟨rfl, nofun⟩
  | stop => cases hs
  | next hends hrest ih =>
    rename_i first kinds content own more written stop
    obtain ⟨hfirst, hn⟩ := List.nodup_cons.1 hn
    obtain ⟨hkinds, hall⟩ := ih hn _ hs
    refine ⟨by rw [List.map_cons, hkinds], fun kind hk => ?_⟩
    rcases List.mem_cons.1 hk with rfl | hk
    · refine ⟨content, own, hends, ?_⟩
      rw [filed, filed_of_notMem (hkinds.symm ▸ hfirst), if_pos rfl]
    · exact hall kind hk

/-- A pass that stops has fetched the endpoints before the one it stops at, and no others. -/
theorem Course.split (h : job.Course client endpoints o before kinds events written (some s))
    (hn : kinds.Nodup) : ∃ rest own, kinds = written.map Prod.fst ++ s.kind :: rest ∧
      s.kind ∉ written.map Prod.fst ∧
      (∀ kind ∈ written.map Prod.fst, ∃ content own,
        job.Ends client endpoints o kind (before kind) (.ok ()) (some content) own) ∧
      job.Ends client endpoints o s.kind (before s.kind) (.error s.fault) s.left own := by
  generalize hs : some s = stop at h
  induction h with
  | done => cases hs
  | next hends _ ih =>
    obtain ⟨hfirst, hn⟩ := List.nodup_cons.1 hn
    obtain ⟨rest, own, rfl, hnot, hall, hstop⟩ := ih hn hs
    refine ⟨rest, own, rfl, ?_, fun kind hk => ?_, hstop⟩
    · rw [List.map_cons, List.mem_cons, not_or]
      exact ⟨fun he => hfirst (by simp [he]), hnot⟩
    · rcases List.mem_cons.1 hk with rfl | hk
      · exact ⟨_, _, hends⟩
      · exact hall kind hk
  | stop hends =>
    cases hs
    exact ⟨_, _, rfl, List.not_mem_nil, nofun, hends⟩

end Courses

end Job

end KubeletCollector
