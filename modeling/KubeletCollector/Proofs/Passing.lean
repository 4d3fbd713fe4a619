import KubeletCollector.Proofs.Course

/-! What a pass leaves: every artifact of its mask with the content that its endpoint
offered, or none of its own. What an endpoint offers is read off the script of its line
before the pass begins, for no other endpoint of the pass asks that line. What stood at the
places before stays where the pass does not get to, or gets nothing but refusals. -/

namespace KubeletCollector

open Text Act

namespace Job

def offer (job : Job) (client : Client) (endpoints : NodeEndpoints) (o : Outside)
    (kind : EndpointKind) : Option Bytes :=
  (endpoints.url? kind).bind fun url =>
    if fitsName (job.artifact kind) then client.answer (job.download url kind) o client.retries
    else none

/-- Whether fetching from an endpoint leaves its place alone: no directory can hold the
artifact, or nothing but refusals comes. -/
def spares (job : Job) (client : Client) (endpoints : NodeEndpoints) (o : Outside)
    (kind : EndpointKind) : Bool :=
  (endpoints.url? kind).all fun url => !fitsName (job.artifact kind) ||
    refused (o.script client.side ((job.download url kind).request client).line) client.retries

/-- The endpoints of a pass whose places it writes or clears: those that have something to
offer, and the first that has not unless its place is left alone. -/
def touched (job : Job) (client : Client) (endpoints : NodeEndpoints) (o : Outside) :
    List EndpointKind → List EndpointKind
  | [] => []
  | kind :: kinds =>
    if (job.offer client endpoints o kind).isSome then
      kind :: touched job client endpoints o kinds
    else if job.spares client endpoints o kind then []
    else [kind]

/-- Every endpoint of the mask has something to offer, and there is one. -/
def Yields (job : Job) (client : Client) (mask : EndpointMask) (endpoints : NodeEndpoints)
    (o : Outside) : Prop :=
  mask.kinds ≠ [] ∧ ∀ kind ∈ mask.kinds, (job.offer client endpoints o kind).isSome

variable {job : Job} {client : Client} {endpoints : NodeEndpoints} {o : Outside} {place : Location}

theorem reaches_target {scope : Scope} (ho : o.files.Opens job.dir place) (hj : job.Orderly)
    {kind : EndpointKind} (hw : scope.writes (job.spot place kind)) :
    Reaches scope o (job.target kind) := by
  intro loc hl
  have hc := locate_target ho hj kind
  rw [hl] at hc
  split at hc
  · exact Except.ok.inj hc ▸ hw
  · cases hc

/-- Where every reply is ordinary, nothing goes wrong with a pass but what is reported. -/
theorem passes {L : Act.Logic} {kinds : List EndpointKind}
    (hu : ∀ kind, ∃ url, endpoints.url? kind = some url) (hd : job.dir.hasNull = false)
    (hj : job.Orderly) (hreach : ∀ kind, L.reaches (job.target kind))
    (hr : ∀ r reply, L.answers r reply → reply.Ordinary)
    (ha : ∀ kind url, endpoints.url? kind = some url →
      L.asks ((job.download url kind).request client)) :
    Passes L (fun _ => False) job client endpoints kinds where
  download kind _ url hurl :=
    { asks := ha kind url hurl
      reaches := hreach kind
      null := clean_target hd hj kind
      replies := fun reply hreply f hf => (hr _ reply hreply f hf).imp_right Spoken.system }
  address kind _ hnone := by
    obtain ⟨url, hurl⟩ := hu kind
    cases hurl.symm.trans hnone

namespace Unasked

variable {start : Outside} {kind : EndpointKind} {kinds : List EndpointKind}

theorem offer (h : job.Unasked client endpoints start o kind) :
    job.offer client endpoints o kind = job.offer client endpoints start kind := by
  unfold Job.offer
  cases hu : endpoints.url? kind with
  | none => rfl
  | some url => simp only [Option.bind_some, Client.answer, h url hu]

theorem spares (h : job.Unasked client endpoints start o kind) :
    job.spares client endpoints o kind = job.spares client endpoints start kind := by
  unfold Job.spares
  cases hu : endpoints.url? kind with
  | none => rfl
  | some url => simp only [Option.all_some, h url hu]

theorem touched (h : ∀ kind ∈ kinds, job.Unasked client endpoints start o kind) :
    job.touched client endpoints o kinds = job.touched client endpoints start kinds := by
  induction kinds with
  | nil => rfl
  | cons kind kinds ih =>
    have hkind := h kind List.mem_cons_self
    rw [Job.touched, Job.touched, hkind.offer, hkind.spares,
      ih fun other ho => h other (List.mem_cons_of_mem kind ho)]

end Unasked

theorem touched_all {kinds : List EndpointKind}
    (h : ∀ kind ∈ kinds, (job.offer client endpoints o kind).isSome) :
    job.touched client endpoints o kinds = kinds := by
  induction kinds with
  | nil => rfl
  | cons kind kinds ih =>
    rw [touched, if_pos (h kind List.mem_cons_self),
      ih fun other ho => h other (List.mem_cons_of_mem kind ho)]

/-- A pass touches nothing beyond the first endpoint that has nothing to offer. -/
theorem touched_stop {kind : EndpointKind} {done rest : List EndpointKind}
    (h : ∀ kind ∈ done, (job.offer client endpoints o kind).isSome)
    (hnone : job.offer client endpoints o kind = none) :
    job.touched client endpoints o (done ++ kind :: rest) =
      done ++ if job.spares client endpoints o kind then [] else [kind] := by
  induction done with
  | nil => simp [touched, hnone]
  | cons first done ih =>
    rw [List.cons_append, touched, if_pos (h first List.mem_cons_self),
      ih fun other ho => h other (List.mem_cons_of_mem first ho), List.cons_append]

def leaves (job : Job) (client : Client) (endpoints : NodeEndpoints) (o : Outside)
    (kind : EndpointKind) (before : Option Bytes) : Option Bytes :=
  if job.spares client endpoints o kind then before else job.offer client endpoints o kind

theorem fits_of_offer {kind : EndpointKind} (h : (job.offer client endpoints o kind).isSome) :
    fitsName (job.artifact kind) = true := by
  unfold offer at h
  cases hu : endpoints.url? kind with
  | none => simp [hu] at h
  | some url =>
    rw [hu, Option.bind_some] at h
    split at h
    · assumption
    · cases h

theorem spares_of_offer {kind : EndpointKind} (h : (job.offer client endpoints o kind).isSome) :
    job.spares client endpoints o kind = false := by
  have hfits := fits_of_offer h
  unfold offer at h
  unfold spares
  cases hu : endpoints.url? kind with
  | none => simp [hu] at h
  | some url =>
    rw [hu, Option.bind_some, if_pos hfits] at h
    rw [Option.all_some, hfits]
    cases hr : refused (o.script client.side ((job.download url kind).request client).line)
        client.retries with
    | false => rfl
    | true => simp [Client.answer, answered_of_refused hr] at h

/-- Of a job's places, those of `done` hold what their endpoints offered at the start, and
no other holds anything. -/
structure Holds (job : Job) (place : Location) (client : Client) (endpoints : NodeEndpoints)
    (start : Outside) (done : List EndpointKind) (tree : FileTree) : Prop where
  whole : ∀ kind ∈ done, (job.offer client endpoints start kind).isSome
  files : ∀ kind, tree.get? (job.spot place kind) =
    if kind ∈ done then (job.offer client endpoints start kind).map Entry.file else none

/-- Of a job's places, those of `done` hold what their endpoints offered at the start, and
the others what they held then. -/
structure Written (job : Job) (place : Location) (client : Client) (endpoints : NodeEndpoints)
    (start : Outside) (done : List EndpointKind) (tree : FileTree) : Prop where
  whole : ∀ kind ∈ done, (job.offer client endpoints start kind).isSome
  files : ∀ kind, tree.get? (job.spot place kind) =
    if kind ∈ done then (job.offer client endpoints start kind).map Entry.file
    else start.files.get? (job.spot place kind)

/-- Of a job's places, those that are touched hold nothing, and the others what they held at
the start. -/
structure Cleared (job : Job) (place : Location) (start : Outside) (touches : EndpointKind → Prop)
    (tree : FileTree) : Prop where
  gone : ∀ kind, touches kind → tree.get? (job.spot place kind) = none
  kept : ∀ kind, ¬ touches kind →
    tree.get? (job.spot place kind) = start.files.get? (job.spot place kind)

/-- What is written for a node, and on which sides it is asked for. -/
def onSide (job : Job) (place : Location) (side : Side) : Scope where
  asks r := r.side = side
  writes loc := ∃ kind, loc = job.spot place kind

theorem pass_keeps (client : Client) (mask : EndpointMask)
    (hu : ∀ kind, ∃ url, endpoints.url? kind = some url) (ho : o.files.Opens job.dir place)
    (hj : job.Orderly) (hr : o.Ordinary) :
    Keeps (Within (job.onSide place client.side) o) (fun _ => True)
      (fun f => Cycle.isReported f = true) (job.pass client mask endpoints) := by
  have hp : Passes ((job.onSide place client.side).logic o) (fun _ => False) job client endpoints
      mask.kinds :=
    passes hu ho.clean hj (fun kind => reaches_target ho hj ⟨kind, rfl⟩)
      (fun _ _ => hr.answers) fun _ _ _ => rfl
  exact hp.pass.keeps.mono (fun _ => id) fun _ hf => hf.resolve_right id

/-- The fetch of an endpoint, where all replies are ordinary: it succeeds if the endpoint has
something to offer, and leaves that, or what was there if the place is left alone. -/
theorem Ends.offered {kind : EndpointKind} {before left : Option Bytes}
    {result : Except Fault Unit} {events : List Event}
    (h : job.Ends client endpoints o kind before result left events)
    (hu : ∃ url, endpoints.url? kind = some url) (hr : o.Ordinary) :
    result.isOk = (job.offer client endpoints o kind).isSome ∧
      left = job.leaves client endpoints o kind before := by
  obtain ⟨url, hurl⟩ := hu
  unfold leaves offer spares
  cases h with
  | unaddressed hnone => cases hurl.symm.trans hnone
  | unfit _ hf => simp [hurl, hf, Except.isOk, Except.toBool]
  | asked hu hf hrepeats =>
    obtain rfl := Option.some.inj (hurl.symm.trans hu)
    have hordinary := hr client.side ((job.download url kind).request client).line
    simp only [hu, hf, Option.bind_some, Option.all_some, if_true, Bool.not_true, Bool.false_or]
    refine ⟨(Reply.isOk_result _).trans ?_, hrepeats.remaining_eq hordinary before⟩
    exact congrArg Option.isSome (hrepeats.answered_eq hordinary).symm

theorem leaves_of_offer {kind : EndpointKind} (h : (job.offer client endpoints o kind).isSome)
    (before : Option Bytes) :
    job.leaves client endpoints o kind before = job.offer client endpoints o kind := by
  rw [leaves, spares_of_offer h]
  rfl

section Lands

variable {mask : EndpointMask} {before : EndpointKind → Option Bytes} {events : List Event}
  {written : List (EndpointKind × Bytes)} {s : Stop} {tree : FileTree}
  (hu : ∀ kind, ∃ url, endpoints.url? kind = some url) (hr : o.Ordinary)

include hu hr

/-- A pass that succeeds has written what its endpoints offer. -/
theorem Course.wrote
    (h : job.Course client endpoints o before mask.kinds events written none)
    (hb : job.Stands place before o.files) (hs : job.Stands place (filed written before) tree) :
    (∀ kind ∈ mask.kinds, (job.offer client endpoints o kind).isSome) ∧
      job.Written place client endpoints o mask.kinds tree := by
  obtain ⟨hkinds, hall⟩ := h.whole mask.nodup_kinds before
  have hoffer : ∀ kind ∈ mask.kinds, (job.offer client endpoints o kind).isSome ∧
      filed written before kind = job.offer client endpoints o kind := by
    intro kind hk
    obtain ⟨content, own, hends, hfiled⟩ := hall kind hk
    obtain ⟨hsome, hleft⟩ := hends.offered (hu kind) hr
    refine ⟨hsome.symm, hfiled.trans (hleft.trans ?_)⟩
    exact leaves_of_offer hsome.symm _
  refine ⟨fun kind hk => (hoffer kind hk).1, fun kind hk => (hoffer kind hk).1, fun kind => ?_⟩
  rw [hs kind]
  split
  · rename_i hk
    rw [(hoffer kind hk).2]
  · rename_i hk
    rw [filed_of_notMem (hkinds.symm ▸ hk), hb kind]

/-- A pass that stops with a fault that goes into the report has cleared what it touched. -/
theorem Course.cleared
    (h : job.Course client endpoints o before mask.kinds events written (some s))
    (hreported : Cycle.isReported s.fault = true) (hb : job.Stands place before o.files)
    (hs : job.Stands place (stopped (written.map Prod.fst) (filed written before) s) tree) :
    (∃ kind ∈ mask.kinds, job.offer client endpoints o kind = none) ∧
      job.Cleared place o (· ∈ job.touched client endpoints o mask.kinds) tree := by
  obtain ⟨rest, own, hsplit, hnot, hall, hstop⟩ := h.split mask.nodup_kinds
  obtain ⟨hfails, hleft⟩ := hstop.offered (hu s.kind) hr
  have hnone : job.offer client endpoints o s.kind = none :=
    Option.isNone_iff_eq_none.1 (Option.isSome_eq_false_iff.1 hfails.symm)
  have hdone : ∀ kind ∈ written.map Prod.fst, (job.offer client endpoints o kind).isSome := by
    intro kind hk
    obtain ⟨content, own, hends⟩ := hall kind hk
    exact (hends.offered (hu kind) hr).1.symm
  rw [leaves, hnone] at hleft
  rw [hsplit, touched_stop hdone hnone]
  refine ⟨⟨s.kind, by simp, hnone⟩, fun kind hk => ?_, fun kind hk => ?_⟩ <;>
    rw [hs kind, stopped]
  · by_cases he : kind = s.kind
    · have hspares : ¬ job.spares client endpoints o s.kind = true := by
        intro hspares
        simp [he, hspares, hnot] at hk
      rw [if_pos he, hleft, if_neg hspares]
      rfl
    · have hmem : kind ∈ written.map Prod.fst := by
        refine (List.mem_append.1 hk).resolve_right fun hlast => ?_
        split at hlast <;> simp [he] at hlast
      rw [if_neg he, if_pos ⟨hreported, hmem⟩]
      rfl
  · by_cases he : kind = s.kind
    · have hspares : job.spares client endpoints o s.kind = true := by
        refine Decidable.byContradiction fun hspares => hk ?_
        simp [he, hspares]
      rw [if_pos he, hleft, if_pos hspares, he, hb s.kind]
    · have hmem : kind ∉ written.map Prod.fst := fun hd => hk (List.mem_append_left _ hd)
      rw [if_neg he, if_neg fun hd => hmem hd.2, filed_of_notMem hmem, hb kind]

end Lands

/-- A pass is all or nothing, but for what stood there and was left alone. -/
theorem pass_lands (client : Client) (mask : EndpointMask)
    (hu : ∀ kind, ∃ url, endpoints.url? kind = some url) (ho : o.files.Opens job.dir place)
    (hj : job.Orderly) (hr : o.Ordinary)
    (hd : ∀ kind, o.files.get? (job.spot place kind) ≠ some .directory) :
    ∃ result o', (job.pass client mask endpoints).outcome o = (result, o') ∧
      ((job.Yields client mask endpoints o ∧ (∃ paths, result = .ok paths) ∧
          Written job place client endpoints o mask.kinds o'.files) ∨
        (¬ job.Yields client mask endpoints o ∧ (∃ f, result = .error f) ∧
          job.Cleared place o (· ∈ job.touched client endpoints o mask.kinds) o'.files)) := by
  by_cases hm : mask.kinds = []
  · unfold pass
    rw [if_pos (List.isEmpty_iff.2 hm), hm]
    exact ⟨_, o, rfl, Or.inr ⟨fun hy => hy.1 hm, ⟨_, rfl⟩, nofun, fun _ _ => rfl⟩⟩
  · obtain ⟨before, hb⟩ := stands_of_no_directory hd
    obtain ⟨events, written, stop, o', hcourse, hout, -, hstands⟩ :=
      pass_course client endpoints hm before ho hj hb
    have hkeeps := (pass_keeps client mask hu ho hj hr o (Within.refl _ o)).2
    rw [hout] at hkeeps
    refine ⟨_, o', hout, ?_⟩
    cases stop with
    | none =>
      obtain ⟨hall, hwritten⟩ := hcourse.wrote hu hr hb hstands
      exact Or.inl ⟨⟨hm, hall⟩, ⟨_, rfl⟩, hwritten⟩
    | some s =>
      obtain ⟨⟨kind, hk, hnone⟩, hcleared⟩ := hcourse.cleared hu hr hkeeps hb hstands
      refine Or.inr ⟨fun hy => ?_, ⟨_, rfl⟩, hcleared⟩
      have hsome := hy.2 kind hk
      rw [hnone] at hsome
      cases hsome

end Job

end KubeletCollector
