import KubeletCollector.Proofs.Choice
import KubeletCollector.Proofs.Fleet

/-! What a pass leaves behind, whatever ends it. One that succeeds leaves the artifacts of its mask
and no others. One that fails leaves none exactly if the fetch that failed left nothing and either
there was nothing before it or its fault goes into the report. -/

namespace KubeletCollector

open Text Act

namespace Job

variable {job : Job} {o : Outside} {place : Location} {kind : EndpointKind}
  {contents : EndpointKind → Option Bytes} {written : List (EndpointKind × Bytes)} {s : Stop}

theorem filed_isSome (h : kind ∈ written.map Prod.fst ∨ (contents kind).isSome) :
    (filed written contents kind).isSome := by
  induction written generalizing contents with
  | nil => exact h.resolve_left List.not_mem_nil
  | cons w written ih =>
    refine ih ?_
    rw [List.map_cons, List.mem_cons] at h
    by_cases hk : kind = w.1
    · simp [hk]
    · simpa [hk] using h

/-- What is left where a pass has stopped. -/
theorem bare_stopped {tree : FileTree} (hnot : s.kind ∉ written.map Prod.fst)
    (h : job.Stands place (stopped (written.map Prod.fst) (filed written fun _ => none) s) tree) :
    job.Bare place tree ↔
      s.left = none ∧ (Cycle.isReported s.fault = true ∨ written = []) := by
  constructor
  · intro hb
    have hnone (kind : EndpointKind) :
        stopped (written.map Prod.fst) (filed written fun _ => none) s kind = none := by
      simpa [hb kind] using (h kind).symm
    have hleft := hnone s.kind
    rw [stopped, if_pos rfl] at hleft
    refine ⟨hleft, ?_⟩
    cases written with
    | nil => exact Or.inr rfl
    | cons w written =>
      refine Or.inl (Decidable.byContradiction fun hunreported => ?_)
      have hw := hnone w.1
      have hne : w.1 ≠ s.kind := fun he => hnot (by simp [he])
      rw [stopped, if_neg hne, if_neg fun hc => hunreported hc.1] at hw
      have hsome : (filed (w :: written) (fun _ => none) w.1).isSome :=
        filed_isSome (Or.inl (List.mem_map_of_mem List.mem_cons_self))
      rw [hw] at hsome
      cases hsome
  · rintro ⟨hleft, hrest⟩ kind
    rw [h kind, stopped]
    split
    · rw [hleft]
      rfl
    · split
      · rfl
      · rename_i hkept
        have hmem : kind ∉ written.map Prod.fst := by
          rcases hrest with hreported | rfl
          · exact fun hk => hkept ⟨hreported, hk⟩
          · exact List.not_mem_nil
        rw [filed_of_notMem hmem]
        rfl

/-- What a pass leaves of a node that had no artifact. If it returns, there is one artifact for
each endpoint of the mask, and no other; it returns their paths in fetch order. If it fails, there
is none exactly if the fetch that failed left nothing and either its fault goes into the report or
nothing was fetched before it. -/
theorem pass_leaves (client : Client) (mask : EndpointMask) (endpoints : NodeEndpoints)
    (hs : PlainText job.artifactPrefix) (hn : PlainText (nameText job.node))
    (ho : o.files.Opens job.dir place) (hb : job.Bare place o.files) :
    ∃ result o', (job.pass client mask endpoints).outcome o = (result, o') ∧
      (∀ paths, result = .ok paths → paths = mask.kinds.map job.target ∧ mask.kinds ≠ [] ∧
        (∀ kind ∈ mask.kinds, ∃ content own,
          job.Ends client endpoints o kind none (.ok ()) (some content) own ∧
            o'.files.get? (job.spot place kind) = some (.file content)) ∧
        ∀ kind ∉ mask.kinds, o'.files.get? (job.spot place kind) = none) ∧
      ∀ f, result = .error f →
        (mask.kinds = [] ∧ f = .emptyMask ∧ job.Bare place o'.files) ∨
        ∃ events written s, s.fault = f ∧
          job.Course client endpoints o (fun _ => none) mask.kinds events written (some s) ∧
          (job.Bare place o'.files ↔
            s.left = none ∧ (Cycle.isReported f = true ∨ written = [])) := by
  have hj := orderly_of_plain hs hn
  by_cases hm : mask.kinds = []
  · refine ⟨.error .emptyMask, o, ?_, ?_, ?_⟩
    · unfold pass
      rw [if_pos (List.isEmpty_iff.2 hm)]
      rfl
    · rintro _ ⟨⟩
    · rintro _ ⟨⟩
      exact Or.inl ⟨hm, rfl, hb⟩
  · obtain ⟨events, written, stop, o', hcourse, hout, -, hstands⟩ :=
      pass_course client endpoints hm (fun _ => none) ho hj hb
    refine ⟨_, o', hout, ?_⟩
    cases stop with
    | none =>
      constructor <;> rintro _ ⟨⟩
      obtain ⟨hkinds, hall⟩ := hcourse.whole mask.nodup_kinds fun _ => none
      refine ⟨by rw [hkinds], hm, fun kind hk => ?_, fun kind hk => ?_⟩
      · obtain ⟨content, own, hends, hfiled⟩ := hall kind hk
        refine ⟨content, own, hends, (hstands kind).trans ?_⟩
        simp only [ending, hfiled]
        rfl
      · refine (hstands kind).trans ?_
        simp only [ending]
        rw [filed_of_notMem (hkinds.symm ▸ hk)]
        rfl
    | some s =>
      constructor <;> rintro _ ⟨⟩
      obtain ⟨rest, own, -, hnot, -, -⟩ := hcourse.split mask.nodup_kinds
      exact Or.inr ⟨events, written, s, rfl, hcourse, bare_stopped hnot hstands⟩

end Job

/-! A pass whose second body breaks off with a fault that no one expects. -/

namespace Sample

def cut : Fault := .foreign "RuntimeError" "cut"

def torn : Outside where
  nodeRoutes := [("GET https://10.0.0.1:10250/stats/summary", [.response 200 [[65]] none]),
    ("GET https://10.0.0.1:10250/metrics/cadvisor", [.response 200 [[66]] (some cut)])]

def job : Job := plan.job (node "a" "10.0.0.1")

def both : EndpointMask := { summary := true, cadvisor := true }

def tornPass : Act (List Path) :=
  job.pass nodeClient both (.direct (some "10.0.0.1") 10250)

def remnants : Option (Fault × Option Entry × Option Entry) :=
  match tornPass.outcome torn with
  | (.error f, o') => some (f, o'.files.get? (job.spot [] .summary),
      o'.files.get? (job.spot [] .cadvisor))
  | _ => none

theorem remnants_eq : remnants = some (cut, some (.file [65]), some (.file [66])) := by
  decide +kernel

theorem torn_pass : ∃ o', tornPass.outcome torn = (.error cut, o') ∧
    o'.files.get? (job.spot [] .summary) = some (.file [65]) ∧
    o'.files.get? (job.spot [] .cadvisor) = some (.file [66]) := by
  have hleft := remnants_eq
  unfold remnants at hleft
  split at hleft
  · rename_i f o' hout
    obtain ⟨rfl, hfiles⟩ := Prod.mk.inj (Option.some.inj hleft)
    exact ⟨o', hout, Prod.mk.inj hfiles⟩
  · cases hleft

theorem torn_opens : torn.files.Opens job.dir [] := ⟨rfl, rfl, rfl⟩

theorem torn_bare : job.Bare [] torn.files := by
  intro kind
  simp [Job.spot, FileTree.get?, torn]

theorem plain_start : PlainText job.artifactPrefix := ⟨by decide, by decide⟩

theorem plain_node : PlainText (nameText job.node) := ⟨by decide, by decide⟩

/-- Such a pass leaves what it wrote, in full and in part. -/
theorem pass_litters : PlainText job.artifactPrefix ∧ PlainText (nameText job.node) ∧
    torn.files.Opens job.dir [] ∧ job.Bare [] torn.files ∧
    ∃ f o', tornPass.outcome torn = (.error f, o') ∧
      o'.files.get? (job.spot [] .summary) = some (.file [65]) ∧
      o'.files.get? (job.spot [] .cadvisor) = some (.file [66]) := by
  obtain ⟨o', hout, hsummary, hcadvisor⟩ := torn_pass
  exact ⟨plain_start, plain_node, torn_opens, torn_bare, cut, o', hout, hsummary, hcadvisor⟩

/-- What it leaves is accounted for by where it stopped. -/
theorem pass_leaves_torn : PlainText job.artifactPrefix ∧ PlainText (nameText job.node) ∧
    torn.files.Opens job.dir [] ∧ job.Bare [] torn.files ∧
    ∃ o' events written s, tornPass.outcome torn = (.error cut, o') ∧ s.fault = cut ∧
      job.Course nodeClient (.direct (some "10.0.0.1") 10250) torn (fun _ => none) both.kinds
        events written (some s) ∧
      (job.Bare [] o'.files ↔ s.left = none ∧ (Cycle.isReported cut = true ∨ written = [])) := by
  refine ⟨plain_start, plain_node, torn_opens, torn_bare, ?_⟩
  obtain ⟨o', hout, -⟩ := torn_pass
  obtain ⟨result, o'', hpass, -, hfails⟩ := Job.pass_leaves nodeClient both
    (.direct (some "10.0.0.1") 10250) plain_start plain_node torn_opens torn_bare
  cases hout.symm.trans hpass
  rcases hfails cut rfl with ⟨hnone, -⟩ | ⟨events, written, s, hfault, hcourse, hbare⟩
  · cases hnone
  · exact ⟨o', events, written, s, hout, hfault, hcourse, hbare⟩

end Sample

end KubeletCollector
