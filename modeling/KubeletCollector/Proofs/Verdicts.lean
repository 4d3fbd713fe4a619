import KubeletCollector.Proofs.Passing

/-! What becomes of a node: its kubelet yields everything, or else the proxy does, or
neither does and nothing of the node stays. The verdict that a visit comes to says
which, and the places of the node's artifacts bear it out. Only what stood there before, and
what the visit leaves alone, can belie it. -/

namespace KubeletCollector

open Text Act

def NodeInfo.Addressed (node : NodeInfo) : Prop :=
  ∀ a, node.internalAddress? = some a → ∃ ip, a.address = some ip

section Paths

variable (session : Session) (job : Job) (node : NodeInfo) (o : Outside)

/-- The node is asked directly, and its kubelet yields all of the direct mask. -/
def ByDirect : Prop :=
  node.AskedDirectly session ∧ ∃ client a, session.nodeClient = some client ∧
    node.internalAddress? = some a ∧
    job.Yields client session.directMask (.direct a.address node.kubeletPort) o

/-- The proxy yields all of the proxy mask. -/
def ByProxy : Prop :=
  ∃ client, session.clusterClient = some client ∧
    job.Yields client session.proxyMask (.proxy job.hostUrl (nameText job.node)) o

variable (place : Location) (files : FileTree)

/-- The artifacts are those of the direct mask, with what the kubelet offered. -/
def KeptDirect : Prop :=
  ∃ client a, session.nodeClient = some client ∧ node.internalAddress? = some a ∧
    job.Holds place client (.direct a.address node.kubeletPort) o session.directMask.kinds files

def KeptProxy : Prop :=
  ∃ client, session.clusterClient = some client ∧
    job.Holds place client (.proxy job.hostUrl (nameText job.node)) o session.proxyMask.kinds files

def Job.Bare : Prop :=
  ∀ kind, files.get? (job.spot place kind) = none

/-- A verdict and the files bear each other out. Each case excludes the ones before it. -/
inductive Judged : Cycle.Verdict → Prop
  | direct : ByDirect session job node o → KeptDirect session job node o place files →
      Judged .direct
  | proxy (why : Option Fault) : ¬ ByDirect session job node o → ByProxy session job o →
      KeptProxy session job o place files → (why.isSome ↔ node.AskedDirectly session) →
      Judged (.proxy why)
  | failed (why : Option Fault) (cause : Fault) : ¬ ByDirect session job node o →
      ¬ ByProxy session job o → job.Bare place files → Judged (.failed why cause)

def TouchesDirect (kind : EndpointKind) : Prop :=
  node.AskedDirectly session ∧ ∃ client a, session.nodeClient = some client ∧
    node.internalAddress? = some a ∧ kind ∈
      job.touched client (.direct a.address node.kubeletPort) o session.directMask.kinds

def TouchesProxy (kind : EndpointKind) : Prop :=
  ∃ client, session.clusterClient = some client ∧ kind ∈
    job.touched client (.proxy job.hostUrl (nameText job.node)) o session.proxyMask.kinds

/-- A visit writes or clears the place of an artifact. -/
def Touches (kind : EndpointKind) : Prop :=
  TouchesDirect session job node o kind ∨
    (¬ ByDirect session job node o ∧ TouchesProxy session job o kind)

/-- What a visit leaves: its verdict is borne out once all that it did not touch is taken
away, and that is as it was. -/
structure Left (verdict : Cycle.Verdict) : Prop where
  judged : ∀ tree : FileTree,
    (∀ kind, Touches session job node o kind →
      tree.get? (job.spot place kind) = files.get? (job.spot place kind)) →
    (∀ kind, ¬ Touches session job node o kind → tree.get? (job.spot place kind) = none) →
      Judged session job node o place tree verdict
  kept : ∀ kind, ¬ Touches session job node o kind →
    files.get? (job.spot place kind) = o.files.get? (job.spot place kind)

end Paths

namespace Cycle

variable {α : Type} {act : Act α} {o o' : Outside} {session : Session} {node : NodeInfo}

theorem outcome_reported_ok {a : α} (h : act.outcome o = (.ok a, o')) :
    (reported act).outcome o = (.ok none, o') := by
  unfold reported
  rw [outcome_bind, outcome_attempt, h]
  rfl

theorem outcome_reported_error {f : Fault} (h : act.outcome o = (.error f, o'))
    (hf : isReported f = true) : (reported act).outcome o = (.ok (some f), o') := by
  unfold reported
  rw [outcome_bind, outcome_attempt, h]
  simp only [hf, ↓reduceIte]
  rfl

theorem goesDirect_eq (h : node.AskedDirectly session) : goesDirect session node = pure true := by
  unfold goesDirect Source.meetsFargate
  rw [if_neg (by simp [h.1]), h.2]
  rfl

theorem outcome_goesDirect (h : node.AskedDirectly session) (o : Outside) :
    (goesDirect session node).outcome o = (.ok true, o) := by
  rw [goesDirect_eq h, outcome_pure]

theorem outcome_goesDirect_not (h : ¬ node.AskedDirectly session) (o : Outside) :
    ∃ log, (goesDirect session node).outcome o = (.ok false, { o with log }) := by
  unfold goesDirect Source.meetsFargate
  by_cases hm : session.mode ≠ .direct
  · rw [if_pos hm]
    exact ⟨o.log, rfl⟩
  · rw [if_neg hm]
    cases hf : node.isFargate with
    | true => exact ⟨_, rfl⟩
    | false => exact absurd ⟨Decidable.not_not.1 hm, hf⟩ h

end Cycle

namespace Job

variable {job : Job} {client : Client} {endpoints : NodeEndpoints} {o o' : Outside}
  {place : Location} {session : Session} {node : NodeInfo}

theorem unasked_of_side (h : o'.script client.side = o.script client.side) (kind : EndpointKind) :
    job.Unasked client endpoints o o' kind :=
  fun url _ => by rw [h]

theorem offer_congr (h : o'.script client.side = o.script client.side) :
    job.offer client endpoints o' = job.offer client endpoints o :=
  funext fun kind => (unasked_of_side h kind).offer

theorem yields_congr {mask : EndpointMask} (h : o'.script client.side = o.script client.side) :
    job.Yields client mask endpoints o' ↔ job.Yields client mask endpoints o := by
  unfold Yields
  rw [offer_congr h]

theorem holds_congr {done : List EndpointKind} {tree : FileTree}
    (h : o'.script client.side = o.script client.side) :
    job.Holds place client endpoints o' done tree ↔
      job.Holds place client endpoints o done tree := by
  constructor <;> intro hh
  · exact ⟨offer_congr h ▸ hh.whole, offer_congr h ▸ hh.files⟩
  · exact ⟨offer_congr h ▸ hh.whole, offer_congr h ▸ hh.files⟩

theorem Written.holds {done : List EndpointKind} {tree files : FileTree}
    (h : job.Written place client endpoints o done files)
    (hsame : ∀ kind ∈ done, tree.get? (job.spot place kind) = files.get? (job.spot place kind))
    (hnone : ∀ kind ∉ done, tree.get? (job.spot place kind) = none) :
    job.Holds place client endpoints o done tree := by
  refine ⟨h.whole, fun kind => ?_⟩
  split
  · rename_i hk
    rw [hsame kind hk, h.files, if_pos hk]
  · rename_i hk
    exact hnone kind hk

/-- A pass is all or nothing, asks one side, and fails with what is reported. -/
theorem pass_ends (client : Client) (mask : EndpointMask)
    (hu : ∀ kind, ∃ url, endpoints.url? kind = some url) (ho : o.files.Opens job.dir place)
    (hj : job.Orderly) (hr : o.Ordinary)
    (hn : ∀ kind, o.files.get? (job.spot place kind) ≠ some .directory) :
    ∃ result o', (job.pass client mask endpoints).outcome o = (result, o') ∧
      Within (job.onSide place client.side) o o' ∧
      (((∃ paths, result = .ok paths) ∧ job.Yields client mask endpoints o ∧
          job.Written place client endpoints o mask.kinds o'.files) ∨
        ((∃ f, result = .error f ∧ Cycle.isReported f = true) ∧
          ¬ job.Yields client mask endpoints o ∧
          job.Cleared place o (· ∈ job.touched client endpoints o mask.kinds) o'.files)) := by
  have hkeeps := pass_keeps client mask hu ho hj hr o (Within.refl _ o)
  obtain ⟨result, o', hout, hend⟩ := pass_lands client mask hu ho hj hr hn
  rw [hout] at hkeeps
  refine ⟨result, o', hout, hkeeps.1, ?_⟩
  rcases hend with ⟨hy, hok, hwritten⟩ | ⟨hy, ⟨f, rfl⟩, hcleared⟩
  · exact Or.inl ⟨hok, hy, hwritten⟩
  · exact Or.inr ⟨⟨f, rfl, hkeeps.2⟩, hy, hcleared⟩

theorem Cleared.congr {touches touches' : EndpointKind → Prop} {tree : FileTree}
    (h : job.Cleared place o touches tree) (ht : ∀ kind, touches' kind ↔ touches kind) :
    job.Cleared place o touches' tree :=
  ⟨fun kind hk => h.gone kind ((ht kind).1 hk), fun kind hk => h.kept kind (mt (ht kind).2 hk)⟩

/-- What touches nothing leaves everything. -/
theorem Cleared.nothing {touches : EndpointKind → Prop} (ht : ∀ kind, ¬ touches kind) :
    job.Cleared place o touches o.files :=
  ⟨fun kind hk => absurd hk (ht kind), fun _ _ => rfl⟩

theorem directPass_lands (hw : session.Wired) (hd : node.AskedDirectly session)
    (ha : node.Addressed) (ho : o.files.Opens job.dir place) (hj : job.Orderly) (hr : o.Ordinary)
    (hn : ∀ kind, o.files.get? (job.spot place kind) ≠ some .directory) :
    ∃ result o', (job.directPass session node).outcome o = (result, o') ∧
      Within (job.onSide place .node) o o' ∧
      (((∃ paths, result = .ok paths) ∧ ByDirect session job node o ∧
          ∃ client a, session.nodeClient = some client ∧ node.internalAddress? = some a ∧
            job.Written place client (.direct a.address node.kubeletPort) o
              session.directMask.kinds o'.files) ∨
        ((∃ f, result = .error f ∧ Cycle.isReported f = true) ∧ ¬ ByDirect session job node o ∧
          job.Cleared place o (TouchesDirect session job node o) o'.files)) := by
  unfold directPass Directory.address
  cases hia : node.internalAddress? with
  | none =>
    refine ⟨_, o, rfl, Within.refl _ o, Or.inr ⟨⟨_, rfl, rfl⟩, ?_, Cleared.nothing ?_⟩⟩
    · rintro ⟨-, -, a, -, hsome, -⟩
      cases hia.symm.trans hsome
    · rintro kind ⟨-, -, a, -, hsome, -⟩
      cases hia.symm.trans hsome
  | some a =>
    cases hc : session.nodeClient with
    | none =>
      refine ⟨_, o, rfl, Within.refl _ o, Or.inr ⟨⟨_, rfl, rfl⟩, ?_, Cleared.nothing ?_⟩⟩
      · rintro ⟨-, client, -, hsome, -⟩
        cases hc.symm.trans hsome
      · rintro kind ⟨-, client, -, hsome, -⟩
        cases hc.symm.trans hsome
    | some client =>
      have hu (kind : EndpointKind) :
          ∃ url, (NodeEndpoints.direct a.address node.kubeletPort).url? kind = some url := by
        obtain ⟨ip, hip⟩ := ha a hia
        exact ⟨_, by rw [hip]; rfl⟩
      obtain ⟨result, o', hout, hwithin, hend⟩ :=
        pass_ends client session.directMask hu ho hj hr hn
      rw [hw.node client hc] at hwithin
      refine ⟨result, o', hout, hwithin, ?_⟩
      rcases hend with ⟨hok, hy, hwritten⟩ | ⟨herror, hno, hcleared⟩
      · exact Or.inl ⟨hok, ⟨hd, client, a, hc, hia, hy⟩, ⟨client, a, rfl, rfl, hwritten⟩⟩
      · refine Or.inr ⟨herror, ?_, hcleared.congr fun kind => ⟨?_, ?_⟩⟩
        · rintro ⟨-, client', a', hc', ha', hy⟩
          obtain rfl := Option.some.inj (hc.symm.trans hc')
          obtain rfl := Option.some.inj (hia.symm.trans ha')
          exact hno hy
        · rintro ⟨-, client', a', hc', ha', hk⟩
          obtain rfl := Option.some.inj (hc.symm.trans hc')
          obtain rfl := Option.some.inj (hia.symm.trans ha')
          exact hk
        · exact fun hk => ⟨hd, client, a, hc, hia, hk⟩

theorem proxyPass_lands (session : Session) (ho : o.files.Opens job.dir place) (hj : job.Orderly)
    (hr : o.Ordinary) (hn : ∀ kind, o.files.get? (job.spot place kind) ≠ some .directory) :
    ∃ result o', (job.proxyPass session).outcome o = (result, o') ∧
      (((∃ paths, result = .ok paths) ∧ ByProxy session job o ∧
          ∃ client, session.clusterClient = some client ∧
            job.Written place client (.proxy job.hostUrl (nameText job.node)) o
              session.proxyMask.kinds o'.files) ∨
        ((∃ f, result = .error f ∧ Cycle.isReported f = true) ∧ ¬ ByProxy session job o ∧
          job.Cleared place o (TouchesProxy session job o) o'.files)) := by
  unfold proxyPass
  cases hc : session.clusterClient with
  | none =>
    refine ⟨_, o, rfl, Or.inr ⟨⟨_, rfl, rfl⟩, ?_, Cleared.nothing ?_⟩⟩
    · rintro ⟨client, hsome, -⟩
      cases hc.symm.trans hsome
    · rintro kind ⟨client, hsome, -⟩
      cases hc.symm.trans hsome
  | some client =>
    have hu (kind : EndpointKind) :
        ∃ url, (NodeEndpoints.proxy job.hostUrl (nameText job.node)).url? kind = some url :=
      ⟨_, rfl⟩
    obtain ⟨result, o', hout, -, hend⟩ := pass_ends client session.proxyMask hu ho hj hr hn
    refine ⟨result, o', hout, ?_⟩
    rcases hend with ⟨hok, hy, hwritten⟩ | ⟨herror, hno, hcleared⟩
    · exact Or.inl ⟨hok, ⟨client, hc, hy⟩, ⟨client, rfl, hwritten⟩⟩
    · refine Or.inr ⟨herror, ?_, hcleared.congr fun kind => ⟨?_, fun hk => ⟨client, hc, hk⟩⟩⟩
      · rintro ⟨client', hc', hy⟩
        obtain rfl := Option.some.inj (hc.symm.trans hc')
        exact hno hy
      · rintro ⟨client', hc', hk⟩
        obtain rfl := Option.some.inj (hc.symm.trans hc')
        exact hk

/-- A direct pass that yields touches the places of its mask and no others. -/
theorem touchesDirect_iff {a : Address} {files : FileTree} (hd : node.AskedDirectly session)
    (hc : session.nodeClient = some client) (ha : node.internalAddress? = some a)
    (h : job.Written place client (.direct a.address node.kubeletPort) o
      session.directMask.kinds files) (kind : EndpointKind) :
    TouchesDirect session job node o kind ↔ kind ∈ session.directMask.kinds := by
  have hall := touched_all h.whole
  constructor
  · rintro ⟨-, client', a', hc', ha', hk⟩
    obtain rfl := Option.some.inj (hc.symm.trans hc')
    obtain rfl := Option.some.inj (ha.symm.trans ha')
    exact hall ▸ hk
  · intro hk
    exact ⟨hd, client, a, hc, ha, hall.symm ▸ hk⟩

theorem touchesProxy_iff {files : FileTree} (hc : session.clusterClient = some client)
    (h : job.Written place client (.proxy job.hostUrl (nameText job.node)) o
      session.proxyMask.kinds files) (kind : EndpointKind) :
    TouchesProxy session job o kind ↔ kind ∈ session.proxyMask.kinds := by
  have hall := touched_all h.whole
  constructor
  · rintro ⟨client', hc', hk⟩
    obtain rfl := Option.some.inj (hc.symm.trans hc')
    exact hall ▸ hk
  · intro hk
    exact ⟨client, hc, hall.symm ▸ hk⟩

theorem touchesProxy_congr
    (h : ∀ client, session.clusterClient = some client →
      o'.script client.side = o.script client.side) (kind : EndpointKind) :
    TouchesProxy session job o' kind ↔ TouchesProxy session job o kind := by
  have htouched (client : Client) (hc : session.clusterClient = some client) :
      job.touched client (.proxy job.hostUrl (nameText job.node)) o' session.proxyMask.kinds =
        job.touched client (.proxy job.hostUrl (nameText job.node)) o session.proxyMask.kinds :=
    Unasked.touched fun kind _ => unasked_of_side (h client hc) kind
  constructor
  · rintro ⟨client, hc, hk⟩
    exact ⟨client, hc, htouched client hc ▸ hk⟩
  · rintro ⟨client, hc, hk⟩
    exact ⟨client, hc, (htouched client hc).symm ▸ hk⟩

/-- What a direct pass leaves that yields. -/
theorem Written.left_direct {a : Address} {files : FileTree} (hy : ByDirect session job node o)
    (hc : session.nodeClient = some client) (ha : node.internalAddress? = some a)
    (h : job.Written place client (.direct a.address node.kubeletPort) o
      session.directMask.kinds files) :
    Left session job node o place files .direct := by
  have htouches (kind : EndpointKind) :
      Touches session job node o kind ↔ kind ∈ session.directMask.kinds :=
    (or_iff_left fun hp => hp.1 hy).trans (touchesDirect_iff hy.1 hc ha h kind)
  constructor
  · intro tree hsame hnone
    refine Judged.direct hy ⟨client, a, hc, ha, h.holds (fun kind hk => ?_) fun kind hk => ?_⟩
    · exact hsame kind ((htouches kind).2 hk)
    · exact hnone kind (mt (htouches kind).1 hk)
  · intro kind hk
    rw [h.files, if_neg (mt (htouches kind).2 hk)]

section ByProxy

variable {start : Outside} {why : Option Fault} {files : FileTree}
  (hs : ∀ client, session.clusterClient = some client →
    o.script client.side = start.script client.side)
  (hd : ¬ ByDirect session job node start)
  (hcleared : job.Cleared place start (TouchesDirect session job node start) o.files)

include hs hd hcleared

/-- What a pass through the proxy leaves that yields, after a direct pass that did not. -/
theorem Written.left_proxy (hy : ByProxy session job start)
    (hwhy : why.isSome ↔ node.AskedDirectly session) (hc : session.clusterClient = some client)
    (h : job.Written place client (.proxy job.hostUrl (nameText job.node)) o
      session.proxyMask.kinds files) :
    Left session job node start place files (.proxy why) := by
  have hproxy (kind : EndpointKind) :
      TouchesProxy session job start kind ↔ kind ∈ session.proxyMask.kinds :=
    (touchesProxy_congr hs kind).symm.trans (touchesProxy_iff hc h kind)
  constructor
  · intro tree hsame hnone
    refine Judged.proxy why hd hy ⟨client, hc, (holds_congr (hs client hc)).1 ?_⟩ hwhy
    refine h.holds (fun kind hk => hsame kind (Or.inr ⟨hd, (hproxy kind).2 hk⟩)) fun kind hk => ?_
    by_cases ht : TouchesDirect session job node start kind
    · rw [hsame kind (Or.inl ht), h.files, if_neg hk, hcleared.gone kind ht]
    · exact hnone kind fun hor => hor.elim ht fun hp => hk ((hproxy kind).1 hp.2)
  · intro kind hk
    have hnot : kind ∉ session.proxyMask.kinds :=
      fun hmem => hk (Or.inr ⟨hd, (hproxy kind).2 hmem⟩)
    rw [h.files, if_neg hnot, hcleared.kept kind fun ht => hk (Or.inl ht)]

/-- What is left where neither pass yields. -/
theorem Cleared.left_failed (hno : ¬ ByProxy session job start) (cause : Fault)
    (h : job.Cleared place o (TouchesProxy session job o) files) :
    Left session job node start place files (.failed why cause) := by
  have h := h.congr fun kind => (touchesProxy_congr hs kind).symm
  have hgone (kind : EndpointKind) (ht : Touches session job node start kind) :
      files.get? (job.spot place kind) = none := by
    by_cases hp : TouchesProxy session job start kind
    · exact h.gone kind hp
    · rw [h.kept kind hp, hcleared.gone kind (ht.resolve_right fun hor => hp hor.2)]
  constructor
  · intro tree hsame hnone
    refine Judged.failed why cause hd hno fun kind => ?_
    by_cases ht : Touches session job node start kind
    · rw [hsame kind ht, hgone kind ht]
    · exact hnone kind ht
  · intro kind hk
    rw [h.kept kind fun hp => hk (Or.inr ⟨hd, hp⟩), hcleared.kept kind fun ht => hk (Or.inl ht)]

/-- The proxy's part of a visit; nothing asked it since `start`. -/
theorem visitByProxy_lands (hwhy : why.isSome ↔ node.AskedDirectly session)
    (ho : o.files.Opens job.dir place) (hj : job.Orderly) (hr : o.Ordinary)
    (hn : ∀ kind, o.files.get? (job.spot place kind) ≠ some .directory) :
    ∃ verdict o', (Cycle.visitByProxy job session why).outcome o = (.ok verdict, o') ∧
      Left session job node start place o'.files verdict := by
  unfold Cycle.visitByProxy
  obtain ⟨result, o', hout, hend⟩ := proxyPass_lands session ho hj hr hn
  rcases hend with ⟨⟨paths, rfl⟩, ⟨client, hc, hy⟩, client', hc', hwritten⟩ |
    ⟨⟨f, rfl, hf⟩, hno, hempty⟩
  · rw [outcome_bind, Cycle.outcome_reported_ok hout]
    have hy : ByProxy session job start := ⟨client, hc, (yields_congr (hs client hc)).1 hy⟩
    exact ⟨_, o', rfl, hwritten.left_proxy hs hd hcleared hy hwhy hc'⟩
  · rw [outcome_bind, Cycle.outcome_reported_error hout hf]
    refine ⟨_, o', rfl, Cleared.left_failed hs hd hcleared ?_ f hempty⟩
    rintro ⟨client, hc, hy⟩
    exact hno ⟨client, hc, (yields_congr (hs client hc)).2 hy⟩

end ByProxy

/-- Every visit comes to a verdict, and what is on disk bears it out, but for what stood there
and was left alone. -/
theorem visit_lands (hw : session.Wired) (ha : node.Addressed) (ho : o.files.Opens job.dir place)
    (hj : job.Orderly) (hr : o.Ordinary)
    (hn : ∀ kind, o.files.get? (job.spot place kind) ≠ some .directory) :
    ∃ verdict o', (Cycle.visit session job node).outcome o = (.ok verdict, o') ∧
      Left session job node o place o'.files verdict := by
  unfold Cycle.visit
  by_cases hd : node.AskedDirectly session
  · rw [outcome_bind, Cycle.outcome_goesDirect hd]
    obtain ⟨result, o₁, hout, hwithin, hend⟩ := directPass_lands hw hd ha ho hj hr hn
    rcases hend with ⟨⟨paths, rfl⟩, hy, client, a, hc, hia, hwritten⟩ |
      ⟨⟨f, rfl, hf⟩, hno, hcleared⟩
    · simp only [↓reduceIte, outcome_bind, Cycle.outcome_reported_ok hout]
      exact ⟨_, o₁, rfl, hwritten.left_direct hy hc hia⟩
    · simp only [↓reduceIte, outcome_bind, Cycle.outcome_reported_error hout hf, outcome_log]
      -- the direct pass asked nodes only, so the proxy still offers what it did
      have hs (client : Client) (hc : session.clusterClient = some client) :
          o₁.script client.side = o.script client.side := by
        rw [hw.cluster client hc]
        funext line
        refine hwithin.script_unasked fun r hn hc => ?_
        cases hn.symm.trans hc
      have hn' (kind : EndpointKind) : o₁.files.get? (job.spot place kind) ≠ some .directory :=
        fun he => hn kind ((hwithin.directories _).1 he)
      exact visitByProxy_lands hs hno hcleared (by simp [hd]) (hwithin.opens ho) hj
        (hwithin.ordinary hr) hn'
  · obtain ⟨log, hout⟩ := Cycle.outcome_goesDirect_not hd o
    rw [outcome_bind, hout]
    exact visitByProxy_lands (fun _ _ => rfl) (fun h => hd h.1)
      (Cleared.nothing fun kind h => hd h.1) (by simp [hd]) ho hj hr hn

theorem Holds.same {tree files : FileTree} {done : List EndpointKind}
    (h : job.Holds place client endpoints o done tree)
    (hs : ∀ kind, files.get? (job.spot place kind) = tree.get? (job.spot place kind)) :
    job.Holds place client endpoints o done files :=
  ⟨h.whole, fun kind => (hs kind).trans (h.files kind)⟩

end Job

/-- A verdict stands as long as the node's own places stay as they are. -/
theorem Judged.same {session : Session} {job : Job} {node : NodeInfo} {o : Outside}
    {place : Location} {tree files : FileTree} {verdict : Cycle.Verdict}
    (h : Judged session job node o place tree verdict)
    (hs : ∀ kind, files.get? (job.spot place kind) = tree.get? (job.spot place kind)) :
    Judged session job node o place files verdict := by
  cases h with
  | direct hy hkept =>
    obtain ⟨client, a, hc, ha, hholds⟩ := hkept
    exact Judged.direct hy ⟨client, a, hc, ha, hholds.same hs⟩
  | proxy why hd hy hkept hwhy =>
    obtain ⟨client, hc, hholds⟩ := hkept
    exact Judged.proxy why hd hy ⟨client, hc, hholds.same hs⟩ hwhy
  | failed why cause hd hy hbare =>
    exact Judged.failed why cause hd hy fun kind => (hs kind).trans (hbare kind)

theorem Job.Holds.untouched {job : Job} {client : Client} {endpoints : NodeEndpoints} {o : Outside}
    {place : Location} {kinds : List EndpointKind} {files : FileTree} {kind : EndpointKind}
    (h : job.Holds place client endpoints o kinds files)
    (hk : kind ∉ job.touched client endpoints o kinds) :
    files.get? (job.spot place kind) = none := by
  rw [Job.touched_all h.whole] at hk
  rw [h.files, if_neg hk]

/-- Where a visit touched nothing, there is nothing that could bear out a verdict. -/
theorem Judged.untouched {session : Session} {job : Job} {node : NodeInfo} {o : Outside}
    {place : Location} {files : FileTree} {verdict : Cycle.Verdict} {kind : EndpointKind}
    (h : Judged session job node o place files verdict)
    (hk : ¬ Touches session job node o kind) : files.get? (job.spot place kind) = none := by
  cases h with
  | direct hy hkept =>
    obtain ⟨client, a, hc, ha, hholds⟩ := hkept
    exact hholds.untouched fun hmem => hk (Or.inl ⟨hy.1, client, a, hc, ha, hmem⟩)
  | proxy why hd hy hkept hwhy =>
    obtain ⟨client, hc, hholds⟩ := hkept
    exact hholds.untouched fun hmem => hk (Or.inr ⟨hd, client, hc, hmem⟩)
  | failed why cause hd hy hbare => exact hbare kind

namespace Left

variable {session : Session} {job : Job} {node : NodeInfo} {o : Outside} {place : Location}
  {tree files : FileTree} {verdict : Cycle.Verdict}

theorem same (h : Left session job node o place tree verdict)
    (hs : ∀ kind, files.get? (job.spot place kind) = tree.get? (job.spot place kind)) :
    Left session job node o place files verdict where
  judged other hsame := h.judged other fun kind hk => (hsame kind hk).trans (hs kind)
  kept kind hk := (hs kind).trans (h.kept kind hk)

/-- A verdict is borne out if nothing stood before where the visit touched nothing. -/
theorem judged_of_clear (h : Left session job node o place files verdict)
    (hclear : ∀ kind, Touches session job node o kind ∨ o.files.get? (job.spot place kind) = none) :
    Judged session job node o place files verdict := by
  refine h.judged files (fun _ _ => rfl) fun kind hk => ?_
  rw [h.kept kind hk, (hclear kind).resolve_left hk]

/-- If any verdict is borne out, nothing stood before where the visit touched nothing. -/
theorem clear_of_judged (h : Left session job node o place files verdict)
    {other : Cycle.Verdict} (hother : Judged session job node o place files other)
    (kind : EndpointKind) :
    Touches session job node o kind ∨ o.files.get? (job.spot place kind) = none := by
  by_cases hk : Touches session job node o kind
  · exact Or.inl hk
  · exact Or.inr ((h.kept kind hk).symm.trans (hother.untouched hk))

end Left

end KubeletCollector
