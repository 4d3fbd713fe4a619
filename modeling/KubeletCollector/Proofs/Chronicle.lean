import KubeletCollector.Proofs.Accounts
import KubeletCollector.Proofs.Ending
import KubeletCollector.Proofs.Remnants

/-! What a cycle puts on record once its nodes are listed: one block for each node, in the order of
the listing if one node is collected after the other, and mixed if several are at once. A block is a
direct pass, if one can be made, and a proxy pass, if one can be made and no direct pass has succeeded.
A pass goes through the endpoints of its mask in fetch order, and on to the next only once one has
arrived in full. -/

namespace KubeletCollector

open Text Act

namespace Job

/-- What a pass over endpoints puts on record, and whether it succeeds: each endpoint is asked as
often as the law of repetition says, and the next one only if the last reply arrived in full. -/
inductive Passage (job : Job) (client : Client) (endpoints : NodeEndpoints) (o : Outside) :
    List EndpointKind → List Event → Bool → Prop
  | done : Passage job client endpoints o [] [] true
  | next {kind : EndpointKind} {kinds : List EndpointKind} {url : String} {again : Nat}
      {content : Bytes} {more : List Event} {succeeds : Bool} :
      endpoints.url? kind = some url →
      Repeats (job.script client o url kind) client.retries again →
      (job.script client o url kind again).whole? = some content →
      Passage job client endpoints o kinds more succeeds →
      Passage job client endpoints o (kind :: kinds)
        (client.attempts (job.download url kind) again ++ more) succeeds
  | stop {kind : EndpointKind} {kinds : List EndpointKind} {url : String} {again : Nat} :
      endpoints.url? kind = some url →
      Repeats (job.script client o url kind) client.retries again →
      (job.script client o url kind again).whole? = none →
      Passage job client endpoints o (kind :: kinds)
        (client.attempts (job.download url kind) again) false

variable {job : Job} {client : Client} {endpoints : NodeEndpoints} {o o' : Outside}
  {place : Location} {kinds : List EndpointKind}

theorem Passage.congr {events : List Event} {succeeds : Bool} {start : Outside}
    (h : job.Passage client endpoints o kinds events succeeds)
    (hs : ∀ kind, job.Unasked client endpoints start o kind) :
    job.Passage client endpoints start kinds events succeeds := by
  have hscript {kind : EndpointKind} {url : String} (hu : endpoints.url? kind = some url) :
      job.script client o url kind = job.script client start url kind := hs kind url hu
  induction h with
  | done => exact .done
  | next hu hr hw _ ih =>
    rw [hscript hu] at hr hw
    exact .next hu hr hw ih
  | stop hu hr hw =>
    rw [hscript hu] at hr hw
    exact .stop hu hr hw

theorem Ends.repeats {kind : EndpointKind} {before left : Option Bytes}
    {result : Except Fault Unit} {events : List Event} {url : String}
    (h : job.Ends client endpoints o kind before result left events)
    (hu : endpoints.url? kind = some url) (hf : fitsName (job.artifact kind) = true) :
    ∃ again, Repeats (job.script client o url kind) client.retries again ∧
      (job.script client o url kind again).result url = result ∧
      client.attempts (job.download url kind) again = events := by
  cases h with
  | unaddressed hnone => cases hu.symm.trans hnone
  | unfit _ hlong => cases hf.symm.trans hlong
  | asked hu' _ hr =>
    obtain rfl := Option.some.inj (hu.symm.trans hu')
    exact ⟨_, hr, rfl, rfl⟩

/-- Where every endpoint has a URL and every artifact a place, the course of a pass is told by its
record. -/
theorem Course.passage {before : EndpointKind → Option Bytes} {events : List Event}
    {written : List (EndpointKind × Bytes)} {stop : Option Stop}
    (h : job.Course client endpoints o before kinds events written stop)
    (hu : ∀ kind, ∃ url, endpoints.url? kind = some url)
    (hf : ∀ kind, fitsName (job.artifact kind) = true) :
    job.Passage client endpoints o kinds events stop.isNone := by
  induction h with
  | done => exact .done
  | @next kind _ _ _ _ _ _ hends _ ih =>
    obtain ⟨url, hurl⟩ := hu kind
    obtain ⟨again, hr, hresult, rfl⟩ := hends.repeats hurl (hf kind)
    obtain ⟨content, hw⟩ := Reply.whole_of_result hresult
    exact .next hurl hr hw ih
  | @stop kind _ _ _ _ hends =>
    obtain ⟨url, hurl⟩ := hu kind
    obtain ⟨again, hr, hresult, rfl⟩ := hends.repeats hurl (hf kind)
    refine .stop hurl hr ?_
    cases hw : (job.script client o url kind again).whole? with
    | none => rfl
    | some content => cases (Reply.result_whole hw).symm.trans hresult

/-- A pass puts its passage on record, and succeeds if that does. -/
theorem pass_passage (client : Client) (mask : EndpointMask) (hm : mask.kinds ≠ [])
    (hu : ∀ kind, ∃ url, endpoints.url? kind = some url) (ho : o.files.Opens job.dir place)
    (hj : job.Orderly) (hf : ∀ kind, fitsName (job.artifact kind) = true)
    (hd : ∀ kind, o.files.get? (job.spot place kind) ≠ some .directory) :
    ∃ result o' events, (job.pass client mask endpoints).outcome o = (result, o') ∧
      o'.trace = o.trace ++ events ∧
      job.Passage client endpoints o mask.kinds events result.isOk := by
  obtain ⟨before, hb⟩ := stands_of_no_directory hd
  obtain ⟨events, written, stop, o', hcourse, hout, htrace, -⟩ :=
    pass_course client endpoints hm before ho hj hb
  refine ⟨_, o', events, hout, htrace, ?_⟩
  cases stop with
  | none => exact hcourse.passage hu hf
  | some s => exact hcourse.passage hu hf

end Job

inductive DirectPart (session : Session) (job : Job) (node : NodeInfo) (o : Outside) :
    List Event → Bool → Prop
  | made {client : Client} {a : Address} {events : List Event} {succeeds : Bool} :
      node.AskedDirectly session → session.nodeClient = some client →
      node.internalAddress? = some a → session.directMask.kinds ≠ [] →
      job.Passage client (.direct a.address node.kubeletPort) o session.directMask.kinds events
        succeeds →
      DirectPart session job node o events succeeds
  | unmade : ¬ (node.AskedDirectly session ∧ session.nodeClient.isSome ∧
        node.internalAddress?.isSome ∧ session.directMask.kinds ≠ []) →
      DirectPart session job node o [] false

/-- The record of the part of a visit that goes through the proxy, after the node was collected
directly or not. -/
inductive ProxyPart (session : Session) (job : Job) (o : Outside) : Bool → List Event → Prop
  | made {client : Client} {events : List Event} {succeeds : Bool} :
      session.clusterClient = some client → session.proxyMask.kinds ≠ [] →
      job.Passage client (.proxy job.hostUrl (nameText job.node)) o session.proxyMask.kinds events
        succeeds →
      ProxyPart session job o false events
  | unmade : ¬ (session.clusterClient.isSome ∧ session.proxyMask.kinds ≠ []) →
      ProxyPart session job o false []
  | spared : ProxyPart session job o true []

inductive Block (session : Session) (job : Job) (node : NodeInfo) (o : Outside) :
    List Event → Prop
  | parts {direct proxy : List Event} {collected : Bool} :
      DirectPart session job node o direct collected → ProxyPart session job o collected proxy →
      Block session job node o (direct ++ proxy)

theorem ProxyPart.congr {session : Session} {job : Job} {start o : Outside} {collected : Bool}
    {events : List Event} (h : ProxyPart session job o collected events)
    (hs : ∀ client, session.clusterClient = some client →
      o.script client.side = start.script client.side) :
    ProxyPart session job start collected events := by
  cases h with
  | made hc hm hpassage =>
    exact .made hc hm (hpassage.congr fun kind => Job.unasked_of_side (hs _ hc) kind)
  | unmade hno => exact .unmade hno
  | spared => exact .spared

namespace Job

variable {job : Job} {session : Session} {node : NodeInfo} {o o' : Outside} {place : Location}

theorem directPass_part (ha : node.Addressed) (hasked : node.AskedDirectly session)
    (ho : o.files.Opens job.dir place) (hj : job.Orderly)
    (hf : ∀ kind, fitsName (job.artifact kind) = true)
    (hd : ∀ kind, o.files.get? (job.spot place kind) ≠ some .directory) :
    ∃ result o' events, (job.directPass session node).outcome o = (result, o') ∧
      o'.trace = o.trace ++ events ∧ DirectPart session job node o events result.isOk := by
  have hnothing {f : Fault} (hout : (job.directPass session node).outcome o = (.error f, o))
      (hno : ¬ (node.AskedDirectly session ∧ session.nodeClient.isSome ∧
        node.internalAddress?.isSome ∧ session.directMask.kinds ≠ [])) :
      ∃ result o' events, (job.directPass session node).outcome o = (result, o') ∧
        o'.trace = o.trace ++ events ∧ DirectPart session job node o events result.isOk :=
    ⟨.error f, o, [], hout, (List.append_nil _).symm, .unmade hno⟩
  unfold directPass Directory.address at hnothing ⊢
  cases hia : node.internalAddress? with
  | none =>
    simp only [hia] at hnothing ⊢
    exact hnothing rfl (by simp)
  | some a =>
    cases hc : session.nodeClient with
    | none =>
      simp only [hia, hc] at hnothing ⊢
      exact hnothing rfl (by simp)
    | some client =>
      by_cases hm : session.directMask.kinds = []
      · simp only [hia, hc] at hnothing ⊢
        refine hnothing (f := .emptyMask) ?_ (by simp [hm])
        simp only [pass, hm]
        rfl
      · have hu (kind : EndpointKind) :
            ∃ url, (NodeEndpoints.direct a.address node.kubeletPort).url? kind = some url := by
          obtain ⟨ip, hip⟩ := ha a hia
          exact ⟨_, by rw [hip]; rfl⟩
        obtain ⟨result, o', events, hout, htrace, hpassage⟩ :=
          pass_passage client session.directMask hm hu ho hj hf hd
        exact ⟨result, o', events, hout, htrace, .made hasked hc hia hm hpassage⟩

theorem proxyPass_part (session : Session) (ho : o.files.Opens job.dir place) (hj : job.Orderly)
    (hf : ∀ kind, fitsName (job.artifact kind) = true)
    (hd : ∀ kind, o.files.get? (job.spot place kind) ≠ some .directory) :
    ∃ result o' events, (job.proxyPass session).outcome o = (result, o') ∧
      o'.trace = o.trace ++ events ∧ ProxyPart session job o false events := by
  unfold proxyPass
  cases hc : session.clusterClient with
  | none =>
    exact ⟨.error .noClusterClient, o, [], rfl, (List.append_nil _).symm, .unmade (by simp [hc])⟩
  | some client =>
    by_cases hm : session.proxyMask.kinds = []
    · refine ⟨.error .emptyMask, o, [], ?_, (List.append_nil _).symm, .unmade (by simp [hm])⟩
      simp only [pass, hm]
      rfl
    · have hu (kind : EndpointKind) :
          ∃ url, (NodeEndpoints.proxy job.hostUrl (nameText job.node)).url? kind = some url :=
        ⟨_, rfl⟩
      obtain ⟨result, o', events, hout, htrace, hpassage⟩ :=
        pass_passage client session.proxyMask hm hu ho hj hf hd
      exact ⟨result, o', events, hout, htrace, .made hc hm hpassage⟩

/-- The part of a visit that goes through the proxy completes its block. The lines of the API
server are as they were when the visit began. -/
theorem visitByProxy_block {start : Outside} {direct : List Event} (why : Option Fault)
    (hdirect : DirectPart session job node start direct false)
    (htrace : o.trace = start.trace ++ direct)
    (hs : ∀ client, session.clusterClient = some client →
      o.script client.side = start.script client.side)
    (ho : o.files.Opens job.dir place) (hj : job.Orderly) (hr : o.Ordinary)
    (hf : ∀ kind, fitsName (job.artifact kind) = true)
    (hd : ∀ kind, o.files.get? (job.spot place kind) ≠ some .directory) :
    ∃ verdict o' events, (Cycle.visitByProxy job session why).outcome o = (.ok verdict, o') ∧
      o'.trace = start.trace ++ events ∧ Block session job node start events := by
  obtain ⟨result, o', proxy, hout, hproxy, hpart⟩ := proxyPass_part session ho hj hf hd
  obtain ⟨result', o'', hlands, hend⟩ := proxyPass_lands session ho hj hr hd
  cases hout.symm.trans hlands
  have hblock := Block.parts hdirect (hpart.congr hs)
  rw [htrace, List.append_assoc] at hproxy
  unfold Cycle.visitByProxy
  rw [outcome_bind]
  rcases hend with ⟨⟨paths, rfl⟩, -⟩ | ⟨⟨f, rfl, hreported⟩, -⟩
  · rw [Cycle.outcome_reported_ok hout]
    exact ⟨_, o', _, rfl, hproxy, hblock⟩
  · rw [Cycle.outcome_reported_error hout hreported]
    exact ⟨_, o', _, rfl, hproxy, hblock⟩

/-- A visit puts its block on record. -/
theorem visit_block (hw : session.Wired) (ha : node.Addressed)
    (ho : o.files.Opens job.dir place) (hj : job.Orderly) (hr : o.Ordinary)
    (hf : ∀ kind, fitsName (job.artifact kind) = true)
    (hd : ∀ kind, o.files.get? (job.spot place kind) ≠ some .directory) :
    ∃ verdict o' events, (Cycle.visit session job node).outcome o = (.ok verdict, o') ∧
      o'.trace = o.trace ++ events ∧ Block session job node o events := by
  unfold Cycle.visit
  by_cases hasked : node.AskedDirectly session
  · rw [outcome_bind, Cycle.outcome_goesDirect hasked]
    simp only [↓reduceIte]
    obtain ⟨result, o₁, direct, hout, htrace, hpart⟩ := directPass_part ha hasked ho hj hf hd
    obtain ⟨result', o₁', hlands, hwithin, hend⟩ := directPass_lands hw hasked ha ho hj hr hd
    cases hout.symm.trans hlands
    rw [outcome_bind]
    rcases hend with ⟨⟨paths, rfl⟩, -⟩ | ⟨⟨f, rfl, hreported⟩, -⟩
    · rw [Cycle.outcome_reported_ok hout]
      refine ⟨.direct, o₁, direct, rfl, htrace, ?_⟩
      simpa using Block.parts hpart .spared
    · rw [Cycle.outcome_reported_error hout hreported]
      simp only [outcome_bind, outcome_log]
      have hs : ∀ client, session.clusterClient = some client →
          o₁.script client.side = o.script client.side := by
        intro client hc
        rw [hw.cluster client hc]
        funext line
        refine hwithin.script_unasked fun r hn hc => ?_
        cases hn.symm.trans hc
      exact visitByProxy_block (some f) hpart htrace hs (hwithin.opens ho) hj
        (hwithin.ordinary hr) hf fun kind he => hd kind ((hwithin.directories _).1 he)
  · obtain ⟨log, hout⟩ := Cycle.outcome_goesDirect_not hasked o
    rw [outcome_bind, hout]
    exact visitByProxy_block none (.unmade fun h => hasked h.1) (List.append_nil _).symm
      (fun _ _ => rfl) ho hj hr hf hd

end Job

namespace Cycle

/-- The record of the visits to some nodes, one block after the other, each told from how things
stood when its node's turn came. -/
inductive Plan.Chronicle (plan : Plan) : Outside → List NodeInfo → List Event → Prop
  | nil (o : Outside) : Chronicle plan o [] []
  | cons {n : NodeInfo} {nodes : List NodeInfo} {verdict : Verdict} {o o₁ : Outside}
      {events more : List Event} :
      (visit plan.session (plan.job n) n).outcome o = (.ok verdict, o₁) →
      Block plan.session (plan.job n) n o events → Chronicle plan o₁ nodes more →
      Chronicle plan o (n :: nodes) (events ++ more)

variable {plan : Plan} {place : Location} {o o₁ : Outside} {nodes : List NodeInfo}

theorem inTurn_chronicle (report : FailureReport) (hs : ∀ n ∈ nodes, plan.Serves place o [n])
    (hf : ∀ n ∈ nodes, ∀ kind, fitsName ((plan.job n).artifact kind) = true)
    (hd : ∀ n ∈ nodes, ∀ kind,
      o.files.get? ((plan.job n).spot place kind) ≠ some .directory) :
    ∃ report' o' events, (nodes.foldlM plan.collect report).outcome o = (.ok report', o') ∧
      o'.trace = o.trace ++ events ∧ plan.Chronicle o nodes events := by
  induction nodes generalizing report o with
  | nil => exact ⟨report, o, [], rfl, (List.append_nil _).symm, .nil o⟩
  | cons n nodes ih =>
    have hn := hs n List.mem_cons_self
    obtain ⟨verdict, o₁, events, hvisit, htrace, hblock⟩ :=
      Job.visit_block hn.wired (hn.addressed n List.mem_cons_self) hn.opens
        (hn.orderly List.mem_cons_self) hn.ordinary (hf n List.mem_cons_self)
        (hd n List.mem_cons_self)
    obtain ⟨verdict', o₁', hout, hwithin⟩ := hn.visit List.mem_cons_self
    cases hvisit.symm.trans hout
    obtain ⟨report', o', more, hrest, htrace', hchronicle⟩ := ih (verdict.enter n report)
      (fun m hm => (hs m (List.mem_cons_of_mem n hm)).within hwithin)
      (fun m hm => hf m (List.mem_cons_of_mem n hm))
      (fun m hm kind he =>
        hd m (List.mem_cons_of_mem n hm) kind ((hwithin.directories _).1 he))
    refine ⟨report', o', events ++ more, ?_, ?_, .cons hvisit hblock hchronicle⟩
    · have hcollect : (plan.collect report n).outcome o = (.ok (verdict.enter n report), o₁) := by
        unfold Plan.collect Plan.task
        rw [run_nodeTask, outcome_bind, hvisit]
        rfl
      rw [List.foldlM_cons, outcome_bind, hcollect]
      exact hrest
    · rw [htrace', htrace, List.append_assoc]

/-- A cycle that collects one node after the other puts on record the blocks of the ready nodes, in the
order of the listing and nothing else. Nodes may share a name. -/
theorem collect_chronicle {backoff : Backoff} (hturn : plan.maxConcurrency ≤ 1)
    (hl : (Directory.readyNodes backoff).outcome o = (.ok nodes, o₁))
    (hs : ∀ n ∈ nodes, plan.Serves place o [n])
    (hf : ∀ n ∈ nodes, ∀ kind, fitsName ((plan.job n).artifact kind) = true)
    (hd : ∀ n ∈ nodes, ∀ kind,
      o.files.get? ((plan.job n).spot place kind) ≠ some .directory) :
    ∃ report o' events, (collect plan backoff).outcome o = (.ok report, o') ∧
      o'.trace = o₁.trace ++ events ∧ plan.Chronicle o₁ nodes events := by
  have hlisted := (Directory.readyNodes_within Scope.idle hl).1
  obtain ⟨report, o', events, hout, htrace, hchronicle⟩ := inTurn_chronicle {}
    (fun n hn => (hs n hn).within hlisted) hf
    (fun n hn kind he => hd n hn kind ((hlisted.directories _).1 he))
  have hcollect : ∃ log, (collect plan backoff).outcome o = (.ok report, { o' with log }) := by
    rw [outcome_collect_listed plan hl, Plan.work, if_pos hturn, inTurn, outcome_bind, hout]
    exact ⟨_, rfl⟩
  obtain ⟨log, hcollect⟩ := hcollect
  exact ⟨report, _, events, hcollect, htrace, hchronicle⟩

/-- Where several nodes are collected at once their blocks are mixed. But the requests of each node are
still those of a block, told from the replies that the node was dealt. -/
theorem collect_blocks {backoff : Backoff}
    (hl : (Directory.readyNodes backoff).outcome o = (.ok nodes, o₁))
    (h : plan.Serves place o nodes)
    (hf : ∀ n ∈ nodes, ∀ kind, fitsName ((plan.job n).artifact kind) = true)
    (hd : ∀ n ∈ nodes, ∀ kind,
      o.files.get? ((plan.job n).spot place kind) ≠ some .directory) :
    ∃ report o' order, (collect plan backoff).outcome o = (.ok report, o') ∧
      o₁.asked o' = order.map Prod.snd ∧ ∀ i n, nodes[i]? = some n → ∃ hand events,
        plan.Hand i n o₁ order hand ∧ Block plan.session (plan.job n) n hand events ∧
          requests events = part i order := by
  have hlisted := (Directory.readyNodes_within Scope.idle hl).1
  have h₁ := h.within hlisted
  obtain ⟨order, report, o', hruns⟩ := h₁.runs
  have hcollect := (outcome_collect_listed plan hl).trans hruns.work
  refine ⟨report, o', order, hcollect, hruns.asked, fun i n hi => ?_⟩
  have hn := List.mem_of_getElem? hi
  obtain ⟨hand, verdict, done, hhand, hserves, hsolo⟩ := hruns.hand h₁ hi
  have hd' (kind : EndpointKind) :
      hand.files.get? ((plan.job n).spot place kind) ≠ some .directory := by
    rw [hhand.restocked.files]
    exact fun he => hd n hn kind ((hlisted.directories _).1 he)
  obtain ⟨verdict', done', events, hvisit, htrace, hblock⟩ :=
    Job.visit_block hserves.wired (hserves.addressed n hn) hserves.opens (hserves.orderly hn)
      hserves.ordinary (hf n hn) hd'
  cases hsolo.visit.symm.trans hvisit
  refine ⟨hand, events, hhand, hblock, ?_⟩
  rw [← hsolo.asked, Outside.asked, htrace, List.drop_left]

theorem fits_of_two : ∀ n ∈ Sample.nodes, ∀ kind,
    fitsName ((Sample.plan.job n).artifact kind) = true := by
  intro n hn kind
  simp only [Sample.nodes, List.mem_cons, List.not_mem_nil, or_false] at hn
  rcases hn with rfl | rfl <;> cases kind <;> decide +kernel

/-- The record of a cycle over two nodes, of which the first has to be asked twice and the second
needs the proxy. -/
theorem chronicle_of_two :
    (∀ n ∈ Sample.nodes, Sample.plan.Serves [] Sample.outside [n]) ∧
      ∃ report o' events,
        (collect Sample.plan { steps := 1 }).outcome Sample.outside = (.ok report, o') ∧
        o'.trace = Sample.listing.trace ++ events ∧
        Sample.plan.Chronicle Sample.listing Sample.nodes events := by
  have hserves : ∀ n ∈ Sample.nodes, Sample.plan.Serves [] Sample.outside [n] := fun n hn =>
    Sample.serves.subset (List.cons_subset.2 ⟨hn, List.nil_subset _⟩) (by simp)
  refine ⟨hserves, collect_chronicle (by decide) Sample.listed hserves fits_of_two fun n hn kind => ?_⟩
  rw [Sample.bare n hn kind]
  exact nofun

end Cycle

end KubeletCollector
