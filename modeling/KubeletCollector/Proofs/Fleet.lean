import KubeletCollector.Proofs.Listing
import KubeletCollector.Proofs.Verdicts

/-! The nodes of a cycle. Each has places of its own that no other one writes. As long as nothing fails
but the wire and the system, a visit of each comes to a verdict, and the work on all of them to a
report, whichever way they take turns. -/

namespace KubeletCollector

open Text Act

structure PlainText (s : String) : Prop where
  whole : '/' ∉ s.toList
  clean : Char.ofNat 0 ∉ s.toList

theorem Job.orderly_of_plain {job : Job} (hs : PlainText job.artifactPrefix)
    (hn : PlainText (nameText job.node)) : job.Orderly :=
  ⟨fun kind => plain_artifactName kind hs.whole hn.whole,
    fun kind => null_notMem_artifactName kind hs.clean hn.clean⟩

namespace Cycle

def Plan.Asks (plan : Plan) (node : NodeInfo) (r : Request) : Prop :=
  ∃ kind : EndpointKind, r.method = kind.method ∧
    ((r.side = .node ∧ node.AskedDirectly plan.session ∧ ∃ a ip, node.internalAddress? = some a ∧
        a.address = some ip ∧ r.url = directUrl ip node.kubeletPort kind) ∨
      (r.side = .cluster ∧ r.url = proxyUrl plan.hostUrl (nameText node.name) kind))

def Plan.scope (plan : Plan) (place : Location) (nodes : List NodeInfo) : Scope where
  asks r := ∃ n ∈ nodes, plan.Asks n r
  writes loc := ∃ n ∈ nodes, ∃ kind, loc = (plan.job n).spot place kind

/-- What a cycle is promised: its directory is there, its nodes have names of their own
that can be parts of files' names, and nothing fails but the wire and the system. -/
structure Plan.Serves (plan : Plan) (place : Location) (o : Outside) (nodes : List NodeInfo) :
    Prop where
  wired : plan.session.Wired
  opens : o.files.Opens plan.dir place
  ordinary : o.Ordinary
  start : PlainText plan.artifactPrefix
  named : ∀ n ∈ nodes, ∃ name, n.name = some name ∧ PlainText name
  distinct : (nodes.map NodeInfo.name).Nodup
  addressed : ∀ n ∈ nodes, n.Addressed

section Asking

variable {plan : Plan} {n : NodeInfo} {client : Client} {kind : EndpointKind} {url : String}

theorem Plan.asks_direct (hw : plan.session.Wired) (hc : plan.session.nodeClient = some client)
    (hd : n.AskedDirectly plan.session) {a : Address} (ha : n.internalAddress? = some a)
    (hu : (NodeEndpoints.direct a.address n.kubeletPort).url? kind = some url) :
    plan.Asks n (((plan.job n).download url kind).request client) := by
  obtain ⟨ip, hip, rfl⟩ := NodeEndpoints.direct_of_url hu
  exact ⟨kind, rfl, Or.inl ⟨hw.node client hc, hd, a, ip, ha, hip, rfl⟩⟩

theorem Plan.asks_proxy (hw : plan.session.Wired) (hc : plan.session.clusterClient = some client)
    (hu : (NodeEndpoints.proxy plan.hostUrl (nameText n.name)).url? kind = some url) :
    plan.Asks n (((plan.job n).download url kind).request client) :=
  ⟨kind, rfl, Or.inr ⟨hw.cluster client hc, (Option.some.inj hu).symm⟩⟩

end Asking

namespace Plan.Serves

variable {plan : Plan} {place : Location} {o o' : Outside} {nodes : List NodeInfo} {n m : NodeInfo}

theorem within {scope : Scope} (h : plan.Serves place o nodes) (hw : Within scope o o') :
    plan.Serves place o' nodes :=
  { h with opens := hw.opens h.opens, ordinary := hw.ordinary h.ordinary }

theorem subset {some : List NodeInfo} (h : plan.Serves place o nodes) (hs : some ⊆ nodes)
    (hd : (some.map NodeInfo.name).Nodup) : plan.Serves place o some :=
  { h with
    named := fun n hn => h.named n (hs hn)
    distinct := hd
    addressed := fun n hn => h.addressed n (hs hn) }

theorem sideways (h : plan.Serves place o nodes) (k : Int) :
    Plan.Serves { plan with maxConcurrency := k } place o nodes :=
  ⟨h.wired, h.opens, h.ordinary, h.start, h.named, h.distinct, h.addressed⟩

theorem orderly (h : plan.Serves place o nodes) (hn : n ∈ nodes) : (plan.job n).Orderly := by
  obtain ⟨name, hname, hplain⟩ := h.named n hn
  have hnode : nameText (plan.job n).node = name := by simp [Plan.job, hname, nameText]
  exact Job.orderly_of_plain h.start (hnode ▸ hplain)

/-- Nodes with different names have no place in common. -/
theorem apart (h : plan.Serves place o nodes) (hn : n ∈ nodes) (hm : m ∈ nodes)
    (hne : n.name ≠ m.name) (kind kind' : EndpointKind) :
    (plan.job n).spot place kind ≠ (plan.job m).spot place kind' := by
  obtain ⟨name, hname, -⟩ := h.named n hn
  obtain ⟨name', hname', -⟩ := h.named m hm
  intro he
  have ha := (artifactName_inj (List.cons.inj (List.append_cancel_left he)).1).1
  simp only [Plan.job, hname, hname', nameText, Option.getD_some] at ha
  exact hne (by rw [hname, hname', ha])

theorem covers {L : Act.Logic} (h : plan.Serves place o nodes) (hn : n ∈ nodes)
    (ha : ∀ r, plan.Asks n r → L.asks r) (hreach : ∀ kind, L.reaches ((plan.job n).target kind))
    (hr : ∀ r reply, L.answers r reply → reply.Ordinary) :
    Covers L (fun _ => False) plan.session (plan.job n) n where
  direct hd client a hc hia := by
    have hu (kind : EndpointKind) :
        ∃ url, (NodeEndpoints.direct a.address n.kubeletPort).url? kind = some url := by
      obtain ⟨ip, hip⟩ := h.addressed n hn a hia
      exact ⟨_, by rw [hip]; rfl⟩
    refine Job.passes hu h.opens.clean (h.orderly hn) hreach hr fun kind url hurl => ?_
    exact ha _ (Plan.asks_direct h.wired hc hd hia hurl)
  proxy client hc := by
    refine Job.passes (fun _ => ⟨_, rfl⟩) h.opens.clean (h.orderly hn) hreach hr fun kind url hurl => ?_
    exact ha _ (Plan.asks_proxy h.wired hc hurl)

theorem covers_within {scope : Scope} (h : plan.Serves place o nodes) (hn : n ∈ nodes)
    (ha : ∀ r, plan.Asks n r → scope.asks r)
    (hs : ∀ kind, scope.writes ((plan.job n).spot place kind)) :
    Covers (scope.logic o) (fun _ => False) plan.session (plan.job n) n :=
  h.covers hn ha (fun kind => Job.reaches_target h.opens (h.orderly hn) (hs kind))
    fun _ _ => h.ordinary.answers

theorem covers_own (h : plan.Serves place o nodes) (hn : n ∈ nodes) :
    Covers ((plan.scope place nodes).logic o) (fun _ => False) plan.session (plan.job n) n :=
  h.covers_within hn (fun _ hr => ⟨n, hn, hr⟩) fun kind => ⟨n, hn, kind, rfl⟩

theorem work (h : plan.Serves place o nodes) : ∃ report o',
    (plan.work nodes).outcome o = (.ok report, o') ∧ Within (plan.scope place nodes) o o' := by
  let scope := plan.scope place nodes
  have hholds : (scope.logic o).Holds (fun _ => True) (fun _ => False) (plan.work nodes) :=
    holds_work (scope.sound o) (scope.scheduled o) nodes fun n hn => h.covers_own hn
  obtain ⟨report, o', hout, -, hw⟩ := hholds.keeps.returns (Within.refl _ o)
  exact ⟨report, o', hout, hw⟩

theorem visit (h : plan.Serves place o nodes) (hn : n ∈ nodes) :
    ∃ verdict o', (Cycle.visit plan.session (plan.job n) n).outcome o = (.ok verdict, o') ∧
      Within (plan.scope place [n]) o o' := by
  have hc : Covers ((plan.scope place [n]).logic o) (fun _ => False) plan.session (plan.job n) n :=
    h.covers_within hn (fun r hr => ⟨n, by simp, hr⟩) fun kind => ⟨n, by simp, kind, rfl⟩
  obtain ⟨verdict, o', hout, -, hw⟩ := hc.visit.keeps.returns (Within.refl _ o)
  exact ⟨verdict, o', hout, hw⟩

theorem left {verdict : Verdict} (h : plan.Serves place o nodes) (hn : n ∈ nodes)
    (hd : ∀ kind, o.files.get? ((plan.job n).spot place kind) ≠ some .directory)
    (hout : (Cycle.visit plan.session (plan.job n) n).outcome o = (.ok verdict, o')) :
    Left plan.session (plan.job n) n o place o'.files verdict := by
  obtain ⟨verdict', o₁, hlands, hleft⟩ := Job.visit_lands h.wired (h.addressed n hn) h.opens
    (h.orderly hn) h.ordinary hd
  cases hlands.symm.trans hout
  exact hleft

end Plan.Serves

end Cycle

/-! Two nodes, of which the second answers only through the proxy. -/

namespace Sample

open KubeletCollector.Cycle

def session : Session where
  mode := .direct
  directMask := { summary := true }
  proxyMask := { summary := true, cadvisor := true }
  nodeClient := some { side := .node }
  clusterClient := some { side := .cluster }
  probedAt := { year := 2026, month := 1, day := 2, hour := 3, minute := 4, second := 5 }

def plan : Plan where
  session
  artifactPrefix := "agent"
  dir := ⟨.root, []⟩
  hostUrl := "http://api"

/-- Both nodes at once. -/
def sideways : Plan :=
  { plan with maxConcurrency := 2 }

def outside : Outside where
  schedule := [.letIn, .letIn, .go 1, .go 0, .go 1, .go 0]
  listings := [.nodes [some (described "a" "10.0.0.1"), some (described "b" "10.0.0.2")]]
  nodeRoutes := [("GET https://10.0.0.1:10250/stats/summary",
    [.fault (.wire .read "cut"), .response 200 [[65], [66]] none])]
  clusterRoutes := [
    ("GET http://api/api/v1/nodes/b/proxy/stats/summary", [.response 200 [[67]] none]),
    ("GET http://api/api/v1/nodes/b/proxy/metrics/cadvisor", [.response 200 [] none])]

def nodes : List NodeInfo := [node "a" "10.0.0.1", node "b" "10.0.0.2"]

def listing : Outside :=
  { outside with trace := outside.trace ++ [.listed] }

theorem listed : (Directory.readyNodes { steps := 1 }).outcome outside = (.ok nodes, listing) :=
  listed_described [("a", "10.0.0.1"), ("b", "10.0.0.2")] rfl (by decide)

theorem opens : outside.files.Opens plan.dir [] := ⟨rfl, rfl, rfl⟩

theorem serves : plan.Serves [] outside nodes where
  wired := ⟨by rintro _ ⟨⟩; rfl, by rintro _ ⟨⟩; rfl⟩
  opens := opens
  ordinary := by
    apply Outside.ordinary_of_routes
    · simp [outside, Reply.Ordinary, Reply.fault?, Fault.isWire]
    · simp [outside, Reply.Ordinary, Reply.fault?]
  start := ⟨by decide, by decide⟩
  named := by
    intro n hn
    simp only [nodes, List.mem_cons, List.not_mem_nil, or_false] at hn
    rcases hn with rfl | rfl
    · exact ⟨"a", rfl, by decide, by decide⟩
    · exact ⟨"b", rfl, by decide, by decide⟩
  distinct := by decide
  addressed := by
    intro n hn a ha
    simp only [nodes, List.mem_cons, List.not_mem_nil, or_false] at hn
    rcases hn with rfl | rfl <;> cases ha <;> exact ⟨_, rfl⟩

theorem bare : ∀ n ∈ nodes, (plan.job n).Bare [] outside.files := by
  intro n hn kind
  simp [Job.spot, FileTree.get?, outside]

end Sample

end KubeletCollector
