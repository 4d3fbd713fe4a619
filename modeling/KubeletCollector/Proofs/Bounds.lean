import KubeletCollector.Proofs.Logic
import KubeletCollector.Proofs.Shape

/-! The walk through a node's collection, from one attempt up to the whole node, in any
logic: what it allows of every download it allows of the node. The same walk tells
which faults can leave a node. -/

namespace KubeletCollector

open Text

variable {L : Act.Logic} {bad : Fault → Prop}

/-- A fault that goes into the report, or one of the `bad` ones. -/
def Spoken (bad : Fault → Prop) (f : Fault) : Prop :=
  Cycle.isReported f = true ∨ bad f

theorem Spoken.system {bad : Fault → Prop} {f : Fault} (h : f.isSystem = true) : Spoken bad f :=
  Or.inl (by simp [Cycle.isReported, h])

theorem Spoken.own {bad : Fault → Prop} {f : Fault} (h : f.isOwn = true) : Spoken bad f :=
  Or.inl (by simp [Cycle.isReported, h])

/-- A path that may be written, and what it may do to the one who uses it. -/
structure Writable (L : Act.Logic) (E : Fault → Prop) (p : Path) : Prop where
  reaches : L.reaches p
  null : p.hasNull = true → E .nullInPath
  refused : ∀ cause, E (.file cause p)

theorem Writable.removeFile {E : Fault → Prop} {p : Path} (h : Writable L E p) :
    L.Holds (fun _ => True) E (Act.removeFile p) :=
  L.removeFile h.reaches h.null h.refused

/-- A download that the logic allows; it is answered with no faults but those of the wire,
those that are reported and the `bad` ones. -/
structure Admits (L : Act.Logic) (bad : Fault → Prop) (client : Client) (d : Client.Download) :
    Prop where
  asks : L.asks (d.request client)
  reaches : L.reaches d.target
  null : d.target.hasNull = true → bad .nullInPath
  replies : ∀ reply, L.answers (d.request client) reply → ∀ f, reply.fault? = some f →
    f.isWire = true ∨ Spoken bad f

namespace Admits

variable {client : Client} {d : Client.Download}

theorem writable (h : Admits L bad client d) : Writable L (Spoken bad) d.target :=
  ⟨h.reaches, fun hn => Or.inr (h.null hn), fun _ => Spoken.system rfl⟩

theorem keep (h : Admits L bad client d) (chunks : List Bytes) {broken : Option Fault}
    (hb : ∀ f, broken = some f → f.isWire = true ∨ Spoken bad f) :
    L.Holds (fun _ => True) (fun f => f.isWire = true ∨ Spoken bad f)
      (Client.keep d chunks broken) := by
  have hw := h.writable
  have hopen := L.openEmpty (E := fun f => f.isWire = true ∨ Spoken bad f) hw.reaches
    (fun hn => Or.inr (hw.null hn)) fun cause => Or.inr (hw.refused cause)
  refine L.bind hopen fun loc hs => ?_
  refine L.bind (L.forM chunks fun bytes _ => L.bind L.await fun _ _ => L.appendTo bytes hs) ?_
  exact fun _ _ => L.bind L.await fun _ _ => L.raiseIf hb

theorem receive (h : Admits L bad client d) {reply : Reply}
    (hr : ∀ f, reply.fault? = some f → f.isWire = true ∨ Spoken bad f) :
    L.Holds (fun _ => True) (fun f => f.isWire = true ∨ Spoken bad f)
      (Client.receive d reply) := by
  cases reply with
  | fault f => exact L.throw (hr f rfl)
  | response status chunks broken =>
    rw [Client.receive_response]
    split
    · exact h.keep chunks hr
    · exact L.throw (Or.inr (Spoken.own rfl))

theorem settle (h : Admits L bad client d) {f : Fault}
    (hf : f.isWire = true ∨ Spoken bad f) :
    L.Holds (fun _ => True) (Spoken bad) (Client.settle d (.error f)) := by
  simp only [Client.settle]
  by_cases hw : f.isWire = true
  · rw [if_pos hw]
    exact L.bind (h.writable.removeFile) fun _ _ => L.throw (Spoken.own rfl)
  · rw [if_neg hw]
    have hspoken := hf.resolve_left hw
    split
    · exact L.bind (h.writable.removeFile) fun _ _ => L.throw hspoken
    · exact L.throw hspoken

theorem transfer (h : Admits L bad client d) :
    L.Holds (fun _ => True) (Spoken bad) (client.transfer d) := by
  rw [Client.transfer_eq]
  refine L.attempt (L.bind (L.exchange h.asks) fun reply hr => h.receive ?_)
    (fun _ _ => L.bind L.await fun _ _ => L.pure trivial) fun f hf =>
      L.bind L.await fun _ _ => h.settle hf
  exact h.replies reply hr

theorem pauseBefore (client : Client) (attempt : Nat) {E : Fault → Prop} :
    L.Holds (fun _ => True) E (client.pauseBefore attempt) := by
  unfold Client.pauseBefore
  split
  · exact L.bind (L.note rfl rfl rfl) fun _ _ => L.await
  · exact L.pure trivial

theorem goOn (attempt : Nat) {rest : Option (Act Unit)} {r : Except Fault Unit}
    (hr : ∀ f, r = .error f → Spoken bad f)
    (hrest : ∀ act, rest = some act → L.Holds (fun _ => True) (Spoken bad) act) :
    L.Holds (fun _ => True) (Spoken bad) (Client.goOn d attempt rest r) := by
  cases r with
  | ok u => exact L.pure trivial
  | error f =>
    simp only [Client.goOn]
    split
    · exact L.throw (hr f rfl)
    · refine L.bind (L.log _ _ _ _) fun _ _ => ?_
      cases rest with
      | none => exact L.throw (hr f rfl)
      | some act => exact hrest act rfl

theorem fetchFrom (h : Admits L bad client d) (more attempt : Nat) :
    L.Holds (fun _ => True) (Spoken bad) (client.fetchFrom d more attempt) := by
  induction more generalizing attempt with
  | zero =>
    rw [Client.fetchFrom_zero]
    refine L.bind (pauseBefore client attempt) fun _ _ => ?_
    exact L.attempt h.transfer (fun _ _ => goOn attempt nofun nofun)
      fun f hf => goOn attempt (by rintro _ ⟨⟩; exact hf) nofun
  | succ more ih =>
    rw [Client.fetchFrom_succ]
    refine L.bind (pauseBefore client attempt) fun _ _ => ?_
    have hrest := ih (attempt + 1)
    exact L.attempt h.transfer (fun _ _ => goOn attempt nofun (by rintro _ ⟨⟩; exact hrest))
      fun f hf => goOn attempt (by rintro _ ⟨⟩; exact hf) (by rintro _ ⟨⟩; exact hrest)

theorem fetch (h : Admits L bad client d) :
    L.Holds (fun _ => True) (Spoken bad) (client.fetch d) :=
  h.fetchFrom client.retries 1

end Admits

structure Passes (L : Act.Logic) (bad : Fault → Prop) (job : Job) (client : Client)
    (endpoints : NodeEndpoints) (kinds : List EndpointKind) : Prop where
  download : ∀ kind ∈ kinds, ∀ url, endpoints.url? kind = some url →
    Admits L bad client (job.download url kind)
  address : ∀ kind ∈ kinds, endpoints.url? kind = none → bad .addressWithoutValue

namespace Passes

variable {job : Job} {client : Client} {endpoints : NodeEndpoints} {kind : EndpointKind}
  {kinds : List EndpointKind}

/-- Where no fault is ruled out, only the requests and the paths count. -/
theorem free (hr : ∀ kind, L.reaches (job.target kind))
    (ha : ∀ kind ∈ kinds, ∀ url, endpoints.url? kind = some url →
      L.asks ((job.download url kind).request client)) :
    Passes L (fun _ => True) job client endpoints kinds where
  download kind hk url hu := ⟨ha kind hk url hu, hr kind, fun _ => trivial,
    fun _ _ _ _ => Or.inr (Or.inr trivial)⟩
  address _ _ _ := trivial

theorem tail (h : Passes L bad job client endpoints (kind :: kinds)) :
    Passes L bad job client endpoints kinds where
  download other ho := h.download other (List.mem_cons_of_mem kind ho)
  address other ho := h.address other (List.mem_cons_of_mem kind ho)

theorem fetchKind (h : Passes L bad job client endpoints kinds) (hk : kind ∈ kinds) :
    L.Holds (Writable L (Spoken bad)) (Spoken bad)
      (job.fetchKind client endpoints kind) := by
  unfold Job.fetchKind
  refine L.bind (L.log _ _ _ _) fun _ _ => ?_
  cases hu : endpoints.url? kind with
  | none => exact L.throw (Or.inr (h.address kind hk hu))
  | some url =>
    have hd := h.download kind hk url hu
    exact L.bind hd.fetch fun _ _ => L.pure hd.writable

theorem passFrom (h : Passes L bad job client endpoints kinds) {written : List Path}
    (hw : ∀ p ∈ written, Writable L (Spoken bad) p) :
    L.Holds (fun _ => True) (Spoken bad)
      (job.passFrom client endpoints written kinds) := by
  induction kinds generalizing written with
  | nil => exact L.pure trivial
  | cons kind kinds ih =>
    rw [Job.passFrom_cons]
    refine L.attempt (h.fetchKind List.mem_cons_self) (fun path hp => ih h.tail ?_) fun f hf => ?_
    · intro p hmem
      rcases List.mem_append.1 hmem with hm | hm
      · exact hw p hm
      · rw [List.mem_singleton.1 hm]
        exact hp
    · simp only [Job.goOn]
      split
      · exact L.bind (L.forM written fun p hp => (hw p hp).removeFile)
          fun _ _ => L.throw hf
      · exact L.throw hf

theorem pass {mask : EndpointMask} (h : Passes L bad job client endpoints mask.kinds) :
    L.Holds (fun _ => True) (Spoken bad) (job.pass client mask endpoints) := by
  unfold Job.pass
  by_cases hm : mask.kinds.isEmpty = true
  · rw [if_pos hm]
    exact L.throw (Spoken.own rfl)
  · rw [if_neg hm]
    exact h.passFrom nofun

end Passes

/-- The clients of a session talk to the sides that they are for. -/
structure Session.Wired (session : Session) : Prop where
  node : ∀ client, session.nodeClient = some client → client.side = .node
  cluster : ∀ client, session.clusterClient = some client → client.side = .cluster

def NodeInfo.AskedDirectly (node : NodeInfo) (session : Session) : Prop :=
  session.mode = .direct ∧ node.isFargate = false

theorem NodeEndpoints.direct_of_url {ip : Option String} {port : Int} {kind : EndpointKind}
    {url : String} (h : (NodeEndpoints.direct ip port).url? kind = some url) :
    ∃ value, ip = some value ∧ url = directUrl value port kind := by
  cases ip with
  | none => cases h
  | some value => exact ⟨value, rfl, (Option.some.inj h).symm⟩

structure Covers (L : Act.Logic) (bad : Fault → Prop) (session : Session) (job : Job)
    (node : NodeInfo) : Prop where
  direct : node.AskedDirectly session → ∀ client a, session.nodeClient = some client →
    node.internalAddress? = some a →
      Passes L bad job client (.direct a.address node.kubeletPort) session.directMask.kinds
  proxy : ∀ client, session.clusterClient = some client →
    Passes L bad job client (.proxy job.hostUrl (nameText job.node)) session.proxyMask.kinds

namespace Covers

open KubeletCollector.Cycle

variable {session : Session} {job : Job} {node : NodeInfo}

theorem directPass (h : Covers L bad session job node) (hd : node.AskedDirectly session) :
    L.Holds (fun _ => True) (Spoken bad) (job.directPass session node) := by
  unfold Job.directPass Directory.address
  cases ha : node.internalAddress? with
  | none => exact L.throw (Spoken.own rfl)
  | some a =>
    cases hc : session.nodeClient with
    | none => exact L.throw (Spoken.own rfl)
    | some client => exact (h.direct hd client a hc ha).pass

theorem proxyPass (h : Covers L bad session job node) :
    L.Holds (fun _ => True) (Spoken bad) (job.proxyPass session) := by
  unfold Job.proxyPass
  cases hc : session.clusterClient with
  | none => exact L.throw (Spoken.own rfl)
  | some client => exact (h.proxy client hc).pass

theorem reported {α : Type} {V : α → Prop} {act : Act α}
    (h : L.Holds V (Spoken bad) act) :
    L.Holds (fun _ => True) bad (Cycle.reported act) := by
  refine L.attempt h (fun _ _ => L.pure trivial) fun f hf => ?_
  by_cases hr : isReported f = true
  · simp only [hr, ↓reduceIte]
    exact L.pure trivial
  · simp only [hr, Bool.false_eq_true, ↓reduceIte]
    exact L.throw (hf.resolve_left hr)

theorem meetsFargate (node : NodeInfo) {E : Fault → Prop} :
    L.Holds (fun b => b = node.isFargate) E (Source.meetsFargate node) := by
  unfold Source.meetsFargate
  cases node.isFargate with
  | true => exact L.bind (L.log _ _ _ _) fun _ _ => L.pure rfl
  | false => exact L.pure rfl

theorem goesDirect (session : Session) (node : NodeInfo) :
    L.Holds (fun b => b = true → node.AskedDirectly session) bad
      (Cycle.goesDirect session node) := by
  unfold Cycle.goesDirect
  by_cases hm : session.mode ≠ .direct
  · rw [if_pos hm]
    exact L.pure nofun
  · rw [if_neg hm]
    refine L.bind (meetsFargate node) fun b hb => L.pure fun hnot => ?_
    exact ⟨Decidable.not_not.1 hm, by simpa [hb] using hnot⟩

theorem visitByProxy (h : Covers L bad session job node) (direct : Option Fault) :
    L.Holds (fun _ => True) bad (Cycle.visitByProxy job session direct) := by
  refine L.bind (reported h.proxyPass) fun r _ => ?_
  cases r <;> exact L.pure trivial

theorem visit (h : Covers L bad session job node) :
    L.Holds (fun _ => True) bad (Cycle.visit session job node) := by
  refine L.bind (goesDirect session node) fun b hb => ?_
  cases b with
  | false => exact h.visitByProxy none
  | true =>
    refine L.bind (reported (h.directPass (hb rfl))) fun r _ => ?_
    cases r with
    | none => exact L.pure trivial
    | some f => exact L.bind (L.log _ _ _ _) fun _ _ => h.visitByProxy (some f)

theorem proxyTask (h : Covers L bad session job node) (direct : Option Fault) :
    (Cycle.proxyTask session job node direct).InStep L.pairing bad
      (Cycle.proxyTask session job node direct) :=
  Task.InStep.stage (reported h.proxyPass) fun _ _ => Task.InStep.ended

theorem task (h : Covers L bad session job node) :
    (nodeTask session job node).InStep L.pairing bad (nodeTask session job node) := by
  refine Task.InStep.stage (goesDirect session node) fun b hb => ?_
  cases b with
  | false => exact h.proxyTask none
  | true =>
    refine Task.InStep.stage (reported (h.directPass (hb rfl))) fun r _ => ?_
    cases r with
    | none => exact Task.InStep.ended
    | some f => exact Task.InStep.stage (L.log _ _ _ _) fun _ _ => h.proxyTask (some f)

theorem collect {plan : Plan} {n : NodeInfo} (h : Covers L bad plan.session (plan.job n) n)
    (report : FailureReport) : L.Holds (fun _ => True) bad (plan.collect report n) :=
  h.task.run report

end Covers

namespace Cycle

open Act

variable {plan : Plan}

theorem holds_inTurn (nodes : List NodeInfo) (report : FailureReport)
    (h : ∀ n ∈ nodes, ∀ report, L.Holds (fun _ => True) bad (plan.collect report n)) :
    L.Holds (fun _ => True) bad (nodes.foldlM plan.collect report) := by
  induction nodes generalizing report with
  | nil => exact L.pure trivial
  | cons n nodes ih =>
    rw [List.foldlM_cons]
    exact L.bind (h n List.mem_cons_self report) fun report _ =>
      ih report fun m hm => h m (List.mem_cons_of_mem n hm)

theorem holds_sideBySide (hL : L.pairing.Sound) (hs : L.pairing.Scheduled)
    (nodes : List NodeInfo) (h : ∀ n ∈ nodes, Covers L bad plan.session (plan.job n) n) :
    L.Holds (fun _ => True) bad (sideBySide plan nodes) := by
  refine inStep_run hL hs ?_ plan.maxConcurrency
  rw [List.forall₂_map_left_iff, List.forall₂_map_right_iff, List.forall₂_same]
  exact fun n hn => (h n hn).task

/-- How many nodes are collected at once, and in which order they take turns, makes no difference. -/
theorem holds_work (hL : L.pairing.Sound) (hs : L.pairing.Scheduled) (nodes : List NodeInfo)
    (h : ∀ n ∈ nodes, Covers L bad plan.session (plan.job n) n) :
    L.Holds (fun _ => True) bad (plan.work nodes) := by
  unfold Plan.work
  refine L.bind (V := fun _ => True) ?_ fun _ _ => L.bind (L.log _ _ _ _) fun _ _ => L.pure trivial
  split
  · exact holds_inTurn nodes {} fun n hn => (h n hn).collect
  · exact holds_sideBySide hL hs nodes h

end Cycle

end KubeletCollector
