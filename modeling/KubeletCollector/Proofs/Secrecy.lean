import KubeletCollector.Proofs.Blur
import KubeletCollector.Proofs.Choice
import KubeletCollector.Proofs.Turns

/-! What the bearer tokens have influence on. A token goes into one header of a client's requests
and nowhere else, so two runs with different tokens do the same, and come to the same, once that
header is left out of what is on record. -/

namespace KubeletCollector

open Text Act

/-- The request without what shows who sends it. -/
def Request.bare (r : Request) : Request :=
  { r with headers := r.headers.filter fun header => header.1 ≠ "Authorization" }

def Event.bare : Event → Event
  | .requested r => .requested r.bare
  | event => event

def Outside.bare (o : Outside) : Outside :=
  { o with trace := o.trace.map Event.bare }

def Client.showing (client : Client) (token : String) : Client :=
  { client with token }

def Session.showing (session : Session) (token token' : String) : Session :=
  { session with
    nodeClient := session.nodeClient.map (·.showing token)
    clusterClient := session.clusterClient.map (·.showing token') }

/-- Traces may differ in the headers of their requests. -/
def Blur.headers : Blur where
  traces trace trace' := trace'.map Event.bare = trace.map Event.bare
  logs log log' := log' = log
  noted {trace trace' event} h _ := by rw [List.map_append, List.map_append, h]
  logged r h := by rw [h]

theorem Blur.headers_refl (o : Outside) : Blur.headers.Hides o o :=
  ⟨o.trace, o.log, rfl, rfl, rfl⟩

theorem Blur.Hides.bare {o a : Outside} (h : Blur.headers.Hides o a) : a.bare = o.bare := by
  obtain ⟨trace, log, rfl, ht, rfl⟩ := h
  unfold Outside.bare
  rw [ht]

def Session.bare (session : Session) : Session :=
  session.showing "" ""

def Source.bare : Source → Source
  | .usable session => .usable session.bare
  | .unreachable session cause => .unreachable session.bare cause

def CollectionState.bare (state : CollectionState) : CollectionState :=
  { state with session := state.session.map Session.bare }

theorem Session.bare_showing (session : Session) (token token' : String) :
    (session.showing token token').bare = session.bare := by
  unfold Session.bare Session.showing
  simp only [Option.map_map]
  rfl

namespace Act

variable {α β γ : Type} {R : Outside → Outside → Prop} {view : β → γ}

/-- From related outsides the two actions end alike for a view of their values, and they leave
related outsides. -/
def AgreesTo (R : Outside → Outside → Prop) (view : β → γ) (act act' : Act β) : Prop :=
  ∀ o a, R o a → (act'.outcome a).1.map view = (act.outcome o).1.map view ∧
    R (act.outcome o).2 (act'.outcome a).2

theorem AgreesTo.pure {v w : β} (h : view w = view v) : AgreesTo R view (pure v) (pure w) :=
  fun _ _ hr => ⟨congrArg Except.ok h, hr⟩

theorem AgreesTo.throw (f : Fault) : AgreesTo R view (throw f) (throw f) :=
  fun _ _ hr => ⟨rfl, hr⟩

theorem AgreesTo.ite (c : Prop) [Decidable c] {act act' other other' : Act β}
    (h : AgreesTo R view act act') (ho : AgreesTo R view other other') :
    AgreesTo R view (if c then act else other) (if c then act' else other') := by
  split
  · exact h
  · exact ho

theorem Agrees.to {act act' : Act β} (h : Agrees R act act') : AgreesTo R view act act' :=
  fun o a hr => ⟨congrArg (Except.map view) (h o a hr).1, (h o a hr).2⟩

theorem Agrees.bindTo {act act' : Act α} {next next' : α → Act β} (h : Agrees R act act')
    (hn : ∀ v, AgreesTo R view (next v) (next' v)) :
    AgreesTo R view (act >>= next) (act' >>= next') := by
  intro o a hr
  obtain ⟨he, hr'⟩ := h o a hr
  rw [outcome_bind, outcome_bind]
  rcases ho : act.outcome o with ⟨f | v, o'⟩ <;> rcases ha : act'.outcome a with ⟨g | w, a'⟩ <;>
    rw [ho, ha] at he hr' <;> cases he
  · exact ⟨rfl, hr'⟩
  · exact hn v o' a' hr'

end Act

/-- The two runs. They may do anything, as long as their requests are alike when bare. -/
def Pairing.tokens : Pairing where
  rel := Blur.headers.Hides
  moves _ _ := True
  asks r r' := r'.bare = r.bare
  answers _ _ := True

namespace Pairing

variable {r r' : Request} {o a : Outside}

theorem reply_tokens (h : r'.bare = r.bare) (ho : Blur.headers.Hides o a) :
    a.reply r' = o.reply r := by
  obtain ⟨trace, log, rfl, -, -⟩ := ho
  have hside : r'.side = r.side := show r'.bare.side = r.bare.side by rw [h]
  have hline : r'.line = r.line := show r'.bare.line = r.bare.line by rw [h]
  unfold Outside.reply
  rw [hside, hline]
  cases r.side <;> rfl

theorem sent_tokens (h : r'.bare = r.bare) (ho : Blur.headers.Hides o a) :
    Blur.headers.Hides (o.afterRequest r) (a.afterRequest r') := by
  obtain ⟨trace, log, rfl, ht, rfl⟩ := ho
  have hside : r'.side = r.side := show r'.bare.side = r.bare.side by rw [h]
  have hline : r'.line = r.line := show r'.bare.line = r.bare.line by rw [h]
  have hlast : [Event.requested r'].map Event.bare = [Event.requested r].map Event.bare := by
    simp [Event.bare, h]
  have htraces : (trace ++ [Event.requested r']).map Event.bare =
      (o.trace ++ [Event.requested r]).map Event.bare := by
    rw [List.map_append, List.map_append, ht, hlast]
  unfold Outside.afterRequest
  rw [hside, hline]
  refine ⟨trace ++ [.requested r'], o.log, ?_, ?_, ?_⟩
  · cases r.side <;> rfl
  · cases r.side <;> exact htraces
  · cases r.side <;> rfl

theorem sound_tokens : tokens.Sound where
  refl _ := trivial
  trans _ _ := trivial
  reply h ho := ⟨reply_tokens h ho, trivial⟩
  sent h ho := ⟨sent_tokens h ho, trivial, trivial⟩

theorem scheduled_tokens : tokens.Scheduled where
  same := by
    rintro o _ ⟨trace, log, rfl, -, -⟩
    rfl
  set := by
    rintro o _ schedule ⟨trace, log, rfl, ht, hl⟩
    exact ⟨trace, log, rfl, ht, hl⟩
  did _ _ := trivial

end Pairing

namespace Act

variable {α β : Type}

/-- The two actions go in step, apart from the tokens that they show. -/
def Echoes (act act' : Act α) : Prop :=
  act.InStep Pairing.tokens (fun _ => True) (fun _ => True) act'

namespace Echoes

variable {act act' : Act α}

theorem agrees (h : Echoes act act') : Agrees Blur.headers.Hides act act' := by
  intro o a hr
  obtain ⟨hsame, hbeside, -⟩ := Pairing.sound_tokens.outcome h hr
  exact ⟨hsame, hbeside.rel⟩

theorem immediate (hact : act = Act.atomic act.outcome) (h : Agrees Blur.headers.Hides act act) :
    Echoes act act := by
  refine InStep.immediate hact hact fun o a hr => ?_
  obtain ⟨hsame, hrel⟩ := h o a hr
  refine ⟨hrel, trivial, trivial, hsame, ?_⟩
  split <;> trivial

theorem pure (v : α) : Echoes (pure v) (pure v) :=
  InStep.pure trivial

theorem throw (f : Fault) : Echoes (throw f : Act α) (throw f) :=
  InStep.throw trivial

theorem bind {next next' : α → Act β} (h : Echoes act act')
    (hn : ∀ v, Echoes (next v) (next' v)) : Echoes (act >>= next) (act' >>= next') :=
  InStep.bind h fun v _ => hn v

theorem attempt {next next' : Except Fault α → Act β} (h : Echoes act act')
    (hn : ∀ result, Echoes (next result) (next' result)) :
    Echoes (Act.attempt act >>= next) (Act.attempt act' >>= next') :=
  InStep.attempt h (fun v _ => hn (.ok v)) fun f _ => hn (.error f)

theorem ite (c : Prop) [Decidable c] {other other' : Act α} (h : Echoes act act')
    (ho : Echoes other other') : Echoes (if c then act else other) (if c then act' else other') :=
  InStep.ite c h ho

theorem forM {each : β → Act Unit} (bs : List β) (h : ∀ b, Echoes (each b) (each b)) :
    Echoes (bs.forM each) (bs.forM each) :=
  InStep.forM bs fun b _ => h b

theorem await : Echoes Act.await Act.await :=
  InStep.await

theorem raiseIf (f : Option Fault) : Echoes (Act.raiseIf f) (Act.raiseIf f) := by
  cases f with
  | none => exact Echoes.pure ()
  | some f => exact Echoes.throw f

theorem log (level : LogLevel) (component event : String) (fields : List (String × LogValue)) :
    Echoes (Act.log level component event fields) (Act.log level component event fields) :=
  immediate rfl (Blur.headers.log level component event fields)

theorem removeFile (p : Path) : Echoes (Act.removeFile p) (Act.removeFile p) :=
  immediate (Act.atomic_eq _) (Blur.headers.removeFile p)

end Echoes

end Act

namespace Client

variable (client : Client) (token token' : String)

theorem bare_headers :
    (client.headers.filter fun header => header.1 ≠ "Authorization") = [] := by
  unfold headers
  split <;> rfl

theorem bare_request (d : Download) : (d.request (client.showing token')).bare =
    (d.request (client.showing token)).bare := by
  unfold Download.request Request.bare
  simp only [List.filter_append, bare_headers]
  rfl

variable {client token token'}

/-- Agreeing on what a client does with one token and with another. -/
theorem agrees_probe (url method : String) (timeout : Option Float) :
    Agrees Blur.headers.Hides ((client.showing token).probe url method timeout)
      ((client.showing token').probe url method timeout) := by
  unfold Client.probe
  refine Agrees.bind (Echoes.agrees (InStep.exchange ?_)) fun reply => ?_
  · show Request.bare _ = Request.bare _
    unfold Request.bare
    simp only [bare_headers]
    rfl
  rcases reply with ⟨status, chunks, _ | f⟩ | f
  · refine Agrees.ite _ (Agrees.pure _) ?_
    exact Agrees.bind (Blur.log _ _ _ _ _) fun _ => Agrees.pure _
  · exact Agrees.throw _
  · exact Agrees.throw _

theorem echoes_receive (d : Download) (reply : Reply) :
    Echoes (receive d reply) (receive d reply) := by
  cases reply with
  | fault f => exact Echoes.throw f
  | response status chunks broken =>
    rw [receive_response]
    refine Echoes.ite _ ?_ (Echoes.throw _)
    have hopen := Echoes.immediate (Act.atomic_eq _) (Blur.headers.openEmpty d.target)
    refine Echoes.bind hopen fun file => ?_
    have hchunks : Echoes (chunks.forM (addChunk file)) (chunks.forM (addChunk file)) :=
      Echoes.forM chunks fun chunk => Echoes.bind Echoes.await fun _ =>
        Echoes.immediate rfl (Blur.headers.appendTo file chunk)
    refine Echoes.bind hchunks fun _ => ?_
    exact Echoes.bind Echoes.await fun _ => Echoes.raiseIf broken

theorem echoes_settle (d : Download) (result : Except Fault Unit) :
    Echoes (settle d result) (settle d result) := by
  cases result with
  | ok _ => exact Echoes.pure ()
  | error f =>
    refine Echoes.ite _ (Echoes.bind (Echoes.removeFile _) fun _ => Echoes.throw _) ?_
    exact Echoes.ite _ (Echoes.bind (Echoes.removeFile _) fun _ => Echoes.throw _) (Echoes.throw _)

theorem echoes_transfer (d : Download) :
    Echoes ((client.showing token).transfer d) ((client.showing token').transfer d) := by
  rw [transfer_eq, transfer_eq]
  have hsent : Echoes (Act.exchange (d.request (client.showing token)))
      (Act.exchange (d.request (client.showing token'))) :=
    InStep.exchange (client.bare_request token token' d)
  refine Echoes.attempt (hsent.bind (echoes_receive d)) fun result => ?_
  exact Echoes.bind Echoes.await fun _ => echoes_settle d result

theorem echoes_goOn (d : Download) (attempt : Nat) {rest rest' : Option (Act Unit)}
    (h : Option.Rel Echoes rest rest') (result : Except Fault Unit) :
    Echoes (goOn d attempt rest result) (goOn d attempt rest' result) := by
  cases result with
  | ok _ => exact Echoes.pure ()
  | error f =>
    refine Echoes.ite _ (Echoes.throw f) (Echoes.bind (Echoes.log _ _ _ _) fun _ => ?_)
    cases h with
    | some hrest => exact hrest
    | none => exact Echoes.throw f

theorem echoes_fetchFrom (d : Download) (more attempt : Nat) :
    Echoes ((client.showing token).fetchFrom d more attempt)
      ((client.showing token').fetchFrom d more attempt) := by
  have hpause (attempt : Nat) : Echoes ((client.showing token).pauseBefore attempt)
      ((client.showing token').pauseBefore attempt) := by
    have hpaused : (Event.paused client.pause).request? = none := rfl
    have hnote := Echoes.immediate rfl (Blur.headers.note hpaused)
    exact Echoes.ite _ (Echoes.bind hnote fun _ => Echoes.await) (Echoes.pure ())
  induction more generalizing attempt with
  | zero =>
    rw [fetchFrom_zero, fetchFrom_zero]
    refine Echoes.bind (hpause attempt) fun _ => ?_
    exact Echoes.attempt (echoes_transfer d) (echoes_goOn d attempt .none)
  | succ more ih =>
    rw [fetchFrom_succ, fetchFrom_succ]
    refine Echoes.bind (hpause attempt) fun _ => ?_
    exact Echoes.attempt (echoes_transfer d) (echoes_goOn d attempt (.some (ih (attempt + 1))))

end Client

namespace Job

variable {job : Job} {client : Client} {session : Session} {token token' : String}

theorem echoes_fetchKind (endpoints : NodeEndpoints) (kind : EndpointKind) :
    Echoes (job.fetchKind (client.showing token) endpoints kind)
      (job.fetchKind (client.showing token') endpoints kind) := by
  unfold fetchKind
  refine Echoes.bind (Echoes.log _ _ _ _) fun _ => ?_
  cases endpoints.url? kind with
  | none => exact Echoes.throw _
  | some url => exact Echoes.bind (Client.echoes_fetchFrom _ _ _) fun _ => Echoes.pure _

theorem echoes_passFrom (endpoints : NodeEndpoints) (written : List Path)
    (kinds : List EndpointKind) :
    Echoes (job.passFrom (client.showing token) endpoints written kinds)
      (job.passFrom (client.showing token') endpoints written kinds) := by
  induction kinds generalizing written with
  | nil => exact Echoes.pure written
  | cons kind kinds ih =>
    rw [passFrom_cons, passFrom_cons]
    refine Echoes.attempt (echoes_fetchKind endpoints kind) fun result => ?_
    cases result with
    | ok path => exact ih _
    | error f =>
      have hremoved := Echoes.forM written Echoes.removeFile
      exact Echoes.ite _ (Echoes.bind hremoved fun _ => Echoes.throw f) (Echoes.throw f)

theorem echoes_pass (mask : EndpointMask) (endpoints : NodeEndpoints) :
    Echoes (job.pass (client.showing token) mask endpoints)
      (job.pass (client.showing token') mask endpoints) :=
  Echoes.ite _ (Echoes.throw _) (echoes_passFrom endpoints [] mask.kinds)

end Job

namespace Cycle

def Plan.showing (plan : Plan) (token token' : String) : Plan :=
  { plan with session := plan.session.showing token token' }

variable {session : Session} {plan : Plan} {t t' u u' : String}

theorem echoes_directPass (job : Job) (node : NodeInfo) :
    Echoes (job.directPass (session.showing t u) node)
      (job.directPass (session.showing t' u') node) := by
  unfold Job.directPass
  cases Directory.address node with
  | error f => exact Echoes.throw _
  | ok place =>
    unfold Session.showing
    cases session.nodeClient with
    | none => exact Echoes.throw _
    | some client => exact Job.echoes_pass _ _

theorem echoes_proxyPass (job : Job) :
    Echoes (job.proxyPass (session.showing t u)) (job.proxyPass (session.showing t' u')) := by
  unfold Job.proxyPass Session.showing
  cases session.clusterClient with
  | none => exact Echoes.throw _
  | some client => exact Job.echoes_pass _ _

theorem echoes_reported {α : Type} {act act' : Act α} (h : Echoes act act') :
    Echoes (reported act) (reported act') := by
  refine Echoes.attempt h fun result => ?_
  cases result with
  | ok v => exact Echoes.pure none
  | error f => exact Echoes.ite _ (Echoes.pure _) (Echoes.throw f)

theorem echoes_meetsFargate (node : NodeInfo) :
    Echoes (Source.meetsFargate node) (Source.meetsFargate node) :=
  Echoes.ite _ (Echoes.bind (Echoes.log _ _ _ _) fun _ => Echoes.pure _) (Echoes.pure _)

theorem echoes_goesDirect (node : NodeInfo) :
    Echoes (goesDirect (session.showing t u) node) (goesDirect (session.showing t' u') node) :=
  Echoes.ite _ (Echoes.pure _) (Echoes.bind (echoes_meetsFargate node) fun _ => Echoes.pure _)

/-- Whatever the tokens, a node's task goes the same way. -/
theorem inStep_proxyTask (job : Job) (node : NodeInfo) (direct : Option Fault) :
    (proxyTask (session.showing t u) job node direct).InStep Pairing.tokens (fun _ => True)
      (proxyTask (session.showing t' u') job node direct) :=
  Task.InStep.stage (echoes_reported (echoes_proxyPass job)) fun _ _ => Task.InStep.ended

theorem inStep_task (node : NodeInfo) :
    ((plan.showing t u).task node).InStep Pairing.tokens (fun _ => True)
      ((plan.showing t' u').task node) := by
  refine Task.InStep.stage (echoes_goesDirect node) fun direct _ => ?_
  cases direct with
  | false => exact inStep_proxyTask _ node none
  | true =>
    refine Task.InStep.stage (echoes_reported (echoes_directPass _ node)) fun result _ => ?_
    cases result with
    | none => exact Task.InStep.ended
    | some f => exact Task.InStep.stage (Echoes.log _ _ _ _) fun _ _ => inStep_proxyTask _ node _

theorem echoes_inTurn (nodes : List NodeInfo) (report : FailureReport) :
    Echoes (nodes.foldlM (plan.showing t u).collect report)
      (nodes.foldlM (plan.showing t' u').collect report) := by
  induction nodes generalizing report with
  | nil => exact Echoes.pure report
  | cons node nodes ih =>
    rw [List.foldlM_cons, List.foldlM_cons]
    exact Echoes.bind ((inStep_task node).run report) ih

theorem echoes_sideBySide (nodes : List NodeInfo) :
    Echoes (sideBySide (plan.showing t u) nodes) (sideBySide (plan.showing t' u') nodes) := by
  refine inStep_run Pairing.sound_tokens Pairing.scheduled_tokens ?_ plan.maxConcurrency
  rw [List.forall₂_map_left_iff, List.forall₂_map_right_iff, List.forall₂_same]
  exact fun node _ => inStep_task node

theorem agrees_collect (plan : Plan) (backoff : Backoff) :
    Agrees Blur.headers.Hides (collect (plan.showing t u) backoff)
      (collect (plan.showing t' u') backoff) := by
  have hnodes : Agrees Blur.headers.Hides (nodes backoff) (nodes backoff) := by
    refine Agrees.bind (Blur.headers.readyNodes backoff).attempt fun result => ?_
    cases result with
    | ok ready => exact Agrees.pure ready
    | error f => exact Agrees.throw _
  have hlogged (ready : List NodeInfo) (report : FailureReport) : Agrees Blur.headers.Hides
      (Act.log .debug component "node_data_downloaded"
        [("nodes", .integer ready.length), ("failed", .integer report.failures.length),
         ("fallbacks", .integer report.fallbacks.length)] >>= fun _ => pure report)
      (Act.log .debug component "node_data_downloaded"
        [("nodes", .integer ready.length), ("failed", .integer report.failures.length),
         ("fallbacks", .integer report.fallbacks.length)] >>= fun _ => pure report) :=
    Agrees.bind (Blur.log _ _ _ _ _) fun _ => Agrees.pure report
  refine Agrees.bind hnodes fun ready => Agrees.ite _ ?_ ?_
  · exact Agrees.bind (echoes_inTurn ready {}).agrees (hlogged ready)
  · exact Agrees.bind (echoes_sideBySide ready).agrees (hlogged ready)

theorem agrees_finish (hook : Option BaselineHook) (dir : Path) (report : FailureReport) :
    Agrees Blur.headers.Hides (finish hook dir report) (finish hook dir report) := by
  refine Agrees.bind (Blur.headers.logReport report) fun _ => ?_
  cases hook with
  | none => exact Agrees.pure _
  | some hook => exact Agrees.bind (Blur.headers.callHook hook dir) fun _ => Agrees.pure _

end Cycle

namespace Source

def Probing.showing (probing : Probing) (token : String) : Probing :=
  { probing with client := probing.client.showing token }

variable {probing : Probing} {t t' u u' : String}

theorem agrees_answers (kind : EndpointKind) :
    Agrees Blur.headers.Hides ((probing.showing t).answers kind)
      ((probing.showing t').answers kind) := by
  unfold Probing.answers Probing.showing
  refine Agrees.ite _ (Agrees.pure false) ?_
  cases probing.endpoints.url? kind with
  | none => exact Agrees.throw _
  | some url =>
    refine Agrees.bind (Client.agrees_probe url _ _) fun body => ?_
    exact Agrees.bind (Blur.log _ _ _ _ _) fun _ => Agrees.pure _

theorem agrees_marksFrom (kinds : List EndpointKind) (mask : EndpointMask) :
    Agrees Blur.headers.Hides ((probing.showing t).marksFrom kinds mask)
      ((probing.showing t').marksFrom kinds mask) := by
  induction kinds generalizing mask with
  | nil => exact Agrees.pure _
  | cons kind kinds ih =>
    unfold Probing.marksFrom
    refine Agrees.bind (agrees_answers kind).attempt fun result => ?_
    cases result with
    | error f => exact Agrees.pure _
    | ok available =>
      cases hm : mask.set? kind available with
      | none =>
        simp only [hm]
        exact Agrees.pure _
      | some next =>
        simp only [hm]
        exact ih next

theorem agrees_probePath (label : String) (probing : Probing) :
    Agrees Blur.headers.Hides (probePath label (probing.showing t))
      (probePath label (probing.showing t')) := by
  refine Agrees.bind (agrees_marksFrom _ {}) fun marked => ?_
  obtain ⟨mask, fault⟩ := marked
  cases fault with
  | none => exact Agrees.bind (Blur.log _ _ _ _ _) fun _ => Agrees.pure _
  | some f =>
    cases f with
    | probe url cause => exact Agrees.bind (Blur.log _ _ _ _ _) fun _ => Agrees.pure _
    | _ => exact Agrees.throw _

theorem agrees_candidates (backoff : Backoff) :
    Agrees Blur.headers.Hides (candidates backoff) (candidates backoff) := by
  refine Agrees.bind (Blur.headers.readyNodes backoff).attempt fun result => ?_
  rcases result with f | _ | ⟨first, rest⟩
  · exact Agrees.throw _
  · exact Agrees.throw _
  · cases ha : Directory.address first with
    | error f =>
      simp only [ha]
      exact Agrees.throw _
    | ok place =>
      simp only [ha]
      exact Agrees.pure _

theorem agrees_decideDirect (forceProxy : Bool) (nodes : List NodeInfo) :
    Agrees Blur.headers.Hides (decideDirect forceProxy nodes) (decideDirect forceProxy nodes) := by
  unfold decideDirect
  refine Agrees.ite _ (Agrees.bind (Blur.log _ _ _ _ _) fun _ => Agrees.pure _) ?_
  cases nodes.find? NodeInfo.isFargate with
  | none => exact Agrees.pure _
  | some node =>
    refine Agrees.bind (Cycle.echoes_meetsFargate node).agrees fun _ => ?_
    exact Agrees.bind (Blur.log _ _ _ _ _) fun _ => Agrees.pure _

theorem agrees_choose (settings : Settings) (backoff : Backoff)
    (nodeClient clusterClient : Client) : AgreesTo Blur.headers.Hides Source.bare
      (choose settings backoff (nodeClient.showing t) (clusterClient.showing u))
      (choose settings backoff (nodeClient.showing t') (clusterClient.showing u')) := by
  refine Agrees.bindTo (agrees_candidates backoff) fun ⟨ready, first, ip, port⟩ => ?_
  refine Agrees.bindTo (agrees_decideDirect _ ready) fun allowed => ?_
  dsimp only
  rw [← ite_bind, ← ite_bind]
  let direct := probingOf settings nodeClient (.direct ip port)
  let proxy := probingOf settings clusterClient
    (.proxy settings.kubelet.hostUrl (nameText first.name))
  refine Agrees.bindTo (Agrees.ite _ (agrees_probePath "direct" direct) (Agrees.pure _))
    fun directProbe => ?_
  refine Agrees.bindTo (agrees_probePath "proxy" proxy) fun proxyProbe => ?_
  refine Agrees.bindTo Blur.headers.now fun probedAt => AgreesTo.ite _ ?_ (AgreesTo.ite _ ?_ ?_)
  · exact Agrees.bindTo (Blur.log _ _ _ _ _) fun _ => AgreesTo.pure rfl
  · exact Agrees.bindTo (Blur.log _ _ _ _ _) fun _ => AgreesTo.pure rfl
  · exact AgreesTo.pure rfl

end Source

namespace Agent

def showing (agent : Agent) (token token' : String) : Agent :=
  { agent with
    state := { agent.state with session := agent.state.session.map (·.showing token token') }
    nodeClient := agent.nodeClient.map (·.showing token)
    clusterClient := agent.clusterClient.map (·.showing token') }

theorem bare_showing (agent : Agent) (token token' : String) :
    (agent.showing token token').state.bare = agent.state.bare := by
  unfold showing CollectionState.bare
  simp only [Option.map_map, Function.comp_def, Session.bare_showing]

theorem session_showing (agent : Agent) (token token' : String) :
    (agent.showing token token').state.session.filter Session.retrieveSummaries =
      (agent.state.session.filter Session.retrieveSummaries).map (·.showing token token') := by
  unfold showing
  cases agent.state.session with
  | none => rfl
  | some session =>
    cases hr : session.retrieveSummaries <;> simp [Option.filter, Session.showing, hr]

variable {agent : Agent} {t t' u u' : String}

theorem agrees_collectInto (session : Session) (dir : Path) :
    Agrees Blur.headers.Hides ((agent.showing t u).collectInto (session.showing t u) dir)
      ((agent.showing t' u').collectInto (session.showing t' u') dir) := by
  unfold collectInto
  refine Agrees.bind (Blur.headers.makeDirectoriesFrom _ _) fun _ => ?_
  rw [Cycle.retrieve_eq, Cycle.retrieve_eq]
  let plan := Cycle.Plan.ofSettings agent.settings session dir
  exact Agrees.bind (Cycle.agrees_collect plan _) (Cycle.agrees_finish _ _)

theorem agrees_runCycle : AgreesTo Blur.headers.Hides CollectionState.bare
    (agent.showing t u).runCycle (agent.showing t' u').runCycle := by
  have hbare : (agent.showing t' u').state.bare = (agent.showing t u).state.bare := by
    rw [bare_showing, bare_showing]
  unfold runCycle
  simp only [session_showing]
  cases agent.state.session.filter Session.retrieveSummaries with
  | none => exact AgreesTo.pure hbare
  | some session =>
    refine Agrees.bindTo Blur.headers.now fun time => ?_
    refine Agrees.bindTo (agrees_collectInto session _).attempt fun result => ?_
    rcases result with f | ⟨report, _ | f⟩
    · refine AgreesTo.ite _ (AgreesTo.throw f) (Agrees.bindTo (Blur.log _ _ _ _ _) fun _ => ?_)
      exact AgreesTo.pure (congrArg (fun state => { state with lastError := f.message }) hbare)
    · refine Agrees.bindTo (Blur.log _ _ _ _ _) fun _ => ?_
      refine Agrees.bindTo Blur.headers.now fun time => AgreesTo.pure ?_
      exact congrArg (fun state => { state.recordReport report time with lastError := "" }) hbare
    · refine Agrees.bindTo (Blur.log _ _ _ _ _) fun _ => ?_
      refine Agrees.bindTo Blur.headers.now fun time => AgreesTo.pure ?_
      exact congrArg (fun state =>
        { state.recordReport report time with lastError := Cycle.baselineText f }) hbare

end Agent

/-- What can be seen of a run: its outcome, for a view of it, and the outside that it leaves. -/
def Act.seen {α β : Type} (view : α → β) (act : Act α) (o : Outside) : Except Fault β × Outside :=
  ((act.outcome o).1.map view, (act.outcome o).2.bare)

theorem Act.AgreesTo.seen {α β : Type} {view : α → β} {act act' : Act α}
    (h : AgreesTo Blur.headers.Hides view act act') (o : Outside) :
    act'.seen view o = act.seen view o := by
  obtain ⟨hresult, hhidden⟩ := h o o (Blur.headers_refl o)
  exact Prod.ext hresult hhidden.bare

/-- Nothing of a choice, of a download or of a cycle can be seen to depend on the tokens of the two
clients: not the outcome, apart from the clients in a session, and nothing that is done. -/
theorem tokens_unseen (o : Outside) (t u t' u' : String) :
    (∀ settings backoff nodeClient clusterClient,
      (Source.choose settings backoff (Client.showing nodeClient t')
          (Client.showing clusterClient u')).seen Source.bare o =
        (Source.choose settings backoff (Client.showing nodeClient t)
          (Client.showing clusterClient u)).seen Source.bare o) ∧
      (∀ plan backoff, (Cycle.collect (Cycle.Plan.showing plan t' u') backoff).seen id o =
        (Cycle.collect (Cycle.Plan.showing plan t u) backoff).seen id o) ∧
      ∀ agent, (Agent.showing agent t' u').runCycle.seen CollectionState.bare o =
        (Agent.showing agent t u).runCycle.seen CollectionState.bare o :=
  ⟨fun settings backoff nodeClient clusterClient =>
      (Source.agrees_choose settings backoff nodeClient clusterClient).seen o,
    fun plan backoff => (Cycle.agrees_collect plan backoff).to.seen o,
    fun _ => Agent.agrees_runCycle.seen o⟩

end KubeletCollector
