import KubeletCollector.Cycle.Collect
import KubeletCollector.Proofs.Outcome

/-! The actions of a node's collection without their early exits: what comes after an
attempt is a function of how the attempt ended. The report leaves the collection of a
node altogether and becomes a function of the node's verdict. -/

namespace KubeletCollector

open Text Act

namespace Client

/-- The content of a reply with status 200 goes to its file. -/
def keep (d : Download) (chunks : List Bytes) (broken : Option Fault) : Act Unit :=
  Act.openEmpty d.target >>= fun file =>
    chunks.forM (addChunk file) >>= fun _ => Act.await >>= fun _ => Act.raiseIf broken

theorem receive_response (d : Download) (status : Int) (chunks : List Bytes)
    (broken : Option Fault) :
    receive d (.response status chunks broken) =
      if status = 200 then keep d chunks broken
      else throw (.fetch d.url ("invalid response " ++ toString status) (some status)) := by
  unfold receive keep
  by_cases h : status = 200
  · simp only [h, ne_eq, not_true_eq_false, ↓reduceIte]
  · simp only [ne_eq, h, not_false_eq_true, ↓reduceIte]
    rfl

/-- What is done once an exchange has ended. -/
def settle (d : Download) : Except Fault Unit → Act Unit
  | .ok () => pure ()
  | .error f =>
    if f.isWire then
      Act.removeFile d.target >>= fun _ => throw (.fetch d.url (failureText f) none)
    else if f.isSystem then Act.removeFile d.target >>= fun _ => throw f
    else throw f

theorem transfer_eq (client : Client) (d : Download) :
    client.transfer d =
      Act.attempt (Act.exchange (d.request client) >>= receive d) >>= fun result =>
        Act.await >>= fun _ => settle d result := by
  rfl

def pauseBefore (client : Client) (attempt : Nat) : Act Unit :=
  if attempt ≠ 1 then Act.note (.paused client.pause) >>= fun _ => Act.await else pure ()

/-- What is done once an attempt has ended; `rest` is what may follow a failed one. -/
def goOn (d : Download) (attempt : Nat) (rest : Option (Act Unit)) : Except Fault Unit → Act Unit
  | .ok () => pure ()
  | .error f =>
    if !f.isFetch then throw f
    else Act.log .debug component "fetch_attempt_failed"
      [("url", .text d.url), ("attempt", .integer attempt), ("error", .text f.message)] >>= fun _ =>
        match rest with
        | some act => act
        | none => throw f

theorem fetchFrom_zero (client : Client) (d : Download) (attempt : Nat) :
    client.fetchFrom d 0 attempt =
      client.pauseBefore attempt >>= fun _ =>
        Act.attempt (client.transfer d) >>= goOn d attempt none := by
  unfold fetchFrom pauseBefore
  by_cases ha : attempt ≠ 1
  · rw [if_pos ha, if_pos ha]
    rfl
  · rw [if_neg ha, if_neg ha]
    rfl

theorem fetchFrom_succ (client : Client) (d : Download) (more attempt : Nat) :
    client.fetchFrom d (more + 1) attempt =
      client.pauseBefore attempt >>= fun _ =>
        Act.attempt (client.transfer d) >>= goOn d attempt
          (some (client.fetchFrom d more (attempt + 1))) := by
  rw [fetchFrom]
  unfold pauseBefore
  by_cases ha : attempt ≠ 1
  · rw [if_pos ha, if_pos ha]
    rfl
  · rw [if_neg ha, if_neg ha]
    rfl

end Client

namespace Job

def download (job : Job) (url : String) (kind : EndpointKind) : Client.Download :=
  ⟨kind.method, url, body kind, job.target kind⟩

/-- What is done once a kind was fetched or not; `rest` goes on with the pass. -/
def goOn (written : List Path) (rest : List Path → Act (List Path)) :
    Except Fault Path → Act (List Path)
  | .ok path => rest (written ++ [path])
  | .error f =>
    if Cycle.isReported f then written.forM Act.removeFile >>= fun _ => throw f else throw f

theorem passFrom_cons (job : Job) (client : Client) (endpoints : NodeEndpoints)
    (written : List Path) (kind : EndpointKind) (kinds : List EndpointKind) :
    job.passFrom client endpoints written (kind :: kinds) =
      Act.attempt (job.fetchKind client endpoints kind) >>=
        goOn written fun written => job.passFrom client endpoints written kinds := by
  rw [passFrom]
  rfl

end Job

namespace Cycle

/-- What came of a node. A node that was asked directly first carries the reason why that
was not enough. -/
inductive Verdict where
  | direct
  | proxy (direct : Option Fault)
  | failed (direct : Option Fault) (cause : Fault)

def Verdict.enter (node : NodeInfo) (verdict : Verdict) (report : FailureReport) : FailureReport :=
  match verdict with
  | .direct => warned node report
  | .proxy why => recovered node why (noted node why (warned node report))
  | .failed why f =>
    let report := noted node why (warned node report)
    { report with failures := report.failures.put node.name (.proxyPath f) }

def visitByProxy (job : Job) (session : Session) (direct : Option Fault) : Act Verdict :=
  reported (job.proxyPass session) >>= fun
    | some f => pure (.failed direct f)
    | none => pure (.proxy direct)

def visit (session : Session) (job : Job) (node : NodeInfo) : Act Verdict := do
  if ← goesDirect session node then
    match ← reported (job.directPass session node) with
    | none => return .direct
    | some f =>
      Act.log .warning component "direct_fetch_failed"
        [("node", .ofText? node.name), ("error", .text f.message)]
      visitByProxy job session (some f)
  else visitByProxy job session none

theorem run_proxyTask (session : Session) (job : Job) (node : NodeInfo) (direct : Option Fault)
    (report : FailureReport) :
    (proxyTask session job node direct).run (noted node direct (warned node report)) =
      visitByProxy job session direct >>= fun v => pure (v.enter node report) := by
  unfold proxyTask visitByProxy Task.run
  rw [bind_assoc]
  refine bind_congr fun r => ?_
  cases r with
  | none => rfl
  | some f => rfl

theorem run_nodeTask (session : Session) (job : Job) (node : NodeInfo) (report : FailureReport) :
    (nodeTask session job node).run report =
      visit session job node >>= fun v => pure (v.enter node report) := by
  unfold nodeTask visit Task.run
  rw [bind_assoc]
  refine bind_congr fun direct => ?_
  cases direct with
  | false => exact run_proxyTask session job node none report
  | true =>
    simp only [↓reduceIte, Task.run]
    rw [bind_assoc]
    refine bind_congr fun r => ?_
    cases r with
    | none => rfl
    | some f =>
      simp only [Task.run]
      rw [bind_assoc]
      exact bind_congr fun _ => run_proxyTask session job node (some f) report

theorem visit_of_collect {plan : Plan} {n : NodeInfo} {report report' : FailureReport}
    {o o' : Outside} (h : (plan.collect report n).outcome o = (.ok report', o')) :
    ∃ verdict, (visit plan.session (plan.job n) n).outcome o = (.ok verdict, o') ∧
      report' = verdict.enter n report := by
  unfold Plan.collect Plan.task at h
  rw [run_nodeTask, outcome_bind] at h
  rcases hv : (visit plan.session (plan.job n) n).outcome o with ⟨f | verdict, o₁⟩ <;> rw [hv] at h
  · cases h
  · cases h
    exact ⟨verdict, rfl, rfl⟩

/-- What a cycle does with the nodes that it has listed. -/
def Plan.work (plan : Plan) (nodes : List NodeInfo) : Act FailureReport :=
  (if plan.maxConcurrency ≤ 1 then inTurn plan nodes else sideBySide plan nodes) >>=
    fun report => Act.log .debug component "node_data_downloaded"
      [("nodes", .integer nodes.length), ("failed", .integer report.failures.length),
       ("fallbacks", .integer report.fallbacks.length)] >>= fun _ => pure report

section Listed

variable {backoff : Backoff} {o o₁ : Outside}

theorem outcome_collect_listed (plan : Plan) {nodes : List NodeInfo}
    (h : (Directory.readyNodes backoff).outcome o = (.ok nodes, o₁)) :
    (collect plan backoff).outcome o = (plan.work nodes).outcome o₁ := by
  unfold collect Cycle.nodes Plan.work
  rw [outcome_bind, outcome_bind, outcome_attempt, h]
  simp only [outcome_pure, ite_bind]

theorem outcome_collect_unlisted (plan : Plan) {f : Fault}
    (h : (Directory.readyNodes backoff).outcome o = (.error f, o₁)) :
    (collect plan backoff).outcome o = (.error (.listing f), o₁) := by
  unfold collect Cycle.nodes
  rw [outcome_bind, outcome_bind, outcome_attempt, h]
  rfl

end Listed

end Cycle

end KubeletCollector
