import KubeletCollector.Proofs.Outcome

/-! Scripts: the replies that a line has in store, read without the lists that hold
them. A request takes the first reply of its own line and leaves every other line
alone, so what is left of a script follows from how often its line was asked. -/

namespace KubeletCollector

/-- Reply number `i` that is still to come for a line. -/
def Routes.script (routes : Routes) (line : String) : Nat → Reply
  | 0 => (routes.take line).1
  | i + 1 => (routes.take line).2.script line i

def Outside.script (o : Outside) (side : Side) (line : String) : Nat → Reply :=
  (o.routes side).script line

namespace Routes

theorem lookup_replaced (routes : Routes) (line other : String) (rest : List Reply) :
    (routes.map fun entry => if entry.1 = line then (line, rest) else entry).lookup other =
      if other = line then (routes.lookup line).map (fun _ => rest) else routes.lookup other := by
  induction routes with
  | nil => simp
  | cons entry routes ih =>
    obtain ⟨name, replies⟩ := entry
    rw [List.map_cons]
    by_cases hn : name = line
    · subst hn
      by_cases ho : other = name
      · simp [ho]
      · have hb : (other == name) = false := by simpa using ho
        simpa [List.lookup_cons, hb, ho] using ih
    · by_cases ho : other = line
      · subst ho
        have hb : (other == name) = false := by simpa using Ne.symm hn
        simpa [List.lookup_cons, hb, hn] using ih
      · by_cases hk : other = name
        · simp [hk, hn]
        · have hb : (other == name) = false := by simpa using hk
          simpa [List.lookup_cons, hb, hn, ho] using ih

theorem lookup_take_of_ne (routes : Routes) {line other : String} (h : other ≠ line) :
    (routes.take line).2.lookup other = routes.lookup other := by
  unfold take
  split
  · rfl
  · rw [lookup_replaced, if_neg h]

theorem take_congr {routes routes' : Routes} {line : String}
    (h : routes.lookup line = routes'.lookup line) :
    (routes.take line).1 = (routes'.take line).1 ∧
      (routes.take line).2.lookup line = (routes'.take line).2.lookup line := by
  unfold take
  rw [h]
  split
  · exact ⟨rfl, h⟩
  · exact ⟨rfl, by rw [lookup_replaced, lookup_replaced, h]⟩

theorem script_congr {routes routes' : Routes} {line : String}
    (h : routes.lookup line = routes'.lookup line) : routes.script line = routes'.script line := by
  funext i
  induction i generalizing routes routes' with
  | zero => exact (take_congr h).1
  | succ i ih => exact ih (take_congr h).2

theorem nextOf_mem {α : Type} {l : List α} {a : α} {rest : List α} (h : nextOf l = some (a, rest)) :
    a ∈ l ∧ ∀ b ∈ rest, b ∈ l := by
  match l, h with
  | [x], h =>
    cases h
    exact ⟨by simp, fun b hb => hb⟩
  | x :: y :: more, h =>
    cases h
    exact ⟨by simp, fun b hb => List.mem_cons_of_mem _ hb⟩

/-- What a line is answered with stands in its route, or nothing is found there. -/
theorem script_mem {routes : Routes} {line : String} {replies : List Reply}
    (h : routes.lookup line = some replies) (i : Nat) :
    routes.script line i ∈ replies ∨ routes.script line i = .response 404 [] none := by
  induction i generalizing routes replies with
  | zero =>
    unfold script take
    rw [h, Option.bind_some]
    cases hn : nextOf replies with
    | none => exact Or.inr rfl
    | some next => exact Or.inl (nextOf_mem hn).1
  | succ i ih =>
    unfold script take
    rw [h, Option.bind_some]
    cases hn : nextOf replies with
    | none => exact ih h
    | some next =>
      have hnext : (routes.map fun e => if e.1 = line then (line, next.2) else e).lookup line =
          some next.2 := by
        rw [lookup_replaced, if_pos rfl, h]
        rfl
      have hrest := ih hnext
      exact hrest.imp_left ((nextOf_mem hn).2 _)

theorem script_unrouted {routes : Routes} {line : String} (h : routes.lookup line = none)
    (i : Nat) :
    routes.script line i = .response 404 [] none := by
  induction i with
  | zero => simp [script, take, h]
  | succ i ih =>
    unfold script take
    rw [h]
    exact ih

theorem script_take (routes : Routes) (line other : String) (i : Nat) :
    (routes.take line).2.script other i =
      routes.script other (if other = line then i + 1 else i) := by
  by_cases h : other = line
  · rw [if_pos h, h]
    rfl
  · rw [if_neg h, script_congr (lookup_take_of_ne routes h)]

end Routes

def Event.request? : Event → Option Request
  | .requested r => some r
  | _ => none

def requests (events : List Event) : List Request :=
  events.filterMap Event.request?

def Event.rest? : Event → Option Int
  | .rested seconds => some seconds
  | _ => none

def rests (events : List Event) : List Int :=
  events.filterMap Event.rest?

def Event.closed? : Event → Option Component
  | .closed part => some part
  | _ => none

def closes (events : List Event) : List Component :=
  events.filterMap Event.closed?

def Event.hooked? : Event → Option (Path × List (Location × Entry))
  | .hooked dir files => some (dir, files)
  | _ => none

/-- The calls of the hook: on which directory, and with which files in it. -/
def hookings (events : List Event) : List (Path × List (Location × Entry)) :=
  events.filterMap Event.hooked?

/-- Rests and closes belong to an agent's run; no cycle leaves one of its own. -/
def Event.isMark : Event → Bool
  | .rested _ | .closed _ => true
  | _ => false

def marks (events : List Event) : List Event :=
  events.filter Event.isMark

def heard (side : Side) (line : String) (rs : List Request) : Nat :=
  rs.countP fun r => r.side = side ∧ r.line = line

theorem requests_append (events more : List Event) :
    requests (events ++ more) = requests events ++ requests more :=
  List.filterMap_append

theorem rests_append (events more : List Event) :
    rests (events ++ more) = rests events ++ rests more :=
  List.filterMap_append

theorem closes_append (events more : List Event) :
    closes (events ++ more) = closes events ++ closes more :=
  List.filterMap_append

theorem hookings_append (events more : List Event) :
    hookings (events ++ more) = hookings events ++ hookings more :=
  List.filterMap_append

theorem marks_append (events more : List Event) :
    marks (events ++ more) = marks events ++ marks more :=
  List.filter_append events more

theorem rests_marks (events : List Event) : rests (marks events) = rests events := by
  unfold rests marks
  rw [List.filterMap_filter]
  congr 1
  funext event
  cases event <;> rfl

theorem closes_marks (events : List Event) : closes (marks events) = closes events := by
  unfold closes marks
  rw [List.filterMap_filter]
  congr 1
  funext event
  cases event <;> rfl

theorem heard_append (side : Side) (line : String) (rs more : List Request) :
    heard side line (rs ++ more) = heard side line rs + heard side line more :=
  List.countP_append

theorem heard_eq_zero {side : Side} {line : String} {rs : List Request}
    (h : ∀ r ∈ rs, r.side = side → r.line ≠ line) : heard side line rs = 0 := by
  rw [heard, List.countP_eq_zero]
  intro r hr
  simpa using h r hr

namespace Outside

theorem outcome_exchange (o : Outside) (r : Request) :
    (Act.exchange r).outcome o = (.ok (o.script r.side r.line 0), o.afterRequest r) := rfl

@[simp] theorem trace_afterRequest (o : Outside) (r : Request) :
    (o.afterRequest r).trace = o.trace ++ [Event.requested r] := by
  unfold afterRequest setRoutes
  cases r.side <;> rfl

@[simp] theorem files_afterRequest (o : Outside) (r : Request) :
    (o.afterRequest r).files = o.files := by
  unfold afterRequest setRoutes
  cases r.side <;> rfl

@[simp] theorem platform_afterRequest (o : Outside) (r : Request) :
    (o.afterRequest r).platform = o.platform := by
  unfold afterRequest setRoutes
  cases r.side <;> rfl

theorem script_afterRequest (o : Outside) (r : Request) (side : Side) (line : String) (i : Nat) :
    (o.afterRequest r).script side line i = o.script side line (i + heard side line [r]) := by
  have hr : (o.afterRequest r).routes side =
      if r.side = side then ((o.routes side).take r.line).2 else o.routes side := by
    unfold afterRequest setRoutes routes
    cases hs : r.side <;> cases side <;> simp
  unfold script heard
  rw [hr]
  by_cases hs : r.side = side
  · rw [if_pos hs, Routes.script_take]
    by_cases hl : line = r.line
    · simp [hs, hl]
    · simp [hs, hl, Ne.symm hl]
  · simp [hs]

end Outside

def Reply.fault? : Reply → Option Fault
  | .fault f => some f
  | .response _ _ broken => broken

/-- A reply that holds no faults but those of the wire and of the system. -/
def Reply.Ordinary (reply : Reply) : Prop :=
  ∀ f, reply.fault? = some f → f.isWire = true ∨ f.isSystem = true

/-- No line of the outside holds other faults than those of the wire and of the system. -/
def Outside.Ordinary (o : Outside) : Prop :=
  ∀ side line i, (o.script side line i).Ordinary

/-- What holds of every reply in the routes, and of that to a line without a route, holds of the
replies to come. -/
theorem Routes.script_forall {routes : Routes} {P : Reply → Prop} (hn : P (.response 404 [] none))
    (h : ∀ entry ∈ routes, ∀ reply ∈ entry.2, P reply) (line : String) (i : Nat) :
    P (routes.script line i) := by
  cases hl : routes.lookup line with
  | none => exact Routes.script_unrouted hl i ▸ hn
  | some replies =>
    obtain ⟨before, after, rfl, -⟩ := List.lookup_eq_some_iff.1 hl
    rcases Routes.script_mem hl i with hs | hs
    · exact h (line, replies) (by simp) _ hs
    · exact hs ▸ hn

/-- An outside is as ordinary as what stands in its routes. -/
theorem Outside.ordinary_of_routes {o : Outside}
    (hn : ∀ entry ∈ o.nodeRoutes, ∀ reply ∈ entry.2, reply.Ordinary)
    (hc : ∀ entry ∈ o.clusterRoutes, ∀ reply ∈ entry.2, reply.Ordinary) : o.Ordinary := by
  intro side line i
  cases side with
  | node => exact Routes.script_forall nofun hn line i
  | cluster => exact Routes.script_forall nofun hc line i

end KubeletCollector
