import KubeletCollector.Proofs.Fleet
import KubeletCollector.Proofs.Moves
import KubeletCollector.Proofs.Tracking

/-! One node among others. While the nodes of a cycle are collected, in whatever order they take turns,
the task of each of them goes in step with a collection of that node alone, from an outside that has in
store for it what it is dealt. The others write other places and speak of other nodes. -/

namespace KubeletCollector

open Text Act

namespace Cycle

open FailureReport

/-- What a node has to do with: the requests for its sake, and the places of its artifacts. -/
def Plan.view (plan : Plan) (place : Location) (n : NodeInfo) : View where
  asks := plan.Asks n
  spots loc := ∃ kind, loc = (plan.job n).spot place kind
  dir := plan.dir
  place

variable {plan : Plan} {place : Location} {nodes : List NodeInfo} {n m : NodeInfo}
  {pool last : Pool} {o o' a done : Outside} {i j : Nat} {task : Task}
  {order : List (Nat × Request)}

namespace Plan.Serves

theorem locate (h : plan.Serves place o nodes) (hn : n ∈ nodes) {tree : FileTree}
    (ho : tree.Opens plan.dir place) (kind : EndpointKind) :
    tree.locate ((plan.job n).target kind) = if fitsName ((plan.job n).artifact kind)
      then .ok ((plan.job n).spot place kind) else .error .nameTooLong :=
  Job.locate_target ho (h.orderly hn) kind

theorem shows (h : plan.Serves place o nodes) (hn : n ∈ nodes) (kind : EndpointKind) :
    (plan.view place n).Shows ((plan.job n).target kind) where
  leads := ⟨_, fun _ ho => h.locate hn ho kind⟩
  spots tree loc ho hl := by
    rw [h.locate hn ho kind] at hl
    split at hl
    · exact ⟨kind, (Except.ok.inj hl).symm⟩
    · cases hl

/-- The task of a node depends on no more than is in view of the node. -/
theorem inStep_task (h : plan.Serves place o nodes) (hn : n ∈ nodes) :
    (plan.task n).InStep (plan.view place n).pairing (fun _ => False) (plan.task n) :=
  (h.covers (L := (plan.view place n).logic) hn (fun _ => id) (h.shows hn) fun _ _ => id).task

theorem view_alike (h : plan.Serves place o nodes) (n : NodeInfo) :
    (plan.view place n).Alike o o :=
  ⟨fun _ _ => rfl, h.opens, h.opens⟩

/-- Different positions have different names. -/
theorem ne_of_ne (h : plan.Serves place o nodes) (hn : nodes[i]? = some n) (hm : nodes[j]? = some m)
    (hne : j ≠ i) : n.name ≠ m.name := by
  intro he
  have hi : i < (nodes.map NodeInfo.name).length := by
    simpa using (List.getElem?_eq_some_iff.1 hn).1
  refine hne ((List.getElem?_inj hi h.distinct).1 ?_).symm
  rw [List.getElem?_map, List.getElem?_map, hn, hm, Option.map_some, Option.map_some, he]

end Plan.Serves

/-- A pool in the course of a cycle: its tasks are those of the nodes, as far as they have come, and no
fault has come of them. -/
structure Plan.Underway (plan : Plan) (place : Location) (nodes : List NodeInfo) (pool : Pool)
    (o : Outside) : Prop where
  serves : plan.Serves place o nodes
  length : pool.tasks.length = nodes.length
  inStep : ∀ {j : Nat} {m : NodeInfo} {task : Task}, nodes[j]? = some m → pool.tasks[j]? = some task →
    task.InStep (plan.view place m).pairing (fun _ => False) task
  speaks : ∀ {j : Nat} {m : NodeInfo} {task : Task}, nodes[j]? = some m → pool.tasks[j]? = some task →
    task.SpeaksOf m.name
  first : pool.first = none

theorem Plan.Serves.underway (h : plan.Serves place o nodes) :
    plan.Underway place nodes (plan.pool nodes) o where
  serves := h
  length := List.length_map ..
  inStep {j m task} hm ht := by
    rw [Plan.pool, List.getElem?_map, hm] at ht
    cases ht
    exact h.inStep_task (List.mem_of_getElem? hm)
  speaks {j m task} hm ht := by
    rw [Plan.pool, List.getElem?_map, hm] at ht
    cases ht
    exact plan.speaksOf_task m
  first := rfl

namespace Plan.Underway

theorem letIn (h : plan.Underway place nodes pool o) (limit : Int) :
    plan.Underway place nodes (pool.letIn limit) o := by
  rw [Pool.letIn_eq]
  exact ⟨h.serves, h.length, h.inStep, h.speaks, h.first⟩

/-- A position is that of a node and its task, or there is neither. -/
theorem at_position (h : plan.Underway place nodes pool o) (j : Nat) :
    (∃ m task, nodes[j]? = some m ∧ pool.tasks[j]? = some task) ∨ pool.tasks[j]? = none := by
  by_cases hj : j < pool.tasks.length
  · have hn : j < nodes.length := h.length ▸ hj
    exact Or.inl ⟨_, _, List.getElem?_eq_getElem hn, List.getElem?_eq_getElem hj⟩
  · exact Or.inr (List.getElem?_eq_none (Nat.le_of_not_lt hj))

theorem go_within (h : plan.Underway place nodes pool o) (stop : Bool) (hm : nodes[j]? = some m)
    (ht : pool.tasks[j]? = some task) :
    Within (plan.view place m).scope o (pool.go stop o j).2 := by
  rw [(Pool.go_some stop o ht).2.2]
  exact (h.inStep hm ht).walk_within stop pool.report (h.serves.view_alike m) h.serves.ordinary

theorem go (h : plan.Underway place nodes pool o) (stop : Bool) (j : Nat) :
    plan.Underway place nodes (pool.go stop o j).1 (pool.go stop o j).2 := by
  rcases h.at_position j with ⟨m, task, hm, ht⟩ | hnone
  · have hfollows := (h.inStep hm ht).walk_self stop (h.speaks hm ht) pool.report
      (h.serves.view_alike m) h.serves.ordinary
    have hspeaks := ((h.speaks hm ht).walk stop pool.report o).1
    have htasks : ∀ (k : Nat) (task' : Task), (pool.go stop o j).1.tasks[k]? = some task' →
        ∀ m', nodes[k]? = some m' →
          task'.InStep (plan.view place m').pairing (fun _ => False) task' ∧
            task'.SpeaksOf m'.name := by
      refine Pool.forall_go pool stop o j (fun task' ht' m' hm' => ?_)
        fun k task' _ ht' m' hm' => ⟨h.inStep hm' ht', h.speaks hm' ht'⟩
      cases hm.symm.trans hm'
      cases ht.symm.trans ht'
      exact ⟨hfollows.task, hspeaks⟩
    refine ⟨h.serves.within (h.go_within stop hm ht), ?_, fun hm' ht' => (htasks _ _ ht' _ hm').1,
      fun hm' ht' => (htasks _ _ ht' _ hm').2, ?_⟩
    · rw [Pool.length_go, h.length]
    · rw [(Pool.go_some stop o ht).2.1, h.first, hfollows.fault]
      rfl
  · rw [Pool.go_none stop o hnone]
    exact h

/-- A name of no node is not spoken of. -/
theorem go_others (h : plan.Underway place nodes pool o) (stop : Bool) (j : Nat)
    {name : Option String} (hne : ∀ n ∈ nodes, name ≠ n.name) :
    SameFor name pool.report (pool.go stop o j).1.report := by
  rcases h.at_position j with ⟨m, task, hm, ht⟩ | hnone
  · rw [(Pool.go_some stop o ht).1]
    exact ((h.speaks hm ht).walk stop pool.report o).2 name (hne m (List.mem_of_getElem? hm))
  · rw [Pool.go_none stop o hnone]
    exact SameFor.refl name pool.report

end Plan.Underway

/-- The node at a position and, beside it, the same node alone: both are equally far. -/
structure Plan.Shadows (plan : Plan) (place : Location) (i : Nat) (n : NodeInfo) (pool : Pool)
    (o : Outside) (task : Task) (report : FailureReport) (a : Outside) : Prop where
  inStep : ∀ {task'}, pool.tasks[i]? = some task' →
    task'.InStep (plan.view place n).pairing (fun _ => False) task
  report : SameFor n.name pool.report report
  alike : (plan.view place n).Alike o a

namespace Plan.Shadows

variable {report : FailureReport}

theorem ended (h : plan.Shadows place i n pool o task report a)
    (hu : plan.Underway place nodes pool o) (hover : pool.isOver = true) (hn : nodes[i]? = some n) :
    task = .ended := by
  have hi : i < pool.tasks.length := by
    rw [hu.length]
    exact (List.getElem?_eq_some_iff.1 hn).1
  have htask := h.inStep (List.getElem?_eq_getElem hi)
  rw [Pool.isOver_iff.1 hover i _ (List.getElem?_eq_getElem hi)] at htask
  cases htask
  rfl

/-- The others keep away from what the node has to do with. -/
theorem go_other (h : plan.Shadows place i n pool o task report a)
    (hu : plan.Underway place nodes pool o) (stop : Bool) (hn : nodes[i]? = some n)
    (hm : nodes[j]? = some m) {task' : Task} (ht : pool.tasks[j]? = some task') (hne : j ≠ i) :
    plan.Shadows place i n (pool.go stop o j).1 (pool.go stop o j).2 task report a where
  inStep hi := by
    rw [Pool.tasks_go, if_neg (Ne.symm hne)] at hi
    exact h.inStep hi
  report := by
    rw [(Pool.go_some stop o ht).1]
    have hothers := ((hu.speaks hm ht).walk stop pool.report o).2 n.name
      (hu.serves.ne_of_ne hn hm hne)
    exact hothers.symm.trans h.report
  alike := by
    refine h.alike.within (hu.go_within stop hm ht) ?_
    rintro loc ⟨kind, rfl⟩ ⟨kind', he⟩
    exact hu.serves.apart (List.mem_of_getElem? hn) (List.mem_of_getElem? hm)
      (hu.serves.ne_of_ne hn hm hne) kind kind' he

/-- The node itself goes on in both. -/
theorem go_own (h : plan.Shadows place i n pool o task report a)
    (hu : plan.Underway place nodes pool o) (stop : Bool) (hn : nodes[i]? = some n)
    {task' : Task} (ht : pool.tasks[i]? = some task')
    (hd : o.Deals i a ((o.asked (pool.go stop o i).2).map (Prod.mk i))) :
    plan.Shadows place i n (pool.go stop o i).1 (pool.go stop o i).2
        (task.walk stop report a).task (task.walk stop report a).report
        (task.walk stop report a).outside ∧
      (plan.view place n).Dealt o a (pool.go stop o i).2 (task.walk stop report a).outside ∧
      (task.walk stop report a).fault = none := by
  obtain ⟨hreport, -, houtside⟩ := Pool.go_some stop o ht
  rw [houtside] at hd ⊢
  obtain ⟨hfollows, hdealt⟩ := (h.inStep ht).walk_dealt stop (hu.speaks hn ht) h.report h.alike
    hu.serves.ordinary hd
  refine ⟨⟨fun hi => ?_, hreport ▸ hfollows.report, hdealt.alike⟩, hdealt, hfollows.fault'⟩
  rw [Pool.tasks_go, if_pos rfl, ht] at hi
  cases hi
  exact hfollows.task

end Plan.Shadows

namespace Pool.Moves

variable {report : FailureReport}

/-- By induction on the stretches: when all tasks have ended, the node has come to the same as alone. -/
theorem alone (h : pool.Moves o order last done) (hu : plan.Underway place nodes pool o)
    (hover : last.isOver = true) (hn : nodes[i]? = some n)
    (hs : plan.Shadows place i n pool o task report a) (hd : o.Deals i a order) :
    ∃ report' a', (task.run report).outcome a = (.ok report', a') ∧
      SameFor n.name last.report report' ∧ (plan.view place n).Alike done a' ∧
      Within (plan.view place n).scope a a' ∧ a.asked a' = part i order := by
  induction h generalizing task report a with
  | @refl pool o =>
    obtain rfl := hs.ended hu hover hn
    exact ⟨report, a, rfl, hs.report, hs.alike, Within.refl _ a, Outside.asked_self a⟩
  | letIn limit hmoves ih =>
    refine ih (hu.letIn limit) hover ?_ hd
    rw [Pool.letIn_eq]
    exact ⟨hs.inStep, hs.report, hs.alike⟩
  | @go pool last o done order stop j hmoves ih =>
    rw [part_append]
    rcases hu.at_position j with ⟨m, task', hm, ht⟩ | hnone
    · have hwithin := hu.go_within stop hm ht
      by_cases hj : j = i
      · subst hj
        obtain ⟨hs', hdealt, hfault⟩ := hs.go_own hu stop hn ht hd.before
        cases hm.symm.trans hn
        obtain ⟨report', a', hout, hreport, halike, hw, hasked⟩ :=
          ih (hu.go stop j) hover hs' (hdealt.deals hwithin hd)
        refine ⟨report', a', ?_, hreport, halike, hdealt.own.trans hw, ?_⟩
        · rw [← Task.outcome_walk stop hfault]
          exact hout
        · rw [part_own, Outside.asked_append hdealt.own.grows hw.grows, hdealt.asked, hasked]
      · rw [part_other hj]
        exact ih (hu.go stop j) hover (hs.go_other hu stop hn hm ht hj) (hwithin.deals hj hd)
    · rw [Pool.go_none stop o hnone, Outside.asked_self] at hd
      have hgo := Pool.go_none stop o hnone
      have hrest := ih (hu.go stop j) hover (by rwa [hgo]) (by rwa [hgo])
      rwa [hgo, Outside.asked_self]

/-- The order of the requests is that of the record. -/
theorem asked (h : pool.Moves o order last done) (hu : plan.Underway place nodes pool o) :
    o.trace <+: done.trace ∧ o.asked done = order.map Prod.snd := by
  induction h with
  | @refl pool o => exact ⟨List.prefix_rfl, Outside.asked_self o⟩
  | letIn limit _ ih => exact ih (hu.letIn limit)
  | @go pool last o done order stop j _ ih =>
    obtain ⟨hgrows, hasked⟩ := ih (hu.go stop j)
    have hfirst : o.trace <+: (pool.go stop o j).2.trace := by
      rcases hu.at_position j with ⟨m, task, hm, ht⟩ | hnone
      · exact (hu.go_within stop hm ht).grows
      · simpa only [Pool.go_none stop o hnone] using List.prefix_refl o.trace
    refine ⟨hfirst.trans hgrows, ?_⟩
    rw [Outside.asked_append hfirst hgrows, hasked, List.map_append, List.map_map]
    simp [Function.comp_def]

/-- Every request is made for the sake of the node whose task sends it. -/
theorem asks (h : pool.Moves o order last done) (hu : plan.Underway place nodes pool o) :
    ∀ entry ∈ order, ∃ m, nodes[entry.1]? = some m ∧ plan.Asks m entry.2 := by
  induction h with
  | refl => exact nofun
  | letIn limit _ ih => exact ih (hu.letIn limit)
  | @go pool last o done order stop j _ ih =>
    intro entry hentry
    rcases List.mem_append.1 hentry with hnew | hlater
    · obtain ⟨r, hr, rfl⟩ := List.mem_map.1 hnew
      rcases hu.at_position j with ⟨m, task, hm, ht⟩ | hnone
      · exact ⟨m, hm, (hu.go_within stop hm ht).asked r hr⟩
      · rw [Pool.go_none stop o hnone, Outside.asked_self] at hr
        cases hr
    · exact ih (hu.go stop j) entry hlater

/-- What no node is called is not spoken of. -/
theorem others (h : pool.Moves o order last done) (hu : plan.Underway place nodes pool o)
    {name : Option String} (hne : ∀ n ∈ nodes, name ≠ n.name) :
    SameFor name pool.report last.report := by
  induction h with
  | refl => exact SameFor.refl name _
  | letIn limit _ ih =>
    have hrest := ih (hu.letIn limit)
    rwa [Pool.letIn_eq] at hrest
  | go stop j _ ih => exact (hu.go_others stop j hne).trans (ih (hu.go stop j))

end Pool.Moves

end Cycle

end KubeletCollector
