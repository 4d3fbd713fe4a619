import KubeletCollector.Proofs.Dealing
import KubeletCollector.Proofs.Entries
import KubeletCollector.Proofs.Mirror

/-! Stretches of two runs that are dealt the same. An action that depends on a view alone goes in step
with itself from any two outsides that look alike there, as long as the second has in store what the
first answers; so does a task, with the same to say of its node. -/

namespace KubeletCollector

open Text

section Stretches

variable {view : View} {α : Type} {V : α → Prop} {E : Fault → Prop} {act act' : Act α}
  {o o' a a' : Outside} {i : Nat}

theorem Within.spent {scope : Scope} (h : Within scope o o') : o.Spent o' (o.asked o') := by
  obtain ⟨events, ht, -, hs⟩ := h.news
  unfold Outside.asked
  rw [ht, List.drop_left]
  exact hs

theorem View.Alike.left (h : view.Alike o a) : view.Alike o o :=
  ⟨fun _ _ => rfl, h.opens, h.opens⟩

/-- What asks nothing and writes no place in view changes nothing about how an outside looks. -/
theorem View.Alike.within {scope : Scope} (h : view.Alike o a) (hw : Within scope o o')
    (hs : ∀ loc, view.spots loc → ¬ scope.writes loc) : view.Alike o' a :=
  ⟨fun loc hl => (h.files loc hl).trans (hw.files loc (hs loc hl)).symm, hw.opens h.opens, h.opens'⟩

/-- An outside still looks like itself, whatever is done to the places in view. -/
theorem View.Alike.moved {scope : Scope} (h : view.Alike o o) (hw : Within scope o o') :
    view.Alike o' o' :=
  ⟨fun _ _ => rfl, hw.opens h.opens, hw.opens h.opens⟩

theorem View.Alike.sent (h : view.Alike o a) (r : Request) :
    view.Alike (o.afterRequest r) (a.afterRequest r) := by
  refine ⟨?_, ?_, ?_⟩
  · simpa using h.files
  · simpa using h.opens
  · simpa using h.opens'

theorem Within.loud (h : Within view.quiet o o') : Within view.scope o o' :=
  h.mono (fun _ hr => hr.elim) fun _ => id

theorem View.sent (o : Outside) {r : Request} (hr : view.asks r) :
    Within view.scope o (o.afterRequest r) :=
  (Within.refl view.scope o).sent hr

theorem Outside.asked_afterRequest (o : Outside) (r : Request) : o.asked (o.afterRequest r) = [r] := by
  unfold Outside.asked
  rw [Outside.trace_afterRequest, List.drop_left]
  rfl

theorem Outside.asked_self (o : Outside) : o.asked o = [] :=
  (Within.refl Scope.idle o).asked_nothing

theorem Within.asked_none {scope : Scope} (h : Within scope o o') (hq : ∀ {r}, ¬ scope.asks r) :
    o.asked o' = [] :=
  List.eq_nil_iff_forall_not_mem.2 fun r hr => hq (h.asked r hr)

/-- A stretch keeps to its view. -/
theorem Act.InStep.walk_within (stop : Bool) (h : act.InStep view.pairing V E act')
    (ha : view.Alike o o) (ho : o.Ordinary) : Within view.scope o (act.walk stop o).2 := by
  induction h generalizing o with
  | done => exact Within.refl _ o
  | fail => exact Within.refl _ o
  | step hmove _ ih =>
    obtain ⟨halike, hquiet, -⟩ := hmove o o ha
    exact hquiet.loud.trans (ih o o ha halike.left (hquiet.ordinary ho))
  | @ask r r' next next' hasks _ ih =>
    have hsent : Within view.scope o (o.afterRequest r) := View.sent o hasks.2
    exact hsent.trans (ih _ (ho _ _ 0) (ha.sent r) (hsent.ordinary ho))
  | wait _ ih =>
    cases stop with
    | false => exact ih ha ho
    | true => exact Within.refl _ o

/-- What two stretches leave of two runs that are dealt the same. -/
structure View.Dealt (view : View) (o a o' a' : Outside) : Prop where
  alike : view.Alike o' a'
  own : Within view.scope a a'
  asked : a.asked a' = o.asked o'

theorem View.Dealt.refl (h : view.Alike o a) : view.Dealt o a o a := by
  refine ⟨h, Within.refl _ a, ?_⟩
  rw [Outside.asked_self, Outside.asked_self]

theorem View.Dealt.trans {o₁ a₁ : Outside} (h : view.Dealt o a o₁ a₁)
    (hw : Within view.scope o o₁) (h' : view.Dealt o₁ a₁ o' a') (hw' : Within view.scope o₁ o') :
    view.Dealt o a o' a' := by
  refine ⟨h'.alike, h.own.trans h'.own, ?_⟩
  rw [Outside.asked_append hw.grows hw'.grows, Outside.asked_append h.own.grows h'.own.grows,
    h.asked, h'.asked]

/-- What is dealt to a run after a part of it. -/
theorem View.Dealt.deals {o₁ a₁ : Outside} {more : List (Nat × Request)}
    (h : view.Dealt o a o₁ a₁) (hw : Within view.scope o o₁)
    (hd : o.Deals i a ((o.asked o₁).map (Prod.mk i) ++ more)) : o₁.Deals i a₁ more := by
  refine hd.after ?_ ?_
  · rw [List.map_map]
    simpa [Function.comp_def] using hw.spent
  · rw [part_own, ← h.asked]
    exact h.own.spent

/-- What is dealt to a run that another task's part does not concern. -/
theorem Within.deals {scope : Scope} {more : List (Nat × Request)} {j : Nat} (hw : Within scope o o')
    (hne : j ≠ i) (hd : o.Deals i a ((o.asked o').map (Prod.mk j) ++ more)) : o'.Deals i a more := by
  refine hd.after ?_ (part_other hne _ ▸ Outside.spent_nothing fun _ => rfl)
  rw [List.map_map]
  simpa [Function.comp_def] using hw.spent

/-- By induction on the action: its stretches from two outsides that look alike, of which the second has
in store what the first deals. -/
theorem Act.InStep.walk_dealt (stop : Bool) (h : act.InStep view.pairing V E act')
    (ha : view.Alike o a) (ho : o.Ordinary)
    (hd : o.Deals i a ((o.asked (act.walk stop o).2).map (Prod.mk i))) :
    (act.walk stop o).1.InStep view.pairing V E (act'.walk stop a).1 ∧
      view.Dealt o a (act.walk stop o).2 (act'.walk stop a).2 := by
  induction h generalizing o a with
  | done hv => exact ⟨Act.InStep.done hv, View.Dealt.refl ha⟩
  | fail hf => exact ⟨Act.InStep.fail hf, View.Dealt.refl ha⟩
  | @step move move' next next' hmove hnext ih =>
    obtain ⟨halike, hquiet, hquiet'⟩ := hmove o a ha
    have hfirst : view.Dealt o a (move o) (move' a) :=
      ⟨halike, hquiet'.loud, by rw [hquiet.asked_none id, hquiet'.asked_none id]⟩
    have hrest := (hnext o a ha).walk_within stop halike.left (hquiet.ordinary ho)
    unfold Act.walk at hd ⊢
    rw [Outside.asked_append hquiet.grows hrest.grows, List.map_append] at hd
    obtain ⟨hleft, hdealt⟩ := ih o a ha halike (hquiet.ordinary ho) (hfirst.deals hquiet.loud hd)
    exact ⟨hleft, hfirst.trans hquiet.loud hdealt hrest⟩
  | @ask r r' next next' hasks hnext ih =>
    obtain ⟨rfl, hr⟩ := hasks
    have hsent : Within view.scope o (o.afterRequest r') := View.sent o hr
    have hfirst : view.Dealt o a (o.afterRequest r') (a.afterRequest r') :=
      ⟨ha.sent r', View.sent a hr, by rw [Outside.asked_afterRequest, Outside.asked_afterRequest]⟩
    have hanswers : (o.reply r').Ordinary := ho r'.side r'.line 0
    have hrest := (hnext _ hanswers).walk_within stop (ha.sent r').left (hsent.ordinary ho)
    unfold Act.walk at hd ⊢
    rw [Outside.asked_append hsent.grows hrest.grows, List.map_append] at hd
    have hreply : a.reply r' = o.reply r' := by
      rw [Outside.asked_afterRequest] at hd
      exact hd.reply
    obtain ⟨hleft, hdealt⟩ :=
      ih _ hanswers (ha.sent r') (hsent.ordinary ho) (hfirst.deals hsent hd)
    rw [hreply]
    exact ⟨hleft, hfirst.trans hsent hdealt hrest⟩
  | wait hrest ih =>
    cases stop with
    | false => exact ih ha ho hd
    | true => exact ⟨hrest, View.Dealt.refl ha⟩

/-- A run is dealt by itself what it finds. -/
theorem Act.InStep.walk_self (stop : Bool) (h : act.InStep view.pairing V E act')
    (ha : view.Alike o o) (ho : o.Ordinary) :
    (act.walk stop o).1.InStep view.pairing V E (act'.walk stop o).1 :=
  (h.walk_dealt stop ha ho (Outside.Deals.all (i := 0) (fun _ => rfl) (by simp))).1

end Stretches

namespace Cycle

open FailureReport

section Tasks

variable {view : View} {name : Option String} {task task' : Task} {report report' : FailureReport}
  {o a : Outside} {i : Nat}

theorem Task.InStep.walk_within (stop : Bool) (h : task.InStep view.pairing (fun _ => False) task')
    (report : FailureReport) (ha : view.Alike o o) (ho : o.Ordinary) :
    Within view.scope o (task.walk stop report o).outside := by
  induction h generalizing report o with
  | ended => exact Within.refl _ o
  | @stage α V act act' enter next next' hact hnext ih =>
    have hfirst := hact.walk_within stop ha ho
    have hself := hact.walk_self stop ha ho
    have halike := ha.moved hfirst
    unfold Task.walk
    rcases hw : act.walk stop o with ⟨rest, o₁⟩
    rw [hw] at hfirst hself halike
    cases rest with
    | done v =>
      exact hfirst.trans (ih v hself.of_done (enter v report) halike (hfirst.ordinary ho))
    | fail f => exact hfirst
    | step move rest => exact hfirst
    | ask r rest => exact hfirst
    | wait rest => exact hfirst

/-- The first stage of a task asks before the others do. -/
theorem Task.InStep.asked_stage {α : Type} {V : α → Prop} {act act' : Act α} {next next' : α → Task}
    (stop : Bool) (hact : act.InStep view.pairing V (fun _ => False) act')
    (hnext : ∀ v, V v → (next v).InStep view.pairing (fun _ => False) (next' v))
    (enter : α → FailureReport → FailureReport) (report : FailureReport) (ha : view.Alike o o)
    (ho : o.Ordinary) :
    ∃ more, o.asked ((Task.stage act enter next).walk stop report o).outside =
      o.asked (act.walk stop o).2 ++ more := by
  have hfirst := hact.walk_within stop ha ho
  have hself := hact.walk_self stop ha ho
  have halike := ha.moved hfirst
  unfold Task.walk
  rcases hw : act.walk stop o with ⟨rest, o₁⟩
  rw [hw] at hfirst hself halike
  cases rest with
  | done v =>
    have hrest := (hnext v hself.of_done).walk_within stop (enter v report) halike
      (hfirst.ordinary ho)
    exact ⟨_, Outside.asked_append hfirst.grows hrest.grows⟩
  | _ => exact ⟨[], (List.append_nil _).symm⟩

/-- Two stretches after which two tasks still go in step, with the same said of a name and no fault. -/
structure Task.Stretch.Follows (view : View) (name : Option String) (s s' : Task.Stretch) :
    Prop where
  task : s.task.InStep view.pairing (fun _ => False) s'.task
  report : SameFor name s.report s'.report
  fault : s.fault = none
  fault' : s'.fault = none

/-- By induction on the stages. -/
theorem Task.InStep.walk_dealt (stop : Bool) (h : task.InStep view.pairing (fun _ => False) task')
    (hs : task.SpeaksOf name) (hr : SameFor name report report') (ha : view.Alike o a)
    (ho : o.Ordinary)
    (hd : o.Deals i a ((o.asked (task.walk stop report o).outside).map (Prod.mk i))) :
    (task.walk stop report o).Follows view name (task'.walk stop report' a) ∧
      view.Dealt o a (task.walk stop report o).outside (task'.walk stop report' a).outside := by
  induction h generalizing report report' o a with
  | ended => exact ⟨⟨ended, hr, rfl, rfl⟩, View.Dealt.refl ha⟩
  | @stage α V act act' enter next next' hact hnext ih =>
    have hfirst := hact.walk_within stop ha.left ho
    obtain ⟨henter, hspeak⟩ := Task.SpeaksOf.of_stage hs
    have hdeals : o.Deals i a ((o.asked (act.walk stop o).2).map (Prod.mk i)) := by
      obtain ⟨more, hmore⟩ := asked_stage stop hact hnext enter report ha.left ho
      rw [hmore, List.map_append] at hd
      exact hd.before
    obtain ⟨hrest, hdealt⟩ := hact.walk_dealt stop ha ho hdeals
    unfold Task.walk at hd ⊢
    rcases hw : act.walk stop o with ⟨rest, o₁⟩
    rcases hw' : act'.walk stop a with ⟨rest', a₁⟩
    rw [hw] at hfirst hd
    rw [hw, hw'] at hrest hdealt
    cases hrest with
    | @done v hv =>
      have hlast := (hnext v hv).walk_within stop (enter v report) (ha.left.moved hfirst)
        (hfirst.ordinary ho)
      rw [Outside.asked_append hfirst.grows hlast.grows, List.map_append] at hd
      obtain ⟨hfollows, hdealt'⟩ := ih v hv (hspeak v) ((henter v).own hr) hdealt.alike
        (hfirst.ordinary ho) (hdealt.deals hfirst hd)
      exact ⟨hfollows, hdealt.trans hfirst hdealt' hlast⟩
    | fail hf => exact hf.elim
    | step hmove hrest =>
      exact ⟨⟨stage (Act.InStep.step hmove hrest) hnext, hr, rfl, rfl⟩, hdealt⟩
    | ask hasks hrest =>
      exact ⟨⟨stage (Act.InStep.ask hasks hrest) hnext, hr, rfl, rfl⟩, hdealt⟩
    | wait hrest =>
      exact ⟨⟨stage (Act.InStep.wait hrest) hnext, hr, rfl, rfl⟩, hdealt⟩

theorem Task.InStep.walk_self (stop : Bool) (h : task.InStep view.pairing (fun _ => False) task)
    (hs : task.SpeaksOf name) (report : FailureReport) (ha : view.Alike o o) (ho : o.Ordinary) :
    (task.walk stop report o).Follows view name (task.walk stop report o) :=
  (h.walk_dealt stop hs (SameFor.refl name report) ha ho
    (Outside.Deals.all (i := 0) (fun _ => rfl) (by simp))).1

end Tasks

end Cycle

end KubeletCollector
