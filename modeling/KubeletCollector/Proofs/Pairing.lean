import KubeletCollector.Proofs.Script

/-! Two runs in step. A pairing says which outsides correspond to each other, and two actions are
in step if each step of the one can be matched by the other from every such pair of
outsides. That is asked of each step for itself, so it does not matter what others
do in between. An action that is in step with itself is the case of most interest. -/

namespace KubeletCollector

/-- Which outsides correspond, what may be done to either, which requests correspond, and what
they can be answered with. -/
structure Pairing where
  rel : Outside → Outside → Prop
  moves : Outside → Outside → Prop
  asks : Request → Request → Prop
  answers : Request → Reply → Prop

namespace Act

variable {p : Pairing} {α β : Type}

/-- The two actions go in step. What they return, which is the same, satisfies `V`, and a fault
that ends them `E`. -/
inductive InStep (p : Pairing) (V : α → Prop) (E : Fault → Prop) : Act α → Act α → Prop
  | done {a : α} : V a → InStep p V E (.done a) (.done a)
  | fail {f : Fault} : E f → InStep p V E (.fail f) (.fail f)
  | step {move move' : Outside → Outside} {next next' : Outside → Act α} :
      (∀ o a, p.rel o a → p.rel (move o) (move' a) ∧ p.moves o (move o) ∧ p.moves a (move' a)) →
      (∀ o a, p.rel o a → InStep p V E (next o) (next' a)) →
      InStep p V E (.step move next) (.step move' next')
  | ask {r r' : Request} {next next' : Reply → Act α} : p.asks r r' →
      (∀ reply, p.answers r reply → InStep p V E (next reply) (next' reply)) →
      InStep p V E (.ask r next) (.ask r' next')
  | wait {rest rest' : Act α} : InStep p V E rest rest' → InStep p V E (.wait rest) (.wait rest')

namespace InStep

variable {V : α → Prop} {W : β → Prop} {E E' : Fault → Prop} {act act' : Act α}

theorem pure {a : α} (h : V a) : InStep p V E (Pure.pure a) (Pure.pure a) :=
  InStep.done h

theorem throw {f : Fault} (h : E f) :
    InStep p V E (MonadExcept.throw f : Act α) (MonadExcept.throw f) :=
  InStep.fail h

theorem bind {next next' : α → Act β} (h : InStep p V E act act')
    (hn : ∀ a, V a → InStep p W E (next a) (next' a)) :
    InStep p W E (act >>= next) (act' >>= next') := by
  show InStep p W E (act.andThen next) (act'.andThen next')
  induction h with
  | done hv => exact hn _ hv
  | fail hf => exact InStep.fail hf
  | step hmove _ ih => exact InStep.step hmove ih
  | ask hr _ ih => exact InStep.ask hr ih
  | wait _ ih => exact InStep.wait ih

/-- A fault that is handed over as a value is dealt with like one. -/
theorem attempt {next next' : Except Fault α → Act β} (h : InStep p V E act act')
    (hok : ∀ a, V a → InStep p W E' (next (.ok a)) (next' (.ok a)))
    (herr : ∀ f, E f → InStep p W E' (next (.error f)) (next' (.error f))) :
    InStep p W E' (Act.attempt act >>= next) (Act.attempt act' >>= next') := by
  show InStep p W E' ((Act.attempt act).andThen next) ((Act.attempt act').andThen next')
  induction h with
  | done hv => exact hok _ hv
  | fail hf => exact herr _ hf
  | step hmove _ ih => exact InStep.step hmove ih
  | ask hr _ ih => exact InStep.ask hr ih
  | wait _ ih => exact InStep.wait ih

theorem await : InStep p (fun _ => True) E Act.await Act.await :=
  InStep.wait (InStep.done trivial)

/-- What each of two actions does, it may do in one step. -/
theorem immediate (hact : act = Act.atomic act.outcome) (hact' : act' = Act.atomic act'.outcome)
    (h : ∀ o a, p.rel o a → p.rel (act.outcome o).2 (act'.outcome a).2 ∧
      p.moves o (act.outcome o).2 ∧ p.moves a (act'.outcome a).2 ∧
      (act'.outcome a).1 = (act.outcome o).1 ∧
      match (act.outcome o).1 with
      | .ok v => V v
      | .error f => E f) : InStep p V E act act' := by
  rw [hact, hact']
  refine InStep.step (fun o a hrel => ?_) fun o a hrel => ?_
  · obtain ⟨hrel', hstep, hstep', -⟩ := h o a hrel
    exact ⟨hrel', hstep, hstep'⟩
  · obtain ⟨-, -, -, hsame, hv⟩ := h o a hrel
    rw [hsame]
    rcases hout : (act.outcome o).1 with f | v <;> rw [hout] at hv
    · exact InStep.fail hv
    · exact InStep.done hv

theorem exchange {r r' : Request} (h : p.asks r r') :
    InStep p (p.answers r) E (Act.exchange r) (Act.exchange r') :=
  InStep.wait (InStep.ask h fun _ hreply => InStep.wait (InStep.done hreply))

theorem ite (c : Prop) [Decidable c] {other other' : Act α} (h : InStep p V E act act')
    (ho : InStep p V E other other') :
    InStep p V E (if c then act else other) (if c then act' else other') := by
  split
  · exact h
  · exact ho

theorem forM {each each' : β → Act Unit} (bs : List β)
    (h : ∀ b ∈ bs, InStep p (fun _ => True) E (each b) (each' b)) :
    InStep p (fun _ => True) E (bs.forM each) (bs.forM each') := by
  induction bs with
  | nil => exact InStep.pure trivial
  | cons b bs ih =>
    exact InStep.bind (h b List.mem_cons_self) fun _ _ => ih fun b hb => h b (List.mem_cons_of_mem _ hb)

/-- Two that have ended have ended alike. -/
theorem ended {r r' : Except Fault α} :
    InStep p V E (ofExcept r) (ofExcept r') → r' = r ∧ match r with
      | .ok v => V v
      | .error f => E f := by
  intro h
  rcases r with f | v <;> rcases r' with f' | v' <;> simp only [ofExcept] at h <;> cases h
  · exact ⟨rfl, ‹_›⟩
  · exact ⟨rfl, ‹_›⟩

theorem of_done {a : α} (h : InStep p V E (.done a) act') : V a := by
  cases h
  assumption

end InStep

/-- A stretch that goes on to the end of an action brings about its outcome. -/
theorem walk_to_end (act : Act α) (o : Outside) :
    act.walk false o = (ofExcept (act.outcome o).1, (act.outcome o).2) := by
  induction act generalizing o with
  | done a => rfl
  | fail f => rfl
  | step move next ih => exact ih o (move o)
  | ask r next ih => exact ih (o.reply r) (o.afterRequest r)
  | wait rest ih => exact ih o

/-- What is left after a stretch leads to the same outcome. -/
theorem outcome_walk (stop : Bool) (act : Act α) (o : Outside) :
    (act.walk stop o).1.outcome (act.walk stop o).2 = act.outcome o := by
  induction act generalizing o with
  | done a => rfl
  | fail f => rfl
  | step move next ih => exact ih o (move o)
  | ask r next ih => exact ih (o.reply r) (o.afterRequest r)
  | wait rest ih =>
    cases stop with
    | false => exact ih o
    | true => rfl

end Act

namespace Pairing

/-- Requests that correspond are answered alike and leave outsides that correspond, and what
may be done may be done again and again. -/
structure Sound (p : Pairing) : Prop where
  refl : ∀ o, p.moves o o
  trans : ∀ {o o₁ o₂}, p.moves o o₁ → p.moves o₁ o₂ → p.moves o o₂
  reply : ∀ {r r' o a}, p.asks r r' → p.rel o a → a.reply r' = o.reply r ∧ p.answers r (o.reply r)
  sent : ∀ {r r' o a}, p.asks r r' → p.rel o a → p.rel (o.afterRequest r) (a.afterRequest r') ∧
    p.moves o (o.afterRequest r) ∧ p.moves a (a.afterRequest r')

/-- Two moments of one run beside two moments of the other. -/
structure Beside (p : Pairing) (o a o' a' : Outside) : Prop where
  rel : p.rel o' a'
  did : p.moves o o'
  did' : p.moves a a'

variable {p : Pairing} {α : Type} {V : α → Prop} {E : Fault → Prop} {act act' : Act α}
  {o a o₁ a₁ o₂ a₂ : Outside}

theorem Sound.beside (hp : p.Sound) (h : p.rel o a) : p.Beside o a o a :=
  ⟨h, hp.refl o, hp.refl a⟩

theorem Sound.beside_trans (hp : p.Sound) (h : p.Beside o a o₁ a₁)
    (h' : p.Beside o₁ a₁ o₂ a₂) : p.Beside o a o₂ a₂ :=
  ⟨h'.rel, hp.trans h.did h'.did, hp.trans h.did' h'.did'⟩

/-- After a stretch of both, two actions are still in step. -/
theorem Sound.walk (hp : p.Sound) (stop : Bool) (h : act.InStep p V E act') (hr : p.rel o a) :
    (act.walk stop o).1.InStep p V E (act'.walk stop a).1 ∧
      p.Beside o a (act.walk stop o).2 (act'.walk stop a).2 := by
  induction h generalizing o a with
  | done hv => exact ⟨Act.InStep.done hv, hp.beside hr⟩
  | fail hf => exact ⟨Act.InStep.fail hf, hp.beside hr⟩
  | step hmove _ ih =>
    obtain ⟨hrel, hs, hs'⟩ := hmove o a hr
    obtain ⟨hrest, hbeside⟩ := ih o a hr hrel
    exact ⟨hrest, hp.beside_trans ⟨hrel, hs, hs'⟩ hbeside⟩
  | @ask r r' next next' hasks _ ih =>
    obtain ⟨hsame, hanswers⟩ := hp.reply hasks hr
    obtain ⟨hrel, hs, hs'⟩ := hp.sent hasks hr
    obtain ⟨hrest, hbeside⟩ := ih _ hanswers hrel
    simp only [Act.walk, hsame]
    exact ⟨hrest, hp.beside_trans ⟨hrel, hs, hs'⟩ hbeside⟩
  | wait hrest ih =>
    cases stop with
    | false => exact ih hr
    | true => exact ⟨hrest, hp.beside hr⟩

/-- Actions in step have one outcome, and leave outsides that correspond. -/
theorem Sound.outcome (hp : p.Sound) (h : act.InStep p V E act') (hr : p.rel o a) :
    (act'.outcome a).1 = (act.outcome o).1 ∧
      p.Beside o a (act.outcome o).2 (act'.outcome a).2 ∧
      match (act.outcome o).1 with
      | .ok v => V v
      | .error f => E f := by
  obtain ⟨hrest, hbeside⟩ := hp.walk false h hr
  rw [Act.walk_to_end, Act.walk_to_end] at hrest hbeside
  obtain ⟨hsame, hv⟩ := hrest.ended
  exact ⟨hsame, hbeside, hv⟩

end Pairing

end KubeletCollector
