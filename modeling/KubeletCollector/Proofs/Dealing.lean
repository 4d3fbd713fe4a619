import KubeletCollector.Proofs.Within

/-! Replies that several share. Requests of several tasks are sent in some order, and each takes the
next reply of its line. What a task is dealt in this way it could as well have found in store all by
itself. -/

namespace KubeletCollector

def part (i : Nat) (order : List (Nat × Request)) : List Request :=
  (order.filter fun entry => entry.1 = i).map Prod.snd

theorem part_append (i : Nat) (order more : List (Nat × Request)) :
    part i (order ++ more) = part i order ++ part i more := by
  unfold part
  rw [List.filter_append, List.map_append]

theorem part_own (i : Nat) (rs : List Request) : part i (rs.map (Prod.mk i)) = rs := by
  unfold part
  rw [List.filter_eq_self.2 (by simp), List.map_map]
  exact List.map_id' rs

theorem part_other {i j : Nat} (h : j ≠ i) (rs : List Request) :
    part i (rs.map (Prod.mk j)) = [] := by
  unfold part
  rw [List.filter_eq_nil_iff.2 (by simp [h]), List.map_nil]

/-- Where the other requests are of other lines, each request of a task is as far in its line as in the
part of the task. -/
theorem heard_part {i : Nat} {side : Side} {line : String} {order : List (Nat × Request)}
    (h : ∀ entry ∈ order, entry.2.side = side → entry.2.line = line → entry.1 = i) :
    heard side line (part i order) = heard side line (order.map Prod.snd) := by
  unfold heard part
  rw [List.countP_map, List.countP_map, List.countP_filter]
  refine List.countP_congr fun entry hentry => ?_
  simp only [Function.comp_apply, Bool.and_eq_true, decide_eq_true_eq]
  exact ⟨And.left, fun hline => ⟨hline, h entry hentry hline.1 hline.2⟩⟩

namespace Outside

variable {i j : Nat} {o o' a a' : Outside} {r : Request} {rs : List Request}
  {order more : List (Nat × Request)}

def Spent (o o' : Outside) (rs : List Request) : Prop :=
  ∀ side line k, o'.script side line k = o.script side line (k + heard side line rs)

/-- Where requests are sent in this order, what `o` answers to those of task `i` is what `a` has in
store for them. -/
def Deals (i : Nat) (o a : Outside) (order : List (Nat × Request)) : Prop :=
  ∀ before r after, order = before ++ (i, r) :: after →
    a.script r.side r.line (heard r.side r.line (part i before)) =
      o.script r.side r.line (heard r.side r.line (before.map Prod.snd))

theorem spent_nothing (h : ∀ side, o'.script side = o.script side) : Spent o o' [] := by
  intro side line k
  rw [h]
  rfl

theorem spent_afterRequest (o : Outside) (r : Request) : Spent o (o.afterRequest r) [r] :=
  fun side line k => script_afterRequest o r side line k

/-- What is dealt in the end is what is dealt from what was left. -/
theorem Deals.after (h : Deals i o a (order ++ more)) (ho : Spent o o' (order.map Prod.snd))
    (ha : Spent a a' (part i order)) : Deals i o' a' more := by
  rintro before r after rfl
  have hdealt := h (order ++ before) r after (by simp)
  rw [part_append, List.map_append, heard_append, heard_append] at hdealt
  rw [ho, ha, Nat.add_comm, hdealt, Nat.add_comm]

theorem Deals.before (h : Deals i o a (order ++ more)) : Deals i o a order := by
  rintro before r after rfl
  exact h before r (after ++ more) (by simp)

theorem Spent.ordinary (h : Spent o o' rs) (ho : o.Ordinary) : o'.Ordinary := by
  intro side line k
  rw [h]
  exact ho side line _

theorem Deals.cons_own (hr : a.reply r = o.reply r) (ho : Spent o o' [r]) (ha : Spent a a' [r])
    (h : Deals i o' a' more) : Deals i o a ((i, r) :: more) := by
  rintro (_ | ⟨entry, before⟩) q after he
  · obtain rfl := (Prod.mk.inj (List.cons.inj he).1).2
    exact hr
  · obtain ⟨rfl, hrest⟩ := List.cons.inj he
    have hdealt := h before q after hrest
    have hpart : part i ((i, r) :: before) = [r] ++ part i before := by simp [part]
    rw [ho, ha, Nat.add_comm, ← heard_append, Nat.add_comm, ← heard_append] at hdealt
    rw [hpart, hdealt]
    rfl

theorem Deals.cons_other (hj : j ≠ i) (ho : Spent o o' [r]) (h : Deals i o' a more) :
    Deals i o a ((j, r) :: more) := by
  rintro (_ | ⟨entry, before⟩) q after he
  · exact absurd (Prod.mk.inj (List.cons.inj he).1).1 hj
  · obtain ⟨rfl, hrest⟩ := List.cons.inj he
    have hdealt := h before q after hrest
    have hpart : part i ((j, r) :: before) = part i before := by simp [part, hj]
    rw [ho, Nat.add_comm, ← heard_append] at hdealt
    rw [hpart, hdealt]
    rfl

theorem Deals.reply (h : Deals i o a ((i, r) :: more)) : a.reply r = o.reply r :=
  h [] r more rfl

/-- What is dealt to one who sends all the requests. -/
theorem Deals.all (hs : ∀ side, a.script side = o.script side) (h : ∀ entry ∈ order, entry.1 = i) :
    Deals i o a order := by
  rintro before r after rfl
  have hown : part i before = before.map Prod.snd := by
    unfold part
    rw [List.filter_eq_self.2]
    intro entry hentry
    simpa using h entry (by simp [hentry])
  rw [hs, hown]

end Outside

def Routes.push (routes : Routes) (line : String) (reply : Reply) : Routes :=
  let rest := match routes.lookup line with
    | some (next :: rest) => next :: rest
    | _ => [.response 404 [] none]
  (line, reply :: rest) :: routes

namespace Routes

variable {routes : Routes} {line other : String}

theorem script_push_other (reply : Reply) (h : other ≠ line) :
    (routes.push line reply).script other = routes.script other := by
  refine script_congr ?_
  have hb : (other == line) = false := by simpa using h
  simp [push, List.lookup_cons, hb]

theorem script_push_zero (routes : Routes) (line : String) (reply : Reply) :
    (routes.push line reply).script line 0 = reply := by
  unfold script take push
  rcases routes.lookup line with _ | _ | ⟨next, rest⟩ <;> simp [nextOf]

/-- A line without a reply keeps on answering that nothing is found. -/
theorem script_push_succ (routes : Routes) (line : String) (reply : Reply) (k : Nat) :
    (routes.push line reply).script line (k + 1) = routes.script line k := by
  have hnone (routes' : Routes) (k : Nat)
      (h : routes'.lookup line = some [Reply.response 404 [] none]) :
      routes'.script line k = .response 404 [] none := by
    rcases script_mem h k with hs | hs
    · exact List.mem_singleton.1 hs
    · exact hs
  have hpush (rest : List Reply) (he : (routes.push line reply).lookup line = some (reply :: rest))
      (hne : rest ≠ []) : ((routes.push line reply).take line).2.lookup line = some rest := by
    obtain ⟨next, more, rfl⟩ := List.exists_cons_of_ne_nil hne
    unfold take
    rw [he]
    simp only [Option.bind_some, nextOf]
    rw [lookup_replaced, if_pos rfl, he, Option.map_some]
  show ((routes.push line reply).take line).2.script line k = routes.script line k
  rcases hl : routes.lookup line with _ | _ | ⟨next, rest⟩
  · rw [hnone _ k (hpush _ (by simp [push, hl]) (List.cons_ne_nil _ _)), script_unrouted hl]
  · rw [hnone _ k (hpush _ (by simp [push, hl]) (List.cons_ne_nil _ _))]
    rcases script_mem hl k with hs | hs
    · cases hs
    · exact hs.symm
  · exact congrFun (script_congr ((hpush _ (by simp [push, hl]) (List.cons_ne_nil _ _)).trans hl.symm)) k

end Routes

namespace Outside

variable {i : Nat} {o a : Outside}

def push (o : Outside) (r : Request) (reply : Reply) : Outside :=
  o.setRoutes r.side ((o.routes r.side).push r.line reply)

theorem routes_push (o : Outside) (r : Request) (reply : Reply) (side : Side) :
    (o.push r reply).routes side =
      if side = r.side then (o.routes side).push r.line reply else o.routes side := by
  unfold push setRoutes routes
  cases hs : r.side <;> cases side <;> simp

theorem heard_single (side : Side) (line : String) (r : Request) :
    heard side line [r] = if r.side = side ∧ r.line = line then 1 else 0 := by
  simp [heard, List.countP_cons]

theorem script_push (o : Outside) (r : Request) (reply : Reply) (side : Side) (line : String) :
    (o.push r reply).script side line 0 =
        (if r.side = side ∧ r.line = line then reply else o.script side line 0) ∧
      ∀ k, (o.push r reply).script side line (k + heard side line [r]) = o.script side line k := by
  rw [heard_single]
  unfold script
  rw [routes_push]
  by_cases hs : r.side = side
  · by_cases hl : r.line = line
    · rw [if_pos hs.symm, if_pos ⟨hs, hl⟩, if_pos ⟨hs, hl⟩, hl]
      exact ⟨Routes.script_push_zero .., fun k => Routes.script_push_succ ..⟩
    · rw [if_pos hs.symm, if_neg fun h => hl h.2, if_neg fun h => hl h.2,
        Routes.script_push_other reply (Ne.symm hl)]
      exact ⟨rfl, fun _ => rfl⟩
  · rw [if_neg (Ne.symm hs), if_neg fun h => hs h.1, if_neg fun h => hs h.1]
    exact ⟨rfl, fun _ => rfl⟩

theorem spent_push (o : Outside) (r : Request) (reply : Reply) : Spent (o.push r reply) o [r] :=
  fun side line k => ((script_push o r reply side line).2 k).symm

theorem reply_push (o : Outside) (r : Request) (reply : Reply) :
    (o.push r reply).reply r = reply := by
  have hzero := (script_push o r reply r.side r.line).1
  rwa [if_pos ⟨rfl, rfl⟩] at hzero

theorem ordinary_push {r : Request} {reply : Reply} (ho : o.Ordinary) (hr : reply.Ordinary) :
    (o.push r reply).Ordinary := by
  intro side line k
  obtain ⟨hzero, hrest⟩ := script_push o r reply side line
  rw [heard_single] at hrest
  by_cases hown : r.side = side ∧ r.line = line
  · cases k with
    | zero =>
      rw [hzero, if_pos hown]
      exact hr
    | succ k =>
      rw [if_pos hown] at hrest
      rw [hrest]
      exact ho side line k
  · rw [if_neg hown] at hrest
    rw [show (o.push r reply).script side line k = _ from hrest k]
    exact ho side line k

/-- The same outside with other replies in store. -/
def Restocked (o a : Outside) : Prop :=
  ∃ nodeRoutes clusterRoutes, a = { o with nodeRoutes, clusterRoutes }

theorem Restocked.files (h : o.Restocked a) : a.files = o.files := by
  obtain ⟨nodeRoutes, clusterRoutes, rfl⟩ := h
  rfl

theorem Restocked.push {r : Request} (h : o.Restocked a) (reply : Reply) :
    o.Restocked (a.push r reply) := by
  obtain ⟨nodeRoutes, clusterRoutes, rfl⟩ := h
  unfold Outside.push setRoutes
  cases r.side <;> exact ⟨_, _, rfl⟩

/-- By induction on the requests: what a task is dealt can be put in store for it. -/
theorem exists_deals (i : Nat) (order : List (Nat × Request)) (ho : o.Ordinary) :
    ∃ a, o.Restocked a ∧ a.Ordinary ∧ o.Deals i a order := by
  -- only the replies count that are left after each of the requests
  have hdeals (rest : Outside) (hrest : rest.Ordinary) :
      ∃ a, o.Restocked a ∧ a.Ordinary ∧ rest.Deals i a order := by
    induction order generalizing rest with
    | nil => exact ⟨o, ⟨_, _, rfl⟩, ho, by simp [Deals]⟩
    | cons entry order ih =>
      obtain ⟨j, r⟩ := entry
      have hspent := spent_afterRequest rest r
      obtain ⟨a, hsame, hord, hdealt⟩ := ih (rest.afterRequest r) (hspent.ordinary hrest)
      by_cases hj : j = i
      · subst hj
        refine ⟨a.push r (rest.reply r), hsame.push _, ordinary_push hord (hrest _ _ 0), ?_⟩
        exact Deals.cons_own (reply_push _ _ _) hspent (spent_push _ _ _) hdealt
      · exact ⟨a, hsame, hord, Deals.cons_other hj hspent hdealt⟩
  exact hdeals o ho

end Outside

end KubeletCollector
