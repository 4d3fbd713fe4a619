import KubeletCollector.Proofs.Logic
import KubeletCollector.Proofs.Place

/-! What an action can touch: it sends requests of a known kind and writes at known places,
and the rest of the outside stays, directories included. -/

namespace KubeletCollector

open Text Act

/-- Which requests may be sent, and which places written. -/
structure Scope where
  asks : Request → Prop
  writes : Location → Prop

def Scope.idle : Scope where
  asks _ := False
  writes _ := False

def Scope.all : Scope where
  asks _ := True
  writes _ := True

/-- What was done since `start` keeps to the scope. -/
structure Within (scope : Scope) (start o : Outside) : Prop where
  news : ∃ events, o.trace = start.trace ++ events ∧ (∀ r ∈ requests events, scope.asks r) ∧
    ∀ side line i,
      o.script side line i = start.script side line (i + heard side line (requests events))
  files : ∀ loc, ¬ scope.writes loc → o.files.get? loc = start.files.get? loc
  directories : start.files.SameDirectories o.files
  marks : marks o.trace = marks start.trace
  platform : o.platform = start.platform

theorem Within.refl (scope : Scope) (o : Outside) : Within scope o o :=
  ⟨⟨[], by simp, by simp [requests], fun _ _ _ => rfl⟩, fun _ _ => rfl, fun _ => Iff.rfl, rfl,
    rfl⟩

namespace Within

variable {scope : Scope} {start o : Outside}

theorem trans {middle : Outside} (h : Within scope start middle) (h' : Within scope middle o) :
    Within scope start o := by
  obtain ⟨events, ht, ha, hs⟩ := h.news
  obtain ⟨events', ht', ha', hs'⟩ := h'.news
  refine ⟨⟨events ++ events', ?_, fun r hr => ?_, fun side line i => ?_⟩, fun loc hloc => ?_,
    fun loc => ?_, h'.marks.trans h.marks, h'.platform.trans h.platform⟩
  · rw [ht', ht, List.append_assoc]
  · rw [requests_append] at hr
    exact (List.mem_append.1 hr).elim (ha r) (ha' r)
  · rw [hs', hs, requests_append, heard_append, Nat.add_assoc, Nat.add_comm (heard _ _ _)]
  · rw [h'.files loc hloc, h.files loc hloc]
  · rw [h'.directories loc, h.directories loc]

theorem mono {scope' : Scope} (h : Within scope start o)
    (ha : ∀ r, scope.asks r → scope'.asks r) (hw : ∀ loc, scope.writes loc → scope'.writes loc) :
    Within scope' start o := by
  obtain ⟨events, ht, hasks, hs⟩ := h.news
  refine ⟨⟨events, ht, fun r hr => ha r (hasks r hr), hs⟩, ?_, h.directories, h.marks,
    h.platform⟩
  exact fun loc hloc => h.files loc fun hw' => hloc (hw loc hw')

/-- A line that the scope does not ask keeps its script. -/
theorem script_unasked (h : Within scope start o) {side : Side} {line : String}
    (hq : ∀ r, scope.asks r → r.side = side → r.line ≠ line) :
    o.script side line = start.script side line := by
  obtain ⟨events, -, ha, hs⟩ := h.news
  funext i
  rw [hs, heard_eq_zero fun r hr => hq r (ha r hr)]
  rfl

theorem opens (h : Within scope start o) {dir : Path} {place : Location}
    (ho : start.files.Opens dir place) : o.files.Opens dir place :=
  ho.same h.directories

end Within

/-- What keeps to a scope rests as often as before. -/
theorem Within.rests {scope : Scope} {start o : Outside} (h : Within scope start o) :
    rests o.trace = rests start.trace := by
  rw [← rests_marks, h.marks, rests_marks]

/-- What keeps to a scope closes nothing. -/
theorem Within.closes {scope : Scope} {start o : Outside} (h : Within scope start o) :
    closes o.trace = closes start.trace := by
  rw [← closes_marks, h.marks, closes_marks]

theorem Within.ordinary {scope : Scope} {start o : Outside} (h : Within scope start o)
    (ho : start.Ordinary) : o.Ordinary := by
  obtain ⟨events, -, -, hs⟩ := h.news
  intro side line i
  rw [hs]
  exact ho side line _

def Outside.asked (before after : Outside) : List Request :=
  requests (after.trace.drop before.trace.length)

theorem Within.asked {scope : Scope} {before after : Outside} (h : Within scope before after) :
    ∀ r ∈ before.asked after, scope.asks r := by
  obtain ⟨events, ht, ha, -⟩ := h.news
  unfold Outside.asked
  rw [ht, List.drop_left]
  exact ha

theorem Within.asked_nothing {before after : Outside} (h : Within Scope.idle before after) :
    before.asked after = [] :=
  List.eq_nil_iff_forall_not_mem.2 h.asked

theorem Within.grows {scope : Scope} {before after : Outside} (h : Within scope before after) :
    before.trace <+: after.trace := by
  obtain ⟨events, ht, -⟩ := h.news
  exact ⟨events, ht.symm⟩

theorem Outside.asked_append {before middle after : Outside} (h : before.trace <+: middle.trace)
    (h' : middle.trace <+: after.trace) :
    before.asked after = before.asked middle ++ middle.asked after := by
  obtain ⟨events, ht⟩ := h
  obtain ⟨events', ht'⟩ := h'
  unfold Outside.asked
  rw [← ht', List.drop_left, ← ht, List.drop_left, List.append_assoc, List.drop_left,
    requests_append]

section Primitives

variable {scope : Scope} {start : Outside} {E : Fault → Prop}

theorem keeps_log (level : LogLevel) (component event : String)
    (fields : List (String × LogValue)) :
    Keeps (Within scope start) (fun _ => True) E (Act.log level component event fields) :=
  fun _ h => ⟨⟨h.news, h.files, h.directories, h.marks, h.platform⟩, trivial⟩

theorem keeps_note {event : Event} (hq : event.request? = none) (hm : event.isMark = false) :
    Keeps (Within scope start) (fun _ => True) E (Act.note event) := by
  intro o h
  obtain ⟨events, ht, ha, hs⟩ := h.news
  have hr : requests (events ++ [event]) = requests events := by
    simp [requests, hq]
  refine ⟨⟨⟨events ++ [event], ?_, hr ▸ ha, hr ▸ hs⟩, h.files, h.directories, ?_,
    h.platform⟩, trivial⟩
  · rw [outcome_note, ht, List.append_assoc]
  · rw [← h.marks]
    simp [KubeletCollector.marks, hm]

theorem Within.sent {o : Outside} {r : Request} (h : Within scope start o) (hr : scope.asks r) :
    Within scope start (o.afterRequest r) := by
  obtain ⟨events, ht, ha, hs⟩ := h.news
  have hq : requests (events ++ [Event.requested r]) = requests events ++ [r] := by
    simp [requests, Event.request?]
  refine ⟨⟨events ++ [Event.requested r], ?_, ?_, ?_⟩, ?_, ?_, ?_, ?_⟩
  · rw [Outside.trace_afterRequest, ht, List.append_assoc]
  · rw [hq]
    intro q hmem
    rcases List.mem_append.1 hmem with hm | hm
    · exact ha q hm
    · rw [List.mem_singleton.1 hm]
      exact hr
  · intro side line i
    rw [Outside.script_afterRequest, hs, hq, heard_append, Nat.add_assoc,
      Nat.add_comm (heard _ _ [r])]
  · rw [Outside.files_afterRequest]
    exact h.files
  · rw [Outside.files_afterRequest]
    exact h.directories
  · rw [← h.marks]
    simp [KubeletCollector.marks, Event.isMark]
  · rw [Outside.platform_afterRequest]
    exact h.platform

/-- A request is answered with what its line had in store at the start. -/
theorem Within.reply {o : Outside} (h : Within scope start o) (r : Request) :
    ∃ i, o.reply r = start.script r.side r.line i := by
  obtain ⟨events, -, -, hs⟩ := h.news
  exact ⟨_, hs r.side r.line 0⟩

theorem keeps_exchange {r : Request} (hr : scope.asks r) :
    Keeps (Within scope start) (fun reply => ∃ i, reply = start.script r.side r.line i) E
      (Act.exchange r) :=
  fun _ h => ⟨h.sent hr, h.reply r⟩

theorem Within.put {o : Outside} (h : Within scope start o) {loc : Location} {content : Bytes}
    (hw : scope.writes loc) (hd : o.files.get? loc ≠ some .directory) :
    Within scope start { o with files := o.files.put loc (.file content) } := by
  refine ⟨h.news, fun other ho => ?_, fun other => ?_, h.marks, h.platform⟩
  · have hne : other ≠ loc := fun he => ho (he ▸ hw)
    simpa [FileTree.get?_put, hne] using h.files other ho
  · rw [← h.directories other]
    by_cases he : other = loc ∧ other ≠ []
    · rw [FileTree.get?_put, if_pos he]
      exact ⟨nofun, fun hg => absurd (he.1 ▸ hg) hd⟩
    · rw [FileTree.get?_put, if_neg he]

theorem Within.erase {o : Outside} (h : Within scope start o) {loc : Location}
    (hw : scope.writes loc) (hd : o.files.get? loc ≠ some .directory) :
    Within scope start { o with files := o.files.erase loc } := by
  refine ⟨h.news, fun other ho => ?_, fun other => ?_, h.marks, h.platform⟩
  · have hne : other ≠ loc := fun he => ho (he ▸ hw)
    simpa [FileTree.get?_erase, hne] using h.files other ho
  · rw [← h.directories other]
    by_cases he : other = loc ∧ other ≠ []
    · rw [FileTree.get?_erase, if_pos he]
      exact ⟨nofun, fun hg => absurd (he.1 ▸ hg) hd⟩
    · rw [FileTree.get?_erase, if_neg he]

theorem keeps_appendTo {loc : Location} (hw : scope.writes loc) (bytes : Bytes) :
    Keeps (Within scope start) (fun _ => True) E (Act.appendTo loc bytes) := by
  intro o h
  rw [outcome_appendTo]
  refine ⟨?_, trivial⟩
  unfold FileTree.append
  split
  · exact h.put hw (by simp_all)
  · exact h

def Reaches (scope : Scope) (start : Outside) (p : Path) : Prop :=
  ∀ loc, start.files.locate p = .ok loc → scope.writes loc

theorem Reaches.located {p : Path} (hp : Reaches scope start p) {scope' : Scope} {o : Outside}
    (h : Within scope' start o) {loc : Location} (hl : o.files.locate p = .ok loc) :
    scope.writes loc :=
  hp loc ((FileTree.locate_same h.directories).1 hl)

theorem keeps_openEmpty {p : Path} (hp : Reaches scope start p)
    (hnull : p.hasNull = true → E .nullInPath) (href : ∀ cause, E (.file cause p)) :
    Keeps (Within scope start) scope.writes E (Act.openEmpty p) := by
  intro o h
  by_cases hn : p.hasNull = true
  · rw [outcome_openEmpty_null hn]
    exact ⟨h, hnull hn⟩
  rcases hl : o.files.locate p with cause | loc
  · rw [outcome_openEmpty_refused hn hl]
    exact ⟨h, href cause⟩
  · have hw := hp.located h hl
    by_cases hd : o.files.get? loc = some .directory
    · rw [outcome_openEmpty_directory hn hl hd]
      exact ⟨h, href _⟩
    · rw [outcome_openEmpty hn hl hd]
      exact ⟨h.put hw hd, hw⟩

theorem keeps_removeFile {p : Path} (hp : Reaches scope start p)
    (hnull : p.hasNull = true → E .nullInPath) (href : ∀ cause, E (.file cause p)) :
    Keeps (Within scope start) (fun _ => True) E (Act.removeFile p) := by
  intro o h
  by_cases hn : p.hasNull = true
  · rw [outcome_removeFile_null hn]
    exact ⟨h, hnull hn⟩
  rcases hl : o.files.locate p with cause | loc
  · rw [outcome_removeFile_refused hn hl]
    by_cases hc : cause = .notFound
    · rw [if_pos hc]
      exact ⟨h, trivial⟩
    · rw [if_neg hc]
      exact ⟨h, href cause⟩
  · have hw := hp.located h hl
    rw [outcome_removeFile hn hl]
    rcases hg : o.files.get? loc with _ | _ | _
    · exact ⟨h, trivial⟩
    · exact ⟨h.erase hw (by simp [hg]), trivial⟩
    · exact ⟨h, href _⟩

end Primitives

/-- A run beside itself. What it does keeps to the scope, and what it is answered with was in store
at the start, whatever others asked and wrote in between. -/
def Scope.pairing (scope : Scope) (start : Outside) : Pairing where
  rel o a := a = o ∧ Within .all start o
  moves := Within scope
  asks r r' := r' = r ∧ scope.asks r
  answers r reply := ∃ i, reply = start.script r.side r.line i

section Pairings

variable {scope : Scope} {start o o' : Outside} {α : Type} {V : α → Prop} {E : Fault → Prop}
  {act : Act α}

theorem Within.broad (h : Within scope o o') : Within .all o o' :=
  h.mono (fun _ _ => trivial) fun _ _ => trivial

theorem Scope.sound (scope : Scope) (start : Outside) : (scope.pairing start).Sound where
  refl := Within.refl scope
  trans := Within.trans
  reply := by
    rintro _ r _ o ⟨rfl, -⟩ ⟨rfl, hw⟩
    exact ⟨rfl, hw.reply r⟩
  sent := by
    rintro _ r _ o ⟨rfl, hr⟩ ⟨rfl, hw⟩
    have hsent : Within scope o (o.afterRequest r) := (Within.refl scope o).sent hr
    exact ⟨⟨rfl, hw.sent trivial⟩, hsent, hsent⟩

theorem Scope.scheduled (scope : Scope) (start : Outside) : (scope.pairing start).Scheduled where
  same := by
    rintro _ o ⟨rfl, -⟩
    rfl
  set := by
    rintro _ o schedule ⟨rfl, hw⟩
    exact ⟨rfl, hw.news, hw.files, hw.directories, hw.marks, hw.platform⟩
  did schedule hw := ⟨hw.news, hw.files, hw.directories, hw.marks, hw.platform⟩

/-- What is done in one step, and keeps to the scope wherever it begins. -/
theorem Scope.inStep (hact : act = Act.atomic act.outcome)
    (h : ∀ o, Within .all start o → Keeps (Within scope o) V E act) :
    act.InStep (scope.pairing start) V E act := by
  refine Act.InStep.immediate hact hact ?_
  rintro _ o ⟨rfl, hw⟩
  obtain ⟨hkept, hv⟩ := h o hw o (Within.refl scope o)
  exact ⟨⟨rfl, hw.trans hkept.broad⟩, hkept, hkept, rfl, hv⟩

/-- An action that is in step with itself keeps to the scope. -/
theorem Act.InStep.keeps (h : act.InStep (scope.pairing start) V E act) :
    Keeps (Within scope start) V E act := by
  intro o hw
  obtain ⟨-, hbeside, hv⟩ := (scope.sound start).outcome h ⟨rfl, hw.broad⟩
  exact ⟨hw.trans hbeside.did, hv⟩

theorem Reaches.within {p : Path} (hp : Reaches scope start p) (hw : Within .all start o) :
    Reaches scope o p :=
  fun _ hl => hp.located hw hl

end Pairings

def Scope.logic (scope : Scope) (start : Outside) : Act.Logic where
  pairing := scope.pairing start
  asks := scope.asks
  reaches := Reaches scope start
  spots := scope.writes
  asked hr := ⟨rfl, hr⟩
  log _ _ _ _ := Scope.inStep rfl fun _ _ => keeps_log _ _ _ _
  note hq hm _ := Scope.inStep rfl fun _ _ => keeps_note hq hm
  openEmpty hp hnull href :=
    Scope.inStep (atomic_eq _) fun _ hw => keeps_openEmpty (hp.within hw) hnull href
  appendTo bytes hs := Scope.inStep rfl fun _ _ => keeps_appendTo hs bytes
  removeFile hp hnull href :=
    Scope.inStep (atomic_eq _) fun _ hw => keeps_removeFile (hp.within hw) hnull href

theorem Outside.Ordinary.answers {scope : Scope} {o : Outside} (h : o.Ordinary) {r : Request}
    {reply : Reply} (ha : (scope.logic o).answers r reply) : reply.Ordinary := by
  obtain ⟨i, rfl⟩ := ha
  exact h _ _ i

end KubeletCollector
