import KubeletCollector.Proofs.Landing

/-! The law of repetition, for replies of any kind. A fetch is repeated up to the first reply
that asks for no repetition, or as often as its client may. It ends as its last attempt ends,
and each attempt finds at its place what the one before it left. Where all replies are ordinary,
that comes to what the script is worth. -/

namespace KubeletCollector

open Text Act

def Client.fetchFault (url : String) (f : Fault) : Fault :=
  if f.isWire then .fetch url (failureText f) none else f

/-- A fault after which nothing that was written stays. -/
def Fault.clears (f : Fault) : Bool :=
  f.isWire || f.isSystem

namespace Reply

def result (url : String) : Reply → Except Fault Unit
  | .fault f => .error (Client.fetchFault url f)
  | .response status _ broken =>
    if status = 200 then
      match broken with
      | none => .ok ()
      | some f => .error (Client.fetchFault url f)
    else .error (.fetch url ("invalid response " ++ toString status) (some status))

def remains (before : Option Bytes) : Reply → Option Bytes
  | .fault f => if f.clears then none else before
  | .response status chunks broken =>
    if status = 200 then
      if broken.any Fault.clears then none else some chunks.flatten
    else before

/-- A reply after which an attempt is repeated. The fault of a fetch counts among them, though
no one outside has it to give. -/
def isRepeated (reply : Reply) : Bool :=
  reply.isRetried || reply.fault?.any Fault.isFetch

variable {reply : Reply} {url : String}

theorem isFetch_fetchFault (f : Fault) :
    (Client.fetchFault url f).isFetch = (f.isWire || f.isFetch) := by
  unfold Client.fetchFault
  cases hw : f.isWire <;> simp [Fault.isFetch]

theorem eq_of_whole {content : Bytes} (h : reply.whole? = some content) :
    ∃ chunks, reply = .response 200 chunks none ∧ content = chunks.flatten := by
  unfold whole? at h
  split at h
  · split at h
    · rename_i status chunks hs
      exact ⟨chunks, by rw [hs], (Option.some.inj h).symm⟩
    · cases h
  · cases h

theorem result_whole {content : Bytes} (h : reply.whole? = some content) :
    reply.result url = .ok () := by
  obtain ⟨chunks, rfl, rfl⟩ := eq_of_whole h
  rfl

theorem remains_whole {content : Bytes} (h : reply.whole? = some content)
    (before : Option Bytes) : reply.remains before = some content := by
  obtain ⟨chunks, rfl, rfl⟩ := eq_of_whole h
  rfl

theorem isOk_result (reply : Reply) : (reply.result url).isOk = reply.whole?.isSome := by
  rcases reply with ⟨status, chunks, _ | f⟩ | f
  · by_cases hs : status = 200 <;> simp [result, whole?, hs] <;> rfl
  · by_cases hs : status = 200 <;> simp [result, whole?, hs] <;> rfl
  · rfl

theorem whole_of_result (h : reply.result url = .ok ()) :
    ∃ content, reply.whole? = some content :=
  Option.isSome_iff_exists.1 ((isOk_result reply).symm.trans (congrArg Except.isOk h))

/-- The fault that an attempt ends in tells whether it is repeated. -/
theorem isFetch_of_result {f : Fault} (h : reply.result url = .error f) :
    f.isFetch = reply.isRepeated := by
  rcases reply with ⟨status, chunks, broken⟩ | g
  · by_cases hs : status = 200
    · simp only [result, if_pos hs] at h
      cases broken with
      | none => cases h
      | some g =>
        cases h
        simp [isRepeated, isRetried, fault?, hs, isFetch_fetchFault]
    · simp only [result, if_neg hs] at h
      cases h
      simp [isRepeated, isRetried, hs, Fault.isFetch]
  · cases h
    exact isFetch_fetchFault g

theorem not_repeated_of_whole {content : Bytes} (h : reply.whole? = some content) :
    reply.isRepeated = false := by
  obtain ⟨chunks, rfl, rfl⟩ := eq_of_whole h
  rfl

theorem whole_of_repeated (h : reply.isRepeated = true) : reply.whole? = none := by
  cases hw : reply.whole? with
  | none => rfl
  | some content => cases h.symm.trans (not_repeated_of_whole hw)

/-- An attempt that fails for good ends in the very fault of its reply. -/
theorem result_own (url : String) (hw : reply.whole? = none) (hr : reply.isRepeated = false) :
    ∃ f, reply.fault? = some f ∧ reply.result url = .error f := by
  have hown {f : Fault} (hf : f.isWire = false) : Client.fetchFault url f = f := by
    simp [Client.fetchFault, hf]
  obtain ⟨hretried, -⟩ := Bool.or_eq_false_iff.1 hr
  rcases reply with ⟨status, chunks, broken⟩ | f
  · obtain ⟨hs, hb⟩ := Bool.or_eq_false_iff.1 hretried
    have hs : status = 200 := by simpa using hs
    cases broken with
    | none => simp [whole?, hs] at hw
    | some f => exact ⟨f, rfl, by rw [result, if_pos hs, hown (by simpa using hb)]⟩
  · exact ⟨f, rfl, by rw [result, hown hretried]⟩

theorem ordinary_fault (h : reply.Ordinary) {f : Fault} (hf : reply.fault? = some f) :
    f.isFetch = false ∧ f.clears = true :=
  ⟨(h f hf).elim Fault.not_fetch_of_wire Fault.not_fetch_of_system,
    Bool.or_eq_true_iff.2 (h f hf)⟩

theorem repeated_of_ordinary (h : reply.Ordinary) : reply.isRepeated = reply.isRetried := by
  unfold isRepeated
  cases hf : reply.fault? with
  | none => simp
  | some f => simp [(ordinary_fault h hf).1]

theorem remains_of_ordinary (h : reply.Ordinary) (before : Option Bytes) :
    reply.remains before = reply.leaves before := by
  rcases reply with ⟨status, chunks, _ | f⟩ | f
  · by_cases hs : status = 200 <;> simp [remains, leaves, refuses, whole?, hs]
  · by_cases hs : status = 200 <;>
      simp [remains, leaves, refuses, whole?, hs, (ordinary_fault h rfl).2]
  · simp [remains, leaves, refuses, whole?, (ordinary_fault h rfl).2]

end Reply

/-- How often a fetch is repeated that may be repeated `more` times. -/
structure Repeats (script : Nat → Reply) (more again : Nat) : Prop where
  most : again ≤ more
  repeated : ∀ i < again, (script i).isRepeated = true
  last : again < more → (script again).isRepeated = false

namespace Repeats

variable {script : Nat → Reply} {more again k : Nat}

theorem none_left : Repeats script 0 0 := ⟨Nat.le_refl 0, nofun, nofun⟩

theorem once (h : (script 0).isRepeated = false) : Repeats script more 0 :=
  ⟨Nat.zero_le more, nofun, fun _ => h⟩

theorem next (h : Repeats (fun i => script (i + 1)) more again)
    (hfirst : (script 0).isRepeated = true) : Repeats script (more + 1) (again + 1) where
  most := Nat.succ_le_succ h.most
  repeated i hi := by
    cases i with
    | zero => exact hfirst
    | succ i => exact h.repeated i (Nat.lt_of_succ_lt_succ hi)
  last hlt := h.last (Nat.lt_of_succ_lt_succ hlt)

theorem tail (h : Repeats script (more + 1) (again + 1)) :
    Repeats (fun i => script (i + 1)) more again where
  most := Nat.le_of_succ_le_succ h.most
  repeated i hi := h.repeated (i + 1) (Nat.succ_lt_succ hi)
  last hlt := h.last (Nat.succ_lt_succ hlt)

/-- The first reply that asks for no repetition is the last one. -/
theorem eq_first (h : Repeats script more again) (hk : k ≤ more)
    (hbefore : ∀ i < k, (script i).isRepeated = true) (hlast : (script k).isRepeated = false) :
    again = k := by
  rcases Nat.lt_trichotomy again k with hlt | he | hgt
  · cases (hbefore again hlt).symm.trans (h.last (Nat.lt_of_lt_of_le hlt hk))
  · exact he
  · cases hlast.symm.trans (h.repeated k hgt)

/-- Where every reply asks for a repetition, none is left out. -/
theorem eq_most (h : Repeats script more again)
    (hall : ∀ i ≤ more, (script i).isRepeated = true) : again = more := by
  rcases Nat.eq_or_lt_of_le h.most with he | hlt
  · exact he
  · cases (hall again h.most).symm.trans (h.last hlt)

end Repeats

def remaining (script : Nat → Reply) : (again : Nat) → (before : Option Bytes) → Option Bytes
  | 0, before => (script 0).remains before
  | again + 1, before => remaining (fun i => script (i + 1)) again ((script 0).remains before)

theorem remaining_whole {script : Nat → Reply} {again : Nat} {content : Bytes}
    (h : (script again).whole? = some content) (before : Option Bytes) :
    remaining script again before = some content := by
  induction again generalizing script before with
  | zero => exact Reply.remains_whole h before
  | succ again ih => exact ih h _

namespace Repeats

variable {script : Nat → Reply} {more again : Nat} (h : Repeats script more again)
  (ho : ∀ i, (script i).Ordinary)

include h ho

theorem answered_eq : answered script more = (script again).whole? := by
  induction more generalizing script again with
  | zero =>
    obtain rfl := Nat.le_zero.1 h.most
    rfl
  | succ more ih =>
    cases again with
    | zero =>
      have hlast := h.last (Nat.succ_pos more)
      rw [Reply.repeated_of_ordinary (ho 0)] at hlast
      rw [answered, hlast]
      cases (script 0).whole? <;> rfl
    | succ again =>
      have hfirst := h.repeated 0 (Nat.succ_pos again)
      rw [answered, Reply.whole_of_repeated hfirst, ← Reply.repeated_of_ordinary (ho 0), hfirst]
      exact ih h.tail fun i => ho (i + 1)

/-- By induction on the repetitions. What was there before is there still only if all replies were
refusals. -/
theorem remaining_eq (before : Option Bytes) : remaining script again before =
    if refused script more then before else answered script more := by
  induction more generalizing script again before with
  | zero =>
    obtain rfl := Nat.le_zero.1 h.most
    exact Reply.remains_of_ordinary (ho 0) before
  | succ more ih =>
    rw [h.answered_eq ho]
    cases again with
    | zero =>
      have hlast := h.last (Nat.succ_pos more)
      rw [Reply.repeated_of_ordinary (ho 0)] at hlast
      rw [remaining, Reply.remains_of_ordinary (ho 0), Reply.leaves, refused]
      cases hr : (script 0).refuses with
      | false => rfl
      | true => cases (Reply.retried_of_refuses hr).symm.trans hlast
    | succ again =>
      have hrest (i : Nat) : (script (i + 1)).Ordinary := ho (i + 1)
      have hfirst := Reply.whole_of_repeated (h.repeated 0 (Nat.succ_pos again))
      rw [remaining, ih h.tail hrest, h.tail.answered_eq hrest, Reply.remains_of_ordinary (ho 0),
        Reply.leaves, hfirst, refused]
      cases hr : (script 0).refuses with
      | true => rfl
      | false =>
        cases hrefused : refused (fun i => script (i + 1)) more with
        | false => rfl
        | true => exact (answered_of_refused hrefused).symm.trans (h.tail.answered_eq hrest)

end Repeats

namespace Client

/-- A fetch that is repeated `again` times, event by event: a request, and for each repetition
a pause and another one. -/
def attempts (client : Client) (d : Download) : (again : Nat) → List Event
  | 0 => [.requested (d.request client)]
  | again + 1 => .requested (d.request client) :: .paused client.pause :: client.attempts d again

variable {client : Client} {d : Download} {o : Outside} {loc : Location} {before : Option Bytes}

theorem outcome_settle (f : Fault) (h : o.files.Leads d.target loc)
    (hg : o.files.get? loc = before.map Entry.file) :
    ∃ files, (settle d (.error f)).outcome o = (.error (fetchFault d.url f), { o with files }) ∧
      FileTree.Landed loc (if f.clears then none else before) o.files files := by
  obtain ⟨files, hout, hland⟩ := removeFile_lands h (FileTree.no_directory hg)
  unfold fetchFault Fault.clears
  simp only [settle]
  cases hw : f.isWire with
  | true =>
    simp only [↓reduceIte, outcome_bind, hout]
    exact ⟨files, rfl, hland⟩
  | false =>
    cases hs : f.isSystem with
    | true =>
      simp only [Bool.false_eq_true, ↓reduceIte, outcome_bind, hout]
      exact ⟨files, rfl, hland⟩
    | false => exact ⟨o.files, rfl, FileTree.Landed.refl hg⟩

/-- One attempt, whatever it is answered with. -/
theorem outcome_transfer (h : o.files.Leads d.target loc)
    (hg : o.files.get? loc = before.map Entry.file) {reply : Reply}
    (he : o.script client.side (d.request client).line 0 = reply) :
    ∃ files, (client.transfer d).outcome o =
        (reply.result d.url, { o.afterRequest (d.request client) with files }) ∧
      FileTree.Landed loc (reply.remains before) o.files files := by
  have hd := FileTree.no_directory hg
  have hfiles := Outside.files_afterRequest o (d.request client)
  have h' : (o.afterRequest (d.request client)).files.Leads d.target loc := hfiles.symm ▸ h
  have hg' : (o.afterRequest (d.request client)).files.get? loc = before.map Entry.file :=
    hfiles.symm ▸ hg
  have he' : o.script (d.request client).side (d.request client).line 0 = reply := he
  rw [transfer_eq, outcome_bind, outcome_attempt, outcome_bind, Outside.outcome_exchange, he']
  cases reply with
  | fault f =>
    obtain ⟨files, hout, hland⟩ := outcome_settle f h' hg'
    exact ⟨files, hout, hfiles ▸ hland⟩
  | response status chunks broken =>
    unfold Reply.result Reply.remains
    simp only [receive_response]
    by_cases hs : status = 200
    · simp only [if_pos hs]
      have hput := FileTree.landed_put o.files chunks.flatten
        (FileTree.ne_root_of_no_directory hd)
      rw [outcome_keep h' (FileTree.no_directory hg'), hfiles]
      cases broken with
      | none => exact ⟨_, rfl, hput⟩
      | some f =>
        obtain ⟨files, hout, hland⟩ := outcome_settle
          (o := { o.afterRequest (d.request client) with
            files := o.files.put loc (.file chunks.flatten) })
          f (h.landed hput hd) hput.here
        exact ⟨files, hout, hput.trans hland⟩
    · simp only [if_neg hs]
      exact ⟨_, rfl, hfiles.symm ▸ FileTree.Landed.refl hg⟩

def asking (client : Client) (d : Download) (attempt : Nat) (o : Outside) : Outside :=
  ({ o with trace := o.trace ++ client.pauses attempt } : Outside).afterRequest (d.request client)

theorem trace_asking (attempt : Nat) (o : Outside) :
    (client.asking d attempt o).trace =
      o.trace ++ (client.pauses attempt ++ [.requested (d.request client)]) := by
  rw [asking, Outside.trace_afterRequest, List.append_assoc]

/-- One attempt with its pause, up to what is done once it has ended. -/
theorem outcome_attempted (client : Client) (attempt : Nat) (h : o.files.Leads d.target loc)
    (hg : o.files.get? loc = before.map Entry.file) {reply : Reply}
    (he : o.script client.side (d.request client).line 0 = reply) :
    ∃ files, FileTree.Landed loc (reply.remains before) o.files files ∧
      ∀ next : Except Fault Unit → Act Unit,
        (client.pauseBefore attempt >>= fun _ =>
            Act.attempt (client.transfer d) >>= next).outcome o =
          (next (reply.result d.url)).outcome { client.asking d attempt o with files } := by
  obtain ⟨files, hout, hland⟩ := outcome_transfer
    (o := { o with trace := o.trace ++ client.pauses attempt }) h hg he
  refine ⟨files, hland, fun next => ?_⟩
  rw [outcome_bind, outcome_pauses]
  simp only [outcome_bind, outcome_attempt, hout]
  rfl

/-- By induction on the attempts that are left: each finds its place as the one before left it,
and its line one reply further on. -/
theorem fetchFrom_attempts (client : Client) (d : Download) (more attempt : Nat)
    (ha : attempt ≠ 0) (h : o.files.Leads d.target loc)
    (hg : o.files.get? loc = before.map Entry.file) {script : Nat → Reply}
    (hs : o.script client.side (d.request client).line = script) :
    ∃ again o', Repeats script more again ∧
      (client.fetchFrom d more attempt).outcome o = ((script again).result d.url, o') ∧
      o'.trace = o.trace ++ (client.pauses attempt ++ client.attempts d again) ∧
      FileTree.Landed loc (remaining script again before) o.files o'.files := by
  induction more generalizing attempt o before script with
  | zero =>
    obtain ⟨files, hland, hout⟩ := outcome_attempted client attempt h hg (congrFun hs 0)
    refine ⟨0, ?_⟩
    rw [fetchFrom_zero, hout]
    cases hr : (script 0).result d.url with
    | ok u =>
      exact ⟨_, .none_left, rfl, trace_asking attempt o, hland⟩
    | error f =>
      obtain ⟨log, hgo⟩ := outcome_goOn_none d attempt f { client.asking d attempt o with files }
      exact ⟨_, .none_left, hgo, trace_asking attempt o, hland⟩
  | succ more ih =>
    obtain ⟨files, hland, hout⟩ := outcome_attempted client attempt h hg (congrFun hs 0)
    rw [fetchFrom_succ, hout]
    cases hr : (script 0).result d.url with
    | ok u =>
      obtain ⟨content, hw⟩ := Reply.whole_of_result hr
      refine ⟨0, { client.asking d attempt o with files },
        .once (Reply.not_repeated_of_whole hw), ?_, trace_asking attempt o, hland⟩
      rw [hr]
      rfl
    | error f =>
      have hfetch := Reply.isFetch_of_result hr
      obtain ⟨log, hgo⟩ := outcome_goOn_some d attempt (client.fetchFrom d more (attempt + 1)) f
        { client.asking d attempt o with files }
      rw [hgo]
      cases hf : f.isFetch with
      | false =>
        refine ⟨0, { client.asking d attempt o with files }, .once (hfetch.symm.trans hf), ?_,
          trace_asking attempt o, hland⟩
        rw [hr]
        rfl
      | true =>
        have hnext : ({ client.asking d attempt o with files, log } : Outside).script client.side
            (d.request client).line = fun i => script (i + 1) := by
          subst hs
          funext i
          exact script_next client d _ files log i
        obtain ⟨again, o', hrepeats, hrest, htrace, hland'⟩ := ih (attempt + 1) (by omega)
          (o := { client.asking d attempt o with files, log })
          (h.landed hland (FileTree.no_directory hg)) hland.here hnext
        refine ⟨again + 1, o', hrepeats.next (hfetch.symm.trans hf), hrest, ?_, hland.trans hland'⟩
        have hpause : client.pauses (attempt + 1) = [.paused client.pause] := by
          simp [pauses, ha]
        rw [htrace, trace_asking, hpause]
        simp [attempts]

end Client

namespace FileTree

variable {tree files : FileTree} {p : Path} {loc : Location} {content : Option Bytes}

/-- A path at which a file can be written: its directory stands and can hold its last name, and
it is no directory itself. -/
structure Accepts (tree : FileTree) (p : Path) : Prop where
  clean : p.hasNull = false
  parent : ∃ place, tree.locate p.parent = .ok place ∧ tree.get? place = some .directory
  name : ∃ name, p.names.getLast? = some name ∧ fitsName name = true
  file : ∀ loc, tree.locate p = .ok loc → tree.get? loc ≠ some .directory

theorem Accepts.leads (h : tree.Accepts p) :
    ∃ loc, tree.Leads p loc ∧ tree.get? loc ≠ some .directory := by
  obtain ⟨name, hlast, hfits⟩ := h.name
  obtain ⟨place, hplace, hdir⟩ := h.parent
  obtain ⟨names, hnames⟩ := List.getLast?_eq_some_iff.1 hlast
  have hstep : ∃ loc, tree.step place name = .ok loc := by
    unfold step
    rw [hdir]
    by_cases hup : name = ".."
    · exact ⟨_, if_pos hup⟩
    · have hlong : ¬ longestName < (utf8 name).length := by
        simpa [fitsName] using hfits
      exact ⟨place ++ [name], by simp only [if_neg hup, if_neg hlong]⟩
  obtain ⟨loc, hloc⟩ := hstep
  have hlocate : tree.locate p = .ok loc := by
    unfold locate Path.parent at hplace
    unfold locate
    rw [hnames, List.dropLast_concat] at hplace
    rw [hnames, List.foldlM_append, hplace]
    simp only [bind, Except.bind, List.foldlM_cons, List.foldlM_nil, hloc]
    rfl
  exact ⟨loc, ⟨by simp [h.clean], hlocate⟩, h.file loc hlocate⟩

theorem Leads.read (h : tree.Leads p loc) (hg : tree.get? loc = content.map Entry.file) :
    tree.read? p = content := by
  unfold read?
  simp only [h.located, hg]
  cases content <;> rfl

end FileTree

namespace Client

/-- A fetch that ends with its attempt after `again` repetitions. -/
structure EndsAfter (client : Client) (d : Download) (o : Outside) (again : Nat)
    (result : Except Fault Unit) (o' : Outside) : Prop where
  trace : o'.trace = o.trace ++ client.attempts d again
  result : (o.script client.side (d.request client).line again).result d.url = result
  file : o'.files.read? d.target =
    remaining (o.script client.side (d.request client).line) again (o.files.read? d.target)
  elsewhere : ∀ loc, o.files.locate d.target ≠ .ok loc → o'.files.get? loc = o.files.get? loc

theorem fetch_ends (client : Client) (d : Download) {o : Outside}
    (h : o.files.Accepts d.target) : ∃ again result o',
      Repeats (o.script client.side (d.request client).line) client.retries again ∧
      (client.fetch d).outcome o = (result, o') ∧ client.EndsAfter d o again result o' := by
  obtain ⟨loc, hl, hd⟩ := h.leads
  obtain ⟨before, hg⟩ := FileTree.content_of_no_directory hd
  obtain ⟨again, o', hrepeats, hout, htrace, hland⟩ :=
    fetchFrom_attempts client d client.retries 1 (by decide) hl hg rfl
  refine ⟨again, _, o', hrepeats, hout, htrace, rfl, ?_, fun other hother => ?_⟩
  · rw [(hl.landed hland hd).read hland.here, hl.read hg]
  · exact hland.elsewhere other fun he => hother (he ▸ hl.located)

/-- The law of repetition. Up to the limit, which counts as none if it is negative, a fetch is
repeated until a reply asks for no repetition: if that reply arrives in full the file holds its
content and nothing else, and otherwise its own fault ends the fetch. If no reply within the
limit is such, the last attempt's fault of a fetch does. -/
theorem fetch_repeats (side : Side) (token : String) (limit : Int) (pause : Float) (d : Download)
    {o : Outside} (h : o.files.Accepts d.target) :
    let client := withLimit side token limit pause
    let script := o.script side (d.request client).line
    ∃ result o', (client.fetch d).outcome o = (result, o') ∧
      (∀ k ≤ limit.toNat, (∀ i < k, (script i).isRepeated = true) →
        (script k).isRepeated = false →
          client.EndsAfter d o k result o' ∧
          (∀ content, (script k).whole? = some content →
            result = .ok () ∧ o'.files.read? d.target = some content) ∧
          ((script k).whole? = none → ∃ f, (script k).fault? = some f ∧ result = .error f)) ∧
      ((∀ i ≤ limit.toNat, (script i).isRepeated = true) →
        client.EndsAfter d o limit.toNat result o' ∧
          ∃ f, result = .error f ∧ f.isFetch = true) := by
  intro client script
  obtain ⟨again, result, o', hrepeats, hout, hends⟩ := fetch_ends client d h
  refine ⟨result, o', hout, fun k hk hbefore hlast => ?_, fun hall => ?_⟩
  · obtain rfl := hrepeats.eq_first hk hbefore hlast
    refine ⟨hends, fun content hw => ⟨?_, ?_⟩, fun hw => ?_⟩
    · exact hends.result.symm.trans (Reply.result_whole hw)
    · exact hends.file.trans (remaining_whole hw _)
    · obtain ⟨f, hf, hr⟩ := Reply.result_own d.url hw hlast
      exact ⟨f, hf, hends.result.symm.trans hr⟩
  · obtain rfl := hrepeats.eq_most hall
    refine ⟨hends, ?_⟩
    cases result with
    | ok u =>
      obtain ⟨content, hw⟩ := Reply.whole_of_result hends.result
      cases (Reply.not_repeated_of_whole hw).symm.trans (hall _ hrepeats.most)
    | error f =>
      exact ⟨f, rfl, (Reply.isFetch_of_result hends.result).trans (hall _ hrepeats.most)⟩

end Client

/-! A fetch over a file that is there already; the first reply breaks off. -/

namespace Sample

def patient : Client := .withLimit .node "" 3 0.5

def summary : Client.Download :=
  ⟨"GET", "https://10.0.0.1:10250/stats/summary", none, ⟨.root, ["agent-summary-a"]⟩⟩

def littered : Outside where
  files := FileTree.put {} ["agent-summary-a"] (.file [88])
  nodeRoutes := [("GET https://10.0.0.1:10250/stats/summary",
    [.response 200 [[67]] (some (.wire .read "reset")), .response 200 [[65], [66]] none])]

theorem accepts_summary : littered.files.Accepts summary.target where
  clean := by decide
  parent := ⟨[], rfl, rfl⟩
  name := ⟨"agent-summary-a", rfl, by decide +kernel⟩
  file loc hl := by
    have hplain : PlainName "agent-summary-a" := ⟨by decide, by decide⟩
    have hopens : littered.files.Opens ⟨.root, []⟩ [] := ⟨rfl, rfl, rfl⟩
    have hspot : littered.files.locate summary.target = .ok ["agent-summary-a"] := by
      have hchild := hopens.locate_child hplain
      rwa [if_pos (by decide +kernel), Path.child_plain _ hplain] at hchild
    obtain rfl := Except.ok.inj (hspot.symm.trans hl)
    decide

theorem fetch_repeats_once : littered.files.Accepts summary.target ∧
    ∃ o', (patient.fetch summary).outcome littered = (.ok (), o') ∧
      o'.trace = littered.trace ++ patient.attempts summary 1 ∧
      o'.files.read? summary.target = some [65, 66] := by
  refine ⟨accepts_summary, ?_⟩
  obtain ⟨result, o', hout, hfirst, -⟩ :=
    Client.fetch_repeats .node "" 3 0.5 summary accepts_summary
  have hretried : ∀ i < 1, (littered.script .node (summary.request patient).line i).isRepeated =
      true := by
    intro i hi
    obtain rfl := Nat.lt_one_iff.1 hi
    decide +kernel
  obtain ⟨hends, hwhole, -⟩ := hfirst 1 (by decide) hretried (by decide +kernel)
  obtain ⟨rfl, hfile⟩ := hwhole [65, 66] (by decide +kernel)
  exact ⟨o', hout, hends.trace, hfile⟩

end Sample

end KubeletCollector
