import KubeletCollector.Proofs.Bounds
import KubeletCollector.Proofs.Within

/-! What a fetch is worth: the content of the first reply that arrives in full, or nothing, however
that is cut into chunks and whatever earlier attempts wrote. What was at its place before is there
still only if nothing but refusals comes. A path that leads nowhere stays as it is. -/

namespace KubeletCollector

open Text Act

namespace FileTree

theorem put_put (tree : FileTree) (loc : Location) (a b : Entry) :
    (tree.put loc a).put loc b = tree.put loc b := by
  simp [put, Association.bound, Association.without]

theorem get?_put_self (tree : FileTree) {loc : Location} (a : Entry) (h : loc ≠ []) :
    (tree.put loc a).get? loc = some a := by
  rw [get?_put, if_pos ⟨rfl, h⟩]

theorem append_put (tree : FileTree) {loc : Location} (content bytes : Bytes) (h : loc ≠ []) :
    (tree.put loc (.file content)).append loc bytes = tree.put loc (.file (content ++ bytes)) := by
  unfold append
  rw [get?_put_self _ _ h]
  exact put_put _ _ _ _

theorem ne_root_of_no_directory {tree : FileTree} {loc : Location}
    (h : tree.get? loc ≠ some .directory) : loc ≠ [] := by
  rintro rfl
  exact h (by simp [get?])

theorem no_directory {tree : FileTree} {loc : Location} {content : Option Bytes}
    (h : tree.get? loc = content.map Entry.file) : tree.get? loc ≠ some .directory := by
  rw [h]
  cases content <;> simp

theorem content_of_no_directory {tree : FileTree} {loc : Location}
    (h : tree.get? loc ≠ some .directory) :
    ∃ content : Option Bytes, tree.get? loc = content.map Entry.file := by
  rcases hg : tree.get? loc with _ | content | _
  · exact ⟨none, rfl⟩
  · exact ⟨some content, rfl⟩
  · exact absurd hg h

/-- `loc` holds `content`, and every other place what it held in `tree`. -/
structure Landed (loc : Location) (content : Option Bytes) (tree files : FileTree) : Prop where
  here : files.get? loc = content.map Entry.file
  elsewhere : ∀ other, other ≠ loc → files.get? other = tree.get? other

theorem Landed.refl {tree : FileTree} {loc : Location} {content : Option Bytes}
    (h : tree.get? loc = content.map Entry.file) : Landed loc content tree tree :=
  ⟨h, fun _ _ => rfl⟩

theorem Landed.trans {loc : Location} {content content' : Option Bytes}
    {tree files files' : FileTree} (h : Landed loc content tree files)
    (h' : Landed loc content' files files') :
    Landed loc content' tree files' :=
  ⟨h'.here, fun other ho => (h'.elsewhere other ho).trans (h.elsewhere other ho)⟩

theorem landed_put (tree : FileTree) {loc : Location} (content : Bytes) (h : loc ≠ []) :
    Landed loc (some content) tree (tree.put loc (.file content)) :=
  ⟨get?_put_self tree _ h, fun other ho => by rw [get?_put, if_neg fun hc => ho hc.1]⟩

theorem landed_erase (tree : FileTree) {loc : Location} (h : loc ≠ []) :
    Landed loc none tree (tree.erase loc) where
  here := by
    rw [get?_erase, if_pos ⟨rfl, h⟩]
    rfl
  elsewhere other ho := by rw [get?_erase, if_neg fun hc => ho hc.1]

theorem Landed.sameDirectories {loc : Location} {content : Option Bytes} {tree files : FileTree}
    (h : Landed loc content tree files) (hd : tree.get? loc ≠ some .directory) :
    tree.SameDirectories files := by
  intro other
  by_cases ho : other = loc
  · subst ho
    rw [h.here]
    cases content <;> simp [hd]
  · rw [h.elsewhere other ho]

end FileTree

structure FileTree.Leads (tree : FileTree) (p : Path) (loc : Location) : Prop where
  clean : ¬ p.hasNull = true
  located : tree.locate p = .ok loc

theorem FileTree.Leads.landed {tree files : FileTree} {p : Path} {loc spot : Location}
    {content : Option Bytes} (h : tree.Leads p loc) (hl : Landed spot content tree files)
    (hd : tree.get? spot ≠ some .directory) : files.Leads p loc :=
  ⟨h.clean, (FileTree.locate_same (hl.sameDirectories hd)).2 h.located⟩

section Paths

variable {o : Outside} {p : Path} {loc : Location}

theorem removeFile_lands (h : o.files.Leads p loc) (hd : o.files.get? loc ≠ some .directory) :
    ∃ files, (Act.removeFile p).outcome o = (.ok (), { o with files }) ∧
      FileTree.Landed loc none o.files files := by
  have hne := FileTree.ne_root_of_no_directory hd
  rw [outcome_removeFile h.clean h.located]
  rcases hg : o.files.get? loc with _ | _ | _
  · exact ⟨o.files, rfl, FileTree.Landed.refl hg⟩
  · exact ⟨_, rfl, FileTree.landed_erase o.files hne⟩
  · exact absurd hg hd

theorem outcome_addChunk (loc : Location) (bytes : Bytes) (o : Outside) :
    (Client.addChunk loc bytes).outcome o =
      (.ok (), { o with files := o.files.append loc bytes }) := rfl

theorem outcome_addChunks (files : FileTree) (hne : loc ≠ []) (chunks : List Bytes)
    (content : Bytes) :
    (chunks.forM (Client.addChunk loc)).outcome { o with files := files.put loc (.file content) } =
      (.ok (), { o with files := files.put loc (.file (content ++ chunks.flatten)) }) := by
  induction chunks generalizing content with
  | nil => simp
  | cons bytes chunks ih =>
    show (Client.addChunk loc bytes >>= fun _ => chunks.forM (Client.addChunk loc)).outcome _ = _
    rw [outcome_bind, outcome_addChunk]
    simp only [FileTree.append_put _ _ _ hne]
    rw [ih, List.flatten_cons, List.append_assoc]

end Paths

namespace Fault

variable {f : Fault}

theorem not_fetch_of_wire (h : f.isWire = true) : f.isFetch = false := by
  cases f <;> first | rfl | cases h

theorem not_fetch_of_system (h : f.isSystem = true) : f.isFetch = false := by
  cases f <;> first | rfl | cases h

end Fault

def Reply.whole? : Reply → Option Bytes
  | .response status chunks none => if status = 200 then some chunks.flatten else none
  | _ => none

def Reply.isRetried : Reply → Bool
  | .fault f => f.isWire
  | .response status _ broken => status ≠ 200 || broken.any Fault.isWire

/-- A reply for which nothing is written, and nothing taken away. -/
def Reply.refuses : Reply → Bool
  | .fault _ => false
  | .response status _ _ => status ≠ 200

def Reply.leaves (reply : Reply) (before : Option Bytes) : Option Bytes :=
  if reply.refuses then before else reply.whole?

namespace Reply

variable {reply : Reply}

theorem whole_of_refuses (h : reply.refuses = true) : reply.whole? = none := by
  cases reply with
  | fault f => cases h
  | response status chunks broken =>
    have hs : status ≠ 200 := by simpa [refuses] using h
    cases broken <;> simp [whole?, hs]

theorem retried_of_refuses (h : reply.refuses = true) : reply.isRetried = true := by
  cases reply with
  | fault f => cases h
  | response status chunks broken =>
    have hs : status ≠ 200 := by simpa [refuses] using h
    simp [isRetried, hs]

end Reply

/-- What a line yields to one who asks again, at most `more` times, until it answers in full. -/
def answered (script : Nat → Reply) : (more : Nat) → Option Bytes
  | 0 => (script 0).whole?
  | more + 1 =>
    match (script 0).whole? with
    | some content => some content
    | none => if (script 0).isRetried then answered (fun i => script (i + 1)) more else none

/-- Whether a line has nothing but refusals for one who asks again, at most `more` times. -/
def refused (script : Nat → Reply) : (more : Nat) → Bool
  | 0 => (script 0).refuses
  | more + 1 => (script 0).refuses && refused (fun i => script (i + 1)) more

theorem answered_of_refused {script : Nat → Reply} {more : Nat} (h : refused script more = true) :
    answered script more = none := by
  induction more generalizing script with
  | zero => exact Reply.whole_of_refuses h
  | succ more ih =>
    obtain ⟨hfirst, hrest⟩ := Bool.and_eq_true_iff.1 h
    rw [answered, Reply.whole_of_refuses hfirst, Reply.retried_of_refuses hfirst]
    exact ih hrest

namespace Client

variable {client : Client} {d : Download} {o : Outside} {loc : Location} {before : Option Bytes}

theorem outcome_keep (h : o.files.Leads d.target loc) (hd : o.files.get? loc ≠ some .directory)
    (chunks : List Bytes) (broken : Option Fault) :
    (keep d chunks broken).outcome o = (broken.elim (.ok ()) .error,
      { o with files := o.files.put loc (.file chunks.flatten) }) := by
  have hne := FileTree.ne_root_of_no_directory hd
  unfold keep
  rw [outcome_bind, outcome_openEmpty h.clean h.located hd]
  simp only [outcome_bind, outcome_addChunks o.files hne chunks [], outcome_await, List.nil_append]
  cases broken <;> rfl

def pauses (client : Client) (attempt : Nat) : List Event :=
  if attempt ≠ 1 then [.paused client.pause] else []

theorem outcome_pauses (client : Client) (attempt : Nat) (o : Outside) :
    (client.pauseBefore attempt).outcome o =
      (.ok (), { o with trace := o.trace ++ client.pauses attempt }) := by
  unfold pauseBefore pauses
  split
  · rfl
  · simp

theorem heard_request (client : Client) (d : Download) :
    heard client.side (d.request client).line [d.request client] = 1 := by
  simp [heard, Download.request]

/-- What a fetch is worth: the content that its line yields within the client's limit. -/
def answer (client : Client) (d : Download) (o : Outside) (more : Nat) : Option Bytes :=
  answered (o.script client.side (d.request client).line) more

theorem script_next (client : Client) (d : Download) (o : Outside) (files : FileTree)
    (log : List LogRecord) (i : Nat) :
    ({ o.afterRequest (d.request client) with files, log } : Outside).script client.side
      (d.request client).line i = o.script client.side (d.request client).line (i + 1) := by
  have := Outside.script_afterRequest o (d.request client) client.side (d.request client).line i
  rwa [heard_request] at this

theorem outcome_goOn_none (d : Download) (attempt : Nat) (f : Fault) (o : Outside) :
    ∃ log, (goOn d attempt none (.error f)).outcome o = (.error f, { o with log }) := by
  simp only [goOn]
  by_cases hf : (!f.isFetch) = true
  · rw [if_pos hf]
    exact ⟨o.log, rfl⟩
  · rw [if_neg hf]
    exact ⟨_, rfl⟩

theorem outcome_goOn_some (d : Download) (attempt : Nat) (rest : Act Unit) (f : Fault)
    (o : Outside) :
    ∃ log, (goOn d attempt (some rest) (.error f)).outcome o =
      if f.isFetch then rest.outcome { o with log } else (.error f, o) := by
  simp only [goOn]
  by_cases hf : f.isFetch = true
  · rw [if_neg (by simp [hf])]
    simp only [if_pos hf]
    exact ⟨_, rfl⟩
  · rw [if_pos (by simp [hf])]
    simp only [if_neg hf]
    exact ⟨o.log, rfl⟩

/-! A path that leads nowhere. -/

section Refused

variable {tree : FileTree} (hl : ∀ loc, tree.locate d.target ≠ .ok loc)

include hl

theorem receive_refused (reply : Reply) :
    Keeps (·.files = tree) (fun _ => False) (fun _ => True) (receive d reply) := by
  have hopen :
      Keeps (·.files = tree) (fun _ => False) (fun _ => True) (Act.openEmpty d.target) := by
    rintro o rfl
    by_cases hn : d.target.hasNull = true
    · rw [outcome_openEmpty_null hn]
      exact ⟨rfl, trivial⟩
    · rcases hloc : o.files.locate d.target with cause | loc
      · rw [outcome_openEmpty_refused hn hloc]
        exact ⟨rfl, trivial⟩
      · exact absurd hloc (hl loc)
  cases reply with
  | fault f => exact Keeps.throw trivial
  | response status chunks broken =>
    rw [receive_response]
    split
    · exact Keeps.bind hopen nofun
    · exact Keeps.throw trivial

theorem settle_refused (f : Fault) :
    Keeps (·.files = tree) (fun _ => False) (fun _ => True) (settle d (.error f)) := by
  have hremove :
      Keeps (·.files = tree) (fun _ => True) (fun _ => True) (Act.removeFile d.target) := by
    rintro o rfl
    by_cases hn : d.target.hasNull = true
    · rw [outcome_removeFile_null hn]
      exact ⟨rfl, trivial⟩
    · rcases hloc : o.files.locate d.target with cause | loc
      · rw [outcome_removeFile_refused hn hloc]
        cases cause <;> exact ⟨rfl, trivial⟩
      · exact absurd hloc (hl loc)
  simp only [settle]
  split
  · exact Keeps.bind hremove fun _ _ => Keeps.throw trivial
  · split
    · exact Keeps.bind hremove fun _ _ => Keeps.throw trivial
    · exact Keeps.throw trivial

theorem transfer_refused (client : Client) :
    Keeps (·.files = tree) (fun _ => False) (fun _ => True) (client.transfer d) := by
  have hexchange (r : Request) :
      Keeps (·.files = tree) (fun _ => True) (fun _ => True) (Act.exchange r) :=
    fun o ho => ⟨(Outside.files_afterRequest o r).trans ho, trivial⟩
  have hawait : Keeps (·.files = tree) (fun _ => True) (fun _ => True) Act.await :=
    fun _ ho => ⟨ho, trivial⟩
  rw [transfer_eq]
  refine Keeps.attempt (Keeps.bind (hexchange _) fun reply _ => receive_refused hl reply) nofun ?_
  exact fun f _ => Keeps.bind hawait fun _ _ => settle_refused hl f

theorem fetchFrom_refused (client : Client) (more attempt : Nat) :
    Keeps (·.files = tree) (fun _ => False) (fun _ => True) (client.fetchFrom d more attempt) := by
  have hpause (attempt : Nat) :
      Keeps (·.files = tree) (fun _ => True) (fun _ => True) (client.pauseBefore attempt) := by
    intro o ho
    rw [outcome_pauses]
    exact ⟨ho, trivial⟩
  induction more generalizing attempt with
  | zero =>
    rw [fetchFrom_zero]
    refine Keeps.bind (hpause attempt) fun _ _ => ?_
    refine Keeps.attempt (transfer_refused hl client) nofun ?_
    intro f _ o ho
    obtain ⟨log, hout⟩ := outcome_goOn_none d attempt f o
    rw [hout]
    exact ⟨ho, trivial⟩
  | succ more ih =>
    rw [fetchFrom_succ]
    refine Keeps.bind (hpause attempt) fun _ _ => ?_
    refine Keeps.attempt (transfer_refused hl client) nofun ?_
    intro f _ o ho
    obtain ⟨log, hout⟩ := outcome_goOn_some d attempt (client.fetchFrom d more (attempt + 1)) f o
    rw [hout]
    split
    · exact ih (attempt + 1) { o with log } ho
    · exact ⟨ho, trivial⟩

end Refused

end Client

end KubeletCollector
