import KubeletCollector.Agent.Command
import KubeletCollector.Proofs.Opening

/-! What a single probe leaves open. It closes its parts one after the other and is ended by the
first failure to close, and it closes nothing at all if not every part could be opened. -/

namespace KubeletCollector

open Text Act

/-- What is asked to close, one part after the other, up to the first failure. -/
def Platform.closing (platform : Platform) : List Component :=
  .clusterClient ::
    if (platform.closeFault .clusterClient).isSome then []
    else .nodeClient ::
      if (platform.closeFault .nodeClient).isSome || !platform.apiCloses then [] else [.apiClient]

/-- No failure to close comes before the last part. -/
structure Platform.Closes (platform : Platform) : Prop where
  cluster : platform.closeFault .clusterClient = none
  node : platform.closeFault .nodeClient = none
  api : platform.apiCloses = true

namespace Platform

theorem closing_prefix (platform : Platform) :
    platform.closing <+: [.clusterClient, .nodeClient, .apiClient] := by
  unfold closing
  split
  · decide
  · split <;> decide

theorem apiClient_mem_closing {platform : Platform} :
    .apiClient ∈ platform.closing ↔ platform.Closes := by
  constructor
  · intro h
    have hclosed : platform.closeFault .clusterClient = none ∧
        platform.closeFault .nodeClient = none ∧ platform.apiCloses = true := by
      simpa [closing] using h
    exact ⟨hclosed.1, hclosed.2.1, hclosed.2.2⟩
  · rintro ⟨hcluster, hnode, hapi⟩
    simp [closing, hcluster, hnode, hapi]

theorem Closes.closing_eq {platform : Platform} (h : platform.Closes) :
    platform.closing = [.clusterClient, .nodeClient, .apiClient] := by
  simp [closing, h.cluster, h.node, h.api]

end Platform

namespace Command

theorem closed_closeAll (o : Outside) : o.Closed (closeAll.outcome o).2 o.platform.closing := by
  obtain ⟨o₁, hcluster, h₁⟩ := outcome_close .clusterClient o
  obtain ⟨o₂, hnode, h₂⟩ := outcome_close .nodeClient o₁
  obtain ⟨o₃, hapi, h₃⟩ := outcome_close .apiClient o₂
  rw [h₁.platform] at hnode
  have hplatform : o₂.platform = o.platform := h₂.platform.trans h₁.platform
  unfold closeAll Platform.closing
  simp only [outcome_bind, hcluster]
  rcases hc : o.platform.closeFault .clusterClient with _ | f
  · rcases hn : o.platform.closeFault .nodeClient with _ | f <;> rw [hn] at hnode
    · cases hp : o.platform.apiCloses with
      | false => simpa [outcome_bind, hnode, hplatform, hp] using h₁.trans h₂
      | true => simpa [outcome_bind, hnode, hplatform, hp, hapi] using (h₁.trans h₂).trans h₃
    · simpa [hnode] using h₁.trans h₂
  · exact h₁

theorem outcome_summary (chosen : Except Fault Source) (o : Outside) :
    ((summary chosen).outcome o).2 = o := by
  unfold summary
  split
  · rfl
  · rfl
  · split <;> rfl

/-- Whatever probing comes to, closing is tried. -/
theorem closed_choice (settings : Settings) (clients : Client × Client) (o : Outside) :
    o.Closed ((Act.attempt (Source.choose settings {} clients.1 clients.2) >>= fun chosen =>
      closeAll >>= fun _ => summary chosen).outcome o).2 o.platform.closing := by
  obtain ⟨hchosen, -⟩ := closed_choose settings {} clients.1 clients.2 o (Outside.Closed.refl o)
  rw [outcome_bind, outcome_attempt]
  rcases hout : (Source.choose settings {} clients.1 clients.2).outcome o with ⟨chosen, o₁⟩
  rw [hout] at hchosen
  have hclosed := hchosen.trans (closed_closeAll o₁)
  rw [List.nil_append, hchosen.platform] at hclosed
  simp only [outcome_bind]
  rcases hclose : closeAll.outcome o₁ with ⟨_ | _, o₂⟩ <;> rw [hclose] at hclosed
  · exact hclosed
  · simpa only [outcome_summary] using hclosed

/-- The code of a probe from where it opens its parts. -/
def openAndChoose (settings : Settings) : Act Finished :=
  openApi >>= fun _ => buildClients settings >>= fun clients =>
    Act.attempt (Source.choose settings {} clients.1 clients.2) >>= fun chosen =>
      closeAll >>= fun _ => summary chosen

/-- A probe of which every part could be opened closes as far as `closeAll` gets; any other
closes nothing. -/
theorem closed_openAndChoose (settings : Settings) (o : Outside) :
    o.Closed ((openAndChoose settings).outcome o).2
      (if .clusterClient ∈ o.openable settings then o.platform.closing else []) := by
  unfold openAndChoose
  generalize hparts : o.openable settings = parts
  cases hparts ▸ opening settings o with
  | unopened hapi => simpa using hapi.broken.closed
  | partly hapi hclients hpart => simpa [hpart] using (hapi.bind hclients.broken).closed
  | opened hapi hclients =>
    rw [← bind_assoc]
    refine (hapi.bind hclients).closed_bind fun o₁ hplatform => ?_
    simpa [hplatform] using closed_choice settings _ o₁

theorem closed_probeOnce (env : Environment) (forceProxy : Bool) (o : Outside) :
    o.Closed ((probeOnce env forceProxy).outcome o).2
      (if .clusterClient ∈ o.opened none env then o.platform.closing else []) := by
  unfold probeOnce
  cases hl : Settings.load env with
  | error cause =>
    unfold Outside.opened
    rw [hl]
    exact Outside.Closed.refl o
  | ok settings =>
    let probed := { settings with
      kubelet.forceProxy := settings.kubelet.forceProxy || forceProxy }
    let noted : Outside := { o with trace := o.trace ++ [.loggingSet settings.log.level "console"] }
    have hnoted : o.Closed noted [] := ⟨List.prefix_append _ _, closes_append _ _, rfl⟩
    have hclosed := hnoted.trans (closed_openAndChoose probed noted)
    rw [Outside.openable_recorded] at hclosed
    rw [Outside.opened_of_load hl]
    exact hclosed

/-- What a probe closes is an end of what it opened, the last part first. All of it is closed, and
once, exactly if nothing could be opened, or every part could and no failure to close comes
before the last. -/
theorem probeOnce_releases (env : Environment) (forceProxy : Bool) (o : Outside) :
    let released := o.released ((probeOnce env forceProxy).outcome o).2
    released <+: (o.opened none env).reverse ∧
      ((∀ part ∈ o.opened none env, released.count part = 1) ↔
        o.opened none env = [] ∨ .clusterClient ∈ o.opened none env ∧ o.platform.Closes) := by
  intro released
  have hreleased : released =
      if .clusterClient ∈ o.opened none env then o.platform.closing else [] :=
    (closed_probeOnce env forceProxy o).released_eq
  by_cases hall : .clusterClient ∈ o.opened none env
  · rw [if_pos hall] at hreleased
    rw [Outside.opened_all hall, hreleased]
    refine ⟨o.platform.closing_prefix, fun h => Or.inr ⟨by decide, ?_⟩, ?_⟩
    · have hcount := h .apiClient (by decide)
      exact Platform.apiClient_mem_closing.1 (List.count_pos_iff.1 (by omega))
    · rintro (hnone | ⟨-, hcloses⟩)
      · cases hnone
      · rw [hcloses.closing_eq]
        decide
  · rw [if_neg hall] at hreleased
    rw [hreleased]
    refine ⟨List.nil_prefix, fun h => Or.inl ?_, ?_⟩
    · exact List.eq_nil_iff_forall_not_mem.2 fun part hpart => by simpa using h part hpart
    · rintro (hnone | ⟨hcluster, -⟩)
      · simp [hnone]
      · exact absurd hcluster hall

end Command

/-! Two probes: one whose token file is no text, and one whose first client fails to close. -/

namespace Sample

def tokenAtRoot : Environment := [("NODESTATS_BEARER_TOKEN_PATH", "/token")]

def garbled : Outside where
  files := FileTree.put {} ["token"] (.file [255])

def stuck : Outside where
  platform :=
    { closeFault := fun part =>
        if part = .clusterClient then some (.foreign "RuntimeError" "close failed") else none }

theorem token_garbled (kubelet : KubeletSettings) (ht : kubelet.token = "")
    (hp : kubelet.tokenPath = "/token") : (bearerToken kubelet).succeeds garbled = false := by
  have hpath : ((Path.ofText "/token").hasNull || endsLikeDirectory "/token") = false := by decide
  have hread : garbled.files.read? (Path.ofText "/token") = some [255] := by
    decide +kernel
  have hdecode : decodeUtf8 [255] = .error ⟨255, 0, 1, .invalidStart⟩ := by
    simp [decodeUtf8, decodeFrom, Text.sequence]
  unfold bearerToken Act.succeeds
  simp [ht, hp, hpath, outcome_bind, hread, hdecode]
  rfl

theorem garbled_opened : garbled.opened none tokenAtRoot = [.apiClient] := by
  have hload : (Settings.load tokenAtRoot).toOption.map
      (fun settings => (settings.kubelet.token, settings.kubelet.tokenPath)) =
        some ("", "/token") := by
    decide +kernel
  obtain ⟨settings, hs, htoken⟩ := ok_of_toOption hload
  obtain ⟨ht, hp⟩ := Prod.mk.inj htoken
  rw [Outside.opened_of_load hs]
  unfold Outside.openable
  simp only [token_garbled settings.kubelet ht hp]
  rfl

theorem probe_leaves_open :
    (garbled.opened none tokenAtRoot = [.apiClient] ∧
        garbled.released ((Command.probeOnce tokenAtRoot false).outcome garbled).2 = []) ∧
      stuck.opened none [] = [.apiClient, .nodeClient, .clusterClient] ∧
        stuck.released ((Command.probeOnce [] false).outcome stuck).2 = [.clusterClient] := by
  have hstuck : stuck.opened none [] = [.apiClient, .nodeClient, .clusterClient] := by
    decide +kernel
  rw [(Command.closed_probeOnce tokenAtRoot false garbled).released_eq,
    (Command.closed_probeOnce [] false stuck).released_eq, garbled_opened, hstuck]
  exact ⟨⟨rfl, rfl⟩, rfl, rfl⟩

end Sample

end KubeletCollector
