import KubeletCollector.Proofs.Conflicts
import Mathlib.Data.String.Basic

/-! The labels of a snapshot. A node's labels are a mapping, and a snapshot keeps all of it in the one
order that its keys have, so snapshots do not show in what order the labels were listed, and a look
into a snapshot finds what the mapping holds. -/

namespace KubeletCollector

def codePoints (text : String) : List Nat :=
  text.toList.map Char.toNat

theorem codePoints_lt {a b : String} (h : a < b) : codePoints a < codePoints b :=
  List.map_lt (fun _ _ hc => hc) (String.lt_iff_toList_lt.1 h)

/-- Of distinct keys each is found with the value that it is listed with. -/
theorem Association.lookup_eq_some_iff_mem {β : Type} {entries : List (String × β)}
    (hd : (entries.map Prod.fst).Nodup) {key : String} {value : β} :
    entries.lookup key = some value ↔ (key, value) ∈ entries := by
  rw [List.lookup_eq_some_iff]
  constructor
  · rintro ⟨before, after, rfl, -⟩
    simp
  · intro h
    obtain ⟨before, after, rfl⟩ := List.append_of_mem h
    refine ⟨before, after, rfl, fun e he => ?_⟩
    rw [List.map_append, List.map_cons, List.nodup_append] at hd
    have hne := hd.2.2 e.1 (List.mem_map_of_mem he) key List.mem_cons_self
    simpa using hne.symm

theorem Association.lookup_eq_none_of_notMem {β : Type} {entries : List (String × β)}
    {key : String} (h : key ∉ entries.map Prod.fst) : entries.lookup key = none := by
  rw [List.lookup_eq_none_iff]
  intro e he
  simpa using fun hk : key = e.1 => h (hk ▸ List.mem_map_of_mem he)

section Sorting

variable {labels other : List (String × Option String)}

theorem sortLabels_perm (labels : List (String × Option String)) :
    (sortLabels labels).Perm labels :=
  List.mergeSort_perm labels _

/-- Sorted labels with distinct keys increase strictly. -/
theorem sortLabels_increases (hd : (labels.map Prod.fst).Nodup) :
    (sortLabels labels).Pairwise fun a b => a.1 < b.1 := by
  have hle : (sortLabels labels).Pairwise fun a b => decide (a.1 ≤ b.1) = true :=
    List.pairwise_mergeSort (fun a b c => by simpa using le_trans)
      (fun a b => by simpa using le_total a.1 b.1) labels
  have hne : (sortLabels labels).Pairwise fun a b => a.1 ≠ b.1 :=
    List.pairwise_map.1 (((sortLabels_perm labels).map Prod.fst).nodup_iff.2 hd)
  exact hle.imp₂ (fun _ _ hab hn => lt_of_le_of_ne (of_decide_eq_true hab) hn) hne

/-- There is one way to list labels with distinct keys in the order of the keys. -/
theorem sortLabels_congr (hd : (labels.map Prod.fst).Nodup) (hp : other.Perm labels) :
    sortLabels other = sortLabels labels := by
  have hd' : (other.map Prod.fst).Nodup := (hp.map Prod.fst).nodup_iff.2 hd
  refine List.Perm.eq_of_pairwise (fun a b _ _ hab hba => absurd hba (lt_asymm hab))
    (sortLabels_increases hd') (sortLabels_increases hd) ?_
  exact (sortLabels_perm other).trans (hp.trans (sortLabels_perm labels).symm)

end Sorting

namespace NodeObject

def labels (node : NodeObject) : List (String × Option String) :=
  (node.metadata.map Metadata.labels).getD []

/-- The node with its labels listed as `listed`. Where there is no metadata there are no labels. -/
def relabelled (node : NodeObject) (listed : List (String × Option String)) : NodeObject :=
  { node with metadata := node.metadata.map fun m => { m with labels := listed } }

structure Whole (node : NodeObject) : Prop where
  conditions : none ∉ (node.status.map NodeStatus.conditions).getD []
  addresses : none ∉ (node.status.map NodeStatus.addresses).getD []

end NodeObject

theorem withoutGaps_returns {α : Type} (field : String) {entries : List (Option α)} :
    (∃ as, withoutGaps field entries = .ok as) ↔ none ∉ entries := by
  constructor
  · rintro ⟨as, h⟩
    rw [withoutGaps_ok h]
    simp
  · intro h
    induction entries with
    | nil => exact ⟨[], rfl⟩
    | cons entry entries ih =>
      rw [List.mem_cons, not_or] at h
      obtain ⟨as, has⟩ := ih h.2
      cases entry with
      | none => exact absurd rfl h.1
      | some a => exact ⟨a :: as, mapM_eq_ok.2 (.cons rfl (mapM_eq_ok.1 has))⟩

theorem snapshot_returns {node : NodeObject} : (∃ info, node.snapshot = .ok info) ↔ node.Whole := by
  constructor
  · rintro ⟨info, h⟩
    obtain ⟨conditions, hc, h⟩ := bind_eq_ok.1 h
    obtain ⟨addresses, ha, -⟩ := bind_eq_ok.1 h
    exact ⟨(withoutGaps_returns _).1 ⟨conditions, hc⟩, (withoutGaps_returns _).1 ⟨addresses, ha⟩⟩
  · intro h
    obtain ⟨conditions, hc⟩ := (withoutGaps_returns "type").2 h.conditions
    obtain ⟨addresses, ha⟩ := (withoutGaps_returns "type").2 h.addresses
    exact ⟨_, bind_eq_ok.2 ⟨conditions, hc, bind_eq_ok.2 ⟨addresses, ha, rfl⟩⟩⟩

theorem labels_snapshot {node : NodeObject} {info : NodeInfo} (h : node.snapshot = .ok info) :
    info.labels = sortLabels node.labels := by
  obtain ⟨conditions, -, h⟩ := bind_eq_ok.1 h
  obtain ⟨addresses, -, h⟩ := bind_eq_ok.1 h
  cases h
  rfl

/-- The order in which labels are listed does not show in a snapshot. -/
theorem snapshot_relabelled {node : NodeObject} (hd : (node.labels.map Prod.fst).Nodup)
    {listed : List (String × Option String)} (hp : listed.Perm node.labels) :
    (node.relabelled listed).snapshot = node.snapshot := by
  obtain ⟨_ | m, providerId, status⟩ := node
  · rfl
  · have hsort : sortLabels listed = sortLabels m.labels := sortLabels_congr hd hp
    unfold NodeObject.snapshot NodeObject.relabelled
    simp only [Option.map_some, Option.getD_some, hsort]

/-- A snapshot shows the mapping `labels`: all of it and nothing else, by rising code points of the
keys. What it says of a key is what the mapping holds, and it is of a Fargate node exactly if the
mapping says so. -/
structure NodeInfo.Labelled (info : NodeInfo) (labels : List (String × Option String)) : Prop where
  lossless : info.labels.Perm labels
  increases : info.labels.Pairwise fun a b => codePoints a.1 < codePoints b.1
  label : ∀ key value, (key, value) ∈ labels → info.label? key = value
  unset : ∀ key, key ∉ labels.map Prod.fst → info.label? key = none
  fargate : info.isFargate = true ↔
    ("eks.amazonaws.com/compute-type", some "fargate") ∈ labels

theorem labelled_of_sorted {info : NodeInfo} {labels : List (String × Option String)}
    (hd : (labels.map Prod.fst).Nodup) (h : info.labels = sortLabels labels) :
    info.Labelled labels := by
  have hperm : info.labels.Perm labels := h ▸ sortLabels_perm labels
  have hkeys : (info.labels.map Prod.fst).Nodup := (hperm.map Prod.fst).nodup_iff.2 hd
  have hlabel {key : String} {value : Option String} (hm : (key, value) ∈ labels) :
      info.label? key = value := by
    rw [NodeInfo.label?,
      (Association.lookup_eq_some_iff_mem hkeys).2 (hperm.mem_iff.2 hm)]
    rfl
  have hunset {key : String} (hm : key ∉ labels.map Prod.fst) : info.label? key = none := by
    rw [NodeInfo.label?,
      Association.lookup_eq_none_of_notMem (mt (hperm.map Prod.fst).mem_iff.1 hm)]
    rfl
  refine ⟨hperm, ?_, fun key value => hlabel, fun key => hunset, ?_⟩
  · rw [h]
    exact (sortLabels_increases hd).imp codePoints_lt
  · rw [NodeInfo.isFargate, decide_eq_true_iff]
    refine ⟨fun hf => ?_, hlabel⟩
    by_cases hm : "eks.amazonaws.com/compute-type" ∈ labels.map Prod.fst
    · obtain ⟨⟨key, value⟩, hmem, rfl⟩ := List.mem_map.1 hm
      obtain rfl : value = some "fargate" := (hlabel hmem).symm.trans hf
      exact hmem
    · rw [hunset hm] at hf
      cases hf

/-- Snapshots are canonical and lossless in the labels. However the labels of a node are listed, the
snapshot is the same; there is one unless the node reports gaps; and it shows the mapping. -/
theorem snapshot_canonical (node : NodeObject) (hd : (node.labels.map Prod.fst).Nodup) :
    (∀ listed, listed.Perm node.labels → (node.relabelled listed).snapshot = node.snapshot) ∧
      ((∃ info, node.snapshot = .ok info) ↔ node.Whole) ∧
      ∀ info, node.snapshot = .ok info → info.Labelled node.labels :=
  ⟨fun _ => snapshot_relabelled hd, snapshot_returns,
    fun _ h => labelled_of_sorted hd (labels_snapshot h)⟩

namespace Sample

/-- A Fargate node without a status, whose zone is named and has no value. -/
def labelled : NodeObject where
  metadata := some ⟨some "a", [("zone", none), ("eks.amazonaws.com/compute-type", some "fargate")]⟩
  providerId := none
  status := none

theorem snapshot_canonical_labelled : (labelled.labels.map Prod.fst).Nodup ∧ ∃ info,
    labelled.snapshot = .ok info ∧
      (labelled.relabelled labelled.labels.reverse).snapshot = .ok info ∧
      info.isFargate = true ∧ info.label? "zone" = none ∧ info.label? "region" = none := by
  have hd : (labelled.labels.map Prod.fst).Nodup := by decide
  obtain ⟨hsame, hreturns, hlabelled⟩ := snapshot_canonical labelled hd
  obtain ⟨info, hinfo⟩ := hreturns.2 ⟨by decide, by decide⟩
  have hshows := hlabelled info hinfo
  refine ⟨hd, info, hinfo, (hsame _ (List.reverse_perm _)).trans hinfo, ?_, ?_, ?_⟩
  · exact hshows.fargate.2 (by decide)
  · exact hshows.label "zone" none (by decide)
  · exact hshows.unset "region" (by decide)

end Sample

end KubeletCollector
