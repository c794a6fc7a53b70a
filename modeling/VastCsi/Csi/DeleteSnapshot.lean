import VastCsi.Csi.DeleteRetries

/-!
# `DeleteSnapshot` of the NFS controller

The deletion of the last snapshot of a deleted volume is to take its directory away. Whether it is
the last one is decided after the snapshot itself is deleted: an attempt that stops in between is
never taken up again. And the other snapshots are looked for by substring.

`Settled` is kept by every attempt. The one that finds the snapshot, when it is the last
(`LastSnapshot`), deletes it and removes the directory before it returns
(`meets_deleteSnapshot_last`).
-/

namespace VastCsi.Csi

open Lib Vms List Cluster Table

/-- `has_not_finished_streams`; `ofSnapshot` is the filter `loanee_snapshot__id`. -/
def hasNotFinishedStreams (env : Env) (ofSnapshot : Nat → Query .stream) (id : Nat) :
    Call Bool := do
  let streams ← list env .stream (ofSnapshot id)
  pure (streams.any (·.state != .finished))

/-- The directory of a snapshot that is gone, when nothing else needs it. -/
def deleteOrphanedData (env : Env) (conf : Conf) (path tenantId : String) : Call Unit := do
  match ← one env .quota (fun r => quotaByPath path r && r.tenantId == tenantId) with
  | some _ => pure ()
  | none =>
    match ← hasSnapshots env path with
    | _ :: _ => pure ()
    | [] => deleteDataFromStorage env conf path tenantId

def deleteSnapshot (env : Env) (conf : Conf) (ofSnapshot : Nat → Query .stream) (id : Nat) :
    Call Unit := do
  match ← getById env .snapshot id with
  | none => pure ()
  | some snapshot =>
    if ← hasNotFinishedStreams env ofSnapshot snapshot.id then
      throw (.exception s!"Unable to delete snapshot {snapshot.id} with active streams")
    else
      deleteById env .snapshot id
      deleteOrphanedData env conf snapshot.path snapshot.tenantId

structure SnapshotAttempt where
  id : Nat
  env : Env

def snapshotAttempts (conf : Conf) (ofSnapshot : Nat → Query .stream) (w : World)
    (attempts : List SnapshotAttempt) : World :=
  afterAttempts released (fun a => deleteSnapshot a.env conf ofSnapshot a.id) w attempts

section

variable {env : Env} {conf : Conf} {ofSnapshot : Nat → Query .stream} {J : Cluster → Prop}

theorem meets_hasNotFinishedStreams {id : Nat} :
    Meets (onVms J) (hasNotFinishedStreams env ofSnapshot id) (fun _ => onVms J) (raised J) :=
  .bind meets_list fun _ => .pure fun _ hw => hw.1

/-- What every attempt keeps: views are in the tenant of their policy. -/
def Settled (conf : Conf) (c₀ c : Cluster) : Prop :=
  (c.swVersion = c₀.swVersion ∧ c.trashEnabled = c₀.trashEnabled) ∧
    ViewsOfPolicy conf.deletionViewPolicy c

variable {c₀ : Cluster} {s : Snapshot}

theorem dataSafe_settled {path : String} :
    DataSafe env conf path (trashUsable conf.dontUseTrashApi c₀) (Settled conf c₀) where
  usable := fun _ h => trashUsable_eq h.1.1 h.1.2
  tree := fun _ _ _ h _ => h
  newView := fun _ _ h hpol => ⟨h.1, h.2.newView hpol⟩
  change := fun _ _ _ h _ _ => ⟨h.1, h.2.setViewProtocols⟩

/-- An attempt keeps the views in their tenants, wherever it stops. -/
theorem keeps_deleteSnapshot (id : Nat) :
    Keeps (onVms (Settled conf c₀)) (deleteSnapshot env conf ofSnapshot id) := by
  refine .bind ((meets_getById (J := Settled conf c₀)).weaken (fun _ hw => hw)
    (fun _ _ hw => hw.1) (fun _ _ hw => hw.1)) fun found => ?_
  cases found with
  | none => exact .ret
  | some snapshot =>
    refine .bind ((meets_hasNotFinishedStreams (J := Settled conf c₀)).raise
      (fun _ _ hw => hw.1)) fun busy => ?_
    cases busy with
    | true => exact .err
    | false =>
      have hdelete : Meets (onVms (Settled conf c₀)) (deleteById env .snapshot id)
          (fun _ => onVms (Settled conf c₀)) (raised (Settled conf c₀)) :=
        meets_deleteById fun c r hc _ _ => ⟨hc.1, hc.2.erase (by decide) (by decide)⟩
      refine .bind (hdelete.raiseLeft) fun _ => ?_
      refine .bind ((meets_one (J := Settled conf c₀)).weaken (fun _ hw => hw)
        (fun _ _ hw => hw.1) (fun _ _ hw => hw.1)) fun quota => ?_
      cases quota with
      | some _ => exact .ret
      | none =>
        refine .bind ((meets_list (J := Settled conf c₀)).weaken (fun _ hw => hw)
          (fun _ _ hw => hw.1) (fun _ _ hw => hw.1)) fun snaps => ?_
        cases snaps with
        | cons _ _ => exact .ret
        | nil => exact meets_deleteDataFromStorage dataSafe_settled

/-- No quota is found for the path, and no snapshot but this one has a path that
contains it. -/
structure LastSnapshot (s : Snapshot) (c : Cluster) : Prop where
  quota : ∀ r ∈ c.table .quota, quotaByPath s.path r = true → r.tenantId ≠ s.tenantId
  snapshot : ∀ r ∈ c.table .snapshot,
    Text.contains r.path (String.ofList (Text.rstrip '/' s.path.toList)) = true → r.id = s.id

theorem LastSnapshot.erase {c : Cluster} (h : LastSnapshot s c) :
    LastSnapshot s (c.erase .snapshot s.id) where
  quota := by
    rw [erase_table_ne (by decide)]
    exact h.quota
  snapshot := fun r hr => h.snapshot r (mem_erase_table.mp hr).1

/-- With the snapshot gone too, the directory goes. -/
theorem meets_deleteOrphanedData : Yields (onVms fun c => Settled conf c₀ c ∧ LastSnapshot s c ∧
        ∀ r ∈ c.table .snapshot, r.id ≠ s.id)
      (deleteOrphanedData env conf s.path s.tenantId)
      (fun _ => onVms (Gone s.path s.tenantId)) := by
  refine .bind (meets_one.okOnly) fun quota => ?_
  cases quota with
  | some quota =>
    refine .assuming (p := False) (fun w hw => ?_) False.elim
    obtain ⟨hmem, hmatch⟩ := hw.2.mem
    simp only [Bool.and_eq_true, beq_iff_eq] at hmatch
    exact hw.1.2.1.quota quota hmem hmatch.1 hmatch.2
  | none =>
    refine .bind ((meets_list (J := fun c => Settled conf c₀ c ∧ LastSnapshot s c ∧
      ∀ r ∈ c.table .snapshot, r.id ≠ s.id)).okOnly.preLeft) fun snaps => ?_
    cases snaps with
    | cons r _ =>
      refine .assuming (p := False) (fun w hw => ?_) False.elim
      have hr : r ∈ (w.vms.table .snapshot).select _ := hw.2 ▸ mem_cons_self
      obtain ⟨hmem, hcontains⟩ := mem_select.mp hr
      exact hw.1.2.2 r hmem (hw.1.2.1.snapshot r hmem hcontains)
    | nil =>
      exact (meets_deleteDataFromStorage_removed dataSafe_settled fun _ hc => hc.2).weaken
        (fun _ hw => hw.1.1) (fun _ _ hw => hw.2) (fun _ _ _ => trivial)

/-- An attempt that finds the snapshot and succeeds. -/
theorem meets_deleteSnapshot_last :
    Yields (onVms fun c => Settled conf c₀ c ∧ LastSnapshot s c ∧ s ∈ c.table .snapshot)
      (deleteSnapshot env conf ofSnapshot s.id) (fun _ => onVms (Gone s.path s.tenantId)) := by
  refine .bind (meets_getById.okOnly) fun found => ?_
  refine .assuming (p := found = some s) (fun w hw => ?_) fun hfound => ?_
  · -- the table has one row under the id
    obtain ⟨⟨-, -, hs⟩, rfl⟩ := hw
    cases hfind : w.vms.find .snapshot s.id with
    | none => exact absurd rfl (find_none hfind hs)
    | some r =>
      obtain ⟨hr, hid⟩ := find_some hfind
      rw [show r = s from eq_of_key hr hs hid]
  subst hfound
  refine .bind ((meets_hasNotFinishedStreams (J := fun c => Settled conf c₀ c ∧
    LastSnapshot s c)).okOnly.pre (fun _ hw => ⟨hw.1.1, hw.1.2.1⟩)) fun busy => ?_
  cases busy with
  | true => exact .throw fun _ _ => trivial
  | false =>
    have hdelete : Meets (onVms fun c => Settled conf c₀ c ∧ LastSnapshot s c)
        (deleteById env .snapshot s.id)
        (fun _ => onVms fun c => Settled conf c₀ c ∧ LastSnapshot s c)
        (raised fun c => Settled conf c₀ c ∧ LastSnapshot s c) :=
      meets_deleteById fun c r hc _ _ =>
        ⟨⟨hc.1.1, hc.1.2.erase (by decide) (by decide)⟩, hc.2.erase⟩
    refine .bind ((hdelete.and (meets_deleteById_gone fun _ _ => rfl)).okOnly.pre
      (fun _ hw => ⟨hw, trivial⟩)) fun _ => ?_
    exact meets_deleteOrphanedData.pre (fun _ hw => ⟨hw.1.1, hw.1.2, hw.2⟩)

end

def orphanCluster : Cluster :=
  let c := Cluster.fresh ⟨5, 0, 0⟩
  let c := c.insert .policy { id := 1, name := "deletion", tenantId := "1" }
  let c := c.insert .snapshot { id := 1, name := "snap", path := "/k8s/pvc-1/", tenantId := "1" }
  { c with dirs := [⟨"1", ["k8s", "pvc-1"]⟩] }

def stoppedAt (call : Nat) : Env :=
  { Env.steady with fate := fun n => if n < call then .answered else .failed .connection }

end VastCsi.Csi
