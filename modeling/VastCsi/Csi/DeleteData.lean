import VastCsi.Csi.DeleteVolume

/-!
# The removal of a volume's data

In the middle of the NFS `DeleteVolume` the data go through the trash API, or through a local
mount of the parent directory under a view that is looked up, widened or created for it. The one
thing this can do to an object of somebody else is to widen the protocols of a view that is there
already.
-/

namespace VastCsi.Csi

open Lib Vms Bool Cluster

variable {env : Env} {conf : Conf}

/-- `J` survives what the removal of the data at `path` can do; `U` tells
whether the trash API is usable. -/
structure DataSafe (env : Env) (conf : Conf) (path : String) (U : Bool)
    (J : Cluster → Prop) : Prop where
  usable : ∀ c, J c → trashUsable conf.dontUseTrashApi c = U
  tree : ∀ c t p, J c → pathParts p = pathParts path → J (c.removeTree t p)
  newView : ∀ c pol, J c → Found .policy (·.name == conf.deletionViewPolicy) c (some pol) →
    J ((c.insert .view ⟨(c.table .view).fresh, Text.dirname '/' path, pol.tenantId,
      conf.deletionViewPolicy, [conf.protocol], none, none⟩).addDir pol.tenantId
        (Text.dirname '/' path))
  change : (env.trashTimerExpired && U) = false → ∀ c r, J c → r ∈ c.table .view →
    baseViewToChange conf path r = true →
    J (c.setViewProtocols r.id (r.protocols ++ [conf.protocol]))

section Data

variable {path : String} {U : Bool} {J : Cluster → Prop}

variable {r : View} {tenantId : String} {quota : Quota}

theorem lacksProtocol_own (h : r.protocols = [conf.protocol]) :
    lacksProtocol conf.protocol r = false := by
  rw [lacksProtocol, h, Conf.protocol]
  cases isVerNfs4Present conf.deletionMountOptions with
  | true => decide
  | false => decide

/-- A view found on the parent directory that lacks the protocol. -/
theorem baseViewToChange_of_found {c : Cluster}
    (h : Found .view (fun r => r.path == Text.dirname '/' path &&
      r.policy == conf.deletionViewPolicy) c (some r)) (hl : lacksProtocol conf.protocol r = true) :
    baseViewToChange conf path r = true := by
  rw [baseViewToChange, hl, Bool.and_true]
  exact h.mem.2

theorem meets_ensureBaseView (h : DataSafe env conf path U J)
    (hback : (env.trashTimerExpired && U) = false) :
    Meets (onVms J) (ensureBaseView env conf path)
      (fun r w => J w.vms ∧ r.path = Text.dirname '/' path) (raised J) := by
  refine .bind ((meets_viewEnsure (K := J) fun c pol hc _ hp => h.newView c pol hc hp).raise
    (fun _ _ hw => ⟨hw.1.elim id id, hw.2⟩)) fun r => ?_
  have hpath : ∀ w : World, (J w.vms ∧ Found .view (fun r => r.path == Text.dirname '/' path &&
        r.policy == conf.deletionViewPolicy) w.vms (some r)) ∨
      (J w.vms ∧ r.path = Text.dirname '/' path ∧ r.protocols = [conf.protocol]) →
      J w.vms ∧ r.path = Text.dirname '/' path := by
    rintro w (⟨hJ, hf⟩ | ⟨hJ, hp, -⟩)
    · have := hf.mem.2
      simp only [and_eq_true, beq_iff_eq] at this
      exact ⟨hJ, this.1⟩
    · exact ⟨hJ, hp⟩
  cases hl : lacksProtocol conf.protocol r with
  | false => exact .pure hpath
  | true =>
    refine .assuming (p := r.path = Text.dirname '/' path ∧
      baseViewToChange conf path r = true) ?_ fun ⟨hp, hchange⟩ => ?_
    · rintro w (hw | hw)
      · exact ⟨(hpath w (.inl hw)).2, baseViewToChange_of_found hw.2 hl⟩
      · rw [lacksProtocol_own hw.2.2] at hl
        cases hl
    · refine .bind ((meets_viewUpdateProtocols
        (J := fun c => J c ∧ r ∈ c.table .view) (K := J) (fun _ hc => hc.1)
        fun c hc => h.change hback c r hc.1 hc.2 hchange).pre ?_)
          fun _ => .pure fun _ hw => ⟨hw, hp⟩
      rintro w (hw | hw)
      · exact ⟨hw.1, hw.2.mem.1⟩
      · rw [lacksProtocol_own hw.2.2] at hl
        cases hl

/-- What the local mount removes is the directory of the path. -/
theorem meets_removeViaMount {volumeId : String}
    (htree : ∀ c, J c → J (c.removeTree r.tenantId (r.path ++ "/" ++ volumeId))) :
    Keeps (onVms J) (removeViaMount env r volumeId) := by
  refine .finalizing (.tryCatch (F := fun _ => onVms J) ?_ fun e => ?_) ?_
  · refine .bind (Q := fun _ => onVms J)
      (meets_hostCommand (fun _ _ hw => hw) fun w hw => hw) fun _ => ?_
    exact meets_hostCommand (fun _ _ hw => hw) fun w hw => htree w.vms hw
  · split
    next => exact .err
    next => exact .err
  · refine .bind (Q := fun _ => onVms J) (fun w hw => hw) fun w => ?_
    have hdone : Keeps (onVms J) (hostCommand env (pure ())) :=
      meets_hostCommand (fun _ _ hw => hw) .ret
    split
    next =>
      refine .bind (Q := fun _ => onVms J)
        (meets_hostCommand (fun _ _ hw => hw) fun w hw => hw) fun _ => hdone
    next => exact hdone

theorem meets_deletionServer :
    Meets (onVms J) (deletionServer env conf tenantId) (fun _ => onVms J) (raised J) := by
  unfold deletionServer
  split
  next => exact .ret
  next =>
    refine .bind (Q := fun _ => onVms J)
      (.assertThat (fun _ _ hw => hw) fun _ _ hw => ⟨hw, rfl⟩) fun _ => meets_getVip

theorem meets_deleteDataViaLocalMount (h : DataSafe env conf path U J)
    (hback : (env.trashTimerExpired && U) = false) :
    Keeps (onVms J) (deleteDataViaLocalMount env conf path tenantId) := by
  refine .bind (Q := fun _ => onVms J) (.assertThat (fun _ _ hw => hw) fun _ _ hw => hw) fun _ => ?_
  refine .bind (Q := fun _ => onVms J) (meets_oneOrFail.weaken (fun _ hw => hw)
    (fun _ _ hw => hw.1) (fun _ _ hw => hw.1)) fun viewPolicy => ?_
  refine .bind (Q := fun _ => onVms J) (.assertThat (fun _ _ hw => hw) fun _ _ hw => hw) fun _ => ?_
  refine .bind (meets_deletionServer.raiseLeft) fun _ => ?_
  refine .bind ((meets_ensureBaseView h hback).raiseLeft) fun r => ?_
  refine .assuming (p := r.path = Text.dirname '/' path) (fun _ hw => hw.2) fun hp => ?_
  refine (meets_removeViaMount fun c hc => h.tree c _ _ hc ?_).preLeft
  rw [hp]
  exact Text.parts_dirname_basename path

/-- The trash API removes the directory, or the local mount has to. -/
theorem meets_tryTrashApi (husable : ∀ c, J c → trashUsable conf.dontUseTrashApi c = U)
    (htree : ∀ c, J c → J (c.removeTree tenantId path)) :
    Meets (onVms J) (tryTrashApi env conf path tenantId)
      (fun b w => J w.vms ∧ (env.trashTimerExpired && U) = b) (raised J) := by
  unfold tryTrashApi
  cases ht : env.trashTimerExpired with
  | false => exact .pure fun w hw => ⟨hw, rfl⟩
  | true =>
    rw [if_pos rfl]
    refine .tryCatch
      (F := fun e w => raised J e w ∧ (e.notSupported = true → U = false)) ?_ fun e => ?_
    · refine .bind (meets_folderDelete husable htree) fun _ =>
        .pure fun w hw => ⟨hw.1, by rw [hw.2]; rfl⟩
    · split
      next hns => exact .pure fun w hw => ⟨hw.1.1, by rw [hw.2 hns]; rfl⟩
      next => exact .throw fun w hw => hw.1

/-- Taking a lock does not touch the cluster. -/
theorem meets_lockResource {key message : String} : Keeps (onVms J) (lockResource key message) := by
  intro w hw
  unfold lockResource
  split
  next hok =>
    split at hok
    next => cases hok
    next => cases hok; exact hw
  next herr =>
    split at herr
    next => cases herr; exact hw
    next => cases herr

theorem meets_deleteDataFromStorage (h : DataSafe env conf path U J) :
    Keeps (onVms J) (deleteDataFromStorage env conf path tenantId) := by
  refine .bind ((meets_tryTrashApi h.usable fun c hc => h.tree c _ _ hc rfl).raise
    (fun _ _ hw => hw.1)) fun b => ?_
  cases b with
  | true => exact .pure fun _ hw => hw.1
  | false =>
    refine .assuming (p := (env.trashTimerExpired && U) = false) (fun _ hw => hw.2) fun hback => ?_
    exact .bind (meets_lockResource.preLeft)
      fun _ => meets_deleteDataViaLocalMount h hback

theorem meets_deleteData (h : DataSafe env conf quota.path U J) :
    Keeps (onVms J) (deleteData env conf quota) := by
  refine .tryCatch (meets_deleteDataFromStorage h) fun e => ?_
  split
  next text =>
    refine .bind (Q := fun _ => onVms J)
      (.assertThat (fun _ _ hw => hw) fun _ _ hw => hw) fun _ => ?_
    refine .bind (meets_list.weaken (fun _ hw => hw) (fun _ _ hw => hw.1)
      (fun _ _ hw => hw.1)) fun snaps => ?_
    cases snaps with
    | nil => exact .err
    | cons _ _ => exact .ret
  next => exact .err

/-- The view and the quota of a path, after its data. -/
theorem meets_dropViewAndQuota
    (hview : ∀ c r, J c → r ∈ c.table .view → r.path = quota.path → J (c.erase .view r.id))
    (hquota : ∀ c r, J c → r ∈ c.table .quota → r.id = quota.id → J (c.erase .quota quota.id)) :
    Meets (onVms J) (do
        deleteWith env .view (fun r => r.path == quota.path) (viewDeleteById env false)
        deleteById env .quota quota.id)
      (fun _ => onVms J) (raised J) := by
  refine .bind (meets_deleteWith fun r => ?_) fun _ => meets_deleteById hquota
  -- the row under the id found keeps the path it was found by
  refine (meets_viewDeleteById (J := fun c => J c ∧
    ∀ r' ∈ c.table .view, r'.id = r.id → r'.path = quota.path) ?_).weaken ?_
    (fun _ _ hw => hw.1) (fun _ _ hw => ⟨hw.1.1, hw.2⟩)
  · rintro c r' ⟨hJ, hid⟩ hr' hrr
    refine ⟨hrr ▸ hview c r' hJ hr' (hid r' hr' hrr), fun r₁ hr₁ h₁ => ?_⟩
    exact absurd h₁ (mem_erase_table.mp hr₁).2
  · rintro w ⟨hJ, hf⟩
    refine ⟨hJ, fun r' hr' hid => ?_⟩
    rw [show r' = r from Table.eq_of_key hr' hf.mem.1 hid]
    exact beq_iff_eq.mp hf.mem.2

/-- What `deleteQuotaVolume` keeps. -/
theorem meets_deleteQuotaVolume (h : DataSafe env conf quota.path U J)
    (hview : ∀ c r, J c → r ∈ c.table .view → r.path = quota.path → J (c.erase .view r.id))
    (hquota : ∀ c r, J c → r ∈ c.table .quota → r.id = quota.id → J (c.erase .quota quota.id)) :
    Keeps (onVms J) (deleteQuotaVolume env conf name quota) := by
  refine .bind (Q := fun _ => onVms J) ?_ fun snaps => ?_
  · unfold blockingSnapshots
    split
    next => exact .ret
    next => exact meets_list.weaken (fun _ hw => hw) (fun _ _ hw => hw.1) (fun _ _ hw => hw.1)
  · refine .bind (Q := fun _ => onVms J)
      (.assertThat (fun _ _ hw => hw) fun _ _ hw => hw) fun _ => ?_
    refine .bind (meets_deleteData h) fun _ => ?_
    exact (meets_dropViewAndQuota hview hquota).raiseLeft

/-- After a successful `deleteQuotaVolume` no quota has the id. -/
theorem meets_deleteQuotaVolume_gone :
    Yields (fun _ => True) (deleteQuotaVolume env conf name quota)
      (fun _ w => ∀ r ∈ w.vms.table .quota, r.id ≠ quota.id) := by
  refine .bind (.trivial _) fun snaps => ?_
  refine .bind (.trivial _) fun _ => ?_
  refine .bind (.trivial _) fun _ => ?_
  refine .bind (.trivial _) fun _ => ?_
  exact meets_deleteById_gone fun _ _ => rfl

end Data

section BaseView

variable {path : String} {r : View}

/-- A view that has to be changed is not there any more in its old form. -/
theorem meets_ensureBaseView_gone (hch : baseViewToChange conf path r = true) :
    Meets (onVms fun c => r ∈ c.table .view) (ensureBaseView env conf path)
      (fun _ => onVms fun c => r ∉ c.table .view) (fun e _ => e.isOSError = false) := by
  simp only [baseViewToChange, and_eq_true] at hch
  have hmatch : (r.path == Text.dirname '/' path && r.policy == conf.deletionViewPolicy) =
      true := by rw [hch.1.1, hch.1.2]; rfl
  refine .bind ((meets_viewEnsure (J := fun c => r ∈ c.table .view)
    (K := fun _ => False) fun c _ hr hnone _ => hnone.not_mem hmatch hr).raise fun _ _ h => h.2)
      fun r' => ?_
  refine .assuming (p := r' = r) ?_ fun he => ?_
  · rintro w (⟨hr, hf⟩ | ⟨hk, -⟩)
    · exact (hf.eq hr hmatch).symm
    · exact hk.elim
  · subst he
    rw [hch.2]
    refine .bind (Q := fun _ => onVms fun c => r' ∉ c.table .view) ?_ fun _ => .ret
    refine (meets_request_of (J := fun _ => True)
      (Q := fun _ => onVms fun c => r' ∉ c.table .view) (E := fun e _ => e.isOSError = false)
      (fun f _ _ => f.err_plain.2.1) (fun f _ _ _ => f.err_plain.2.1)
      (fun f _ _ _ => f.err_plain.2.1) ?_).pre (fun _ _ => trivial)
    intro w _
    dsimp only
    cases w.vms.find .view r'.id with
    | none => rfl
    | some _ =>
      -- the row under the id now exports one protocol more
      intro hmem
      obtain ⟨r₂, hr₂, he⟩ := mem_setViewProtocols.mp hmem
      split at he
      next =>
        have hlen := congrArg (fun v : View => v.protocols.length) he
        simp at hlen
      next hne => exact hne (by rw [← he])

theorem meets_localMount_gone {tenantId : String} (hch : baseViewToChange conf path r = true) :
    Meets (onVms fun c => r ∈ c.table .view) (deleteDataViaLocalMount env conf path tenantId)
      (fun _ => onVms fun c => r ∉ c.table .view)
      (fun e w => e.isOSError = true → r ∉ w.vms.table .view) := by
  have hplain : ∀ {e : Err} {p : Prop}, e.isOSError = false → e.isOSError = true → p := by
    intro e p h h'
    rw [h] at h'
    cases h'
  refine .bind (Q := fun _ => onVms fun c => r ∈ c.table .view)
    (.assertThat (fun _ _ hw => hw) fun _ _ _ => hplain rfl) fun _ => ?_
  refine .bind (Q := fun _ => onVms fun c => r ∈ c.table .view)
    (meets_oneOrFail.weaken (fun _ hw => hw) (fun _ _ hw => hw.1)
      (fun _ _ hw => hplain hw.2)) fun viewPolicy => ?_
  refine .bind (Q := fun _ => onVms fun c => r ∈ c.table .view)
    (.assertThat (fun _ _ hw => hw) fun _ _ _ => hplain rfl) fun _ => ?_
  refine .bind (meets_deletionServer.raise fun _ _ hw => hplain hw.2) fun _ => ?_
  refine .bind ((meets_ensureBaseView_gone hch).raise fun _ _ hw => hplain hw) fun bv => ?_
  exact (meets_removeViaMount (J := fun c => r ∉ c.table .view) fun _ hc => hc).raise
    (fun _ _ hw _ => hw)

theorem meets_deleteData_gone {quota : Quota} {U : Bool}
    (hch : baseViewToChange conf quota.path r = true)
    (hback : (env.trashTimerExpired && U) = false) :
    Yields (onVms fun c => trashUsable conf.dontUseTrashApi c = U ∧ r ∈ c.table .view)
      (deleteData env conf quota) (fun _ => onVms fun c => r ∉ c.table .view) := by
  refine .tryCatch (F := fun e w => e.isOSError = true → r ∉ w.vms.table .view) ?_ fun e => ?_
  · refine .bind ((meets_tryTrashApi
      (J := fun c => trashUsable conf.dontUseTrashApi c = U ∧ r ∈ c.table .view)
      (fun _ hc => hc.1) fun _ hc => hc).raise fun _ _ hw h => by rw [hw.2] at h; cases h)
        fun b => ?_
    cases b with
    | true =>
      refine .assuming (p := False) (fun _ hw => ?_) False.elim
      rw [hback] at hw
      exact absurd hw.2 (by decide)
    | false =>
      refine .bind (Q := fun _ => onVms fun c => r ∈ c.table .view) ?_
        fun _ => meets_localMount_gone hch
      intro w hw
      unfold lockResource
      split
      next hok =>
        split at hok
        next => cases hok
        next => cases hok; exact hw.1.2
      next herr =>
        split at herr
        next => cases herr; exact fun h => by cases h
        next => cases herr
  · split
    next text =>
      refine .bind (Q := fun _ => onVms fun c => r ∉ c.table .view)
        (.assertThat (fun _ _ hw => hw rfl) fun _ _ _ => trivial) fun _ => ?_
      refine .bind (meets_list.okOnly.post fun _ _ hw => hw.1) fun snaps => ?_
      cases snaps with
      | nil => exact .throw fun _ _ => trivial
      | cons _ _ => exact .ret
    next => exact .throw fun _ _ => trivial

theorem meets_deleteQuotaVolume_view_gone {quota : Quota} {U : Bool}
    (hch : baseViewToChange conf quota.path r = true)
    (hback : (env.trashTimerExpired && U) = false) :
    Yields (onVms fun c => trashUsable conf.dontUseTrashApi c = U ∧ r ∈ c.table .view)
      (deleteQuotaVolume env conf name quota) (fun _ => onVms fun c => r ∉ c.table .view) := by
  refine .bind (Q := fun _ => onVms fun c =>
    trashUsable conf.dontUseTrashApi c = U ∧ r ∈ c.table .view) ?_ fun snaps => ?_
  · unfold blockingSnapshots
    split
    next => exact .ret
    next => exact meets_list.okOnly.post (fun _ _ hw => hw.1)
  · refine .bind (Q := fun _ => onVms fun c =>
      trashUsable conf.dontUseTrashApi c = U ∧ r ∈ c.table .view)
      (.assertThat (fun _ _ hw => hw) fun _ _ _ => trivial) fun _ => ?_
    refine .bind (meets_deleteData_gone hch hback) fun _ => ?_
    refine (meets_dropViewAndQuota (J := fun c => r ∉ c.table .view) ?_ ?_).okOnly
    · exact fun c r' hc _ _ hmem => hc (mem_erase_table.mp hmem).1
    · intro c r' hc _ _
      rw [erase_table_ne (by decide)]
      exact hc

end BaseView

end VastCsi.Csi
