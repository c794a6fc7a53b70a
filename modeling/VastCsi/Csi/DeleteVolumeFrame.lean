import VastCsi.Csi.DeleteData

/-!
# The frame of `DeleteVolume`

If the lookups select own objects only, `Scope` is an invariant of the whole handler. If they
select something else, that object is gone when the handler succeeds.

The first half is `deleteVolume_frame`, from the `_scope` lemmas of the two handlers. The second is
`deleteVolume_target_gone`, from one `_gone` lemma for each kind of object that a handler deletes or
changes.
-/

namespace VastCsi.Csi

open Lib Vms Cluster Table Bool

variable {env : Env} {conf : Conf} {c₀ : Cluster} {name : String}

/-- The directory of an own path is own. -/
theorem ownDir_of_within {t p : String} {d : Dir} (hp : normalizeVolumeId p = name)
    (h : Cluster.within t p d = true) : ownDir name d := by
  rw [Cluster.within, and_eq_true] at h
  exact ⟨p, hp, h.2⟩

theorem streamBlind_targets (ctl : Controller) :
    StreamBlind (ownRow name) (targets env c₀ name ctl) (ownDir name) where
  ownState := fun _ _ h => h
  hitState := fun _ _ h => by cases ctl <;> exact h
  dir := fun _ ho _ hd => ownDir_of_within ho hd

variable {volumeId : String}

/-- What a handler keeps whose lookups select own objects only. -/
abbrev VolumeScope (env : Env) (c₀ : Cluster) (name : String) (ctl : Controller) :
    Cluster → Prop :=
  Scope (ownRow name) (targets env c₀ name ctl) (ownDir name) c₀

def SameSettings (c₀ c : Cluster) : Prop :=
  c.swVersion = c₀.swVersion ∧ c.trashEnabled = c₀.trashEnabled

def StreamGone (c₀ : Cluster) (r : Stream) (c : Cluster) : Prop :=
  SameSettings c₀ c ∧ r ∉ c.table .stream

/-- What is said of the settings and of other tables survives a deletion of streams. -/
theorem streamSafe_settings (c₀ : Cluster) {q : Query .stream} {J : Cluster → Prop}
    (hq : ∀ (r : Stream) s, q { r with state := s } = q r)
    (hJ : ∀ c c' : Cluster, (∀ k, k ≠ .stream → c'.table k = c.table k) → J c → J c') :
    StreamSafe c₀.swVersion q fun c => SameSettings c₀ c ∧ J c :=
  streamSafe_of_blind (fun _ h => h.1.1) hq
    fun c t _ h => ⟨h.1, hJ c _ (fun _ hk => set_table_ne c t hk) h.2⟩

/-- Own targets: the block handler stays in scope. -/
theorem meets_block_scope (hname : normalizeVolumeId volumeId = name) :
    Meets (onVms (VolumeScope env c₀ name .block)) (blockDeleteVolume env volumeId)
      (fun _ => onVms (VolumeScope env c₀ name .block))
      (raised (VolumeScope env c₀ name .block)) := by
  unfold blockDeleteVolume
  rw [hname]
  refine .bind (meets_ensureSnapshotStreamDeleted (streamSafe_scope (fun _ _ => rfl)
    (streamBlind_targets .block) fun hV r hq => ⟨hV, hq⟩)) fun _ => ?_
  refine .bind meets_list fun snaps => ?_
  cases snaps with
  | cons s snaps => exact .throw fun _ hw => ⟨hw.1, rfl⟩
  | nil =>
    refine (meets_deleteWith fun r => ?_).preLeft
    refine (meets_volumeDeleteById
      (J := fun c => VolumeScope env c₀ name .block c ∧ OwnId (ownRow name) .volume r.id c)
      (fun _ hc => hc.1.ver) ?_).weaken
      (fun _ hw => ⟨hw.1, hw.1.ownId (fun _ hq => hq) hw.2⟩) (fun _ _ hw => hw.1)
      (fun _ _ hw => ⟨hw.1.1, hw.2⟩)
    intro c r' hc hr' hid
    obtain ⟨hs, ho⟩ := Scope.erase_ownId hc hr' hid
    refine ⟨hs.dropRows fun _ _ _ => trivial, ?_⟩
    intro r₁ hr₁ hid₁
    rw [unmapAll, dropRows_table_ne (by decide)] at hr₁
    exact ho r₁ hr₁ hid₁

/-- Streams of the block handler that are selected are gone on success. -/
theorem meets_block_stream_gone (hname : normalizeVolumeId volumeId = name) {r : Stream}
    (ht : targets env c₀ name .block .stream r) :
    Yields (onVms (SameSettings c₀)) (blockDeleteVolume env volumeId)
      (fun _ => onVms fun c => r ∉ c.table .stream) := by
  unfold blockDeleteVolume
  rw [hname]
  have hver : StreamSafe c₀.swVersion (fun r => Text.contains r.name name) (SameSettings c₀) :=
    streamSafe_of_blind (fun _ h => h.1) (fun _ _ => rfl) fun _ _ _ h => h
  refine .bind (((meets_ensureSnapshotStreamDeleted hver).and
    (meets_ensureSnapshotStreamDeleted_gone (fun _ _ => rfl) ht.1 ht.2)).okOnly.pre
      (fun _ h => ⟨h, h.1⟩)) fun _ => ?_
  refine .bind ((meets_list (J := StreamGone c₀ r)).okOnly) fun snaps => ?_
  cases snaps with
  | cons s snaps => exact .throw fun _ _ => trivial
  | nil =>
    refine (meets_deleteWith (J := StreamGone c₀ r) fun r' => ?_).weaken (fun _ hw => hw.1)
      (fun _ _ hw => hw.2) (fun _ _ _ => trivial)
    refine (meets_volumeDeleteById (J := StreamGone c₀ r) (fun _ h => h.1.1) ?_).pre
      (fun _ hw => hw.1)
    intro c _ hc _ _
    refine ⟨hc.1, ?_⟩
    rw [unmapAll, dropRows_table_ne (by decide), erase_table_ne (by decide)]
    exact hc.2

/-- Volumes of the block handler that are selected are gone on success. -/
theorem meets_block_volume_gone (hname : normalizeVolumeId volumeId = name) {r : Volume}
    (hr : r ∈ c₀.table .volume) (ht : targets env c₀ name .block .volume r) :
    Yields (onVms (· = c₀)) (blockDeleteVolume env volumeId)
      (fun _ => onVms fun c => r ∉ c.table .volume) := by
  unfold blockDeleteVolume
  rw [hname]
  have hsafe := streamSafe_settings c₀ (q := fun r => Text.contains r.name name)
    (J := fun c => r ∈ c.table .volume) (fun _ _ => rfl)
    fun _ _ hsame h => (hsame .volume (by decide)).symm ▸ h
  refine .bind ((meets_ensureSnapshotStreamDeleted hsafe).okOnly.pre
    (fun _ h => by rw [onVms] at h; rw [onVms, h]; exact ⟨⟨rfl, rfl⟩, hr⟩)) fun _ => ?_
  refine .bind meets_list.okOnly fun snaps => ?_
  cases snaps with
  | cons s snaps => exact .throw fun _ _ => trivial
  | nil =>
    refine .bind ((meets_one (J := fun c => r ∈ c.table .volume)).okOnly.pre
      (fun _ h => h.1.2)) fun r' => ?_
    cases r' with
    | none => exact .pure fun w hw => absurd hw.1 (hw.2.not_mem ht)
    | some r' =>
      refine .assuming (p := r = r') (fun w hw => hw.2.eq hw.1 ht) fun he => ?_
      subst he
      exact meets_volumeDeleteById_gone.weaken (fun _ _ => trivial)
        (fun _ _ h hmem => h r hmem rfl) (fun _ _ h => h)

/-- The invariant of the NFS handler once it has found its quota. -/
def NfsScope (env : Env) (conf : Conf) (c₀ : Cluster) (name : String) (id : Nat)
    (c : Cluster) : Prop :=
  Scope (ownRow name) (targets env c₀ name (.nfs conf)) (ownDir name) c₀ c ∧
    OwnId (ownRow name) .quota id c

/-- Replacing the view table does not concern the quotas. -/
theorem ownId_quota_set_view {own : Owns} {c : Cluster} {id : Nat}
    {t : Table (Row .view) (rowId .view)} (h : OwnId own .quota id c) :
    OwnId own .quota id (c.set .view t) := by
  intro r hr hid
  rw [set_table_ne c t (by decide)] at hr
  exact h r hr hid

/-- For an own quota of the cluster, removing the data stays in scope. -/
theorem dataSafe_nfsScope {quota : Quota} (hq : quota ∈ c₀.table .quota)
    (hm : quotaByName name quota = true) (ho : normalizeVolumeId quota.path = name) :
    DataSafe env conf quota.path (trashUsable conf.dontUseTrashApi c₀)
      (NfsScope env conf c₀ name quota.id) where
  usable := fun _ h => trashUsable_eq h.1.ver h.1.trash
  tree := by
    rintro c t p ⟨hs, hid⟩ hp
    refine ⟨hs.removeTree fun d hd => ?_, hid⟩
    rw [Cluster.within, and_eq_true, hp] at hd
    exact ⟨quota.path, ho, hd.2⟩
  newView := by
    rintro c pol ⟨hs, hid⟩ -
    have hid' := ownId_quota_set_view (t := (c.table .view).insert
      ⟨(c.table .view).fresh, Text.dirname '/' quota.path, pol.tenantId, conf.deletionViewPolicy,
        [conf.protocol], none, none⟩) hid
    refine ⟨(hs.set (fun _ hr _ => Table.mem_insert_of_mem hr) fun r hr hh => ?_).addDir, hid'⟩
    rcases Table.mem_insert_cases hr with hr | rfl
    · exact hs.aim .view r hr hh
    · -- the new view exports the protocol, so it is not one to be changed
      obtain ⟨_, q, _, _, hch⟩ := hh
      rw [baseViewToChange, lacksProtocol_own rfl, Bool.and_false] at hch
      cases hch
  change := by
    rintro hback c r ⟨hs, hid⟩ hr hch
    have hown : ownRow name .view r := by
      refine hs.aim .view r hr ⟨?_, quota, hq, hm, hch⟩
      rw [fallsBack, hback]
      rfl
    refine ⟨hs.set (fun r' hr' ho' => ?_) fun r' hr' hh => ?_, ownId_quota_set_view hid⟩
    · refine mem_modify_of_ne hr' fun hi => ho' ?_
      rw [show r' = r from eq_of_key hr' hr hi]
      exact hown
    · obtain ⟨r₂, hr₂, rfl⟩ := mem_modify.mp hr'
      split at hh
      next hi =>
        rw [if_pos hi, show r₂ = r from eq_of_key hr₂ hr hi]
        exact hown
      next hi => rw [if_neg hi]; exact hs.aim .view r₂ hr₂ hh

/-- Own targets: the NFS handler stays in scope. -/
theorem meets_nfs_scope (hname : normalizeVolumeId volumeId = name) :
    VmsMeets (fun c => VolumeScope env c₀ name (.nfs conf) c ∧ c.table .quota = c₀.table .quota)
      (nfsDeleteVolume env conf volumeId) (fun _ => VolumeScope env c₀ name (.nfs conf))
      (VolumeScope env c₀ name (.nfs conf)) := by
  unfold nfsDeleteVolume
  rw [hname]
  have hscope : StreamSafe c₀.swVersion (fun r => r.name == "strm-" ++ name)
      (VolumeScope env c₀ name (.nfs conf)) :=
    streamSafe_scope (fun _ _ => rfl) (streamBlind_targets (.nfs conf))
      fun hV r hq => ⟨hV, beq_iff_eq.mp hq⟩
  have hquotas := streamSafe_settings c₀ (q := fun r => r.name == "strm-" ++ name)
    (J := fun c => c.table .quota = c₀.table .quota) (fun _ _ => rfl)
    fun _ _ hsame h => (hsame .quota (by decide)).trans h
  refine .bind (((meets_ensureSnapshotStreamDeleted hscope).and
    (meets_ensureSnapshotStreamDeleted hquotas)).weaken
    (fun _ h => ⟨h.1, ⟨h.1.ver, h.1.trash⟩, h.2⟩) (fun _ _ h => h) (fun _ _ h => h.1.1)) fun _ => ?_
  refine .bind ((meets_one (J := fun c => VolumeScope env c₀ name (.nfs conf) c ∧
      c.table .quota = c₀.table .quota)).weaken (fun _ h => ⟨h.1, h.2.2⟩) (fun _ _ h => h)
    (fun _ _ h => h.1.1)) fun quota => ?_
  cases quota with
  | none => exact .pure fun _ hw => hw.1.1
  | some quota =>
    refine .assuming (p := quota ∈ c₀.table .quota ∧ quotaByName name quota = true ∧
      normalizeVolumeId quota.path = name) ?_ fun ⟨hq, hm, ho⟩ => ?_
    · rintro w ⟨⟨hs, ht⟩, hf⟩
      exact ⟨ht ▸ hf.mem.1, hf.mem.2, hs.aim .quota quota hf.mem.1 hf.mem.2⟩
    · refine (meets_deleteQuotaVolume (dataSafe_nfsScope hq hm ho) ?_ ?_).weaken ?_
        (fun _ _ hw => hw.1) (fun _ _ hw => hw.1)
      · rintro c r ⟨hs, hid⟩ hr hp
        refine ⟨hs.erase hr (show normalizeVolumeId r.path = name by rw [hp]; exact ho), ?_⟩
        exact ownId_quota_set_view hid
      · rintro c r hc hr hid
        exact Scope.erase_ownId hc hr hid
      · rintro w ⟨⟨hs, -⟩, hf⟩
        exact ⟨hs, hs.ownId (fun _ h => h) hf⟩

/-- Streams of the NFS handler that are selected are gone on success. -/
theorem meets_nfs_stream_gone (hname : normalizeVolumeId volumeId = name) {r : Stream}
    (ht : targets env c₀ name (.nfs conf) .stream r) :
    Yields (onVms (SameSettings c₀)) (nfsDeleteVolume env conf volumeId)
      (fun _ => onVms fun c => r ∉ c.table .stream) := by
  unfold nfsDeleteVolume
  rw [hname]
  have hver : StreamSafe c₀.swVersion (fun r => r.name == "strm-" ++ name) (SameSettings c₀) :=
    streamSafe_of_blind (fun _ h => h.1) (fun _ _ => rfl) fun _ _ _ h => h
  refine .bind (((meets_ensureSnapshotStreamDeleted hver).and
    (meets_ensureSnapshotStreamDeleted_gone (fun _ _ => rfl) ht.1 (beq_iff_eq.mpr ht.2))).okOnly.pre
      (fun _ h => ⟨h, h.1⟩)) fun _ => ?_
  refine .bind ((meets_one (J := StreamGone c₀ r)).okOnly) fun quota => ?_
  cases quota with
  | none => exact .pure fun _ hw => hw.1.2
  | some quota =>
    have hset : ∀ {c : Cluster} {k : Kind} {t : Table (Row k) (rowId k)}, Kind.stream ≠ k →
        r ∉ c.table .stream → r ∉ (c.set k t).table .stream := by
      intro c k t hk hn
      rw [set_table_ne c t hk]
      exact hn
    have hdata : DataSafe env conf quota.path (trashUsable conf.dontUseTrashApi c₀)
        (StreamGone c₀ r) :=
      { usable := fun _ h => trashUsable_eq h.1.1 h.1.2
        tree := fun _ _ _ h _ => h
        newView := fun _ _ h _ => ⟨h.1, hset (by decide) h.2⟩
        change := fun _ _ _ h _ _ => ⟨h.1, hset (by decide) h.2⟩ }
    refine (meets_deleteQuotaVolume hdata ?_ ?_).weaken (fun _ hw => hw.1)
      (fun _ _ hw => hw.2) (fun _ _ _ => trivial)
    · exact fun c _ h _ _ => ⟨h.1, hset (by decide) h.2⟩
    · exact fun c _ h _ _ => ⟨h.1, hset (by decide) h.2⟩

/-- The quota of the NFS handler that is selected is gone on success. -/
theorem meets_nfs_quota_gone (hname : normalizeVolumeId volumeId = name) {r : Quota}
    (hr : r ∈ c₀.table .quota) (ht : targets env c₀ name (.nfs conf) .quota r) :
    Yields (onVms (· = c₀)) (nfsDeleteVolume env conf volumeId)
      (fun _ => onVms fun c => r ∉ c.table .quota) := by
  unfold nfsDeleteVolume
  rw [hname]
  have hsafe := streamSafe_settings c₀ (q := fun r => r.name == "strm-" ++ name)
    (J := fun c => r ∈ c.table .quota) (fun _ _ => rfl)
    fun _ _ hsame h => (hsame .quota (by decide)).symm ▸ h
  refine .bind ((meets_ensureSnapshotStreamDeleted hsafe).okOnly.pre
    (fun _ h => by rw [onVms] at h; rw [onVms, h]; exact ⟨⟨rfl, rfl⟩, hr⟩)) fun _ => ?_
  refine .bind ((meets_one (J := fun c => r ∈ c.table .quota)).okOnly.pre fun _ h => h.2)
    fun quota => ?_
  cases quota with
  | none => exact .pure fun w hw => absurd hw.1 (hw.2.not_mem ht)
  | some quota =>
    refine .assuming (p := r = quota) (fun w hw => hw.2.eq hw.1 ht) fun he => ?_
    subst he
    exact meets_deleteQuotaVolume_gone.weaken (fun _ _ => trivial)
      (fun _ _ h hmem => h r hmem rfl) (fun _ _ h => h)

/-- The base view the NFS handler has to change is not left as it was. -/
theorem meets_nfs_view_gone (hname : normalizeVolumeId volumeId = name) {r : View}
    (hr : r ∈ c₀.table .view) (ht : targets env c₀ name (.nfs conf) .view r) :
    Yields (onVms (· = c₀)) (nfsDeleteVolume env conf volumeId)
      (fun _ => onVms fun c => r ∉ c.table .view) := by
  obtain ⟨hfb, q, hq, hm, hch⟩ := ht
  have hback : (env.trashTimerExpired && trashUsable conf.dontUseTrashApi c₀) = false := by
    rw [fallsBack, not_eq_true'] at hfb
    exact hfb
  unfold nfsDeleteVolume
  rw [hname]
  have hsafe := streamSafe_settings c₀ (q := fun r => r.name == "strm-" ++ name)
    (J := fun c => q ∈ c.table .quota ∧ r ∈ c.table .view) (fun _ _ => rfl)
    fun _ _ hsame h => by rwa [hsame .quota (by decide), hsame .view (by decide)]
  refine .bind ((meets_ensureSnapshotStreamDeleted hsafe).okOnly.pre
    (fun _ h => by rw [onVms] at h; rw [onVms, h]; exact ⟨⟨rfl, rfl⟩, hq, hr⟩)) fun _ => ?_
  refine .bind meets_one.okOnly fun quota => ?_
  cases quota with
  | none => exact .pure fun w hw => absurd hw.1.2.1 (hw.2.not_mem hm)
  | some quota =>
    refine .assuming (p := q = quota) (fun w hw => hw.2.eq hw.1.2.1 hm) fun he => ?_
    subst he
    exact (meets_deleteQuotaVolume_view_gone hch hback).pre
      (fun _ hw => ⟨trashUsable_eq hw.1.1.1 hw.1.1.2, hw.1.2.2⟩)

/-- Whatever is selected is gone, or not left as it was, on success. -/
theorem deleteVolume_target_gone {ctl : Controller} {w w' : World}
    (h : deleteVolume env ctl volumeId w = .ok () w') {k : Kind} {r : Row k}
    (hr : r ∈ w.vms.table k) (ht : targets env w.vms (normalizeVolumeId volumeId) ctl k r) :
    r ∉ w'.vms.table k := by
  cases ctl with
  | block =>
    cases k with
    | volume => exact (meets_block_volume_gone rfl hr ht).ok rfl h
    | stream => exact (meets_block_stream_gone rfl ht).ok ⟨rfl, rfl⟩ h
    | _ => exact ht.elim
  | nfs conf =>
    cases k with
    | quota => exact (meets_nfs_quota_gone rfl hr ht).ok rfl h
    | view => exact (meets_nfs_view_gone rfl hr ht).ok rfl h
    | stream => exact (meets_nfs_stream_gone rfl ht).ok ⟨rfl, rfl⟩ h
    | _ => exact ht.elim

/-- Own targets: everything else is as it was, whether the call succeeds or not. -/
theorem deleteVolume_frame {ctl : Controller} {w : World}
    (ht : TargetsOwn env w.vms ctl (normalizeVolumeId volumeId)) :
    Frame (ownRow (normalizeVolumeId volumeId)) (ownDir (normalizeVolumeId volumeId)) w.vms
      (endState (deleteVolume env ctl volumeId w)).vms := by
  cases ctl with
  | block =>
    exact (((meets_block_scope rfl).weaken (fun _ h => h) (fun _ _ h => h.frame)
      (fun _ _ h => h.1.frame)).endState (scope_refl ht) : onVms _ _)
  | nfs conf =>
    exact (((meets_nfs_scope rfl).weaken (fun _ h => h) (fun _ _ h => h.frame)
      (fun _ _ h => h.frame)).endState ⟨scope_refl ht, rfl⟩ : onVms _ _)

/-- **The frame of `DeleteVolume`**: a successful call leaves what belongs to other volumes as it
was exactly when everything its lookups select has the volume's name as last component. -/
theorem deleteVolume_frame_iff (env : Env) (ctl : Controller) (volumeId : String) {w w' : World}
    (h : deleteVolume env ctl volumeId w = .ok () w') :
    Frame (ownRow (normalizeVolumeId volumeId)) (ownDir (normalizeVolumeId volumeId)) w.vms w'.vms ↔
      TargetsOwn env w.vms ctl (normalizeVolumeId volumeId) := by
  constructor
  · intro hf k r hr ht
    by_contra ho
    exact deleteVolume_target_gone h hr ht (hf.rows k r hr ho)
  · intro ht
    have := deleteVolume_frame ht
    rw [h] at this
    exact this

def oneVolume (name : String) : World :=
  { vms := (Cluster.fresh ⟨5, 3, 0⟩).insert .volume ⟨7, name, "default"⟩ }

def twoVolumes : World :=
  { vms := (oneVolume "/sub/pvc-1").vms.insert .volume ⟨8, "/sub/pvc-2", "default"⟩ }

theorem deleteVolume_frame_iff_own : ∃ w',
    deleteVolume .steady .block "/sub/pvc-1" twoVolumes = .ok () w' ∧
    Frame (ownRow "pvc-1") (ownDir "pvc-1") twoVolumes.vms w'.vms ∧
    (w'.vms.table .volume).rows = [⟨8, "/sub/pvc-2", "default"⟩] := by
  refine ⟨_, rfl, (deleteVolume_frame_iff .steady .block "/sub/pvc-1" rfl).mpr ?_, rfl⟩
  intro k r hr ht
  cases k with
  | volume =>
    rcases List.mem_pair.mp hr with rfl | rfl
    · show normalizeVolumeId "/sub/pvc-1" = "pvc-1"
      decide
    · have hends : Text.endsWith "/sub/pvc-2" (normalizeVolumeId "/sub/pvc-1") = false := by decide
      exact absurd (hends.symm.trans ht) Bool.false_ne_true
  | stream => cases hr
  | _ => exact ht.elim

/-- **A suffix is not a component**: on a retry, with `pvc-1` already gone,
`DeleteVolume("pvc-1")` deletes the volume `old-pvc-1`. -/
theorem deleteVolume_takes_suffix : ∃ w',
    deleteVolume .steady .block "pvc-1" (oneVolume "/sub/old-pvc-1") = .ok () w' ∧
    ¬ Frame (ownRow "pvc-1") (ownDir "pvc-1") (oneVolume "/sub/old-pvc-1").vms w'.vms := by
  refine ⟨_, rfl, fun hf => ?_⟩
  have hother : normalizeVolumeId "/sub/old-pvc-1" ≠ "pvc-1" := by decide
  have hkept := hf.rows .volume ⟨7, "/sub/old-pvc-1", "default"⟩ (by decide) hother
  exact absurd hkept (by decide)

end VastCsi.Csi
