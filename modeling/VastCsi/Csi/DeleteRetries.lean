import VastCsi.Csi.DataRemoval
import VastCsi.Csi.DeleteVolumeFrame

/-!
# `DeleteVolume` of an NFS volume, retried until it succeeds

The quota is what a retry finds the volume by, so it has to go last. A directory that the local
mount could not empty is left behind when the volume has snapshots, and whether it has any is
asked for by *substring*: a snapshot of `/k8s/pvc-10` counts for `/k8s/pvc-1`.

`Retryable` is kept by every attempt: the quota is there, or what is to go has gone (`Cleared`). The
stages of the handler are taken one by one, each from what the one before has cleared.
-/

namespace VastCsi.Csi

open Lib Vms List Cluster Table

def released (w : World) : World := { w with locks := [], mounted := false }

def deleteAttempts (conf : Conf) (volumeId : String) (w : World) (envs : List Env) : World :=
  afterAttempts released (fun env => nfsDeleteVolume env conf volumeId) w envs

/-- A snapshot of the directory of the quota, or of one below it. -/
def OwnSnapshot (q : Quota) (s : Snapshot) : Prop :=
  s.tenantId = q.tenantId ∧ pathParts q.path <+: pathParts s.path

instance {q : Quota} {s : Snapshot} : Decidable (OwnSnapshot q s) :=
  inferInstanceAs (Decidable (_ ∧ _))

/-- The snapshots that the driver takes for the volume's. -/
def CountedSnapshot (q : Quota) (s : Snapshot) : Prop :=
  Text.contains s.path (String.ofList (Text.rstrip '/' q.path.toList)) = true

def HasSnapshot (keeping : Snapshot → Prop) (c : Cluster) : Prop :=
  ∃ s ∈ c.table .snapshot, keeping s

/-- The data and the view of the volume are gone, the data but for snapshots. -/
structure Cleared (keeping : Snapshot → Prop) (q : Quota) (c : Cluster) : Prop where
  view : ∀ r ∈ c.table .view, r.path ≠ q.path
  data : Gone q.path q.tenantId c ∨ HasSnapshot keeping c

/-- The quota is the only one with the name, views stay in the tenant of their policy, the
snapshots are the ones at the start, and a cluster that knows no streams gets none. -/
structure Base (conf : Conf) (name : String) (q : Quota) (c₀ c : Cluster) : Prop where
  ver : c.swVersion = c₀.swVersion
  trash : c.trashEnabled = c₀.trashEnabled
  quota : ∀ r ∈ c.table .quota, quotaByName name r = true → r = q
  snapshots : c.table .snapshot = c₀.table .snapshot
  views : ViewsOfPolicy conf.deletionViewPolicy c₀ → ViewsOfPolicy conf.deletionViewPolicy c
  streams : c₀.swVersion.lt streamsSince = true → c.table .stream = c₀.table .stream

section Base

variable {env : Env} {conf : Conf} {name : String} {q : Quota} {c₀ : Cluster}
  {keeping : Snapshot → Prop}

variable {c : Cluster}

/-- A change of the directories. -/
theorem Base.dirs (h : Base conf name q c₀ c) (ds : List Dir) :
    Base conf name q c₀ { c with dirs := ds } :=
  ⟨h.ver, h.trash, h.quota, h.snapshots, h.views, h.streams⟩

/-- A change of the views that keeps them in their tenants. -/
theorem Base.setView (h : Base conf name q c₀ c) {t : Table View View.id}
    (ht : ViewsOfPolicy conf.deletionViewPolicy c →
      ViewsOfPolicy conf.deletionViewPolicy (c.set .view t)) :
    Base conf name q c₀ (c.set .view t) where
  ver := h.ver
  trash := h.trash
  quota := by
    rw [set_table_ne _ _ (by decide)]
    exact h.quota
  snapshots := by
    rw [set_table_ne _ _ (by decide)]
    exact h.snapshots
  views := fun h₀ => ht (h.views h₀)
  streams := by
    rw [set_table_ne _ _ (by decide)]
    exact h.streams

/-- A quota goes. -/
theorem Base.eraseQuota (h : Base conf name q c₀ c) (id : Nat) :
    Base conf name q c₀ (c.erase .quota id) where
  ver := h.ver
  trash := h.trash
  quota := fun r hr => h.quota r (mem_erase_table.mp hr).1
  snapshots := by
    rw [erase_table_ne (by decide)]
    exact h.snapshots
  views := fun h₀ => (h.views h₀).erase (by decide) (by decide)
  streams := by
    rw [erase_table_ne (by decide)]
    exact h.streams

/-- A change of the streams on a cluster that has them. -/
theorem Base.setStream (h : Base conf name q c₀ c) (hV : c₀.swVersion.lt streamsSince = false)
    (t : Table Stream Stream.id) :
    Base conf name q c₀ (c.set .stream t) where
  ver := h.ver
  trash := h.trash
  quota := by
    rw [set_table_ne _ _ (by decide)]
    exact h.quota
  snapshots := by
    rw [set_table_ne _ _ (by decide)]
    exact h.snapshots
  views := fun h₀ => (h.views h₀).set (by decide) (by decide)
  streams := by
    intro hlt
    rw [hV] at hlt
    cases hlt

def Held (conf : Conf) (name : String) (q : Quota) (c₀ c : Cluster) : Prop :=
  Base conf name q c₀ c ∧ q ∈ c.table .quota

def Retryable (keeping : Snapshot → Prop) (conf : Conf) (name : String) (q : Quota)
    (c₀ c : Cluster) : Prop :=
  Base conf name q c₀ c ∧ (q ∉ c.table .quota → Cleared keeping q c)

theorem Held.retryable (h : Held conf name q c₀ c) : Retryable keeping conf name q c₀ c :=
  ⟨h.1, fun hnot => absurd h.2 hnot⟩

/-- The removal of the data leaves the quota alone. -/
theorem dataSafe_held : DataSafe env conf q.path (trashUsable conf.dontUseTrashApi c₀)
    (Held conf name q c₀) where
  usable := fun _ h => trashUsable_eq h.1.ver h.1.trash
  tree := fun _ _ _ h _ => ⟨h.1.dirs _, h.2⟩
  newView := by
    rintro c pol ⟨hb, hq⟩ hpol
    refine ⟨(hb.setView fun hviews => hviews.newView hpol).dirs _, ?_⟩
    rw [addDir_table, insert_table_ne (by decide)]
    exact hq
  change := by
    rintro - c r ⟨hb, hq⟩ hr -
    refine ⟨hb.setView fun hviews => hviews.setViewProtocols, ?_⟩
    rw [Cluster.setViewProtocols, set_table_ne _ _ (by decide)]
    exact hq

theorem Cleared.dirs (h : Cleared keeping q c) {t p : String} :
    Cleared keeping q (c.removeTree t p) :=
  ⟨h.view, h.data.imp (fun hg => hg.removeTree t p) fun hh => hh⟩

/-- A change of the streams or quotas says nothing about the data and the view. -/
theorem Cleared.set (h : Cleared keeping q c) {k : Kind} {t : Table (Row k) (rowId k)}
    (hview : k ≠ .view) (hsnapshot : k ≠ .snapshot) :
    Cleared keeping q (c.set k t) := by
  constructor
  · rw [set_table_ne _ _ (Ne.symm hview)]
    exact h.view
  · refine h.data.imp (fun hg => hg) ?_
    rintro ⟨s, hs, hown⟩
    exact ⟨s, by rw [set_table_ne _ _ (Ne.symm hsnapshot)]; exact hs, hown⟩

/-- The streams go first, with their directories. -/
theorem streamSafe_retryable : StreamSafe c₀.swVersion (fun r => r.name == "strm-" ++ name)
    (Retryable keeping conf name q c₀) where
  ver := fun _ h => h.1.ver
  state := fun _ _ => rfl
  stop := by
    rintro hV c r s ⟨hb, hdone⟩ - -
    refine ⟨hb.setStream hV _, fun hnot => (hdone ?_).set (by decide) (by decide)⟩
    rwa [Cluster.setStreamState, set_table_ne _ _ (by decide)] at hnot
  collect := by
    rintro hV c r ⟨hb, hdone⟩ - -
    refine ⟨hb.setStream hV _, fun hnot => (hdone ?_).set (by decide) (by decide)⟩
    rwa [erase_table_ne (by decide)] at hnot
  drop := by
    rintro hV c r ⟨hb, hdone⟩ - -
    refine ⟨(hb.setStream hV _).dirs _, fun hnot => ?_⟩
    have hq : q ∉ c.table .quota := by
      rwa [removeLoaneeDir, removeTree_table, erase_table_ne (by decide)] at hnot
    exact ((hdone hq).set (by decide) (by decide)).dirs

end Base

section Attempt

variable {env : Env} {conf : Conf} {name : String} {q : Quota} {c₀ : Cluster}
  {keeping : Snapshot → Prop}

/-- The data are gone, or kept for the volume's snapshots. -/
theorem meets_deleteData_cleared (hviews : ViewsOfPolicy conf.deletionViewPolicy c₀)
    (hkeeping : ∀ s ∈ c₀.table .snapshot, CountedSnapshot q s → keeping s) :
    VmsMeets (Held conf name q c₀) (deleteData env conf q) (fun _ c =>
        Held conf name q c₀ c ∧ (Gone q.path q.tenantId c ∨ HasSnapshot keeping c))
      (Held conf name q c₀) := by
  refine .tryCatch (F := fun _ => onVms (Held conf name q c₀))
    ((meets_deleteDataFromStorage_removed dataSafe_held fun _ hc => hc.1.views hviews).post
      (fun _ _ hw => ⟨hw.1, .inl hw.2⟩)) fun e => ?_
  split
  next text =>
    refine .bind (Q := fun _ => onVms (Held conf name q c₀))
      (.assertThat (fun _ _ hw => hw) fun _ _ hw => hw) fun _ => ?_
    refine .bind (meets_list.raiseLeft) fun snaps => ?_
    cases snaps with
    | nil => exact .throw fun _ hw => hw.1
    | cons s _ =>
      refine .pure fun w hw => ⟨hw.1, .inr ⟨s, ?_⟩⟩
      have hs : s ∈ (w.vms.table .snapshot).select _ := hw.2 ▸ mem_cons_self
      obtain ⟨hmem, hcounted⟩ := mem_select.mp hs
      exact ⟨hmem, hkeeping s (hw.1.1.snapshots ▸ hmem) hcounted⟩
  next => exact .err

/-- The view goes when the data are gone. -/
theorem meets_deleteView_cleared : VmsMeets (fun c =>
        Held conf name q c₀ c ∧ (Gone q.path q.tenantId c ∨ HasSnapshot keeping c))
      (deleteWith env .view (fun r => r.path == q.path) (viewDeleteById env false))
      (fun _ c => Held conf name q c₀ c ∧ Cleared keeping q c)
      (Held conf name q c₀) := by
  refine .bind (meets_one.raise fun _ _ hw => hw.1.1) fun found => ?_
  cases found with
  | none =>
    refine .pure fun w hw => ⟨hw.1.1, fun r hr hpath => ?_, hw.1.2⟩
    exact hw.2.not_mem (beq_iff_eq.mpr hpath) hr
  | some r =>
    -- every view on the path has the id that is deleted
    have hkeep : Meets (onVms fun c => (Held conf name q c₀ c ∧
        (Gone q.path q.tenantId c ∨ HasSnapshot keeping c)) ∧
        ∀ r' ∈ c.table .view, r'.path = q.path → r'.id = r.id) (viewDeleteById env false r.id)
        (fun _ => onVms fun c => (Held conf name q c₀ c ∧
          (Gone q.path q.tenantId c ∨ HasSnapshot keeping c)) ∧
          ∀ r' ∈ c.table .view, r'.path = q.path → r'.id = r.id)
        (raised fun c => (Held conf name q c₀ c ∧
          (Gone q.path q.tenantId c ∨ HasSnapshot keeping c)) ∧
          ∀ r' ∈ c.table .view, r'.path = q.path → r'.id = r.id) := by
      refine meets_viewDeleteById ?_
      rintro c r' ⟨⟨⟨hb, hq⟩, hdata⟩, hid⟩ hr' -
      have herase (hviews : ViewsOfPolicy conf.deletionViewPolicy c) :
          ViewsOfPolicy conf.deletionViewPolicy (c.erase .view r.id) :=
        ViewsOfPolicy.setView fun r₁ hr₁ hpolicy pol hpol =>
          hviews pol hpol r₁ (mem_erase.mp hr₁).1 hpolicy
      refine ⟨⟨⟨hb.setView herase, ?_⟩, ?_⟩, ?_⟩
      · rw [erase_table_ne (by decide)]
        exact hq
      · refine hdata.imp (fun hg => hg) ?_
        rintro ⟨s, hs, hown⟩
        exact ⟨s, by rw [erase_table_ne (by decide)]; exact hs, hown⟩
      · exact fun r₁ hr₁ => hid r₁ (mem_erase_table.mp hr₁).1
    refine (hkeep.and meets_viewDeleteById_gone).weaken (fun w hw => ⟨⟨hw.1, ?_⟩, trivial⟩)
      (fun _ w hw => ?_) (fun _ _ hw => hw.1.1.1.1)
    · intro r' hr' hpath
      rw [hw.2.eq hr' (beq_iff_eq.mpr hpath)]
    · obtain ⟨⟨⟨hheld, hdata⟩, hid⟩, hgone⟩ := hw
      exact ⟨hheld, fun r' hr' hpath => hgone r' hr' (hid r' hr' hpath), hdata⟩

/-- The quota goes last. -/
theorem meets_deleteQuota_cleared :
    VmsMeets (fun c => Held conf name q c₀ c ∧ Cleared keeping q c) (deleteById env .quota q.id)
      (fun _ c => Retryable keeping conf name q c₀ c ∧ Cleared keeping q c ∧ q ∉ c.table .quota)
      (Retryable keeping conf name q c₀) := by
  have hkeep : Meets (onVms fun c => Base conf name q c₀ c ∧ Cleared keeping q c)
      (deleteById env .quota q.id)
      (fun _ => onVms fun c => Base conf name q c₀ c ∧ Cleared keeping q c)
      (raised fun c => Base conf name q c₀ c ∧ Cleared keeping q c) :=
    meets_deleteById fun c r hc _ _ => ⟨hc.1.eraseQuota _, hc.2.set (by decide) (by decide)⟩
  refine (hkeep.and (meets_deleteById_gone fun _ _ => rfl)).weaken
    (fun w hw => ⟨⟨hw.1.1, hw.2⟩, trivial⟩) (fun _ w hw => ?_) (fun _ w hw => ?_)
  · obtain ⟨⟨hb, hc⟩, hgone⟩ := hw
    exact ⟨⟨hb, fun _ => hc⟩, hc, fun hmem => hgone q hmem rfl⟩
  · exact ⟨hw.1.1.1, fun _ => hw.1.1.2⟩

/-- **One attempt**, from whatever earlier ones left. The world is in `L` when the data
are deleted. -/
theorem meets_nfsDeleteVolume_retryable {L : World → Prop} {volumeId : String}
    (hname : normalizeVolumeId volumeId = name) (hq : quotaByName name q = true)
    (hstream : Keeps L (ensureSnapshotStreamDeleted env fun r => r.name == "strm-" ++ name))
    (hrequest : ∀ {α : Type} (f : Cluster → α), Keeps L (request env (readVms f)))
    (hdata : Meets (fun w => onVms (Held conf name q c₀) w ∧ L w) (deleteData env conf q)
      (fun _ => onVms fun c =>
        Held conf name q c₀ c ∧ (Gone q.path q.tenantId c ∨ HasSnapshot keeping c))
      (fun _ => onVms (Held conf name q c₀))) :
    Meets (fun w => onVms (Retryable keeping conf name q c₀) w ∧ L w)
      (nfsDeleteVolume env conf volumeId)
      (fun _ => onVms fun c =>
        Retryable keeping conf name q c₀ c ∧ Cleared keeping q c ∧ q ∉ c.table .quota)
      (fun _ => onVms (Retryable keeping conf name q c₀)) := by
  unfold nfsDeleteVolume
  rw [hname]
  refine .bind (((meets_ensureSnapshotStreamDeleted streamSafe_retryable).and hstream).raise
    (fun _ _ hw => hw.1.1)) fun _ => ?_
  refine .bind ((meets_one.and (keeps_one_of_reads hrequest)).raise fun _ _ hw => hw.1.1)
    fun found => ?_
  cases found with
  | none =>
    refine .pure fun w hw => ?_
    have hgone : q ∉ w.vms.table .quota := hw.1.2.not_mem hq
    exact ⟨hw.1.1, hw.1.1.2 hgone, hgone⟩
  | some quota =>
    refine .assuming (p := quota = q)
      (fun w hw => hw.1.1.1.quota quota hw.1.2.mem.1 hw.1.2.mem.2) ?_
    rintro rfl
    have hheld : ∀ w : World, onVms (Held conf name quota c₀) w →
        onVms (Retryable keeping conf name quota c₀) w := fun _ hw => Held.retryable hw
    refine .bind (Q := fun _ w => onVms (Held conf name quota c₀) w ∧ L w) ?_ fun snaps => ?_
    · unfold blockingSnapshots
      split
      next => exact .pure fun w hw => ⟨⟨hw.1.1.1, hw.1.2.mem.1⟩, hw.2⟩
      next =>
        exact ((meets_list (J := Held conf name quota c₀)).and (hrequest _)).weaken
          (fun w hw => ⟨⟨hw.1.1.1, hw.1.2.mem.1⟩, hw.2⟩) (fun _ _ hw => ⟨hw.1.1, hw.2⟩)
          (fun _ w hw => hheld w hw.1.1)
    refine .bind (Q := fun _ w => onVms (Held conf name quota c₀) w ∧ L w)
      (.assertThat (fun _ _ hw => hw) fun _ w hw => hheld w hw.1) fun _ => ?_
    refine .bind (hdata.raise fun _ w hw => hheld w hw) fun _ => ?_
    exact .bind (meets_deleteView_cleared.raise fun _ w hw => hheld w hw)
      fun _ => meets_deleteQuota_cleared

end Attempt

def siblingCluster : Cluster :=
  let c := Cluster.fresh ⟨5, 0, 0⟩
  let c := c.insert .quota { id := 1, path := "/k8s/pvc-1", tenantId := "1" }
  let c := c.insert .view
    { id := 1, path := "/k8s/pvc-1", tenantId := "1", policy := "default", protocols := ["NFS"] }
  let c := c.insert .policy { id := 1, name := "deletion", tenantId := "1" }
  let c := c.insert .snapshot { id := 1, name := "snap", path := "/k8s/pvc-10/", tenantId := "1" }
  { c with dirs := [⟨"1", ["k8s", "pvc-1"]⟩, ⟨"1", ["k8s", "pvc-10"]⟩] }

def localDeletion : Conf where
  dontUseTrashApi := true
  deletionViewPolicy := "deletion"
  deletionVipPool := ""
  useLocalIpForMount := "10.0.0.1"
  deletionMountOptions := []

def notEmptied : Env :=
  { Env.steady with host := fun n => if n = 9 then .failed .dirNotEmpty else .answered }

end VastCsi.Csi
