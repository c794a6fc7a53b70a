import VastCsi.Csi.BlockAttach
import VastCsi.Csi.DeleteRetries

/-!
# Deleting the backend volume of an ephemeral volume

Kubernetes never calls the controller for an inline volume, so `_process_meta` does. The unpublish
of the NFS node holds the lock of the volume id, and deletion through a local mount takes the same
lock: it always aborts here, and only the trash API can delete the data
(`meets_deleteData_locked`).
-/

namespace VastCsi.Csi

open Lib Vms Cluster

def ensureUnmap (env : Env) (volumeId : Nat) (hostName : String) : Call Unit := do
  match oneOf .mapping (← request env (readVms (mappingsOn · volumeId hostName))) with
  | .error e => throw e
  | .ok none => pure ()
  | .ok (some mapping) =>
    request env (modifyVms (dropPair · mapping.volumeId mapping.hostId))
    waitTask env

/-- Delete the node's host when nothing is mapped to it; the mappings come with the host. -/
def pruneHost (env : Env) (conf : AttachConf) (nodeId tenantName : String) : Call Unit := do
  lockResource (lockKey nodeId tenantName) (defaultLockMessage (lockKey nodeId tenantName))
  let (hosts, mapped) ← request env (readVms fun c =>
    (hostsNamed c (conf.hostName nodeId) tenantName, fun h : Host => mappingsTo c h.id))
  match oneOf .host hosts with
  | .error e => throw e
  | .ok none => pure ()
  | .ok (some host) =>
    if (mapped host).isEmpty && Text.startsWith host.nqn conf.blockNqnPrefix then
      deleteById env .host host.id
    else pure ()

def controllerUnpublish (env : Env) (conf : AttachConf) (nodeId volumeId : String) : Call Unit := do
  match ← one env .volume (fun r => Text.endsWith r.name (normalizeVolumeId volumeId)) with
  | none => pure ()
  | some volume =>
    ensureUnmap env volume.id (conf.hostName nodeId)
    if conf.autoPrune then pruneHost env conf nodeId volume.tenantName else pure ()

inductive Backend where
  | nfs (conf : Conf) (quota : Quota)
  | block (conf : AttachConf) (nodeId : String) (volume : Volume)

def Backend.cleanUp (env : Env) (volumeId : String) : Backend → Call Unit
  | .nfs conf _ => fun w =>
    nfsDeleteVolume env conf volumeId
      { w with locks := [(volumeId, defaultLockMessage volumeId)], mounted := false }
  | .block conf nodeId _ => fun w =>
    (do
      controllerUnpublish env conf nodeId volumeId
      blockDeleteVolume env volumeId : Call Unit) (released w)

/-- The volume is there under the id, and no other one has a name that ends in it. -/
def Backend.Only (volumeId : String) (c : Cluster) : Backend → Prop
  | .nfs _ q => q ∈ c.table .quota ∧ Text.basename '/' q.path = volumeId ∧
    ∀ r ∈ c.table .quota, quotaByName (normalizeVolumeId volumeId) r = true ↔ r = q
  | .block _ _ v => v ∈ c.table .volume ∧
    ∀ r ∈ c.table .volume, Text.endsWith r.name (normalizeVolumeId volumeId) = true ↔ r = v

/-- The volume is deleted: quota, view and data, or the volume and its mappings. -/
def Backend.Deleted (c : Cluster) : Backend → Prop
  | .nfs _ q => q ∉ c.table .quota ∧ (∀ r ∈ c.table .view, r.path ≠ q.path) ∧
    Gone q.path q.tenantId c
  | .block _ _ v => v ∉ c.table .volume ∧ ∀ m ∈ c.table .mapping, m.volumeId ≠ v.id

section Locked

variable {env : Env} {key : String} {L : List (String × String) → Prop}

/-- What only looks at the locks is kept by a request. -/
theorem keeps_request_locks {α : Type} {x : Call α} (hx : Keeps (fun w => L w.locks) x) :
    Keeps (fun w => L w.locks) (request env x) :=
  meets_request_world (fun _ hw => hw) (fun _ hw => hw) (fun _ _ hw => hw) hx

theorem keeps_readVms_locks {α : Type} (f : Cluster → α) :
    Keeps (fun w => L w.locks) (request env (readVms f)) :=
  keeps_request_locks fun _ hw => hw

theorem keeps_deleteById_locks {k : Kind} {id : Nat} {cascade : Row k → Cluster → Cluster} :
    Keeps (fun w => L w.locks) (deleteById env k id cascade) := by
  refine .tryCatch (F := fun _ w => L w.locks) (keeps_request_locks fun w hw => ?_) fun e => ?_
  · unfold dropRow
    cases w.vms.find k id with
    | none => exact hw
    | some _ => exact hw
  · split
    next => exact .ret
    next => exact .err

theorem keeps_stopAndWait_locks {q : Query .stream} {id : Nat} :
    Keeps (fun w => L w.locks) (stopAndWait env q id) := by
  refine .tryCatch (F := fun _ w => L w.locks) ?_ fun _ => ?_
  · refine .bind (Q := fun _ w => L w.locks) (keeps_request_locks fun w hw => ?_) fun _ => ?_
    · cases w.vms.find .stream id with
      | none => exact hw
      | some _ =>
        cases env.afterStop w.calls with
        | none => exact hw
        | some _ => exact hw
    · exact .bind (keeps_request_locks .ret) fun _ => .ret
  · refine .bind (keeps_one_of_reads keeps_readVms_locks) fun found => ?_
    cases found with
    | none => exact .ret
    | some _ => exact .err

theorem keeps_ensureSnapshotStreamDeleted_locks {q : Query .stream} :
    Keeps (fun w => L w.locks) (ensureSnapshotStreamDeleted env q) := by
  refine meets_streamWalk (R := fun _ w => L w.locks)
    ((keeps_readVms_locks _).post fun ver w hw => ?_)
    ((keeps_one_of_reads keeps_readVms_locks).post fun r w hw => ?_) (fun _ _ _ _ hw => hw)
    (fun _ => keeps_stopAndWait_locks.post fun left w hw => ?_) fun _ => keeps_deleteById_locks
  · rwa [ite_self]
  · cases r <;> exact hw
  · rwa [ite_self]

theorem keeps_tryTrashApi_locks {conf : Conf} {path tenantId : String} :
    Keeps (fun w => L w.locks) (tryTrashApi env conf path tenantId) := by
  unfold tryTrashApi
  split
  next =>
    refine .tryCatch (F := fun _ w => L w.locks) (.bind (Q := fun _ w => L w.locks)
      (.bind (keeps_readVms_locks _) fun ver => ?_) fun _ => .ret)
      fun e => ?_
    · split
      next => exact .err
      next =>
        split
        next => exact .err
        next =>
          refine .tryCatch (F := fun _ w => L w.locks) (keeps_request_locks fun w hw => ?_)
            fun e => ?_
          · unfold dropFolder
            cases w.vms.trashEnabled with
            | false => exact hw
            | true =>
              cases w.vms.dirs.any fun d => d == ⟨tenantId, pathParts path⟩ with
              | false => exact hw
              | true => exact hw
          · cases e with
            | apiError s text =>
              dsimp only
              split
              next => exact .ret
              next =>
                split
                next => exact .err
                next => exact .err
            | _ => exact .err
    · split
      next => exact .ret
      next => exact .err
  next => exact .ret

def LockHeld (key : String) (locks : List (String × String)) : Prop :=
  ∃ held, locks.find? (·.1 == key) = some held

/-- A lock that is held is not taken. -/
theorem meets_lockResource_held {J : Cluster → Prop} {message : String} :
    Meets (fun w => onVms J w ∧ LockHeld key w.locks) (lockResource key message)
      (fun _ _ => False) (raised J) := by
  rintro w ⟨hw, held, hheld⟩
  unfold lockResource
  rw [hheld]
  exact ⟨hw, rfl⟩

variable {conf : Conf} {path tenantId : String} {U : Bool} {J : Cluster → Prop}

/-- Under the lock only the trash API deletes data. -/
theorem meets_deleteDataFromStorage_locked (h : DataSafe env conf path U J) :
    Meets (fun w => onVms J w ∧ LockHeld (Text.basename '/' path) w.locks)
      (deleteDataFromStorage env conf path tenantId)
      (fun _ => onVms fun c => J c ∧ Gone path tenantId c) (raised J) := by
  refine .bind ((((meets_tryTrashApi h.usable fun c hc => h.tree c _ _ hc rfl).and
    meets_tryTrashApi_removed).and keeps_tryTrashApi_locks).weaken
    (fun _ hw => ⟨⟨hw.1, trivial⟩, hw.2⟩) (fun _ _ hw => hw) (fun _ _ hw => hw.1.1)) fun b => ?_
  cases b with
  | true => exact .pure fun _ hw => ⟨hw.1.1.1, hw.1.2 rfl⟩
  | false =>
    refine .bind (meets_lockResource_held.pre (fun _ hw => ⟨hw.1.1.1, hw.2⟩)) fun _ => ?_
    exact fun _ hw => hw.elim

/-- A refusal is no `OSError`, so the snapshots are not asked for. -/
theorem meets_deleteData_locked {q : Quota} (h : DataSafe env conf q.path U J) :
    Meets (fun w => onVms J w ∧ LockHeld (Text.basename '/' q.path) w.locks)
      (deleteData env conf q) (fun _ => onVms fun c => J c ∧ Gone q.path q.tenantId c)
      (fun _ => onVms J) := by
  refine .tryCatch (meets_deleteDataFromStorage_locked h) fun e => ?_
  split
  next text => exact fun _ hw => absurd hw.2 (by simp [Err.isOSError])
  next => exact .throw fun _ hw => hw.1

end Locked

/-- What NFS attempts keep: the quota is only gone when the rest is. -/
abbrev NfsHeld (conf : Conf) (volumeId : String) (q : Quota) (c₀ c : Cluster) : Prop :=
  Retryable (fun _ => False) conf (normalizeVolumeId volumeId) q c₀ c

variable {volumeId : String}

theorem meets_nfs_cleanUp {env : Env} {conf : Conf} {q : Quota} {c₀ : Cluster}
    (hbase : Text.basename '/' q.path = volumeId)
    (hq : quotaByName (normalizeVolumeId volumeId) q = true) :
    VmsMeets (NfsHeld conf volumeId q c₀) (Backend.cleanUp env volumeId (.nfs conf q))
      (fun _ c => NfsHeld conf volumeId q c₀ c ∧ (Backend.nfs conf q).Deleted c)
      (NfsHeld conf volumeId q c₀) := by
  have hdata : Meets (fun w => onVms (Held conf (normalizeVolumeId volumeId) q c₀) w ∧
      LockHeld (Text.basename '/' q.path) w.locks) (deleteData env conf q)
      (fun _ => onVms fun c => Held conf (normalizeVolumeId volumeId) q c₀ c ∧
        (Gone q.path q.tenantId c ∨ HasSnapshot (fun _ => False) c))
      (fun _ => onVms (Held conf (normalizeVolumeId volumeId) q c₀)) :=
    (meets_deleteData_locked dataSafe_held).post (fun _ _ hw => ⟨hw.1, .inl hw.2⟩)
  have hdelete := meets_nfsDeleteVolume_retryable
    (L := fun w => LockHeld (Text.basename '/' q.path) w.locks) rfl hq
    keeps_ensureSnapshotStreamDeleted_locks keeps_readVms_locks hdata
  intro w hw
  refine hdelete.post (fun _ w hw => ?_) _ ⟨hw, ?_⟩
  · obtain ⟨hheld, ⟨hview, hgone | ⟨_, _, hfalse⟩⟩, hquota⟩ := hw
    · exact ⟨hheld, hquota, hview, hgone⟩
    · exact hfalse.elim
  · rw [hbase]
    exact ⟨_, by rw [List.find?_cons_of_pos (by simp)]⟩

/-- What block attempts keep: the volume is only gone with its mappings. -/
structure BlockHeld (volumeId : String) (v : Volume) (c₀ c : Cluster) : Prop where
  ver : c.swVersion = c₀.swVersion
  only : ∀ r ∈ c.table .volume, Text.endsWith r.name (normalizeVolumeId volumeId) = true → r = v
  mapped : v ∉ c.table .volume → ∀ m ∈ c.table .mapping, m.volumeId ≠ v.id

section Block

variable {env : Env} {volumeId : String} {v : Volume} {c₀ : Cluster}

variable {c : Cluster}

/-- A change of the rows of another kind, or of the directories. -/
theorem BlockHeld.set (h : BlockHeld volumeId v c₀ c) {k : Kind} {t : Table (Row k) (rowId k)}
    (hvolume : k ≠ .volume) (hmapping : k ≠ .mapping) (ds : List Dir) :
    BlockHeld volumeId v c₀ { c.set k t with dirs := ds } where
  ver := h.ver
  only := by
    show ∀ r ∈ (c.set k t).table .volume, _
    rw [set_table_ne _ _ (Ne.symm hvolume)]
    exact h.only
  mapped := by
    show v ∉ (c.set k t).table .volume → ∀ m ∈ (c.set k t).table .mapping, _
    rw [set_table_ne _ _ (Ne.symm hvolume), set_table_ne _ _ (Ne.symm hmapping)]
    exact h.mapped

/-- Mappings go. -/
theorem BlockHeld.dropMappings (h : BlockHeld volumeId v c₀ c) (p : Mapping → Bool) :
    BlockHeld volumeId v c₀ (c.dropRows .mapping p) where
  ver := h.ver
  only := by
    rw [dropRows_table_ne (by decide)]
    exact h.only
  mapped := by
    rw [dropRows_table_ne (by decide)]
    exact fun hgone m hm => h.mapped hgone m (mem_dropRows.mp hm).1

/-- The volume goes, with its mappings. -/
theorem BlockHeld.unmapAll (h : BlockHeld volumeId v c₀ c) {r : Volume} (hid : r.id = v.id) :
    BlockHeld volumeId v c₀ (unmapAll r (c.erase .volume v.id)) where
  ver := h.ver
  only := by
    rw [Vms.unmapAll, dropRows_table_ne (by decide)]
    exact fun r hr => h.only r (mem_erase_table.mp hr).1
  mapped := by
    intro _ m hm heq
    have hother := (mem_dropRows.mp hm).2
    rw [heq, hid, beq_self_eq_true] at hother
    cases hother

/-- Unmapping takes mappings only. -/
theorem meets_ensureUnmap {id : Nat} {hostName : String} :
    Meets (onVms (BlockHeld volumeId v c₀)) (ensureUnmap env id hostName)
      (fun _ => onVms (BlockHeld volumeId v c₀)) (raised (BlockHeld volumeId v c₀)) := by
  refine .bind (Q := fun _ => onVms (BlockHeld volumeId v c₀))
    (meets_request (fun _ _ hw => hw) fun _ hw => hw) fun mappings => ?_
  split
  next e hone =>
    refine .throw fun w hw => ⟨hw, ?_⟩
    match mappings with
    | [] => cases hone
    | [_] => cases hone
    | _ :: _ :: _ => cases hone; rfl
  next => exact .ret
  next mapping _ =>
    refine .bind (Q := fun _ => onVms (BlockHeld volumeId v c₀))
      (meets_request (fun _ _ hw => hw) fun w hw => BlockHeld.dropMappings hw _) fun _ => ?_
    exact meets_request (fun _ _ hw => hw) .ret

theorem meets_pruneHost {conf : AttachConf} {nodeId tenantName : String} :
    Keeps (onVms (BlockHeld volumeId v c₀)) (pruneHost env conf nodeId tenantName) := by
  refine .bind meets_lockResource fun _ => ?_
  refine .bind (Q := fun _ => onVms (BlockHeld volumeId v c₀))
    ((meets_request (fun _ _ hw => hw) fun _ hw => hw).raiseLeft)
      fun (hosts, mapped) => ?_
  dsimp only
  split
  next => exact .err
  next => exact .ret
  next host _ =>
    split
    next =>
      have hdelete : Meets (onVms (BlockHeld volumeId v c₀)) (deleteById env .host host.id)
          (fun _ => onVms (BlockHeld volumeId v c₀)) (raised (BlockHeld volumeId v c₀)) :=
        meets_deleteById fun c _ hc _ _ => hc.set (by decide) (by decide) c.dirs
      exact hdelete.raiseLeft
    next => exact .ret

theorem meets_controllerUnpublish {conf : AttachConf} {nodeId : String} :
    Keeps (onVms (BlockHeld volumeId v c₀)) (controllerUnpublish env conf nodeId volumeId) := by
  refine .bind ((meets_one (J := BlockHeld volumeId v c₀)).weaken (fun _ hw => hw)
    (fun _ _ hw => hw.1) (fun _ _ hw => hw.1)) fun found => ?_
  cases found with
  | none => exact .ret
  | some volume =>
    refine .bind (meets_ensureUnmap.raiseLeft) fun _ => ?_
    split
    next => exact meets_pruneHost
    next => exact .ret

theorem meets_blockDeleteVolume_held
    (hv : Text.endsWith v.name (normalizeVolumeId volumeId) = true) :
    VmsMeets (BlockHeld volumeId v c₀) (blockDeleteVolume env volumeId)
      (fun _ c => BlockHeld volumeId v c₀ c ∧ v ∉ c.table .volume)
      (BlockHeld volumeId v c₀) := by
  have hstreams : StreamSafe c₀.swVersion
      (fun r => Text.contains r.name (normalizeVolumeId volumeId)) (BlockHeld volumeId v c₀) :=
    streamSafe_of_blind (fun _ h => h.ver) (fun _ _ => rfl)
      fun _ _ ds h => h.set (by decide) (by decide) ds
  refine .bind ((meets_ensureSnapshotStreamDeleted hstreams).raiseLeft) fun _ => ?_
  refine .bind ((meets_list (J := BlockHeld volumeId v c₀)).weaken (fun _ hw => hw)
    (fun _ _ hw => hw.1) (fun _ _ hw => hw.1)) fun snaps => ?_
  cases snaps with
  | cons _ _ => exact .err
  | nil =>
    refine .bind ((meets_one (J := BlockHeld volumeId v c₀)).raiseLeft)
      fun found => ?_
    cases found with
    | none => exact .pure fun _ hw => ⟨hw.1, hw.2.not_mem hv⟩
    | some r =>
      refine .assuming (p := r = v) (fun _ hw => hw.1.only r hw.2.mem.1 hw.2.mem.2) ?_
      rintro rfl
      have hdelete : Meets (onVms (BlockHeld volumeId r c₀)) (volumeDeleteById env r.id)
          (fun _ => onVms (BlockHeld volumeId r c₀)) (raised (BlockHeld volumeId r c₀)) :=
        meets_volumeDeleteById (fun _ h => h.ver) fun _ _ hc _ hid => hc.unmapAll hid
      exact (hdelete.and meets_volumeDeleteById_gone).weaken (fun _ hw => ⟨hw.1, trivial⟩)
        (fun _ _ hw => ⟨hw.1, fun hmem => hw.2 r hmem rfl⟩) (fun _ _ hw => hw.1.1)

end Block

def Backend.Kept (volumeId : String) (c₀ c : Cluster) : Backend → Prop
  | .nfs conf q => NfsHeld conf volumeId q c₀ c
  | .block _ _ v => BlockHeld volumeId v c₀ c

theorem Backend.kept_of_only {backend : Backend} {c : Cluster} (h : backend.Only volumeId c) :
    backend.Kept volumeId c c := by
  cases backend with
  | nfs conf q =>
    exact ⟨⟨rfl, rfl, fun r hr => (h.2.2 r hr).mp, rfl, fun h => h, fun _ => rfl⟩,
      fun hnot => absurd h.1 hnot⟩
  | block conf nodeId v => exact ⟨rfl, fun r hr => (h.2 r hr).mp, fun hnot => absurd h.1 hnot⟩

/-- **An attempt to delete the backend volume**: when it returns, the volume is deleted. -/
theorem meets_cleanUpVolume {backend : Backend} {env : Env} {c₀ : Cluster}
    (h : backend.Only volumeId c₀) :
    VmsMeets (backend.Kept volumeId c₀ ·) (backend.cleanUp env volumeId)
      (fun _ c => backend.Kept volumeId c₀ c ∧ backend.Deleted c)
      (backend.Kept volumeId c₀ ·) := by
  cases backend with
  | nfs conf q => exact meets_nfs_cleanUp h.2.1 ((h.2.2 q h.1).mpr rfl)
  | block conf nodeId v =>
    have hdelete : VmsMeets (BlockHeld volumeId v c₀) (do
          controllerUnpublish env conf nodeId volumeId
          blockDeleteVolume env volumeId)
        (fun _ c => BlockHeld volumeId v c₀ c ∧ v ∉ c.table .volume)
        (BlockHeld volumeId v c₀) :=
      .bind meets_controllerUnpublish fun _ => meets_blockDeleteVolume_held ((h.2 v h.1).mpr rfl)
    intro w hw
    exact hdelete.post (fun _ _ hw => ⟨hw.1, hw.2, hw.1.mapped hw.2⟩) (released w) hw

end VastCsi.Csi
