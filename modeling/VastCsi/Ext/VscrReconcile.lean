import VastCsi.Ext.Vscr
import VastCsi.Ext.VvrRules

/-!
# The reconcile of a VastStorageClassReplication

The controller works as the one of a `VastVolumeReplication` does, on an object
with the same fields: the steps that are the same are taken from there. What
differs is the order (a resync and unresolved peers come first), the
directories of subsystem-level block replication, a protected path that has
disappeared (it is only struck from the status; the next reconcile makes it
again), and the groups, whose pass is `syncVGRReplicationStates`.
-/

namespace VastCsi.Ext.Vscr

open Lib CsiAddons
open VastCsi.Ext.Vvr (Own Rec external getMem modifyMem modifyStatus writeBack Careful SameSpec
  FinalizerFree keeps_external keeps_getMem_bind meets_getMem keeps_modifyStatus)

/-- The fields of the object are those of a `VastVolumeReplication`. -/
abbrev Resource := Vvr.VastVolumeReplication

def vgrNameForSC (m : Resource) (scName : String) : String := nameForSC m.name scName

def passView (m : Resource) : VastStorageClassReplication where
  name := m.name
  primaryStorageClass := m.primaryStorageClass
  protectionTopology := m.protectionTopology

/-- What the outside decides during one reconcile, with the parts of the spec
that only the directories depend on. -/
structure Env extends Vvr.Env where
  subsystemLevel : Bool := false
  /-- `targetExportedDir` of a topology entry, by its index. -/
  targetExportedDir : Nat → String := fun _ => ""

section Steps

variable (env : Env)

def recordStatus (primaryChanged : Bool) : Rec Unit :=
  Vvr.recordStatusOf "VastStorageClassReplication" env.toEnv primaryChanged

def clearResync : Rec Unit := do
  modifyMem fun m => { m with resync := false }
  withContext "failed to clear Resync on VastStorageClassReplication"
    (writeBack env.fates fun _ v => { v with resync := false })

def ensureResync : Rec Unit := do
  let m ← getMem
  let vgrName := vgrNameForSC m m.primaryStorageClass
  match ← withContext "ensureResync: failed to get VolumeGroupReplication"
    (getObject env.fates vgrName) with
  | none => clearResync env
  | some _ => do
    withContext "ensureResync: failed to patch replicationState"
      (patchState env.fates vgrName .resync)
    external env.toEnv "ensureResync: failed to touch constellation VRCs"
    withContext "ensureResync: failed to clear Resync flag" (clearResync env)

def resolvePeers : Rec Unit := Vvr.resolvePeersOf "VastStorageClassReplication" env.toEnv

def setDir (mapping : List (String × String)) (scName dir : String) : List (String × String) :=
  mapping.map fun e => if e.1 == scName then (e.1, dir) else e

/-- The directories of `targetExportedDir` over those of the primary. -/
def overrideDirs (primaryDir : String) (dirOf : Nat → String) :
    Nat → List ReplicationTarget → List (String × String) → Except KErr (List (String × String))
  | _, [], mapping => .ok mapping
  | i, t :: ts, mapping =>
    if dirOf i == "" then overrideDirs primaryDir dirOf (i + 1) ts mapping
    else
      match (mapping.lookup t.destination).filter fun d => d != primaryDir && d != dirOf i with
      | some existing =>
        .error ⟨[.other], s!"protectionTopology[{i}]: conflicting targetExportedDir for " ++
          s!"StorageClass {t.destination.quote}: {existing.quote} vs {(dirOf i).quote}"⟩
      | none => overrideDirs primaryDir dirOf (i + 1) ts (setDir mapping t.destination (dirOf i))

/-- Every class has the primary's directory, unless the topology says where. -/
def subsystemDirs (m : Resource) : Rec Unit := do
  external env.toEnv s!"failed to compute PpathDir for primary StorageClass {m.primaryStorageClass}"
  let primaryDir := env.predictDir m.primaryStorageClass
  match overrideDirs primaryDir env.targetExportedDir 0 m.protectionTopology
      (m.storageClasses.map fun scName => (scName, primaryDir)) with
  | .error e => throw e
  | .ok mapping => Vvr.storeDirsOf "VastStorageClassReplication" env.toEnv mapping

def ensurePpathDirs : Rec Unit := do
  let m ← getMem
  if m.status.ppathDirMapping.isEmpty then do
    external env.toEnv s!"failed to get primary StorageClass {m.primaryStorageClass}"
    if env.subsystemLevel then subsystemDirs env m
    else Vvr.predictedDirsOf "VastStorageClassReplication" env.toEnv m
  else pure ()

def ensureTenants : Rec Unit := Vvr.ensureTenantsOf "VastStorageClassReplication" env.toEnv

/-- The protected path of the status is still active; one that is gone is
struck from the status. -/
def verifyPpath : Rec Unit := do
  Vvr.primaryRest
  external env.toEnv "ppath is not active"
  if env.ppathMissing then Vvr.losePpathOf "VastStorageClassReplication" env.toEnv else pure ()

def createPpath : Rec Unit := Vvr.createPpathOf "VastStorageClassReplication" env.toEnv

def ensurePpath : Rec Unit := do
  if (← getMem).status.ppathName == "" then createPpath env else verifyPpath env

def newGroup (m : Resource) (scName : String) : Replication := ⟨Vvr.initialState m scName, .unset⟩

/-- `ensureVGR`: whether the group was created. Only that of the primary class
is driven. -/
def ensureVGR (m : Resource) (scName : String) : Rec Bool := do
  external env.toEnv s!"failed to ensure the replication classes of SC {scName}"
  let created ← withContext s!"failed to ensure VolumeGroupReplication {vgrNameForSC m scName}"
    (ensureObject env.fates (vgrNameForSC m scName) (newGroup m scName))
  if created then pure true
  else if scName == m.primaryStorageClass then do
    ensureReplicationState env.fates (vgrNameForSC m scName) .primary
    pure false
  else pure false

/-- One turn of the loop, with the wait for the VastReplicationContent of a new
group that is not the last; a timeout is logged. -/
def ensureVGRAndWait (m : Resource) (last : Option String) (scName : String) : Rec Unit := do
  let created ← withContext s!"SC {scName}" (ensureVGR env m scName)
  if created && last != some scName then do
    let _ ← attempt (external env.toEnv "proceeding without confirmed VRC")
    pure ()
  else pure ()

/-- The loop over the classes, primary first, and the split-brain pass. -/
def ensureVGRs : Rec Unit := do
  let m ← getMem
  let allSCs := allStorageClassesPrimaryFirst m.primaryStorageClass m.protectionTopology
  let errs ← collectErrors (ensureVGRAndWait env m allSCs.getLast?) allSCs
  let syncErr ← attempt (syncVGRReplicationStates env.fates (passView m))
  raiseDeferred (errs ++ syncErr.toList)

def reconcileVGRs : Rec Unit := do
  ensurePpathDirs env
  ensureTenants env
  ensurePpath env
  ensureVGRs env

def reconcileLive : Rec Unit := do
  external env.toEnv "failed to build VMS REST clients"
  external env.toEnv "failed to fetch StorageClass objects"
  Vvr.ensureFinalizer env.toEnv
  let primaryChanged ← Vvr.ensurePrimaryStorageClass
  Vvr.backfillLabels env.toEnv primaryChanged
  recordStatus env primaryChanged
  let m ← getMem
  if m.resync then ensureResync env
  else if hasUnresolvedPeers m.protectionTopology then
    -- the update of the spec triggers the next reconcile
    resolvePeers env
  else reconcileVGRs env

def reconcileSyncStatus (err : Option KErr) : Rec Unit :=
  Vvr.reconcileSyncStatusOf "VastStorageClassReplication" env.toEnv err

/-- `Reconcile`; `handleDeletion` is what an object under deletion gets. -/
def reconcile (handleDeletion : Rec Unit) : Rec Unit := do
  if ← Vvr.fetch env.toEnv then
    deferring (do if (← getMem).deleting then handleDeletion else reconcileLive env)
      (reconcileSyncStatus env)
  else pure ()

end Steps

section Careful

variable {I : World Own → Prop} {env : Env}

variable {m : Resource}

/-- A class is given a directory, the classes stay. -/
theorem keys_setDir {mapping : List (String × String)} {scName dir : String} :
    (setDir mapping scName dir).map Prod.fst = mapping.map Prod.fst := by
  rw [setDir, List.map_map]
  refine List.map_congr_left fun e _ => ?_
  show (if e.1 == scName then (e.1, dir) else e).1 = e.1
  split
  next => rfl
  next => rfl

theorem keys_overrideDirs {primaryDir : String} {dirOf : Nat → String} :
    ∀ {i : Nat} {ts : List ReplicationTarget} {mapping mapping' : List (String × String)},
      overrideDirs primaryDir dirOf i ts mapping = .ok mapping' →
        mapping'.map Prod.fst = mapping.map Prod.fst
  | _, [], _, _, h => by
    cases h
    rfl
  | i, t :: ts, mapping, mapping', h => by
    rw [overrideDirs] at h
    split at h
    next => exact keys_overrideDirs h
    next =>
      split at h
      next => cases h
      next => exact (keys_overrideDirs h).trans keys_setDir

theorem meets_subsystemDirs (hI : Careful I) :
    Meets (fun w => I w ∧ m = w.own.mem) (subsystemDirs env m) (fun _ => I) (fun _ => I) := by
  have ht := Vvr.tickFree_known (m := m) hI.tick
  refine .bind ((keeps_external ht).raiseLeft) fun _ => ?_
  dsimp only
  split
  next e _ => exact .throw fun _ hw => hw.1
  next mapping hmapping =>
    exact Vvr.meets_storeDirs hI ((keys_overrideDirs hmapping).trans Vvr.keys_map)

theorem keeps_ensurePpathDirs (hI : Careful I) : Keeps I (ensurePpathDirs env) := by
  refine Vvr.keeps_getMem_known fun m => ?_
  split
  next =>
    refine .bind ((keeps_external (Vvr.tickFree_known hI.tick)).raiseLeft)
      fun _ => ?_
    split
    next => exact meets_subsystemDirs hI
    next => exact Vvr.meets_predictedDirs hI
  next => exact .pure fun _ hw => hw.1

/-- Whatever a turn is asked to keep, it keeps when creation and driving do. -/
theorem keeps_turn {last : Option String} {scName : String} (ht : TickFree I)
    (hnew : ∀ w, I w → w.objs (vgrNameForSC m scName) = none →
      I { w with objs :=
        Function.update w.objs (vgrNameForSC m scName) (some (newGroup m scName)) })
    (hdrive : ∀ w, I w → scName = m.primaryStorageClass →
      I { w with objs := setSpec w.objs (vgrNameForSC m scName) .primary }) :
    Keeps I (ensureVGRAndWait env m last scName) := by
  have hvgr : Keeps I (ensureVGR env m scName) := by
    refine .bind (keeps_external ht) fun _ => ?_
    refine .bind (meets_withContext (keeps_ensureObject ht hnew)) fun created => ?_
    split
    next => exact keeps_pure _
    split
    next hp =>
      refine .bind (keeps_ensureState ht fun w _ hw _ _ => ?_) fun _ => keeps_pure _
      exact hdrive w hw (beq_iff_eq.mp hp)
    next => exact keeps_pure _
  refine .bind (meets_withContext hvgr) fun created => ?_
  split
  next => exact .bind (.attempt (keeps_external ht)) fun _ => keeps_pure _
  next => exact keeps_pure _

end Careful

end VastCsi.Ext.Vscr
