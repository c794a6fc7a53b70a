import VastCsi.Ext.CsiAddons

/-!
# The reconcile of a VastVolumeReplication

`Reconcile` works on a copy of the object (`mem`), which the deferred `reconcileSyncStatus` writes
after a failure as well; so the copy is part of the state. The switch to another
`spec.primaryStorageClass` is seen by comparing with `status.currentPrimaryStorageClass`, once,
and handed on as `primaryChanged`.

Work on the VAST clusters that leaves the Kubernetes objects alone is one call each, with its
result in `Env`. The error that `reconcile` raises is the one `Reconcile` computes; the caller
turns it into a requeue.
-/

namespace VastCsi.Ext.Vvr

open Lib CsiAddons

inductive SyncStatus where
  | unset | completed | inProgress | unreachable | invalid | deleting | failed
  deriving DecidableEq, Repr

structure Status where
  lastFailoverType : String := ""
  currentPrimaryStorageClass : String := ""
  storageClassesPreview : String := ""
  ppathDirMapping : List (String × String) := []
  tenantMapping : List (String × String) := []
  ppathName : String := ""
  syncStatus : SyncStatus := .unset
  deriving DecidableEq, Repr

structure VastVolumeReplication where
  name : String
  deleting : Bool := false
  finalizer : Bool := true
  primaryStorageClass : String
  protectionTopology : List ReplicationTarget
  failoverType : String := "ungracefulFailover"
  resync : Bool := false
  status : Status := {}
  deriving DecidableEq, Repr

namespace VastVolumeReplication

variable (vvr : VastVolumeReplication)

def storageClasses : List String := allStorageClasses vvr.protectionTopology

def vrNameForSC (scName : String) : String := nameForSC vvr.name scName

def primaryVR : String := vvr.vrNameForSC vvr.primaryStorageClass

end VastVolumeReplication

def displayable (l : List String) : String :=
  let quoted := ", ".intercalate ((l.take 2).map fun s => "\"" ++ s ++ "\"")
  if l.length > 2 then s!"[{quoted} ... +{l.length - 2} more]" else s!"[{quoted}]"

/-- The stored object, `none` once it is gone, and the reconcile's copy. -/
structure Own where
  stored : Option VastVolumeReplication
  mem : VastVolumeReplication

abbrev Rec := Proc Own

structure Env where
  fates : Fates := steady
  /-- The role of the protected path on the cluster of a class. -/
  role : String → String := fun _ => ""
  /-- Whether the protected path of the status is no longer there. -/
  ppathMissing : Bool := false
  newPpath : String := "ppath"
  predictDir : String → String := fun scName => "/" ++ scName
  tenantOf : String → String := fun _ => "default"
  peerOf : ReplicationTarget → String := fun _ => "peer"
  validation : Option KErr := none
  applyExistingPVCs : Bool := false
  /-- VolumeReplications that stay for a while after they are deleted. -/
  lingers : String → Bool := fun _ => false
  /-- VastReplicationContents that are left. -/
  contentsLeft : Nat := 0

def getMem : Rec VastVolumeReplication := fun w => .ok w.own.mem w

def modifyMem (f : VastVolumeReplication → VastVolumeReplication) : Rec Unit :=
  fun w => .ok () { w with own := { w.own with mem := f w.own.mem } }

def modifyStatus (f : Status → Status) : Rec Unit :=
  modifyMem fun m => { m with status := f m.status }

/-- Write a part of the copy to the stored object. -/
def writeBack (fates : Fates)
    (f : VastVolumeReplication → VastVolumeReplication → VastVolumeReplication) : Rec Unit :=
  api fates fun w =>
    match w.own.stored with
    | none => .error (notFound w.own.mem.name) w
    | some v => .ok () { w with own := { w.own with stored := some (f w.own.mem v) } }

/-- Work on a VAST cluster or an object that is not modelled. -/
def external (env : Env) (context : String) : Rec Unit :=
  withContext context (api env.fates (pure ()))

/-- `updateStatus` of either controller. -/
def updateStatusOf (kind : String) (env : Env) : Rec Unit :=
  withContext s!"failed to update {kind} status"
    (writeBack env.fates fun m v => { v with status := m.status })

/-- `RemoveFinalizer`: an object under deletion is gone with it. -/
def removeFinalizer (env : Env) : Rec Unit := do
  modifyMem fun m => { m with finalizer := false }
  api env.fates fun w =>
    match w.own.stored with
    | none => .ok () w
    | some v =>
      .ok () { w with own :=
        { w.own with stored := if v.deleting then none else some { v with finalizer := false } } }

/-- `EnsureFinalizer`, and `validateOnce` when it was added. -/
def ensureFinalizer (env : Env) : Rec Unit := do
  if (← getMem).finalizer then pure ()
  else do
    modifyMem fun m => { m with finalizer := true }
    withContext "failed to add finalizer"
      (writeBack env.fates fun _ v => { v with finalizer := true })
    match env.validation with
    | none => pure ()
    | some e => do
      let _ ← attempt (removeFinalizer env)
      throw e

/-- `ensurePrimaryStorageClass`: whether the primary class has changed. -/
def ensurePrimaryStorageClass : Rec Bool := do
  let m ← getMem
  if m.status.currentPrimaryStorageClass == m.primaryStorageClass then pure false
  else do
    modifyStatus fun s => { s with currentPrimaryStorageClass := m.primaryStorageClass }
    pure true

def ensureStorageClassPreview : Rec Bool := do
  let m ← getMem
  let preview := displayable m.storageClasses
  if m.status.storageClassesPreview == preview then pure false
  else do
    modifyStatus fun s => { s with storageClassesPreview := preview }
    pure true

def ensureLastFailoverType : Rec Bool := do
  let m ← getMem
  if m.status.lastFailoverType == m.failoverType then pure false
  else do
    modifyStatus fun s => { s with lastFailoverType := m.failoverType }
    pure true

/-- Whether the status has to be written; the failover type is only looked at
when nothing else has changed. -/
def statusChanged (primaryChanged : Bool) : Rec Bool := do
  let previewChanged ← ensureStorageClassPreview
  if previewChanged || primaryChanged then pure true else ensureLastFailoverType

/-- The backfill of PVC labels; a failure is logged. -/
def backfillLabels (env : Env) (primaryChanged : Bool) : Rec Unit := do
  if env.applyExistingPVCs && primaryChanged then do
    let _ ← attempt (external env "PVC label backfill failed")
    pure ()
  else pure ()

/-! Steps that the two controllers have in common but for the kind in the texts of errors. -/

section Common

variable (kind : String) (env : Env)

def recordStatusOf (primaryChanged : Bool) : Rec Unit := do
  if ← statusChanged primaryChanged then updateStatusOf kind env else pure ()

def storeDirsOf (dirs : List (String × String)) : Rec Unit := do
  modifyStatus fun s => { s with ppathDirMapping := dirs }
  updateStatusOf kind env

/-- Every class has the directory that is predicted for it. -/
def predictedDirsOf (m : VastVolumeReplication) : Rec Unit := do
  forEach (fun scName => do
    external env s!"failed to get StorageClass {scName}"
    external env s!"failed to compute PpathDir for StorageClass {scName}") m.storageClasses
  storeDirsOf kind env (m.storageClasses.map fun scName => (scName, env.predictDir scName))

def ensureTenantsOf : Rec Unit := do
  let m ← getMem
  if m.status.tenantMapping.isEmpty then do
    forEach (fun scName => external env s!"failed to resolve tenant for StorageClass {scName}")
      m.storageClasses
    let tenants := m.storageClasses.map fun scName => (scName, env.tenantOf scName)
    modifyStatus fun s => { s with tenantMapping := tenants }
    updateStatusOf kind env
  else pure ()

def resolvePeersOf : Rec Unit := do
  external env "failed to resolve replication peers"
  modifyMem fun m =>
    { m with protectionTopology := m.protectionTopology.map fun t =>
        if t.peerName == "" then { t with peerName := env.peerOf t } else t }
  withContext s!"failed to update {kind}"
    (writeBack env.fates fun m v => { v with protectionTopology := m.protectionTopology })

/-- The REST client and the StorageClass of the primary class; a class outside
the topology has none, and using them panics. -/
def primaryRest : Rec Unit := do
  let m ← getMem
  assertThat (m.storageClasses.contains m.primaryStorageClass)
    ⟨[.panicked], "nil pointer dereference"⟩

/-- The protected path of the status is not found, and is struck from it. -/
def losePpathOf : Rec Unit := do
  modifyStatus fun s => { s with ppathName := "" }
  updateStatusOf kind env

def createPpathOf : Rec Unit := do
  external env "failed to ensure protection policies"
  primaryRest
  external env "primary ppath"
  modifyStatus fun s => { s with ppathName := env.newPpath }
  updateStatusOf kind env

/-- What `reconcileSyncStatus` writes; `none` when the object of the primary class
cannot be read. -/
def desiredSyncStatus (err : Option KErr) : Rec (Option SyncStatus) := do
  let m ← getMem
  if m.deleting then pure (some .deleting)
  else if err.any (·.isNetworkError) then pure (some .unreachable)
  else if err.any (·.isValidationError) then pure (some .invalid)
  else if err.any (·.isPermanentError) then pure (some .failed)
  else do
    match ← tryCatch (getObject env.fates m.primaryVR) fun _ => pure none with
    | none => pure none
    | some vr => pure (some (if vr.status == .primary then .completed else .inProgress))

def reconcileSyncStatusOf (err : Option KErr) : Rec Unit := do
  match ← desiredSyncStatus env (err.filter fun e => !e.causes.contains .panicked) with
  | none => pure ()
  | some desired =>
    if (← getMem).status.syncStatus == desired then pure ()
    else do
      modifyStatus fun s => { s with syncStatus := desired }
      updateStatusOf kind env

end Common

def recordStatus (env : Env) (primaryChanged : Bool) : Rec Unit :=
  recordStatusOf "VastVolumeReplication" env primaryChanged

def ensurePpathDirs (env : Env) : Rec Unit := do
  let m ← getMem
  if m.status.ppathDirMapping.isEmpty then predictedDirsOf "VastVolumeReplication" env m
  else pure ()

def ensureTenants (env : Env) : Rec Unit := ensureTenantsOf "VastVolumeReplication" env

def resolvePeers (env : Env) : Rec Unit := resolvePeersOf "VastVolumeReplication" env

def createPpath (env : Env) : Rec Unit := createPpathOf "VastVolumeReplication" env

/-- The protected path of the status, or nothing when it has to be made. -/
def checkPpath (env : Env) : Rec String := do
  let m ← getMem
  if m.status.ppathName == "" then pure ""
  else do
    primaryRest
    external env "ppath is not active"
    if env.ppathMissing then do
      losePpathOf "VastVolumeReplication" env
      pure ""
    else pure m.status.ppathName

def ensurePpath (env : Env) : Rec Unit := do
  if (← checkPpath env) == "" then createPpath env else pure ()

/-- When promoting, a resync in progress is left alone unless the primary
class has changed in this reconcile. -/
def leaveResync (desired : ReplicationState) (primaryChanged : Bool) (r : Replication) : Bool :=
  desired == .primary && r.spec == .resync && !primaryChanged

def ensureReplicationState (fates : Fates) (vrName : String) (desired : ReplicationState)
    (primaryChanged : Bool) : Rec Unit :=
  ensureState (leaveResync desired primaryChanged) fates vrName desired

def initialState (m : VastVolumeReplication) (scName : String) : ReplicationState :=
  if scName == m.primaryStorageClass then .primary else .secondary

/-- The name of the mirror PVC, for a class that is not the primary one. -/
def mirrorPVCName (env : Env) (m : VastVolumeReplication) (scName : String) : Rec Unit :=
  if scName == m.primaryStorageClass then pure ()
  else external env s!"failed to compute mirror PVC name for SC {scName}"

/-- `ensureVR`: whether the VolumeReplication was created. Only that of the
primary class is driven. -/
def ensureVR (env : Env) (m : VastVolumeReplication) (primaryChanged : Bool) (scName : String) :
    Rec Bool := do
  external env s!"failed to ensure VolumeReplicationClass of SC {scName}"
  mirrorPVCName env m scName
  let created ← withContext s!"failed to ensure VolumeReplication {m.vrNameForSC scName}"
    (ensureObject env.fates (m.vrNameForSC scName) ⟨initialState m scName, .unset⟩)
  if created then pure true
  else if scName == m.primaryStorageClass then do
    ensureReplicationState env.fates (m.vrNameForSC scName) .primary primaryChanged
    pure false
  else pure false

/-- One turn of the loop, with the wait for the VastReplicationContent of a
new VolumeReplication that is not the last; a timeout is logged. -/
def ensureVRAndWait (env : Env) (m : VastVolumeReplication) (primaryChanged : Bool)
    (last : Option String) (scName : String) : Rec Unit := do
  let created ← withContext s!"SC {scName}" (ensureVR env m primaryChanged scName)
  if created && last != some scName then do
    let _ ← attempt (external env "proceeding without confirmed VRC")
    pure ()
  else pure ()

/-- The first candidate whose protected path has the role "source". -/
def findSource (env : Env) : List String → Rec (Option String)
  | [] => pure none
  | scName :: scs => do
    external env s!"failed to build REST client for SC {scName}"
    external env s!"failed to get ppath for SC {scName}"
    if isSource (env.role scName) then pure (some scName) else findSource env scs

def demote (env : Env) (m : VastVolumeReplication) (scName : String) : Rec Unit :=
  withContext s!"SC {scName}"
    (ensureReplicationState env.fates (m.vrNameForSC scName) .secondary false)

def syncVRReplicationStates (env : Env) (m : VastVolumeReplication) : Rec Unit := do
  let candidates ← confirmedClasses env.fates m.name m.storageClasses
  if candidates.length ≤ 1 then pure ()
  else
    match ← findSource env candidates with
    | none => pure ()
    | some truePrimarySC => do
      let errs ← collectErrors (demote env m) (candidates.filter (· ≠ truePrimarySC))
      raiseDeferred errs

/-- The loop over the classes, primary first, and the split-brain pass. -/
def ensureVRs (env : Env) (primaryChanged : Bool) : Rec Unit := do
  let m ← getMem
  let allSCs := allStorageClassesPrimaryFirst m.primaryStorageClass m.protectionTopology
  let errs ← collectErrors (ensureVRAndWait env m primaryChanged allSCs.getLast?) allSCs
  let syncErr ← attempt (syncVRReplicationStates env m)
  raiseDeferred (errs ++ syncErr.toList)

def clearResync (env : Env) : Rec Unit := do
  modifyMem fun m => { m with resync := false }
  writeBack env.fates fun _ v => { v with resync := false }

def ensureResync (env : Env) : Rec Unit := do
  let m ← getMem
  match ← withContext "ensureResync" (getObject env.fates m.primaryVR) with
  | none => clearResync env
  | some _ => do
    withContext "ensureResync" (patchState env.fates m.primaryVR .resync)
    clearResync env

def deleteVR (env : Env) (vrName : String) : Rec Unit :=
  api env.fates fun w =>
    if env.lingers vrName then .ok () w
    else .ok () { w with objs := Function.update w.objs vrName none }

/-- `countOwnedVRs`, as a list. -/
def ownedVRs (env : Env) (m : VastVolumeReplication) : List String → Rec (List String)
  | [] => pure []
  | scName :: scs => do
    let r ← tryCatch (getObject env.fates (m.vrNameForSC scName)) fun _ => pure none
    let rest ← ownedVRs env m scs
    pure (if r.isSome then scName :: rest else rest)

def handleDeletionOf (objectKind : String) (env : Env) : Rec Unit := do
  let m ← getMem
  if m.finalizer then do
    forEach (fun scName => withContext s!"failed to delete {objectKind}"
      (deleteVR env (m.vrNameForSC scName))) m.storageClasses
    if (← ownedVRs env m m.storageClasses).isEmpty then do
      external env "failed to list VastReplicationContents"
      if env.contentsLeft = 0 then do
        let _ ← attempt (external env "failed to delete protected path")
        withContext "failed to remove finalizer" (removeFinalizer env)
      else pure ()
    else pure ()
  else pure ()

def handleDeletion (env : Env) : Rec Unit := handleDeletionOf "VolumeReplication" env

def reconcileVRs (env : Env) (primaryChanged : Bool) : Rec Unit := do
  ensurePpathDirs env
  ensureTenants env
  if hasUnresolvedPeers (← getMem).protectionTopology then
    -- the update of the spec triggers the next reconcile
    resolvePeers env
  else do
    ensurePpath env
    ensureVRs env primaryChanged

def reconcileLive (env : Env) : Rec Unit := do
  external env "failed to build VMS REST clients"
  external env "failed to fetch StorageClass objects"
  ensureFinalizer env
  let primaryChanged ← ensurePrimaryStorageClass
  backfillLabels env primaryChanged
  recordStatus env primaryChanged
  if (← getMem).resync then ensureResync env else reconcileVRs env primaryChanged

def reconcileSyncStatus (env : Env) (err : Option KErr) : Rec Unit :=
  reconcileSyncStatusOf "VastVolumeReplication" env err

/-- `GetVastVolumeReplication`: whether there is an object to work on. -/
def fetch (env : Env) : Rec Bool :=
  api env.fates fun w =>
    match w.own.stored with
    | none => .ok false w
    | some v => .ok true { w with own := { w.own with mem := v } }

def reconcile (env : Env) : Rec Unit := do
  if ← fetch env then
    deferring (do if (← getMem).deleting then handleDeletion env else reconcileLive env)
      (reconcileSyncStatus env)
  else pure ()

end VastCsi.Ext.Vvr
