import VastCsi.Ext.Owners
import VastCsi.Ext.Vvr

/-!
# Provisioning a VastReplicationContent

The only record of a PVC that has left `spec.pvcs` and whose backend objects are still to be
deleted is that it is still in `status.pvcs`: `computeSourceToDelete` takes the difference.
`provisionResources` writes the current spec into the status before it calls `ProvisionVolumes`.
`owed` is not the program's: the names that have left while in the status and that no successful
`ProvisionVolumes` has had in its `toDelete` list yet.
-/

namespace VastCsi.Ext.Vrc

open Lib CsiAddons

structure Status where
  provisioned : Bool := false
  observedGeneration : Nat := 0
  pvcsPreview : String := ""
  pvcs : List String := []
  deriving DecidableEq

structure VastReplicationContent extends ContentSpec where
  name : String
  generation : Nat := 1
  deleting : Bool := false
  status : Status := {}
  deriving DecidableEq

structure Pvc where
  managed : Bool := false
  bound : Bool := true
  deriving DecidableEq

/-- The stored object, the claims of its namespace, and the names that are
owed. -/
structure Own where
  stored : Option VastReplicationContent
  claims : String → Option Pvc
  owed : List String := []

abbrev Rec := Proc Own

structure Env where
  fates : Fates := steady
  /-- Whether the VolumeGroupReplication or VolumeReplication is gone or
  terminating. -/
  parentGone : Bool := false
  /-- `spec.pvcs` of the other contents of the constellation. -/
  siblings : List String := []
  /-- An update of `spec.pvcs` between the reconcile's first read of the object
  and the one of `syncProvisionMeta`. -/
  edit : Option (List String) := none

/-- What an update of `spec.pvcs` leaves owed: a name that was recorded is, one
that is back is not. -/
def owedAfter (v : VastReplicationContent) (owed new : List String) : List String :=
  (owed ++ v.pvcs.filter (· ∈ v.status.pvcs)).filter (· ∉ new)

def editSpec (new : List String) (o : Own) : Own :=
  match o.stored with
  | none => o
  | some v =>
    { o with
      stored := some { v with pvcs := new, generation := v.generation + 1 }
      owed := owedAfter v o.owed new }

section Reconcile

variable (env : Env)

def getContent : Rec (Option VastReplicationContent) := api env.fates fun w => .ok w.own.stored w

def writeContent (f : VastReplicationContent → VastReplicationContent) : Rec Unit :=
  api env.fates fun w => .ok () { w with own := { w.own with stored := w.own.stored.map f } }

def getPVC (pvcName : String) : Rec (Option Pvc) :=
  api env.fates fun w => .ok (w.own.claims pvcName) w

def metaOf (v : VastReplicationContent) : Status :=
  { v.status with
    observedGeneration := v.generation
    pvcsPreview := Vvr.displayable v.pvcs
    pvcs := v.pvcs }

def writeMeta (name : String) : Rec Unit := do
  match ← getContent env with
  | none => throw (notFound name)
  | some fresh =>
    if fresh.status = metaOf fresh then pure ()
    else writeContent env fun v => { v with status := metaOf fresh }

/-- `syncProvisionMeta`: an error is reported as a warning and dropped. -/
def syncProvisionMeta (name : String) : Rec Unit := do
  let _ ← attempt (writeMeta env name)
  pure ()

def markProvisioned (name : String) : Rec Unit := do
  let _ ← attempt (do
    match ← getContent env with
    | none => throw (notFound name)
    | some fresh =>
      if fresh.status.provisioned then pure ()
      else writeContent env fun v => { v with status := { fresh.status with provisioned := true } })
  pure ()

/-- `classifyConstellationPVCs`: the source PVCs of these names. One that is not
bound yet fails the pass. -/
def classifyPVCs : List String → Rec (List String)
  | [] => pure []
  | pvcName :: rest => do
    match ← withContext s!"get PVC+PV {pvcName}" (getPVC env pvcName) with
    | none => classifyPVCs rest
    | some pvc =>
      if !pvc.bound then throw ⟨[.retryable], s!"PVC {pvcName} not yet bound"⟩
      else do
        let unmanaged ← classifyPVCs rest
        pure (if pvc.managed then unmanaged else pvcName :: unmanaged)

/-- `computeSourceToDelete`, on the names that are in the status and not in the
spec: a PVC that is gone is included, a controller mirror is not. -/
def computeSourceToDelete : List String → Rec (List String)
  | [] => pure []
  | pvcName :: rest => do
    let pvc ← withContext s!"get PVC {pvcName}" (getPVC env pvcName)
    let toDelete ← computeSourceToDelete rest
    pure (if pvc.any (·.managed) then toDelete else pvcName :: toDelete)

def removed (rp : VastReplicationContent) : List String := rp.status.pvcs.filter (· ∉ rp.pvcs)

def syncMirrors (rp : VastReplicationContent) : Rec Unit :=
  if rp.syncPVCPV then do
    let errs ← collectErrors (callOut env.fates) ["ensure mirrors", "orphan cleanup"]
    raiseDeferred errs
  else pure ()

/-- `ProvisionVolumes`, on the reconcile's copy; the result is its `toDelete`
list. -/
def provisionVolumes (rp : VastReplicationContent) : Rec (List String) := do
  withContext "list constellation VastReplicationContents" (callOut env.fates "list")
  let _ ← classifyPVCs env (env.siblings ++ rp.pvcs)
  let toDelete ← computeSourceToDelete env (removed rp)
  callOut env.fates "provision volumes"
  syncMirrors env rp
  pure toDelete

/-- A pass has returned: what it was to delete is owed no longer. -/
def settle (toDelete : List String) : Rec Unit :=
  fun w => .ok () { w with own := { w.own with owed := w.own.owed.filter (· ∉ toDelete) } }

def otherEdits : Rec Unit :=
  fun w => .ok () { w with own := env.edit.elim w.own fun new => editSpec new w.own }

def provisionResources (vrc : VastReplicationContent) : Rec Unit := do
  callOut env.fates "new provisioner"
  otherEdits env
  syncProvisionMeta env vrc.name
  let toDelete ← provisionVolumes env vrc
  settle toDelete
  markProvisioned env vrc.name

/-- `Reconcile` of an object that is not under deletion; the cleanup of one that
is leaves spec and status alone. -/
def reconcile : Rec Unit := do
  match ← getContent env with
  | none => pure ()
  | some vrc => do
    withContext "resolve VRC parent" (callOut env.fates "lookup parent")
    if vrc.deleting then pure ()
    else do
      callOut env.fates "get VGR/VR"
      if env.parentGone then
        withContext "self-destruct VRC" (writeContent env fun v => { v with deleting := true })
      else provisionResources env vrc

end Reconcile

end VastCsi.Ext.Vrc
