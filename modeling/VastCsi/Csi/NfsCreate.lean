import VastCsi.Cosi.CloneBucket
import VastCsi.Csi.VolumeNames

/-!
# `CreateVolume` of the NFS controller

The builders of an empty volume, of the clone of a volume and of the read-write restore of a
snapshot. Each makes sure of its objects one after the other: the snapshot of the source and the
stream by name, as in `Cosi/CloneBucket.lean`, the view by path and policy, the quota by path and
tenant. The quota lookup drops trailing slashes from the path, the creation does not.
-/

namespace VastCsi.Csi

open Lib Vms

inductive ContentSource where
  | empty
  | volume (volumeId : String)
  | snapshot (snapshotId : String)
  deriving DecidableEq, Repr

/-- The fields of a builder that the three classes read. -/
structure NfsCreateReq where
  name : String
  rootExport : String
  viewPolicy : String
  source : ContentSource := .empty
  capacity : Nat := 0
  protocol : String := "NFS"
  mountOptions : String := ""
  volumeName : String
  qosPolicy : Option String := none
  clusterName : String := ""
  vipPoolName : Option String := none
  vipPoolFqdn : Option String := none
  vipPoolFqdnRandomPrefix : Bool := true
  blockingClones : Bool := false
  timeout : Nat := 30
  /-- What `validate_xprtsec_view_policy` and the lookup of the QoS policy come to. -/
  policyAccepted : Policy → Except Err Unit := fun _ => .ok ()
  qosFound : String → Except Err Unit := fun _ => .ok ()

def NfsCreateReq.viewPath (req : NfsCreateReq) : String :=
  String.ofList (Csi.viewPath req.rootExport.toList req.name.toList)

def NfsCreateReq.snapshotName (req : NfsCreateReq) : String := "snp-" ++ req.name

def NfsCreateReq.streamName (req : NfsCreateReq) : String := "strm-" ++ req.name

/-- `hard_limit` of a new quota; a capacity of zero sets none. -/
def NfsCreateReq.hardLimit (req : NfsCreateReq) : Option Nat :=
  if req.capacity = 0 then none else some req.capacity

structure NfsContext where
  rootExport : String
  mountOptions : String
  viewPolicy : String
  protocol : String
  vipPoolName : Option String
  vipPoolFqdn : Option String
  vipPoolFqdnRandomPrefix : Bool
  volumeName : String
  quotaId : Nat
  viewId : Nat
  tenantId : String
  snapshotStreamName : Option String
  deriving DecidableEq, Repr

structure CreatedVolume where
  capacityBytes : Nat
  volumeId : String
  contentSource : ContentSource
  context : NfsContext
  deriving DecidableEq, Repr

def CreatedVolume.withoutIds (v : CreatedVolume) : CreatedVolume :=
  { v with context := { v.context with quotaId := 0, viewId := 0 } }

def NfsCreateReq.response (req : NfsCreateReq) (view : View) (quota : Quota) (tenantId : String)
    (streamName : Option String) : CreatedVolume where
  capacityBytes := req.capacity
  volumeId := String.ofList (toVolumeIdWithMetadata req.name.toList req.clusterName.toList)
  contentSource := req.source
  context :=
    { rootExport := String.ofList (rootExportAbs req.rootExport.toList)
      mountOptions := req.mountOptions
      viewPolicy := req.viewPolicy
      protocol := req.protocol
      vipPoolName := req.vipPoolName
      vipPoolFqdn := if req.vipPoolName.isSome then none else req.vipPoolFqdn
      vipPoolFqdnRandomPrefix :=
        req.vipPoolName.isNone && req.vipPoolFqdn.isSome && req.vipPoolFqdnRandomPrefix
      volumeName := req.volumeName
      quotaId := quota.id
      viewId := view.id
      tenantId := tenantId
      snapshotStreamName := streamName }

def orRaise : Except Err Unit → Call Unit
  | .ok _ => pure ()
  | .error e => throw e

def validateXprtsec (env : Env) (req : NfsCreateReq) : Call Unit :=
  if req.viewPolicy = "" then pure ()
  else do
    let policy ← oneOrFail env .policy (·.name == req.viewPolicy)
    orRaise (req.policyAccepted policy)

def findQosPolicy (env : Env) (req : NfsCreateReq) : Call Unit :=
  match req.qosPolicy with
  | none => pure ()
  | some name => request env (orRaise (req.qosFound name))

def ensureView (env : Env) (req : NfsCreateReq) : Call View := do
  match ← one env .view (fun r => r.path == req.viewPath && r.policy == req.viewPolicy) with
  | some view => pure view
  | none =>
    let viewPolicy ← oneOrFail env .policy (·.name == req.viewPolicy)
    findQosPolicy env req
    request env <| createRow .view (fun id =>
        { id, path := req.viewPath, tenantId := viewPolicy.tenantId, policy := req.viewPolicy
          protocols := [req.protocol] })
      (·.addDir viewPolicy.tenantId req.viewPath)

/-- The capacity of an existing quota, when both have one. -/
def checkCapacity (req : NfsCreateReq) (quota : Quota) : Call Unit :=
  if req.capacity = 0 then pure ()
  else Cosi.checkLimit quota req.capacity fun limit =>
    .exception s!"Volume already exists with different capacity than requested ({limit})"

/-- `Quota.ensure`. The lookup is by tenant, so the check of the tenancy that follows it
never fails. -/
def ensureQuota (env : Env) (req : NfsCreateReq) (tenantId : String) : Call Quota := do
  match ← one env .quota (fun r => quotaByPath req.viewPath r && r.tenantId == tenantId) with
  | some quota =>
    checkCapacity req quota
    pure quota
  | none =>
    request env <| createRow .quota fun id =>
      { id, path := req.viewPath, tenantId, hardLimit := req.hardLimit }

def awaitClone (env : Env) (req : NfsCreateReq) (stream : Stream) : Call Unit :=
  if req.blockingClones then Cosi.waitForStream env req.timeout stream.id else pure ()

/-- `GlobalSnapshotStream.ensure`. -/
def ensureStream (env : Env) (req : NfsCreateReq) (tenantId : String) : Call Stream :=
  requisite env streamsSince "create_globalsnapshotstream" do
    let stream ← Cosi.findOrClone env req.streamName tenantId req.viewPath
    awaitClone env req stream
    pure stream

def ensureViewAndQuota (env : Env) (req : NfsCreateReq) : Call (View × Quota) := do
  let view ← ensureView env req
  let quota ← ensureQuota env req view.tenantId
  pure (view, quota)

def buildClone (env : Env) (req : NfsCreateReq) (tenantId : String) : Call CreatedVolume := do
  let stream ← ensureStream env req tenantId
  let (view, quota) ← ensureViewAndQuota env req
  pure (req.response view quota tenantId (some stream.name))

/-- `EmptyVolumeBuilder.build_volume`. -/
def buildEmpty (env : Env) (req : NfsCreateReq) : Call CreatedVolume := do
  let (view, quota) ← ensureViewAndQuota env req
  pure (req.response view quota view.tenantId none)

/-- `VolumeFromVolumeBuilder.build_volume`. -/
def buildFromVolume (env : Env) (req : NfsCreateReq) (volumeId : String) : Call CreatedVolume := do
  match ← one env .quota (quotaByName (withoutCluster volumeId)) with
  | none => throw (.abort .notFound s!"Unknown volume: {withoutCluster volumeId}")
  | some source =>
    let _ ← Cosi.ensureSnapshot env req.snapshotName source.path source.tenantId
    buildClone env req source.tenantId

def snapshotNumber (snapshotId : String) : Option Nat := (withoutCluster snapshotId).toNat?

/-- `VolumeFromSnapshotBuilder.build_volume` for a read-write mode. -/
def buildFromSnapshot (env : Env) (req : NfsCreateReq) (snapshotId : String) :
    Call CreatedVolume := do
  let snapshot ← request env (readVms fun c =>
    (snapshotNumber snapshotId).bind fun id => c.find .snapshot id)
  match snapshot with
  | none => throw (.httpError 404 "")
  | some snapshot => buildClone env req snapshot.tenantId

def nfsCreateVolume (env : Env) (req : NfsCreateReq) : Call CreatedVolume := do
  validateXprtsec env req
  match req.source with
  | .empty => buildEmpty env req
  | .volume volumeId => buildFromVolume env req volumeId
  | .snapshot snapshotId => buildFromSnapshot env req snapshotId

end VastCsi.Csi
