import VastCsi.Cosi.Bucket

/-!
# `DriverCreateBucket` for a clone

The clone builder makes sure of the bucket's owner, then of the snapshot of the source, of the
stream that copies it and of the view. The `try` block around the latter (`cloneBody`) ends in
`rollback`.
-/

namespace VastCsi.Cosi

open Lib Vms

/-- `OwnerSpec`: the driver's own user, or an existing one with what its two
queries come to. -/
inductive OwnerSpec where
  | managed
  | existing (resolved : Except Err String)

def OwnerSpec.isManaged : OwnerSpec → Bool
  | .managed => true
  | .existing _ => false

/-- `CreateBucketParams` of a clone, with the parameters the builder takes
out of `remaining_parameters`. -/
structure CloneReq where
  name : String
  rootExport : String
  sourceBucket : String
  blockingClones : Bool
  timeout : Nat := 30
  owner : OwnerSpec
  viewPolicy : String := "s3_default_policy"
  protocols : List String := []
  lifecycleRules : List String := []
  requestedCapacity : Option Nat := none
  scheme : String := "http"
  vipPoolName : String := ""
  vipPoolFqdn : Option String := none

def CloneReq.destPath (req : CloneReq) : String := bucketPath req.rootExport req.name

def noSlash (path : String) : String := String.ofList (Text.rstrip '/' path.toList)

/-- `_ensure_bucket_user`: `users.ensure` in the tenant. -/
def ensureBucketUser (env : Env) (name tenantId : String) : Call Unit := do
  match ← one env .user fun r => r.name == name && r.tenantId == tenantId with
  | some _ => pure ()
  | none => do
    let _ ← request env (createRow .user fun id => { id, name, tenantId })
    pure ()

def resolveBucketOwner (env : Env) (req : CloneReq) (tenantId : String) : Call String :=
  match req.owner with
  | .managed => do
    ensureBucketUser env req.name tenantId
    pure req.name
  | .existing (.ok login) => request env (pure login)
  | .existing (.error e) => request env (throw e)

def ensureSnapshot (env : Env) (name path tenantId : String) : Call Snapshot := do
  match ← one env .snapshot (·.name == name) with
  | some snapshot =>
    if Text.strip '/' snapshot.path == Text.strip '/' path then pure snapshot
    else
      throw (.exception (s!"Snapshot already exists, but the specified path {path}" ++
        s!" does not correspond to the path of the snapshot {snapshot.path}"))
  | none =>
    request env (createRow .snapshot fun id => { id, name, path := noSlash path ++ "/", tenantId })

/-- What waiting for a stream comes to on the server: one that is still
running completes before the `timeout` or does not. -/
def settleStream (env : Env) (timeout id : Nat) : Call Unit := fun w =>
  match w.vms.find .stream id with
  | none => .error (.httpError 404 "") w
  | some r =>
    match r.state with
    | .completed => .ok () w
    | .suspended => .error (.exception s!"globalsnapstreams {id} failed with state: suspended") w
    | .initializing | .syncing | .finalizing | .active =>
      if env.streamCompletes w.calls then
        .ok () { w with vms := w.vms.setStreamState id .completed }
      else
        .error (.exception (s!"globalsnapstreams {id} did not reach state 'Completed' " ++
          s!"within {timeout} seconds")) w
    | state =>
      .error (.exception (s!"Unknown globalsnapstreams state: {state.text}. " ++
        "Expected one of: TARGET=['completed'], RUNNING=['initializing', 'syncing', " ++
        "'finalizing', 'active'], FAILED=['suspended']")) w

def waitForStream (env : Env) (timeout id : Nat) : Call Unit :=
  request env (settleStream env timeout id)

def findOrClone (env : Env) (name tenantId destinationPath : String) : Call Stream := do
  match ← one env .stream (·.name == name) with
  | some stream => pure stream
  | none =>
    request env <| createRow .stream (fun id =>
        { id, name, state := .initializing, loaneeRootPath := destinationPath
          loaneeTenantId := tenantId })
      (·.addDir tenantId destinationPath)

def ensureStream (env : Env) (timeout : Nat) (name tenantId destinationPath : String)
    (wait : Bool) : Call Unit :=
  requisite env streamsSince "create_globalsnapshotstream" do
    let stream ← findOrClone env name tenantId destinationPath
    if wait then waitForStream env timeout stream.id else pure ()

def s3Protocols (protocols : List String) : List String :=
  if protocols.contains "S3" then protocols else protocols ++ ["S3"]

/-- `View.ensure_s3view`, without a directory of its own. -/
def ensureS3View (env : Env) (req : CloneReq) (owner : String) (policy : Policy) : Call View := do
  match ← one env .view fun r => r.bucket == some req.name with
  | some view => pure view
  | none =>
    request env <| createRow .view fun id =>
      { id, path := req.destPath, tenantId := policy.tenantId, policy := policy.name
        protocols := s3Protocols req.protocols, bucket := some req.name
        bucketOwner := some (if owner == "" then req.name else owner) }

/-- What the builder has found out before its `try`. -/
structure CloneSource where
  view : View
  policy : Policy
  owner : String

def cloneSetup (env : Env) (req : CloneReq) : Call CloneSource := do
  match ← one env .view fun r => r.bucket == some req.sourceBucket with
  | none => throw (.abort .notFound s!"Unknown source bucket: {req.sourceBucket}")
  | some view => do
    let policy ← oneOrFail env .policy (·.name == req.viewPolicy)
    assertThat (policy.tenantId == view.tenantId) (.abort .invalidArgument
      (s!"view_policy tenant_id {policy.tenantId} does not match " ++
        s!"source bucket tenant_id {view.tenantId}"))
    let owner ← resolveBucketOwner env req view.tenantId
    pure { view, policy, owner }

def ownerConflict (req : CloneReq) (owner existing : String) : Err :=
  .abort .alreadyExists (s!"view '{req.name}' already exists with bucket_owner " ++
    s!"'{existing}', requested '{owner}'")

/-- `_ensure_s3view`: an existing view must have the owner asked for. -/
def checkOwner (req : CloneReq) (owner : String) (view : View) : Call Unit :=
  match view.bucketOwner with
  | some existing => assertThat (existing == owner) (ownerConflict req owner existing)
  | none => pure ()

def pathConflict (req : CloneReq) (view : View) : Err :=
  .abort .alreadyExists (s!"Bucket '{req.name}' already exists at '{view.path}', " ++
    s!"expected '{req.destPath}'")

def checkPath (req : CloneReq) (view : View) : Call Unit :=
  assertThat (noSlash view.path == noSlash req.destPath) (pathConflict req view)

def cloneBody (env : Env) (digest : String → String) (req : CloneReq) (src : CloneSource) :
    Call View := do
  let _ ← ensureSnapshot env (cosiCloneSnapName digest req.name) src.view.path src.view.tenantId
  ensureStream env req.timeout (cosiCloneStreamName digest req.name) src.view.tenantId
    req.destPath req.blockingClones
  let view ← ensureS3View env req src.owner src.policy
  checkOwner req src.owner view
  checkPath req view
  pure view

/-- The `except` clauses: an `Abort` keeps the owner, anything else deletes a
managed one. -/
def rollback (env : Env) (req : CloneReq) (tenantId : String) (e : Err) : Call View :=
  if e.isAbort || !req.owner.isManaged then throw e
  else do
    delete env .user fun r => r.name == req.name && r.tenantId == tenantId
    throw e

/-- `CloneBucketBuilder.build`. -/
def cloneBuild (env : Env) (digest : String → String) (req : CloneReq) : Call View := do
  let src ← cloneSetup env req
  tryCatch (cloneBody env digest req src) (rollback env req src.view.tenantId)

/-- `s3lifecyclerules.ensure`. -/
def ensureRule (env : Env) (view : View) (name : String) : Call Unit := do
  match ← one env .rule fun r => r.name == name && r.viewId == view.id with
  | some _ => pure ()
  | none => do
    let _ ← request env (createRow .rule fun id => { id, name, viewId := view.id })
    pure ()

def checkLimit (quota : Quota) (capacity : Nat) (e : Nat → Err) : Call Unit :=
  match quota.hardLimit with
  | some limit => assertThat (limit == capacity) (e limit)
  | none => pure ()

/-- `Quota.ensure`, for a capacity that is not zero. -/
def quotaEnsure (env : Env) (viewPath tenantId : String) (capacity : Nat) : Call Unit := do
  match ← one env .quota fun r => quotaByPath viewPath r && r.tenantId == tenantId with
  | some quota =>
    checkLimit quota capacity fun limit =>
      .exception s!"Volume already exists with different capacity than requested ({limit})"
  | none => do
    let _ ← request env (createRow .quota fun id =>
      { id, path := viewPath, tenantId, hardLimit := some capacity })
    pure ()

def ensureBucketQuota (env : Env) (view : View) (capacity : Nat) : Call Unit := do
  match ← one env .quota fun r => quotaByPath view.path r && r.tenantId == view.tenantId with
  | some quota =>
    checkLimit quota capacity fun limit =>
      .abort .alreadyExists s!"Bucket already exists with different max_size ({limit})"
  | none => quotaEnsure env view.path view.tenantId capacity

def applyBucketPostProvision (env : Env) (req : CloneReq) (view : View) : Call Unit := do
  forEach (ensureRule env view) req.lifecycleRules
  match req.requestedCapacity with
  | none | some 0 => pure ()
  | some capacity => ensureBucketQuota env view capacity

def bucketEndpoint (env : Env) (req : CloneReq) (tenantId : String) : Call String :=
  match req.vipPoolFqdn with
  | some fqdn => pure fqdn
  | none => getVip env req.vipPoolName tenantId

/-- `DriverCreateBucket` of a clone: the bucket id. -/
def driverCreateBucket (env : Env) (digest : String → String) (req : CloneReq) : Call String := do
  let view ← cloneBuild env digest req
  applyBucketPostProvision env req view
  let vip ← bucketEndpoint env req view.tenantId
  let port := if req.scheme == "https" then "443" else "80"
  pure s!"{req.name}@{view.tenantId}@{req.scheme}://{vip}:{port}"

def createStep (digest : String → String) (w : World) (a : Env × CloneReq) : Option World :=
  some (endState (driverCreateBucket a.1 digest a.2 w))

end VastCsi.Cosi
