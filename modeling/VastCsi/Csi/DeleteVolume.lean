import VastCsi.Vms.Scope

/-!
# `DeleteVolume` of the block and the NFS controllers

A CSI volume id is reduced to a bare name. The block controller takes the stream whose name
*contains* it and the volume whose name *ends in* it; the NFS controller takes the stream
`strm-<name>` and the quota whose path ends in the name, and deletes that quota's directory, the
view on it and the quota. A suffix is not a path component: `targets` is what the lookups select,
`ownRow` what is the volume's own.
-/

namespace VastCsi.Csi

open Lib Vms

/-- `normalize_volume_id`: the last component of a path-like id. -/
def normalizeVolumeId (volumeId : String) : String := Text.lastPiece '/' (Text.strip '/' volumeId)

structure Conf where
  dontUseTrashApi : Bool
  deletionViewPolicy : String
  deletionVipPool : String
  useLocalIpForMount : String
  deletionMountOptions : List String

def holdsSnapshots (name : String) (snaps : List Snapshot) : Err :=
  let ids := ", ".intercalate (snaps.map fun s => toString s.id)
  .exception s!"Unable to delete {name} as it holds snapshots: [{ids}]"

def blockDeleteVolume (env : Env) (volumeId : String) : Call Unit := do
  let name := normalizeVolumeId volumeId
  ensureSnapshotStreamDeleted env fun r => Text.contains r.name name
  match ← hasSnapshots env name with
  | [] => deleteWith env .volume (fun r => Text.endsWith r.name name) (volumeDeleteById env)
  | snaps => throw (holdsSnapshots name snaps)

def isVerNfs4Present (mountOptions : List String) : Bool :=
  mountOptions.any fun opt =>
    let name := opt.toList.takeWhile (· != '=')
    let value := (opt.toList.dropWhile (· != '=')).drop 1
    (name == "vers".toList || name == "nfsvers".toList) && "4".toList.isPrefixOf value

def Conf.protocol (conf : Conf) : String :=
  if isVerNfs4Present conf.deletionMountOptions then "NFS4" else "NFS"

/-- `not any(p.upper() == protocol for p in view_protocols)`. -/
def lacksProtocol (protocol : String) (view : View) : Bool :=
  !view.protocols.any fun p => String.ofList (p.toList.map Char.toUpper) == protocol

/-- `resource_locked(key, abort_on_error=True, message=…)`; the locks of a
handler are released when it exits. -/
def lockResource (key message : String) : Call Unit := fun w =>
  match w.locks.find? (·.1 == key) with
  | some held => .error (.abort .aborted held.2) w
  | none => .ok () { w with locks := (key, message) :: w.locks }

def deletionServer (env : Env) (conf : Conf) (tenantId : String) : Call String :=
  if conf.useLocalIpForMount != "" then pure conf.useLocalIpForMount
  else do
    assertThat (conf.deletionVipPool != "") (.assertion
      ("Ensure that deletionVipPool is properly " ++
        "configured in your Helm configuration to perform local volume deletion."))
    getVip env conf.deletionVipPool tenantId

def ensureBaseView (env : Env) (conf : Conf) (path : String) : Call View := do
  let baseView ←
    viewEnsure env (Text.dirname '/' path) [conf.protocol] conf.deletionViewPolicy
  if lacksProtocol conf.protocol baseView then
    viewUpdateProtocols env baseView.id (baseView.protocols ++ [conf.protocol])
  pure baseView

def removeViaMount (env : Env) (baseView : View) (volumeId : String) : Call Unit :=
  finalizing (tryCatch (do
        hostCommand env fun w => .ok () { w with mounted := true }
        hostCommand env (modifyVms
          (·.removeTree baseView.tenantId (baseView.path ++ "/" ++ volumeId))))
      fun e =>
        match e with
        | .fileNotFound =>
          throw (.abort .aborted ("Concurrent access to an identical file/directory has been" ++
            " detected. A new attempt will be made."))
        | e => throw e)
    (do
      if (← get).mounted then hostCommand env fun w => .ok () { w with mounted := false }
      hostCommand env (pure ()))

def deleteDataViaLocalMount (env : Env) (conf : Conf) (path tenantId : String) : Call Unit := do
  assertThat (conf.deletionViewPolicy != "") (.assertion
    ("Ensure that deletionViewPolicy is properly " ++
      "configured in your Helm configuration to perform local volume deletion."))
  let viewPolicy ← oneOrFail env .policy (·.name == conf.deletionViewPolicy)
  assertThat (tenantId == viewPolicy.tenantId) (.assertion
    ("Volume and deletionViewPolicy must be in the same tenant. " ++
      s!"Make sure deletionViewPolicy belongs to tenant {tenantId} or use Trash API for deletion."))
  let _ ← deletionServer env conf viewPolicy.tenantId
  let baseView ← ensureBaseView env conf path
  removeViaMount env baseView (Text.basename '/' path)

/-- Whether the trash API deleted the data. A refusal as not supported sends the driver to the
local mount. -/
def tryTrashApi (env : Env) (conf : Conf) (path tenantId : String) : Call Bool :=
  if env.trashTimerExpired then
    tryCatch (do
        folderDelete env conf.dontUseTrashApi path tenantId
        pure true)
      fun e => if e.notSupported then pure false else throw e
  else pure false

def deleteDataFromStorage (env : Env) (conf : Conf) (path tenantId : String) : Call Unit := do
  if ← tryTrashApi env conf path tenantId then pure ()
  else do
    let volumeId := Text.basename '/' path
    lockResource volumeId
      s!"Local deletion already in progress for volume '{volumeId}' — retry later"
    deleteDataViaLocalMount env conf path tenantId

/-- The data, with the `OSError` that is expected while snapshots remain. -/
def deleteData (env : Env) (conf : Conf) (quota : Quota) : Call Unit :=
  tryCatch (deleteDataFromStorage env conf quota.path quota.tenantId) fun e =>
    match e with
    | .osError text => do
      assertThat (Text.contains text "not empty") e
      match ← hasSnapshots env quota.path with
      | [] => throw e
      | _ => pure ()
    | e => throw e

def blockingSnapshots (env : Env) (conf : Conf) (quota : Quota) : Call (List Snapshot) :=
  if conf.dontUseTrashApi then pure [] else hasSnapshots env quota.path

def deleteQuotaVolume (env : Env) (conf : Conf) (name : String) (quota : Quota) : Call Unit := do
  let snaps ← blockingSnapshots env conf quota
  assertThat snaps.isEmpty (holdsSnapshots name snaps)
  deleteData env conf quota
  deleteWith env .view (fun r => r.path == quota.path) (viewDeleteById env false)
  deleteById env .quota quota.id

def nfsDeleteVolume (env : Env) (conf : Conf) (volumeId : String) : Call Unit := do
  let name := normalizeVolumeId volumeId
  ensureSnapshotStreamDeleted env fun r => r.name == "strm-" ++ name
  match ← one env .quota (quotaByName name) with
  | none => pure ()
  | some quota => deleteQuotaVolume env conf name quota

inductive Controller where
  | block
  | nfs (conf : Conf)

def deleteVolume (env : Env) : Controller → String → Call Unit
  | .block, volumeId => blockDeleteVolume env volumeId
  | .nfs conf, volumeId => nfsDeleteVolume env conf volumeId

/-- The objects of the volume `name`: their last path component is `name`.
Snapshots, users and the like are not part of the frame. -/
def ownRow (name : String) : Owns
  | .volume, r => normalizeVolumeId r.name = name
  | .view, r => normalizeVolumeId r.path = name
  | .quota, r => normalizeVolumeId r.path = name
  | .stream, r => normalizeVolumeId r.loaneeRootPath = name
  | _, _ => True

/-- The directories of the volume: at or below a path whose last component
is its name. -/
def ownDir (name : String) (d : Dir) : Prop :=
  ∃ p, normalizeVolumeId p = name ∧ (pathParts p).isPrefixOf d.path = true

/-- The local mount is used: the trash API is not usable, or was not a short
while ago. -/
def fallsBack (env : Env) (conf : Conf) (c : Cluster) : Bool :=
  !(env.trashTimerExpired && trashUsable conf.dontUseTrashApi c)

/-- An existing view on the parent of `path` that the local mount would have
to change. -/
def baseViewToChange (conf : Conf) (path : String) (r : View) : Bool :=
  r.path == Text.dirname '/' path && r.policy == conf.deletionViewPolicy &&
    lacksProtocol conf.protocol r

/-- What the lookups of a `DeleteVolume` in cluster `c` select. -/
def targets (env : Env) (c : Cluster) (name : String) : Controller → Owns
  | .block, .volume, r => Text.endsWith r.name name = true
  | .block, .stream, r => c.swVersion.lt streamsSince = false ∧ Text.contains r.name name = true
  | .nfs _, .stream, r => c.swVersion.lt streamsSince = false ∧ r.name = "strm-" ++ name
  | .nfs _, .quota, r => quotaByName name r = true
  | .nfs conf, .view, r =>
    fallsBack env conf c = true ∧
      ∃ q ∈ c.table .quota, quotaByName name q = true ∧ baseViewToChange conf q.path r = true
  | _, _, _ => False

/-- Whatever a `DeleteVolume` in cluster `c` selects is the volume's own. -/
def TargetsOwn (env : Env) (c : Cluster) (ctl : Controller) (name : String) : Prop :=
  ∀ k (r : Row k), r ∈ c.table k → targets env c name ctl k r → ownRow name k r

end VastCsi.Csi
