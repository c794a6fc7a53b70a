import VastCsi.Csi.NodeMounts

/-!
# `NodePublishVolume` and `NodeUnpublishVolume` of the NFS node

Publishing looks for a volume mounted at the target path; when there is none it mounts a tmpfs
over whatever is there, writes the metadata file, loads the credentials of an mTLS volume and
mounts the volume. Unpublishing unmounts until no volume is left, removes the metadata file,
unmounts *one* tmpfs, deletes the credentials and removes the directory. The preparation of a
publish is the command `prepare`, which may raise.
-/

namespace VastCsi.Csi.Node

open Lib

structure PublishReq where
  volumeId : String
  mountSpec : String
  readonly : Bool := false
  /-- The flags of the capability or of the mount options. -/
  mountFlags : List String := []
  isEphemeral : Bool := false
  bucketName : Option String := none
  mtls : Bool := false
  credentials : Bool := false
  deriving DecidableEq, Repr

def PublishReq.metadata (req : PublishReq) : Meta :=
  { volumeId := req.volumeId
    isEphemeral := req.isEphemeral
    hasMtls := req.mtls
    bucketName := req.bucketName }

def PublishReq.ro (req : PublishReq) : Bool := req.readonly || req.mountFlags.contains "ro"

def exportPath (device : String) : String :=
  String.ofList ((device.toList.dropWhile (· != ':')).drop 1)

section

variable {β : Type} (env : Env) (t : String) (req : PublishReq)

/-- The checks on a mounted volume: whether it is the one requested. A stale
mount of the same export is unmounted lazily. -/
def alreadyPublished : Call β Bool := do
  if !(← probe env .isDir (readTarget t Target.dir)) then return false
  match ← getVolumeMount env t with
  | none => pure false
  | some (device, isReadonly) =>
    if device ≠ req.mountSpec then
      if exportPath device = exportPath req.mountSpec then
        let _ ← umount env t true
        pure false
      else throw (.abort .alreadyExists
        s!"Volume already mounted from {device} instead of {req.mountSpec}")
    else if isReadonly ≠ req.readonly then
      let how := if isReadonly then "readonly" else "readwrite"
      throw (.abort .alreadyExists s!"Volume already mounted as {how}")
    else pure true

def storeMetaFile (m : Meta) : Call β Unit := do
  command env .openMeta (changeTarget t (·.setMeta .torn))
  command env .writeMeta (changeTarget t (·.setMeta (.whole m)))
  command env .chmodMeta (pure ())

def cleanupPublishMetaTmpfs : Call β Unit := do
  command env .deleteMeta (changeTarget t (·.setMeta .absent))
  let _ ← umountTmpfs env t

def deleteCredentials (hasMtls : Bool) (volumeId : String) : Call β Unit :=
  if hasMtls then deleteMtlsCredentials env volumeId else pure ()

/-- The keyring part of `to_mount_flags`. -/
def loadCredentials : Call β Unit :=
  if req.mtls && req.credentials then loadMtlsCredentials env req.volumeId else pure ()

def mountMeta : Call β Unit := do
  command env .mkdir (changeTarget t fun target => { target with dir := true })
  command env .mountTmpfs (changeTarget t (·.push (.tmpfs .absent)))
  storeMetaFile env t req.metadata

def mountVolume : Call β Unit :=
  catching (command env .mountVolume (changeTarget t (·.push (.volume req.mountSpec req.ro))))
    fun e => do
      cleanupPublishMetaTmpfs env t
      deleteCredentials env req.mtls req.volumeId
      throw e

def nodePublish : Call β Unit := do
  command env .prepare (pure ())
  if ← alreadyPublished env t req then pure ()
  else
    mountMeta env t req
    catching (loadCredentials env req) fun _ => do
      -- the text of the cause follows
      cleanupPublishMetaTmpfs env t
      throw (.abort .failedPrecondition "Failed to load mTLS credentials: ")
    mountVolume env t req

variable (conf : Conf) (cleanUp : Meta → EStateM Vms.Err β Unit)

/-- Unmount until no volume is mounted, at most `n` looks. -/
def unmountLoop : Nat → Call β Unit
  | 0 => throw (.abort .unknown
      s!"Stuck in unmount loop of {t} too many times ({conf.unmountAttempts})")
  | n + 1 => do
    match ← getVolumeMount env t with
    | none => pure ()
    | some _ =>
      umountOrForce env t conf
      unmountLoop n

def onBackend (x : EStateM Vms.Err β Unit) : Call β Unit := fun w =>
  match x w.backend with
  | .ok _ b => .ok () { w with backend := b }
  | .error e b => .error (.backend e) { w with backend := b }

def Meta.deletesBackend (m : Meta) : Bool := m.isEphemeral && (m.bucketName.getD "").isEmpty

/-- `_process_meta`: an ephemeral volume is deleted. The command is the reading
of the stored session and LUKS manager. -/
def processMeta (m : Meta) : Call β Unit :=
  if m.deletesBackend then do
    command env .openMetaSession (pure ())
    onBackend (cleanUp m)
  else pure ()

def readAndProcessMetaFile : Call β Meta := do
  match ← command env .readMeta (readTarget t Target.metaFile) with
  | .absent => throw (.osError "No such file or directory")
  | .torn => throw .jsonDecodeError
  | .whole m =>
    processMeta env cleanUp m
    pure m

/-- The metadata file, when there is one: whether it names mTLS credentials. -/
def consumeMeta : Call β Bool := do
  if ← probe env .metaExists (readTarget t fun target => target.metaFile != .absent) then
    let m ← readAndProcessMetaFile env t cleanUp
    command env .removeMeta (changeTarget t (·.setMeta .absent))
    pure m.hasMtls
  else pure false

def nodeUnpublish (volumeId : String) : Call β Unit := do
  if ← probe env .pathExists (readTarget t Target.dir) then
    unmountLoop env t conf conf.unmountAttempts
    let hasMtls ← consumeMeta env t cleanUp
    let _ ← umountTmpfs env t
    deleteCredentials env hasMtls volumeId
    command env .rmdir (onTarget t Target.rmdir)

end

end VastCsi.Csi.Node
