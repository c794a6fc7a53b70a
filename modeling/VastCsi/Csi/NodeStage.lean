import VastCsi.Vms.Session

/-!
# `NodeStageVolume` of the block plugin

Two commands destroy what a device holds: `cryptsetup luksFormat` on the raw device and `mkfs` on
the device the volume is used through. `get_filesystem_type` tells a clean answer of `blkid` (0: a
type was found, 2: none) from a failure. `_is_luks_device` does not: every exit status of
`cryptsetup isLuks` but 0 counts as "not LUKS", and a raw device with a file system is never
looked at.
-/

namespace VastCsi.Csi

open Lib Vms

inductive Content where
  | blank
  | fs (type : String)
  /-- A LUKS header, and what the container holds. -/
  | luks (inner : Content)
  deriving DecidableEq, Repr

/-- The device behind a LUKS mapping of a device with this content. -/
def Content.inner : Content → Content
  | .luks c => c
  | _ => .blank

def Content.isLuks : Content → Bool
  | .luks _ => true
  | _ => false

/-- What `blkid -s TYPE -o value` prints. -/
def Content.type : Content → String
  | .blank => ""
  | .fs t => t
  | .luks _ => "crypto_LUKS"

inductive Exit where
  | code (n : Nat)
  | timedOut
  deriving DecidableEq, Repr

inductive Device where
  | raw
  /-- `/dev/mapper/vast-csi-crypt-<volume id>`. -/
  | mapper
  deriving DecidableEq, Repr

/-- The devices, and a ghost record of the format commands run so far: the
device and what it carried. -/
structure Node where
  raw : Content
  mapper : Option Content
  formats : List (Device × Content) := []

def Node.content (n : Node) : Device → Content
  | .raw => n.raw
  | .mapper => n.mapper.getD .blank

inductive StageErr where
  | abort (code : Code) (message : String)
  | timedOut
  | processError (n : Nat)
  | exception (message : String)
  deriving DecidableEq, Repr

abbrev Stage := EStateM StageErr Node

structure PublishContext where
  subsystemNqn : String
  hostNqn : String
  nguid : String
  discoveryServer : String
  deriving DecidableEq, Repr

structure StageCaps where
  isFilesystem : Bool
  fsType : String
  isReadonly : Bool
  deriving DecidableEq, Repr

structure StageReq where
  volumeId : String
  publishContext : Option PublishContext
  needResize : Bool
  encryptionConfig : Bool
  passphrase : String
  deriving DecidableEq, Repr

/-- The outcomes of the steps before encryption, the probes as functions of what the probed device
carries, and how the other commands end. -/
structure NodeEnv where
  /-- The message of the holder when the volume is locked. -/
  lockedBy : Option String
  caps : Except String StageCaps
  alreadyStaged : Bool
  /-- `_get_publish_context_for_non_attach_required`. -/
  derivedContext : Except StageErr PublishContext
  sessionConnected : Bool
  multipathEnabled : Bool
  connects : Bool
  deviceFound : Bool
  /-- I/O policy, controller timeout and error logging are set. -/
  tuned : Except StageErr Unit
  /-- The path of the raw device, and what failing commands print. -/
  devicePath : String
  stderr : String
  isLuks : Content → Exit
  /-- `cryptsetup status`, and whether its output has `LUKS2`. -/
  status : Exit × Bool
  luksFormat : Exit
  luksOpen : Exit
  setReadwrite : Exit
  blkid : Content → Exit
  mkfs : Exit
  integrity : Except String Unit
  /-- Resizing the container and the file system, in a temporary mount. -/
  resize : Except StageErr Unit
  setReadonly : Exit
  bindMount : Exit

def stageContext (env : NodeEnv) (req : StageReq) : Except StageErr PublishContext :=
  match req.publishContext with
  | some ctx => .ok ctx
  | none => env.derivedContext

def ensureSession (env : NodeEnv) (ctx : PublishContext) : Except StageErr Unit :=
  if env.sessionConnected then .ok ()
  else if !env.multipathEnabled then
    .error (.abort .failedPrecondition ("NVMe native multipath is not enabled on the system. " ++
      "Please enable it to use NVMe subsystems."))
  else if !env.connects then
    .error (.abort .failedPrecondition
      s!"Failed to get NVMe session after connecting to {ctx.subsystemNqn}")
  else .ok ()

/-- The steps before encryption; they do not touch the device's content.
`none` is the return of a volume that is staged already. -/
def stagePrelude (env : NodeEnv) (req : StageReq) : Except StageErr (Option StageCaps) := do
  match env.lockedBy with
  | some message => throw (.abort .aborted message)
  | none =>
    match env.caps with
    | .error message => throw (.abort .invalidArgument message)
    | .ok caps =>
      if env.alreadyStaged then pure none
      else do
        let ctx ← stageContext env req
        ensureSession env ctx
        if env.deviceFound then do
          env.tuned
          pure (some caps)
        else
          throw (.abort .notFound (s!"NVMe device not found for subsystem {ctx.subsystemNqn} " ++
            s!"and nguid {ctx.nguid}"))

def requiresEncryption (req : StageReq) : Except StageErr Bool :=
  if req.encryptionConfig && req.passphrase == "" then
    .error (.abort .invalidArgument "Encryption config is present but passphrase is missing.")
  else .ok (req.passphrase != "")

def check (e : Exit) : Stage Unit :=
  match e with
  | .code 0 => pure ()
  | .code n => throw (.processError n)
  | .timedOut => throw .timedOut

/-- A LUKS command: failures become `Abort(ABORTED)`. -/
def checkLuks (e : Exit) (failed timedOut : String) : Stage Unit :=
  match e with
  | .code 0 => pure ()
  | .code _ => throw (.abort .aborted failed)
  | .timedOut => throw (.abort .aborted timedOut)

/-- `_is_luks_device` on the raw device: any non-zero exit means no. -/
def isLuksDevice (env : NodeEnv) : Stage Bool := do
  match env.isLuks (← get).raw with
  | .code 0 => pure true
  | .code _ => pure false
  | .timedOut => throw .timedOut

def isLuksActive (env : NodeEnv) : Stage Bool :=
  match env.status with
  | (.code 0, luks2) => pure luks2
  | (.code _, _) => pure false
  | (.timedOut, _) => throw .timedOut

def recordFormat (d : Device) : Stage Unit :=
  modify fun n => { n with formats := (d, n.content d) :: n.formats }

def luksFormatDevice (env : NodeEnv) : Stage Unit := do
  recordFormat .raw
  checkLuks env.luksFormat s!"LUKS format failed for {env.devicePath}: {env.stderr}"
    (s!"LUKS format timed out after 600s for {env.devicePath}. " ++
      "This may indicate insufficient memory for pbkdf_memory setting.")
  modify fun n => { n with raw := .luks .blank }

def luksOpenDevice (env : NodeEnv) : Stage Unit := do
  checkLuks env.luksOpen s!"Failed to open LUKS device {env.devicePath}: {env.stderr}"
    s!"LUKS open timed out after 180s for {env.devicePath}"
  modify fun n => { n with mapper := some n.raw.inner }

/-- `init_host_encryption`; the volume is used through the mapper then. -/
def initHostEncryption (env : NodeEnv) : Stage Unit := do
  if ← isLuksDevice env then
    if ← isLuksActive env then pure ()
    else luksOpenDevice env
  else do
    luksFormatDevice env
    luksOpenDevice env

def devicePath (env : NodeEnv) (req : StageReq) : Device → String
  | .raw => env.devicePath
  | .mapper => s!"/dev/mapper/vast-csi-crypt-{req.volumeId}"

/-- `get_filesystem_type`: the printed type, or `none` for "no type found";
any other exit status is an error. -/
def getFilesystemType (env : NodeEnv) (req : StageReq) (d : Device) : Stage (Option String) := do
  let content := (← get).content d
  match env.blkid content with
  | .code 0 => pure (some content.type)
  | .code 2 => pure none
  | .code _ =>
    throw (.exception (s!"Failed to determine filesystem type for path " ++
      s!"'{devicePath env req d}': {env.stderr}"))
  | .timedOut => throw .timedOut

def mkfs (env : NodeEnv) (d : Device) (fsType : String) : Stage Unit := do
  recordFormat d
  check env.mkfs
  modify fun n =>
    match d with
    | .raw => { n with raw := .fs fsType }
    | .mapper => { n with mapper := some (.fs fsType) }

/-- `format_device`: whether the device was formatted. -/
def formatDevice (env : NodeEnv) (req : StageReq) (requestedFs : String) (d : Device) :
    Stage Bool := do
  match ← getFilesystemType env req d with
  | none => do
    mkfs env d requestedFs
    pure true
  | some currentFs =>
    if currentFs == requestedFs then pure false
    else if currentFs == "" then do
      mkfs env d requestedFs
      pure true
    else
      throw (.exception (s!"Cannot stage filesystem {requestedFs} on device that already has " ++
        s!"filesystem {currentFs}"))

/-- `check_fs_integrity` and the resize after `format_device`. -/
def finishFilesystem (env : NodeEnv) (req : StageReq) (d : Device) (formatted : Bool) :
    Stage Unit :=
  match env.integrity with
  | .error message =>
    throw (.abort .failedPrecondition
      s!"Filesystem integrity check failed for {devicePath env req d}: {message}")
  | .ok () =>
    if req.needResize && !formatted then
      match env.resize with
      | .error e => throw e
      | .ok () => pure ()
    else pure ()

def stageFilesystem (env : NodeEnv) (req : StageReq) (caps : StageCaps) (d : Device) : Stage Unit :=
  if caps.isFilesystem then do
    let formatted ← formatDevice env req caps.fsType d
    finishFilesystem env req d formatted
  else pure ()

def stageDevice (env : NodeEnv) (req : StageReq) (caps : StageCaps) (d : Device) : Stage Unit := do
  check env.setReadwrite
  stageFilesystem env req caps d
  check (if caps.isReadonly then env.setReadonly else .code 0)
  check env.bindMount

def nodeStageVolume (env : NodeEnv) (req : StageReq) : Stage Unit :=
  match stagePrelude env req with
  | .error e => throw e
  | .ok none => pure ()
  | .ok (some caps) =>
    match requiresEncryption req with
    | .error e => throw e
    | .ok true => do
      initHostEncryption env
      stageDevice env req caps .mapper
    | .ok false => stageDevice env req caps .raw

end VastCsi.Csi
