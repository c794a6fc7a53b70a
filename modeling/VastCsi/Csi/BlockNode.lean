import VastCsi.Csi.NfsNode

/-!
# `NodeUnpublishVolume` of the block node

The block node unmounts the volume once, without a loop. An ephemeral volume has no
staging path: its device is bound at `<target>/device`, inside the metadata tmpfs, and
`NodeUnstageVolume` takes it away after the backend volume is deleted and before the
metadata file is. Whether the path may be removed is asked of the mount table.
-/

namespace VastCsi.Csi.Node

open Lib

namespace Target

def umountDevice (target : Target) : Except Err (Bool × Target) :=
  .ok (target.device, { target with device := false })

def delete (target : Target) : Except Err (Unit × Target) :=
  if target.device then .error (.osError "Device or resource busy")
  else .ok ((), { target with dir := false })

end Target

section

variable {β : Type} (env : Env) (t : String) (conf : Conf)

def deviceBindPath : String := t ++ "/device"

def stillMounted (path : String) : Err := .exception s!"Path {path} is mounted. Cannot remove."

def releaseDevice : Call β Unit := do
  if ← command env .getMount (readTarget t Target.device) then
    orForce conf (deviceBindPath t) fun _ =>
      command env .umountDevice (onTarget t Target.umountDevice)
  else pure ()

/-- `luks_close_device`; a refused `luksClose` is ignored. -/
def luksCloseDevice : Call β Unit :=
  tryCatch (command env .luksClose (pure ())) fun
    | .osError _ => pure ()
    | e => throw e

/-- `remove_path_if_not_mounted(device_bind_path)`; the file goes with its tmpfs. -/
def removeDevicePath : Call β Unit := do
  if ← command env .getMount (readTarget t Target.device) then
    throw (stillMounted (deviceBindPath t))
  else command env .removeDevice (pure ())

/-- `NodeUnstageVolume`, with the target path as the staging path. -/
def nodeUnstage : Call β Unit := do
  releaseDevice env t conf
  luksCloseDevice env
  removeDevicePath env t

def unstageEphemeral (m : Meta) : Call β Unit :=
  if m.isEphemeral then nodeUnstage env t conf else pure ()

def removeTargetPath : Call β Unit := do
  if ← command env .getMount (readTarget t fun target => !target.layers.isEmpty) then
    throw (stillMounted t)
  else command env .removePath (onTarget t Target.delete)

def releaseVolume : Call β Unit := do
  match ← getVolumeMount env t with
  | none => pure ()
  | some _ => umountOrForce env t conf

variable (cleanUp : Meta → EStateM Vms.Err β Unit)

def consumeBlockMeta : Call β Unit := do
  if ← probe env .metaExists (readTarget t fun target => target.metaFile != .absent) then
    let m ← readAndProcessMetaFile env t cleanUp
    unstageEphemeral env t conf m
    command env .removeMeta (changeTarget t (·.setMeta .absent))
  else pure ()

/-- `NodeUnpublishVolume` of the block node. -/
def blockNodeUnpublish : Call β Unit := do
  releaseVolume env t conf
  consumeBlockMeta env t conf cleanUp
  let _ ← umountTmpfs env t
  removeTargetPath env t

end

end VastCsi.Csi.Node
