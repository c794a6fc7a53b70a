import VastCsi.Csi.VolumeNames
import VastCsi.Vms.Session

/-!
# Clones of block volumes

A clone is looked up by the end of its name; a missing one is made from a snapshot, which has the
size of the volume it shows, and gets its QoS policy in a request of its own. A clone that is
smaller than the request is enlarged, and the node is told to resize its file system
(`need_resize`). Waiting for the data changes none of the objects.
-/

namespace VastCsi.Csi.BlockClone

open Lib Vms

structure Subsystem where
  id : Nat
  name : String
  path : String
  tenantId : String
  tenantName : String
  nqn : String
  isBlock : Bool := true
  deriving DecidableEq, Repr

structure BlockVolume where
  id : Nat
  name : String
  viewId : Nat
  size : Nat
  nguid : String
  qosPolicyId : Option Nat := none
  deriving DecidableEq, Repr

/-- A snapshot, with the size of the volume it shows. -/
structure BlockSnapshot where
  id : Nat
  name : String
  path : String
  tenantId : String
  tenantName : String
  size : Nat
  deriving DecidableEq, Repr

structure QosPolicy where
  id : Nat
  name : String
  deriving DecidableEq, Repr

structure BlockVms where
  swVersion : SemVer
  subsystems : Table Subsystem Subsystem.id
  volumes : Table BlockVolume BlockVolume.id
  snapshots : Table BlockSnapshot BlockSnapshot.id
  qosPolicies : Table QosPolicy QosPolicy.id
  nguidOf : Nat → String

/-- `os.path.join(view.path, name.lstrip("/"))`. -/
def pathIn (view : Subsystem) (name : String) : String :=
  String.ofList (Paths.join view.path.toList (Text.lstrip '/' name.toList))

def BlockVms.sizeAt (c : BlockVms) (path : String) : Nat :=
  match c.volumes.rows.find? (fun r => (c.subsystems.find? r.viewId).any fun view =>
    Text.strip '/' (pathIn view r.name) == Text.strip '/' path) with
  | some r => r.size
  | none => 0

/-- The fate of each request, and of each wait for the data of a clone. -/
structure BlockEnv where
  fate : Nat → Fate Fault
  awaited : Nat → Except Err Unit := fun _ => .ok ()

def BlockEnv.steady : BlockEnv where
  fate := fun _ => .answered

structure BlockWorld where
  vms : BlockVms
  calls : Nat := 0

abbrev BlockCall := EStateM Err BlockWorld

def ask {α : Type} (env : BlockEnv) (x : BlockCall α) : BlockCall α :=
  fun w => remote Fault.err x (env.fate w.calls) { w with calls := w.calls + 1 }

def readBlock {α : Type} (f : BlockVms → α) : BlockCall α := fun w => .ok (f w.vms) w

def oneOf {α : Type} (env : BlockEnv) (k : Kind) (rows : BlockVms → List α) :
    BlockCall (Option α) := do
  match ← ask env (readBlock rows) with
  | [] => pure none
  | [r] => pure (some r)
  | _ => throw (.tooMany k)

inductive CloneSource where
  | volume (volumeId : String)
  | snapshot (snapshotId : String)
  deriving DecidableEq, Repr

structure BlockCloneReq where
  name : String
  subsystem : String
  source : CloneSource
  tenantName : Option String := none
  volumeGroup : String := ""
  pvc : Pvc := ⟨[], []⟩
  field : Pvc → List Char → Option (List Char) := fun _ _ => none
  capacity : Nat := 0
  isFilesystem : Bool := true
  /-- The name and the id of the QoS policy; an empty name and a zero are none. -/
  qosPolicy : String := ""
  qosPolicyId : Option Nat := none
  blockingClones : Bool := false
  transportType : String := "TCP"
  mountOptions : String := ""
  clusterName : String := ""
  vipPoolName : Option String := none
  vipPoolFqdn : Option String := none
  vipPoolFqdnRandomPrefix : Bool := true
  hostEncryption : Option String := none

/-- `build_volume_name`; `none` when the template cannot be rendered. -/
def BlockCloneReq.volumeName (req : BlockCloneReq) : Option String :=
  (buildVolumeName req.field req.volumeGroup.toList req.pvc req.name.toList).map String.ofList

def BlockCloneReq.snapshotName (req : BlockCloneReq) : String := "snp-" ++ req.name

/-- The filter of `get_subsystem`. -/
def BlockCloneReq.isDestination (req : BlockCloneReq) (view : Subsystem) : Bool :=
  view.name == req.subsystem && req.tenantName.all (view.tenantName == ·)

structure BlockContext where
  subsystem : String
  transportType : String
  mountOptions : String
  vipPoolName : Option String
  vipPoolFqdn : Option String
  vipPoolFqdnRandomPrefix : Bool
  hostEncryption : Option String
  volumeName : String
  needResize : Bool
  nguid : String
  volumeId : Nat
  tenantName : String
  subsystemNqn : String
  deriving DecidableEq, Repr

structure ClonedVolume where
  capacityBytes : Nat
  volumeId : String
  contentSource : CloneSource
  context : BlockContext
  deriving DecidableEq, Repr

structure Destination where
  name : String
  view : Subsystem
  tenantName : String
  deriving DecidableEq, Repr

def BlockCloneReq.response (req : BlockCloneReq) (dest : Destination) (clone : BlockVolume)
    (needResize : Bool) : ClonedVolume where
  capacityBytes := req.capacity
  volumeId := String.ofList (toVolumeIdWithMetadata req.name.toList req.clusterName.toList)
  contentSource := req.source
  context :=
    { subsystem := req.subsystem
      transportType := req.transportType
      mountOptions := req.mountOptions
      vipPoolName := req.vipPoolName
      vipPoolFqdn := if req.vipPoolName.isSome then none else req.vipPoolFqdn
      vipPoolFqdnRandomPrefix :=
        req.vipPoolName.isNone && req.vipPoolFqdn.isSome && req.vipPoolFqdnRandomPrefix
      hostEncryption := req.hostEncryption
      volumeName := dest.name
      needResize
      nguid := clone.nguid
      volumeId := clone.id
      tenantName := dest.tenantName
      subsystemNqn := dest.view.nqn }

/-- `requisite`, for subsystems. -/
def requireBlock {α : Type} (env : BlockEnv) (op : String) (x : BlockCall α) : BlockCall α := do
  if (← ask env (readBlock BlockVms.swVersion)).lt ⟨5, 3, 0⟩ then
    throw (.operationNotSupported op)
  else x

def checkBlock (view : Subsystem) : BlockCall Subsystem :=
  if view.isBlock then pure view
  else throw (.assertion s!"View {view.name} is not a block volume")

def getSubsystem (env : BlockEnv) (req : BlockCloneReq) : BlockCall Subsystem :=
  requireBlock env "get_subsystem" do
    match ← oneOf env .view (·.subsystems.select req.isDestination) with
    | none => throw (.noRecordsFound .view)
    | some view => checkBlock view

def getSubsystemById (env : BlockEnv) (id : Nat) : BlockCall Subsystem :=
  requireBlock env "get_subsystem_by_id" do
    match ← ask env (readBlock fun c => c.subsystems.find? id) with
    | none => throw (.httpError 404 "")
    | some view => checkBlock view

def createSnapshot (name path : String) (view : Subsystem) : BlockCall BlockSnapshot := fun w =>
  let r : BlockSnapshot :=
    { id := w.vms.snapshots.fresh, name, path, tenantId := view.tenantId
      tenantName := view.tenantName, size := w.vms.sizeAt path }
  .ok r { w with vms := { w.vms with snapshots := w.vms.snapshots.insert r } }

/-- `Snapshot.ensure`, of a volume in the subsystem. -/
def ensureSnapshot (env : BlockEnv) (name path : String) (view : Subsystem) :
    BlockCall BlockSnapshot := do
  match ← oneOf env .snapshot (·.snapshots.select (·.name == name)) with
  | some snapshot =>
    if Text.strip '/' snapshot.path == Text.strip '/' path then pure snapshot
    else
      throw (.exception (s!"Snapshot already exists, but the specified path {path}" ++
        s!" does not correspond to the path of the snapshot {snapshot.path}"))
  | none => ask env (createSnapshot name (String.ofList (Text.rstrip '/' path.toList) ++ "/") view)

def clonedRow (c : BlockVms) (name : String) (viewId size : Nat) : BlockVolume where
  id := c.volumes.fresh
  name := name
  viewId := viewId
  size := size
  nguid := c.nguidOf c.volumes.fresh

def cloneVolume (snapshotId viewId : Nat) (name : String) : BlockCall BlockVolume := fun w =>
  match w.vms.snapshots.find? snapshotId with
  | none => .error (.httpError 404 "") w
  | some snapshot =>
    let clone := clonedRow w.vms name viewId snapshot.size
    .ok clone { w with vms := { w.vms with volumes := w.vms.volumes.insert clone } }

structure VolumeChange where
  apply : BlockVolume → BlockVolume
  keeps : ∀ r, (apply r).id = r.id

def VolumeChange.qos (id : Nat) : VolumeChange :=
  ⟨({ · with qosPolicyId := some id }), fun _ => rfl⟩

def VolumeChange.size (size : Nat) : VolumeChange := ⟨({ · with size }), fun _ => rfl⟩

def BlockVms.updateVolume (c : BlockVms) (id : Nat) (change : VolumeChange) : BlockVms :=
  { c with volumes := c.volumes.modify id change.apply change.keeps }

def updateVolume (id : Nat) (change : VolumeChange) : BlockCall Unit := fun w =>
  match w.vms.volumes.find? id with
  | none => .error (.httpError 404 "") w
  | some _ => .ok () { w with vms := w.vms.updateVolume id change }

def qosPolicyId (env : BlockEnv) (req : BlockCloneReq) : BlockCall (Option Nat) := do
  if req.qosPolicy = "" then pure req.qosPolicyId
  else
    match ← oneOf env .policy (·.qosPolicies.select (·.name == req.qosPolicy)) with
    | none => throw (.noRecordsFound .policy)
    | some policy => pure (some policy.id)

def setQos (env : BlockEnv) (req : BlockCloneReq) (clone : BlockVolume) : BlockCall Unit := do
  match ← qosPolicyId env req with
  | none | some 0 => pure ()
  | some id => ask env (updateVolume clone.id (.qos id))

/-- The clone, which is made when no volume has a name that ends in its name. -/
def ensureClone (env : BlockEnv) (req : BlockCloneReq) (dest : Destination)
    (snapshot : BlockCall BlockSnapshot) : BlockCall BlockVolume := do
  match ← oneOf env .volume (·.volumes.select (Text.endsWith ·.name dest.name)) with
  | some clone => pure clone
  | none =>
    let snapshot ← snapshot
    let clone ← ask env (cloneVolume snapshot.id dest.view.id dest.name)
    setQos env req clone
    pure clone

/-- `wait_by_loanee_path`, when clones are waited for. -/
def awaitClone (env : BlockEnv) (req : BlockCloneReq) : BlockCall Unit :=
  if req.blockingClones then
    ask env fun w =>
      match env.awaited w.calls with
      | .ok _ => .ok () w
      | .error e => .error e w
  else pure ()

/-- Enlarge a clone that is too small; the result is `need_resize`. -/
def enlarge (env : BlockEnv) (req : BlockCloneReq) (clone : BlockVolume) : BlockCall Bool :=
  if clone.size < req.capacity then do
    ask env (updateVolume clone.id (.size req.capacity))
    pure req.isFilesystem
  else pure false

def provisionClone (env : BlockEnv) (req : BlockCloneReq) (dest : Destination)
    (snapshot : BlockCall BlockSnapshot) : BlockCall ClonedVolume := do
  let clone ← ensureClone env req dest snapshot
  awaitClone env req
  let needResize ← enlarge env req clone
  pure (req.response dest clone needResize)

def cloneName (req : BlockCloneReq) : BlockCall String :=
  match req.volumeName with
  | some name => pure name
  | none => throw (.exception "KeyError")

/-- The subsystem of the clone: that of the source when it has the name. -/
def destinationView (env : BlockEnv) (req : BlockCloneReq) (sourceView : Subsystem) :
    BlockCall Subsystem :=
  if sourceView.name = req.subsystem then pure sourceView else getSubsystem env req

/-- `BlockVolumeFromVolumeBuilder.build_volume`. -/
def buildFromVolume (env : BlockEnv) (req : BlockCloneReq) (volumeId : String) :
    BlockCall ClonedVolume := do
  match ← oneOf env .volume
      (·.volumes.select (Text.endsWith ·.name (withoutCluster volumeId))) with
  | none => throw (.abort .notFound s!"Unknown volume: {withoutCluster volumeId}")
  | some source =>
    let sourceView ← getSubsystemById env source.viewId
    let name ← cloneName req
    let view ← destinationView env req sourceView
    provisionClone env req ⟨name, view, sourceView.tenantName⟩
      (ensureSnapshot env req.snapshotName (pathIn sourceView source.name) sourceView)

/-- `BlockVolumeFromSnapshotBuilder.build_volume`. -/
def buildFromSnapshot (env : BlockEnv) (req : BlockCloneReq) (snapshotId : String) :
    BlockCall ClonedVolume := do
  match ← ask env (readBlock fun c =>
      (withoutCluster snapshotId).toNat?.bind c.snapshots.find?) with
  | none => throw (.httpError 404 "")
  | some snapshot =>
    let name ← cloneName req
    let view ← getSubsystem env req
    provisionClone env req ⟨name, view, snapshot.tenantName⟩ (pure snapshot)

/-- `CreateVolume` of a block volume with a content source. -/
def cloneBlockVolume (env : BlockEnv) (req : BlockCloneReq) : BlockCall ClonedVolume :=
  match req.source with
  | .volume volumeId => buildFromVolume env req volumeId
  | .snapshot snapshotId => buildFromSnapshot env req snapshotId

end VastCsi.Csi.BlockClone
