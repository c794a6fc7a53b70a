import VastCsi.Ext.CsiAddons
import VastCsi.Lib.Text

/-!
# The owners of replication objects

What is made for a `VastStorageClassReplication` or a `VastVolumeReplication` lives in the
namespace of the PVCs, which need not be the owner's. So ownership is written into labels: the
owner's name under a key of its kind, and the owner's namespace under another.
-/

namespace VastCsi.Ext

open VastCsi.Ext.CsiAddons

inductive OwnerKind where
  | vscr | vvr
  deriving DecidableEq, Repr

def OwnerKind.objectKind : OwnerKind → String
  | .vscr => "VolumeGroupReplication"
  | .vvr => "VolumeReplication"

/-- An owner, as the labels `source-vscr`, `source-vscr-namespace` or their
`vvr` counterparts name it. -/
structure Owner where
  kind : OwnerKind
  namespaceName : String
  name : String
  deriving DecidableEq, Repr

/-- A `VastStorageClassReplication` or `VastVolumeReplication`: its identity,
its spec, the name of its protected path from the status, and its finalizer. -/
structure Parent extends Owner where
  volumeNamespace : String := ""
  primaryStorageClass : String
  protectionTopology : List ReplicationTarget
  ppathName : String := ""
  finalizer : Bool := true
  deriving DecidableEq

namespace Parent

variable (p : Parent)

def pvcNamespace : String :=
  if Lib.Text.trim p.volumeNamespace = "" then p.namespaceName
  else Lib.Text.trim p.volumeNamespace

def storageClasses : List String := allStorageClasses p.protectionTopology

def objectName (scName : String) : String := nameForSC p.name scName

end Parent

/-- The name of an object with its namespace. -/
abbrev Key := String × String

/-- What a `VastReplicationContent` says of itself and its owner, in its labels, and how far its
deletion has come. -/
structure ContentMeta where
  namespaceName : String
  name : String
  owner : Owner
  deleting : Bool := false
  /-- The annotation that its part of the cleanup is done. -/
  cleanupDone : Bool := false
  deriving DecidableEq

def ContentMeta.key (x : ContentMeta) : Key := (x.namespaceName, x.name)

/-- What `GetConstellationVRCs` selects by: the namespace of the content, and the name of its
owner under the key of its kind. -/
def ContentMeta.constellation (x : ContentMeta) : String × OwnerKind × String :=
  (x.key.1, x.owner.kind, x.owner.name)

/-- The spec of a `VastReplicationContent`. -/
structure ContentSpec where
  storageClass : String
  pvcs : List String := []
  syncPVCPV : Bool := true
  replicationPath : String := ""
  protectedPathName : String := ""
  protectionPolicyNames : List String := []
  deriving DecidableEq

end VastCsi.Ext
