import VastCsi.Lib.Paths

/-!
# The names the driver gives to volumes

The handle of a volume is its name, with `@<cluster>` when the StorageClass names a
cluster. Its backend object is a view path under `root_export`, or a volume name under the
rendered `volume_group`. Texts are their characters here.
-/

namespace VastCsi.Csi

open Lib Lib.Paths

/-- The first part of `parse_volume_id`. -/
def parseVolumeId (volumeId : List Char) : List Char := volumeId.takeWhile (· != '@')

/-- The id of a source without the name of its cluster. -/
def withoutCluster (id : String) : String := String.ofList (parseVolumeId id.toList)

/-- `to_volume_id_with_metadata`; no cluster is the empty name. -/
def toVolumeIdWithMetadata (volumeId clusterName : List Char) : List Char :=
  if clusterName = [] then volumeId else volumeId ++ '@' :: clusterName

def rootExportAbs (rootExport : List Char) : List Char := join ['/'] rootExport

def viewPath (rootExport name : List Char) : List Char := join (rootExportAbs rootExport) name

/-- `str.format`: `field` is the value of a replacement field, `none` where Python raises.
The first argument is the field that is being read, backwards, with the braces open in it. -/
def format (field : List Char → Option (List Char)) :
    Option (List Char × Nat) → List Char → Option (List Char)
  | none, [] => some []
  | some _, [] => none
  | none, '{' :: '{' :: cs => ('{' :: ·) <$> format field none cs
  | none, '}' :: '}' :: cs => ('}' :: ·) <$> format field none cs
  | none, '{' :: cs => format field (some ([], 0)) cs
  | none, '}' :: _ => none
  | none, c :: cs => (c :: ·) <$> format field none cs
  | some (text, 0), '}' :: cs =>
    match field text.reverse with
    | none => none
    | some value => (value ++ ·) <$> format field none cs
  | some (text, depth + 1), '}' :: cs => format field (some ('}' :: text, depth)) cs
  | some (text, depth), '{' :: cs => format field (some ('{' :: text, depth + 1)) cs
  | some (text, depth), c :: cs => format field (some (c :: text, depth)) cs

/-- The PVC of a request, when the provisioner passes it on. -/
structure Pvc where
  name : List Char
  namespace_ : List Char

/-- The rendered `volume_group`; `field` evaluates the replacement fields of a PVC. -/
def renderGroup (field : Pvc → List Char → Option (List Char)) (volumeGroup : List Char)
    (pvc : Pvc) : Option (List Char) :=
  if pvc.name ≠ [] ∧ pvc.namespace_ ≠ [] then format (field pvc) none volumeGroup
  else some volumeGroup

def buildVolumeName (field : Pvc → List Char → Option (List Char)) (volumeGroup : List Char)
    (pvc : Pvc) (name : List Char) : Option (List Char) :=
  (renderGroup field volumeGroup pvc).map fun group =>
    Text.lstrip '/' (join (join ['/'] group) name)

end VastCsi.Csi
