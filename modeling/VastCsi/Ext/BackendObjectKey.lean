import VastCsi.Csi.VolumeNames

/-!
# The backend object of a volume handle

The driver names a volume's backend object from the StorageClass and the volume name, and returns
the name as the handle, with `@<cluster>` when the class names a cluster. The operator computes
the object back from the handle: it drops nothing, renders no template, and cleans the path. Texts
are their characters here.
-/

namespace VastCsi.Ext.BackendKey

open Lib Lib.Paths Csi

def trimPrefix : List Char → List Char
  | '/' :: cs => cs
  | cs => cs

def fileKey (rootExport handle : List Char) : List Char :=
  if isRooted handle then handle
  else Text.rstrip '/' (goJoin rootExport (base handle))

def blockKey (volumeGroup handle : List Char) : List Char :=
  if isRooted handle then trimPrefix handle
  else Text.rstrip '/' (goJoin (trimPrefix volumeGroup) handle)

section

variable {name clusterName : List Char}

theorem isRooted_segment (h : Segment name) : isRooted name = false := by
  rw [isRooted, beq_eq_false_iff_ne]
  exact h.head

/-- A handle is a name itself. -/
theorem segment_handle (h : Segment name) (hcluster : '/' ∉ clusterName) :
    Segment (toVolumeIdWithMetadata name clusterName) := by
  unfold toVolumeIdWithMetadata
  split
  next => exact h
  next =>
    -- the `@` is in the handle, and in neither of the dots
    have hat : '@' ∈ name ++ '@' :: clusterName := by simp
    refine ⟨by simp, ?_, ?_, ?_⟩
    · simp [h.slash, hcluster]
    · intro he; rw [he] at hat; revert hat; decide
    · intro he; rw [he] at hat; revert hat; decide

theorem handle_eq_name_iff : toVolumeIdWithMetadata name clusterName = name ↔ clusterName = [] := by
  unfold toVolumeIdWithMetadata
  constructor
  · intro h
    by_contra hne
    rw [if_neg hne] at h
    have := congrArg List.length h
    simp at this
  · exact fun h => if_pos h

variable {rootExport : List Char}

/-- The operator's key of a file handle. -/
theorem fileKey_segment (h : Segment name) :
    fileKey rootExport name = cleanDir rootExport ++ name := by
  unfold fileKey
  rw [if_neg (by rw [isRooted_segment h]; decide), base_segment h, goJoin_segment h,
    rstrip_append_segment h]

/-- The operator's key of a block handle. -/
theorem blockKey_segment {volumeGroup : List Char} (h : Segment name) :
    blockKey volumeGroup name = cleanDir (trimPrefix volumeGroup) ++ name := by
  unfold blockKey
  rw [if_neg (by rw [isRooted_segment h]; decide), goJoin_segment h, rstrip_append_segment h]

/-- A root export that the driver makes absolute is not what the operator cleans. -/
theorem rootExportAbs_iff : cleanDir rootExport = withSlash (rootExportAbs rootExport) ↔
      isRooted rootExport = true ∧ cleanDir rootExport = withSlash rootExport := by
  cases hrooted : isRooted rootExport with
  | true =>
    have habs : rootExportAbs rootExport = rootExport := if_pos (beq_iff_eq.mp hrooted)
    rw [habs]
    simp
  | false =>
    have habs : rootExportAbs rootExport = '/' :: rootExport :=
      if_neg (beq_eq_false_iff_ne.mp hrooted)
    have hhead : (withSlash ('/' :: rootExport)).head? = some '/' := by
      unfold withSlash
      split <;> rfl
    rw [habs]
    constructor
    · intro h
      exact absurd (h ▸ hhead) (cleanDir_head hrooted)
    · rintro ⟨h, -⟩
      cases h

theorem fileKey_iff (h : Segment name) (hcluster : '/' ∉ clusterName) :
    fileKey rootExport (toVolumeIdWithMetadata name clusterName) = viewPath rootExport name ↔
      clusterName = [] ∧ isRooted rootExport = true ∧
        cleanDir rootExport = withSlash rootExport := by
  have hhandle := segment_handle h hcluster
  rw [fileKey_segment hhandle, viewPath, join_segment h,
    append_segment_inj (isDir_cleanDir _) (isDir_withSlash _) hhandle.slash h.slash,
    handle_eq_name_iff, rootExportAbs_iff, and_comm]

theorem blockKey_iff {volumeGroup group : List Char} (h : Segment name)
    (hcluster : '/' ∉ clusterName) :
    blockKey volumeGroup (toVolumeIdWithMetadata name clusterName) =
        Text.lstrip '/' (join (join ['/'] group) name) ↔
      clusterName = [] ∧
        cleanDir (trimPrefix volumeGroup) = Text.lstrip '/' (withSlash (join ['/'] group)) := by
  have hhandle := segment_handle h hcluster
  rw [blockKey_segment hhandle, join_segment h, lstrip_append_segment h,
    append_segment_inj (isDir_cleanDir _) (isDir_lstrip (isDir_withSlash _)) hhandle.slash h.slash,
    handle_eq_name_iff, and_comm]

end

/-- **The operator finds the driver's object** exactly when the class names no cluster and
the directory it has, with the template rendered, is clean. -/
theorem backendObjectKey_iff (field : Pvc → List Char → Option (List Char))
    (rootExport volumeGroup clusterName : List Char) (pvc : Pvc) (name : List Char)
    (hname : Segment name) (hcluster : '/' ∉ clusterName) :
    (fileKey rootExport (toVolumeIdWithMetadata name clusterName) = viewPath rootExport name ↔
      clusterName = [] ∧ isRooted rootExport = true ∧ cleanDir rootExport = withSlash rootExport) ∧
    ∀ volumeName, buildVolumeName field volumeGroup pvc name = some volumeName →
      (blockKey volumeGroup (toVolumeIdWithMetadata name clusterName) = volumeName ↔
        clusterName = [] ∧ ∃ group, renderGroup field volumeGroup pvc = some group ∧
          cleanDir (trimPrefix volumeGroup) = Text.lstrip '/' (withSlash (join ['/'] group))) := by
  refine ⟨fileKey_iff hname hcluster, fun volumeName hbuild => ?_⟩
  obtain ⟨group, hgroup, rfl⟩ := Option.map_eq_some_iff.mp hbuild
  rw [blockKey_iff hname hcluster, hgroup]
  simp

def plainFields (pvc : Pvc) (field : List Char) : Option (List Char) :=
  if field = "namespace".toList then some pvc.namespace_
  else if field = "name".toList then some pvc.name
  else none

/-- A class that names a cluster, and a template with a placeholder. -/
theorem keys_disagree :
    let pvc : Pvc := ⟨"data".toList, "default".toList⟩
    let name := "pvc-1".toList
    fileKey "/k8s".toList (toVolumeIdWithMetadata name "c1".toList) = "/k8s/pvc-1@c1".toList ∧
      viewPath "/k8s".toList name = "/k8s/pvc-1".toList ∧
      blockKey "/vol/{namespace}".toList (toVolumeIdWithMetadata name []) =
        "vol/{namespace}/pvc-1".toList ∧
      buildVolumeName plainFields "/vol/{namespace}".toList pvc name =
        some "vol/default/pvc-1".toList := by
  decide +kernel

/-- Without either they agree. -/
theorem backendObjectKey_iff_plain :
    let pvc : Pvc := ⟨"data".toList, "default".toList⟩
    let name := "pvc-1".toList
    fileKey "/k8s/".toList (toVolumeIdWithMetadata name []) = viewPath "/k8s/".toList name ∧
      buildVolumeName plainFields "/vol/block".toList pvc name =
        some (blockKey "/vol/block".toList (toVolumeIdWithMetadata name [])) := by
  intro pvc name
  have hname : Segment name := ⟨by decide, by decide, by decide, by decide⟩
  obtain ⟨hfile, hblock⟩ := backendObjectKey_iff plainFields "/k8s/".toList "/vol/block".toList []
    pvc name hname (by decide)
  have hbuild : buildVolumeName plainFields "/vol/block".toList pvc name =
      some "vol/block/pvc-1".toList := by decide +kernel
  refine ⟨hfile.mpr (by decide +kernel), ?_⟩
  rw [hbuild,
    (hblock _ hbuild).mpr ⟨rfl, "/vol/block".toList, by decide +kernel, by decide +kernel⟩]

end VastCsi.Ext.BackendKey
