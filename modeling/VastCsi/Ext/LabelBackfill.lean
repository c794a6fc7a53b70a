import VastCsi.Lib.Components

/-!
# The backfill of PVC labels

`ApplyExistingPVCs` labels the claims of a StorageClass whose volume is replicated. It lists the
views whose path begins with `root_export`, or the volumes whose name contains `volume_group`, and
takes a claim for one of theirs when the text of a key ends in the name of its PV. A claim that is
not bound has the empty name.
-/

namespace VastCsi.Ext.Backfill

open VastCsi.Lib VastCsi.Lib.Components List

/-- A StorageClass, with the parameters that are read. -/
structure StorageClass where
  provisioner : String
  subsystem : Option String := none
  volumeGroup : Option String := none
  rootExport : Option String := none

def isBlockStorageClass (sc : StorageClass) : Bool :=
  match sc.subsystem, sc.rootExport with
  | some _, some _ => Text.startsWith sc.provisioner "block"
  | some _, none => true
  | none, _ => false

structure Pvc where
  name : String
  storageClassName : Option String
  volumeName : String
  labels : List (String × String)
  deriving DecidableEq, Repr

structure Volume where
  subsystem : String
  name : String

/-- What is on the cluster: volumes, and the paths of views. -/
structure Backend where
  volumes : List Volume := []
  views : List String := []

/-- The calls that fail. -/
structure Failures where
  listObjects : Option String := none
  listPVCs : Option String := none
  patch : Pvc → Bool := fun _ => false

def labelStorageClass : String := "vastdata.com/storageClass"
def labelSubsystem : String := "vastdata.com/subsystem"

section Code

variable (scName : String) (sc : StorageClass)

/-- `strings.TrimPrefix(_, "/")`. -/
def trimSlash (s : String) : String :=
  if Text.startsWith s "/" then String.ofList (s.toList.drop 1) else s

/-- The listing of `backfillBlockMapping` and of `backfillFileMapping`. -/
def listed (be : Backend) : List String :=
  if isBlockStorageClass sc then
    (be.volumes.filter fun v => v.subsystem == sc.subsystem.getD "" &&
      Text.contains v.name (trimSlash (sc.volumeGroup.getD ""))).map (·.name)
  else be.views.filter (Text.startsWith · (sc.rootExport.getD ""))

/-- `strings.TrimRight(_, "/")`. -/
def key (object : String) : List Char := Text.rstrip '/' object.toList

def backfillVolumeMapping (be : Backend) : List (List Char) := (listed sc be).map key

def backfillMappingContainsPV (mapping : List (List Char)) (pvName : String) : Bool :=
  mapping.any fun key => pvName.toList.isSuffixOf key

def needsSCLabel (pvc : Pvc) : Bool := (pvc.labels.lookup labelStorageClass).isNone

def needsSubsystemLabel (pvc : Pvc) : Bool :=
  isBlockStorageClass sc && sc.subsystem.getD "" != "" && (pvc.labels.lookup labelSubsystem).isNone

def needsLabel (pvc : Pvc) : Bool := needsSCLabel pvc || needsSubsystemLabel sc pvc

def labelled (pvc : Pvc) : Pvc :=
  { pvc with labels :=
      (if needsSubsystemLabel sc pvc then [(labelSubsystem, sc.subsystem.getD "")] else []) ++
      (if needsSCLabel pvc then [(labelStorageClass, scName)] else []) ++ pvc.labels }

/-- The body of the loop. For another StorageClass it only logs. -/
def backfill (fails : Failures) (mapping : List (List Char)) (pvc : Pvc) : Pvc :=
  match pvc.storageClassName with
  | none => pvc
  | some pvcSC =>
    if !backfillMappingContainsPV mapping pvc.volumeName then pvc
    else if pvcSC ≠ scName then pvc
    else if !needsLabel sc pvc then pvc
    else if fails.patch pvc then pvc
    else labelled scName sc pvc

/-- The error that is returned, and the claims afterwards. -/
def applyExistingPVCs (be : Backend) (fails : Failures) (pvcs : List Pvc) :
    Except String Unit × List Pvc :=
  match fails.listObjects with
  | some e => (.error s!"list backend objects for {scName}: {e}", pvcs)
  | none =>
    if (backfillVolumeMapping sc be).isEmpty then (.ok (), pvcs)
    else
      match fails.listPVCs with
      | some e => (.error s!"list PVCs: {e}", pvcs)
      | none => (.ok (), pvcs.map (backfill scName sc fails (backfillVolumeMapping sc be)))

end Code

/-- The directory of the StorageClass. -/
def scope (sc : StorageClass) : List Char :=
  ((if isBlockStorageClass sc then sc.volumeGroup else sc.rootExport).getD "").toList

/-- The object is inside the directory of the StorageClass. -/
def isInside (sc : StorageClass) (object : String) : Bool :=
  isUnder (scope sc) object.toList && Text.words '/' (scope sc) != Text.words '/' object.toList

/-- The claim is bound, and its PV is named like an object of the StorageClass. -/
def isReplicated (sc : StorageClass) (be : Backend) (pvc : Pvc) : Bool :=
  pvc.volumeName != "" && (listed sc be).any fun object =>
    isInside sc object && basename (key object) == pvc.volumeName.toList

section Exact

variable {scName : String} {sc : StorageClass} {be : Backend} {pvc : Pvc}

theorem contains_of_isReplicated (h : isReplicated sc be pvc = true) :
    backfillMappingContainsPV (backfillVolumeMapping sc be) pvc.volumeName = true := by
  obtain ⟨-, hany⟩ := Bool.and_eq_true_iff.mp h
  obtain ⟨object, hlisted, hobject⟩ := any_eq_true.mp hany
  refine any_eq_true.mpr ⟨key object, mem_map_of_mem hlisted, ?_⟩
  have hbase : basename (key object) = pvc.volumeName.toList :=
    beq_iff_eq.mp (Bool.and_eq_true_iff.mp hobject).2
  rw [isSuffixOf_iff_suffix, ← hbase, basename, ← reverse_prefix, reverse_reverse]
  exact takeWhile_prefix _

theorem labelled_ne (scName : String) (h : needsLabel sc pvc = true) :
    labelled scName sc pvc ≠ pvc := by
  intro heq
  have hlen := congrArg (fun p => p.labels.length) heq
  rcases Bool.or_eq_true_iff.mp h with h | h
  · simp only [labelled, h, if_true, length_append, length_singleton] at hlen
    omega
  · simp only [labelled, h, if_true, length_append, length_singleton] at hlen
    omega

theorem labelled_eq (h : needsLabel sc pvc = false) : labelled scName sc pvc = pvc := by
  obtain ⟨hsc, hsub⟩ := Bool.or_eq_false_iff.mp h
  simp [labelled, hsc, hsub]

theorem applyExistingPVCs_eq (pvcs : List Pvc) : applyExistingPVCs scName sc be {} pvcs =
      (.ok (), pvcs.map (backfill scName sc {} (backfillVolumeMapping sc be))) := by
  unfold applyExistingPVCs
  dsimp only
  split
  next hempty =>
    have hsame : backfill scName sc {} (backfillVolumeMapping sc be) = id := by
      funext pvc
      rw [isEmpty_iff.mp hempty]
      unfold backfill
      split <;> rfl
    rw [hsame, map_id]
  next => rfl

theorem backfill_eq_iff : backfill scName sc {} (backfillVolumeMapping sc be) pvc =
        (if pvc.storageClassName = some scName ∧ isReplicated sc be pvc then
          labelled scName sc pvc else pvc) ↔
      (pvc.storageClassName = some scName → needsLabel sc pvc = true →
        backfillMappingContainsPV (backfillVolumeMapping sc be) pvc.volumeName = true →
        isReplicated sc be pvc = true) := by
  by_cases hsc : pvc.storageClassName = some scName
  · cases hneeds : needsLabel sc pvc with
    | false => simp [backfill, hsc, hneeds, labelled_eq hneeds]
    | true =>
      have hne := labelled_ne scName hneeds
      cases hrep : isReplicated sc be pvc with
      | true => simp [backfill, hsc, hneeds, contains_of_isReplicated hrep]
      | false => simp [backfill, hsc, hneeds, hne]
  · have hsame : backfill scName sc {} (backfillVolumeMapping sc be) pvc = pvc := by
      unfold backfill
      split
      next => rfl
      next pvcSC hpvc =>
        have hother : pvcSC ≠ scName := fun h => hsc (hpvc.trans (congrArg some h))
        rw [if_pos hother, ite_self]
    simp [hsame, hsc]

/-- **The labelled claims** are those of the StorageClass with a PV that is named like an object of
its directory, if and only if no other claim of it without labels has a PV whose name ends a key. -/
theorem backfill_exact_iff (scName : String) (sc : StorageClass) (be : Backend) (pvcs : List Pvc) :
    applyExistingPVCs scName sc be {} pvcs = (.ok (), pvcs.map fun pvc =>
        if pvc.storageClassName = some scName ∧ isReplicated sc be pvc then
          labelled scName sc pvc else pvc) ↔
      ∀ pvc ∈ pvcs, pvc.storageClassName = some scName → needsLabel sc pvc = true →
        ∀ object ∈ listed sc be, pvc.volumeName.toList <:+ key object →
          isReplicated sc be pvc = true := by
  rw [applyExistingPVCs_eq, Prod.mk.injEq, map_inj_left]
  simp only [true_and, backfill_eq_iff]
  refine forall₂_congr fun pvc _ => imp_congr_right fun _ => imp_congr_right fun _ => ?_
  simp [backfillMappingContainsPV, backfillVolumeMapping]

end Exact

/-- A claim that is not bound is labelled as soon as anything is listed. -/
theorem unbound_labelled :
    let sc : StorageClass := { provisioner := "csi.vastdata.com", rootExport := some "/k8s" }
    let pvc : Pvc := ⟨"pending", some "nfs", "", []⟩
    applyExistingPVCs "nfs" sc { views := ["/k8s/pvc-1"] } {} [pvc] =
        (.ok (), [{ pvc with labels := [(labelStorageClass, "nfs")] }]) ∧
      isReplicated sc { views := ["/k8s/pvc-1"] } pvc = false := by
  decide +kernel

end VastCsi.Ext.Backfill
