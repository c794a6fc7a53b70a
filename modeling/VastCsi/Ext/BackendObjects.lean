import VastCsi.Ext.BackendObjectKey
import VastCsi.Ext.MirrorNames
import VastCsi.Ext.MirrorSources

/-!
# The backend objects of a replica without mirrors

A pass of a content makes the backend objects of all sources of its constellation on its own
cluster: views and quotas, or block volumes unless the protected path has the role of a
destination there. Without `syncPVCPV` it also deletes objects of sources that have left its *own*
list, and finds them through the mirrors of these sources, which are only made with `syncPVCPV`.

An object that no source of a pass is kept in is touched by the deletions only. These follow the
mirrors of the removed names one by one, so they take the object exactly if one of the mirrors
leads to it (`Reaches`, a condition on what the pass reads); the passes of a run add up.
-/

namespace VastCsi.Ext.Contents

open Lib CsiAddons List Option Table

inductive ObjectKind where
  | view | quota | volume
  deriving DecidableEq

/-- An object on the cluster behind a StorageClass: a path or a name. -/
structure BackendObject where
  kind : ObjectKind
  storageClass : String
  key : String
  deriving DecidableEq

/-- What `FileProvisioner` reads of the StorageClass and of the cluster. -/
structure FileSite where
  rootExport : String
  /-- Why a view cannot be asked for: the class has no view policy, the policy is not there, or
  the id of the QoS policy is not a number. -/
  viewBody : Option KErr := none
  /-- `stat_path`, after the wait that a fresh resync request asks for. -/
  pathExists : String → Bool := fun _ => true

structure PpathDetails where
  role : String
  sourceDir : String

/-- What `BlockProvisioner` reads; `subsystem` is the path of the view. -/
structure BlockSite where
  volumeGroup : String
  ppath : Except KErr PpathDetails
  subsystem : Except KErr String
  qosPolicyId : Option KErr := none

inductive Site where
  | file (s : FileSite)
  | block (s : BlockSite)

/-- `BackendObjectKey`. -/
def Site.backendObjectKey : Site → String → String
  | .file s, handle => String.ofList (BackendKey.fileKey s.rootExport.toList handle.toList)
  | .block s, handle => String.ofList (BackendKey.blockKey s.volumeGroup.toList handle.toList)

/-- What is deleted for the handle of a mirror: `deleteFileVastObject` takes the handle for the
path. -/
def Site.deletedKey : Site → String → String
  | .file _, handle => handle
  | .block s, handle => Site.backendObjectKey (.block s) handle

def Site.kinds : Site → List ObjectKind
  | .file _ => [.quota, .view]
  | .block _ => [.volume]

/-- The search of `VolumeMapping` and of the listing of the quotas. -/
def Site.lists : Site → String → Bool
  | .file s, key => Text.startsWith key s.rootExport
  | .block s, key => Text.contains key (String.ofList (BackendKey.trimPrefix s.volumeGroup.toList))

/-- `strings.TrimRight(s, "/")`. -/
def trimSlashes (s : String) : String := String.ofList (Text.rstrip '/' s.toList)

def isDestinationRole (role : String) : Bool :=
  String.ofList (role.toList.map Names.toLower) == "destination"

abbrev Vms := EStateM KErr (List BackendObject)

/-- A pass without `syncPVCPV`: the objects it finds, the content as it was read with the names in
its status, and its cluster. Calls are answered. -/
structure Pass where
  cluster : Cluster
  content : Content
  unsynced : content.syncPVCPV = false
  status : List String
  site : Site
  /-- The claim has a storage request. -/
  request : Pvc → Bool := fun _ => true

namespace Pass

variable (p : Pass)

/-- The object is what the listings have for the name. -/
def isMapped (kind : ObjectKind) (vol : String) (o : BackendObject) : Bool :=
  o.kind == kind && o.storageClass == p.content.storageClass && p.site.lists o.key &&
    trimSlashes o.key == trimSlashes vol

def create (kind : ObjectKind) (vol : String) : Vms Unit := fun objs =>
  if ⟨kind, p.content.storageClass, vol⟩ ∈ objs then .error ⟨[], s!"create {vol}"⟩ objs
  else .ok () (⟨kind, p.content.storageClass, vol⟩ :: objs)

/-- Create the object unless it is listed; `ready` tells why it cannot be. -/
def ensure (kind : ObjectKind) (vol : String) (ready : Option KErr) : Vms Unit := do
  if (← get).any (p.isMapped kind vol) then pure ()
  else
    match ready with
    | some e => throw e
    | none => p.create kind vol

/-- `ensureFileVastObject`. -/
def ensureFileVastObject (s : FileSite) (pair : VolumePair) : Vms Unit := do
  let targetPath := p.site.backendObjectKey pair.pv.volumeHandle
  withContext s!"ensure view at {targetPath}" (p.ensure .view targetPath
    (s.viewBody.or (if s.pathExists targetPath then none
      else some ⟨[.retryable], s!"destination path {targetPath} not yet replicated"⟩)))
  if p.request pair.pvc then
    withContext s!"ensure quota at {targetPath}" (p.ensure .quota targetPath none)

/-- `ensureBlockVastVolume`. -/
def ensureBlockVastVolume (s : BlockSite) (pair : VolumePair) : Vms Unit :=
  p.ensure .volume (p.site.backendObjectKey pair.pv.volumeHandle)
    (if p.request pair.pvc then s.qosPolicyId
      else some ⟨[], s!"PVC {pair.pvc.namespaceName}/{pair.pvc.name} has no storage request"⟩)

/-- A removed name whose claim is gone or not a mirror. -/
def computeSourceToDelete : List String :=
  p.status.filter fun name => !p.content.pvcs.contains name &&
    (p.cluster.pvcs.find? (p.content.namespaceName, name)).all (·.mirror.isNone)

/-- The handle of the managed PV that a mirror is bound to. -/
def handleOf (q : Pvc) : Option String :=
  if q.volumeName == "" then none
  else ((p.cluster.pvs.find? q.volumeName).filter fun pv =>
    pv.managed && pv.volumeHandle != "").map (·.volumeHandle)

def handlesFor (name : String) : List String :=
  (p.cluster.pvcs.select fun q =>
    q.namespaceName == p.content.namespaceName && q.mirror.any fun m =>
      m.sourcePVC == name && m.storageClass == p.content.storageClass).filterMap p.handleOf

def deleteMapped (vol : String) (objs : List BackendObject) (kind : ObjectKind) :
    List BackendObject :=
  objs.filter fun o => !p.isMapped kind vol o

/-- `deleteFileVastObject`, `deleteBlockVastVolume`. -/
def deleteVastObject (objs : List BackendObject) (name : String) : List BackendObject :=
  (p.handlesFor name).foldl
    (fun objs handle => p.site.kinds.foldl (p.deleteMapped (p.site.deletedKey handle)) objs) objs

/-- `syncFileObjects`, `syncBlockObjects`: the errors of the first loop are returned after the
second. -/
def sync (what : String) (ensureObject : VolumePair → Vms Unit) (toEnsure : List VolumePair)
    (toDelete : List String) : Vms Unit := do
  let errs ← collectErrors
    (fun pair => withContext s!"sync {what} for {pair.pvc.name}" (ensureObject pair)) toEnsure
  modify fun objs => toDelete.foldl p.deleteVastObject objs
  raiseDeferred errs

/-- The subsystem is looked up only when there is a volume to make in it. -/
def checkSubsystem (s : BlockSite) (ppath : PpathDetails) (toEnsure : List VolumePair) : Vms Unit :=
  if toEnsure.isEmpty then pure ()
  else
    match s.subsystem with
    | .error e => throw e
    | .ok path =>
      if Text.startsWith ppath.sourceDir path then pure ()
      else throw ⟨[], s!"protected path source dir \"{ppath.sourceDir}\" does not match" ++
        s!" subsystem path \"{path}\" on {p.content.name}"⟩

def provisionVolumeCb (toEnsure : List VolumePair) (toDelete : List String) : Vms Unit :=
  match p.site with
  | .file s => p.sync "view+quota" (p.ensureFileVastObject s) toEnsure toDelete
  | .block s =>
    match s.ppath with
    | .error e => throw e
    | .ok ppath =>
      if isDestinationRole ppath.role then pure ()
      else do
        p.checkSubsystem s ppath toEnsure
        p.sync "VAST volume" (p.ensureBlockVastVolume s) toEnsure toDelete

def provisionVolumes : Vms Unit :=
  match classifyConstellationPVCs {} p.content p.cluster with
  | .error e _ => throw e
  | .ok pairs _ => p.provisionVolumeCb pairs p.computeSourceToDelete

/-! ## Conditions on what a pass reads -/

/-- The claims of the constellation, bound, without the labels of a mirror. -/
def sources : List VolumePair :=
  MirrorSources.sources p.cluster (claimsOf (p.cluster.contents.select (isPeer p.content)))

/-- The object is what the pass keeps one of its sources in. -/
def Makes (o : BackendObject) : Prop :=
  p.content.storageClass = o.storageClass ∧
    ∃ pair ∈ p.sources, p.site.backendObjectKey pair.pv.volumeHandle = o.key

/-- Every claim that a content of the constellation lists is bound, if it is there. -/
def AllBound : Prop :=
  ∀ k ∈ claimsOf (p.cluster.contents.select (isPeer p.content)),
    ∀ q ∈ p.cluster.pvcs, q.key = k → q.volumeName ≠ ""

/-- Nothing stops the pass before the deletions. For block volumes the protected path must not
have the role of a destination, and the subsystem must fit if there is a source. -/
def Deletes : Prop :=
  p.AllBound ∧ match p.site with
    | .file _ => True
    | .block s => ∃ ppath, s.ppath = .ok ppath ∧ isDestinationRole ppath.role = false ∧
        (p.sources ≠ [] → ∃ path, s.subsystem = .ok path ∧
          Text.startsWith ppath.sourceDir path = true)

/-- The source has left the content's own list, and its claim is gone or is no mirror. -/
def Removed (name : String) : Prop :=
  name ∈ p.status ∧ name ∉ p.content.pvcs ∧
    ∀ q ∈ p.cluster.pvcs, q.key = (p.content.namespaceName, name) → q.mirror = none

/-- The claim is labelled as the mirror of the name in the class of the pass, and is bound to a
managed PV with that handle. -/
def IsMirrorWith (name handle : String) (q : Pvc) : Prop :=
  q.namespaceName = p.content.namespaceName ∧
    (∃ m, q.mirror = some m ∧ m.sourcePVC = name ∧ m.storageClass = p.content.storageClass) ∧
    q.volumeName ≠ "" ∧
    ∃ pv ∈ p.cluster.pvs, pv.name = q.volumeName ∧ pv.managed = true ∧ pv.volumeHandle = handle ∧
      handle ≠ ""

/-- The object is one of those that a handle stands for, and the listings show it. -/
def StandsFor (handle : String) (o : BackendObject) : Prop :=
  o.kind ∈ p.site.kinds ∧ o.storageClass = p.content.storageClass ∧ p.site.lists o.key = true ∧
    trimSlashes o.key = trimSlashes (p.site.deletedKey handle)

/-- A mirror of a removed source leads to the object. -/
def Reaches (o : BackendObject) : Prop :=
  p.Deletes ∧ ∃ name, p.Removed name ∧ ∃ q ∈ p.cluster.pvcs, ∃ handle,
    p.IsMirrorWith name handle q ∧ p.StandsFor handle o

end Pass

/-! ## One pass -/

variable {p : Pass} {o : BackendObject} {objs : List BackendObject}

/-- What is removed one thing at a time. -/
theorem mem_foldl_iff {α β : Type} {a : α} {f : List α → β → List α} {P : β → Prop}
    (hf : ∀ l b, a ∈ f l b ↔ a ∈ l ∧ ¬P b) :
    ∀ {bs : List β} {l : List α}, a ∈ bs.foldl f l ↔ a ∈ l ∧ ¬∃ b ∈ bs, P b
  | [], l => by simp
  | b :: bs, l => by
    rw [foldl_cons, mem_foldl_iff hf, hf, exists_mem_cons_iff, not_or, and_assoc]

theorem mem_deleteVastObject (name : String) : o ∈ p.deleteVastObject objs name ↔ o ∈ objs ∧
      ¬∃ handle ∈ p.handlesFor name, ∃ kind ∈ p.site.kinds,
        p.isMapped kind (p.site.deletedKey handle) o = true := by
  refine mem_foldl_iff fun objs handle => mem_foldl_iff fun objs kind => ?_
  rw [Pass.deleteMapped, mem_filter, Bool.not_eq_true', Bool.eq_false_iff]

theorem isMapped_iff {handle : String} : (∃ kind ∈ p.site.kinds,
      p.isMapped kind (p.site.deletedKey handle) o = true) ↔ p.StandsFor handle o := by
  simp only [Pass.isMapped, Bool.and_eq_true, beq_iff_eq, Pass.StandsFor]
  constructor
  · rintro ⟨kind, hkind, ⟨⟨rfl, hclass⟩, hlists⟩, htrim⟩
    exact ⟨hkind, hclass, hlists, htrim⟩
  · rintro ⟨hkind, hclass, hlists, htrim⟩
    exact ⟨_, hkind, ⟨⟨rfl, hclass⟩, hlists⟩, htrim⟩

theorem mem_computeSourceToDelete {name : String} :
    name ∈ p.computeSourceToDelete ↔ p.Removed name := by
  have hall : (p.cluster.pvcs.find? (p.content.namespaceName, name)).all (·.mirror.isNone) = true ↔
      ∀ q ∈ p.cluster.pvcs, q.key = (p.content.namespaceName, name) → q.mirror = none := by
    rw [Option.all_eq_true]
    constructor
    · intro h q hq hkey
      exact isNone_iff_eq_none.mp (h q (find?_eq_some_iff.mpr ⟨hq, hkey⟩))
    · intro h q hq
      obtain ⟨hmem, hkey⟩ := find?_eq_some_iff.mp hq
      exact isNone_iff_eq_none.mpr (h q hmem hkey)
  simp only [Pass.computeSourceToDelete, mem_filter, Bool.and_eq_true, hall, Pass.Removed,
    Bool.not_eq_true', List.contains_eq_mem, decide_eq_false_iff_not]

theorem handleOf_eq_some_iff {q : Pvc} {handle : String} : p.handleOf q = some handle ↔
      q.volumeName ≠ "" ∧ ∃ pv ∈ p.cluster.pvs, pv.name = q.volumeName ∧ pv.managed = true ∧
        pv.volumeHandle = handle ∧ handle ≠ "" := by
  unfold Pass.handleOf
  by_cases hname : q.volumeName = ""
  · simp [hname]
  · rw [if_neg (by simpa using hname), map_eq_some_iff, and_iff_right hname]
    constructor
    · rintro ⟨pv, hpv, rfl⟩
      obtain ⟨hfind, hok⟩ := filter_eq_some_iff.mp hpv
      obtain ⟨hmem, hkey⟩ := find?_eq_some_iff.mp hfind
      rw [Bool.and_eq_true, bne_iff_ne] at hok
      exact ⟨pv, hmem, hkey, hok.1, rfl, hok.2⟩
    · rintro ⟨pv, hmem, hkey, hmanaged, rfl, hne⟩
      refine ⟨pv, filter_eq_some_iff.mpr ⟨find?_eq_some_iff.mpr ⟨hmem, hkey⟩, ?_⟩, rfl⟩
      rw [Bool.and_eq_true, bne_iff_ne]
      exact ⟨hmanaged, hne⟩

theorem mem_handlesFor {name handle : String} :
    handle ∈ p.handlesFor name ↔ ∃ q ∈ p.cluster.pvcs, p.IsMirrorWith name handle q := by
  simp only [Pass.handlesFor, mem_filterMap, mem_select, Bool.and_eq_true, beq_iff_eq,
    Option.any_eq_true, handleOf_eq_some_iff, Pass.IsMirrorWith]
  constructor
  · rintro ⟨q, ⟨hq, hns, m, hm, hname, hclass⟩, hhandle⟩
    exact ⟨q, hq, hns, ⟨m, hm, hname, hclass⟩, hhandle⟩
  · rintro ⟨q, hq, hns, ⟨m, hm, hname, hclass⟩, hhandle⟩
    exact ⟨q, ⟨hq, hns, m, hm, hname, hclass⟩, hhandle⟩

/-- What the deletions of a pass leave. -/
theorem mem_deleted (hd : p.Deletes) :
    o ∈ p.computeSourceToDelete.foldl p.deleteVastObject objs ↔ o ∈ objs ∧ ¬p.Reaches o := by
  rw [mem_foldl_iff fun objs name => mem_deleteVastObject name]
  refine and_congr_right fun _ => not_congr ?_
  simp only [mem_computeSourceToDelete, mem_handlesFor, isMapped_iff, Pass.Reaches]
  constructor
  · rintro ⟨name, hname, handle, ⟨q, hq, hmirror⟩, ho⟩
    exact ⟨hd, name, hname, q, hq, handle, hmirror, ho⟩
  · rintro ⟨_, name, hname, q, hq, handle, hmirror, ho⟩
    exact ⟨name, hname, handle, ⟨q, hq, hmirror⟩, ho⟩

theorem keeps_create {P : Prop} {kind : ObjectKind} {vol : String}
    (hne : p.content.storageClass = o.storageClass → vol ≠ o.key) :
    Keeps (fun objs => o ∈ objs ↔ P) (p.create kind vol) := by
  intro objs hobjs
  unfold Pass.create
  by_cases hin : (⟨kind, p.content.storageClass, vol⟩ : BackendObject) ∈ objs
  · rw [if_pos hin]
    exact hobjs
  · rw [if_neg hin]
    show o ∈ _ :: objs ↔ P
    rw [mem_cons, ← hobjs]
    refine or_iff_right fun h => ?_
    rw [h] at hne
    exact hne rfl rfl

theorem keeps_ensure {P : Prop} {kind : ObjectKind} {vol : String} {ready : Option KErr}
    (hne : p.content.storageClass = o.storageClass → vol ≠ o.key) :
    Keeps (fun objs => o ∈ objs ↔ P) (p.ensure kind vol ready) := by
  refine Meets.bind (Q := fun _ objs => o ∈ objs ↔ P) (fun _ hobjs => hobjs) fun objs => ?_
  split
  · exact .ret
  · cases ready with
    | some e => exact .err
    | none => exact keeps_create hne

theorem keeps_ensureFileVastObject {P : Prop} {s : FileSite} {pair : VolumePair}
    (hne : p.content.storageClass = o.storageClass →
      p.site.backendObjectKey pair.pv.volumeHandle ≠ o.key) :
    Keeps (fun objs => o ∈ objs ↔ P) (p.ensureFileVastObject s pair) := by
  refine .bind (meets_withContext (keeps_ensure hne)) fun _ => ?_
  split
  · exact meets_withContext (keeps_ensure hne)
  · exact .ret

/-- The deletions come whatever became of the first loop. -/
theorem meets_sync {what : String} {ensureObject : VolumePair → Vms Unit}
    {pairs : List VolumePair} {P : Prop} (hd : p.Deletes)
    (hensure : ∀ pair ∈ pairs, Keeps (fun objs => o ∈ objs ↔ P) (ensureObject pair)) :
    Meets (fun objs => o ∈ objs ↔ P) (p.sync what ensureObject pairs p.computeSourceToDelete)
      (fun _ objs => o ∈ objs ↔ P ∧ ¬p.Reaches o) (fun _ objs => o ∈ objs ↔ P ∧ ¬p.Reaches o) := by
  refine .bind (Meets.collectErrors fun pair hp => meets_withContext (hensure pair hp))
    fun errs => ?_
  refine .bind (Q := fun _ objs => o ∈ objs ↔ P ∧ ¬p.Reaches o) ?_ fun _ => keeps_raiseDeferred
  intro objs hobjs
  exact (mem_deleted hd).trans (and_congr_left' hobjs)

/-! ### What fails a pass -/

theorem getPVCandPV_eq (c : Cluster) (k : Key) :
    getPVCandPV {} k c = .ok (MirrorSources.lookupPair c k) c := by
  simp only [getPVCandPV, call, remote, MirrorSources.lookupPair, bind, EStateM.bind]
  cases c.pvcs.find? k with
  | none => rfl
  | some pvc =>
    by_cases hname : (pvc.volumeName == "") = true
    · simp only [hname, Option.bind_some, if_true]
      rfl
    · have hne : (pvc.volumeName == "") = false := Bool.eq_false_iff.mpr hname
      simp only [hne, Option.bind_some, Bool.false_eq_true, if_false, EStateM.bind]
      cases c.pvs.find? pvc.volumeName with
      | none => rfl
      | some pv => rfl

theorem lookupPair_unbound_iff {c : Cluster} {k : Key} {pvc : Pvc} :
    MirrorSources.lookupPair c k = some (pvc, none) ↔
      c.pvcs.find? k = some pvc ∧ pvc.volumeName = "" := by
  unfold MirrorSources.lookupPair
  cases c.pvcs.find? k with
  | none => simp
  | some q =>
    by_cases hname : q.volumeName = ""
    · simp [hname]
      rintro rfl
      exact hname
    · simp [hname]
      rintro rfl
      exact hname

theorem finishes_getPVCandPV (c : Cluster) (k : Key) : Finishes (· = c)
    (withContext s!"get PVC+PV {k.1}/{k.2}" (getPVCandPV {} k))
      (fun found c' => c' = c ∧ found = MirrorSources.lookupPair c k) := by
  refine meets_withContext ?_
  rintro _ rfl
  rw [getPVCandPV_eq]
  exact ⟨rfl, rfl⟩

/-- The sources can be told exactly if the claims that are there are bound. -/
theorem meets_classifyPVCs_bound (c : Cluster) : ∀ ks : List Key, Meets (· = c) (classifyPVCs {} ks)
      (fun _ _ => ∀ k ∈ ks, ∀ q ∈ c.pvcs, q.key = k → q.volumeName ≠ "")
      (fun _ _ => ¬∀ k ∈ ks, ∀ q ∈ c.pvcs, q.key = k → q.volumeName ≠ "")
  | [] => .pure fun _ _ _ hk => nomatch hk
  | k :: ks => by
    refine .bind ((finishes_getPVCandPV c k).raise fun _ _ h => h.elim) fun found => ?_
    refine .assuming (p := found = MirrorSources.lookupPair c k) (fun _ h => h.2) fun hfound => ?_
    have hrest : Meets (fun c' => c' = c ∧ found = MirrorSources.lookupPair c k)
        (classifyPVCs {} ks) _ _ := (meets_classifyPVCs_bound c ks).preLeft
    -- the claim of the first name, if it is there
    have hbound (hpvc : ∀ pvc, found ≠ some (pvc, none)) :
        ∀ q ∈ c.pvcs, q.key = k → q.volumeName ≠ "" := by
      intro q hq hkey hname
      refine hpvc q (hfound.trans (lookupPair_unbound_iff.mpr ⟨?_, hname⟩))
      exact find?_eq_some_iff.mpr ⟨hq, hkey⟩
    match found with
    | none =>
      exact hrest.weaken (fun _ h => h) (fun _ _ h => forall_mem_cons.mpr ⟨hbound nofun, h⟩)
        fun _ _ h hall => h (forall_mem_cons.mp hall).2
    | some (pvc, none) =>
      refine .throw fun _ _ hall => ?_
      obtain ⟨hfind, hname⟩ := lookupPair_unbound_iff.mp hfound.symm
      obtain ⟨hmem, hkey⟩ := find?_eq_some_iff.mp hfind
      exact hall k mem_cons_self pvc hmem hkey hname
    | some (pvc, some pv) =>
      refine .bind (hrest.weaken (fun _ h => h) (fun _ _ h => h)
        fun _ _ h hall => h (forall_mem_cons.mp hall).2) fun unmanaged => ?_
      exact .pure fun _ h => forall_mem_cons.mpr ⟨hbound nofun, h⟩

theorem meets_classified (p : Pass) : Meets (· = p.cluster)
      (classifyConstellationPVCs {} p.content) (fun pairs _ => pairs = p.sources ∧ p.AllBound)
      (fun _ _ => ¬p.AllBound) := by
  have hlist : Finishes (· = p.cluster) (withContext "list constellation VastReplicationContents"
      (getConstellationVRCs {} p.content))
      (fun vrcs c => c = p.cluster ∧ vrcs = p.cluster.contents.select (isPeer p.content)) := by
    refine meets_withContext ?_
    rintro _ rfl
    exact ⟨rfl, rfl⟩
  refine Meets.bind (hlist.raise fun _ _ h => h.elim) fun vrcs => ?_
  refine .assuming (p := vrcs = _) (fun _ h => h.2) fun hvrcs => ?_
  rw [hvrcs]
  refine Meets.weaken (MirrorSources.meets_sources.and (meets_classifyPVCs_bound p.cluster _))
    (fun _ h => ⟨h.1, h.1⟩) (fun _ _ h => ⟨h.1.2, h.2⟩) fun _ _ h => h.2

/-- The subsystem is there and has the protected path, if there is a volume to make. -/
def SubsystemFits (p : Pass) (s : BlockSite) (ppath : PpathDetails) : Prop :=
  p.sources ≠ [] → ∃ path, s.subsystem = .ok path ∧ Text.startsWith ppath.sourceDir path = true

theorem meets_checkSubsystem {I : List BackendObject → Prop} {s : BlockSite}
    {ppath : PpathDetails} : Meets I (p.checkSubsystem s ppath p.sources)
      (fun _ objs => I objs ∧ SubsystemFits p s ppath)
      (fun _ objs => I objs ∧ ¬SubsystemFits p s ppath) := by
  unfold Pass.checkSubsystem SubsystemFits
  split
  next hnil => exact .pure fun _ h => ⟨h, fun hne => absurd (List.isEmpty_iff.mp hnil) hne⟩
  next hne =>
    have hne : p.sources ≠ [] := fun h => hne (List.isEmpty_iff.mpr h)
    split
    next e herr =>
      refine .throw fun _ h => ⟨h, fun hfits => ?_⟩
      obtain ⟨path, hpath, _⟩ := hfits hne
      cases herr.symm.trans hpath
    next path hpath =>
      split
      next hdir => exact .pure fun _ h => ⟨h, fun _ => ⟨path, hpath, hdir⟩⟩
      next hdir =>
        refine .throw fun _ h => ⟨h, fun hfits => ?_⟩
        obtain ⟨path', hpath', hdir'⟩ := hfits hne
        cases hpath.symm.trans hpath'
        exact hdir hdir'

/-! ## Passes -/

theorem deletes_block_iff {s : BlockSite} (hsite : p.site = .block s) (hbound : p.AllBound) :
    p.Deletes ↔ ∃ ppath, s.ppath = .ok ppath ∧ isDestinationRole ppath.role = false ∧
      SubsystemFits p s ppath := by
  unfold Pass.Deletes
  rw [hsite]
  exact and_iff_right hbound

theorem deletes_ppath_iff {s : BlockSite} {ppath : PpathDetails} (hsite : p.site = .block s)
    (hbound : p.AllBound) (hppath : s.ppath = .ok ppath) :
    p.Deletes ↔ isDestinationRole ppath.role = false ∧ SubsystemFits p s ppath := by
  rw [deletes_block_iff hsite hbound]
  constructor
  · rintro ⟨ppath', hppath', h⟩
    cases hppath.symm.trans hppath'
    exact h
  · exact fun h => ⟨ppath, hppath, h⟩

/-- What a pass does to an object that it keeps no source in. -/
theorem meets_provisionVolumes {P : Prop} (hmakes : ¬p.Makes o) :
    Meets (fun objs => o ∈ objs ↔ P) p.provisionVolumes
      (fun _ objs => o ∈ objs ↔ P ∧ ¬p.Reaches o) (fun _ objs => o ∈ objs ↔ P ∧ ¬p.Reaches o) := by
  have hstop : ¬p.Deletes → ∀ objs : List BackendObject, (o ∈ objs ↔ P) →
      (o ∈ objs ↔ P ∧ ¬p.Reaches o) := fun hd objs hobjs =>
    hobjs.trans (and_iff_left fun h => hd h.1).symm
  have hkey : ∀ pair ∈ p.sources, p.content.storageClass = o.storageClass →
      p.site.backendObjectKey pair.pv.volumeHandle ≠ o.key :=
    fun pair hpair hclass heq => hmakes ⟨hclass, pair, hpair, heq⟩
  unfold Pass.provisionVolumes
  have hpairs := meets_classified p p.cluster rfl
  split
  next e _ herr =>
    rw [herr] at hpairs
    exact .throw (hstop fun hd => hpairs hd.1)
  next pairs _ hok =>
    rw [hok] at hpairs
    obtain ⟨rfl, hbound⟩ := hpairs
    unfold Pass.provisionVolumeCb
    split
    next s hsite =>
      have hd : p.Deletes := ⟨hbound, by rw [hsite]; trivial⟩
      exact meets_sync hd fun pair hpair => keeps_ensureFileVastObject (hkey pair hpair)
    next s hsite =>
      split
      next e herr =>
        refine .throw (hstop fun h => ?_)
        obtain ⟨ppath, hppath, _⟩ := (deletes_block_iff hsite hbound).mp h
        cases herr.symm.trans hppath
      next ppath hppath =>
        have hd := deletes_ppath_iff hsite hbound hppath
        split
        next hrole =>
          refine .pure (hstop fun h => ?_)
          rw [(hd.mp h).1] at hrole
          cases hrole
        next hrole =>
          have hrole : isDestinationRole ppath.role = false := Bool.eq_false_iff.mpr hrole
          refine .bind (meets_checkSubsystem.raise fun _ objs h => ?_) fun _ => ?_
          · exact hstop (fun h' => h.2 (hd.mp h').2) objs h.1
          · refine .assuming (p := SubsystemFits p s ppath) (fun _ h => h.2) fun hfits => ?_
            refine (meets_sync (hd.mpr ⟨hrole, hfits⟩) fun pair hpair => ?_).preLeft
            exact keeps_ensure (hkey pair hpair)

/-- The objects after a number of passes; some of them may have failed. -/
def afterPasses (passes : List Pass) (objs : List BackendObject) : List BackendObject :=
  passes.foldl (fun objs p => endState (p.provisionVolumes objs)) objs

def contentWith (scName : String) (pvcs : List String) : Content :=
  { contentOf scName with pvcs := pvcs, syncPVCPV := false }

/-- The east has the claim `db`, and the west no claim. -/
def withDb : Cluster where
  contents := ⟨[contentWith "east" ["db"], contentWith "west" []], by decide⟩
  pvcs := ⟨[{ namespaceName := "data", name := "db", storageClass := "east", volumeName := "pv" }],
    by decide⟩
  pvs := ⟨[{ name := "pv", volumeHandle := "/k8s/pvc-1" }], by decide⟩
  vast := fun _ => { snapshots := Table.empty, ppaths := Table.empty }

/-- `db` has been removed; `mirrors` are the claims that are left. -/
def withoutDb (mirrors : Table Pvc Pvc.key) : Cluster where
  contents := ⟨[contentWith "east" [], contentWith "west" []], by decide⟩
  pvcs := mirrors
  pvs := ⟨[{ name := "pv-west", volumeHandle := "/k8s/pvc-1", managed := true }], by decide⟩
  vast := withDb.vast

/-- The mirror in the west, from a time when mirrors were made. -/
def westMirror : Pvc :=
  { namespaceName := "data", name := "db-west", storageClass := "west", volumeName := "pv-west"
    mirror := some
      { owner := (contentOf "west").owner, storageClass := "west", sourcePVC := "db" } }

def k8sSite : Site := .file { rootExport := "/k8s" }

def passes (c : Cluster) (eastPVCs eastStatus westStatus : List String) : List Pass :=
  [{ cluster := c, content := contentWith "east" eastPVCs, unsynced := rfl, status := eastStatus,
     site := k8sSite },
   { cluster := c, content := contentWith "west" [], unsynced := rfl, status := westStatus,
     site := k8sSite }]

def westView : BackendObject := ⟨.view, "west", "/k8s/pvc-1"⟩

theorem not_makes_withoutDb (mirrors : Table Pvc Pvc.key) (eastStatus westStatus : List String) :
    ∀ p ∈ passes (withoutDb mirrors) [] eastStatus westStatus, ¬p.Makes westView := by
  have hnone : ∀ p ∈ passes (withoutDb mirrors) [] eastStatus westStatus, p.sources = [] :=
    forall_mem_cons.mpr ⟨rfl, forall_mem_singleton.mpr rfl⟩
  rintro p hp ⟨_, pair, hpair, _⟩
  rw [hnone p hp] at hpair
  cases hpair

end VastCsi.Ext.Contents
