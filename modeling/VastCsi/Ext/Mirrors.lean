import VastCsi.Ext.ParentDeletion
import VastCsi.Lib.Table

/-!
# Contents and their mirror PVCs

For each source PVC of the other contents of its constellation a `VastReplicationContent` keeps a
mirror, a PVC and PV of its own class; a mirror whose source is gone is an orphan and is deleted
or released. A content and a mirror carry the name and the namespace of the parent in labels, here
one `Owner`, and are found with a label selector (`isPeer`, `isMirrorOf`).
-/

namespace VastCsi.Ext.Contents

open Lib CsiAddons List Table

/-- The labels of a mirror PVC; that it has them is the managed-by label. -/
structure MirrorLabels where
  owner : Owner
  storageClass : String
  sourcePVC : String
  deriving DecidableEq

structure Pvc where
  namespaceName : String
  name : String
  storageClass : String
  volumeName : String := ""
  mirror : Option MirrorLabels := none
  finalizer : Bool := false
  terminating : Bool := false
  deriving DecidableEq

def Pvc.key (p : Pvc) : Key := (p.namespaceName, p.name)

structure Pv where
  name : String
  storageClass : String := ""
  volumeHandle : String
  csiDriver : String := ""
  capacity : Nat := 0
  managed : Bool := false
  deriving DecidableEq

structure Content extends ContentMeta, ContentSpec where
  /-- The annotation of the wait for snapshots under way. -/
  snapshotCleanupWaitDone : Bool := false
  deriving DecidableEq

def Content.key (x : Content) : Key := (x.namespaceName, x.name)

structure Snapshot where
  id : Nat
  path : String
  protectionPolicyName : String
  deriving DecidableEq

structure Ppath where
  id : Nat
  name : String
  enabled : Bool := true
  deriving DecidableEq

structure Vast where
  snapshots : Table Snapshot (·.id)
  ppaths : Table Ppath (·.id)

structure Cluster where
  contents : Table Content Content.key
  pvcs : Table Pvc Pvc.key
  pvs : Table Pv Pv.name
  vast : String → Vast

abbrev Rec := EStateM KErr Cluster

/-- What the outside decides: the outcome of each call, and what the modelled
objects do not determine. -/
structure Outcomes where
  listContents : Fate Fault := .answered
  getPvc : Key → Fate Fault := fun _ => .answered
  getPv : String → Fate Fault := fun _ => .answered
  lookupParent : Fate Fault := .answered
  destVolReclaimPolicy : String := ""
  listPvcs : Fate Fault := .answered
  managedPv : String → Fate Fault := fun _ => .answered
  removeFinalizer : String → Fate Fault := fun _ => .answered
  patchPvc : String → Fate Fault := fun _ => .answered
  patchPv : String → Fate Fault := fun _ => .answered
  usedByPod : String → Fate Fault := fun _ => .answered
  deletePvc : String → Fate Fault := fun _ => .answered
  hasVolume : String → Fate Fault := fun _ => .answered
  /-- `FormatPVCName`, `FormatPVName` and `mirrorVolumeHandle`. -/
  destPVCName : String → Except KErr String := .ok
  destPVName : String → Except KErr String := .ok
  mirrorHandle : String → Except KErr String := .ok
  /-- Whether the StorageClass has its secret parameters. -/
  hasSecret : Bool := true
  checkPv : String → Fate Fault := fun _ => .answered
  createPv : String → Fate Fault := fun _ => .answered
  checkPvc : String → Fate Fault := fun _ => .answered
  createPvc : String → Fate Fault := fun _ => .answered

section Mirrors

variable (out : Outcomes) (r : Content)

/-- The selector of `GetConstellationVRCs`: the parent's name under the key of
its kind, in the content's namespace. -/
def isPeer (x : Content) : Bool := x.constellation == r.constellation

def getConstellationVRCs : Rec (List Content) :=
  call out.listContents fun c => .ok (c.contents.select (isPeer r)) c

structure VolumePair where
  pvc : Pvc
  pv : Pv
  deriving DecidableEq

/-- `GetPVCandPV`. Either of them may not be found; the PV is missing when the
claim is not bound. -/
def getPVCandPV (k : Key) : Rec (Option (Pvc × Option Pv)) := do
  match ← call (out.getPvc k) fun c => .ok (c.pvcs.find? k) c with
  | none => pure none
  | some pvc =>
    if pvc.volumeName == "" then pure (some (pvc, none))
    else do
      match ← call (out.getPv pvc.volumeName) fun c => .ok (c.pvs.find? pvc.volumeName) c with
      | none => pure none
      | some pv => pure (some (pvc, some pv))

/-- The pairs of these claims: one that is not there is skipped, one that is not
bound yet fails the pass, and a mirror is left out. -/
def classifyPVCs : List Key → Rec (List VolumePair)
  | [] => pure []
  | k :: rest => do
    match ← withContext s!"get PVC+PV {k.1}/{k.2}" (getPVCandPV out k) with
    | none => classifyPVCs rest
    | some (_, none) => throw ⟨[.retryable], s!"PVC {k.1}/{k.2} not yet bound"⟩
    | some (pvc, some pv) => do
      let unmanaged ← classifyPVCs rest
      pure (if pvc.mirror.isSome then unmanaged else ⟨pvc, pv⟩ :: unmanaged)

def claimsOf (vrcs : List Content) : List Key :=
  vrcs.flatMap fun x => x.pvcs.map (x.namespaceName, ·)

def classifyConstellationPVCs : Rec (List VolumePair) := do
  let vrcs ← withContext "list constellation VastReplicationContents" (getConstellationVRCs out r)
  classifyPVCs out (claimsOf vrcs)

/-- `EnsurePV`: whether it was created. -/
def ensurePV (pv : Pv) : Rec Bool := do
  match ← call (out.checkPv pv.name) fun c => .ok (c.pvs.find? pv.name) c with
  | some _ => pure false
  | none => call (out.createPv pv.name) fun c => .ok true { c with pvs := c.pvs.insert pv }

/-- `EnsurePVC`: whether it was created. -/
def ensurePVC (pvc : Pvc) : Rec Bool := do
  match ← call (out.checkPvc pvc.name) fun c => .ok (c.pvcs.find? pvc.key) c with
  | some _ => pure false
  | none => call (out.createPvc pvc.name) fun c => .ok true { c with pvcs := c.pvcs.insert pvc }

def mirrorPv (source : VolumePair) (name handle : String) : Pv where
  name := name
  storageClass := r.storageClass
  volumeHandle := handle
  csiDriver := source.pv.csiDriver
  capacity := source.pv.capacity
  managed := true

def mirrorPvc (source : VolumePair) (name pvName : String) : Pvc where
  namespaceName := source.pvc.namespaceName
  name := name
  storageClass := r.storageClass
  volumeName := pvName
  mirror := some { owner := r.owner, storageClass := r.storageClass, sourcePVC := source.pvc.name }
  finalizer := true

def returned : Except KErr String → Rec String
  | .ok a => pure a
  | .error e => throw e

def require (b : Bool) (text : String) : Rec Unit := assertThat b ⟨[.other], text⟩

/-- `ensureMirrorPVCPV`: whether anything was created. -/
def ensureMirrorPVCPV (source : VolumePair) : Rec Bool := do
  require (source.pv.volumeHandle != "") s!"source PV {source.pv.name} has no CSI volume handle"
  let destPVCName ← withContext "format mirror PVC name"
    (returned (out.destPVCName source.pvc.name))
  let destPVName ← withContext "format mirror PV name" (returned (out.destPVName source.pvc.name))
  require out.hasSecret s!"StorageClass {r.storageClass} is missing provisioner secret parameters"
  require (source.pv.csiDriver != "") s!"source PV {source.pv.name} has no CSI driver"
  require (source.pv.capacity != 0) s!"source PV {source.pv.name} has no capacity"
  let handle ← withContext "compute mirror volume handle"
    (returned (out.mirrorHandle source.pv.volumeHandle))
  let pvCreated ← withContext s!"ensure mirror PV {destPVName}"
    (ensurePV out (mirrorPv r source destPVName handle))
  let pvcCreated ← withContext s!"ensure mirror PVC {source.pvc.namespaceName}/{destPVCName}"
    (ensurePVC out (mirrorPvc r source destPVCName destPVName))
  pure (pvCreated || pvcCreated)

/-- For volume groups the backend is asked whether it has the volume; only a
failure to ask matters. -/
def askBackend (pair : VolumePair) : Rec (Option KErr) :=
  if r.owner.kind == .vscr then
    attempt (call (out.hasVolume pair.pv.volumeHandle) (pure ()))
  else pure none

/-- The loop of `ensureReplicaMirrors`. A cluster that cannot be reached ends it
quietly, and what was collected is dropped. -/
def mirrorLoop : List VolumePair → List KErr → Rec Unit
  | [], errs => raiseDeferred errs
  | pair :: rest, errs => do
    match ← askBackend out r pair with
    | some e => if e.isNetworkError then pure () else throw e
    | none => do
      let failed ← attempt (withContext s!"mirror {pair.pvc.name} → {r.storageClass}" (do
        let _ ← ensureMirrorPVCPV out r pair
        pure ()))
      mirrorLoop rest (errs ++ failed.toList)

def ensureReplicaMirrors (pairs : List VolumePair) : Rec Unit := mirrorLoop out r pairs []

/-- The selector of `cleanReplicaMirrorOrphans`: mirrors of the class, with the
parent's name under the key of its kind, in the content's namespace. -/
def isMirrorOf (p : Pvc) : Bool :=
  p.namespaceName == r.namespaceName && p.mirror.any fun m =>
    m.storageClass == r.storageClass &&
      (m.owner.kind == r.owner.kind && m.owner.name == r.owner.name)

def Cluster.onPvc (c : Cluster) (k : Key) (f : Pvc → Pvc) (hf : ∀ p, (f p).key = p.key) : Cluster :=
  { c with pvcs := c.pvcs.modify k f hf }

theorem Cluster.mem_onPvc {c : Cluster} {k : Key} {f : Pvc → Pvc} {hf : ∀ p, (f p).key = p.key}
    {q : Pvc} : q ∈ (c.onPvc k f hf).pvcs ↔ ∃ p ∈ c.pvcs, q = if p.key = k then f p else p := by
  show q ∈ c.pvcs.modify k f hf ↔ _
  exact mem_modify

def Cluster.onPv (c : Cluster) (name : String) (f : Pv → Pv) (hf : ∀ p, (f p).name = p.name) :
    Cluster :=
  { c with pvs := c.pvs.modify name f hf }

/-- `shouldRetainDestVolumes`: unset is Retain. -/
def shouldRetainDestVolumes : Rec Bool :=
  call out.lookupParent
    (pure (out.destVolReclaimPolicy == "" || out.destVolReclaimPolicy == "Retain"))

def removePvcFinalizer (p : Pvc) : Rec Unit :=
  if p.finalizer then
    call (out.removeFinalizer p.name) fun c =>
      .ok () (c.onPvc p.key (fun q => { q with finalizer := false }) fun _ => rfl)
  else pure ()

def managedPVForPVC (p : Pvc) : Rec (Option Pv) :=
  if p.volumeName == "" then pure none
  else do
    let pv ← withContext s!"failed to get PV {p.volumeName}"
      (call (out.managedPv p.volumeName) fun c => .ok (c.pvs.find? p.volumeName) c)
    pure (pv.filter (·.managed))

def stripPv (pv : Pv) : Rec Unit :=
  withContext s!"strip replication labels on mirror PV {pv.name}"
    (call (out.patchPv pv.name) fun c =>
      .ok () (c.onPv pv.name (fun q => { q with managed := false }) fun _ => rfl))

def detachMirrorFromReplication (p : Pvc) : Rec Unit := do
  let pv ← managedPVForPVC out p
  withContext s!"remove finalizer on mirror PVC {p.namespaceName}/{p.name}"
    (removePvcFinalizer out p)
  withContext s!"strip replication labels on mirror PVC {p.namespaceName}/{p.name}"
    (call (out.patchPvc p.name) fun c =>
      .ok () (c.onPvc p.key (fun q => { q with mirror := none }) fun _ => rfl))
  match pv with
  | none => pure ()
  | some pv => stripPv out pv

/-- The finalizer goes, and the claim is deleted; one that is gone is. -/
def deleteMirror (p : Pvc) : Rec Unit := do
  withContext s!"delete orphaned mirror PVC {p.name}: remove vastdata finalizer"
    (removePvcFinalizer out p)
  withContext s!"delete orphaned mirror PVC {p.name}" (call (out.deletePvc p.name) fun c =>
      .ok () (c.onPvc p.key (fun q => { q with terminating := true }) fun _ => rfl))

def Pvc.sourcePVC (p : Pvc) : String := (p.mirror.map (·.sourcePVC)).getD ""

/-- The loop of `cleanReplicaMirrorOrphans`. The check for pods fails the pass at
once; every other error is collected. -/
def orphanLoop (retain : Bool) (keep : List String) : List Pvc → List KErr → Rec Unit
  | [], errs => raiseDeferred errs
  | p :: rest, errs =>
    if keep.contains p.sourcePVC then orphanLoop retain keep rest errs
    else if retain then do
      let failed ← attempt (withContext s!"detach orphaned mirror PVC {p.name}"
        (detachMirrorFromReplication out p))
      orphanLoop retain keep rest (errs ++ failed.toList)
    else do
      call (out.usedByPod p.name) (pure ())
      let failed ← attempt (deleteMirror out p)
      orphanLoop retain keep rest (errs ++ failed.toList)

/-- `cleanReplicaMirrorOrphans`; `keep` has the sources that are still there. -/
def cleanReplicaMirrorOrphans (keep : List String) : Rec Unit := do
  let retain ← shouldRetainDestVolumes out
  let pvcs ← withContext s!"failed to list mirror PVCs for {r.name}"
    (call out.listPvcs fun c => .ok (c.pvcs.select (isMirrorOf r)) c)
  orphanLoop out retain keep pvcs []

/-- The mirrors in `ProvisionVolumes`: those of the other classes are made, and
those whose source is none of them are orphans. -/
def syncMirrors : Rec Unit := do
  let unmanaged ← classifyConstellationPVCs out r
  if r.syncPVCPV then do
    let otherPairs := unmanaged.filter (·.pvc.storageClass != r.storageClass)
    let ensured ← attempt (withContext "ensure mirrors" (ensureReplicaMirrors out r otherPairs))
    let cleaned ← attempt (withContext "orphan cleanup"
      (cleanReplicaMirrorOrphans out r (otherPairs.map (·.pvc.name))))
    raiseDeferred (ensured.toList ++ cleaned.toList)
  else pure ()

end Mirrors

/-- A change of a PVC that may clear its replication labels but sets none. -/
def Unlabels (f : Pvc → Pvc) : Prop := ∀ p, (f p).mirror = p.mirror ∨ (f p).mirror = none

/-- An assertion that the removal of orphans keeps, when the keys of the orphans
are in `S`. -/
structure Tolerates (S : Key → Prop) (I : Cluster → Prop) : Prop where
  pvc : ∀ c k f hf, S k → Unlabels f → I c → I (c.onPvc k f hf)
  pv : ∀ c name f hf, I c → I (c.onPv name f hf)

/-- The same in two parts: keys in `T` may be changed, keys in `S` may lose their labels. -/
structure Permits (T S : Key → Prop) (I : Cluster → Prop) : Prop where
  change : ∀ c k f hf, T k → (∀ p, (f p).mirror = p.mirror) → I c → I (c.onPvc k f hf)
  strip : ∀ c k f hf, S k → (∀ p, (f p).mirror = none) → I c → I (c.onPvc k f hf)
  pv : ∀ c name f hf, I c → I (c.onPv name f hf)

structure Admits (I : Cluster → Prop) : Prop where
  pvc : ∀ c p, I c → I { c with pvcs := c.pvcs.insert p }
  pv : ∀ c p, I c → I { c with pvs := c.pvs.insert p }

section Rules

variable {out : Outcomes} {r : Content} {I : Cluster → Prop} {S T : Key → Prop}

theorem Tolerates.permits (h : Tolerates S I) : Permits S S I where
  change c k f hf hk hm := h.pvc c k f hf hk fun p => .inl (hm p)
  strip c k f hf hk hm := h.pvc c k f hf hk fun p => .inr (hm p)
  pv := h.pv

theorem meets_getConstellationVRCs : Meets I (getConstellationVRCs out r)
      (fun vrcs c => I c ∧ vrcs = c.contents.select (isPeer r)) (fun _ => I) :=
  meets_lookup

/-- What is found under a key has the key. -/
theorem meets_getPVCandPV {k : Key} : Meets I (getPVCandPV out k)
      (fun found c => I c ∧ ∀ pvc pv, found = some (pvc, pv) → pvc.key = k)
      (fun _ => I) := by
  refine .bind meets_lookup fun found => ?_
  cases found with
  | none => exact .pure fun _ hc => ⟨hc.1, nofun⟩
  | some pvc =>
    refine .assuming (p := pvc.key = k)
      (fun _ hc => (find?_eq_some_iff.mp hc.2.symm).2) fun hk => ?_
    dsimp only
    split
    next =>
      refine .pure fun _ hc => ⟨hc.1, fun pvc' pv' he => ?_⟩
      cases he
      exact hk
    next =>
      refine .bind (meets_lookup.raise fun _ _ hc => hc.1) fun pv => ?_
      cases pv with
      | none => exact .pure fun _ hc => ⟨hc.1.1, nofun⟩
      | some pv =>
        refine .pure fun _ hc => ⟨hc.1.1, fun pvc' pv' he => ?_⟩
        cases he
        exact hk

/-- A source is one of the claims asked for. -/
theorem meets_classifyPVCs : ∀ {ks : List Key}, Meets I (classifyPVCs out ks)
      (fun pairs c => I c ∧ ∀ pair ∈ pairs, pair.pvc.key ∈ ks) (fun _ => I)
  | [] => .pure fun _ hc => ⟨hc, fun _ h => absurd h not_mem_nil⟩
  | k :: ks => by
    refine .bind (meets_withContext meets_getPVCandPV) fun found => ?_
    refine .assuming (fun _ hc => hc.2) fun hkey => ?_
    have hrest : Meets (fun c => I c ∧ ∀ pvc pv, found = some (pvc, pv) → pvc.key = k)
        (classifyPVCs out ks) (fun pairs c => I c ∧ ∀ pair ∈ pairs, pair.pvc.key ∈ ks)
        (fun _ => I) :=
      meets_classifyPVCs.preLeft
    match found, hkey with
    | none, _ =>
      exact hrest.post (fun _ _ hc => ⟨hc.1, fun pair hp => mem_cons_of_mem _ (hc.2 pair hp)⟩)
    | some (pvc, none), _ => exact .throw fun _ hc => hc.1
    | some (pvc, some pv), hkey =>
      refine .bind hrest fun unmanaged => .pure fun _ hc => ⟨hc.1, ?_⟩
      intro pair hp
      split at hp
      next => exact mem_cons_of_mem _ (hc.2 pair hp)
      next =>
        rcases mem_cons.mp hp with rfl | hp
        · rw [hkey pvc (some pv) rfl]
          exact mem_cons_self
        · exact mem_cons_of_mem _ (hc.2 pair hp)

theorem keeps_returned (x : Except KErr String) : Keeps I (returned x) := by
  cases x with
  | ok a => exact keeps_pure _
  | error e => exact keeps_throw _

theorem keeps_ensurePV {pv : Pv} (hpv : ∀ c, I c → I { c with pvs := c.pvs.insert pv }) :
    Keeps I (ensurePV out pv) := by
  refine .bind (keeps_call (I := I) fun _ hc => hc) fun found => ?_
  cases found with
  | some _ => exact keeps_pure _
  | none => exact keeps_call hpv

theorem keeps_ensurePVC {pvc : Pvc} (hpvc : ∀ c, I c → I { c with pvcs := c.pvcs.insert pvc }) :
    Keeps I (ensurePVC out pvc) := by
  refine .bind (keeps_call (I := I) fun _ hc => hc) fun found => ?_
  cases found with
  | some _ => exact keeps_pure _
  | none => exact keeps_call hpvc

section Making

variable (hpv : ∀ c pv, I c → I { c with pvs := c.pvs.insert pv })

include hpv

theorem keeps_ensureMirrorPVCPV {source : VolumePair} (hpvc : ∀ c name pvName, I c →
      I { c with pvcs := c.pvcs.insert (mirrorPvc r source name pvName) }) :
    Keeps I (ensureMirrorPVCPV out r source) := by
  refine .bind (keeps_assertThat _ _) fun _ => ?_
  refine .bind (meets_withContext (keeps_returned _)) fun _ => ?_
  refine .bind (meets_withContext (keeps_returned _)) fun _ => ?_
  refine .bind (keeps_assertThat _ _) fun _ => ?_
  refine .bind (keeps_assertThat _ _) fun _ => ?_
  refine .bind (keeps_assertThat _ _) fun _ => ?_
  refine .bind (meets_withContext (keeps_returned _)) fun _ => ?_
  refine .bind (meets_withContext (keeps_ensurePV fun c => hpv c _)) fun _ => ?_
  exact .bind (meets_withContext (keeps_ensurePVC fun c => hpvc c _ _)) fun _ => keeps_pure _

theorem keeps_mirrorLoop : ∀ {pairs : List VolumePair} {errs : List KErr},
    (∀ source ∈ pairs, ∀ c name pvName, I c →
      I { c with pvcs := c.pvcs.insert (mirrorPvc r source name pvName) }) →
    Keeps I (mirrorLoop out r pairs errs)
  | [], _, _ => keeps_raiseDeferred
  | pair :: pairs, errs, hpvc => by
    have hask : Keeps I (askBackend out r pair) := by
      unfold askBackend
      split
      next => exact .attempt (keeps_call (keeps_pure _))
      next => exact keeps_pure _
    refine .bind hask fun asked => ?_
    cases asked with
    | some e =>
      dsimp only
      split
      next => exact keeps_pure _
      next => exact keeps_throw _
    | none =>
      refine .bind (.attempt (meets_withContext ?_)) fun _ =>
        keeps_mirrorLoop fun source hsource => hpvc source (mem_cons_of_mem pair hsource)
      exact .bind (keeps_ensureMirrorPVCPV hpv (hpvc pair mem_cons_self)) fun _ => keeps_pure _

end Making

variable {p : Pvc} {keep : List String}

theorem keeps_removePvcFinalizer (hI : Permits T S I) (hp : T p.key) :
    Keeps I (removePvcFinalizer out p) := by
  unfold removePvcFinalizer
  split
  next => exact keeps_call fun c hc => hI.change c _ _ _ hp (fun _ => rfl) hc
  next => exact keeps_pure _

theorem keeps_managedPVForPVC (p : Pvc) : Keeps I (managedPVForPVC out p) := by
  unfold managedPVForPVC
  split
  next => exact keeps_pure _
  next => exact .bind (meets_withContext (keeps_call (I := I) fun _ hc => hc)) fun _ => keeps_pure _

theorem keeps_detach (hI : Permits T S I) (hp : T p.key) (hstrip : S p.key) :
    Keeps I (detachMirrorFromReplication out p) := by
  refine .bind (keeps_managedPVForPVC p) fun pv => ?_
  refine .bind (meets_withContext (keeps_removePvcFinalizer hI hp)) fun _ => ?_
  refine .bind (meets_withContext (keeps_call (I := I)
    fun c hc => hI.strip c _ _ _ hstrip (fun _ => rfl) hc)) fun _ => ?_
  cases pv with
  | none => exact keeps_pure _
  | some pv => exact meets_withContext (keeps_call fun c hc => hI.pv c _ _ _ hc)

theorem keeps_deleteMirror (hI : Permits T S I) (hp : T p.key) : Keeps I (deleteMirror out p) :=
  .bind (meets_withContext (keeps_removePvcFinalizer hI hp)) fun _ =>
    meets_withContext (keeps_call fun c hc => hI.change c _ _ _ hp (fun _ => rfl) hc)

/-- Orphans are changed, and lose their labels if they are retained. -/
theorem keeps_orphanLoop (hI : Permits T S I) {retain : Bool} :
    ∀ {pvcs : List Pvc} {errs : List KErr},
      (∀ p ∈ pvcs, p.sourcePVC ∉ keep → T p.key ∧ (retain = true → S p.key)) →
      Keeps I (orphanLoop out retain keep pvcs errs)
  | [], _, _ => keeps_raiseDeferred
  | p :: pvcs, errs, horphan => by
    have hrest : ∀ errs, Keeps I (orphanLoop out retain keep pvcs errs) :=
      fun errs => keeps_orphanLoop hI fun q hq => horphan q (mem_cons_of_mem p hq)
    unfold orphanLoop
    split
    next => exact hrest errs
    next hkeep =>
      have hp := horphan p mem_cons_self fun hmem => hkeep (contains_iff_mem.mpr hmem)
      split
      next hretain =>
        exact .bind (.attempt (meets_withContext (keeps_detach hI hp.1 (hp.2 hretain))))
          fun _ => hrest _
      next =>
        refine .bind (keeps_call (keeps_pure _)) fun _ => ?_
        exact .bind (.attempt (keeps_deleteMirror hI hp.1)) fun _ => hrest _

def Outcomes.retains (out : Outcomes) : Bool :=
  out.destVolReclaimPolicy == "" || out.destVolReclaimPolicy == "Retain"

theorem meets_shouldRetainDestVolumes :
    Meets I (shouldRetainDestVolumes out) (fun b c => I c ∧ b = out.retains) (fun _ => I) :=
  meets_call (fun _ hc => hc) (fun _ _ hc => hc.1) (.pure fun _ hc => ⟨hc, rfl⟩)

/-- The orphans are among what the selector selects, without those to keep. -/
theorem keeps_releaseOrphans (hI : Permits T S I)
    (horphan : ∀ c, I c → ∀ p ∈ c.pvcs, isMirrorOf r p = true → p.sourcePVC ∉ keep →
      T p.key ∧ (out.retains = true → S p.key)) :
    Keeps I (cleanReplicaMirrorOrphans out r keep) := by
  refine .bind meets_shouldRetainDestVolumes fun retain => ?_
  refine .assuming (p := retain = out.retains) (fun _ hc => hc.2) fun hretain => ?_
  subst hretain
  have hlist : Meets I (call out.listPvcs fun c => .ok (c.pvcs.select (isMirrorOf r)) c)
      (fun pvcs c => I c ∧ ∀ p ∈ pvcs, p.sourcePVC ∉ keep →
        T p.key ∧ (out.retains = true → S p.key)) (fun _ => I) := by
    refine meets_call (fun _ hc => hc) (fun _ _ hc => hc.1) fun c hc => ⟨hc, fun p hp => ?_⟩
    obtain ⟨hmem, hsel⟩ := mem_select.mp hp
    exact horphan c hc p hmem hsel
  refine .bind ((meets_withContext hlist).preLeft) fun pvcs => ?_
  refine .assuming (fun _ hc => hc.2) fun hp => ?_
  exact (keeps_orphanLoop hI hp).preLeft

/-- The same for an assertion that does not tell changes from releases. -/
theorem keeps_cleanReplicaMirrorOrphans (hI : Tolerates S I)
    (hS : ∀ c, I c → ∀ p ∈ c.pvcs, isMirrorOf r p = true → S p.key) :
    Keeps I (cleanReplicaMirrorOrphans out r keep) :=
  keeps_releaseOrphans hI.permits fun c hc p hp hsel _ =>
    ⟨hS c hc p hp hsel, fun _ => hS c hc p hp hsel⟩

theorem keeps_syncMirrors (hI : Tolerates S I) (hA : Admits I)
    (hS : ∀ c, I c → ∀ p ∈ c.pvcs, isMirrorOf r p = true → S p.key) :
    Keeps I (syncMirrors out r) := by
  have hclassify : Keeps I (classifyConstellationPVCs out r) := by
    refine .bind (meets_withContext meets_getConstellationVRCs) fun vrcs => ?_
    exact meets_classifyPVCs.weaken (fun _ hc => hc.1) (fun _ _ hc => hc.1) (fun _ _ hc => hc)
  refine .bind hclassify fun unmanaged => ?_
  dsimp only
  split
  next =>
    refine .bind (.attempt (meets_withContext (keeps_mirrorLoop hA.pv
      fun _ _ c _ _ => hA.pvc c _))) fun _ => ?_
    refine .bind (.attempt (meets_withContext (keeps_cleanReplicaMirrorOrphans hI hS))) fun _ => ?_
    exact keeps_raiseDeferred
  next => exact keeps_pure _

end Rules

end VastCsi.Ext.Contents
