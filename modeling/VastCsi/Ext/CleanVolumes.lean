import VastCsi.Ext.Mirrors

/-!
# The cleanup of a content

When its group is gone, a content under deletion cleans up: `CleanVolumes` disables the protected
path, waits once for snapshots under way, deletes the replication snapshots of every policy,
deletes the protected path, and removes mirrors and backend objects. Most failures fail the pass;
that of deleting a snapshot is only reported.
-/

namespace VastCsi.Ext.Contents

open Lib CsiAddons

structure CleanupOutcomes extends Outcomes where
  newProvisioner : Fate Fault := .answered
  getPpath : Fate Fault := .answered
  disablePpath : Fate Fault := .answered
  /-- Snapshots that land during the wait. -/
  landed : List Snapshot := []
  annotateWait : Fate Fault := .answered
  /-- The listing for the `i`-th policy, and the delete of a snapshot in it. -/
  listSnapshots : Nat → Fate Fault := fun _ => .answered
  deleteSnapshot : Nat → Nat → Fate Fault := fun _ _ => .answered
  deletePpath : Fate Fault := .answered
  /-- Whether the protected path is still there at the last poll. -/
  lingers : Bool := false
  existsPpath : Fate Fault := .answered
  cleanVolumeCb : Fate Fault := .answered
  cleanKubernetesResources : Fate Fault := .answered
  annotateDone : Fate Fault := .answered

namespace Cluster

variable (c : Cluster) (scName : String)

def snapshots : Table Snapshot (·.id) := (c.vast scName).snapshots

def ppaths : Table Ppath (·.id) := (c.vast scName).ppaths

def onVast (f : Vast → Vast) : Cluster :=
  { c with vast := Function.update c.vast scName (f (c.vast scName)) }

def setSnapshots (t : Table Snapshot (·.id)) : Cluster :=
  c.onVast scName fun v => { v with snapshots := t }

def setPpaths (t : Table Ppath (·.id)) : Cluster := c.onVast scName fun v => { v with ppaths := t }

def onContent (k : Key) (f : Content → Content) (hf : ∀ x, (f x).key = x.key) : Cluster :=
  { c with contents := c.contents.modify k f hf }

variable {c scName}

theorem mem_onContent {k : Key} {f : Content → Content} {hf : ∀ x, (f x).key = x.key}
    {x : Content} :
    x ∈ (c.onContent k f hf).contents ↔ ∃ y ∈ c.contents, x = if y.key = k then f y else y := by
  show x ∈ c.contents.modify k f hf ↔ _
  exact Table.mem_modify

theorem vast_onVast {f : Vast → Vast} : (c.onVast scName f).vast scName = f (c.vast scName) :=
  Function.update_self ..

@[simp] theorem snapshots_setSnapshots {t : Table Snapshot (·.id)} :
    (c.setSnapshots scName t).snapshots scName = t := by
  rw [snapshots, setSnapshots, vast_onVast]

@[simp] theorem ppaths_setSnapshots {t : Table Snapshot (·.id)} :
    (c.setSnapshots scName t).ppaths scName = c.ppaths scName := by
  rw [ppaths, setSnapshots, vast_onVast]
  rfl

@[simp] theorem ppaths_setPpaths {t : Table Ppath (·.id)} :
    (c.setPpaths scName t).ppaths scName = t := by
  rw [ppaths, setPpaths, vast_onVast]

@[simp] theorem snapshots_setPpaths {t : Table Ppath (·.id)} :
    (c.setPpaths scName t).snapshots scName = c.snapshots scName := by
  rw [snapshots, setPpaths, vast_onVast]
  rfl

end Cluster

section Cleanup

variable (out : CleanupOutcomes) (r : Content)

def getPPathForSource : Rec (Option Ppath) :=
  call out.getPpath fun c =>
    match (c.ppaths r.storageClass).select (·.name == r.protectedPathName) with
    | [] => .ok none c
    | [q] => .ok (some q) c
    | _ => .error ⟨[.other], "too many records"⟩ c

/-- The protected path, if there is one and it is enabled, is disabled. -/
def disablePpath : Option Ppath → Rec Unit
  | none => pure ()
  | some q =>
    if q.enabled then
      withContext s!"failed to disable protected path \"{q.name}\"" (call out.disablePpath fun c =>
          .ok () (c.setPpaths r.storageClass ((c.ppaths r.storageClass).modify q.id
            (fun p => { p with enabled := false }) fun _ => rfl)))
    else pure ()

def afterWait (t : Table Snapshot (·.id)) : Table Snapshot (·.id) :=
  if r.snapshotCleanupWaitDone then t else out.landed.foldl Table.insert t

def waitAfterPpathDisable : Rec Unit :=
  if r.snapshotCleanupWaitDone then pure ()
  else do
    fun c => .ok () (c.setSnapshots r.storageClass
      (out.landed.foldl Table.insert (c.snapshots r.storageClass)))
    withContext "record snapshot cleanup wait" (call out.annotateWait fun c =>
      .ok () (c.onContent r.key (fun x => { x with snapshotCleanupWaitDone := true }) fun _ => rfl))

def snapshotPath : String := String.ofList (Text.rstrip '/' r.replicationPath.toList) ++ "/"

def isReplicationSnapshot (policyName : String) (x : Snapshot) : Bool :=
  x.path == snapshotPath r && x.protectionPolicyName == policyName

/-- One snapshot, of the listing for the `i`-th policy: 404 is fine, and any other
failure is only reported. -/
def deleteSnapshot (i : Nat) (x : Snapshot) : Rec Unit := do
  let _ ← attempt (call (out.deleteSnapshot i x.id) fun c =>
    .ok () (c.setSnapshots r.storageClass ((c.snapshots r.storageClass).erase x.id)))
  pure ()

def deletePolicySnapshots (i : Nat) (policyName : String) : Rec Unit := do
  let snapshots ← withContext
    s!"failed to list snapshots for path {snapshotPath r} policy {policyName}"
    (call (out.listSnapshots i) fun c =>
      .ok ((c.snapshots r.storageClass).select (isReplicationSnapshot r policyName)) c)
  forEach (deleteSnapshot out r i) snapshots

def deleteSnapshots : Nat → List String → Rec Unit
  | _, [] => pure ()
  | i, policyName :: rest => do
    deletePolicySnapshots out r i policyName
    deleteSnapshots (i + 1) rest

def deletePpathById (q : Ppath) : Rec Bool :=
  call out.deletePpath fun c =>
    if (c.ppaths r.storageClass).hasKey q.id then
      .ok true (if out.lingers then c
        else c.setPpaths r.storageClass ((c.ppaths r.storageClass).erase q.id))
    else .ok false c

/-- `WaitForResource` until there is none of the name. -/
def awaitPpathAbsent (q : Ppath) : Rec Unit := do
  let there ← withContext s!"checking protected path \"{q.name}\""
    (call out.existsPpath fun c => .ok ((c.ppaths r.storageClass).rows.any (·.name == q.name)) c)
  require (!there) s!"timed out after 2m0s waiting for protected path \"{q.name}\" to be ready"

def dropPpath : Option Ppath → Rec Unit
  | none => pure ()
  | some q => do
    if ← withContext s!"delete protected path \"{q.name}\"" (deletePpathById out r q) then
      withContext s!"waiting for protected path \"{q.name}\" deletion" (awaitPpathAbsent out r q)
    else pure ()

def cleanVolumes : Rec Unit := do
  let ppath ← getPPathForSource out r
  disablePpath out r ppath
  waitAfterPpathDisable out r
  deleteSnapshots out r 0 r.protectionPolicyNames
  dropPpath out r ppath
  call out.cleanVolumeCb (pure ())
  cleanReplicaMirrorOrphans out.toOutcomes r []
  call out.cleanKubernetesResources (pure ())

def cleanResources : Rec Unit := do
  call out.newProvisioner (pure ())
  cleanVolumes out r

/-- The part of `Reconcile` that cleans up a content without the annotation. -/
def cleanup : Rec Unit :=
  if r.cleanupDone then pure ()
  else do
    withContext "failed to clean resources" (cleanResources out r)
    call out.annotateDone fun c =>
      .ok () (c.onContent r.key (fun x => { x with cleanupDone := true }) fun _ => rfl)

end Cleanup

/-- An assertion that looks neither at the VAST cluster of the content nor at the
content itself. -/
structure Indifferent (r : Content) (I : Cluster → Prop) : Prop where
  vast : ∀ c f, I c → I (c.onVast r.storageClass f)
  content : ∀ c f hf, I c → I (c.onContent r.key f hf)

namespace Indifferent

variable {out : CleanupOutcomes} {r : Content} {I : Cluster → Prop}

theorem keeps_getPPathForSource : Keeps I (getPPathForSource out r) := by
  refine keeps_call fun c hc => ?_
  generalize (c.ppaths r.storageClass).select (·.name == r.protectedPathName) = l
  rcases l with _ | ⟨q₀, _ | ⟨q₁, l⟩⟩
  · exact hc
  · exact hc
  · exact hc

theorem keeps_disablePpath (h : Indifferent r I) (found : Option Ppath) :
    Keeps I (disablePpath out r found) := by
  unfold disablePpath
  split
  next => exact keeps_pure _
  next =>
    split
    next => exact meets_withContext (keeps_call fun c hc => h.vast c _ hc)
    next => exact keeps_pure _

theorem keeps_waitAfterPpathDisable (h : Indifferent r I) :
    Keeps I (waitAfterPpathDisable out r) := by
  unfold waitAfterPpathDisable
  split
  next => exact keeps_pure _
  next =>
    refine .bind (Q := fun _ => I) (fun c hc => h.vast c _ hc) fun _ => ?_
    exact meets_withContext (keeps_call fun c hc => h.content c _ _ hc)

theorem keeps_deleteSnapshots (h : Indifferent r I) :
    ∀ {names : List String} {i : Nat}, Keeps I (deleteSnapshots out r i names)
  | [], _ => keeps_pure _
  | policyName :: rest, i => by
    refine .bind (Q := fun _ => I) ?_ fun _ => h.keeps_deleteSnapshots
    refine .bind (meets_withContext (keeps_call (I := I) fun _ hc => hc)) fun xs => ?_
    refine .forEach fun x _ => ?_
    exact .bind (.attempt (keeps_call fun c hc => h.vast c _ hc)) fun _ => keeps_pure _

theorem keeps_deletePpathById (h : Indifferent r I) (q : Ppath) :
    Keeps I (deletePpathById out r q) := by
  refine keeps_call fun c hc => ?_
  by_cases hkey : (c.ppaths r.storageClass).hasKey q.id = true
  · rw [if_pos hkey]
    by_cases hl : out.lingers = true
    · rw [if_pos hl]
      exact hc
    · rw [if_neg hl]
      exact h.vast c _ hc
  · rw [if_neg hkey]
    exact hc

theorem keeps_dropPpath (h : Indifferent r I) : ∀ found, Keeps I (dropPpath out r found)
  | none => keeps_pure _
  | some q => by
    refine .bind (Q := fun _ => I) (meets_withContext (h.keeps_deletePpathById q)) fun there => ?_
    cases there with
    | false => exact keeps_pure _
    | true =>
      refine meets_withContext (.bind (meets_withContext
        (keeps_call (I := I) fun _ hc => hc)) fun _ => keeps_assertThat _ _)

/-- Apart from the cluster and the content, the cleanup only changes what the removal of mirrors
does. -/
theorem keeps_cleanup (h : Indifferent r I)
    (horphans : Keeps I (cleanReplicaMirrorOrphans out.toOutcomes r [])) :
    Keeps I (cleanup out r) := by
  have hnop : ∀ fate, Keeps I (call fate (pure ()) : Rec Unit) := fun _ => keeps_call (keeps_pure _)
  unfold cleanup
  split
  next => exact keeps_pure _
  next =>
    refine .bind (meets_withContext ?_) fun _ => keeps_call fun c hc => h.content c _ _ hc
    refine .bind (hnop _) fun _ => ?_
    refine .bind keeps_getPPathForSource fun found => ?_
    refine .bind (h.keeps_disablePpath found) fun _ => ?_
    refine .bind h.keeps_waitAfterPpathDisable fun _ => ?_
    refine .bind h.keeps_deleteSnapshots fun _ => ?_
    refine .bind (h.keeps_dropPpath found) fun _ => ?_
    refine .bind (hnop _) fun _ => ?_
    exact .bind horphans fun _ => hnop _

end Indifferent

end VastCsi.Ext.Contents
