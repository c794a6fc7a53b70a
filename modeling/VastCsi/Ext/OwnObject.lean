import VastCsi.Ext.SpecValidation
import VastCsi.Ext.VscrReconcile

/-!
# What a reconcile does to its own object

The controllers of a `VastVolumeReplication` and of a `VastStorageClassReplication` change the
copy they work on (`MemStep`), write parts of it to the stored object (`StoreStep`), and at the
end of a deletion take the finalizer off. An assertion that survives each of these is `Kept` by
all of a reconcile behind the step that adds the finalizer.
-/

namespace VastCsi.Ext.Vvr

open Lib CsiAddons
open VastCsi.Ext.Specs (edgesOf)

inductive MemStep (m : VastVolumeReplication) : VastVolumeReplication → Prop
  | status {s : Status} (h : StatusStep m s) : MemStep m { m with status := s }
  | peers {ts : List ReplicationTarget} (h : edgesOf ts = edgesOf m.protectionTopology) :
    MemStep m { m with protectionTopology := ts }
  | resync : MemStep m { m with resync := false }
  | finalizer : MemStep m { m with finalizer := false }

/-- A write of part of the copy to the stored object. -/
inductive StoreStep (m v : VastVolumeReplication) : VastVolumeReplication → Prop
  | status : StoreStep m v { v with status := m.status }
  | peers : StoreStep m v { v with protectionTopology := m.protectionTopology }
  | resync : StoreStep m v { v with resync := false }

/-- An assertion that survives what a reconcile does to the object and its copy, apart from the
addition of the finalizer. -/
structure Kept (I : World Own → Prop) : Prop where
  blind : ∀ w o n, I w → I { w with objs := o, calls := n }
  mem : ∀ w m, MemStep w.own.mem m → I w → I { w with own := { w.own with mem := m } }
  store : ∀ w v v', w.own.stored = some v → StoreStep w.own.mem v v' → I w →
    I { w with own := { w.own with stored := some v' } }
  remove : ∀ w v, w.own.stored = some v → I w → I { w with own :=
      { w.own with stored := if v.deleting then none else some { v with finalizer := false } } }

/-- A deletion: the object stays as long as it has a finalizer. -/
def deleted (v : VastVolumeReplication) : Option VastVolumeReplication :=
  if v.finalizer then some { v with deleting := true } else none

/-- What comes before the work on an object: the finalizer is there, and the object has
been validated when it was added. -/
def gate (env : Env) : Rec Unit := do
  external env "failed to build VMS REST clients"
  external env "failed to fetch StorageClass objects"
  ensureFinalizer env

def afterGate (env : Env) : Rec Unit := do
  let primaryChanged ← ensurePrimaryStorageClass
  backfillLabels env primaryChanged
  recordStatus env primaryChanged
  if (← getMem).resync then ensureResync env else reconcileVRs env primaryChanged

theorem reconcileLive_eq (env : Env) : reconcileLive env = (do gate env; afterGate env) := by
  simp only [reconcileLive, gate, afterGate, bind_assoc]

section Kept

variable {I : World Own → Prop} {env : Env}

namespace Kept

theorem tick (hI : Kept I) : TickFree I := fun w hw => hI.blind w w.objs (w.calls + 1) hw

theorem objs (hI : Kept I) {w : World Own} {o : Objects} (hw : I w) : I { w with objs := o } :=
  hI.blind w o w.calls hw

theorem careful (hI : Kept I) : Careful I where
  tick := hI.tick
  status := fun w _ hs hw => hI.mem w _ (.status hs) hw
  write := fun w v hv hw => hI.store w v _ hv .status hw

theorem driving (hI : Kept I) : Driving I where
  tick := hI.tick
  create := fun _ _ _ _ hw _ => hI.objs hw
  patch := fun _ _ _ _ hw => hI.objs hw

theorem patchState (hI : Kept I) {fates : Fates} {name : String} {state : ReplicationState} :
    Keeps I (patchState fates name state) :=
  (meets_patchState hI.tick (fun _ _ hw _ _ => hw) (fun _ _ hw _ _ => hI.objs hw)).raise
    (fun _ _ hw => hw.elim id id)

/-- A write of part of the copy. -/
theorem writeBack (hI : Kept I) {fates : Fates} {f : VastVolumeReplication →
    VastVolumeReplication → VastVolumeReplication} (hf : ∀ m v, StoreStep m v (f m v)) :
    Keeps I (writeBack fates f) := by
  refine keeps_api hI.tick fun w hw => ?_
  dsimp only
  cases hs : w.own.stored with
  | none => exact hw
  | some v => exact hI.store w v _ hs (hf _ v) hw

theorem clearResync (hI : Kept I) : Keeps I (clearResync env) :=
  .bind (Q := fun _ => I) (fun w hw => hI.mem w _ .resync hw)
    fun _ => hI.writeBack fun _ _ => .resync

/-- The peers that are found do not change the ends of the entries. -/
theorem setPeers (hI : Kept I) {peerOf : ReplicationTarget → String} : Keeps I (modifyMem fun m =>
      { m with protectionTopology := m.protectionTopology.map fun t =>
          if t.peerName == "" then { t with peerName := peerOf t } else t }) := by
  refine fun w hw => hI.mem w _ (.peers ?_) hw
  rw [edgesOf, edgesOf, List.map_map]
  refine List.map_congr_left fun t _ => ?_
  rw [Function.comp_apply]
  split
  next => rfl
  next => rfl

theorem removeFinalizer (hI : Kept I) : Keeps I (removeFinalizer env) := by
  refine .bind (Q := fun _ => I) (fun w hw => hI.mem w _ .finalizer hw) fun _ => ?_
  refine keeps_api hI.tick fun w hw => ?_
  dsimp only
  cases hs : w.own.stored with
  | none => exact hw
  | some v => exact hI.remove w v hs hw

theorem deleteVR (hI : Kept I) {vrName : String} : Keeps I (deleteVR env vrName) := by
  refine keeps_api hI.tick fun w hw => ?_
  cases hl : env.lingers vrName with
  | true => exact hw
  | false => exact hI.objs hw

theorem ownedVRs (hI : Kept I) {m : VastVolumeReplication} :
    ∀ {scs : List String}, Keeps I (ownedVRs env m scs)
  | [] => keeps_pure _
  | _ :: _ =>
    .bind (.tryCatch (keeps_getObject hI.tick) fun _ => keeps_pure _) fun _ =>
      .bind hI.ownedVRs fun _ => keeps_pure _

end Kept

theorem keeps_afterGate (hI : Kept I) : Keeps I (afterGate env) := by
  refine .bind (keeps_ensurePrimaryStorageClass hI.careful) fun changed => ?_
  refine .bind (keeps_backfillLabels hI.tick) fun _ => ?_
  refine .bind (keeps_recordStatus hI.careful) fun _ => ?_
  refine keeps_getMem_bind fun m => ?_
  split
  next =>
    refine keeps_getMem_bind fun m => ?_
    refine .bind (meets_withContext (keeps_getObject hI.tick)) fun found => ?_
    cases found with
    | none => exact hI.clearResync
    | some _ => exact .bind (meets_withContext hI.patchState) fun _ => hI.clearResync
  next =>
    refine .bind (keeps_ensurePpathDirs hI.careful) fun _ => ?_
    refine .bind (keeps_ensureTenants hI.careful) fun _ => ?_
    refine keeps_getMem_bind fun m => ?_
    split
    next =>
      refine .bind (keeps_external hI.tick) fun _ => .bind hI.setPeers fun _ => ?_
      exact meets_withContext (hI.writeBack fun _ _ => .peers)
    next => exact .bind (keeps_ensurePpath hI.careful) fun _ => keeps_ensureVRs hI.driving

/-- The end of a deletion, once the objects of the classes are gone. -/
theorem keeps_finish (hI : Kept I) {n : Nat} : Keeps I (if n = 0 then do
      let _ ← attempt (external env "failed to delete protected path")
      withContext "failed to remove finalizer" (removeFinalizer env)
    else pure ()) := by
  split
  next =>
    exact .bind (.attempt (keeps_external hI.tick)) fun _ => meets_withContext hI.removeFinalizer
  next => exact keeps_pure _

theorem keeps_handleDeletion {objectKind : String} (hI : Kept I) :
    Keeps I (handleDeletionOf objectKind env) := by
  refine keeps_getMem_bind fun m => ?_
  split
  next =>
    refine .bind (.forEach fun _ _ => meets_withContext hI.deleteVR) fun _ => ?_
    refine .bind hI.ownedVRs fun left => ?_
    split
    next => exact .bind (keeps_external hI.tick) fun _ => keeps_finish hI
    next => exact keeps_pure _
  next => exact keeps_pure _

end Kept

end VastCsi.Ext.Vvr

namespace VastCsi.Ext.Vscr

open Lib CsiAddons
open VastCsi.Ext.Vvr (Own Rec Kept external getMem gate keeps_external keeps_getMem_bind)

def handleDeletion (env : Env) : Rec Unit :=
  Vvr.handleDeletionOf "VolumeGroupReplication" env.toEnv

def afterGate (env : Env) : Rec Unit := do
  let primaryChanged ← Vvr.ensurePrimaryStorageClass
  Vvr.backfillLabels env.toEnv primaryChanged
  recordStatus env primaryChanged
  let m ← getMem
  if m.resync then ensureResync env
  else if hasUnresolvedPeers m.protectionTopology then resolvePeers env
  else reconcileVGRs env

theorem reconcileLive_eq (env : Env) : reconcileLive env = (do gate env.toEnv; afterGate env) := by
  simp only [reconcileLive, gate, afterGate, bind_assoc]

section Kept

variable {I : World Own → Prop} {env : Env}

theorem keeps_clearResync (hI : Kept I) : Keeps I (clearResync env) :=
  .bind (Q := fun _ => I) (fun w hw => hI.mem w _ .resync hw)
    fun _ => meets_withContext (hI.writeBack fun _ _ => .resync)

theorem keeps_ensureResync (hI : Kept I) : Keeps I (ensureResync env) := by
  refine keeps_getMem_bind fun m => ?_
  refine .bind (meets_withContext (keeps_getObject hI.tick)) fun found => ?_
  cases found with
  | none => exact keeps_clearResync hI
  | some _ =>
    refine .bind (meets_withContext hI.patchState) fun _ => ?_
    refine .bind (keeps_external hI.tick) fun _ => ?_
    exact meets_withContext (keeps_clearResync hI)

theorem keeps_ensurePpath (hI : Kept I) : Keeps I (ensurePpath env) := by
  refine keeps_getMem_bind fun m => ?_
  split
  next => exact Vvr.keeps_createPpath hI.careful
  next =>
    refine .bind Vvr.keeps_primaryRest fun _ => ?_
    refine .bind (keeps_external hI.tick) fun _ => ?_
    split
    next => exact Vvr.keeps_losePpath hI.careful
    next => exact keeps_pure _

theorem keeps_ensureVGRs (hI : Kept I) : Keeps I (ensureVGRs env) := by
  refine keeps_getMem_bind fun m => ?_
  refine .bind (.collectErrors fun scName _ => ?_) fun errs => ?_
  · exact keeps_turn hI.tick (fun _ hw _ => hI.objs hw) fun _ hw _ => hI.objs hw
  refine .bind (.attempt ?_) fun _ => keeps_raiseDeferred
  refine .bind (keeps_confirmedClasses hI.tick) fun candidates => ?_
  refine .bind (.collectErrors fun scName _ => ?_) fun _ => keeps_raiseDeferred
  exact meets_withContext (keeps_ensureState hI.tick fun _ _ hw _ _ => hI.objs hw)

theorem keeps_afterGate (hI : Kept I) : Keeps I (afterGate env) := by
  refine .bind (Vvr.keeps_ensurePrimaryStorageClass hI.careful) fun changed => ?_
  refine .bind (Vvr.keeps_backfillLabels hI.tick) fun _ => ?_
  refine .bind (Vvr.keeps_recordStatus hI.careful) fun _ => ?_
  refine keeps_getMem_bind fun m => ?_
  split
  next => exact keeps_ensureResync hI
  split
  next =>
    refine .bind (keeps_external hI.tick) fun _ => .bind hI.setPeers fun _ => ?_
    exact meets_withContext (hI.writeBack fun _ _ => .peers)
  next =>
    refine .bind (keeps_ensurePpathDirs hI.careful) fun _ => ?_
    refine .bind (Vvr.keeps_ensureTenants hI.careful) fun _ => ?_
    exact .bind (keeps_ensurePpath hI) fun _ => keeps_ensureVGRs hI

end Kept

end VastCsi.Ext.Vscr

namespace VastCsi.Ext.Vvr

open Lib CsiAddons

/-- What the two controllers differ in. None of them adds the finalizer. -/
structure Controller (ε : Type) where
  toEnv : ε → Env
  work : ε → Rec Unit
  deletion : ε → Rec Unit
  syncStatus : ε → Option KErr → Rec Unit
  keeps_work : ∀ {I : World Own → Prop} (env : ε), Kept I → Keeps I (work env)
  keeps_deletion : ∀ {I : World Own → Prop} (env : ε), Kept I → Keeps I (deletion env)
  keeps_syncStatus : ∀ {I : World Own → Prop} (env : ε) (err : Option KErr), Kept I →
    Keeps I (syncStatus env err)

section Controller

variable {ε : Type} (c : Controller ε) (env : ε)

def Controller.body : Rec Unit := do
  if (← getMem).deleting then c.deletion env
  else do
    gate (c.toEnv env)
    c.work env

def Controller.resume : Rec Unit := deferring (c.body env) (c.syncStatus env)

def Controller.reconcile : Rec Unit := do
  if ← fetch (c.toEnv env) then c.resume env else pure ()

/-- All of it keeps an assertion that the finalizer does not matter to either. -/
theorem Controller.keeps_resume {I : World Own → Prop} (hI : Kept I) (hf : FinalizerFree I) :
    Keeps I (c.resume env) := by
  have hbody : Keeps I (c.body env) := by
    refine keeps_getMem_bind fun m => ?_
    split
    next => exact c.keeps_deletion env hI
    next =>
      refine .bind (Q := fun _ => I) ?_ fun _ => c.keeps_work env hI
      refine .bind (keeps_external hI.tick) fun _ => ?_
      exact .bind (keeps_external hI.tick) fun _ => keeps_ensureFinalizer hf
  exact .deferring hbody (fun _ => c.keeps_syncStatus env _ hI) fun _ => c.keeps_syncStatus env _ hI

end Controller

def vvrController : Controller Env where
  toEnv := id
  work := afterGate
  deletion := handleDeletion
  syncStatus := reconcileSyncStatus
  keeps_work _ hI := keeps_afterGate hI
  keeps_deletion _ hI := keeps_handleDeletion hI
  keeps_syncStatus _ _ hI := keeps_reconcileSyncStatus hI.careful

def vscrController : Controller Vscr.Env where
  toEnv := Vscr.Env.toEnv
  work := Vscr.afterGate
  deletion := Vscr.handleDeletion
  syncStatus := Vscr.reconcileSyncStatus
  keeps_work _ hI := Vscr.keeps_afterGate hI
  keeps_deletion _ hI := keeps_handleDeletion hI
  keeps_syncStatus _ _ hI := keeps_reconcileSyncStatus hI.careful

theorem vvrController_reconcile (env : Env) : vvrController.reconcile env = reconcile env := by
  simp only [Controller.reconcile, Controller.resume, Controller.body, reconcile, reconcileLive_eq]
  rfl

theorem vscrController_reconcile (env : Vscr.Env) :
    vscrController.reconcile env = Vscr.reconcile env (Vscr.handleDeletion env) := by
  simp only [Controller.reconcile, Controller.resume, Controller.body, Vscr.reconcile,
    Vscr.reconcileLive_eq]
  rfl

end VastCsi.Ext.Vvr
