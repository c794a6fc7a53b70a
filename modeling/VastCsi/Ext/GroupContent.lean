import VastCsi.Ext.Policies

/-!
# The content of a group

`reconcileVGR` keeps one `VastReplicationContent` for each `VolumeGroupReplication`: it is created
with the PVCs and the state that the group reports, and follows them. When the list of the primary
group has changed, the contents of the other StorageClasses are touched: an annotation gets the
time, and the watch lets the change through. The store records the writes that were meant for
mirrors.
-/

namespace VastCsi.Ext.Groups

open Lib CsiAddons Policies

structure Vscr where
  name : String
  primaryStorageClass : String
  protectionTopology : List ReplicationTarget
  syncPVCPV : Bool := true
  ppathName : String := ""
  deriving DecidableEq

def Vscr.storageClasses (v : Vscr) : List String := allStorageClasses v.protectionTopology

structure Vgr where
  /-- The label of the owner, empty without one. -/
  sourceVSCR : String
  storageClass : String
  deleting : Bool := false
  volumeReplicationName : String := ""
  /-- `status.persistentVolumeClaimsRefList`, by name. -/
  pvcs : List String := []
  state : ObservedState := .unset
  deriving DecidableEq

structure Vrc extends ContentSpec where
  sourceVSCR : String
  isBlock : Bool
  replicationState : ReplicationState
  generation : Nat := 1
  deleting : Bool := false
  /-- The two annotations a reconcile is asked for with, empty when they are not there. -/
  resyncRequestedAt : String := ""
  mirrorSyncRequestedAt : String := ""
  deriving DecidableEq

inductive Trigger where
  | resync | mirrorSync
  deriving DecidableEq

def Vrc.annotationAt (c : Vrc) : Trigger → String
  | .resync => c.resyncRequestedAt
  | .mirrorSync => c.mirrorSyncRequestedAt

def Vrc.setAnnotationAt (c : Vrc) (key : Trigger) (value : String) : Vrc :=
  match key with
  | .resync => { c with resyncRequestedAt := value }
  | .mirrorSync => { c with mirrorSyncRequestedAt := value }

structure UpdateEvent where
  name : String
  old : Vrc
  new : Vrc
  deriving DecidableEq

def triggerAnnotationChanged (e : UpdateEvent) (key : Trigger) : Bool :=
  e.new.annotationAt key != "" && e.new.annotationAt key != e.old.annotationAt key

def vastReplicationContentPredicate (e : UpdateEvent) : Bool :=
  e.new.deleting || e.new.generation != e.old.generation ||
    (triggerAnnotationChanged e .resync || triggerAnnotationChanged e .mirrorSync)

inductive Write where
  | created (name : String)
  /-- The list of the group of a StorageClass was written to its content. -/
  | listed (storageClass : String)
  | touched (name : String)
  deriving DecidableEq

structure Store where
  vscrs : String → Option Vscr
  vgrs : String → Option Vgr := fun _ => none
  vrcs : String → Option Vrc := fun _ => none
  events : List UpdateEvent := []
  writes : List Write := []

abbrev Rec := Proc Store

structure Env where
  fates : Fates := steady
  isBlock : String → Bool := fun _ => false
  /-- The name and the directory of the protected path on the cluster of a StorageClass. -/
  ppathOf : String → String → String × String := fun _ name => (name, "/")
  now : String := "2026-01-01T00:00:00Z"

/-- Change a content; an event is reported if that makes a difference. -/
def Store.update (s : Store) (name : String) (old new : Vrc) : Store :=
  { s with
    vrcs := Function.update s.vrcs name (some new)
    events := if new = old then s.events else ⟨name, old, new⟩ :: s.events }

/-- The spec with another list and state; a difference counts as a generation. -/
def Vrc.withSpec (c : Vrc) (pvcs : List String) (state : ReplicationState) : Vrc :=
  if c.pvcs = pvcs ∧ c.replicationState = state then c
  else { c with pvcs := pvcs, replicationState := state, generation := c.generation + 1 }

section Access

variable (fates : Fates)

def getVGR (name : String) : Rec (Option Vgr) := api fates fun w => .ok (w.own.vgrs name) w

def getVSCR (name : String) : Rec Vscr :=
  withContext s!"failed to get VastStorageClassReplication {name}" (api fates fun w =>
    match w.own.vscrs name with
    | some v => .ok v w
    | none => .error (notFound name) w)

def getVRC (name : String) : Rec (Option Vrc) := api fates fun w => .ok (w.own.vrcs name) w

def createVRC (name : String) (c : Vrc) : Rec Unit :=
  api fates fun w =>
    match w.own.vrcs name with
    | some _ => .error ⟨[.other], s!"{name} already exists"⟩ w
    | none => .ok () { w with own := { w.own with
        vrcs := Function.update w.own.vrcs name (some c)
        writes := .created name ::
          (if c.pvcs = [] then [] else [.listed c.storageClass]) ++ w.own.writes } }

/-- `PatchVastReplicationContentSpec`; the StorageClass of the group is for the record. -/
def patchVRC (name storageClass : String) (pvcs : List String) (state : ReplicationState) :
    Rec Unit :=
  api fates fun w =>
    match w.own.vrcs name with
    | none => .error (notFound name) w
    | some c => .ok () { w with own := { w.own.update name c (c.withSpec pvcs state) with
        writes := if c.pvcs = pvcs then w.own.writes
          else .listed storageClass :: w.own.writes } }

def setAnnotationAndUpdate (name : String) (key : Trigger) (value : String) : Rec Unit :=
  api fates fun w =>
    match w.own.vrcs name with
    | none => .error (notFound name) w
    | some c => .ok () { w with own := { w.own.update name c (c.setAnnotationAt key value) with
        writes := .touched name :: w.own.writes } }

/-- `DeleteVastReplicationContent`: its finalizer keeps it. -/
def deleteVRC (name : String) : Rec Unit :=
  api fates fun w =>
    match w.own.vrcs name with
    | none => .ok () w
    | some c => .ok () { w with own := w.own.update name c { c with deleting := true } }

end Access

section Touching

variable (fates : Fates)

def touchedName (vscr : Vscr) (scName : String) : String := vscr.name ++ "-" ++ scName

def touchVRCsForStorageClasses (vscr : Vscr) (key : Trigger) (ts : String) :
    List String → Rec (List String)
  | [] => pure []
  | scName :: scs => do
    let vrcName := touchedName vscr scName
    match ← withContext s!"get VRC {vrcName}" (getVRC fates vrcName) with
    | none => touchVRCsForStorageClasses vscr key ts scs
    | some _ => do
      withContext s!"touch VRC {vrcName}" (setAnnotationAndUpdate fates vrcName key ts)
      let touched ← touchVRCsForStorageClasses vscr key ts scs
      pure (vrcName :: touched)

def touchConstellationVRCs (vscr : Vscr) (ts : String) : Rec (List String) :=
  touchVRCsForStorageClasses fates vscr .resync ts vscr.storageClasses

def Vscr.secondaries (vscr : Vscr) : List String :=
  vscr.storageClasses.filter (· ≠ vscr.primaryStorageClass)

def touchSecondaryVRCs (vscr : Vscr) (ts : String) : Rec (List String) :=
  touchVRCsForStorageClasses fates vscr .mirrorSync ts vscr.secondaries

end Touching

/-- `currentStateStr`; `none` is the empty string. -/
def currentState : ObservedState → Option ReplicationState
  | .primary => some .primary
  | .secondary => some .secondary
  | .unset => none
  | .unknown => none

def initialStateFromPrimary (current : Option ReplicationState) (sourceSC primarySC : String) :
    ReplicationState :=
  current.getD (if sourceSC = primarySC then .primary else .secondary)

def Vgr.pvcList (g : Vgr) : List String := g.pvcs.insertionSort (· ≤ ·)

section Reconcile

variable (env : Env)

/-- `buildContent`, and the fields that are set after it. -/
def newContent (g : Vgr) (vscr : Vscr) (policies : List String) : Vrc where
  sourceVSCR := vscr.name
  storageClass := g.storageClass
  syncPVCPV := vscr.syncPVCPV
  isBlock := env.isBlock g.storageClass
  replicationPath := (env.ppathOf g.storageClass vscr.ppathName).2
  protectionPolicyNames := policies
  protectedPathName := (env.ppathOf g.storageClass vscr.ppathName).1
  pvcs := g.pvcList
  replicationState :=
    initialStateFromPrimary (currentState g.state) g.storageClass vscr.primaryStorageClass

def createContent (name : String) (g : Vgr) (vscr : Vscr) : Rec Unit := do
  callOut env.fates s!"VGR {name}"
  match protectionPolicyNamesForVRC vscr.name vscr.primaryStorageClass vscr.protectionTopology
      g.storageClass with
  | .error e => throw ⟨[.other], s!"VGR {name}: " ++ e⟩
  | .ok policies =>
    withContext s!"failed to create VRC for VGR {name}"
      (createVRC env.fates name (newContent env g vscr policies))

/-- The state the content is to have: an unknown one is not passed on. -/
def nextState (g : Vgr) (c : Vrc) : ReplicationState :=
  (currentState g.state).getD c.replicationState

/-- `syncVRCPVCs`: whether the list has changed. -/
def pvcChanged (g : Vgr) (c : Vrc) : Bool := g.pvcList != c.pvcs

def patchContent (name : String) (g : Vgr) (c : Vrc) : Rec Unit :=
  if nextState g c ≠ c.replicationState ∨ pvcChanged g c = true then
    withContext s!"failed to patch VRC for VGR {name}"
      (patchVRC env.fates name g.storageClass g.pvcList (nextState g c))
  else pure ()

def touchMirrors (name : String) (g : Vgr) (vscr : Vscr) (c : Vrc) : Rec Unit :=
  if pvcChanged g c = true ∧ g.storageClass = vscr.primaryStorageClass then do
    let _touched ← withContext s!"touch secondary VRCs after primary PVC list change on VGR {name}"
      (touchSecondaryVRCs env.fates vscr env.now)
    pure ()
  else pure ()

def syncContent (name : String) (g : Vgr) (vscr : Vscr) (c : Vrc) : Rec Unit := do
  patchContent env name g c
  touchMirrors env name g vscr c

def deleteContent (name : String) : Rec Unit := do
  match ← withContext s!"get VRC for terminating VGR {name}" (getVRC env.fates name) with
  | none => pure ()
  | some c =>
    if c.deleting then pure ()
    else withContext s!"delete VRC for terminating VGR {name}" (deleteVRC env.fates name)

def reconcileLive (name : String) (g : Vgr) : Rec Unit := do
  assertThat (g.sourceVSCR != "")
    ⟨[.other], s!"VolumeGroupReplication {name} has no VastStorageClassReplication owner"⟩
  let vscr ← getVSCR env.fates g.sourceVSCR
  assertThat (g.storageClass != "")
    ⟨[.other], s!"VolumeGroupReplication {name} is missing required label selector"⟩
  callOut env.fates s!"failed to get StorageClass {g.storageClass}"
  match ← withContext s!"failed to get VRC for VGR {name}" (getVRC env.fates name) with
  | none => createContent env name g vscr
  | some c =>
    if c.deleting then throw ⟨[.other], s!"VastReplicationContent is terminating: {name}"⟩
    else syncContent env name g vscr c

def reconcileVGR (name : String) : Rec Unit := do
  match ← getVGR env.fates name with
  | none => pure ()
  | some g => if g.deleting then deleteContent env name else reconcileLive env name g

end Reconcile

section Rules

variable {env : Env} {name : String} {s : Store} {n : Nat} {Q K : World Store → Prop}

theorem meets_getVRC {fates : Fates} :
    Meets (fun w => w.own = s) (getVRC fates name) (fun r w => w.own = s ∧ r = s.vrcs name)
      (fun _ w => w.own = s) :=
  meets_api (fun _ hw => hw) (fun _ hw => hw) (fun _ _ hw => hw.1) fun w hw => ⟨hw, by rw [← hw]⟩

/-- The owner is read from the store. -/
theorem meets_getVSCR_at {owner : String} (hK : ∀ w, w.own = s → K w) :
    Meets (At s n) (getVSCR env.fates owner)
      (fun v w => s.vscrs owner = some v ∧ At s (n + 1) w) (fun _ => K) := by
  have heffect : Meets (At s (n + 1)) (fun w => match w.own.vscrs owner with
      | some v => .ok v w
      | none => .error (notFound owner) w)
      (fun v w => s.vscrs owner = some v ∧ At s (n + 1) w) (fun _ => K) := by
    rintro w ⟨rfl, hcalls⟩
    dsimp only
    cases hv : w.own.vscrs owner with
    | some v => exact ⟨rfl, rfl, hcalls⟩
    | none => exact hK w rfl
  refine meets_withContext (meets_api_at (fun _ => heffect) (fun _ _ w hw => hK w hw.1)
    fun _ _ => ?_)
  exact heffect.post (fun _ w hw => hK w hw.2.1)

/-- A reconcile from a known store: the content is made or follows the group. -/
theorem meets_reconcileVGR_at (hK : ∀ w, w.own = s → K w)
    (hgone : s.vgrs name = none → ∀ w, w.own = s → Q w)
    (hdelete : ∀ g, s.vgrs name = some g → g.deleting = true →
      Meets (fun w => w.own = s) (deleteContent env name) (fun _ => Q) (fun _ => K))
    (hcreate : ∀ g vscr, s.vgrs name = some g → g.deleting = false →
      s.vscrs g.sourceVSCR = some vscr → s.vrcs name = none →
      Meets (fun w => w.own = s) (createContent env name g vscr) (fun _ => Q) (fun _ => K))
    (hsync : ∀ g vscr c, s.vgrs name = some g → g.deleting = false →
      s.vscrs g.sourceVSCR = some vscr → s.vrcs name = some c →
      Meets (At s (n + 4)) (syncContent env name g vscr c) (fun _ => Q) (fun _ => K)) :
    Meets (At s n) (reconcileVGR env name) (fun _ => Q) (fun _ => K) := by
  have hget : Meets (At s n) (getVGR env.fates name)
      (fun r w => r = s.vgrs name ∧ At s (n + 1) w ∧ env.fates n = .answered) (fun _ => K) :=
    meets_read_at (f := fun s => s.vgrs name) hK
  refine .bind hget fun found => ?_
  refine .assuming (p := found = s.vgrs name) (fun _ hw => hw.1) fun hg => ?_
  cases found with
  | none => exact .pure fun w hw => hgone hg.symm w hw.2.1.1
  | some g =>
    dsimp only
    split
    next hdel => exact (hdelete g hg.symm hdel).pre (fun _ hw => hw.2.1.1)
    next hlive =>
      rw [Bool.not_eq_true] at hlive
      refine .bind (.assertThat (Q := fun _ => At s (n + 1)) (fun _ _ hw => hw.2.1)
        fun _ w hw => hK w hw.2.1.1) fun _ => ?_
      refine .bind (meets_getVSCR_at hK) fun vscr => ?_
      refine .assuming (p := s.vscrs g.sourceVSCR = some vscr) (fun _ hw => hw.1) fun hv => ?_
      refine .bind (.assertThat (Q := fun _ => At s (n + 2)) (fun _ _ hw => hw.2)
        fun _ w hw => hK w hw.2.1) fun _ => ?_
      refine .bind (meets_callOut_at hK) fun _ => ?_
      have hcontent : Meets (At s (n + 3)) (getVRC env.fates name)
          (fun r w => r = s.vrcs name ∧ At s (n + 4) w ∧ env.fates (n + 3) = .answered)
          (fun _ => K) := meets_read_at (f := fun s => s.vrcs name) hK
      refine .bind ((meets_withContext hcontent).preLeft) fun found => ?_
      refine .assuming (p := found = s.vrcs name) (fun _ hw => hw.1) fun hc => ?_
      cases found with
      | none => exact (hcreate g vscr hg.symm hlive hv hc.symm).pre (fun _ hw => hw.2.1.1)
      | some c =>
        dsimp only
        split
        · exact .throw fun w hw => hK w hw.2.1.1
        · exact (hsync g vscr c hg.symm hlive hv hc.symm).pre (fun _ hw => hw.2.1)

end Rules

end VastCsi.Ext.Groups
