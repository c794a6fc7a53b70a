import VastCsi.Ext.CsiAddons
import VastCsi.Lib.Registry
import VastCsi.Lib.Trace

/-!
# The replication classes of a VastStorageClassReplication

Each StorageClass has a `VolumeReplicationClass` and a `VolumeGroupReplicationClass`, which carry
the name of the protected path and are never changed. A reconcile makes those that are missing,
also when it has just found that the path of the status is gone: the name is then struck, and the
path is made again by the next reconcile only.
-/

namespace VastCsi.Ext.Classes

open Lib CsiAddons

inductive ClassKind where
  | volume | group
  deriving DecidableEq

structure Setting where
  name : String
  named : name ≠ ""
  /-- `AllStorageClassesPrimaryFirst`. -/
  storageClasses : List String
  className : String → String
  hasSecret : String → Bool

structure Own where
  /-- `Status.PpathName`, stored and in the copy of the reconcile. -/
  status : String := ""
  mem : String := ""
  /-- The protected path is on the cluster of the primary. -/
  path : Bool := false
  /-- The `ppath-name` of each class. -/
  classes : Registry (ClassKind × String) String := fun _ => none
  /-- Ghost: the `ppath-name` of every class that was created. -/
  created : List String := []

def change (f : Own → Own) : Proc Own Unit := fun w => .ok () { w with own := f w.own }

section Steps

variable (cfg : Setting) (fates : Fates)

/-- `UpdateVastStorageClassReplicationStatus`. -/
def updateStatus : Proc Own Unit :=
  withContext "failed to update VastStorageClassReplication status"
    (api fates (change fun o => { o with status := o.mem }))

def setPpathName (ppathName : String) : Proc Own String := do
  change fun o => { o with mem := ppathName }
  updateStatus fates
  pure ppathName

/-- The part of `Reconcile` from `ppathName := vscr.Status.PpathName` to the groups.
`EnsureConstellationPpath` is one call, which returns the name of the owner. -/
def ensurePpath (ppathName : String) : Proc Own String :=
  if ppathName == "" then do
    callOut fates "failed to ensure protection policies"
    withContext "primary ppath" (api fates (change fun o => { o with path := true }))
    setPpathName fates cfg.name
  else do
    let active ← api fates fun w => .ok w.own.path w
    if active then pure ppathName else setPpathName fates ""

/-- `EnsureVolumeReplicationClass`, `EnsureVolumeGroupReplicationClass`. -/
def ensureClass (key : ClassKind × String) (ppathName : String) : Proc Own Unit := do
  match ← api fates fun w => .ok (w.own.classes key) w with
  | some _ => pure ()
  | none =>
    api fates (change fun o =>
      { o with classes := o.classes.ensure key ppathName, created := ppathName :: o.created })

def ensureReplicationClasses (ppathName scName : String) : Proc Own Unit := do
  callOut fates s!"failed to get StorageClass {scName}"
  callOut fates s!"failed to format replication class name for SC {scName}"
  let className := cfg.className scName
  if cfg.hasSecret scName then do
    withContext s!"failed to ensure VolumeReplicationClass {className}"
      (ensureClass fates (.volume, className) ppathName)
    withContext s!"failed to ensure VolumeGroupReplicationClass {className}"
      (ensureClass fates (.group, className) ppathName)
  else
    throw ⟨[.other], s!"StorageClass {scName} is missing provisioner-secret-name / " ++
      "provisioner-secret-namespace parameters"⟩

/-- `ensureVGR`, of which only the classes are modelled here. -/
def ensureVGR (ppathName scName : String) : Proc Own Unit :=
  withContext s!"SC {scName}" do
    ensureReplicationClasses cfg fates ppathName scName
    callOut fates "failed to ensure VolumeGroupReplication"

/-- `Reconcile` of a live object. What comes before the protected path, and may end the reconcile,
is one call; the deferred `reconcileSyncStatus` writes the status or does not. -/
def reconcile : Proc Own Unit := do
  let recorded ← api fates fun w => .ok w.own.status { w with own.mem := w.own.status }
  deferring (do
    callOut fates "failed to build VMS REST clients"
    let ppathName ← ensurePpath cfg fates recorded
    let errs ← collectErrors (ensureVGR cfg fates ppathName) cfg.storageClasses
    let syncErr ← attempt (callOut fates "failed to resolve split brain")
    raiseDeferred (errs ++ syncErr.toList)) fun _ => updateStatus fates

inductive Act where
  | reconcile (fates : Fates)
  | deletePath
  | deleteClass (key : ClassKind × String)

def step (w : World Own) : Act → Option (World Own)
  | .reconcile fates => some (endState (reconcile cfg fates { w with calls := 0 }))
  | .deletePath => some { w with own.path := false }
  | .deleteClass key => some { w with own.classes := w.own.classes.remove key }

end Steps

def start : World Own := ⟨fun _ => none, {}, 0⟩

/-- All classes of the owner are there. -/
abbrev AllThere (cfg : Setting) (w : World Own) : Prop :=
  ∀ scName ∈ cfg.storageClasses, ∀ kind ∈ [ClassKind.volume, .group],
    w.own.classes (kind, cfg.className scName) ≠ none

/-- A reconcile that is going to find its path missing has its classes. -/
def Kept (cfg : Setting) (w : World Own) : Act → Prop
  | .reconcile _ => w.own.status ≠ "" → w.own.path = false → AllThere cfg w
  | _ => True

instance (cfg : Setting) (w : World Own) : ∀ act, Decidable (Kept cfg w act)
  | .reconcile _ => inferInstanceAs (Decidable (_ → _ → AllThere cfg w))
  | .deletePath | .deleteClass _ => inferInstanceAs (Decidable True)

/-- No class was created without the name of the path. -/
def AllNamed (w : World Own) : Prop := "" ∉ w.own.created

section Rules

variable {cfg : Setting} {fates : Fates} {ppathName scName : String}

/-- Where there is no name for classes, none is missing. -/
def Named (cfg : Setting) (ppathName : String) (w : World Own) : Prop :=
  AllNamed w ∧ (ppathName = "" → AllThere cfg w)

theorem keeps_ensureClass {kind : ClassKind} (hsc : scName ∈ cfg.storageClasses) :
    Keeps (Named cfg ppathName) (ensureClass fates (kind, cfg.className scName) ppathName) := by
  have hread : Meets (Named cfg ppathName)
      (api fates fun w => .ok (w.own.classes (kind, cfg.className scName)) w)
      (fun found w => Named cfg ppathName w ∧ found = w.own.classes (kind, cfg.className scName))
      (fun _ => Named cfg ppathName) :=
    meets_api (fun _ h => h) (fun _ hw => hw) (fun _ _ hw => hw.1) fun _ hw => ⟨hw, rfl⟩
  refine .bind hread fun found => ?_
  cases found with
  | some _ => exact .pure fun _ hw => hw.1
  | none =>
    refine meets_api (fun _ h => h) (fun _ hw => hw.1) (fun _ _ hw => hw) fun w hw => ?_
    have hne : ppathName ≠ "" := fun h =>
      hw.1.2 h scName hsc kind (by cases kind <;> decide) hw.2.symm
    refine ⟨fun h => ?_, fun h => absurd h hne⟩
    exact (List.mem_cons.mp h).elim (fun h => hne h.symm) hw.1.1

theorem keeps_ensureVGR (hsc : scName ∈ cfg.storageClasses) :
    Keeps (Named cfg ppathName) (ensureVGR cfg fates ppathName scName) := by
  have hout : ∀ {context}, Keeps (Named cfg ppathName) (callOut fates context) :=
    keeps_callOut fun _ h => h
  refine meets_withContext (.bind (.bind hout fun _ => .bind hout fun _ => ?_) fun _ => hout)
  dsimp only
  split
  next =>
    exact .bind (meets_withContext (keeps_ensureClass hsc)) fun _ =>
      meets_withContext (keeps_ensureClass hsc)
  next => exact .err

/-- A recorded path that is missing has its classes. -/
def Recorded (cfg : Setting) (ppathName : String) (w : World Own) : Prop :=
  AllNamed w ∧ (ppathName ≠ "" → w.own.path = false → AllThere cfg w)

/-- The name is empty only when the path was found missing. -/
theorem meets_ensurePpath :
    Meets (Recorded cfg ppathName) (ensurePpath cfg fates ppathName) (Named cfg)
      (fun _ => AllNamed) := by
  have hset : ∀ n, Meets (Named cfg n) (setPpathName fates n) (Named cfg) (fun _ => AllNamed) := by
    refine fun n => .bind (Q := fun _ => Named cfg n) (fun _ hw => hw) fun _ => ?_
    refine .bind (Q := fun _ => Named cfg n) ?_ fun _ => .pure fun _ hw => hw
    exact (meets_withContext (keeps_api (fun _ h => h) fun _ hw => hw)).raise fun _ _ hw => hw.1
  unfold ensurePpath
  split
  next =>
    refine .bind ((keeps_callOut (I := AllNamed) fun _ h => h).preLeft) fun _ => ?_
    refine .bind (Q := fun _ => Named cfg cfg.name) ?_ fun _ => hset cfg.name
    refine (meets_withContext (keeps_api (fun _ h => h) fun _ hw => hw)).post fun _ _ hw => ?_
    exact ⟨hw, fun h => absurd h cfg.named⟩
  next hname =>
    have hne : ppathName ≠ "" := fun h => hname (beq_iff_eq.mpr h)
    have hactive : Meets (Recorded cfg ppathName) (api fates fun w => .ok w.own.path w)
        (fun active w => Recorded cfg ppathName w ∧ active = w.own.path) (fun _ => AllNamed) :=
      meets_api (fun _ h => h) (fun _ hw => hw.1) (fun _ _ hw => hw.1.1) fun _ hw => ⟨hw, rfl⟩
    refine .bind hactive fun active => ?_
    split
    next => exact .pure fun _ hw => ⟨hw.1.1, fun h => absurd h hne⟩
    next hgone =>
      refine (hset "").pre fun w hw => ⟨hw.1.1, fun _ => hw.1.2 hne ?_⟩
      exact hw.2.symm.trans (Bool.eq_false_iff.mpr hgone)

theorem meets_reconcile :
    Meets (fun w => Recorded cfg w.own.status w) (reconcile cfg fates) (fun _ => AllNamed)
      (fun _ => AllNamed) := by
  have hread : Meets (fun w => Recorded cfg w.own.status w) (api fates fun w =>
      .ok w.own.status { w with own.mem := w.own.status }) (Recorded cfg) (fun _ => AllNamed) :=
    meets_api (fun _ h => h) (fun _ hw => hw.1) (fun _ _ hw => hw.1) fun _ hw => hw
  have hwrite : Keeps AllNamed (updateStatus fates) :=
    meets_withContext (keeps_api (fun _ h => h) fun _ hw => hw)
  refine .bind hread fun recorded => .deferring ?_ (fun _ => hwrite) fun _ => hwrite
  refine .bind ((keeps_callOut fun _ h => h).raise fun _ _ hw => hw.1) fun _ => ?_
  refine .bind meets_ensurePpath fun ppathName => ?_
  refine .bind (Meets.collectErrors fun _ hsc => keeps_ensureVGR hsc) fun errs => ?_
  refine .bind (.attempt (keeps_callOut fun _ h => h)) fun syncErr => ?_
  exact meets_raiseDeferred.weaken (fun _ hw => hw) (fun _ _ hw => hw.1.1) fun _ _ hw => hw.1

end Rules

/-- **The name of the path in the classes**: in every run in which a reconcile that finds its path
missing has all its classes, no class is created without the name. -/
theorem classes_named (cfg : Setting) (acts : List Act) {w : World Own}
    (hrun : runFrom (step cfg) start acts = some w)
    (hkept : RunMeets (step cfg) (Kept cfg) start acts) : AllNamed w := by
  refine runFrom_invariant (I := AllNamed) ?_ acts (by simp [AllNamed, start]) hkept hrun
  rintro w act w' hw hact hstep
  cases act with
  | reconcile fates =>
    cases hstep
    exact Meets.endState meets_reconcile ⟨hw, hact⟩
  | deletePath | deleteClass key =>
    cases hstep
    exact hw

def pair : Setting where
  name := "group"
  named := by decide
  storageClasses := ["east", "west"]
  className := fun scName => "group-" ++ scName ++ "-vscr"
  hasSecret := fun _ => true

theorem classes_named_deleted : ∃ w,
    runFrom (step pair) start [.reconcile steady, .deletePath, .reconcile steady] = some w ∧
      AllNamed w :=
  ⟨_, rfl, classes_named pair [.reconcile steady, .deletePath, .reconcile steady] rfl
    (by decide +kernel)⟩

/-- The first reconcile records the path and cannot read the StorageClasses; the path is deleted,
and the next one makes the classes without a name. -/
theorem classes_unnamed :
    (runFrom (step pair) start [.reconcile fun n => if n < 5 then .answered else .failed .refused,
      .deletePath, .reconcile steady]).map (·.own.created) = some ["", "", "", ""] := by
  decide +kernel

end VastCsi.Ext.Classes
