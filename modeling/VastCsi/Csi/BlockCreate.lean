import VastCsi.Csi.CloneRetries

/-!
# `CreateVolume` of the block plugin

An empty volume is looked up by its name and a clone by the end of its name. One that is
there is taken for the volume of the request, wherever it is; an empty one is taken with the size
it has, and a clone is enlarged but never made smaller.

Each builder ends with a volume whose subsystem and size are known from the state before the call
(`EndsWith`); `EndsWith.placed_iff` makes the condition of that.
-/

namespace VastCsi.Csi.BlockClone

open Lib Vms List Table

/-- `volume_context` of an empty volume. -/
structure EmptyContext where
  subsystem : String
  transportType : String
  mountOptions : String
  vipPoolName : Option String
  vipPoolFqdn : Option String
  vipPoolFqdnRandomPrefix : Bool
  hostEncryption : Option String
  nguid : String
  volumeId : Nat
  tenantName : String
  subsystemNqn : String
  deriving DecidableEq, Repr

structure EmptyVolume where
  capacityBytes : Nat
  volumeId : String
  context : EmptyContext
  deriving DecidableEq, Repr

def BlockCloneReq.emptyResponse (req : BlockCloneReq) (view : Subsystem) (volume : BlockVolume) :
    EmptyVolume where
  capacityBytes := req.capacity
  volumeId := String.ofList (toVolumeIdWithMetadata req.name.toList req.clusterName.toList)
  context :=
    { subsystem := req.subsystem
      transportType := req.transportType
      mountOptions := req.mountOptions
      vipPoolName := req.vipPoolName
      vipPoolFqdn := if req.vipPoolName.isSome then none else req.vipPoolFqdn
      vipPoolFqdnRandomPrefix :=
        req.vipPoolName.isNone && req.vipPoolFqdn.isSome && req.vipPoolFqdnRandomPrefix
      hostEncryption := req.hostEncryption
      nguid := volume.nguid
      volumeId := volume.id
      tenantName := view.tenantName
      subsystemNqn := view.nqn }

def createVolume (name : String) (viewId size : Nat) (qos : Option Nat) :
    BlockCall BlockVolume := fun w =>
  let volume := { clonedRow w.vms name viewId size with qosPolicyId := qos }
  .ok volume { w with vms := { w.vms with volumes := w.vms.volumes.insert volume } }

/-- `VastResource.ensure`, of a volume: the lookup has the name only. -/
def ensureVolume (env : BlockEnv) (name : String) (viewId size : Nat) (qos : Option Nat) :
    BlockCall BlockVolume := do
  match ← oneOf env .volume (·.volumes.select (·.name == name)) with
  | some volume => pure volume
  | none => ask env (createVolume name viewId size qos)

/-- `EmptyBlockVolumeBuilder.build_volume`. The builders share their fields; this one has no
content source and does not read it. -/
def buildEmpty (env : BlockEnv) (req : BlockCloneReq) : BlockCall EmptyVolume := do
  let name ← cloneName req
  let view ← getSubsystem env req
  let qos ← qosPolicyId env req
  let volume ← ensureVolume env name view.id req.capacity (qos.filter (· ≠ 0))
  pure (req.emptyResponse view volume)

inductive Builder where
  | empty
  | fromSource
  deriving DecidableEq, Repr

inductive CreatedVolume where
  | empty (volume : EmptyVolume)
  | cloned (volume : ClonedVolume)
  deriving DecidableEq, Repr

def CreatedVolume.capacityBytes : CreatedVolume → Nat
  | .empty volume => volume.capacityBytes
  | .cloned volume => volume.capacityBytes

/-- `volume_id` of the volume context: the id of the volume on the cluster. -/
def CreatedVolume.rowId : CreatedVolume → Nat
  | .empty volume => volume.context.volumeId
  | .cloned volume => volume.context.volumeId

def createBlockVolume (env : BlockEnv) (req : BlockCloneReq) : Builder → BlockCall CreatedVolume
  | .empty => do pure (.empty (← buildEmpty env req))
  | .fromSource => do pure (.cloned (← cloneBlockVolume env req))

/-- The id is that of the subsystem of the request. -/
def LiesIn (req : BlockCloneReq) (c : BlockVms) (viewId : Nat) : Prop :=
  ∃ view, c.subsystems.find? viewId = some view ∧ req.isDestination view = true

/-- The volume of the answer is in the subsystem of the request, is as large as was asked for and
has the size that is reported. -/
def Placed (req : BlockCloneReq) (answer : CreatedVolume) (c : BlockVms) : Prop :=
  ∃ row, c.volumes.find? answer.rowId = some row ∧ isClone req row = true ∧
    LiesIn req c row.viewId ∧ req.capacity ≤ row.size ∧ row.size = answer.capacityBytes

def isNamed (req : BlockCloneReq) (r : BlockVolume) : Bool := req.volumeName.any (r.name == ·)

def firstView (req : BlockCloneReq) (c : BlockVms) : Option Nat :=
  match clones req c with
  | d :: _ => some d.viewId
  | [] => (destination req c).map fun dest => dest.view.id

/-- The volume that is found, if any, is where and what the request asks for. -/
def Fits (req : BlockCloneReq) (c : BlockVms) : Builder → Prop
  | .empty => ∀ d, c.volumes.select (isNamed req) = [d] →
      LiesIn req c d.viewId ∧ d.size = req.capacity
  | .fromSource => (∀ viewId, firstView req c = some viewId → LiesIn req c viewId) ∧
      firstSize req c ≤ req.capacity

/-- A run has ended with a volume of the subsystem and the size. -/
structure EndsWith (req : BlockCloneReq) (c₀ : BlockVms) (viewId size : Nat)
    (answer : CreatedVolume) (c : BlockVms) : Prop where
  subsystems : c.subsystems = c₀.subsystems
  capacity : answer.capacityBytes = req.capacity
  row : ∃ row, c.volumes.find? answer.rowId = some row ∧ isClone req row = true ∧
    row.viewId = viewId ∧ row.size = size

theorem EndsWith.placed_iff {req : BlockCloneReq} {c₀ c : BlockVms} {viewId size : Nat}
    {answer : CreatedVolume} (h : EndsWith req c₀ viewId size answer c) :
    Placed req answer c ↔ LiesIn req c₀ viewId ∧ size = req.capacity := by
  obtain ⟨row, hrow, hname, hview, hsize⟩ := h.row
  have hlies : ∀ id, LiesIn req c id ↔ LiesIn req c₀ id := by
    intro id
    unfold LiesIn
    rw [h.subsystems]
  constructor
  · intro hplaced
    obtain ⟨row', hrow', -, hin, -, heq⟩ := hplaced
    cases hrow.symm.trans hrow'
    rw [hview, hlies] at hin
    exact ⟨hin, hsize.symm.trans (heq.trans h.capacity)⟩
  · intro hfits
    refine ⟨row, hrow, hname, ?_, ?_, ?_⟩
    · rw [hview, hlies]
      exact hfits.1
    · omega
    · rw [hsize, hfits.2, h.capacity]

section Empty

variable {env : BlockEnv} {req : BlockCloneReq} {c₀ : BlockVms}

theorem meets_ensureVolume {name : String} {viewId size : Nat} {qos : Option Nat} :
    Yields (onBlock (· = c₀)) (ensureVolume env name viewId size qos)
      (fun v => onBlock fun c => c.subsystems = c₀.subsystems ∧ c.volumes.find? v.id = some v ∧
        v.name = name ∧ (c₀.volumes.select (·.name == name) = [v] ∨
          c₀.volumes.select (·.name == name) = [] ∧ v.viewId = viewId ∧ v.size = size)) := by
  refine .bind ((meets_oneOf _).okOnly) fun found => ?_
  cases found with
  | some v =>
    refine .pure fun w hw => ?_
    obtain ⟨hc, hrow⟩ := hw
    have hmem : v ∈ w.vms.volumes.select (·.name == name) := by
      rw [hrow]
      exact mem_singleton_self v
    rw [hc] at hmem hrow
    obtain ⟨hin, hname⟩ := mem_select.mp hmem
    rw [onBlock, hc]
    exact ⟨rfl, find?_eq_some_iff.mpr ⟨hin, rfl⟩, beq_iff_eq.mp hname, .inl hrow⟩
  | none =>
    refine (meets_ask (I := fun _ => True) (Q := fun v c => c.subsystems = c₀.subsystems ∧
      c.volumes.find? v.id = some v ∧ v.name = name ∧
        c₀.volumes.select (·.name == name) = [] ∧ v.viewId = viewId ∧ v.size = size)
      (fun _ _ => True.intro) (fun _ _ _ => True.intro) fun w hw => ?_).okOnly.post
        (fun _ _ hw => ⟨hw.1, hw.2.1, hw.2.2.1, .inr hw.2.2.2⟩)
    obtain ⟨hc, hnone⟩ := hw
    rw [hc] at hnone
    have hsubsystems : w.vms.subsystems = c₀.subsystems := by rw [hc]
    refine ⟨hsubsystems, ?_, rfl, hnone, rfl, rfl⟩
    exact find?_eq_some_iff.mpr ⟨mem_insert_self hasKey_fresh, rfl⟩

theorem meets_buildEmpty : Yields (onBlock (· = c₀)) (buildEmpty env req)
      (fun a => onBlock fun c => ∃ viewId size, EndsWith req c₀ viewId size (.empty a) c ∧
        (LiesIn req c₀ viewId ∧ size = req.capacity ↔ Fits req c₀ .empty)) := by
  refine .bind (meets_cloneName.okOnly) fun name => ?_
  refine .bind (meets_getSubsystem.okOnly) fun view => ?_
  refine .assuming (p := req.volumeName = some name ∧
    c₀.subsystems.select req.isDestination = [view])
    (fun w hw => ⟨hw.1.2, (show w.vms = c₀ from hw.1.1) ▸ hw.2⟩) fun hfound => ?_
  obtain ⟨hname, hview⟩ := hfound
  have hlies : LiesIn req c₀ view.id := by
    have hmem : view ∈ c₀.subsystems.select req.isDestination := by
      rw [hview]
      exact mem_singleton_self view
    obtain ⟨hin, hdest⟩ := mem_select.mp hmem
    exact ⟨view, find?_eq_some_iff.mpr ⟨hin, rfl⟩, hdest⟩
  have hnamed : isNamed req = fun r => r.name == name := by
    funext r
    rw [isNamed, hname]
    rfl
  have hstart : ∀ c, c = c₀ → Reached req c₀ c := by
    intro c hc
    rw [hc]
    exact Reached.refl req c₀
  refine .bind ((meets_qosPolicyId hstart).weaken (fun _ hw => hw.1.1)
    (fun _ _ hw => hw.1) (fun _ _ _ => True.intro)) fun qos => ?_
  refine .bind meets_ensureVolume fun v => .pure fun w hw => ?_
  obtain ⟨hsubsystems, hrow, rfl, hfirst⟩ := hw
  have hclone : isClone req v = true := by
    rw [isClone, hname]
    simp [Text.endsWith]
  refine ⟨v.viewId, v.size, ⟨hsubsystems, rfl, v, hrow, hclone, rfl, rfl⟩, ?_⟩
  unfold Fits
  rw [hnamed]
  rcases hfirst with hthere | ⟨hmissing, hnew, hsize⟩
  · rw [hthere]
    constructor
    · intro hfits d hd
      cases hd
      exact hfits
    · intro hfits
      exact hfits v rfl
  · rw [hmissing, hnew, hsize]
    constructor
    · intro _ d hd
      cases hd
    · intro _
      exact ⟨hlies, rfl⟩

end Empty

theorem endsWith_clone {req : BlockCloneReq} {c₀ c : BlockVms} {answer : ClonedVolume}
    (hreached : Reached req c₀ c) (hfinal : Final req c₀ (clones req c₀) answer c) :
    ∃ viewId, firstView req c₀ = some viewId ∧
      EndsWith req c₀ viewId (max (firstSize req c₀) req.capacity) (.cloned answer) c := by
  obtain ⟨dest, d, hdest, hclones, hending⟩ := hfinal
  obtain ⟨hanswer, hd⟩ := Prod.mk.inj hending
  have hmem : d ∈ clones req c := by
    rw [hclones]
    exact mem_singleton_self d
  have hfirst : firstView req c₀ = some (seen req c₀ dest (clones req c₀)).viewId ∧
      firstSize req c₀ = (seen req c₀ dest (clones req c₀)).size := by
    unfold firstView firstSize
    cases clones req c₀ with
    | nil =>
      rw [hdest]
      exact ⟨rfl, rfl⟩
    | cons d₀ rest => exact ⟨rfl, rfl⟩
  refine ⟨_, hfirst.1, hreached.subsystems, ?_, d, ?_, (mem_select.mp hmem).2, ?_, ?_⟩
  · rw [hanswer]
    rfl
  · refine find?_eq_some_iff.mpr ⟨(mem_select.mp hmem).1, ?_⟩
    rw [hanswer, hd]
    rfl
  · rw [hd]
  · rw [hd, hfirst.2]

def twoSubsystems : BlockVms :=
  { blockCluster with
    subsystems := blockCluster.subsystems.insert
      { id := 2, name := "fast", path := "/fast", tenantId := "1", tenantName := "default"
        nqn := "nqn.fast" } }

def sameName : BlockCloneReq where
  name := "pvc-1"
  subsystem := "fast"
  source := .volume ""
  capacity := 4096

def smallerClone : BlockCloneReq where
  name := "pvc-2"
  subsystem := "block"
  source := .volume "pvc-1"
  capacity := 512

def rowSeen : EStateM.Result Err BlockWorld CreatedVolume → Option (Nat × Nat × Nat × Nat)
  | .ok answer w => (w.vms.volumes.find? answer.rowId).map fun r =>
      (r.id, r.viewId, r.size, answer.capacityBytes)
  | .error _ _ => none

end VastCsi.Csi.BlockClone
