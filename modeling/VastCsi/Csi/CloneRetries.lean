import VastCsi.Csi.BlockClone

/-!
# Clones of block volumes, retried until they succeed

Two effects of a first attempt are not repeated: the QoS policy is set only where the clone is
made, and `need_resize` is in the answer only of the attempt that enlarges the clone. A retry
finds the clone as the last attempt left it (`Stage`).

`Reached` is kept by every request of the two builders, whatever its fate. `meets_attempt` computes
the answer of an attempt from the clones it finds, and `Reached.ending_eq_iff` compares it with that
of a single run.
-/

namespace VastCsi.Csi.BlockClone

open Lib Vms List Option Table

section Requests

variable {α : Type} {env : BlockEnv} {J I : BlockVms → Prop}

def onBlock (J : BlockVms → Prop) (w : BlockWorld) : Prop := J w.vms

abbrev BlockMeets (J : BlockVms → Prop) (x : BlockCall α) (Q : α → BlockVms → Prop)
    (I : BlockVms → Prop) : Prop :=
  Meets (onBlock J) x (fun a => onBlock (Q a)) fun _ => onBlock I

theorem meets_ask {x : BlockCall α} {Q : α → BlockVms → Prop} (hJ : ∀ c, J c → I c)
    (hQ : ∀ a c, Q a c → I c)
    (hx : BlockMeets J x (fun a => Q a) I) :
    BlockMeets J (ask env x) (fun a => Q a) I :=
  fun w hw => Meets.remote (fun _ w hw => hJ w.vms hw) (fun _ a w hw => hQ a w.vms hw)
    (fun _ _ _ hw => hw) hx (env.fate w.calls) { w with calls := w.calls + 1 } hw

theorem meets_readBlock (f : BlockVms → α) :
    BlockMeets J (ask env (readBlock f)) (fun a c => J c ∧ a = f c) J :=
  meets_ask (fun _ hc => hc) (fun _ _ hc => hc.1) fun _ hw => ⟨hw, rfl⟩

/-- A change of a volume, which may be gone. -/
theorem meets_updateVolume {id : Nat} {change : VolumeChange} {Q : BlockVms → Prop}
    (hJ : ∀ c, J c → I c) (hQ : ∀ c, Q c → I c) (h : ∀ c, J c → Q (c.updateVolume id change)) :
    BlockMeets J (ask env (updateVolume id change)) (fun _ => Q) I := by
  refine meets_ask hJ (fun _ => hQ) fun w hw => ?_
  unfold updateVolume
  cases w.vms.volumes.find? id with
  | none => exact hJ w.vms hw
  | some _ => exact h w.vms hw

/-- The rows that a lookup of a single one has seen. -/
theorem meets_oneOf {k : Kind} (rows : BlockVms → List α) : BlockMeets J (oneOf env k rows)
      (fun a c => J c ∧ rows c = a.toList) J := by
  refine .bind (meets_readBlock rows) fun rs => ?_
  match rs with
  | [] => exact .pure fun _ hw => ⟨hw.1, hw.2.symm⟩
  | [r] => exact .pure fun _ hw => ⟨hw.1, hw.2.symm⟩
  | _ :: _ :: _ => exact .throw fun _ hw => hw.1

theorem meets_requireBlock {op : String} {x : BlockCall α} {Q : α → BlockWorld → Prop}
    (hx : Meets (onBlock J) x Q (fun _ => onBlock J)) :
    Meets (onBlock J) (requireBlock env op x) Q (fun _ => onBlock J) := by
  refine .bind ((meets_readBlock _).post fun _ _ hw => hw.1) fun ver => ?_
  split
  next => exact .err
  next => exact hx

theorem meets_checkBlock {view : Subsystem} :
    BlockMeets J (checkBlock view) (fun a c => J c ∧ a = view) J := by
  unfold checkBlock
  split
  next => exact .pure fun _ hw => ⟨hw, rfl⟩
  next => exact .err

theorem meets_getSubsystem {req : BlockCloneReq} : BlockMeets J (getSubsystem env req)
      (fun a c => J c ∧ c.subsystems.select req.isDestination = [a])
      J := by
  refine meets_requireBlock (.bind (meets_oneOf _) fun found => ?_)
  cases found with
  | none => exact .throw fun _ hw => hw.1
  | some view =>
    refine meets_checkBlock.weaken (fun _ hw => hw) (fun a w hw => ?_) (fun _ _ hw => hw.1)
    obtain ⟨hc, rfl⟩ := hw
    exact hc

theorem meets_getSubsystemById {id : Nat} : BlockMeets J (getSubsystemById env id)
      (fun a c => J c ∧ c.subsystems.find? id = some a)
      J := by
  refine meets_requireBlock (.bind (meets_readBlock _) fun found => ?_)
  cases found with
  | none => exact .throw fun _ hw => hw.1
  | some view =>
    refine meets_checkBlock.weaken (fun _ hw => hw) (fun a w hw => ?_) (fun _ _ hw => hw.1)
    obtain ⟨⟨hc, hview⟩, rfl⟩ := hw
    exact ⟨hc, hview.symm⟩

end Requests

section Request

variable (req : BlockCloneReq)

def only {α : Type} : List α → Option α
  | [a] => some a
  | _ => none

def isClone (r : BlockVolume) : Bool := req.volumeName.any (Text.endsWith r.name ·)

def clones (c : BlockVms) : List BlockVolume := c.volumes.select (isClone req)

def sourceOf (volumeId : String) (c : BlockVms) : Option (Subsystem × String) :=
  (only (c.volumes.select (Text.endsWith ·.name (withoutCluster volumeId)))).bind fun source =>
    (c.subsystems.find? source.viewId).map fun view => (view, source.name)

def sourceSnapshot (snapshotId : String) (c : BlockVms) : Option BlockSnapshot :=
  (withoutCluster snapshotId).toNat?.bind c.snapshots.find?

def viewFor (sourceView : Subsystem) (c : BlockVms) : Option Subsystem :=
  if sourceView.name = req.subsystem then some sourceView
  else only (c.subsystems.select req.isDestination)

def destination (c : BlockVms) : Option Destination :=
  req.volumeName.bind fun name =>
    match req.source with
    | .volume volumeId => (sourceOf volumeId c).bind fun source =>
      (viewFor req source.1 c).map fun view => ⟨name, view, source.1.tenantName⟩
    | .snapshot snapshotId => (sourceSnapshot snapshotId c).bind fun snapshot =>
      (only (c.subsystems.select req.isDestination)).map fun view =>
        ⟨name, view, snapshot.tenantName⟩

def isIntermediate (r : BlockSnapshot) : Bool := r.name == req.snapshotName

def snapshotPath (view : Subsystem) (name : String) : String :=
  String.ofList (Text.rstrip '/' (pathIn view name).toList) ++ "/"

def cloneSize (c : BlockVms) : Nat :=
  match req.source with
  | .volume volumeId =>
    match c.snapshots.select (isIntermediate req) with
    | snapshot :: _ => snapshot.size
    | [] => ((sourceOf volumeId c).map fun s => c.sizeAt (snapshotPath s.1 s.2)).getD 0
  | .snapshot snapshotId => ((sourceSnapshot snapshotId c).map BlockSnapshot.size).getD 0

def askedQos (c : BlockVms) : Option Nat :=
  (if req.qosPolicy = "" then req.qosPolicyId
    else (only (c.qosPolicies.select (·.name == req.qosPolicy))).map QosPolicy.id).filter (· ≠ 0)

def newClone (c : BlockVms) (dest : Destination) (qos : Option Nat) (size : Nat) : BlockVolume where
  id := c.volumes.fresh
  name := dest.name
  viewId := dest.view.id
  size := size
  nguid := c.nguidOf c.volumes.fresh
  qosPolicyId := qos

/-! ## What attempts leave -/

/-- The clone that was there at the start is enlarged, or a new one is at some point between the
requests that follow its creation. -/
inductive Stage (c₀ c : BlockVms) : Prop
  | untouched (h : c.volumes = c₀.volumes)
  | enlarged (d : BlockVolume) (hclone : clones req c₀ = [d]) (hsmall : d.size < req.capacity)
      (h : c.volumes = (c₀.updateVolume d.id (.size req.capacity)).volumes)
  | cloned (dest : Destination) (hdest : destination req c₀ = some dest)
      (hnone : clones req c₀ = []) (qos : Option Nat) (size : Nat)
      (hqos : qos = none ∨ qos = askedQos req c₀)
      (hsize : size = cloneSize req c₀ ∨ cloneSize req c₀ < req.capacity ∧ size = req.capacity)
      (h : c.volumes = c₀.volumes.insert (newClone c₀ dest qos size))

/-- The snapshots that matter are there, or show what they showed. -/
def SnapshotsKept (c₀ c : BlockVms) : Prop :=
  match req.source with
  | .volume _ =>
    c.snapshots.select (isIntermediate req) = c₀.snapshots.select (isIntermediate req) ∨
      c₀.snapshots.select (isIntermediate req) = [] ∧
        ∀ r ∈ c.snapshots.select (isIntermediate req), r.size = cloneSize req c₀
  | .snapshot _ => c.snapshots = c₀.snapshots

structure Reached (c₀ c : BlockVms) : Prop where
  subsystems : c.subsystems = c₀.subsystems
  qosPolicies : c.qosPolicies = c₀.qosPolicies
  nguidOf : c.nguidOf = c₀.nguidOf
  snapshots : SnapshotsKept req c₀ c
  volumes : Stage req c₀ c

theorem Reached.refl (c : BlockVms) : Reached req c c := by
  refine ⟨rfl, rfl, rfl, ?_, .untouched rfl⟩
  unfold SnapshotsKept
  cases req.source with
  | volume _ => exact .inl rfl
  | snapshot _ => rfl

end Request

section Stage

variable {req : BlockCloneReq} {c₀ c : BlockVms}

theorem only_eq_some {α : Type} {l : List α} {a : α} : only l = some a ↔ l = [a] := by
  unfold only
  split
  next => simp
  next h =>
    constructor
    · intro hnone
      cases hnone
    · rintro rfl
      exact absurd rfl (h a)

variable {dest : Destination} {d : BlockVolume} {volumeId : String}

theorem volumeName_of_destination (h : destination req c₀ = some dest) :
    req.volumeName = some dest.name := by
  obtain ⟨name, hname, h⟩ := bind_eq_some_iff.mp h
  rw [hname]
  cases hsource : req.source with
  | volume volumeId =>
    rw [hsource] at h
    obtain ⟨source, -, h⟩ := bind_eq_some_iff.mp h
    obtain ⟨view, -, rfl⟩ := map_eq_some_iff.mp h
    rfl
  | snapshot snapshotId =>
    rw [hsource] at h
    obtain ⟨snapshot, -, h⟩ := bind_eq_some_iff.mp h
    obtain ⟨view, -, rfl⟩ := map_eq_some_iff.mp h
    rfl

/-- A new clone is found by its name. -/
theorem isClone_newClone (h : destination req c₀ = some dest) (qos : Option Nat) (size : Nat) :
    isClone req (newClone c₀ dest qos size) = true := by
  rw [isClone, volumeName_of_destination h]
  simp [newClone, Text.endsWith]

theorem select_updateVolume (id : Nat) (change : VolumeChange) {q : BlockVolume → Bool}
    (hq : ∀ r, q (change.apply r) = q r) :
    (c.updateVolume id change).volumes.select q =
      (c.volumes.select q).map fun r => if r.id = id then change.apply r else r := by
  show (c.volumes.modify id change.apply change.keeps).select q = _
  rw [select_modify hq]

theorem select_newClone (dest : Destination) (qos : Option Nat) (size : Nat)
    (q : BlockVolume → Bool) :
    (c.volumes.insert (newClone c dest qos size)).select q =
      c.volumes.select q ++ [newClone c dest qos size].filter q := by
  rw [select_insert]
  exact hasKey_fresh

/-- The clone of each stage. -/
theorem clones_enlarged (hclone : clones req c₀ = [d])
    (h : c.volumes = (c₀.updateVolume d.id (.size req.capacity)).volumes) :
    clones req c = [{ d with size := req.capacity }] := by
  rw [clones, h, select_updateVolume _ _ fun _ => rfl,
    show c₀.volumes.select (isClone req) = [d] from hclone]
  simp [VolumeChange.size]

theorem clones_cloned (hdest : destination req c₀ = some dest) (hnone : clones req c₀ = [])
    {qos : Option Nat} {size : Nat}
    (h : c.volumes = c₀.volumes.insert (newClone c₀ dest qos size)) :
    clones req c = [newClone c₀ dest qos size] := by
  rw [clones, h, select_newClone, show c₀.volumes.select (isClone req) = [] from hnone]
  simp [isClone_newClone hdest]

theorem Stage.congr (h : Stage req c₀ c) {c' : BlockVms} (hvolumes : c'.volumes = c.volumes) :
    Stage req c₀ c' := by
  cases h with
  | untouched h => exact .untouched (hvolumes.trans h)
  | enlarged d hclone hsmall h => exact .enlarged d hclone hsmall (hvolumes.trans h)
  | cloned dest hdest hnone qos size hqos hsize h =>
    exact .cloned dest hdest hnone qos size hqos hsize (hvolumes.trans h)

/-- Without a clone nothing has been done yet. -/
theorem Stage.untouched_of_none (h : Stage req c₀ c) (hnone : clones req c = []) :
    c.volumes = c₀.volumes := by
  cases h with
  | untouched h => exact h
  | enlarged d hclone hsmall h =>
    rw [clones_enlarged hclone h] at hnone
    cases hnone
  | cloned dest hdest hnone₀ qos size hqos hsize h =>
    rw [clones_cloned hdest hnone₀ h] at hnone
    cases hnone

/-- The source volume is found where it was. -/
theorem Reached.sourceOf (h : Reached req c₀ c) (hsource : req.source = .volume volumeId)
    {s : Subsystem × String} (hs : BlockClone.sourceOf volumeId c = some s) :
    BlockClone.sourceOf volumeId c₀ = some s := by
  obtain ⟨r, hr, hview⟩ := bind_eq_some_iff.mp hs
  rw [h.subsystems] at hview
  rw [only_eq_some] at hr
  refine bind_eq_some_iff.mpr ?_
  cases h.volumes with
  | untouched hvolumes => exact ⟨r, only_eq_some.mpr (hvolumes ▸ hr), hview⟩
  | enlarged d hclone hsmall hvolumes =>
    rw [hvolumes, select_updateVolume _ _ fun _ => rfl] at hr
    obtain ⟨r₀, hr₀, hsame⟩ := map_eq_singleton_iff.mp hr
    refine ⟨r₀, only_eq_some.mpr hr₀, ?_⟩
    rw [← hsame] at hview
    split at hview
    next => exact hview
    next => exact hview
  | cloned dest hdest hnone qos size hqos hsize hvolumes =>
    -- a source was there before there was a clone
    obtain ⟨name, -, h₀⟩ := bind_eq_some_iff.mp hdest
    rw [hsource] at h₀
    obtain ⟨s₀, hs₀, -⟩ := bind_eq_some_iff.mp h₀
    obtain ⟨r₀, hr₀, hview₀⟩ := bind_eq_some_iff.mp hs₀
    rw [hvolumes, select_newClone, only_eq_some.mp hr₀] at hr
    have hsame : r₀ = r := (List.cons.inj hr).1
    exact ⟨r, hsame ▸ hr₀, hview⟩

/-- The lookups find what they found at the start. -/
theorem Reached.destination (h : Reached req c₀ c)
    (hdest : BlockClone.destination req c = some dest) :
    BlockClone.destination req c₀ = some dest := by
  obtain ⟨name, hname, hdest⟩ := bind_eq_some_iff.mp hdest
  refine bind_eq_some_iff.mpr ⟨name, hname, ?_⟩
  have hkept := h.snapshots
  unfold SnapshotsKept at hkept
  cases hsource : req.source with
  | volume volumeId =>
    rw [hsource] at hdest
    obtain ⟨source, hs, hview⟩ := bind_eq_some_iff.mp hdest
    refine bind_eq_some_iff.mpr ⟨source, h.sourceOf hsource hs, ?_⟩
    rw [viewFor, h.subsystems] at hview
    exact hview
  | snapshot snapshotId =>
    rw [hsource] at hdest hkept
    unfold sourceSnapshot at hdest ⊢
    rw [h.subsystems, show c.snapshots = c₀.snapshots from hkept] at hdest
    exact hdest

/-! ## The changes an attempt makes -/

theorem Reached.setVolumes (h : Reached req c₀ c)
    {volumes : Table BlockVolume BlockVolume.id} (hstage : Stage req c₀ { c with volumes }) :
    Reached req c₀ { c with volumes } :=
  ⟨h.subsystems, h.qosPolicies, h.nguidOf, h.snapshots, hstage⟩

theorem sizeAt_congr (hvolumes : c.volumes = c₀.volumes)
    (hsubsystems : c.subsystems = c₀.subsystems) (path : String) :
    c.sizeAt path = c₀.sizeAt path := by
  unfold BlockVms.sizeAt
  rw [hvolumes, hsubsystems]

/-- The intermediate snapshot that is there shows the source. -/
theorem Reached.size_of_intermediate (h : Reached req c₀ c)
    (hsource : req.source = .volume volumeId) {r : BlockSnapshot}
    (hr : c.snapshots.select (isIntermediate req) = [r]) : r.size = cloneSize req c₀ := by
  have hkept := h.snapshots
  simp only [SnapshotsKept, hsource] at hkept
  rcases hkept with hsame | ⟨-, hsize⟩
  · simp only [cloneSize, hsource, ← hsame, hr]
  · exact hsize r (hr ▸ mem_singleton_self r)

/-- A new intermediate snapshot shows the source as well. -/
theorem Reached.insertIntermediate (h : Reached req c₀ c) (hsource : req.source = .volume volumeId)
    (hnone : clones req c = []) (hmissing : c.snapshots.select (isIntermediate req) = [])
    {s : Subsystem × String} (hs : BlockClone.sourceOf volumeId c = some s) {r : BlockSnapshot}
    (hsize : r.size = c.sizeAt (snapshotPath s.1 s.2)) :
    Reached req c₀ { c with snapshots := c.snapshots.insert r } ∧ r.size = cloneSize req c₀ := by
  have hkept := h.snapshots
  simp only [SnapshotsKept, hsource] at hkept
  have hmissing₀ : c₀.snapshots.select (isIntermediate req) = [] := by
    rcases hkept with hsame | ⟨hmissing₀, -⟩
    · rw [← hsame, hmissing]
    · exact hmissing₀
  have hclone : r.size = cloneSize req c₀ := by
    rw [hsize, sizeAt_congr (h.volumes.untouched_of_none hnone) h.subsystems]
    simp only [cloneSize, hsource, hmissing₀, h.sourceOf hsource hs]
    rfl
  refine ⟨⟨h.subsystems, h.qosPolicies, h.nguidOf, ?_, ?_⟩, hclone⟩
  · simp only [SnapshotsKept, hsource]
    refine .inr ⟨hmissing₀, fun r' hr' => ?_⟩
    obtain ⟨hmem, hown⟩ := mem_select.mp hr'
    rcases mem_insert_cases hmem with hold | rfl
    · have hselect : r' ∈ c.snapshots.select (isIntermediate req) := mem_select.mpr ⟨hold, hown⟩
      rw [hmissing] at hselect
      cases hselect
    · exact hclone
  · exact .untouched (h.volumes.untouched_of_none hnone)

/-- A clone of the snapshot. -/
theorem Reached.insertClone (h : Reached req c₀ c) (hnone : clones req c = [])
    (hdest : BlockClone.destination req c₀ = some dest) :
    Reached req c₀
      { c with volumes := c₀.volumes.insert (newClone c₀ dest none (cloneSize req c₀)) } := by
  have hnone₀ : clones req c₀ = [] := by
    rw [clones, ← h.volumes.untouched_of_none hnone]
    exact hnone
  exact h.setVolumes (.cloned dest hdest hnone₀ none _ (.inl rfl) (.inl rfl) rfl)

theorem updateVolume_newClone {qos : Option Nat} {size : Nat}
    (h : c.volumes = c₀.volumes.insert (newClone c₀ dest qos size)) (change : VolumeChange) :
    (c.updateVolume c₀.volumes.fresh change).volumes =
      c₀.volumes.insert (change.apply (newClone c₀ dest qos size)) := by
  show c.volumes.modify (newClone c₀ dest qos size).id change.apply change.keeps = _
  rw [h, modify_insert_self]
  exact hasKey_fresh

/-- A clone that is too small is enlarged. -/
theorem Reached.enlarge (h : Reached req c₀ c) (hd : clones req c = [d])
    (hsmall : d.size < req.capacity) :
    Reached req c₀ (c.updateVolume d.id (.size req.capacity)) := by
  refine h.setVolumes ?_
  cases h.volumes with
  | untouched hvolumes =>
    have hd₀ : clones req c₀ = [d] := by
      rw [clones, ← hvolumes]
      exact hd
    exact .enlarged d hd₀ hsmall (by simp only [BlockVms.updateVolume, hvolumes])
  | enlarged d₀ hclone hsmall₀ hvolumes =>
    rw [clones_enlarged hclone hvolumes] at hd
    cases hd
    exact absurd hsmall (Nat.lt_irrefl _)
  | cloned dest hdest hnone qos size hqos hsize hvolumes =>
    rw [clones_cloned hdest hnone hvolumes] at hd
    cases hd
    have hfirst : size = cloneSize req c₀ := by
      rcases hsize with hfirst | ⟨-, hlast⟩
      · exact hfirst
      · exact absurd (hlast ▸ hsmall) (Nat.lt_irrefl _)
    exact .cloned dest hdest hnone qos req.capacity hqos (.inr ⟨hfirst ▸ hsmall, rfl⟩)
      (updateVolume_newClone hvolumes _)

theorem clones_updateVolume (hd : clones req c = [d]) {change : VolumeChange}
    (hname : ∀ r, isClone req (change.apply r) = isClone req r) :
    clones req (c.updateVolume d.id change) = [change.apply d] := by
  rw [clones, select_updateVolume _ _ hname, show c.volumes.select (isClone req) = [d] from hd]
  simp

end Stage

section Steps

variable {env : BlockEnv} {req : BlockCloneReq} {c₀ : BlockVms}

def Unmade (req : BlockCloneReq) (c₀ c : BlockVms) : Prop := Reached req c₀ c ∧ clones req c = []

def Made (req : BlockCloneReq) (c₀ : BlockVms) (dest : Destination) (qos : Option Nat)
    (c : BlockVms) : Prop :=
  Reached req c₀ c ∧ c.volumes = c₀.volumes.insert (newClone c₀ dest qos (cloneSize req c₀))

/-- The clone is as the list says. -/
abbrev Finds (req : BlockCloneReq) (c₀ : BlockVms) (ds : List BlockVolume) (c : BlockVms) : Prop :=
  Reached req c₀ c ∧ clones req c = ds

/-- The snapshot to clone is there. -/
abbrev Taken (req : BlockCloneReq) (c₀ : BlockVms) (r : BlockSnapshot) (c : BlockVms) : Prop :=
  Unmade req c₀ c ∧ c.snapshots.find? r.id = some r ∧ r.size = cloneSize req c₀

theorem meets_ensureSnapshot {volumeId : String} (hsource : req.source = .volume volumeId)
    {s : Subsystem × String} :
    BlockMeets (fun c => Unmade req c₀ c ∧ sourceOf volumeId c = some s)
      (ensureSnapshot env req.snapshotName (pathIn s.1 s.2) s.1)
      (Taken req c₀) (Reached req c₀) := by
  refine .bind ((meets_oneOf _).raise fun _ _ hw => hw.1.1) fun found => ?_
  cases found with
  | some r =>
    dsimp only
    split
    next =>
      refine .pure fun w hw => ?_
      have hr : w.vms.snapshots.select (isIntermediate req) = [r] := hw.2
      have hmem : r ∈ w.vms.snapshots.select (isIntermediate req) := hr ▸ mem_singleton_self r
      exact ⟨hw.1.1, find?_eq_some_iff.mpr ⟨(mem_select.mp hmem).1, rfl⟩,
        hw.1.1.1.size_of_intermediate hsource hr⟩
    next => exact .throw fun _ hw => hw.1.1.1
  | none =>
    refine meets_ask (fun _ hc => hc.1.1.1) (fun _ _ hc => hc.1.1) fun w hw => ?_
    obtain ⟨⟨⟨hreached, hnone⟩, hs⟩, hmissing⟩ := hw
    obtain ⟨hafter, hsize⟩ := hreached.insertIntermediate hsource hnone hmissing hs
      (r := ⟨w.vms.snapshots.fresh, req.snapshotName, snapshotPath s.1 s.2, s.1.tenantId,
        s.1.tenantName, w.vms.sizeAt (snapshotPath s.1 s.2)⟩) rfl
    exact ⟨⟨hafter, hnone⟩, find?_eq_some_iff.mpr ⟨mem_insert_self hasKey_fresh, rfl⟩, hsize⟩

variable {dest : Destination} {J : BlockVms → Prop} {ds : List BlockVolume}

theorem meets_cloneVolume (hdest : destination req c₀ = some dest) {r : BlockSnapshot} :
    BlockMeets (Taken req c₀ r) (ask env (cloneVolume r.id dest.view.id dest.name))
      (fun d c => Made req c₀ dest none c ∧ d = newClone c₀ dest none (cloneSize req c₀))
      (Reached req c₀) := by
  refine meets_ask (fun _ hc => hc.1.1) (fun _ _ hc => hc.1.1) fun w hw => ?_
  obtain ⟨⟨hreached, hnone⟩, hfind, hsize⟩ := hw
  have hrow : clonedRow w.vms dest.name dest.view.id r.size =
      newClone c₀ dest none (cloneSize req c₀) := by
    rw [clonedRow, newClone, hreached.volumes.untouched_of_none hnone, hreached.nguidOf, hsize]
  unfold cloneVolume
  rw [hfind]
  dsimp only
  rw [hrow, hreached.volumes.untouched_of_none hnone]
  exact ⟨⟨hreached.insertClone hnone hdest, rfl⟩, rfl⟩

/-- The policy that is looked up is the one that was asked for at the start. -/
theorem meets_qosPolicyId (hJ : ∀ c, J c → Reached req c₀ c) : BlockMeets J (qosPolicyId env req)
      (fun id c => J c ∧ id.filter (· ≠ 0) = askedQos req c₀)
      J := by
  unfold qosPolicyId
  split
  next hname =>
    refine .pure fun _ hw => ⟨hw, ?_⟩
    rw [askedQos, if_pos hname]
  next hname =>
    refine .bind (meets_oneOf _) fun found => ?_
    cases found with
    | none => exact .throw fun _ hw => hw.1
    | some policy =>
      refine .pure fun w hw => ⟨hw.1, ?_⟩
      have hpolicy := hw.2
      rw [(hJ _ hw.1).qosPolicies] at hpolicy
      rw [askedQos, if_neg hname, only_eq_some.mpr hpolicy]
      rfl

theorem Made.setQos {c : BlockVms} {id : Nat} (h : Made req c₀ dest none c)
    (hid : askedQos req c₀ = some id) (hdest : destination req c₀ = some dest)
    (hnone : clones req c₀ = []) :
    Made req c₀ dest (some id) (c.updateVolume c₀.volumes.fresh (.qos id)) := by
  have hvolumes := updateVolume_newClone h.2 (.qos id)
  exact ⟨h.1.setVolumes (.cloned dest hdest hnone (some id) _ (.inr hid.symm) (.inl rfl) hvolumes),
    hvolumes⟩

theorem meets_setQos (hdest : destination req c₀ = some dest) (hnone : clones req c₀ = []) :
    BlockMeets (Made req c₀ dest none) (setQos env req (newClone c₀ dest none (cloneSize req c₀)))
      (fun _ => Made req c₀ dest (askedQos req c₀))
      (Reached req c₀) := by
  refine .bind ((meets_qosPolicyId fun _ hc => hc.1).raiseLeft) fun id => ?_
  refine .assuming (p := id.filter (· ≠ 0) = askedQos req c₀) (fun _ hw => hw.2) fun hasked => ?_
  rw [← hasked]
  match id with
  | none => exact .pure fun _ hw => hw.1
  | some 0 => exact .pure fun _ hw => hw.1
  | some (id + 1) =>
    exact meets_updateVolume (fun _ hc => hc.1.1) (fun _ hc => hc.1)
      fun c hc => hc.1.setQos hasked.symm hdest hnone

/-- The clone as an attempt has it before it is enlarged: the one that was found, or the new
one with its QoS policy. -/
def seen (req : BlockCloneReq) (c₀ : BlockVms) (dest : Destination) : List BlockVolume → BlockVolume
  | d :: _ => d
  | [] => newClone c₀ dest (askedQos req c₀) (cloneSize req c₀)

def SameButQos (d d' : BlockVolume) : Prop := ∃ qos, d = { d' with qosPolicyId := qos }

theorem meets_ensureClone (hdest : destination req c₀ = some dest)
    {snapshot : BlockCall BlockSnapshot} {K : BlockVms → Prop}
    (hsnapshot : BlockMeets (fun c => Unmade req c₀ c ∧ K c) snapshot (Taken req c₀)
      (Reached req c₀)) :
    BlockMeets (fun c => Finds req c₀ ds c ∧ K c) (ensureClone env req dest snapshot)
      (fun d c => Finds req c₀ [seen req c₀ dest ds] c ∧ SameButQos d (seen req c₀ dest ds))
      (Reached req c₀) := by
  have hclones (c : BlockVms) :
      c.volumes.select (Text.endsWith ·.name dest.name) = clones req c := by
    unfold clones isClone
    rw [volumeName_of_destination hdest]
    rfl
  refine .bind ((meets_oneOf _).raise fun _ _ hw => hw.1.1) fun found => ?_
  cases found with
  | some d =>
    refine .pure fun w hw => ?_
    have hd : clones req w.vms = [d] := (hclones w.vms).symm.trans hw.2
    have hds : ds = [d] := hw.1.1.2.symm.trans hd
    subst hds
    exact ⟨⟨hw.1.1.1, hd⟩, d.qosPolicyId, rfl⟩
  | none =>
    have hnone : ∀ w, onBlock (fun c => (Finds req c₀ ds c ∧ K c) ∧
        c.volumes.select (Text.endsWith ·.name dest.name) = (none : Option BlockVolume).toList) w →
        clones req w.vms = [] := fun w hw => (hclones w.vms).symm.trans hw.2
    refine .assuming (p := ds = [] ∧ clones req c₀ = []) (fun w hw => ?_) ?_
    · have hempty := hnone w hw
      refine ⟨hw.1.1.2.symm.trans hempty, ?_⟩
      rw [clones, ← hw.1.1.1.volumes.untouched_of_none hempty]
      exact hempty
    · rintro ⟨rfl, hnone₀⟩
      refine .bind (hsnapshot.pre (fun w hw => ⟨⟨hw.1.1.1, hnone w hw⟩, hw.1.2⟩)) fun r => ?_
      refine .bind (meets_cloneVolume hdest) fun d => ?_
      refine .assuming (p := d = newClone c₀ dest none (cloneSize req c₀)) (fun _ hw => hw.2) ?_
      rintro rfl
      refine .bind ((meets_setQos hdest hnone₀).preLeft) fun _ => ?_
      exact .pure fun w hw => ⟨⟨hw.1, clones_cloned hdest hnone₀ hw.2⟩, none, rfl⟩

theorem keeps_awaitClone : Keeps (onBlock J) (awaitClone env req) := by
  unfold awaitClone
  split
  next =>
    refine meets_ask (fun _ hc => hc) (fun _ _ hc => hc) fun w hw => ?_
    cases env.awaited w.calls with
    | ok _ => exact hw
    | error e => exact hw
  next => exact .ret

/-- The clone has the size of the request afterwards, if it was smaller. -/
theorem meets_enlarge {d d' : BlockVolume} (hsame : SameButQos d d') :
    BlockMeets (Finds req c₀ [d']) (enlarge env req d)
      (fun needResize c => Finds req c₀ [{ d' with size := max d'.size req.capacity }] c ∧
        needResize = (req.isFilesystem && decide (d'.size < req.capacity)))
      (Reached req c₀) := by
  obtain ⟨qos, rfl⟩ := hsame
  unfold enlarge
  dsimp only
  split
  next hsmall =>
    refine .bind (Q := fun _ =>
      onBlock (Finds req c₀ [{ d' with size := max d'.size req.capacity }])) ?_ fun _ =>
      .pure fun _ hw => ⟨hw, by simp [hsmall]⟩
    refine meets_updateVolume (fun _ hc => hc.1) (fun _ hc => hc.1) fun c hc => ?_
    refine ⟨hc.1.enlarge hc.2 hsmall, ?_⟩
    have hclones : clones req (c.updateVolume d'.id (.size req.capacity)) =
        [{ d' with size := req.capacity }] := clones_updateVolume hc.2 fun _ => rfl
    rw [hclones, Nat.max_eq_right (Nat.le_of_lt hsmall)]
  next hlarge =>
    refine .pure fun w hw => ⟨⟨hw.1, hw.2.trans ?_⟩, by simp [hlarge]⟩
    rw [Nat.max_eq_left (Nat.le_of_not_lt hlarge)]

def ending (req : BlockCloneReq) (dest : Destination) (d : BlockVolume) :
    ClonedVolume × BlockVolume :=
  (req.response dest d (req.isFilesystem && decide (d.size < req.capacity)),
    { d with size := max d.size req.capacity })

/-- How a successful attempt ends that found the clones `ds`. -/
def Final (req : BlockCloneReq) (c₀ : BlockVms) (ds : List BlockVolume) (answer : ClonedVolume)
    (c : BlockVms) : Prop :=
  ∃ dest d, destination req c₀ = some dest ∧ clones req c = [d] ∧
    (answer, d) = ending req dest (seen req c₀ dest ds)

/-- An attempt that finds such a clone ends as it should. -/
abbrev Provides (req : BlockCloneReq) (c₀ : BlockVms) (ds : List BlockVolume)
    (x : BlockCall ClonedVolume) : Prop :=
  BlockMeets (Finds req c₀ ds) x (fun a c => Reached req c₀ c ∧ Final req c₀ ds a c)
    (Reached req c₀)

theorem meets_provisionClone (hdest : destination req c₀ = some dest)
    {snapshot : BlockCall BlockSnapshot} {K : BlockVms → Prop}
    (hsnapshot : BlockMeets (fun c => Unmade req c₀ c ∧ K c) snapshot (Taken req c₀)
      (Reached req c₀)) :
    BlockMeets (fun c => Finds req c₀ ds c ∧ K c) (provisionClone env req dest snapshot)
      (fun a c => Reached req c₀ c ∧ Final req c₀ ds a c)
      (Reached req c₀) := by
  refine .bind (meets_ensureClone hdest hsnapshot) fun d => ?_
  refine .assuming (p := SameButQos d (seen req c₀ dest ds)) (fun _ hw => hw.2) fun hsame => ?_
  refine .bind (keeps_awaitClone.weaken (fun _ hw => hw) (fun _ _ hw => hw.1)
    (fun _ _ hw => hw.1.1)) fun _ => ?_
  refine .bind (meets_enlarge hsame) fun needResize => ?_
  refine .pure fun w hw => ⟨hw.1.1, dest, _, hdest, hw.1.2, ?_⟩
  obtain ⟨qos, rfl⟩ := hsame
  rw [hw.2]
  rfl

theorem meets_cloneName : BlockMeets J (cloneName req) (fun name c =>
      J c ∧ req.volumeName = some name) J := by
  unfold cloneName
  cases hname : req.volumeName with
  | none => exact .err
  | some name => exact .pure fun _ hw => ⟨hw, rfl⟩

theorem meets_destinationView {sourceView : Subsystem} :
    BlockMeets J (destinationView env req sourceView)
      (fun view c => J c ∧ viewFor req sourceView c = some view)
      J := by
  unfold destinationView
  split
  next hname => exact .pure fun _ hw => ⟨hw, if_pos hname⟩
  next hname =>
    refine meets_getSubsystem.post (fun a w hw => ⟨hw.1, ?_⟩)
    rw [viewFor, if_neg hname]
    exact only_eq_some.mpr hw.2

theorem meets_buildFromVolume {volumeId : String} (hsource : req.source = .volume volumeId) :
    Provides req c₀ ds (buildFromVolume env req volumeId) := by
  refine .bind ((meets_oneOf _).raiseLeft) fun found => ?_
  cases found with
  | none => exact .throw fun _ hw => hw.1.1
  | some source =>
    refine .bind (meets_getSubsystemById.raise fun _ _ hw => hw.1.1) fun sourceView => ?_
    refine .bind (meets_cloneName.raise fun _ _ hw => hw.1.1.1) fun name => ?_
    refine .bind (meets_destinationView.raise fun _ _ hw => hw.1.1.1.1) fun view => ?_
    -- the lookups, put together
    have hfound : ∀ w : BlockWorld, (onBlock fun c => (((Finds req c₀ ds c ∧
        c.volumes.select (Text.endsWith ·.name (withoutCluster volumeId)) = [source]) ∧
        c.subsystems.find? source.viewId = some sourceView) ∧ req.volumeName = some name) ∧
        viewFor req sourceView c = some view) w →
        sourceOf volumeId w.vms = some (sourceView, source.name) ∧
          destination req w.vms = some ⟨name, view, sourceView.tenantName⟩ := by
      intro w hw
      obtain ⟨⟨⟨⟨-, hrow⟩, hview⟩, hname⟩, hfor⟩ := hw
      have hs : sourceOf volumeId w.vms = some (sourceView, source.name) := by
        rw [sourceOf, only_eq_some.mpr hrow, bind_some, hview]
        rfl
      refine ⟨hs, ?_⟩
      simp only [destination, hname, hsource, bind_some, hs, hfor, map_some]
    refine .assuming (p := destination req c₀ = some ⟨name, view, sourceView.tenantName⟩)
      (fun w hw => hw.1.1.1.1.1.destination (hfound w hw).2) fun hdest => ?_
    exact (meets_provisionClone hdest
      (meets_ensureSnapshot (s := (sourceView, source.name)) hsource)).pre
        (fun w hw => ⟨hw.1.1.1.1, (hfound w hw).1⟩)

/-- The snapshot of the request shows what it showed. -/
theorem Reached.size_of_source {c : BlockVms} (h : Reached req c₀ c) {snapshotId : String}
    (hsource : req.source = .snapshot snapshotId) {r : BlockSnapshot}
    (hr : sourceSnapshot snapshotId c = some r) :
    c.snapshots.find? r.id = some r ∧ r.size = cloneSize req c₀ := by
  have hkept := h.snapshots
  simp only [SnapshotsKept, hsource] at hkept
  obtain ⟨id, -, hfind⟩ := bind_eq_some_iff.mp hr
  obtain ⟨hmem, rfl⟩ := find?_eq_some_iff.mp hfind
  refine ⟨hfind, ?_⟩
  rw [sourceSnapshot, hkept] at hr
  simp only [cloneSize, hsource]
  rw [sourceSnapshot, hr]
  rfl

theorem meets_buildFromSnapshot {snapshotId : String}
    (hsource : req.source = .snapshot snapshotId) :
    Provides req c₀ ds (buildFromSnapshot env req snapshotId) := by
  refine .bind ((meets_readBlock (sourceSnapshot snapshotId)).raiseLeft)
    fun found => ?_
  cases found with
  | none => exact .throw fun _ hw => hw.1.1
  | some r =>
    refine .bind (meets_cloneName.raise fun _ _ hw => hw.1.1) fun name => ?_
    refine .bind (meets_getSubsystem.raise fun _ _ hw => hw.1.1.1) fun view => ?_
    have hfound : ∀ w : BlockWorld, (onBlock fun c => ((Finds req c₀ ds c ∧
        some r = sourceSnapshot snapshotId c) ∧ req.volumeName = some name) ∧
        c.subsystems.select req.isDestination = [view]) w →
        destination req w.vms = some ⟨name, view, r.tenantName⟩ := by
      intro w hw
      obtain ⟨⟨⟨-, hr⟩, hname⟩, hview⟩ := hw
      simp only [destination, hname, hsource, bind_some, ← hr, only_eq_some.mpr hview, map_some]
    refine .assuming (p := destination req c₀ = some ⟨name, view, r.tenantName⟩)
      (fun w hw => hw.1.1.1.1.destination (hfound w hw)) fun hdest => ?_
    refine (meets_provisionClone (K := fun c => sourceSnapshot snapshotId c = some r) hdest
      (.pure fun w hw => ⟨hw.1, hw.1.1.size_of_source hsource hw.2⟩)).pre
        (fun w hw => ⟨hw.1.1.1, hw.1.1.2.symm⟩)

/-- Whichever builder runs. -/
theorem meets_cloneBlockVolume : Provides req c₀ ds (cloneBlockVolume env req) := by
  unfold cloneBlockVolume
  cases hsource : req.source with
  | volume volumeId => exact meets_buildFromVolume hsource
  | snapshot snapshotId => exact meets_buildFromSnapshot hsource

end Steps

/-! ## Attempts -/

structure CloneAttempt where
  env : BlockEnv
  expired : Bool

def expire (req : BlockCloneReq) (c : BlockVms) : BlockVms :=
  match req.source with
  | .volume _ => { c with snapshots := c.snapshots.keep (!isIntermediate req ·) }
  | .snapshot _ => c

def CloneAttempt.run (req : BlockCloneReq) (a : CloneAttempt) : BlockCall ClonedVolume :=
  fun w => cloneBlockVolume a.env req
    { w with vms := if a.expired then expire req w.vms else w.vms }

variable {req : BlockCloneReq} {c₀ : BlockVms}

theorem Reached.expire {c : BlockVms} (h : Reached req c₀ c)
    (hmissing : c₀.snapshots.select (isIntermediate req) = []) :
    Reached req c₀ (BlockClone.expire req c) := by
  unfold BlockClone.expire
  cases hsource : req.source with
  | snapshot _ => exact h
  | volume volumeId =>
    refine ⟨h.subsystems, h.qosPolicies, h.nguidOf, ?_, h.volumes.congr rfl⟩
    simp only [SnapshotsKept, hsource]
    refine .inr ⟨hmissing, fun r hr => ?_⟩
    obtain ⟨hmem, hown⟩ := mem_select.mp hr
    have hnot := (mem_keep.mp hmem).2
    rw [hown] at hnot
    cases hnot

theorem clones_expire (req : BlockCloneReq) (c : BlockVms) :
    clones req (expire req c) = clones req c := by
  unfold expire
  cases req.source with
  | volume _ => rfl
  | snapshot _ => rfl

def firstSize (req : BlockCloneReq) (c₀ : BlockVms) : Nat :=
  match clones req c₀ with
  | d :: _ => d.size
  | [] => cloneSize req c₀

/-- The clone that an attempt finds has the QoS policy of the request, if it is a new one, and is
not enlarged yet, if a file system is to be resized. -/
def AsInOneRun (req : BlockCloneReq) (c₀ : BlockVms) (d : BlockVolume) : Prop :=
  (clones req c₀ = [] → d.qosPolicyId = askedQos req c₀) ∧
    (req.isFilesystem = true → firstSize req c₀ < req.capacity → d.size < req.capacity)

/-- When an attempt that has a clone of another policy and size ends alike. -/
theorem ending_eq_iff (req : BlockCloneReq) (dest : Destination) (d : BlockVolume)
    (qos : Option Nat) (size : Nat)
    (hsize : size = d.size ∨ d.size < req.capacity ∧ size = req.capacity) :
    ending req dest { d with qosPolicyId := qos, size } = ending req dest d ↔ qos = d.qosPolicyId ∧
        (req.isFilesystem = true → d.size < req.capacity → size < req.capacity) := by
  constructor
  · intro heq
    obtain ⟨hanswer, hrow⟩ := Prod.mk.inj heq
    refine ⟨congrArg BlockVolume.qosPolicyId hrow, fun hfs hsmall => ?_⟩
    have hneed : (req.isFilesystem && decide (size < req.capacity)) =
        (req.isFilesystem && decide (d.size < req.capacity)) :=
      congrArg (fun a => a.context.needResize) hanswer
    simpa [hfs, hsmall] using hneed
  · rintro ⟨rfl, hneed⟩
    rcases hsize with rfl | ⟨hsmall, rfl⟩
    · rfl
    · -- an enlarged clone ends alike only where no file system is to be resized
      have hblock : req.isFilesystem = false := by
        rw [Bool.eq_false_iff]
        exact fun hfs => Nat.lt_irrefl _ (hneed hfs hsmall)
      unfold ending
      rw [hblock, Nat.max_self, Nat.max_eq_right (Nat.le_of_lt hsmall)]
      rfl

/-- What the last attempt finds decides how it ends. -/
theorem Reached.ending_eq_iff {c : BlockVms} {dest : Destination} (h : Reached req c₀ c)
    (hdest : BlockClone.destination req c₀ = some dest) :
    ending req dest (seen req c₀ dest (clones req c)) =
        ending req dest (seen req c₀ dest (clones req c₀)) ↔
      ∀ d, clones req c = [d] → AsInOneRun req c₀ d := by
  cases h.volumes with
  | untouched hvolumes =>
    have hds : clones req c = clones req c₀ := by
      rw [clones, hvolumes]
      rfl
    rw [hds]
    refine ⟨fun _ d hd => ⟨fun hnone => ?_, fun _ hsmall => ?_⟩, fun _ => rfl⟩
    · rw [hnone] at hd
      cases hd
    · rw [firstSize, hd] at hsmall
      exact hsmall
  | enlarged d hclone hsmall hvolumes =>
    have hfirst : firstSize req c₀ = d.size := by rw [firstSize, hclone]
    rw [clones_enlarged hclone hvolumes, hclone]
    refine (BlockClone.ending_eq_iff req dest d d.qosPolicyId req.capacity
      (.inr ⟨hsmall, rfl⟩)).trans ?_
    constructor
    · rintro ⟨-, hneed⟩ d' hd'
      cases hd'
      exact ⟨fun hnone => absurd (hclone.symm.trans hnone) (cons_ne_nil _ _),
        fun hfs hsmall' => hneed hfs (hfirst ▸ hsmall')⟩
    · intro halike
      exact ⟨rfl, fun hfs hsmall' => (halike _ rfl).2 hfs (hfirst ▸ hsmall')⟩
  | cloned dest' hdest' hnone qos size hqos hsize hvolumes =>
    cases hdest.symm.trans hdest'
    have hfirst : firstSize req c₀ = cloneSize req c₀ := by rw [firstSize, hnone]
    rw [clones_cloned hdest hnone hvolumes, hnone]
    refine (BlockClone.ending_eq_iff req dest
      (newClone c₀ dest (askedQos req c₀) (cloneSize req c₀)) qos size hsize).trans ?_
    constructor
    · rintro ⟨hqos', hneed⟩ d' hd'
      cases hd'
      exact ⟨fun _ => hqos', fun hfs hsmall => hneed hfs (hfirst ▸ hsmall)⟩
    · intro halike
      exact ⟨(halike _ rfl).1 hnone, fun hfs hsmall =>
        (halike _ rfl).2 hfs (show firstSize req c₀ < _ from hfirst ▸ hsmall)⟩

/-- An attempt ends by the clones it finds, whether or not the snapshot has expired. -/
theorem meets_attempt (a : CloneAttempt)
    (hexpired : a.expired = true → ∀ r ∈ c₀.snapshots, r.name ≠ req.snapshotName)
    (ds : List BlockVolume) :
    Provides req c₀ ds (a.run req) := by
  rintro w ⟨hw, hds⟩
  refine meets_cloneBlockVolume { w with vms := if a.expired then expire req w.vms else w.vms }
    (show Reached req c₀ (if a.expired then expire req w.vms else w.vms) ∧
      clones req (if a.expired then expire req w.vms else w.vms) = ds from ?_)
  cases hexp : a.expired with
  | false => exact ⟨hw, hds⟩
  | true =>
    have hmissing : c₀.snapshots.select (isIntermediate req) = [] :=
      filter_eq_nil_iff.mpr fun r hr => by simpa [isIntermediate] using hexpired hexp r hr
    exact ⟨hw.expire hmissing, (clones_expire req w.vms).trans hds⟩

/-- **Cloning a block volume, retried until it succeeds**: answer and clone are those of a single
run exactly when the last attempt finds no clone, or one that is as in a single run. -/
theorem clone_retries_iff (req : BlockCloneReq) (w₀ : BlockWorld)
    (attempts : List CloneAttempt) (last : CloneAttempt)
    (hexpired : ∀ a ∈ last :: attempts, a.expired = true →
      ∀ r ∈ w₀.vms.snapshots, r.name ≠ req.snapshotName)
    (env : BlockEnv) (answer₁ : ClonedVolume) (w₁ : BlockWorld)
    (hrun₁ : cloneBlockVolume env req w₀ = .ok answer₁ w₁)
    (answer : ClonedVolume) (w : BlockWorld)
    (hrun : last.run req (afterAttempts id (CloneAttempt.run req) w₀ attempts) = .ok answer w) :
    (answer = answer₁ ∧ clones req w.vms = clones req w₁.vms) ↔
      ∀ d, clones req (afterAttempts id (CloneAttempt.run req) w₀ attempts).vms = [d] →
        AsInOneRun req w₀.vms d := by
  have hreached : onBlock (Reached req w₀.vms)
      (afterAttempts id (CloneAttempt.run req) w₀ attempts) :=
    afterAttempts_invariant id _ (fun _ hw => hw) (fun a ha w hw =>
      ((meets_attempt a (hexpired a (mem_cons_of_mem _ ha)) (clones req w.vms)).post
        (fun _ _ hw => hw.1)) w ⟨hw, rfl⟩)
      (Reached.refl req w₀.vms)
  have hlast := (meets_attempt last (hexpired last mem_cons_self) _).ok ⟨hreached, rfl⟩ hrun
  have hsingle : Reached req w₀.vms w₁.vms ∧ Final req w₀.vms (clones req w₀.vms) answer₁ w₁.vms :=
    meets_cloneBlockVolume.ok
      (show onBlock (fun c => Reached req w₀.vms c ∧ clones req c = clones req w₀.vms) w₀ from
        ⟨Reached.refl req w₀.vms, rfl⟩) hrun₁
  obtain ⟨-, dest, d, hdest, hclones, hending⟩ := hlast
  obtain ⟨-, dest', d₁, hdest', hclones₁, hending₁⟩ := hsingle
  cases hdest.symm.trans hdest'
  rw [← hreached.ending_eq_iff hdest, ← hending, ← hending₁, hclones, hclones₁, Prod.mk.injEq,
    singleton_inj]

/-! ## A clone that is left half way -/

def blockCluster : BlockVms where
  swVersion := ⟨5, 3, 0⟩
  subsystems := Table.empty.insert
    { id := 1, name := "block", path := "/block", tenantId := "1", tenantName := "default"
      nqn := "nqn.block" }
  volumes := Table.empty.insert
    { id := 1, name := "pvc-1", viewId := 1, size := 1024, nguid := "n1" }
  snapshots := Table.empty
  qosPolicies := Table.empty
  nguidOf := fun id => if id = 2 then "n2" else "n"

def largerClone : BlockCloneReq where
  name := "pvc-2"
  subsystem := "block"
  source := .volume "pvc-1"
  capacity := 2048
  qosPolicyId := some 7

def lostAt (n : Nat) : CloneAttempt :=
  ⟨{ fate := fun k => if k = n then .lost .connection else .answered }, false⟩

def needResizeOf : EStateM.Result Err BlockWorld ClonedVolume → Option Bool
  | .ok answer _ => some answer.context.needResize
  | .error _ _ => none

/-- With the answer to the clone request lost, the clone is left without its QoS policy; with that
to the enlargement lost, no resize is asked for. -/
theorem clone_retry_differs :
    let single := cloneBlockVolume .steady largerClone { vms := blockCluster }
    let retried := fun n => cloneBlockVolume .steady largerClone
      (afterAttempts id (CloneAttempt.run largerClone) { vms := blockCluster } [lostAt n])
    (needResizeOf single, (clones largerClone (endState single).vms).map (·.qosPolicyId)) =
        (some true, [some 7]) ∧
      (needResizeOf (retried 6), (clones largerClone (endState (retried 6)).vms).map
        (·.qosPolicyId)) = (some true, [none]) ∧
      (needResizeOf (retried 8), (clones largerClone (endState (retried 8)).vms).map
        (·.qosPolicyId)) = (some false, [some 7]) := by
  decide +kernel

/-- When the answer to the creation of the snapshot is lost, the retry ends as a single run, also
where the snapshot has expired meanwhile. -/
theorem clone_retries_iff_snapshot :
    ∃ answer w w₁, cloneBlockVolume .steady largerClone { vms := blockCluster } = .ok answer w₁ ∧
      CloneAttempt.run largerClone ⟨.steady, true⟩ (afterAttempts id
        (CloneAttempt.run largerClone) { vms := blockCluster } [lostAt 5]) = .ok answer w ∧
      clones largerClone w.vms = clones largerClone w₁.vms := by
  have hsingle : isOk (cloneBlockVolume .steady largerClone { vms := blockCluster }) = true := by
    decide +kernel
  have hretried : isOk (CloneAttempt.run largerClone ⟨.steady, true⟩ (afterAttempts id
      (CloneAttempt.run largerClone) { vms := blockCluster } [lostAt 5])) = true := by
    decide +kernel
  have hnone : clones largerClone (afterAttempts id (CloneAttempt.run largerClone)
      { vms := blockCluster } [lostAt 5]).vms = [] := by decide +kernel
  obtain ⟨answer₁, w₁, hw₁⟩ := exists_ok_of_isOk hsingle
  obtain ⟨answer, w, hw⟩ := exists_ok_of_isOk hretried
  obtain ⟨rfl, hclones⟩ := (clone_retries_iff largerClone { vms := blockCluster } [lostAt 5]
    ⟨.steady, true⟩ (fun _ _ _ r hr => absurd hr not_mem_nil) .steady answer₁ w₁ hw₁ answer
    w hw).mpr fun d hd => by
      rw [hnone] at hd
      cases hd
  exact ⟨answer, w, w₁, hw₁, hw, hclones⟩

end VastCsi.Csi.BlockClone
