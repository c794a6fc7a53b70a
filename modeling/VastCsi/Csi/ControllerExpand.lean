import VastCsi.Csi.CloneRetries
import VastCsi.Csi.DeleteVolume

/-!
# `ControllerExpandVolume` of the block plugin, repeated

The answer is computed from the size that the call finds. A call that enlarges the volume asks for
an expansion on the node, and a repetition of it finds the volume enlarged and does not. So the
answer is the same in all repetitions exactly when the volume has the requested size to begin
with.
-/

namespace VastCsi.Csi.ControllerExpand

open Lib Vms BlockClone List

structure ExpandResp where
  capacityBytes : Nat
  nodeExpansionRequired : Bool
  deriving DecidableEq, Repr

def expandFound (env : BlockEnv) (requested : Nat) (volume : BlockVolume) : BlockCall ExpandResp :=
  let capacityBytes := max requested volume.size
  if volume.size < requested then do
    ask env (updateVolume volume.id (.size capacityBytes))
    pure ⟨capacityBytes, true⟩
  else pure ⟨capacityBytes, false⟩

def isVolume (volumeId : String) (r : BlockVolume) : Bool :=
  Text.endsWith r.name (normalizeVolumeId volumeId)

def controllerExpandVolume (env : BlockEnv) (volumeId : String) (requested : Nat) :
    BlockCall ExpandResp := do
  match ← BlockClone.oneOf env .volume (·.volumes.select (isVolume volumeId)) with
  | none =>
    let id := normalizeVolumeId volumeId
    throw (.abort .notFound s!"Volume not found with ID: {id}")
  | some volume => expandFound env requested volume

def afterCalls (volumeId : String) (requested : Nat) (w : BlockWorld) (calls : List BlockEnv) :
    BlockWorld :=
  afterAttempts id (fun env => controllerExpandVolume env volumeId requested) w calls

def answerAt (requested size : Nat) : ExpandResp := ⟨max requested size, decide (size < requested)⟩

def sizes (volumeId : String) (c : BlockVms) : List Nat :=
  (c.volumes.select (isVolume volumeId)).map (·.size)

section Call

variable {env : BlockEnv} {volumeId : String} {requested : Nat}

def Sized (volumeId : String) (size : Nat) (c : BlockVms) : Prop := sizes volumeId c = [size]

/-- The size is the original one, or the requested one if that is larger. -/
def Grown (volumeId : String) (requested size : Nat) (c : BlockVms) : Prop :=
  Sized volumeId size c ∨ size < requested ∧ Sized volumeId requested c

variable {size : Nat}

theorem sized_updateVolume {c : BlockVms} {r : BlockVolume}
    (h : c.volumes.select (isVolume volumeId) = [r]) :
    Sized volumeId size (c.updateVolume r.id (.size size)) := by
  unfold Sized sizes
  rw [select_updateVolume _ _ fun _ => rfl, h]
  simp [VolumeChange.size]

/-- **One call** answers by the size that it finds, and leaves the volume grown. -/
theorem meets_controllerExpand (size : Nat) :
    BlockMeets (Sized volumeId size) (controllerExpandVolume env volumeId requested)
      (fun answer c => answer = answerAt requested size ∧ Sized volumeId (max requested size) c)
      (Grown volumeId requested size) := by
  have hfound : BlockMeets (Sized volumeId size)
      (BlockClone.oneOf env .volume (·.volumes.select (isVolume volumeId)))
      (fun a c => Sized volumeId size c ∧ c.volumes.select (isVolume volumeId) = a.toList)
      (Grown volumeId requested size) :=
    (meets_oneOf _).raise fun _ _ h => .inl h
  refine .bind hfound fun found => ?_
  cases found with
  | none => exact .throw fun w h => .inl h.1
  | some r =>
    show Meets _ (expandFound env requested r) _ _
    refine .assuming (p := r.size = size) (fun w h => ?_) fun hsize => ?_
    · have hsizes : (w.vms.volumes.select (isVolume volumeId)).map (·.size) = [size] := h.1
      rw [h.2] at hsizes
      exact singleton_inj.mp hsizes
    · subst hsize
      unfold expandFound
      by_cases hsmall : r.size < requested
      · rw [if_pos hsmall]
        have hmax : max requested r.size = requested := Nat.max_eq_left (Nat.le_of_lt hsmall)
        rw [hmax]
        refine .bind (Q := fun _ => onBlock (Sized volumeId requested)) ?_ fun _ => ?_
        · exact meets_updateVolume (fun c h => .inl h.1) (fun c h => .inr ⟨hsmall, h⟩)
            fun c h => sized_updateVolume h.2
        · refine .pure fun w h => ⟨?_, h⟩
          rw [answerAt, hmax, decide_eq_true hsmall]
      · rw [if_neg hsmall]
        have hmax : max requested r.size = r.size := Nat.max_eq_right (Nat.le_of_not_lt hsmall)
        refine .pure fun w h => ⟨?_, ?_⟩
        · rw [answerAt, decide_eq_false hsmall]
        · rw [hmax]
          exact h.1

theorem keeps_grown (size : Nat) : Keeps (onBlock (Grown volumeId requested size))
      (controllerExpandVolume env volumeId requested) := by
  intro w hw
  rcases hw with hfirst | ⟨hsmall, hgrown⟩
  · refine (meets_controllerExpand size).post (fun _ w h => ?_) w hfirst
    by_cases hsmall : size < requested
    · have hmax : max requested size = requested := Nat.max_eq_left (Nat.le_of_lt hsmall)
      exact .inr ⟨hsmall, hmax ▸ h.2⟩
    · have hmax : max requested size = size := Nat.max_eq_right (Nat.le_of_not_lt hsmall)
      exact .inl (hmax ▸ h.2)
  · refine (meets_controllerExpand requested).weaken (fun _ h => h) (fun _ w h => ?_)
      (fun _ w h => ?_) w hgrown
    · exact .inr ⟨hsmall, Nat.max_self requested ▸ h.2⟩
    · rcases h with h | ⟨hlt, -⟩
      · exact .inr ⟨hsmall, h⟩
      · exact absurd hlt (Nat.lt_irrefl requested)

theorem grown_afterCalls {w : BlockWorld} (h : Sized volumeId size w.vms) (calls : List BlockEnv) :
    Grown volumeId requested size (afterCalls volumeId requested w calls).vms :=
  afterAttempts_invariant id _ (fun _ hw => hw) (fun _ _ => keeps_grown size)
    (show onBlock (Grown volumeId requested size) w from .inl h)

theorem controllerExpand_steady (requested : Nat) {w : BlockWorld} (h : Sized volumeId size w.vms) :
    ∃ w', controllerExpandVolume .steady volumeId requested w =
      .ok (answerAt requested size) w' := by
  obtain ⟨r, hrow, rfl⟩ := map_eq_singleton_iff.mp h
  have hmem : r ∈ w.vms.volumes.select (isVolume volumeId) := hrow ▸ mem_singleton_self r
  have hfind : w.vms.volumes.find? r.id = some r :=
    Table.find?_eq_some_iff.mpr ⟨(Table.mem_select.mp hmem).1, rfl⟩
  have hone : BlockClone.oneOf .steady .volume (·.volumes.select (isVolume volumeId)) w =
      .ok (some r) { w with calls := w.calls + 1 } := by
    have hread : ask .steady (readBlock (·.volumes.select (isVolume volumeId))) w =
        .ok [r] { w with calls := w.calls + 1 } := by
      rw [← hrow]
      rfl
    exact bind_ok_iff.mpr ⟨_, _, hread, rfl⟩
  by_cases hsmall : r.size < requested
  · have hupdate : ∃ w', ask .steady (updateVolume r.id (.size (max requested r.size)))
        { w with calls := w.calls + 1 } = .ok () w' := by
      show ∃ w', updateVolume _ _ { w with calls := w.calls + 1 + 1 } = .ok () w'
      unfold updateVolume
      rw [hfind]
      exact ⟨_, rfl⟩
    obtain ⟨w', hw'⟩ := hupdate
    refine ⟨w', bind_ok_iff.mpr ⟨_, _, hone, ?_⟩⟩
    show expandFound .steady requested r _ = _
    rw [expandFound, if_pos hsmall, answerAt, decide_eq_true hsmall]
    exact bind_ok_iff.mpr ⟨_, _, hw', rfl⟩
  · refine ⟨{ w with calls := w.calls + 1 }, bind_ok_iff.mpr ⟨_, _, hone, ?_⟩⟩
    show expandFound .steady requested r _ = _
    rw [expandFound, if_neg hsmall, answerAt, decide_eq_false hsmall]
    rfl

/-- A volume that was enlarged is not expanded on the node again. -/
theorem answerAt_ne (hsmall : size < requested) :
    answerAt requested requested ≠ answerAt requested size := by
  intro h
  have hflag := congrArg ExpandResp.nodeExpansionRequired h
  simp [answerAt, hsmall] at hflag

end Call

/-- **The call, repeated.** -/
theorem expand_repeats_iff (volumeId : String) (requested size : Nat) (w₀ : BlockWorld)
    (hone : sizes volumeId w₀.vms = [size]) :
    (∀ calls env answer w, controllerExpandVolume env volumeId requested
        (afterCalls volumeId requested w₀ calls) = .ok answer w →
      answer.capacityBytes = max requested size ∧
      (answer = answerAt requested size ↔
        sizes volumeId (afterCalls volumeId requested w₀ calls).vms = [size])) ∧
    ((∀ calls env answer w, controllerExpandVolume env volumeId requested
        (afterCalls volumeId requested w₀ calls) = .ok answer w →
      answer = answerAt requested size) ↔ requested ≤ size) := by
  have hstep : ∀ calls env answer w, controllerExpandVolume env volumeId requested
        (afterCalls volumeId requested w₀ calls) = .ok answer w →
      answer.capacityBytes = max requested size ∧
      (answer = answerAt requested size ↔
        sizes volumeId (afterCalls volumeId requested w₀ calls).vms = [size]) := by
    intro calls env answer w hrun
    rcases grown_afterCalls hone calls with hfirst | ⟨hsmall, hgrown⟩
    · have hanswer := ((meets_controllerExpand size).ok hfirst hrun).1
      rw [hanswer]
      exact ⟨rfl, iff_of_true rfl hfirst⟩
    · have hanswer := ((meets_controllerExpand requested).ok hgrown hrun).1
      have hmax : max requested size = requested := Nat.max_eq_left (Nat.le_of_lt hsmall)
      rw [hanswer]
      refine ⟨(Nat.max_self requested).trans hmax.symm,
        iff_of_false (answerAt_ne hsmall) fun h => ?_⟩
      have hsize := hgrown.symm.trans h
      exact absurd (List.singleton_inj.mp hsize) (Nat.ne_of_gt hsmall)
  refine ⟨hstep, ?_⟩
  constructor
  · intro h
    by_contra hlarge
    have hsmall : size < requested := Nat.lt_of_not_le hlarge
    -- two calls whose requests are answered
    obtain ⟨w₁, hfirst⟩ := controllerExpand_steady requested hone
    have hgrown := ((meets_controllerExpand size).ok hone hfirst).2
    rw [Nat.max_eq_left (Nat.le_of_lt hsmall)] at hgrown
    obtain ⟨w₂, hsecond⟩ := controllerExpand_steady requested hgrown
    have hafter : afterCalls volumeId requested w₀ [.steady] = w₁ := by
      show endState (controllerExpandVolume .steady volumeId requested w₀) = w₁
      rw [hfirst]
      rfl
    rw [← hafter] at hsecond
    exact answerAt_ne hsmall (h [.steady] .steady _ w₂ hsecond)
  · intro hsize calls env answer w hrun
    rcases grown_afterCalls hone calls with hfirst | ⟨hsmall, -⟩
    · exact ((hstep calls env answer w hrun).2).mpr hfirst
    · exact absurd hsmall (Nat.not_lt_of_le hsize)

def lostUpdate : BlockEnv := { fate := fun n => if n = 1 then .lost .connection else .answered }

def answerOf : EStateM.Result Err BlockWorld ExpandResp → Option ExpandResp
  | .ok answer _ => some answer
  | .error _ _ => none

/-- The volume is enlarged and the answer is lost; the answer to the repeated call asks for no
expansion on the node. -/
theorem repeated_call_skips_node :
    answerOf (controllerExpandVolume .steady "pvc-1" 2048 { vms := blockCluster }) =
        some ⟨2048, true⟩ ∧
      answerOf (controllerExpandVolume lostUpdate "pvc-1" 2048 { vms := blockCluster }) = none ∧
      answerOf (controllerExpandVolume .steady "pvc-1" 2048
        (afterCalls "pvc-1" 2048 { vms := blockCluster } [lostUpdate])) = some ⟨2048, false⟩ ∧
      answerOf (controllerExpandVolume .steady "pvc-1" 2048
        (afterCalls "pvc-1" 2048 { vms := blockCluster } [.steady])) = some ⟨2048, false⟩ := by
  decide +kernel

/-- A volume that is large enough: whatever happens to the calls, they answer alike. -/
theorem expand_repeats_iff_enough : sizes "pvc-1" blockCluster = [1024] ∧
      ∀ calls env answer w, controllerExpandVolume env "pvc-1" 512
          (afterCalls "pvc-1" 512 { vms := blockCluster } calls) = .ok answer w →
        answer = ⟨1024, false⟩ := by
  have hsize : sizes "pvc-1" blockCluster = [1024] := by decide +kernel
  exact ⟨hsize, (expand_repeats_iff "pvc-1" 512 1024 { vms := blockCluster } hsize).2.mpr
    (by decide)⟩

end VastCsi.Csi.ControllerExpand
