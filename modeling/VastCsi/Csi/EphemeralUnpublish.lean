import VastCsi.Csi.BlockNode
import VastCsi.Csi.EphemeralBackend

/-!
# Unpublishing an ephemeral volume, until it succeeds

What an unpublish needs to delete the backend volume is in the metadata file, in the tmpfs that
the same unpublish unmounts. `Holding` is what every attempt keeps: the backend volume is deleted
or the file is still there. It needs that `os.path.exists` does not answer "no" because it cannot
look, and that no forced unmount follows a timed-out one that took place.
-/

namespace VastCsi.Csi.Node.Ephemeral

open Lib List

/-! ## The attempts -/

structure Attempt where
  env : Env
  vms : Vms.Env

def unpublish (backend : Backend) (conf : Conf) (t volumeId : String) (a : Attempt) :
    Call Vms.World Unit :=
  match backend with
  | .nfs _ _ => nodeUnpublish a.env t conf (fun m => backend.cleanUp a.vms m.volumeId) volumeId
  | .block _ _ _ => blockNodeUnpublish a.env t conf fun m => backend.cleanUp a.vms m.volumeId

def unpublishAttempts (backend : Backend) (conf : Conf) (t volumeId : String)
    (w : World Vms.World) (attempts : List Attempt) : World Vms.World :=
  afterAttempts (fun w => w) (unpublish backend conf t volumeId) w attempts

/-- A look that fails is not taken for a "no", and no forced unmount follows one that
timed out and took place. -/
structure Careful (conf : Conf) (env : Env) : Prop where
  path : env.Honest .pathExists
  file : env.Honest .metaExists
  umount : conf.forceLazyUmountOnTimeout = true → ∀ n, env.fate .umount n ≠ .lost .timedOut

/-- Published: volumes over the metadata tmpfs, and whatever an earlier publish that died
has left below. -/
structure Published (m : Meta) (target : Target) : Prop where
  dir : target.dir = true
  stack : target.layers.Pairwise fun a b => a.isTmpfs = true → b.isTmpfs = true
  file : .tmpfs (.whole m) ∈ target.layers
  only : ∀ m', .tmpfs (.whole m') ∈ target.layers → m' = m

section Invariant

variable {β : Type} {env : Env} {t : String} {conf : Conf} {m : Meta} {Safe Deleted : β → Prop}

structure Kept (m : Meta) (target : Target) : Prop where
  /-- Below a tmpfs there are only tmpfs. -/
  stack : target.layers.Pairwise fun a b => a.isTmpfs = true → b.isTmpfs = true
  only : ∀ m', .tmpfs (.whole m') ∈ target.layers → m' = m
  device : target.device = true → ∃ file, .tmpfs file ∈ target.layers
  dir : target.dir = false → target.layers = []

/-- The backend volume is deleted, or the metadata file is there. -/
structure Holding (t : String) (m : Meta) (Safe Deleted : β → Prop) (s : State β) : Prop where
  safe : Safe s.backend
  kept : Kept m (s.target t)
  recorded : Deleted s.backend ∨ .tmpfs (.whole m) ∈ (s.target t).layers

/-- The file the path shows, if any, has been dealt with. -/
def Consumed (t : String) (m : Meta) (Safe Deleted : β → Prop) (s : State β) : Prop :=
  Holding t m Safe Deleted s ∧ (Deleted s.backend ∨ (s.target t).metaFile = .absent)

def Removed (t : String) (Deleted : β → Prop) (s : State β) : Prop :=
  Deleted s.backend ∧ s.target t = { dir := false, layers := [], device := false }

variable {target : Target}

theorem Holding.setTarget {s : State β} (h : Holding t m Safe Deleted s) (hkept : Kept m target)
    (hrecorded : Deleted s.backend ∨ .tmpfs (.whole m) ∈ target.layers) :
    Holding t m Safe Deleted (s.setTarget t target) where
  safe := h.safe
  kept := by rw [State.setTarget_same]; exact hkept
  recorded := by rw [State.setTarget_same]; exact hrecorded

/-- While a volume is mounted the topmost mount is one. -/
theorem Kept.top (h : Kept m target) (hmounted : target.volumeMount ≠ none) :
    ∃ source readonly rest, target.layers = .volume source readonly :: rest := by
  match hlayers : target.layers with
  | [] =>
    refine absurd (volumeMount_eq_none_iff.mpr ?_) hmounted
    rw [hlayers]
    rfl
  | .volume source readonly :: rest => exact ⟨source, readonly, rest, rfl⟩
  | .tmpfs file :: rest =>
    refine absurd (volumeMount_eq_none_iff.mpr ?_) hmounted
    have hstack := h.stack
    rw [hlayers, pairwise_cons] at hstack
    rw [hlayers, all_cons, all_eq_true.mpr fun b hb => hstack.1 b hb rfl]
    rfl

/-- The topmost volume goes. -/
theorem Kept.popVolume (h : Kept m target) {source : String} {readonly : Bool} {rest : List Layer}
    (hlayers : target.layers = .volume source readonly :: rest) :
    Kept m { target with layers := rest } where
  stack := by
    have hstack := h.stack
    rw [hlayers] at hstack
    exact hstack.of_cons
  only := fun m' hm' => h.only m' (by rw [hlayers]; exact mem_cons_of_mem _ hm')
  device := by
    intro hdevice
    obtain ⟨file, hfile⟩ := h.device hdevice
    rw [hlayers] at hfile
    rcases mem_cons.mp hfile with heq | hrest
    · cases heq
    · exact ⟨file, hrest⟩
  dir := by
    intro hdir
    have hnil := h.dir hdir
    rw [hlayers] at hnil
    cases hnil

/-- The topmost tmpfs goes, and with it what is bound in it. -/
theorem Kept.popTmpfs (h : Kept m target) {file : MetaFile} {rest : List Layer}
    (hlayers : target.layers = .tmpfs file :: rest) :
    Kept m { target with layers := rest, device := false } where
  stack := by
    have hstack := h.stack
    rw [hlayers] at hstack
    exact hstack.of_cons
  only := fun m' hm' => h.only m' (by rw [hlayers]; exact mem_cons_of_mem _ hm')
  device := fun hdevice => by cases hdevice
  dir := by
    intro hdir
    have hnil := h.dir hdir
    rw [hlayers] at hnil
    cases hnil

/-- The metadata file goes. -/
theorem Kept.removeFile (h : Kept m target) : Kept m (target.setMeta .absent) := by
  obtain ⟨dir, layers, device⟩ := target
  match layers with
  | [] => exact h
  | .volume _ _ :: _ => exact h
  | .tmpfs file :: rest =>
    have hstack := pairwise_cons.mp h.stack
    refine ⟨pairwise_cons.mpr ⟨hstack.1, hstack.2⟩, fun m' hm' => ?_,
      fun _ => ⟨.absent, mem_cons_self⟩, fun hdir => by cases h.dir hdir⟩
    rcases mem_cons.mp hm' with heq | hrest
    · cases heq
    · exact h.only m' (mem_cons_of_mem _ hrest)

/-! ## The steps -/

theorem err_umount_timedOut {f : Fault} (h : f.err .umount = .umountTimedOut) : f = .timedOut := by
  cases f <;> first | rfl | cases h

/-- An unmount while a volume is mounted takes one volume; one that is going to be forced has not.
-/
theorem meets_umount_mounted {isLazy : Bool} (hcareful : Careful conf env) :
    Meets (holds fun s => Holding t m Safe Deleted s ∧ (s.target t).volumeMount ≠ none)
      (umount env t isLazy) (fun _ => holds (Holding t m Safe Deleted))
      (fun e => holds fun s => Holding t m Safe Deleted s ∧ (e = .umountTimedOut →
        conf.forceLazyUmountOnTimeout = true → (s.target t).volumeMount ≠ none)) := by
  refine meets_command (fun f n _ w hw => ⟨hw.1, fun _ _ => hw.2⟩) (fun f n hfate => ?_)
    (meets_onTarget (fun s a target hs hpop => ?_) fun w e hw hpop => ?_)
  · have hnot (h : f.err .umount = .umountTimedOut)
        (hforce : conf.forceLazyUmountOnTimeout = true) : False :=
      hcareful.umount hforce n (err_umount_timedOut h ▸ hfate)
    exact ⟨fun _ _ hw => ⟨hw, fun h hforce => (hnot h hforce).elim⟩,
      fun _ _ hw => ⟨hw.1, fun h hforce => (hnot h hforce).elim⟩⟩
  · obtain ⟨source, readonly, rest, hlayers⟩ := hs.1.kept.top hs.2
    simp only [Target.umount, hlayers, Except.ok.injEq, Prod.mk.injEq] at hpop
    obtain ⟨-, rfl⟩ := hpop
    refine hs.1.setTarget (hs.1.kept.popVolume hlayers) (hs.1.recorded.imp id fun hfile => ?_)
    rw [hlayers] at hfile
    exact (mem_cons.mp hfile).resolve_left nofun
  · obtain ⟨source, readonly, rest, hlayers⟩ := hw.1.kept.top hw.2
    rw [Target.umount, show (w.target t).layers = _ from hlayers] at hpop
    cases hpop

theorem meets_umountOrForce_mounted (hcareful : Careful conf env) :
    NodeMeets (fun s => Holding t m Safe Deleted s ∧ (s.target t).volumeMount ≠ none)
      (umountOrForce env t conf) (fun _ => Holding t m Safe Deleted)
      (Holding t m Safe Deleted) := by
  refine .tryCatch (.bind (meets_umount_mounted hcareful) fun _ => .ret) fun e => ?_
  split
  next =>
    split
    next hforce =>
      exact .bind ((meets_umount_mounted hcareful).weaken
        (fun _ hw => ⟨hw.1, hw.2 rfl hforce⟩) (fun _ _ hw => hw) (fun _ _ hw => hw.1))
        fun _ => .ret
    next => exact .throw fun _ hw => hw.1
  next => exact .throw fun _ hw => hw.1

/-- The unmount loop of the NFS node. -/
theorem meets_unmountLoop (hcareful : Careful conf env) : ∀ n : Nat,
    Keeps (holds (Holding t m Safe Deleted)) (unmountLoop env t conf n)
  | 0 => .err
  | n + 1 => by
    refine .bind (meets_read _) fun found => ?_
    cases found with
    | none => exact .pure fun _ hw => hw.1
    | some mount =>
      exact .bind ((meets_umountOrForce_mounted hcareful).pre (fun w hw => ⟨hw.1, hw.2 ▸ nofun⟩))
        fun _ => meets_unmountLoop hcareful n

/-- The one unmount of the block node. -/
theorem meets_releaseVolume (hcareful : Careful conf env) :
    Keeps (holds (Holding t m Safe Deleted)) (releaseVolume env t conf) := by
  refine .bind (meets_read _) fun found => ?_
  cases found with
  | none => exact .pure fun _ hw => hw.1
  | some mount =>
    exact (meets_umountOrForce_mounted hcareful).pre (fun w hw => ⟨hw.1, hw.2 ▸ nofun⟩)

section CleanUp

variable {cleanUp : Meta → EStateM Vms.Err β Unit}

/-- The backend volume is deleted, or the attempt ends with the file in place. -/
theorem meets_processMeta (hm : m.deletesBackend = true)
    (hclean : Meets Safe (cleanUp m) (fun _ b => Safe b ∧ Deleted b) (fun _ => Safe)) :
    NodeMeets (fun s => Holding t m Safe Deleted s ∧ .tmpfs (.whole m) ∈ (s.target t).layers)
      (processMeta env cleanUp m)
      (fun _ s => Holding t m Safe Deleted s ∧ Deleted s.backend)
      (Holding t m Safe Deleted) := by
  unfold processMeta
  rw [if_pos hm]
  have hopen : Keeps (holds fun s : State β => Holding t m Safe Deleted s ∧
      .tmpfs (.whole m) ∈ (s.target t).layers) (command env .openMetaSession (pure ())) :=
    keeps_command .ret
  refine .bind (hopen.raiseLeft) fun _ w hw => ?_
  have hrun := hclean w.backend hw.1.safe
  unfold onBackend
  cases hresult : cleanUp m w.backend with
  | ok _ b =>
    rw [hresult] at hrun
    exact ⟨⟨hrun.1, hw.1.kept, .inl hrun.2⟩, hrun.2⟩
  | error e b =>
    rw [hresult] at hrun
    exact ⟨hrun, hw.1.kept, .inr hw.2⟩

theorem meets_readAndProcessMetaFile (hm : m.deletesBackend = true)
    (hclean : Meets Safe (cleanUp m) (fun _ b => Safe b ∧ Deleted b) (fun _ => Safe)) :
    NodeMeets (Holding t m Safe Deleted) (readAndProcessMetaFile env t cleanUp)
      (fun _ s => Holding t m Safe Deleted s ∧ Deleted s.backend)
      (Holding t m Safe Deleted) := by
  refine .bind (meets_read Target.metaFile) fun file => ?_
  cases file with
  | absent => exact .throw fun _ hw => hw.1
  | torn => exact .throw fun _ hw => hw.1
  | whole m' =>
    refine .assuming (p := m' = m) (fun w hw => hw.1.kept.only m' (mem_of_metaFile hw.2.symm)) ?_
    rintro rfl
    exact .bind ((meets_processMeta hm hclean).pre (fun _ hw => ⟨hw.1, mem_of_metaFile hw.2.symm⟩))
      fun _ => .ret

/-- The file is removed only after the backend volume. -/
theorem meets_removeMeta : Keeps (holds fun s => Holding t m Safe Deleted s ∧ Deleted s.backend)
      (command env .removeMeta (changeTarget t (·.setMeta .absent))) :=
  keeps_command (meets_changeTarget fun _ hs =>
    ⟨hs.1.setTarget hs.1.kept.removeFile (.inl hs.2), hs.2⟩)

/-- Whether there is a metadata file, asked honestly. -/
theorem meets_metaExists (hcareful : Careful conf env) : Meets (holds (Holding t m Safe Deleted))
      (probe env .metaExists (readTarget t fun target => target.metaFile != .absent))
      (fun b w => holds (Holding t m Safe Deleted) w ∧ b = ((w.target t).metaFile != .absent))
      (fun _ => holds (Holding t m Safe Deleted)) := by
  refine meets_probe_honest (fun f hf text => ?_) hcareful.file _
  cases f with
  | failed => exact absurd rfl hf
  | timedOut => exact nofun
  | crash => exact nofun

theorem meets_consumeMeta (hcareful : Careful conf env) (hm : m.deletesBackend = true)
    (hclean : Meets Safe (cleanUp m) (fun _ b => Safe b ∧ Deleted b) (fun _ => Safe)) :
    NodeMeets (Holding t m Safe Deleted) (consumeMeta env t cleanUp)
      (fun _ => Consumed t m Safe Deleted) (Holding t m Safe Deleted) := by
  refine .bind (meets_metaExists hcareful) fun found => ?_
  cases found with
  | false => exact .pure fun w hw => ⟨hw.1, .inr (by simpa using hw.2.symm)⟩
  | true =>
    refine .bind ((meets_readAndProcessMetaFile hm hclean).preLeft) fun m' => ?_
    exact .bind (meets_removeMeta.raiseLeft)
      fun _ => .pure fun _ hw => ⟨hw.1, .inl hw.2⟩

/-- The device goes while the backend volume stays deleted. -/
theorem keeps_nodeUnstage :
    Keeps (holds fun s : State β => Holding t m Safe Deleted s ∧ Deleted s.backend)
      (nodeUnstage env t conf) := by
  have humount : Keeps (holds fun s : State β => Holding t m Safe Deleted s ∧ Deleted s.backend)
      (command env .umountDevice (onTarget t Target.umountDevice)) := by
    refine keeps_command (meets_onTarget (fun s a target hs hpop => ?_) fun _ _ _ h => nomatch h)
    cases hpop
    refine ⟨hs.1.setTarget ?_ (.inl hs.2), hs.2⟩
    exact ⟨hs.1.kept.stack, hs.1.kept.only, nofun, hs.1.kept.dir⟩
  have hforce : Keeps (holds fun s : State β => Holding t m Safe Deleted s ∧ Deleted s.backend)
      (orForce conf (deviceBindPath t) fun _ =>
        command env .umountDevice (onTarget t Target.umountDevice)) := by
    refine .tryCatch (.bind humount fun _ => .ret) fun e => ?_
    split
    next =>
      split
      next => exact .bind humount fun _ => .ret
      next => exact .err
    next => exact .err
  refine .bind (.bind (keeps_command keeps_readTarget) fun bound => ?_) fun _ =>
    .bind (.tryCatch (keeps_command .ret) fun e => ?_)
      fun _ => .bind (keeps_command keeps_readTarget) fun bound => ?_
  · cases bound with
    | true => exact hforce
    | false => exact .ret
  · split
    next => exact .ret
    next => exact .err
  · cases bound with
    | true => exact .err
    | false => exact keeps_command .ret

theorem meets_consumeBlockMeta (hcareful : Careful conf env) (hm : m.deletesBackend = true)
    (hclean : Meets Safe (cleanUp m) (fun _ b => Safe b ∧ Deleted b) (fun _ => Safe)) :
    NodeMeets (Holding t m Safe Deleted) (consumeBlockMeta env t conf cleanUp)
      (fun _ => Consumed t m Safe Deleted) (Holding t m Safe Deleted) := by
  refine .bind (meets_metaExists hcareful) fun found => ?_
  cases found with
  | false => exact .pure fun w hw => ⟨hw.1, .inr (by simpa using hw.2.symm)⟩
  | true =>
    refine .bind ((meets_readAndProcessMetaFile hm hclean).preLeft) fun m' => ?_
    have hunstage : Keeps (holds fun s : State β => Holding t m Safe Deleted s ∧
        Deleted s.backend) (unstageEphemeral env t conf m') := by
      unfold unstageEphemeral
      split
      next => exact keeps_nodeUnstage
      next => exact .ret
    refine .bind (hunstage.raiseLeft) fun _ => ?_
    exact meets_removeMeta.weaken (fun _ hw => hw) (fun _ _ hw => ⟨hw.1, .inl hw.2⟩)
      (fun _ _ hw => hw.1)

end CleanUp

/-- The tmpfs that is unmounted has no file left, or the backend volume is deleted. -/
theorem meets_umountTmpfs_consumed : NodeMeets (Consumed t m Safe Deleted) (umountTmpfs env t)
      (fun _ => Holding t m Safe Deleted) (Holding t m Safe Deleted) := by
  refine meets_command (fun _ _ _ _ hw => hw.1) (fun _ _ _ => ⟨fun _ _ hw => hw, fun _ _ hw => hw⟩)
    (meets_onTarget (fun s a target hs hpop => ?_) fun _ _ hw _ => hw.1)
  obtain ⟨hholding, hconsumed⟩ := hs
  unfold Target.umountTmpfs at hpop
  match hlayers : (s.target t).layers with
  | [] =>
    simp only [hlayers] at hpop
    cases hpop
    exact hholding.setTarget hholding.kept hholding.recorded
  | .volume _ _ :: _ =>
    simp only [hlayers] at hpop
    cases hpop
    exact hholding.setTarget hholding.kept hholding.recorded
  | .tmpfs file :: rest =>
    simp only [hlayers, Target.umount] at hpop
    split at hpop
    next => cases hpop
    next =>
      cases hpop
      refine hholding.setTarget (hholding.kept.popTmpfs hlayers) ?_
      rcases hconsumed with hdeleted | habsent
      · exact .inl hdeleted
      · refine hholding.recorded.imp id fun hfile => ?_
        rw [hlayers] at hfile
        rcases mem_cons.mp hfile with heq | hrest
        · rw [Target.metaFile, hlayers] at habsent
          cases heq
          cases habsent
        · exact hrest

/-- Without mounts the backend volume is deleted. -/
theorem Holding.removed {s : State β} (h : Holding t m Safe Deleted s)
    (hlayers : (s.target t).layers = []) :
    Deleted s.backend ∧ (s.target t).device = false := by
  refine ⟨h.recorded.resolve_right (by rw [hlayers]; exact not_mem_nil), ?_⟩
  cases hdevice : (s.target t).device with
  | false => rfl
  | true =>
    obtain ⟨file, hfile⟩ := h.kept.device hdevice
    rw [hlayers] at hfile
    cases hfile

/-- A path that is removed, with nothing mounted. -/
theorem target_eq_removed (hdir : target.dir = false) (hlayers : target.layers = [])
    (hdevice : target.device = false) :
    target = { dir := false, layers := [], device := false } := by
  obtain ⟨dir, layers, device⟩ := target
  subst hdir hlayers hdevice
  rfl

/-- The NFS node removes the directory. -/
theorem meets_rmdir :
    NodeMeets (Holding t m Safe Deleted) (command env .rmdir (onTarget t Target.rmdir))
      (fun _ s => Holding t m Safe Deleted s ∧ Removed t Deleted s)
      (Holding t m Safe Deleted) := by
  refine meets_command (fun _ _ _ _ hw => hw) (fun _ _ _ => ⟨fun _ _ hw => hw.1, fun _ _ hw => hw⟩)
    (meets_onTarget (fun s a target hs hrm => ?_) fun _ _ hw _ => hw)
  unfold Target.rmdir at hrm
  split at hrm
  next => cases hrm
  next =>
    split at hrm
    next => cases hrm
    next hlayers =>
      cases hrm
      have hnil : (s.target t).layers = [] := by simpa using hlayers
      obtain ⟨hdeleted, hdevice⟩ := hs.removed hnil
      refine ⟨hs.setTarget ⟨hs.kept.stack, hs.kept.only, hs.kept.device, fun _ => hnil⟩
        (.inl hdeleted), hdeleted, ?_⟩
      rw [State.setTarget_same]
      exact target_eq_removed rfl hnil hdevice

/-- The block node removes the path when the mount table has nothing at it. -/
theorem meets_removeTargetPath : NodeMeets (Holding t m Safe Deleted) (removeTargetPath env t)
      (fun _ s => Holding t m Safe Deleted s ∧ Removed t Deleted s)
      (Holding t m Safe Deleted) := by
  refine .bind (meets_read _) fun mounted => ?_
  cases mounted with
  | true => exact .throw fun _ hw => hw.1
  | false =>
    have hremove : NodeMeets (fun s : State β => Holding t m Safe Deleted s ∧
        (s.target t).layers = []) (command env .removePath (onTarget t Target.delete))
        (fun _ s => Holding t m Safe Deleted s ∧ Removed t Deleted s)
        (Holding t m Safe Deleted) := by
      refine meets_command (fun _ _ _ _ hw => hw.1)
        (fun _ _ _ => ⟨fun _ _ hw => hw.1, fun _ _ hw => hw⟩)
        (meets_onTarget (fun s a target hs hrm => ?_) fun _ _ hw _ => hw.1)
      obtain ⟨hholding, hnil⟩ := hs
      obtain ⟨hdeleted, hdevice⟩ := hholding.removed hnil
      unfold Target.delete at hrm
      split at hrm
      next => cases hrm
      next =>
        cases hrm
        refine ⟨hholding.setTarget ⟨hholding.kept.stack, hholding.kept.only, hholding.kept.device,
          fun _ => hnil⟩ (.inl hdeleted), hdeleted, ?_⟩
        rw [State.setTarget_same]
        exact target_eq_removed rfl hnil hdevice
    exact hremove.pre (fun w hw => ⟨hw.1, by simpa using hw.2.symm⟩)

section Handlers

variable {cleanUp : Meta → EStateM Vms.Err β Unit}

theorem meets_nodeUnpublish (hcareful : Careful conf env) (hm : m.deletesBackend = true)
    (hclean : Meets Safe (cleanUp m) (fun _ b => Safe b ∧ Deleted b) (fun _ => Safe))
    (volumeId : String) :
    NodeMeets (Holding t m Safe Deleted) (nodeUnpublish env t conf cleanUp volumeId)
      (fun _ s => Holding t m Safe Deleted s ∧ Removed t Deleted s)
      (Holding t m Safe Deleted) := by
  refine .bind (meets_probe_honest (fun f hf text => ?_) hcareful.path _) fun found => ?_
  · cases f with
    | failed => exact absurd rfl hf
    | timedOut => exact nofun
    | crash => exact nofun
  · cases found with
    | false =>
      refine .pure fun w hw => ⟨hw.1, ?_⟩
      have hnil := hw.1.kept.dir hw.2.symm
      obtain ⟨hdeleted, hdevice⟩ := hw.1.removed hnil
      exact ⟨hdeleted, target_eq_removed hw.2.symm hnil hdevice⟩
    | true =>
      refine .bind ((meets_unmountLoop hcareful _).preLeft) fun _ => ?_
      refine .bind (meets_consumeMeta hcareful hm hclean) fun hasMtls => ?_
      refine .bind meets_umountTmpfs_consumed fun _ => ?_
      refine .bind (Q := fun _ => holds (Holding t m Safe Deleted)) ?_ fun _ => meets_rmdir
      unfold deleteCredentials
      split
      next => exact keeps_deleteMtlsCredentials (fun _ _ h => ⟨h.safe, h.kept, h.recorded⟩) _
      next => exact .ret

theorem meets_blockNodeUnpublish (hcareful : Careful conf env) (hm : m.deletesBackend = true)
    (hclean : Meets Safe (cleanUp m) (fun _ b => Safe b ∧ Deleted b) (fun _ => Safe)) :
    NodeMeets (Holding t m Safe Deleted) (blockNodeUnpublish env t conf cleanUp)
      (fun _ s => Holding t m Safe Deleted s ∧ Removed t Deleted s)
      (Holding t m Safe Deleted) :=
  .bind (meets_releaseVolume hcareful) fun _ =>
    .bind (meets_consumeBlockMeta hcareful hm hclean) fun _ =>
      .bind meets_umountTmpfs_consumed fun _ => meets_removeTargetPath

end Handlers

end Invariant

/-- **One attempt**, from whatever earlier ones left. -/
theorem meets_unpublish {backend : Backend} {conf : Conf} {t volumeId : String} {m : Meta}
    {c₀ : Vms.Cluster} {a : Attempt} (hm : m.deletesBackend = true) (hid : m.volumeId = volumeId)
    (honly : backend.Only volumeId c₀) (hcareful : Careful conf a.env) :
    NodeMeets (Holding t m (Vms.onVms (backend.Kept volumeId c₀ ·)) (Vms.onVms (backend.Deleted ·)))
      (unpublish backend conf t volumeId a)
      (fun _ s => Holding t m (Vms.onVms (backend.Kept volumeId c₀ ·))
        (Vms.onVms (backend.Deleted ·)) s ∧ Removed t (Vms.onVms (backend.Deleted ·)) s)
      (Holding t m (Vms.onVms (backend.Kept volumeId c₀ ·)) (Vms.onVms (backend.Deleted ·))) := by
  subst hid
  cases backend with
  | nfs _ _ => exact meets_nodeUnpublish hcareful hm (meets_cleanUpVolume honly) m.volumeId
  | block _ _ _ => exact meets_blockNodeUnpublish hcareful hm (meets_cleanUpVolume honly)

/-- **Unpublishing an ephemeral volume** until it succeeds: the backend volume and its
mappings are deleted, nothing is mounted at the path and the path is removed. -/
theorem unpublish_removes_ephemeral (backend : Backend) (conf : Conf) (t volumeId : String)
    (m : Meta) (hm : m.deletesBackend = true) (hid : m.volumeId = volumeId)
    (w₀ : World Vms.World) (hpublished : Published m (w₀.target t))
    (honly : backend.Only volumeId w₀.backend.vms) (attempts : List Attempt) (last : Attempt)
    (hcareful : ∀ a ∈ last :: attempts, Careful conf a.env) (w : World Vms.World)
    (hrun : unpublish backend conf t volumeId last
      (unpublishAttempts backend conf t volumeId w₀ attempts) = .ok () w) :
    backend.Deleted w.backend.vms ∧
      w.target t = { dir := false, layers := [], device := false } := by
  have hstart : holds (Holding t m (Vms.onVms (backend.Kept volumeId w₀.backend.vms ·))
      (Vms.onVms (backend.Deleted ·))) w₀ :=
    { safe := Backend.kept_of_only honly
      kept :=
        { stack := hpublished.stack
          only := hpublished.only
          device := fun _ => ⟨_, hpublished.file⟩
          dir := fun hdir => by rw [hpublished.dir] at hdir; cases hdir }
      recorded := .inr hpublished.file }
  have hbefore := afterAttempts_invariant (fun w => w) (unpublish backend conf t volumeId)
    (fun _ hw => hw) (fun a ha => (meets_unpublish hm hid honly
      (hcareful a (mem_cons_of_mem _ ha))).post fun _ _ hw => hw.1) hstart
  exact ((meets_unpublish hm hid honly (hcareful last mem_cons_self)).ok hbefore hrun).2

/-! ## A stale handle, and a run with crashes -/

def inlineMeta : Meta := { volumeId := "csi-1", isEphemeral := true }

def inlinePublished (device : Bool) (c : Vms.Cluster) : World Vms.World where
  target := fun u =>
    if u = "/pods/1" then
      { dir := true
        layers := [.volume "10.0.0.1:/k8s/csi-1" false, .tmpfs (.whole inlineMeta)]
        device := device }
    else {}
  keyring := []
  backend := { vms := c }

/-- The file system of a stale handle cannot be asked whether the path exists. -/
def staleHandle : Env where
  fate := fun c _ => if c = .pathExists then .failed .failed else .answered

def inlineQuota : Vms.Quota := { id := 1, path := "/k8s/csi-1", tenantId := "1" }

/-- The stale handle makes the unpublish succeed with everything in place. -/
theorem unpublish_stale_handle :
    let c := (Vms.Cluster.fresh ⟨5, 0, 0⟩).insert .quota inlineQuota
    let run := unpublish (.nfs localDeletion inlineQuota) {} "/pods/1" "csi-1"
      ⟨staleHandle, .steady⟩ (inlinePublished false c)
    isOk run = true ∧ ((endState run).backend.vms.table .quota).rows = [inlineQuota] ∧
      (endState run).target "/pods/1" = (inlinePublished false c).target "/pods/1" := by
  decide +kernel

def inlineBlockCluster : Vms.Cluster :=
  let c := Vms.Cluster.fresh ⟨5, 4, 0⟩
  let c := c.insert .volume { id := 1, name := "csi-1", tenantName := "default" }
  let c := c.insert .host
    { id := 1, name := "csi-n1", tenantName := "default", nqn := "nqn.csi:n1" }
  c.insert .mapping { id := 1, volumeId := 1, hostId := 1 }

def diesBeforeRemoval : Env where
  fate := fun c _ => if c = .removeMeta then .failed .crash else .answered

theorem careful_of_const {f : Command → Fate Fault} {conf : Conf}
    (hpath : f .pathExists = .answered) (hfile : f .metaExists = .answered)
    (humount : f .umount = .answered) : Careful conf ⟨fun c _ => f c⟩ where
  path := fun _ => by simp [hpath]
  file := fun _ => by simp [hfile]
  umount := fun _ _ => by simp [humount]

/-- The first attempt dies before it removes the metadata file, the second one ends. -/
theorem unpublish_removes_ephemeral_block :
    let v : Vms.Volume := { id := 1, name := "csi-1", tenantName := "default" }
    let backend : Backend := .block pruning "n1" v
    ∃ w, unpublish backend {} "/pods/1" "csi-1" ⟨.steady, .steady⟩
        (unpublishAttempts backend {} "/pods/1" "csi-1" (inlinePublished true inlineBlockCluster)
          [⟨diesBeforeRemoval, .steady⟩]) = .ok () w ∧
      backend.Deleted w.backend.vms ∧
      w.target "/pods/1" = { dir := false, layers := [], device := false } := by
  intro v backend
  have hok : isOk (unpublish backend {} "/pods/1" "csi-1" ⟨.steady, .steady⟩
      (unpublishAttempts backend {} "/pods/1" "csi-1" (inlinePublished true inlineBlockCluster)
        [⟨diesBeforeRemoval, .steady⟩])) = true := by decide +kernel
  obtain ⟨_, w, hw⟩ := exists_ok_of_isOk hok
  have hvolumes : (inlineBlockCluster.table .volume).rows = [v] := by decide +kernel
  have hname : Text.endsWith v.name (normalizeVolumeId "csi-1") = true := by decide +kernel
  have honly : backend.Only "csi-1" inlineBlockCluster := by
    refine ⟨Table.mem_def.mpr (hvolumes ▸ mem_singleton_self v), fun r hr => ?_⟩
    have heq : r = v := mem_singleton.mp (hvolumes ▸ Table.mem_def.mp hr)
    exact ⟨fun _ => heq, fun _ => heq ▸ hname⟩
  have hpublished : Published inlineMeta
      ((inlinePublished true inlineBlockCluster).target "/pods/1") := by
    refine ⟨rfl, by decide +kernel, by decide +kernel, fun m' hm' => ?_⟩
    simpa [inlinePublished] using hm'
  refine ⟨w, hw, unpublish_removes_ephemeral backend {} "/pods/1" "csi-1" inlineMeta
    (by decide +kernel) rfl (inlinePublished true inlineBlockCluster) hpublished honly
    [⟨diesBeforeRemoval, .steady⟩] ⟨.steady, .steady⟩ ?_ w hw⟩
  intro a ha
  rcases mem_cons.mp ha with rfl | ha
  · exact careful_of_const rfl rfl rfl
  · cases mem_singleton.mp ha
    exact careful_of_const rfl rfl rfl

end VastCsi.Csi.Node.Ephemeral
