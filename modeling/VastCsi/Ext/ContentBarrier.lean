import VastCsi.Ext.BarrierInv

/-!
# The cleanup barrier of a constellation

Every action keeps `BarrierInv`, case by case over the controllers, from the effects of the calls.

The steps of an owner and of the ReplicationObject reconciler leave the annotations alone. A content
reconcile (`barrierInv_vrcStep`) sets its own annotation, or releases its finalizer after a look at
all contents of the constellation; what that look has found survives the steps of the others. The
barrier is then read off the invariant where a run ends (`BarrierInv.barrier`).
-/

namespace VastCsi.Ext.ContentLife

open Lib Function Bool Option

section Steps

variable {L : Layout} {s s' : State}

variable {out : Outcome} {k : Key}

theorem barrierInv_parentStep {o : Owner} (h : BarrierInv s) (hs : parentStep L s o out = some s') :
    BarrierInv s' := by
  unfold parentStep at hs
  split at hs
  next =>
    obtain ⟨_, _, rfl⟩ := map_eq_some_iff.mp hs
    exact barrierInv_setPhase h _ _
  next => cases hs; exact barrierInv_setPhase h _ _
  next => cases hs; exact barrierInv_setPhase h _ _
  next =>
    cases out with
    | ok => cases hs; exact barrierInv_setPhase (barrierInv_markGroup h _) _ _
    | failed => cases hs; exact barrierInv_setPhase h _ _
    | lost => cases hs; exact barrierInv_setPhase (barrierInv_markGroup h _) _ _
  next => cases hs; exact barrierInv_setPhase h _ _
  next => cases hs; exact barrierInv_setPhase h _ _
  next => cases hs; exact barrierInv_setPhase h _ _
  next =>
    cases out with
    | ok => cases hs; exact barrierInv_setPhase (barrierInv_setParent h _ _) _ _
    | failed => cases hs; exact barrierInv_setPhase h _ _
    | lost => cases hs; exact barrierInv_setPhase (barrierInv_setParent h _ _) _ _

theorem barrierInv_roStep (h : BarrierInv s) (ho : Orderly L s (.ro k out))
    (hs : roStep s k out = some s') : BarrierInv s' := by
  unfold roStep at hs
  cases hr : s.ro k with
  | idle =>
    simp only [hr] at hs
    split at hs
    next => cases hs; exact barrierInv_setRo h _ _
    next => cases hs; exact h
  | live o =>
    simp only [hr, some.injEq] at hs
    subst hs
    exact barrierInv_setRo h _ _
  | owned o =>
    simp only [hr, some.injEq] at hs
    subst hs
    exact barrierInv_setRo h _ _
  | absent o =>
    simp only [Orderly, hr] at ho
    simp only [hr] at hs
    split at hs
    next hfree =>
      cases hs
      refine barrierInv_setRo (barrierInv_addContent h ?_ rfl ho) _ _
      exact key_ne_of_content hfree.2
    next => cases hs; exact barrierInv_setRo h _ _
  | terminating =>
    simp only [hr] at hs
    split at hs
    next => cases hs; exact barrierInv_setRo (barrierInv_markContent h _) _ _
    next => cases hs; exact barrierInv_setRo h _ _

/-- What the decision on the copy of a content rests on. -/
theorem vrcAt_resolvedStep (h : BarrierInv s) {x : ContentMeta} (hx : VrcAt s k (.resolved x)) :
    VrcAt s k (resolvedStep s k x) := by
  obtain ⟨hk, y, hy, hc⟩ := hx
  unfold resolvedStep
  split
  next hdel =>
    split
    next hd =>
      split
      next hp =>
        refine ⟨y, hy, hc.key.trans hk, hc.deleting hdel, h.allDone hy (hc.done.trans hd) ?_⟩
        unfold State.peersDone at hp ⊢
        rw [hc.constellation, hc.key]
        exact hp
      next => trivial
    next hd =>
      split
      next hg =>
        exact ⟨hg, y, hy, hc.key.trans hk, hc.deleting hdel,
          hc.done.trans (eq_false_of_not_eq_true hd)⟩
      next => trivial
  next =>
    split
    next => trivial
    next => trivial

/-- The reconcile lets go of the content before it writes; the order of the two
is of no account to the state. -/
theorem annotate_setVrc (s : State) (k : Key) (v : Vrc) :
    (s.annotate k).setVrc k v = ((s.setVrc k .idle).annotate k).setVrc k v := by
  simp only [State.annotate, State.setVrc, update_idem]

theorem release_setVrc (s : State) (k : Key) (v : Vrc) :
    (s.release k).setVrc k v = ((s.setVrc k .idle).release k).setVrc k v := by
  simp only [State.release, State.setVrc, update_idem]

theorem setVrc_self {v : Vrc} : (s.setVrc k v).vrc k = v := update_self ..

theorem barrierInv_vrcStep (h : BarrierInv s) (hs : vrcStep s k out = some s') : BarrierInv s' := by
  unfold vrcStep at hs
  have hat := h.vrc k
  have hidle := barrierInv_setVrc_idle h k
  cases hv : s.vrc k with
  | idle =>
    simp only [hv] at hs
    split at hs
    next x hx =>
      cases hs
      obtain ⟨hmem, hk⟩ := mem_of_content hx
      exact barrierInv_setVrc h ⟨hk, x, hmem, Copy.refl x⟩
    next => cases hs; exact h
  | read x =>
    rw [hv] at hat
    simp only [hv, some.injEq] at hs
    subst hs
    split
    next => exact barrierInv_setVrc h hat
    next => exact hidle
  | resolved x =>
    rw [hv] at hat
    simp only [hv, some.injEq] at hs
    subst hs
    split
    next => exact barrierInv_setVrc h (vrcAt_resolvedStep h hat)
    next => exact hidle
  | cleaning =>
    rw [hv] at hat
    obtain ⟨_, y, hy, hk, hdel, _⟩ := hat
    simp only [hv, some.injEq] at hs
    subst hs
    split
    next => exact barrierInv_setVrc h ⟨y, hy, hk, hdel⟩
    next => exact hidle
  | cleaned =>
    rw [hv] at hat
    obtain ⟨y, hy, hk, hdel⟩ := hat
    have hann := barrierInv_annotate hidle setVrc_self
    simp only [hv] at hs
    cases out with
    | ok =>
      cases hs
      rw [annotate_setVrc]
      refine barrierInv_setVrc hann ⟨{ y with cleanupDone := true }, ?_, hk, hdel, rfl⟩
      exact List.mem_map.mpr ⟨y, hy, if_pos hk⟩
    | failed => cases hs; exact hidle
    | lost =>
      cases hs
      rw [annotate_setVrc]
      exact barrierInv_setVrc_idle hann k
  | peers =>
    rw [hv] at hat
    obtain ⟨y, hy, hk, hdel, hd⟩ := hat
    simp only [hv] at hs
    split at hs
    next x hx =>
      cases hs
      obtain ⟨hxmem, hxk⟩ := mem_of_content hx
      obtain rfl : x = y := h.unique hxmem hy (hxk.trans hk.symm)
      split
      next hp => exact barrierInv_setVrc h ⟨x, hy, hk, hdel, h.allDone hy hd hp.2⟩
      next => exact hidle
    next => cases hs; exact hidle
  | allDone =>
    rw [hv] at hat
    obtain ⟨y, hy, hk, hdel, hall⟩ := hat
    simp only [hv] at hs
    split at hs
    next =>
      cases hs
      rw [release_setVrc]
      refine barrierInv_setVrc_idle (barrierInv_release hidle setVrc_self ?_) k
      intro x hx hxk
      obtain rfl : x = y := h.unique hx hy (hxk.trans hk.symm)
      exact ⟨h.started x hx hdel, hall⟩
    next => cases hs; exact hidle
  | selfDestruct =>
    simp only [hv] at hs
    split at hs
    next => cases hs; exact barrierInv_setVrc_idle (barrierInv_markContent h k) k
    next => cases hs; exact hidle

/-- One action keeps the invariant. -/
theorem barrierInv_step {a : Act} (h : BarrierInv s) (ho : Orderly L s a)
    (hs : step L s a = some s') : BarrierInv s' := by
  cases a with
  | createParent o =>
    simp only [step] at hs
    split at hs
    next => cases hs; exact barrierInv_setParent h _ _
    next => cases hs
  | deleteParent o =>
    obtain ⟨_, _, rfl⟩ := map_eq_some_iff.mp hs
    exact barrierInv_setParent h _ _
  | parent o out => exact barrierInv_parentStep h hs
  | makeGroup o scName out =>
    simp only [step, makeGroupStep] at hs
    split at hs
    swap
    · cases hs
    split at hs
    swap
    · cases hs
      exact h
    cases hs
    refine barrierInv_setGroup h fun y hy hk hdel _ => ?_
    rw [ho y hy hk] at hdel
    exact absurd hdel false_ne_true
  | deleteGroup k =>
    cases hs
    exact barrierInv_markGroup h k
  | dropGroup k =>
    simp only [step] at hs
    split at hs
    next => cases hs; exact barrierInv_setGroup h fun _ _ _ _ _ => rfl
    next => cases hs
  | deleteContent k =>
    cases hs
    exact barrierInv_markContent h k
  | ro k out => exact barrierInv_roStep h ho hs
  | vrc k out => exact barrierInv_vrcStep h hs

/-- The barrier, read off the invariant. -/
theorem BarrierInv.barrier (h : BarrierInv s) : Barrier s where
  gone := by
    intro k hk
    have hat := h.vrc k
    rw [hk] at hat
    exact hat.1
  allDone := by
    intro k hk
    have hat := h.vrc k
    rw [hk] at hat
    obtain ⟨y, hy, hyk, _, hall⟩ := hat
    exact ⟨y, h.content_eq hy hyk, hall y hy rfl, hall⟩
  closed := by
    intro k hk
    have hat := h.vrc k
    rw [hk] at hat
    obtain ⟨_, y, hy, hyk, _, hd⟩ := hat
    refine ⟨y, h.content_eq hy hyk, fun hC => ?_⟩
    -- the one that cleans up is not done, and in a released constellation all are
    rw [(h.released _ hC).2 y hy rfl] at hd
    exact absurd hd.symm false_ne_true

end Steps

/-- **The cleanup barrier holds**: if no content joins a constellation under deletion and no group
comes back for a content under deletion, then `CleanVolumes` runs only with the group gone, a
finalizer is removed only when the whole constellation is done, and after that nobody in it runs
`CleanVolumes`. -/
theorem barrier_of_orderly_run {L : Layout} {parents : Owner → Option Bool} {acts : List Act}
    {s : State} (hok : RunMeets (step L) (Orderly L) (init parents) acts)
    (hrun : runFrom (step L) (init parents) acts = some s) : Barrier s :=
  (runFrom_invariant (I := BarrierInv) (fun _ _ _ hi ho hs => barrierInv_step hi ho hs) acts
    (barrierInv_init parents) hok hrun).barrier

def twoClasses : Layout where
  pvcNamespace := fun _ => "data"
  classes := fun _ => ["a", "b"]

/-- Two contents are made and deleted with their owner. The cleanup of the first fails once; the
second loses the answer to its annotation, and is the first to drop its finalizer. -/
def pairLeaves : List Act :=
  let o : Owner := { kind := .vscr, namespaceName := "ops", name := "v" }
  let a : Key := ("data", "v-a")
  let b : Key := ("data", "v-b")
  [.createParent o, .parent o .ok, .makeGroup o "a" .ok, .makeGroup o "b" .lost, .parent o .ok,
   .ro a .ok, .ro b .ok, .ro a .ok, .ro b .ok, .ro a .ok, .ro b .ok, .ro a .ok, .ro b .ok,
   .deleteParent o, .parent o .ok, .parent o .ok, .parent o .ok,
   .ro a .ok, .ro a .ok, .ro b .ok, .ro b .ok, .dropGroup a, .dropGroup b,
   .vrc a .ok, .vrc b .ok, .vrc a .ok, .vrc b .ok, .vrc a .ok, .vrc b .ok,
   .vrc a .failed, .vrc b .ok, .vrc b .lost,
   .vrc a .ok, .vrc a .ok, .vrc a .ok, .vrc a .ok, .vrc a .ok, .vrc a .ok,
   .vrc b .ok, .vrc b .ok, .vrc b .ok, .vrc b .ok]

/-- The barrier in the run: a finalizer has been removed, and the other content is about to lose its
own. -/
theorem barrier_of_orderly_run_pair :
    ∃ s, runFrom (step twoClasses) (init fun _ => none) pairLeaves = some s ∧
      (s.contents.length, s.released.length, s.vrc ("data", "v-a")) = (1, 1, .allDone) ∧
      Barrier s := by
  obtain ⟨s, hrun, hend⟩ := map_eq_some_iff.mp
    (show (runFrom (step twoClasses) (init fun _ => none) pairLeaves).map
        (fun s => (s.contents.length, s.released.length, s.vrc ("data", "v-a"))) =
          some (1, 1, .allDone) by decide +kernel)
  exact ⟨s, hrun, hend, barrier_of_orderly_run (by decide +kernel) hrun⟩

end VastCsi.Ext.ContentLife
