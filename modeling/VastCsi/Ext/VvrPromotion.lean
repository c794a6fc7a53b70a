import VastCsi.Lib.Trace
import VastCsi.Ext.VvrDrive

/-!
# When a switched primary is promoted

After a change of `spec.primaryStorageClass` the VolumeReplication of the new primary is to be
asked to be primary; the reconciles may fail at any call and are retried. A reconcile also returns
without error when it stops early: the object is gone or being deleted, a resync was requested, or
peers had to be resolved.

`ensurePrimaryStorageClass` records the switch in the status before the work is done, and the edge
it returns is lost when that reconcile fails later. Its only reader is the guard that leaves a
VolumeReplication in Resync alone.
-/

namespace VastCsi.Ext.Vvr

open Lib CsiAddons Function Option

section Through

variable {env : Env} {v : VastVolumeReplication} {o : Objects} {c : String}

variable {m : VastVolumeReplication} {changed : Bool}

theorem SameSpec.vrNameForSC_eq (h : SameSpec m v) (scName : String) :
    m.vrNameForSC scName = v.vrNameForSC scName := by
  rw [VastVolumeReplication.vrNameForSC, h.1]
  rfl

theorem SameSpec.primaryVR_eq (h : SameSpec m v) : m.primaryVR = v.primaryVR := by
  rw [VastVolumeReplication.primaryVR, h.vrNameForSC_eq, h.2.1]
  rfl

/-- Until the switch is recorded, the copy still has the class the status
names. -/
def Unrecorded (v : VastVolumeReplication) (o : Objects) (w : World Own) : Prop :=
  OnTheWay v o w ∧ w.own.mem.status.currentPrimaryStorageClass = v.status.currentPrimaryStorageClass

theorem finalizerFree_unrecorded : FinalizerFree (Unrecorded v o) where
  tick := fun _ hw => hw
  mem := fun _ _ hw => hw
  add := fun _ _ _ hw => hw
  remove := fun _ _ _ hw => hw

/-- A switch is seen exactly when the status does not name the primary. -/
theorem meets_ensurePrimaryStorageClass : Yields (Unrecorded v o) ensurePrimaryStorageClass
      (fun changed w => OnTheWay v o w ∧
        (v.status.currentPrimaryStorageClass ≠ v.primaryStorageClass → changed = true)) := by
  refine .bind meets_getMem fun m => ?_
  split
  next heq =>
    refine .pure fun w hw => ⟨hw.1.1, fun hne => absurd ?_ hne⟩
    rw [beq_iff_eq, hw.2, hw.1.2, hw.1.1.2.1.2.1] at heq
    exact heq
  next =>
    refine .bind (Q := fun _ => OnTheWay v o) (fun w hw => hw.1.1) fun _ => ?_
    exact .pure fun _ hw => ⟨hw, fun _ => rfl⟩

/-- A protected path that is there has been asked for. -/
theorem meets_checkPpath : Yields (OnTheWay v o) (checkPpath env) (fun name w => OnTheWay v o w ∧
        (name ≠ "" → v.primaryStorageClass ∈ v.storageClasses)) := by
  refine .bind meets_getMem fun m => ?_
  split
  next => exact .pure fun _ hw => ⟨hw.1, fun h => absurd rfl h⟩
  next =>
    refine .bind (meets_primaryRest.preLeft) fun _ => ?_
    refine .assuming (p := v.primaryStorageClass ∈ v.storageClasses) (fun _ hw => hw.2)
      fun hmem => ?_
    refine .bind ((keeps_external calm_onTheWay.tick).okOnly.preLeft) fun _ => ?_
    split
    next =>
      refine .bind (keeps_losePpath calm_onTheWay.careful).okOnly fun _ => ?_
      exact .pure fun _ hw => ⟨hw, fun _ => hmem⟩
    next => exact .pure fun _ hw => ⟨hw, fun _ => hmem⟩

theorem meets_ensurePpath : Yields (OnTheWay v o) (ensurePpath env)
      (fun _ w => OnTheWay v o w ∧ v.primaryStorageClass ∈ v.storageClasses) := by
  refine .bind meets_checkPpath fun name => ?_
  split
  next => exact meets_createPpath.preLeft
  next hname =>
    rw [beq_iff_eq] at hname
    exact .pure fun _ hw => ⟨hw.1, hw.2 hname⟩

/-- No resync left in progress without a switch, a VolumeReplication of its own, and no outvoting.
-/
structure Promotable (env : Env) (o : Objects) (m : VastVolumeReplication) (changed : Bool) :
    Prop where
  resync : ∀ r, o m.primaryVR = some r → r.spec = .resync → changed = true
  own : OwnVR m
  vote : NotOutvoted env.role o m

/-- Only name, primary class and topology matter. -/
theorem Promotable.congr (h : Promotable env o v changed) (hspec : SameSpec m v)
    (htopo : m.protectionTopology = v.protectionTopology) : Promotable env o m changed := by
  have hpvr := hspec.primaryVR_eq
  have hvr := hspec.vrNameForSC_eq
  obtain ⟨hname, hprim, _⟩ := hspec
  have hscs : m.storageClasses = v.storageClasses := by
    rw [VastVolumeReplication.storageClasses, htopo]
    rfl
  refine ⟨?_, ?_, ?_⟩
  · rw [hpvr]
    exact h.resync
  · unfold OwnVR
    rw [hscs, hprim, hpvr]
    intro scName hsc hne
    rw [hvr]
    exact h.own scName hsc hne
  · unfold NotOutvoted electedSource
    rw [hscs, hprim, hpvr, hname]
    exact h.vote

/-- The loop and the pass, when they go through. -/
theorem meets_ensureVRs (hp : Promotable env o v changed)
    (hprim : v.primaryStorageClass ∈ v.storageClasses) :
    Yields (OnTheWay v o) (ensureVRs env changed) (fun _ w => Promoted v.primaryVR w.objs) := by
  refine .bind meets_getMem fun m => ?_
  refine .assuming (p := SameSpec m v ∧ m.protectionTopology = v.protectionTopology)
    (fun w hw => by rw [hw.2]; exact hw.1.2) fun hm => ?_
  obtain ⟨hspec, htopo⟩ := hm
  have hpm := hp.congr hspec htopo
  have hprim' : m.primaryStorageClass ∈ m.storageClasses := by
    rw [VastVolumeReplication.storageClasses, htopo, hspec.2.1]
    exact hprim
  rw [← hspec.primaryVR_eq]
  have hbefore : ∀ w : World Own, OnTheWay v o w ∧ m = w.own.mem → Before m o w := by
    rintro w ⟨⟨ho, _⟩, _⟩
    exact ⟨fun _ _ => .inl (by rw [ho]), by rw [ho]⟩
  refine .bind ((meets_collectErrors_nil (meets_loop hpm.own hprim' hpm.resync)).pre hbefore)
    fun errs => ?_
  cases errs with
  | cons e es =>
    refine .bind (Q := fun _ _ => True) ?_ fun _ => .throw fun _ _ => trivial
    exact (Meets.trivial _).pre (fun _ _ => trivial)
  | nil =>
    refine .bind (Q := fun _ w => Promoted m.primaryVR w.objs) ?_ fun syncErr =>
      keeps_raiseDeferred.okOnly
    intro w hw
    have hsync := meets_sync hpm.own hpm.vote w (hw rfl)
    unfold attempt
    cases hrun : syncVRReplicationStates env m w with
    | ok a w' =>
      rw [hrun] at hsync
      exact hsync
    | error e w' =>
      rw [hrun] at hsync
      exact hsync

theorem meets_reconcileVRs (hp : Promotable env o v changed)
    (hpeers : hasUnresolvedPeers v.protectionTopology = false) :
    Yields (OnTheWay v o) (reconcileVRs env changed) (fun _ w => Promoted v.primaryVR w.objs) := by
  refine .bind (keeps_ensurePpathDirs calm_onTheWay.careful).okOnly fun _ => ?_
  refine .bind (keeps_ensureTenants calm_onTheWay.careful).okOnly fun _ => ?_
  refine .bind meets_getMem fun m => ?_
  refine .assuming (p := hasUnresolvedPeers m.protectionTopology = false)
    (fun w hw => by rw [hw.2, hw.1.2.2]; exact hpeers) fun hm => ?_
  rw [hm]
  refine .bind (meets_ensurePpath.preLeft) fun _ => ?_
  refine .assuming (p := v.primaryStorageClass ∈ v.storageClasses) (fun _ hw => hw.2)
    fun hprim => ?_
  exact (meets_ensureVRs hp hprim).preLeft

/-- The reconcile of a live object, from a copy of what is stored. -/
theorem meets_reconcileLive (hres : v.resync = false)
    (hpeers : hasUnresolvedPeers v.protectionTopology = false)
    (hp : ∀ changed, (v.status.currentPrimaryStorageClass ≠ v.primaryStorageClass →
      changed = true) → Promotable env o v changed) :
    Yields (Unrecorded v o) (reconcileLive env) (fun _ w => Promoted v.primaryVR w.objs) := by
  have ht : TickFree (Unrecorded v o) := fun _ hw => hw
  refine .bind (keeps_external ht).okOnly fun _ => ?_
  refine .bind (keeps_external ht).okOnly fun _ => ?_
  refine .bind (keeps_ensureFinalizer finalizerFree_unrecorded).okOnly fun _ => ?_
  refine .bind meets_ensurePrimaryStorageClass fun changed => ?_
  refine .assuming (p := _ → changed = true) (fun _ hw => hw.2) fun hchanged => ?_
  refine .bind ((keeps_backfillLabels calm_onTheWay.tick).okOnly.preLeft) fun _ => ?_
  refine .bind (keeps_recordStatus calm_onTheWay.careful).okOnly fun _ => ?_
  refine .bind meets_getMem fun m => ?_
  refine .assuming (p := m.resync = false)
    (fun w hw => by rw [hw.2, hw.1.2.1.2.2.2]; exact hres) fun hm => ?_
  rw [hm]
  exact (meets_reconcileVRs (hp changed hchanged) hpeers).preLeft

/-- A reconcile that returns without error promotes the primary. -/
theorem reconcile_promotes {w w' : World Own} (hv : w.own.stored = some v)
    (hdel : v.deleting = false) (hres : v.resync = false)
    (hpeers : hasUnresolvedPeers v.protectionTopology = false)
    (hp : ∀ changed, (v.status.currentPrimaryStorageClass ≠ v.primaryStorageClass →
      changed = true) → Promotable env w.objs v changed)
    (hok : reconcile env w = .ok () w') : Promoted v.primaryVR w'.objs := by
  have hfetch : Yields (fun s : World Own => s.objs = w.objs ∧ s.own.stored = some v) (fetch env)
      (fun b s => b = true ∧ Unrecorded v w.objs s ∧ s.own.mem.deleting = false) := by
    refine meets_api (fun _ hs => hs) (fun _ _ => trivial) (fun _ _ _ => trivial) fun s hs => ?_
    dsimp only
    rw [hs.2]
    exact ⟨rfl, ⟨⟨hs.1, ⟨rfl, rfl, rfl, rfl⟩, rfl⟩, rfl⟩, hdel⟩
  have hbody : Yields
      (fun s : World Own => true = true ∧ Unrecorded v w.objs s ∧ s.own.mem.deleting = false)
      (do if (← getMem).deleting then handleDeletion env else reconcileLive env)
      (fun _ s => Promoted v.primaryVR s.objs) := by
    refine .bind meets_getMem fun m => ?_
    refine .assuming (p := m.deleting = false) (fun s hs => by rw [hs.2]; exact hs.1.2.2)
      fun hm => ?_
    rw [hm]
    exact (meets_reconcileLive hres hpeers hp).pre (fun _ hs => hs.1.2.1)
  have hrec : Yields (fun s : World Own => s.objs = w.objs ∧ s.own.stored = some v)
      (reconcile env) (fun _ s => Promoted v.primaryVR s.objs) := by
    refine .bind hfetch fun b => ?_
    refine .assuming (p := b = true) (fun _ hs => hs.1) fun hb => ?_
    subst hb
    refine .deferring hbody (fun _ => keeps_reconcileSyncStatus calm_objs.careful) fun _ => ?_
    exact .trivial _
  exact hrec.ok ⟨rfl, hv⟩ hok

end Through

/-- A step after the switch: a reconcile, or a report of csi-addons into the
status of a VolumeReplication. -/
inductive Act where
  | reconcile (env : Env)
  | report (vrName : String) (state : ObservedState)

def reported (o : Objects) (vrName : String) (state : ObservedState) : Objects :=
  update o vrName ((o vrName).map fun r => { r with status := state })

def step (w : World Own) : Act → Option (World Own)
  | .reconcile env => some (endState (reconcile env w))
  | .report vrName state => some { w with objs := reported w.objs vrName state }

def NotResync (vrName : String) (o : Objects) : Prop := ∀ r, o vrName = some r → r.spec ≠ .resync

theorem driven_notResync (vrName : String) : Driven (NotResync vrName) where
  create := by
    intro o name state hstate h _ r hr
    by_cases hn : vrName = name
    · subst hn
      rw [update_self, some.injEq] at hr
      subst hr
      exact hstate
    · rw [update_of_ne hn] at hr
      exact h r hr
  patch := by
    intro o name state hstate h r hr
    unfold setSpec at hr
    by_cases hn : vrName = name
    · subst hn
      rw [update_self, map_eq_some_iff] at hr
      obtain ⟨r', _, rfl⟩ := hr
      exact hstate
    · rw [update_of_ne hn] at hr
      exact h r hr

/-- A report changes no desired state. -/
theorem notResync_report {vrName name : String} {state : ObservedState} {o : Objects}
    (h : NotResync vrName o) : NotResync vrName (reported o name state) := by
  intro r hr
  unfold reported at hr
  by_cases hn : vrName = name
  · subst hn
    rw [update_self, map_eq_some_iff] at hr
    obtain ⟨r', hr', rfl⟩ := hr
    exact h r' hr'
  · rw [update_of_ne hn] at hr
    exact h r hr

section Runs

variable {s₀ s s' : World Own} {v₀ v : VastVolumeReplication} {acts : List Act} {env : Env}
  {J : Objects → Prop}

/-- Steps after the switch keep the object, and every assertion about the
VolumeReplications that reconciles and reports keep. -/
theorem run_stored (hJ : Driven J) (hreport : ∀ o name state, J o → J (reported o name state))
    (hdel : v₀.deleting = false) (hres : v₀.resync = false) (h₀ : Stored J v₀ s₀)
    (hrun : runFrom step s₀ acts = some s) : Stored J v₀ s := by
  refine reachable_invariant (I := Stored J v₀) ?_ h₀ ⟨acts, hrun⟩
  intro w a w' hw hstep
  cases a with
  | reconcile env =>
    rw [step, some.injEq] at hstep
    subst hstep
    exact (keeps_reconcile hJ hdel hres).endState hw
  | report vrName state =>
    rw [step, some.injEq] at hstep
    subst hstep
    exact ⟨hreport _ _ _ hw.objs, hw.stored⟩

/-- **A switched primary is promoted once a reconcile goes through**: whatever reconciles failed,
one that returns without error leaves the VolumeReplication of the primary class asking to be
primary, when no peer is left to be resolved, no resync of it was in progress at the switch, or
the switch is still to be recorded, no other class shares it, and the split-brain pass does not
elect another class over a confirmed primary. -/
theorem promoted_once_through (h₀ : s₀.own.stored = some v₀) (hdel : v₀.deleting = false)
    (hres : v₀.resync = false) (hrun : runFrom step s₀ acts = some s)
    (hv : s.own.stored = some v) (hpeers : hasUnresolvedPeers v.protectionTopology = false)
    (hresync : NotResync v₀.primaryVR s₀.objs ∨
      v.status.currentPrimaryStorageClass ≠ v.primaryStorageClass)
    (hown : OwnVR v) (hvote : NotOutvoted env.role s.objs v)
    (hok : reconcile env s = .ok () s') : Promoted v₀.primaryVR s'.objs := by
  have hsame : SameSpec v v₀ := by
    have hstored := run_stored (J := fun _ => True)
      ⟨fun _ _ _ _ _ _ => trivial, fun _ _ _ _ _ => trivial⟩ (fun _ _ _ _ => trivial) hdel hres
      ⟨trivial, v₀, h₀, rfl, rfl, rfl, rfl⟩ hrun
    obtain ⟨v', hv', hspec⟩ := hstored.stored
    rw [hv, some.injEq] at hv'
    rw [hv']
    exact hspec
  rw [← hsame.primaryVR_eq] at hresync ⊢
  refine reconcile_promotes hv (hsame.2.2.1.trans hdel) (hsame.2.2.2.trans hres) hpeers ?_ hok
  intro changed hchanged
  refine ⟨fun r hr hspec => ?_, hown, hvote⟩
  rcases hresync with hnot | hswitch
  · have hs := run_stored (driven_notResync v.primaryVR) (fun _ _ _ h => notResync_report h) hdel
      hres ⟨hnot, v₀, h₀, rfl, rfl, rfl, rfl⟩ hrun
    exact absurd hspec (hs.objs r hr)
  · exact hchanged hswitch

end Runs

def switched (peerName : String) : VastVolumeReplication where
  name := "v"
  primaryStorageClass := "b"
  protectionTopology := [⟨"a", "b", peerName⟩]
  status :=
    { lastFailoverType := "ungracefulFailover", currentPrimaryStorageClass := "a"
      storageClassesPreview := "[\"a\", \"b\"]", ppathDirMapping := [("a", "/a"), ("b", "/b")]
      tenantMapping := [("a", "default"), ("b", "default")], ppathName := "ppath" }

def afterSwitch (peerName : String) (desired : ReplicationState) : World Own where
  objs := fun vrName =>
    if vrName = "v-a" then some ⟨.primary, .primary⟩
    else if vrName = "v-b" then some ⟨desired, .secondary⟩
    else none
  own := ⟨some (switched peerName), switched peerName⟩

def ppathDown : Env where
  fates := fun n => if n = 4 then .failed .unreachable else .answered

def recorded : VastVolumeReplication :=
  { switched "peer" with
    status :=
      { (switched "peer").status with
        currentPrimaryStorageClass := "b", syncStatus := .unreachable } }

def leaves (vrName : String) : EStateM.Result KErr (World Own) Unit → Option (Option Replication)
  | .ok _ s => some (s.objs vrName)
  | .error _ _ => none

/-- A reconcile that does return, with what it leaves of one VolumeReplication. -/
theorem exists_ok_of_leaves {env : Env} {s : World Own} {vrName : String} {r : Option Replication}
    (h : leaves vrName (reconcile env s) = some r) :
    ∃ s', reconcile env s = .ok () s' ∧ s'.objs vrName = r := by
  cases hr : reconcile env s with
  | ok _ s' =>
    rw [hr, leaves, some.injEq] at h
    exact ⟨s', rfl, h⟩
  | error e s' =>
    rw [hr] at h
    cases h

/-- One reconcile, whatever comes of it, is a run. -/
theorem runFrom_reconcile (env : Env) (s : World Own) :
    runFrom step s [.reconcile env] = some (endState (reconcile env s)) := rfl

/-- After a reconcile that failed and one that goes through, `b` is asked to be primary. -/
theorem promoted_once_through_retry :
    ∃ s s', runFrom step (afterSwitch "peer" .secondary) [.reconcile ppathDown] = some s ∧
      reconcile {} s = .ok () s' ∧ Promoted "v-b" s'.objs := by
  obtain ⟨s, hs⟩ : ∃ s, endState (reconcile ppathDown (afterSwitch "peer" .secondary)) = s :=
    ⟨_, rfl⟩
  have hrun : runFrom step (afterSwitch "peer" .secondary) [.reconcile ppathDown] = some s := by
    rw [← hs, runFrom_reconcile]
  have hstored : s.own.stored = some recorded := by
    rw [← hs]
    decide +kernel
  have hvote : NotOutvoted ({} : Env).role s.objs recorded := by
    rw [← hs]
    intro hconf
    exact absurd hconf (by decide +kernel)
  have hvr : (switched "peer").primaryVR = "v-b" := by decide +kernel
  have hnot : NotResync (switched "peer").primaryVR (afterSwitch "peer" .secondary).objs := by
    rw [hvr]
    rintro r ⟨⟩
    decide
  have hleaves : leaves "v-b" (reconcile {} s) = some (some ⟨.primary, .secondary⟩) := by
    rw [← hs]
    decide +kernel
  obtain ⟨s', hok, -⟩ := exists_ok_of_leaves hleaves
  have h₀ : (afterSwitch "peer" .secondary).own.stored = some (switched "peer") := rfl
  have hpromoted := promoted_once_through h₀ rfl rfl hrun hstored (by decide +kernel) (.inl hnot)
    (by decide +kernel) hvote hok
  rw [hvr] at hpromoted
  exact ⟨s, s', hrun, hok, hpromoted⟩

/-- A reconcile that resolves the peers returns without error and leaves the VolumeReplication of
the new primary Secondary. -/
theorem peers_before_promotion :
    ∃ s', reconcile {} (afterSwitch "" .secondary) = .ok () s' ∧ ¬ Promoted "v-b" s'.objs := by
  obtain ⟨s', hok, hb⟩ : ∃ s', reconcile {} (afterSwitch "" .secondary) = .ok () s' ∧
      s'.objs "v-b" = some ⟨.secondary, .secondary⟩ := exists_ok_of_leaves (by decide +kernel)
  have hsecondary : ¬ Promoted "v-b" s'.objs := by
    rw [Promoted, hb]
    decide
  exact ⟨s', hok, hsecondary⟩

/-- A resync of the new primary is in progress, the first reconcile records the switch and fails,
and the second one leaves the resync alone. -/
theorem lost_switch_leaves_resync :
    ∃ s s', runFrom step (afterSwitch "peer" .resync) [.reconcile ppathDown] = some s ∧
      reconcile {} s = .ok () s' ∧ ¬ Promoted "v-b" s'.objs := by
  obtain ⟨s', hok, hb⟩ : ∃ s', reconcile {}
      (endState (reconcile ppathDown (afterSwitch "peer" .resync))) = .ok () s' ∧
        s'.objs "v-b" = some ⟨.resync, .secondary⟩ := exists_ok_of_leaves (by decide +kernel)
  have hresync : ¬ Promoted "v-b" s'.objs := by
    rw [Promoted, hb]
    decide
  exact ⟨_, s', runFrom_reconcile _ _, hok, hresync⟩

end VastCsi.Ext.Vvr
