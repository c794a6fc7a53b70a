import VastCsi.Ext.Vvr

/-!
# Rules for the reconcile of a VastVolumeReplication

Most of a reconcile is work on the status: it reads and writes the copy, stores it, and calls out.
Such work keeps every assertion that looks at neither (`Calm`). The VolumeReplications are created
Primary or Secondary and driven to Primary or Secondary; a reconcile that is not asked for a
resync keeps every assertion that such changes keep (`Driven`).
-/

namespace VastCsi.Ext.Vvr

open Lib CsiAddons

section Calm

variable {I : World Own → Prop} {env : Env} {kind : String}

/-- An assertion that does not look at the number of calls or at the status,
in the copy or stored. -/
structure Calm (I : World Own → Prop) : Prop where
  tick : TickFree I
  status : ∀ w s, I w → I { w with own := { w.own with mem := { w.own.mem with status := s } } }
  write : ∀ w v, w.own.stored = some v → I w →
    I { w with own := { w.own with stored := some { v with status := w.own.mem.status } } }

/-- What the controllers do to a status: each of the two mappings stays, or is made for
the classes of the copy. -/
structure StatusStep (m : VastVolumeReplication) (s : Status) : Prop where
  dirs : s.ppathDirMapping = m.status.ppathDirMapping ∨
    s.ppathDirMapping.map Prod.fst = m.storageClasses
  tenants : s.tenantMapping = m.status.tenantMapping ∨
    s.tenantMapping.map Prod.fst = m.storageClasses

/-- An assertion that survives what the controllers do to the status, in the copy or
stored. -/
structure Careful (I : World Own → Prop) : Prop where
  tick : TickFree I
  status : ∀ w s, StatusStep w.own.mem s → I w →
    I { w with own := { w.own with mem := { w.own.mem with status := s } } }
  write : ∀ w v, w.own.stored = some v → I w →
    I { w with own := { w.own with stored := some { v with status := w.own.mem.status } } }

theorem calm_objs {J : Objects → Prop} : Calm fun w : World Own => J w.objs where
  tick := fun _ hw => hw
  status := fun _ _ hw => hw
  write := fun _ _ _ hw => hw

theorem Calm.careful (h : Calm I) : Careful I := ⟨h.tick, fun w s _ => h.status w s, h.write⟩

theorem keeps_external {context : String} (ht : TickFree I) : Keeps I (external env context) :=
  meets_withContext (keeps_api ht (keeps_pure _))

variable {E : KErr → World Own → Prop} {changed : Bool} {m : VastVolumeReplication}

/-- Reading the copy. -/
theorem meets_getMem : Meets I getMem (fun m w => I w ∧ m = w.own.mem) E := fun _ hw => ⟨hw, rfl⟩

theorem keeps_getMem_bind {α : Type} {f : VastVolumeReplication → Rec α}
    (hf : ∀ m, Keeps I (f m)) : Keeps I (getMem >>= f) :=
  .bind meets_getMem fun m => (hf m).preLeft

/-- A change of the status that leaves the mappings alone. -/
theorem keeps_modifyStatus {f : Status → Status} (hI : Careful I)
    (hf : ∀ s, (f s).ppathDirMapping = s.ppathDirMapping ∧
      (f s).tenantMapping = s.tenantMapping) : Keeps I (modifyStatus f) :=
  fun w hw => hI.status w _ ⟨.inl (hf _).1, .inl (hf _).2⟩ hw

theorem keeps_setPpathName {ppathName : String} (hI : Careful I) :
    Keeps I (modifyStatus fun s => { s with ppathName := ppathName }) :=
  keeps_modifyStatus hI fun _ => ⟨rfl, rfl⟩

/-- Reading the copy, with what is known of it from then on. -/
theorem keeps_getMem_known {f : VastVolumeReplication → Rec Unit}
    (hf : ∀ m, Meets (fun w => I w ∧ m = w.own.mem) (f m) (fun _ => I) (fun _ => I)) :
    Keeps I (getMem >>= f) :=
  .bind meets_getMem hf

theorem keeps_updateStatus (hI : Careful I) : Keeps I (updateStatusOf kind env) := by
  refine meets_withContext (keeps_api hI.tick fun w hw => ?_)
  dsimp only
  cases hs : w.own.stored with
  | none => exact hw
  | some v => exact hI.write w v hs hw

theorem keeps_ensureStorageClassPreview (hI : Careful I) : Keeps I ensureStorageClassPreview := by
  refine keeps_getMem_bind fun m => ?_
  dsimp only
  split
  next => exact keeps_pure _
  next => exact .bind (keeps_modifyStatus hI fun _ => ⟨rfl, rfl⟩) fun _ => keeps_pure _

theorem keeps_ensureLastFailoverType (hI : Careful I) : Keeps I ensureLastFailoverType := by
  refine keeps_getMem_bind fun m => ?_
  split
  next => exact keeps_pure _
  next => exact .bind (keeps_modifyStatus hI fun _ => ⟨rfl, rfl⟩) fun _ => keeps_pure _

theorem keeps_statusChanged (hI : Careful I) : Keeps I (statusChanged changed) := by
  refine .bind (keeps_ensureStorageClassPreview hI) fun b => ?_
  split
  next => exact keeps_pure _
  next => exact keeps_ensureLastFailoverType hI

theorem keeps_recordStatus (hI : Careful I) : Keeps I (recordStatusOf kind env changed) := by
  refine .bind (keeps_statusChanged hI) fun write => ?_
  split
  next => exact keeps_updateStatus hI
  next => exact keeps_pure _

theorem keeps_backfillLabels (ht : TickFree I) : Keeps I (backfillLabels env changed) := by
  unfold backfillLabels
  split
  next => exact .bind (.attempt (keeps_external ht)) fun _ => keeps_pure _
  next => exact keeps_pure _

/-- The loop over the classes does not change the copy. -/
theorem meets_perClass {f : String → Rec Unit} {scs : List String}
    (hf : ∀ scName, Keeps (fun w => I w ∧ m = w.own.mem) (f scName)) :
    Meets (fun w => I w ∧ m = w.own.mem) (forEach f scs) (fun _ w => I w ∧ m = w.own.mem)
      (fun _ => I) :=
  (Meets.forEach fun scName _ => hf scName).raiseLeft

/-- What is known of the copy stays known while calls are made. -/
theorem tickFree_known (ht : TickFree I) : TickFree fun w => I w ∧ m = w.own.mem :=
  fun w hw => ⟨ht w hw.1, hw.2⟩

/-- The mapping of directories is made. -/
theorem meets_setDirs {dirs : List (String × String)} (hI : Careful I)
    (hkeys : dirs.map Prod.fst = m.storageClasses) :
    Meets (fun w => I w ∧ m = w.own.mem)
      (modifyStatus fun s => { s with ppathDirMapping := dirs }) (fun _ => I) E := by
  rintro w ⟨hw, rfl⟩
  exact hI.status w _ ⟨.inr hkeys, .inl rfl⟩ hw

/-- The mapping of tenants is made. -/
theorem meets_setTenants {tenants : List (String × String)} (hI : Careful I)
    (hkeys : tenants.map Prod.fst = m.storageClasses) :
    Meets (fun w => I w ∧ m = w.own.mem)
      (modifyStatus fun s => { s with tenantMapping := tenants }) (fun _ => I) E := by
  rintro w ⟨hw, rfl⟩
  exact hI.status w _ ⟨.inl rfl, .inr hkeys⟩ hw

/-- A value for each class. -/
theorem keys_map {f : String → String} {scs : List String} :
    (scs.map fun scName => (scName, f scName)).map Prod.fst = scs := by
  rw [List.map_map]
  exact List.map_id scs

theorem meets_storeDirs {dirs : List (String × String)} (hI : Careful I)
    (hkeys : dirs.map Prod.fst = m.storageClasses) :
    Meets (fun w => I w ∧ m = w.own.mem) (storeDirsOf kind env dirs) (fun _ => I) (fun _ => I) :=
  .bind (meets_setDirs hI hkeys) fun _ => keeps_updateStatus hI

theorem meets_predictedDirs (hI : Careful I) :
    Meets (fun w => I w ∧ m = w.own.mem) (predictedDirsOf kind env m) (fun _ => I)
      (fun _ => I) := by
  have ht := tickFree_known (m := m) hI.tick
  refine .bind (meets_perClass fun _ => ?_) fun _ => meets_storeDirs hI keys_map
  exact .bind (keeps_external ht) fun _ => keeps_external ht

theorem keeps_ensurePpathDirs (hI : Careful I) : Keeps I (ensurePpathDirs env) := by
  refine keeps_getMem_known fun m => ?_
  split
  next => exact meets_predictedDirs hI
  next => exact .pure fun _ hw => hw.1

theorem keeps_ensureTenants (hI : Careful I) : Keeps I (ensureTenantsOf kind env) := by
  refine keeps_getMem_known fun m => ?_
  split
  next =>
    refine .bind (meets_perClass fun _ => keeps_external (tickFree_known hI.tick)) fun _ => ?_
    exact .bind (meets_setTenants hI keys_map) fun _ => keeps_updateStatus hI
  next => exact .pure fun _ hw => hw.1

theorem keeps_desiredSyncStatus {err : Option KErr} (ht : TickFree I) :
    Keeps I (desiredSyncStatus env err) := by
  refine keeps_getMem_bind fun m => ?_
  split
  next => exact keeps_pure _
  split
  next => exact keeps_pure _
  split
  next => exact keeps_pure _
  split
  next => exact keeps_pure _
  refine .bind (.tryCatch (keeps_getObject ht) fun _ => keeps_pure _) fun vr => ?_
  cases vr with
  | none => exact keeps_pure _
  | some vr => exact keeps_pure _

/-- The deferred write. -/
theorem keeps_reconcileSyncStatus {err : Option KErr} (hI : Careful I) :
    Keeps I (reconcileSyncStatusOf kind env err) := by
  refine .bind (keeps_desiredSyncStatus hI.tick) fun desired => ?_
  cases desired with
  | none => exact keeps_pure _
  | some desired =>
    refine keeps_getMem_bind fun m => ?_
    split
    next => exact keeps_pure _
    next => exact .bind (keeps_modifyStatus hI fun _ => ⟨rfl, rfl⟩) fun _ => keeps_updateStatus hI

/-- The finalizer comes and goes without the assertion looking at it. -/
structure FinalizerFree (I : World Own → Prop) : Prop where
  tick : TickFree I
  mem : ∀ w b, I w → I { w with own := { w.own with mem := { w.own.mem with finalizer := b } } }
  add : ∀ w v, w.own.stored = some v → I w →
    I { w with own := { w.own with stored := some { v with finalizer := true } } }
  remove : ∀ w v, w.own.stored = some v → I w → I { w with own :=
      { w.own with stored := if v.deleting then none else some { v with finalizer := false } } }

theorem keeps_ensureFinalizer (hI : FinalizerFree I) : Keeps I (ensureFinalizer env) := by
  refine keeps_getMem_bind fun m => ?_
  split
  next => exact keeps_pure _
  next =>
    have hmem : ∀ b, Keeps I (modifyMem fun m => { m with finalizer := b }) :=
      fun b w hw => hI.mem w b hw
    refine .bind (hmem true) fun _ => ?_
    refine .bind (meets_withContext (keeps_api hI.tick fun w hw => ?_)) fun _ => ?_
    · dsimp only
      cases hs : w.own.stored with
      | none => exact hw
      | some v => exact hI.add w v hs hw
    · cases env.validation with
      | none => exact keeps_pure _
      | some e =>
        refine .bind (.attempt (.bind (hmem false) fun _ =>
          keeps_api hI.tick fun w hw => ?_)) fun _ => keeps_throw e
        dsimp only
        cases hs : w.own.stored with
        | none => exact hw
        | some v => exact hI.remove w v hs hw

end Calm

/-- What a reconcile without resync does not change in the object. -/
def SameSpec (a b : VastVolumeReplication) : Prop :=
  a.name = b.name ∧ a.primaryStorageClass = b.primaryStorageClass ∧
    a.deleting = b.deleting ∧ a.resync = b.resync

section Way

variable {v : VastVolumeReplication} {o : Objects} {env : Env} {kind : String}

/-- On the way to the loop: the objects are untouched and the copy is of `v`,
up to status and finalizer. -/
def OnTheWay (v : VastVolumeReplication) (o : Objects) (w : World Own) : Prop :=
  w.objs = o ∧ SameSpec w.own.mem v ∧ w.own.mem.protectionTopology = v.protectionTopology

theorem calm_onTheWay : Calm (OnTheWay v o) where
  tick := fun _ hw => hw
  status := fun _ _ hw => hw
  write := fun _ _ _ hw => hw

theorem finalizerFree_onTheWay : FinalizerFree (OnTheWay v o) where
  tick := fun _ hw => hw
  mem := fun _ _ hw => hw
  add := fun _ _ _ hw => hw
  remove := fun _ _ _ hw => hw

theorem meets_primaryRest : Yields (OnTheWay v o) primaryRest
      (fun _ w => OnTheWay v o w ∧ v.primaryStorageClass ∈ v.storageClasses) := by
  refine .bind meets_getMem fun m => ?_
  refine .assertThat (fun hin w hw => ⟨hw.1, ?_⟩) fun _ _ _ => trivial
  obtain ⟨⟨_, hspec, htopo⟩, hm⟩ := hw
  rw [List.contains_iff_mem, VastVolumeReplication.storageClasses, hm, htopo, hspec.2.1] at hin
  exact hin

theorem meets_createPpath : Yields (OnTheWay v o) (createPpathOf kind env)
      (fun _ w => OnTheWay v o w ∧ v.primaryStorageClass ∈ v.storageClasses) := by
  refine .bind (keeps_external calm_onTheWay.tick).okOnly fun _ => ?_
  refine .bind meets_primaryRest fun _ => ?_
  refine .assuming (p := v.primaryStorageClass ∈ v.storageClasses) (fun _ hw => hw.2) fun hmem => ?_
  have hrest : Keeps (OnTheWay v o) (do
      external env "primary ppath"
      modifyStatus fun s => { s with ppathName := env.newPpath }
      updateStatusOf kind env) := by
    refine .bind (keeps_external calm_onTheWay.tick) fun _ => ?_
    refine .bind (keeps_setPpathName calm_onTheWay.careful) fun _ => ?_
    exact keeps_updateStatus calm_onTheWay.careful
  exact hrest.weaken (fun _ hw => hw.1) (fun _ _ hw => ⟨hw, hmem⟩) (fun _ _ _ => trivial)

end Way

/-- An assertion about the objects that creation in, or change to, a state
other than Resync keeps. -/
structure Driven (J : Objects → Prop) : Prop where
  create : ∀ o vrName state, state ≠ .resync → J o → o vrName = none →
    J (Function.update o vrName (some ⟨state, .unset⟩))
  patch : ∀ o vrName state, state ≠ .resync → J o → J (setSpec o vrName state)

/-- The object is stored, as `v` but for status, finalizer and peers. -/
structure Stored (J : Objects → Prop) (v : VastVolumeReplication) (w : World Own) : Prop where
  objs : J w.objs
  stored : ∃ v', w.own.stored = some v' ∧ SameSpec v' v

structure Live (J : Objects → Prop) (v : VastVolumeReplication) (w : World Own) : Prop
    extends Stored J v w where
  mem : SameSpec w.own.mem v

/-- An assertion that survives the creation of a VolumeReplication, and its change, in or
to a state other than Resync. -/
structure Driving (I : World Own → Prop) : Prop where
  tick : TickFree I
  create : ∀ w vrName state, state ≠ .resync → I w → w.objs vrName = none →
    I { w with objs := Function.update w.objs vrName (some ⟨state, .unset⟩) }
  patch : ∀ w vrName state, state ≠ .resync → I w → I { w with objs := setSpec w.objs vrName state }

section Live

variable {J : Objects → Prop} {v : VastVolumeReplication} {env : Env} {I : World Own → Prop}
  {kind : String}

/-- The stored object is the one of the assertion. -/
theorem Live.sameSpec {w : World Own} {v' : VastVolumeReplication} (hw : Live J v w)
    (hs : w.own.stored = some v') : SameSpec v' v := by
  obtain ⟨v'', hs'', h⟩ := hw.stored
  cases hs.symm.trans hs''
  exact h

theorem calm_live : Calm (Live J v) where
  tick := fun _ hw => ⟨⟨hw.objs, hw.stored⟩, hw.mem⟩
  status := fun _ _ hw => ⟨⟨hw.objs, hw.stored⟩, hw.mem⟩
  write := by
    intro w v' hs hw
    have h := hw.sameSpec hs
    exact ⟨⟨hw.objs, _, rfl, h⟩, hw.mem⟩

theorem finalizerFree_live (hdel : v.deleting = false) : FinalizerFree (Live J v) where
  tick := calm_live.tick
  mem := fun _ _ hw => ⟨⟨hw.objs, hw.stored⟩, hw.mem⟩
  add := by
    intro w v' hs hw
    have h := hw.sameSpec hs
    exact ⟨⟨hw.objs, _, rfl, h⟩, hw.mem⟩
  remove := by
    intro w v' hs hw
    have h := hw.sameSpec hs
    have hlive : v'.deleting = false := h.2.2.1.trans hdel
    rw [if_neg (by rw [hlive]; decide)]
    exact ⟨⟨hw.objs, _, rfl, h⟩, hw.mem⟩

/-- A change of the objects. -/
theorem Live.withObjs {w : World Own} {o : Objects} (hw : Live J v w) (ho : J o) :
    Live J v { w with objs := o } :=
  ⟨⟨ho, hw.stored⟩, hw.mem⟩

theorem driving_live (hJ : Driven J) : Driving (Live J v) where
  tick := calm_live.tick
  create := fun _ _ _ hstate hw hnone => hw.withObjs (hJ.create _ _ _ hstate hw.objs hnone)
  patch := fun _ _ _ hstate hw => hw.withObjs (hJ.patch _ _ _ hstate hw.objs)

theorem keeps_ensurePrimaryStorageClass (hI : Careful I) : Keeps I ensurePrimaryStorageClass := by
  refine keeps_getMem_bind fun m => ?_
  split
  next => exact keeps_pure _
  next => exact .bind (keeps_modifyStatus hI fun _ => ⟨rfl, rfl⟩) fun _ => keeps_pure _

theorem keeps_primaryRest : Keeps I primaryRest := keeps_getMem_bind fun _ => keeps_assertThat _ _

theorem keeps_losePpath (hI : Careful I) : Keeps I (losePpathOf kind env) :=
  .bind (keeps_setPpathName hI) fun _ => keeps_updateStatus hI

theorem keeps_createPpath (hI : Careful I) : Keeps I (createPpathOf kind env) := by
  refine .bind (keeps_external hI.tick) fun _ => ?_
  refine .bind keeps_primaryRest fun _ => ?_
  refine .bind (keeps_external hI.tick) fun _ => ?_
  exact .bind (keeps_setPpathName hI) fun _ => keeps_updateStatus hI

theorem keeps_ensurePpath (hI : Careful I) : Keeps I (ensurePpath env) := by
  refine .bind (keeps_getMem_bind fun m => ?_) fun name => ?_
  · split
    next => exact keeps_pure _
    next =>
      refine .bind keeps_primaryRest fun _ => ?_
      refine .bind (keeps_external hI.tick) fun _ => ?_
      split
      next => exact .bind (keeps_losePpath hI) fun _ => keeps_pure _
      next => exact keeps_pure _
  · split
    next => exact keeps_createPpath hI
    next => exact keeps_pure _

theorem keeps_resolvePeers : Keeps (Live J v) (resolvePeers env) := by
  refine .bind (keeps_external calm_live.tick) fun _ => ?_
  refine .bind (Q := fun _ => Live J v) (fun w hw => ?_) fun _ => ?_
  · exact ⟨⟨hw.objs, hw.stored⟩, hw.mem⟩
  · refine meets_withContext (keeps_api calm_live.tick fun w hw => ?_)
    dsimp only
    obtain ⟨v', hs, h⟩ := hw.stored
    rw [hs]
    exact ⟨⟨hw.objs, _, rfl, h⟩, hw.mem⟩

theorem initialState_ne (m : VastVolumeReplication) (scName : String) :
    initialState m scName ≠ .resync := by
  unfold initialState
  split
  next => decide
  next => decide

variable {changed : Bool}

theorem keeps_ensureVRAndWait {m : VastVolumeReplication} {last : Option String} {scName : String}
    (hI : Driving I) : Keeps I (ensureVRAndWait env m changed last scName) := by
  have hvr : Keeps I (ensureVR env m changed scName) := by
    refine .bind (keeps_external hI.tick) fun _ => ?_
    refine .bind (Q := fun _ => I) ?_ fun _ => ?_
    · unfold mirrorPVCName
      split
      next => exact keeps_pure _
      next => exact keeps_external hI.tick
    · refine .bind (meets_withContext (keeps_ensureObject hI.tick fun w hw hn =>
        hI.create w _ _ (initialState_ne m scName) hw hn)) fun created => ?_
      split
      next => exact keeps_pure _
      split
      next =>
        refine .bind (keeps_ensureState hI.tick fun w r hw _ _ => ?_) fun _ => keeps_pure _
        exact hI.patch w _ _ (by decide) hw
      next => exact keeps_pure _
  refine .bind (meets_withContext hvr) fun created => ?_
  split
  next => exact .bind (.attempt (keeps_external hI.tick)) fun _ => keeps_pure _
  next => exact keeps_pure _

theorem keeps_findSource (ht : TickFree I) : ∀ {scs : List String}, Keeps I (findSource env scs)
  | [] => keeps_pure _
  | scName :: scs => by
    refine .bind (keeps_external ht) fun _ => ?_
    refine .bind (keeps_external ht) fun _ => ?_
    split
    next => exact keeps_pure _
    next => exact keeps_findSource ht

theorem keeps_sync {m : VastVolumeReplication} (hI : Driving I) :
    Keeps I (syncVRReplicationStates env m) := by
  refine .bind (keeps_confirmedClasses hI.tick) fun candidates => ?_
  split
  next => exact keeps_pure _
  next =>
    refine .bind (keeps_findSource hI.tick) fun source => ?_
    cases source with
    | none => exact keeps_pure _
    | some truePrimarySC =>
      refine .bind (.collectErrors fun scName _ => ?_) fun errs => keeps_raiseDeferred
      refine meets_withContext (keeps_ensureState hI.tick fun w r hw _ _ => ?_)
      exact hI.patch w _ _ (by decide) hw

theorem keeps_ensureVRs (hI : Driving I) : Keeps I (ensureVRs env changed) := by
  refine keeps_getMem_bind fun m => ?_
  refine .bind (.collectErrors fun _ _ => keeps_ensureVRAndWait hI) fun errs => ?_
  refine .bind (.attempt (keeps_sync hI)) fun _ => ?_
  exact keeps_raiseDeferred

theorem keeps_reconcileVRs (hJ : Driven J) : Keeps (Live J v) (reconcileVRs env changed) := by
  refine .bind (keeps_ensurePpathDirs calm_live.careful) fun _ => ?_
  refine .bind (keeps_ensureTenants calm_live.careful) fun _ => ?_
  refine keeps_getMem_bind fun m => ?_
  split
  next => exact keeps_resolvePeers
  next =>
    refine .bind (keeps_ensurePpath calm_live.careful) fun _ => ?_
    exact keeps_ensureVRs (driving_live hJ)

theorem keeps_reconcileLive (hJ : Driven J) (hdel : v.deleting = false)
    (hres : v.resync = false) : Keeps (Live J v) (reconcileLive env) := by
  have ht : TickFree (Live J v) := calm_live.tick
  refine .bind (keeps_external ht) fun _ => ?_
  refine .bind (keeps_external ht) fun _ => ?_
  refine .bind (keeps_ensureFinalizer (finalizerFree_live hdel)) fun _ => ?_
  refine .bind (keeps_ensurePrimaryStorageClass calm_live.careful) fun changed => ?_
  refine .bind (keeps_backfillLabels ht) fun _ => ?_
  refine .bind (keeps_recordStatus calm_live.careful) fun _ => ?_
  refine .bind meets_getMem fun m => ?_
  refine .assuming (p := m.resync = false)
    (fun w hw => by rw [hw.2, hw.1.mem.2.2.2]; exact hres) fun hm => ?_
  rw [hm]
  exact (keeps_reconcileVRs hJ).preLeft

/-- A reconcile of a live object with no resync asked for keeps every driven
assertion, whatever fails in it. -/
theorem keeps_reconcile (hJ : Driven J) (hdel : v.deleting = false) (hres : v.resync = false) :
    Keeps (Stored J v) (reconcile env) := by
  have hfetch : Meets (Stored J v) (fetch env) (fun b w => b = true ∧ Live J v w)
      (fun _ => Stored J v) := by
    refine meets_api (fun _ hw => ⟨hw.objs, hw.stored⟩) (fun _ hw => hw)
      (fun _ _ hw => hw.2.toStored) fun w hw => ?_
    dsimp only
    obtain ⟨v', hs, h⟩ := hw.stored
    rw [hs]
    exact ⟨rfl, ⟨hw.objs, v', rfl, h⟩, h⟩
  refine .bind hfetch fun b => ?_
  refine .assuming (p := b = true) (fun _ hw => hw.1) fun hb => ?_
  subst hb
  have hbody : Keeps (Live J v)
      (do if (← getMem).deleting then handleDeletion env else reconcileLive env) := by
    refine .bind meets_getMem fun m => ?_
    refine .assuming (p := m.deleting = false)
      (fun w hw => by rw [hw.2, hw.1.mem.2.2.1]; exact hdel) fun hm => ?_
    rw [hm]
    exact (keeps_reconcileLive hJ hdel hres).preLeft
  exact (Meets.deferring hbody (fun _ => keeps_reconcileSyncStatus calm_live.careful)
    (fun _ => keeps_reconcileSyncStatus calm_live.careful)).weaken (fun _ hw => hw.2)
    (fun _ _ hw => hw.toStored) (fun _ _ hw => hw.toStored)

end Live

end VastCsi.Ext.Vvr
