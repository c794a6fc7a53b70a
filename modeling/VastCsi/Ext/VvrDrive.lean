import VastCsi.Ext.VvrRules

/-!
# Driving the VolumeReplications of a VastVolumeReplication

`ensureVRs` visits the StorageClasses with the primary one first, and then runs the split-brain
pass. `meets_loop`: after the loop the primary's VolumeReplication asks to be primary, unless it
was in Resync and no switch was seen; the others are as they were, or new and Secondary.
`meets_sync`: the pass leaves that alone unless it elects another class while csi-addons confirms
the primary (`NotOutvoted`). Both need the primary's VolumeReplication to be its own (`OwnVR`).
-/

namespace VastCsi.Ext.Vvr

open Lib CsiAddons List Option Function Bool

/-- The VolumeReplication is asked to be primary. -/
def Promoted (vrName : String) (o : Objects) : Prop := ∃ r, o vrName = some r ∧ r.spec = .primary

/-- The class the split-brain pass takes for the true primary, once the
primary's VolumeReplication is driven. -/
def electedSource (role : String → String) (o : Objects) (m : VastVolumeReplication) :
    Option String :=
  m.storageClasses.find? fun scName =>
    confirmedIn (setSpec o m.primaryVR .primary) m.name scName && isSource (role scName)

/-- When csi-addons confirms the primary class, no other class is elected. -/
def NotOutvoted (role : String → String) (o : Objects) (m : VastVolumeReplication) : Prop :=
  confirmedIn (setSpec o m.primaryVR .primary) m.name m.primaryStorageClass = true →
    ∀ scName, electedSource role o m = some scName → scName = m.primaryStorageClass

/-- No other class of the topology shares the primary's VolumeReplication. -/
def OwnVR (m : VastVolumeReplication) : Prop :=
  ∀ scName ∈ m.storageClasses, scName ≠ m.primaryStorageClass → m.vrNameForSC scName ≠ m.primaryVR

instance (m : VastVolumeReplication) : Decidable (OwnVR m) := by
  unfold OwnVR
  infer_instance

section Loop

variable {env : Env} {m : VastVolumeReplication} {o : Objects} {changed : Bool}
  {last : Option String} {scName : String}

/-- The other VolumeReplications are as they were, or new. -/
def Others (m : VastVolumeReplication) (o o' : Objects) : Prop :=
  ∀ vrName, vrName ≠ m.primaryVR → o' vrName = o vrName ∨
    (o vrName = none ∧ o' vrName = some ⟨.secondary, .unset⟩)

def Before (m : VastVolumeReplication) (o : Objects) (w : World Own) : Prop :=
  Others m o w.objs ∧ w.objs m.primaryVR = o m.primaryVR

def After (m : VastVolumeReplication) (o : Objects) (w : World Own) : Prop :=
  Others m o w.objs ∧ w.objs m.primaryVR =
    some { (o m.primaryVR).getD ⟨.primary, .unset⟩ with spec := .primary }

/-- Another class's turn: at most a new Secondary. -/
theorem keeps_otherTurn {I : World Own → Prop} (ht : TickFree I)
    (hne : scName ≠ m.primaryStorageClass)
    (hnew : ∀ w, I w → w.objs (m.vrNameForSC scName) = none →
      I { w with objs :=
        Function.update w.objs (m.vrNameForSC scName) (some ⟨.secondary, .unset⟩) }) :
    Keeps I (ensureVRAndWait env m changed last scName) := by
  have hother : (scName == m.primaryStorageClass) = false := beq_false_of_ne hne
  have hvr : Keeps I (ensureVR env m changed scName) := by
    unfold ensureVR mirrorPVCName initialState
    rw [hother]
    refine .bind (keeps_external ht) fun _ => ?_
    refine .bind (keeps_external ht) fun _ => ?_
    refine .bind (meets_withContext (keeps_ensureObject ht hnew)) fun created => ?_
    split
    next => exact keeps_pure _
    next => exact keeps_pure _
  refine .bind (meets_withContext hvr) fun created => ?_
  split
  next => exact .bind (.attempt (keeps_external ht)) fun _ => keeps_pure _
  next => exact keeps_pure _

/-- A new Secondary under another name. -/
theorem Others.create {o' : Objects} (h : Others m o o') {vrName : String}
    (hnone : o' vrName = none) :
    Others m o (update o' vrName (some ⟨.secondary, .unset⟩)) := by
  intro name hname
  by_cases hn : name = vrName
  · subst hn
    rw [update_self]
    rcases h name hname with hsame | ⟨_, hnew⟩
    · exact .inr ⟨hsame ▸ hnone, rfl⟩
    · rw [hnone] at hnew
      cases hnew
  · rw [Function.update_of_ne hn]
    exact h name hname

theorem keeps_before_otherTurn (hown : OwnVR m) (hsc : scName ∈ m.storageClasses)
    (hne : scName ≠ m.primaryStorageClass) :
    Keeps (Before m o) (ensureVRAndWait env m changed last scName) := by
  refine keeps_otherTurn (fun _ hw => hw) hne fun w hw hnone => ⟨hw.1.create hnone, ?_⟩
  dsimp only
  rw [Function.update_of_ne (Ne.symm (hown scName hsc hne))]
  exact hw.2

theorem keeps_after_otherTurn (hown : OwnVR m) (hsc : scName ∈ m.storageClasses)
    (hne : scName ≠ m.primaryStorageClass) :
    Keeps (After m o) (ensureVRAndWait env m changed last scName) := by
  refine keeps_otherTurn (fun _ hw => hw) hne fun w hw hnone => ⟨hw.1.create hnone, ?_⟩
  dsimp only
  rw [Function.update_of_ne (Ne.symm (hown scName hsc hne))]
  exact hw.2

/-- A change of the primary's VolumeReplication is none of the others'. -/
theorem Others.update {o' : Objects} (h : Others m o o') (r : Option Replication) :
    Others m o (update o' m.primaryVR r) := by
  intro name hname
  rw [Function.update_of_ne hname]
  exact h name hname

/-- Creating the primary's VolumeReplication is its turn already. -/
theorem meets_ensurePrimaryVR :
    Yields (Before m o) (ensureObject env.fates m.primaryVR ⟨.primary, .unset⟩)
      (fun created w => if created then After m o w else Before m o w) := by
  refine (meets_ensureObject (I := Before m o)
    (L := fun created w => if created then After m o w else Before m o w) (fun _ hw => hw)
    (fun _ _ hw _ => hw) ?_).okOnly
  intro w hw hnone
  refine ⟨hw.1.update _, ?_⟩
  dsimp only
  rw [update_self, ← hw.2, hnone]
  rfl

/-- Driving the primary's VolumeReplication, unless it is left in Resync. -/
theorem meets_drivePrimaryVR
    (hres : ∀ r, o m.primaryVR = some r → r.spec = .resync → changed = true) :
    Yields (Before m o) (ensureReplicationState env.fates m.primaryVR .primary changed)
      (fun _ => After m o) := by
  refine (meets_ensureState (I := Before m o) (K := After m o) (fun _ hw => hw) ?_ ?_).okOnly
  · intro w r hw hr hkeep
    have hspec : r.spec = .primary := by
      rcases hkeep with hspec | hleave
      · exact hspec
      · -- a resync is left alone only without a switch
        rw [leaveResync, and_eq_true, and_eq_true, beq_iff_eq] at hleave
        have hch := hres r (hw.2 ▸ hr) (beq_iff_eq.mp hleave.1.2)
        rw [hch] at hleave
        exact absurd hleave.2 (by decide)
    refine ⟨hw.1, ?_⟩
    rw [hr, ← hw.2, hr, getD_some, ← hspec]
  · intro w r hw hr _
    refine ⟨hw.1.update _, ?_⟩
    dsimp only
    rw [setSpec, update_self, hr, ← hw.2, hr, map_some, getD_some]

/-- The primary's turn. -/
theorem meets_primaryTurn (hres : ∀ r, o m.primaryVR = some r → r.spec = .resync → changed = true) :
    Yields (Before m o) (ensureVRAndWait env m changed last m.primaryStorageClass)
      (fun _ => After m o) := by
  have hvr : Yields (Before m o) (ensureVR env m changed m.primaryStorageClass)
      (fun _ => After m o) := by
    unfold ensureVR mirrorPVCName initialState
    rw [beq_self_eq_true]
    refine .bind (keeps_external fun _ hw => hw).okOnly fun _ => ?_
    refine .bind (Q := fun _ => Before m o) .ret fun _ => ?_
    refine .bind (meets_withContext meets_ensurePrimaryVR) fun created => ?_
    cases created with
    | true => exact .ret
    | false => exact .bind (meets_drivePrimaryVR hres) fun _ => .ret
  have hwait : Keeps (After m o) (do
      let _ ← attempt (external env "proceeding without confirmed VRC")
      pure ()) :=
    .bind (.attempt (keeps_external fun _ hw => hw)) fun _ => keeps_pure _
  refine .bind (meets_withContext hvr) fun created => ?_
  split
  next => exact hwait.okOnly
  next => exact .ret

/-- The primary's turn does not undo itself. -/
theorem keeps_after_primaryTurn :
    Keeps (After m o) (ensureVRAndWait env m changed last m.primaryStorageClass) := by
  have ht : TickFree (After m o) := fun _ hw => hw
  have hvr : Keeps (After m o) (ensureVR env m changed m.primaryStorageClass) := by
    unfold ensureVR mirrorPVCName initialState
    rw [beq_self_eq_true]
    refine .bind (keeps_external ht) fun _ => ?_
    refine .bind (Q := fun _ => After m o) (keeps_pure _) fun _ => ?_
    refine .bind (meets_withContext (keeps_ensureObject ht fun w hw hnone => ?_)) fun created => ?_
    · have hsome := hw.2
      rw [show w.objs m.primaryVR = none from hnone] at hsome
      cases hsome
    · cases created with
      | true => exact keeps_pure _
      | false =>
        refine .bind (keeps_ensureState ht fun w r hw _ _ => ?_) fun _ => keeps_pure _
        refine ⟨hw.1.update _, ?_⟩
        show setSpec w.objs m.primaryVR .primary m.primaryVR = _
        rw [setSpec, update_self, hw.2, map_some]
  refine .bind (meets_withContext hvr) fun created => ?_
  split
  next => exact .bind (.attempt (keeps_external ht)) fun _ => keeps_pure _
  next => exact keeps_pure _

/-- The loop, when it goes through: the primary's VolumeReplication asks to be
primary, the others are as they were or new. -/
theorem meets_loop (hown : OwnVR m) (hprim : m.primaryStorageClass ∈ m.storageClasses)
    (hres : ∀ r, o m.primaryVR = some r → r.spec = .resync → changed = true) :
    Yields (Before m o) (forEach (ensureVRAndWait env m changed last)
        (allStorageClassesPrimaryFirst m.primaryStorageClass m.protectionTopology))
      (fun _ => After m o) := by
  have hmem : ∀ scName, scName ∈ allStorageClassesPrimaryFirst m.primaryStorageClass
      m.protectionTopology ↔ scName ∈ m.storageClasses := fun _ => mem_insertionSort _
  refine meets_forEach_mem ((hmem _).mpr hprim) ?_ (meets_primaryTurn hres) ?_
  · intro sc hsc hne
    exact (keeps_before_otherTurn hown ((hmem sc).mp hsc) hne).okOnly
  · intro sc hsc
    by_cases hne : sc = m.primaryStorageClass
    · subst hne
      exact keeps_after_primaryTurn.okOnly
    · exact (keeps_after_otherTurn hown ((hmem sc).mp hsc) hne).okOnly

end Loop

section Sync

variable {env : Env} {m : VastVolumeReplication} {o : Objects}

/-- After the loop the confirmed classes are those of the state before it,
with the primary driven. -/
theorem confirmedIn_after {w : World Own} (hown : OwnVR m) (hw : After m o w) {scName : String}
    (hsc : scName ∈ m.storageClasses) :
    confirmedIn w.objs m.name scName =
      confirmedIn (setSpec o m.primaryVR .primary) m.name scName := by
  by_cases hne : scName = m.primaryStorageClass
  · subst hne
    show (w.objs m.primaryVR).any _ = (setSpec o m.primaryVR .primary m.primaryVR).any _
    rw [hw.2, setSpec, update_self]
    cases o m.primaryVR with
    | none => rfl
    | some r => rfl
  · have hname := hown scName hsc hne
    show (w.objs (m.vrNameForSC scName)).any _ =
      (setSpec o m.primaryVR .primary (m.vrNameForSC scName)).any _
    rw [setSpec, Function.update_of_ne hname]
    rcases hw.1 _ hname with h | ⟨hnone, hnew⟩
    · rw [h]
    · rw [hnone, hnew]
      rfl

/-- The first source among the candidates. -/
theorem meets_findSource {I : World Own → Prop} (ht : TickFree I) :
    ∀ {scs : List String}, Meets I (findSource env scs)
      (fun r w => I w ∧ r = scs.find? fun scName => isSource (env.role scName)) (fun _ => I)
  | [] => .pure fun _ hw => ⟨hw, rfl⟩
  | scName :: scs => by
    refine .bind (keeps_external ht) fun _ => ?_
    refine .bind (keeps_external ht) fun _ => ?_
    rw [find?_cons]
    cases isSource (env.role scName) with
    | true => exact .pure fun _ hw => ⟨hw, rfl⟩
    | false => exact meets_findSource ht

/-- Demoting another class leaves the primary alone. -/
theorem keeps_demoteOther {scName : String} (hown : OwnVR m) (hsc : scName ∈ m.storageClasses)
    (hne : scName ≠ m.primaryStorageClass) :
    Keeps (fun w => Promoted m.primaryVR w.objs) (demote env m scName) := by
  refine meets_withContext (keeps_ensureState (fun _ hw => hw) fun w r hw _ _ => ?_)
  obtain ⟨r', hr', hs⟩ := hw
  refine ⟨r', ?_, hs⟩
  show setSpec w.objs (m.vrNameForSC scName) .secondary m.primaryVR = _
  rw [setSpec, Function.update_of_ne (Ne.symm (hown scName hsc hne))]
  exact hr'

theorem promoted_after {w : World Own} (hw : After m o w) : Promoted m.primaryVR w.objs :=
  ⟨_, hw.2, rfl⟩

/-- The pass does not demote a primary that is not outvoted. -/
theorem meets_sync (hown : OwnVR m) (hvote : NotOutvoted env.role o m) :
    Meets (After m o) (syncVRReplicationStates env m) (fun _ w => Promoted m.primaryVR w.objs)
      (fun _ w => Promoted m.primaryVR w.objs) := by
  intro w hw
  have hcs : m.storageClasses.filter (confirmedIn w.objs m.name) =
      m.storageClasses.filter (confirmedIn (setSpec o m.primaryVR .primary) m.name) :=
    filter_congr fun scName hsc => confirmedIn_after hown hw hsc
  have hpass : Meets (fun w' : World Own => w'.objs = w.objs) (syncVRReplicationStates env m)
      (fun _ w' => Promoted m.primaryVR w'.objs) (fun _ w' => Promoted m.primaryVR w'.objs) := by
    have hprom : ∀ w' : World Own, w'.objs = w.objs → Promoted m.primaryVR w'.objs :=
      fun w' h => h ▸ promoted_after hw
    refine .bind ((meets_confirmedClasses (fun _ h => h) fun _ h => h).raise fun _ => hprom)
      fun candidates => ?_
    refine .assuming (p := candidates = _) (fun _ h => h.2) fun hc => ?_
    rw [hcs] at hc
    split
    next => exact .pure fun w' h => hprom w' h.1
    next =>
      refine .bind ((meets_findSource (I := fun w' : World Own => w'.objs = w.objs)
        fun _ h => h).weaken (fun _ h => h.1) (fun _ _ h => h) (fun _ => hprom)) fun source => ?_
      refine .assuming (p := source = _) (fun _ h => h.2) fun hsource => ?_
      cases source with
      | none => exact .pure fun w' h => hprom w' h.1
      | some truePrimarySC =>
        have helected : electedSource env.role o m = some truePrimarySC := by
          rw [hc, find?_filter] at hsource
          simp only [decide_and, decide_eq_true] at hsource
          exact hsource.symm
        have hloop : Meets (fun w' : World Own => Promoted m.primaryVR w'.objs)
            (collectErrors (demote env m) (candidates.filter (· ≠ truePrimarySC)))
            (fun _ w' => Promoted m.primaryVR w'.objs)
            (fun _ w' => Promoted m.primaryVR w'.objs) := by
          refine .collectErrors fun scName hsc => ?_
          rw [mem_filter, decide_eq_true_eq, hc, mem_filter] at hsc
          refine keeps_demoteOther hown hsc.1.1 fun heq => hsc.2 ?_
          -- the primary is confirmed, so nobody else was elected
          subst heq
          exact (hvote hsc.1.2 truePrimarySC helected).symm
        refine .bind (hloop.pre fun w' h => hprom w' h.1) fun errs => keeps_raiseDeferred
  exact hpass w rfl

end Sync

end VastCsi.Ext.Vvr
