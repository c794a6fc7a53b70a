import VastCsi.Ext.VscrReconcile

/-!
# One primary after a reconcile

The loop over the classes creates what is missing and drives only the primary's group; the pass
demotes only confirmed primaries. The groups are taken as csi-addons has reported on them
(`StatusMatches`), for a Primary that is not confirmed is no candidate of the pass.

The turns of the loop keep that every other Primary is confirmed (`Reported`) and what was served
(`Served`); `onePrimary_of_pass` adds what the pass has demoted.
-/

namespace VastCsi.Ext.Vscr

open Lib CsiAddons List Option Function
open VastCsi.Ext.Vvr (Own Rec external getMem modifyMem modifyStatus writeBack Calm SameSpec
  OnTheWay calm_onTheWay calm_objs keeps_external keeps_getMem_bind meets_getMem keeps_modifyStatus)

section Pass

variable {ρ : Type} {fates : Fates} {vscr : VastStorageClassReplication} {o : Objects}

/-- A pass without error has set every candidate but the primary to Secondary. -/
theorem meets_sync_ok : Yields (fun w : World ρ => w.objs = o) (syncVGRReplicationStates fates vscr)
      (fun _ w => PartlyDemoted vscr o w.objs ∧ Done vscr (demoted vscr o) w.objs) := by
  refine .bind (meets_confirmedClasses (fun _ hw => hw) fun _ hw => hw).okOnly fun candidates => ?_
  refine .assuming (p := candidates = _) (fun _ hw => hw.2) fun hc => ?_
  subst hc
  have hloop : Yields (fun w : World ρ => PartlyDemoted vscr o w.objs)
      (forEach (demote fates vscr) (demoted vscr o))
      (fun _ w => PartlyDemoted vscr o w.objs ∧ ∀ sc ∈ demoted vscr o, Done vscr [sc] w.objs) := by
    refine meets_forEach_all (fun sc hsc => ?_) fun sc sc' hsc' => ?_
    · have hfirst : Meets (fun w : World ρ => PartlyDemoted vscr o w.objs ∧ Done vscr [] w.objs)
          (demote fates vscr sc) _ _ := meets_demote hsc
      exact hfirst.pre (fun _ hw => ⟨hw, fun _ h => absurd h not_mem_nil⟩)
    · have hnext : Meets (fun w : World ρ => PartlyDemoted vscr o w.objs ∧ Done vscr [sc] w.objs)
          (demote fates vscr sc') _ _ := meets_demote hsc'
      exact hnext.post (fun _ _ hw => ⟨hw.1, fun s hs => hw.2 s (mem_cons_of_mem sc' hs)⟩)
  refine .bind ((meets_collectErrors_nil hloop).pre (fun w hw n => .inl (by rw [hw.1])))
    fun errs => ?_
  refine meets_raiseDeferred.okOnly.post (fun _ w hw => ?_)
  obtain ⟨hpart, hdone⟩ := hw.1 hw.2
  exact ⟨hpart, fun sc hsc => hdone sc hsc sc mem_cons_self⟩

end Pass

/-- `status.state` says what `spec.replicationState` asks for. A resync has no
state of its own to report. -/
def StatusMatches (r : Replication) : Prop :=
  match r.spec with
  | .primary => r.status = .primary
  | .secondary => r.status = .secondary
  | .resync => True

/-- The classes have pairwise distinct group names. -/
def DistinctNames (m : Resource) : Prop :=
  ∀ sc ∈ m.storageClasses, ∀ sc' ∈ m.storageClasses,
    vgrNameForSC m sc = vgrNameForSC m sc' → sc = sc'

/-- There is a group for every class, and the primary's is the one that asks to
be primary. -/
structure OnePrimary (m : Resource) (o : Objects) : Prop where
  primary : m.primaryStorageClass ∈ m.storageClasses
  group : ∀ scName ∈ m.storageClasses, ∃ r, o (vgrNameForSC m scName) = some r ∧
    (r.spec = .primary ↔ scName = m.primaryStorageClass)

section Loop

variable {env : Env} {m : Resource} {o : Objects} {last : Option String} {scName : String}

/-- Every group that asks to be primary, other than the primary's, is confirmed. -/
def Reported (m : Resource) (o : Objects) : Prop :=
  ∀ scName ∈ m.storageClasses, scName ≠ m.primaryStorageClass →
    ∀ r, o (vgrNameForSC m scName) = some r → r.spec = .primary → r.status = .primary

/-- A class's turn is over: its group is there, and driven if it is the
primary's. -/
def Served (m : Resource) (scName : String) (o : Objects) : Prop :=
  ∃ r, o (vgrNameForSC m scName) = some r ∧ (scName = m.primaryStorageClass → r.spec = .primary)

theorem reported_of_matches (h : ∀ scName ∈ m.storageClasses, ∀ r,
    o (vgrNameForSC m scName) = some r → StatusMatches r) : Reported m o := by
  intro sc hsc _ r hr hspec
  have hmatch := h sc hsc r hr
  unfold StatusMatches at hmatch
  rw [hspec] at hmatch
  exact hmatch

/-- A new group starts Primary only for the primary class. -/
theorem Reported.create (h : Reported m o) (hd : DistinctNames m)
    (hsc : scName ∈ m.storageClasses) :
    Reported m (update o (vgrNameForSC m scName) (some (newGroup m scName))) := by
  intro sc hsc' hne r hr hspec
  by_cases hn : vgrNameForSC m sc = vgrNameForSC m scName
  · have hsame := hd sc hsc' scName hsc hn
    subst hsame
    rw [update_self, some.injEq] at hr
    subst hr
    rw [newGroup, Vvr.initialState, if_neg (by rw [beq_iff_eq]; exact hne)] at hspec
    cases hspec
  · rw [update_of_ne hn] at hr
    exact h sc hsc' hne r hr hspec

variable {scName' : String}

theorem Served.create (h : Served m scName' o) (hnone : o (vgrNameForSC m scName) = none)
    (r : Option Replication) :
    Served m scName' (update o (vgrNameForSC m scName) r) := by
  obtain ⟨r', hr', hp⟩ := h
  refine ⟨r', ?_, hp⟩
  rw [update_of_ne fun hn => ?_]
  · exact hr'
  · rw [hn, hnone] at hr'
    cases hr'

/-- Driving the primary's group touches no other. -/
theorem Reported.drive (h : Reported m o) (hd : DistinctNames m)
    (hp : m.primaryStorageClass ∈ m.storageClasses) :
    Reported m (setSpec o (vgrNameForSC m m.primaryStorageClass) .primary) := by
  intro sc hsc hne r hr hspec
  have hn : vgrNameForSC m sc ≠ vgrNameForSC m m.primaryStorageClass :=
    fun hn => hne (hd sc hsc _ hp hn)
  rw [setSpec, update_of_ne hn] at hr
  exact h sc hsc hne r hr hspec

theorem Served.drive (h : Served m scName' o) (vgrName : String) :
    Served m scName' (setSpec o vgrName .primary) := by
  obtain ⟨r, hr, hp⟩ := h
  unfold Served setSpec
  by_cases hn : vgrNameForSC m scName' = vgrName
  · subst hn
    rw [update_self, hr]
    exact ⟨_, rfl, fun _ => rfl⟩
  · rw [update_of_ne hn]
    exact ⟨r, hr, hp⟩

theorem keeps_reported_turn (hd : DistinctNames m) (hsc : scName ∈ m.storageClasses) :
    Keeps (fun w : World Own => Reported m w.objs) (ensureVGRAndWait env m last scName) := by
  refine keeps_turn (I := fun w => Reported m w.objs) (fun _ hw => hw)
    (fun w hw _ => hw.create hd hsc) fun w hw hp => ?_
  subst hp
  exact hw.drive hd hsc

theorem keeps_served_turn :
    Keeps (fun w : World Own => Served m scName' w.objs) (ensureVGRAndWait env m last scName) :=
  keeps_turn (I := fun w => Served m scName' w.objs) (fun _ hw => hw)
    (fun _ hw hnone => hw.create hnone _) fun _ hw _ => hw.drive _

/-- A class's turn, when it goes through, has served it. -/
theorem meets_turn : Yields (fun _ => True) (ensureVGRAndWait env m last scName)
      (fun _ w => Served m scName w.objs) := by
  have hensure : Yields (fun _ : World Own => True)
      (ensureObject env.fates (vgrNameForSC m scName) (newGroup m scName))
      (fun created w => if created then Served m scName w.objs
        else (w.objs (vgrNameForSC m scName)).isSome = true) := by
    refine (meets_ensureObject (I := fun _ => True) (L := fun created w =>
      if created then Served m scName w.objs
      else (w.objs (vgrNameForSC m scName)).isSome = true) (fun _ hw => hw) ?_ ?_).okOnly
    · intro w r _ hr
      show (w.objs (vgrNameForSC m scName)).isSome = true
      rw [hr]
      rfl
    · intro w _ _
      refine ⟨_, update_self .., fun hp => ?_⟩
      rw [newGroup, Vvr.initialState, if_pos (beq_iff_eq.mpr hp)]
  have hdrive : Yields (fun _ : World Own => True)
      (ensureReplicationState env.fates (vgrNameForSC m scName) .primary)
      (fun _ w => Served m scName w.objs) := by
    refine (meets_ensureState (K := fun w => Served m scName w.objs) (fun _ hw => hw) ?_ ?_).okOnly
    · exact fun w r _ hr hs => ⟨r, hr, fun _ => hs.resolve_right (by decide)⟩
    · intro w r _ hr _
      refine ⟨{ r with spec := .primary }, ?_, fun _ => rfl⟩
      dsimp only
      rw [setSpec, update_self, hr, map_some]
  have hvgr : Yields (fun _ : World Own => True) (ensureVGR env m scName)
      (fun _ w => Served m scName w.objs) := by
    refine .bind (keeps_external fun _ hw => hw) fun _ => ?_
    refine .bind (meets_withContext hensure) fun created => ?_
    cases created with
    | true => exact .ret
    | false =>
      simp only [Bool.false_eq_true, if_false]
      split
      next => refine .bind (hdrive.pre fun _ _ => trivial) fun _ => .ret
      next hp =>
        rw [beq_iff_eq] at hp
        refine .pure fun w hw => ?_
        obtain ⟨r, hr⟩ := isSome_iff_exists.mp hw
        exact ⟨r, hr, fun h => absurd h hp⟩
  have hwait : Keeps (fun w : World Own => Served m scName w.objs) (do
      let _ ← attempt (external env.toEnv "proceeding without confirmed VRC")
      pure ()) :=
    .bind (.attempt (keeps_external fun _ hw => hw)) fun _ => keeps_pure _
  refine .bind (meets_withContext hvgr) fun created => ?_
  split
  next => exact hwait.okOnly
  next => exact .ret

/-- The loop, when it goes through: every class is served, and what asks to be
primary beside the primary's is still confirmed. -/
theorem meets_loop (hd : DistinctNames m) : Yields (fun w : World Own => Reported m w.objs)
      (forEach (ensureVGRAndWait env m last)
        (allStorageClassesPrimaryFirst m.primaryStorageClass m.protectionTopology))
      (fun _ w => Reported m w.objs ∧ ∀ sc ∈ m.storageClasses, Served m sc w.objs) := by
  have hmem : ∀ sc, sc ∈ allStorageClassesPrimaryFirst m.primaryStorageClass
      m.protectionTopology ↔ sc ∈ m.storageClasses := fun _ => mem_insertionSort _
  refine (meets_forEach_all (B := fun sc w => Served m sc w.objs) (fun sc hsc => ?_)
    fun sc sc' hsc' => ?_).post (fun _ _ hw => ⟨hw.1, fun sc hsc => hw.2 sc ((hmem sc).mpr hsc)⟩)
  · exact ((keeps_reported_turn hd ((hmem sc).mp hsc)).and meets_turn).weaken
      (fun _ hw => ⟨hw, trivial⟩) (fun _ _ hw => hw) (fun _ _ _ => trivial)
  · exact ((keeps_reported_turn hd ((hmem sc').mp hsc')).and keeps_served_turn).okOnly

/-- The pass leaves the primary's group the only one. -/
theorem onePrimary_of_pass {o' : Objects} (hd : DistinctNames m)
    (hp : m.primaryStorageClass ∈ m.storageClasses) (hrep : Reported m o)
    (hserved : ∀ sc ∈ m.storageClasses, Served m sc o)
    (hpart : PartlyDemoted (passView m) o o')
    (hdone : Done (passView m) (demoted (passView m) o) o') : OnePrimary m o' := by
  refine ⟨hp, fun sc hsc => ?_⟩
  obtain ⟨r, hr, hprim⟩ := hserved sc hsc
  by_cases hne : sc = m.primaryStorageClass
  · -- no demoted class shares the primary's group
    rcases hpart (vgrNameForSC m sc) with hsame | ⟨⟨sc', hdem, hname⟩, _⟩
    · exact ⟨r, hsame.trans hr, fun _ => hne, hprim⟩
    · obtain ⟨hmem, _, hne'⟩ := mem_demoted.mp hdem
      have hsame : sc = sc' := hd sc hsc sc' hmem hname
      exact absurd (hsame.symm.trans hne) hne'
  · by_cases hspec : r.spec = .primary
    · -- it asked to be primary, so it was confirmed and has been demoted
      have hstatus := hrep sc hsc hne r hr hspec
      have hconf : confirmedIn o m.name sc = true := by
        show (o (vgrNameForSC m sc)).any isConfirmedPrimary = true
        rw [hr, any_some, isConfirmedPrimary, hspec, hstatus]
        rfl
      obtain ⟨r', hr', hs'⟩ := hdone sc (mem_demoted.mpr ⟨hsc, hconf, hne⟩)
      refine ⟨r', hr', fun h => ?_, fun h => absurd h hne⟩
      rw [hs'] at h
      cases h
    · rcases hpart (vgrNameForSC m sc) with hsame | ⟨_, hset⟩
      · exact ⟨r, hsame.trans hr, fun h => absurd h hspec, fun h => absurd h hne⟩
      · rw [hr] at hset
        exact ⟨_, hset, fun h => (by cases h), fun h => absurd h hne⟩

end Loop

section Whole

variable {env : Env} {v : Resource} {o : Objects}

/-- However the protected path is found, the primary class is one of the topology's afterwards. -/
theorem meets_ensurePpath : Yields (OnTheWay v o) (ensurePpath env)
      (fun _ w => OnTheWay v o w ∧ v.primaryStorageClass ∈ v.storageClasses) := by
  refine .bind meets_getMem fun m => ?_
  split
  next => exact Vvr.meets_createPpath.preLeft
  next =>
    refine .bind (Vvr.meets_primaryRest.preLeft) fun _ => ?_
    refine .assuming (p := v.primaryStorageClass ∈ v.storageClasses) (fun _ hw => hw.2)
      fun hmem => ?_
    refine .bind ((keeps_external calm_onTheWay.tick).okOnly.preLeft) fun _ => ?_
    split
    next =>
      exact (Vvr.keeps_losePpath calm_onTheWay.careful).okOnly.post fun _ _ hw => ⟨hw, hmem⟩
    next => exact .pure fun _ hw => ⟨hw, hmem⟩

/-- The classes are those of the topology. -/
theorem storageClasses_congr {m : Resource} (ht : m.protectionTopology = v.protectionTopology) :
    m.storageClasses = v.storageClasses := by
  unfold Vvr.VastVolumeReplication.storageClasses
  rw [ht]

theorem vgrNameForSC_congr {m : Resource} (hn : m.name = v.name) (sc : String) :
    vgrNameForSC m sc = vgrNameForSC v sc := by
  unfold vgrNameForSC
  rw [hn]

theorem OnePrimary.congr {m : Resource} {o' : Objects} (h : OnePrimary m o')
    (hn : m.name = v.name) (hp : m.primaryStorageClass = v.primaryStorageClass)
    (ht : m.protectionTopology = v.protectionTopology) : OnePrimary v o' := by
  have hscs := storageClasses_congr ht
  refine ⟨hp ▸ hscs ▸ h.primary, fun sc hsc => ?_⟩
  obtain ⟨r, hr, hiff⟩ := h.group sc (hscs ▸ hsc)
  rw [vgrNameForSC_congr hn] at hr
  rw [hp] at hiff
  exact ⟨r, hr, hiff⟩

theorem DistinctNames.congr {m : Resource} (h : DistinctNames v) (hn : m.name = v.name)
    (ht : m.protectionTopology = v.protectionTopology) : DistinctNames m := by
  have hscs := storageClasses_congr ht
  intro sc hsc sc' hsc' heq
  rw [vgrNameForSC_congr hn, vgrNameForSC_congr hn] at heq
  exact h sc (hscs ▸ hsc) sc' (hscs ▸ hsc') heq

theorem Reported.congr {m : Resource} (h : Reported v o) (hn : m.name = v.name)
    (hp : m.primaryStorageClass = v.primaryStorageClass)
    (ht : m.protectionTopology = v.protectionTopology) : Reported m o := by
  intro sc hsc hne r hr
  rw [vgrNameForSC_congr hn] at hr
  exact h sc (storageClasses_congr ht ▸ hsc) (hp ▸ hne) r hr

/-- The loop and the pass, when neither has an error. -/
theorem meets_ensureVGRs (hd : DistinctNames v) (hrep : Reported v o)
    (hp : v.primaryStorageClass ∈ v.storageClasses) :
    Yields (OnTheWay v o) (ensureVGRs env) (fun _ w => OnePrimary v w.objs) := by
  refine .bind meets_getMem fun m => ?_
  refine .assuming (p := m.name = v.name ∧ m.primaryStorageClass = v.primaryStorageClass ∧
      m.protectionTopology = v.protectionTopology)
    (fun w hw => hw.2 ▸ ⟨hw.1.2.1.1, hw.1.2.1.2.1, hw.1.2.2⟩) fun hm => ?_
  obtain ⟨hn, hpr, ht⟩ := hm
  have hd' : DistinctNames m := hd.congr hn ht
  have hp' : m.primaryStorageClass ∈ m.storageClasses := by
    rw [storageClasses_congr ht, hpr]
    exact hp
  refine .bind ((meets_collectErrors_nil (meets_loop hd')).pre
    (fun w hw => by rw [hw.1.1]; exact hrep.congr hn hpr ht)) fun errs => ?_
  -- the error of the pass, or what it has established from the loop's end
  have hpass : Yields (fun w : World Own => errs = [] →
        Reported m w.objs ∧ ∀ sc ∈ m.storageClasses, Served m sc w.objs)
      (attempt (syncVGRReplicationStates env.fates (passView m)))
      (fun e w => errs = [] → e = none → OnePrimary m w.objs) := by
    intro w hw
    have hsync := @meets_sync_ok Own env.fates (passView m) w.objs w rfl
    unfold attempt
    cases hrun : syncVGRReplicationStates env.fates (passView m) w with
    | error e w' =>
      intro _ he
      cases he
    | ok a w' =>
      rw [hrun] at hsync
      intro hnil _
      obtain ⟨hrep'', hserved⟩ := hw hnil
      exact onePrimary_of_pass hd' hp' hrep'' hserved hsync.1 hsync.2
  refine .bind hpass fun e => ?_
  refine meets_raiseDeferred.okOnly.post (fun _ w hw => ?_)
  obtain ⟨hnil, hnone⟩ := append_eq_nil_iff.mp hw.2
  rw [toList_eq_nil_iff] at hnone
  exact (hw.1 hnil hnone).congr hn hpr ht

theorem meets_reconcileLive (hd : DistinctNames v) (hrep : Reported v o)
    (hres : v.resync = false) (hpeers : hasUnresolvedPeers v.protectionTopology = false) :
    Yields (OnTheWay v o) (reconcileLive env) (fun _ w => OnePrimary v w.objs) := by
  have ht : TickFree (OnTheWay v o) := calm_onTheWay.tick
  refine .bind (keeps_external ht).okOnly fun _ => ?_
  refine .bind (keeps_external ht).okOnly fun _ => ?_
  refine .bind (Vvr.keeps_ensureFinalizer Vvr.finalizerFree_onTheWay).okOnly fun _ => ?_
  refine .bind (Vvr.keeps_ensurePrimaryStorageClass calm_onTheWay.careful).okOnly fun changed => ?_
  refine .bind (Vvr.keeps_backfillLabels ht).okOnly fun _ => ?_
  refine .bind (Vvr.keeps_recordStatus calm_onTheWay.careful).okOnly fun _ => ?_
  refine .bind meets_getMem fun m => ?_
  refine .assuming (p := m.resync = false ∧ hasUnresolvedPeers m.protectionTopology = false)
    (fun w hw => by rw [hw.2, hw.1.2.1.2.2.2, hw.1.2.2]; exact ⟨hres, hpeers⟩) fun hm => ?_
  rw [if_neg (by rw [hm.1]; decide), if_neg (by rw [hm.2]; decide)]
  refine .bind ((keeps_ensurePpathDirs calm_onTheWay.careful).okOnly.preLeft) fun _ => ?_
  refine .bind (Vvr.keeps_ensureTenants calm_onTheWay.careful).okOnly fun _ => ?_
  refine .bind meets_ensurePpath fun _ => ?_
  refine .assuming (fun _ hw => hw.2) fun hp => ?_
  exact (meets_ensureVGRs hd hrep hp).preLeft

theorem meets_reconcile {handleDeletion : Rec Unit} (hd : DistinctNames v) (hrep : Reported v o)
    (hlive : v.deleting = false) (hres : v.resync = false)
    (hpeers : hasUnresolvedPeers v.protectionTopology = false) :
    Yields (fun w => w.own.stored = some v ∧ w.objs = o) (reconcile env handleDeletion)
      (fun _ w => OnePrimary v w.objs) := by
  have hfetch : Yields (fun w : World Own => w.own.stored = some v ∧ w.objs = o)
      (Vvr.fetch env.toEnv) (fun b w => b = true ∧ w.own.mem = v ∧ w.objs = o) := by
    refine (meets_api (fun _ hw => hw) (fun _ _ => trivial) (fun _ _ _ => trivial) fun w hw => ?_)
    dsimp only
    rw [hw.1]
    exact ⟨rfl, rfl, hw.2⟩
  refine .bind hfetch fun b => ?_
  refine .assuming (p := b = true) (fun _ hw => hw.1) fun hb => ?_
  subst hb
  have hbody : Yields (fun w : World Own => true = true ∧ w.own.mem = v ∧ w.objs = o)
      (do if (← getMem).deleting then handleDeletion else reconcileLive env)
      (fun _ w => OnePrimary v w.objs) := by
    refine .bind meets_getMem fun m => ?_
    refine .assuming (p := m = v) (fun w hw => hw.2.trans hw.1.2.1) fun hm => ?_
    subst hm
    rw [if_neg (by rw [hlive]; decide)]
    refine (meets_reconcileLive hd hrep hres hpeers).pre (fun w hw => ?_)
    rw [hw.2]
    exact ⟨hw.1.2.2, ⟨rfl, rfl, rfl, rfl⟩, rfl⟩
  refine .deferring hbody (fun _ => Vvr.keeps_reconcileSyncStatus calm_objs.careful) fun _ => ?_
  exact (.trivial _)

end Whole

/-- **One primary**: as long as csi-addons has caught up with the groups, a reconcile without
error that gets to them leaves one for every class and the primary's as the only one that asks to
be primary. -/
theorem reconcile_one_primary {env : Env} {handleDeletion : Rec Unit} {v : Resource}
    {w w' : World Own} (hstored : w.own.stored = some v) (hlive : v.deleting = false)
    (hresync : v.resync = false) (hpeers : hasUnresolvedPeers v.protectionTopology = false)
    (hnames : DistinctNames v)
    (hmatch : ∀ scName ∈ v.storageClasses, ∀ r, w.objs (vgrNameForSC v scName) = some r →
      StatusMatches r)
    (hrun : reconcile env handleDeletion w = .ok () w') : OnePrimary v w'.objs :=
  (meets_reconcile hnames (reported_of_matches hmatch) hlive hresync hpeers).ok ⟨hstored, rfl⟩ hrun

def switched : Resource where
  name := "v"
  primaryStorageClass := "b"
  protectionTopology := [⟨"a", "b", "peer"⟩]

def beforeSwitch : World Own where
  objs := fun vgrName => if vgrName = "v-a" then some ⟨.primary, .primary⟩ else none
  own := ⟨some switched, switched⟩

/-- The switch in one reconcile: the new group is made Primary and the old one is demoted. -/
theorem reconcile_one_primary_switch :
    ∃ w', reconcile {} (pure ()) beforeSwitch = .ok () w' ∧ OnePrimary switched w'.objs := by
  have hscs : switched.storageClasses = ["a", "b"] := by decide +kernel
  have hnames : DistinctNames switched := by
    unfold DistinctNames
    rw [hscs]
    decide +kernel
  have hok : isOk (reconcile {} (pure ()) beforeSwitch) = true := by decide +kernel
  obtain ⟨⟨⟩, w', hrun⟩ := exists_ok_of_isOk hok
  refine ⟨w', hrun, ?_⟩
  refine reconcile_one_primary rfl rfl rfl (by decide +kernel) hnames (fun sc hsc r hr => ?_) hrun
  rw [hscs, mem_cons, mem_singleton] at hsc
  rcases hsc with rfl | rfl
  · have ha : beforeSwitch.objs (vgrNameForSC switched "a") = some ⟨.primary, .primary⟩ := by
      decide +kernel
    rw [ha, some.injEq] at hr
    subst hr
    rfl
  · have hb : beforeSwitch.objs (vgrNameForSC switched "b") = none := by decide +kernel
    rw [hb] at hr
    cases hr

end VastCsi.Ext.Vscr
