import VastCsi.Ext.CsiAddons

/-!
# The split-brain pass over VolumeGroupReplications

`syncVGRReplicationStates` is documented to ask the VAST clusters which of several
confirmed-primary groups is the true source, as the VolumeReplication counterpart does. This one
takes `spec.primaryStorageClass` for the true primary and asks nobody: it demotes every other
confirmed-primary group.
-/

namespace VastCsi.Ext.Vscr

open Lib CsiAddons List Function

structure VastStorageClassReplication where
  name : String
  primaryStorageClass : String
  protectionTopology : List ReplicationTarget

def ensureReplicationState {ρ : Type} (fates : Fates) (vgrName : String)
    (desired : ReplicationState) : Proc ρ Unit :=
  ensureState (fun _ => false) fates vgrName desired

def demote {ρ : Type} (fates : Fates) (vscr : VastStorageClassReplication) (scName : String) :
    Proc ρ Unit :=
  withContext s!"SC {scName}" (ensureReplicationState fates (nameForSC vscr.name scName) .secondary)

def syncVGRReplicationStates {ρ : Type} (fates : Fates) (vscr : VastStorageClassReplication) :
    Proc ρ Unit := do
  let candidates ← confirmedClasses fates vscr.name (allStorageClasses vscr.protectionTopology)
  let truePrimarySC := vscr.primaryStorageClass
  let errs ← collectErrors (demote fates vscr) (candidates.filter (· ≠ truePrimarySC))
  raiseDeferred errs

section Rule

variable (vscr : VastStorageClassReplication) (role : String → String) (o o' : Objects)

/-- Some confirmed-primary class whose group is another one has a protected
path with the role "source". -/
def OtherSource (vgrName : String) : Prop :=
  ∃ scName ∈ allStorageClasses vscr.protectionTopology,
    confirmedIn o vscr.name scName = true ∧ nameForSC vscr.name scName ≠ vgrName ∧
      isSource (role scName) = true

/-- All that changes is the desired state of confirmed primaries, to Secondary, and of those only
where another confirmed primary is the source. -/
def SplitBrainRule : Prop :=
  ∀ vgrName, o' vgrName ≠ o vgrName → (o vgrName).any isConfirmedPrimary = true ∧
      o' vgrName = (o vgrName).map (fun r => { r with spec := .secondary }) ∧
      OtherSource vscr role o vgrName

/-- Every confirmed-primary class that is not the spec's primary one has
another confirmed primary for source. -/
def SourceElsewhere : Prop :=
  ∀ scName ∈ allStorageClasses vscr.protectionTopology, scName ≠ vscr.primaryStorageClass →
    confirmedIn o vscr.name scName = true → OtherSource vscr role o (nameForSC vscr.name scName)

def demoted : List String :=
  ((allStorageClasses vscr.protectionTopology).filter (confirmedIn o vscr.name)).filter
    (· ≠ vscr.primaryStorageClass)

end Rule

theorem mem_demoted {vscr : VastStorageClassReplication} {o : Objects} {scName : String} :
    scName ∈ demoted vscr o ↔ scName ∈ allStorageClasses vscr.protectionTopology ∧
      confirmedIn o vscr.name scName = true ∧ scName ≠ vscr.primaryStorageClass := by
  simp only [demoted, mem_filter, decide_eq_true_eq, and_assoc]

section Pass

variable {ρ : Type} {fates : Fates} {vscr : VastStorageClassReplication} {o o' : Objects}
  {scName : String}

/-- Part of the way: groups are as they were, or demoted candidates. -/
def PartlyDemoted (vscr : VastStorageClassReplication) (o o' : Objects) : Prop :=
  ∀ vgrName, o' vgrName = o vgrName ∨
    (∃ scName ∈ demoted vscr o, vgrName = nameForSC vscr.name scName) ∧
      o' vgrName = (o vgrName).map (fun r => { r with spec := .secondary })

/-- One more candidate is demoted. -/
theorem PartlyDemoted.setSpec (h : PartlyDemoted vscr o o') (hsc : scName ∈ demoted vscr o) :
    PartlyDemoted vscr o (setSpec o' (nameForSC vscr.name scName) .secondary) := by
  intro vgrName
  unfold CsiAddons.setSpec
  by_cases hn : vgrName = nameForSC vscr.name scName
  · subst hn
    refine .inr ⟨⟨scName, hsc, rfl⟩, ?_⟩
    rw [update_self]
    rcases h (nameForSC vscr.name scName) with h | ⟨_, h⟩
    · rw [h]
    · rw [h, Option.map_map]
      rfl
  · rw [update_of_ne hn]
    exact h vgrName

/-- Demoting a candidate stays on the way, at either exit. -/
theorem keeps_demote (hsc : scName ∈ demoted vscr o) :
    Keeps (fun w : World ρ => PartlyDemoted vscr o w.objs) (demote fates vscr scName) :=
  meets_withContext (keeps_ensureState (fun _ hw => hw) fun _ _ hw _ _ => hw.setSpec hsc)

/-- Whatever the fate of the calls, the pass changes nothing but candidates
that are not the spec's primary, to Secondary. -/
theorem meets_sync : Meets (fun w : World ρ => w.objs = o) (syncVGRReplicationStates fates vscr)
      (fun _ w => PartlyDemoted vscr o w.objs) (fun _ w => PartlyDemoted vscr o w.objs) := by
  have hrefl : ∀ w : World ρ, w.objs = o → PartlyDemoted vscr o w.objs :=
    fun w h _ => .inl (by rw [h])
  refine .bind ((meets_confirmedClasses (fun _ hw => hw) fun _ hw => hw).raise
    (fun _ => hrefl)) fun candidates => ?_
  refine .assuming (p := candidates = _) (fun _ hw => hw.2) fun hc => ?_
  subst hc
  have hloop : Meets (fun w : World ρ => PartlyDemoted vscr o w.objs)
      (collectErrors (demote fates vscr) (demoted vscr o))
      (fun _ w => PartlyDemoted vscr o w.objs) (fun _ w => PartlyDemoted vscr o w.objs) :=
    .collectErrors fun _ hsc => keeps_demote hsc
  refine .bind (hloop.pre fun w hw => hrefl w hw.1) fun errs => ?_
  exact meets_raiseDeferred.post (fun _ _ hw => hw.1)

/-- The groups of these classes are set to Secondary. -/
def Done (vscr : VastStorageClassReplication) (scs : List String) (o : Objects) : Prop :=
  ∀ scName ∈ scs, ∃ r, o (nameForSC vscr.name scName) = some r ∧ r.spec = .secondary

variable {scs : List String}

theorem Done.setSpec (h : Done vscr scs o) (vgrName : String) :
    Done vscr scs (setSpec o vgrName .secondary) := by
  intro sc hsc
  obtain ⟨r, hr, hs⟩ := h sc hsc
  unfold CsiAddons.setSpec
  by_cases hn : nameForSC vscr.name sc = vgrName
  · subst hn
    rw [update_self, hr]
    exact ⟨_, rfl, rfl⟩
  · rw [update_of_ne hn]
    exact ⟨r, hr, hs⟩

/-- A candidate's group is there all along. -/
theorem PartlyDemoted.isSome (h : PartlyDemoted vscr o o') (hsc : scName ∈ demoted vscr o) :
    (o' (nameForSC vscr.name scName)).isSome = true := by
  have hconf := (mem_demoted.mp hsc).2.1
  unfold confirmedIn at hconf
  cases ho : o (nameForSC vscr.name scName) with
  | none =>
    rw [ho] at hconf
    cases hconf
  | some r =>
    rcases h (nameForSC vscr.name scName) with h | ⟨_, h⟩
    · rw [h, ho]
      rfl
    · rw [h, ho]
      rfl

/-- Demoting a candidate, when it succeeds, sets it to Secondary. -/
theorem meets_demote (hsc : scName ∈ demoted vscr o) :
    Yields (fun w : World ρ => PartlyDemoted vscr o w.objs ∧ Done vscr scs w.objs)
      (demote fates vscr scName)
      (fun _ w => PartlyDemoted vscr o w.objs ∧ Done vscr (scName :: scs) w.objs) := by
  refine (meets_withContext (meets_ensureState (fun _ hw => hw) ?_ ?_)).okOnly
  · intro w r hw hr hs
    have hspec : r.spec = .secondary := hs.resolve_right (by decide)
    exact ⟨hw.1, forall_mem_cons.mpr ⟨⟨r, hr, hspec⟩, hw.2⟩⟩
  · intro w r hw hr _
    refine ⟨hw.1.setSpec hsc, forall_mem_cons.mpr ⟨?_, hw.2.setSpec _⟩⟩
    dsimp only
    rw [CsiAddons.setSpec, update_self, hr]
    exact ⟨_, rfl, rfl⟩

/-- With every call answered it succeeds. -/
theorem meets_demote_steady (hsc : scName ∈ demoted vscr o) :
    Finishes (fun w : World ρ => PartlyDemoted vscr o w.objs ∧ Done vscr scs w.objs)
      (demote steady vscr scName)
      (fun _ w => PartlyDemoted vscr o w.objs ∧ Done vscr (scName :: scs) w.objs) := by
  have hsteady : Finishes (fun w : World ρ => (w.objs (nameForSC vscr.name scName)).isSome = true)
      (demote steady vscr scName) (fun _ _ => True) :=
    meets_withContext ensureState_steady
  exact ((meets_demote hsc).and hsteady).weaken (fun w hw => ⟨hw, hw.1.isSome hsc⟩)
    (fun _ _ hw => hw.1) (fun _ _ hw => hw.2)

/-- The loop demotes every candidate it is given. -/
theorem meets_demoteAll_steady : ∀ {l scs : List String}, (∀ sc ∈ l, sc ∈ demoted vscr o) →
      Finishes (fun w : World ρ => PartlyDemoted vscr o w.objs ∧ Done vscr scs w.objs)
        (collectErrors (demote steady vscr) l)
        (fun errs w => errs = [] ∧ Done vscr (l.reverse ++ scs) w.objs)
  | [], _, _ => .pure fun _ hw => ⟨rfl, hw.2⟩
  | sc :: l, scs, h => by
    refine .bind (meets_attempt_none (meets_demote_steady (h sc mem_cons_self))) fun r => ?_
    refine .assuming (p := r = none) (fun _ hw => hw.1) fun hr => ?_
    subst hr
    refine .bind ((meets_demoteAll_steady fun sc' hsc' =>
      h sc' (mem_cons_of_mem sc hsc')).pre fun _ hw => hw.2) fun errs => ?_
    refine .pure fun w hw => ⟨hw.1, ?_⟩
    rw [reverse_cons, append_assoc]
    exact hw.2

/-- With every call answered all candidates but the spec's primary end up
Secondary. -/
theorem sync_steady (vscr : VastStorageClassReplication) (w : World ρ) :
    Done vscr (demoted vscr w.objs) (endState (syncVGRReplicationStates steady vscr w)).objs := by
  have hclasses : Finishes (fun w' : World ρ => w'.objs = w.objs)
      (confirmedClasses steady vscr.name (allStorageClasses vscr.protectionTopology))
      (fun cs w' => w'.objs = w.objs ∧
        cs = (allStorageClasses vscr.protectionTopology).filter (confirmedIn w.objs vscr.name)) :=
    ((meets_confirmedClasses (fun _ hw => hw) fun _ hw => hw).and confirmedClasses_steady).weaken
      (fun _ hw => ⟨hw, trivial⟩) (fun _ _ hw => hw.1) (fun _ _ hw => hw.2)
  have hpass : Finishes (fun w' : World ρ => w'.objs = w.objs)
      (syncVGRReplicationStates steady vscr)
      (fun _ w' => Done vscr (demoted vscr w.objs) w'.objs) := by
    refine .bind hclasses fun candidates => ?_
    refine .assuming (p := candidates = _) (fun _ hw => hw.2) fun hc => ?_
    subst hc
    have hloop : Finishes (fun w' : World ρ => PartlyDemoted vscr w.objs w'.objs ∧
          Done vscr [] w'.objs) (collectErrors (demote steady vscr) (demoted vscr w.objs))
        (fun errs w' => errs = [] ∧ Done vscr ((demoted vscr w.objs).reverse ++ []) w'.objs) :=
      meets_demoteAll_steady fun _ h => h
    refine .bind (hloop.pre ?_) fun errs => ?_
    · rintro w' ⟨hw', _⟩
      refine ⟨fun n => .inl (by rw [hw']), fun sc hsc => ?_⟩
      cases hsc
    · refine .assuming (p := errs = []) (fun _ hw => hw.1) fun he => ?_
      subst he
      refine .pure fun w' hw' sc hsc => hw'.2 sc ?_
      rw [append_nil, mem_reverse]
      exact hsc
  cases hrun : syncVGRReplicationStates steady vscr w with
  | ok a w' => exact hpass.ok rfl hrun
  | error e w' => exact (hpass.error rfl hrun).elim

end Pass

/-- **The split-brain rule** is followed exactly in the states where every confirmed-primary class
other than the spec's primary has another confirmed primary for source. -/
theorem syncVGR_rule_iff {ρ : Type} (vscr : VastStorageClassReplication)
    (role : String → String) (w : World ρ) :
    (∀ fates, SplitBrainRule vscr role w.objs
      (endState (syncVGRReplicationStates fates vscr w)).objs) ↔
      SourceElsewhere vscr role w.objs := by
  constructor
  · intro hrule scName hmem hne hconf
    -- with every call answered this candidate is demoted
    obtain ⟨r', hr', hs'⟩ := sync_steady vscr w scName (mem_demoted.mpr ⟨hmem, hconf, hne⟩)
    refine (hrule steady _ fun hsame => ?_).2.2
    unfold confirmedIn at hconf
    rw [← hsame, hr'] at hconf
    have hprim : r'.spec = .primary := by
      have := (Bool.and_eq_true _ _).mp hconf
      exact beq_iff_eq.mp this.1
    rw [hs'] at hprim
    cases hprim
  · intro hsrc fates vgrName hne
    have hpart : PartlyDemoted vscr w.objs
        (endState (syncVGRReplicationStates fates vscr w)).objs := meets_sync.endState rfl
    rcases hpart vgrName with h | ⟨⟨scName, hsc, rfl⟩, h⟩
    · exact absurd h hne
    · obtain ⟨hmem, hconf, hprim⟩ := mem_demoted.mp hsc
      exact ⟨hconf, h, hsrc scName hmem hprim hconf⟩

def failover : VastStorageClassReplication where
  name := "v"
  primaryStorageClass := "b"
  protectionTopology := [⟨"a", "b", "peer"⟩]

def halfWay : World Unit where
  objs := fun vgrName =>
    if vgrName = "v-a" then some ⟨.primary, .primary⟩
    else if vgrName = "v-b" then some ⟨.primary, .secondary⟩
    else none
  own := ()

/-- One candidate, which is the source of its protected path, and the pass sets it to Secondary.
-/
theorem sync_demotes_only_primary :
    ¬ SplitBrainRule failover (fun scName => if scName = "a" then "Source" else "Destination")
      halfWay.objs (endState (syncVGRReplicationStates steady failover halfWay)).objs := by
  intro hrule
  have hscs : allStorageClasses failover.protectionTopology = ["a", "b"] := by decide +kernel
  have hchanged : (endState (syncVGRReplicationStates steady failover halfWay)).objs "v-a" ≠
      halfWay.objs "v-a" := by decide +kernel
  obtain ⟨scName, hmem, hconf, hother, _⟩ := (hrule "v-a" hchanged).2.2
  rw [hscs, mem_cons, mem_singleton] at hmem
  rcases hmem with rfl | rfl
  · exact absurd hother (by decide +kernel)
  · exact absurd hconf (by decide +kernel)

end VastCsi.Ext.Vscr
