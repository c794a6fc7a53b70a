import VastCsi.Ext.PolicyScope

/-!
# When owners get at each other's objects

If two owners have a cluster in common and the pieces of their names are the same, there is a run
in which one of them takes or deletes an object of the other: both are validated while there is
nothing yet, one makes its policies and its protected path, and the other comes under the same
name.
-/

namespace VastCsi.Ext.Policies

open Lib CsiAddons Function List Option

section System

variable {ι κ : Type} [DecidableEq ι] [DecidableEq κ] {F : Fleet ι κ} {i j : ι} {s s' : Vast ι κ}

theorem step_validateOnce (h : s.finalizer i = false)
    (hfree : s.ppaths (F.ppathAt i (F.owners i).primaryStorageClass) = none) :
    step F s (.validateOnce i true) = some { s with finalizer := update s.finalizer i true } := by
  rw [step, if_neg (by rw [h]; exact Bool.false_ne_true), hfree]
  rfl

variable {e : ReplicationEdge}

theorem step_ensurePolicy (hfin : s.finalizer i = true) (hr : F.Resolved i)
    (he : e ∈ edges (F.owners i)) :
    step F s (.ensurePolicy i e) =
      some { s with policies := s.policies.ensure (F.policyAt i e.sideA e.peerName) i } :=
  if_pos ⟨hfin, hr, he⟩

theorem step_mirrorPolicy (he : e ∈ edges (F.owners i))
    (h : s.policies (F.policyAt i e.sideA e.peerName) = some i) :
    step F s (.mirrorPolicy i e) =
      some { s with policies := s.policies.ensure (F.policyAt i e.sideB e.peerName) i } :=
  if_pos ⟨he, h⟩

theorem step_ensurePpath (hfin : s.finalizer i = true) (hr : F.Resolved i)
    (hd : Discovered F i s) (hcan : canEnsurePpath F i s = true) :
    step F s (.ensurePpath i) = some { s with
      ppaths := s.ppaths.ensure (F.ppathAt i (F.owners i).primaryStorageClass) i } :=
  if_pos ⟨hfin, hr, hd, hcan⟩

theorem step_mirrorPpath (he : e ∈ edges (F.owners i))
    (hA : e.sideA = (F.owners i).primaryStorageClass)
    (h : s.ppaths (F.ppathAt i (F.owners i).primaryStorageClass) = some i) :
    step F s (.mirrorPpath i e) =
      some { s with ppaths := s.ppaths.ensure (F.ppathAt i e.sideB) i } :=
  if_pos ⟨he, hA, h⟩

theorem step_deletePolicy {scName name : String} (hfin : s.finalizer i = true)
    (h : (scName, name) ∈ protectionPolicyNamesByStorageClass (F.owners i).name
      (F.owners i).primaryStorageClass (F.owners i).protectionTopology) :
    step F s (.deletePolicy i scName name) =
      some { s with policies := s.policies.remove (F.clusterOf scName, name) } :=
  if_pos ⟨hfin, h⟩

/-- What one owner's discovery changes: it only adds policies, of its own. -/
structure Grown (i : ι) (s s' : Vast ι κ) : Prop where
  finalizer : s'.finalizer = s.finalizer
  ppaths : s'.ppaths = s.ppaths
  keeps : ∀ k j, s.policies k = some j → s'.policies k = some j
  adds : ∀ k j, s'.policies k = some j → s.policies k = some j ∨ j = i

omit [DecidableEq ι] [DecidableEq κ] in
theorem Grown.refl (i : ι) (s : Vast ι κ) : Grown i s s :=
  ⟨rfl, rfl, fun _ _ => id, fun _ _ => .inl⟩

omit [DecidableEq ι] [DecidableEq κ] in
theorem Grown.trans {t : Vast ι κ} (h : Grown i s s') (h' : Grown i s' t) : Grown i s t :=
  ⟨h'.finalizer.trans h.finalizer, h'.ppaths.trans h.ppaths,
    fun k j hk => h'.keeps k j (h.keeps k j hk),
    fun k j hk => (h'.adds k j hk).elim (h.adds k j) .inr⟩

omit [DecidableEq ι] in
theorem Grown.ensure (i : ι) (s : Vast ι κ) (k : κ × String) :
    Grown i s { s with policies := s.policies.ensure k i } :=
  ⟨rfl, rfl, fun _ _ => Registry.ensure_of_some,
    fun _ _ h => (Registry.ensure_eq_some h).imp id fun h => h.2.2⟩

def Linked (F : Fleet ι κ) (i : ι) (e : ReplicationEdge) (s : Vast ι κ) : Prop :=
  (s.policies (F.policyAt i e.sideA e.peerName)).isSome ∧
    (s.policies (F.policyAt i e.sideB e.peerName)).isSome

omit [DecidableEq ι] [DecidableEq κ] in
theorem Linked.grown (h : Linked F i e s) (hg : Grown j s s') : Linked F i e s' := by
  obtain ⟨⟨a, ha⟩, ⟨b, hb⟩⟩ := And.imp isSome_iff_exists.mp isSome_iff_exists.mp h
  exact ⟨isSome_iff_exists.mpr ⟨a, hg.keeps _ _ ha⟩, isSome_iff_exists.mpr ⟨b, hg.keeps _ _ hb⟩⟩

/-- One turn of discovery, and VAST mirrors the policy. -/
theorem exists_linked (hnc : NeverCross F) (h : Reachable (step F) Vast.empty s)
    (hfin : s.finalizer i = true) (hr : F.Resolved i) (he : e ∈ edges (F.owners i)) :
    ∃ s', Reachable (step F) Vast.empty s' ∧ Grown i s s' ∧ Linked F i e s' := by
  have hstep := step_ensurePolicy hfin hr he
  -- it crosses nobody, so the policy on side A is this owner's, and is mirrored
  have hA := Registry.ensure_self_of_not_crosses (hnc s h _ _ hstep)
  have hreach := h.tail hstep
  have hmirror := hreach.tail (step_mirrorPolicy he hA)
  exact ⟨_, hmirror, (Grown.ensure i s _).trans (Grown.ensure i _ _),
    isSome_iff_exists.mpr ⟨i, Registry.ensure_of_some hA⟩,
    isSome_iff_exists.mpr ⟨_, Registry.ensure_self⟩⟩

/-- All of discovery. -/
theorem exists_linked_all (hnc : NeverCross F) (hr : F.Resolved i) :
    ∀ {es : List ReplicationEdge} {s : Vast ι κ}, (∀ e ∈ es, e ∈ edges (F.owners i)) →
      Reachable (step F) Vast.empty s → s.finalizer i = true →
      ∃ s', Reachable (step F) Vast.empty s' ∧ Grown i s s' ∧ ∀ e ∈ es, Linked F i e s'
  | [], s, _, h, _ => ⟨s, h, .refl i s, fun _ he => nomatch he⟩
  | e :: es, s, hes, h, hfin => by
    obtain ⟨t, ht, hst, hlink⟩ := exists_linked hnc h hfin hr (hes e mem_cons_self)
    obtain ⟨s', hs', hts, hall⟩ := exists_linked_all hnc hr
      (fun e' he' => hes e' (mem_cons_of_mem e he')) ht (by rw [hst.finalizer]; exact hfin)
    refine ⟨s', hs', hst.trans hts, fun e' he' => ?_⟩
    rcases mem_cons.mp he' with rfl | he'
    · exact hlink.grown hts
    · exact hall e' he'

/-- Two owners with their finalizers, and nothing on the clusters. -/
theorem exists_validated (F : Fleet ι κ) (hij : i ≠ j) :
    ∃ s, Reachable (step F) Vast.empty s ∧ s.finalizer i = true ∧ s.finalizer j = true ∧
      (∀ k, s.policies k = none) ∧ ∀ k, s.ppaths k = none := by
  have h₀ : Reachable (step F) Vast.empty (Vast.empty : Vast ι κ) := ⟨[], rfl⟩
  have h₁ := h₀.tail (step_validateOnce (i := i) rfl rfl)
  have h₂ := h₁.tail (step_validateOnce (i := j) (update_of_ne hij.symm ..) rfl)
  refine ⟨_, h₂, ?_, update_self .., fun _ => rfl, fun _ => rfl⟩
  exact (update_of_ne hij ..).trans (update_self ..)

theorem pieces_ne_of_neverCross (hnc : NeverCross F) (hij : i ≠ j) (hr : F.Resolved j)
    {e' : ReplicationEdge} (he : e ∈ edges (F.owners i)) (hp : e.peerName ≠ "")
    (he' : e' ∈ edges (F.owners j)) (hmeet : Meet F e e') : pieces F i e ≠ pieces F j e' := by
  intro hpieces
  obtain ⟨sc, sc', hsc, hsc', hk⟩ := hmeet
  obtain ⟨s, hreach, hi, hj, hpol, -⟩ := exists_validated F hij
  obtain ⟨t, ht, hgrown, hlink⟩ := exists_linked hnc hreach hj hr he'
  -- the policy of `j` on the common cluster
  have hkey : F.policyAt i sc e.peerName = F.policyAt j sc' e'.peerName :=
    Prod.ext hk (policyName_eq_iff.mpr hpieces)
  have hsome : (t.policies (F.policyAt j sc' e'.peerName)).isSome := by
    rcases hsc' with rfl | rfl
    · exact hlink.1
    · exact hlink.2
  obtain ⟨l, hl⟩ := isSome_iff_exists.mp hsome
  have hlj : l = j := by
    refine (hgrown.adds _ _ hl).resolve_left ?_
    rw [hpol]
    exact (some_ne_none l).symm
  -- which `i` deletes
  obtain ⟨d, hd, rfl⟩ := mem_newReplicationEdgesList.mp he
  rw [directed_peerName] at hp hkey
  have hmem : (sc, policyName (F.owners i).name d.peerName) ∈
      protectionPolicyNamesByStorageClass (F.owners i).name (F.owners i).primaryStorageClass
        (F.owners i).protectionTopology :=
    mem_protectionPolicyNames.mpr ⟨d, hd, hp, directed_joins.mp hsc, rfl⟩
  have hfin : t.finalizer i = true := by rw [hgrown.finalizer]; exact hi
  have hfound : t.policies (F.policyAt i sc d.peerName) = some l := by rw [hkey]; exact hl
  exact hnc t ht _ _ (step_deletePolicy hfin hmem) ⟨l, hfound, hlj ▸ hij.symm⟩

/-- Discovery of an owner that has its finalizer. -/
theorem exists_discovered (hnc : NeverCross F) (hr : F.Resolved i)
    (h : Reachable (step F) Vast.empty s) (hfin : s.finalizer i = true) :
    ∃ s', Reachable (step F) Vast.empty s' ∧ Grown i s s' ∧ Discovered F i s' :=
  exists_linked_all hnc hr (fun _ => id) h hfin

omit [DecidableEq ι] [DecidableEq κ] in
theorem Discovered.grown (h : Discovered F i s) (hg : Grown j s s') : Discovered F i s' :=
  fun e he => Linked.grown (h e he) hg

/-- An owner that has come to its protected path finds none of another's. -/
theorem not_found_of_neverCross (hnc : NeverCross F) (h : Reachable (step F) Vast.empty s)
    (hfin : s.finalizer i = true) (hr : F.Resolved i) (hd : Discovered F i s)
    (hfirst : (firstLink (F.owners i)).isSome) :
    s.ppaths (F.ppathAt i (F.owners i).primaryStorageClass) ≠ some j ∨ j = i := by
  by_contra hcon
  rw [not_or, not_not] at hcon
  obtain ⟨hfound, hji⟩ := hcon
  obtain ⟨first, hfirst⟩ := isSome_iff_exists.mp hfirst
  have hcan : canEnsurePpath F i s = true := by
    rw [canEnsurePpath, hfirst, hfound]
    rfl
  exact hnc s h _ _ (step_ensurePpath hfin hr hd hcan) ⟨j, hfound, hji⟩

/-- An owner that can have a protected path gets one, on each of its clusters. -/
theorem exists_ppath (h : Reachable (step F) Vast.empty s) (hfin : s.finalizer j = true)
    (hd : Discovered F j s) (hnone : ∀ k, s.ppaths k = none) (hc : CanCreate F j) {sc : String}
    (hsc : PpathOn F j sc) :
    ∃ s', Reachable (step F) Vast.empty s' ∧ s'.finalizer = s.finalizer ∧
      s'.policies = s.policies ∧ s'.ppaths (F.ppathAt j sc) = some j := by
  obtain ⟨hr, first, hfirst, hne⟩ := hc
  have hcan : canEnsurePpath F j s = true := by
    rw [canEnsurePpath, hfirst, hnone]
    exact bne_iff_ne.mpr hne
  have hensure := h.tail (step_ensurePpath hfin hr hd hcan)
  have hall : Registry.Owned (fun l _ => l = j) s.ppaths := by
    intro k l hl
    rw [hnone] at hl
    cases hl
  have hown := hall.ensure (k := F.ppathAt j (F.owners j).primaryStorageClass) fun _ => rfl
  have hprimary := Registry.ensure_self_of_not_crosses
    (hall.not_crosses (k := F.ppathAt j (F.owners j).primaryStorageClass) fun _ => id)
  rcases hsc with rfl | ⟨e, he, heA, rfl⟩
  · exact ⟨_, hensure, rfl, rfl, hprimary⟩
  · have hmirror := hensure.tail (step_mirrorPpath he heA hprimary)
    exact ⟨_, hmirror, rfl, rfl, Registry.ensure_self_of_not_crosses (hown.not_crosses fun _ => id)⟩

theorem name_ne_of_neverCross (hnc : NeverCross F) (hij : i ≠ j) (hr : F.Resolved i)
    (hfirst : (firstLink (F.owners i)).isSome) (hc : CanCreate F j) {sc : String}
    (hsc : PpathOn F j sc)
    (hk : F.clusterOf (F.owners i).primaryStorageClass = F.clusterOf sc) :
    (F.owners i).name ≠ (F.owners j).name := by
  intro hname
  obtain ⟨s, hreach, hi, hj, -, hnone⟩ := exists_validated F hij
  -- both discover their policies, and `j` makes its protected path
  obtain ⟨s₁, h₁, hg₁, hd₁⟩ := exists_discovered hnc hr hreach hi
  obtain ⟨s₂, h₂, hg₂, hd₂⟩ := exists_discovered hnc hc.1 h₁ (by rw [hg₁.finalizer]; exact hj)
  obtain ⟨s₃, h₃, hfin, hpol, hfound⟩ := exists_ppath h₂
    (by rw [hg₂.finalizer, hg₁.finalizer]; exact hj) hd₂
    (by rw [hg₂.ppaths, hg₁.ppaths]; exact hnone) hc hsc
  have hd₃ : Discovered F i s₃ := by
    intro e he
    rw [hpol]
    exact hd₁.grown hg₂ e he
  -- which `i` then finds under its own name
  have hkey : F.ppathAt i (F.owners i).primaryStorageClass = F.ppathAt j sc := Prod.ext hk hname
  rcases not_found_of_neverCross hnc h₃ (by rw [hfin, hg₂.finalizer, hg₁.finalizer]; exact hi) hr
    hd₃ hfirst with h | h
  · rw [hkey] at h
    exact h hfound
  · exact hij h.symm

/-- **Whose policy is it.** No owner ever takes or deletes another's object exactly if
the names keep apart. -/
theorem never_cross_iff : NeverCross F ↔ ∀ i j, i ≠ j → NamesApart F i j := by
  refine ⟨fun h i j hij => ⟨?_, ?_⟩, never_cross_of_namesApart⟩
  · intro hr e he hp e' he' hmeet
    exact pieces_ne_of_neverCross h hij hr he hp he' hmeet
  · intro hr hfirst hc sc hsc hk
    exact name_ne_of_neverCross h hij hr hfirst hc hsc hk

end System

/-- `a` with the peer `b-c` and `a-b` with the peer `c`, between the same clusters. -/
def dashedOwners : Bool → Parent
  | true =>
    { kind := .vscr, namespaceName := "default", name := "a", primaryStorageClass := "east-1"
      protectionTopology := [⟨"east-1", "west-1", "b-c"⟩] }
  | false =>
    { kind := .vscr, namespaceName := "default", name := "a-b", primaryStorageClass := "east-2"
      protectionTopology := [⟨"east-2", "west-2", "c"⟩] }

def twoClusters : Fleet Bool Bool where
  owners := dashedOwners
  clusterOf scName := Text.startsWith scName "east"

instance (s : Vast Bool Bool) : ∀ a : Act Bool, Decidable (Crosses twoClusters s a)
  | .ensurePolicy _ _ | .ensurePpath _ | .deletePolicy _ _ _ =>
    inferInstanceAs (Decidable (Registry.Crosses _ _ _))
  | .validateOnce _ _ | .mirrorPolicy _ _ | .mirrorPpath _ _ | .deletePpath _
  | .removeFinalizer _ => isFalse id

/-- Once `a` has its policy, discovery for `a-b` takes it, and deleting `a-b` deletes it. -/
theorem dashed_owners_share_policy : (dashedOwners true).toOwner ≠ (dashedOwners false).toOwner ∧
      ∃ s s₁ s₂, runFrom (step twoClusters) Vast.empty
          [.validateOnce true true, .validateOnce false true,
            .ensurePolicy true ⟨"east-1", "west-1", "b-c"⟩] = some s ∧
        step twoClusters s (.ensurePolicy false ⟨"east-2", "west-2", "c"⟩) = some s₁ ∧
        Crosses twoClusters s (.ensurePolicy false ⟨"east-2", "west-2", "c"⟩) ∧
        step twoClusters s (.deletePolicy false "east-2" "a-b-c") = some s₂ ∧
        Crosses twoClusters s (.deletePolicy false "east-2" "a-b-c") ∧
        s₂.policies (true, "a-b-c") = none := by
  refine ⟨by decide, _, _, _, rfl, rfl, ?_, rfl, ?_, ?_⟩
  · decide +kernel
  · decide +kernel
  · decide +kernel

end VastCsi.Ext.Policies
