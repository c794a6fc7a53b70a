import VastCsi.Ext.Policies
import VastCsi.Lib.Registry
import VastCsi.Lib.Trace

/-!
# Whose policy is it

Policies and protected paths are found on a VAST cluster by name alone, and the owner's namespace
and kind are in neither name. Any number of owners work on the same clusters, each step a turn of
one of the source's loops, and every object remembers for whom it was made.
-/

namespace VastCsi.Ext.Policies

open Lib CsiAddons Option

def edges (p : Parent) : List ReplicationEdge :=
  newReplicationEdgesList p.protectionTopology p.primaryStorageClass

def firstLink (p : Parent) : Option ReplicationEdge :=
  (edges p).find? (·.sideA = p.primaryStorageClass)

structure Fleet (ι κ : Type) where
  owners : ι → Parent
  clusterOf : String → κ

namespace Fleet

variable {ι κ : Type} (F : Fleet ι κ)

def policyAt (i : ι) (scName peerName : String) : κ × String :=
  (F.clusterOf scName, policyName (F.owners i).name peerName)

def ppathAt (i : ι) (scName : String) : κ × String := (F.clusterOf scName, (F.owners i).name)

/-- All peers are resolved: only then the reconcile comes to policies. -/
def Resolved (i : ι) : Prop := hasUnresolvedPeers (F.owners i).protectionTopology = false

instance (i : ι) : Decidable (F.Resolved i) := inferInstanceAs (Decidable (_ = _))

end Fleet

/-- What is on the clusters and for whom it was made, and who has the finalizer. -/
structure Vast (ι κ : Type) where
  policies : Registry (κ × String) ι
  ppaths : Registry (κ × String) ι
  finalizer : ι → Bool

def Vast.empty {ι κ : Type} : Vast ι κ := ⟨fun _ => none, fun _ => none, fun _ => false⟩

/-- A step of an owner's controller, or VAST mirroring an object of the owner's. -/
inductive Act (ι : Type) where
  | validateOnce (i : ι) (removed : Bool)
  | ensurePolicy (i : ι) (e : ReplicationEdge)
  | mirrorPolicy (i : ι) (e : ReplicationEdge)
  | ensurePpath (i : ι)
  | mirrorPpath (i : ι) (e : ReplicationEdge)
  | deletePolicy (i : ι) (scName name : String)
  | deletePpath (i : ι)
  | removeFinalizer (i : ι)

section System

variable {ι κ : Type} [DecidableEq ι] [DecidableEq κ] (F : Fleet ι κ)

/-- `DiscoverLinkPolicies` has returned: each edge has a policy on both sides. -/
def Discovered (i : ι) (s : Vast ι κ) : Prop :=
  ∀ e ∈ edges (F.owners i), (s.policies (F.policyAt i e.sideA e.peerName)).isSome ∧
    (s.policies (F.policyAt i e.sideB e.peerName)).isSome

instance (i : ι) (s : Vast ι κ) : Decidable (Discovered F i s) :=
  inferInstanceAs (Decidable (∀ e ∈ _, _))

/-- There is a link from the primary, and where there is no protected path yet, its sides are not
on one cluster. -/
def canEnsurePpath (i : ι) (s : Vast ι κ) : Bool :=
  (firstLink (F.owners i)).any fun first =>
    (s.ppaths (F.ppathAt i (F.owners i).primaryStorageClass)).isSome ||
      F.clusterOf first.sideA != F.clusterOf first.sideB

/-- One step. The finalizer comes first and `validateOnce` runs while it is new; if
that refuses, the finalizer is removed again, and a failure to do so is ignored. -/
def step (s : Vast ι κ) : Act ι → Option (Vast ι κ)
  | .validateOnce i removed =>
    if s.finalizer i then none
    else
      let free := (s.ppaths (F.ppathAt i (F.owners i).primaryStorageClass)).isNone
      some { s with finalizer := Function.update s.finalizer i (free || !removed) }
  | .ensurePolicy i e =>
    if s.finalizer i ∧ F.Resolved i ∧ e ∈ edges (F.owners i) then
      some { s with policies := s.policies.ensure (F.policyAt i e.sideA e.peerName) i }
    else none
  | .mirrorPolicy i e =>
    if e ∈ edges (F.owners i) ∧ s.policies (F.policyAt i e.sideA e.peerName) = some i then
      some { s with policies := s.policies.ensure (F.policyAt i e.sideB e.peerName) i }
    else none
  | .ensurePpath i =>
    if s.finalizer i ∧ F.Resolved i ∧ Discovered F i s ∧ canEnsurePpath F i s then
      some { s with
        ppaths := s.ppaths.ensure (F.ppathAt i (F.owners i).primaryStorageClass) i }
    else none
  | .mirrorPpath i e =>
    if e ∈ edges (F.owners i) ∧ e.sideA = (F.owners i).primaryStorageClass ∧
        s.ppaths (F.ppathAt i (F.owners i).primaryStorageClass) = some i then
      some { s with ppaths := s.ppaths.ensure (F.ppathAt i e.sideB) i }
    else none
  | .deletePolicy i scName name =>
    if s.finalizer i ∧ (scName, name) ∈ protectionPolicyNamesByStorageClass (F.owners i).name
        (F.owners i).primaryStorageClass (F.owners i).protectionTopology then
      some { s with policies := s.policies.remove (F.clusterOf scName, name) }
    else none
  | .deletePpath i =>
    if s.finalizer i then
      some { s with ppaths := s.ppaths.remove (F.ppathAt i (F.owners i).primaryStorageClass) }
    else none
  | .removeFinalizer i => some { s with finalizer := Function.update s.finalizer i false }

/-- The step takes a policy or protected path that was made for another owner, or
deletes a policy of another. -/
def Crosses (s : Vast ι κ) : Act ι → Prop
  | .ensurePolicy i e => s.policies.Crosses (F.policyAt i e.sideA e.peerName) i
  | .ensurePpath i => s.ppaths.Crosses (F.ppathAt i (F.owners i).primaryStorageClass) i
  | .deletePolicy i scName name => s.policies.Crosses (F.clusterOf scName, name) i
  | _ => False

/-- Whatever the owners do, in any order, none gets at an object of another. -/
def NeverCross : Prop :=
  ∀ s, Reachable (step F) Vast.empty s → ∀ a s', step F s a = some s' → ¬Crosses F s a

def Meet (e e' : ReplicationEdge) : Prop :=
  ∃ sc sc', e.Joins sc ∧ e'.Joins sc' ∧ F.clusterOf sc = F.clusterOf sc'

def pieces (i : ι) (e : ReplicationEdge) : List (List Char) :=
  (F.owners i).name.toList.splitOn '-' ++ e.peerName.toList.splitOn '-'

/-- The StorageClasses whose clusters the protected path is on. -/
def PpathOn (i : ι) (scName : String) : Prop :=
  scName = (F.owners i).primaryStorageClass ∨
    ∃ e ∈ edges (F.owners i), e.sideA = (F.owners i).primaryStorageClass ∧ scName = e.sideB

/-- The owner's peers are resolved, and the first link of its primary leads to another cluster. -/
def CanCreate (i : ι) : Prop :=
  F.Resolved i ∧ ∃ first, firstLink (F.owners i) = some first ∧
    F.clusterOf first.sideA ≠ F.clusterOf first.sideB

/-- What keeps the objects of one owner from being taken or deleted by another. -/
structure NamesApart (i j : ι) : Prop where
  /-- Links with a cluster in common differ in the pieces of owner and peer name. -/
  policies : F.Resolved j → ∀ e ∈ edges (F.owners i), e.peerName ≠ "" →
    ∀ e' ∈ edges (F.owners j), Meet F e e' → pieces F i e ≠ pieces F j e'
  /-- Where a protected path is on the primary's cluster, the names differ. -/
  ppaths : F.Resolved i → (firstLink (F.owners i)).isSome → CanCreate F j →
    ∀ sc, PpathOn F j sc → F.clusterOf (F.owners i).primaryStorageClass = F.clusterOf sc →
      (F.owners i).name ≠ (F.owners j).name

def PolicyKey (i : ι) (k : κ × String) : Prop :=
  F.Resolved i ∧ ∃ e ∈ edges (F.owners i), ∃ sc, e.Joins sc ∧ F.policyAt i sc e.peerName = k

def PpathKey (i : ι) (k : κ × String) : Prop :=
  CanCreate F i ∧ ∃ sc, PpathOn F i sc ∧ F.ppathAt i sc = k

structure Own (s : Vast ι κ) : Prop where
  policies : Registry.Owned (PolicyKey F) s.policies
  ppaths : Registry.Owned (PpathKey F) s.ppaths

variable {F} {i j : ι} {s s' : Vast ι κ}

omit [DecidableEq ι] in
theorem canCreate_of_canEnsurePpath (hr : F.Resolved i) (h : canEnsurePpath F i s = true)
    (hnone : s.ppaths (F.ppathAt i (F.owners i).primaryStorageClass) = none) : CanCreate F i := by
  rw [canEnsurePpath, any_eq_true] at h
  obtain ⟨first, hfirst, h⟩ := h
  rw [hnone, isSome_none, Bool.false_or, bne_iff_ne] at h
  exact ⟨hr, first, hfirst, h⟩

/-- A step leaves every object its owner's. -/
theorem own_step {a : Act ι} (h : Own F s) (hs : step F s a = some s') : Own F s' := by
  cases a with
  | validateOnce i removed =>
    rw [step] at hs
    split at hs
    next => cases hs
    next =>
      cases hs
      exact ⟨h.policies, h.ppaths⟩
  | ensurePolicy i e =>
    rw [step] at hs
    split at hs
    next hen =>
      cases hs
      exact ⟨h.policies.ensure fun _ => ⟨hen.2.1, e, hen.2.2, e.sideA, .inl rfl, rfl⟩, h.ppaths⟩
    next => cases hs
  | mirrorPolicy i e =>
    rw [step] at hs
    split at hs
    next hen =>
      cases hs
      -- whoever has a policy has had its peers resolved
      have hr := (h.policies _ _ hen.2).1
      exact ⟨h.policies.ensure fun _ => ⟨hr, e, hen.1, e.sideB, .inr rfl, rfl⟩, h.ppaths⟩
    next => cases hs
  | ensurePpath i =>
    rw [step] at hs
    split at hs
    next hen =>
      cases hs
      -- only one that is made needs a key; one that is found stays where it is
      refine ⟨h.policies, h.ppaths.ensure fun hnone => ⟨?_, _, .inl rfl, rfl⟩⟩
      exact canCreate_of_canEnsurePpath hen.2.1 hen.2.2.2 hnone
    next => cases hs
  | mirrorPpath i e =>
    rw [step] at hs
    split at hs
    next hen =>
      cases hs
      have hc := (h.ppaths _ _ hen.2.2).1
      exact ⟨h.policies, h.ppaths.ensure fun _ => ⟨hc, e.sideB, .inr ⟨e, hen.1, hen.2.1, rfl⟩, rfl⟩⟩
    next => cases hs
  | deletePolicy i scName name =>
    rw [step] at hs
    split at hs
    next =>
      cases hs
      exact ⟨h.policies.remove, h.ppaths⟩
    next => cases hs
  | deletePpath i =>
    rw [step] at hs
    split at hs
    next =>
      cases hs
      exact ⟨h.policies, h.ppaths.remove⟩
    next => cases hs
  | removeFinalizer i =>
    cases hs
    exact ⟨h.policies, h.ppaths⟩

theorem own_of_reachable (h : Reachable (step F) Vast.empty s) : Own F s :=
  reachable_invariant (fun _ _ _ => own_step) ⟨.empty, .empty⟩ h

omit [DecidableEq ι] [DecidableEq κ] in
/-- One key for the policies of two owners: a common cluster and the same pieces. -/
theorem meet_of_policyAt_eq {e e' : ReplicationEdge} {sc sc' : String} (he : e.Joins sc)
    (he' : e'.Joins sc') (h : F.policyAt j sc' e'.peerName = F.policyAt i sc e.peerName) :
    Meet F e e' ∧ pieces F i e = pieces F j e' := by
  obtain ⟨hk, hname⟩ := Prod.mk.inj h
  exact ⟨⟨sc, sc', he, he', hk.symm⟩, (policyName_eq_iff.mp hname).symm⟩

omit [DecidableEq ι] [DecidableEq κ] in
theorem peerName_ne_of_resolved {e : ReplicationEdge} (hr : F.Resolved i)
    (he : e ∈ edges (F.owners i)) : e.peerName ≠ "" := by
  obtain ⟨t, ht, rfl⟩ := mem_newReplicationEdgesList.mp he
  rw [directed_peerName]
  intro hp
  have := List.any_eq_false.mp hr t ht
  exact this (by simpa using hp)

omit [DecidableEq κ] in
/-- With names that keep apart, a key of a policy tells the owner. -/
theorem eq_of_policyKey (h : ∀ i j, i ≠ j → NamesApart F i j) {e : ReplicationEdge} {sc : String}
    (he : e ∈ edges (F.owners i)) (hp : e.peerName ≠ "") (hsc : e.Joins sc)
    (hj : PolicyKey F j (F.policyAt i sc e.peerName)) : j = i := by
  obtain ⟨hr, e', he', sc', hsc', hkey⟩ := hj
  by_contra hne
  obtain ⟨hmeet, hpieces⟩ := meet_of_policyAt_eq hsc hsc' hkey
  exact (h i j (Ne.symm hne)).policies hr e he hp e' he' hmeet hpieces

omit [DecidableEq κ] in
theorem eq_of_ppathKey (h : ∀ i j, i ≠ j → NamesApart F i j) (hr : F.Resolved i)
    (hfirst : (firstLink (F.owners i)).isSome)
    (hj : PpathKey F j (F.ppathAt i (F.owners i).primaryStorageClass)) : j = i := by
  obtain ⟨hc, sc, hsc, hkey⟩ := hj
  by_contra hne
  obtain ⟨hk, hname⟩ := Prod.mk.inj hkey
  exact (h i j (Ne.symm hne)).ppaths hr hfirst hc sc hsc hk.symm hname.symm

theorem never_cross_of_namesApart (h : ∀ i j, i ≠ j → NamesApart F i j) : NeverCross F := by
  intro s hreach a s' hs
  have hown := own_of_reachable hreach
  cases a with
  | ensurePolicy i e =>
    rw [step] at hs
    split at hs
    next hen =>
      have hp := peerName_ne_of_resolved hen.2.1 hen.2.2
      exact hown.policies.not_crosses fun j => eq_of_policyKey h hen.2.2 hp (.inl rfl)
    next => cases hs
  | ensurePpath i =>
    rw [step] at hs
    split at hs
    next hen =>
      have hfirst : (firstLink (F.owners i)).isSome := by
        have hcan := hen.2.2.2
        rw [canEnsurePpath, any_eq_true] at hcan
        exact isSome_iff_exists.mpr (hcan.imp fun _ => And.left)
      exact hown.ppaths.not_crosses fun j => eq_of_ppathKey h hen.2.1 hfirst
    next => cases hs
  | deletePolicy i scName name =>
    rw [step] at hs
    split at hs
    next hen =>
      -- deletion goes by the names, discovery by the edges: they are the same links
      obtain ⟨t, ht, hp, hsc, rfl⟩ := mem_protectionPolicyNames.mp hen.2
      have he : directed (F.owners i).primaryStorageClass t ∈ edges (F.owners i) :=
        mem_newReplicationEdgesList.mpr ⟨t, ht, rfl⟩
      refine hown.policies.not_crosses fun j hj =>
        eq_of_policyKey h he ?_ (directed_joins.mpr hsc) ?_
      · rw [directed_peerName]
        exact hp
      · rw [directed_peerName]
        exact hj
    next => cases hs
  | validateOnce i removed => exact id
  | mirrorPolicy i e => exact id
  | mirrorPpath i e => exact id
  | deletePpath i => exact id
  | removeFinalizer i => exact id

end System

end VastCsi.Ext.Policies
