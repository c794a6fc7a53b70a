import VastCsi.Ext.Policies
import VastCsi.Ext.SpecValidation
import VastCsi.Lib.Trace

/-!
# Which policies are remembered

The names of an owner's policies are computed from its spec when the policies are made, when the
content of a StorageClass is created, whose `protectionPolicyNames` then stay, and when the owner
is deleted. In between the webhook lets the primary and the peer names change. A reconcile goes on
with the spec it has read.
-/

namespace VastCsi.Ext.PolicyCover

open Lib CsiAddons Policies Specs List Function Option

/-- The spec of an owner, of either kind. -/
inductive Spec where
  | vscr (spec : VastStorageClassReplicationSpec)
  | vvr (spec : VastVolumeReplicationSpec)
  deriving DecidableEq

def Spec.base : Spec → ReplicationSpec
  | .vscr spec => spec.toReplicationSpec
  | .vvr spec => spec.toReplicationSpec

def Spec.primaryStorageClass (sp : Spec) : String := sp.base.primaryStorageClass

def Spec.targets (sp : Spec) : List ReplicationTarget := sp.base.targets

/-- What the webhook of the kind asks of the two specs of an update. -/
def admission (clock : Clock) : Spec → Spec → Bool
  | .vscr old, .vscr new =>
    (validateTopologyImmutable old.protectionTopology new.protectionTopology).isOk &&
      (new.validate clock).isOk
  | .vvr old, .vvr new =>
    (validateTopologyImmutable old.protectionTopology new.protectionTopology).isOk &&
      (new.validate clock).isOk
  -- an object keeps its kind
  | _, _ => false

structure State where
  spec : Spec
  /-- The spec that the reconcile under way has read. -/
  pass : Option Spec := none
  ppath : Bool := false
  groups : List String := []
  /-- What the ReplicationObject reconciler has derived and not yet written. -/
  ro : String → Option (List String) := fun _ => none
  /-- The contents: StorageClass and `spec.protectionPolicyNames`. -/
  contents : List (String × List String) := []
  created : List ReplicationEdge := []

inductive Act where
  /-- A user, or the controller once it has resolved peers. -/
  | update (sp : Spec)
  | startReconcile
  /-- One turn of `DiscoverLinkPolicies`. -/
  | ensurePolicy (e : ReplicationEdge)
  /-- `EnsureConstellationPpath` returns, and the name is recorded. -/
  | setPpath
  /-- The protected path is not found any more, and the name is cleared. -/
  | losePpath
  | ensureVGR (scName : String)
  | deleteVGR (scName : String)
  /-- The ReplicationObject reconciler reads the owner of a group. -/
  | readOwner (scName : String)
  | createContent (scName : String)
  | deleteContent (scName : String)

def Resolved (topology : List ReplicationTarget) : Prop := hasUnresolvedPeers topology = false

instance (topology : List ReplicationTarget) : Decidable (Resolved topology) :=
  inferInstanceAs (Decidable (_ = _))

section System

variable (clock : Clock) (ownerName : String)

def isCreated (s : State) (scName peerName : String) : Bool :=
  s.created.any fun e => e.peerName = peerName && e.Joins scName

/-- The spec with which the reconcile under way has come to the policies. -/
def passSpec (s : State) : Option Spec :=
  s.pass.filter fun sp => decide (Resolved sp.targets)

def step (s : State) : Act → Option State
  | .update sp => if admission clock s.spec sp then some { s with spec := sp } else none
  | .startReconcile => some { s with pass := some s.spec }
  | .ensurePolicy e => do
    let sp ← passSpec s
    if s.ppath = false ∧
        e ∈ newReplicationEdgesList sp.targets sp.primaryStorageClass then
      if isCreated s e.sideA e.peerName then some s
      else some { s with created := e :: s.created }
    else none
  | .setPpath => do
    let sp ← passSpec s
    if s.ppath = false ∧ (newReplicationEdgesList sp.targets sp.primaryStorageClass).all
          fun e => isCreated s e.sideA e.peerName then some { s with ppath := true }
    else none
  | .losePpath => if s.ppath then some { s with ppath := false } else none
  | .ensureVGR scName => do
    let sp ← passSpec s
    if scName ∈ allStorageClasses sp.targets then
      some { s with groups := scName :: s.groups }
    else none
  | .deleteVGR scName => some { s with groups := s.groups.filter (· ≠ scName) }
  | .readOwner scName =>
    if scName ∈ s.groups then
      match protectionPolicyNamesForVRC ownerName s.spec.primaryStorageClass
          s.spec.targets scName with
      | .ok names => some { s with ro := update s.ro scName (some names) }
      | .error _ => none
    else none
  | .createContent scName => do
    let names ← s.ro scName
    if s.contents.any (·.1 = scName) then none
    else some { s with contents := (scName, names) :: s.contents }
  | .deleteContent scName => some { s with contents := s.contents.filter (·.1 ≠ scName) }

def start (sp : Spec) : State := { spec := sp }

/-- Every policy created is, for both its StorageClasses, among the names that
`DeleteProtectionPolicies` goes through and among those of the content. -/
def Covered (s : State) : Prop :=
  ∀ e ∈ s.created, ∀ scName, e.Joins scName →
    (scName, policyName ownerName e.peerName) ∈ protectionPolicyNamesByStorageClass ownerName
        s.spec.primaryStorageClass s.spec.targets ∧
      ∀ c ∈ s.contents, c.1 = scName → policyName ownerName e.peerName ∈ c.2

end System

def peersKept : List ReplicationTarget → List ReplicationTarget → Bool
  | o :: os, n :: ns => (o.peerName = "" || n.peerName = o.peerName) && peersKept os ns
  | _, _ => true

/-- An edit fills in peer names and changes none. -/
def KeepsPeers (s : State) : Act → Prop
  | .update sp => peersKept s.spec.targets sp.targets = true
  | _ => True

instance (s : State) : ∀ a : Act, Decidable (KeepsPeers s a)
  | .update _ => inferInstanceAs (Decidable (_ = _))
  | .startReconcile | .ensurePolicy _ | .setPpath | .losePpath | .ensureVGR _ | .deleteVGR _
  | .readOwner _ | .createContent _ | .deleteContent _ => isTrue trivial

/-- The same links, of which more may have a peer. -/
def Extends : List ReplicationTarget → List ReplicationTarget → Prop :=
  List.Forall₂ fun o n =>
    o.source = n.source ∧ o.destination = n.destination ∧
      (o.peerName = "" ∨ n.peerName = o.peerName)

theorem Extends.refl (ts : List ReplicationTarget) : Extends ts ts := by
  induction ts with
  | nil => exact .nil
  | cons t ts ih => exact .cons ⟨rfl, rfl, .inr rfl⟩ ih

theorem Extends.trans : ∀ {ts us vs : List ReplicationTarget}, Extends ts us → Extends us vs →
    Extends ts vs
  | _, _, _, .nil, .nil => .nil
  | _, _, _, .cons h hs, .cons h' hs' => by
    -- a peer that is set by the first step is kept by the second
    refine .cons ⟨h.1.trans h'.1, h.2.1.trans h'.2.1, ?_⟩ (Extends.trans hs hs')
    rcases h.2.2 with hp | hp
    · exact .inl hp
    · rcases h'.2.2 with hp' | hp'
      · exact .inl (hp ▸ hp')
      · exact .inr (hp'.trans hp)

/-- Once all peers are there, nothing more can be filled in. -/
theorem Extends.eq_of_resolved : ∀ {ts us : List ReplicationTarget}, Extends ts us →
    Resolved ts → us = ts
  | _, _, .nil, _ => rfl
  | t :: ts, u :: us, .cons h hs, hr => by
    rw [Resolved, hasUnresolvedPeers, any_cons, Bool.or_eq_false_iff, beq_eq_false_iff_ne] at hr
    have hu : u = t := by
      obtain ⟨hsrc, hdst, hp⟩ := h
      cases t
      cases u
      simp only [ReplicationTarget.mk.injEq]
      exact ⟨hsrc.symm, hdst.symm, hp.resolve_left hr.1⟩
    rw [hu, Extends.eq_of_resolved hs hr.2]

theorem extends_of_edges : ∀ {ts us : List ReplicationTarget}, edgesOf ts = edgesOf us →
    peersKept ts us = true → Extends ts us
  | [], [], _, _ => .nil
  | t :: ts, u :: us, he, hk => by
    obtain ⟨hends, hrest⟩ := cons.inj he
    obtain ⟨hsource, hdestination⟩ := Prod.mk.inj hends
    simp only [peersKept, Bool.and_eq_true, Bool.or_eq_true, decide_eq_true_eq] at hk
    exact .cons ⟨hsource, hdestination, hk.1⟩ (extends_of_edges hrest hk.2)

/-- Of an update that passes the webhook the peers are all that can differ. -/
theorem extends_of_admission {clock : Clock} {old new : Spec}
    (h : admission clock old new = true) (hk : peersKept old.targets new.targets = true) :
    Extends old.targets new.targets := by
  have hkept : ∀ {ts us : ReplicationSpec} {b : Bool},
      ((validateTopologyImmutable ts.protectionTopology us.protectionTopology).isOk && b) = true →
        edgesOf ts.targets = edgesOf us.targets := by
    intro ts us b h
    refine edges_of_immutable ?_
    cases hres : validateTopologyImmutable ts.protectionTopology us.protectionTopology with
    | ok u => rfl
    | error msg =>
      rw [hres] at h
      cases h
  refine extends_of_edges ?_ hk
  cases old <;> cases new
  case vscr.vscr => exact hkept h
  case vvr.vvr => exact hkept h
  case vscr.vvr => cases h
  case vvr.vscr => cases h

/-- The names hold every policy of the StorageClass. -/
def Complete (ownerName : String) (topology : List ReplicationTarget) (scName : String)
    (names : List String) : Prop :=
  ∀ t ∈ topology, scName = t.source ∨ scName = t.destination →
    policyName ownerName t.peerName ∈ names

/-- The edge is an entry of the topology, directed one way or the other. -/
def IsEdgeOf (topology : List ReplicationTarget) (e : ReplicationEdge) : Prop :=
  ∃ primarySC, ∃ t ∈ topology, directed primarySC t = e

/-- From the first policy or group on all peers are resolved, and then everything
derived agrees with the spec. -/
structure Inv (ownerName : String) (s : State) : Prop where
  pass : ∀ sp, s.pass = some sp → Extends sp.targets s.spec.targets
  groups : ∀ sc ∈ s.groups, Resolved s.spec.targets
  ro : ∀ sc names, s.ro sc = some names → Resolved s.spec.targets ∧
    Complete ownerName s.spec.targets sc names
  contents : ∀ c ∈ s.contents, Resolved s.spec.targets ∧
    Complete ownerName s.spec.targets c.1 c.2
  created : ∀ e ∈ s.created, Resolved s.spec.targets ∧
    IsEdgeOf s.spec.targets e

variable {ownerName : String} {s s' : State}

theorem inv_start (sp : Spec) : Inv ownerName (start sp) := ⟨nofun, nofun, nofun, nofun, nofun⟩

/-- What holds with all peers resolved is not touched by an edit that keeps them. -/
theorem resolved_and_of_extends {P : List ReplicationTarget → Prop}
    {ts us : List ReplicationTarget} (h : Extends ts us) (hp : Resolved ts ∧ P ts) :
    Resolved us ∧ P us := by
  rw [h.eq_of_resolved hp.1]
  exact hp

theorem inv_update {sp : Spec} (h : Inv ownerName s)
    (hext : Extends s.spec.targets sp.targets) :
    Inv ownerName { s with spec := sp } where
  pass sp' hsp := (h.pass sp' hsp).trans hext
  groups sc hsc := (resolved_and_of_extends (P := fun _ => True) hext ⟨h.groups sc hsc, trivial⟩).1
  ro sc names hro :=
    resolved_and_of_extends (P := (Complete ownerName · sc names)) hext (h.ro sc names hro)
  contents c hc :=
    resolved_and_of_extends (P := (Complete ownerName · c.1 c.2)) hext (h.contents c hc)
  created e he := resolved_and_of_extends (P := (IsEdgeOf · e)) hext (h.created e he)

/-- A reconcile that has come to the policies works with the links the spec has. -/
theorem passSpec_eq {sp : Spec} (h : Inv ownerName s) (hp : passSpec s = some sp) :
    Resolved sp.targets ∧ s.spec.targets = sp.targets := by
  obtain ⟨hpass, hr⟩ := filter_eq_some_iff.mp hp
  rw [decide_eq_true_eq] at hr
  exact ⟨hr, (h.pass sp hpass).eq_of_resolved hr⟩

variable {names : List String} {scName : String}

theorem complete_of_names (hr : Resolved s.spec.targets)
    (h : protectionPolicyNamesForVRC ownerName s.spec.primaryStorageClass
      s.spec.targets scName = .ok names) :
    Complete ownerName s.spec.targets scName names := by
  intro t ht hsc
  rw [protectionPolicyNamesForVRC_eq_ok h, mem_namesOf, mem_protectionPolicyNames]
  refine ⟨t, ht, fun hp => ?_, hsc, rfl⟩
  exact any_eq_false.mp hr t ht (beq_iff_eq.mpr hp)

theorem inv_addPolicy {e : ReplicationEdge} (h : Inv ownerName s)
    (hr : Resolved s.spec.targets) (he : IsEdgeOf s.spec.targets e) :
    Inv ownerName { s with created := e :: s.created } := by
  refine { h with created := fun e' he' => ?_ }
  rcases mem_cons.mp he' with rfl | he'
  · exact ⟨hr, he⟩
  · exact h.created e' he'

theorem inv_derive (h : Inv ownerName s) (hr : Resolved s.spec.targets)
    (hc : Complete ownerName s.spec.targets scName names) :
    Inv ownerName { s with ro := update s.ro scName (some names) } := by
  refine { h with ro := fun sc names' hro => ?_ }
  change update s.ro scName (some names) sc = some names' at hro
  by_cases hsc : sc = scName
  · subst hsc
    rw [update_self] at hro
    cases hro
    exact ⟨hr, hc⟩
  · rw [update_of_ne hsc] at hro
    exact h.ro sc names' hro

/-- However long ago its names were derived, they are complete for the spec of now. -/
theorem inv_addContent (h : Inv ownerName s) (hro : s.ro scName = some names) :
    Inv ownerName { s with contents := (scName, names) :: s.contents } := by
  refine { h with contents := fun c hc => ?_ }
  rcases mem_cons.mp hc with rfl | hc
  · exact h.ro scName names hro
  · exact h.contents c hc

/-- One event keeps the invariant. -/
theorem inv_step {clock : Clock} {a : Act} (h : Inv ownerName s) (hk : KeepsPeers s a)
    (hs : step clock ownerName s a = some s') : Inv ownerName s' := by
  cases a with
  | update sp =>
    rw [step] at hs
    split at hs
    next hadm =>
      cases hs
      exact inv_update h (extends_of_admission hadm hk)
    next => cases hs
  | startReconcile =>
    cases hs
    refine { h with pass := fun sp hsp => ?_ }
    cases hsp
    exact .refl _
  | ensurePolicy e =>
    obtain ⟨sp, hp, hs⟩ := bind_eq_some_iff.mp hs
    obtain ⟨hr, htop⟩ := passSpec_eq h hp
    split at hs
    next hen =>
      split at hs
      next =>
        cases hs
        exact h
      next =>
        cases hs
        -- the edge is of the spec that was read, whose links are still those of the spec
        obtain ⟨t, ht, hdir⟩ := mem_newReplicationEdgesList.mp hen.2
        rw [← htop] at hr ht
        exact inv_addPolicy h hr ⟨_, t, ht, hdir⟩
    next => cases hs
  | setPpath =>
    obtain ⟨sp, -, hs⟩ := bind_eq_some_iff.mp hs
    split at hs
    next =>
      cases hs
      exact { h with }
    next => cases hs
  | losePpath =>
    rw [step] at hs
    split at hs
    next =>
      cases hs
      exact { h with }
    next => cases hs
  | ensureVGR scName =>
    obtain ⟨sp, hp, hs⟩ := bind_eq_some_iff.mp hs
    obtain ⟨hr, htop⟩ := passSpec_eq h hp
    split at hs
    next =>
      cases hs
      exact { h with groups := fun _ _ => htop ▸ hr }
    next => cases hs
  | deleteVGR scName =>
    cases hs
    exact { h with groups := fun sc hsc => h.groups sc (mem_of_mem_filter hsc) }
  | readOwner scName =>
    rw [step] at hs
    split at hs
    next hgroup =>
      -- there is a group only once all peers are resolved
      have hr := h.groups scName hgroup
      split at hs
      next names hnames =>
        cases hs
        exact inv_derive h hr (complete_of_names hr hnames)
      next => cases hs
    next => cases hs
  | createContent scName =>
    obtain ⟨names, hro, hs⟩ := bind_eq_some_iff.mp hs
    split at hs
    next => cases hs
    next =>
      cases hs
      exact inv_addContent h hro
  | deleteContent scName =>
    cases hs
    exact { h with contents := fun c hc => h.contents c (mem_of_mem_filter hc) }

theorem covered_of_inv (h : Inv ownerName s) : Covered ownerName s := by
  intro e he scName hsc
  obtain ⟨hr, p, t, ht, rfl⟩ := h.created e he
  rw [directed_peerName]
  have hends := directed_joins.mp hsc
  refine ⟨mem_protectionPolicyNames.mpr ⟨t, ht, fun hp => ?_, hends, rfl⟩, ?_⟩
  · exact any_eq_false.mp hr t ht (beq_iff_eq.mpr hp)
  · rintro c hc rfl
    exact (h.contents c hc).2 t ht hends

/-- **Policies are remembered while peers are kept.** In every run in which no edit
changes a peer name that is set, every policy created stays on the deletion list and
on the lists of the contents. -/
theorem covered_of_kept_peers (clock : Clock) (ownerName : String) (sp : Spec)
    {acts : List Act} {s : State}
    (hrun : runFrom (step clock ownerName) (start sp) acts = some s)
    (hkeep : RunMeets (step clock ownerName) KeepsPeers (start sp) acts) : Covered ownerName s :=
  covered_of_inv (runFrom_invariant (fun _ _ _ => inv_step) acts (inv_start sp) hkeep hrun)

def pairSpec (primarySC peerName : String) : Spec :=
  .vscr { primaryStorageClass := primarySC
          protectionTopology := [{ source := "east", destination := "west", peerName := peerName }]
          protectionPolicyTemplate := ⟨[{ every := "15m" }]⟩ }

def switchRun : List Act :=
  [.update (pairSpec "east" "link"), .startReconcile, .ensurePolicy ⟨"east", "west", "link"⟩,
    .setPpath, .ensureVGR "east", .readOwner "east", .createContent "east",
    .update (pairSpec "west" "link"), .losePpath, .startReconcile,
    .ensurePolicy ⟨"west", "east", "link"⟩, .setPpath]

def summary (s : State) : List ReplicationEdge × Spec × List (String × List String) :=
  (s.created, s.spec, s.contents)

theorem covered_of_kept_peers_switch :
    ∃ s, runFrom (step noStart "v") (start (pairSpec "east" "")) switchRun = some s ∧
      summary s = ([⟨"east", "west", "link"⟩], pairSpec "west" "link", [("east", ["v-link"])]) ∧
      Covered "v" s := by
  obtain ⟨s, hs, hsum⟩ := map_eq_some_iff.mp (show
    (runFrom (step noStart "v") (start (pairSpec "east" "")) switchRun).map summary =
      some ([⟨"east", "west", "link"⟩], pairSpec "west" "link", [("east", ["v-link"])])
    by decide +kernel)
  exact ⟨s, hs, hsum, covered_of_kept_peers noStart "v" (pairSpec "east" "") hs (by decide +kernel)⟩

def editRun : List Act :=
  [.startReconcile, .ensurePolicy ⟨"east", "west", "link"⟩, .setPpath, .ensureVGR "east",
    .readOwner "east", .createContent "east", .update (pairSpec "east" "link-2"), .losePpath,
    .startReconcile, .ensurePolicy ⟨"east", "west", "link-2"⟩]

/-- The policy made under the old name is not on the deletion list any more, and the one made
under the new name is not on the content's. -/
theorem edited_peer_uncovers :
    ∃ s, runFrom (step noStart "v") (start (pairSpec "east" "link")) editRun = some s ∧
      summary s = ([⟨"east", "west", "link-2"⟩, ⟨"east", "west", "link"⟩],
        pairSpec "east" "link-2", [("east", ["v-link"])]) ∧ ¬Covered "v" s := by
  obtain ⟨s, hs, hsum⟩ := map_eq_some_iff.mp (show
    (runFrom (step noStart "v") (start (pairSpec "east" "link")) editRun).map summary =
      some ([⟨"east", "west", "link-2"⟩, ⟨"east", "west", "link"⟩],
        pairSpec "east" "link-2", [("east", ["v-link"])])
    by decide +kernel)
  refine ⟨s, hs, hsum, fun hcov => ?_⟩
  obtain ⟨hcreated, hspec, -⟩ : s.created = _ ∧ s.spec = _ ∧ s.contents = _ := by
    simpa only [summary, Prod.mk.injEq] using hsum
  have hold := (hcov ⟨"east", "west", "link"⟩ (by rw [hcreated]; decide) "east" (.inl rfl)).1
  rw [hspec] at hold
  exact absurd hold (by decide +kernel)

end VastCsi.Ext.PolicyCover
