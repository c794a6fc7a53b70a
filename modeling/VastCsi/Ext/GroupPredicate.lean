import VastCsi.Ext.TouchedContents

/-!
# The updates of a group that reach its content

The reconcile of a group is started for the updates that `volumeGroupReplicationPredicate`
accepts: another list of PVCs, or another state of a group whose `volumeReplicationName` is set.
`follow` runs `reconcileVGR` along the versions of a group, for the accepted updates or for all of
them.
-/

namespace VastCsi.Ext.GroupPredicate

open Lib CsiAddons Groups Policies List Option Function

def vgrPVCListChanged (old new : List String) : Bool :=
  old.length != new.length || new.any fun n => !old.contains n

def isOwned (g : Vgr) : Bool := g.sourceVSCR != ""

def volumeGroupReplicationPredicate (old new : Vgr) : Bool :=
  isOwned new && (new.deleting || (vgrPVCListChanged old.pvcs new.pvcs ||
    (new.volumeReplicationName != "" && new.state != old.state)))

/-- A version of the group, and what a reconcile that sees it meets. -/
structure Update where
  version : Vgr
  env : Env := {}

def withVersion (name : String) (w : World Store) (v : Vgr) : World Store :=
  { w with own := { w.own with vgrs := update w.own.vgrs name (some v) } }

/-- A version arrives; if it is accepted, it is reconciled. `none` is an error. -/
def arrive (name : String) (accepted : Bool) (w : World Store) (u : Update) :
    Option (World Store) :=
  if accepted then
    match reconcileVGR u.env name (withVersion name w u.version) with
    | .ok _ t => some t
    | .error _ _ => none
  else some (withVersion name w u.version)

def follow (accept : Vgr → Vgr → Bool) (name : String) :
    Vgr → World Store → List Update → Option (World Store)
  | _, w, [] => some w
  | old, w, u :: us =>
    (arrive name (accept old u.version) w u).bind fun w' => follow accept name u.version w' us

def acceptedOf (accept : Vgr → Vgr → Bool) : Vgr → List Vgr → List Vgr
  | _, [] => []
  | old, v :: vs => if accept old v then v :: acceptedOf accept v vs else acceptedOf accept v vs

def lastKnown (state : ReplicationState) (vs : List Vgr) : ReplicationState :=
  vs.foldl (fun st v => (currentState v.state).getD st) state

variable {env : Env} {name : String} {s t : Store} {g v : Vgr} {c : Vrc}

/-- There is a content with this list and this state. -/
def Shows (name : String) (pvcs : List String) (state : ReplicationState) (s : Store) : Prop :=
  ∃ c, s.vrcs name = some c ∧ c.pvcs = pvcs ∧ c.replicationState = state

theorem setAnnotation_spec (c : Vrc) (key : Trigger) (value : String) :
    (c.setAnnotationAt key value).pvcs = c.pvcs ∧
      (c.setAnnotationAt key value).replicationState = c.replicationState := by
  cases key with
  | resync => exact ⟨rfl, rfl⟩
  | mirrorSync => exact ⟨rfl, rfl⟩

theorem withSpec_spec (c : Vrc) (pvcs : List String) (state : ReplicationState) :
    (c.withSpec pvcs state).pvcs = pvcs ∧ (c.withSpec pvcs state).replicationState = state := by
  rw [Vrc.withSpec]
  split
  next h => exact h
  next => exact ⟨rfl, rfl⟩

variable {pvcs : List String} {state : ReplicationState} {w : World Store}

/-- Touching changes neither list nor state. -/
theorem Shows.touched {key : Trigger} {ts : String} {names : List String}
    (h : Shows name pvcs state s) (ht : TouchedAll key ts names s t) : Shows name pvcs state t := by
  obtain ⟨c, hc, hp, hst⟩ := h
  have hcontent := ht.contents name
  rw [hc] at hcontent
  split at hcontent
  · obtain ⟨hp', hst'⟩ := setAnnotation_spec c key ts
    exact ⟨c.setAnnotationAt key ts, hcontent, hp'.trans hp, hst'.trans hst⟩
  · exact ⟨c, hcontent, hp, hst⟩

theorem meets_patchContent (hc : s.vrcs name = some c) :
    Yields (fun w => w.own = s) (patchContent env name g c)
      (fun _ w => Shows name g.pvcList (nextState g c) w.own) := by
  unfold patchContent
  split
  · refine meets_withContext (meets_api (fun _ hw => hw) (fun _ _ => trivial)
      (fun _ _ _ => trivial) ?_)
    intro w hw
    subst hw
    dsimp only
    rw [hc]
    exact ⟨_, Function.update_self .., withSpec_spec c g.pvcList (nextState g c)⟩
  next hsame =>
    -- Nothing is written, because the content is as it should be.
    rw [not_or, not_not, pvcChanged, bne_iff_ne, not_not] at hsame
    exact .pure fun w hw => ⟨c, by rw [hw]; exact hc, hsame.2.symm, hsame.1.symm⟩

theorem meets_touchMirrors {vscr : Vscr} :
    Yields (fun w => Shows name pvcs state w.own) (touchMirrors env name g vscr c)
      (fun _ w => Shows name pvcs state w.own) := by
  unfold touchMirrors
  split
  · intro w hw
    refine Meets.bind (meets_withContext meets_touch) (fun _ => Meets.pure fun t ht => ?_) w rfl
    exact hw.touched ht
  · exact Meets.ret

theorem meets_syncContent {vscr : Vscr} (hc : s.vrcs name = some c) :
    Yields (fun w => w.own = s) (syncContent env name g vscr c)
      (fun _ w => Shows name g.pvcList (nextState g c) w.own) :=
  .bind (meets_patchContent hc) fun _ => meets_touchMirrors

/-- A reconcile that returns leaves the content as the version says. -/
theorem meets_reconcile_shows (hg : s.vgrs name = some g) (hlive : g.deleting = false)
    (hc : s.vrcs name = some c) :
    Yields (fun w => w.own = s) (reconcileVGR env name)
      (fun _ w => Shows name g.pvcList (nextState g c) w.own) := by
  intro w hw
  subst hw
  refine meets_reconcileVGR_at (n := w.calls) (fun _ _ => trivial) ?_ ?_ ?_ ?_ w ⟨rfl, rfl⟩
  · intro hnone
    rw [hg] at hnone
    cases hnone
  · intro g' hg' hdel
    rw [hg, some.injEq] at hg'
    rw [← hg', hlive] at hdel
    cases hdel
  · intro _ _ _ _ _ hnone
    rw [hc] at hnone
    cases hnone
  · intro g' vscr c' hg' _ _ hc'
    rw [hg, some.injEq] at hg'
    rw [hc, some.injEq] at hc'
    subst hg' hc'
    exact (meets_syncContent hc).preLeft

theorem Shows.arrived {t : World Store} {u : Update} (h : Shows name pvcs state w.own)
    (hlive : u.version.deleting = false) (harr : arrive name true w u = some t) :
    Shows name u.version.pvcList ((currentState u.version.state).getD state) t.own := by
  obtain ⟨c, hc, -, rfl⟩ := h
  rw [arrive, if_pos rfl] at harr
  split at harr
  next hrun =>
    cases harr
    have hversion : (withVersion name w u.version).own.vgrs name = some u.version := update_self ..
    exact (meets_reconcile_shows hversion hlive hc).ok rfl hrun
  next => cases harr

theorem Shows.dropped {t : World Store} {u : Update} (h : Shows name pvcs state w.own)
    (harr : arrive name false w u = some t) : Shows name pvcs state t.own := by
  cases harr
  exact h

/-- The content shows the last list and the last known state that were accepted. -/
theorem follow_shows {accept : Vgr → Vgr → Bool} :
    ∀ {us : List Update} {old : Vgr} {w t : World Store} {last : Vgr} {state : ReplicationState},
      (∀ u ∈ us, u.version.deleting = false) → Shows name last.pvcList state w.own →
      follow accept name old w us = some t →
      Shows name ((acceptedOf accept old (us.map (·.version))).getLastD last).pvcList
        (lastKnown state (acceptedOf accept old (us.map (·.version)))) t.own
  | [], old, w, t, last, state, _, hw, hrun => by
    cases hrun
    exact hw
  | u :: us, old, w, t, last, state, hlive, hw, hrun => by
    obtain ⟨w', harr, hrest⟩ := bind_eq_some_iff.mp hrun
    have hlive' : ∀ u' ∈ us, u'.version.deleting = false :=
      fun u' hu' => hlive u' (mem_cons_of_mem u hu')
    rw [map_cons, acceptedOf]
    split
    next hacc =>
      rw [hacc] at harr
      rw [getLastD_cons]
      exact follow_shows hlive' (hw.arrived (hlive u mem_cons_self) harr) hrest
    next hacc =>
      rw [Bool.not_eq_true] at hacc
      rw [hacc] at harr
      exact follow_shows hlive' (hw.dropped harr) hrest

theorem acceptedOf_true : ∀ (old : Vgr) (vs : List Vgr), acceptedOf (fun _ _ => true) old vs = vs
  | _, [] => rfl
  | _, v :: vs => by rw [acceptedOf, if_pos rfl, acceptedOf_true v vs]

theorem pvcList_eq_iff {g g' : Vgr} : g.pvcList = g'.pvcList ↔ g.pvcs.Perm g'.pvcs := by
  constructor
  · intro h
    calc g.pvcs.Perm g.pvcList := (perm_insertionSort _ _).symm
      _ = g'.pvcList := h
      List.Perm _ g'.pvcs := perm_insertionSort _ _
  · intro h
    have hperm : g.pvcList.Perm g'.pvcList :=
      (perm_insertionSort _ _).trans (h.trans (perm_insertionSort _ _).symm)
    exact hperm.eq_of_pairwise' (pairwise_insertionSort _ _) (pairwise_insertionSort _ _)

def specOf (name : String) (w : World Store) : Option (ReplicationState × List String) :=
  (w.own.vrcs name).map fun c => (c.replicationState, c.pvcs)

theorem Shows.specOf (h : Shows name pvcs state w.own) : specOf name w = some (state, pvcs) := by
  obtain ⟨c, hc, rfl, rfl⟩ := h
  rw [GroupPredicate.specOf, hc]
  rfl

/-- **What the predicate keeps**: running for the accepted updates gives the content of
running for all of them exactly when the last known state of an accepted version is the
last known state, and the last accepted list has the PVCs of the last list. -/
theorem accepted_suffice_iff (name : String) (v₀ : Vgr) (us : List Update)
    (w t t' : World Store) (c : Vrc) (hlive : ∀ u ∈ us, u.version.deleting = false)
    (hc : w.own.vrcs name = some c) (hsynced : c.pvcs = v₀.pvcList)
    (haccepted : follow volumeGroupReplicationPredicate name v₀ w us = some t)
    (hall : follow (fun _ _ => true) name v₀ w us = some t') :
    specOf name t = specOf name t' ↔ lastKnown c.replicationState
          (acceptedOf volumeGroupReplicationPredicate v₀ (us.map (·.version))) =
        lastKnown c.replicationState (us.map (·.version)) ∧
      ((acceptedOf volumeGroupReplicationPredicate v₀ (us.map (·.version))).getLastD v₀).pvcs.Perm
        ((us.map (·.version)).getLastD v₀).pvcs := by
  have hw : Shows name v₀.pvcList c.replicationState w.own := ⟨c, hc, hsynced, rfl⟩
  have ht := (follow_shows hlive hw haccepted).specOf
  have ht' := (follow_shows hlive hw hall).specOf
  rw [acceptedOf_true] at ht'
  rw [ht, ht', some.injEq, Prod.mk.injEq, pvcList_eq_iff]

/-- A list without repeats that the predicate takes for the same has the same PVCs. -/
theorem perm_of_not_changed {old new : List String} (hnodup : new.Nodup)
    (h : vgrPVCListChanged old new = false) : old.Perm new := by
  rw [vgrPVCListChanged, Bool.or_eq_false_iff, bne_eq_false_iff_eq, List.any_eq_false] at h
  obtain ⟨hlength, hnames⟩ := h
  have hsub : new ⊆ old := by
    intro n hn
    have hin := hnames n hn
    rwa [Bool.not_eq_true, Bool.not_eq_false', List.contains_iff_mem] at hin
  exact ((List.subperm_of_subset hnodup hsub).perm_of_length_le hlength.le).symm

/-- The condition is met when every change of the state comes with the name set, and no
list repeats a PVC. -/
theorem nothing_lost : ∀ {vs : List Vgr} {old last : Vgr} {state : ReplicationState},
    (∀ v ∈ vs, isOwned v = true ∧ v.pvcs.Nodup) →
    (old :: vs).IsChain (fun v v' => v'.state ≠ v.state → v'.volumeReplicationName ≠ "") →
    (currentState old.state).getD state = state → last.pvcs.Perm old.pvcs →
    lastKnown state (acceptedOf volumeGroupReplicationPredicate old vs) = lastKnown state vs ∧
      ((acceptedOf volumeGroupReplicationPredicate old vs).getLastD last).pvcs.Perm
        (vs.getLastD old).pvcs
  | [], old, last, state, _, _, _, hlast => ⟨rfl, hlast⟩
  | v :: vs, old, last, state, hvs, hchain, hstate, hlast => by
    obtain ⟨hv, hvs'⟩ := forall_mem_cons.mp hvs
    obtain ⟨hnamed, hchain'⟩ := isChain_cons_cons.mp hchain
    rw [acceptedOf, getLastD_cons]
    split
    next =>
      have hown : (currentState v.state).getD ((currentState v.state).getD state) =
          (currentState v.state).getD state := by
        cases currentState v.state <;> rfl
      rw [getLastD_cons]
      exact nothing_lost hvs' hchain' hown (List.Perm.refl _)
    next hdropped =>
      -- The state is the one before, so the full run does not change it either.
      rw [volumeGroupReplicationPredicate, hv.1, Bool.true_and, Bool.not_eq_true,
        Bool.or_eq_false_iff, Bool.or_eq_false_iff] at hdropped
      obtain ⟨-, hlist, hquiet⟩ := hdropped
      have hsame : v.state = old.state := by
        by_contra hne
        rw [bne_iff_ne.mpr hne, Bool.and_true, bne_eq_false_iff_eq] at hquiet
        exact hnamed hne hquiet
      have hkept : (currentState v.state).getD state = state := by rw [hsame, hstate]
      have hfull : lastKnown state (v :: vs) = lastKnown state vs := by
        rw [lastKnown, foldl_cons, hkept]
        rfl
      rw [hfull]
      exact nothing_lost hvs' hchain' hkept (hlast.trans (perm_of_not_changed hv.2 hlist))

def newGroup : Vgr := ⟨"group", "west", false, "", [], .unset⟩

def namedFirst : List Update :=
  [⟨{ newGroup with volumeReplicationName := "vr" }, {}⟩,
    ⟨{ newGroup with volumeReplicationName := "vr", state := .primary }, {}⟩]

def stateFirst : List Update :=
  [⟨{ newGroup with state := .primary }, {}⟩,
    ⟨{ newGroup with volumeReplicationName := "vr", state := .primary }, {}⟩]

theorem accepted_suffice_iff_namedFirst :
    ∃ t t', follow volumeGroupReplicationPredicate "group-west" newGroup westStore namedFirst =
        some t ∧
      follow (fun _ _ => true) "group-west" newGroup westStore namedFirst = some t' ∧
      specOf "group-west" t = specOf "group-west" t' := by
  have haccepted : (follow volumeGroupReplicationPredicate "group-west" newGroup westStore
      namedFirst).isSome = true := by decide +kernel
  have hall : (follow (fun _ _ => true) "group-west" newGroup westStore namedFirst).isSome =
      true := by decide +kernel
  obtain ⟨t, ht⟩ := isSome_iff_exists.mp haccepted
  obtain ⟨t', ht'⟩ := isSome_iff_exists.mp hall
  exact ⟨t, t', ht, ht', (accepted_suffice_iff "group-west" newGroup namedFirst westStore t t'
    westContent (by decide) (by decide) (by decide) ht ht').mpr (by decide)⟩

/-- The change of the state is dropped for want of the name, and the name comes without a
change of the state. -/
theorem state_change_lost :
    ((arrive "group-west" true (beforeContent (pairOf "east" "west") "west") ⟨newGroup, {}⟩).bind
      fun w => (follow volumeGroupReplicationPredicate "group-west" newGroup w stateFirst).bind
        (specOf "group-west")) = some (.secondary, []) ∧
    ((arrive "group-west" true (beforeContent (pairOf "east" "west") "west") ⟨newGroup, {}⟩).bind
      fun w => (follow (fun _ _ => true) "group-west" newGroup w stateFirst).bind
        (specOf "group-west")) = some (.primary, []) := by
  decide +kernel

end VastCsi.Ext.GroupPredicate
