import VastCsi.Ext.Mirrors
import VastCsi.Lib.Trace

/-!
# Mirrors as sources

A mirror is told from a source by its labels, and the lists of claims are kept elsewhere:
csi-addons collects the claims with the label of a StorageClass, mirrors included, and
`reconcileVGR` copies that into the content. A mirror that is released under Retain loses all its
labels at once. `Guarded` says that a claim created as a mirror and without labels is in no list;
it holds along `Careful` steps.
-/

namespace VastCsi.Ext.MirrorSources

open Lib CsiAddons Contents List Option Table Cluster Bool

variable {out : Outcomes} {r : Content} {c c₀ : Cluster} {keep : List String} {S : Key → Prop}

/-! ## What is classified -/

def lookupPair (c : Cluster) (k : Key) : Option (Pvc × Option Pv) :=
  (c.pvcs.find? k).bind fun pvc =>
    if pvc.volumeName == "" then some (pvc, none)
    else (c.pvs.find? pvc.volumeName).map fun pv => (pvc, some pv)

/-- A bound claim is a source unless it has the labels of a mirror. -/
def asSource : Option (Pvc × Option Pv) → Option VolumePair
  | some (pvc, some pv) => if pvc.mirror.isSome then none else some ⟨pvc, pv⟩
  | _ => none

def sources (c : Cluster) (ks : List Key) : List VolumePair :=
  ks.filterMap fun k => asSource (lookupPair c k)

variable {k : Key} {p : Pvc}

theorem meets_lookupPair :
    Meets (· = c) (getPVCandPV out k) (fun found c' => c' = c ∧ found = lookupPair c k)
      (fun _ c' => c' = c) := by
  refine .bind meets_lookup fun found => ?_
  refine .assuming (p := found = c.pvcs.find? k) (fun _ hc => by rw [hc.2, hc.1]) fun hfound => ?_
  unfold lookupPair
  rw [← hfound]
  cases found with
  | none => exact .pure fun _ hc => ⟨hc.1, rfl⟩
  | some pvc =>
    dsimp only [bind_some]
    split
    next => exact .pure fun _ hc => ⟨hc.1, rfl⟩
    next =>
      refine .bind (meets_lookup.preLeft) fun pv => ?_
      refine .assuming (p := pv = c.pvs.find? pvc.volumeName) (fun _ hc => by rw [hc.2, hc.1])
        fun hpvs => ?_
      rw [← hpvs]
      cases pv with
      | none => exact .pure fun _ hc => ⟨hc.1, rfl⟩
      | some pv => exact .pure fun _ hc => ⟨hc.1, rfl⟩

/-- The classification reads the store, and returns the sources. -/
theorem meets_sources : ∀ {ks : List Key},
    Meets (· = c) (classifyPVCs out ks) (fun pairs c' => c' = c ∧ pairs = sources c ks)
      (fun _ c' => c' = c)
  | [] => .pure fun _ hc => ⟨hc, rfl⟩
  | k :: ks => by
    refine .bind (meets_withContext meets_lookupPair) fun found => ?_
    refine .assuming (p := found = lookupPair c k) (fun _ hc => hc.2) fun hfound => ?_
    have hrest : Meets (fun c' => c' = c ∧ found = lookupPair c k) (classifyPVCs out ks)
        (fun pairs c' => c' = c ∧ pairs = sources c ks) (fun _ c' => c' = c) :=
      meets_sources.preLeft
    have hcons : sources c (k :: ks) = (asSource found).toList ++ sources c ks := by
      rw [sources, filterMap_cons, ← hfound]
      cases asSource found with
      | none => rfl
      | some pair => rfl
    rw [hcons]
    clear hcons hfound
    match found with
    | none => exact hrest
    | some (pvc, none) => exact .throw fun _ hc => hc.1
    | some (pvc, some pv) =>
      refine .bind hrest fun unmanaged => .pure fun _ hc => ⟨hc.1, ?_⟩
      rw [hc.2, asSource]
      split
      · rfl
      · rfl

theorem meets_classifyConstellationPVCs : Meets (· = c) (classifyConstellationPVCs out r)
      (fun pairs c' => c' = c ∧ pairs = sources c (claimsOf (c.contents.select (isPeer r))))
      (fun _ c' => c' = c) := by
  refine .bind (meets_withContext meets_getConstellationVRCs) fun vrcs => ?_
  refine .assuming (p := vrcs = c.contents.select (isPeer r))
    (fun _ hc => by rw [hc.2, hc.1]) fun hvrcs => ?_
  rw [hvrcs]
  exact meets_sources.preLeft

theorem asSource_eq_some_iff {found : Option (Pvc × Option Pv)} {pair : VolumePair} :
    asSource found = some pair ↔
      found = some (pair.pvc, some pair.pv) ∧ pair.pvc.mirror = none := by
  constructor
  · intro h
    match found, h with
    | some (pvc, some pv), h =>
      rw [asSource] at h
      split at h
      next => cases h
      next hm =>
        cases h
        exact ⟨rfl, by simpa using hm⟩
  · rintro ⟨rfl, hm⟩
    rw [asSource, hm]
    rfl

theorem lookupPair_eq_some_iff {pvc : Pvc} {pv : Pv} :
    lookupPair c k = some (pvc, some pv) ↔ (pvc ∈ c.pvcs ∧ pvc.key = k) ∧
      pvc.volumeName ≠ "" ∧ c.pvs.find? pvc.volumeName = some pv := by
  rw [← find?_eq_some_iff, lookupPair, bind_eq_some_iff]
  constructor
  · rintro ⟨q, hq, h⟩
    split at h
    next => cases h
    next hname =>
      obtain ⟨pv', hpv, heq⟩ := map_eq_some_iff.mp h
      cases heq
      exact ⟨hq, fun he => hname (beq_iff_eq.mpr he), hpv⟩
  · rintro ⟨hq, hname, hpv⟩
    refine ⟨pvc, hq, ?_⟩
    rw [if_neg fun he => hname (beq_iff_eq.mp he), hpv]
    rfl

theorem mem_sources {ks : List Key} {pair : VolumePair} :
    pair ∈ sources c ks ↔ pair.pvc ∈ c.pvcs ∧ pair.pvc.key ∈ ks ∧ pair.pvc.mirror = none ∧
      pair.pvc.volumeName ≠ "" ∧ c.pvs.find? pair.pvc.volumeName = some pair.pv := by
  simp only [sources, mem_filterMap, asSource_eq_some_iff, lookupPair_eq_some_iff]
  constructor
  · rintro ⟨k, hk, ⟨⟨hmem, rfl⟩, hname, hpv⟩, hm⟩
    exact ⟨hmem, hk, hm, hname, hpv⟩
  · rintro ⟨hmem, hk, hm, hname, hpv⟩
    exact ⟨_, hk, ⟨⟨hmem, rfl⟩, hname, hpv⟩, hm⟩

/-- A claim is among those of the contents it is listed by. -/
theorem mem_claimsOf {vrcs : List Content} :
    k ∈ claimsOf vrcs ↔ ∃ x ∈ vrcs, x.namespaceName = k.1 ∧ k.2 ∈ x.pvcs := by
  simp only [claimsOf, List.mem_flatMap, List.mem_map]
  constructor
  · rintro ⟨x, hx, name, hname, rfl⟩
    exact ⟨x, hx, rfl, hname⟩
  · rintro ⟨x, hx, hns, hname⟩
    exact ⟨x, hx, k.2, hname, Prod.ext hns rfl⟩

/-! ## One reconcile -/

/-- A claim of the source's name, without the labels of a mirror, of another StorageClass, listed
by a content of the constellation and bound to a PV. -/
def HasSource (c : Cluster) (r : Content) (p : Pvc) : Prop :=
  ∃ q ∈ c.pvcs, q.name = p.sourcePVC ∧ q.mirror = none ∧ q.storageClass ≠ r.storageClass ∧
    (∃ x ∈ c.contents, isPeer r x = true ∧ x.namespaceName = q.namespaceName ∧ q.name ∈ x.pvcs) ∧
    q.volumeName ≠ "" ∧ c.pvs.hasKey q.volumeName = true

def keptNames (c : Cluster) (r : Content) : List String :=
  ((sources c (claimsOf (c.contents.select (isPeer r)))).filter
    (·.pvc.storageClass != r.storageClass)).map (·.pvc.name)

theorem mem_keptNames (h : HasSource c r p) : p.sourcePVC ∈ keptNames c r := by
  obtain ⟨q, hq, hname, hm, hsc, ⟨x, hx, hpeer, hns, hlisted⟩, hbound, hpv⟩ := h
  obtain ⟨pv, hpvmem, hpvname⟩ := hasKey_iff.mp hpv
  have hclaim : q.key ∈ claimsOf (c.contents.select (isPeer r)) :=
    mem_claimsOf.mpr ⟨x, mem_select.mpr ⟨hx, hpeer⟩, hns, hlisted⟩
  have hpair : (⟨q, pv⟩ : VolumePair) ∈ sources c (claimsOf (c.contents.select (isPeer r))) :=
    mem_sources.mpr ⟨hq, hclaim, hm, hbound, find?_eq_some_iff.mpr ⟨hpvmem, hpvname⟩⟩
  exact List.mem_map.mpr ⟨⟨q, pv⟩, mem_filter.mpr ⟨hpair, bne_iff_ne.mpr hsc⟩, hname⟩

/-- What a reconcile does to the claims: it makes mirrors of sources that are kept, and
takes labels only from claims in `S`. -/
structure Synced (S : Key → Prop) (keep : List String) (c₀ c : Cluster) : Prop where
  contents : c.contents = c₀.contents
  claims : ∀ p ∈ c.pvcs,
    (c₀.pvcs.hasKey p.key = false ∧ ∃ m, p.mirror = some m ∧ m.sourcePVC ∈ keep) ∨
      ∃ q ∈ c₀.pvcs, q.key = p.key ∧ (p.mirror = q.mirror ∨ S p.key)
  kept : ∀ q ∈ c₀.pvcs, ∃ p ∈ c.pvcs, p.key = q.key

theorem Synced.refl : Synced S keep c c where
  contents := rfl
  claims p hp := .inr ⟨p, hp, rfl, .inl rfl⟩
  kept q hq := ⟨q, hq, rfl⟩

/-- A claim is changed in place. -/
theorem Synced.onPvc {f : Pvc → Pvc} {hf : ∀ p, (f p).key = p.key} (h : Synced S keep c₀ c)
    (hm : (∀ p, (f p).mirror = p.mirror) ∨ S k ∧ c₀.pvcs.hasKey k = true) :
    Synced S keep c₀ (c.onPvc k f hf) where
  contents := h.contents
  claims p hp := by
    obtain ⟨q, hq, rfl⟩ := mem_onPvc.mp hp
    split
    next hk =>
      rw [hf q]
      rcases hm with hm | ⟨hS, hkey⟩
      · rw [hm q]
        exact h.claims q hq
      · rcases h.claims q hq with ⟨hnew, -⟩ | ⟨q₀, hq₀, hkey₀, -⟩
        · rw [hk, hkey] at hnew
          cases hnew
        · exact .inr ⟨q₀, hq₀, hkey₀, .inr (hk ▸ hS)⟩
    next => exact h.claims q hq
  kept q hq := by
    obtain ⟨p, hp, hkey⟩ := h.kept q hq
    refine ⟨_, mem_onPvc.mpr ⟨p, hp, rfl⟩, ?_⟩
    split
    · rw [hf p, hkey]
    · exact hkey

theorem synced_permits (hS : ∀ k, S k → c₀.pvcs.hasKey k = true) :
    Permits (fun _ => True) S (Synced S keep c₀) where
  change _ _ _ _ _ hm h := h.onPvc (.inl hm)
  strip _ k _ _ hk _ h := h.onPvc (.inr ⟨hk, hS k hk⟩)
  pv _ _ _ _ h := ⟨h.contents, h.claims, h.kept⟩

/-- A mirror of a kept source is made. -/
theorem Synced.insert {m : MirrorLabels} (h : Synced S keep c₀ c) (hm : p.mirror = some m)
    (hsource : m.sourcePVC ∈ keep) :
    Synced S keep c₀ { c with pvcs := c.pvcs.insert p } where
  contents := h.contents
  claims q hq := by
    by_cases hold : q ∈ c.pvcs
    · exact h.claims q hold
    · have hins : q ∈ c.pvcs.insert p := hq
      have hnew : q = p := (mem_insert_cases hins).resolve_left hold
      -- A claim of that key would have been in the way.
      have hfree : c.pvcs.hasKey p.key = false := by
        cases hk : c.pvcs.hasKey p.key with
        | false => rfl
        | true =>
          rw [Table.insert, dif_pos hk] at hins
          exact absurd hins hold
      refine .inl ⟨?_, m, hnew ▸ hm, hsource⟩
      rw [hnew, eq_false_iff]
      intro hkey
      obtain ⟨q₀, hq₀, hkey₀⟩ := hasKey_iff.mp hkey
      obtain ⟨p', hp', hkey'⟩ := h.kept q₀ hq₀
      rw [hasKey_iff.mpr ⟨p', hp', hkey'.trans hkey₀⟩] at hfree
      cases hfree
  kept q hq := by
    obtain ⟨p', hp', hkey⟩ := h.kept q hq
    exact ⟨p', mem_insert_of_mem hp', hkey⟩

/-- An orphan is an old claim: what was just made has a source that is kept. -/
theorem Synced.orphan (h : Synced S keep c₀ c) (hp : p ∈ c.pvcs) (hsel : isMirrorOf r p = true)
    (hkeep : p.sourcePVC ∉ keep) :
    S p.key ∨ ∃ q ∈ c₀.pvcs, q.key = p.key ∧ isMirrorOf r q = true ∧ q.sourcePVC = p.sourcePVC := by
  rcases h.claims p hp with ⟨-, m, hm, hsource⟩ | ⟨q, hq, hkey, hm | hS⟩
  · rw [Pvc.sourcePVC, hm] at hkeep
    exact absurd hsource hkeep
  · refine .inr ⟨q, hq, hkey, ?_, by rw [Pvc.sourcePVC, Pvc.sourcePVC, hm]⟩
    have hns : q.namespaceName = p.namespaceName := congrArg Prod.fst hkey
    rw [isMirrorOf, hns, ← hm]
    exact hsel
  · exact .inl hS

section Reconcile

variable (hS : ∀ k, S k → c₀.pvcs.hasKey k = true)

include hS

/-- The removal of orphans, where those that are released are in `S`. -/
theorem keeps_orphans_synced (horphan : out.retains = true → ∀ q ∈ c₀.pvcs,
      isMirrorOf r q = true → q.sourcePVC ∉ keep → S q.key) :
    Keeps (Synced S keep c₀) (cleanReplicaMirrorOrphans out r keep) := by
  refine keeps_releaseOrphans (synced_permits hS) fun c hc p hp hsel hkeep => ⟨trivial, ?_⟩
  intro hretain
  rcases hc.orphan hp hsel hkeep with hdone | ⟨q, hq, hkey, hselq, hsource⟩
  · exact hdone
  · exact hkey ▸ horphan hretain q hq hselq (hsource ▸ hkeep)

/-- A whole reconcile. -/
theorem meets_syncMirrors (horphan : out.retains = true → ∀ q ∈ c₀.pvcs,
      isMirrorOf r q = true → HasSource c₀ r q ∨ S q.key) :
    Meets (· = c₀) (syncMirrors out r) (fun _ => Synced S (keptNames c₀ r) c₀)
      (fun _ => Synced S (keptNames c₀ r) c₀) := by
  have hrefl : ∀ c, c = c₀ → Synced S (keptNames c₀ r) c₀ c := fun c hc => hc ▸ Synced.refl
  refine .bind (meets_classifyConstellationPVCs.raise fun _ c hc => hrefl c hc) fun unmanaged => ?_
  refine .assuming (fun _ hc => hc.2) fun hunmanaged => ?_
  dsimp only
  split
  next =>
    have hkeep : (unmanaged.filter (·.pvc.storageClass != r.storageClass)).map (·.pvc.name) =
        keptNames c₀ r := by rw [hunmanaged, keptNames]
    have hmake : Keeps (Synced S (keptNames c₀ r) c₀) (ensureReplicaMirrors out r
        (unmanaged.filter (·.pvc.storageClass != r.storageClass))) := by
      refine keeps_mirrorLoop (fun _ _ h => ⟨h.contents, h.claims, h.kept⟩) ?_
      intro source hsource _ _ _ h
      exact h.insert rfl (hkeep ▸ mem_map_of_mem hsource)
    have hclean : Keeps (Synced S (keptNames c₀ r) c₀)
        (cleanReplicaMirrorOrphans out r (keptNames c₀ r)) :=
      keeps_orphans_synced hS fun hretain q hq hsel hnot =>
        (horphan hretain q hq hsel).resolve_left fun h => hnot (mem_keptNames h)
    rw [hkeep]
    refine .bind (.attempt ((meets_withContext hmake).pre fun c hc => hrefl c hc.1)) fun _ => ?_
    refine .bind (.attempt (meets_withContext hclean)) fun _ => ?_
    exact keeps_raiseDeferred
  next => exact .pure fun c hc => hrefl c hc.1

end Reconcile

/-! ## Runs -/

/-- The objects, the lists of the groups, and what only an observer knows. -/
structure State where
  cluster : Cluster
  /-- The claims with the label of their StorageClass that have no labels of a mirror. -/
  labelled : List Key := []
  /-- `status.persistentVolumeClaimsRefList` of the group of a content. -/
  groups : Key → List String := fun _ => []
  mirrors : List Key := []

inductive Act where
  /-- The mirrors of a content are reconciled. -/
  | reconcile (content : Key) (out : Outcomes)
  /-- The mirrors of a content that is cleaned up are removed. -/
  | release (content : Key) (out : Outcomes)
  /-- csi-addons collects the claims of a group by label. -/
  | collect (content : Key)
  /-- `reconcileVGR` copies the list of the group, or makes the content with it. -/
  | copy (content : Key)
  | make (content : Content)
  | drop (content : Key)
  /-- Somebody makes a claim, which may get its label from the webhook. -/
  | claim (pvc : Pvc) (labelled : Bool)
  | volume (pv : Pv)
  | bind (pvc : Key) (volumeName : String)
  | remove (pvc : Key)
  /-- Another StorageClass becomes the primary: its claims on the replicated path that
  have no label get one, `ApplyExistingPVCs`. -/
  | switch (storageClass : String) (replicated : Key → Bool)

def State.hasLabel (s : State) (sc : String) (p : Pvc) : Bool :=
  p.mirror.any (·.storageClass == sc) ||
    (p.mirror.isNone && (p.storageClass == sc && s.labelled.contains p.key))

def State.after (s : State) (c : Cluster) : State :=
  { s with
    cluster := c
    mirrors := ((c.pvcs.rows.map Pvc.key).filter fun k => !s.cluster.pvcs.hasKey k) ++ s.mirrors }

def State.listOf (s : State) (k : Key) : List String := (s.groups k).insertionSort (· ≤ ·)

def step (s : State) : Act → Option State
  | .reconcile k out =>
    (s.cluster.contents.find? k).map fun r => s.after (endState (syncMirrors out r s.cluster))
  | .release k out =>
    (s.cluster.contents.find? k).map fun r =>
      s.after (endState (cleanReplicaMirrorOrphans out r [] s.cluster))
  | .collect k =>
    (s.cluster.contents.find? k).map fun r =>
      { s with groups := Function.update s.groups k ((s.cluster.pvcs.select fun p =>
          p.namespaceName == k.1 && s.hasLabel r.storageClass p).map (·.name)) }
  | .copy k => some { s with cluster := { s.cluster with
      contents := s.cluster.contents.modify k (fun x => { x with pvcs := s.listOf k })
        fun _ => rfl } }
  | .make x => some { s with cluster := { s.cluster with
      contents := s.cluster.contents.insert { x with pvcs := s.listOf x.key } } }
  | .drop k => some { s with cluster := { s.cluster with
      contents := s.cluster.contents.erase k } }
  | .claim p labelled =>
    if s.cluster.pvcs.hasKey p.key then none
    else some { s with
      cluster := { s.cluster with pvcs := s.cluster.pvcs.insert { p with mirror := none } }
      labelled := if labelled then p.key :: s.labelled else s.labelled }
  | .volume pv => some { s with cluster := { s.cluster with pvs := s.cluster.pvs.insert pv } }
  | .bind k volumeName => some { s with
      cluster := s.cluster.onPvc k (fun p => { p with volumeName := volumeName }) fun _ => rfl }
  | .remove k => some { s with
      cluster := { s.cluster with pvcs := s.cluster.pvcs.erase k }
      labelled := s.labelled.filter (· ≠ k)
      mirrors := s.mirrors.filter (· ≠ k) }
  | .switch sc replicated => some { s with
      labelled := ((s.cluster.pvcs.select fun p => p.storageClass == sc &&
        (p.mirror.isNone && replicated p.key)).map Pvc.key) ++ s.labelled }

def start : State where
  cluster :=
    { contents := Table.empty
      pvcs := Table.empty
      pvs := Table.empty
      vast := fun _ => { snapshots := Table.empty, ppaths := Table.empty } }

def Unlisted (s : State) (k : Key) : Prop :=
  (∀ x ∈ s.cluster.contents, x.namespaceName = k.1 → k.2 ∉ x.pvcs) ∧
    ∀ g : Key, g.1 = k.1 → k.2 ∉ s.groups g

/-- A step that releases only mirrors that are in no list, and labels no released
mirror. -/
def Careful (s : State) : Act → Prop
  | .reconcile k out => ∀ r, s.cluster.contents.find? k = some r → out.retains = true →
      ∀ p ∈ s.cluster.pvcs, isMirrorOf r p = true → HasSource s.cluster r p ∨ Unlisted s p.key
  | .release k out => ∀ r, s.cluster.contents.find? k = some r → out.retains = true →
      ∀ p ∈ s.cluster.pvcs, isMirrorOf r p = true → Unlisted s p.key
  | .switch sc replicated => ∀ p ∈ s.cluster.pvcs, p.storageClass = sc → p.mirror = none →
      p.key ∈ s.mirrors → replicated p.key = false
  | _ => True

/-- A mirror without labels is in no list, and claims with a label of their own are no
mirrors. -/
structure Guarded (s : State) : Prop where
  exist : ∀ k, k ∈ s.mirrors ∨ k ∈ s.labelled → s.cluster.pvcs.hasKey k = true
  own : ∀ k ∈ s.labelled, k ∉ s.mirrors
  guard : ∀ p ∈ s.cluster.pvcs, p.key ∈ s.mirrors → p.mirror = none → Unlisted s p.key

section Steps

variable {s : State}

theorem guarded_start : Guarded start where
  exist _ h := by
    rcases h with h | h
    · exact absurd h not_mem_nil
    · exact absurd h not_mem_nil
  own _ h := absurd h not_mem_nil
  guard _ h := absurd h not_mem_nil

/-- After a reconcile that has taken labels only from unlisted claims. -/
theorem Guarded.after (h : Guarded s) (hc : Synced
    (fun k => s.cluster.pvcs.hasKey k = true ∧ Unlisted s k) keep s.cluster c) :
    Guarded (s.after c) where
  exist k hk := by
    have hold : s.cluster.pvcs.hasKey k = true → c.pvcs.hasKey k = true := by
      intro hkey
      obtain ⟨q, hq, rfl⟩ := hasKey_iff.mp hkey
      obtain ⟨p, hp, hkey'⟩ := hc.kept q hq
      exact hasKey_iff.mpr ⟨p, hp, hkey'⟩
    rcases hk with hk | hk
    · rcases mem_append.mp hk with hnew | hmirror
      · obtain ⟨p, hp, hkey⟩ := List.mem_map.mp (mem_filter.mp hnew).1
        exact hasKey_iff.mpr ⟨p, hp, hkey⟩
      · exact hold (h.exist k (.inl hmirror))
    · exact hold (h.exist k (.inr hk))
  own k hk hmem := by
    rcases mem_append.mp hmem with hnew | hmirror
    · have hfree := (mem_filter.mp hnew).2
      rw [h.exist k (.inr hk)] at hfree
      cases hfree
    · exact h.own k hk hmirror
  guard p hp hmirror hnone := by
    have hunlisted : ∀ k, Unlisted s k → Unlisted (s.after c) k :=
      fun k hk => ⟨fun x hx => hk.1 x (hc.contents ▸ hx), hk.2⟩
    rcases hc.claims p hp with ⟨-, m, hm, -⟩ | ⟨q, hq, hkey, hm⟩
    · rw [hnone] at hm
      cases hm
    · rcases hm with hm | hreleased
      · refine hunlisted _ (hkey ▸ h.guard q hq ?_ (hm ▸ hnone))
        -- It was there before, so it was a mirror before.
        refine hkey ▸ (mem_append.mp hmirror).resolve_left fun hnew => ?_
        have hfree := (mem_filter.mp hnew).2
        rw [hasKey_iff.mpr ⟨q, hq, hkey⟩] at hfree
        cases hfree
      · exact hunlisted _ hreleased.2

/-- The contents list what they listed before, or what their groups list. -/
theorem Guarded.contents (h : Guarded s) {t : Table Content Content.key}
    (ht : ∀ x ∈ t, x ∈ s.cluster.contents ∨ ∀ name ∈ x.pvcs, name ∈ s.groups x.key) :
    Guarded { s with cluster := { s.cluster with contents := t } } where
  exist := h.exist
  own := h.own
  guard p hp hmirror hnone := by
    obtain ⟨hcontents, hgroups⟩ := h.guard p hp hmirror hnone
    refine ⟨fun x hx hns hlisted => ?_, hgroups⟩
    rcases ht x hx with hold | hgroup
    · exact hcontents x hold hns hlisted
    · exact hgroups x.key hns (hgroup _ hlisted)

variable {k : Key}

/-- The list of a group has claims with the label. -/
theorem Guarded.collect (h : Guarded s) {sc : String} :
    Guarded { s with groups := Function.update s.groups k ((s.cluster.pvcs.select fun p =>
      p.namespaceName == k.1 && s.hasLabel sc p).map (·.name)) } where
  exist := h.exist
  own := h.own
  guard p hp hmirror hnone := by
    obtain ⟨hcontents, hgroups⟩ := h.guard p hp hmirror hnone
    refine ⟨hcontents, fun g hg => ?_⟩
    dsimp only
    by_cases hgk : g = k
    · subst hgk
      rw [Function.update_self]
      intro hmem
      obtain ⟨q, hq, hname⟩ := List.mem_map.mp hmem
      obtain ⟨hqmem, hsel⟩ := Table.mem_select.mp hq
      rw [Bool.and_eq_true, beq_iff_eq] at hsel
      have hqp : q = p := Table.eq_of_key hqmem hp (Prod.ext (hsel.1.trans hg) hname)
      -- Without labels of a mirror it would have to be labelled on its own.
      rw [hqp, State.hasLabel, hnone] at hsel
      simp only [Option.any_none, Bool.false_or, Option.isNone_none, Bool.true_and,
        Bool.and_eq_true, List.contains_iff_mem] at hsel
      exact h.own _ hsel.2.2 hmirror
    · rw [Function.update_of_ne hgk]
      exact hgroups g hg

theorem Guarded.claim (h : Guarded s) {p : Pvc} (hfree : s.cluster.pvcs.hasKey p.key = false)
    (labelled : Bool) :
    Guarded { s with
      cluster := { s.cluster with pvcs := s.cluster.pvcs.insert { p with mirror := none } }
      labelled := if labelled then p.key :: s.labelled else s.labelled } := by
  have hnot : p.key ∉ s.mirrors := by
    intro hmem
    rw [h.exist p.key (.inl hmem)] at hfree
    cases hfree
  have hlab : ∀ k ∈ (if labelled then p.key :: s.labelled else s.labelled),
      k = p.key ∨ k ∈ s.labelled := by
    intro k hk
    split at hk
    · exact mem_cons.mp hk
    · exact .inr hk
  have hold : ∀ k, s.cluster.pvcs.hasKey k = true →
      (s.cluster.pvcs.insert { p with mirror := none }).hasKey k = true := by
    intro k hk
    obtain ⟨q, hq, hkey⟩ := hasKey_iff.mp hk
    exact hasKey_iff.mpr ⟨q, mem_insert_of_mem hq, hkey⟩
  refine ⟨fun k hk => ?_, fun k hk hmem => ?_, fun q hq hmirror hnone => ?_⟩
  · rcases hk with hk | hk
    · exact hold k (h.exist k (.inl hk))
    · rcases hlab k hk with rfl | hk
      · exact hasKey_iff.mpr ⟨_, mem_insert_self hfree, rfl⟩
      · exact hold k (h.exist k (.inr hk))
  · rcases hlab k hk with rfl | hk
    · exact hnot hmem
    · exact h.own k hk hmem
  · rcases mem_insert_cases hq with hq | rfl
    · exact h.guard q hq hmirror hnone
    · exact absurd hmirror hnot

theorem Guarded.remove (h : Guarded s) : Guarded { s with
      cluster := { s.cluster with pvcs := s.cluster.pvcs.erase k }
      labelled := s.labelled.filter (· ≠ k)
      mirrors := s.mirrors.filter (· ≠ k) } where
  exist j hj := by
    have hboth : (j ∈ s.mirrors ∨ j ∈ s.labelled) ∧ j ≠ k := by
      rcases hj with hj | hj
      · obtain ⟨hmem, hne⟩ := mem_filter.mp hj
        exact ⟨.inl hmem, of_decide_eq_true hne⟩
      · obtain ⟨hmem, hne⟩ := mem_filter.mp hj
        exact ⟨.inr hmem, of_decide_eq_true hne⟩
    obtain ⟨q, hq, hkey⟩ := hasKey_iff.mp (h.exist j hboth.1)
    exact hasKey_iff.mpr ⟨q, mem_erase.mpr ⟨hq, hkey ▸ hboth.2⟩, hkey⟩
  own j hj hmem := h.own j (mem_filter.mp hj).1 (mem_filter.mp hmem).1
  guard p hp hmirror hnone := h.guard p (mem_erase.mp hp).1 (mem_filter.mp hmirror).1 hnone

theorem Guarded.bind (h : Guarded s) {volumeName : String} :
    Guarded { s with cluster :=
      s.cluster.onPvc k (fun p => { p with volumeName := volumeName }) fun _ => rfl } where
  exist j hj := by
    obtain ⟨q, hq, hkey⟩ := hasKey_iff.mp (h.exist j hj)
    refine hasKey_iff.mpr ⟨_, mem_onPvc.mpr ⟨q, hq, rfl⟩, ?_⟩
    split
    · exact hkey
    · exact hkey
  own := h.own
  guard p hp hmirror hnone := by
    obtain ⟨q, hq, rfl⟩ := mem_onPvc.mp hp
    split at hmirror
    next hk =>
      rw [if_pos hk] at hnone ⊢
      exact h.guard q hq hmirror hnone
    next hk =>
      rw [if_neg hk] at hnone ⊢
      exact h.guard q hq hmirror hnone

theorem Guarded.switch (h : Guarded s) {sc : String} {replicated : Key → Bool}
    (hcareful : Careful s (.switch sc replicated)) :
    Guarded { s with
      labelled := ((s.cluster.pvcs.select fun p => p.storageClass == sc &&
        (p.mirror.isNone && replicated p.key)).map Pvc.key) ++ s.labelled } where
  exist k hk := by
    rcases hk with hk | hk
    · exact h.exist k (.inl hk)
    · rcases mem_append.mp hk with hnew | hold
      · obtain ⟨p, hp, hkey⟩ := List.mem_map.mp hnew
        exact hasKey_iff.mpr ⟨p, (mem_select.mp hp).1, hkey⟩
      · exact h.exist k (.inr hold)
  own k hk hmem := by
    rcases mem_append.mp hk with hnew | hold
    · obtain ⟨p, hp, rfl⟩ := List.mem_map.mp hnew
      obtain ⟨hpmem, hsel⟩ := mem_select.mp hp
      rw [Bool.and_eq_true, Bool.and_eq_true, beq_iff_eq, isNone_iff_eq_none] at hsel
      rw [hcareful p hpmem hsel.1 hsel.2.1 hmem] at hsel
      cases hsel.2.2
    · exact h.own k hold hmem
  guard := h.guard

/-- Every careful step keeps the guard. -/
theorem guarded_step (s : State) (a : Act) (s' : State) (h : Guarded s) (ha : Careful s a)
    (hstep : step s a = some s') : Guarded s' := by
  cases a with
  | reconcile k out =>
    obtain ⟨r, hr, rfl⟩ := map_eq_some_iff.mp hstep
    refine h.after ((meets_syncMirrors (fun _ hk => hk.1) ?_).endState rfl)
    intro hretain p hp hsel
    exact (ha r hr hretain p hp hsel).imp_right fun hu => ⟨hasKey_iff.mpr ⟨p, hp, rfl⟩, hu⟩
  | release k out =>
    obtain ⟨r, hr, rfl⟩ := map_eq_some_iff.mp hstep
    refine h.after ((keeps_orphans_synced (fun _ hk => hk.1) ?_).endState Synced.refl)
    intro hretain p hp hsel _
    exact ⟨hasKey_iff.mpr ⟨p, hp, rfl⟩, ha r hr hretain p hp hsel⟩
  | collect k =>
    obtain ⟨r, -, rfl⟩ := map_eq_some_iff.mp hstep
    exact h.collect
  | copy k =>
    cases hstep
    refine h.contents fun x hx => ?_
    obtain ⟨x', hx', rfl⟩ := mem_modify.mp hx
    split
    next hk =>
      refine .inr fun name hname => ?_
      have hkey : ({ x' with pvcs := s.listOf k } : Content).key = k := hk
      rw [hkey]
      exact (mem_insertionSort _).mp hname
    next => exact .inl hx'
  | make x =>
    cases hstep
    refine h.contents fun x' hx' => ?_
    rcases mem_insert_cases hx' with hold | rfl
    · exact .inl hold
    · exact .inr fun name hname => (mem_insertionSort _).mp hname
  | drop k =>
    cases hstep
    exact h.contents fun x hx => .inl (mem_erase.mp hx).1
  | claim p labelled =>
    rw [step] at hstep
    split at hstep
    next => cases hstep
    next hfree =>
      cases hstep
      exact h.claim (eq_false_iff.mpr hfree) labelled
  | volume pv =>
    cases hstep
    exact ⟨h.exist, h.own, h.guard⟩
  | bind k volumeName =>
    cases hstep
    exact h.bind
  | remove k =>
    cases hstep
    exact h.remove
  | switch sc replicated =>
    cases hstep
    exact h.switch ha

end Steps

/-- **No mirror of a mirror**: along careful steps, no claim that was created as a mirror
is ever classified as a source. -/
theorem mirrors_never_sources (acts : List Act) (s : State)
    (hmeets : RunMeets step Careful start acts) (hrun : runFrom step start acts = some s)
    (r : Content) (out : Outcomes) (pairs : List VolumePair) (c : Cluster)
    (hpairs : classifyConstellationPVCs out r s.cluster = .ok pairs c) :
    ∀ pair ∈ pairs, pair.pvc.key ∉ s.mirrors := by
  intro pair hpair hmirror
  have hguarded := runFrom_invariant guarded_step acts guarded_start hmeets hrun
  obtain ⟨-, rfl⟩ := meets_classifyConstellationPVCs.ok rfl hpairs
  obtain ⟨hpvc, hclaim, hnone, -⟩ := mem_sources.mp hpair
  obtain ⟨x, hx, hns, hlisted⟩ := mem_claimsOf.mp hclaim
  exact (hguarded.guard _ hpvc hmirror hnone).1 x (mem_select.mp hx).1 hns hlisted

/-! ### A released mirror -/

def contentOf (sc : String) : Content where
  namespaceName := "data"
  name := "v-" ++ sc
  owner := ⟨.vscr, "data", "v"⟩
  storageClass := sc

def source : Pvc :=
  { namespaceName := "data", name := "db", storageClass := "east", volumeName := "pv" }

def sourcePv : Pv :=
  { name := "pv", volumeHandle := "/k8s/pv", csiDriver := "csi.vastdata.com", capacity := 1 }

def westward : Outcomes where
  destPVCName := fun name => .ok (name ++ "-west")
  destPVName := fun name => .ok (name ++ "-west")

def mirrored : List Act :=
  [.volume sourcePv, .claim source true, .make (contentOf "east"), .make (contentOf "west"),
    .collect ("data", "v-east"), .copy ("data", "v-east"),
    .reconcile ("data", "v-west") westward,
    .collect ("data", "v-west"), .copy ("data", "v-west")]

def released : List Act :=
  [.remove ("data", "db"), .collect ("data", "v-east"), .copy ("data", "v-east"),
    .reconcile ("data", "v-west") westward]

def seenFromEast (s : State) : List Key × Option (List String) :=
  (s.mirrors,
    match classifyConstellationPVCs {} (contentOf "east") s.cluster with
    | .ok pairs _ => some (pairs.map (·.pvc.name))
    | .error _ _ => none)

def nothingToRelease (s : State) : Act → Bool
  | .reconcile _ _ | .release _ _ => s.cluster.pvcs.rows.all fun p => p.mirror.isNone
  | .switch _ _ => s.mirrors.isEmpty
  | _ => true

theorem careful_of_nothingToRelease (s : State) (a : Act) (h : nothingToRelease s a = true) :
    Careful s a := by
  have hnone : (s.cluster.pvcs.rows.all fun p => p.mirror.isNone) = true →
      ∀ r, ∀ p ∈ s.cluster.pvcs, isMirrorOf r p ≠ true := by
    intro hall r p hp hsel
    rw [isMirrorOf, isNone_iff_eq_none.mp (all_eq_true.mp hall p hp),
      Option.any_none, Bool.and_false] at hsel
    cases hsel
  cases a with
  | reconcile k out => exact fun r _ _ p hp hsel => absurd hsel (hnone h r p hp)
  | release k out => exact fun r _ _ p hp hsel => absurd hsel (hnone h r p hp)
  | switch sc replicated =>
    intro p _ _ _ hmem
    rw [isEmpty_iff.mp h] at hmem
    cases hmem
  | _ => exact trivial

/-- A listed mirror is no source. -/
theorem mirrors_never_sources_listed : ∃ s pairs c, runFrom step start mirrored = some s ∧
      classifyConstellationPVCs {} (contentOf "east") s.cluster = .ok pairs c ∧
      s.mirrors = [("data", "db-west")] ∧ ∀ pair ∈ pairs, pair.pvc.key ∉ s.mirrors := by
  have hseen : (runFrom step start mirrored).map seenFromEast =
      some ([("data", "db-west")], some ["db"]) := by decide +kernel
  obtain ⟨s, hs, hpair⟩ := map_eq_some_iff.mp hseen
  obtain ⟨hmirrors, hclass⟩ := Prod.mk.injEq .. ▸ hpair
  have hmeets : RunMeets step (fun s a => nothingToRelease s a = true) start mirrored := by
    decide +kernel
  cases hrun : classifyConstellationPVCs {} (contentOf "east") s.cluster with
  | error e c =>
    rw [hrun] at hclass
    cases hclass
  | ok pairs c =>
    exact ⟨s, pairs, c, hs, hrun, hmirrors, mirrors_never_sources mirrored s
      (hmeets.mono careful_of_nothingToRelease) hs (contentOf "east") {} pairs c hrun⟩

/-- Released while the west still lists it, the mirror is a source for the east. -/
theorem released_mirror_is_source : (runFrom step start (mirrored ++ released)).map seenFromEast =
      some ([("data", "db-west")], some ["db-west"]) := by
  decide +kernel

end VastCsi.Ext.MirrorSources
