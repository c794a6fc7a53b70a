import VastCsi.Ext.CleanVolumes

/-!
# Whose contents and mirrors are touched

Parents of the same name can live in different namespaces and have their PVCs in the same one.
Labels tell them apart by name and namespace, but the selectors ask for the name only: those of
the constellation of a content, of the orphans among the mirrors, and of the contents a parent
under deletion waits for.
-/

namespace VastCsi.Ext.Contents

open Lib CsiAddons Table Bool List Cluster

def Foreign (o : Owner) (q : Pvc) : Prop := ∃ m, q.mirror = some m ∧ m.owner ≠ o

structure Untouched (o : Owner) (before after : Cluster) : Prop where
  contents : ∀ x ∈ before.contents, x.owner ≠ o → x ∈ after.contents
  mirrors : ∀ q ∈ before.pvcs, Foreign o q → q ∈ after.pvcs

/-- The parent and its contents keep to what is theirs. -/
structure Isolated (c : Cluster) (p : Parent) : Prop where
  listed : ∀ x ∈ c.contents, ParentDeletion.isListed p x.toContentMeta = true → x.owner = p.toOwner
  counted : ∀ r ∈ c.contents, r.owner = p.toOwner → ∀ out vrcs c',
    getConstellationVRCs out r c = .ok vrcs c' → ∀ x ∈ vrcs, x.owner = p.toOwner
  mirrored : ∀ r ∈ c.contents, r.owner = p.toOwner → ∀ out pairs c',
    classifyConstellationPVCs out r c = .ok pairs c' → ∀ pair ∈ pairs,
      ∃ x ∈ c.contents, x.owner = p.toOwner ∧ ∃ name ∈ x.pvcs,
        pair.pvc.key = (x.namespaceName, name)
  /-- The mirrors that are deleted or detached, by themselves and in the passes
  they are part of. -/
  spared : ∀ r ∈ c.contents, r.owner = p.toOwner → ∀ out keep,
    Untouched p.toOwner c (endState (cleanReplicaMirrorOrphans out r keep c))
  provisioned : ∀ r ∈ c.contents, r.owner = p.toOwner → ∀ out,
    Untouched p.toOwner c (endState (syncMirrors out r c))
  cleaned : ∀ r ∈ c.contents, r.owner = p.toOwner → ∀ out,
    Untouched p.toOwner c (endState (cleanup out r c))

def Namesake (o : Owner) (p : Parent) : Prop := o.kind = p.kind ∧ o.name = p.name

/-- No namesake has a content in the parent's PVC namespace or beside one of its contents, or a
mirror beside one and of its class. -/
structure NoNamesake (c : Cluster) (p : Parent) : Prop where
  contents : ∀ x ∈ c.contents, Namesake x.owner p → (x.namespaceName = p.pvcNamespace ∨
      ∃ r ∈ c.contents, r.owner = p.toOwner ∧ r.namespaceName = x.namespaceName) →
    x.owner = p.toOwner
  mirrors : ∀ q ∈ c.pvcs, ∀ m, q.mirror = some m → Namesake m.owner p →
    (∃ r ∈ c.contents, r.owner = p.toOwner ∧ r.namespaceName = q.namespaceName ∧
      r.storageClass = m.storageClass) →
    m.owner = p.toOwner

section Selectors

variable {r x : Content} {q : Pvc} {p : Parent}

theorem isPeer_iff : isPeer r x = true ↔
    x.namespaceName = r.namespaceName ∧ x.owner.kind = r.owner.kind ∧
      x.owner.name = r.owner.name := by
  simp only [isPeer, beq_iff_eq, ContentMeta.constellation, ContentMeta.key, Prod.mk.injEq]

theorem isMirrorOf_iff : isMirrorOf r q = true ↔
    q.namespaceName = r.namespaceName ∧ ∃ m, q.mirror = some m ∧
      m.storageClass = r.storageClass ∧ m.owner.kind = r.owner.kind ∧
      m.owner.name = r.owner.name := by
  simp only [isMirrorOf, and_eq_true, beq_iff_eq, Option.any_eq_true]

theorem isListed_iff : ParentDeletion.isListed p x.toContentMeta = true ↔
    x.namespaceName = p.pvcNamespace ∧ Namesake x.owner p := by
  simp only [ParentDeletion.isListed, beq_iff_eq, ContentMeta.constellation, ContentMeta.key,
    Prod.mk.injEq, Namesake]

end Selectors

section Frame

variable {out : CleanupOutcomes} {c : Cluster} {p : Parent} {r : Content}

theorem Untouched.refl (o : Owner) (c : Cluster) : Untouched o c c :=
  ⟨fun _ hx _ => hx, fun _ hq _ => hq⟩

/-- The keys under which another parent has no mirror. -/
def FreeKey (o : Owner) (c : Cluster) (k : Key) : Prop := ∀ q ∈ c.pvcs, Foreign o q → q.key ≠ k

theorem tolerates_untouched (o : Owner) : Tolerates (FreeKey o c) (Untouched o c) where
  pvc := fun _ _ _ _ hk _ h => ⟨h.contents, fun q hq hf =>
    mem_onPvc.mpr ⟨q, h.mirrors q hq hf, (if_neg (hk q hq hf)).symm⟩⟩
  pv := fun _ _ _ _ h => ⟨h.contents, h.mirrors⟩

theorem admits_untouched (o : Owner) : Admits (Untouched o c) where
  pvc := fun _ _ h => ⟨h.contents, fun q hq hf => mem_insert_of_mem (h.mirrors q hq hf)⟩
  pv := fun _ _ h => ⟨h.contents, h.mirrors⟩

/-- What the selector of the orphans selects is not another's, also later. -/
theorem freeKey_of_selected (hno : NoNamesake c p) (hr : r ∈ c.contents)
    (ho : r.owner = p.toOwner) {c' : Cluster} (h : Untouched p.toOwner c c') :
    ∀ q ∈ c'.pvcs, isMirrorOf r q = true → FreeKey p.toOwner c q.key := by
  intro q hq hsel q' hq' hf hk
  obtain rfl := eq_of_key (h.mirrors q' hq' hf) hq hk
  obtain ⟨hns, m, hm, hsc, hkind, hname⟩ := isMirrorOf_iff.mp hsel
  obtain ⟨m', hm', hne⟩ := hf
  cases hm.symm.trans hm'
  rw [ho] at hkind hname
  exact hne (hno.mirrors q' hq' m hm ⟨hkind, hname⟩ ⟨r, hr, ho, hns.symm, hsc.symm⟩)

theorem keeps_orphans_untouched (hno : NoNamesake c p) (hr : r ∈ c.contents)
    (ho : r.owner = p.toOwner) {o : Outcomes} {keep : List String} :
    Keeps (Untouched p.toOwner c) (cleanReplicaMirrorOrphans o r keep) :=
  keeps_cleanReplicaMirrorOrphans (tolerates_untouched p.toOwner)
    fun _ h => freeKey_of_selected hno hr ho h

theorem isolated_of_noNamesake (hno : NoNamesake c p) : Isolated c p := by
  have hpeer : ∀ r ∈ c.contents, r.owner = p.toOwner → ∀ x ∈ c.contents.select (isPeer r),
      x ∈ c.contents ∧ x.owner = p.toOwner := by
    intro r hr ho x hx
    obtain ⟨hmem, hsel⟩ := mem_select.mp hx
    obtain ⟨hns, hkind, hname⟩ := isPeer_iff.mp hsel
    rw [ho] at hkind hname
    exact ⟨hmem, hno.contents x hmem ⟨hkind, hname⟩ (.inr ⟨r, hr, ho, hns.symm⟩)⟩
  refine ⟨fun x hx hl => ?_, ?_, ?_, ?_, ?_, ?_⟩
  · obtain ⟨hns, hname⟩ := isListed_iff.mp hl
    exact hno.contents x hx hname (.inl hns)
  · intro r hr ho out vrcs c' hrun x hx
    have hlist := (meets_getConstellationVRCs (I := fun c' => c' = c)).ok rfl hrun
    rw [hlist.2, hlist.1] at hx
    exact (hpeer r hr ho x hx).2
  · intro r hr ho out pairs c' hrun pair hpair
    have hpairs : Yields (fun c' => c' = c) (classifyConstellationPVCs out r)
        (fun pairs _ => ∀ pair ∈ pairs,
          pair.pvc.key ∈ claimsOf (c.contents.select (isPeer r))) := by
      refine .bind ((meets_withContext meets_getConstellationVRCs).okOnly) fun vrcs => ?_
      refine .assuming (p := vrcs = c.contents.select (isPeer r))
        (fun c' hc => by rw [hc.2, hc.1]) fun hv => ?_
      subst hv
      exact (meets_classifyPVCs (I := fun _ => True)).weaken (fun _ _ => trivial)
        (fun _ _ hc => hc.2) (fun _ _ hc => hc)
    obtain ⟨x, hx, hkey⟩ := mem_flatMap.mp (hpairs.ok rfl hrun pair hpair)
    obtain ⟨name, hname, hkey⟩ := mem_map.mp hkey
    exact ⟨x, (hpeer r hr ho x hx).1, (hpeer r hr ho x hx).2, name, hname, hkey.symm⟩
  · intro r hr ho out keep
    exact (keeps_orphans_untouched hno hr ho).endState (Untouched.refl _ c)
  · intro r hr ho out
    exact (keeps_syncMirrors (tolerates_untouched _) (admits_untouched _)
      fun _ h => freeKey_of_selected hno hr ho h).endState (Untouched.refl _ c)
  · intro r hr ho out
    have hind : Indifferent r (Untouched p.toOwner c) := by
      refine ⟨fun _ _ h => ⟨h.contents, h.mirrors⟩, fun c' f hf h => ?_⟩
      -- the content that is written is the parent's own
      refine ⟨fun x hx hne => ?_, h.mirrors⟩
      refine mem_onContent.mpr ⟨x, h.contents x hx hne, (if_neg fun hk => ?_).symm⟩
      rw [eq_of_key hx hr hk] at hne
      exact hne ho
    exact (hind.keeps_cleanup (keeps_orphans_untouched hno hr ho)).endState (Untouched.refl _ c)

end Frame

section Namesakes

variable {c : Cluster} {r : Content} {q : Pvc}

def Stripped (k : Key) (c : Cluster) : Prop := ∀ x ∈ c.pvcs, x.key = k → x.mirror = none

theorem tolerates_stripped (k : Key) : Tolerates (fun _ => True) (Stripped k) where
  pvc := by
    intro c k' f hf _ hun h x hx hk
    obtain ⟨x', hx', rfl⟩ := mem_onPvc.mp hx
    split at hk
    next hkey =>
      rw [if_pos hkey]
      rcases hun x' with he | he
      · rw [he]
        exact h x' hx' ((hf x').symm.trans hk)
      · exact he
    next hkey =>
      rw [if_neg hkey]
      exact h x' hx' hk
  pv := fun _ _ _ _ h => h

/-- With every call answered a detached claim is no mirror any more. -/
theorem stripped_of_detach :
    Finishes (fun _ => True) (detachMirrorFromReplication {} q) (fun _ => Stripped q.key) := by
  have hpv : Finishes (fun _ : Cluster => True) (managedPVForPVC {} q) (fun _ _ => True) := by
    unfold managedPVForPVC
    split
    next => exact .pure fun _ _ => trivial
    next =>
      exact .bind (meets_withContext (Q := fun _ _ => True) fun _ _ => trivial)
        fun _ => .pure fun _ _ => trivial
  refine .bind hpv fun pv => ?_
  refine .bind (Q := fun _ _ => True) (meets_withContext ?_) fun _ => ?_
  · unfold removePvcFinalizer
    split
    next => exact fun _ _ => trivial
    next => exact .pure fun _ _ => trivial
  refine .bind (Q := fun _ => Stripped q.key) (meets_withContext fun c _ x hx hk => ?_) fun _ => ?_
  · obtain ⟨x', _, rfl⟩ := mem_onPvc.mp hx
    split at hk
    next hkey => rw [if_pos hkey]
    next hkey => exact absurd hk hkey
  · cases pv with
    | none => exact .ret
    | some pv => exact meets_withContext fun _ h => h

/-- With every call answered and the default policy, every mirror of the list is detached. -/
theorem stripped_of_orphanLoop : ∀ {pvcs : List Pvc} {errs : List KErr}, q ∈ pvcs →
      Meets (fun _ => True) (orphanLoop {} true [] pvcs errs) (fun _ => Stripped q.key)
        (fun _ => Stripped q.key)
  | p :: pvcs, errs, hq => by
    have hfirst : Finishes (fun _ => True) (attempt (withContext
        s!"detach orphaned mirror PVC {p.name}" (detachMirrorFromReplication {} p)))
        (fun _ => Stripped p.key) :=
      (meets_attempt_none (meets_withContext stripped_of_detach)).post (fun _ _ h => h.2)
    rcases mem_cons.mp hq with rfl | hq
    · exact .bind (hfirst.raise fun _ _ h => h.elim)
        fun _ => keeps_orphanLoop (tolerates_stripped q.key).permits
          fun _ _ _ => ⟨trivial, fun _ => trivial⟩
    · exact .bind (hfirst.raise fun _ _ h => h.elim)
        fun _ => (stripped_of_orphanLoop hq).pre (fun _ _ => trivial)

/-- A mirror that the selector selects is detached. -/
theorem stripped_of_selected (hq : q ∈ c.pvcs) (hsel : isMirrorOf r q = true) :
    Stripped q.key (endState (cleanReplicaMirrorOrphans {} r [] c)) := by
  have hrun : Meets (fun c' => c' = c) (cleanReplicaMirrorOrphans {} r [])
      (fun _ => Stripped q.key) (fun _ => Stripped q.key) := by
    refine .bind (Q := fun retain c' => retain = true ∧ c' = c) (fun _ h => ⟨rfl, h⟩)
      fun retain => ?_
    refine .assuming (fun _ h => h.1) fun hretain => ?_
    subst hretain
    refine .bind (Q := fun pvcs _ => q ∈ pvcs)
      (meets_withContext fun c' h => mem_select.mpr ⟨h.2 ▸ hq, hsel⟩) fun pvcs => ?_
    refine .assuming (fun _ h => h) fun hmem => ?_
    exact (stripped_of_orphanLoop hmem).pre (fun _ _ => trivial)
  exact hrun.endState rfl

theorem noNamesake_of_isolated {p : Parent} (h : Isolated c p) : NoNamesake c p where
  contents := by
    rintro x hx hname (hns | ⟨r, hr, ho, hns⟩)
    · exact h.listed x hx (isListed_iff.mpr ⟨hns, hname⟩)
    · refine h.counted r hr ho {} (c.contents.select (isPeer r)) c rfl x ?_
      refine mem_select.mpr ⟨hx, isPeer_iff.mpr ⟨hns.symm, ?_, ?_⟩⟩
      · rw [ho]
        exact hname.1
      · rw [ho]
        exact hname.2
  mirrors := by
    rintro q hq m hm hname ⟨r, hr, ho, hns, hsc⟩
    by_contra hne
    have hstays := (h.spared r hr ho {} []).mirrors q hq ⟨m, hm, hne⟩
    have hsel : isMirrorOf r q = true := by
      refine isMirrorOf_iff.mpr ⟨hns.symm, m, hm, hsc.symm, ?_, ?_⟩
      · rw [ho]
        exact hname.1
      · rw [ho]
        exact hname.2
    rw [stripped_of_selected hq hsel q hstays rfl] at hm
    cases hm

end Namesakes

/-- **Isolation from other parents**: a parent and its contents count, mirror, delete and detach
nothing of another parent exactly when no namesake has anything where their selectors look. -/
theorem isolated_iff {c : Cluster} {p : Parent} : Isolated c p ↔ NoNamesake c p :=
  ⟨noNamesake_of_isolated, isolated_of_noNamesake⟩

def vscrIn (ns : String) : Parent where
  kind := .vscr
  namespaceName := ns
  name := "v"
  volumeNamespace := "data"
  primaryStorageClass := ""
  protectionTopology := []

def contentIn (ns scName : String) (pvcs : List String) : Content where
  namespaceName := "data"
  name := "v-" ++ scName
  owner := (vscrIn ns).toOwner
  storageClass := scName
  pvcs := pvcs

def otherClaim : Pvc :=
  { namespaceName := "data", name := "db", storageClass := "s2", volumeName := "pv" }

def otherPv : Pv :=
  { name := "pv", volumeHandle := "/k8s/pv", csiDriver := "csi.vastdata.com", capacity := 1 }

def sharedNamespace : Cluster where
  contents := ⟨[contentIn "a" "s1" [], contentIn "b" "s2" ["db"]], by decide⟩
  pvcs := ⟨[otherClaim], by decide⟩
  pvs := ⟨[otherPv], by decide⟩
  vast := fun _ => { snapshots := Table.empty, ppaths := Table.empty }

def namedMirrors : Outcomes where
  destPVCName := fun name => .ok (name ++ "-s1")
  destPVName := fun name => .ok (name ++ "-s1")

/-- The content of the first VSCR takes the claim of the second for one of its constellation and
makes a mirror for it. -/
theorem namesake_is_mirrored : ¬ Isolated sharedNamespace (vscrIn "a") ∧
      ((endState (syncMirrors namedMirrors (contentIn "a" "s1" []) sharedNamespace)).pvcs.rows.map
        fun q => (q.name, q.mirror.map (·.owner.namespaceName))) =
          [("db", none), ("db-s1", some "a")] := by
  refine ⟨fun h => ?_, by decide +kernel⟩
  have howner := h.listed (contentIn "b" "s2" ["db"]) (by decide) (by decide +kernel)
  exact absurd howner (by decide)

end VastCsi.Ext.Contents
