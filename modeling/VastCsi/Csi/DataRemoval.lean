import VastCsi.Csi.DeleteData

/-!
# When the data of a path are gone

`_delete_data_from_storage` returns when the trash API took the directory or did not find it, or
when the local mount removed it. The local mount works in the tenant of the base view, which is
the volume's when a view belongs to the tenant of its policy (`ViewsOfPolicy`).
-/

namespace VastCsi.Csi

open Lib Vms Cluster List

variable {env : Env} {conf : Conf} {path tenantId : String}

def Gone (path tenantId : String) (c : Cluster) : Prop :=
  (⟨tenantId, pathParts path⟩ : Dir) ∉ c.dirs

variable {c : Cluster} {policy : String}

theorem gone_removeTree {p : String} (h : pathParts p = pathParts path) :
    Gone path tenantId (c.removeTree tenantId p) := by
  intro hmem
  have hself : (pathParts p).isPrefixOf (pathParts path) = true :=
    isPrefixOf_iff_prefix.mpr (h ▸ prefix_refl _)
  have hwithin := (mem_removeTree_dirs.mp hmem).2
  rw [Cluster.within, hself, beq_self_eq_true] at hwithin
  cases hwithin

theorem Gone.removeTree (h : Gone path tenantId c) (t p : String) :
    Gone path tenantId (c.removeTree t p) :=
  fun hmem => h (mem_removeTree_dirs.mp hmem).1

def ViewsOfPolicy (policy : String) (c : Cluster) : Prop :=
  ∀ pol, Found .policy (·.name == policy) c (some pol) →
    ∀ r ∈ c.table .view, r.policy = policy → r.tenantId = pol.tenantId

/-- A change of the views that keeps each in its tenant. -/
theorem ViewsOfPolicy.setView {t : Table View View.id} (ht : ∀ r ∈ t, r.policy = policy →
      ∀ pol, Found .policy (·.name == policy) c (some pol) → r.tenantId = pol.tenantId) :
    ViewsOfPolicy policy (c.set .view t) := by
  intro pol hpol r hr hpolicy
  rw [set_table_self] at hr
  unfold Found at hpol
  rw [set_table_ne _ _ (by decide)] at hpol
  exact ht r hr hpolicy pol hpol

/-- A new view of the policy's tenant. -/
theorem ViewsOfPolicy.newView (h : ViewsOfPolicy policy c) {pol : Policy}
    (hpol : Found .policy (·.name == policy) c (some pol)) {p : String} {protocols : List String} :
    ViewsOfPolicy policy ((c.insert .view ⟨(c.table .view).fresh, p, pol.tenantId, policy,
      protocols, none, none⟩).addDir pol.tenantId p) := by
  refine ViewsOfPolicy.setView fun r hr hpolicy pol' hpol' => ?_
  rcases Table.mem_insert_cases hr with hr | rfl
  · exact h pol' hpol' r hr hpolicy
  · rw [hpol.eq hpol'.mem.1 hpol'.mem.2]

theorem ViewsOfPolicy.setViewProtocols (h : ViewsOfPolicy policy c) {id : Nat}
    {protocols : List String} :
    ViewsOfPolicy policy (c.setViewProtocols id protocols) := by
  refine ViewsOfPolicy.setView fun r hr hpolicy pol hpol => ?_
  obtain ⟨r₂, hr₂, rfl⟩ := Table.mem_modify.mp hr
  split at hpolicy
  next hid => rw [if_pos hid]; exact h pol hpol r₂ hr₂ hpolicy
  next hid => rw [if_neg hid]; exact h pol hpol r₂ hr₂ hpolicy

/-- A change of the rows of another kind. -/
theorem ViewsOfPolicy.set (h : ViewsOfPolicy policy c) {k : Kind} {t : Table (Row k) (rowId k)}
    (hview : k ≠ .view) (hpolicy : k ≠ .policy) :
    ViewsOfPolicy policy (c.set k t) := by
  intro pol hpol r hr
  unfold Found at hpol
  rw [set_table_ne _ _ (Ne.symm hpolicy)] at hpol
  rw [set_table_ne _ _ (Ne.symm hview)] at hr
  exact h pol hpol r hr

theorem ViewsOfPolicy.erase (h : ViewsOfPolicy policy c) {k : Kind} {id : Nat} (hview : k ≠ .view)
    (hpolicy : k ≠ .policy) :
    ViewsOfPolicy policy (c.erase k id) :=
  h.set hview hpolicy

theorem meets_folderDelete_removed {dontUseTrashApi : Bool} :
    Yields (fun _ => True) (folderDelete env dontUseTrashApi path tenantId)
      (fun _ => onVms (Gone path tenantId)) := by
  refine .bind (.trivial _) fun ver => ?_
  split
  next => exact .throw fun _ _ => trivial
  next =>
    split
    next => exact .throw fun _ _ => trivial
    next =>
      -- "no such directory" is the server's own look at the directories
      refine .tryCatch (F := fun e w => ∀ s text, e = .apiError s text →
        Text.contains text "no such directory" = true → Gone path tenantId w.vms) ?_ fun e => ?_
      · have hfault : ∀ (f : Fault) (w : World), ∀ s text, f.err = .apiError s text →
            Text.contains text "no such directory" = true → Gone path tenantId w.vms := by
          intro f w s text he hc
          cases f <;> cases he <;> exact absurd hc (by decide)
        refine meets_request_of (J := fun _ => True) (fun f w _ => hfault f w)
          (fun f _ w _ => hfault f w) (fun f _ w _ => hfault f w) fun w _ => ?_
        unfold dropFolder
        cases w.vms.trashEnabled with
        | false =>
          intro s text he hc
          cases he
          exact absurd hc (by decide)
        | true =>
          cases hany : w.vms.dirs.any fun d => d == ⟨tenantId, pathParts path⟩ with
          | true => exact gone_removeTree rfl
          | false =>
            intro s text he hc hmem
            have := any_eq_false.mp hany _ hmem
            simp at this
      · cases e with
        | apiError s text =>
          dsimp only
          split
          next hc => exact .pure fun w hw => hw s text rfl hc
          next =>
            split
            next => exact .throw fun _ _ => trivial
            next => exact .throw fun _ _ => trivial
        | _ => exact .throw fun _ _ => trivial

theorem meets_tryTrashApi_removed : Yields (fun _ => True) (tryTrashApi env conf path tenantId)
      (fun b w => b = true → Gone path tenantId w.vms) := by
  unfold tryTrashApi
  split
  next =>
    refine .tryCatch (F := fun _ _ => True) (.bind meets_folderDelete_removed
      fun _ => .pure fun _ hw _ => hw) fun e => ?_
    split
    next => exact .pure fun _ _ h => by cases h
    next => exact .throw fun _ _ => trivial
  next => exact .pure fun _ _ h => by cases h

section LocalMount

variable {U : Bool} {J : Cluster → Prop}

/-- The policy that was looked up stays the one of its name. -/
theorem DataSafe.withPolicy (h : DataSafe env conf path U J) (pol : Policy) :
    DataSafe env conf path U fun c =>
      J c ∧ Found .policy (·.name == conf.deletionViewPolicy) c (some pol) where
  usable := fun c hc => h.usable c hc.1
  tree := fun c t p hc hp => ⟨h.tree c t p hc.1 hp, hc.2⟩
  newView := by
    rintro c pol' ⟨hc, hpol⟩ hpol'
    refine ⟨h.newView c pol' hc hpol', ?_⟩
    unfold Found at hpol ⊢
    rw [addDir_table, insert_table_ne (by decide)]
    exact hpol
  change := by
    rintro hback c r ⟨hc, hpol⟩ hr hch
    refine ⟨h.change hback c r hc hr hch, ?_⟩
    unfold Found at hpol ⊢
    rw [Cluster.setViewProtocols, set_table_ne _ _ (by decide)]
    exact hpol

/-- The base view is one of the policy's tenant. -/
theorem meets_ensureBaseView_tenant {pol : Policy} :
    Yields (onVms fun c => ViewsOfPolicy conf.deletionViewPolicy c ∧
        Found .policy (·.name == conf.deletionViewPolicy) c (some pol))
      (ensureBaseView env conf path) (fun r _ => r.tenantId = pol.tenantId) := by
  have hensure : Yields (onVms fun c => ViewsOfPolicy conf.deletionViewPolicy c ∧
      Found .policy (·.name == conf.deletionViewPolicy) c (some pol))
      (viewEnsure env (Text.dirname '/' path) [conf.protocol] conf.deletionViewPolicy)
      (fun r _ => r.tenantId = pol.tenantId) := by
    refine .bind (meets_one.okOnly) fun found => ?_
    cases found with
    | some r =>
      refine .pure fun w hw => ?_
      obtain ⟨hmem, hmatch⟩ := hw.2.mem
      simp only [Bool.and_eq_true, beq_iff_eq] at hmatch
      exact hw.1.1 pol hw.1.2 r hmem hmatch.2
    | none =>
      refine .bind ((meets_oneOrFail (J := fun c => Found .policy
        (·.name == conf.deletionViewPolicy) c (some pol))).okOnly.pre fun _ hw => hw.1.2)
          fun pol' => ?_
      refine .assuming (p := pol' = pol) (fun w hw => hw.1.eq hw.2.mem.1 hw.2.mem.2) fun hpol => ?_
      subst hpol
      exact (meets_request_of (J := fun _ => True) (Q := fun r _ => r.tenantId = pol'.tenantId)
        (E := fun _ _ => True) (fun _ _ _ => trivial) (fun _ _ _ _ => trivial)
        (fun _ _ _ _ => trivial) fun _ _ => rfl).weaken (fun _ _ => trivial)
        (fun _ _ hw => hw) (fun _ _ hw => hw)
  refine .bind hensure fun r => ?_
  refine .assuming (p := r.tenantId = pol.tenantId) (fun _ hw => hw) fun hr => ?_
  split
  next => exact Meets.bind (Meets.trivial _ |>.weaken (fun _ _ => trivial) (fun _ _ h => h)
      (fun _ _ h => h)) fun _ => .pure fun _ _ => hr
  next => exact .pure fun _ _ => hr

/-- The removal through the mount, in the tenant of the base view. -/
theorem meets_removeViaMount_removed {r : View} {volumeId : String}
    (htree : ∀ c, J c → J (c.removeTree r.tenantId (r.path ++ "/" ++ volumeId)))
    (hparts : pathParts (r.path ++ "/" ++ volumeId) = pathParts path)
    (htenant : r.tenantId = tenantId) :
    VmsMeets J (removeViaMount env r volumeId) (fun _ c => J c ∧ Gone path tenantId c) J := by
  have hfin (K : Cluster → Prop) (hK : ∀ c, K c → J c) : VmsMeets K (do
        if (← get).mounted then hostCommand env fun w => .ok () { w with mounted := false }
        hostCommand env (pure ()))
      (fun _ => K) J := by
    refine .bind (Q := fun _ => onVms K) (fun w hw => hw) fun w => ?_
    have hdone : VmsMeets K (hostCommand env (pure ())) (fun _ => K) J :=
      (meets_hostCommand (J := K) (fun _ _ hw => hw) .ret).raise (fun _ w hw => hK w.vms hw)
    split
    next =>
      exact .bind (Q := fun _ => onVms K) ((meets_hostCommand (J := K)
        (Q := fun _ => onVms K) (fun _ _ hw => hw) fun w hw => hw).raise
          (fun _ w hw => hK w.vms hw)) fun _ => hdone
    next => exact hdone
  refine .finalizing_exits
    (Q := fun _ => onVms fun c => J c ∧ Gone path tenantId c) (E := fun _ => onVms J)
    (.tryCatch (F := fun _ => onVms J) ?_ fun e => ?_)
    (fun _ => hfin _ fun _ hc => hc.1) fun _ => hfin J fun _ hc => hc
  · refine .bind (Q := fun _ => onVms J)
      (meets_hostCommand (fun _ _ hw => hw) fun w hw => hw) fun _ => ?_
    refine meets_hostCommand (fun _ _ hw => hw.1) fun w hw => ⟨htree w.vms hw, ?_⟩
    rw [htenant]
    exact gone_removeTree hparts
  · split
    next => exact .err
    next => exact .err

theorem meets_deleteDataViaLocalMount_removed (h : DataSafe env conf path U J)
    (hviews : ∀ c, J c → ViewsOfPolicy conf.deletionViewPolicy c)
    (hback : (env.trashTimerExpired && U) = false) :
    VmsMeets J (deleteDataViaLocalMount env conf path tenantId)
      (fun _ c => J c ∧ Gone path tenantId c) J := by
  refine .bind (Q := fun _ => onVms J) (.assertThat (fun _ _ hw => hw) fun _ _ hw => hw) fun _ => ?_
  refine .bind (meets_oneOrFail.raiseLeft) fun pol => ?_
  -- from here on the policy of the name is `pol`
  have hsafe := h.withPolicy pol
  refine .bind (Q := fun _ w => onVms (fun c => J c ∧
      Found .policy (·.name == conf.deletionViewPolicy) c (some pol)) w ∧
      pol.tenantId = tenantId) (.assertThat (fun ht w hw => ⟨hw, ?_⟩) fun _ w hw => hw.1)
    fun _ => ?_
  · exact (beq_iff_eq.mp ht).symm
  refine .assuming (p := pol.tenantId = tenantId) (fun _ hw => hw.2) fun htenant => ?_
  refine .bind (meets_deletionServer.weaken (fun _ hw => hw.1) (fun _ _ hw => hw)
    (fun _ _ hw => hw.1.1)) fun _ => ?_
  refine .bind (((meets_ensureBaseView hsafe hback).and meets_ensureBaseView_tenant).weaken
    (fun w hw => ⟨hw, hviews w.vms hw.1, hw.2⟩) (fun _ _ hw => hw) (fun _ _ hw => hw.1.1.1))
    fun r => ?_
  refine .assuming (p := r.path = Text.dirname '/' path ∧ r.tenantId = pol.tenantId)
    (fun _ hw => ⟨hw.1.2, hw.2⟩) fun ⟨hpath, hr⟩ => ?_
  have hparts : pathParts (r.path ++ "/" ++ Text.basename '/' path) = pathParts path := by
    rw [hpath]
    exact Text.parts_dirname_basename path
  exact (meets_removeViaMount_removed (fun c hc => h.tree c _ _ hc hparts) hparts
    (hr.trans htenant)).pre (fun _ hw => hw.1.1.1)

/-- **The data are gone** when their removal returns. -/
theorem meets_deleteDataFromStorage_removed (h : DataSafe env conf path U J)
    (hviews : ∀ c, J c → ViewsOfPolicy conf.deletionViewPolicy c) :
    VmsMeets J (deleteDataFromStorage env conf path tenantId)
      (fun _ c => J c ∧ Gone path tenantId c) J := by
  refine .bind (((meets_tryTrashApi h.usable fun c hc => h.tree c _ _ hc rfl).and
    meets_tryTrashApi_removed).weaken (fun _ hw => ⟨hw, trivial⟩) (fun _ _ hw => hw)
    (fun _ _ hw => hw.1.1)) fun b => ?_
  cases b with
  | true => exact .pure fun _ hw => ⟨hw.1.1, hw.2 rfl⟩
  | false =>
    refine .assuming (p := (env.trashTimerExpired && U) = false) (fun _ hw => hw.1.2)
      fun hback => ?_
    refine .bind (Q := fun _ => onVms J) ?_
      fun _ => meets_deleteDataViaLocalMount_removed h hviews hback
    exact meets_lockResource.pre (fun _ hw => hw.1.1)

end LocalMount

end VastCsi.Csi
