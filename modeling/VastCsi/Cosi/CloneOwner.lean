import VastCsi.Lib.Trace
import VastCsi.Cosi.CloneSteps

/-!
# When the owner of a cloned bucket is rolled back

An `Abort` of the `try` block keeps the managed owner, since an existing view may use it. The view
may also be there when the error is of another kind: an earlier attempt can have created it, or
its own creation took effect with its answer lost. An attempt is safe (`SafeAttempt`) when no view
has the owner yet and no answer gets lost, or when nothing goes wrong in it.
-/

namespace VastCsi.Cosi

open Lib Vms List

def NoneOwned (name tenantId : String) (v : Cluster) : Prop :=
  ∀ r ∈ v.table .view, ¬ (r.bucketOwner = some name ∧ r.tenantId = tenantId)

/-- Every user deleted so far owned no view when it was deleted. -/
def OwnersKept (w : World) : Prop :=
  ∀ d ∈ w.deleted, d.kind = .user → ∀ u ∈ d.before.table .user, u.id = d.id →
    NoneOwned u.name u.tenantId d.before

instance (name tenantId : String) (v : Cluster) : Decidable (NoneOwned name tenantId v) :=
  inferInstanceAs (Decidable (∀ r ∈ (v.table .view).rows,
    ¬ (r.bucketOwner = some name ∧ r.tenantId = tenantId)))

instance (w : World) : Decidable (OwnersKept w) :=
  inferInstanceAs (Decidable (∀ d ∈ w.deleted, d.kind = .user →
    ∀ u ∈ (d.before.table .user).rows, u.id = d.id → NoneOwned u.name u.tenantId d.before))

def NoLoss (env : Env) : Prop := ∀ n f, env.fate n ≠ .lost f

/-- A clone started here deletes no owner of a view: its owner is not managed, or is new and no
answer gets lost, or nothing goes wrong. -/
def SafeFrom (env : Env) (digest : String → String) (req : CloneReq) (src : View)
    (v : Cluster) : Prop :=
  req.owner.isManaged = false ∨ (NoLoss env ∧ NoneOwned req.name src.tenantId v) ∨
    (Undisturbed env ∧ CloneReady digest req src.path v)

/-- The proviso on an attempt, in the state it starts from. -/
def SafeAttempt (env : Env) (digest : String → String) (req : CloneReq) (v : Cluster) : Prop :=
  ∀ src ∈ v.table .view, src.bucket = some req.sourceBucket → SafeFrom env digest req src v

section Body

variable {env : Env} {digest : String → String} {req : CloneReq} {src : CloneSource}

theorem looksAt_ownersKept : LooksAt [.view] OwnersKept := by
  intro w w' h hw
  unfold OwnersKept
  rw [h.log]
  exact hw

theorem looksAt_noneOwned {name tenantId : String} :
    LooksAt [.view] (onVms (NoneOwned name tenantId)) := by
  intro w w' h hw
  unfold onVms NoneOwned
  rw [h.tables .view mem_cons_self]
  exact hw

theorem looksAt_safeFrom {view : View} :
    LooksAt [.view, .snapshot, .stream] (onVms (SafeFrom env digest req view)) := by
  intro w w' h hw
  have hview := h.tables .view (by decide)
  rcases hw with hw | ⟨hn, hw⟩ | ⟨hu, hw⟩
  · exact .inl hw
  · refine .inr (.inl ⟨hn, ?_⟩)
    unfold NoneOwned
    rw [hview]
    exact hw
  · exact .inr (.inr ⟨hu, hw.congr h.version (h.tables .snapshot (by decide))
      (h.tables .stream (by decide)) hview⟩)

/-- What comes before the `try` finds the source and leaves the attempt safe. -/
theorem meets_cloneSetup :
    Meets (fun w => OwnersKept w ∧ SafeAttempt env digest req w.vms) (cloneSetup env req)
      (fun src w => OwnersKept w ∧ SafeFrom env digest req src.view w.vms)
      (fun _ => OwnersKept) := by
  refine .bind ((meets_one_world fun w hw => hw).raise fun _ _ hw => hw.1) fun r => ?_
  cases r with
  | none => exact .throw fun _ hw => hw.1.1
  | some view =>
    have hsafe : ∀ w : World, ((OwnersKept w ∧ SafeAttempt env digest req w.vms) ∧
        Found .view (fun r => r.bucket == some req.sourceBucket) w.vms (some view)) →
        OwnersKept w ∧ SafeFrom env digest req view w.vms := by
      rintro w ⟨⟨hk, hs⟩, hfound⟩
      exact ⟨hk, hs view hfound.mem.1 (beq_iff_eq.mp hfound.mem.2)⟩
    have hI : LooksAt [.view, .snapshot, .stream] fun w =>
        OwnersKept w ∧ SafeFrom env digest req view w.vms := by
      intro w w' h hw
      exact ⟨looksAt_ownersKept w w' (agree_views h) hw.1, looksAt_safeFrom w w' h hw.2⟩
    refine .bind ((keeps_oneOrFail hI).weaken hsafe (fun _ _ hw => hw)
      (fun _ _ hw => hw.1)) fun policy => ?_
    refine .bind ((keeps_assertThat _ _).raise fun _ _ hw => hw.1) fun _ => ?_
    refine .bind ((keeps_resolveBucketOwner hI (by decide)).raiseLeft)
      fun owner => ?_
    exact .pure fun _ hw => hw

theorem keeps_cloneBody {digest : String → String} {req : CloneReq} {src : CloneSource} :
    Keeps OwnersKept (cloneBody env digest req src) := by
  refine meets_cloneBody looksAt_ownersKept (fun _ hw => hw) (fun _ _ hw => hw)
    (fun _ _ _ hw => hw) fun row => ?_
  exact meets_request_world (fun _ hw => hw) (fun _ hw => hw) (fun _ _ hw => hw) fun _ hw => hw

/-- A creation whose answer is not lost fails without effect. -/
theorem meets_create_noLoss {I : World → Prop} {k : Kind} {row : Nat → Row k}
    (hn : NoLoss env) (htick : ∀ w, I w → I w.tick) :
    Meets I (request env (createRow k row)) (fun _ _ => True) (fun _ => I) := by
  intro w hw
  unfold request
  cases hf : env.fate w.calls with
  | answered => exact trivial
  | failed f => exact htick w hw
  | lost f => exact absurd hf (hn _ f)

/-- The rollback may delete the owner: no view has it. -/
def Clear (req : CloneReq) (tenantId : String) (e : Err) (v : Cluster) : Prop :=
  e.isAbort = false → req.owner.isManaged = true → NoneOwned req.name tenantId v

/-- Where a safe attempt leaves its `try` block. -/
theorem meets_cloneBody_clear :
    Meets (onVms (SafeFrom env digest req src.view)) (cloneBody env digest req src)
      (fun _ _ => True) (fun e w => Clear req src.view.tenantId e w.vms) := by
  rintro w (hman | ⟨hn, hnone⟩ | ⟨hu, hready⟩)
  · have hany : Meets (fun _ => True) (cloneBody env digest req src) (fun _ _ => True)
        (fun e w => Clear req src.view.tenantId e w.vms) := by
      refine (Meets.trivial _).raise fun e w _ _ hm => ?_
      rw [hman] at hm
      cases hm
    exact hany w trivial
  · have hnew : Meets (onVms (NoneOwned req.name src.view.tenantId))
        (cloneBody env digest req src) (fun _ _ => True)
        (fun e w => Clear req src.view.tenantId e w.vms) := by
      refine meets_cloneBody looksAt_noneOwned (fun _ _ => trivial) (fun _ _ hw _ _ => hw) ?_
        fun row => ?_
      · -- the view comes last, and after it there is only `Abort`
        intro e w hab _ hno
        rw [hab] at hno
        cases hno
      · exact (meets_create_noLoss hn fun _ hw => hw).raise (fun _ _ hw _ _ => hw)
    exact hnew w hnone
  · have hcalm : Meets (onVms (CloneReady digest req src.view.path))
        (cloneBody env digest req src) (fun _ _ => True)
        (fun e w => Clear req src.view.tenantId e w.vms) := by
      refine (aborts_cloneBody hu).raise ?_
      intro e w hab hno
      rw [hab] at hno
      cases hno
    exact hcalm w hready

end Body

section Rollback

variable {env : Env} {digest : String → String} {req : CloneReq}

/-- Deleting a user that owns no view. -/
theorem meets_dropUser {u : User} : Meets
      (fun w => OwnersKept w ∧ NoneOwned u.name u.tenantId w.vms ∧ u ∈ w.vms.table .user)
      (dropRow .user u.id fun _ v => v) (fun _ => OwnersKept) (fun _ => OwnersKept) := by
  rintro w ⟨hk, hnone, hu⟩
  unfold dropRow
  cases hf : w.vms.find .user u.id with
  | none => exact hk
  | some r =>
    intro d hd hkind u' hu' hid
    rcases mem_cons.mp hd with rfl | hd
    · -- ids are unique, so the user under the id is `u`
      rw [show u' = u from Table.eq_of_key hu' hu hid]
      exact hnone
    · exact hk d hd hkind u' hu' hid

/-- Rolling back a user that owns no view. -/
theorem meets_deleteOwner {tenantId : String} :
    Meets (fun w => OwnersKept w ∧ NoneOwned req.name tenantId w.vms)
      (delete env .user fun r => r.name == req.name && r.tenantId == tenantId)
      (fun _ => OwnersKept) (fun _ => OwnersKept) := by
  refine .bind ((meets_one_world fun w hw => hw).raise fun _ _ hw => hw.1) fun r => ?_
  cases r with
  | none => exact .pure fun _ hw => hw.1.1
  | some u =>
    refine .tryCatch (F := fun _ => OwnersKept) ?_ fun e => ?_
    · refine meets_request_world (fun w hw => hw) (fun _ hw => hw.1.1) (fun _ _ hw => hw) ?_
      refine meets_dropUser.pre (fun w hw => ?_)
      obtain ⟨⟨hk, hnone⟩, hfound⟩ := hw
      obtain ⟨hu, hq⟩ := hfound.mem
      rw [Bool.and_eq_true, beq_iff_eq, beq_iff_eq] at hq
      rw [← hq.1, ← hq.2] at hnone
      exact ⟨hk, hnone, hu⟩
    · split
      next => exact .ret
      next => exact .err

/-- The `except` clauses delete no owner of a view when the exit is clear. -/
theorem meets_rollback {tenantId : String} {e : Err} :
    Meets (fun w => OwnersKept w ∧ Clear req tenantId e w.vms) (rollback env req tenantId e)
      (fun _ => OwnersKept) (fun _ => OwnersKept) := by
  unfold rollback
  split
  next => exact .throw fun _ hw => hw.1
  next hkeep =>
    rw [Bool.or_eq_true, not_or, Bool.not_eq_true, Bool.not_eq_true, Bool.not_eq_false'] at hkeep
    refine .bind (meets_deleteOwner.pre ?_) fun _ => keeps_throw _
    exact fun _ hw => ⟨hw.1, hw.2 hkeep.1 hkeep.2⟩

/-- The builder. -/
theorem meets_cloneBuild :
    Meets (fun w => OwnersKept w ∧ SafeAttempt env digest req w.vms) (cloneBuild env digest req)
      (fun _ => OwnersKept) (fun _ => OwnersKept) := by
  refine .bind meets_cloneSetup fun src => ?_
  refine .tryCatch (F := fun e w => OwnersKept w ∧ Clear req src.view.tenantId e w.vms) ?_
    fun e => meets_rollback
  exact (Meets.and keeps_cloneBody meets_cloneBody_clear).post (fun _ _ hw => hw.1)

/-- One attempt. -/
theorem createStep_kept {w w' : World} {a : Env × CloneReq} (hk : OwnersKept w)
    (hc : SafeAttempt a.1 digest a.2 w.vms) (hs : createStep digest w a = some w') :
    OwnersKept w' := by
  obtain ⟨env, req⟩ := a
  rw [createStep, Option.some.injEq] at hs
  subst hs
  have hlog := looksAt_ownersKept
  refine Meets.endState (P := fun w => OwnersKept w ∧ SafeAttempt env digest req w.vms) ?_ ⟨hk, hc⟩
  refine .bind meets_cloneBuild fun view => ?_
  refine .bind (keeps_applyBucketPostProvision hlog) fun _ => ?_
  exact .bind (keeps_bucketEndpoint hlog) fun vip => keeps_pure _

/-- **Owners of views are kept**: in every sequence of attempts that are safe
where they start, no user is deleted that owns a view. -/
theorem owner_kept_of_safe_attempts {as : List (Env × CloneReq)} {w w' : World} (h₀ : OwnersKept w)
    (hsafe : RunMeets (createStep digest) (fun w a => SafeAttempt a.1 digest a.2 w.vms) w as)
    (hr : runFrom (createStep digest) w as = some w') : OwnersKept w' :=
  runFrom_invariant (fun _ _ _ hk hc hs => createStep_kept hk hc hs) as h₀ hsafe hr

end Rollback

def sourceOnly : World :=
  { vms := ((Cluster.fresh ⟨5, 3, 0⟩).insert .view
      { id := 1, path := "/buckets/src", tenantId := "1", policy := "s3_default_policy"
        protocols := ["S3"], bucket := some "src", bucketOwner := some "src" }).insert .policy
      { id := 1, name := "s3_default_policy", tenantId := "1" } }

def copyOfSrc : CloneReq where
  name := "copy"
  rootExport := "buckets"
  sourceBucket := "src"
  blockingClones := false
  owner := .managed
  vipPoolFqdn := some "s3.local"

def outageAt (n : Nat) : Env := { Env.steady with
  fate := fun m => if m = n then .failed .serverError else .answered }

/-- The only view of the source cluster is owned by `src`. -/
theorem noneOwned_of_source {v : Cluster} (h : v.table .view = sourceOnly.vms.table .view)
    (tenantId : String) : NoneOwned "copy" tenantId v := by
  intro r hr
  rw [h] at hr
  rw [mem_singleton.mp hr]
  rintro ⟨hname, _⟩
  exact absurd hname (by decide)

theorem noLoss_outageAt (n : Nat) : NoLoss (outageAt n) := by
  intro m f h
  unfold outageAt at h
  dsimp only at h
  split at h
  next => cases h
  next => cases h

def clonedOnce : Cluster :=
  (endState (driverCreateBucket .steady (fun _ => "") copyOfSrc
    (endState (driverCreateBucket (outageAt 4) (fun _ => "") copyOfSrc sourceOnly)))).vms

/-- It has a view, a snapshot and a stream of the clone, each of use to it. -/
theorem cloneReady_clonedOnce : CloneReady (fun _ => "") copyOfSrc "/buckets/src" clonedOnce where
  version := by decide +kernel
  oneStream := by decide +kernel
  stream := fun hblock => absurd hblock (by decide)
  oneView := by decide +kernel
  oneSnapshot := by decide +kernel
  snapshot := by
    have hsnap : ∀ r ∈ (clonedOnce.table .snapshot).rows,
        r.name = cosiCloneSnapName (fun _ => "") "copy" →
        Text.strip '/' r.path = Text.strip '/' "/buckets/src" := by decide +kernel
    exact hsnap

/-- A first attempt cannot look for the snapshot and takes its new user back, the second one
succeeds, and a third one finds everything there. -/
theorem owner_kept_of_safe_attempts_retried : ∃ w', runFrom (createStep fun _ => "") sourceOnly
      [(outageAt 4, copyOfSrc), (.steady, copyOfSrc), (.steady, copyOfSrc)] = some w' ∧
      w'.deleted.length = 1 ∧ OwnersKept w' := by
  have hrun : ∃ w', runFrom (createStep fun _ => "") sourceOnly
      [(outageAt 4, copyOfSrc), (.steady, copyOfSrc), (.steady, copyOfSrc)] = some w' ∧
      w'.deleted.length = 1 := ⟨_, rfl, by decide +kernel⟩
  obtain ⟨w', hrun, hlen⟩ := hrun
  have hnew : ∀ {env v}, NoLoss env → v.table .view = sourceOnly.vms.table .view →
      SafeAttempt env (fun _ => "") copyOfSrc v :=
    fun hn hv src _ _ => .inr (.inl ⟨hn, noneOwned_of_source hv _⟩)
  have hthird : SafeAttempt .steady (fun _ => "") copyOfSrc clonedOnce := by
    intro src hsrc hbucket
    have hpath : ∀ r ∈ (clonedOnce.table .view).rows,
        r.bucket = some "src" → r.path = "/buckets/src" := by decide +kernel
    rw [SafeFrom, hpath src hsrc hbucket]
    exact .inr (.inr ⟨⟨fun _ => rfl, fun _ => rfl⟩, cloneReady_clonedOnce⟩)
  have hloss : NoLoss .steady := fun _ _ h => by cases h
  refine ⟨w', hrun, hlen, owner_kept_of_safe_attempts (by decide) ?_ hrun⟩
  exact .cons (hnew (noLoss_outageAt 4) rfl) rfl <| .cons (hnew hloss rfl) rfl <|
    .cons hthird rfl trivial

/-- A first attempt succeeds, and a retry that cannot look for the snapshot deletes the user the
bucket's view belongs to. -/
theorem retry_deletes_owner : ∃ w', runFrom (createStep fun _ => "") sourceOnly
      [(.steady, copyOfSrc), (outageAt 14, copyOfSrc)] = some w' ∧
      sourceOnly.deleted = [] ∧ ¬ OwnersKept w' :=
  ⟨_, rfl, rfl, by decide +kernel⟩

end VastCsi.Cosi
