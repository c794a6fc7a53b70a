import VastCsi.Cosi.Bucket

/-!
# `DriverDeleteBucket`: whose objects go

Every call may fail with or without having taken effect, so a later attempt finds part of the
objects gone. Snapshot and owner are looked up by name *and* tenant; the stream and the view by
name alone; the directory is the view's, or one below `root_export`; and `Quota.one(name=…)` turns
the name into a filter on the end of the path. Deletions only make the lookups select less
(`Scope`).
-/

namespace VastCsi.Cosi

open Lib Vms Cluster Bool

/-- What the driver is configured with, and SHA-256. -/
structure CosiConf where
  dontUseTrashApi : Bool
  digest : String → String

/-- The keys of `delete_context` the handler reads; `none` is an absent key. -/
structure DeleteContext where
  bucketOwner : Option String := none
  rootExport : Option String := none
  deriving DecidableEq, Repr

/-- No `bucket_owner` was given, so the owner is the driver's. -/
def DeleteContext.managed (ctx : DeleteContext) : Bool := Text.trim (ctx.bucketOwner.getD "") == ""

def deleteOwner (env : Env) (b : BucketId) (ctx : DeleteContext) : Call Unit :=
  if ctx.managed then delete env .user fun r => r.name == b.name && r.tenantId == b.tenantId
  else pure ()

/-- The view with its rules: what is left to put in the trash, as a path and
a tenant. -/
def deleteBucketView (env : Env) (b : BucketId) (ctx : DeleteContext) :
    Call (Option (String × String)) := do
  match ← one env .view fun r => r.bucket == some b.name with
  | some view => do
    deleteMany env .rule fun r => r.viewId == view.id
    viewDeleteById env true view.id
    pure (some (view.path, view.tenantId))
  | none => pure (ctx.rootExport.map fun root => (bucketPath root b.name, b.tenantId))

def deleteBucketFolder (env : Env) (conf : CosiConf) : Option (String × String) → Call Unit
  | some (path, tenantId) => folderDelete env conf.dontUseTrashApi path tenantId
  | none => pure ()

/-- `DriverDeleteBucket` for a parsed id. -/
def deleteBucket (env : Env) (conf : CosiConf) (b : BucketId) (ctx : DeleteContext) :
    Call Unit := do
  ensureSnapshotStreamDeleted env fun r => r.name == cosiCloneStreamName conf.digest b.name
  delete env .snapshot fun r =>
    r.name == cosiCloneSnapName conf.digest b.name && r.tenantId == b.tenantId
  deleteOwner env b ctx
  let trash ← deleteBucketView env b ctx
  deleteBucketFolder env conf trash
  delete env .quota fun r => quotaByName b.name r && r.tenantId == b.tenantId

def driverDeleteBucket (env : Env) (conf : CosiConf) (bucketId : String) (ctx : DeleteContext) :
    Call Unit :=
  match BucketId.parse bucketId with
  | .error e => throw e
  | .ok b => deleteBucket env conf b ctx

def attempts (conf : CosiConf) (bucketId : String) (ctx : DeleteContext) : List Env → World → World
  | [], w => w
  | env :: envs, w =>
    attempts conf bucketId ctx envs (endState (driverDeleteBucket env conf bucketId ctx w))

section Own

variable (conf : CosiConf) (c : Cluster) (b : BucketId) (ctx : DeleteContext)

def OwnView (r : View) : Prop := r.bucket = some b.name ∧ r.tenantId = b.tenantId

/-- A directory of the bucket: that of its view, or the one below `root_export`. -/
def OwnPath (path : String) : Prop :=
  (∃ r ∈ c.table .view, OwnView b r ∧ pathParts r.path = pathParts path) ∨
    pathParts b.name ≠ [] ∧ ∃ root, ctx.rootExport = some root ∧
      pathParts (bucketPath root b.name) = pathParts path

/-- A view of another bucket in the tenant. -/
def OtherView (r : View) : Prop :=
  r.tenantId = b.tenantId ∧ ∃ name, r.bucket = some name ∧ name ≠ b.name

def ownBucket : Owns
  | .stream, r => r.loaneeTenantId = b.tenantId ∧ OwnPath c b ctx r.loaneeRootPath
  | .snapshot, r => r.name = cosiCloneSnapName conf.digest b.name ∧ r.tenantId = b.tenantId
  | .user, r => r.name = b.name ∧ r.tenantId = b.tenantId
  | .view, r => OwnView b r
  | .rule, r => ∃ v ∈ c.table .view, OwnView b v ∧ v.id = r.viewId
  | .quota, r => r.tenantId = b.tenantId ∧ OwnPath c b ctx r.path
  | _, _ => False

/-- The directories in those of the bucket, without the ones that another bucket has in them. -/
def ownBucketDir (d : Dir) : Prop :=
  d.tenantId = b.tenantId ∧ (∃ path, OwnPath c b ctx path ∧ pathParts path <+: d.path) ∧
    ∀ r ∈ c.table .view, OtherView b r → (∃ path, OwnPath c b ctx path ∧
      pathParts path <+: pathParts r.path) → ¬ pathParts r.path <+: d.path

/-- What the lookups of an attempt select on a cluster of this version with
these views. -/
def bucketTargets : Owns
  | .stream, r =>
    c.swVersion.lt streamsSince = false ∧ r.name = cosiCloneStreamName conf.digest b.name
  | .snapshot, r => r.name = cosiCloneSnapName conf.digest b.name ∧ r.tenantId = b.tenantId
  | .user, r => r.name = b.name ∧ r.tenantId = b.tenantId
  | .view, r => r.bucket = some b.name
  | .rule, r => ∃ v ∈ c.table .view, v.bucket = some b.name ∧ v.id = r.viewId
  | .quota, r => quotaByName b.name r = true ∧ r.tenantId = b.tenantId
  | _, _ => False

/-- Everything the lookups select belongs to the bucket, a name below `root_export` is a directory
of its own, and no other bucket is in a directory of the bucket. -/
structure BucketTargetsOwn : Prop where
  streams : ∀ r ∈ c.table .stream, c.swVersion.lt streamsSince = false →
    r.name = cosiCloneStreamName conf.digest b.name →
    r.loaneeTenantId = b.tenantId ∧ OwnPath c b ctx r.loaneeRootPath
  views : ∀ r ∈ c.table .view, r.bucket = some b.name → r.tenantId = b.tenantId
  quotas : ∀ r ∈ c.table .quota, quotaByName b.name r = true → r.tenantId = b.tenantId →
    OwnPath c b ctx r.path
  root : ctx.rootExport ≠ none → pathParts b.name ≠ []
  alone : ∀ r ∈ c.table .view, OtherView b r →
    ∀ path, OwnPath c b ctx path → ¬ pathParts path <+: pathParts r.path

end Own

variable {env : Env} {conf : CosiConf} {c₀ : Cluster} {b : BucketId} {ctx : DeleteContext}

/-- The other lookups are by name and tenant, so they select own rows only. -/
theorem BucketTargetsOwn.aim (h : BucketTargetsOwn conf c₀ b ctx) (k : Kind) (r : Row k)
    (hr : r ∈ c₀.table k) (ht : bucketTargets conf c₀ b k r) : ownBucket conf c₀ b ctx k r := by
  cases k with
  | stream => exact h.streams r hr ht.1 ht.2
  | snapshot => exact ht
  | user => exact ht
  | view => exact ⟨ht, h.views r hr ht⟩
  | rule =>
    obtain ⟨v, hv, hb, hid⟩ := ht
    exact ⟨v, hv, ⟨hb, h.views v hv hb⟩, hid⟩
  | quota => exact ⟨ht.2, h.quotas r hr ht.1 ht.2⟩
  | _ => exact ht.elim

/-- The invariant of the attempts: in scope, and no view is new. -/
def BucketScope (conf : CosiConf) (c₀ : Cluster) (b : BucketId) (ctx : DeleteContext)
    (c : Cluster) : Prop :=
  Scope (ownBucket conf c₀ b ctx) (bucketTargets conf c₀ b) (ownBucketDir c₀ b ctx) c₀ c ∧
    ∀ r ∈ c.table .view, r ∈ c₀.table .view

/-- A tree below a directory of the bucket is its own. -/
theorem ownBucketDir_of_within (ht : BucketTargetsOwn conf c₀ b ctx) {tenantId path : String}
    {d : Dir} (htenant : tenantId = b.tenantId) (hp : OwnPath c₀ b ctx path)
    (h : Cluster.within tenantId path d = true) : ownBucketDir c₀ b ctx d := by
  rw [Cluster.within, and_eq_true, beq_iff_eq, List.isPrefixOf_iff_prefix] at h
  refine ⟨h.1.trans htenant, ⟨path, hp, h.2⟩, ?_⟩
  rintro r hr hother ⟨path', hp', hin⟩
  exact absurd hin (ht.alone r hr hother path' hp')

theorem streamBlind_bucket (ht : BucketTargetsOwn conf c₀ b ctx) :
    StreamBlind (ownBucket conf c₀ b ctx) (bucketTargets conf c₀ b) (ownBucketDir c₀ b ctx) where
  ownState := fun _ _ h => h
  hitState := fun _ _ h => h
  dir := fun _ ho _ hd => ownBucketDir_of_within ht ho.1 ho.2 hd

theorem streamSafe_bucket (ht : BucketTargetsOwn conf c₀ b ctx) :
    StreamSafe c₀.swVersion (fun r => r.name == cosiCloneStreamName conf.digest b.name)
      (BucketScope conf c₀ b ctx) := by
  have hscope : StreamSafe c₀.swVersion (fun r => r.name == cosiCloneStreamName conf.digest b.name)
      (Scope (ownBucket conf c₀ b ctx) (bucketTargets conf c₀ b) (ownBucketDir c₀ b ctx) c₀) :=
    streamSafe_scope (fun _ _ => rfl) (streamBlind_bucket ht) fun hV r hq => ⟨hV, beq_iff_eq.mp hq⟩
  refine ⟨fun _ h => h.1.ver, hscope.state, ?_, ?_, ?_⟩
  · intro hV c r s h hr hq
    refine ⟨hscope.stop hV c r s h.1 hr hq, ?_⟩
    rw [Cluster.setStreamState, set_table_ne _ _ (by decide)]
    exact h.2
  · intro hV c r h hr hq
    refine ⟨hscope.collect hV c r h.1 hr hq, ?_⟩
    rw [erase_table_ne (by decide)]
    exact h.2
  · intro hV c r h hr hq
    refine ⟨hscope.drop hV c r h.1 hr hq, ?_⟩
    rw [removeLoaneeDir, removeTree_table, erase_table_ne (by decide)]
    exact h.2

variable {k : Kind}

/-- Erasing an own row, of whatever kind. -/
theorem BucketScope.erase {c : Cluster} {r : Row k} (h : BucketScope conf c₀ b ctx c)
    (hr : r ∈ c.table k) (ho : ownBucket conf c₀ b ctx k r) :
    BucketScope conf c₀ b ctx (c.erase k (rowId k r)) := by
  refine ⟨h.1.erase hr ho, ?_⟩
  intro v hv
  by_cases hk : k = .view
  · subst hk
    exact h.2 v (mem_erase_table.mp hv).1
  · rw [erase_table_ne (Ne.symm hk)] at hv
    exact h.2 v hv

/-- Erasing keeps what is known about the row under any id. -/
theorem ownId_erase {own : Owns} {c : Cluster} {i id : Nat} (h : OwnId own k i c) :
    OwnId own k i (c.erase k id) := by
  intro r hr hid
  exact h r (mem_erase_table.mp hr).1 hid

/-- In scope, with an id that is own, if it is there. -/
def ScopeAt (conf : CosiConf) (c₀ : Cluster) (b : BucketId) (ctx : DeleteContext) (k : Kind)
    (id : Nat) (c : Cluster) : Prop :=
  BucketScope conf c₀ b ctx c ∧ OwnId (ownBucket conf c₀ b ctx) k id c

/-- Deleting under an id that is own, if it is there. -/
theorem meets_deleteById_own (conf : CosiConf) (c₀ : Cluster) (b : BucketId)
    (ctx : DeleteContext) {id : Nat} {K : Cluster → Prop} (hK : ∀ c, K c → K (c.erase k id)) :
    Meets (onVms fun c => ScopeAt conf c₀ b ctx k id c ∧ K c) (deleteById env k id)
      (fun _ => onVms fun c => ScopeAt conf c₀ b ctx k id c ∧ K c)
      (raised fun c => ScopeAt conf c₀ b ctx k id c ∧ K c) := by
  refine meets_deleteById ?_
  intro c r hc hr hid
  obtain ⟨⟨hs, ho⟩, hk⟩ := hc
  have hown := ho r hr hid
  subst hid
  exact ⟨⟨hs.erase hr hown, ownId_erase ho⟩, hK c hk⟩

/-- `delete` by a query that only selects targets. -/
theorem meets_delete_own {q : Query k} (hq : ∀ r, q r = true → bucketTargets conf c₀ b k r) :
    Keeps (onVms (BucketScope conf c₀ b ctx)) (delete env k q) := by
  refine (meets_deleteWith fun r => ?_).raiseLeft
  refine (meets_deleteById_own conf c₀ b ctx (K := fun _ => True) fun _ _ => trivial).weaken ?_
    (fun _ _ hw => hw.1.1) (fun _ _ hw => ⟨hw.1.1.1, hw.2⟩)
  intro w hw
  exact ⟨⟨hw.1, hw.1.1.ownId hq hw.2⟩, trivial⟩

/-- `delete_many` by a query that only selects targets. -/
theorem meets_deleteMany_own (conf : CosiConf) (c₀ : Cluster) (b : BucketId)
    (ctx : DeleteContext) {q : Query k} {K : Cluster → Prop}
    (hq : ∀ r, q r = true → bucketTargets conf c₀ b k r) (hK : ∀ c id, K c → K (c.erase k id)) :
    Keeps (onVms fun c => BucketScope conf c₀ b ctx c ∧ K c) (deleteMany env k q) := by
  refine .bind (meets_list.raiseLeft) fun rows => ?_
  -- the loop knows of every row it will come to that it is own, if it is there
  have hloop : Keeps (onVms fun c => (BucketScope conf c₀ b ctx c ∧ K c) ∧
        ∀ r ∈ rows, OwnId (ownBucket conf c₀ b ctx) k (rowId k r) c)
      (forEach (fun r => deleteById env k (rowId k r)) rows) := by
    refine .forEach fun r hr => ?_
    refine (meets_deleteById_own conf c₀ b ctx (K := fun c => K c ∧
      ∀ r ∈ rows, OwnId (ownBucket conf c₀ b ctx) k (rowId k r) c) ?_).weaken ?_ ?_ ?_
    · intro c hc
      exact ⟨hK c _ hc.1, fun r' hr' => ownId_erase (hc.2 r' hr')⟩
    · intro w hw
      exact ⟨⟨hw.1.1, hw.2 r hr⟩, hw.1.2, hw.2⟩
    · intro _ w hw
      exact ⟨⟨hw.1.1, hw.2.1⟩, hw.2.2⟩
    · intro _ w hw
      exact ⟨⟨hw.1.1.1, hw.1.2.1⟩, hw.1.2.2⟩
  refine hloop.weaken ?_ (fun _ _ hw => hw.1) (fun _ _ hw => hw.1)
  intro w hw
  refine ⟨hw.1, ?_⟩
  intro r hr
  rw [hw.2] at hr
  obtain ⟨hmem, hqr⟩ := Table.mem_select.mp hr
  exact ownId_of_mem hmem (hw.1.1.1.aim k r hmem (hq r hqr))

/-- What is to be put in the trash is a directory of the bucket. -/
def OwnTrash (c₀ : Cluster) (b : BucketId) (ctx : DeleteContext)
    (trash : Option (String × String)) : Prop :=
  ∀ path tenantId, trash = some (path, tenantId) → tenantId = b.tenantId ∧ OwnPath c₀ b ctx path

theorem meets_deleteBucketView (ht : BucketTargetsOwn conf c₀ b ctx) :
    Meets (onVms (BucketScope conf c₀ b ctx)) (deleteBucketView env b ctx)
      (fun trash w => BucketScope conf c₀ b ctx w.vms ∧ OwnTrash c₀ b ctx trash)
      (fun _ => onVms (BucketScope conf c₀ b ctx)) := by
  refine .bind (meets_one.raiseLeft) fun found => ?_
  cases found with
  | none =>
    refine .pure fun w hw => ⟨hw.1, ?_⟩
    intro path tenantId htrash
    cases hroot : ctx.rootExport with
    | none =>
      rw [hroot] at htrash
      cases htrash
    | some root =>
      rw [hroot, Option.map_some, Option.some.injEq, Prod.mk.injEq] at htrash
      have hname : pathParts b.name ≠ [] := ht.root (by rw [hroot]; simp)
      rw [← htrash.1]
      exact ⟨htrash.2.symm, .inr ⟨hname, root, hroot, rfl⟩⟩
  | some view =>
    refine .assuming (p := view ∈ c₀.table .view ∧ OwnView b view) ?_ fun hview => ?_
    · intro w hw
      obtain ⟨hmem, hb⟩ := hw.2.mem
      exact ⟨hw.1.2 view hmem, hw.1.1.aim .view view hmem (beq_iff_eq.mp hb)⟩
    · obtain ⟨hmem, hown⟩ := hview
      have hrules : Keeps (onVms (ScopeAt conf c₀ b ctx .view view.id))
          (deleteMany env .rule fun r => r.viewId == view.id) := by
        refine meets_deleteMany_own conf c₀ b ctx ?_ ?_
        · intro r hr
          exact ⟨view, hmem, hown.1, (beq_iff_eq.mp hr).symm⟩
        · intro c id ho r hr hid
          rw [erase_table_ne (by decide)] at hr
          exact ho r hr hid
      have hdrop : Meets (onVms (ScopeAt conf c₀ b ctx .view view.id))
          (viewDeleteById env true view.id) (fun _ => onVms (ScopeAt conf c₀ b ctx .view view.id))
          (raised (ScopeAt conf c₀ b ctx .view view.id)) := by
        refine meets_viewDeleteById ?_
        intro c r hc hr hid
        have hr' := hc.2 r hr hid
        rw [← hid]
        exact ⟨hc.1.erase hr hr', ownId_erase (hid ▸ hc.2)⟩
      refine .bind (hrules.weaken ?_ (fun _ _ h => h) (fun _ _ h => h.1)) fun _ => ?_
      · intro w hw
        exact ⟨hw.1, ownId_of_mem hw.2.mem.1 hown⟩
      · refine .bind (hdrop.raise fun _ _ h => h.1.1) fun _ => .pure fun w hw => ⟨hw.1, ?_⟩
        intro path tenantId htrash
        cases htrash
        exact ⟨hown.2, .inl ⟨view, hmem, hown, rfl⟩⟩

theorem meets_deleteBucketFolder (ht : BucketTargetsOwn conf c₀ b ctx)
    {trash : Option (String × String)} (htrash : OwnTrash c₀ b ctx trash) :
    Keeps (onVms (BucketScope conf c₀ b ctx)) (deleteBucketFolder env conf trash) := by
  cases trash with
  | none => exact .ret
  | some place =>
    obtain ⟨path, tenantId⟩ := place
    obtain ⟨htenant, hpath⟩ := htrash path tenantId rfl
    refine (meets_folderDelete (fun c hc => trashUsable_eq hc.1.ver hc.1.trash) ?_).weaken
      (fun _ h => h) (fun _ _ h => h.1) (fun _ _ h => h.1.1)
    intro c hc
    exact ⟨hc.1.removeTree fun d hd => ownBucketDir_of_within ht htenant hpath hd, hc.2⟩

/-- One attempt stays in scope, however it ends. -/
theorem meets_deleteBucket (ht : BucketTargetsOwn conf c₀ b ctx) :
    Keeps (onVms (BucketScope conf c₀ b ctx)) (deleteBucket env conf b ctx) := by
  refine .bind ((meets_ensureSnapshotStreamDeleted (streamSafe_bucket ht)).raiseLeft)
    fun _ => ?_
  refine .bind (meets_delete_own ?_) fun _ => ?_
  · intro r hr
    rw [and_eq_true, beq_iff_eq, beq_iff_eq] at hr
    exact hr
  refine .bind (Q := fun _ => onVms (BucketScope conf c₀ b ctx)) ?_ fun _ => ?_
  · unfold deleteOwner
    split
    next =>
      refine meets_delete_own fun r hr => ?_
      rw [and_eq_true, beq_iff_eq, beq_iff_eq] at hr
      exact hr
    next => exact .ret
  refine .bind (meets_deleteBucketView ht) fun trash => ?_
  refine .assuming (p := OwnTrash c₀ b ctx trash) (fun _ hw => hw.2) fun htrash => ?_
  refine .bind ((meets_deleteBucketFolder ht htrash).preLeft) fun _ => meets_delete_own ?_
  intro r hr
  rw [and_eq_true, beq_iff_eq] at hr
  exact hr

/-- Attempts stay in scope. -/
theorem attempts_scope {bucketId : String} (hb : BucketId.parse bucketId = .ok b)
    (ht : BucketTargetsOwn conf c₀ b ctx) (envs : List Env) :
    ∀ w : World, BucketScope conf c₀ b ctx w.vms →
      BucketScope conf c₀ b ctx (attempts conf bucketId ctx envs w).vms := by
  induction envs with
  | nil =>
    intro w hw
    exact hw
  | cons env envs ih =>
    intro w hw
    refine ih _ ?_
    have hone : driverDeleteBucket env conf bucketId ctx = deleteBucket env conf b ctx := by
      rw [driverDeleteBucket, hb]
    rw [hone]
    exact (meets_deleteBucket ht).endState hw

def shortNames : CosiConf where
  dontUseTrashApi := false
  digest := fun _ => ""

def oneQuota (path : String) : World :=
  { vms := (Cluster.fresh ⟨5, 3, 0⟩).insert .quota ⟨5, path, "1", none⟩ }

/-- The bucket has its view and its quota, and so has another one. -/
def twoBuckets : World where
  vms := ((((Cluster.fresh ⟨5, 3, 0⟩).insert .view
      ⟨1, "/buckets/logs", "1", "", [], some "logs", none⟩).insert .view
      ⟨2, "/data/archive", "1", "", [], some "archive", none⟩).insert .quota
      ⟨5, "/buckets/logs", "1", none⟩).insert .quota ⟨6, "/data/archive", "1", none⟩

end VastCsi.Cosi
